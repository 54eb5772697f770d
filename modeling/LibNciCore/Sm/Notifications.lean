import LibNciCore.Sm.Responses

/-!
# Notifications

What the active transition or the current state does with a notification.
-/

namespace Nci

variable {ι : Type} (E : NciSmIo ι)

/-! ### Common to states and transitions -/

/-- The entries of CORE_CONN_CREDITS_NTF are passed on one after another. -/
def addCreditEntries : Nat → List UInt8 → ι → ι
  | n + 1, cid :: credits :: entries, io =>
      addCreditEntries n entries (E.sarAddCredits cid credits io)
  | _, _, io => io

/-- CORE_CONN_CREDITS_NTF -/
def nciSmHandleConnCreditsNtf (payload : List UInt8) (w : SmWorld ι) : SmWorld ι :=
  match payload with
  | n :: entries =>
      if 2 * n.toNat ≤ entries.length then
        { w with io := addCreditEntries E n.toNat entries w.io }
      else nciSmError E w
  | [] => nciSmError E w

/-- RF_DEACTIVATE_NTF: the state that it names is entered. -/
def nciSmHandleRfDeactivateNtf (payload : List UInt8) (w : SmWorld ι) : SmWorld ι :=
  match (nciParseRfDeactivateNtf payload).map NciRfDeactivateNtf.type with
  | some .idle => nciSmEnterState E .idle none w
  | some .discovery => nciSmEnterState E .discovery none w
  | some .sleep | some .sleepAf | none => nciSmError E w

/-- Handles a notification that nobody else has handled. All others are ignored. -/
def nciDefaultHandleNtf (gid oid : UInt8) (payload : List UInt8) (w : SmWorld ι) : SmWorld ι :=
  if gid = nciGidCore ∧ oid = nciOidCoreConnCredits then nciSmHandleConnCreditsNtf E payload w
  else w

/-! ### Transitions -/

/-- CORE_RESET_NTF is well formed. -/
def isResetNtf (payload : List UInt8) : Bool :=
  5 ≤ payload.length && 5 + (payload.getD 4 0).toNat ≤ payload.length

/-- After CORE_RESET_NTF a controller that speaks version 2 is initialized. -/
def nciTransitionResetHandleNtf (gid oid : UInt8) (payload : List UInt8) (w : SmWorld ι) :
    SmWorld ι :=
  if gid = nciGidCore ∧ oid = nciOidCoreReset ∧ w.sm.version = .v2 ∧ isResetNtf payload then
    (nciSmSendCommand E nciGidCore nciOidCoreInit (some [0x00, 0x00]) .resetInitV2Rsp w).2
  else nciDefaultHandleNtf E gid oid payload w

/-- The transitions that RF_DEACTIVATE_NTF ends. -/
def nciTransitionDeactivateHandleNtf (gid oid : UInt8) (payload : List UInt8) (w : SmWorld ι) :
    SmWorld ι :=
  if gid = nciGidRf ∧ oid = nciOidRfDeactivate then nciSmHandleRfDeactivateNtf E payload w
  else nciDefaultHandleNtf E gid oid payload w

/-- RF_DEACTIVATE_NTF ends the transition if it is the one that is expected. Any other one is
remembered. -/
def nciTransitionListenActiveToIdleHandleNtf (gid oid : UInt8) (payload : List UInt8)
    (w : SmWorld ι) : SmWorld ι :=
  if gid = nciGidRf ∧ oid = nciOidRfDeactivate then
    match nciParseRfDeactivateNtf payload with
    | some ntf =>
        if w.sm.expectingNtf ∧ ntf.type = .idle ∧ ntf.reason = nciDeactivationReasonDhRequest then
          nciTransitionFinish E .listenActiveToIdle w
        else w.map fun self => { self with ntf := some ntf }
    | none => nciSmError E w
  else nciDefaultHandleNtf E gid oid payload w

def nciTransitionHandleNtf (transition : NciTransition) (gid oid : UInt8) (payload : List UInt8)
    (w : SmWorld ι) : SmWorld ι :=
  match transition with
  | .reset => nciTransitionResetHandleNtf E gid oid payload w
  | .deactivateToDiscovery | .pollActiveToIdle =>
      nciTransitionDeactivateHandleNtf E gid oid payload w
  | .listenActiveToIdle => nciTransitionListenActiveToIdleHandleNtf E gid oid payload w
  | .idleToDiscovery | .deactivateToIdle => nciDefaultHandleNtf E gid oid payload w

/-! ### RFST_DISCOVERY and RFST_W4_ALL_DISCOVERIES -/

/-- RF_INTF_ACTIVATED_NTF as it is parsed. -/
def parseIntfActivated (payload : List UInt8) : Option NciIntfActivationNtf :=
  (nciParseIntfActivatedNtf 0 payload.length).value (memory payload)

/-- RF_DISCOVER_NTF as it is parsed. -/
def parseDiscover (payload : List UInt8) : Option NciDiscoveryNtf :=
  (nciParseDiscoverNtf true 0 payload.length).value (memory payload)

/-- The mode of an activation. If the notification makes no sense, it is that of byte zero. -/
def activationMode (ntf : Option NciIntfActivationNtf) : NciMode :=
  (ntf.map NciIntfActivationNtf.mode).getD .passivePollA

/-- RF_INTF_ACTIVATED_NTF in RFST_DISCOVERY. -/
def nciStateDiscoveryIntfActivatedNtf (payload : List UInt8) (w : SmWorld ι) : SmWorld ι :=
  let ntf := parseIntfActivated payload
  let state := if nciListenMode (activationMode ntf) then .listenActive else .pollActive
  let w := nciSmEnterState E state none w
  match ntf with
  | some ntf => nciSmIntfActivated E ntf w
  | none => nciSmSwitchTo E .idle w

/-- RF_DISCOVER_NTF in RFST_DISCOVERY. -/
def nciStateDiscoveryDiscoverNtf (payload : List UInt8) (w : SmWorld ι) : SmWorld ι :=
  match parseDiscover payload with
  | some ntf => nciSmEnterState E .w4AllDiscoveries (some (.w4AllDiscoveries ntf)) w
  | none => w

/-- CORE_GENERIC_ERROR_NTF changes nothing in RFST_DISCOVERY, nor does it anywhere else but in
RFST_W4_HOST_SELECT. -/
def nciStateDiscoveryHandleNtf (gid oid : UInt8) (payload : List UInt8) (w : SmWorld ι) :
    SmWorld ι :=
  if gid = nciGidRf ∧ oid = nciOidRfDiscover then nciStateDiscoveryDiscoverNtf E payload w
  else if gid = nciGidRf ∧ oid = nciOidRfIntfActivated then
    nciStateDiscoveryIntfActivatedNtf E payload w
  else nciDefaultHandleNtf E gid oid payload w

/-- RF_DISCOVER_NTF in RFST_W4_ALL_DISCOVERIES. -/
def nciStateW4AllDiscoveriesDiscoverNtf (payload : List UInt8) (w : SmWorld ι) : SmWorld ι :=
  match parseDiscover payload with
  | some ntf => nciStateW4AllDiscoveriesHandleDiscovery E ntf w
  | none => w

def nciStateW4AllDiscoveriesHandleNtf (gid oid : UInt8) (payload : List UInt8) (w : SmWorld ι) :
    SmWorld ι :=
  if gid = nciGidRf ∧ oid = nciOidRfDiscover then nciStateW4AllDiscoveriesDiscoverNtf E payload w
  else nciDefaultHandleNtf E gid oid payload w

/-! ### RFST_W4_HOST_SELECT -/

/-- RF_INTF_ACTIVATED_NTF in RFST_W4_HOST_SELECT. -/
def nciStateW4HostSelectHandleIntfActivatedNtf (payload : List UInt8) (w : SmWorld ι) :
    SmWorld ι :=
  match parseIntfActivated payload with
  | some ntf => nciSmIntfActivated E ntf (nciSmEnterState E .pollActive none w)
  | none => nciSmSwitchTo E .discovery (nciSmEnterState E .pollActive none w)

/-- The target could not be activated: the discovery goes on. -/
def nciStateW4HostSelectHandleNtf (gid oid : UInt8) (payload : List UInt8) (w : SmWorld ι) :
    SmWorld ι :=
  if gid = nciGidCore ∧ oid = nciOidCoreGenericError
      ∧ payload = [nciDiscoveryTargetActivationFailed] then
    nciSmSwitchTo E .discovery w
  else if gid = nciGidRf ∧ oid = nciOidRfIntfActivated then
    nciStateW4HostSelectHandleIntfActivatedNtf E payload w
  else nciDefaultHandleNtf E gid oid payload w

/-! ### The active states -/

/-- CORE_INTERFACE_ERROR_NTF tells that the endpoint is lost. -/
def isInterfaceErrorNtf (payload : List UInt8) : Bool :=
  payload.length == 2
    && [nciStatusSyntaxError, nciRfTransmissionError, nciRfProtocolError,
        nciRfTimeoutError].contains
      (payload.getD 0 0)

def nciStatePollActiveHandleNtf (gid oid : UInt8) (payload : List UInt8) (w : SmWorld ι) :
    SmWorld ι :=
  if gid = nciGidCore ∧ oid = nciOidCoreInterfaceError ∧ isInterfaceErrorNtf payload then
    nciSmSwitchTo E .discovery w
  else if gid = nciGidRf ∧ oid = nciOidRfDeactivate then nciSmHandleRfDeactivateNtf E payload w
  else nciDefaultHandleNtf E gid oid payload w

/-- RF_DEACTIVATE_NTF in RFST_LISTEN_ACTIVE. -/
def nciStateListenActiveRfDeactivateNtf (payload : List UInt8) (w : SmWorld ι) : SmWorld ι :=
  match (nciParseRfDeactivateNtf payload).map NciRfDeactivateNtf.type with
  | some .sleep | some .sleepAf => nciSmEnterState E .listenSleep none w
  | some .discovery => nciSmEnterState E .discovery none w
  | some .idle | none => nciSmError E w

def nciStateListenActiveHandleNtf (gid oid : UInt8) (payload : List UInt8) (w : SmWorld ι) :
    SmWorld ι :=
  if gid = nciGidCore ∧ oid = nciOidCoreInterfaceError ∧ isInterfaceErrorNtf payload then
    nciSmSwitchTo E .discovery w
  else if gid = nciGidRf ∧ oid = nciOidRfDeactivate then
    nciStateListenActiveRfDeactivateNtf E payload w
  else nciDefaultHandleNtf E gid oid payload w

/-- RF_INTF_ACTIVATED_NTF in RFST_LISTEN_SLEEP. -/
def nciStateListenSleepIntfActivatedNtf (payload : List UInt8) (w : SmWorld ι) : SmWorld ι :=
  match parseIntfActivated payload with
  | some ntf =>
      if nciListenMode ntf.mode then
        nciSmIntfActivated E ntf (nciSmEnterState E .listenActive none w)
      else nciSmError E w
  | none => nciSmError E w

/-- RF_DEACTIVATE_NTF in RFST_LISTEN_SLEEP. -/
def nciStateListenSleepRfDeactivateNtf (payload : List UInt8) (w : SmWorld ι) : SmWorld ι :=
  match (nciParseRfDeactivateNtf payload).map NciRfDeactivateNtf.type with
  | some .discovery => nciSmEnterState E .discovery none w
  | some .sleepAf | some .sleep | some .idle | none => nciSmError E w

def nciStateListenSleepHandleNtf (gid oid : UInt8) (payload : List UInt8) (w : SmWorld ι) :
    SmWorld ι :=
  if gid = nciGidRf ∧ oid = nciOidRfIntfActivated then
    nciStateListenSleepIntfActivatedNtf E payload w
  else if gid = nciGidRf ∧ oid = nciOidRfDeactivate then
    nciStateListenSleepRfDeactivateNtf E payload w
  else nciDefaultHandleNtf E gid oid payload w

/-! ### Dispatching -/

def nciStateHandleNtf (state : NciState) (gid oid : UInt8) (payload : List UInt8) (w : SmWorld ι) :
    SmWorld ι :=
  match state with
  | .discovery => nciStateDiscoveryHandleNtf E gid oid payload w
  | .w4AllDiscoveries => nciStateW4AllDiscoveriesHandleNtf E gid oid payload w
  | .w4HostSelect => nciStateW4HostSelectHandleNtf E gid oid payload w
  | .pollActive => nciStatePollActiveHandleNtf E gid oid payload w
  | .listenActive => nciStateListenActiveHandleNtf E gid oid payload w
  | .listenSleep => nciStateListenSleepHandleNtf E gid oid payload w
  | .init | .error | .stop | .idle => nciDefaultHandleNtf E gid oid payload w

/-- A notification goes to the active transition, and if there is none, to the current state. -/
def nciSmHandleNtf (gid oid : UInt8) (payload : List UInt8) (w : SmWorld ι) : SmWorld ι :=
  match w.sm.activeTransition with
  | some transition => nciTransitionHandleNtf E transition gid oid payload w
  | none => nciStateHandleNtf E w.sm.lastState gid oid payload w

end Nci
