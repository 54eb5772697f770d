import LibNciCore.Sm.Machine
import LibNciCore.Sm.Configure

/-!
# Responses

What the transitions do when the controller answers a command, or does not.
-/

namespace Nci

variable {ι : Type} (E : NciSmIo ι)

/-! ### Common to all transitions -/

/-- Finishes a transition, if it is active. -/
def nciTransitionFinish (transition : NciTransition) (w : SmWorld ι) : SmWorld ι :=
  if w.sm.activeTransition = some transition then nciSmEnterState E transition.dest none w else w

/-- The shape that the response functions of transitions share: nothing is done for a request
that was cancelled or a transition that is not active any more, a timeout is an error, and a
response is handled by `received`. -/
def nciTransitionRsp (transition : NciTransition) (received : SmWorld ι → SmWorld ι)
    (status : NciRequestStatus) (w : SmWorld ι) : SmWorld ι :=
  if status = .cancelled ∨ w.sm.activeTransition ≠ some transition then w
  else if status = .timeout then nciSmError E w
  else received w

/-- The response starts with the status of a request that was successful. -/
def startsWithOk (payload : List UInt8) : Bool := payload.head? == some nciStatusOk

/-! ### The reset transition -/

/-- Handles CORE_SET_CONFIG_RSP. Errors are ignored. -/
def nciTransitionResetSetConfigRsp (status : NciRequestStatus) (_payload : List UInt8)
    (w : SmWorld ι) : SmWorld ι :=
  nciTransitionRsp E .reset (nciTransitionFinish E .reset) status w

/-- CORE_SET_CONFIG_CMD -/
def nciTransitionResetSetConfig (w : SmWorld ι) : SmWorld ι :=
  (nciSmSendCommand E nciGidCore nciOidCoreSetConfig (some (nciTransitionResetSetConfigCmd w.sm))
    .resetSetConfigRsp w).2

/-- What CORE_INIT_RSP tells about the controller. -/
structure CoreInitRsp where
  rfInterfaces : Option (List UInt8)
  nfccDiscovery : UInt8
  nfccRouting : UInt8
  nfccPower : UInt8
  maxRoutingTableSize : Nat
  maxLogicalConns : UInt8
  maxControlPayload : UInt8
  deriving DecidableEq, Repr

/-- CORE_INIT_RSP of version 1. -/
def parseInitV1Rsp (pkt : List UInt8) : Option CoreInitRsp :=
  let n := (pkt.getD 5 0).toNat
  if 17 ≤ pkt.length ∧ pkt.getD 0 0 = nciStatusOk ∧ pkt.length = n + 17 then
    some
      { rfInterfaces := if 0 < n then some ((pkt.drop 6).take n) else none
        nfccDiscovery := pkt.getD 1 0
        nfccRouting := pkt.getD 2 0
        nfccPower := pkt.getD 3 0
        maxRoutingTableSize := (pkt.getD (8 + n) 0).toNat * 256 + (pkt.getD (7 + n) 0).toNat
        maxLogicalConns := pkt.getD (6 + n) 0
        maxControlPayload := pkt.getD (9 + n) 0 }
  else none

/-- The interfaces of CORE_INIT_RSP of version 2, each of which comes with its extensions. -/
def parseRfInterfaces : Nat → List UInt8 → List UInt8
  | n + 1, interface :: extensions :: rest =>
      if extensions.toNat ≤ rest.length then
        interface :: parseRfInterfaces n (rest.drop extensions.toNat)
      else []
  | _, _ => []

/-- CORE_INIT_RSP of version 2. -/
def parseInitV2Rsp (pkt : List UInt8) : Option CoreInitRsp :=
  let n := (pkt.getD 13 0).toNat
  if 14 ≤ pkt.length ∧ pkt.getD 0 0 = nciStatusOk ∧ 2 * n + 14 ≤ pkt.length then
    some
      { rfInterfaces := if 0 < n then some (parseRfInterfaces n (pkt.drop 14)) else none
        nfccDiscovery := pkt.getD 1 0
        nfccRouting := pkt.getD 2 0
        nfccPower := pkt.getD 3 0
        maxRoutingTableSize := (pkt.getD 7 0).toNat * 256 + (pkt.getD 6 0).toNat
        maxLogicalConns := pkt.getD 5 0
        maxControlPayload := pkt.getD 8 0 }
  else none

/-- What the response tells is remembered, the layer below gets its limits, and the controller
is configured. -/
def nciTransitionResetInitialized (rsp : CoreInitRsp) (w : SmWorld ι) : SmWorld ι :=
  let w := w.map fun self =>
    { self with
      rfInterfaces := rsp.rfInterfaces
      nfccDiscovery := rsp.nfccDiscovery
      nfccRouting := rsp.nfccRouting
      nfccPower := rsp.nfccPower
      maxRoutingTableSize := rsp.maxRoutingTableSize }
  let w := E.sarSetMaxLogicalConnections rsp.maxLogicalConns w
  let io := E.sarSetMaxControlPayloadSize rsp.maxControlPayload w.io
  nciTransitionResetSetConfig E { w with io := E.sarSetMaxDataPayloadSize 0 io }

/-- Handles CORE_INIT_RSP, given how it is parsed. -/
def nciTransitionResetInitRsp (rsp : Option CoreInitRsp) (w : SmWorld ι) : SmWorld ι :=
  match rsp with
  | some rsp => nciTransitionResetInitialized E rsp w
  | none => nciSmError E w

def nciTransitionResetInitV1Rsp (status : NciRequestStatus) (payload : List UInt8)
    (w : SmWorld ι) : SmWorld ι :=
  nciTransitionRsp E .reset (nciTransitionResetInitRsp E (parseInitV1Rsp payload)) status w

def nciTransitionResetInitV2Rsp (status : NciRequestStatus) (payload : List UInt8)
    (w : SmWorld ι) : SmWorld ι :=
  nciTransitionRsp E .reset (nciTransitionResetInitRsp E (parseInitV2Rsp payload)) status w

/-- Handles CORE_RESET_RSP, whose length tells the version. With version 2 a notification is to
follow. -/
def nciTransitionResetRsp (status : NciRequestStatus) (payload : List UInt8) (w : SmWorld ι) :
    SmWorld ι :=
  nciTransitionRsp E .reset
    (fun w =>
      if payload.length = 3 then
        let w := w.map fun self => { self with version := .v1 }
        if startsWithOk payload then
          (nciSmSendCommand E nciGidCore nciOidCoreInit none .resetInitV1Rsp w).2
        else nciSmError E w
      else if payload.length = 1 then
        let w := w.map fun self => { self with version := .v2 }
        if startsWithOk payload then w else nciSmError E w
      else nciSmError E w)
    status w

/-! ### The transition from RFST_IDLE to RFST_DISCOVERY -/

/-- Handles RF_DISCOVER_RSP. -/
def nciTransitionIdleToDiscoveryDiscoverRsp (status : NciRequestStatus) (payload : List UInt8)
    (w : SmWorld ι) : SmWorld ι :=
  nciTransitionRsp E .idleToDiscovery
    (fun w =>
      if startsWithOk payload then nciTransitionFinish E .idleToDiscovery w else nciSmError E w)
    status w

/-- RF_DISCOVER_CMD -/
def nciTransitionIdleToDiscoveryDiscover (w : SmWorld ι) : SmWorld ι :=
  (nciSmSendCommand E nciGidRf nciOidRfDiscover
    (some (nciTransitionIdleToDiscoveryDiscoverCmd w.sm)) .idleToDiscoveryDiscoverRsp w).2

/-- Handles RF_DISCOVER_MAP_RSP. -/
def nciTransitionIdleToDiscoverMapRsp (status : NciRequestStatus) (payload : List UInt8)
    (w : SmWorld ι) : SmWorld ι :=
  nciTransitionRsp E .idleToDiscovery
    (fun w =>
      if startsWithOk payload then nciTransitionIdleToDiscoveryDiscover E w else nciSmError E w)
    status w

/-- RF_DISCOVER_MAP_CMD -/
def nciTransitionIdleToDiscoverMap (w : SmWorld ι) : SmWorld ι :=
  (nciSmSendCommand E nciGidRf nciOidRfDiscoverMap
    (some (nciTransitionIdleToDiscoverMapCmd w.sm)) .idleToDiscoverMapRsp w).2

/-- RF_SET_LISTEN_MODE_ROUTING_CMD -/
def nciTransitionIdleToDiscoverySetRouting (addRoutingEntries : NciSm → List UInt8 → List UInt8)
    (rsp : NciSmResponseFunc) (w : SmWorld ι) : SmWorld ι :=
  (nciSmSendCommand E nciGidRf nciOidRfSetListenModeRouting
    (some (nciTransitionIdleToDiscoverySetRoutingCmd w.sm addRoutingEntries)) rsp w).2

/-- Handles the response to the last attempt to set the routing. Errors are ignored. -/
def nciTransitionIdleToDiscoveryLastSetRoutingRsp (status : NciRequestStatus)
    (_payload : List UInt8) (w : SmWorld ι) : SmWorld ι :=
  nciTransitionRsp E .idleToDiscovery (nciTransitionIdleToDiscoverMap E) status w

def nciTransitionIdleToDiscoverySetTechRoutingRsp (status : NciRequestStatus)
    (payload : List UInt8) (w : SmWorld ι) : SmWorld ι :=
  nciTransitionIdleToDiscoveryLastSetRoutingRsp E status payload w

def nciTransitionIdleToDiscoveryLastProtocolRoutingRsp (status : NciRequestStatus)
    (payload : List UInt8) (w : SmWorld ι) : SmWorld ι :=
  nciTransitionIdleToDiscoveryLastSetRoutingRsp E status payload w

/-- Handles the response to protocol based routing. After an error routing is based on the
technology. -/
def nciTransitionIdleToDiscoverySetProtocolRoutingRsp (status : NciRequestStatus)
    (payload : List UInt8) (w : SmWorld ι) : SmWorld ι :=
  nciTransitionRsp E .idleToDiscovery
    (fun w =>
      if startsWithOk payload then nciTransitionIdleToDiscoverMap E w
      else
        nciTransitionIdleToDiscoverySetRouting E nciTransitionIdleToDiscoveryTechRoutingEntries
          .idleToDiscoverySetTechRoutingRsp w)
    status w

/-- Handles the response to mixed routing. After an error routing is based on the protocol. -/
def nciTransitionIdleToDiscoverySetMixedRoutingRsp (status : NciRequestStatus)
    (payload : List UInt8) (w : SmWorld ι) : SmWorld ι :=
  nciTransitionRsp E .idleToDiscovery
    (fun w =>
      if startsWithOk payload then nciTransitionIdleToDiscoverMap E w
      else
        nciTransitionIdleToDiscoverySetRouting E nciTransitionIdleToDiscoveryProtocolRoutingEntries
          .idleToDiscoverySetProtocolRoutingRsp w)
    status w

/-- The machine is to listen, and the controller has a routing table. -/
def NciSm.listens (self : NciSm) : Bool :=
  self.maxRoutingTableSize != 0 && (self.opMode &&& nfcOpModeCe != 0 || self.peerListen)

/-- Configures the routing, if there is any. -/
def nciTransitionIdleToDiscoveryConfigureRouting (w : SmWorld ι) : SmWorld ι :=
  let routing :=
    w.sm.nfccRouting &&& (nciNfccRoutingProtocolBased ||| nciNfccRoutingTechnologyBased)
  if w.sm.listens then
    if routing = nciNfccRoutingProtocolBased ||| nciNfccRoutingTechnologyBased then
      nciTransitionIdleToDiscoverySetRouting E nciTransitionIdleToDiscoveryMixedRoutingEntries
        .idleToDiscoverySetMixedRoutingRsp w
    else if routing = nciNfccRoutingProtocolBased then
      nciTransitionIdleToDiscoverySetRouting E nciTransitionIdleToDiscoveryProtocolRoutingEntries
        .idleToDiscoveryLastProtocolRoutingRsp w
    else if routing = nciNfccRoutingTechnologyBased then
      nciTransitionIdleToDiscoverySetRouting E nciTransitionIdleToDiscoveryTechRoutingEntries
        .idleToDiscoverySetTechRoutingRsp w
    else nciTransitionIdleToDiscoverMap E w
  else nciTransitionIdleToDiscoverMap E w

/-- Handles CORE_SET_CONFIG_RSP. Errors are ignored. -/
def nciTransitionIdleToDiscoverySetConfigRsp (status : NciRequestStatus) (_payload : List UInt8)
    (w : SmWorld ι) : SmWorld ι :=
  nciTransitionRsp E .idleToDiscovery (nciTransitionIdleToDiscoveryConfigureRouting E) status w

/-- CORE_SET_CONFIG_CMD -/
def nciTransitionIdleToDiscoverySetConfig (setConfig : CoreSetConfigFlags) (values : ConfigValues)
    (w : SmWorld ι) : SmWorld ι :=
  (nciSmSendCommand E nciGidCore nciOidCoreSetConfig
    (some (nciTransitionIdleToDiscoverySetConfigCmd setConfig values))
    .idleToDiscoverySetConfigRsp w).2

/-- Handles CORE_GET_CONFIG_RSP: parameters that are not as they should be are set. -/
def nciTransitionIdleToDiscoveryGetConfigRsp (status : NciRequestStatus) (payload : List UInt8)
    (w : SmWorld ι) : SmWorld ι :=
  nciTransitionRsp E .idleToDiscovery
    (fun w =>
      let r := nciTransitionIdleToDiscoveryCheckConfig w.sm payload
      if r.1.any then nciTransitionIdleToDiscoverySetConfig E r.1 r.2 w
      else nciTransitionIdleToDiscoveryConfigureRouting E w)
    status w

/-! ### Deactivation -/

/-- Handles RF_DEACTIVATE_RSP. -/
def nciTransitionDeactivateToIdleRsp (status : NciRequestStatus) (payload : List UInt8)
    (w : SmWorld ι) : SmWorld ι :=
  nciTransitionRsp E .deactivateToIdle
    (fun w =>
      if startsWithOk payload then nciTransitionFinish E .deactivateToIdle w else nciSmError E w)
    status w

/-- Handles the response to RF_DEACTIVATE_CMD (Idle), which was sent because the controller has
not accepted RF_DEACTIVATE_CMD (Discovery). -/
def nciTransitionDeactivateToDiscoveryIdleRsp (status : NciRequestStatus) (payload : List UInt8)
    (w : SmWorld ι) : SmWorld ι :=
  nciTransitionRsp E .deactivateToDiscovery
    (fun w => if payload = [nciStatusOk] then nciSmEnterState E .idle none w else nciSmError E w)
    status w

/-- Handles RF_DEACTIVATE_RSP. A notification is to follow. -/
def nciTransitionDeactivateToDiscoveryRsp (status : NciRequestStatus) (payload : List UInt8)
    (w : SmWorld ι) : SmWorld ι :=
  nciTransitionRsp E .deactivateToDiscovery
    (fun w =>
      if payload = [nciStatusOk] then w
      else (nciTransitionDeactivateToIdle E .deactivateToDiscoveryIdleRsp w).2)
    status w

/-- Handles RF_DEACTIVATE_RSP. A notification is to follow. -/
def nciTransitionPollActiveToIdleRsp (status : NciRequestStatus) (payload : List UInt8)
    (w : SmWorld ι) : SmWorld ι :=
  nciTransitionRsp E .pollActiveToIdle
    (fun w => if payload = [nciStatusOk] then w else nciSmError E w)
    status w

/-- Handles RF_DEACTIVATE_RSP. A notification is to follow, unless there was one already. -/
def nciTransitionListenActiveToIdleRsp (status : NciRequestStatus) (payload : List UInt8)
    (w : SmWorld ι) : SmWorld ι :=
  nciTransitionRsp E .listenActiveToIdle
    (fun w =>
      if payload = [nciStatusOk] then
        if w.sm.ntf.isSome then nciTransitionFinish E .listenActiveToIdle w
        else w.map fun self => { self with expectingNtf := true }
      else nciSmError E w)
    status w

/-! ### Response functions -/

/-- Handles RF_DISCOVER_SELECT_RSP, which is only logged. -/
def nciStateW4HostSelectRsp (_status : NciRequestStatus) (_payload : List UInt8) (w : SmWorld ι) :
    SmWorld ι :=
  w

/-- The response function is called. -/
def NciSmResponseFunc.call (resp : NciSmResponseFunc) (status : NciRequestStatus)
    (payload : List UInt8) (w : SmWorld ι) : SmWorld ι :=
  match resp with
  | .resetRsp => nciTransitionResetRsp E status payload w
  | .resetInitV1Rsp => nciTransitionResetInitV1Rsp E status payload w
  | .resetInitV2Rsp => nciTransitionResetInitV2Rsp E status payload w
  | .resetSetConfigRsp => nciTransitionResetSetConfigRsp E status payload w
  | .idleToDiscoveryGetConfigRsp => nciTransitionIdleToDiscoveryGetConfigRsp E status payload w
  | .idleToDiscoverySetConfigRsp => nciTransitionIdleToDiscoverySetConfigRsp E status payload w
  | .idleToDiscoverySetMixedRoutingRsp =>
      nciTransitionIdleToDiscoverySetMixedRoutingRsp E status payload w
  | .idleToDiscoverySetProtocolRoutingRsp =>
      nciTransitionIdleToDiscoverySetProtocolRoutingRsp E status payload w
  | .idleToDiscoveryLastProtocolRoutingRsp =>
      nciTransitionIdleToDiscoveryLastProtocolRoutingRsp E status payload w
  | .idleToDiscoverySetTechRoutingRsp =>
      nciTransitionIdleToDiscoverySetTechRoutingRsp E status payload w
  | .idleToDiscoverMapRsp => nciTransitionIdleToDiscoverMapRsp E status payload w
  | .idleToDiscoveryDiscoverRsp => nciTransitionIdleToDiscoveryDiscoverRsp E status payload w
  | .deactivateToIdleRsp => nciTransitionDeactivateToIdleRsp E status payload w
  | .deactivateToDiscoveryRsp => nciTransitionDeactivateToDiscoveryRsp E status payload w
  | .deactivateToDiscoveryIdleRsp => nciTransitionDeactivateToDiscoveryIdleRsp E status payload w
  | .pollActiveToIdleRsp => nciTransitionPollActiveToIdleRsp E status payload w
  | .listenActiveToIdleRsp => nciTransitionListenActiveToIdleRsp E status payload w
  | .w4HostSelectRsp => nciStateW4HostSelectRsp status payload w

/-- The transition that a response function belongs to. That of RFST_W4_HOST_SELECT belongs to
none. -/
def NciSmResponseFunc.transition : NciSmResponseFunc → Option NciTransition
  | .resetRsp | .resetInitV1Rsp | .resetInitV2Rsp | .resetSetConfigRsp => some .reset
  | .idleToDiscoveryGetConfigRsp | .idleToDiscoverySetConfigRsp
  | .idleToDiscoverySetMixedRoutingRsp | .idleToDiscoverySetProtocolRoutingRsp
  | .idleToDiscoveryLastProtocolRoutingRsp | .idleToDiscoverySetTechRoutingRsp
  | .idleToDiscoverMapRsp | .idleToDiscoveryDiscoverRsp => some .idleToDiscovery
  | .deactivateToIdleRsp => some .deactivateToIdle
  | .deactivateToDiscoveryRsp | .deactivateToDiscoveryIdleRsp => some .deactivateToDiscovery
  | .pollActiveToIdleRsp => some .pollActiveToIdle
  | .listenActiveToIdleRsp => some .listenActiveToIdle
  | .w4HostSelectRsp => none

/-- A response function does nothing unless its transition is active. -/
theorem NciSmResponseFunc.call_inactive {resp : NciSmResponseFunc} {w : SmWorld ι}
    (h : ∀ t, resp.transition = some t → w.sm.activeTransition ≠ some t)
    (status : NciRequestStatus) (payload : List UInt8) :
  resp.call E status payload w = w
  := by
  cases resp
  case w4HostSelectRsp => rfl
  all_goals exact if_pos (Or.inr (h _ rfl))

/-- A response function does nothing when its request is cancelled. -/
theorem NciSmResponseFunc.call_cancelled (resp : NciSmResponseFunc) (payload : List UInt8)
    (w : SmWorld ι) :
  resp.call E .cancelled payload w = w
  := by cases resp <;> rfl

end Nci
