import LibNciCore.Sm.Steps
import LibNciCore.Sar.Interface
import LibNciCore.Sar.Clearing
import Mathlib.Data.List.Infix

/-!
# The handshake of the reset transition

After CORE_RESET_RSP the machine knows which version the controller speaks. With version 2 it
waits for CORE_RESET_NTF, which may come more than once, then it initializes the controller and
remembers what CORE_INIT_RSP tells, and at last the controller is configured. When RFST_IDLE is
entered, the machine and the layer below it have what the last CORE_INIT_RSP has told.
-/

namespace Nci

/-! ### What CORE_INIT_RSP tells -/

/-- What the machine knows about the controller. -/
structure NciCapabilities where
  version : NciInterfaceVersion
  rfInterfaces : Option (List UInt8)
  nfccDiscovery : UInt8
  nfccRouting : UInt8
  nfccPower : UInt8
  maxRoutingTableSize : Nat

def NciSm.capabilities (self : NciSm) : NciCapabilities where
  version := self.version
  rfInterfaces := self.rfInterfaces
  nfccDiscovery := self.nfccDiscovery
  nfccRouting := self.nfccRouting
  nfccPower := self.nfccPower
  maxRoutingTableSize := self.maxRoutingTableSize

/-- What CORE_INIT_RSP of a version tells the machine. -/
def CoreInitRsp.capabilities (version : NciInterfaceVersion) (rsp : CoreInitRsp) :
    NciCapabilities where
  version := version
  rfInterfaces := rsp.rfInterfaces
  nfccDiscovery := rsp.nfccDiscovery
  nfccRouting := rsp.nfccRouting
  nfccPower := rsp.nfccPower
  maxRoutingTableSize := rsp.maxRoutingTableSize

/-- The number of connections and the payload limit of control messages. -/
structure SarLimits where
  maxLogicalConns : UInt8
  controlPayloadLimit : UInt8

def NciSar.limits (self : NciSar) : SarLimits := ⟨self.maxLogicalConns, self.controlPayloadLimit⟩

/-- What CORE_INIT_RSP tells the layer below: no connections stand for the default, and the
payload limit is raised to the least one. -/
def CoreInitRsp.limits (rsp : CoreInitRsp) : SarLimits where
  maxLogicalConns := newMaxLogicalConns rsp.maxLogicalConns
  controlPayloadLimit :=
    if rsp.maxControlPayload < sarMinControlPayloadLimit then sarMinControlPayloadLimit
    else rsp.maxControlPayload

/-- The layer below is called. -/
def SarCall.perform {ε : Type} (E : SarEnv ε) (fuel : Nat) (w : World ε) : SarCall → World ε
  | .setMaxLogicalConnections max => nciSarSetMaxLogicalConnections E fuel max w
  | .setMaxControlPayloadSize max => w.map fun self => nciSarSetMaxControlPayloadSize self max
  | .setMaxDataPayloadSize max => w.map fun self => nciSarSetMaxDataPayloadSize self max
  | .setInitialCredits cid credits => w.map fun self => nciSarSetInitialCredits self cid credits
  | .addCredits cid credits => w.map fun self => nciSarAddCredits self cid credits

/-- The calls of the layer below. -/
def SmHistory.sarCalls (history : SmHistory) : List SarCall :=
  history.filterMap fun a => match a with
    | .sar c => some c
    | _ => none

section Limits

variable {ε : Type} (E : SarEnv ε) (fuel : Nat)

theorem limits_setMaxLogicalConnections (max : UInt8) (w : World ε) :
  (nciSarSetMaxLogicalConnections E fuel max w).sar.maxLogicalConns
    = newMaxLogicalConns max
  := by
  unfold nciSarSetMaxLogicalConnections newMaxLogicalConns
  dsimp only
  generalize (if max = 0 then sarDefaultMaxLogicalConnections else max) = m
  split
  · rfl
  · split
    · rfl
    · rename_i hle hge
      exact UInt8.le_antisymm (UInt8.not_lt.mp hge) (UInt8.not_lt.mp hle)

/-- Calls that do not set the limits of CORE_INIT_RSP. -/
theorem limits_perform_minor {c : SarCall} (h : c.isMinor = true) (w : World ε) :
  (c.perform E fuel w).sar.limits = w.sar.limits
  := by
  cases c
  case setMaxLogicalConnections => cases h
  case setMaxControlPayloadSize => cases h
  case setMaxDataPayloadSize max => rfl
  case setInitialCredits cid credits =>
    rw [SarCall.perform, World.map, nciSarSetInitialCredits]
    split <;> rfl
  case addCredits cid credits =>
    rw [SarCall.perform, World.map, nciSarAddCredits]
    split
    · unfold nciSarTakeCredits
      split
      · dsimp only
        split
        · unfold nciSarScheduleWrite
          split <;> rfl
        · rfl
      · rfl
    · rfl

/-- Calls that do not set the number of connections. -/
theorem limits_perform_later {rsp : CoreInitRsp} {calls : List SarCall}
    (h : ∀ c ∈ calls, c.isMinor = true ∨ c = .setMaxControlPayloadSize rsp.maxControlPayload)
    (w : World ε) :
  (calls.foldl (SarCall.perform E fuel) w).sar.limits
    = ⟨w.sar.maxLogicalConns,
        if .setMaxControlPayloadSize rsp.maxControlPayload ∈ calls then
          rsp.limits.controlPayloadLimit
        else w.sar.controlPayloadLimit⟩
  := by
  induction calls generalizing w with
  | nil => rfl
  | cons c calls ih =>
      rw [List.foldl_cons, ih fun c hc => h c (List.mem_cons_of_mem _ hc)]
      obtain hminor | rfl := h c List.mem_cons_self
      · have hlimits := limits_perform_minor E fuel hminor w
        have hconns := congrArg SarLimits.maxLogicalConns hlimits
        have hlimit := congrArg SarLimits.controlPayloadLimit hlimits
        have hne : SarCall.setMaxControlPayloadSize rsp.maxControlPayload ≠ c := by
          rintro rfl
          cases hminor
        simp only [List.mem_cons, hne, false_or]
        exact congrArg₂ (fun max limit => (⟨max, ite _ _ limit⟩ : SarLimits)) hconns hlimit
      · rw [if_pos List.mem_cons_self]
        congr 1
        split <;> rfl

/-- The limits are those of CORE_INIT_RSP, unless they have been set again. -/
theorem limits_perform (rsp : CoreInitRsp) (earlier : List SarCall) {later : List SarCall}
    (h : ∀ c ∈ later, c.isMinor = true ∨ c = .setMaxControlPayloadSize rsp.maxControlPayload)
    (hcontrol : .setMaxControlPayloadSize rsp.maxControlPayload ∈ later) (w : World ε) :
  ((earlier ++ .setMaxLogicalConnections rsp.maxLogicalConns :: later).foldl
      (SarCall.perform E fuel) w).sar.limits = rsp.limits
  := by
  rw [List.foldl_append, List.foldl_cons, limits_perform_later E fuel h, if_pos hcontrol]
  generalize earlier.foldl (SarCall.perform E fuel) w = w'
  have hconns := limits_setMaxLogicalConnections E fuel rsp.maxLogicalConns w'
  exact congrArg (fun max => (⟨max, rsp.limits.controlPayloadLimit⟩ : SarLimits)) hconns

end Limits

/-! ### What is received -/

/-- The messages of the reset transition that are as they should be. -/
inductive ResetMessage where
  | resetRsp (version : NciInterfaceVersion)
  | resetNtf
  | initRsp (version : NciInterfaceVersion) (rsp : CoreInitRsp)
  | setConfigRsp
  deriving DecidableEq

/-- The messages that initialize a controller of some version, and what CORE_INIT_RSP tells. -/
inductive Initializes : NciInterfaceVersion → CoreInitRsp → List ResetMessage → Prop
  | v1 (rsp : CoreInitRsp) : Initializes .v1 rsp [.resetRsp .v1, .initRsp .v1 rsp]
  | v2 (rsp : CoreInitRsp) : Initializes .v2 rsp [.resetRsp .v2, .resetNtf, .initRsp .v2 rsp]

/-- The message that is received, if it is one of the reset transition. A response to
CORE_SET_CONFIG_CMD may have any status. -/
def SmAction.message : SmAction → Option ResetMessage
  | .answered .resetRsp .success payload =>
      if startsWithOk payload then
        if payload.length = 3 then some (.resetRsp .v1)
        else if payload.length = 1 then some (.resetRsp .v2)
        else none
      else none
  | .answered .resetInitV1Rsp .success payload => (parseInitV1Rsp payload).map (.initRsp .v1)
  | .answered .resetInitV2Rsp .success payload => (parseInitV2Rsp payload).map (.initRsp .v2)
  | .answered .resetSetConfigRsp .success _ => some .setConfigRsp
  | .arrived (.notification gid oid payload) =>
      if gid = nciGidCore ∧ oid = nciOidCoreReset ∧ isResetNtf payload then some .resetNtf
      else none
  | _ => none

/-- What has been received after another action: nothing when CORE_RESET_CMD is sent. -/
def SmAction.receive (received : List ResetMessage) (a : SmAction) : List ResetMessage :=
  match a with
  | .sent _ _ _ .resetRsp _ _ => []
  | a => received ++ a.message.toList

/-- What has been received since the reset transition was started for the last time. -/
def SmHistory.received (history : SmHistory) : List ResetMessage :=
  history.foldl SmAction.receive []

@[simp]
theorem SmHistory.received_append (history : SmHistory) (a : SmAction) :
  SmHistory.received (history ++ [a]) = a.receive history.received
  := List.foldl_concat ..

/-- The last CORE_INIT_RSP among the messages, and its version. -/
def ResetMessage.lastInit (messages : List ResetMessage) :
    Option (NciInterfaceVersion × CoreInitRsp) :=
  (messages.filterMap fun message => match message with
    | .initRsp version rsp => some (version, rsp)
    | _ => none).getLast?

/-! ### Invariant -/

/-- The layer below has been told the number of connections of CORE_INIT_RSP, and at most its
payload limit since then. -/
def SmHistory.Limits (history : SmHistory) (rsp : CoreInitRsp) (later : List SarCall) : Prop :=
  (∃ earlier, history.sarCalls = earlier ++ .setMaxLogicalConnections rsp.maxLogicalConns :: later)
    ∧ ∀ c ∈ later, c.isMinor = true ∨ c = .setMaxControlPayloadSize rsp.maxControlPayload

/-- The controller has been initialized since the start of the transition, and the machine has
what the last CORE_INIT_RSP has told. -/
structure SmWorld.Initialized (w : SmWorld SmHistory) (rsp : CoreInitRsp) (later : List SarCall) :
    Prop where
  initializes : ∃ messages, Initializes w.sm.version rsp messages
    ∧ messages.Sublist w.io.received
  lastInit : ResetMessage.lastInit w.io.received = some (w.sm.version, rsp)
  capabilities : w.sm.capabilities = rsp.capabilities w.sm.version
  limits : w.io.Limits rsp later

/-- What has been received before a response is awaited. -/
def NciSmResponseFunc.After (version : NciInterfaceVersion) (received : List ResetMessage) :
    NciSmResponseFunc → Prop
  | .resetInitV1Rsp => version = .v1 ∧ [.resetRsp .v1].Sublist received
  | .resetInitV2Rsp => version = .v2 ∧ [.resetRsp .v2, .resetNtf].Sublist received
  | _ => True

/-- How far the reset transition has got. -/
structure SmWorld.Resets (w : SmWorld SmHistory) : Prop where
  version : w.sm.version = .v2 → .resetRsp .v2 ∈ w.io.received
  waiting : ∀ resp, w.io.outstanding = some resp → resp.After w.sm.version w.io.received
  answered : ∀ (earlier : SmHistory) resp payload,
    w.io = earlier ++ [.answered resp .success payload] →
    resp.After w.sm.version earlier.received
  initialized : w.io.outstanding = some .resetSetConfigRsp →
    ∃ rsp later, .setMaxControlPayloadSize rsp.maxControlPayload ∈ later ∧ w.Initialized rsp later

variable {H : SmHost} {w w' : SmWorld SmHistory}

/-! ### What does not concern the transition -/

/-- Nothing is sent or answered, and the limits of CORE_INIT_RSP are not set. -/
def SmAction.isBeside : SmAction → Bool
  | .arrived _ | .signal .. | .intfActivated _ => true
  | .sar c => c.isMinor
  | .sent .. | .cancelled | .answered .. => false

section Beside

variable {a : SmAction} (history : SmHistory) (ha : a.isBeside = true)
include ha

theorem SmHistory.outstanding_beside :
  SmHistory.outstanding (history ++ [a]) = history.outstanding
  := by
  rw [SmHistory.outstanding_append]
  cases a <;> first | rfl | cases ha

/-- At most a notification is received. -/
theorem SmHistory.received_beside :
  SmHistory.received (history ++ [a]) = history.received
    ∨ SmHistory.received (history ++ [a]) = history.received ++ [.resetNtf]
  := by
  rw [SmHistory.received_append]
  cases a
  case arrived e =>
    cases e
    case notification gid oid payload =>
      rw [SmAction.receive, SmAction.message]
      · split
        · exact Or.inr rfl
        · exact Or.inl (List.append_nil _)
      · rintro gid oid payload ok sm ⟨⟩
    all_goals exact Or.inl (List.append_nil _)
  case sent => cases ha
  case cancelled => cases ha
  case answered => cases ha
  all_goals exact Or.inl (List.append_nil _)

/-- The layer below is called at most with what does not set the limits of CORE_INIT_RSP. -/
theorem SmHistory.sarCalls_beside :
  ∃ new, SmHistory.sarCalls (history ++ [a]) = history.sarCalls ++ new
    ∧ ∀ c ∈ new, c.isMinor = true
  := by
  have happend : SmHistory.sarCalls (history ++ [a])
      = history.sarCalls ++ SmHistory.sarCalls [a] := List.filterMap_append
  refine ⟨SmHistory.sarCalls [a], happend, ?_⟩
  cases a
  case sar c =>
    intro c' hc'
    rw [List.mem_singleton.mp hc']
    exact ha
  case sent => cases ha
  case cancelled => cases ha
  case answered => cases ha
  all_goals simp [SmHistory.sarCalls]

end Beside

theorem SmHistory.Limits.append {history history' : SmHistory} {rsp : CoreInitRsp}
    {later new : List SarCall} (h : history.Limits rsp later)
    (hcalls : history'.sarCalls = history.sarCalls ++ new)
    (hnew : ∀ c ∈ new, c.isMinor = true ∨ c = .setMaxControlPayloadSize rsp.maxControlPayload) :
  history'.Limits rsp (later ++ new)
  := by
  obtain ⟨⟨earlier, hearlier⟩, hlater⟩ := h
  refine ⟨⟨earlier, ?_⟩, fun c hc => (List.mem_append.mp hc).elim (hlater c) (hnew c)⟩
  rw [hcalls, hearlier, List.append_assoc, List.cons_append]

/-- What has been received is received still when a notification follows. -/
theorem NciSmResponseFunc.After.append {resp : NciSmResponseFunc} {version : NciInterfaceVersion}
    {received : List ResetMessage} (h : resp.After version received) (more : List ResetMessage) :
  resp.After version (received ++ more)
  := by
  cases resp <;> try trivial
  case resetInitV1Rsp => exact ⟨h.1, h.2.trans (List.sublist_append_left ..)⟩
  case resetInitV2Rsp => exact ⟨h.1, h.2.trans (List.sublist_append_left ..)⟩

theorem ResetMessage.lastInit_ntf (messages : List ResetMessage) :
  lastInit (messages ++ [.resetNtf]) = lastInit messages
  := by simp [lastInit]

/-- What has been initialized is initialized still when a notification has been received and the
layer below has been called. -/
theorem SmWorld.Initialized.append {rsp : CoreInitRsp} {later : List SarCall}
    (h : w.Initialized rsp later) (w' : SmWorld SmHistory)
    (hcapabilities : w'.sm.capabilities = w.sm.capabilities)
    (hreceived : w'.io.received = w.io.received
      ∨ w'.io.received = w.io.received ++ [.resetNtf])
    {new : List SarCall} (hcalls : w'.io.sarCalls = w.io.sarCalls ++ new)
    (hnew : ∀ c ∈ new, c.isMinor = true ∨ c = .setMaxControlPayloadSize rsp.maxControlPayload) :
  w'.Initialized rsp (later ++ new)
  := by
  have hversion : w'.sm.version = w.sm.version :=
    congrArg NciCapabilities.version hcapabilities
  obtain ⟨messages, hinitializes, hsublist⟩ := h.initializes
  have hsub : w.io.received.Sublist w'.io.received := by
    obtain hsame | hntf := hreceived
    · rw [hsame]
    · rw [hntf]
      exact List.sublist_append_left ..
  have hlast : ResetMessage.lastInit w'.io.received = ResetMessage.lastInit w.io.received := by
    obtain hsame | hntf := hreceived
    · rw [hsame]
    · rw [hntf]
      exact ResetMessage.lastInit_ntf _
  refine ⟨⟨messages, ?_, hsublist.trans hsub⟩, ?_, ?_, h.limits.append hcalls hnew⟩
  · rw [hversion]
    exact hinitializes
  · rw [hversion, hlast]
    exact h.lastInit
  · rw [hversion, hcapabilities]
    exact h.capabilities

/-- Something happens that does not concern the transition. -/
theorem SmWorld.Resets.beside (h : w.Resets) {a : SmAction} (ha : a.isBeside = true) {sm : NciSm}
    (hcapabilities : sm.capabilities = w.sm.capabilities) :
  SmWorld.Resets ⟨sm, w.io ++ [a]⟩
  := by
  have hversion : sm.version = w.sm.version :=
    congrArg NciCapabilities.version hcapabilities
  have hreceived := SmHistory.received_beside w.io ha
  have hmore : ∃ more, SmHistory.received (w.io ++ [a]) = w.io.received ++ more := by
    obtain hsame | hntf := hreceived
    · exact ⟨[], by rw [hsame, List.append_nil]⟩
    · exact ⟨[.resetNtf], hntf⟩
  obtain ⟨more, hmore⟩ := hmore
  obtain ⟨new, hcalls, hnew⟩ := SmHistory.sarCalls_beside w.io ha
  have hinitialized : ∀ {rsp later}, w.Initialized rsp later →
      SmWorld.Initialized ⟨sm, w.io ++ [a]⟩ rsp (later ++ new) := fun hinit =>
    hinit.append ⟨sm, w.io ++ [a]⟩ hcapabilities hreceived hcalls fun c hc => Or.inl (hnew c hc)
  refine ⟨?_, ?_, ?_, ?_⟩
  · rw [hversion, hmore]
    exact fun hv2 => List.mem_append_left _ (h.version hv2)
  · rw [hversion, hmore, SmHistory.outstanding_beside w.io ha]
    exact fun resp hresp => (h.waiting resp hresp).append more
  · intro earlier resp payload hlast
    cases List.append_inj_right' hlast rfl
    cases ha
  · rw [SmHistory.outstanding_beside w.io ha]
    intro houtstanding
    obtain ⟨rsp, later, hcontrol, hinit⟩ := h.initialized houtstanding
    exact ⟨rsp, _, List.mem_append_left _ hcontrol, hinitialized hinit⟩

/-- The machine changes in a way that does not concern the transition. -/
theorem SmWorld.Resets.map (h : w.Resets) {sm : NciSm}
    (hcapabilities : sm.capabilities = w.sm.capabilities) :
  SmWorld.Resets ⟨sm, w.io⟩
  := by
  have hversion : sm.version = w.sm.version :=
    congrArg NciCapabilities.version hcapabilities
  have hinitialized : ∀ {rsp later}, w.Initialized rsp later →
      SmWorld.Initialized ⟨sm, w.io⟩ rsp (later ++ []) := fun hinit =>
    hinit.append ⟨sm, w.io⟩ hcapabilities (Or.inl rfl) (List.append_nil _).symm (by simp)
  refine ⟨?_, ?_, ?_, ?_⟩
  · rw [hversion]
    exact h.version
  · rw [hversion]
    exact h.waiting
  · rw [hversion]
    exact h.answered
  · intro houtstanding
    obtain ⟨rsp, later, hcontrol, hinit⟩ := h.initialized houtstanding
    exact ⟨rsp, _, List.mem_append_left _ hcontrol, hinitialized hinit⟩

/-! ### The steps of the transition -/

/-- Nothing is sent after the response to the last command yet. -/
theorem SmWorld.Resets.answer (h : w.Resets) {resp : NciSmResponseFunc}
    (hresp : w.io.outstanding = some resp) (status : NciRequestStatus) (payload : List UInt8) :
  (w.note (.answered resp status payload)).Resets
  := by
  have hreceived : (w.note (.answered resp status payload)).io.received
      = w.io.received ++ (SmAction.answered resp status payload).message.toList :=
    SmHistory.received_append ..
  have houtstanding : (w.note (.answered resp status payload)).io.outstanding = none :=
    SmHistory.outstanding_append ..
  refine ⟨?_, ?_, ?_, ?_⟩
  · rw [hreceived]
    exact fun hv2 => List.mem_append_left _ (h.version hv2)
  · rw [houtstanding]
    rintro resp ⟨⟩
  · intro earlier resp' payload' hlast
    obtain ⟨rfl, ha⟩ := List.append_inj' hlast rfl
    cases ha
    exact h.waiting resp hresp
  · rw [houtstanding]
    rintro ⟨⟩

/-- The transition has just been started. -/
theorem resets_started {t : NciTransition} {timeout ok : Bool}
    (hactive : (w.started t timeout ok).sm.activeTransition = some .reset) :
  (w.started t timeout ok).Resets
  := by
  cases ok with
  | false =>
      obtain ⟨_, _, _, h⟩ := w.started_refused t timeout
      rw [h] at hactive
      cases hactive
  | true =>
      rw [activeTransition_started] at hactive
      cases hactive
      obtain ⟨_, _, _, _, _, h⟩ := w.started_accepted .reset timeout
      have hversion : (w.started .reset timeout true).sm.version = .unknown := by
        rw [h]
        rfl
      have houtstanding : (w.started .reset timeout true).io.outstanding = some .resetRsp :=
        SmHistory.outstanding_append ..
      refine ⟨?_, ?_, ?_, ?_⟩
      · rw [hversion]
        rintro ⟨⟩
      · rw [houtstanding]
        rintro resp ⟨⟩
        trivial
      · intro earlier resp payload hlast
        cases List.append_inj_right' hlast rfl
      · rw [houtstanding]
        rintro ⟨⟩

theorem SmHistory.received_sent {resp : NciSmResponseFunc} (h : resp ≠ .resetRsp)
    (history : SmHistory) (gid oid : UInt8) (cmd : Option (List UInt8)) (ok : Bool) (sm : NciSm) :
  SmHistory.received (history ++ [.sent gid oid cmd resp ok sm]) = history.received
  := by
  rw [SmHistory.received_append]
  cases resp <;> first | exact absurd rfl h | exact List.append_nil _

/-- The response to CORE_RESET_CMD is handled. -/
theorem resetOutcome_cases (payload : List UInt8) (self : NciSm) :
  (∃ sm, resetOutcome payload self = .fail sm)
    ∨ (startsWithOk payload = true ∧ payload.length = 3
      ∧ resetOutcome payload self
        = .send { self with version := .v1 } nciGidCore nciOidCoreInit none .resetInitV1Rsp)
    ∨ (startsWithOk payload = true ∧ payload.length = 1
      ∧ resetOutcome payload self = .stay { self with version := .v2 })
  := by
  rw [resetOutcome]
  split_ifs with hlong hok hshort hok
  · exact Or.inr (Or.inl ⟨hok, hlong, rfl⟩)
  · exact Or.inl ⟨_, rfl⟩
  · exact Or.inr (Or.inr ⟨hok, hshort, rfl⟩)
  · exact Or.inl ⟨_, rfl⟩
  · exact Or.inl ⟨_, rfl⟩

/-- Nothing is outstanding when a response has just been received. -/
theorem outstanding_answered {history earlier : SmHistory} {resp : NciSmResponseFunc}
    {status : NciRequestStatus} {payload : List UInt8}
    (h : history = earlier ++ [.answered resp status payload]) :
  history.outstanding = none
  := by
  rw [h]
  exact SmHistory.outstanding_append ..

/-- The message that has just been received. -/
theorem received_answered {history earlier : SmHistory} {resp : NciSmResponseFunc}
    {payload : List UInt8} (h : history = earlier ++ [.answered resp .success payload])
    {message : ResetMessage}
    (hmessage : (SmAction.answered resp .success payload).message = some message) :
  history.received = earlier.received ++ [message]
  := by
  rw [h, SmHistory.received_append, SmAction.receive, hmessage]
  · rfl
  · rintro gid oid cmd ok sm ⟨⟩

/-- CORE_RESET_RSP of version 2 is received: a notification is to follow. -/
theorem SmWorld.Resets.stay {resp : NciSmResponseFunc} (hresp : resp.transition = some .reset)
    {payload : List UInt8}
    (hreceived : ∃ earlier, w.io = earlier ++ [.answered resp .success payload]) {sm : NciSm}
    (houtcome : resp.outcome payload w.sm = .stay sm) :
  (w.become sm).Resets
  := by
  obtain ⟨earlier, hio⟩ := hreceived
  cases resp <;> cases hresp
  case resetRsp =>
    obtain ⟨_, hfail⟩ | ⟨-, -, hsend⟩ | ⟨hok, hlength, hstay⟩ :=
      resetOutcome_cases payload w.sm
    · cases hfail.symm.trans houtcome
    · cases hsend.symm.trans houtcome
    · cases hstay.symm.trans houtcome
      have hmessage : (SmAction.answered .resetRsp .success payload).message
          = some (.resetRsp .v2) := by
        rw [SmAction.message, if_pos hok, hlength]
        rfl
      have hmem : .resetRsp .v2 ∈ w.io.received := by
        rw [received_answered hio hmessage]
        exact List.mem_append_right _ (List.mem_singleton_self _)
      have hnone : ∀ resp, w.io.outstanding ≠ some resp := by
        rw [outstanding_answered hio]
        rintro resp ⟨⟩
      refine ⟨fun _ => hmem, fun resp hresp => absurd hresp (hnone resp), ?_,
        fun hresp => absurd hresp (hnone _)⟩
      intro earlier' resp payload' hlast
      cases List.append_inj_right' (hio.symm.trans hlast) rfl
      trivial
  case resetInitV1Rsp =>
    rw [NciSmResponseFunc.outcome] at houtcome
    cases hparsed : parseInitV1Rsp payload <;> rw [hparsed] at houtcome <;> cases houtcome
  case resetInitV2Rsp =>
    rw [NciSmResponseFunc.outcome] at houtcome
    cases hparsed : parseInitV2Rsp payload <;> rw [hparsed] at houtcome <;> cases houtcome
  case resetSetConfigRsp => cases houtcome

/-- CORE_RESET_RSP of version 1 is received: the controller is initialized. -/
theorem SmWorld.Resets.send {resp : NciSmResponseFunc} (hresp : resp.transition = some .reset)
    {payload : List UInt8}
    (hreceived : ∃ earlier, w.io = earlier ++ [.answered resp .success payload]) {sm : NciSm}
    {gid oid : UInt8} {cmd : Option (List UInt8)} {next : NciSmResponseFunc}
    (houtcome : resp.outcome payload w.sm = .send sm gid oid cmd next) (ok : Bool) :
  ((w.become sm).note (.sent gid oid cmd next ok sm)).Resets
  := by
  obtain ⟨earlier, hio⟩ := hreceived
  cases resp <;> cases hresp
  case resetRsp =>
    obtain ⟨_, hfail⟩ | ⟨hok, hlength, hsend⟩ | ⟨-, -, hstay⟩ :=
      resetOutcome_cases payload w.sm
    · cases hfail.symm.trans houtcome
    · cases hsend.symm.trans houtcome
      have hmessage : (SmAction.answered .resetRsp .success payload).message
          = some (.resetRsp .v1) := by
        rw [SmAction.message, if_pos hok, hlength]
        rfl
      have hmem : .resetRsp .v1 ∈ w.io.received := by
        rw [received_answered hio hmessage]
        exact List.mem_append_right _ (List.mem_singleton_self _)
      have hother : NciSmResponseFunc.resetInitV1Rsp ≠ .resetRsp := by decide
      have hsame := SmHistory.received_sent hother w.io nciGidCore nciOidCoreInit none ok
        { w.sm with version := .v1 }
      have houtstanding : (((w.become { w.sm with version := .v1 }).note (.sent nciGidCore
          nciOidCoreInit none .resetInitV1Rsp ok { w.sm with version := .v1 })).io).outstanding
          = if ok then some .resetInitV1Rsp else none := SmHistory.outstanding_append ..
      refine ⟨?_, ?_, ?_, ?_⟩
      · rintro ⟨⟩
      · rw [houtstanding]
        intro resp hresp
        cases ok <;> cases hresp
        refine ⟨rfl, List.singleton_sublist.mpr ?_⟩
        exact hsame ▸ hmem
      · intro earlier' resp payload' hlast
        cases List.append_inj_right' hlast rfl
      · rw [houtstanding]
        cases ok <;> rintro ⟨⟩
    · cases hstay.symm.trans houtcome
  case resetInitV1Rsp =>
    rw [NciSmResponseFunc.outcome] at houtcome
    cases hparsed : parseInitV1Rsp payload <;> rw [hparsed] at houtcome <;> cases houtcome
  case resetInitV2Rsp =>
    rw [NciSmResponseFunc.outcome] at houtcome
    cases hparsed : parseInitV2Rsp payload <;> rw [hparsed] at houtcome <;> cases houtcome
  case resetSetConfigRsp => cases houtcome

theorem ResetMessage.lastInit_concat (messages : List ResetMessage) (version : NciInterfaceVersion)
    (rsp : CoreInitRsp) :
  lastInit (messages ++ [.initRsp version rsp]) = some (version, rsp)
  := by simp [lastInit]

/-- CORE_INIT_RSP is received, and the number of connections is set. -/
theorem SmWorld.Resets.remember (h : w.Resets) {resp : NciSmResponseFunc} {payload : List UInt8}
    (hreceived : ∃ earlier, w.io = earlier ++ [.answered resp .success payload])
    {rsp : CoreInitRsp} (houtcome : resp.outcome payload w.sm = .configure rsp) :
  SmWorld.Initialized
    ⟨rsp.remember w.sm, w.io ++ [.sar (.setMaxLogicalConnections rsp.maxLogicalConns)]⟩ rsp []
  := by
  obtain ⟨earlier, hio⟩ := hreceived
  obtain ⟨⟨messages, hinitializes, hsublist⟩, hlast⟩ :
      (∃ messages, Initializes w.sm.version rsp messages ∧ messages.Sublist w.io.received)
        ∧ ResetMessage.lastInit w.io.received = some (w.sm.version, rsp) := by
    obtain ⟨rfl, hparsed⟩ | ⟨rfl, hparsed⟩ := NciSmResponseFunc.init_of_configure houtcome
    · obtain ⟨hversion, hsublist⟩ := h.answered _ _ _ hio
      have hmessage : (SmAction.answered .resetInitV1Rsp .success payload).message
          = some (.initRsp .v1 rsp) := by
        rw [SmAction.message, hparsed]
        rfl
      rw [received_answered hio hmessage, hversion]
      exact ⟨⟨_, .v1 rsp, hsublist.append (List.Sublist.refl _)⟩, ResetMessage.lastInit_concat ..⟩
    · obtain ⟨hversion, hsublist⟩ := h.answered _ _ _ hio
      have hmessage : (SmAction.answered .resetInitV2Rsp .success payload).message
          = some (.initRsp .v2 rsp) := by
        rw [SmAction.message, hparsed]
        rfl
      rw [received_answered hio hmessage, hversion]
      exact ⟨⟨_, .v2 rsp, hsublist.append (List.Sublist.refl _)⟩, ResetMessage.lastInit_concat ..⟩
  have hsame : SmHistory.received
      (w.io ++ [.sar (.setMaxLogicalConnections rsp.maxLogicalConns)]) = w.io.received :=
    (SmHistory.received_append ..).trans (List.append_nil _)
  refine ⟨⟨messages, hinitializes, ?_⟩, ?_, rfl, ⟨w.io.sarCalls, ?_⟩, by simp⟩
  · rw [hsame]
    exact hsublist
  · rw [hsame]
    exact hlast
  · exact List.filterMap_append

/-- The other limits are set, and the controller is configured. -/
theorem SmWorld.Initialized.configuring {rsp : CoreInitRsp} {later : List SarCall}
    (hinit : w.Initialized rsp later)
    (hversion : w.sm.version = .v2 → .resetRsp .v2 ∈ w.io.received) (ok : Bool) :
  SmWorld.Resets ⟨w.sm, w.io ++ rsp.configuring ok w.sm⟩
  := by
  obtain ⟨cmd, hconfiguring⟩ : ∃ cmd, w.io ++ rsp.configuring ok w.sm
      = ((w.io ++ [.sar (.setMaxControlPayloadSize rsp.maxControlPayload)])
        ++ [.sar (.setMaxDataPayloadSize 0)])
        ++ [.sent nciGidCore nciOidCoreSetConfig cmd .resetSetConfigRsp ok w.sm] :=
    ⟨_, by simp only [CoreInitRsp.configuring, List.append_assoc, List.cons_append,
      List.nil_append]; rfl⟩
  have hcalls : SmHistory.sarCalls (w.io ++ rsp.configuring ok w.sm)
      = w.io.sarCalls
        ++ [.setMaxControlPayloadSize rsp.maxControlPayload, .setMaxDataPayloadSize 0] :=
    List.filterMap_append
  rw [hconfiguring] at hcalls ⊢
  have hreceived : SmHistory.received (((w.io
      ++ [.sar (.setMaxControlPayloadSize rsp.maxControlPayload)])
      ++ [.sar (.setMaxDataPayloadSize 0)])
      ++ [.sent nciGidCore nciOidCoreSetConfig cmd .resetSetConfigRsp ok w.sm])
      = w.io.received := by
    rw [SmHistory.received_sent (by decide), SmHistory.received_append, SmHistory.received_append]
    simp [SmAction.receive, SmAction.message]
  have houtstanding : SmHistory.outstanding (((w.io
      ++ [.sar (.setMaxControlPayloadSize rsp.maxControlPayload)])
      ++ [.sar (.setMaxDataPayloadSize 0)])
      ++ [.sent nciGidCore nciOidCoreSetConfig cmd .resetSetConfigRsp ok w.sm])
      = if ok then some .resetSetConfigRsp else none := SmHistory.outstanding_append ..
  have hinit' := hinit.append ⟨w.sm, ((w.io
      ++ [.sar (.setMaxControlPayloadSize rsp.maxControlPayload)])
      ++ [.sar (.setMaxDataPayloadSize 0)])
      ++ [.sent nciGidCore nciOidCoreSetConfig cmd .resetSetConfigRsp ok w.sm]⟩ rfl
    (Or.inl hreceived) hcalls (by simp [SarCall.isMinor])
  have hcontrol : SarCall.setMaxControlPayloadSize rsp.maxControlPayload
      ∈ later ++ [.setMaxControlPayloadSize rsp.maxControlPayload, .setMaxDataPayloadSize 0] := by
    simp
  refine ⟨?_, ?_, ?_, ?_⟩
  · rw [hreceived]
    exact hversion
  · rw [houtstanding]
    intro resp hresp
    cases ok <;> cases hresp
    trivial
  · intro earlier' resp payload' hlast
    cases List.append_inj_right' hlast rfl
  · intro _
    exact ⟨rsp, _, hcontrol, hinit'⟩

/-- CORE_INIT_RSP is received: the controller is configured. -/
theorem SmWorld.Resets.configure (h : w.Resets) {resp : NciSmResponseFunc} {payload : List UInt8}
    (hreceived : ∃ earlier, w.io = earlier ++ [.answered resp .success payload])
    {rsp : CoreInitRsp} (houtcome : resp.outcome payload w.sm = .configure rsp) (ok : Bool) :
  SmWorld.Resets ⟨rsp.remember w.sm, w.io ++ .sar (.setMaxLogicalConnections rsp.maxLogicalConns)
    :: rsp.configuring ok (rsp.remember w.sm)⟩
  := by
  have hinit := h.remember hreceived houtcome
  have hsame : SmHistory.received
      (w.io ++ [.sar (.setMaxLogicalConnections rsp.maxLogicalConns)]) = w.io.received :=
    (SmHistory.received_append ..).trans (List.append_nil _)
  have hversion : w.sm.version = .v2 → ResetMessage.resetRsp .v2 ∈ SmHistory.received
      (w.io ++ [.sar (.setMaxLogicalConnections rsp.maxLogicalConns)]) := by
    rw [hsame]
    exact h.version
  have hconfiguring := hinit.configuring hversion ok
  rw [List.append_assoc] at hconfiguring
  exact hconfiguring

/-- CORE_RESET_NTF is received: the controller is initialized, possibly again. -/
theorem SmWorld.Resets.renew (h : w.Resets) (hversion : w.sm.version = .v2) {payload : List UInt8}
    (hntf : isResetNtf payload = true) (harrived : ∃ earlier, w.io
      = earlier ++ [.arrived (.notification nciGidCore nciOidCoreReset payload)]) (ok : Bool) :
  (w.note (.sent nciGidCore nciOidCoreInit (some [0x00, 0x00]) .resetInitV2Rsp ok w.sm)).Resets
  := by
  obtain ⟨earlier, hio⟩ := harrived
  have hother : NciSmResponseFunc.resetInitV2Rsp ≠ .resetRsp := by decide
  have hreceived := SmHistory.received_sent hother w.io nciGidCore nciOidCoreInit
    (some [0x00, 0x00]) ok w.sm
  have houtstanding : (w.io ++ [.sent nciGidCore nciOidCoreInit (some [0x00, 0x00])
      .resetInitV2Rsp ok w.sm] : SmHistory).outstanding
      = if ok then some .resetInitV2Rsp else none := SmHistory.outstanding_append ..
  have hsublist : [.resetRsp .v2, .resetNtf].Sublist w.io.received := by
    have hmessage : (SmAction.arrived (.notification nciGidCore nciOidCoreReset payload)).message
        = some .resetNtf := if_pos ⟨rfl, rfl, hntf⟩
    have hlast : w.io.received = SmHistory.received earlier ++ [.resetNtf] := by
      rw [hio, SmHistory.received_append, SmAction.receive, hmessage]
      · rfl
      · rintro gid oid cmd ok sm ⟨⟩
    have hmem := h.version hversion
    rw [hlast] at hmem ⊢
    have hmem' : .resetRsp .v2 ∈ SmHistory.received earlier := by simpa using hmem
    exact (List.singleton_sublist.mpr hmem').append (List.Sublist.refl _)
  refine ⟨?_, ?_, ?_, ?_⟩
  · rw [SmWorld.note_io, hreceived]
    exact h.version
  · rw [SmWorld.note_io, houtstanding, hreceived]
    intro resp hresp
    cases ok <;> cases hresp
    exact ⟨hversion, hsublist⟩
  · intro earlier' resp payload' hlast
    cases List.append_inj_right' hlast rfl
  · rw [SmWorld.note_io, houtstanding]
    cases ok <;> rintro ⟨⟩

theorem SmTurn.resets (hturn : SmTurn w w')
    (h : w.sm.activeTransition = some .reset → w.Resets) :
  w'.sm.activeTransition = some .reset → w'.Resets
  := by
  intro hactive
  cases hturn with
  | @enter state _ =>
      obtain ⟨_, _, _, _, _, hentering⟩ := nciSmEntering_eq state w.sm
      cases (congrArg NciSm.activeTransition hentering).symm.trans hactive
  | @follow state t _ _ _ _ _ timeout ok =>
      obtain ⟨_, hend, -⟩ := nciSmEndEntering_eq state ((w.map fun self =>
        { self with nextTransition := none }).started t timeout ok).sm
      have hactive' := (congrArg NciSm.activeTransition hend).symm.trans hactive
      have hcapabilities := congrArg NciSm.capabilities hend
      exact (resets_started hactive').map hcapabilities
  | forget => exact (h hactive).map rfl
  | leave _ _ state _ =>
      obtain ⟨_, hend, -⟩ := nciSmEndEntering_eq state w.sm
      have hactive' := (congrArg NciSm.activeTransition hend).symm.trans hactive
      have hcapabilities := congrArg NciSm.capabilities hend
      exact (h hactive').map hcapabilities
  | stall version expectingNtf _ type =>
      obtain ⟨_, _, _, _, _, _, hstalled, -⟩ := nciSmStalled_eq type.state
        { w.sm with version := version, expectingNtf := expectingNtf }
      cases (congrArg NciSm.activeTransition hstalled).symm.trans hactive
  | start _ _ _ timeout ok _ => exact resets_started hactive
  | @abandon t _ _ _ timeout =>
      obtain ⟨_, _, _, _, _, _, hstalled, -⟩ := nciSmStalled_eq .error
        { (w.started t timeout true).sm with nextTransition := none }
      cases (congrArg NciSm.activeTransition hstalled).symm.trans hactive
  | @queue t t' _ _ _ next =>
      obtain ⟨_, hset, -⟩ := nciSmSetNextState_eq next { w.sm with nextTransition := some t' }
      have hactive' := (congrArg NciSm.activeTransition hset).symm.trans hactive
      have hcapabilities := congrArg NciSm.capabilities hset
      exact (h hactive').map hcapabilities
  | aim _ next =>
      obtain ⟨_, hset, -⟩ := nciSmSetNextState_eq next w.sm
      have hactive' := (congrArg NciSm.activeTransition hset).symm.trans hactive
      have hcapabilities := congrArg NciSm.capabilities hset
      exact (h hactive').map hcapabilities
  | emit _ => exact (h hactive).beside rfl rfl

/-- Every move goes on with the transition as it should. -/
theorem SmMove.resets (hdiscreet : H.Discreet) (hmove : SmMove H w w')
    (h : w.sm.activeTransition = some .reset → w.Resets) :
  w'.sm.activeTransition = some .reset → w'.Resets
  := by
  intro hactive
  have htransition : ∀ {resp : NciSmResponseFunc} {payload}, w.Answering resp payload →
      w.sm.activeTransition = some .reset → resp.transition = some .reset := by
    intro resp payload hanswering hactive
    obtain ⟨t, hresp, ht⟩ := hanswering.active
    rw [hresp]
    exact ht.symm.trans hactive
  have hmachine : ∀ {resp : NciSmResponseFunc} {payload sm},
      (resp.outcome payload w.sm).machine = some sm →
      sm.activeTransition = w.sm.activeTransition := by
    intro resp payload sm hsm
    obtain ⟨_, _, rfl⟩ := NciSmResponseFunc.machine_outcome hsm
    rfl
  cases hmove with
  | turn hturn => exact hturn.resets h hactive
  | edit sm hkernel =>
      have hactive' := (congrArg NciSm.activeTransition hkernel).symm.trans hactive
      have hcapabilities := congrArg NciSm.capabilities hkernel
      exact (h hactive').map hcapabilities
  | sar c hminor =>
      have hbeside : (SmAction.sar c).isBeside = true := hminor
      exact (h hactive).beside hbeside rfl
  | activated ntf => exact (h hactive).beside rfl rfl
  | answered resp status payload hresp _ => exact (h hactive).answer hresp status payload
  | @stay resp payload hanswering sm houtcome =>
      have hactive' := (hmachine (by rw [houtcome]; rfl)).symm.trans hactive
      exact .stay (htransition hanswering hactive') hanswering.received houtcome
  | @send resp payload hanswering sm gid oid cmd next houtcome ok =>
      have hactive' := (hmachine (by rw [houtcome]; rfl)).symm.trans hactive
      exact .send (htransition hanswering hactive') hanswering.received houtcome ok
  | configure hanswering houtcome ok => exact (h hactive).configure hanswering.received houtcome ok
  | remember _ _ hreact => exact absurd hdiscreet hreact
  | resume _ hreact _ ok => exact absurd hdiscreet hreact
  | renew _ hversion hntf harrived ok => exact (h hactive).renew hversion hntf harrived ok
  | seen hlisten _ ntf => cases hlisten.symm.trans hactive
  | select hnone _ payload ok => cases hnone.symm.trans hactive

/-- In every run the transition goes on as it should. -/
theorem SmHost.Reaches.resets {n : Nat} (h : H.Reaches n w) (hdiscreet : H.Discreet) :
  w.sm.activeTransition = some .reset → w.Resets
  := by
  apply h.keeps (I := fun w => w.sm.activeTransition = some .reset → w.Resets)
  · exact fun _ _ hmove hw => hmove.resets hdiscreet hw
  · exact fun w e hw hactive => (hw hactive).beside rfl rfl
  · rintro techs laNfcid1 liAHb ⟨⟩

/-! ### RFST_IDLE -/

/-- The reset transition leads to RFST_IDLE, so it is not started there. -/
theorem capabilities_started {t : NciTransition} (ht : t ≠ .reset) (timeout ok : Bool)
    (w : SmWorld SmHistory) :
  (w.started t timeout ok).sm.capabilities = w.sm.capabilities
  := by
  cases ok with
  | true =>
      obtain ⟨_, _, _, _, _, h⟩ := w.started_accepted t timeout
      rw [if_neg ht] at h
      have hcapabilities := congrArg NciSm.capabilities h
      exact hcapabilities
  | false =>
      obtain ⟨_, _, _, h⟩ := w.started_refused t timeout
      rw [if_neg ht] at h
      have hcapabilities := congrArg NciSm.capabilities h
      exact hcapabilities

/-- What has been received, and what the layer below has been called with, stays the same when a
command is sent that is not CORE_RESET_CMD. -/
theorem received_firstCommand {t : NciTransition} (ht : t ≠ .reset) (history : SmHistory)
    (ok : Bool) (sm : NciSm) :
  SmHistory.received (history ++ [t.firstCommand ok sm]) = history.received
    ∧ SmHistory.sarCalls (history ++ [t.firstCommand ok sm]) = history.sarCalls
  := by
  have hcalls : SmHistory.sarCalls (history ++ [t.firstCommand ok sm])
      = history.sarCalls ++ SmHistory.sarCalls [t.firstCommand ok sm] := List.filterMap_append
  constructor
  · cases t <;> first | exact absurd rfl ht | exact SmHistory.received_sent (by decide) ..
  · rw [hcalls]
    cases t <;> exact List.append_nil _

/-- When RFST_IDLE is entered the machine keeps what it knows. -/
theorem enter_idle (n : Nat) (w : SmWorld SmHistory) :
  (nciSmEnterStateInternal (H.io n) .idle none w).sm.lastState = .idle
    ∧ (nciSmEnterStateInternal (H.io n) .idle none w).sm.capabilities = w.sm.capabilities
    ∧ (nciSmEnterStateInternal (H.io n) .idle none w).io.received = w.io.received
    ∧ (nciSmEnterStateInternal (H.io n) .idle none w).io.sarCalls = w.io.sarCalls
  := by
  obtain ⟨_, _, _, _, _, hentering⟩ := nciSmEntering_eq .idle w.sm
  have hactivate : ∃ active, nciSmActivate (nciStateEntered (H.io n)) .idle none
      (w.map nciSmBeginEntering)
      = ⟨{ nciSmEntering .idle w.sm with active := active }, w.io⟩ := by
    rw [nciSmActivate]
    by_cases hactive : (nciSmBeginEntering w.sm).activeState = some .idle
    · have hsame : nciSmEntering .idle w.sm = nciSmBeginEntering w.sm := if_pos hactive
      rw [SmWorld.map_sm, if_pos hactive, hsame]
      exact ⟨_, rfl⟩
    · have hsame : nciSmEntering .idle w.sm
          = nciSmReplaceActiveState .idle (nciSmBeginEntering w.sm) := if_neg hactive
      rw [SmWorld.map_sm, if_neg hactive, hsame]
      exact ⟨_, rfl⟩
  obtain ⟨active, hactivate⟩ := hactivate
  have hcapabilities := congrArg NciSm.capabilities hentering
  rw [nciSmEnterStateInternal, nciSmEnterWith, hactivate]
  unfold nciSmStartNextTransition
  dsimp only
  split
  · rename_i t htake
    rw [nciSmTakeNextTransition, Option.filter_eq_some_iff] at htake
    have ht : t ≠ .reset := by
      rintro rfl
      exact absurd htake.2 (by decide)
    obtain ⟨w₁, hw₁⟩ : ∃ w₁ : SmWorld SmHistory,
        w₁ = ⟨{ nciSmEntering .idle w.sm with active := active, nextTransition := none }, w.io⟩ :=
      ⟨_, rfl⟩
    have hstart : (nciSmStartTransition (H.io n) t w₁).2
        = w₁.started t (H.timeout w₁.io) (H.send w₁.io) :=
      congrArg Prod.snd (nciSmStartTransition_ioWith t w₁)
    have hcapabilities₁ : w₁.sm.capabilities = w.sm.capabilities := by
      rw [hw₁]
      exact hcapabilities
    have hio : w₁.io = w.io := by rw [hw₁]
    have hended : ∀ w' : SmWorld SmHistory, w' = (nciSmStartTransition (H.io n) t w₁).2.map
          (nciSmEndEntering .idle) →
        w'.sm.lastState = .idle ∧ w'.sm.capabilities = w.sm.capabilities
          ∧ w'.io.received = w.io.received ∧ w'.io.sarCalls = w.io.sarCalls := by
      rintro w' rfl
      rw [hstart]
      obtain ⟨_, hend, -⟩ := nciSmEndEntering_eq .idle
        (w₁.started t (H.timeout w₁.io) (H.send w₁.io)).sm
      have hlast := congrArg NciSm.lastState hend
      have hknown := (congrArg NciSm.capabilities hend).trans
        (capabilities_started ht (H.timeout w₁.io) (H.send w₁.io) w₁)
      obtain ⟨hreceived, hcalls⟩ := received_firstCommand ht w₁.io (H.send w₁.io)
        (t.starting (H.timeout w₁.io) w₁.sm)
      exact ⟨hlast, hknown.trans hcapabilities₁, hreceived.trans (congrArg SmHistory.received hio),
        hcalls.trans (congrArg SmHistory.sarCalls hio)⟩
    apply hended
    rw [hw₁]
    rfl
  · obtain ⟨_, hend, -⟩ := nciSmEndEntering_eq .idle
      { nciSmEntering .idle w.sm with active := active, nextTransition := none }
    have hlast := congrArg NciSm.lastState hend
    have hknown := congrArg NciSm.capabilities hend
    exact ⟨hlast, hknown.trans hcapabilities, rfl, rfl⟩

/-- The machine enters a state on the response to CORE_SET_CONFIG_CMD only. -/
theorem NciSmResponseFunc.enter_of_reset {resp : NciSmResponseFunc} {payload : List UInt8}
    {self : NciSm} {state : NciState} (hresp : resp.transition = some .reset)
    (h : resp.outcome payload self = .enter state) :
  resp = .resetSetConfigRsp ∧ state = .idle
  := by
  cases resp <;> cases hresp
  case resetRsp =>
    obtain ⟨_, hfail⟩ | ⟨-, -, hsend⟩ | ⟨-, -, hstay⟩ := resetOutcome_cases payload self
    · cases hfail.symm.trans h
    · cases hsend.symm.trans h
    · cases hstay.symm.trans h
  case resetInitV1Rsp =>
    rw [outcome] at h
    cases hparsed : parseInitV1Rsp payload <;> rw [hparsed] at h <;> cases h
  case resetInitV2Rsp =>
    rw [outcome] at h
    cases hparsed : parseInitV2Rsp payload <;> rw [hparsed] at h <;> cases h
  case resetSetConfigRsp =>
    cases h
    exact ⟨rfl, rfl⟩

/-- While the transition is active, a notification does not take the machine to RFST_IDLE. -/
theorem SmHost.step_ntf_reset {n : Nat} (hactive : w.sm.activeTransition = some .reset)
    (hlast : w.sm.lastState ≠ .idle) (gid oid : UInt8) (payload : List UInt8) :
  (H.step n w (.notification gid oid payload)).sm.lastState ≠ .idle
  := by
  have hhandle : H.step n w (.notification gid oid payload)
      = nciTransitionResetHandleNtf (H.io n) gid oid payload
        (w.note (.arrived (.notification gid oid payload))) := by
    unfold step handle nciSmHandleNtf
    dsimp only [SmWorld.note_sm]
    rw [hactive]
    rfl
  have hstate : NciState.isInternal .idle = false := rfl
  rw [hhandle, nciTransitionResetHandleNtf]
  split
  · exact hlast
  · exact H.keeps_nciDefaultHandleNtf n hstate gid oid payload _ hlast

/-- While the transition is active, the machine gets to RFST_IDLE only by the response to
CORE_SET_CONFIG_CMD. -/
theorem SmHost.step_idle {n : Nat} (hactive : w.sm.activeTransition = some .reset)
    (hlast : w.sm.lastState ≠ .idle) {e : SmEvent} (h : (H.step n w e).sm.lastState = .idle) :
  ∃ payload, e = .response payload ∧ w.io.outstanding = some .resetSetConfigRsp
    ∧ H.step n w e = nciSmEnterState (H.io n) .idle none
      ((w.note (.arrived e)).note (.answered .resetSetConfigRsp .success payload))
  := by
  have hstate : NciState.isInternal .idle = false := rfl
  have hsteady := SmControl.steady_lastState hstate
  have hE := H.keeps_io n hsteady
  have herror := keeps_nciSmError hsteady hE
  have hother : ¬((∀ payload, e ≠ .response payload)
      ∧ ∀ gid oid payload, e ≠ .notification gid oid payload) :=
    fun he => H.keeps_step n hstate hlast he h
  cases e
  case response payload =>
    cases hresp : w.io.outstanding with
    | none =>
        rw [H.step_response_none hresp] at h
        exact absurd h hlast
    | some resp =>
        by_cases htransition : resp.transition = some .reset
        · have hstep := H.step_response (n := n) hresp htransition hactive payload
          rw [hstep] at h
          have hmachine : ∀ {sm}, (resp.outcome payload w.sm).machine = some sm →
              sm.lastState ≠ .idle := by
            intro sm hsm
            obtain ⟨_, _, rfl⟩ := NciSmResponseFunc.machine_outcome hsm
            exact hlast
          cases houtcome : resp.outcome payload w.sm with
          | stay sm =>
              rw [houtcome] at h
              exact absurd h (hmachine (by rw [houtcome]; rfl))
          | send sm gid oid cmd next =>
              rw [houtcome] at h
              exact absurd h (hmachine (by rw [houtcome]; rfl))
          | enter state =>
              obtain ⟨rfl, rfl⟩ := NciSmResponseFunc.enter_of_reset htransition houtcome
              rw [houtcome] at hstep
              exact ⟨payload, rfl, rfl, hstep⟩
          | fail sm =>
              rw [houtcome] at h
              exact absurd h (herror _ (hmachine (by rw [houtcome]; rfl)))
          | configure rsp =>
              rw [houtcome] at h
              have hlimits : ((H.io n).sarSetMaxLogicalConnections rsp.maxLogicalConns
                  (((w.note (.arrived (.response payload))).note
                    (.answered resp .success payload)).map rsp.remember)).sm.lastState ≠ .idle :=
                hE.sarSetMaxLogicalConnections rsp.maxLogicalConns _ hlast
              exact absurd h hlimits
        · have hinactive : ∀ t, resp.transition = some t → w.sm.activeTransition ≠ some t := by
            intro t ht ht'
            cases hactive.symm.trans ht'
            exact htransition ht
          rw [H.step_response_inactive hresp hinactive] at h
          exact absurd h hlast
  case notification gid oid payload =>
    exact absurd h (H.step_ntf_reset hactive hlast gid oid payload)
  all_goals exact absurd ⟨by rintro payload ⟨⟩, by rintro gid oid payload ⟨⟩⟩ hother

/-! ### The transition -/

/-- When RFST_IDLE is entered, the controller has been initialized since the transition was
started: the messages of its version have been received in order, and CORE_SET_CONFIG_RSP after
them. The machine and the layer below it have what the last CORE_INIT_RSP has told. -/
structure SmWorld.EntersIdle (w : SmWorld SmHistory) (version : NciInterfaceVersion)
    (rsp : CoreInitRsp) : Prop where
  lastState : w.sm.lastState = .idle
  received : ∃ messages, Initializes version rsp messages
    ∧ (messages ++ [ResetMessage.setConfigRsp]).Sublist w.io.received
  lastInit : ResetMessage.lastInit w.io.received = some (version, rsp)
  capabilities : w.sm.capabilities = rsp.capabilities version
  limits : ∀ (ε : Type) (E : SarEnv ε) (fuel : Nat) (sar : World ε),
    (w.io.sarCalls.foldl (SarCall.perform E fuel) sar).sar.limits = rsp.limits

/-- What the end of the reset transition is to be. -/
def SmHost.Concludes (H : SmHost) (n : Nat) (w : SmWorld SmHistory) : Prop :=
  ∃ w₀ version rsp, w = nciSmEmitPendingSignals (H.io n) w₀ ∧ w₀.EntersIdle version rsp

/-- Whatever happens to a new machine, the reset transition takes it to RFST_IDLE only after the
controller has been initialized, if nothing is requested while data packets are being dropped
because of the number of connections that CORE_INIT_RSP tells. -/
theorem resetHandshake (H : SmHost) (n : Nat) (hdiscreet : H.Discreet) {w : SmWorld SmHistory}
    (hw : H.Reaches n w) (hactive : w.sm.activeTransition = some .reset) {e : SmEvent}
    (hidle : (H.step n w e).sm.lastState = .idle) :
  H.Concludes n (H.step n w e)
  := by
  have haway : w.sm.lastState ≠ .idle := (hw.leadsAway _ hactive).symm
  obtain ⟨payload, rfl, houtstanding, hstep⟩ := H.step_idle hactive haway hidle
  obtain ⟨rsp, later, hcontrol, hinit⟩ :=
    (hw.resets hdiscreet hactive).initialized houtstanding
  obtain ⟨messages, hinitializes, hsublist⟩ := hinit.initializes
  obtain ⟨⟨earlier, hcalls⟩, hlater⟩ := hinit.limits
  obtain ⟨w₁, hw₁⟩ : ∃ w₁, w₁ = (w.note (.arrived (.response payload))).note
      (.answered .resetSetConfigRsp .success payload) := ⟨_, rfl⟩
  have hreceived : w₁.io.received = w.io.received ++ [.setConfigRsp] := by
    have hreceived₁ : w₁.io.received = SmHistory.received (w.io ++ [.arrived (.response payload)])
        ++ [.setConfigRsp] := by
      rw [hw₁]
      exact received_answered rfl rfl
    have harrived : SmHistory.received (w.io ++ [.arrived (.response payload)])
        = w.io.received := (SmHistory.received_append ..).trans (List.append_nil _)
    rw [hreceived₁, harrived]
  have hcalls₁ : w₁.io.sarCalls = w.io.sarCalls := by
    rw [hw₁]
    have happend : SmHistory.sarCalls (w.io ++ [.arrived (.response payload)]
        ++ [.answered .resetSetConfigRsp .success payload])
        = w.io.sarCalls ++ [] ++ [] :=
      List.filterMap_append.trans (congrArg (· ++ []) List.filterMap_append)
    rw [List.append_nil, List.append_nil] at happend
    exact happend
  have hcapabilities₁ : w₁.sm.capabilities = w.sm.capabilities := by
    rw [hw₁]
    rfl
  rw [← hw₁] at hstep
  obtain ⟨hstate, hcapabilities, hreceived', hcalls'⟩ := enter_idle (H := H) n w₁
  refine ⟨_, w.sm.version, rsp, hstep, hstate, ⟨messages, hinitializes, ?_⟩, ?_, ?_, ?_⟩
  · rw [hreceived', hreceived]
    exact hsublist.append (List.Sublist.refl _)
  · rw [hreceived', hreceived]
    refine Eq.trans ?_ hinit.lastInit
    simp [ResetMessage.lastInit]
  · exact (hcapabilities.trans hcapabilities₁).trans hinit.capabilities
  · intro ε E fuel sar
    rw [hcalls', hcalls₁, hcalls]
    exact limits_perform E fuel rsp earlier hlater hcontrol sar

/-- A new machine goes to RFST_IDLE. -/
theorem resetHandshake_idle :
  SmHost.quiet.Concludes 0
    (SmHost.quiet.run 0 (SmWorld.new nciSmDefault) (eventsToDiscovery.take 4))
  := by
  have hreaches : SmHost.quiet.Reaches 0
      (SmHost.quiet.run 0 (SmWorld.new nciSmDefault) (eventsToDiscovery.take 3)) :=
    ⟨nciTechDefault, ⟨0, []⟩, ⟨0, []⟩, eventsToDiscovery.take 3, rfl⟩
  have hidle : (SmHost.quiet.step 0
      (SmHost.quiet.run 0 (SmWorld.new nciSmDefault) (eventsToDiscovery.take 3))
      (.response [0, 0])).sm.lastState = .idle := by decide
  exact resetHandshake SmHost.quiet 0 (fun _ _ => rfl) hreaches (by decide) hidle

end Nci
