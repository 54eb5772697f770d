import LibNciCore.Sm.Outcome
import LibNciCore.Sm.Invariant
import Mathlib.Data.List.Induction
import Mathlib.Logic.Relation

/-!
# The moves of the machine

Whatever happens, the machine does it in small moves: it enters a state and leaves that function
again, it starts a transition, it sends the next command, it emits a signal. An invariant of the
machine is a property that each single move keeps. Every function of the machine is a sequence of
moves, with those of the requests that are made in its callbacks in between.
-/

namespace Nci

/-! ### Parts of the machine -/

/-- The machine without what does not decide which moves it can make. -/
def NciSm.kernel (self : NciSm) : NciSm :=
  { self with
    opMode := 0
    techs := 0
    pendingSwitch := none
    active := fun _ => false
    discoveries := []
    timeoutId := fun _ => false }

/-- Finishing the active transition stops its timer and may forget a notification. -/
theorem nciSmFinishActiveTransition_eq (self : NciSm) :
  ∃ timeoutId ntf expectingNtf, nciSmFinishActiveTransition self
    = { self with
        activeTransition := none
        timeoutId := timeoutId
        ntf := ntf
        expectingNtf := expectingNtf }
  := by
  rw [nciSmFinishActiveTransition]
  split
  · rename_i t ht
    cases t <;> exact ⟨_, _, _, rfl⟩
  · rename_i h
    rw [← h]
    exact ⟨_, _, _, rfl⟩

/-- Leaving the active state changes what belongs to that state. -/
theorem nciSmLeaveActiveState_eq (self : NciSm) :
  ∃ active discoveries, nciSmLeaveActiveState self
    = { self with active := active, discoveries := discoveries }
  := by
  rw [nciSmLeaveActiveState]
  split
  · rename_i state h
    cases state <;> exact ⟨_, _, rfl⟩
  · exact ⟨_, _, rfl⟩

theorem nciSmMarkActive_eq (t : NciTransition) (self : NciSm) :
  ∃ timeoutId ntf expectingNtf, nciSmMarkActive t self
    = { self with
        activeTransition := some t
        timeoutId := timeoutId
        ntf := ntf
        expectingNtf := expectingNtf }
  := by
  obtain ⟨timeoutId, ntf, expectingNtf, h⟩ := nciSmFinishActiveTransition_eq self
  rw [nciSmMarkActive, h]
  split <;> exact ⟨_, _, _, rfl⟩

/-- Signals are queued: none is lost, and the given one is pending if something has changed. -/
structure Queued (sig : NciSmSignal) (changed : Prop) (before after : NciSmSignal → Bool) :
    Prop where
  kept : ∀ s, before s = true → after s = true
  queued : changed → after sig = true

theorem nciSmSetLastState_eq (state : NciState) (self : NciSm) :
  ∃ pendingSignals, nciSmSetLastState state self
      = { self with lastState := state, pendingSignals := pendingSignals }
    ∧ Queued .lastState (self.lastState ≠ state) self.pendingSignals pendingSignals
  := by
  rw [nciSmSetLastState]
  split
  · refine ⟨_, rfl, fun s hs => ?_, fun _ => Function.update_self ..⟩
    by_cases heq : s = .lastState
    · rw [heq, Function.update_self]
    · rw [Function.update_of_ne heq]
      exact hs
  · rename_i h
    rw [not_not] at h
    rw [← h]
    exact ⟨_, rfl, fun _ hs => hs, fun hne => absurd rfl hne⟩

theorem nciSmSetNextState_eq (state : NciState) (self : NciSm) :
  ∃ pendingSignals, nciSmSetNextState state self
      = { self with nextState := state, pendingSignals := pendingSignals }
    ∧ Queued .nextState (self.nextState ≠ state) self.pendingSignals pendingSignals
  := by
  rw [nciSmSetNextState]
  split
  · refine ⟨_, rfl, fun s hs => ?_, fun _ => Function.update_self ..⟩
    by_cases heq : s = .nextState
    · rw [heq, Function.update_self]
    · rw [Function.update_of_ne heq]
      exact hs
  · rename_i h
    rw [not_not] at h
    rw [← h]
    exact ⟨_, rfl, fun _ hs => hs, fun hne => absurd rfl hne⟩

/-- A state that has been entered is the last one, and the next one unless a transition has been
started. -/
theorem nciSmEndEntering_eq (state : NciState) (self : NciSm) :
  ∃ pendingSignals, nciSmEndEntering state self
      = { self with
          lastState := state
          nextState := if self.activeTransition = none then state else self.nextState
          pendingSignals := pendingSignals
          enteringState := self.enteringState - 1 }
    ∧ Queued .lastState (self.lastState ≠ state) self.pendingSignals pendingSignals
    ∧ Queued .nextState (self.activeTransition = none ∧ self.nextState ≠ state)
        self.pendingSignals pendingSignals
  := by
  obtain ⟨pendingLast, hlast, hqueuedLast⟩ := nciSmSetLastState_eq state self
  obtain ⟨pendingNext, hnext, hqueuedNext⟩ := nciSmSetNextState_eq state
    { self with lastState := state, pendingSignals := pendingLast }
  unfold nciSmEndEntering
  rw [hlast]
  dsimp only
  by_cases hactive : self.activeTransition = none
  · rw [if_pos (Option.isNone_iff_eq_none.mpr hactive), if_pos hactive, hnext]
    refine ⟨_, rfl, ⟨fun s hs => ?_, fun hne => ?_⟩, fun s hs => ?_, fun hne => ?_⟩
    · exact hqueuedNext.kept s (hqueuedLast.kept s hs)
    · exact hqueuedNext.kept _ (hqueuedLast.queued hne)
    · exact hqueuedNext.kept s (hqueuedLast.kept s hs)
    · exact hqueuedNext.queued hne.2
  · rw [if_neg (fun h => hactive (Option.isNone_iff_eq_none.mp h)), if_neg hactive]
    exact ⟨_, rfl, hqueuedLast, hqueuedLast.kept, fun hne => absurd hne.1 hactive⟩

/-- A machine that has stalled rests in the given state. -/
theorem nciSmStalled_eq (state : NciState) (self : NciSm) :
  ∃ pendingSignals timeoutId ntf expectingNtf active discoveries, nciSmStalled state self
      = { self with
          lastState := state
          nextState := state
          pendingSignals := pendingSignals
          activeTransition := none
          activeState := some state
          timeoutId := timeoutId
          ntf := ntf
          expectingNtf := expectingNtf
          active := active
          discoveries := discoveries }
    ∧ Queued .lastState (self.lastState ≠ state) self.pendingSignals pendingSignals
    ∧ Queued .nextState (self.nextState ≠ state) self.pendingSignals pendingSignals
  := by
  obtain ⟨timeoutId, ntf, expectingNtf, hfinish⟩ := nciSmFinishActiveTransition_eq self
  obtain ⟨pendingLast, hlast, hqueuedLast⟩ := nciSmSetLastState_eq state
    (nciSmFinishActiveTransition self)
  obtain ⟨pendingNext, hnext, hqueuedNext⟩ := nciSmSetNextState_eq state
    (nciSmSetLastState state (nciSmFinishActiveTransition self))
  rw [hlast] at hnext hqueuedNext
  rw [hfinish] at hlast hqueuedLast hnext hqueuedNext
  have hkept : ∀ s, self.pendingSignals s = true → pendingNext s = true :=
    fun s hs => hqueuedNext.kept s (hqueuedLast.kept s hs)
  have hqueued : Queued .lastState (self.lastState ≠ state) self.pendingSignals pendingNext :=
    ⟨hkept, fun hne => hqueuedNext.kept _ (hqueuedLast.queued hne)⟩
  have hqueued' : Queued .nextState (self.nextState ≠ state) self.pendingSignals pendingNext :=
    ⟨hkept, hqueuedNext.queued⟩
  have hself : nciSmStalled state self
      = if self.activeState ≠ some state then
          nciStateDefaultEnter state (nciSmReplaceActiveState state
            (nciSmSetNextState state (nciSmSetLastState state (nciSmFinishActiveTransition self))))
        else
          nciSmSetNextState state
            (nciSmSetLastState state (nciSmFinishActiveTransition self)) := by
    rw [nciSmStalled, hfinish, hlast, hnext]
  rw [hself, hfinish, hlast, hnext]
  split
  · obtain ⟨active, discoveries, hleave⟩ := nciSmLeaveActiveState_eq { self with
      lastState := state
      nextState := state
      pendingSignals := pendingNext
      activeTransition := none
      timeoutId := timeoutId
      ntf := ntf
      expectingNtf := expectingNtf }
    rw [nciSmReplaceActiveState, hleave]
    exact ⟨_, _, _, _, _, _, rfl, hqueued, hqueued'⟩
  · rename_i hactive
    rw [not_not] at hactive
    rw [← hactive]
    exact ⟨_, _, _, _, _, _, rfl, hqueued, hqueued'⟩

/-! ### Starting a transition -/

/-- The timer of a transition is started, if transitions time out. -/
def NciTransition.timer (t : NciTransition) (timeout : Bool) (self : NciSm) : NciSm :=
  { self with timeoutId := Function.update self.timeoutId t timeout }

/-- The machine that sends the first command of a transition. -/
def NciTransition.starting (t : NciTransition) (timeout : Bool) (self : NciSm) : NciSm :=
  match t with
  | .reset => nciTransitionResetForget (timer .reset timeout (nciSmMarkActive .reset self))
  | .listenActiveToIdle =>
      timer .listenActiveToIdle timeout
        (nciTransitionListenActiveToIdleReset (nciSmMarkActive .listenActiveToIdle self))
  | t => t.timer timeout (nciSmMarkActive t self)

/-- The first command of a transition. -/
def NciTransition.firstCommand (ok : Bool) (sm : NciSm) : NciTransition → SmAction
  | .reset => .sent nciGidCore nciOidCoreReset (some [0x00]) .resetRsp ok sm
  | .idleToDiscovery =>
      .sent nciGidCore nciOidCoreGetConfig
        (some [5, nciConfigLaSensRes1, nciConfigLaSelInfo, nciConfigLaNfcid1,
          nciConfigLfProtocolType, nciConfigLiAHistBy])
        .idleToDiscoveryGetConfigRsp ok sm
  | .deactivateToIdle =>
      .sent nciGidRf nciOidRfDeactivate (some [0x00]) .deactivateToIdleRsp ok sm
  | .deactivateToDiscovery =>
      .sent nciGidRf nciOidRfDeactivate (some [0x03]) .deactivateToDiscoveryRsp ok sm
  | .pollActiveToIdle =>
      .sent nciGidRf nciOidRfDeactivate (some [0x00]) .pollActiveToIdleRsp ok sm
  | .listenActiveToIdle =>
      .sent nciGidRf nciOidRfDeactivate (some [0x00]) .listenActiveToIdleRsp ok sm

/-- The world after a transition has been started, or its command has not been accepted. -/
def SmWorld.started (t : NciTransition) (timeout ok : Bool) (w : SmWorld SmHistory) :
    SmWorld SmHistory where
  sm :=
    if ok then nciSmDeactivateState (t.starting timeout w.sm)
    else nciSmUnmarkActive t (t.starting timeout w.sm)
  io := w.io ++ [t.firstCommand ok (t.starting timeout w.sm)]

/-- Up to what belongs to single transitions, starting one only makes it the active one. -/
theorem NciTransition.starting_eq (t : NciTransition) (timeout : Bool) (self : NciSm) :
  ∃ timeoutId ntf expectingNtf, t.starting timeout self
    = { (if t = .reset then nciTransitionResetForget self else self) with
        activeTransition := some t
        timeoutId := timeoutId
        ntf := ntf
        expectingNtf := expectingNtf }
  := by
  obtain ⟨timeoutId, ntf, expectingNtf, h⟩ := nciSmMarkActive_eq t self
  cases t
  case reset =>
    exact ⟨_, _, _, congrArg (fun self => nciTransitionResetForget (timer .reset timeout self)) h⟩
  case listenActiveToIdle =>
    exact ⟨_, _, _, congrArg
      (fun self => timer .listenActiveToIdle timeout (nciTransitionListenActiveToIdleReset self)) h⟩
  all_goals exact ⟨_, _, _, congrArg (timer _ timeout) h⟩

/-- A transition that has been started is active, and no state is. -/
theorem SmWorld.started_accepted (t : NciTransition) (timeout : Bool) (w : SmWorld SmHistory) :
  ∃ timeoutId ntf expectingNtf active discoveries, (w.started t timeout true).sm
    = { (if t = .reset then nciTransitionResetForget w.sm else w.sm) with
        activeTransition := some t
        timeoutId := timeoutId
        ntf := ntf
        expectingNtf := expectingNtf
        active := active
        discoveries := discoveries
        activeState := none }
  := by
  obtain ⟨timeoutId, ntf, expectingNtf, h⟩ := t.starting_eq timeout w.sm
  obtain ⟨active, discoveries, h'⟩ := nciSmLeaveActiveState_eq (t.starting timeout w.sm)
  rw [started, if_pos rfl, nciSmDeactivateState, h', h]
  exact ⟨_, _, _, _, _, rfl⟩

/-- A transition whose command is not accepted is not active. -/
theorem SmWorld.started_refused (t : NciTransition) (timeout : Bool) (w : SmWorld SmHistory) :
  ∃ timeoutId ntf expectingNtf, (w.started t timeout false).sm
    = { (if t = .reset then nciTransitionResetForget w.sm else w.sm) with
        activeTransition := none
        timeoutId := timeoutId
        ntf := ntf
        expectingNtf := expectingNtf }
  := by
  obtain ⟨timeoutId, ntf, expectingNtf, h⟩ := t.starting_eq timeout w.sm
  rw [started, if_neg Bool.false_ne_true, nciSmUnmarkActive, h, if_pos rfl]
  exact ⟨_, _, _, rfl⟩

/-- Whether or not its command is accepted, starting a transition does not concern what follows. -/
theorem SmWorld.started_frame (t : NciTransition) (timeout ok : Bool) (w : SmWorld SmHistory) :
  (w.started t timeout ok).sm.enteringState = w.sm.enteringState
    ∧ (w.started t timeout ok).sm.nextTransition = w.sm.nextTransition
    ∧ (w.started t timeout ok).sm.pendingSignals = w.sm.pendingSignals
    ∧ (w.started t timeout ok).sm.lastState = w.sm.lastState
    ∧ (w.started t timeout ok).sm.nextState = w.sm.nextState
  := by
  cases ok with
  | true =>
      obtain ⟨_, _, _, _, _, h⟩ := started_accepted t timeout w
      rw [h]
      split <;> exact ⟨rfl, rfl, rfl, rfl, rfl⟩
  | false =>
      obtain ⟨_, _, _, h⟩ := started_refused t timeout w
      rw [h]
      split <;> exact ⟨rfl, rfl, rfl, rfl, rfl⟩

variable {H : SmHost} {perform : List SmRequest → SmWorld SmHistory → SmWorld SmHistory}
  {w : SmWorld SmHistory}

theorem nciSmStartTransition_ioWith (t : NciTransition) (w : SmWorld SmHistory) :
  nciSmStartTransition (H.ioWith perform) t w
    = (H.send w.io, w.started t (H.timeout w.io) (H.send w.io))
  := by
  have hstart : nciTransitionStart (H.ioWith perform) t (w.map (nciSmMarkActive t))
      = (H.send w.io, ⟨t.starting (H.timeout w.io) w.sm,
        w.io ++ [t.firstCommand (H.send w.io) (t.starting (H.timeout w.io) w.sm)]⟩) := by
    cases t <;> rfl
  rw [nciSmStartTransition, hstart, SmWorld.started]
  cases H.send w.io <;> rfl

/-! ### Moves -/

/-- An event has just arrived. -/
def SmWorld.Arriving (w : SmWorld SmHistory) : Prop := ∃ earlier e, w.io = earlier ++ [.arrived e]

/-- A response to the last command is being handled while the transition of its response function
is active. -/
structure SmWorld.Answering (w : SmWorld SmHistory) (resp : NciSmResponseFunc)
    (payload : List UInt8) : Prop where
  received : ∃ earlier, w.io = earlier ++ [.answered resp .success payload]
  active : ∃ t, resp.transition = some t ∧ w.sm.activeTransition = some t

/-- The states to which a notification leads the machine that rests in a state. -/
def NciState.leads : NciState → List NciState
  | .discovery => [.w4AllDiscoveries, .pollActive, .listenActive]
  | .w4AllDiscoveries => [.w4HostSelect]
  | .w4HostSelect => [.pollActive]
  | .pollActive => [.idle, .discovery]
  | .listenActive => [.listenSleep, .discovery]
  | .listenSleep => [.listenActive, .discovery]
  | .init | .error | .stop | .idle => []

/-- The states that can be entered. -/
inductive SmWorld.Enterable (w : SmWorld SmHistory) : NciState → Prop
  | internal {state : NciState} (hinternal : state.isInternal = true)
      (hnext : w.sm.nextTransition = none) : Enterable w state
  | answered (hentering : w.sm.enteringState = 0) {resp : NciSmResponseFunc}
      {payload : List UInt8} (h : w.Answering resp payload) {state : NciState}
      (houtcome : resp.outcome payload w.sm = .enter state) : Enterable w state
  | deactivated (hentering : w.sm.enteringState = 0) {t : NciTransition}
      (h : w.sm.activeTransition = some t)
      (ht : t = .deactivateToDiscovery ∨ t = .pollActiveToIdle) {state : NciState}
      (hstate : state = .idle ∨ state = .discovery) : Enterable w state
  | matched (hentering : w.sm.enteringState = 0)
      (h : w.sm.activeTransition = some .listenActiveToIdle) : Enterable w .idle
  | notified (hentering : w.sm.enteringState = 0) (h : w.sm.activeTransition = none)
      {state : NciState} (hstate : state ∈ w.sm.lastState.leads) : Enterable w state
  | nested (h : w.sm.activeTransition = none) (hentering : w.sm.enteringState ≠ 0)
      (hstate : w.sm.activeState = some .w4AllDiscoveries) : Enterable w .w4HostSelect

/-- The machine begins to enter a state, which becomes the active one. -/
def nciSmEntering (state : NciState) (self : NciSm) : NciSm :=
  let self := nciSmBeginEntering self
  if self.activeState = some state then self else nciSmReplaceActiveState state self

/-- A state that is being entered is the active one, and no transition is active. -/
theorem nciSmEntering_eq (state : NciState) (self : NciSm) :
  ∃ timeoutId ntf expectingNtf active discoveries, nciSmEntering state self
    = { self with
        activeTransition := none
        timeoutId := timeoutId
        ntf := ntf
        expectingNtf := expectingNtf
        active := active
        discoveries := discoveries
        activeState := some state
        enteringState := self.enteringState + 1 }
  := by
  obtain ⟨timeoutId, ntf, expectingNtf, h⟩ := nciSmFinishActiveTransition_eq
    { self with enteringState := self.enteringState + 1 }
  have hbegin : nciSmBeginEntering self = _ := h
  rw [nciSmEntering, hbegin]
  dsimp only
  split
  · rename_i hactive
    rw [← hactive]
    exact ⟨_, _, _, _, _, rfl⟩
  · obtain ⟨active, discoveries, h'⟩ := nciSmLeaveActiveState_eq { self with
      activeTransition := none
      timeoutId := timeoutId
      ntf := ntf
      expectingNtf := expectingNtf
      enteringState := self.enteringState + 1 }
    rw [nciSmReplaceActiveState, h']
    exact ⟨_, _, _, _, _, rfl⟩

/-- The machine remembers what CORE_INIT_RSP tells. -/
def CoreInitRsp.remember (rsp : CoreInitRsp) (self : NciSm) : NciSm :=
  { self with
    rfInterfaces := rsp.rfInterfaces
    nfccDiscovery := rsp.nfccDiscovery
    nfccRouting := rsp.nfccRouting
    nfccPower := rsp.nfccPower
    maxRoutingTableSize := rsp.maxRoutingTableSize }

/-- What follows after the number of connections has been set: the other limits, and
CORE_SET_CONFIG_CMD. -/
def CoreInitRsp.configuring (rsp : CoreInitRsp) (ok : Bool) (sm : NciSm) : List SmAction :=
  [.sar (.setMaxControlPayloadSize rsp.maxControlPayload), .sar (.setMaxDataPayloadSize 0),
    .sent nciGidCore nciOidCoreSetConfig (some (nciTransitionResetSetConfigCmd sm))
      .resetSetConfigRsp ok sm]

/-- The calls of the layer below that do not set the limits of CORE_INIT_RSP. -/
def SarCall.isMinor : SarCall → Bool
  | .setMaxDataPayloadSize _ | .setInitialCredits .. | .addCredits .. => true
  | .setMaxLogicalConnections _ | .setMaxControlPayloadSize _ => false

/-- The moves that decide where the machine goes. -/
inductive SmTurn : SmWorld SmHistory → SmWorld SmHistory → Prop
  | enter (w : SmWorld SmHistory) {state : NciState} (h : w.Enterable state) :
      SmTurn w (w.map (nciSmEntering state))
  | follow (w : SmWorld SmHistory) {state : NciState} {t : NciTransition}
      (hentering : w.sm.enteringState ≠ 0) (hstate : w.sm.activeState = some state)
      (hactive : w.sm.activeTransition = none) (hnext : w.sm.nextTransition = some t)
      (hdest : t.dest ≠ state) (timeout ok : Bool) :
      SmTurn w
        (((w.map fun self => { self with nextTransition := none }).started t timeout ok).map
          (nciSmEndEntering state))
  | forget (w : SmWorld SmHistory) :
      SmTurn w (w.map fun self => { self with nextTransition := none })
  | leave (w : SmWorld SmHistory) (hentering : w.sm.enteringState ≠ 0)
      (hnext : w.sm.nextTransition = none) (state : NciState)
      (hactive : w.sm.activeTransition = none ∨ state = .w4AllDiscoveries) :
      SmTurn w (w.map (nciSmEndEntering state))
  | stall (w : SmWorld SmHistory) (version : NciInterfaceVersion) (expectingNtf : Bool)
      (hnext : w.sm.enteringState = 0 ∨ w.sm.nextTransition = none) (type : NciStall) :
      SmTurn w
        ⟨nciSmStalled type.state { w.sm with version := version, expectingNtf := expectingNtf },
          w.io ++ [.cancelled]⟩
  | start (w : SmWorld SmHistory) {t : NciTransition} (hactive : w.sm.activeTransition = none)
      (hnext : w.sm.nextTransition = none)
      (ht : t = .reset ∨ w.sm.enteringState = 0 ∧ t ∈ nciSmTransitions w.sm.lastState)
      (timeout ok : Bool)
      (hreset : ok = true → t = .reset → w.sm.lastState ≠ .idle
        ∨ w.sm.enteringState = 0 ∧ w.sm.nextState ≠ w.sm.lastState) :
      SmTurn w (w.started t timeout ok)
  | abandon (w : SmWorld SmHistory) {t : NciTransition} (hentering : w.sm.enteringState = 0)
      (hactive : w.sm.activeTransition = none)
      (ht : t = .reset ∨ t ∈ nciSmTransitions w.sm.lastState) (timeout : Bool) :
      SmTurn w
        ⟨nciSmStalled .error { (w.started t timeout true).sm with nextTransition := none },
          (w.started t timeout true).io ++ [.cancelled]⟩
  | queue (w : SmWorld SmHistory) {t t' : NciTransition} (hentering : w.sm.enteringState = 0)
      (hactive : w.sm.activeTransition = some t) (ht' : t' ∈ nciSmTransitions t.dest)
      (next : NciState) :
      SmTurn w
        (w.map fun self => nciSmSetNextState next { self with nextTransition := some t' })
  | aim (w : SmWorld SmHistory) {t : NciTransition} (hactive : w.sm.activeTransition = some t)
      (next : NciState) : SmTurn w (w.map (nciSmSetNextState next))
  | emit (w : SmWorld SmHistory) {sig : NciSmSignal} (h : w.sm.pendingSignals sig = true) :
      SmTurn w
        ((w.map fun self =>
          { self with pendingSignals := Function.update self.pendingSignals sig false }).note
            (.signal sig
              { w.sm with pendingSignals := Function.update w.sm.pendingSignals sig false }))

/-- The moves of the machine. -/
inductive SmMove (H : SmHost) : SmWorld SmHistory → SmWorld SmHistory → Prop
  | edit (w : SmWorld SmHistory) (sm : NciSm) (h : sm.kernel = w.sm.kernel) :
      SmMove H w (w.become sm)
  | sar (w : SmWorld SmHistory) (c : SarCall) (h : c.isMinor = true) :
      SmMove H w (w.note (.sar c))
  | activated (w : SmWorld SmHistory) (ntf : NciIntfActivationNtf) :
      SmMove H w (w.note (.intfActivated ntf))
  | answered (w : SmWorld SmHistory) (resp : NciSmResponseFunc) (status : NciRequestStatus)
      (payload : List UInt8) (h : w.io.outstanding = some resp) (harrived : w.Arriving) :
      SmMove H w (w.note (.answered resp status payload))
  | stay (w : SmWorld SmHistory) {resp : NciSmResponseFunc} {payload : List UInt8}
      (h : w.Answering resp payload) {sm : NciSm}
      (houtcome : resp.outcome payload w.sm = .stay sm) :
      SmMove H w (w.become sm)
  | send (w : SmWorld SmHistory) {resp : NciSmResponseFunc} {payload : List UInt8}
      (h : w.Answering resp payload) {sm : NciSm} {gid oid : UInt8} {cmd : Option (List UInt8)}
      {next : NciSmResponseFunc}
      (houtcome : resp.outcome payload w.sm = .send sm gid oid cmd next) (ok : Bool) :
      SmMove H w ((w.become sm).note (.sent gid oid cmd next ok sm))
  | configure (w : SmWorld SmHistory) {resp : NciSmResponseFunc} {payload : List UInt8}
      (h : w.Answering resp payload) {rsp : CoreInitRsp}
      (houtcome : resp.outcome payload w.sm = .configure rsp) (ok : Bool) :
      SmMove H w
        ⟨rsp.remember w.sm, w.io ++ .sar (.setMaxLogicalConnections rsp.maxLogicalConns)
          :: rsp.configuring ok (rsp.remember w.sm)⟩
  | remember (w : SmWorld SmHistory) {resp : NciSmResponseFunc} {payload : List UInt8}
      (h : w.Answering resp payload) {rsp : CoreInitRsp}
      (houtcome : resp.outcome payload w.sm = .configure rsp) (hreact : ¬H.Discreet) :
      SmMove H w
        ⟨rsp.remember w.sm, w.io ++ [.sar (.setMaxLogicalConnections rsp.maxLogicalConns)]⟩
  | resume (w : SmWorld SmHistory) (rsp : CoreInitRsp) (hreact : ¬H.Discreet)
      (hresetting : w.sm.control.Resetting) (ok : Bool) :
      SmMove H w ⟨w.sm, w.io ++ rsp.configuring ok w.sm⟩
  | renew (w : SmWorld SmHistory) (h : w.sm.activeTransition = some .reset)
      (hversion : w.sm.version = .v2) {payload : List UInt8} (hntf : isResetNtf payload = true)
      (harrived : ∃ earlier, w.io
        = earlier ++ [.arrived (.notification nciGidCore nciOidCoreReset payload)]) (ok : Bool) :
      SmMove H w
        (w.note (.sent nciGidCore nciOidCoreInit (some [0x00, 0x00]) .resetInitV2Rsp ok w.sm))
  | seen (w : SmWorld SmHistory) (h : w.sm.activeTransition = some .listenActiveToIdle)
      (harrived : w.Arriving) (ntf : NciRfDeactivateNtf) :
      SmMove H w (w.map fun self => { self with ntf := some ntf })
  | select (w : SmWorld SmHistory) (h : w.sm.activeTransition = none)
      (hentering : w.sm.enteringState ≠ 0) (payload : Option (List UInt8)) (ok : Bool) :
      SmMove H w
        (w.note (.sent nciGidRf nciOidRfDiscoverSelect payload .w4HostSelectRsp ok w.sm))
  | turn {w w' : SmWorld SmHistory} (h : SmTurn w w') : SmMove H w w'

/-! ### The course of the machine -/

/-- The machine goes the same way: only what single transitions remember may have changed. -/
structure NciSm.SameCourse (sm sm' : NciSm) : Prop where
  lastState : sm.lastState = sm'.lastState
  nextState : sm.nextState = sm'.nextState
  nextTransition : sm.nextTransition = sm'.nextTransition
  activeTransition : sm.activeTransition = sm'.activeTransition
  activeState : sm.activeState = sm'.activeState
  enteringState : sm.enteringState = sm'.enteringState
  pendingSignals : sm.pendingSignals = sm'.pendingSignals

theorem NciSm.SameCourse.refl (self : NciSm) :
  self.SameCourse self
  := ⟨rfl, rfl, rfl, rfl, rfl, rfl, rfl⟩

theorem NciSm.SameCourse.of_kernel {sm self : NciSm} (h : sm.kernel = self.kernel) :
  sm.SameCourse self
  := by
  have hlast := congrArg NciSm.lastState h
  have hnextState := congrArg NciSm.nextState h
  have hnext := congrArg NciSm.nextTransition h
  have hactive := congrArg NciSm.activeTransition h
  have hstate := congrArg NciSm.activeState h
  have hentering := congrArg NciSm.enteringState h
  have hpending := congrArg NciSm.pendingSignals h
  exact ⟨hlast, hnextState, hnext, hactive, hstate, hentering, hpending⟩

/-- The transition that a command is the first one of. -/
def NciSmResponseFunc.starts : NciSmResponseFunc → Option NciTransition
  | .resetRsp => some .reset
  | .idleToDiscoveryGetConfigRsp => some .idleToDiscovery
  | .deactivateToIdleRsp => some .deactivateToIdle
  | .deactivateToDiscoveryRsp => some .deactivateToDiscovery
  | .pollActiveToIdleRsp => some .pollActiveToIdle
  | .listenActiveToIdleRsp => some .listenActiveToIdle
  | .resetInitV1Rsp | .resetInitV2Rsp | .resetSetConfigRsp | .idleToDiscoverySetConfigRsp
  | .idleToDiscoverySetMixedRoutingRsp | .idleToDiscoverySetProtocolRoutingRsp
  | .idleToDiscoveryLastProtocolRoutingRsp | .idleToDiscoverySetTechRoutingRsp
  | .idleToDiscoverMapRsp | .idleToDiscoveryDiscoverRsp | .deactivateToDiscoveryIdleRsp
  | .w4HostSelectRsp => none

/-- Neither is a transition started nor a signal emitted. -/
def SmAction.isPlain : SmAction → Bool
  | .sent _ _ _ resp _ _ => resp.starts.isNone
  | .signal .. => false
  | .arrived _ | .cancelled | .answered .. | .sar _ | .intfActivated _ => true

/-- The commands that answer a response are not the first ones of a transition. -/
theorem NciSmResponseFunc.starts_outcome {resp next : NciSmResponseFunc} {payload : List UInt8}
    {self sm : NciSm} {gid oid : UInt8} {cmd : Option (List UInt8)}
    (h : resp.outcome payload self = .send sm gid oid cmd next) :
  next.starts = none
  := by
  have hrouting : configureRoutingOutcome self = .send sm gid oid cmd next →
      next.starts = none := by
    rw [configureRoutingOutcome]
    split_ifs <;> rintro ⟨⟩ <;> rfl
  cases resp
  case resetRsp =>
    rw [outcome, resetOutcome] at h
    split_ifs at h
    cases h
    rfl
  case resetInitV1Rsp =>
    rw [outcome] at h
    cases hparsed : parseInitV1Rsp payload <;> rw [hparsed] at h <;> cases h
  case resetInitV2Rsp =>
    rw [outcome] at h
    cases hparsed : parseInitV2Rsp payload <;> rw [hparsed] at h <;> cases h
  case idleToDiscoveryGetConfigRsp =>
    rw [outcome, getConfigOutcome] at h
    split at h
    · cases h
      rfl
    · exact hrouting h
  case idleToDiscoverySetConfigRsp => exact hrouting h
  all_goals
    rw [outcome] at h
    try split_ifs at h
    all_goals cases h <;> rfl

/-- A move is a turn, or the machine goes the same way. -/
theorem SmMove.course {w w' : SmWorld SmHistory} (h : SmMove H w w') :
  SmTurn w w' ∨ (w'.sm.SameCourse w.sm
    ∧ ∃ new, w'.io = w.io ++ new ∧ ∀ a ∈ new, a.isPlain = true)
  := by
  have hmachine : ∀ {resp : NciSmResponseFunc} {payload sm},
      (resp.outcome payload w.sm).machine = some sm → sm.SameCourse w.sm := by
    intro resp payload sm hsm
    obtain ⟨_, _, rfl⟩ := NciSmResponseFunc.machine_outcome hsm
    exact ⟨rfl, rfl, rfl, rfl, rfl, rfl, rfl⟩
  have hnote : ∀ {sm : NciSm} {a : SmAction}, sm.SameCourse w.sm → a.isPlain = true →
      sm.SameCourse w.sm ∧ ∃ new, w.io ++ [a] = w.io ++ new ∧ ∀ a ∈ new, a.isPlain = true :=
    fun hsame ha => ⟨hsame, [_], rfl, by simpa using ha⟩
  have hkeep : ∀ {sm : NciSm}, sm.SameCourse w.sm →
      sm.SameCourse w.sm ∧ ∃ new, w.io = w.io ++ new ∧ ∀ a ∈ new, a.isPlain = true :=
    fun hsame => ⟨hsame, [], (List.append_nil _).symm, by simp⟩
  have hrefl := NciSm.SameCourse.refl w.sm
  cases h with
  | turn h => exact Or.inl h
  | edit sm hkernel => exact Or.inr (hkeep (.of_kernel hkernel))
  | sar c _ => exact Or.inr (hnote hrefl rfl)
  | activated ntf => exact Or.inr (hnote hrefl rfl)
  | answered resp status payload _ _ => exact Or.inr (hnote hrefl rfl)
  | @stay resp payload _ sm houtcome =>
      have hsm : (resp.outcome payload w.sm).machine = some sm := by
        rw [houtcome]
        rfl
      exact Or.inr (hkeep (hmachine hsm))
  | @send resp payload _ sm gid oid cmd next houtcome ok =>
      have hsm : (resp.outcome payload w.sm).machine = some sm := by
        rw [houtcome]
        rfl
      have hstarts := NciSmResponseFunc.starts_outcome houtcome
      exact Or.inr (hnote (hmachine hsm) (Option.isNone_iff_eq_none.mpr hstarts))
  | @configure resp payload _ rsp houtcome ok =>
      refine Or.inr ⟨⟨rfl, rfl, rfl, rfl, rfl, rfl, rfl⟩, _, rfl, ?_⟩
      simp [CoreInitRsp.configuring, SmAction.isPlain, NciSmResponseFunc.starts]
  | remember _ _ _ => exact Or.inr (hnote ⟨rfl, rfl, rfl, rfl, rfl, rfl, rfl⟩ rfl)
  | resume rsp _ _ ok =>
      refine Or.inr ⟨hrefl, _, rfl, ?_⟩
      simp [CoreInitRsp.configuring, SmAction.isPlain, NciSmResponseFunc.starts]
  | renew _ _ _ _ ok => exact Or.inr (hnote hrefl rfl)
  | seen _ _ ntf => exact Or.inr (hkeep ⟨rfl, rfl, rfl, rfl, rfl, rfl, rfl⟩)
  | select _ _ payload ok => exact Or.inr (hnote hrefl rfl)

end Nci
