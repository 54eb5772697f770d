import LibNciCore.Sm.Calm
import LibNciCore.Sm.Requests
import LibNciCore.Sm.Timers

/-!
# Recovery

A machine that is reset gets to where it is sent next, wherever it comes from, if the controller
answers its commands. Only a few commands need to be answered well, and no answer comes in vain:
what is left to be done becomes less with each of them.
-/

namespace Nci

/-! ### A controller that cooperates -/

/-- A response that the machine goes on with. For most commands that is any response. -/
def NciSmResponseFunc.welcomes (resp : NciSmResponseFunc) (payload : List UInt8) : Bool :=
  match resp with
  | .resetRsp => (payload.length == 1 || payload.length == 3) && startsWithOk payload
  | .resetInitV1Rsp => (parseInitV1Rsp payload).isSome
  | .resetInitV2Rsp => (parseInitV2Rsp payload).isSome
  | .idleToDiscoverMapRsp | .idleToDiscoveryDiscoverRsp => startsWithOk payload
  | _ => true

/-- The machine waits for CORE_RESET_NTF. -/
structure SmWorld.AwaitsReset (w : SmWorld SmHistory) : Prop where
  activeTransition : w.sm.activeTransition = some .reset
  version : w.sm.version = .v2
  outstanding : w.io.outstanding = none

/-- What the machine waits for: a response to its last command, or CORE_RESET_NTF. -/
def SmWorld.Expects (w : SmWorld SmHistory) : SmEvent → Prop
  | .response payload => w.io.outstanding.any fun resp => resp.welcomes payload
  | .notification gid oid payload =>
      w.AwaitsReset ∧ gid = nciGidCore ∧ oid = nciOidCoreReset ∧ isResetNtf payload = true
  | .request _ | .commandTimeout | .transitionTimeout _ | .idle | .error => False

/-- What does not concern a machine that is going somewhere: notifications that nobody handles, a
request for where it is going, the idle callback, and timers that are not running. -/
def SmWorld.Ignores (w : SmWorld SmHistory) : SmEvent → Prop
  | .notification gid oid _ =>
      w.sm.activeTransition.isSome = true
        ∧ (gid ≠ nciGidCore ∨ oid ≠ nciOidCoreReset ∧ oid ≠ nciOidCoreConnCredits)
  | .request r => w.sm.activeTransition.isSome = true ∧ r = .switchTo w.sm.nextState
  | .idle => w.sm.activeTransition.isSome = true
  | .transitionTimeout t => w.sm.activeTransition.isSome = true ∧ w.sm.timeoutId t = false
  | .commandTimeout => w.sm.activeTransition.isSome = true ∧ w.io.outstanding = none
  | .response _ | .error => False

instance (w : SmWorld SmHistory) : Decidable w.AwaitsReset :=
  decidable_of_iff (w.sm.activeTransition = some .reset ∧ w.sm.version = .v2
      ∧ w.io.outstanding = none)
    ⟨fun h => ⟨h.1, h.2.1, h.2.2⟩, fun h => ⟨h.activeTransition, h.version, h.outstanding⟩⟩

instance (w : SmWorld SmHistory) (e : SmEvent) : Decidable (w.Expects e) := by
  cases e <;> unfold SmWorld.Expects <;> infer_instance

instance (w : SmWorld SmHistory) (e : SmEvent) : Decidable (w.Ignores e) := by
  cases e <;> unfold SmWorld.Ignores <;> infer_instance

/-- Only what is expected takes place, and what does not concern the machine. -/
def SmHost.Cooperative (H : SmHost) (n : Nat) (w : SmWorld SmHistory) : List SmEvent → Prop
  | [] => True
  | e :: events => (w.Expects e ∨ w.Ignores e) ∧ H.Cooperative n (H.step n w e) events

instance SmHost.decidableCooperative (H : SmHost) (n : Nat) (w : SmWorld SmHistory)
    (events : List SmEvent) : Decidable (H.Cooperative n w events) :=
  match events with
  | [] => inferInstanceAs (Decidable True)
  | e :: events =>
      have := H.decidableCooperative n (H.step n w e) events
      inferInstanceAs (Decidable ((w.Expects e ∨ w.Ignores e)
        ∧ H.Cooperative n (H.step n w e) events))

/-- The controller answers a command, or tells that it has been reset. -/
def SmEvent.isAnswer : SmEvent → Bool
  | .response _ => true
  | .notification gid oid _ => gid == nciGidCore && oid == nciOidCoreReset
  | .request _ | .commandTimeout | .transitionTimeout _ | .idle | .error => false

/-! ### What is left to be done -/

/-- The most answers that the transition may still take, the one that is waited for included. -/
def NciSmResponseFunc.remaining : NciSmResponseFunc → Nat
  | .resetRsp => 4
  | .resetInitV1Rsp | .resetInitV2Rsp => 2
  | .resetSetConfigRsp => 1
  | .idleToDiscoveryGetConfigRsp => 7
  | .idleToDiscoverySetConfigRsp => 6
  | .idleToDiscoverySetMixedRoutingRsp => 5
  | .idleToDiscoverySetProtocolRoutingRsp => 4
  | .idleToDiscoveryLastProtocolRoutingRsp | .idleToDiscoverySetTechRoutingRsp => 3
  | .idleToDiscoverMapRsp => 2
  | .idleToDiscoveryDiscoverRsp => 1
  | .deactivateToIdleRsp | .deactivateToDiscoveryRsp | .deactivateToDiscoveryIdleRsp
  | .pollActiveToIdleRsp | .listenActiveToIdleRsp | .w4HostSelectRsp => 0

/-- The most answers that the machine may still take on its way. -/
def SmWorld.remaining (w : SmWorld SmHistory) : Nat :=
  w.io.outstanding.elim 3 NciSmResponseFunc.remaining
    + if w.sm.nextTransition.isSome then 7 else 0

/-- The reset transition is active, or the one to RFST_DISCOVERY, and leads to the given state. -/
inductive SmControl.Way (target : NciState) (c : SmControl) : Prop where
  | reset (active : c.activeTransition = some .reset) (next : c.nextTransition = none)
      (htarget : target = .idle)
  | resetFirst (active : c.activeTransition = some .reset)
      (next : c.nextTransition = some .idleToDiscovery) (htarget : target = .discovery)
  | discover (active : c.activeTransition = some .idleToDiscovery) (next : c.nextTransition = none)
      (htarget : target = .discovery)

/-- The control of a machine that is on its way to a state. -/
structure SmControl.OnWay (target : NciState) (c : SmControl) : Prop where
  enteringState : c.enteringState = 0
  pendingSwitch : c.pendingSwitch = none
  nextState : c.nextState = target
  way : c.Way target

/-- The machine is on its way to a state, and waits for something. -/
structure SmWorld.OnWay (target : NciState) (w : SmWorld SmHistory) : Prop where
  control : w.sm.control.OnWay target
  waits : (∃ resp, w.io.outstanding = some resp ∧ resp.transition = w.sm.activeTransition)
    ∨ w.AwaitsReset

/-- The machine rests in a state, and waits for nothing. -/
structure SmWorld.Rests (target : NciState) (w : SmWorld SmHistory) : Prop where
  control : SmControl.RestsIn target w.sm.control
  outstanding : w.io.outstanding = none

/-! ### What waits for a response -/

section

variable {H : SmHost} {w : SmWorld SmHistory}

/-- Nothing is requested from inside callbacks that are not nested. -/
theorem silent_io_zero :
  (H.io 0).Silent
  := by
  constructor
  · intro _ _
    rfl
  · intro _ _
    rfl
  · intro _ _
    rfl

theorem outstanding_send (hsend : ∀ history, H.send history = true) (gid oid : UInt8)
    (payload : Option (List UInt8)) (resp : NciSmResponseFunc) (sm : NciSm) (history : SmHistory) :
  SmHistory.outstanding ((H.io 0).send gid oid payload resp sm history).2 = some resp
  := by
  change SmHistory.outstanding (history ++ [.sent gid oid payload resp (H.send history) sm])
    = some resp
  rw [SmHistory.outstanding_append, SmAction.outstanding, hsend]
  rfl

theorem outstanding_nciSmEmitSignal (sig : NciSmSignal) (w : SmWorld SmHistory) :
  (nciSmEmitSignal (H.io 0) sig w).io.outstanding = w.io.outstanding
  := by
  rw [nciSmEmitSignal]
  split
  · apply SmHistory.outstanding_append
  · rfl

theorem outstanding_nciSmEmitPendingSignals (w : SmWorld SmHistory) :
  (nciSmEmitPendingSignals (H.io 0) w).io.outstanding = w.io.outstanding
  := by
  rw [nciSmEmitPendingSignals, outstanding_nciSmEmitSignal, outstanding_nciSmEmitSignal]

/-- The first command of a transition waits for a response. -/
theorem outstanding_nciSmStartTransition (hsend : ∀ history, H.send history = true)
    (t : NciTransition) (w : SmWorld SmHistory) :
  ∃ resp, (nciSmStartTransition (H.io 0) t w).2.io.outstanding = some resp
    ∧ resp.starts = some t
  := by
  obtain ⟨gid, oid, payload, resp, sm, hstarts, -, hio, -, -⟩ :=
    nciSmStartTransition_spec (H.io 0) t w
  use resp
  rw [hio, outstanding_send hsend]
  use rfl

theorem outstanding_nciStateEntered (state : NciState) (w : SmWorld SmHistory) :
  (nciStateEntered (H.io 0) state none w).io.outstanding = w.io.outstanding
  := by
  cases state
  case discovery => apply SmHistory.outstanding_append
  all_goals rfl

/-- When a state is entered, the next transition is started, if there is any. -/
theorem outstanding_nciSmEnterState (hsend : ∀ history, H.send history = true) (state : NciState)
    (w : SmWorld SmHistory) :
  ((w.sm.nextTransition.filter fun t => t.dest != state) = none →
      (nciSmEnterState (H.io 0) state none w).io.outstanding = w.io.outstanding)
    ∧ ∀ t, (w.sm.nextTransition.filter fun t => t.dest != state) = some t →
      ∃ resp, (nciSmEnterState (H.io 0) state none w).io.outstanding = some resp
        ∧ resp.starts = some t
  := by
  obtain ⟨v, hv⟩ : ∃ v, v = nciSmActivate (nciStateEntered (H.io 0)) state none
      (w.map nciSmBeginEntering) := ⟨_, rfl⟩
  have hnext : v.sm.nextTransition = w.sm.nextTransition := by
    obtain ⟨request, hactivate, -⟩ := control_nciSmActivate
      (greets_nciStateEntered (E := H.io 0) NciParam.continues_none state)
      (w.map nciSmBeginEntering)
    have hbegin := control_nciSmFinishActiveTransition
      { w.sm with enteringState := w.sm.enteringState + 1 }
    rw [hv]
    have h := congrArg SmControl.nextTransition hactivate
    rw [SmControl.activate_eq] at h
    apply h.trans
    apply congrArg SmControl.nextTransition hbegin
  have hsame : v.io.outstanding = w.io.outstanding := by
    rw [hv, nciSmActivate]
    split
    · apply outstanding_nciStateEntered
    · apply outstanding_nciStateEntered (H := H) state
        ((w.map nciSmBeginEntering).map (nciSmReplaceActiveState state))
  have hio : (nciSmEnterState (H.io 0) state none w).io.outstanding
      = (nciSmStartNextTransition (H.io 0) state v).io.outstanding := by
    rw [nciSmEnterState, outstanding_nciSmEmitPendingSignals, hv]
    rfl
  rw [hio]
  unfold nciSmStartNextTransition nciSmTakeNextTransition
  rw [hnext]
  constructor
  · intro hnone
    rw [hnone]
    apply hsame
  · intro t ht
    rw [ht]
    apply outstanding_nciSmStartTransition hsend

/-- After CORE_INIT_RSP the controller is configured. -/
theorem nciTransitionResetInitialized_waits (hsend : ∀ history, H.send history = true)
    (rsp : CoreInitRsp) (w : SmWorld SmHistory) :
  (nciTransitionResetInitialized (H.io 0) rsp w).sm.control = w.sm.control
    ∧ (nciTransitionResetInitialized (H.io 0) rsp w).io.outstanding = some .resetSetConfigRsp
  := by
  constructor
  · rfl
  · rw [nciTransitionResetInitialized]
    apply outstanding_send hsend

/-! ### What an expected response leads to -/

/-- The machine goes on: it waits for CORE_RESET_NTF, it sends another command that leaves less to
be done, it is configured, or the transition is over. -/
inductive SmOutcome.Onward (resp : NciSmResponseFunc) (self : NciSm) : SmOutcome → Prop where
  | stay (h : resp = .resetRsp) : Onward resp self (.stay { self with version := .v2 })
  | send {sm : NciSm} (gid oid : UInt8) (payload : Option (List UInt8)) {next : NciSmResponseFunc}
      (hcontrol : sm.control = self.control) (htransition : next.transition = resp.transition)
      (hremaining : next.remaining < resp.remaining) :
      Onward resp self (.send sm gid oid payload next)
  | configure (rsp : CoreInitRsp) (htransition : resp.transition = some .reset)
      (hremaining : resp.remaining = 2) : Onward resp self (.configure rsp)
  | enter {t : NciTransition} (htransition : resp.transition = some t)
      (hremaining : resp.remaining = 1) : Onward resp self (.enter t.dest)

theorem onward_configureRoutingOutcome (resp : NciSmResponseFunc) (self : NciSm)
    (htransition : resp.transition = some .idleToDiscovery) (hremaining : 5 < resp.remaining) :
  SmOutcome.Onward resp self (configureRoutingOutcome self)
  := by
  rw [configureRoutingOutcome]
  split_ifs
  all_goals
    apply SmOutcome.Onward.send _ _ _ rfl
    · rw [htransition]
      rfl
    · apply Nat.lt_of_le_of_lt _ hremaining
      decide

/-- A welcome response to a command of the two transitions. -/
theorem NciSmResponseFunc.onward_outcome {resp : NciSmResponseFunc} {payload : List UInt8}
    (self : NciSm)
    (htransition : resp.transition = some .reset ∨ resp.transition = some .idleToDiscovery)
    (h : resp.welcomes payload = true) :
  SmOutcome.Onward resp self (resp.outcome payload self)
  := by
  cases resp
  case resetRsp =>
    obtain ⟨hlength, hok⟩ : (payload.length = 1 ∨ payload.length = 3)
        ∧ startsWithOk payload = true := by simpa [welcomes] using h
    rw [outcome, resetOutcome]
    rcases hlength with hlength | hlength
    · rw [if_neg (by omega), if_pos hlength, if_pos hok]
      apply SmOutcome.Onward.stay
      rfl
    · rw [if_pos hlength, if_pos hok]
      apply SmOutcome.Onward.send
      · rfl
      · rfl
      · decide
  case resetInitV1Rsp =>
    obtain ⟨rsp, hrsp⟩ := Option.isSome_iff_exists.mp h
    rw [outcome, hrsp]
    apply SmOutcome.Onward.configure
    · rfl
    · rfl
  case resetInitV2Rsp =>
    obtain ⟨rsp, hrsp⟩ := Option.isSome_iff_exists.mp h
    rw [outcome, hrsp]
    apply SmOutcome.Onward.configure
    · rfl
    · rfl
  case resetSetConfigRsp =>
    apply SmOutcome.Onward.enter (t := .reset)
    · rfl
    · rfl
  case idleToDiscoveryGetConfigRsp =>
    rw [outcome, getConfigOutcome]
    split
    · apply SmOutcome.Onward.send
      · rfl
      · rfl
      · decide
    · apply onward_configureRoutingOutcome
      · rfl
      · decide
  case idleToDiscoverySetConfigRsp =>
    apply onward_configureRoutingOutcome
    · rfl
    · decide
  case idleToDiscoverMapRsp =>
    rw [outcome, if_pos (show startsWithOk payload = true from h)]
    apply SmOutcome.Onward.send
    · rfl
    · rfl
    · decide
  case idleToDiscoveryDiscoverRsp =>
    rw [outcome, if_pos (show startsWithOk payload = true from h)]
    apply SmOutcome.Onward.enter (t := .idleToDiscovery)
    · rfl
    · rfl
  case deactivateToIdleRsp => rcases htransition with ht | ht <;> cases ht
  case deactivateToDiscoveryRsp => rcases htransition with ht | ht <;> cases ht
  case deactivateToDiscoveryIdleRsp => rcases htransition with ht | ht <;> cases ht
  case pollActiveToIdleRsp => rcases htransition with ht | ht <;> cases ht
  case listenActiveToIdleRsp => rcases htransition with ht | ht <;> cases ht
  case w4HostSelectRsp => rcases htransition with ht | ht <;> cases ht
  all_goals
    rw [outcome]
    try split
    all_goals
      apply SmOutcome.Onward.send
      · rfl
      · rfl
      · decide

/-! ### Steps on the way -/

variable {target : NciState}

theorem SmControl.OnWay.activeTransition {c : SmControl} (h : c.OnWay target) :
  c.activeTransition = some .reset ∨ c.activeTransition = some .idleToDiscovery
  := by
  cases h.way with
  | reset active _ _ => left; apply active
  | resetFirst active _ _ => left; apply active
  | discover active _ _ => right; apply active

/-- When the active transition is over, the machine rests where it was on its way to, or goes on
from RFST_IDLE. -/
theorem SmControl.OnWay.enter {c : SmControl} (h : c.OnWay target) {t : NciTransition}
    (ht : c.activeTransition = some t) :
  ((c.nextTransition.filter fun u => u.dest != t.dest) = none
      ∧ RestsIn target (c.enter t.dest none true))
    ∨ ((c.nextTransition.filter fun u => u.dest != t.dest) = some .idleToDiscovery
      ∧ (c.enter t.dest none true).OnWay target
      ∧ (c.enter t.dest none true).activeTransition = some .idleToDiscovery
      ∧ (c.enter t.dest none true).nextTransition = none
      ∧ c.nextTransition = some .idleToDiscovery)
  := by
  cases h.way with
  | reset active next htarget =>
      cases ht.symm.trans active
      left
      have hfilter : (c.nextTransition.filter fun u => u.dest != NciTransition.reset.dest)
          = none := by
        rw [next]
        rfl
      use hfilter
      rw [htarget]
      apply restsIn_enter hfilter
  | discover active next htarget =>
      cases ht.symm.trans active
      left
      have hfilter : (c.nextTransition.filter fun u =>
          u.dest != NciTransition.idleToDiscovery.dest) = none := by
        rw [next]
        rfl
      use hfilter
      rw [htarget]
      apply restsIn_enter hfilter
  | resetFirst active next htarget =>
      cases ht.symm.trans active
      right
      have hfilter : (c.nextTransition.filter fun u => u.dest != NciTransition.reset.dest)
          = some .idleToDiscovery := by
        rw [next]
        rfl
      use hfilter
      have hentering := enteringState_enter NciTransition.reset.dest none true c
      rw [enter_follows hfilter, activate_eq]
      constructor
      · constructor
        · apply h.enteringState
        · apply h.pendingSwitch
        · apply h.nextState
        · apply Way.discover
          · rfl
          · rfl
          · apply htarget
      · use rfl, rfl

/-- What arrives is only recorded. -/
theorem SmWorld.OnWay.arrived (h : w.OnWay target) (e : SmEvent) :
  (w.note (.arrived e)).OnWay target ∧ (w.note (.arrived e)).remaining = w.remaining
  := by
  have hsame : (w.note (.arrived e)).io.outstanding = w.io.outstanding :=
    SmHistory.outstanding_append ..
  constructor
  · constructor
    · apply h.control
    · rcases h.waits with ⟨resp, hresp, htransition⟩ | hawaits
      · left
        use resp, hsame.trans hresp, htransition
      · right
        use hawaits.activeTransition, hawaits.version, hsame.trans hawaits.outstanding
  · rw [remaining, remaining, hsame]
    rfl

theorem NciSmResponseFunc.eq_of_starts {resp : NciSmResponseFunc}
    (h : resp.starts = some .idleToDiscovery) :
  resp = .idleToDiscoveryGetConfigRsp
  := by
  cases resp
  all_goals cases h
  rfl

theorem control_nciSmEnterState_dest (hsend : ∀ history, H.send history = true) {t : NciTransition}
    (ht : w.sm.activeTransition = some t) :
  (nciSmEnterState (H.io 0) t.dest none w).sm.control = w.sm.control.enter t.dest none true
  := by
  rw [← nciTransitionFinish_active ht, control_nciTransitionFinish silent_io_zero
    (SmHost.accepts_io hsend 0), SmControl.complete, if_pos]
  apply ht

/-- A response that is welcome brings the machine closer to where it is going. -/
theorem SmWorld.OnWay.response (hsend : ∀ history, H.send history = true) (h : w.OnWay target)
    {resp : NciSmResponseFunc} (hresp : w.io.outstanding = some resp) {payload : List UInt8}
    (hwelcome : resp.welcomes payload = true) :
  ((H.handle 0 w (.response payload)).OnWay target
      ∧ (H.handle 0 w (.response payload)).remaining < w.remaining)
    ∨ (H.handle 0 w (.response payload)).Rests target
  := by
  have htransition : resp.transition = w.sm.activeTransition := by
    rcases h.waits with ⟨resp', hresp', htransition⟩ | hawaits
    · cases hresp.symm.trans hresp'
      apply htransition
    · cases hresp.symm.trans hawaits.outstanding
  have hactive : w.sm.activeTransition = some .reset
      ∨ w.sm.activeTransition = some .idleToDiscovery := h.control.activeTransition
  have hhandle : H.handle 0 w (.response payload)
      = (resp.outcome payload w.sm).perform (H.io 0)
          (w.note (.answered resp .success payload)) := by
    change H.answer 0 .success payload w = _
    obtain ⟨t, ht⟩ : ∃ t, w.sm.activeTransition = some t := by
      rcases hactive with ht | ht
      · use .reset
      · use .idleToDiscovery
    rw [SmHost.answer, hresp]
    apply NciSmResponseFunc.call_success (htransition.trans ht)
    apply ht
  have honward : SmOutcome.Onward resp w.sm (resp.outcome payload w.sm) := by
    apply NciSmResponseFunc.onward_outcome w.sm _ hwelcome
    rw [htransition]
    apply hactive
  rw [hhandle]
  revert honward
  generalize resp.outcome payload w.sm = outcome
  intro honward
  cases honward with
  | stay hreset =>
      left
      constructor
      · constructor
        · apply h.control
        · right
          constructor
          · rw [hreset] at htransition
            apply htransition.symm
          · rfl
          · apply SmHistory.outstanding_append
      · have hout : (SmOutcome.perform (H.io 0) (w.note (.answered resp .success payload))
            (.stay { w.sm with version := .v2 })).io.outstanding = none := by
          apply SmHistory.outstanding_append
        rw [remaining, remaining, hresp, hout, hreset]
        change 3 + _ < 4 + _
        apply Nat.add_lt_add_right
        decide
  | @send sm gid oid cmd next hcontrol hnext hremaining =>
      left
      have hout : (SmOutcome.perform (H.io 0) (w.note (.answered resp .success payload))
          (.send sm gid oid cmd next)).io.outstanding = some next := by
        apply outstanding_send hsend
      constructor
      · constructor
        · change sm.control.OnWay target
          rw [hcontrol]
          apply h.control
        · left
          use next, hout
          rw [hnext, htransition]
          apply (congrArg SmControl.activeTransition hcontrol).symm
      · rw [remaining, remaining, hresp, hout]
        have hsame : sm.nextTransition = w.sm.nextTransition :=
          congrArg SmControl.nextTransition hcontrol
        change next.remaining + (if sm.nextTransition.isSome then 7 else 0) < _
        rw [hsame]
        apply Nat.add_lt_add_right hremaining
  | configure rsp hreset hremaining =>
      left
      obtain ⟨hcontrol, hout⟩ :=
        nciTransitionResetInitialized_waits hsend rsp (w.note (.answered resp .success payload))
      constructor
      · constructor
        · apply h.control
        · left
          use .resetSetConfigRsp, hout
          apply hreset.symm.trans htransition
      · rw [remaining, remaining, hresp]
        change ((nciTransitionResetInitialized (H.io 0) rsp
          (w.note (.answered resp .success payload))).io.outstanding).elim 3 _ + _
        < resp.remaining + _
        rw [hout, hremaining]
        change 1 + _ < 2 + _
        apply Nat.add_lt_add_right
        decide
  | @enter t hresponse hremaining =>
      have ht : w.sm.activeTransition = some t := by
        rw [← htransition, hresponse]
      have hcontrol :=
        control_nciSmEnterState_dest hsend (w := w.note (.answered resp .success payload)) ht
      obtain ⟨hnone, hsome⟩ :=
        outstanding_nciSmEnterState hsend t.dest (w.note (.answered resp .success payload))
      rcases h.control.enter ht with ⟨hfilter, hrests⟩ | ⟨hfilter, hway, hactive', hnext, hqueued⟩
      · right
        constructor
        · rw [SmOutcome.perform, hcontrol]
          apply hrests
        · apply (hnone hfilter).trans (SmHistory.outstanding_append ..)
      · left
        obtain ⟨resp', hout, hstarts⟩ := hsome _ hfilter
        have hfirst := NciSmResponseFunc.eq_of_starts hstarts
        rw [hfirst] at hout
        constructor
        · constructor
          · rw [SmOutcome.perform, hcontrol]
            apply hway
          · left
            use .idleToDiscoveryGetConfigRsp, hout
            apply Eq.symm
            apply (congrArg SmControl.activeTransition hcontrol).trans hactive'
        · rw [SmOutcome.perform, remaining, remaining, hresp, hout]
          have hnext' : (nciSmEnterState (H.io 0) t.dest none
              (w.note (.answered resp .success payload))).sm.nextTransition = none :=
            (congrArg SmControl.nextTransition hcontrol).trans hnext
          have hqueued' : w.sm.nextTransition = some .idleToDiscovery := hqueued
          rw [hnext', hqueued', Option.elim_some, Option.elim_some, hremaining]
          decide

/-- After CORE_RESET_NTF the controller is initialized. -/
theorem SmWorld.OnWay.awaited (hsend : ∀ history, H.send history = true) (h : w.OnWay target)
    (hawaits : w.AwaitsReset) {payload : List UInt8} (hntf : isResetNtf payload = true) :
  (H.handle 0 w (.notification nciGidCore nciOidCoreReset payload)).OnWay target
    ∧ (H.handle 0 w (.notification nciGidCore nciOidCoreReset payload)).remaining < w.remaining
  := by
  have hhandle : H.handle 0 w (.notification nciGidCore nciOidCoreReset payload)
      = (nciSmSendCommand (H.io 0) nciGidCore nciOidCoreInit (some [0x00, 0x00])
        .resetInitV2Rsp w).2 := by
    change nciSmHandleNtf (H.io 0) nciGidCore nciOidCoreReset payload w = _
    rw [nciSmHandleNtf, hawaits.activeTransition]
    apply if_pos
    use rfl, rfl, hawaits.version
  have hout : (H.handle 0 w (.notification nciGidCore nciOidCoreReset payload)).io.outstanding
      = some .resetInitV2Rsp := by
    rw [hhandle]
    apply outstanding_send hsend
  constructor
  · constructor
    · rw [hhandle]
      apply h.control
    · left
      use .resetInitV2Rsp, hout
      rw [hhandle]
      apply hawaits.activeTransition.symm
  · rw [remaining, hout, hhandle, remaining, hawaits.outstanding]
    change 2 + _ < 3 + _
    apply Nat.add_lt_add_right
    decide

/-- What does not concern the machine changes nothing. -/
theorem SmWorld.OnWay.ignored (h : w.OnWay target) {e : SmEvent} (he : w.Ignores e) :
  H.handle 0 w e = w
  := by
  have hpending : w.sm.pendingSwitch = none := h.control.pendingSwitch
  cases e with
  | request r =>
      obtain ⟨-, rfl⟩ := he
      change nciSmSwitchTo (H.io 0) w.sm.nextState w = w
      have hsame : (w.map fun self => { self with pendingSwitch := none }) = w := by
        rw [SmWorld.map, ← hpending]
      rw [nciSmSwitchTo_outside (H.io 0) h.control.enteringState, hsame, nciSmSwitchInternal,
        if_neg (not_not.mpr rfl)]
  | notification gid oid payload =>
      obtain ⟨-, hother⟩ := he
      have hdefault : nciDefaultHandleNtf (H.io 0) gid oid payload w = w := by
        apply if_neg
        rintro ⟨hgid, hoid⟩
        rcases hother with hother | ⟨-, hother⟩
        · apply hother hgid
        · apply hother hoid
      change nciSmHandleNtf (H.io 0) gid oid payload w = w
      rw [nciSmHandleNtf]
      rcases h.control.activeTransition with hactive | hactive
      · rw [show w.sm.activeTransition = some .reset from hactive]
        change nciTransitionResetHandleNtf (H.io 0) gid oid payload w = w
        rw [nciTransitionResetHandleNtf, if_neg, hdefault]
        rintro ⟨hgid, hoid, -⟩
        rcases hother with hother | ⟨hother, -⟩
        · apply hother hgid
        · apply hother hoid
      · rw [show w.sm.activeTransition = some .idleToDiscovery from hactive]
        apply hdefault
  | response payload => cases he
  | commandTimeout =>
      rw [SmHost.handle, he.2]
      apply if_neg
      apply Bool.false_ne_true
  | transitionTimeout t =>
      rw [SmHost.handle, he.2]
      apply if_neg
      apply Bool.false_ne_true
  | idle =>
      change nciSmSwitchProc (H.io 0) w = w
      rw [nciSmSwitchProc, hpending]
  | error => cases he

/-- There is a welcome response to every command. -/
theorem NciSmResponseFunc.exists_welcomes (resp : NciSmResponseFunc) :
  ∃ payload, resp.welcomes payload = true
  := by
  cases resp
  case resetInitV1Rsp =>
    use [0, 0, 0, 0, 0, 0, 0, 0, 0, 0, 0, 0, 0, 0, 0, 0, 0]
    rfl
  case resetInitV2Rsp =>
    use [0, 0, 0, 0, 0, 0, 0, 0, 0, 0, 0, 0, 0, 0]
    rfl
  case resetRsp =>
    use [0]
    rfl
  case idleToDiscoverMapRsp =>
    use [0]
    rfl
  case idleToDiscoveryDiscoverRsp =>
    use [0]
    rfl
  all_goals
    use []
    rfl

/-- A machine that is on its way waits for something. -/
theorem SmWorld.OnWay.exists_expects (h : w.OnWay target) :
  ∃ e, w.Expects e
  := by
  rcases h.waits with ⟨resp, hresp, -⟩ | hawaits
  · obtain ⟨payload, hwelcome⟩ := resp.exists_welcomes
    use .response payload
    rw [Expects, hresp]
    apply hwelcome
  · use .notification nciGidCore nciOidCoreReset [0, 0, 0, 0, 0], hawaits, rfl, rfl
    rfl

theorem SmWorld.OnWay.remaining_pos (h : w.OnWay target) :
  0 < w.remaining
  := by
  apply Nat.lt_of_lt_of_le _ (Nat.le_add_right _ _)
  rcases h.waits with ⟨resp, hresp, htransition⟩ | hawaits
  · rw [hresp, Option.elim_some]
    have hactive : w.sm.activeTransition = some .reset
        ∨ w.sm.activeTransition = some .idleToDiscovery := h.control.activeTransition
    rw [← htransition] at hactive
    cases resp
    all_goals
      first
        | decide
        | rcases hactive with hactive | hactive <;> cases hactive
  · rw [hawaits.outstanding, Option.elim_none]
    decide

/-! ### Runs -/

/-- Nothing takes place in a cooperative run any more when the machine has come to rest. -/
theorem SmWorld.Rests.cooperative {n : Nat} (h : w.Rests target) {events : List SmEvent}
    (hcoop : H.Cooperative n w events) :
  events = []
  := by
  have hnone : w.sm.activeTransition = none := h.control.activeTransition
  cases events with
  | nil => rfl
  | cons e events =>
      rcases hcoop.1 with he | he
      · cases e
        case response payload =>
          rw [SmWorld.Expects, h.outstanding] at he
          cases he
        case notification gid oid payload =>
          obtain ⟨hawaits, -⟩ := he
          cases hawaits.activeTransition.symm.trans hnone
        all_goals cases he
      · have hsome : w.sm.activeTransition.isSome = true := by
          cases e
          case idle => apply he
          case response => cases he
          case error => cases he
          all_goals apply he.1
        rw [hnone] at hsome
        cases hsome

/-- Only answers of the controller are expected. -/
theorem SmWorld.isAnswer_of_expects {e : SmEvent} (he : w.Expects e) :
  e.isAnswer = true
  := by
  cases e
  case response => rfl
  case notification =>
    obtain ⟨-, rfl, rfl, -⟩ := he
    rfl
  all_goals cases he

theorem SmWorld.isAnswer_of_ignores {e : SmEvent} (he : w.Ignores e) :
  e.isAnswer = false
  := by
  cases e
  case response => cases he
  case notification gid oid payload =>
    obtain ⟨-, hother⟩ := he
    rw [SmEvent.isAnswer, Bool.and_eq_false_iff, beq_eq_false_iff_ne, beq_eq_false_iff_ne]
    apply hother.imp_right And.left
  all_goals rfl

/-- An expected event brings the machine closer to where it is going. -/
theorem SmWorld.OnWay.expected (hsend : ∀ history, H.send history = true) (h : w.OnWay target)
    {e : SmEvent} (he : w.Expects e) :
  ((H.step 0 w e).OnWay target ∧ (H.step 0 w e).remaining < w.remaining)
    ∨ (H.step 0 w e).Rests target
  := by
  obtain ⟨harrived, hremaining⟩ := h.arrived e
  have hsame : (w.note (.arrived e)).io.outstanding = w.io.outstanding :=
    SmHistory.outstanding_append ..
  rw [← hremaining]
  cases e
  case response payload =>
    obtain ⟨resp, hresp, hwelcome⟩ := (Option.any_eq_true _ _).mp he
    apply harrived.response hsend (hsame.trans hresp) hwelcome
  case notification gid oid payload =>
    obtain ⟨hawaits, rfl, rfl, hntf⟩ := he
    left
    apply harrived.awaited hsend _ hntf
    use hawaits.activeTransition, hawaits.version, hsame.trans hawaits.outstanding
  all_goals cases he

/-- An event that does not concern the machine is only recorded. -/
theorem SmWorld.OnWay.step_ignored (h : w.OnWay target) {e : SmEvent} (he : w.Ignores e) :
  H.step 0 w e = w.note (.arrived e)
  := by
  apply (h.arrived e).1.ignored
  have hsame : (w.note (.arrived e)).io.outstanding = w.io.outstanding :=
    SmHistory.outstanding_append ..
  cases e
  case commandTimeout => use he.1, hsame.trans he.2
  all_goals apply he

/-- In a cooperative run the machine stays on its way until it comes to rest, and each answer
leaves less to be done. -/
theorem SmWorld.OnWay.run (hsend : ∀ history, H.send history = true) (h : w.OnWay target)
    {events : List SmEvent} (hcoop : H.Cooperative 0 w events) :
  ((H.run 0 w events).OnWay target
      ∧ events.countP SmEvent.isAnswer + (H.run 0 w events).remaining ≤ w.remaining)
    ∨ ((H.run 0 w events).Rests target ∧ events.countP SmEvent.isAnswer ≤ w.remaining)
  := by
  induction events generalizing w with
  | nil =>
      left
      use h
      rw [List.countP_nil, Nat.zero_add]
      apply Nat.le_refl
  | cons e events ih =>
      obtain ⟨he, hrest⟩ := hcoop
      rcases he with he | he
      · rw [List.countP_cons_of_pos (SmWorld.isAnswer_of_expects he)]
        rcases h.expected hsend he with ⟨hway, hless⟩ | hrests
        · rcases ih hway hrest with ⟨hway', hcount⟩ | ⟨hrests, hcount⟩
          · left
            use hway'
            change _ + 1 + (H.run 0 (H.step 0 w e) events).remaining ≤ _
            omega
          · right
            use hrests
            omega
        · right
          cases hrests.cooperative hrest
          use hrests
          apply h.remaining_pos
      · rw [List.countP_cons_of_neg (by
          rw [SmWorld.isAnswer_of_ignores he]
          apply Bool.false_ne_true)]
        obtain ⟨harrived, hremaining⟩ := h.arrived e
        rw [h.step_ignored he] at hrest
        have hrun : H.run 0 w (e :: events) = H.run 0 (w.note (.arrived e)) events := by
          rw [SmHost.run, List.foldl_cons, h.step_ignored he]
          rfl
        rw [hrun, ← hremaining]
        apply ih harrived hrest

/-! ### The start -/

/-- A machine that is reset is on its way to RFST_IDLE, wherever it comes from. -/
theorem SmWorld.onWay_nciSmReset (hsend : ∀ history, H.send history = true)
    (hentering : w.sm.enteringState = 0) :
  (nciSmReset (H.io 0) w).OnWay .idle
    ∧ (nciSmReset (H.io 0) w).io.outstanding = some .resetRsp
    ∧ (nciSmReset (H.io 0) w).sm.nextTransition = none
    ∧ (nciSmReset (H.io 0) w).sm.activeTransition = some .reset
  := by
  have haccepts := SmHost.accepts_io (H := H) hsend 0
  obtain ⟨v, hv⟩ : ∃ v, v = nciSmEnterStateInternal (H.io 0) .init none (w.map fun self =>
      { self with pendingSwitch := none, nextTransition := none }) := ⟨_, rfl⟩
  obtain ⟨c, hc⟩ : ∃ c : SmControl, c = { w.sm.control with
      pendingSwitch := none, nextTransition := none } := ⟨_, rfl⟩
  have hcontrol : v.sm.control = { c.finish.activate .init with
      pendingSwitch := none
      nextTransition := none
      lastState := .init
      nextState := .init } := by
    have hinternal : NciState.init.isInternal = true := rfl
    obtain ⟨ok, henter, -⟩ := control_nciSmEnterStateInternal_internal (E := H.io 0) hinternal
      (w.map fun self => { self with pendingSwitch := none, nextTransition := none })
    rw [hv, henter, SmControl.enter_rests]
    · rw [hc]
      rfl
    · rfl
  rw [SmControl.activate_eq] at hcontrol
  have hlast : v.sm.lastState = .init := congrArg SmControl.lastState hcontrol
  have hnext : v.sm.nextState = .init := congrArg SmControl.nextState hcontrol
  have hactive : v.sm.activeTransition = none := congrArg SmControl.activeTransition hcontrol
  obtain ⟨u, hu⟩ : ∃ u, u = v.map fun self => { self with nextTransition := none } := ⟨_, rfl⟩
  have hbegin : nciSmSwitchBegin (H.io 0) .idle v
      = (nciSmStartTransition (H.io 0) .reset u).2.map (nciSmSetNextState .idle) := by
    have hlast' : u.sm.lastState = .init := by
      rw [hu]
      apply hlast
    have hidle : nciSmSwitchBegin (H.io 0) .idle v = nciSmSwitchIdle (H.io 0) .idle u := by
      rw [hu]
      unfold nciSmSwitchBegin
      dsimp only [SmWorld.map_sm]
      rw [hactive]
    have hvia : nciSmSwitchIdle (H.io 0) .idle u = nciSmSwitchViaIdle (H.io 0) .idle u := by
      unfold nciSmSwitchIdle
      rw [hlast']
      rfl
    rw [hidle, hvia, nciSmSwitchViaIdle, hlast']
    rw [if_pos (haccepts.start _ _), if_pos rfl]
    rfl
  have hreset : nciSmReset (H.io 0) w = nciSmEmitPendingSignals (H.io 0)
      (nciSmEmitPendingSignals (H.io 0)
        ((nciSmStartTransition (H.io 0) .reset u).2.map (nciSmSetNextState .idle))) := by
    rw [nciSmReset, ← hv, nciSmSwitchInternal, if_pos (by rw [hnext]; decide), hbegin]
  have hresult : (nciSmReset (H.io 0) w).sm.control
      = { v.sm.control.forget.leave with
          activeTransition := some .reset
          nextState := .idle } := by
    rw [hreset, silent_io_zero.emit, silent_io_zero.emit, SmWorld.map_sm,
      control_nciSmSetNextState, control_nciSmStartTransition, haccepts.start, hu]
    rfl
  have hout : (nciSmReset (H.io 0) w).io.outstanding = some .resetRsp := by
    rw [hreset, outstanding_nciSmEmitPendingSignals, outstanding_nciSmEmitPendingSignals]
    obtain ⟨resp, hresp, hstarts⟩ := outstanding_nciSmStartTransition hsend .reset u
    have hfirst : resp = .resetRsp := by
      cases resp
      all_goals cases hstarts
      rfl
    rw [← hfirst]
    apply hresp
  have hactive' : (nciSmReset (H.io 0) w).sm.activeTransition = some .reset :=
    congrArg SmControl.activeTransition hresult
  have hnext' : (nciSmReset (H.io 0) w).sm.nextTransition = none :=
    congrArg SmControl.nextTransition hresult
  constructor
  · constructor
    · constructor
      · rw [hresult]
        change v.sm.control.enteringState = 0
        rw [hcontrol, hc]
        apply hentering
      · rw [hresult]
        change v.sm.control.pendingSwitch = none
        rw [hcontrol]
      · rw [hresult]
      · apply SmControl.Way.reset
        · apply hactive'
        · apply hnext'
        · rfl
    · left
      use .resetRsp, hout
      apply hactive'.symm
  · use hout, hnext'

/-- A machine that has just been reset can be sent to RFST_DISCOVERY. -/
theorem SmWorld.OnWay.switchTo (hsend : ∀ history, H.send history = true) (h : w.OnWay .idle)
    (hactive : w.sm.activeTransition = some .reset) (hwaits : w.io.outstanding = some .resetRsp) :
  (nciSmSwitchTo (H.io 0) .discovery w).OnWay .discovery
    ∧ (nciSmSwitchTo (H.io 0) .discovery w).io.outstanding = some .resetRsp
    ∧ (nciSmSwitchTo (H.io 0) .discovery w).sm.nextTransition = some .idleToDiscovery
  := by
  have hcontrol := control_nciSmSwitchTo silent_io_zero (SmHost.accepts_io hsend 0)
    h.control.enteringState .discovery
  have hrequest : w.sm.control.request .discovery
      = { w.sm.control with
          pendingSwitch := none
          nextTransition := some .idleToDiscovery
          nextState := .discovery } := by
    rw [SmControl.request, if_pos (by rw [h.control.nextState]; decide),
      SmControl.switch_of_active (t := .reset) hactive]
    rfl
  rw [hrequest] at hcontrol
  have hactive' : (nciSmSwitchTo (H.io 0) .discovery w).sm.activeTransition = some .reset :=
    (congrArg SmControl.activeTransition hcontrol).trans hactive
  have hout : (nciSmSwitchTo (H.io 0) .discovery w).io.outstanding = some .resetRsp := by
    rw [← hwaits]
    obtain ⟨u, hu⟩ : ∃ u, u = w.map fun self => { self with pendingSwitch := none } := ⟨_, rfl⟩
    have hnext : u.sm.nextState ≠ .discovery := by
      rw [hu, show (w.map fun self => { self with pendingSwitch := none }).sm.nextState = .idle
        from h.control.nextState]
      decide
    have hreset : u.sm.activeTransition = some .reset := by
      rw [hu]
      apply hactive
    have hio : u.io = w.io := by
      rw [hu]
      rfl
    rw [nciSmSwitchTo_outside (H.io 0) h.control.enteringState, ← hu, nciSmSwitchInternal,
      if_pos hnext, outstanding_nciSmEmitPendingSignals, ← hio]
    unfold nciSmSwitchBegin
    dsimp only [SmWorld.map_sm]
    rw [hreset]
    rfl
  constructor
  · constructor
    · constructor
      · rw [hcontrol]
        apply h.control.enteringState
      · rw [hcontrol]
      · rw [hcontrol]
      · rw [hcontrol]
        apply SmControl.Way.resetFirst
        · apply hactive
        · rfl
        · rfl
    · left
      use .resetRsp, hout
      apply hactive'.symm
  · use hout
    apply congrArg SmControl.nextTransition hcontrol

end

/-- A machine that is reset, and is sent to a state. -/
def SmHost.resetTo (H : SmHost) (n : Nat) (target : NciState) (w : SmWorld SmHistory) :
    SmWorld SmHistory :=
  H.run n w [.request .reset, .request (.switchTo target)]

/-- The machine is on its way then, with at most that many answers to come. -/
theorem SmHost.onWay_resetTo {H : SmHost} (hsend : ∀ history, H.send history = true)
    {w : SmWorld SmHistory} (hentering : w.sm.enteringState = 0) {target : NciState}
    (htarget : target = .idle ∨ target = .discovery) :
  (H.resetTo 0 target w).OnWay target
    ∧ (H.resetTo 0 target w).remaining = if target = .idle then 4 else 11
  := by
  obtain ⟨v, hv⟩ : ∃ v, v = H.step 0 w (.request .reset) := ⟨_, rfl⟩
  obtain ⟨hway, hout, hnext, hactive⟩ :=
    SmWorld.onWay_nciSmReset (H := H) (w := w.note (.arrived (.request .reset))) hsend hentering
  have hreset : nciSmReset (H.io 0) (w.note (.arrived (.request .reset))) = v := hv.symm
  rw [hreset] at hway hout hnext hactive
  have hresetTo : H.resetTo 0 target w = H.step 0 v (.request (.switchTo target)) := by
    rw [hv]
    rfl
  obtain ⟨hway', hremaining⟩ := hway.arrived (.request (.switchTo target))
  rw [hresetTo]
  rcases htarget with rfl | rfl
  · have hignores : v.Ignores (.request (.switchTo .idle)) := by
      rw [SmWorld.Ignores, hactive, show v.sm.nextState = .idle from hway.control.nextState]
      use rfl
    rw [hway.step_ignored hignores, hremaining]
    use hway'
    rw [SmWorld.remaining, hout, hnext]
    rfl
  · obtain ⟨hway'', hout', hnext'⟩ := hway'.switchTo hsend hactive
      ((SmHistory.outstanding_append ..).trans hout)
    have hstep : H.step 0 v (.request (.switchTo .discovery))
        = nciSmSwitchTo (H.io 0) .discovery (v.note (.arrived (.request (.switchTo .discovery)))) :=
      rfl
    rw [hstep]
    use hway''
    rw [SmWorld.remaining, hout', hnext']
    rfl

theorem SmHost.cooperative_eq {H : SmHost} (hreact : ∀ history, H.react history = []) (n : Nat) :
  H.Cooperative n = H.Cooperative 0
  := by
  funext w events
  induction events generalizing w with
  | nil => rfl
  | cons e events ih => rw [SmHost.Cooperative, SmHost.Cooperative, ih, SmHost.step_eq hreact]

/-- A machine in any state, in which nothing goes on, is reset and is sent to RFST_IDLE or
RFST_DISCOVERY. If all commands are accepted then, nothing is requested from inside callbacks, and
the controller cooperates, then the machine always either waits for an answer or has come to rest
in the state to which it has been sent, which is so after at most 4 or 11 answers. -/
theorem recovers (H : SmHost) (hsend : ∀ history, H.send history = true)
    (hreact : ∀ history, H.react history = []) (n : Nat) {w : SmWorld SmHistory}
    (hentering : w.sm.enteringState = 0) {target : NciState}
    (htarget : target = .idle ∨ target = .discovery) {events : List SmEvent}
    (hcoop : H.Cooperative n (H.resetTo n target w) events) :
  events.countP SmEvent.isAnswer ≤ (if target = .idle then 4 else 11)
    ∧ (H.run n (H.resetTo n target w) events).sm.nextState = target
    ∧ ((H.run n (H.resetTo n target w) events).Rests target
      ∨ ∃ e, (H.run n (H.resetTo n target w) events).Expects e)
  := by
  have hrun := SmHost.run_eq hreact n
  have hresetTo : H.resetTo n target w = H.resetTo 0 target w := by
    rw [SmHost.resetTo, SmHost.resetTo, hrun]
  have hcoop' : H.Cooperative 0 (H.resetTo 0 target w) events := by
    rw [← hresetTo, ← SmHost.cooperative_eq hreact n]
    apply hcoop
  obtain ⟨hway, hremaining⟩ := SmHost.onWay_resetTo hsend hentering htarget
  rw [hrun, hresetTo, ← hremaining]
  rcases hway.run hsend hcoop' with ⟨hway', hcount⟩ | ⟨hrests, hcount⟩
  · use Nat.le_of_add_right_le hcount, hway'.control.nextState
    right
    apply hway'.exists_expects
  · use hcount, hrests.control.nextState
    left
    apply hrests

/-- A machine in RFST_ERROR. -/
def SmWorld.failed : SmWorld SmHistory := SmHost.quiet.step 0 SmWorld.polling .error

/-- The answers of a controller that speaks version 2, and what happens meanwhile. -/
def recoveryEvents : List SmEvent :=
  [.response [0], .idle, .notification nciGidCore nciOidCoreReset [0, 0, 0x20, 0, 0],
    .request (.switchTo .idle), .response [0, 0, 0, 0, 0, 1, 0, 0, 255, 0, 0, 0, 0, 0],
    .notification nciGidRf nciOidRfDeactivate [], .response [3]]

theorem recovers_failed :
  recoveryEvents.countP SmEvent.isAnswer ≤ 4
    ∧ (SmHost.quiet.run 0 (SmHost.quiet.resetTo 0 .idle SmWorld.failed) recoveryEvents).sm.nextState
      = .idle
    ∧ ((SmHost.quiet.run 0 (SmHost.quiet.resetTo 0 .idle SmWorld.failed) recoveryEvents).Rests .idle
      ∨ ∃ e, (SmHost.quiet.run 0 (SmHost.quiet.resetTo 0 .idle SmWorld.failed)
        recoveryEvents).Expects e)
  := by
  apply recovers SmHost.quiet (fun _ => rfl) (fun _ => rfl) 0 _ (Or.inl rfl)
  · decide
  · decide

end Nci
