import LibNciCore.Sm.Run

/-!
# The control of the machine

Of all the data of the machine only a part decides where it goes: its `SmControl`. Starting a
transition, entering a state, stalling and switching are functions of that part, and of whether
the commands that are sent are accepted. This file defines these functions on `SmControl`, and
shows that those of the machine do the same.
-/

namespace Nci

/-! ### The abstract machine -/

/-- What decides where the machine goes. -/
structure SmControl where
  lastState : NciState
  nextState : NciState
  nextTransition : Option NciTransition
  activeTransition : Option NciTransition
  activeState : Option NciState
  active : NciState → Bool
  enteringState : Nat
  pendingSwitch : Option NciState
  opMode : UInt32
  techs : UInt32

namespace SmControl

/-- The active transition is over. -/
def finish (c : SmControl) : SmControl := { c with activeTransition := none }

/-- The next transition is forgotten. -/
def forget (c : SmControl) : SmControl := { c with nextTransition := none }

/-- The active state is left. -/
def leave (c : SmControl) : SmControl :=
  { c with
    activeState := none
    active := fun state => c.active state && decide (c.activeState ≠ some state) }

/-- A transition is started, if its command is accepted. -/
def start (t : NciTransition) (ok : Bool) (c : SmControl) : SmControl :=
  if ok then { c.leave with activeTransition := some t } else c.finish

/-- A state becomes the active one. -/
def activate (state : NciState) (c : SmControl) : SmControl :=
  if c.activeState = some state then c
  else { c.leave with
    activeState := some state
    active := Function.update c.leave.active state true }

/-- The next transition is started, unless it leads to the given state. -/
def follow (state : NciState) (ok : Bool) (c : SmControl) : SmControl :=
  match c.nextTransition.filter fun t => t.dest != state with
  | some t => c.forget.start t ok
  | none => c.forget

/-- The given state was the last one, and is the next one unless a transition is active. -/
def settle (state : NciState) (c : SmControl) : SmControl :=
  { c with
    lastState := state
    nextState := if c.activeTransition.isNone then state else c.nextState }

/-- A state is entered, with a request that is left behind by the state, if any. -/
def enter (state : NciState) (request : Option NciState) (ok : Bool) (c : SmControl) : SmControl :=
  (follow state ok
    { c.finish.activate state with pendingSwitch := request <|> c.pendingSwitch }).settle state

/-- The machine stalls. -/
def stall (state : NciState) (c : SmControl) : SmControl :=
  ({ c.finish with lastState := state, nextState := state }).activate state

/-- A switch while a transition to `dest` is active. -/
def switchActive (dest next : NciState) (ok : Bool) (c : SmControl) : SmControl :=
  if dest ≠ next then
    match nciStateGetTransition dest next with
    | some t => { c with nextTransition := some t, nextState := next }
    | none => if next.isInternal then c.enter next none ok else c.stall .error
  else c

/-- A switch by way of RFST_IDLE. -/
def switchViaIdle (next : NciState) (ok : Bool) (c : SmControl) : SmControl :=
  let c := c.start ((nciStateGetTransition c.lastState .idle).getD .reset) ok
  if ok then
    if next = .idle then { c with nextState := .idle }
    else
      match nciStateGetTransition .idle next with
      | some t => { c with nextTransition := some t, nextState := next }
      | none => c.forget.stall .error
  else c.stall .error

/-- A switch while no transition is active. -/
def switchIdle (next : NciState) (ok : Bool) (c : SmControl) : SmControl :=
  match nciStateGetTransition c.lastState next with
  | some t => if ok then { c.start t ok with nextState := next } else (c.start t ok).stall .error
  | none => if next.isInternal then c.enter next none ok else c.switchViaIdle next ok

/-- A switch to another state than the one that is next. -/
def switch (next : NciState) (ok : Bool) (c : SmControl) : SmControl :=
  match c.activeTransition with
  | some t => c.forget.switchActive t.dest next ok
  | none => c.forget.switchIdle next ok

/-! The depth to which entering states is nested does not matter to these functions. -/

theorem activate_enteringState (state : NciState) (c : SmControl) (n : Nat) :
  activate state { c with enteringState := n } = { c.activate state with enteringState := n }
  := by
  rw [activate, activate]
  split <;> rfl

theorem follow_enteringState (state : NciState) (ok : Bool) (c : SmControl) (n : Nat) :
  follow state ok { c with enteringState := n } = { c.follow state ok with enteringState := n }
  := by
  unfold follow
  dsimp only
  cases c.nextTransition.filter fun t => t.dest != state with
  | some t => cases ok <;> rfl
  | none => rfl

@[simp]
theorem enteringState_enter (state : NciState) (request : Option NciState) (ok : Bool)
    (c : SmControl) :
  (c.enter state request ok).enteringState = c.enteringState
  := by
  have hactivate : (c.finish.activate state).enteringState = c.enteringState := by
    rw [activate]
    split <;> rfl
  have hfollow : ∀ c : SmControl, (c.follow state ok).enteringState = c.enteringState := by
    intro c
    unfold follow
    cases c.nextTransition.filter fun t => t.dest != state with
    | some t => cases ok <;> rfl
    | none => rfl
  exact (hfollow _).trans hactivate

theorem activeState_activate (state : NciState) (c : SmControl) :
  (c.activate state).activeState = some state
  := by
  rw [activate]
  split
  · assumption
  · rfl

/-- Apart from the active state, activating one changes only flags. -/
theorem activate_eq (state : NciState) (c : SmControl) :
  c.activate state
    = { c with activeState := some state, active := (c.activate state).active }
  := by
  rw [activate]
  split
  · rename_i h
    rw [← h]
  · rfl

/-- The machine rests in a state that has been entered. -/
theorem enter_rests {state : NciState} {c : SmControl}
    (h : c.nextTransition.filter (fun t => t.dest != state) = none) (request : Option NciState)
    (ok : Bool) :
  c.enter state request ok
    = { c.finish.activate state with
        pendingSwitch := request <|> c.pendingSwitch
        nextTransition := none
        lastState := state
        nextState := state }
  := by
  rw [enter, activate_eq, follow]
  dsimp only [finish]
  rw [h]
  rfl

/-- The next transition is started in a state that has been entered. -/
theorem enter_follows {state : NciState} {c : SmControl} {t : NciTransition}
    (h : c.nextTransition.filter (fun t => t.dest != state) = some t)
    (request : Option NciState) :
  c.enter state request true
    = { (c.finish.activate state).leave with
        pendingSwitch := request <|> c.pendingSwitch
        nextTransition := none
        activeTransition := some t
        lastState := state }
  := by
  rw [enter, activate_eq, follow]
  dsimp only [finish]
  rw [h]
  rfl

end SmControl

/-- The control of a machine. -/
def NciSm.control (self : NciSm) : SmControl where
  lastState := self.lastState
  nextState := self.nextState
  nextTransition := self.nextTransition
  activeTransition := self.activeTransition
  activeState := self.activeState
  active := self.active
  enteringState := self.enteringState
  pendingSwitch := self.pendingSwitch
  opMode := self.opMode
  techs := self.techs

/-! ### Finishing, leaving and starting -/

variable {ι : Type} {E : NciSmIo ι} {w : SmWorld ι}

theorem control_nciTransitionFinished (t : NciTransition) (self : NciSm) :
  (nciTransitionFinished t self).control = self.control
  := by cases t <;> rfl

theorem control_nciSmFinishActiveTransition (self : NciSm) :
  (nciSmFinishActiveTransition self).control = self.control.finish
  := by
  rw [nciSmFinishActiveTransition]
  split
  · apply control_nciTransitionFinished
  · rename_i h
    rw [SmControl.finish, ← show self.control.activeTransition = none from h]

theorem control_nciStateLeave (old : NciState) (self : NciSm) :
  (nciStateLeave old self).control
    = { self.control with active := Function.update self.active old false }
  := by cases old <;> rfl

theorem control_nciSmLeaveActiveState (self : NciSm) (activeState : Option NciState) :
  NciSm.control { nciSmLeaveActiveState self with activeState := activeState }
    = { self.control.leave with activeState := activeState }
  := by
  have hupdate : (nciSmLeaveActiveState self).control
      = { self.control with active := self.control.leave.active } := by
    rw [nciSmLeaveActiveState]
    split
    · rename_i old h
      have hactive : Function.update self.active old false = self.control.leave.active := by
        funext state
        by_cases hstate : state = old
        · simp [SmControl.leave, NciSm.control, h, hstate]
        · simp [SmControl.leave, NciSm.control, h, hstate, Ne.symm hstate]
      rw [control_nciStateLeave, hactive]
    · rename_i h
      simp [SmControl.leave, NciSm.control, h]
  exact congrArg (fun c : SmControl => { c with activeState := activeState }) hupdate

theorem control_nciSmMarkActive (t : NciTransition) (self : NciSm) :
  (nciSmMarkActive t self).control = { self.control with activeTransition := some t }
  := by
  rw [nciSmMarkActive]
  split
  · have h := control_nciSmFinishActiveTransition self
    exact congrArg (fun c : SmControl => { c with activeTransition := some t }) h
  · rfl

theorem control_nciTransitionStart (t : NciTransition) (w : SmWorld ι) :
  (nciTransitionStart E t w).2.sm.control = w.sm.control
  := by cases t <;> rfl

/-- A transition is started, if its command is accepted. -/
theorem control_nciSmStartTransition (t : NciTransition) (w : SmWorld ι) :
  (nciSmStartTransition E t w).2.sm.control
    = w.sm.control.start t (nciSmStartTransition E t w).1
  := by
  have hstart := (control_nciTransitionStart (E := E) t (w.map (nciSmMarkActive t))).trans
    (control_nciSmMarkActive t w.sm)
  rw [nciSmStartTransition]
  generalize nciTransitionStart E t (w.map (nciSmMarkActive t)) = r at hstart
  obtain ⟨_ | _, w'⟩ := r
  · have htransition : w'.sm.activeTransition = some t := congrArg SmControl.activeTransition hstart
    simp only [Bool.false_eq_true, if_false, SmWorld.map_sm, nciSmUnmarkActive, htransition,
      if_true,
      SmControl.start]
    exact congrArg SmControl.finish hstart
  · simp only [if_true, SmWorld.map_sm, nciSmDeactivateState, control_nciSmLeaveActiveState,
      SmControl.start]
    exact congrArg SmControl.leave hstart

/-! ### Entering a state -/

theorem control_nciSmSetLastState (state : NciState) (self : NciSm) :
  (nciSmSetLastState state self).control = { self.control with lastState := state }
  := by
  rw [nciSmSetLastState]
  split
  · rfl
  · rename_i h
    rw [not_not] at h
    rw [← h]
    rfl

theorem control_nciSmSetNextState (state : NciState) (self : NciSm) :
  (nciSmSetNextState state self).control = { self.control with nextState := state }
  := by
  rw [nciSmSetNextState]
  split
  · rfl
  · rename_i h
    rw [not_not] at h
    rw [← h]
    rfl

/-- All commands are accepted. -/
def NciSmIo.Accepts (E : NciSmIo ι) : Prop :=
  ∀ gid oid payload resp sm io, (E.send gid oid payload resp sm io).1 = true

theorem NciSmIo.Accepts.start (h : E.Accepts) (t : NciTransition) (w : SmWorld ι) :
  (nciSmStartTransition E t w).1 = true
  := by
  have hstart : ∀ w, (nciTransitionStart E t w).1 = true := by
    intro w
    cases t <;> apply h
  rw [nciSmStartTransition, if_pos (hstart _)]

/-- The next transition is started, if its command is accepted. -/
theorem control_nciSmStartNextTransition (state : NciState) (w : SmWorld ι) :
  ∃ ok, (nciSmStartNextTransition E state w).sm.control = w.sm.control.follow state ok
    ∧ (E.Accepts → ok = true)
  := by
  have htake : nciSmTakeNextTransition state w.sm
      = w.sm.control.nextTransition.filter fun t => t.dest != state := rfl
  unfold nciSmStartNextTransition SmControl.follow
  dsimp only
  rw [htake]
  cases w.sm.control.nextTransition.filter fun t => t.dest != state with
  | some t =>
      exact ⟨_, control_nciSmStartTransition t _, fun haccepts => haccepts.start t _⟩
  | none => exact ⟨true, rfl, fun _ => rfl⟩

/-- A state that does nothing when it is entered but leave a request behind. Only
RFST_W4_HOST_SELECT leaves one. -/
def Greets (entered : NciState → Option NciParam → SmWorld ι → SmWorld ι) (state : NciState)
    (param : Option NciParam) : Prop :=
  ∀ w : SmWorld ι, ∃ request : Option NciState,
    (entered state param w).sm.control
        = { w.sm.control with pendingSwitch := request <|> w.sm.control.pendingSwitch }
      ∧ (state ≠ .w4HostSelect → request = none)

theorem greets_nciStateEnteredFlat (state : NciState) (param : Option NciParam) :
  Greets (nciStateEnteredFlat E) state param
  := by
  intro w
  cases state
  case w4HostSelect =>
    rcases param with _ | ⟨ntf⟩ | ⟨ntf⟩
    · exact ⟨none, rfl, fun _ => rfl⟩
    · exact ⟨none, rfl, fun _ => rfl⟩
    · rw [nciStateEnteredFlat, nciStateW4HostSelectEntered]
      split
      · exact ⟨none, rfl, fun _ => rfl⟩
      · exact ⟨some .discovery, rfl, fun h => absurd rfl h⟩
  all_goals exact ⟨none, rfl, fun _ => rfl⟩

/-- A first discovery with which RFST_W4_ALL_DISCOVERIES is entered is not the last one. -/
def NciParam.Continues : Option NciParam → Prop
  | some (.w4AllDiscoveries ntf) => ntf.last = false
  | _ => True

theorem NciParam.continues_none :
  NciParam.Continues none
  := trivial

theorem greets_nciStateEntered {param : Option NciParam} (h : NciParam.Continues param)
    (state : NciState) :
  Greets (nciStateEntered E) state param
  := by
  intro w
  cases state
  case w4AllDiscoveries =>
    rcases param with _ | ⟨ntf⟩ | ⟨ntf⟩
    · exact ⟨none, rfl, fun _ => rfl⟩
    · have hlast : ntf.last ≠ true := by
        rw [show ntf.last = false from h]
        decide
      rw [nciStateEntered, nciStateW4AllDiscoveriesHandleDiscovery, if_neg hlast]
      exact ⟨none, rfl, fun _ => rfl⟩
    · exact ⟨none, rfl, fun _ => rfl⟩
  all_goals exact greets_nciStateEnteredFlat (E := E) _ param w

theorem control_nciSmActivate {entered : NciState → Option NciParam → SmWorld ι → SmWorld ι}
    {state : NciState} {param : Option NciParam} (h : Greets entered state param)
    (w : SmWorld ι) :
  ∃ request : Option NciState,
    (nciSmActivate entered state param w).sm.control
        = { w.sm.control.activate state with
            pendingSwitch := request <|> w.sm.control.pendingSwitch }
      ∧ (state ≠ .w4HostSelect → request = none)
  := by
  rw [nciSmActivate, SmControl.activate]
  by_cases hactive : w.sm.activeState = some state
  · rw [if_pos hactive, if_pos (show w.sm.control.activeState = some state from hactive)]
    exact h w
  · rw [if_neg hactive, if_neg (show w.sm.control.activeState ≠ some state from hactive)]
    obtain ⟨request, hcontrol, hrequest⟩ := h (w.map (nciSmReplaceActiveState state))
    use request
    refine ⟨?_, hrequest⟩
    have hreplace : (w.map (nciSmReplaceActiveState state)).sm.control
        = { w.sm.control.leave with activeState := some state } :=
      control_nciSmLeaveActiveState w.sm (some state)
    rw [hreplace] at hcontrol
    exact congrArg (fun c : SmControl => { c with active := Function.update c.active state true })
      hcontrol

theorem control_nciSmEndEntering (state : NciState) (self : NciSm) :
  (nciSmEndEntering state self).control
    = { self.control.settle state with enteringState := self.enteringState - 1 }
  := by
  have hlast := control_nciSmSetLastState state self
  have htransition : (nciSmSetLastState state self).activeTransition = self.activeTransition :=
    congrArg SmControl.activeTransition hlast
  have hentering : (nciSmSetLastState state self).enteringState = self.enteringState :=
    congrArg SmControl.enteringState hlast
  have hnext := control_nciSmSetNextState state (nciSmSetLastState state self)
  rw [hlast] at hnext
  have hentering' : (nciSmSetNextState state (nciSmSetLastState state self)).enteringState
      = self.enteringState := congrArg SmControl.enteringState hnext
  rw [nciSmEndEntering, SmControl.settle]
  dsimp only
  rw [htransition]
  cases hactive : self.activeTransition.isNone with
  | true =>
      rw [if_pos rfl, hentering',
        if_pos (show self.control.activeTransition.isNone = true from hactive)]
      exact congrArg (fun c : SmControl => { c with enteringState := self.enteringState - 1 }) hnext
  | false =>
      rw [if_neg (by decide), hentering,
        if_neg (by rw [show self.control.activeTransition.isNone = false from hactive]; decide)]
      exact congrArg (fun c : SmControl => { c with enteringState := self.enteringState - 1 }) hlast

/-- Entering a state does what it does to the control of the machine. -/
theorem control_nciSmEnterWith {entered : NciState → Option NciParam → SmWorld ι → SmWorld ι}
    {state : NciState} {param : Option NciParam} (h : Greets entered state param)
    (w : SmWorld ι) :
  ∃ request ok,
    (nciSmEnterWith E entered state param w).sm.control = w.sm.control.enter state request ok
      ∧ (state ≠ .w4HostSelect → request = none) ∧ (E.Accepts → ok = true)
  := by
  obtain ⟨request, hactivate, hrequest⟩ := control_nciSmActivate h (w.map nciSmBeginEntering)
  obtain ⟨ok, hfollow, hok⟩ := control_nciSmStartNextTransition (E := E) state
    (nciSmActivate entered state param (w.map nciSmBeginEntering))
  use request, ok
  refine ⟨?_, hrequest, hok⟩
  have hbegin : (w.map nciSmBeginEntering).sm.control
      = { w.sm.control.finish with enteringState := w.sm.enteringState + 1 } :=
    control_nciSmFinishActiveTransition { w.sm with enteringState := w.sm.enteringState + 1 }
  rw [hbegin, SmControl.activate_enteringState] at hactivate
  rw [hactivate] at hfollow
  have hfollow' := hfollow.trans (SmControl.follow_enteringState state ok
    { w.sm.control.finish.activate state with
      pendingSwitch := request <|> w.sm.control.pendingSwitch } (w.sm.enteringState + 1))
  have hend := control_nciSmEndEntering state (nciSmStartNextTransition E state
    (nciSmActivate entered state param (w.map nciSmBeginEntering))).sm
  have hentering := congrArg SmControl.enteringState hfollow'
  rw [hfollow', show (nciSmStartNextTransition E state (nciSmActivate entered state param
    (w.map nciSmBeginEntering))).sm.enteringState = w.sm.enteringState + 1 from hentering] at hend
  rw [nciSmEnterWith]
  refine hend.trans ?_
  exact congrArg (fun n => { w.sm.control.enter state request ok with enteringState := n })
    (SmControl.enteringState_enter state request ok w.sm.control).symm

theorem control_nciSmEnterStateInternal {param : Option NciParam} (h : NciParam.Continues param)
    (state : NciState) (w : SmWorld ι) :
  ∃ request ok,
    (nciSmEnterStateInternal E state param w).sm.control = w.sm.control.enter state request ok
      ∧ (state ≠ .w4HostSelect → request = none) ∧ (E.Accepts → ok = true)
  := control_nciSmEnterWith (greets_nciStateEntered h state) w

/-- Internal states leave no request behind. -/
theorem control_nciSmEnterStateInternal_internal {state : NciState}
    (hinternal : state.isInternal = true) (w : SmWorld ι) :
  ∃ ok, (nciSmEnterStateInternal E state none w).sm.control = w.sm.control.enter state none ok
      ∧ (E.Accepts → ok = true)
  := by
  obtain ⟨request, ok, hcontrol, hrequest, hok⟩ := control_nciSmEnterStateInternal (E := E)
    NciParam.continues_none state w
  have hstate : state ≠ .w4HostSelect := by
    rintro rfl
    cases hinternal
  rw [hrequest hstate] at hcontrol
  use ok

/-! ### Stalling and switching -/

theorem control_nciSmStalled (state : NciState) (self : NciSm) :
  (nciSmStalled state self).control = self.control.stall state
  := by
  have hset : (nciSmSetNextState state
      (nciSmSetLastState state (nciSmFinishActiveTransition self))).control
      = { self.control.finish with lastState := state, nextState := state } := by
    rw [control_nciSmSetNextState, control_nciSmSetLastState, control_nciSmFinishActiveTransition]
  rw [nciSmStalled, SmControl.stall, SmControl.activate, ← hset]
  dsimp only
  generalize nciSmSetNextState state (nciSmSetLastState state (nciSmFinishActiveTransition self))
    = self'
  by_cases hactive : self'.activeState = some state
  · rw [if_neg (not_not.mpr hactive),
      if_pos (show self'.control.activeState = some state from hactive)]
  · rw [if_pos hactive, if_neg (show self'.control.activeState ≠ some state from hactive)]
    exact congrArg (fun c : SmControl => { c with active := Function.update c.active state true })
      (control_nciSmLeaveActiveState self' (some state))

theorem control_nciSmStallInternal (type : NciStall) (w : SmWorld ι) :
  (nciSmStallInternal E type w).sm.control = w.sm.control.stall type.state
  := control_nciSmStalled type.state w.sm

theorem control_nciSmSwitchActive (dest next : NciState) (w : SmWorld ι) :
  ∃ ok, (nciSmSwitchActive E dest next w).sm.control = w.sm.control.switchActive dest next ok
    ∧ (E.Accepts → ok = true)
  := by
  unfold nciSmSwitchActive SmControl.switchActive
  by_cases hdest : dest ≠ next
  · rw [if_pos hdest]
    cases nciStateGetTransition dest next with
    | some t =>
        use true
        rw [if_pos hdest]
        exact ⟨control_nciSmSetNextState next { w.sm with nextTransition := some t }, fun _ => rfl⟩
    | none =>
        cases hinternal : next.isInternal with
        | true =>
            obtain ⟨ok, hcontrol, hok⟩ :=
              control_nciSmEnterStateInternal_internal (E := E) hinternal w
            use ok
            rw [if_pos hdest]
            exact ⟨hcontrol, hok⟩
        | false =>
            use true
            rw [if_pos hdest]
            exact ⟨control_nciSmStallInternal .error w, fun _ => rfl⟩
  · use true
    rw [if_neg hdest, if_neg hdest]
    exact ⟨rfl, fun _ => rfl⟩

theorem control_nciSmSwitchViaIdle (next : NciState) (w : SmWorld ι) :
  ∃ ok, (nciSmSwitchViaIdle E next w).sm.control = w.sm.control.switchViaIdle next ok
    ∧ (E.Accepts → ok = true)
  := by
  have hstart := control_nciSmStartTransition (E := E)
    ((nciStateGetTransition w.sm.lastState .idle).getD .reset) w
  have haccepts : E.Accepts → (nciSmStartTransition E
      ((nciStateGetTransition w.sm.lastState .idle).getD .reset) w).1 = true :=
    fun h => h.start _ w
  unfold nciSmSwitchViaIdle SmControl.switchViaIdle
  dsimp only
  generalize nciSmStartTransition E ((nciStateGetTransition w.sm.lastState .idle).getD .reset) w = r
    at hstart haccepts
  obtain ⟨ok, w'⟩ := r
  use ok
  refine ⟨?_, haccepts⟩
  rw [show w.sm.control.lastState = w.sm.lastState from rfl, ← hstart]
  cases ok with
  | true =>
      rw [if_pos rfl, if_pos rfl]
      by_cases hnext : next = .idle
      · rw [if_pos hnext, if_pos hnext]
        exact control_nciSmSetNextState .idle w'.sm
      · rw [if_neg hnext, if_neg hnext]
        cases nciStateGetTransition .idle next with
        | some t => exact control_nciSmSetNextState next { w'.sm with nextTransition := some t }
        | none => exact control_nciSmStallInternal .error _
  | false =>
      rw [if_neg Bool.false_ne_true, if_neg Bool.false_ne_true]
      exact control_nciSmStallInternal .error w'

theorem control_nciSmSwitchIdle (next : NciState) (w : SmWorld ι) :
  ∃ ok, (nciSmSwitchIdle E next w).sm.control = w.sm.control.switchIdle next ok
    ∧ (E.Accepts → ok = true)
  := by
  unfold nciSmSwitchIdle SmControl.switchIdle
  rw [show w.sm.control.lastState = w.sm.lastState from rfl]
  cases nciStateGetTransition w.sm.lastState next with
  | some t =>
      have hstart := control_nciSmStartTransition (E := E) t w
      have haccepts : E.Accepts → (nciSmStartTransition E t w).1 = true := fun h => h.start t w
      dsimp only
      generalize nciSmStartTransition E t w = r at hstart haccepts
      obtain ⟨ok, w'⟩ := r
      use ok
      refine ⟨?_, haccepts⟩
      rw [← hstart]
      cases ok with
      | true => exact control_nciSmSetNextState next w'.sm
      | false => exact control_nciSmStallInternal .error w'
  | none =>
      cases hinternal : next.isInternal with
      | true => exact control_nciSmEnterStateInternal_internal (E := E) hinternal w
      | false => exact control_nciSmSwitchViaIdle next w

/-- A switch does what it does to the control of the machine. -/
theorem control_nciSmSwitchBegin (next : NciState) (w : SmWorld ι) :
  ∃ ok, (nciSmSwitchBegin E next w).sm.control = w.sm.control.switch next ok
    ∧ (E.Accepts → ok = true)
  := by
  unfold nciSmSwitchBegin SmControl.switch
  rw [show w.sm.control.activeTransition = w.sm.activeTransition from rfl]
  dsimp only [SmWorld.map_sm]
  cases w.sm.activeTransition with
  | some t => exact control_nciSmSwitchActive t.dest next _
  | none => exact control_nciSmSwitchIdle next _

/-! ### Surroundings that make no requests -/

/-- Nothing is requested from inside a callback. -/
structure NciSmIo.Silent (E : NciSmIo ι) : Prop where
  signal : ∀ sig w, (E.signal sig w).sm = w.sm
  intfActivated : ∀ ntf w, (E.intfActivated ntf w).sm = w.sm
  sarSetMaxLogicalConnections : ∀ max w, (E.sarSetMaxLogicalConnections max w).sm = w.sm

theorem NciSmIo.Silent.emit (h : E.Silent) (w : SmWorld ι) :
  (nciSmEmitPendingSignals E w).sm.control = w.sm.control
  := by
  have hsignal : ∀ sig w, (nciSmEmitSignal E sig w).sm.control = w.sm.control := by
    intro sig w
    rw [nciSmEmitSignal]
    split
    · rw [h.signal]
      rfl
    · rfl
  rw [nciSmEmitPendingSignals, hsignal, hsignal]

/-- Nothing is requested in surroundings that do not react. -/
theorem SmHost.silent_io {H : SmHost} (h : ∀ history, H.react history = []) (n : Nat) :
  (H.io n).Silent
  := by
  cases n with
  | zero => exact ⟨fun _ _ => rfl, fun _ _ => rfl, fun _ _ => rfl⟩
  | succ n =>
      have hnone : ∀ w : SmWorld SmHistory,
          ((H.react w.io).foldl (SmRequest.perform (H.io n)) w).sm = w.sm := by
        intro w
        rw [h, List.foldl_nil]
      exact ⟨fun _ _ => hnone _, fun _ _ => hnone _, fun _ _ => hnone _⟩

theorem SmHost.accepts_io {H : SmHost} (h : ∀ history, H.send history = true) (n : Nat) :
  (H.io n).Accepts
  := by cases n <;> exact fun _ _ _ _ _ history => h history

theorem SmHost.quiet_silent (n : Nat) :
  (SmHost.quiet.io n).Silent
  := SmHost.silent_io (fun _ => rfl) n

theorem SmHost.quiet_accepts (n : Nat) :
  (SmHost.quiet.io n).Accepts
  := SmHost.accepts_io (fun _ => rfl) n

end Nci
