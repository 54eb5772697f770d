import LibNciCore.Sm.Moves
import Mathlib.Data.List.Induction

/-!
# The functions of the machine are sequences of moves

A function of the machine passes through moves. It leaves the depth to which entering states is
nested as it was, and as long as a state is being entered it leaves no next transition behind.
If it emits the signals that it queues, then it performs: no signal is pending afterwards that
was not pending before.
-/

namespace Nci

open Relation

/-! ### Sequences of moves -/

/-- A function passes through moves. -/
structure Passes (H : SmHost) (w w' : SmWorld SmHistory) : Prop where
  moves : ReflTransGen (SmMove H) w w'
  enteringState : w'.sm.enteringState = w.sm.enteringState
  unfollowed : w.sm.enteringState ≠ 0 → w.sm.nextTransition = none →
    w'.sm.nextTransition = none

/-- A function passes through moves, and emits the signals it queues. -/
structure Performs (H : SmHost) (w w' : SmWorld SmHistory) : Prop extends Passes H w w' where
  emitted : ∀ sig, w.sm.pendingSignals sig = false → w'.sm.pendingSignals sig = false

variable {H : SmHost} {w w' w'' : SmWorld SmHistory}

theorem Passes.refl (w : SmWorld SmHistory) :
  Passes H w w
  := ⟨.refl, rfl, fun _ h => h⟩

theorem Passes.trans (h : Passes H w w') (h' : Passes H w' w'') :
  Passes H w w''
  := by
  refine ⟨h.moves.trans h'.moves, h'.enteringState.trans h.enteringState, fun hentering hnext => ?_⟩
  exact h'.unfollowed (h.enteringState ▸ hentering) (h.unfollowed hentering hnext)

theorem Passes.move (h : SmMove H w w') (hentering : w'.sm.enteringState = w.sm.enteringState)
    (hnext : w'.sm.nextTransition = w.sm.nextTransition) :
  Passes H w w'
  := ⟨.single h, hentering, fun _ h => hnext.trans h⟩

theorem Performs.refl (w : SmWorld SmHistory) :
  Performs H w w
  := ⟨.refl w, fun _ h => h⟩

theorem Performs.trans (h : Performs H w w') (h' : Performs H w' w'') :
  Performs H w w''
  := ⟨h.toPasses.trans h'.toPasses, fun sig hsig => h'.emitted sig (h.emitted sig hsig)⟩

/-- A move that concerns neither the next transition nor the signals. -/
theorem Performs.move (h : SmMove H w w') (hentering : w'.sm.enteringState = w.sm.enteringState)
    (hnext : w'.sm.nextTransition = w.sm.nextTransition)
    (hpending : w'.sm.pendingSignals = w.sm.pendingSignals) :
  Performs H w w'
  := ⟨.move h hentering hnext, fun _ h => (congrFun hpending _).trans h⟩

/-- Something is recorded. -/
theorem Performs.note {a : SmAction} (h : SmMove H w (w.note a)) :
  Performs H w (w.note a)
  := .move h rfl rfl rfl

/-- Something is edited that does not decide where the machine goes. -/
theorem Performs.edit (w : SmWorld SmHistory) (f : NciSm → NciSm)
    (h : (f w.sm).kernel = w.sm.kernel) :
  Performs H w (w.map f)
  := by
  have hentering := congrArg NciSm.enteringState h
  have hnext := congrArg NciSm.nextTransition h
  have hpending := congrArg NciSm.pendingSignals h
  exact .move (.edit w (f w.sm) h) hentering hnext hpending

/-! ### Callbacks -/

/-- Requests that are made in a callback perform, and keep what requests keep. -/
structure Plays (H : SmHost) (p : List SmRequest → SmWorld SmHistory → SmWorld SmHistory) :
    Prop where
  performs : ∀ requests w, Performs H w (p requests w)
  nothing : ∀ w, p [] w = w
  keeps : ∀ {P}, SmControl.Steady P → ∀ requests, Keeps P (p requests)

section Functions

variable {p : List SmRequest → SmWorld SmHistory → SmWorld SmHistory}
  (hplays : Plays H p)
include hplays

theorem performs_nciSmEmitSignal (sig : NciSmSignal) (w : SmWorld SmHistory) :
  Performs H w (nciSmEmitSignal (H.ioWith p) sig w)
    ∧ (nciSmEmitSignal (H.ioWith p) sig w).sm.pendingSignals sig = false
  := by
  rw [nciSmEmitSignal]
  split
  · rename_i hpending
    have hcallback := hplays.performs (H.react ((w.map fun self =>
        { self with pendingSignals := Function.update self.pendingSignals sig false }).note
          (.signal sig { w.sm with
            pendingSignals := Function.update w.sm.pendingSignals sig false })).io)
      ((w.map fun self =>
        { self with pendingSignals := Function.update self.pendingSignals sig false }).note
          (.signal sig { w.sm with
            pendingSignals := Function.update w.sm.pendingSignals sig false }))
    constructor
    · refine ⟨(Passes.move (.turn (.emit w hpending)) rfl rfl).trans hcallback.toPasses, ?_⟩
      intro sig' hsig'
      apply hcallback.emitted
      change Function.update w.sm.pendingSignals sig false sig' = false
      by_cases heq : sig' = sig
      · rw [heq, Function.update_self]
      · rw [Function.update_of_ne heq]
        exact hsig'
    · apply hcallback.emitted
      exact Function.update_self ..
  · rename_i hpending
    exact ⟨.refl w, Bool.eq_false_iff.mpr hpending⟩

/-- After signals have been emitted none is pending. -/
theorem nciSmEmitPendingSignals_emitted (sig : NciSmSignal) (w : SmWorld SmHistory) :
  (nciSmEmitPendingSignals (H.ioWith p) w).sm.pendingSignals sig = false
  := by
  obtain ⟨hlast, hlastEmitted⟩ := performs_nciSmEmitSignal hplays .lastState
    (nciSmEmitSignal (H.ioWith p) .nextState w)
  cases sig with
  | lastState => exact hlastEmitted
  | nextState => exact hlast.emitted .nextState (performs_nciSmEmitSignal hplays .nextState w).2

/-- What passes, and emits signals then, performs. -/
theorem Passes.emit (h : Passes H w w') :
  Performs H w (nciSmEmitPendingSignals (H.ioWith p) w')
  := by
  have hnext := (performs_nciSmEmitSignal hplays .nextState w').1
  have hlast := (performs_nciSmEmitSignal hplays .lastState
    (nciSmEmitSignal (H.ioWith p) .nextState w')).1
  refine ⟨h.trans (hnext.trans hlast).toPasses, fun sig _ => ?_⟩
  exact nciSmEmitPendingSignals_emitted hplays sig w'

/-! ### Entering a state -/

/-- What happens in a state that has been entered leaves the next transition to be started, or
there is none. -/
structure Welcomes (H : SmHost) (state : NciState) (w w' : SmWorld SmHistory) : Prop extends
    Passes H w w' where
  follows : w'.sm.activeState = some state ∧ w'.sm.activeTransition = none
    ∨ w'.sm.nextTransition = none ∧ state = .w4AllDiscoveries

omit hplays in
/-- Activating a state is a move, up to the flag of the state. -/
theorem welcomes_nciSmActivate
    {entered : NciState → Option NciParam → SmWorld SmHistory → SmWorld SmHistory}
    {state : NciState} {param : Option NciParam}
    (h : Welcomes H state (w.map (nciSmEntering state))
      (entered state param (w.map (nciSmEntering state)))) :
  Welcomes H state (w.map (nciSmEntering state))
    (nciSmActivate entered state param (w.map nciSmBeginEntering))
  := by
  rw [nciSmActivate]
  by_cases hactive : (nciSmBeginEntering w.sm).activeState = some state
  · have hentering : nciSmEntering state w.sm = nciSmBeginEntering w.sm := if_pos hactive
    rw [SmWorld.map_sm, if_pos hactive]
    rw [SmWorld.map, hentering] at h ⊢
    exact h
  · have hentering : nciSmEntering state w.sm
        = nciSmReplaceActiveState state (nciSmBeginEntering w.sm) := if_neg hactive
    have hworld : (w.map nciSmBeginEntering).map (nciSmReplaceActiveState state)
        = w.map (nciSmEntering state) :=
      congrArg (fun sm => (⟨sm, w.io⟩ : SmWorld SmHistory)) hentering.symm
    rw [SmWorld.map_sm, if_neg hactive, hworld]
    have hedit := Performs.edit (H := H) (entered state param (w.map (nciSmEntering state)))
      (nciStateDefaultEnter state) rfl
    exact ⟨h.toPasses.trans hedit.toPasses, h.follows⟩

/-- The machine is done with entering a state. -/
structure Leaves (H : SmHost) (w w' : SmWorld SmHistory) : Prop where
  moves : ReflTransGen (SmMove H) w w'
  enteringState : w'.sm.enteringState = w.sm.enteringState - 1
  nextTransition : w'.sm.nextTransition = none

omit hplays in
/-- The next transition is started, if there is one, and the state has been entered. -/
theorem leaves_nciSmStartNextTransition (state : NciState) (hentering : w.sm.enteringState ≠ 0)
    (hfollows : w.sm.activeState = some state ∧ w.sm.activeTransition = none
      ∨ w.sm.nextTransition = none ∧ state = .w4AllDiscoveries) :
  Leaves H w ((nciSmStartNextTransition (H.ioWith p) state w).map (nciSmEndEntering state))
  := by
  unfold nciSmStartNextTransition
  dsimp only
  cases htake : nciSmTakeNextTransition state w.sm with
  | none =>
      have hleave := SmTurn.leave (w.map fun self => { self with nextTransition := none })
        hentering rfl state (hfollows.imp And.right And.right)
      obtain ⟨_, hend, -⟩ := nciSmEndEntering_eq state { w.sm with nextTransition := none }
      have hdepth := congrArg NciSm.enteringState hend
      have hforgot := congrArg NciSm.nextTransition hend
      exact ⟨(ReflTransGen.single (.turn (.forget w))).tail (.turn hleave), hdepth, hforgot⟩
  | some t =>
      rw [nciSmTakeNextTransition, Option.filter_eq_some_iff] at htake
      obtain ⟨hnext, hdest⟩ := htake
      have hdest' : t.dest ≠ state := by simpa using hdest
      obtain ⟨hstate, hactive⟩ | ⟨hnone, -⟩ := hfollows
      · dsimp only
        rw [nciSmStartTransition_ioWith]
        have hmove := SmTurn.follow w hentering hstate hactive hnext hdest'
          (H.timeout w.io) (H.send w.io)
        obtain ⟨hdepth, hforgot, -⟩ := SmWorld.started_frame t (H.timeout w.io) (H.send w.io)
          (w.map fun self => { self with nextTransition := none })
        obtain ⟨_, hend, -⟩ := nciSmEndEntering_eq state ((w.map fun self =>
          { self with nextTransition := none }).started t (H.timeout w.io) (H.send w.io)).sm
        have hdepth' := (congrArg NciSm.enteringState hend).trans
          (congrArg (fun n => n - 1) hdepth)
        have hforgot' := (congrArg NciSm.nextTransition hend).trans hforgot
        exact ⟨.single (.turn hmove), hdepth', hforgot'⟩
      · cases hnone.symm.trans hnext

omit hplays in
/-- A state is entered. -/
theorem passes_nciSmEnterWith
    {entered : NciState → Option NciParam → SmWorld SmHistory → SmWorld SmHistory}
    {state : NciState} {param : Option NciParam} (h : w.Enterable state)
    (hentered : Welcomes H state (w.map (nciSmEntering state))
      (entered state param (w.map (nciSmEntering state)))) :
  Passes H w (nciSmEnterWith (H.ioWith p) entered state param w)
    ∧ (nciSmEnterWith (H.ioWith p) entered state param w).sm.nextTransition = none
  := by
  obtain ⟨_, _, _, _, _, hentering⟩ := nciSmEntering_eq state w.sm
  have hentering' : (nciSmEntering state w.sm).enteringState = w.sm.enteringState + 1 := by
    rw [hentering]
  have hactivate := welcomes_nciSmActivate hentered
  have hdepth : (nciSmActivate entered state param (w.map nciSmBeginEntering)).sm.enteringState
      = w.sm.enteringState + 1 := hactivate.enteringState.trans hentering'
  have hleaves := leaves_nciSmStartNextTransition (H := H) (p := p) state
    (by rw [hdepth]; exact Nat.succ_ne_zero _) hactivate.follows
  have hdepth' : (nciSmEnterWith (H.ioWith p) entered state param w).sm.enteringState
      = w.sm.enteringState :=
    hleaves.enteringState.trans (congrArg (fun n => n - 1) hdepth)
  have hmoves := (ReflTransGen.head (.turn (.enter w h)) hactivate.moves).trans hleaves.moves
  exact ⟨⟨hmoves, hdepth', fun _ _ => hleaves.nextTransition⟩, hleaves.nextTransition⟩

omit hplays in
/-- What the states do when they are entered, apart from RFST_W4_ALL_DISCOVERIES. -/
theorem welcomes_nciStateEnteredFlat (state : NciState) (param : Option NciParam)
    (hentering : w.sm.enteringState ≠ 0) (hstate : w.sm.activeState = some state)
    (hactive : w.sm.activeTransition = none) :
  Welcomes H state w (nciStateEnteredFlat (H.ioWith p) state param w)
  := by
  cases state
  case discovery => exact ⟨(Performs.note (.sar w _ rfl)).toPasses, Or.inl ⟨hstate, hactive⟩⟩
  case w4HostSelect =>
    rcases param with _ | ⟨ntf⟩ | ⟨ntf⟩
    · exact ⟨.refl w, Or.inl ⟨hstate, hactive⟩⟩
    · exact ⟨.refl w, Or.inl ⟨hstate, hactive⟩⟩
    · rw [nciStateEnteredFlat, nciStateW4HostSelectEntered]
      split
      · exact ⟨(Performs.note (.select w hactive hentering _ _)).toPasses, Or.inl ⟨hstate, hactive⟩⟩
      · have hedit := Performs.edit (H := H) w (nciSmScheduleSwitch .discovery) rfl
        exact ⟨hedit.toPasses, Or.inl ⟨hstate, hactive⟩⟩
  all_goals exact ⟨.refl w, Or.inl ⟨hstate, hactive⟩⟩

omit hplays in
theorem passes_nciSmEnterFlat {state : NciState} (param : Option NciParam) (h : w.Enterable state) :
  Passes H w (nciSmEnterWith (H.ioWith p) (nciStateEnteredFlat (H.ioWith p)) state param w)
    ∧ (nciSmEnterWith (H.ioWith p) (nciStateEnteredFlat (H.ioWith p)) state param
      w).sm.nextTransition = none
  := by
  apply passes_nciSmEnterWith h
  obtain ⟨_, _, _, _, _, hentering⟩ := nciSmEntering_eq state w.sm
  apply welcomes_nciStateEnteredFlat
  · rw [SmWorld.map_sm, hentering]
    exact Nat.succ_ne_zero _
  · rw [SmWorld.map_sm, hentering]
  · rw [SmWorld.map_sm, hentering]

theorem performs_nciSmEnterHostSelect (ntf : List NciDiscoveryNtf) (h : w.Enterable .w4HostSelect) :
  Performs H w (nciSmEnterHostSelect (H.ioWith p) ntf w)
    ∧ (w.sm.enteringState ≠ 0 →
      (nciSmEnterHostSelect (H.ioWith p) ntf w).sm.nextTransition = none)
  := by
  obtain ⟨hpasses, hnext⟩ := passes_nciSmEnterFlat (H := H) (p := p)
    (some (.w4HostSelect ntf)) h
  have hemit := (Passes.refl (H := H) (nciSmEnterWith (H.ioWith p)
    (nciStateEnteredFlat (H.ioWith p)) .w4HostSelect (some (.w4HostSelect ntf)) w)).emit hplays
  refine ⟨hpasses.emit hplays, fun hentering => hemit.unfollowed ?_ hnext⟩
  rw [hpasses.enteringState]
  exact hentering

/-- A discovery is collected, and if it is the last one, RFST_W4_HOST_SELECT is entered. -/
theorem performs_nciStateW4AllDiscoveriesHandleDiscovery (ntf : NciDiscoveryNtf)
    (h : ∀ discoveries, (w.map fun self => { self with discoveries := discoveries }).Enterable
      .w4HostSelect) :
  Performs H w (nciStateW4AllDiscoveriesHandleDiscovery (H.ioWith p) ntf w)
    ∧ (ntf.last = true → w.sm.enteringState ≠ 0 →
      (nciStateW4AllDiscoveriesHandleDiscovery (H.ioWith p) ntf w).sm.nextTransition = none)
  := by
  have hedit := Performs.edit (H := H) w
    (fun self => { self with discoveries := self.discoveries ++ [ntf] }) rfl
  rw [nciStateW4AllDiscoveriesHandleDiscovery]
  split
  · obtain ⟨hselect, hnext⟩ := performs_nciSmEnterHostSelect hplays (w.sm.discoveries ++ [ntf])
      (h (w.sm.discoveries ++ [ntf]))
    exact ⟨hedit.trans hselect, fun _ hentering => hnext hentering⟩
  · rename_i hlast
    exact ⟨hedit, fun h => absurd h hlast⟩

theorem welcomes_nciStateEntered (state : NciState) (param : Option NciParam)
    (hentering : w.sm.enteringState ≠ 0) (hstate : w.sm.activeState = some state)
    (hactive : w.sm.activeTransition = none) :
  Welcomes H state w (nciStateEntered (H.ioWith p) state param w)
  := by
  cases state
  case w4AllDiscoveries =>
    have hedit := Performs.edit (H := H) w (fun self => { self with discoveries := [] }) rfl
    rcases param with _ | ⟨ntf⟩ | ⟨ntf⟩
    · exact ⟨hedit.toPasses, Or.inl ⟨hstate, hactive⟩⟩
    · obtain ⟨hhandle, hnext⟩ := performs_nciStateW4AllDiscoveriesHandleDiscovery hplays ntf
        (w := w.map fun self => { self with discoveries := [] })
        (fun _ => .nested hactive hentering hstate)
      refine ⟨(hedit.trans hhandle).toPasses, ?_⟩
      cases hlast : ntf.last with
      | true => exact Or.inr ⟨hnext hlast hentering, rfl⟩
      | false =>
          left
          rw [nciStateEntered, nciStateW4AllDiscoveriesHandleDiscovery, hlast]
          exact ⟨hstate, hactive⟩
    · exact ⟨hedit.toPasses, Or.inl ⟨hstate, hactive⟩⟩
  all_goals exact welcomes_nciStateEnteredFlat (p := p) _ param hentering hstate hactive

theorem passes_nciSmEnterStateInternal {state : NciState} (param : Option NciParam)
    (h : w.Enterable state) :
  Passes H w (nciSmEnterStateInternal (H.ioWith p) state param w)
    ∧ (nciSmEnterStateInternal (H.ioWith p) state param w).sm.nextTransition = none
  := by
  apply passes_nciSmEnterWith h
  obtain ⟨_, _, _, _, _, hentering⟩ := nciSmEntering_eq state w.sm
  apply welcomes_nciStateEntered hplays
  · rw [SmWorld.map_sm, hentering]
    exact Nat.succ_ne_zero _
  · rw [SmWorld.map_sm, hentering]
  · rw [SmWorld.map_sm, hentering]

theorem performs_nciSmEnterState {state : NciState} (param : Option NciParam)
    (h : w.Enterable state) :
  Performs H w (nciSmEnterState (H.ioWith p) state param w)
  := (passes_nciSmEnterStateInternal hplays param h).1.emit hplays

/-! ### Stalling and switching -/

omit hplays in
theorem passes_nciSmStallInternal (hnext : w.sm.enteringState = 0 ∨ w.sm.nextTransition = none)
    (type : NciStall) :
  Passes H w (nciSmStallInternal (H.ioWith p) type w)
  := by
  obtain ⟨_, _, _, _, _, _, hstalled, -⟩ := nciSmStalled_eq type.state w.sm
  apply Passes.move (.turn (.stall w w.sm.version w.sm.expectingNtf hnext type))
  · dsimp only
    rw [hstalled]
  · dsimp only
    rw [hstalled]

theorem performs_nciSmError (hentering : w.sm.enteringState = 0) :
  Performs H w (nciSmError (H.ioWith p) w)
  := (passes_nciSmStallInternal (Or.inl hentering) .error).emit hplays

omit hplays in
theorem passes_started {t : NciTransition} (hactive : w.sm.activeTransition = none)
    (hnext : w.sm.nextTransition = none)
    (ht : t = .reset ∨ w.sm.enteringState = 0 ∧ t ∈ nciSmTransitions w.sm.lastState)
    (timeout ok : Bool) (hreset : ok = true → t = .reset → w.sm.lastState ≠ .idle
      ∨ w.sm.enteringState = 0 ∧ w.sm.nextState ≠ w.sm.lastState) :
  Passes H w (w.started t timeout ok)
  := by
  obtain ⟨hdepth, hnext', -⟩ := w.started_frame t timeout ok
  exact .move (.turn (.start w hactive hnext ht timeout ok hreset)) hdepth hnext'

omit hplays in
theorem activeTransition_started (t : NciTransition) (timeout : Bool) (w : SmWorld SmHistory) :
  (w.started t timeout true).sm.activeTransition = some t
  := by
  obtain ⟨_, _, _, _, _, h⟩ := w.started_accepted t timeout
  rw [h]

omit hplays in
/-- The next transition is queued. -/
theorem passes_queue {t t' : NciTransition} (hentering : w.sm.enteringState = 0)
    (hactive : w.sm.activeTransition = some t) (ht' : t' ∈ nciSmTransitions t.dest)
    (next : NciState) :
  Passes H w (w.map fun self => nciSmSetNextState next { self with nextTransition := some t' })
  := by
  obtain ⟨_, hset, -⟩ := nciSmSetNextState_eq next { w.sm with nextTransition := some t' }
  refine ⟨.single (.turn (.queue w hentering hactive ht' next)), ?_, fun h => absurd hentering h⟩
  rw [SmWorld.map_sm, hset]

omit hplays in
theorem passes_aim {t : NciTransition} (hactive : w.sm.activeTransition = some t)
    (next : NciState) :
  Passes H w (w.map (nciSmSetNextState next))
  := by
  obtain ⟨_, hset, -⟩ := nciSmSetNextState_eq next w.sm
  apply Passes.move (.turn (.aim w hactive next))
  · rw [SmWorld.map_sm, hset]
  · rw [SmWorld.map_sm, hset]

omit hplays in
/-- The next transition is forgotten. -/
theorem passes_forget (w : SmWorld SmHistory) :
  Passes H w (w.map fun self => { self with nextTransition := none })
  := ⟨.single (.turn (.forget w)), rfl, fun _ _ => rfl⟩

theorem passes_nciSmSwitchActive {t : NciTransition} (hentering : w.sm.enteringState = 0)
    (hactive : w.sm.activeTransition = some t) (hnext : w.sm.nextTransition = none)
    (next : NciState) :
  Passes H w (nciSmSwitchActive (H.ioWith p) t.dest next w)
  := by
  unfold nciSmSwitchActive
  split
  · split
    · rename_i t' ht'
      exact passes_queue hentering hactive (List.mem_of_find?_eq_some ht') next
    · split
      · rename_i hinternal
        exact (passes_nciSmEnterStateInternal hplays none (.internal hinternal hnext)).1
      · exact passes_nciSmStallInternal (Or.inl hentering) .error
  · exact .refl w

omit hplays in
/-- A switch by way of RFST_IDLE. While a state is being entered this is done only for a reset. -/
theorem passes_nciSmSwitchViaIdle {next : NciState} (hactive : w.sm.activeTransition = none)
    (hnext : w.sm.nextTransition = none)
    (hreason : w.sm.enteringState = 0 ∧ w.sm.nextState ≠ next
        ∧ nciStateGetTransition w.sm.lastState next = none
      ∨ next = .idle ∧ w.sm.lastState = .init) :
  Passes H w (nciSmSwitchViaIdle (H.ioWith p) next w)
  := by
  have ht : (nciStateGetTransition w.sm.lastState .idle).getD .reset = .reset
      ∨ w.sm.enteringState = 0
        ∧ (nciStateGetTransition w.sm.lastState .idle).getD .reset
          ∈ nciSmTransitions w.sm.lastState := by
    obtain ⟨hentering, -⟩ | ⟨-, hlast⟩ := hreason
    · cases htransition : nciStateGetTransition w.sm.lastState .idle with
      | none => exact Or.inl rfl
      | some t => exact Or.inr ⟨hentering, List.mem_of_find?_eq_some htransition⟩
    · rw [hlast]
      exact Or.inl rfl
  have hdest : ((nciStateGetTransition w.sm.lastState .idle).getD .reset).dest = .idle := by
    cases htransition : nciStateGetTransition w.sm.lastState .idle with
    | none => rfl
    | some t => simpa using List.find?_some htransition
  unfold nciSmSwitchViaIdle
  dsimp only
  rw [nciSmStartTransition_ioWith]
  dsimp only
  generalize (nciStateGetTransition w.sm.lastState .idle).getD .reset = t at ht hdest
  have hunfollowed : ∀ ok, (w.started t (H.timeout w.io) ok).sm.nextTransition = none :=
    fun ok => (w.started_frame t (H.timeout w.io) ok).2.1.trans hnext
  cases hok : H.send w.io with
  | true =>
      have hactive' := activeTransition_started t (H.timeout w.io) w
      rw [if_pos rfl]
      by_cases hidle : next = .idle
      · have hstarted := passes_started (H := H) hactive hnext ht (H.timeout w.io) true
          (fun _ _ => by
            obtain ⟨hentering, hne, -⟩ | ⟨-, hlast⟩ := hreason
            · by_cases hlast : w.sm.lastState = .idle
              · exact Or.inr ⟨hentering, by rw [hlast, ← hidle]; exact hne⟩
              · exact Or.inl hlast
            · exact Or.inl (by rw [hlast]; decide))
        rw [if_pos hidle]
        exact hstarted.trans (passes_aim hactive' .idle)
      · obtain ⟨hentering, -, hnone⟩ := hreason.resolve_right fun h => hidle h.1
        rw [if_neg hidle]
        cases htransition : nciStateGetTransition .idle next with
        | some t' =>
            have hstarted := passes_started (H := H) hactive hnext ht (H.timeout w.io) true
              (fun _ _ => Or.inl fun hlast => by
                rw [hlast, htransition] at hnone
                cases hnone)
            refine hstarted.trans (passes_queue ?_ hactive' ?_ next)
            · rw [hstarted.enteringState]
              exact hentering
            · rw [hdest]
              exact List.mem_of_find?_eq_some htransition
        | none =>
            have habandon := SmTurn.abandon w hentering hactive (ht.imp_right And.right)
              (H.timeout w.io)
            obtain ⟨_, _, _, _, _, _, hstalled, -⟩ := nciSmStalled_eq .error
              { (w.started t (H.timeout w.io) true).sm with nextTransition := none }
            refine ⟨.single (.turn habandon), ?_, fun h => absurd hentering h⟩
            have hdepth := (w.started_frame t (H.timeout w.io) true).1
            exact (congrArg NciSm.enteringState hstalled).trans hdepth
  | false =>
      have hstarted := passes_started (H := H) hactive hnext ht (H.timeout w.io) false
        (fun hok => absurd hok Bool.false_ne_true)
      rw [if_neg Bool.false_ne_true]
      exact hstarted.trans (passes_nciSmStallInternal (Or.inr (hunfollowed false)) .error)

theorem passes_nciSmSwitchIdle (hentering : w.sm.enteringState = 0)
    (hactive : w.sm.activeTransition = none) (hnext : w.sm.nextTransition = none)
    {next : NciState} (hne : w.sm.nextState ≠ next) :
  Passes H w (nciSmSwitchIdle (H.ioWith p) next w)
  := by
  unfold nciSmSwitchIdle
  cases htransition : nciStateGetTransition w.sm.lastState next with
  | some t =>
      have hmem := List.mem_of_find?_eq_some htransition
      have hreset : t ≠ .reset := by
        rintro rfl
        cases hlast : w.sm.lastState <;> rw [hlast] at hmem <;> simp [nciSmTransitions] at hmem
      have hstarted := passes_started (H := H) hactive hnext (Or.inr ⟨hentering, hmem⟩)
        (H.timeout w.io) (H.send w.io) (fun _ h => absurd h hreset)
      have hunfollowed : ∀ ok, (w.started t (H.timeout w.io) ok).sm.nextTransition = none :=
        fun ok => (w.started_frame t (H.timeout w.io) ok).2.1.trans hnext
      dsimp only
      rw [nciSmStartTransition_ioWith]
      cases hok : H.send w.io with
      | true =>
          rw [hok] at hstarted
          exact hstarted.trans (passes_aim (activeTransition_started t _ w) next)
      | false =>
          rw [hok] at hstarted
          exact hstarted.trans (passes_nciSmStallInternal (Or.inr (hunfollowed false)) .error)
  | none =>
      dsimp only
      split
      · rename_i hinternal
        exact (passes_nciSmEnterStateInternal hplays none (.internal hinternal hnext)).1
      · exact passes_nciSmSwitchViaIdle hactive hnext (Or.inl ⟨hentering, hne, htransition⟩)

theorem passes_nciSmSwitchBegin (hentering : w.sm.enteringState = 0) {next : NciState}
    (hne : w.sm.nextState ≠ next) :
  Passes H w (nciSmSwitchBegin (H.ioWith p) next w)
  := by
  unfold nciSmSwitchBegin
  dsimp only [SmWorld.map_sm]
  cases hactive : w.sm.activeTransition with
  | some t =>
      exact (passes_forget w).trans (passes_nciSmSwitchActive hplays
        (w := w.map fun self => { self with nextTransition := none }) hentering hactive rfl next)
  | none =>
      exact (passes_forget w).trans (passes_nciSmSwitchIdle hplays
        (w := w.map fun self => { self with nextTransition := none }) hentering hactive rfl hne)

theorem performs_nciSmSwitchInternal (hentering : w.sm.enteringState = 0) (next : NciState) :
  Performs H w (nciSmSwitchInternal (H.ioWith p) next w)
  := by
  rw [nciSmSwitchInternal]
  split
  · rename_i hne
    exact (passes_nciSmSwitchBegin hplays hentering hne).emit hplays
  · exact .refl w

/-! ### Requests -/

theorem performs_nciSmSwitchTo (state : NciState) (w : SmWorld SmHistory) :
  Performs H w (nciSmSwitchTo (H.ioWith p) state w)
  := by
  by_cases hentering : w.sm.enteringState = 0
  · rw [nciSmSwitchTo_outside _ hentering]
    have hedit := Performs.edit (H := H) w (fun self => { self with pendingSwitch := none }) rfl
    exact hedit.trans (performs_nciSmSwitchInternal hplays
      (w := w.map fun self => { self with pendingSwitch := none }) hentering state)
  · rw [nciSmSwitchTo_entering _ hentering]
    exact Performs.edit (H := H) w (nciSmScheduleSwitch state) rfl

theorem performs_nciSmSwitchProc (hentering : w.sm.enteringState = 0) :
  Performs H w (nciSmSwitchProc (H.ioWith p) w)
  := by
  unfold nciSmSwitchProc
  split
  · have hedit := Performs.edit (H := H) w (fun self => { self with pendingSwitch := none }) rfl
    exact hedit.trans (performs_nciSmSwitchInternal hplays
      (w := w.map fun self => { self with pendingSwitch := none }) hentering _)
  · exact .refl w

omit hplays in
/-- After NCI_STATE_INIT has been entered, the machine rests there. -/
theorem restsIn_enterInit (h : w.sm.nextTransition = none) :
  (nciSmEnterStateInternal (H.ioWith p) .init none w).sm.control.RestsIn .init
  := by
  obtain ⟨ok, hcontrol, -⟩ := control_nciSmEnterStateInternal_internal (E := H.ioWith p)
    (show NciState.isInternal .init = true from rfl) w
  have hnone : w.sm.control.nextTransition.filter (fun t => t.dest != NciState.init) = none := by
    rw [show w.sm.control.nextTransition = none from h]
    rfl
  rw [hcontrol, SmControl.enter_rests hnone, SmControl.activate_eq]
  exact ⟨rfl, rfl, rfl, rfl⟩

theorem performs_nciSmReset (w : SmWorld SmHistory) :
  Performs H w (nciSmReset (H.ioWith p) w)
  := by
  have hedit := Performs.edit (H := H) w (fun self => { self with pendingSwitch := none }) rfl
  have hforget := passes_forget (H := H) (w.map fun self => { self with pendingSwitch := none })
  obtain ⟨hinit, hnext⟩ := passes_nciSmEnterStateInternal (H := H) hplays none
    (w := w.map fun self => { self with pendingSwitch := none, nextTransition := none })
    (SmWorld.Enterable.internal (show NciState.isInternal .init = true from rfl) rfl)
  have hrests := restsIn_enterInit (H := H) (p := p)
    (w := w.map fun self => { self with pendingSwitch := none, nextTransition := none }) rfl
  have hinit' := (hedit.toPasses.trans hforget).trans hinit
  rw [nciSmReset]
  generalize nciSmEnterStateInternal (H.ioWith p) .init none
    (w.map fun self => { self with pendingSwitch := none, nextTransition := none }) = w'
    at hinit' hnext hrests
  have hactive : w'.sm.activeTransition = none := hrests.activeTransition
  have hlast : w'.sm.lastState = .init := hrests.lastState
  have hnextState : w'.sm.nextState = .init := hrests.nextState
  have hswitch : nciSmSwitchBegin (H.ioWith p) .idle w'
      = nciSmSwitchViaIdle (H.ioWith p) .idle
        (w'.map fun self => { self with nextTransition := none }) := by
    unfold nciSmSwitchBegin
    dsimp only [SmWorld.map_sm]
    rw [hactive]
    dsimp only
    unfold nciSmSwitchIdle
    dsimp only [SmWorld.map_sm]
    rw [hlast]
    rfl
  have hvia := passes_nciSmSwitchViaIdle (H := H) (p := p)
    (w := w'.map fun self => { self with nextTransition := none }) hactive rfl (Or.inr ⟨rfl, hlast⟩)
  rw [nciSmSwitchInternal, hnextState, if_pos (by decide), hswitch]
  have hperforms := ((hinit'.trans (passes_forget w')).trans hvia).emit hplays
  exact hperforms.toPasses.emit hplays

theorem performs_nciSmRestart (w : SmWorld SmHistory) :
  Performs H w (nciSmRestart (H.ioWith p) w)
  := by
  rw [nciSmRestart]
  split
  · exact performs_nciSmSwitchTo hplays .idle w
  · exact .refl w

theorem performs_perform (r : SmRequest) (w : SmWorld SmHistory) :
  Performs H w (r.perform (H.ioWith p) w)
  := by
  cases r with
  | switchTo state => exact performs_nciSmSwitchTo hplays state w
  | setOpMode opMode =>
      rw [SmRequest.perform, nciSmSetOpMode]
      split
      · have hedit := Performs.edit (H := H) w (fun self => { self with opMode := opMode }) rfl
        exact hedit.trans (performs_nciSmRestart hplays _)
      · exact .refl w
  | setTech tech =>
      rw [SmRequest.perform, nciSmSetTech]
      split
      · have hedit :=
          Performs.edit (H := H) w (fun self => { self with techs := tech &&& nciTechAll }) rfl
        exact hedit.trans (performs_nciSmRestart hplays _)
      · exact .refl w
  | reset => exact performs_nciSmReset hplays w

/-! ### Responses -/

/-- What CORE_INIT_RSP tells is remembered, and the controller is configured. -/
theorem performs_nciTransitionResetInitialized {resp : NciSmResponseFunc} {payload : List UInt8}
    {rsp : CoreInitRsp} (h : w.Answering resp payload)
    (houtcome : resp.outcome payload w.sm = .configure rsp) :
  Performs H w (nciTransitionResetInitialized (H.ioWith p) rsp w)
  := by
  by_cases hreact : H.react (w.io ++ [.sar (.setMaxLogicalConnections rsp.maxLogicalConns)]) = []
  · have hmove := SmMove.configure (H := H) w h houtcome
      (H.send (w.io ++ [.sar (.setMaxLogicalConnections rsp.maxLogicalConns),
        .sar (.setMaxControlPayloadSize rsp.maxControlPayload), .sar (.setMaxDataPayloadSize 0)]))
    have hworld : nciTransitionResetInitialized (H.ioWith p) rsp w
        = ⟨rsp.remember w.sm, w.io ++ .sar (.setMaxLogicalConnections rsp.maxLogicalConns)
          :: rsp.configuring (H.send (w.io ++ [.sar (.setMaxLogicalConnections rsp.maxLogicalConns),
            .sar (.setMaxControlPayloadSize rsp.maxControlPayload),
            .sar (.setMaxDataPayloadSize 0)])) (rsp.remember w.sm)⟩ := by
      have hmax : (H.ioWith p).sarSetMaxLogicalConnections rsp.maxLogicalConns
          (w.map rsp.remember)
          = (w.map rsp.remember).note (.sar (.setMaxLogicalConnections rsp.maxLogicalConns)) := by
        rw [SmHost.ioWith]
        dsimp only [SmWorld.note_io, SmWorld.map_io]
        rw [hreact, hplays.nothing]
      have hinitialized : nciTransitionResetInitialized (H.ioWith p) rsp w
          = nciTransitionResetSetConfig (H.ioWith p)
            ⟨((H.ioWith p).sarSetMaxLogicalConnections rsp.maxLogicalConns (w.map rsp.remember)).sm,
              (((H.ioWith p).sarSetMaxLogicalConnections rsp.maxLogicalConns
                (w.map rsp.remember)).io
                ++ [.sar (.setMaxControlPayloadSize rsp.maxControlPayload)])
                ++ [.sar (.setMaxDataPayloadSize 0)]⟩ := rfl
      rw [hinitialized, hmax]
      simp only [nciTransitionResetSetConfig, nciSmSendCommand, SmHost.ioWith, SmWorld.note_sm,
        SmWorld.note_io, SmWorld.map_sm, SmWorld.map_io, List.append_assoc, List.cons_append,
        List.nil_append, CoreInitRsp.configuring]
    rw [hworld]
    exact .move hmove rfl rfl rfl
  · have hdiscreet : ¬H.Discreet := fun h => hreact (h _ _)
    have hremember : Performs H w
        ((w.map rsp.remember).note (.sar (.setMaxLogicalConnections rsp.maxLogicalConns))) :=
      .move (.remember w h houtcome hdiscreet) rfl rfl rfl
    have hcallback := hplays.performs
      (H.react (w.io ++ [.sar (.setMaxLogicalConnections rsp.maxLogicalConns)]))
      ((w.map rsp.remember).note (.sar (.setMaxLogicalConnections rsp.maxLogicalConns)))
    have hinitialized : nciTransitionResetInitialized (H.ioWith p) rsp w
        = nciTransitionResetSetConfig (H.ioWith p)
          ⟨((H.ioWith p).sarSetMaxLogicalConnections rsp.maxLogicalConns (w.map rsp.remember)).sm,
            (((H.ioWith p).sarSetMaxLogicalConnections rsp.maxLogicalConns
              (w.map rsp.remember)).io ++ [.sar (.setMaxControlPayloadSize rsp.maxControlPayload)])
              ++ [.sar (.setMaxDataPayloadSize 0)]⟩ := rfl
    have hmax : (H.ioWith p).sarSetMaxLogicalConnections rsp.maxLogicalConns (w.map rsp.remember)
        = p (H.react (w.io ++ [.sar (.setMaxLogicalConnections rsp.maxLogicalConns)]))
          ((w.map rsp.remember).note (.sar (.setMaxLogicalConnections rsp.maxLogicalConns))) := rfl
    rw [hinitialized, hmax]
    obtain ⟨t, hresp, hactive⟩ := h.active
    have hresetting : ((w.map rsp.remember).note
        (.sar (.setMaxLogicalConnections rsp.maxLogicalConns))).sm.control.Resetting := by
      cases hresp.symm.trans (NciSmResponseFunc.transition_of_configure houtcome)
      exact ⟨Or.inr hactive, fun hnone => by cases hactive.symm.trans hnone⟩
    have hresetting' := hplays.keeps SmControl.steady_resetting
      (H.react (w.io ++ [.sar (.setMaxLogicalConnections rsp.maxLogicalConns)])) _ hresetting
    generalize p (H.react (w.io ++ [.sar (.setMaxLogicalConnections rsp.maxLogicalConns)]))
      ((w.map rsp.remember).note (.sar (.setMaxLogicalConnections rsp.maxLogicalConns))) = w'
      at hcallback hresetting'
    have hworld : nciTransitionResetSetConfig (H.ioWith p)
          ⟨w'.sm, (w'.io ++ [.sar (.setMaxControlPayloadSize rsp.maxControlPayload)])
            ++ [.sar (.setMaxDataPayloadSize 0)]⟩
        = ⟨w'.sm, w'.io ++ rsp.configuring (H.send (w'.io
            ++ [.sar (.setMaxControlPayloadSize rsp.maxControlPayload),
              .sar (.setMaxDataPayloadSize 0)])) w'.sm⟩ := by
      simp only [nciTransitionResetSetConfig, nciSmSendCommand, SmHost.ioWith, List.append_assoc,
        List.cons_append, List.nil_append, CoreInitRsp.configuring]
    rw [hworld]
    exact (hremember.trans hcallback).trans
      (.move (.resume w' rsp hdiscreet hresetting' _) rfl rfl rfl)

/-- The outcome of a response takes effect. -/
theorem performs_outcome (hentering : w.sm.enteringState = 0) {resp : NciSmResponseFunc}
    {payload : List UInt8} (h : w.Answering resp payload) :
  Performs H w ((resp.outcome payload w.sm).perform (H.ioWith p) w)
  := by
  have hframe : ∀ sm, (resp.outcome payload w.sm).machine = some sm →
      sm.enteringState = w.sm.enteringState ∧ sm.nextTransition = w.sm.nextTransition
        ∧ sm.pendingSignals = w.sm.pendingSignals := by
    intro sm hsm
    obtain ⟨_, _, rfl⟩ := NciSmResponseFunc.machine_outcome hsm
    exact ⟨rfl, rfl, rfl⟩
  cases houtcome : resp.outcome payload w.sm with
  | stay sm =>
      obtain ⟨hdepth, hnext, hpending⟩ := hframe sm (by rw [houtcome]; rfl)
      exact .move (.stay w h houtcome) hdepth hnext hpending
  | send sm gid oid cmd next =>
      obtain ⟨hdepth, hnext, hpending⟩ := hframe sm (by rw [houtcome]; rfl)
      exact .move (.send w h houtcome (H.send w.io)) hdepth hnext hpending
  | enter state => exact performs_nciSmEnterState hplays none (.answered hentering h houtcome)
  | fail sm =>
      have hsm : (resp.outcome payload w.sm).machine = some sm := by
        rw [houtcome]
        rfl
      obtain ⟨version, expectingNtf, rfl⟩ := NciSmResponseFunc.machine_outcome hsm
      obtain ⟨_, _, _, _, _, _, hstalled, -⟩ := nciSmStalled_eq .error
        { w.sm with version := version, expectingNtf := expectingNtf }
      have hdepth := congrArg NciSm.enteringState hstalled
      have hnext := congrArg NciSm.nextTransition hstalled
      exact (Passes.move (.turn (.stall w version expectingNtf (Or.inl hentering) .error)) hdepth
        hnext).emit hplays
  | configure rsp => exact performs_nciTransitionResetInitialized hplays h houtcome

/-- The response function of the last command is called. -/
theorem performs_call (hentering : w.sm.enteringState = 0) {resp : NciSmResponseFunc}
    {status : NciRequestStatus} {payload : List UInt8}
    (h : ∃ earlier, w.io = earlier ++ [.answered resp status payload]) :
  Performs H w (resp.call (H.ioWith p) status payload w)
  := by
  by_cases hactive : ∃ t, resp.transition = some t ∧ w.sm.activeTransition = some t
  · obtain ⟨t, hresp, ht⟩ := hactive
    cases status with
    | success =>
        rw [NciSmResponseFunc.call_success hresp ht]
        exact performs_outcome hplays hentering ⟨h, t, hresp, ht⟩
    | timeout =>
        rw [NciSmResponseFunc.call_timeout hresp ht]
        exact performs_nciSmError hplays hentering
    | cancelled =>
        rw [NciSmResponseFunc.call_cancelled]
        exact .refl w
  · rw [NciSmResponseFunc.call_inactive]
    · exact .refl w
    · exact fun t hresp ht => hactive ⟨t, hresp, ht⟩

/-! ### Notifications -/

omit hplays in
theorem performs_addCreditEntries (n : Nat) (entries : List UInt8) (w : SmWorld SmHistory) :
  Performs H w { w with io := addCreditEntries (H.ioWith p) n entries w.io }
  := by
  induction n generalizing entries w with
  | zero => exact .refl w
  | succ n ih =>
      match entries with
      | [] => exact .refl w
      | [_] => exact .refl w
      | cid :: credits :: entries =>
          have hnote : Performs H w (w.note (.sar (.addCredits cid credits))) :=
            .note (.sar w _ rfl)
          exact hnote.trans (ih entries (w.note (.sar (.addCredits cid credits))))

theorem performs_nciDefaultHandleNtf (hentering : w.sm.enteringState = 0) (gid oid : UInt8)
    (payload : List UInt8) :
  Performs H w (nciDefaultHandleNtf (H.ioWith p) gid oid payload w)
  := by
  rw [nciDefaultHandleNtf]
  split
  · unfold nciSmHandleConnCreditsNtf
    split
    · split
      · exact performs_addCreditEntries _ _ w
      · exact performs_nciSmError hplays hentering
    · exact performs_nciSmError hplays hentering
  · exact .refl w

/-- RF_DEACTIVATE_NTF takes the machine to RFST_IDLE or RFST_DISCOVERY. -/
theorem performs_nciSmHandleRfDeactivateNtf (hentering : w.sm.enteringState = 0)
    (payload : List UInt8) (hidle : w.Enterable .idle) (hdiscovery : w.Enterable .discovery) :
  Performs H w (nciSmHandleRfDeactivateNtf (H.ioWith p) payload w)
  := by
  unfold nciSmHandleRfDeactivateNtf
  split
  · exact performs_nciSmEnterState hplays none hidle
  · exact performs_nciSmEnterState hplays none hdiscovery
  all_goals exact performs_nciSmError hplays hentering

/-- The active transition handles a notification. -/
theorem performs_nciTransitionHandleNtf (hentering : w.sm.enteringState = 0) {t : NciTransition}
    (hactive : w.sm.activeTransition = some t)
    {gid oid : UInt8} {payload : List UInt8}
    (harrived : ∃ earlier, w.io = earlier ++ [.arrived (.notification gid oid payload)]) :
  Performs H w (nciTransitionHandleNtf (H.ioWith p) t gid oid payload w)
  := by
  have hdefault := performs_nciDefaultHandleNtf hplays hentering gid oid payload
  have harrived' : w.Arriving := harrived.imp fun _ h => ⟨_, h⟩
  have hdeactivate : t = .deactivateToDiscovery ∨ t = .pollActiveToIdle →
      Performs H w (nciTransitionDeactivateHandleNtf (H.ioWith p) gid oid payload w) := by
    intro ht
    rw [nciTransitionDeactivateHandleNtf]
    split
    · exact performs_nciSmHandleRfDeactivateNtf hplays hentering payload
        (.deactivated hentering hactive ht (Or.inl rfl))
        (.deactivated hentering hactive ht (Or.inr rfl))
    · exact hdefault
  cases t with
  | reset =>
      rw [nciTransitionHandleNtf, nciTransitionResetHandleNtf]
      split
      · rename_i h
        obtain ⟨rfl, rfl, hversion, hntf⟩ := h
        exact .note (.renew w hactive hversion hntf harrived _)
      · exact hdefault
  | deactivateToDiscovery => exact hdeactivate (Or.inl rfl)
  | pollActiveToIdle => exact hdeactivate (Or.inr rfl)
  | listenActiveToIdle =>
      rw [nciTransitionHandleNtf, nciTransitionListenActiveToIdleHandleNtf]
      split
      · split
        · rename_i ntf hparsed
          split
          · rw [nciTransitionFinish_active hactive]
            exact performs_nciSmEnterState hplays none (.matched hentering hactive)
          · exact .move (.seen w hactive harrived' ntf) rfl rfl rfl
        · exact performs_nciSmError hplays hentering
      · exact hdefault
  | idleToDiscovery => exact hdefault
  | deactivateToIdle => exact hdefault

theorem performs_nciSmIntfActivated (ntf : NciIntfActivationNtf) (w : SmWorld SmHistory) :
  Performs H w (nciSmIntfActivated (H.ioWith p) ntf w)
  := by
  have hsize : Performs H w (w.note (.sar (.setMaxDataPayloadSize ntf.maxDataPacketSize))) :=
    .note (.sar w _ rfl)
  have hcredits : Performs H (w.note (.sar (.setMaxDataPayloadSize ntf.maxDataPacketSize)))
      ((w.note (.sar (.setMaxDataPayloadSize ntf.maxDataPacketSize))).note
        (.sar (.setInitialCredits nciStaticRfConnId ntf.numCredits))) := .note (.sar _ _ rfl)
  rw [nciSmIntfActivated]
  exact ((hsize.trans hcredits).trans (.note (.activated _ ntf))).trans (hplays.performs _ _)

/-- The state in which the machine rests handles a notification. -/
theorem performs_nciStateHandleNtf (hentering : w.sm.enteringState = 0)
    (hactive : w.sm.activeTransition = none) (gid oid : UInt8)
    (payload : List UInt8) :
  Performs H w (nciStateHandleNtf (H.ioWith p) w.sm.lastState gid oid payload w)
  := by
  have hdefault := performs_nciDefaultHandleNtf hplays hentering gid oid payload
  have herror := performs_nciSmError hplays hentering
  have henter : ∀ {state} param, state ∈ w.sm.lastState.leads →
      Performs H w (nciSmEnterState (H.ioWith p) state param w) :=
    fun param hstate => performs_nciSmEnterState hplays param (.notified hentering hactive hstate)
  have hactivated := performs_nciSmIntfActivated (H := H) hplays
  have hswitch := performs_nciSmSwitchTo (H := H) hplays
  cases hlast : w.sm.lastState with
  | discovery =>
      rw [nciStateHandleNtf, nciStateDiscoveryHandleNtf]
      split_ifs
      · unfold nciStateDiscoveryDiscoverNtf
        split
        · exact henter _ (by rw [hlast]; decide)
        · exact .refl w
      · unfold nciStateDiscoveryIntfActivatedNtf
        have hstate : (if nciListenMode (activationMode (parseIntfActivated payload)) then
            NciState.listenActive else .pollActive) ∈ w.sm.lastState.leads := by
          rw [hlast]
          split <;> decide
        dsimp only
        split
        · exact (henter none hstate).trans (hactivated _ _)
        · exact (henter none hstate).trans (hswitch .idle _)
      · exact hdefault
  | w4AllDiscoveries =>
      rw [nciStateHandleNtf, nciStateW4AllDiscoveriesHandleNtf]
      split
      · unfold nciStateW4AllDiscoveriesDiscoverNtf
        split
        · have hselect : NciState.w4HostSelect ∈ w.sm.lastState.leads := by
            rw [hlast]
            decide
          have hhandle := performs_nciStateW4AllDiscoveriesHandleDiscovery hplays (w := w)
          refine (hhandle _ fun discoveries => ?_).1
          exact .notified (w := w.map fun self => { self with discoveries := discoveries })
            hentering
            hactive hselect
        · exact .refl w
      · exact hdefault
  | w4HostSelect =>
      rw [nciStateHandleNtf, nciStateW4HostSelectHandleNtf]
      split_ifs
      · exact hswitch .discovery w
      · unfold nciStateW4HostSelectHandleIntfActivatedNtf
        have hleads : NciState.pollActive ∈ w.sm.lastState.leads := by
          rw [hlast]
          decide
        have hpoll := henter none hleads
        split
        · exact hpoll.trans (hactivated _ _)
        · exact hpoll.trans (hswitch .discovery _)
      · exact hdefault
  | pollActive =>
      rw [nciStateHandleNtf, nciStatePollActiveHandleNtf]
      split_ifs
      · exact hswitch .discovery w
      · exact performs_nciSmHandleRfDeactivateNtf hplays hentering payload
          (.notified hentering hactive (by rw [hlast]; decide))
          (.notified hentering hactive (by rw [hlast]; decide))
      · exact hdefault
  | listenActive =>
      rw [nciStateHandleNtf, nciStateListenActiveHandleNtf]
      split_ifs
      · exact hswitch .discovery w
      · unfold nciStateListenActiveRfDeactivateNtf
        split
        · exact henter none (by rw [hlast]; decide)
        · exact henter none (by rw [hlast]; decide)
        · exact henter none (by rw [hlast]; decide)
        all_goals exact herror
      · exact hdefault
  | listenSleep =>
      rw [nciStateHandleNtf, nciStateListenSleepHandleNtf]
      split_ifs
      · unfold nciStateListenSleepIntfActivatedNtf
        split
        · split
          · exact (henter none (by rw [hlast]; decide)).trans (hactivated _ _)
          · exact herror
        · exact herror
      · unfold nciStateListenSleepRfDeactivateNtf
        split
        · exact henter none (by rw [hlast]; decide)
        all_goals exact herror
      · exact hdefault
  | init => exact hdefault
  | error => exact hdefault
  | stop => exact hdefault
  | idle => exact hdefault

end Functions

/-! ### Runs -/

/-- However deep callbacks are nested, the requests that are made in them perform. -/
theorem SmHost.plays_perform (H : SmHost) (n : Nat) :
  Plays H (H.perform n)
  := by
  refine ⟨?_, H.perform_nil n, fun {P} hP => H.keeps_perform n hP⟩
  induction n with
  | zero => exact fun _ w => .refl w
  | succ n ih =>
      have hplays : Plays H (H.perform n) :=
        ⟨ih, H.perform_nil n, fun {P} hP => H.keeps_perform n hP⟩
      intro requests
      induction requests with
      | nil => exact .refl
      | cons r requests ihRequests =>
          exact fun w => (performs_perform hplays r w).trans (ihRequests _)

theorem SmHost.performs_answer (H : SmHost) (n : Nat) (hentering : w.sm.enteringState = 0)
    (harrived : w.Arriving) (status : NciRequestStatus) (payload : List UInt8) :
  Performs H w (H.answer n status payload w)
  := by
  unfold answer
  split
  · rename_i resp hresp
    have hnote : Performs H w (w.note (.answered resp status payload)) :=
      .note (.answered w resp status payload hresp harrived)
    exact hnote.trans (performs_call (H.plays_perform n)
      (w := w.note (.answered resp status payload)) hentering ⟨w.io, rfl⟩)
  · exact .refl w

/-- What is done about an event are moves. -/
theorem SmHost.performs_step (H : SmHost) (n : Nat) (hentering : w.sm.enteringState = 0)
    (e : SmEvent) :
  Performs H (w.note (.arrived e)) (H.step n w e)
  := by
  have hplays := H.plays_perform n
  unfold step
  have herror : ∀ {w : SmWorld SmHistory}, w.sm.enteringState = 0 →
      Performs H w (nciSmError (H.io n) w) := fun h => performs_nciSmError hplays h
  have hentering' : (w.note (.arrived e)).sm.enteringState = 0 := hentering
  have harrived : (w.note (.arrived e)).Arriving := ⟨w.io, e, rfl⟩
  cases e with
  | request r => exact performs_perform hplays r _
  | notification gid oid payload =>
      unfold handle nciSmHandleNtf
      dsimp only
      split
      · rename_i t hactive
        exact performs_nciTransitionHandleNtf hplays hentering' hactive ⟨w.io, rfl⟩
      · rename_i hactive
        exact performs_nciStateHandleNtf hplays hentering' hactive gid oid payload
  | response payload => exact H.performs_answer n hentering' harrived .success payload
  | commandTimeout =>
      unfold handle
      dsimp only
      split
      · have hanswer := H.performs_answer n hentering' harrived .timeout []
        exact hanswer.trans (herror (hanswer.enteringState.trans hentering))
      · exact .refl _
  | transitionTimeout t =>
      unfold handle
      dsimp only
      split
      · have hedit := Performs.edit (H := H) (w.note (.arrived (.transitionTimeout t)))
          (fun self => { self with timeoutId := Function.update self.timeoutId t false }) rfl
        exact hedit.trans (herror hentering)
      · exact .refl _
  | idle => exact performs_nciSmSwitchProc hplays hentering'
  | error => exact herror hentering'

/-! ### Invariants -/

/-- What every move keeps is kept. -/
theorem Passes.keeps {I : SmWorld SmHistory → Prop} (h : Passes H w w')
    (hI : ∀ w w', SmMove H w w' → I w → I w') (hw : I w) :
  I w'
  := by
  have hmoves := h.moves
  clear h
  induction hmoves with
  | refl => exact hw
  | tail _ hmove ih => exact hI _ _ hmove ih

namespace SmHost

variable {n : Nat}

/-- A step from a machine that is reached. -/
theorem Reaches.step (h : H.Reaches n w) (e : SmEvent) :
  H.Reaches n (H.step n w e)
  := by
  obtain ⟨techs, laNfcid1, liAHb, events, rfl⟩ := h
  refine ⟨techs, laNfcid1, liAHb, events ++ [e], ?_⟩
  rw [run, run, List.foldl_concat]

/-- What holds of a new machine, and is kept by every step between two events, holds of every
machine that is reached. -/
theorem Reaches.induction {I : SmWorld SmHistory → Prop} (h : H.Reaches n w)
    (hnew : ∀ techs laNfcid1 liAHb, I (SmWorld.new (nciSmNew techs laNfcid1 liAHb)))
    (hstep : ∀ w e, H.Reaches n w → I w → I (H.step n w e)) :
  I w
  := by
  obtain ⟨techs, laNfcid1, liAHb, events, rfl⟩ := h
  induction events using List.reverseRecOn with
  | nil => exact hnew techs laNfcid1 liAHb
  | append_singleton events e ih =>
      rw [SmHost.run, List.foldl_concat]
      exact hstep _ e ⟨techs, laNfcid1, liAHb, events, rfl⟩ ih

/-- Between two events no state is being entered. -/
theorem Reaches.enteringState (h : H.Reaches n w) :
  w.sm.enteringState = 0
  := by
  apply h.induction (I := fun w => w.sm.enteringState = 0)
  · exact fun _ _ _ => rfl
  · exact fun w e _ hw => (H.performs_step n hw e).enteringState.trans hw

/-- Between two events no signal is pending. -/
theorem Reaches.pendingSignals (h : H.Reaches n w) (sig : NciSmSignal) :
  w.sm.pendingSignals sig = false
  := by
  apply h.induction (I := fun w => w.sm.pendingSignals sig = false)
  · exact fun _ _ _ => rfl
  · exact fun w e hw hsig => (H.performs_step n hw.enteringState e).emitted sig hsig

/-- What holds of a new machine, is kept when an event arrives, and is kept by every move, holds of
every machine that is reached. -/
theorem Reaches.keeps {I : SmWorld SmHistory → Prop} (h : H.Reaches n w)
    (hI : ∀ w w', SmMove H w w' → I w → I w') (harrived : ∀ w e, I w → I (w.note (.arrived e)))
    (hnew : ∀ techs laNfcid1 liAHb, I (SmWorld.new (nciSmNew techs laNfcid1 liAHb))) :
  I w
  := by
  apply h.induction hnew
  intro w e hw hIw
  exact (H.performs_step n hw.enteringState e).toPasses.keeps hI (harrived w e hIw)

end SmHost

end Nci
