import LibNciCore.Sm.Calm

/-!
# Stalling

An error cancels the outstanding command and takes the machine to the state for errors. It
should stay there until something is requested. It does so, unless a switch to another state was
scheduled before the error: the idle callback is not cancelled.
-/

namespace Nci

/-! ### Counting in the history -/

def SmAction.isCancelled : SmAction → Bool
  | .cancelled => true
  | _ => false

def SmAction.isSent : SmAction → Bool
  | .sent .. => true
  | _ => false

/-- How often the machine has stalled. -/
def SmHistory.stalls (history : SmHistory) : Nat := history.countP SmAction.isCancelled

/-- How often the machine has tried to send a command. -/
def SmHistory.commandCount (history : SmHistory) : Nat := history.countP SmAction.isSent

theorem SmHistory.commandCount_unsent {history : SmHistory} {e : SmAction} (h : e.isSent = false) :
  SmHistory.commandCount (history ++ [e]) = SmHistory.commandCount history
  := by
  rw [SmHistory.commandCount, List.countP_append, List.countP_singleton, h]
  rfl

theorem SmHistory.commandCount_sent {history : SmHistory} {e : SmAction} (h : e.isSent = true) :
  SmHistory.commandCount (history ++ [e]) = SmHistory.commandCount history + 1
  := by
  rw [SmHistory.commandCount, List.countP_append, List.countP_singleton, h]
  rfl

variable {H : SmHost} {w : SmWorld SmHistory}

/-- Calm functions do not stall. -/
theorem Extends.stalls {w' : SmWorld SmHistory} (h : Extends w w') :
  w'.io.stalls = w.io.stalls
  := by
  obtain ⟨new, hlog, hnew⟩ := h.history
  have hnone : new.countP SmAction.isCancelled = 0 := by
    rw [List.countP_eq_zero]
    intro e he
    cases e
    case cancelled => exact absurd (hnew _ he) id
    all_goals exact Bool.false_ne_true
  rw [hlog, SmHistory.stalls, List.countP_append, hnone]
  rfl

/-! ### Steps -/

/-- A function does nothing after it has stalled. -/
def StallsLast (f : SmWorld SmHistory → SmWorld SmHistory) : Prop :=
  ∀ w, (f w).io.stalls = w.io.stalls ∨ Stuck (f w)

theorem Ends.stallsLast {f : SmWorld SmHistory → SmWorld SmHistory} (h : Ends f) :
  StallsLast f
  := fun w => (h w).imp_left Extends.stalls

theorem stallsLast_perform (r : SmRequest) :
  StallsLast fun w => r.perform (H.io 0) w
  := by
  intro w
  have hrestart := (ends_nciSmRestart (H := H)).stallsLast
  cases r with
  | switchTo state => exact (ends_nciSmSwitchTo state).stallsLast w
  | setOpMode opMode =>
      dsimp only
      rw [SmRequest.perform, nciSmSetOpMode]
      split
      · exact hrestart (w.map _)
      · exact Or.inl rfl
  | setTech tech =>
      dsimp only
      rw [SmRequest.perform, nciSmSetTech]
      split
      · exact hrestart (w.map _)
      · exact Or.inl rfl
  | reset => exact ends_nciSmReset.stallsLast w

/-- Whatever is done about an event, a stall is the last thing the machine does. -/
theorem stallsLast_handle (e : SmEvent) :
  StallsLast fun w => H.handle 0 w e
  := by
  have hanswer : ∀ status payload, Ends (H.answer 0 status payload) := by
    intro status payload w
    unfold SmHost.answer
    split
    · rename_i resp _
      have hnote : Extends w (w.note (.answered resp status payload)) := Extends.note trivial
      exact (ends_call resp status payload (w.note (.answered resp status payload))).imp_left
        hnote.trans
    · exact Or.inl (Extends.refl w)
  have herror : ∀ w : SmWorld SmHistory, Stuck (nciSmError (H.io 0) w) := stuck_nciSmError
  cases e with
  | request r => exact stallsLast_perform r
  | notification gid oid payload => exact (ends_nciSmHandleNtf gid oid payload).stallsLast
  | response payload => exact (hanswer .success payload).stallsLast
  | commandTimeout => exact (Ends.ite (fun w => Or.inr (herror _)) calm_id.ends).stallsLast
  | transitionTimeout t => exact (Ends.ite (fun w => Or.inr (herror _)) calm_id.ends).stallsLast
  | idle => exact ends_nciSmSwitchProc.stallsLast
  | error => exact ends_nciSmError.stallsLast

/-- Whatever happens, a stall is the last thing the machine does. -/
theorem stallsLast_step (e : SmEvent) :
  StallsLast fun w => H.step 0 w e
  := by
  intro w
  have hnote : Extends w (w.note (.arrived e)) := Extends.note trivial
  exact (stallsLast_handle e (w.note (.arrived e))).imp_left fun h => h.trans hnote.stalls

/-! ### After a stall -/

def SmEvent.isRequest : SmEvent → Bool
  | .request _ => true
  | _ => false

/-- If a switch is scheduled, then it leads to the state for errors. -/
def NciSm.ExpectsNoSwitch (sm : NciSm) : Prop :=
  ∀ state, sm.pendingSwitch = some state → state = .error

/-- The machine is stuck, nothing is scheduled, and as many commands have been sent as before. -/
structure StuckSince (w w' : SmWorld SmHistory) : Prop where
  stuck : Stuck w'
  expectsNoSwitch : w'.sm.ExpectsNoSwitch
  commands : w'.io.commandCount = w.io.commandCount

theorem commands_nciSmEmitPendingSignals (w : SmWorld SmHistory) :
  (nciSmEmitPendingSignals (H.io 0) w).io.commandCount = w.io.commandCount
  := by
  have hsignal : ∀ sig w, (nciSmEmitSignal (H.io 0) sig w).io.commandCount = w.io.commandCount := by
    intro sig w
    rw [nciSmEmitSignal]
    split
    · exact SmHistory.commandCount_unsent rfl
    · rfl
  rw [nciSmEmitPendingSignals, hsignal, hsignal]

/-- Another error changes nothing. -/
theorem stuckSince_nciSmError (h : w.sm.ExpectsNoSwitch) :
  StuckSince w (nciSmError (H.io 0) w)
  := by
  have hsilent : (H.io 0).Silent := ⟨fun _ _ => rfl, fun _ _ => rfl, fun _ _ => rfl⟩
  have hpending : (nciSmError (H.io 0) w).sm.control.pendingSwitch = w.sm.pendingSwitch := by
    rw [nciSmError, nciSmStall, hsilent.emit, control_nciSmStallInternal, SmControl.stall,
      SmControl.activate_eq]
    rfl
  refine ⟨stuck_nciSmError w, ?_, ?_⟩
  · intro state hstate
    exact h state (hpending.symm.trans hstate)
  · exact (commands_nciSmEmitPendingSignals _).trans (SmHistory.commandCount_unsent rfl)

theorem stuckSince_refl (hstuck : Stuck w) (h : w.sm.ExpectsNoSwitch) :
  StuckSince w w
  := ⟨hstuck, h, rfl⟩

/-- Notifications are ignored, or are errors themselves. -/
theorem stuckSince_nciSmHandleNtf (hstuck : Stuck w) (h : w.sm.ExpectsNoSwitch) (gid oid : UInt8)
    (payload : List UInt8) :
  StuckSince w (nciSmHandleNtf (H.io 0) gid oid payload w)
  := by
  have hntf : nciSmHandleNtf (H.io 0) gid oid payload w
      = nciDefaultHandleNtf (H.io 0) gid oid payload w := by
    unfold nciSmHandleNtf
    rw [hstuck.activeTransition, hstuck.lastState]
    rfl
  rw [hntf, nciDefaultHandleNtf]
  split
  · unfold nciSmHandleConnCreditsNtf
    split
    · split
      · obtain ⟨houtstanding, hcommands⟩ := addCreditEntries_induct (H := H)
          (P := fun history => history.outstanding = w.io.outstanding
            ∧ history.commandCount = w.io.commandCount)
          (fun history c hlog => ⟨(SmHistory.outstanding_append ..).trans hlog.1,
            (SmHistory.commandCount_unsent rfl).trans hlog.2⟩) _ _ w.io ⟨rfl, rfl⟩
        refine ⟨⟨hstuck.lastState, hstuck.nextState, hstuck.activeState,
          hstuck.activeTransition, houtstanding.trans hstuck.outstanding⟩, h, hcommands⟩
      · exact stuckSince_nciSmError h
    · exact stuckSince_nciSmError h
  · exact stuckSince_refl hstuck h

theorem nciSmSwitchInternal_same {next : NciState} {f : NciSm → NciSm}
    (h : (f w.sm).nextState = next) :
  nciSmSwitchInternal (H.io 0) next (w.map f) = w.map f
  := if_neg (not_not.mpr h)

/-- Nothing but a request takes the machine out of the state for errors. -/
theorem Stuck.handle (hstuck : Stuck w) (h : w.sm.ExpectsNoSwitch) {e : SmEvent}
    (he : e.isRequest = false) :
  StuckSince w (H.handle 0 w e)
  := by
  have hrefl := stuckSince_refl hstuck h
  cases e with
  | request r => cases he
  | notification gid oid payload => exact stuckSince_nciSmHandleNtf hstuck h gid oid payload
  | response payload =>
      rw [SmHost.handle]
      unfold SmHost.answer
      rw [hstuck.outstanding]
      exact hrefl
  | commandTimeout =>
      rw [SmHost.handle, hstuck.outstanding]
      exact hrefl
  | transitionTimeout t =>
      rw [SmHost.handle]
      split
      · have herror := stuckSince_nciSmError (H := H) (w := w.map fun self =>
          { self with timeoutId := Function.update self.timeoutId t false }) h
        exact ⟨herror.stuck, herror.expectsNoSwitch, herror.commands⟩
      · exact hrefl
  | idle =>
      rw [SmHost.handle]
      unfold nciSmSwitchProc
      split
      · rename_i state hstate
        rw [h state hstate, nciSmSwitchInternal_same hstuck.nextState]
        refine ⟨⟨hstuck.lastState, hstuck.nextState, hstuck.activeState, hstuck.activeTransition,
          hstuck.outstanding⟩, ?_, rfl⟩
        rintro state ⟨⟩
      · exact hrefl
  | error => exact stuckSince_nciSmError h

theorem Stuck.step (hstuck : Stuck w) (h : w.sm.ExpectsNoSwitch) {e : SmEvent}
    (he : e.isRequest = false) :
  StuckSince w (H.step 0 w e)
  := by
  have hstuck' : Stuck (w.note (.arrived e)) := ⟨hstuck.lastState, hstuck.nextState,
    hstuck.activeState, hstuck.activeTransition,
    (SmHistory.outstanding_append ..).trans hstuck.outstanding⟩
  have hhandle := hstuck'.handle (H := H) h he
  exact ⟨hhandle.stuck, hhandle.expectsNoSwitch,
    hhandle.commands.trans (SmHistory.commandCount_unsent rfl)⟩

theorem Stuck.run {events : List SmEvent} (hstuck : Stuck w) (h : w.sm.ExpectsNoSwitch)
    (hevents : ∀ e ∈ events, e.isRequest = false) :
  StuckSince w (H.run 0 w events)
  := by
  induction events generalizing w with
  | nil => exact stuckSince_refl hstuck h
  | cons e events ih =>
      have hstep := hstuck.step (H := H) h (hevents e List.mem_cons_self)
      have hrun := ih hstep.stuck hstep.expectsNoSwitch
        fun e' he' => hevents e' (List.mem_cons_of_mem _ he')
      exact ⟨hrun.stuck, hrun.expectsNoSwitch, hrun.commands.trans hstep.commands⟩

theorem commands_nciSmStartTransition (t : NciTransition) (w : SmWorld SmHistory) :
  (nciSmStartTransition (H.io 0) t w).2.io.commandCount = w.io.commandCount + 1
  := by
  have hstart : ∀ w, (nciTransitionStart (H.io 0) t w).2.io.commandCount
      = w.io.commandCount + 1 := by
    intro w
    cases t <;> exact SmHistory.commandCount_sent rfl
  rw [nciSmStartTransition]
  split
  · exact hstart (w.map (nciSmMarkActive t))
  · exact hstart (w.map (nciSmMarkActive t))

/-- A command is sent to get to another state by way of RFST_IDLE. -/
theorem commands_nciSmSwitchViaIdle (next : NciState) (w : SmWorld SmHistory) :
  (nciSmSwitchViaIdle (H.io 0) next w).io.commandCount = w.io.commandCount + 1
  := by
  have hstart := commands_nciSmStartTransition (H := H)
    ((nciStateGetTransition w.sm.lastState .idle).getD .reset) w
  have hstall : ∀ w : SmWorld SmHistory,
      (nciSmStallInternal (H.io 0) .error w).io.commandCount = w.io.commandCount :=
    fun _ => SmHistory.commandCount_unsent rfl
  unfold nciSmSwitchViaIdle
  dsimp only
  split
  · split
    · exact hstart
    · split
      · exact hstart
      · rw [hstall]
        exact hstart
  · rw [hstall]
    exact hstart

/-- A switch to another state that is pending is executed: either a command is sent, or an
internal state is entered. -/
theorem Stuck.idle (hstuck : Stuck w) {state : NciState}
    (hpending : w.sm.pendingSwitch = some state)
    (hstate : state ≠ .error) :
  (H.step 0 w .idle).sm.lastState ≠ .error
    ∨ (H.step 0 w .idle).io.commandCount ≠ w.io.commandCount
  := by
  have hsilent : (H.io 0).Silent := ⟨fun _ _ => rfl, fun _ _ => rfl, fun _ _ => rfl⟩
  obtain ⟨w', hw', hlast, hcommands⟩ : ∃ w' : SmWorld SmHistory,
      H.step 0 w .idle = nciSmEmitPendingSignals (H.io 0) (nciSmSwitchIdle (H.io 0) state w')
        ∧ w'.sm.lastState = .error ∧ w'.io.commandCount = w.io.commandCount := by
    use ((w.note (.arrived .idle)).map fun self => { self with pendingSwitch := none }).map
      fun self => { self with nextTransition := none }
    refine ⟨?_, hstuck.lastState, SmHistory.commandCount_unsent rfl⟩
    rw [SmHost.step, SmHost.handle]
    unfold nciSmSwitchProc
    rw [SmWorld.note_sm, hpending]
    dsimp only
    rw [nciSmSwitchInternal, if_pos]
    · unfold nciSmSwitchBegin
      dsimp only [SmWorld.map_sm, SmWorld.note_sm]
      rw [hstuck.activeTransition]
    · intro hnext
      exact hstate (hnext.symm.trans hstuck.nextState)
  have hnone : nciStateGetTransition w'.sm.lastState state = none := by
    rw [hlast]
    rfl
  have hswitch : nciSmSwitchIdle (H.io 0) state w'
      = if state.isInternal then nciSmEnterStateInternal (H.io 0) state none w'
        else nciSmSwitchViaIdle (H.io 0) state w' := by
    unfold nciSmSwitchIdle
    rw [hnone]
  rw [hw', commands_nciSmEmitPendingSignals, hswitch]
  cases hinternal : state.isInternal with
  | true =>
      left
      obtain ⟨ok, hcontrol, -⟩ :=
        control_nciSmEnterStateInternal_internal (E := H.io 0) hinternal w'
      have hlast' := congrArg SmControl.lastState ((hsilent.emit _).trans hcontrol)
      exact fun herror => hstate (hlast'.symm.trans herror)
  | false =>
      right
      rw [if_neg Bool.false_ne_true, commands_nciSmSwitchViaIdle, hcommands]
      exact Nat.succ_ne_self _

/-! ### Errors are sticky -/

/-- The machine stays in the state for errors, and no command is sent, until something is
requested. -/
def StaysInError (H : SmHost) (n : Nat) (w : SmWorld SmHistory) : Prop :=
  ∀ events : List SmEvent, (∀ e ∈ events, e.isRequest = false) →
    Stuck (H.run n w events) ∧ (H.run n w events).io.commandCount = w.io.commandCount

/-- After an event during which it has stalled, the machine stays in the state for errors exactly
if no switch to another state was pending when it stalled. -/
theorem staysInError {n : Nat} (hreact : ∀ history, H.react history = []) {e : SmEvent}
    (hstall : (H.step n w e).io.stalls ≠ w.io.stalls) :
  StaysInError H n (H.step n w e)
    ↔ ∀ state, (H.step n w e).sm.pendingSwitch = some state → state = .error
  := by
  rw [SmHost.step_eq hreact] at hstall ⊢
  have hstuck : Stuck (H.step 0 w e) := (stallsLast_step e w).resolve_left hstall
  unfold StaysInError
  rw [SmHost.run_eq hreact]
  constructor
  · intro hstays state hpending
    by_contra hstate
    obtain ⟨hidle, hcommands⟩ := hstays [.idle] (by simp [SmEvent.isRequest])
    obtain hlast | hsent := hstuck.idle hpending hstate
    · exact hlast hidle.lastState
    · exact hsent hcommands
  · intro h events hevents
    have hrun := hstuck.run (H := H) h hevents
    exact ⟨hrun.stuck, hrun.commands⟩

/-- An error in RFST_DISCOVERY. -/
theorem staysInError_discovering :
  StaysInError SmHost.quiet 0 (SmHost.quiet.step 0 SmWorld.discovering .error)
  := by
  apply (staysInError (fun _ => rfl) (by decide)).mpr
  have hpending : (SmHost.quiet.step 0 SmWorld.discovering .error).sm.pendingSwitch = none := by
    decide
  rw [hpending]
  rintro state ⟨⟩

/-- Two targets are discovered, none of which is supported, so that a switch to RFST_DISCOVERY is
scheduled. -/
def SmWorld.switching : SmWorld SmHistory :=
  SmHost.quiet.run 0 SmWorld.discovering
    [.notification 1 3 [1, 3, 0, 0, 2], .notification 1 3 [2, 3, 0, 0, 0]]

/-- An error comes before the idle callback. -/
theorem not_staysInError :
  (SmHost.quiet.step 0 SmWorld.switching .error).sm.lastState = .error
    ∧ ¬StaysInError SmHost.quiet 0 (SmHost.quiet.step 0 SmWorld.switching .error)
  := by
  refine ⟨by decide, ?_⟩
  intro hstays
  have hidle := (hstays [.idle] (by decide)).2
  exact absurd hidle (by decide)

end Nci
