import LibNciCore.Sm.Invariant

/-!
# The state of the machine

The machine keeps its state twice: the last state is the one that gets the next notification,
and the active one is the state that has been entered and not been left yet. As long as no first
discovery is the last one, they are the same whenever no transition is active, and no other state
believes that it is active.
-/

namespace Nci

/-! ### Coherent states -/

namespace SmControl

/-- The flags of the states tell which one is active, and unless a transition is active it is the
last one. -/
structure Coherent (c : SmControl) : Prop where
  flags : ∀ state, c.active state = true ↔ c.activeState = some state
  resting : c.activeTransition = none → c.activeState = some c.lastState

/-- The flags of the states tell which one is active, whatever the last one is. -/
def Flagged (c : SmControl) : Prop :=
  ∀ state, c.active state = true ↔ c.activeState = some state

variable {c : SmControl}

theorem Flagged.leave (h : c.Flagged) :
  c.leave.Flagged
  := by
  intro state
  constructor
  · intro hactive
    obtain ⟨hstate, hleft⟩ := Bool.and_eq_true_iff.mp hactive
    exact absurd ((h state).mp hstate) (of_decide_eq_true hleft)
  · rintro ⟨⟩

theorem Flagged.start (h : c.Flagged) (t : NciTransition) (ok : Bool) :
  (c.start t ok).Flagged
  := by
  rw [SmControl.start]
  split
  · exact h.leave
  · exact h

theorem Flagged.activate (h : c.Flagged) (state : NciState) :
  (c.activate state).Flagged
  := by
  rw [SmControl.activate]
  split
  · exact h
  · intro s
    dsimp only
    by_cases hs : s = state
    · rw [hs, Function.update_self]
      exact ⟨fun _ => rfl, fun _ => rfl⟩
    · rw [Function.update_of_ne hs, h.leave s]
      constructor
      · rintro ⟨⟩
      · rintro ⟨⟩
        exact absurd rfl hs

theorem Flagged.follow (h : c.Flagged) (state : NciState) (ok : Bool) :
  (c.follow state ok).Flagged
  := by
  unfold SmControl.follow
  split
  · exact Flagged.start (c := c.forget) h _ ok
  · exact h

/-- A transition that is not started leaves the active state as it is. -/
theorem activeState_start {t : NciTransition} {ok : Bool}
    (h : (c.start t ok).activeTransition = none) :
  (c.start t ok).activeState = c.activeState
  := by
  rw [start] at h ⊢
  split at h
  · cases h
  · rename_i hok
    rw [if_neg hok]
    rfl

theorem activeState_follow {state : NciState} {ok : Bool}
    (h : (c.follow state ok).activeTransition = none) :
  (c.follow state ok).activeState = c.activeState
  := by
  unfold follow at h ⊢
  split at h
  · exact activeState_start (c := c.forget) h
  · rfl

/-! ### Coherence is kept -/

theorem Coherent.enter (h : c.Coherent) (state : NciState) (request : Option NciState)
    (ok : Bool) :
  (c.enter state request ok).Coherent
  := by
  have hactivate : (c.finish.activate state).Flagged :=
    Flagged.activate (c := c.finish) h.flags state
  constructor
  · exact Flagged.follow (c := { c.finish.activate state with
      pendingSwitch := request <|> c.pendingSwitch }) hactivate state ok
  · intro hnone
    have hfollow := activeState_follow (c := { c.finish.activate state with
      pendingSwitch := request <|> c.pendingSwitch }) hnone
    exact hfollow.trans (activeState_activate state _)

theorem Coherent.stall (h : c.Coherent) (state : NciState) :
  (c.stall state).Coherent
  := by
  have hflags : Flagged { c.finish with lastState := state, nextState := state } := h.flags
  constructor
  · exact hflags.activate state
  · intro _
    rw [SmControl.stall, activeState_activate, activate_eq]

theorem Coherent.switchActive (h : c.Coherent) (dest next : NciState) (ok : Bool) :
  (c.switchActive dest next ok).Coherent
  := by
  unfold SmControl.switchActive
  split
  · split
    · exact ⟨h.flags, h.resting⟩
    · split
      · exact h.enter next none ok
      · exact h.stall .error
  · exact h

/-- A transition is started in a state that is the last one. -/
theorem Coherent.start (h : c.Coherent) (hactive : c.activeTransition = none) (t : NciTransition)
    (ok : Bool) :
  (c.start t ok).Coherent
  := by
  constructor
  · exact Flagged.start (c := c) h.flags t ok
  · intro hnone
    rw [activeState_start hnone, h.resting hactive, SmControl.start]
    split <;> rfl

theorem Coherent.switchViaIdle (h : c.Coherent) (hactive : c.activeTransition = none)
    (next : NciState) (ok : Bool) :
  (c.switchViaIdle next ok).Coherent
  := by
  have hstart := h.start hactive ((nciStateGetTransition c.lastState .idle).getD .reset) ok
  unfold SmControl.switchViaIdle
  dsimp only
  split
  · split
    · exact ⟨hstart.flags, hstart.resting⟩
    · split
      · exact ⟨hstart.flags, hstart.resting⟩
      · exact Coherent.stall (c := SmControl.forget _) ⟨hstart.flags, hstart.resting⟩ .error
  · exact hstart.stall .error

theorem Coherent.switchIdle (h : c.Coherent) (hactive : c.activeTransition = none)
    (next : NciState) (ok : Bool) :
  (c.switchIdle next ok).Coherent
  := by
  unfold SmControl.switchIdle
  split
  · rename_i t _
    have hstart := h.start hactive t ok
    split
    · exact ⟨hstart.flags, hstart.resting⟩
    · exact hstart.stall .error
  · split
    · exact h.enter next none ok
    · exact h.switchViaIdle hactive next ok

theorem Coherent.switch (h : c.Coherent) (next : NciState) (ok : Bool) :
  (c.switch next ok).Coherent
  := by
  have hforget : c.forget.Coherent := ⟨h.flags, h.resting⟩
  unfold SmControl.switch
  split
  · exact hforget.switchActive _ next ok
  · rename_i hactive
    exact hforget.switchIdle hactive next ok

theorem closed_coherent :
  Closed Coherent
  where
  enter state request ok h := h.enter state request ok
  stall state h := h.stall state
  switch next ok h := h.switch next ok
  pending _ h := ⟨h.flags, h.resting⟩
  forget h := ⟨h.flags, h.resting⟩
  mode _ _ h := ⟨h.flags, h.resting⟩

end SmControl

/-! ### Runs -/

/-- The state that gets the next notification is the active one, and the only one that believes
to be active. -/
structure NciSm.Coherent (sm : NciSm) : Prop where
  activeState : sm.activeState = some sm.lastState
  active : ∀ state, sm.active state = true ↔ state = sm.lastState

theorem SmControl.Coherent.coherent {sm : NciSm} (h : sm.control.Coherent)
    (hactive : sm.activeTransition = none) :
  sm.Coherent
  := by
  have hstate : sm.activeState = some sm.lastState := h.resting hactive
  refine ⟨hstate, ?_⟩
  intro state
  have hflag : sm.active state = true ↔ sm.activeState = some state := h.flags state
  rw [hflag, hstate, Option.some_inj]
  exact eq_comm

theorem coherent_nciSmNew (techs : UInt32) (laNfcid1 : NciNfcid1) (liAHb : NciAtsHb) :
  (nciSmNew techs laNfcid1 liAHb).control.Coherent
  := by
  constructor
  · intro state
    exact beq_iff_eq.trans (eq_comm.trans Option.some_inj.symm)
  · exact fun _ => rfl

/-- In a run without a first discovery that is the last one, the state of the machine is coherent
whenever no transition is active. -/
theorem coherentRun (H : SmHost) (n : Nat) (techs : UInt32) (laNfcid1 : NciNfcid1)
    (liAHb : NciAtsHb) (events : List SmEvent)
    (h : ∀ earlier e later, events = earlier ++ e :: later →
      ¬LastDiscoveryIn
        (H.run n (SmWorld.new (nciSmNew techs laNfcid1 liAHb)) earlier).sm e)
    (hactive :
      (H.run n (SmWorld.new (nciSmNew techs laNfcid1 liAHb)) events).sm.activeTransition = none) :
  (H.run n (SmWorld.new (nciSmNew techs laNfcid1 liAHb)) events).sm.Coherent
  := by
  have hstart := coherent_nciSmNew techs laNfcid1 liAHb
  exact (SmHost.run_keeps SmControl.closed_coherent n h hstart).coherent hactive

/-- The way to RFST_DISCOVERY. -/
theorem coherentRun_discovering :
  (SmHost.quiet.run 0 (SmWorld.new nciSmDefault) eventsToDiscovery).sm.Coherent
  := by
  apply coherentRun SmHost.quiet 0
  · intro earlier e later hevents hlast
    have he : e ∈ eventsToDiscovery := by
      rw [hevents]
      exact List.mem_append_right _ List.mem_cons_self
    cases e
    case notification => exact absurd he (by simp [eventsToDiscovery])
    all_goals exact hlast
  · decide

/-- A first discovery in RFST_DISCOVERY is the last one, and an activation follows. -/
theorem not_coherentRun :
  (SmHost.quiet.run 0 SmWorld.discovering [.notification 1 3 [1, 4, 0, 0, 0]]).sm.activeTransition
      = none
    ∧ ¬(SmHost.quiet.run 0 SmWorld.discovering [.notification 1 3 [1, 4, 0, 0, 0]]).sm.Coherent
    ∧ (SmHost.quiet.run 0 SmWorld.discovering
        [.notification 1 3 [1, 4, 0, 0, 0],
          .notification 1 5 [1, 2, 4, 0, 0xff, 1, 0, 0, 0, 0, 0]]).sm.lastState = .w4AllDiscoveries
  := by
  refine ⟨by decide, ?_, by decide⟩
  intro h
  exact absurd h.activeState (by decide)

end Nci
