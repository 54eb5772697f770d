import LibNciCore.Lib.History
import LibNciCore.Sm.Moves
import LibNciCore.Sm.Upkeep

/-!
# Timers of transitions

A transition that takes too long is an error. Its timer should run only while it is active: the
timer is started together with the transition and is stopped when the transition is finished. A
transition whose first command is refused is not finished, though, since it has not been started. So
its timer keeps running, unless there are no timeouts, and may expire when the machine is doing
something else.
-/

namespace Nci

open History

/-- Only the timer of the active transition is running. -/
def NciSm.Timed (self : NciSm) : Prop :=
  ∀ t, self.timeoutId t = true → self.activeTransition = some t

theorem NciSm.Timed.of_same {sm sm' : NciSm} (h : sm.Timed)
    (htimeout : sm'.timeoutId = sm.timeoutId)
    (hactive : sm'.activeTransition = sm.activeTransition) :
  sm'.Timed
  := by
  intro t ht
  rw [hactive]
  apply h
  rw [← htimeout]
  exact ht

/-! ### Finishing and starting -/

/-- What finishing does to the timers. -/
theorem nciSmFinishActiveTransition_timers (self : NciSm) :
  (nciSmFinishActiveTransition self).activeTransition = none
    ∧ (nciSmFinishActiveTransition self).timeoutId
      = match self.activeTransition with
        | some t => Function.update self.timeoutId t false
        | none => self.timeoutId
  := by
  rw [nciSmFinishActiveTransition]
  cases h : self.activeTransition with
  | none => exact ⟨h, rfl⟩
  | some t => cases t <;> exact ⟨rfl, rfl⟩

/-- No timer is running after the active transition has been finished. -/
theorem NciSm.Timed.finish {self : NciSm} (h : self.Timed) (t : NciTransition) :
  (nciSmFinishActiveTransition self).timeoutId t = false
  := by
  rw [(nciSmFinishActiveTransition_timers self).2]
  cases hactive : self.activeTransition with
  | none =>
      apply Bool.eq_false_iff.mpr
      intro ht
      have hsome := h t ht
      rw [hactive] at hsome
      cases hsome
  | some u =>
      dsimp only
      by_cases hsame : t = u
      · rw [hsame, Function.update_self]
      · rw [Function.update_of_ne hsame]
        apply Bool.eq_false_iff.mpr
        intro ht
        apply hsame
        have hsome := h t ht
        rw [hactive] at hsome
        exact (Option.some.inj hsome).symm

theorem nciSmMarkActive_timers (t : NciTransition) (self : NciSm) :
  (nciSmMarkActive t self).activeTransition = some t
    ∧ (nciSmMarkActive t self).timeoutId
      = if self.activeTransition ≠ some t then (nciSmFinishActiveTransition self).timeoutId
        else self.timeoutId
  := by
  rw [nciSmMarkActive]
  split <;> exact ⟨rfl, rfl⟩

/-- A transition that is marked active is the only one whose timer may be running. -/
theorem NciSm.Timed.markActive {self : NciSm} (h : self.Timed) {t u : NciTransition}
    (hne : u ≠ t) :
  (nciSmMarkActive t self).timeoutId u = false
  := by
  rw [(nciSmMarkActive_timers t self).2]
  split
  · exact h.finish u
  · rename_i hactive
    rw [not_not] at hactive
    apply Bool.eq_false_iff.mpr
    intro hu
    have hsome := h u hu
    rw [hactive] at hsome
    exact hne (Option.some.inj hsome).symm

section

variable {ι : Type} (E : NciSmIo ι)

/-- The first command of a transition is sent when its timer has been started, if commands time out.
The transition stays active if its command is accepted. -/
theorem nciSmStartTransition_spec (t : NciTransition) (w : SmWorld ι) :
  ∃ gid oid payload resp sm, NciSmResponseFunc.starts resp = some t
    ∧ (nciSmStartTransition E t w).1 = (E.send gid oid payload resp sm w.io).1
    ∧ (nciSmStartTransition E t w).2.io = (E.send gid oid payload resp sm w.io).2
    ∧ (nciSmStartTransition E t w).2.sm.timeoutId
      = Function.update (nciSmMarkActive t w.sm).timeoutId t (E.timeout w.io)
    ∧ (nciSmStartTransition E t w).2.sm.activeTransition
      = if (nciSmStartTransition E t w).1 = true then some t else none
  := by
  obtain ⟨sent, hstart, hsent⟩ : ∃ sent, nciTransitionStart E t (w.map (nciSmMarkActive t)) = sent
      ∧ ∃ gid oid payload resp sm, NciSmResponseFunc.starts resp = some t
        ∧ sent.1 = (E.send gid oid payload resp sm w.io).1
        ∧ sent.2.io = (E.send gid oid payload resp sm w.io).2
        ∧ sent.2.sm.timeoutId
          = Function.update (nciSmMarkActive t w.sm).timeoutId t (E.timeout w.io)
        ∧ sent.2.sm.activeTransition = some t := by
    refine ⟨_, rfl, ?_⟩
    have hmarked := (nciSmMarkActive_timers t w.sm).1
    cases t <;> exact ⟨_, _, _, _, _, rfl, rfl, rfl, rfl, hmarked⟩
  obtain ⟨gid, oid, payload, resp, sm, hresp, hok, hio, htimeout, hactive⟩ := hsent
  refine ⟨gid, oid, payload, resp, sm, hresp, ?_⟩
  rw [nciSmStartTransition, hstart]
  have hleave : ∀ self : NciSm, (nciSmDeactivateState self).timeoutId = self.timeoutId
      ∧ (nciSmDeactivateState self).activeTransition = self.activeTransition := by
    intro self
    exact ⟨(alike_nciSmLeaveActiveState self).timeoutId,
      (alike_nciSmLeaveActiveState self).activeTransition⟩
  split
  · rename_i haccepted
    refine ⟨haccepted.symm.trans hok, hio, ?_, ?_⟩
    · exact (hleave sent.2.sm).1.trans htimeout
    · rw [if_pos rfl]
      exact (hleave sent.2.sm).2.trans hactive
  · rename_i hrefused
    have hunmark : nciSmUnmarkActive t sent.2.sm = { sent.2.sm with activeTransition := none } :=
      if_pos hactive
    refine ⟨(Bool.eq_false_iff.mpr hrefused).symm.trans hok, hio, ?_, ?_⟩
    · rw [SmWorld.map_sm, hunmark]
      exact htimeout
    · rw [SmWorld.map_sm, hunmark, if_neg Bool.false_ne_true]

/-- No timer is left running after a start just if commands do not time out. -/
theorem nciSmStartTransition_untimed {w : SmWorld ι} (h : w.sm.Timed) (t : NciTransition) :
  (∀ u, (nciSmStartTransition E t w).2.sm.timeoutId u = false) ↔ E.timeout w.io = false
  := by
  obtain ⟨_, _, _, _, _, -, -, -, htimeout, -⟩ := nciSmStartTransition_spec E t w
  rw [htimeout]
  constructor
  · intro hnone
    rw [← hnone t, Function.update_self]
  · intro hnone u
    by_cases hsame : u = t
    · rw [hsame, Function.update_self, hnone]
    · rw [Function.update_of_ne hsame]
      exact h.markActive hsame

/-- Starting a transition leaves at most its own timer running, unless the transition is refused
while commands time out. -/
theorem NciSm.Timed.start {w : SmWorld ι} (h : w.sm.Timed) {t : NciTransition}
    (hhonored : (nciSmStartTransition E t w).1 = false → E.timeout w.io = false) :
  (nciSmStartTransition E t w).2.sm.Timed
  := by
  obtain ⟨_, _, _, _, _, -, -, -, htimeout, hactive⟩ := nciSmStartTransition_spec E t w
  intro u hu
  cases hok : (nciSmStartTransition E t w).1 with
  | true =>
      rw [hactive, if_pos hok]
      rw [htimeout] at hu
      by_cases hsame : u = t
      · rw [hsame]
      · rw [Function.update_of_ne hsame, h.markActive hsame] at hu
        cases hu
  | false =>
      have hnone := (nciSmStartTransition_untimed E h t).mpr (hhonored hok) u
      rw [hnone] at hu
      cases hu

end

/-! ### Runs -/

variable {H : SmHost}

/-- The first command of a transition is refused only when commands do not time out. -/
def SmAction.Honored (H : SmHost) (earlier : SmHistory) : SmAction → Prop
  | .sent _ _ _ resp ok _ => resp.starts.isSome = true → ok = false → H.timeout earlier = false
  | _ => True

instance (earlier : SmHistory) (e : SmAction) : Decidable (e.Honored H earlier) := by
  unfold SmAction.Honored
  split <;> infer_instance

/-- Only the timer of the active transition is running, if all actions have been as they should
be. -/
def SmWorld.KeepsTime (H : SmHost) (w : SmWorld SmHistory) : Prop :=
  Throughout (fun earlier (e : SmAction) => e.Honored H earlier) w.io → w.sm.Timed

/-- Another action does not concern the timers. -/
theorem SmWorld.KeepsTime.append {w w' : SmWorld SmHistory} (h : w.KeepsTime H) {e : SmAction}
    (hio : w'.io = w.io ++ [e]) (hsm : w'.sm = w.sm) :
  w'.KeepsTime H
  := by
  intro hhonored
  rw [hio] at hhonored
  rw [hsm]
  exact h hhonored.of_append

/-- What is around the machine does not concern the timers, if what is requested does not. -/
theorem SmHost.upholds_keepsTime {perform : List SmRequest → SmWorld SmHistory → SmWorld SmHistory}
    (hperform : ∀ requests, Upholds (SmWorld.KeepsTime H) (perform requests)) :
  (H.ioWith perform).Upholds (SmWorld.KeepsTime H)
  where
  alike halike hw hhonored := (hw hhonored).of_same halike.timeoutId halike.activeTransition
  finish w hw hhonored t ht := by
    rw [SmWorld.map_sm, (hw hhonored).finish] at ht
    cases ht
  setLastState state w hw hhonored := by
    have hsame : (nciSmSetLastState state w.sm).timeoutId = w.sm.timeoutId
        ∧ (nciSmSetLastState state w.sm).activeTransition = w.sm.activeTransition := by
      rw [nciSmSetLastState]
      split <;> exact ⟨rfl, rfl⟩
    exact (hw hhonored).of_same hsame.1 hsame.2
  setNextState state w hw hhonored := by
    have hsame : (nciSmSetNextState state w.sm).timeoutId = w.sm.timeoutId
        ∧ (nciSmSetNextState state w.sm).activeTransition = w.sm.activeTransition := by
      rw [nciSmSetNextState]
      split <;> exact ⟨rfl, rfl⟩
    exact (hw hhonored).of_same hsame.1 hsame.2
  start t w hw hhonored := by
    obtain ⟨gid, oid, payload, resp, sm, hresp, hok, hio, -, -⟩ :=
      nciSmStartTransition_spec (H.ioWith perform) t w
    have hlog : (nciSmStartTransition (H.ioWith perform) t w).2.io
        = w.io ++ [.sent gid oid payload resp (H.send w.io) sm] := hio
    rw [hlog] at hhonored
    obtain ⟨hearlier, hlast⟩ := throughout_concat.mp hhonored
    apply (hw hearlier).start
    intro hrefused
    apply hlast
    · rw [hresp]
      rfl
    · exact hok.symm.trans hrefused
  send _ _ _ _ _ hw := hw.append rfl rfl
  cancel _ hw := hw.append rfl rfl
  sarSetMaxLogicalConnections _ _ hw := hperform _ _ (hw.append rfl rfl)
  sarSetMaxControlPayloadSize _ _ hw := hw.append rfl rfl
  sarSetMaxDataPayloadSize _ _ hw := hw.append rfl rfl
  sarSetInitialCredits _ _ _ hw := hw.append rfl rfl
  sarAddCredits _ _ _ hw := hw.append rfl rfl
  emitSignal sig w hw := by
    rw [nciSmEmitSignal]
    split
    · have hcleared : SmWorld.KeepsTime H (w.map fun self =>
          { self with pendingSignals := Function.update self.pendingSignals sig false }) := hw
      exact hperform _ _ (hcleared.append rfl rfl)
    · exact hw
  intfActivated _ _ hw := hperform _ _ (hw.append rfl rfl)

/-- A run. -/
theorem SmWorld.KeepsTime.run {w : SmWorld SmHistory} (h : w.KeepsTime H) (n : Nat)
    (events : List SmEvent) :
  (H.run n w events).KeepsTime H
  := by
  have hE : (H.io n).Upholds (SmWorld.KeepsTime H) :=
    SmHost.upholds_io (fun _ => SmHost.upholds_keepsTime) n
  apply SmHost.upholds_run hE
  · exact fun _ _ hw => hw.append rfl rfl
  · intro t w hw
    apply upholds_nciSmError hE
    intro hhonored u hu
    rw [SmWorld.map_sm] at hu
    dsimp only at hu
    apply hw hhonored
    by_cases hsame : u = t
    · rw [hsame, Function.update_self] at hu
      cases hu
    · rw [Function.update_of_ne hsame] at hu
      exact hu
  · exact h

/-- In every run in which the first command of a transition is refused only when commands do not
time out, only the timer of the active transition is running. And when a transition is refused while
that is so, then no timer is left running just if commands do not time out. -/
theorem timersOfActive (H : SmHost) (n : Nat) (techs : UInt32) (laNfcid1 : NciNfcid1)
    (liAHb : NciAtsHb) (events : List SmEvent) :
  (Throughout (fun earlier (e : SmAction) => e.Honored H earlier)
      (H.run n (SmWorld.new (nciSmNew techs laNfcid1 liAHb)) events).io →
    (H.run n (SmWorld.new (nciSmNew techs laNfcid1 liAHb)) events).sm.Timed)
    ∧ ∀ (w : SmWorld SmHistory) (t : NciTransition), w.sm.Timed →
      (nciSmStartTransition (H.io n) t w).1 = false →
      ((∀ u, (nciSmStartTransition (H.io n) t w).2.sm.timeoutId u = false)
        ↔ H.timeout w.io = false)
  := by
  constructor
  · apply SmWorld.KeepsTime.run
    intro _ t ht
    cases ht
  · intro w t h _
    have htimeout : (H.io n).timeout w.io = H.timeout w.io := by cases n <;> rfl
    rw [← htimeout]
    exact nciSmStartTransition_untimed (H.io n) h t

/-- Surroundings in which commands time out, and in which the command is refused that is sent when
the history has the given length. -/
def SmHost.refusing (k : Nat) : SmHost where
  timeout _ := true
  send history := history.length != k
  react _ := []

/-- In a run without refused commands, and for a command that is refused without a timeout. -/
theorem timersOfActive_quiet :
  (SmHost.quiet.run 0 (SmWorld.new nciSmDefault) eventsToDiscovery).sm.Timed
    ∧ ((∀ u, (nciSmStartTransition (SmHost.io { SmHost.quiet with send := fun _ => false } 0) .reset
        (SmWorld.new nciSmDefault)).2.sm.timeoutId u = false) ↔ false = false)
  := by
  constructor
  · apply (timersOfActive SmHost.quiet 0 nciTechDefault ⟨0, []⟩ ⟨0, []⟩ eventsToDiscovery).1
    decide
  · apply (timersOfActive { SmHost.quiet with send := fun _ => false } 0 nciTechDefault ⟨0, []⟩
      ⟨0, []⟩ []).2
    · intro t ht
      cases ht
    · decide

/-- The events of a machine that is to leave RFST_DISCOVERY, whose command is refused, and that is
reset then. -/
def eventsWithRefusal : List SmEvent :=
  eventsToDiscovery ++ [.request (.switchTo .idle), .request .reset, .response [0, 0x10, 0],
    .response [0, 0, 0, 0, 0, 0, 1, 0, 0, 255, 0, 0, 0, 0, 0, 0, 0], .response [0, 0]]

/-- The command that starts the transition to RFST_IDLE is refused. The machine is reset and rests
in RFST_IDLE then, but the timer of the transition is still running. When it expires, the machine
stalls. -/
theorem not_timersOfActive :
  ((SmHost.refusing 30).run 0 (SmWorld.new nciSmDefault) eventsWithRefusal).sm.lastState = .idle
    ∧ ((SmHost.refusing 30).run 0 (SmWorld.new nciSmDefault) eventsWithRefusal).sm.activeTransition
      = none
    ∧ ((SmHost.refusing 30).run 0 (SmWorld.new nciSmDefault) eventsWithRefusal).sm.timeoutId
      .deactivateToIdle = true
    ∧ ¬ ((SmHost.refusing 30).run 0 (SmWorld.new nciSmDefault) eventsWithRefusal).sm.Timed
    ∧ ((SmHost.refusing 30).run 0 (SmWorld.new nciSmDefault)
      (eventsWithRefusal ++ [.transitionTimeout .deactivateToIdle])).sm.lastState = .error
  := by
  have htimer : ((SmHost.refusing 30).run 0 (SmWorld.new nciSmDefault)
      eventsWithRefusal).sm.timeoutId .deactivateToIdle = true := by decide
  refine ⟨by decide, by decide, htimer, ?_, by decide⟩
  intro h
  have hactive := h .deactivateToIdle htimer
  revert hactive
  decide

end Nci
