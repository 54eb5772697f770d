import LibNciCore.Sm.Calm
import LibNciCore.Sm.Timers

/-!
# The watchdog

While commands time out, an active transition never waits without its timer. Whatever the
controller does or fails to do, the transition ends or its timer expires, and then the machine
stalls.
-/

namespace Nci

/-- The timer of the active transition is running. -/
def NciSm.Watched (self : NciSm) : Prop :=
  ∀ t, self.activeTransition = some t → self.timeoutId t = true

/-- The timer of the active transition is running. -/
def SmWorld.Watched {ι : Type} (w : SmWorld ι) : Prop := w.sm.Watched

/-! ### Keeping the timer -/

section

variable {sm sm' : NciSm}

theorem NciSm.Watched.of_same (h : sm.Watched) (htimeout : sm'.timeoutId = sm.timeoutId)
    (hactive : sm'.activeTransition = sm.activeTransition) :
  sm'.Watched
  := by
  intro t ht
  rw [htimeout]
  apply h
  rw [← hactive, ht]

/-- Nothing needs to be watched while no transition is active. -/
theorem NciSm.watched_of_none (hactive : sm.activeTransition = none) :
  sm.Watched
  := by
  intro t ht
  rw [hactive] at ht
  cases ht

/-- A transition is started together with its timer. -/
theorem watched_nciSmStartTransition {ι : Type} (E : NciSmIo ι) {w : SmWorld ι}
    (htimeout : E.timeout w.io = true) (t : NciTransition) :
  (nciSmStartTransition E t w).2.sm.Watched
  := by
  obtain ⟨_, _, _, _, _, -, -, -, htimers, hactive⟩ := nciSmStartTransition_spec E t w
  intro u hu
  rw [hactive] at hu
  split at hu
  · cases hu
    rw [htimers, Function.update_self, htimeout]
  · cases hu

/-- Nothing needs to be watched in a machine that stalls. -/
theorem watched_nciSmStallInternal {ι : Type} (E : NciSmIo ι) (type : NciStall) (w : SmWorld ι) :
  (nciSmStallInternal E type w).sm.Watched
  := by
  apply NciSm.watched_of_none
  have hcontrol := control_nciSmStallInternal (E := E) type w
  have hactivate := SmControl.activate_eq type.state
    { w.sm.control.finish with lastState := type.state, nextState := type.state }
  rw [SmControl.stall, hactivate] at hcontrol
  apply congrArg SmControl.activeTransition hcontrol

end

/-! ### Runs -/

variable {H : SmHost}

/-- What is around the machine keeps the timer running, if what is requested does. -/
theorem SmHost.upholds_watched (htimeout : ∀ history, H.timeout history = true)
    {perform : List SmRequest → SmWorld SmHistory → SmWorld SmHistory}
    (hperform : ∀ requests, Upholds SmWorld.Watched (perform requests)) :
  (H.ioWith perform).Upholds SmWorld.Watched
  where
  alike halike hw := hw.of_same halike.timeoutId halike.activeTransition
  finish w _ := by
    apply NciSm.watched_of_none
    apply (nciSmFinishActiveTransition_timers w.sm).1
  setLastState state w hw := by
    have hsame : (nciSmSetLastState state w.sm).timeoutId = w.sm.timeoutId
        ∧ (nciSmSetLastState state w.sm).activeTransition = w.sm.activeTransition := by
      rw [nciSmSetLastState]
      split
      · trivial
      · trivial
    apply hw.of_same hsame.1 hsame.2
  setNextState state w hw := by
    have hsame : (nciSmSetNextState state w.sm).timeoutId = w.sm.timeoutId
        ∧ (nciSmSetNextState state w.sm).activeTransition = w.sm.activeTransition := by
      rw [nciSmSetNextState]
      split
      · trivial
      · trivial
    apply hw.of_same hsame.1 hsame.2
  start t w _ := watched_nciSmStartTransition (H.ioWith perform) (htimeout w.io) t
  send _ _ _ _ _ hw := hw
  cancel _ hw := hw
  sarSetMaxLogicalConnections _ _ hw := hperform _ _ hw
  sarSetMaxControlPayloadSize _ _ hw := hw
  sarSetMaxDataPayloadSize _ _ hw := hw
  sarSetInitialCredits _ _ _ hw := hw
  sarAddCredits _ _ _ hw := hw
  emitSignal sig w hw := by
    rw [nciSmEmitSignal]
    split
    · apply hperform
      apply hw
    · apply hw
  intfActivated _ _ hw := hperform _ _ hw

/-- A run. -/
theorem SmWorld.Watched.run (htimeout : ∀ history, H.timeout history = true) (n : Nat)
    {w : SmWorld SmHistory} (h : w.Watched) (events : List SmEvent) :
  (H.run n w events).Watched
  := by
  have hE : (H.io n).Upholds SmWorld.Watched :=
    SmHost.upholds_io (fun _ => SmHost.upholds_watched htimeout) n
  apply SmHost.upholds_run hE
  · exact fun _ _ hw => hw
  · -- The timer has expired, and the transition is given up before anything else is done.
    intro t w _
    apply upholds_nciSmEmitPendingSignals hE
    apply watched_nciSmStallInternal
  · exact h

/-- When a timer expires, and nothing is requested from inside callbacks, the machine stalls. -/
theorem stuck_transitionTimeout (hreact : ∀ history, H.react history = []) (n : Nat)
    {w : SmWorld SmHistory} {t : NciTransition} (htimer : w.sm.timeoutId t = true) :
  Stuck (H.step n w (.transitionTimeout t))
  := by
  rw [SmHost.step, SmHost.handle, SmHost.io_eq hreact]
  rw [if_pos (show (w.note _).sm.timeoutId t = true from htimer)]
  apply stuck_nciSmError

/-- In every run in which commands time out, the timer of an active transition is running. When it
expires, and nothing is requested from inside callbacks, then the machine is in RFST_ERROR, no
transition is active, and no response is waited for. -/
theorem transitionsWatched (H : SmHost) (htimeout : ∀ history, H.timeout history = true) (n : Nat)
    (techs : UInt32) (laNfcid1 : NciNfcid1) (liAHb : NciAtsHb) (events : List SmEvent)
    {t : NciTransition}
    (hactive : (H.run n (SmWorld.new (nciSmNew techs laNfcid1 liAHb)) events).sm.activeTransition
      = some t) :
  (H.run n (SmWorld.new (nciSmNew techs laNfcid1 liAHb)) events).sm.timeoutId t = true
    ∧ ((∀ history, H.react history = []) →
      Stuck (H.run n (SmWorld.new (nciSmNew techs laNfcid1 liAHb))
        (events ++ [.transitionTimeout t])))
  := by
  have hwatched : SmWorld.Watched (H.run n (SmWorld.new (nciSmNew techs laNfcid1 liAHb))
      events) := by
    apply SmWorld.Watched.run htimeout
    apply NciSm.watched_of_none
    rfl
  have htimer := hwatched t hactive
  use htimer
  intro hreact
  rw [SmHost.run, List.foldl_append]
  apply stuck_transitionTimeout hreact n htimer

/-- A machine that is on its way to RFST_IDLE, and gets no response. -/
theorem transitionsWatched_reset :
  ((SmHost.refusing 30).run 0 (SmWorld.new nciSmDefault) [.request (.switchTo .idle)]).sm.timeoutId
      .reset = true
    ∧ ((∀ history, (SmHost.refusing 30).react history = []) →
      Stuck ((SmHost.refusing 30).run 0 (SmWorld.new nciSmDefault)
        [.request (.switchTo .idle), .transitionTimeout .reset]))
  := by
  apply transitionsWatched (SmHost.refusing 30) _ 0 nciTechDefault ⟨0, []⟩ ⟨0, []⟩
    [.request (.switchTo .idle)]
  · decide
  · intro history
    rfl

end Nci
