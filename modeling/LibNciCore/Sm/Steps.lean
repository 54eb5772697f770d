import LibNciCore.Sm.Published

/-!
# Events and transitions

What an event does to the transition that is active: a response is handed to the response function
that waits for it, an error stalls the machine, and everything else, apart from notifications,
leaves the machine where it is or takes it to an internal state.
-/

namespace Nci

variable {H : SmHost} {w w' : SmWorld SmHistory}

/-! ### Errors -/

/-- The machine has stalled in NCI_STATE_ERROR, and emits the signals that tell of it. -/
def SmHost.Stalls (H : SmHost) (n : Nat) (w : SmWorld SmHistory) : Prop :=
  ∃ w₀ : SmWorld SmHistory, w = nciSmEmitPendingSignals (H.io n) w₀ ∧ w₀.sm.lastState = .error
    ∧ w₀.sm.nextState = .error ∧ w₀.sm.activeTransition = none

theorem stalls_nciSmError (n : Nat) (w : SmWorld SmHistory) :
  H.Stalls n (nciSmError (H.io n) w)
  := by
  obtain ⟨_, _, _, _, _, _, hstalled, -⟩ := nciSmStalled_eq .error w.sm
  have hlast := congrArg NciSm.lastState hstalled
  have hnext := congrArg NciSm.nextState hstalled
  have hactive := congrArg NciSm.activeTransition hstalled
  exact ⟨nciSmStallInternal (H.io n) .error w, rfl, hlast, hnext, hactive⟩

/-! ### Responses -/

/-- A response is handled while the transition of its response function is active. -/
theorem SmHost.step_response {n : Nat} {resp : NciSmResponseFunc} {t : NciTransition}
    (hresp : w.io.outstanding = some resp) (htransition : resp.transition = some t)
    (hactive : w.sm.activeTransition = some t) (payload : List UInt8) :
  H.step n w (.response payload)
    = (resp.outcome payload w.sm).perform (H.io n)
      ((w.note (.arrived (.response payload))).note (.answered resp .success payload))
  := by
  have hanswer : H.step n w (.response payload)
      = H.answer n .success payload (w.note (.arrived (.response payload))) := rfl
  have houtstanding : (w.note (.arrived (.response payload))).io.outstanding = w.io.outstanding :=
    SmHistory.outstanding_append ..
  have hactive' : ((w.note (.arrived (.response payload))).note
      (.answered resp .success payload)).sm.activeTransition = some t := hactive
  rw [hanswer, answer, houtstanding, hresp]
  exact NciSmResponseFunc.call_success htransition hactive' payload

/-- A response is ignored when none is awaited. -/
theorem SmHost.step_response_none {n : Nat} (hresp : w.io.outstanding = none)
    (payload : List UInt8) :
  H.step n w (.response payload) = w.note (.arrived (.response payload))
  := by
  have hanswer : H.step n w (.response payload)
      = H.answer n .success payload (w.note (.arrived (.response payload))) := rfl
  have houtstanding : (w.note (.arrived (.response payload))).io.outstanding = w.io.outstanding :=
    SmHistory.outstanding_append ..
  rw [hanswer, answer, houtstanding, hresp]

/-- A response is ignored while the transition of its response function is not active. -/
theorem SmHost.step_response_inactive {n : Nat} {resp : NciSmResponseFunc}
    (hresp : w.io.outstanding = some resp)
    (hactive : ∀ t, resp.transition = some t → w.sm.activeTransition ≠ some t)
    (payload : List UInt8) :
  H.step n w (.response payload)
    = (w.note (.arrived (.response payload))).note (.answered resp .success payload)
  := by
  have hanswer : H.step n w (.response payload)
      = H.answer n .success payload (w.note (.arrived (.response payload))) := rfl
  have houtstanding : (w.note (.arrived (.response payload))).io.outstanding = w.io.outstanding :=
    SmHistory.outstanding_append ..
  rw [hanswer, answer, houtstanding, hresp]
  have hinactive : ∀ t, resp.transition = some t → ((w.note (.arrived (.response payload))).note
      (.answered resp .success payload)).sm.activeTransition ≠ some t := hactive
  exact NciSmResponseFunc.call_inactive _ hinactive .success payload

/-! ### What does not end a transition -/

/-- The default way to handle a notification leads to no state that is not internal. -/
theorem SmHost.keeps_nciDefaultHandleNtf (H : SmHost) (n : Nat) {state : NciState}
    (hstate : state.isInternal = false) (gid oid : UInt8) (payload : List UInt8) :
  Keeps (fun c => c.lastState ≠ state) (nciDefaultHandleNtf (H.io n) gid oid payload)
  := by
  have hsteady := SmControl.steady_lastState hstate
  have herror := keeps_nciSmError hsteady (H.keeps_io n hsteady)
  refine Keeps.ite ?_ keeps_id
  intro w hw
  unfold nciSmHandleConnCreditsNtf
  split
  · split
    · exact hw
    · exact herror w hw
  · exact herror w hw

/-- When there is no response in time, the machine goes to no state that is not internal. -/
theorem SmHost.keeps_answer_timeout (H : SmHost) (n : Nat) {state : NciState}
    (hstate : state.isInternal = false) :
  Keeps (fun c => c.lastState ≠ state) (H.answer n .timeout [])
  := by
  have hsteady := SmControl.steady_lastState hstate
  intro w hw
  unfold answer
  split
  · rename_i resp _
    by_cases hactive : ∃ t, resp.transition = some t ∧ w.sm.activeTransition = some t
    · obtain ⟨t, hresp, ht⟩ := hactive
      have ht' : (w.note (.answered resp .timeout [])).sm.activeTransition = some t := ht
      rw [NciSmResponseFunc.call_timeout hresp ht']
      exact keeps_nciSmError hsteady (H.keeps_io n hsteady) _ hw
    · have hinactive : ∀ t, resp.transition = some t →
          (w.note (.answered resp .timeout [])).sm.activeTransition ≠ some t :=
        fun t hresp ht => hactive ⟨t, hresp, ht⟩
      rw [NciSmResponseFunc.call_inactive _ hinactive]
      exact hw
  · exact hw

/-- While a transition is active, only a response or a notification takes the machine to a state
that is not internal. -/
theorem SmHost.keeps_step (H : SmHost) (n : Nat) {state : NciState}
    (hstate : state.isInternal = false) (hlast : w.sm.lastState ≠ state) {e : SmEvent}
    (he : (∀ payload, e ≠ .response payload)
      ∧ ∀ gid oid payload, e ≠ .notification gid oid payload) :
  (H.step n w e).sm.lastState ≠ state
  := by
  have hsteady := SmControl.steady_lastState hstate
  have hE := H.keeps_io n hsteady
  have herror := keeps_nciSmError hsteady hE
  cases e with
  | request r => exact Nci.keeps_perform hsteady hE r _ hlast
  | notification gid oid payload => exact absurd rfl (he.2 gid oid payload)
  | response payload => exact absurd rfl (he.1 payload)
  | commandTimeout =>
      unfold step handle
      dsimp only
      split
      · exact herror _ (H.keeps_answer_timeout n hstate _ hlast)
      · exact hlast
  | transitionTimeout t =>
      unfold step handle
      dsimp only
      split
      · exact herror _ hlast
      · exact hlast
  | idle => exact keeps_nciSmSwitchProc hsteady hE _ hlast
  | error => exact herror _ hlast

end Nci
