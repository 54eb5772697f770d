import LibNciCore.Sm.Requests

/-!
# A switch to RFST_IDLE and a deactivation that races with it

When RFST_IDLE is requested in RFST_POLL_ACTIVE, then RF_DEACTIVATE_CMD is sent, and the
transition ends with a notification. Notifications that the controller has sent before it saw
the command may come first. The request survives them unless the first of them announces
RFST_DISCOVERY.
-/

namespace Nci

/-! ### The race -/

/-- The requests that may ask for RFST_IDLE. -/
inductive SmRequest.AsksForIdle : SmRequest → Prop
  | switchTo : AsksForIdle (.switchTo .idle)
  | setOpMode (opMode : UInt32) : AsksForIdle (.setOpMode opMode)
  | setTech (tech : UInt32) : AsksForIdle (.setTech tech)

/-- What arrives: the response, which is a successful one, and well formed notifications that
announce RFST_IDLE or RFST_DISCOVERY. -/
inductive SmEvent.DeactivationArrives : SmEvent → Prop
  | response : DeactivationArrives (.response [nciStatusOk])
  | notification {payload : List UInt8} {ntf : NciRfDeactivateNtf}
      (parsed : nciParseRfDeactivateNtf payload = some ntf)
      (type : ntf.type = .idle ∨ ntf.type = .discovery) :
      DeactivationArrives (.notification nciGidRf nciOidRfDeactivate payload)

/-- What a notification announces. -/
def SmEvent.announces : SmEvent → Option NciDeactivationType
  | .notification _ _ payload => (nciParseRfDeactivateNtf payload).map NciRfDeactivateNtf.type
  | _ => none

/-- The machine rests in RFST_DISCOVERY. -/
def NciSm.RestsInDiscovery (sm : NciSm) : Prop :=
  sm.activeTransition = none ∧ sm.nextState = sm.lastState ∧ sm.lastState = .discovery

/-- The request for RFST_IDLE survives: the machine does not rest in RFST_DISCOVERY, and RFST_IDLE
is its target or has been reached. -/
def NciSm.KeepsIdle (sm : NciSm) : Prop :=
  ¬sm.RestsInDiscovery ∧ (sm.nextState = .idle ∨ sm.lastState = .idle)

namespace SmControl

/-- The transition to RFST_IDLE is active. -/
structure Deactivating (c : SmControl) : Prop where
  activeTransition : c.activeTransition = some .pollActiveToIdle
  nextState : c.nextState = .idle
  nextTransition : c.nextTransition = none

/-- The transition ends with a state that is entered. -/
theorem Deactivating.enter {c : SmControl} (h : c.Deactivating) (state : NciState) (ok : Bool) :
  (c.enter state none ok).RestsIn state
  := by
  have hnone : c.nextTransition.filter (fun t => t.dest != state) = none := by
    rw [h.nextTransition]
    rfl
  rw [enter_rests hnone, activate_eq]
  exact ⟨rfl, rfl, rfl, rfl⟩

/-- A switch to RFST_IDLE in RFST_POLL_ACTIVE starts the transition, or the machine stalls. -/
theorem deactivating_switch {c : SmControl} (hactive : c.activeTransition = none)
    (hlast : c.lastState = .pollActive) {ok : Bool}
    (hstarted : (c.switch .idle ok).activeTransition = some .pollActiveToIdle) :
  (c.switch .idle ok).Deactivating
  := by
  have hswitch : c.switch .idle ok = c.forget.switchIdle .idle ok := by
    unfold switch
    rw [hactive]
  have htransition : nciStateGetTransition c.forget.lastState .idle = some .pollActiveToIdle := by
    rw [show c.forget.lastState = .pollActive from hlast]
    rfl
  rw [hswitch] at hstarted ⊢
  unfold switchIdle at hstarted ⊢
  rw [htransition] at hstarted ⊢
  dsimp only at hstarted ⊢
  cases ok with
  | true => exact ⟨rfl, rfl, rfl⟩
  | false =>
      rw [if_neg Bool.false_ne_true, stall, activate_eq] at hstarted
      cases hstarted

end SmControl

variable {ι : Type} {E : NciSmIo ι} {w : SmWorld ι}

/-! ### The request -/

/-- No transition is active in RFST_POLL_ACTIVE. -/
structure NciSm.Polling (sm : NciSm) : Prop where
  activeTransition : sm.activeTransition = none
  lastState : sm.lastState = .pollActive

theorem deactivating_nciSmSwitchTo (hsilent : E.Silent) (h : w.sm.Polling)
    (hstarted : (nciSmSwitchTo E .idle w).sm.activeTransition = some .pollActiveToIdle) :
  (nciSmSwitchTo E .idle w).sm.control.Deactivating
  := by
  by_cases hentering : w.sm.enteringState = 0
  · rw [nciSmSwitchTo_outside E hentering] at hstarted ⊢
    obtain ⟨ok, hcontrol, -⟩ := control_nciSmSwitchInternal hsilent .idle
      (w.map fun self => { self with pendingSwitch := none })
    have hstarted' := (congrArg SmControl.activeTransition hcontrol).symm.trans hstarted
    rw [hcontrol]
    split_ifs at hstarted' ⊢
    · exact SmControl.deactivating_switch h.activeTransition h.lastState hstarted'
    · cases h.activeTransition.symm.trans hstarted'
  · rw [nciSmSwitchTo_entering E hentering] at hstarted
    cases h.activeTransition.symm.trans hstarted

theorem deactivating_nciSmRestart (hsilent : E.Silent) (h : w.sm.Polling)
    (hstarted : (nciSmRestart E w).sm.activeTransition = some .pollActiveToIdle) :
  (nciSmRestart E w).sm.control.Deactivating
  := by
  rw [nciSmRestart] at hstarted ⊢
  split_ifs at hstarted ⊢
  · exact deactivating_nciSmSwitchTo hsilent h hstarted
  · cases h.activeTransition.symm.trans hstarted

/-- A request that starts the transition is a switch to RFST_IDLE. -/
theorem SmRequest.AsksForIdle.deactivating {r : SmRequest} (hr : r.AsksForIdle)
    (hsilent : E.Silent) (h : w.sm.Polling)
    (hstarted : (r.perform E w).sm.activeTransition = some .pollActiveToIdle) :
  (r.perform E w).sm.control.Deactivating
  := by
  cases hr with
  | switchTo => exact deactivating_nciSmSwitchTo hsilent h hstarted
  | setOpMode opMode =>
      rw [SmRequest.perform, nciSmSetOpMode] at hstarted ⊢
      split_ifs at hstarted ⊢
      · exact deactivating_nciSmRestart hsilent ⟨h.activeTransition, h.lastState⟩ hstarted
      · cases h.activeTransition.symm.trans hstarted
  | setTech tech =>
      rw [SmRequest.perform, nciSmSetTech] at hstarted ⊢
      split_ifs at hstarted ⊢
      · exact deactivating_nciSmRestart hsilent ⟨h.activeTransition, h.lastState⟩ hstarted
      · cases h.activeTransition.symm.trans hstarted

/-! ### What arrives -/

/-- Response functions do nothing while no transition is active. -/
theorem NciSmResponseFunc.call_resting (resp : NciSmResponseFunc) (status : NciRequestStatus)
    (payload : List UInt8) (h : w.sm.activeTransition = none) :
  resp.call E status payload w = w
  := by
  apply call_inactive
  intro t _
  rw [h]
  exact (Option.some_ne_none t).symm

/-- The response to RF_DEACTIVATE_CMD changes nothing if it is successful. -/
theorem NciSmResponseFunc.call_deactivating (resp : NciSmResponseFunc)
    (h : w.sm.activeTransition = some .pollActiveToIdle) :
  resp.call E .success [nciStatusOk] w = w
  := by
  by_cases hresp : resp = .pollActiveToIdleRsp
  · rw [hresp, NciSmResponseFunc.call, nciTransitionPollActiveToIdleRsp, nciTransitionRsp,
      if_neg (not_or.mpr ⟨by decide, not_not.mpr h⟩), if_neg (by decide), if_pos rfl]
  · apply call_inactive
    intro t ht
    rw [h]
    rintro ⟨⟩
    exact hresp (by cases resp <;> first | rfl | cases ht)

/-- A machine that rests in RFST_IDLE or RFST_DISCOVERY ignores RF_DEACTIVATE_NTF. -/
theorem nciSmHandleNtf_resting {state : NciState} (h : w.sm.control.RestsIn state)
    (hstate : state = .idle ∨ state = .discovery) (payload : List UInt8) :
  nciSmHandleNtf E nciGidRf nciOidRfDeactivate payload w = w
  := by
  have hactive : w.sm.activeTransition = none := h.activeTransition
  have hlast : w.sm.lastState = state := h.lastState
  unfold nciSmHandleNtf
  rw [hactive, hlast]
  obtain rfl | rfl := hstate <;> rfl

/-- The notification that ends the transition takes the machine to the state it announces. -/
theorem restsIn_nciSmHandleNtf (hsilent : E.Silent) (h : w.sm.control.Deactivating)
    {payload : List UInt8} {ntf : NciRfDeactivateNtf}
    (hparsed : nciParseRfDeactivateNtf payload = some ntf) :
  (ntf.type = .idle →
      (nciSmHandleNtf E nciGidRf nciOidRfDeactivate payload w).sm.control.RestsIn .idle)
    ∧ (ntf.type = .discovery →
      (nciSmHandleNtf E nciGidRf nciOidRfDeactivate payload w).sm.control.RestsIn .discovery)
  := by
  have hactive : w.sm.activeTransition = some .pollActiveToIdle := h.activeTransition
  have henter : ∀ state, state ≠ .w4HostSelect →
      (nciSmEnterState E state none w).sm.control.RestsIn state := by
    intro state hstate
    obtain ⟨request, ok, hcontrol, hrequest, -⟩ := control_nciSmEnterStateInternal (E := E)
      NciParam.continues_none state w
    rw [nciSmEnterState, hsilent.emit, hcontrol, hrequest hstate]
    exact h.enter state ok
  have hntf : nciSmHandleNtf E nciGidRf nciOidRfDeactivate payload w
      = nciSmHandleRfDeactivateNtf E payload w := by
    unfold nciSmHandleNtf
    rw [hactive]
    rfl
  rw [hntf]
  unfold nciSmHandleRfDeactivateNtf
  rw [hparsed, Option.map_some]
  constructor
  · intro htype
    rw [htype]
    exact henter .idle (by decide)
  · intro htype
    rw [htype]
    exact henter .discovery (by decide)

/-! ### Runs -/

variable {H : SmHost} {n : Nat} {w : SmWorld SmHistory} {events : List SmEvent}

theorem SmHost.answer_of_call {status : NciRequestStatus} {payload : List UInt8}
    (h : ∀ (resp : NciSmResponseFunc) (a : SmAction),
      resp.call (H.io n) status payload (w.note a) = w.note a) :
  (H.answer n status payload w).sm = w.sm
  := by
  unfold SmHost.answer
  split
  · rw [h]
    rfl
  · rfl

/-- Nothing that arrives changes a machine that rests in RFST_IDLE or RFST_DISCOVERY. -/
theorem SmEvent.DeactivationArrives.step_resting {e : SmEvent} (he : e.DeactivationArrives)
    {state : NciState} (h : w.sm.control.RestsIn state)
    (hstate : state = .idle ∨ state = .discovery) :
  (H.step n w e).sm = w.sm
  := by
  cases he with
  | response =>
      exact SmHost.answer_of_call (w := w.note (.arrived (.response [nciStatusOk])))
        fun resp _ => resp.call_resting _ _ h.activeTransition
  | @notification payload _ parsed type =>
      have hntf := nciSmHandleNtf_resting (E := H.io n) (w := w.note
        (.arrived (.notification nciGidRf nciOidRfDeactivate payload))) h hstate payload
      have hsame := congrArg SmWorld.sm hntf
      exact hsame

theorem SmEvent.DeactivationArrives.run_resting
    (hevents : ∀ e ∈ events, e.DeactivationArrives) {state : NciState}
    (h : w.sm.control.RestsIn state) (hstate : state = .idle ∨ state = .discovery) :
  (H.run n w events).sm.control.RestsIn state
  := by
  induction events generalizing w with
  | nil => exact h
  | cons e events ih =>
      have hstep := (hevents e List.mem_cons_self).step_resting (H := H) (n := n) h hstate
      apply ih (fun e' he' => hevents e' (List.mem_cons_of_mem _ he'))
      rw [hstep]
      exact h

/-- Where the first notification takes a machine that is about to leave RFST_POLL_ACTIVE. -/
theorem SmEvent.DeactivationArrives.run_deactivating (hreact : ∀ history, H.react history = [])
    (hevents : ∀ e ∈ events, e.DeactivationArrives) (h : w.sm.control.Deactivating) :
  (events.findSome? SmEvent.announces = none ∧ (H.run n w events).sm.control.Deactivating)
    ∨ (events.findSome? SmEvent.announces = some .idle
      ∧ (H.run n w events).sm.control.RestsIn .idle)
    ∨ (events.findSome? SmEvent.announces = some .discovery
      ∧ (H.run n w events).sm.control.RestsIn .discovery)
  := by
  induction events generalizing w with
  | nil => exact Or.inl ⟨rfl, h⟩
  | cons e events ih =>
      have hrest : ∀ e' ∈ events, e'.DeactivationArrives :=
        fun e' he' => hevents e' (List.mem_cons_of_mem _ he')
      cases hevents e List.mem_cons_self with
      | response =>
          have hstep : (H.step n w (.response [nciStatusOk])).sm = w.sm :=
            SmHost.answer_of_call (w := w.note (.arrived (.response [nciStatusOk])))
              fun resp _ => resp.call_deactivating h.activeTransition
          apply ih hrest
          rw [hstep]
          exact h
      | @notification payload ntf parsed type =>
          have hfirst : (SmEvent.notification nciGidRf nciOidRfDeactivate payload).announces
              = some ntf.type := by
            rw [SmEvent.announces, parsed]
            rfl
          rw [List.findSome?_cons_of_isSome (by rw [hfirst]; rfl), hfirst]
          obtain ⟨hidle, hdiscovery⟩ := restsIn_nciSmHandleNtf (SmHost.silent_io hreact n)
            (w := w.note (.arrived (.notification nciGidRf nciOidRfDeactivate payload))) h parsed
          right
          obtain htype | htype := type
          · left
            use congrArg some htype
            apply run_resting hrest _ (Or.inl rfl)
            apply hidle htype
          · right
            use congrArg some htype
            apply run_resting hrest _ (Or.inr rfl)
            apply hdiscovery htype

/-- A request for RFST_IDLE that starts a deactivation in RFST_POLL_ACTIVE survives whatever
arrives then exactly if the first notification does not announce RFST_DISCOVERY. -/
theorem keepsIdle (hreact : ∀ history, H.react history = []) {r : SmRequest} (hr : r.AsksForIdle)
    (h : w.sm.Polling)
    (hstarted : (H.step n w (.request r)).sm.activeTransition = some .pollActiveToIdle)
    (hevents : ∀ e ∈ events, e.DeactivationArrives) :
  (∀ earlier, earlier <+: events → (H.run n w (.request r :: earlier)).sm.KeepsIdle)
    ↔ events.findSome? SmEvent.announces ≠ some .discovery
  := by
  have hdeactivating : (H.step n w (.request r)).sm.control.Deactivating :=
    hr.deactivating (SmHost.silent_io hreact n) (w := w.note (.arrived (.request r))) h hstarted
  constructor
  · intro hkeeps hdiscovery
    obtain ⟨hnone, -⟩ | ⟨hidle, -⟩ | ⟨-, hrests⟩ :=
      SmEvent.DeactivationArrives.run_deactivating (n := n) hreact hevents hdeactivating
    · cases hnone.symm.trans hdiscovery
    · cases hidle.symm.trans hdiscovery
    · apply (hkeeps events (List.prefix_refl events)).1
      exact ⟨hrests.activeTransition, hrests.nextState.trans hrests.lastState.symm,
        hrests.lastState⟩
  · rintro hfirst earlier ⟨later, rfl⟩
    have hearlier : ∀ e ∈ earlier, e.DeactivationArrives :=
      fun e he => hevents e (List.mem_append_left _ he)
    obtain ⟨-, hactive⟩ | ⟨-, hrests⟩ | ⟨hdiscovery, -⟩ :=
      SmEvent.DeactivationArrives.run_deactivating (n := n) hreact hearlier hdeactivating
    · refine ⟨?_, Or.inl hactive.nextState⟩
      rintro ⟨hnone, -⟩
      cases hnone.symm.trans hactive.activeTransition
    · refine ⟨?_, Or.inl hrests.nextState⟩
      rintro ⟨-, -, hlast⟩
      cases hlast.symm.trans hrests.lastState
    · rw [List.findSome?_append, hdiscovery] at hfirst
      exact absurd rfl hfirst

/-- The notification that was asked for arrives after the response. -/
theorem keepsIdle_nominal :
  (SmHost.quiet.step 0 SmWorld.polling (.request (.switchTo .idle))).sm.activeTransition
      = some .pollActiveToIdle
    ∧ ∀ earlier, earlier <+: [.response [0], .notification 1 6 [0, 0]] →
      (SmHost.quiet.run 0 SmWorld.polling (.request (.switchTo .idle) :: earlier)).sm.KeepsIdle
  := by
  refine ⟨by decide, ?_⟩
  apply (keepsIdle (fun _ => rfl) .switchTo ⟨by decide, by decide⟩ (by decide) _).mpr
  · decide
  · exact List.forall_iff_forall_mem.mp
      ⟨.response, @SmEvent.DeactivationArrives.notification [0, 0] ⟨.idle, 0⟩ rfl (Or.inl rfl)⟩

/-- The link was lost before the controller saw the command. -/
theorem not_keepsIdle :
  (SmHost.quiet.step 0 SmWorld.polling (.request (.switchTo .idle))).sm.activeTransition
      = some .pollActiveToIdle
    ∧ ¬(SmHost.quiet.run 0 SmWorld.polling
        [.request (.switchTo .idle), .notification 1 6 [3, 2], .response [0],
          .notification 1 6 [0, 0]]).sm.KeepsIdle
  := ⟨by decide, fun h => h.1 ⟨by decide, by decide, by decide⟩⟩

end Nci
