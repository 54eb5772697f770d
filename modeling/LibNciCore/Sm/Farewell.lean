import LibNciCore.Sm.Conduct

/-!
# The end of listening

The transition from RFST_LISTEN_ACTIVE to RFST_IDLE needs both the response to its command and a
notification. A notification that comes before the response is remembered, whatever it says. One
that comes after the response has to be the one that was asked for. The memory is empty when the
transition starts.
-/

namespace Nci

/-! ### What arrives -/

/-- What may arrive while the transition waits: responses, notifications and timeouts. -/
inductive SmEvent.Arrives : SmEvent → Prop
  | response (payload : List UInt8) : Arrives (.response payload)
  | notification (gid oid : UInt8) (payload : List UInt8) : Arrives (.notification gid oid payload)
  | commandTimeout : Arrives .commandTimeout
  | transitionTimeout (t : NciTransition) : Arrives (.transitionTimeout t)

def SmEvent.isResponse : SmEvent → Bool
  | .response _ => true
  | _ => false

/-- What a well formed RF_DEACTIVATE_NTF says. -/
def SmEvent.deactivation : SmEvent → Option NciRfDeactivateNtf
  | .notification gid oid payload =>
      if gid = nciGidRf ∧ oid = nciOidRfDeactivate then nciParseRfDeactivateNtf payload else none
  | _ => none

/-- CORE_CONN_CREDITS_NTF is too short. -/
def isBrokenCreditsNtf : List UInt8 → Bool
  | n :: entries => entries.length < 2 * n.toNat
  | [] => true

/-- A notification makes no sense. -/
def SmEvent.isMalformed : SmEvent → Bool
  | .notification gid oid payload =>
      if gid = nciGidRf ∧ oid = nciOidRfDeactivate then (nciParseRfDeactivateNtf payload).isNone
      else gid == nciGidCore && oid == nciOidCoreConnCredits && isBrokenCreditsNtf payload
  | _ => false

/-- There was a response among what has arrived. -/
def responded (events : List SmEvent) : Bool := events.any SmEvent.isResponse

/-- There was a well formed RF_DEACTIVATE_NTF among what has arrived. -/
def noticed (events : List SmEvent) : Bool := events.any fun e => e.deactivation.isSome

/-- After what has arrived before, the transition finishes: with the response if a notification
was there already, and otherwise with the notification that was asked for. -/
inductive Finishes (earlier : List SmEvent) : SmEvent → Prop
  | response (hfirst : responded earlier = false) (hnoticed : noticed earlier = true) :
      Finishes earlier (.response [nciStatusOk])
  | notification {e : SmEvent} (hanswered : responded earlier = true)
      (h : e.deactivation = some ⟨.idle, nciDeactivationReasonDhRequest⟩) : Finishes earlier e

/-- After what has arrived before, the transition fails. -/
inductive Fails (sm : NciSm) (earlier : List SmEvent) : SmEvent → Prop
  | malformed {e : SmEvent} (h : e.isMalformed = true) : Fails sm earlier e
  | response {payload : List UInt8} (hfirst : responded earlier = false)
      (h : payload ≠ [nciStatusOk]) : Fails sm earlier (.response payload)
  | commandTimeout (hfirst : responded earlier = false) : Fails sm earlier .commandTimeout
  | transitionTimeout {t : NciTransition} (h : sm.timeoutId t = true) :
      Fails sm earlier (.transitionTimeout t)

/-! ### The start -/

/-- The transition waits for the response to its command, and remembers nothing. -/
structure SmWorld.Blank (w : SmWorld SmHistory) : Prop where
  outstanding : w.io.outstanding = some .listenActiveToIdleRsp
  ntf : w.sm.ntf = none
  expectingNtf : w.sm.expectingNtf = false
  last : ∃ earlier a, w.io = earlier ++ [a] ∧ (∀ e, a ≠ .arrived e)
    ∧ ∀ resp status payload, a ≠ .answered resp status payload

/-- If the transition is active, then it is fresh. -/
def SmWorld.StartsBlank (w : SmWorld SmHistory) : Prop :=
  w.sm.activeTransition = some .listenActiveToIdle → w.Blank

variable {H : SmHost} {w w' : SmWorld SmHistory} {n : Nat}

/-- Nothing has arrived for a transition that is fresh. -/
theorem SmWorld.Blank.not_arriving (h : w.Blank) :
  ¬w.Arriving
  := by
  rintro ⟨earlier, e, he⟩
  obtain ⟨earlier', a, ha, hne, -⟩ := h.last
  have hlast := List.append_inj_right' (he.symm.trans ha) rfl
  exact hne e (List.singleton_inj.mp hlast).symm

theorem SmWorld.Blank.not_answering (h : w.Blank) (resp : NciSmResponseFunc)
    (payload : List UInt8) :
  ¬w.Answering resp payload
  := by
  rintro ⟨⟨earlier, he⟩, -⟩
  obtain ⟨earlier', a, ha, -, hne⟩ := h.last
  have hlast := List.append_inj_right' (he.symm.trans ha) rfl
  exact hne _ _ _ (List.singleton_inj.mp hlast).symm

/-- The machine goes on, and something is added to the history. -/
theorem SmWorld.Blank.note {a : SmAction} (h : w.Blank)
    (houtstanding : a.outstanding (some .listenActiveToIdleRsp) = some .listenActiveToIdleRsp)
    (harrived : ∀ e, a ≠ .arrived e)
    (hanswered : ∀ resp status payload, a ≠ .answered resp status payload) {sm : NciSm}
    (hntf : sm.ntf = w.sm.ntf) (hexpecting : sm.expectingNtf = w.sm.expectingNtf) :
  SmWorld.Blank ⟨sm, w.io ++ [a]⟩
  := by
  refine ⟨?_, hntf.trans h.ntf, hexpecting.trans h.expectingNtf, w.io, a, rfl, harrived, hanswered⟩
  rw [SmHistory.outstanding_append, h.outstanding]
  exact houtstanding

/-- The machine goes on, and nothing is added to the history. -/
theorem SmWorld.Blank.map {sm : NciSm} (h : w.Blank) (hntf : sm.ntf = w.sm.ntf)
    (hexpecting : sm.expectingNtf = w.sm.expectingNtf) :
  SmWorld.Blank ⟨sm, w.io⟩
  := ⟨h.outstanding, hntf.trans h.ntf, hexpecting.trans h.expectingNtf, h.last⟩

/-- A transition that is started is fresh. -/
theorem startsBlank_started (t : NciTransition) (timeout ok : Bool) (w : SmWorld SmHistory) :
  (w.started t timeout ok).StartsBlank
  := by
  intro hactive
  cases ok with
  | false =>
      obtain ⟨_, _, _, h⟩ := w.started_refused t timeout
      rw [h] at hactive
      cases hactive
  | true =>
      rw [activeTransition_started] at hactive
      cases hactive
      have hmemory : (w.started .listenActiveToIdle timeout true).sm.ntf = none
          ∧ (w.started .listenActiveToIdle timeout true).sm.expectingNtf = false := by
        rw [SmWorld.started, if_pos rfl, nciSmDeactivateState]
        obtain ⟨_, _, hleave⟩ := nciSmLeaveActiveState_eq
          (NciTransition.starting .listenActiveToIdle timeout w.sm)
        rw [hleave]
        exact ⟨rfl, rfl⟩
      refine ⟨?_, hmemory.1, hmemory.2, w.io, _, rfl, ?_, ?_⟩
      · rw [SmWorld.started, SmHistory.outstanding_append]
        rfl
      · rintro e ⟨⟩
      · rintro resp status payload ⟨⟩

theorem SmWorld.StartsBlank.leave (h : w.StartsBlank) (state : NciState) :
  (w.map (nciSmEndEntering state)).StartsBlank
  := by
  obtain ⟨_, hend, -⟩ := nciSmEndEntering_eq state w.sm
  intro hactive
  rw [SmWorld.map_sm, hend] at hactive
  apply (h hactive).map <;> rw [hend]

theorem SmTurn.startsBlank (hturn : SmTurn w w') (h : w.StartsBlank) :
  w'.StartsBlank
  := by
  cases hturn with
  | enter henter =>
      rename_i state
      obtain ⟨_, _, _, _, _, hentering⟩ := nciSmEntering_eq state w.sm
      intro hactive
      rw [SmWorld.map_sm, hentering] at hactive
      cases hactive
  | follow _ _ _ _ _ timeout ok => exact (startsBlank_started _ timeout ok _).leave _
  | forget => exact fun hactive => (h hactive).map rfl rfl
  | leave _ _ state _ => exact h.leave state
  | stall version expectingNtf _ type =>
      obtain ⟨_, _, _, _, _, _, hstalled, -⟩ := nciSmStalled_eq type.state
        { w.sm with version := version, expectingNtf := expectingNtf }
      intro hactive
      rw [hstalled] at hactive
      cases hactive
  | start _ _ _ timeout ok _ => exact startsBlank_started _ timeout ok _
  | @abandon t _ _ _ timeout =>
      obtain ⟨_, _, _, _, _, _, hstalled, -⟩ := nciSmStalled_eq .error
        { (w.started t timeout true).sm with nextTransition := none }
      intro hactive
      rw [hstalled] at hactive
      cases hactive
  | queue _ _ _ next =>
      rename_i t _ _ _
      obtain ⟨_, hset, -⟩ := nciSmSetNextState_eq next { w.sm with nextTransition := some t }
      have hntf := congrArg NciSm.ntf hset
      have hexpecting := congrArg NciSm.expectingNtf hset
      exact fun hactive =>
        (h ((congrArg NciSm.activeTransition hset).symm.trans hactive)).map hntf hexpecting
  | aim _ next =>
      obtain ⟨_, hset, -⟩ := nciSmSetNextState_eq next w.sm
      have hntf := congrArg NciSm.ntf hset
      have hexpecting := congrArg NciSm.expectingNtf hset
      exact fun hactive =>
        (h ((congrArg NciSm.activeTransition hset).symm.trans hactive)).map hntf hexpecting
  | emit _ =>
      intro hactive
      exact (h hactive).note rfl (by rintro e ⟨⟩) (by rintro resp status payload ⟨⟩) rfl rfl

/-- What is fresh stays so until something arrives. -/
theorem SmMove.startsBlank (hmove : SmMove H w w') (h : w.StartsBlank) :
  w'.StartsBlank
  := by
  have hnote : ∀ {a : SmAction},
      a.outstanding (some .listenActiveToIdleRsp) = some .listenActiveToIdleRsp →
      (∀ e, a ≠ .arrived e) → (∀ resp status payload, a ≠ .answered resp status payload) →
      (w.note a).StartsBlank :=
    fun houtstanding harrived hanswered hactive =>
      (h hactive).note houtstanding harrived hanswered rfl rfl
  cases hmove with
  | turn hturn => exact hturn.startsBlank h
  | edit sm hkernel =>
      intro hactive
      have hactive' := (congrArg NciSm.activeTransition hkernel).symm.trans hactive
      have hntf := congrArg NciSm.ntf hkernel
      have hexpecting := congrArg NciSm.expectingNtf hkernel
      exact (h hactive').map hntf hexpecting
  | sar c _ => exact hnote rfl (by rintro e ⟨⟩) (by rintro resp status payload ⟨⟩)
  | activated ntf => exact hnote rfl (by rintro e ⟨⟩) (by rintro resp status payload ⟨⟩)
  | answered resp status payload _ harrived =>
      exact fun hactive => absurd harrived (h hactive).not_arriving
  | @stay resp payload hanswering sm houtcome =>
      have hsm : (resp.outcome payload w.sm).machine = some sm := by
        rw [houtcome]
        rfl
      obtain ⟨_, _, rfl⟩ := NciSmResponseFunc.machine_outcome hsm
      exact fun hactive => absurd hanswering ((h hactive).not_answering _ _)
  | @send resp payload hanswering sm gid oid cmd next houtcome ok =>
      have hsm : (resp.outcome payload w.sm).machine = some sm := by
        rw [houtcome]
        rfl
      obtain ⟨_, _, rfl⟩ := NciSmResponseFunc.machine_outcome hsm
      exact fun hactive => absurd hanswering ((h hactive).not_answering _ _)
  | configure hanswering _ ok =>
      exact fun hactive => absurd hanswering ((h hactive).not_answering _ _)
  | remember hanswering _ _ =>
      exact fun hactive => absurd hanswering ((h hactive).not_answering _ _)
  | resume _ _ hresetting ok =>
      intro hactive
      have hactive' : w.sm.control.activeTransition = some .listenActiveToIdle := hactive
      obtain hnone | hreset := hresetting.active
      · cases hnone.symm.trans hactive'
      · cases hreset.symm.trans hactive'
  | renew hreset _ _ _ ok => exact fun hactive => by cases hreset.symm.trans hactive
  | seen _ harrived ntf => exact fun hactive => absurd harrived (h hactive).not_arriving
  | select hnone _ payload ok => exact fun hactive => by cases hnone.symm.trans hactive

/-- In the step that starts the transition nothing else happens to it. -/
theorem SmHost.fresh_step (hentering : w.sm.enteringState = 0) {e : SmEvent}
    (hbefore : w.sm.activeTransition ≠ some .listenActiveToIdle)
    (hstarted : (H.step n w e).sm.activeTransition = some .listenActiveToIdle) :
  (H.step n w e).Blank
  := by
  have hstep := (H.performs_step n hentering e).toPasses.keeps (I := SmWorld.StartsBlank)
    (fun _ _ hmove => hmove.startsBlank) (fun hactive => absurd hactive hbefore)
  exact hstep hstarted

/-! ### Waiting -/

/-- The transition waits, after what has arrived since it was started. -/
structure SmWorld.Waits (earlier : List SmEvent) (w : SmWorld SmHistory) : Prop where
  active : w.sm.activeTransition = some .listenActiveToIdle
  unanswered : responded earlier = false → w.io.outstanding = some .listenActiveToIdleRsp
    ∧ w.sm.expectingNtf = false ∧ w.sm.ntf.isSome = noticed earlier
  answered : responded earlier = true → w.io.outstanding = none ∧ w.sm.expectingNtf = true

/-- The transition is over: the machine is in the given state, and emits the signals that tell of
it. -/
def SmHost.EndsIn (H : SmHost) (n : Nat) (state : NciState) (w : SmWorld SmHistory) : Prop :=
  ∃ w₀ : SmWorld SmHistory, w = nciSmEmitPendingSignals (H.io n) w₀
    ∧ w₀.sm.lastState = state ∧ w₀.sm.activeTransition ≠ some .listenActiveToIdle

theorem endsIn_error (w : SmWorld SmHistory) :
  H.EndsIn n .error (nciSmError (H.io n) w)
  := by
  obtain ⟨_, _, _, _, _, _, hstalled, -⟩ := nciSmStalled_eq .error w.sm
  refine ⟨nciSmStallInternal (H.io n) .error w, rfl, ?_, ?_⟩
  · exact congrArg NciSm.lastState hstalled
  · intro hactive
    cases (congrArg NciSm.activeTransition hstalled).symm.trans hactive

/-- A transition that follows after a state has been entered leads to another one. -/
theorem SmControl.dest_enter {state : NciState} {request : Option NciState} {ok : Bool}
    {c : SmControl} {t : NciTransition}
    (h : (c.enter state request ok).activeTransition = some t) :
  t.dest ≠ state
  := by
  have hactive : (c.enter state request ok).activeTransition
      = (follow state ok { c.finish.activate state with
        pendingSwitch := request <|> c.pendingSwitch }).activeTransition := rfl
  rw [hactive, activate_eq, follow] at h
  dsimp only [finish] at h
  split at h
  · rename_i t' ht'
    obtain ⟨-, hdest⟩ := Option.filter_eq_some_iff.mp ht'
    cases ok with
    | true =>
        cases h
        simpa using hdest
    | false => cases h
  · cases h

theorem endsIn_idle (w : SmWorld SmHistory) :
  H.EndsIn n .idle (nciSmEnterState (H.io n) .idle none w)
  := by
  obtain ⟨request, ok, hcontrol, -⟩ := control_nciSmEnterStateInternal (E := H.io n)
    NciParam.continues_none .idle w
  refine ⟨nciSmEnterStateInternal (H.io n) .idle none w, rfl, ?_, ?_⟩
  · exact congrArg SmControl.lastState hcontrol
  · intro hactive
    have hactive' := (congrArg SmControl.activeTransition hcontrol).symm.trans hactive
    exact SmControl.dest_enter hactive' rfl

/-! ### Steps -/

/-- What one more event does to the transition. -/
structure SmHost.Farewell (H : SmHost) (n : Nat) (earlier : List SmEvent) (e : SmEvent)
    (w w' : SmWorld SmHistory) : Prop where
  finishes : Finishes earlier e → H.EndsIn n .idle w'
  fails : Fails w.sm earlier e → H.EndsIn n .error w'
  waits : ¬Finishes earlier e → ¬Fails w.sm earlier e → w'.Waits (earlier ++ [e])

theorem responded_append (earlier : List SmEvent) (e : SmEvent) :
  responded (earlier ++ [e]) = (responded earlier || e.isResponse)
  := by simp [responded]

theorem noticed_append (earlier : List SmEvent) (e : SmEvent) :
  noticed (earlier ++ [e]) = (noticed earlier || e.deactivation.isSome)
  := by simp [noticed]

/-- An event that the transition does not notice. -/
theorem SmWorld.Waits.ignore {earlier : List SmEvent} {e : SmEvent} (h : w.Waits earlier)
    (hresponse : e.isResponse = false) (hdeactivation : e.deactivation = none)
    (hactive : w'.sm.activeTransition = w.sm.activeTransition)
    (houtstanding : w'.io.outstanding = w.io.outstanding)
    (hexpecting : w'.sm.expectingNtf = w.sm.expectingNtf) (hntf : w'.sm.ntf = w.sm.ntf) :
  w'.Waits (earlier ++ [e])
  := by
  have hanswered : responded (earlier ++ [e]) = responded earlier := by
    rw [responded_append, hresponse, Bool.or_false]
  have hnoticed : noticed (earlier ++ [e]) = noticed earlier := by
    rw [noticed_append, hdeactivation]
    exact Bool.or_false _
  refine ⟨hactive.trans h.active, fun hfirst => ?_, fun hsecond => ?_⟩
  · rw [houtstanding, hexpecting, hntf, hnoticed]
    exact h.unanswered (hanswered.symm.trans hfirst)
  · rw [houtstanding, hexpecting]
    exact h.answered (hanswered.symm.trans hsecond)

theorem outstanding_arrived (w : SmWorld SmHistory) (e : SmEvent) :
  (w.note (.arrived e)).io.outstanding = w.io.outstanding
  := SmHistory.outstanding_append ..

theorem outcome_listenActiveToIdleRsp (payload : List UInt8) (self : NciSm) :
  NciSmResponseFunc.listenActiveToIdleRsp.outcome payload self
    = if payload = [nciStatusOk] then
        if self.ntf.isSome then .enter .idle else .stay { self with expectingNtf := true }
      else .fail self
  := rfl

/-- The response that the transition waits for. -/
theorem SmWorld.Waits.step_response {earlier : List SmEvent} (h : w.Waits earlier)
    (payload : List UInt8) :
  H.Farewell n earlier (.response payload) w (H.step n w (.response payload))
  := by
  have hanswer : H.step n w (.response payload)
      = H.answer n .success payload (w.note (.arrived (.response payload))) := rfl
  cases hfirst : responded earlier with
  | true =>
      have hsame : H.step n w (.response payload) = w.note (.arrived (.response payload)) := by
        rw [hanswer, SmHost.answer, outstanding_arrived, (h.answered hfirst).1]
      rw [hsame]
      refine ⟨fun hfinishes => ?_, fun hfails => ?_, fun _ _ => ⟨h.active, ?_, ?_⟩⟩
      · cases hfinishes with
        | response hfirst' _ => cases hfirst.symm.trans hfirst'
        | notification _ hntf => cases hntf
      · cases hfails with
        | malformed hmalformed => cases hmalformed
        | response hfirst' _ => cases hfirst.symm.trans hfirst'
      · intro hfirst'
        rw [responded_append, hfirst] at hfirst'
        cases hfirst'
      · intro _
        rw [outstanding_arrived]
        exact h.answered hfirst
  | false =>
      obtain ⟨houtstanding, hexpecting, hntf⟩ := h.unanswered hfirst
      have hcall : H.step n w (.response payload)
          = (NciSmResponseFunc.listenActiveToIdleRsp.outcome payload w.sm).perform (H.io n)
            ((w.note (.arrived (.response payload))).note
              (.answered .listenActiveToIdleRsp .success payload)) := by
        rw [hanswer, SmHost.answer, outstanding_arrived, houtstanding]
        have hresp : NciSmResponseFunc.transition .listenActiveToIdleRsp
            = some .listenActiveToIdle := rfl
        have hactive : ((w.note (.arrived (.response payload))).note
            (.answered .listenActiveToIdleRsp .success payload)).sm.activeTransition
              = some .listenActiveToIdle := h.active
        exact NciSmResponseFunc.call_success hresp hactive payload
      rw [hcall, outcome_listenActiveToIdleRsp]
      by_cases hok : payload = [nciStatusOk]
      · subst hok
        rw [if_pos rfl]
        cases hnoticed : noticed earlier with
        | true =>
            rw [hnoticed] at hntf
            rw [if_pos hntf]
            refine ⟨fun _ => endsIn_idle _, fun hfails => ?_, fun hfinishes => ?_⟩
            · cases hfails with
              | malformed hmalformed => cases hmalformed
              | response _ hne => exact absurd rfl hne
            · exact absurd (.response hfirst hnoticed) hfinishes
        | false =>
            rw [hnoticed] at hntf
            rw [if_neg (by rw [hntf]; exact Bool.false_ne_true)]
            refine ⟨fun hfinishes => ?_, fun hfails => ?_, fun _ _ => ⟨h.active, ?_, ?_⟩⟩
            · cases hfinishes with
              | response _ hnoticed' => cases hnoticed.symm.trans hnoticed'
              | notification _ hntf => cases hntf
            · cases hfails with
              | malformed hmalformed => cases hmalformed
              | response _ hne => exact absurd rfl hne
            · intro hfirst'
              rw [responded_append, Bool.or_eq_false_iff] at hfirst'
              cases hfirst'.2
            · exact fun _ => ⟨SmHistory.outstanding_append .., rfl⟩
      · rw [if_neg hok]
        refine ⟨fun hfinishes => ?_, fun _ => endsIn_error _, fun _ hfails => ?_⟩
        · cases hfinishes with
          | response _ _ => exact absurd rfl hok
          | notification _ hntf => cases hntf
        · exact absurd (.response hfirst hok) hfails

/-- Passing on the entries of CORE_CONN_CREDITS_NTF does not concern the transition. -/
theorem outstanding_addCreditEntries (k : Nat) (entries : List UInt8) (history : SmHistory) :
  SmHistory.outstanding (addCreditEntries (H.io n) k entries history) = history.outstanding
  := by
  induction k generalizing entries history with
  | zero => rfl
  | succ k ih =>
      match entries with
      | [] => rfl
      | [_] => rfl
      | cid :: credits :: entries =>
          rw [addCreditEntries, ih]
          exact SmHistory.outstanding_append ..

/-- RF_DEACTIVATE_NTF arrives while the transition waits. -/
theorem SmWorld.Waits.step_deactivation {earlier : List SmEvent} (h : w.Waits earlier)
    (payload : List UInt8) :
  H.Farewell n earlier (.notification nciGidRf nciOidRfDeactivate payload) w
    (H.step n w (.notification nciGidRf nciOidRfDeactivate payload))
  := by
  have hhandle : H.step n w (.notification nciGidRf nciOidRfDeactivate payload)
      = nciTransitionListenActiveToIdleHandleNtf (H.io n) nciGidRf nciOidRfDeactivate payload
        (w.note (.arrived (.notification nciGidRf nciOidRfDeactivate payload))) := by
    unfold SmHost.step SmHost.handle nciSmHandleNtf
    dsimp only [SmWorld.note_sm]
    rw [h.active]
    rfl
  have hdeactivation : (SmEvent.notification nciGidRf nciOidRfDeactivate payload).deactivation
      = nciParseRfDeactivateNtf payload := rfl
  rw [hhandle, nciTransitionListenActiveToIdleHandleNtf, if_pos ⟨rfl, rfl⟩]
  cases hparsed : nciParseRfDeactivateNtf payload with
  | none =>
      have hmalformed : (SmEvent.notification nciGidRf nciOidRfDeactivate payload).isMalformed
          = true := by
        rw [SmEvent.isMalformed, if_pos ⟨rfl, rfl⟩, hparsed]
        rfl
      refine ⟨fun hfinishes => ?_, fun _ => endsIn_error _, fun _ hfails => ?_⟩
      · cases hfinishes with
        | notification _ hntf => cases (hdeactivation.trans hparsed).symm.trans hntf
      · exact absurd (.malformed hmalformed) hfails
  | some ntf =>
      have hfine : ∀ sm, ¬Fails sm earlier (.notification nciGidRf nciOidRfDeactivate payload) := by
        intro sm hfails
        cases hfails with
        | malformed hmalformed =>
            rw [SmEvent.isMalformed, if_pos ⟨rfl, rfl⟩, hparsed] at hmalformed
            cases hmalformed
      dsimp only
      by_cases hasked :
          (w.note (.arrived (.notification nciGidRf nciOidRfDeactivate payload))).sm.expectingNtf
            ∧ ntf.type = .idle ∧ ntf.reason = nciDeactivationReasonDhRequest
      · rw [if_pos hasked]
        obtain ⟨hexpecting, htype, hreason⟩ := hasked
        have hanswered : responded earlier = true := by
          by_contra hfirst
          rw [Bool.not_eq_true] at hfirst
          cases hexpecting.symm.trans (h.unanswered hfirst).2.1
        have hntf : ntf = ⟨.idle, nciDeactivationReasonDhRequest⟩ := by
          cases ntf
          cases htype
          cases hreason
          rfl
        have hactive : (w.note (.arrived (.notification nciGidRf nciOidRfDeactivate
            payload))).sm.activeTransition = some .listenActiveToIdle := h.active
        rw [nciTransitionFinish_active hactive]
        refine ⟨fun _ => endsIn_idle _, fun hfails => absurd hfails (hfine _), fun hfinishes => ?_⟩
        refine absurd (.notification hanswered ?_) hfinishes
        rw [hdeactivation, hparsed, hntf]
      · rw [if_neg hasked]
        refine ⟨fun hfinishes => ?_, fun hfails => absurd hfails (hfine _), fun _ _ =>
          ⟨h.active, fun hfirst => ?_, fun hsecond => ?_⟩⟩
        · cases hfinishes with
          | notification hanswered hntf =>
              cases (hdeactivation.trans hparsed).symm.trans hntf
              exact absurd ⟨(h.answered hanswered).2, rfl, rfl⟩ hasked
        · rw [responded_append, Bool.or_eq_false_iff] at hfirst
          obtain ⟨houtstanding, hexpecting, -⟩ := h.unanswered hfirst.1
          refine ⟨(outstanding_arrived w _).trans houtstanding, hexpecting, ?_⟩
          rw [noticed_append, hdeactivation, hparsed]
          exact (Bool.or_true _).symm
        · rw [responded_append] at hsecond
          have hanswered : responded earlier = true := by simpa [SmEvent.isResponse] using hsecond
          exact ⟨(outstanding_arrived w _).trans (h.answered hanswered).1,
            (h.answered hanswered).2⟩

/-- Another notification arrives while the transition waits. -/
theorem SmWorld.Waits.step_other {earlier : List SmEvent} (h : w.Waits earlier)
    {gid oid : UInt8} (hother : ¬(gid = nciGidRf ∧ oid = nciOidRfDeactivate))
    (payload : List UInt8) :
  H.Farewell n earlier (.notification gid oid payload) w
    (H.step n w (.notification gid oid payload))
  := by
  have hhandle : H.step n w (.notification gid oid payload)
      = nciDefaultHandleNtf (H.io n) gid oid payload
        (w.note (.arrived (.notification gid oid payload))) := by
    unfold SmHost.step SmHost.handle nciSmHandleNtf
    dsimp only [SmWorld.note_sm]
    rw [h.active]
    exact if_neg hother
  have hdeactivation : (SmEvent.notification gid oid payload).deactivation = none := if_neg hother
  have hmalformed : (SmEvent.notification gid oid payload).isMalformed
      = (gid == nciGidCore && oid == nciOidCoreConnCredits && isBrokenCreditsNtf payload) :=
    if_neg hother
  have hgoes : ∀ w' : SmWorld SmHistory, w'.sm = w.sm →
      w'.io.outstanding = w.io.outstanding →
      (SmEvent.notification gid oid payload).isMalformed = false →
      H.Farewell n earlier (.notification gid oid payload) w w' := by
    intro w' hsm houtstanding hfine
    refine ⟨fun hfinishes => ?_, fun hfails => ?_, fun _ _ => h.ignore rfl hdeactivation
      (congrArg NciSm.activeTransition hsm) houtstanding (congrArg NciSm.expectingNtf hsm)
      (congrArg NciSm.ntf hsm)⟩
    · cases hfinishes with
      | notification _ hntf => cases hdeactivation.symm.trans hntf
    · cases hfails with
      | malformed hbroken => cases hfine.symm.trans hbroken
  have hfails : ∀ w', (SmEvent.notification gid oid payload).isMalformed = true →
      H.Farewell n earlier (.notification gid oid payload) w (nciSmError (H.io n) w') := by
    intro w' hbroken
    refine ⟨fun hfinishes => ?_, fun _ => endsIn_error _, fun _ hfails => ?_⟩
    · cases hfinishes with
      | notification _ hntf => cases hdeactivation.symm.trans hntf
    · exact absurd (.malformed hbroken) hfails
  rw [hhandle, nciDefaultHandleNtf]
  split
  · rename_i hcredits
    obtain ⟨rfl, rfl⟩ := hcredits
    unfold nciSmHandleConnCreditsNtf
    cases payload with
    | nil => exact hfails _ hmalformed
    | cons k entries =>
        dsimp only
        split
        · rename_i hlength
          refine hgoes ⟨_, _⟩ rfl ?_ ?_
          · exact (outstanding_addCreditEntries _ _ _).trans (outstanding_arrived w _)
          · rw [hmalformed]
            exact decide_eq_false (Nat.not_lt.mpr hlength)
        · rename_i hlength
          apply hfails
          rw [hmalformed]
          exact decide_eq_true (Nat.not_le.mp hlength)
  · rename_i hcredits
    apply hgoes (w.note (.arrived (.notification gid oid payload))) rfl (outstanding_arrived w _)
    rw [hmalformed]
    by_cases hgid : gid = nciGidCore
    · have hoid : oid ≠ nciOidCoreConnCredits := fun hoid => hcredits ⟨hgid, hoid⟩
      rw [beq_eq_false_iff_ne.mpr hoid, Bool.and_false]
      rfl
    · rw [beq_eq_false_iff_ne.mpr hgid]
      rfl

/-- What arrives while the transition waits either ends it or does not. -/
theorem SmWorld.Waits.step {earlier : List SmEvent} (h : w.Waits earlier) {e : SmEvent}
    (he : e.Arrives) :
  H.Farewell n earlier e w (H.step n w e)
  := by
  cases he with
  | response payload => exact h.step_response payload
  | notification gid oid payload =>
      by_cases hdeactivate : gid = nciGidRf ∧ oid = nciOidRfDeactivate
      · obtain ⟨rfl, rfl⟩ := hdeactivate
        exact h.step_deactivation payload
      · exact h.step_other hdeactivate payload
  | commandTimeout =>
      have hhandle : H.step n w .commandTimeout
          = if w.io.outstanding.isSome then
              nciSmError (H.io n) (H.answer n .timeout [] (w.note (.arrived .commandTimeout)))
            else w.note (.arrived .commandTimeout) := by
        rw [← outstanding_arrived w .commandTimeout]
        rfl
      have hfinishes : ¬Finishes earlier .commandTimeout := by
        rintro (_ | ⟨-, ⟨⟩⟩)
      rw [hhandle]
      cases hfirst : responded earlier with
      | true =>
          rw [(h.answered hfirst).1, if_neg (by exact Bool.false_ne_true)]
          refine ⟨fun hf => absurd hf hfinishes, fun hfails => ?_, fun _ _ =>
            h.ignore rfl rfl rfl (outstanding_arrived w _) rfl rfl⟩
          cases hfails with
          | malformed hmalformed => cases hmalformed
          | commandTimeout hfirst' => cases hfirst.symm.trans hfirst'
      | false =>
          rw [(h.unanswered hfirst).1, Option.isSome_some, if_pos rfl]
          exact ⟨fun hf => absurd hf hfinishes, fun _ => endsIn_error _,
            fun _ hfails => absurd (.commandTimeout hfirst) hfails⟩
  | transitionTimeout t =>
      have hfinishes : ¬Finishes earlier (.transitionTimeout t) := by
        rintro (_ | ⟨-, ⟨⟩⟩)
      have hhandle : H.step n w (.transitionTimeout t)
          = if w.sm.timeoutId t then
              nciSmError (H.io n) ((w.note (.arrived (.transitionTimeout t))).map fun self =>
                { self with timeoutId := Function.update self.timeoutId t false })
            else w.note (.arrived (.transitionTimeout t)) := rfl
      rw [hhandle]
      split
      · rename_i htimer
        exact ⟨fun hf => absurd hf hfinishes, fun _ => endsIn_error _,
          fun _ hfails => absurd (.transitionTimeout htimer) hfails⟩
      · rename_i htimer
        refine ⟨fun hf => absurd hf hfinishes, fun hfails => ?_, fun _ _ =>
          h.ignore rfl rfl rfl (outstanding_arrived w _) rfl rfl⟩
        cases hfails with
        | malformed hmalformed => cases hmalformed
        | transitionTimeout htimer' => exact absurd htimer' htimer

/-! ### Runs -/

/-- What arrives one after another neither finishes the transition nor lets it fail. -/
def SmHost.KeepsWaiting (H : SmHost) (n : Nat) (w : SmWorld SmHistory) (events : List SmEvent) :
    Prop :=
  ∀ earlier e later, events = earlier ++ e :: later →
    e.Arrives ∧ ¬Finishes earlier e ∧ ¬Fails (H.run n w earlier).sm earlier e

theorem SmHost.KeepsWaiting.waits {events : List SmEvent} (h : H.KeepsWaiting n w events)
    (hw : w.Waits []) :
  (H.run n w events).Waits events
  := by
  induction events using List.reverseRecOn with
  | nil => exact hw
  | append_singleton events e ih =>
      have hearlier : H.KeepsWaiting n w events := by
        rintro earlier e' later rfl
        exact h earlier e' (later ++ [e]) (by simp)
      obtain ⟨harrives, hfinishes, hfails⟩ := h events e [] rfl
      have hstep := ((ih hearlier).step (H := H) (n := n) harrives).waits hfinishes hfails
      rw [SmHost.run, List.foldl_concat]
      exact hstep

/-- Whatever has happened before the transition from RFST_LISTEN_ACTIVE to RFST_IDLE is started,
what arrives from then on alone decides how it ends. -/
theorem farewell (H : SmHost) (n : Nat) {w : SmWorld SmHistory} (hw : H.Reaches n w)
    {e₀ : SmEvent} (hbefore : w.sm.activeTransition ≠ some .listenActiveToIdle)
    (hstarted : (H.step n w e₀).sm.activeTransition = some .listenActiveToIdle)
    {events : List SmEvent} (hevents : H.KeepsWaiting n (H.step n w e₀) events)
    {e : SmEvent} (he : e.Arrives) :
  (H.run n (H.step n w e₀) events).sm.activeTransition = some .listenActiveToIdle
    ∧ H.Farewell n events e (H.run n (H.step n w e₀) events)
      (H.step n (H.run n (H.step n w e₀) events) e)
  := by
  have hfresh := H.fresh_step (n := n) hw.enteringState hbefore hstarted
  have hwaits : (H.step n w e₀).Waits [] := by
    refine ⟨hstarted, fun _ => ⟨hfresh.outstanding, hfresh.expectingNtf, ?_⟩, fun h => by cases h⟩
    rw [hfresh.ntf]
    rfl
  have hrun := hevents.waits hwaits
  exact ⟨hrun.active, hrun.step he⟩

/-- The way of a new machine to RFST_LISTEN_ACTIVE. -/
def eventsToListenActive : List SmEvent :=
  eventsToDiscovery
    ++ [.notification nciGidRf nciOidRfIntfActivated [1, 1, 4, 0x80, 0xff, 1, 0, 0x80, 0, 0, 0]]

/-- The link is lost before the controller sees the command: the transition finishes with the
response. -/
theorem farewell_lost :
  SmHost.quiet.EndsIn 0 .idle (SmHost.quiet.run 0 (SmWorld.new nciSmDefault)
    (eventsToListenActive ++ [.request (.switchTo .idle),
      .notification nciGidRf nciOidRfDeactivate [3, 2], .response [0]]))
  := by
  have hreaches : SmHost.quiet.Reaches 0
      (SmHost.quiet.run 0 (SmWorld.new nciSmDefault) eventsToListenActive) :=
    ⟨nciTechDefault, ⟨0, []⟩, ⟨0, []⟩, eventsToListenActive, rfl⟩
  have hevents : SmHost.quiet.KeepsWaiting 0 (SmHost.quiet.step 0
      (SmHost.quiet.run 0 (SmWorld.new nciSmDefault) eventsToListenActive)
      (.request (.switchTo .idle))) [.notification nciGidRf nciOidRfDeactivate [3, 2]] := by
    rintro (_ | ⟨e, _ | _⟩) e' later ⟨⟩
    refine ⟨.notification .., ?_, ?_⟩
    · rintro (_ | ⟨⟨⟩, _⟩)
    · rintro (h | _ | _ | _)
      exact absurd h (by decide)
  have hfarewell := farewell SmHost.quiet 0 hreaches (by decide) (by decide) hevents
    (SmEvent.Arrives.response [nciStatusOk])
  exact hfarewell.2.finishes (.response (by decide) (by decide))

end Nci
