import LibNciCore.Sm.Conduct

/-!
# Transitions start where they belong

A transition is registered for the states that it may start from, and the reset transition is
for all of them. While a transition is active, the next one is queued for its destination. It is
started when a state is entered, which is not always that destination: a notification may have
decided otherwise. No transition starts from a state for which it is not registered.
-/

namespace Nci

/-! ### Where transitions start -/

/-- The state in which the machine is: the one that has just been entered, or the last one. -/
def NciSm.place (self : NciSm) : Option NciState :=
  if self.enteringState = 0 then some self.lastState else self.activeState

/-- A transition other than the reset transition is registered for the state in which the machine
is when its first command is sent. -/
def SmAction.Belongs : SmAction → Prop
  | .sent _ _ _ resp _ sm =>
      ∀ t, resp.starts = some t → t ≠ .reset →
        ∃ state, sm.place = some state ∧ t ∈ nciSmTransitions state
  | .arrived _ | .cancelled | .answered .. | .sar _ | .signal .. | .intfActivated _ => True

/-- The next transition is registered for the destination of the active one, or for the state
that is being entered, unless it leads there. After an error it may be left over. -/
structure SmWorld.Belongs (w : SmWorld SmHistory) : Prop where
  queued : w.sm.enteringState = 0 → ∀ t, w.sm.nextTransition = some t →
    (∃ u, w.sm.activeTransition = some u ∧ t ∈ nciSmTransitions u.dest)
      ∨ (w.sm.activeTransition = none ∧ w.sm.lastState.leads = [])
  entering : w.sm.enteringState ≠ 0 → ∀ t, w.sm.nextTransition = some t →
    ∃ state, w.sm.activeState = some state ∧ (t.dest = state ∨ t ∈ nciSmTransitions state)
  history : ∀ a ∈ w.io, a.Belongs

variable {H : SmHost} {w w' : SmWorld SmHistory}

/-! ### Moves -/

theorem SmAction.belongs_of_isPlain {a : SmAction} (h : a.isPlain = true) :
  a.Belongs
  := by
  cases a
  case sent =>
    intro t ht
    cases (Option.isNone_iff_eq_none.mp h).symm.trans ht
  all_goals trivial

/-- The machine goes on without a next transition. -/
theorem SmWorld.Belongs.unfollowed {sm : NciSm} {new : List SmAction} (h : w.Belongs)
    (hnext : sm.nextTransition = none) (hnew : ∀ a ∈ new, a.Belongs) :
  SmWorld.Belongs ⟨sm, w.io ++ new⟩
  := by
  refine ⟨fun _ t ht => ?_, fun _ t ht => ?_, fun a ha => ?_⟩
  · cases hnext.symm.trans ht
  · cases hnext.symm.trans ht
  · obtain ha | ha := List.mem_append.mp ha
    · exact h.history a ha
    · exact hnew a ha

/-- A response takes the machine to the destination of the transition, or else to RFST_IDLE after
RFST_DISCOVERY could not be reached. -/
theorem NciSmResponseFunc.dest_outcome {resp : NciSmResponseFunc} {payload : List UInt8}
    {self : NciSm} {t : NciTransition} (hresp : resp.transition = some t) {state : NciState}
    (h : resp.outcome payload self = .enter state) :
  state = t.dest ∨ (t = .deactivateToDiscovery ∧ state = .idle)
  := by
  have hrouting : configureRoutingOutcome self ≠ .enter state := by
    rw [configureRoutingOutcome]
    split_ifs <;> rintro ⟨⟩
  cases resp <;> cases hresp
  case resetRsp =>
    rw [outcome, resetOutcome] at h
    split_ifs at h
  case resetInitV1Rsp =>
    rw [outcome] at h
    cases hparsed : parseInitV1Rsp payload <;> rw [hparsed] at h <;> cases h
  case resetInitV2Rsp =>
    rw [outcome] at h
    cases hparsed : parseInitV2Rsp payload <;> rw [hparsed] at h <;> cases h
  case idleToDiscoveryGetConfigRsp =>
    rw [outcome, getConfigOutcome] at h
    split at h
    · cases h
    · exact absurd h hrouting
  case idleToDiscoverySetConfigRsp => exact absurd h hrouting
  case deactivateToDiscoveryIdleRsp =>
    rw [outcome] at h
    split_ifs at h
    cases h
    exact Or.inr ⟨rfl, rfl⟩
  all_goals
    rw [outcome] at h
    try split_ifs at h
    all_goals cases h <;> exact Or.inl rfl

/-- What is queued for RFST_IDLE leads to RFST_DISCOVERY and the other way round. -/
theorem dest_of_mem_transitions {t : NciTransition} {state other : NciState}
    (h : t ∈ nciSmTransitions state) (hstate : state = .idle ∨ state = .discovery)
    (hother : other = .idle ∨ other = .discovery) (hne : other ≠ state) :
  t.dest = other
  := by
  obtain rfl | rfl := hstate
  · obtain rfl | rfl := hother
    · exact absurd rfl hne
    · cases List.mem_singleton.mp h
      rfl
  · obtain rfl | rfl := hother
    · cases List.mem_singleton.mp h
      rfl
    · exact absurd rfl hne

theorem NciTransition.dest_cases (t : NciTransition) :
  t.dest = .idle ∨ t.dest = .discovery
  := by cases t <;> decide

/-- The next transition is registered for the state that is entered, unless it leads there. -/
theorem SmWorld.Belongs.enterable (h : w.Belongs) {state : NciState} (henter : w.Enterable state)
    {t : NciTransition} (ht : w.sm.nextTransition = some t) :
  t.dest = state ∨ t ∈ nciSmTransitions state
  := by
  have hactive : ∀ {u}, w.sm.enteringState = 0 → w.sm.activeTransition = some u →
      t ∈ nciSmTransitions u.dest := by
    intro u hentering hu
    obtain ⟨u', hu', hmem⟩ | ⟨hnone, -⟩ := h.queued hentering t ht
    · cases hu.symm.trans hu'
      exact hmem
    · cases hu.symm.trans hnone
  -- A notification may name another state than the destination of the transition.
  have hother : ∀ {u}, w.sm.enteringState = 0 → w.sm.activeTransition = some u →
      state = .idle ∨ state = .discovery → t.dest = state ∨ t ∈ nciSmTransitions state := by
    intro u hentering hu hstate
    by_cases hdest : state = u.dest
    · rw [hdest]
      exact Or.inr (hactive hentering hu)
    · exact Or.inl (dest_of_mem_transitions (hactive hentering hu) u.dest_cases hstate hdest)
  cases henter with
  | internal hinternal hnext => cases hnext.symm.trans ht
  | answered hentering hanswering houtcome =>
      obtain ⟨u, hresp, hu⟩ := hanswering.active
      apply hother hentering hu
      obtain rfl | ⟨-, rfl⟩ := NciSmResponseFunc.dest_outcome hresp houtcome
      · exact u.dest_cases
      · exact Or.inl rfl
  | deactivated hentering hu hcase hstate => exact hother hentering hu hstate
  | matched hentering hu => exact hother hentering hu (Or.inl rfl)
  | notified hentering hnone hleads =>
      obtain ⟨u, hu, -⟩ | ⟨-, hleads'⟩ := h.queued hentering t ht
      · cases hnone.symm.trans hu
      · rw [hleads'] at hleads
        cases hleads
  | nested hnone hentering hstate =>
      obtain ⟨state, hactive, hmem⟩ := h.entering hentering t ht
      cases hstate.symm.trans hactive
      obtain hdest | hmem := hmem
      · obtain hdest' | hdest' := t.dest_cases <;> cases hdest'.symm.trans hdest
      · exact Or.inr hmem

/-- The first command of a transition. -/
theorem belongs_firstCommand {t : NciTransition} {sm : NciSm}
    (h : t = .reset ∨ ∃ state, sm.place = some state ∧ t ∈ nciSmTransitions state) (ok : Bool) :
  (t.firstCommand ok sm).Belongs
  := by
  have hstarts : ∀ {u}, (some t : Option NciTransition) = some u → u ≠ .reset →
      ∃ state, sm.place = some state ∧ u ∈ nciSmTransitions state := by
    rintro u ⟨⟩ hreset
    exact h.resolve_left hreset
  cases t <;> exact fun u => hstarts

theorem place_starting (t : NciTransition) (timeout : Bool) (self : NciSm) :
  (t.starting timeout self).place = self.place
  := by
  obtain ⟨_, _, _, h⟩ := t.starting_eq timeout self
  rw [h]
  split <;> rfl

/-- A transition is started where it belongs, and what follows is not queued. -/
theorem SmWorld.Belongs.started (h : w.Belongs) (self : NciSm) {t : NciTransition} {sm : NciSm}
    (hplace : self.place = w.sm.place)
    (ht : t = .reset ∨ ∃ state, w.sm.place = some state ∧ t ∈ nciSmTransitions state)
    (timeout ok : Bool) (hnext : sm.nextTransition = none) :
  SmWorld.Belongs ⟨sm, w.io ++ [t.firstCommand ok (t.starting timeout self)]⟩
  := by
  apply h.unfollowed hnext
  intro a ha
  rw [List.mem_singleton.mp ha]
  apply belongs_firstCommand
  rw [place_starting, hplace]
  exact ht

theorem SmTurn.belongs (hturn : SmTurn w w') (h : w.Belongs) :
  w'.Belongs
  := by
  cases hturn with
  | enter henter =>
      rename_i state
      obtain ⟨_, _, _, _, _, hentering⟩ := nciSmEntering_eq state w.sm
      refine ⟨fun hdepth => ?_, fun _ t ht => ?_, h.history⟩
      · rw [SmWorld.map_sm, hentering] at hdepth
        cases hdepth
      · rw [SmWorld.map_sm, hentering] at ht ⊢
        exact ⟨state, rfl, h.enterable henter ht⟩
  | follow hentering hstate hactive hnext hdest timeout ok =>
      rename_i state t
      obtain ⟨state', hstate', hmem⟩ := h.entering hentering t hnext
      cases hstate.symm.trans hstate'
      have hplace : w.sm.place = some state := by
        rw [NciSm.place, if_neg hentering, hstate]
      have hunfollowed := (w.map fun self => { self with nextTransition := none }).started_frame t
        timeout ok
      obtain ⟨_, hend, -⟩ := nciSmEndEntering_eq state ((w.map fun self =>
        { self with nextTransition := none }).started t timeout ok).sm
      have hnone := (congrArg NciSm.nextTransition hend).trans hunfollowed.2.1
      exact h.started { w.sm with nextTransition := none } rfl
        (Or.inr ⟨state, hplace, hmem.resolve_left hdest⟩) timeout ok hnone
  | forget =>
      refine ⟨?_, ?_, h.history⟩
      · rintro - t ⟨⟩
      · rintro - t ⟨⟩
  | leave hentering hnext state _ =>
      obtain ⟨_, hend, -⟩ := nciSmEndEntering_eq state w.sm
      have hnone : (nciSmEndEntering state w.sm).nextTransition = none := by
        rw [hend]
        exact hnext
      refine ⟨fun _ t ht => ?_, fun _ t ht => ?_, h.history⟩
      · cases hnone.symm.trans ht
      · cases hnone.symm.trans ht
  | stall version expectingNtf hnext type =>
      obtain ⟨_, _, _, _, _, _, hstalled, -⟩ := nciSmStalled_eq type.state
        { w.sm with version := version, expectingNtf := expectingNtf }
      have hleads : type.state.leads = [] := by cases type <;> rfl
      refine ⟨fun _ t _ => Or.inr ?_, fun hdepth t ht => ?_, fun a ha => ?_⟩
      · rw [hstalled]
        exact ⟨rfl, hleads⟩
      · rw [hstalled] at hdepth ht
        obtain hzero | hnone := hnext
        · exact absurd hzero hdepth
        · cases hnone.symm.trans ht
      · obtain ha | ha := List.mem_append.mp ha
        · exact h.history a ha
        · rw [List.mem_singleton.mp ha]
          trivial
  | start hactive hnext ht timeout ok _ =>
      refine h.started w.sm rfl (ht.imp_right fun ⟨hentering, hmem⟩ => ⟨_, ?_, hmem⟩) timeout ok
        ((w.started_frame _ timeout ok).2.1.trans hnext)
      rw [NciSm.place, if_pos hentering]
  | abandon hentering hactive ht timeout =>
      rename_i t
      obtain ⟨_, _, _, _, _, _, hstalled, -⟩ := nciSmStalled_eq .error
        { (w.started t timeout true).sm with nextTransition := none }
      have hplace : w.sm.place = some w.sm.lastState := if_pos hentering
      have hstarted : SmWorld.Belongs
          ⟨nciSmStalled .error { (w.started t timeout true).sm with nextTransition := none },
            w.io ++ [t.firstCommand true (t.starting timeout w.sm)]⟩ :=
        h.started w.sm rfl (ht.imp_right fun hmem => ⟨_, hplace, hmem⟩) timeout true
          (congrArg NciSm.nextTransition hstalled)
      apply hstarted.unfollowed (congrArg NciSm.nextTransition hstalled)
      intro a ha
      rw [List.mem_singleton.mp ha]
      trivial
  | queue hentering hactive ht' next =>
      rename_i u t
      obtain ⟨_, hset, -⟩ := nciSmSetNextState_eq next { w.sm with nextTransition := some t }
      refine ⟨fun _ t' ht => Or.inl ?_, fun hdepth => ?_, h.history⟩
      · rw [SmWorld.map_sm, hset] at ht ⊢
        cases ht
        exact ⟨u, hactive, ht'⟩
      · rw [SmWorld.map_sm, hset] at hdepth
        exact absurd hentering hdepth
  | aim hactive next =>
      obtain ⟨_, hset, -⟩ := nciSmSetNextState_eq next w.sm
      refine ⟨fun hdepth t ht => ?_, fun hdepth t ht => ?_, h.history⟩
      · rw [SmWorld.map_sm, hset] at hdepth ht ⊢
        exact h.queued hdepth t ht
      · rw [SmWorld.map_sm, hset] at hdepth ht ⊢
        exact h.entering hdepth t ht
  | emit hpending =>
      refine ⟨h.queued, h.entering, fun a ha => ?_⟩
      obtain ha | ha := List.mem_append.mp ha
      · exact h.history a ha
      · rw [List.mem_singleton.mp ha]
        trivial

/-- Every move keeps transitions where they belong. -/
theorem SmMove.belongs (hmove : SmMove H w w') (h : w.Belongs) :
  w'.Belongs
  := by
  obtain hturn | ⟨hsame, new, hnew, hplain⟩ := hmove.course
  · exact hturn.belongs h
  · refine ⟨?_, ?_, fun a ha => ?_⟩
    · rw [hsame.enteringState, hsame.nextTransition, hsame.activeTransition, hsame.lastState]
      exact h.queued
    · rw [hsame.enteringState, hsame.nextTransition, hsame.activeState]
      exact h.entering
    · rw [hnew] at ha
      obtain ha | ha := List.mem_append.mp ha
      · exact h.history a ha
      · exact SmAction.belongs_of_isPlain (hplain a ha)

/-! ### Runs -/

theorem belongs_new (techs : UInt32) (laNfcid1 : NciNfcid1) (liAHb : NciAtsHb) :
  (SmWorld.new (nciSmNew techs laNfcid1 liAHb)).Belongs
  := by
  refine ⟨?_, ?_, ?_⟩
  · rintro - t ⟨⟩
  · rintro - t ⟨⟩
  · rintro a ⟨⟩

/-- In every run, transitions are started only in states for which they are registered. -/
theorem SmHost.Reaches.belongs {n : Nat} (h : H.Reaches n w) :
  w.Belongs
  := by
  apply h.keeps (fun _ _ hmove => hmove.belongs) ?_ belongs_new
  rintro w e ⟨hqueued, hentering, hhistory⟩
  refine ⟨hqueued, hentering, fun a ha => ?_⟩
  obtain ha | ha := List.mem_append.mp ha
  · exact hhistory a ha
  · rw [List.mem_singleton.mp ha]
    trivial

/-- Whatever happens to a new machine, a transition other than the reset transition is started
only in a state for which it is registered. -/
theorem startsWhereRegistered (H : SmHost) (n : Nat) (techs : UInt32) (laNfcid1 : NciNfcid1)
    (liAHb : NciAtsHb) (events : List SmEvent) :
  ∀ a ∈ (H.run n (SmWorld.new (nciSmNew techs laNfcid1 liAHb)) events).io, a.Belongs
  := by
  have hreaches : H.Reaches n (H.run n (SmWorld.new (nciSmNew techs laNfcid1 liAHb)) events) :=
    ⟨techs, laNfcid1, liAHb, events, rfl⟩
  exact hreaches.belongs.history

/-- On the way to RFST_DISCOVERY, the fifteenth action starts the transition from RFST_IDLE. -/
theorem startsWhereRegistered_discovering :
  ((SmHost.quiet.run 0 (SmWorld.new nciSmDefault) eventsToDiscovery).io.get
    ⟨14, by decide⟩).Belongs
  := startsWhereRegistered SmHost.quiet 0 nciTechDefault ⟨0, []⟩ ⟨0, []⟩ eventsToDiscovery _
    (List.get_mem ..)

end Nci
