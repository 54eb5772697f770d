import LibNciCore.Sm.Conduct

/-!
# Published states

The core publishes the last and the next state of its machine. It hears of them from the signals
of the machine, which are queued when a state changes and emitted later, possibly while others
are still pending. Between two events nothing is pending, so that what is published is the state
of the machine. If the two differ, a transition is active.
-/

namespace Nci

/-! ### What the core publishes -/

/-- The states that the core publishes, by their identifiers. -/
structure NciCoreStates where
  currentState : Nat
  nextState : Nat
  deriving DecidableEq, Repr

/-- The states that a new core takes over from its machine. -/
def nciCoreNewStates (sm : NciSm) : NciCoreStates := ⟨sm.lastState.id, sm.nextState.id⟩

def nciCoreLastStateChanged (sm : NciSm) (core : NciCoreStates) : NciCoreStates :=
  { core with currentState := sm.lastState.id }

def nciCoreNextStateChanged (sm : NciSm) (core : NciCoreStates) : NciCoreStates :=
  { core with nextState := sm.nextState.id }

/-- What the core publishes after another action. Only signals matter. -/
def SmAction.publish (core : NciCoreStates) : SmAction → NciCoreStates
  | .signal .lastState sm => nciCoreLastStateChanged sm core
  | .signal .nextState sm => nciCoreNextStateChanged sm core
  | .arrived _ | .sent .. | .cancelled | .answered .. | .sar _ | .intfActivated _ => core

/-- What the core publishes, beginning with what it has published before. -/
def SmHistory.published (core : NciCoreStates) (history : SmHistory) : NciCoreStates :=
  history.foldl SmAction.publish core

variable {core : NciCoreStates} {history : SmHistory}

@[simp]
theorem SmHistory.published_append (core : NciCoreStates) (history : SmHistory) (a : SmAction) :
  SmHistory.published core (history ++ [a]) = a.publish (history.published core)
  := List.foldl_concat ..

/-- Nothing is published by actions that are not signals. -/
theorem SmHistory.published_plain {new : List SmAction} (h : ∀ a ∈ new, a.isPlain = true) :
  SmHistory.published core (history ++ new) = history.published core
  := by
  induction new generalizing history with
  | nil => rw [List.append_nil]
  | cons a new ih =>
      have ha : a.publish (history.published core) = history.published core := by
        have hplain := h a List.mem_cons_self
        cases a
        case signal => cases hplain
        all_goals rfl
      rw [List.append_cons, ih fun a ha => h a (List.mem_cons_of_mem _ ha), published_append, ha]

theorem SmHistory.published_firstCommand (core : NciCoreStates) (history : SmHistory)
    (t : NciTransition) (ok : Bool) (sm : NciSm) :
  SmHistory.published core (history ++ [t.firstCommand ok sm]) = history.published core
  := by
  rw [published_append]
  cases t <;> rfl

/-! ### Moves -/

/-- A state is published, or the signal that tells of it is pending. Unless a transition is
active, the machine rests when no state is being entered. -/
structure SmWorld.Publishes (core : NciCoreStates) (w : SmWorld SmHistory) : Prop where
  current : w.sm.pendingSignals .lastState = true
    ∨ (w.io.published core).currentState = w.sm.lastState.id
  next : w.sm.pendingSignals .nextState = true
    ∨ (w.io.published core).nextState = w.sm.nextState.id
  rests : w.sm.enteringState = 0 → w.sm.activeTransition = none →
    w.sm.lastState = w.sm.nextState

variable {H : SmHost} {w w' : SmWorld SmHistory}

/-- A signal tells of a state that has changed. -/
theorem Queued.told {sig : NciSmSignal} {state old : NciState} {changed : Prop} {published : Nat}
    {before after : NciSmSignal → Bool} (h : Queued sig changed before after)
    (hchanged : old ≠ state → changed) (hbefore : before sig = true ∨ published = old.id) :
  after sig = true ∨ published = state.id
  := by
  obtain hbefore | hbefore := hbefore
  · exact Or.inl (h.kept sig hbefore)
  · by_cases hne : old = state
    · rw [← hne]
      exact Or.inr hbefore
    · exact Or.inl (h.queued (hchanged hne))

theorem Queued.keeps {sig sig' : NciSmSignal} {changed : Prop} {published id : Nat}
    {before after : NciSmSignal → Bool} (h : Queued sig changed before after)
    (hbefore : before sig' = true ∨ published = id) :
  after sig' = true ∨ published = id
  := hbefore.imp_left (h.kept sig')

/-- A transition is started, or its command is not accepted. -/
theorem SmWorld.Publishes.started (h : w.Publishes core) (t : NciTransition) (timeout ok : Bool)
    (hrests : w.sm.enteringState ≠ 0 ∨ w.sm.activeTransition = none) :
  (w.started t timeout ok).Publishes core
  := by
  obtain ⟨hdepth, -, hpending, hlast, hnext⟩ := w.started_frame t timeout ok
  have hpublished := SmHistory.published_firstCommand core w.io t ok (t.starting timeout w.sm)
  refine ⟨?_, ?_, fun hzero _ => ?_⟩
  · rw [hpending, hlast]
    exact h.current.imp_right (congrArg NciCoreStates.currentState hpublished).trans
  · rw [hpending, hnext]
    exact h.next.imp_right (congrArg NciCoreStates.nextState hpublished).trans
  · rw [hlast, hnext]
    have hentering := hdepth.symm.trans hzero
    exact h.rests hentering (hrests.resolve_left fun hne => hne hentering)

/-- A state has been entered. -/
theorem SmWorld.Publishes.leave (h : w.Publishes core) (state : NciState) :
  (w.map (nciSmEndEntering state)).Publishes core
  := by
  obtain ⟨_, hend, hlast, hnext⟩ := nciSmEndEntering_eq state w.sm
  refine ⟨?_, ?_, fun _ hactive => ?_⟩
  · rw [SmWorld.map_sm, hend]
    exact hlast.told id h.current
  · rw [SmWorld.map_sm, hend]
    dsimp only
    split
    · rename_i hnone
      exact hnext.told (fun hne => ⟨hnone, hne⟩) h.next
    · exact hnext.keeps h.next
  · rw [SmWorld.map_sm, hend] at hactive ⊢
    exact (if_pos hactive).symm

/-- The machine stalls. -/
theorem SmWorld.Publishes.stall (h : w.Publishes core) (state : NciState) :
  SmWorld.Publishes core ⟨nciSmStalled state w.sm, w.io ++ [.cancelled]⟩
  := by
  obtain ⟨_, _, _, _, _, _, hstalled, hlast, hnext⟩ := nciSmStalled_eq state w.sm
  have hpublished : SmHistory.published core (w.io ++ [.cancelled]) = w.io.published core :=
    SmHistory.published_append ..
  refine ⟨?_, ?_, fun _ _ => ?_⟩
  · rw [hstalled, hpublished]
    exact hlast.told id h.current
  · rw [hstalled, hpublished]
    exact hnext.told id h.next
  · rw [hstalled]

theorem SmTurn.publishes (hturn : SmTurn w w') (h : w.Publishes core) :
  w'.Publishes core
  := by
  cases hturn with
  | enter henter =>
      rename_i state
      obtain ⟨_, _, _, _, _, hentering⟩ := nciSmEntering_eq state w.sm
      refine ⟨?_, ?_, fun hdepth => ?_⟩
      · rw [SmWorld.map_sm, hentering]
        exact h.current
      · rw [SmWorld.map_sm, hentering]
        exact h.next
      · rw [SmWorld.map_sm, hentering] at hdepth
        cases hdepth
  | follow hentering _ _ _ _ timeout ok =>
      have hforget : (w.map fun self => { self with nextTransition := none }).Publishes core :=
        ⟨h.current, h.next, h.rests⟩
      exact (hforget.started _ timeout ok (Or.inl hentering)).leave _
  | forget => exact ⟨h.current, h.next, h.rests⟩
  | leave _ _ state _ => exact h.leave state
  | stall version expectingNtf _ type =>
      have hset : (w.map fun self =>
          { self with version := version, expectingNtf := expectingNtf }).Publishes core :=
        ⟨h.current, h.next, h.rests⟩
      exact hset.stall type.state
  | start hactive _ _ timeout ok _ => exact h.started _ timeout ok (Or.inr hactive)
  | @abandon t _ hactive _ timeout =>
      have hstarted := h.started t timeout true (Or.inr hactive)
      exact SmWorld.Publishes.stall (w := (w.started t timeout true).map fun self =>
        { self with nextTransition := none })
        ⟨hstarted.current, hstarted.next, hstarted.rests⟩ .error
  | queue hentering hactive ht' next =>
      rename_i u t
      obtain ⟨_, hset, hqueued⟩ := nciSmSetNextState_eq next { w.sm with nextTransition := some t }
      refine ⟨?_, ?_, fun _ hnone => ?_⟩
      · rw [SmWorld.map_sm, hset]
        exact hqueued.keeps h.current
      · rw [SmWorld.map_sm, hset]
        exact hqueued.told id h.next
      · rw [SmWorld.map_sm, hset] at hnone
        cases hactive.symm.trans hnone
  | aim hactive next =>
      obtain ⟨_, hset, hqueued⟩ := nciSmSetNextState_eq next w.sm
      refine ⟨?_, ?_, fun _ hnone => ?_⟩
      · rw [SmWorld.map_sm, hset]
        exact hqueued.keeps h.current
      · rw [SmWorld.map_sm, hset]
        exact hqueued.told id h.next
      · rw [SmWorld.map_sm, hset] at hnone
        cases hactive.symm.trans hnone
  | emit hpending =>
      rename_i sig
      have hother : ∀ {sig' : NciSmSignal} {P : Prop}, sig' ≠ sig →
          w.sm.pendingSignals sig' = true ∨ P →
          Function.update w.sm.pendingSignals sig false sig' = true ∨ P := by
        intro sig' P hne hP
        rw [Function.update_of_ne hne]
        exact hP
      cases sig with
      | lastState =>
          refine ⟨Or.inr ?_, ?_, h.rests⟩
          · rw [SmWorld.note_io, SmHistory.published_append]
            rfl
          · rw [SmWorld.note_io, SmHistory.published_append]
            exact hother (by decide) h.next
      | nextState =>
          refine ⟨?_, Or.inr ?_, h.rests⟩
          · rw [SmWorld.note_io, SmHistory.published_append]
            exact hother (by decide) h.current
          · rw [SmWorld.note_io, SmHistory.published_append]
            rfl

/-- Every move keeps what is published up to date. -/
theorem SmMove.publishes (hmove : SmMove H w w') (h : w.Publishes core) :
  w'.Publishes core
  := by
  obtain hturn | ⟨hsame, new, hnew, hplain⟩ := hmove.course
  · exact hturn.publishes h
  · have hpublished : w'.io.published core = w.io.published core := by
      rw [hnew]
      exact SmHistory.published_plain hplain
    refine ⟨?_, ?_, ?_⟩
    · rw [hsame.pendingSignals, hsame.lastState, hpublished]
      exact h.current
    · rw [hsame.pendingSignals, hsame.nextState, hpublished]
      exact h.next
    · rw [hsame.enteringState, hsame.activeTransition, hsame.lastState, hsame.nextState]
      exact h.rests

/-! ### Where transitions lead -/

/-- The active transition leads away from the last state. -/
def SmWorld.LeadsAway (w : SmWorld SmHistory) : Prop :=
  ∀ t, w.sm.activeTransition = some t → t.dest ≠ w.sm.lastState

/-- A transition leads away from the states that it is registered for. -/
theorem dest_ne_of_mem {t : NciTransition} {state : NciState} (h : t ∈ nciSmTransitions state) :
  t.dest ≠ state
  := by
  cases state
  case pollActive => cases t <;> decide
  case listenActive => cases t <;> decide
  all_goals simp only [nciSmTransitions, List.mem_singleton, List.not_mem_nil] at h
  all_goals
    subst h
    decide

/-- A transition that is started leads away from the last state. -/
theorem leadsAway_started {t : NciTransition} {timeout ok : Bool}
    (h : ok = true → t.dest ≠ w.sm.lastState) :
  (w.started t timeout ok).LeadsAway
  := by
  intro t' ht'
  cases ok with
  | true =>
      rw [activeTransition_started] at ht'
      cases ht'
      rw [(w.started_frame t timeout true).2.2.2.1]
      exact h rfl
  | false =>
      obtain ⟨_, _, _, hrefused⟩ := w.started_refused t timeout
      rw [hrefused] at ht'
      cases ht'

/-- The machine stays where it is. -/
theorem SmWorld.LeadsAway.frame (h : w.LeadsAway)
    (hactive : w'.sm.activeTransition = w.sm.activeTransition)
    (hlast : w'.sm.lastState = w.sm.lastState) :
  w'.LeadsAway
  := by
  rw [LeadsAway, hactive, hlast]
  exact h

/-- No transition is active. -/
theorem SmWorld.leadsAway_none (h : w.sm.activeTransition = none) :
  w.LeadsAway
  := fun _ ht => by cases h.symm.trans ht

theorem SmTurn.leadsAway (hturn : SmTurn w w') (hpublishes : w.Publishes core)
    (h : w.LeadsAway) :
  w'.LeadsAway
  := by
  cases hturn with
  | @enter state henter =>
      obtain ⟨_, _, _, _, _, hentering⟩ := nciSmEntering_eq state w.sm
      exact SmWorld.leadsAway_none (congrArg NciSm.activeTransition hentering)
  | @follow state t _ _ _ _ hdest timeout ok =>
      obtain ⟨_, hend, -⟩ := nciSmEndEntering_eq state ((w.map fun self =>
        { self with nextTransition := none }).started t timeout ok).sm
      intro t' ht'
      rw [SmWorld.map_sm, hend] at ht' ⊢
      cases ok with
      | true =>
          cases (activeTransition_started t timeout _).symm.trans ht'
          exact hdest
      | false =>
          obtain ⟨_, _, _, hrefused⟩ := SmWorld.started_refused t timeout (w.map fun self =>
            { self with nextTransition := none })
          cases (congrArg NciSm.activeTransition hrefused).symm.trans ht'
  | forget => exact h
  | leave _ _ state hactive =>
      obtain ⟨_, hend, -⟩ := nciSmEndEntering_eq state w.sm
      obtain hactive | rfl := hactive
      · exact SmWorld.leadsAway_none ((congrArg NciSm.activeTransition hend).trans hactive)
      · intro t _
        have hdest : t.dest ≠ .w4AllDiscoveries := by cases t <;> decide
        rw [SmWorld.map_sm, hend]
        exact hdest
  | stall version expectingNtf _ type =>
      obtain ⟨_, _, _, _, _, _, hstalled, -⟩ := nciSmStalled_eq type.state
        { w.sm with version := version, expectingNtf := expectingNtf }
      exact SmWorld.leadsAway_none (congrArg NciSm.activeTransition hstalled)
  | @start t hactive _ ht timeout ok hreset =>
      apply leadsAway_started
      intro hok
      obtain rfl | ⟨-, hmem⟩ := ht
      · obtain hlast | ⟨hentering, hnext⟩ := hreset hok rfl
        · exact hlast.symm
        · exact absurd (hpublishes.rests hentering hactive).symm hnext
      · exact dest_ne_of_mem hmem
  | @abandon t _ _ _ timeout =>
      obtain ⟨_, _, _, _, _, _, hstalled, -⟩ := nciSmStalled_eq .error
        { (w.started t timeout true).sm with nextTransition := none }
      exact SmWorld.leadsAway_none (congrArg NciSm.activeTransition hstalled)
  | @queue t t' _ _ _ next =>
      obtain ⟨_, hset, -⟩ := nciSmSetNextState_eq next { w.sm with nextTransition := some t' }
      have hactive := congrArg NciSm.activeTransition hset
      have hlast := congrArg NciSm.lastState hset
      exact h.frame hactive hlast
  | aim _ next =>
      obtain ⟨_, hset, -⟩ := nciSmSetNextState_eq next w.sm
      have hactive := congrArg NciSm.activeTransition hset
      have hlast := congrArg NciSm.lastState hset
      exact h.frame hactive hlast
  | emit _ => exact h.frame rfl rfl

/-- Every move leaves the active transition leading away. -/
theorem SmMove.leadsAway (hmove : SmMove H w w') (hpublishes : w.Publishes core)
    (h : w.LeadsAway) :
  w'.LeadsAway
  := by
  obtain hturn | ⟨hsame, -⟩ := hmove.course
  · exact hturn.leadsAway hpublishes h
  · exact h.frame hsame.activeTransition hsame.lastState

/-! ### Runs -/

theorem SmWorld.Publishes.arrived (h : w.Publishes core) (e : SmEvent) :
  (w.note (.arrived e)).Publishes core
  := by
  have hpublished : SmHistory.published core (w.io ++ [.arrived e]) = w.io.published core :=
    SmHistory.published_append ..
  exact ⟨hpublished ▸ h.current, hpublished ▸ h.next, h.rests⟩

/-- The core and its machine are new. -/
theorem publishes_new (techs : UInt32) (laNfcid1 : NciNfcid1) (liAHb : NciAtsHb) :
  (SmWorld.new (nciSmNew techs laNfcid1 liAHb)).Publishes ⟨0, 0⟩
  := ⟨Or.inr rfl, Or.inr rfl, fun _ _ => rfl⟩

/-- In every run, the active transition leads away from the last state. -/
theorem SmHost.Reaches.leadsAway {n : Nat} (h : H.Reaches n w) :
  w.LeadsAway
  := by
  have hboth := h.keeps (I := fun w => w.Publishes ⟨0, 0⟩ ∧ w.LeadsAway)
    (fun _ _ hmove hw => ⟨hmove.publishes hw.1, hmove.leadsAway hw.1 hw.2⟩)
    (fun _ e hw => ⟨hw.1.arrived e, hw.2.frame rfl rfl⟩)
    (fun _ _ _ => ⟨publishes_new .., SmWorld.leadsAway_none rfl⟩)
  exact hboth.2

/-- The core publishes the states of its machine, no signal is pending, and if the two states
differ, then a transition is active. -/
structure SmWorld.Published (core : NciCoreStates) (w : SmWorld SmHistory) : Prop where
  emitted : ∀ sig, w.sm.pendingSignals sig = false
  currentState : (w.io.published core).currentState = w.sm.lastState.id
  nextState : (w.io.published core).nextState = w.sm.nextState.id
  transitioning : (w.io.published core).currentState ≠ (w.io.published core).nextState →
    w.sm.activeTransition.isSome

/-- Whatever happens to a new machine, between two events the core publishes its states. -/
theorem publishedStates (H : SmHost) (n : Nat) (techs : UInt32) (laNfcid1 : NciNfcid1)
    (liAHb : NciAtsHb) (events : List SmEvent) :
  (H.run n (SmWorld.new (nciSmNew techs laNfcid1 liAHb)) events).Published
    (nciCoreNewStates (nciSmNew techs laNfcid1 liAHb))
  := by
  have hreaches : H.Reaches n (H.run n (SmWorld.new (nciSmNew techs laNfcid1 liAHb)) events) :=
    ⟨techs, laNfcid1, liAHb, events, rfl⟩
  have hpublishes := hreaches.keeps (I := SmWorld.Publishes ⟨0, 0⟩)
    (fun _ _ hmove => hmove.publishes) (fun _ e hw => hw.arrived e) publishes_new
  have hemitted := hreaches.pendingSignals
  have hentering := hreaches.enteringState
  generalize H.run n (SmWorld.new (nciSmNew techs laNfcid1 liAHb)) events = w
    at hpublishes hemitted hentering
  have hcurrent : (w.io.published ⟨0, 0⟩).currentState = w.sm.lastState.id :=
    hpublishes.current.resolve_left (by rw [hemitted]; exact Bool.false_ne_true)
  have hnext : (w.io.published ⟨0, 0⟩).nextState = w.sm.nextState.id :=
    hpublishes.next.resolve_left (by rw [hemitted]; exact Bool.false_ne_true)
  refine ⟨hemitted, hcurrent, hnext, fun hne => ?_⟩
  rw [Option.isSome_iff_ne_none]
  intro hnone
  apply hne
  exact hcurrent.trans ((congrArg NciState.id (hpublishes.rests hentering hnone)).trans hnext.symm)

end Nci
