import LibNciCore.Sm.Calm

/-!
# The configuration of the controller

What the controller is told during the transition from RFST_IDLE to RFST_DISCOVERY depends on
the mode and the technologies of the machine. If they change, the machine goes back to RFST_IDLE
to configure the controller again. So in RFST_DISCOVERY the configuration should be the current
one. It is, unless RFST_DISCOVERY is requested during that transition after it has been decided
to go back.
-/

namespace Nci

/-! ### Where the machine is -/

namespace SmControl

/-- The stages of a run in which only RFST_IDLE and RFST_DISCOVERY are requested: the machine
rests, is about to reach RFST_IDLE, or is about to reach RFST_DISCOVERY, which it may have to
leave then. -/
inductive Stage (c : SmControl) : Prop
  | resting (state : NciState) (hstate : state ∈ [.init, .error, .idle, .discovery])
      (hactive : c.activeTransition = none) (hlast : c.lastState = state)
      (hnext : c.nextState = state)
  | toIdle (t : NciTransition) (ht : t ∈ [.reset, .deactivateToIdle])
      (hactive : c.activeTransition = some t)
      (hfollow : c.nextTransition = none
        ∨ c.nextTransition = some .idleToDiscovery ∧ c.nextState = .discovery)
  | applying (hactive : c.activeTransition = some .idleToDiscovery)
      (hfollow : c.nextTransition = none) (hnext : c.nextState = .discovery)
  | leaving (hactive : c.activeTransition = some .idleToDiscovery)
      (hfollow : c.nextTransition = some .deactivateToIdle) (hnext : c.nextState = .idle)

/-- The configuration is the one with which the machine rests in RFST_DISCOVERY, or is going to. -/
def Relies (c : SmControl) : Prop :=
  (c.activeTransition = some .idleToDiscovery ∧ c.nextState = .discovery)
    ∨ (c.activeTransition = none ∧ c.lastState = .discovery)

variable {c : SmControl} {t : NciTransition}

theorem not_relies_of_active (hactive : c.activeTransition = some t) (ht : t ≠ .idleToDiscovery) :
  ¬c.Relies
  := by
  rintro (⟨h, -⟩ | ⟨h, -⟩)
  · exact ht (Option.some.inj (hactive.symm.trans h))
  · cases hactive.symm.trans h

theorem not_relies_of_last (hactive : c.activeTransition = none)
    (hlast : c.lastState ≠ .discovery) :
  ¬c.Relies
  := by
  rintro (⟨h, -⟩ | ⟨-, h⟩)
  · cases hactive.symm.trans h
  · exact hlast h

theorem not_relies_of_next (hactive : c.activeTransition = some t) (hnext : c.nextState = .idle) :
  ¬c.Relies
  := by
  rintro (⟨-, h⟩ | ⟨h, -⟩)
  · cases hnext.symm.trans h
  · cases hactive.symm.trans h

/-! ### Requests -/

theorem mem_idleTransitions (ht : t ∈ [.reset, .deactivateToIdle]) :
  t = .reset ∨ t = .deactivateToIdle
  := by simpa using ht

/-- After RFST_IDLE has been requested the configuration does not matter. -/
theorem Stage.request_idle (h : c.Stage) :
  (c.request .idle).Stage ∧ ¬(c.request .idle).Relies
  := by
  cases h with
  | resting state hstate hactive hlast hnext =>
      obtain ⟨lastState, nextState, nextTransition, activeTransition⟩ := c
      dsimp only at hactive hlast hnext
      subst hactive hlast hnext
      obtain rfl | rfl | rfl | rfl : nextState = .init ∨ nextState = .error ∨ nextState = .idle
          ∨ nextState = .discovery := by simpa using hstate
      · exact ⟨.toIdle .reset (by simp) rfl (Or.inl rfl),
          not_relies_of_active (t := .reset) rfl (by decide)⟩
      · exact ⟨.toIdle .reset (by simp) rfl (Or.inl rfl),
          not_relies_of_active (t := .reset) rfl (by decide)⟩
      · exact ⟨.resting .idle (by simp) rfl rfl rfl,
          not_relies_of_last rfl (show NciState.idle ≠ .discovery by decide)⟩
      · exact ⟨.toIdle .deactivateToIdle (by simp) rfl (Or.inl rfl),
          not_relies_of_active (t := .deactivateToIdle) rfl (by decide)⟩
  | toIdle t ht hactive hfollow =>
      have hreaches : t.Reaches .idle := by
        obtain rfl | rfl := mem_idleTransitions ht <;> decide
      have hdest : t.dest = .idle := by
        obtain rfl | rfl := mem_idleTransitions ht <;> rfl
      have hother : t ≠ .idleToDiscovery := by
        obtain rfl | rfl := mem_idleTransitions ht <;> decide
      have hactive' := activeTransition_request hactive hreaches
      refine ⟨.toIdle t ht hactive' ?_, not_relies_of_active hactive' hother⟩
      rw [request_eq hactive hreaches]
      split_ifs with hnext hdest'
      · exact hfollow
      · exact Or.inl rfl
      · exact absurd hdest.symm hdest'
  | applying hactive hfollow hnext =>
      obtain ⟨lastState, nextState, nextTransition, activeTransition⟩ := c
      dsimp only at hactive hfollow hnext
      subst hactive hfollow hnext
      exact ⟨.leaving rfl rfl rfl, not_relies_of_next (t := .idleToDiscovery) rfl rfl⟩
  | leaving hactive hfollow hnext =>
      obtain ⟨lastState, nextState, nextTransition, activeTransition⟩ := c
      dsimp only at hactive hfollow hnext
      subst hactive hfollow hnext
      exact ⟨.leaving rfl rfl rfl, not_relies_of_next (t := .idleToDiscovery) rfl rfl⟩

/-- RFST_DISCOVERY is requested: either the configuration is still the one that was relied on
before, or the controller is going to be configured. -/
theorem Stage.request_discovery (h : c.Stage)
    (hheeded : ¬(c.activeTransition = some .idleToDiscovery ∧ c.nextState ≠ .discovery)) :
  (c.request .discovery).Stage
    ∧ ((c.request .discovery).Relies →
      c.Relies ∨ (c.activeTransition = none ∧ c.lastState = .idle ∧ c.nextState = .idle))
  := by
  cases h with
  | resting state hstate hactive hlast hnext =>
      obtain ⟨lastState, nextState, nextTransition, activeTransition⟩ := c
      dsimp only at hactive hlast hnext
      subst hactive hlast hnext
      obtain rfl | rfl | rfl | rfl : nextState = .init ∨ nextState = .error ∨ nextState = .idle
          ∨ nextState = .discovery := by simpa using hstate
      · refine ⟨.toIdle .reset (by simp) rfl (Or.inr ⟨rfl, rfl⟩), fun h => absurd h ?_⟩
        exact not_relies_of_active (t := .reset) rfl (by decide)
      · refine ⟨.toIdle .reset (by simp) rfl (Or.inr ⟨rfl, rfl⟩), fun h => absurd h ?_⟩
        exact not_relies_of_active (t := .reset) rfl (by decide)
      · exact ⟨.applying rfl rfl rfl, fun _ => Or.inr ⟨rfl, rfl, rfl⟩⟩
      · exact ⟨.resting .discovery (by simp) rfl rfl rfl, fun _ => Or.inl (Or.inr ⟨rfl, rfl⟩)⟩
  | toIdle t ht hactive hfollow =>
      have hreaches : t.Reaches .discovery := by
        obtain rfl | rfl := mem_idleTransitions ht <;> decide
      have hdest : nciStateGetTransition t.dest .discovery = some .idleToDiscovery := by
        obtain rfl | rfl := mem_idleTransitions ht <;> rfl
      have hother : t ≠ .idleToDiscovery := by
        obtain rfl | rfl := mem_idleTransitions ht <;> decide
      have hactive' := activeTransition_request hactive hreaches
      refine ⟨.toIdle t ht hactive' ?_, fun h => absurd h (not_relies_of_active hactive' hother)⟩
      rw [request_eq hactive hreaches]
      split_ifs with hnext hdest'
      · exact hfollow
      · exact Or.inl rfl
      · exact Or.inr ⟨hdest, rfl⟩
  | applying hactive hfollow hnext =>
      obtain ⟨lastState, nextState, nextTransition, activeTransition⟩ := c
      dsimp only at hactive hfollow hnext
      subst hactive hfollow hnext
      exact ⟨.applying rfl rfl rfl, fun _ => Or.inl (Or.inl ⟨rfl, rfl⟩)⟩
  | leaving hactive hfollow hnext =>
      exact absurd ⟨hactive, by rw [hnext]; decide⟩ hheeded

/-! ### The end of a transition -/

/-- A transition ends: either the configuration is still the one that was relied on before, or the
controller is going to be configured. -/
theorem Stage.complete (h : c.Stage) (hactive : c.activeTransition = some t) :
  (c.complete t).Stage
    ∧ ((c.complete t).Relies →
      c.Relies ∨ (t.dest = .idle ∧ c.nextTransition = some .idleToDiscovery))
  := by
  have hcomplete : c.complete t = c.enter t.dest none true := if_pos hactive
  rw [hcomplete]
  cases h with
  | resting state hstate hnone hlast hnext => cases hnone.symm.trans hactive
  | toIdle t' ht hactive' hfollow =>
      obtain rfl : t' = t := Option.some.inj (hactive'.symm.trans hactive)
      have hdest : t'.dest = .idle := by
        obtain rfl | rfl := mem_idleTransitions ht <;> rfl
      rw [hdest]
      obtain hnone | ⟨hfollow, hnext⟩ := hfollow
      · have hrests : (c.enter .idle none true).RestsIn .idle := restsIn_enter (by rw [hnone]; rfl)
        refine ⟨.resting .idle (by simp) hrests.activeTransition hrests.lastState
          hrests.nextState, fun h => absurd h ?_⟩
        exact not_relies_of_last hrests.activeTransition (by rw [hrests.lastState]; decide)
      · have hfilter : c.nextTransition.filter (fun t => t.dest != NciState.idle)
            = some .idleToDiscovery := by
          rw [hfollow]
          rfl
        have hfollows := enter_follows hfilter none
        refine ⟨?_, fun _ => Or.inr ⟨rfl, hfollow⟩⟩
        rw [hfollows]
        apply Stage.applying rfl rfl
        exact (congrArg SmControl.nextState (c.finish.activate_eq .idle)).trans hnext
  | applying hactive' hfollow hnext =>
      obtain rfl : t = .idleToDiscovery := Option.some.inj (hactive.symm.trans hactive')
      have hrests : (c.enter .discovery none true).RestsIn .discovery :=
        restsIn_enter (by rw [hfollow]; rfl)
      exact ⟨.resting .discovery (by simp) hrests.activeTransition hrests.lastState
        hrests.nextState, fun _ => Or.inl (Or.inl ⟨hactive, hnext⟩)⟩
  | leaving hactive' hfollow hnext =>
      obtain rfl : t = .idleToDiscovery := Option.some.inj (hactive.symm.trans hactive')
      have hfilter : c.nextTransition.filter (fun t => t.dest != NciState.discovery)
          = some .deactivateToIdle := by
        rw [hfollow]
        rfl
      have hfollows := enter_follows hfilter none
      have hactive'' : (c.enter .discovery none true).activeTransition
          = some .deactivateToIdle := by
        rw [hfollows]
      refine ⟨.toIdle .deactivateToIdle (by simp) hactive'' (Or.inl ?_), fun h => absurd h ?_⟩
      · exact congrArg SmControl.nextTransition hfollows
      · exact not_relies_of_active hactive'' (by decide)

/-- The machine stalls in the state for errors. -/
theorem stage_stall (c : SmControl) :
  (c.stall .error).Stage
  := by
  have hstall : c.stall .error = _ :=
    SmControl.activate_eq .error { c.finish with lastState := .error, nextState := .error }
  rw [hstall]
  exact .resting .error (by simp) rfl rfl rfl

end SmControl

/-! ### Responses -/

section Responses

variable {ι : Type} (E : NciSmIo ι) (t : NciTransition)

/-- A response leaves the control of the machine as it is, stalls, or ends the transition. -/
def Goes (f : SmWorld ι → SmWorld ι) : Prop :=
  ∀ w, (f w).sm.control = w.sm.control ∨ (f w).sm.control = w.sm.control.stall .error
    ∨ f w = nciTransitionFinish E t w

variable {E t}

theorem goes_of_control {f : SmWorld ι → SmWorld ι} (h : ∀ w, (f w).sm.control = w.sm.control) :
  Goes E t f
  := fun w => Or.inl (h w)

theorem Goes.ite {p : SmWorld ι → Prop} [∀ w, Decidable (p w)] {f g : SmWorld ι → SmWorld ι}
    (hf : Goes E t f) (hg : Goes E t g) :
  Goes E t fun w => if p w then f w else g w
  := by
  intro w
  dsimp only
  split
  · exact hf w
  · exact hg w

theorem control_nciSmError (hsilent : E.Silent) (w : SmWorld ι) :
  (nciSmError E w).sm.control = w.sm.control.stall .error
  := (hsilent.emit _).trans (control_nciSmStallInternal .error w)

theorem goes_nciSmError (hsilent : E.Silent) :
  Goes E t (nciSmError E)
  := fun w => Or.inr (Or.inl (control_nciSmError hsilent w))

theorem goes_nciTransitionFinish :
  Goes E t (nciTransitionFinish E t)
  := fun _ => Or.inr (Or.inr rfl)

theorem goes_nciTransitionRsp (hsilent : E.Silent) {received : SmWorld ι → SmWorld ι}
    (h : Goes E t received) (status : NciRequestStatus) :
  Goes E t (nciTransitionRsp E t received status)
  := Goes.ite (goes_of_control fun _ => rfl) (Goes.ite (goes_nciSmError hsilent) h)

theorem goes_nciTransitionResetInitRsp (hsilent : E.Silent) (rsp : Option CoreInitRsp) :
  Goes E .reset (nciTransitionResetInitRsp E rsp)
  := by
  cases rsp with
  | some rsp =>
      apply goes_of_control
      intro w
      have hmax : ∀ w, (E.sarSetMaxLogicalConnections rsp.maxLogicalConns w).sm.control
          = w.sm.control :=
        fun w => congrArg NciSm.control (hsilent.sarSetMaxLogicalConnections rsp.maxLogicalConns w)
      exact hmax (w.map _)
  | none => exact goes_nciSmError hsilent

theorem goes_nciTransitionResetRsp (hsilent : E.Silent) (status : NciRequestStatus)
    (payload : List UInt8) :
  Goes E .reset (nciTransitionResetRsp E status payload)
  := by
  apply goes_nciTransitionRsp hsilent
  intro w
  dsimp only
  split_ifs
  · exact Or.inl rfl
  · exact Or.inr (Or.inl (control_nciSmError hsilent _))
  · exact Or.inl rfl
  · exact Or.inr (Or.inl (control_nciSmError hsilent _))
  · exact Or.inr (Or.inl (control_nciSmError hsilent _))

theorem control_nciTransitionIdleToDiscoveryConfigureRouting (w : SmWorld ι) :
  (nciTransitionIdleToDiscoveryConfigureRouting E w).sm.control = w.sm.control
  := by
  rw [nciTransitionIdleToDiscoveryConfigureRouting]
  split_ifs <;> rfl

theorem goes_nciTransitionIdleToDiscoveryGetConfigRsp (hsilent : E.Silent)
    (status : NciRequestStatus) (payload : List UInt8) :
  Goes E .idleToDiscovery (nciTransitionIdleToDiscoveryGetConfigRsp E status payload)
  := by
  apply goes_nciTransitionRsp hsilent
  apply goes_of_control
  intro w
  dsimp only
  split
  · rfl
  · exact control_nciTransitionIdleToDiscoveryConfigureRouting w

/-- The response functions of transitions that lead where they are meant to lead. -/
theorem goes_call (hsilent : E.Silent) {resp : NciSmResponseFunc}
    (h : resp.transition = some t) (ht : t ≠ .deactivateToDiscovery) (status : NciRequestStatus)
    (payload : List UInt8) :
  Goes E t (resp.call E status payload)
  := by
  have hrsp := fun t {received} (h : Goes E t received) => goes_nciTransitionRsp hsilent h status
  have hfinish := fun t => goes_nciTransitionFinish (E := E) (t := t)
  have herror := fun t => goes_nciSmError (t := t) hsilent
  have hsame : ∀ {t} {f : SmWorld ι → SmWorld ι}, (∀ w, (f w).sm.control = w.sm.control) →
      Goes E t f :=
    goes_of_control
  cases resp <;> cases h
  case resetRsp => exact goes_nciTransitionResetRsp hsilent status payload
  case resetInitV1Rsp => exact hrsp .reset (goes_nciTransitionResetInitRsp hsilent _)
  case resetInitV2Rsp => exact hrsp .reset (goes_nciTransitionResetInitRsp hsilent _)
  case resetSetConfigRsp => exact hrsp .reset (hfinish .reset)
  case idleToDiscoveryGetConfigRsp =>
    exact goes_nciTransitionIdleToDiscoveryGetConfigRsp hsilent status payload
  case idleToDiscoverySetConfigRsp =>
    exact hrsp .idleToDiscovery (hsame control_nciTransitionIdleToDiscoveryConfigureRouting)
  case idleToDiscoverySetMixedRoutingRsp =>
    exact hrsp .idleToDiscovery (Goes.ite (hsame fun _ => rfl) (hsame fun _ => rfl))
  case idleToDiscoverySetProtocolRoutingRsp =>
    exact hrsp .idleToDiscovery (Goes.ite (hsame fun _ => rfl) (hsame fun _ => rfl))
  case idleToDiscoveryLastProtocolRoutingRsp => exact hrsp .idleToDiscovery (hsame fun _ => rfl)
  case idleToDiscoverySetTechRoutingRsp => exact hrsp .idleToDiscovery (hsame fun _ => rfl)
  case idleToDiscoverMapRsp =>
    exact hrsp .idleToDiscovery (Goes.ite (hsame fun _ => rfl) (herror _))
  case idleToDiscoveryDiscoverRsp =>
    exact hrsp .idleToDiscovery (Goes.ite (hfinish .idleToDiscovery) (herror _))
  case deactivateToIdleRsp =>
    exact hrsp .deactivateToIdle (Goes.ite (hfinish .deactivateToIdle) (herror _))
  case deactivateToDiscoveryRsp => exact absurd rfl ht
  case deactivateToDiscoveryIdleRsp => exact absurd rfl ht
  case pollActiveToIdleRsp =>
    exact hrsp .pollActiveToIdle (Goes.ite (hsame fun _ => rfl) (herror _))
  case listenActiveToIdleRsp =>
    apply hrsp .listenActiveToIdle
    exact Goes.ite (Goes.ite (hfinish .listenActiveToIdle) (hsame fun _ => rfl)) (herror _)

end Responses

/-! ### What the controller has been told -/

/-- The modes and technologies from which the commands of the last transition from RFST_IDLE to
RFST_DISCOVERY have been computed, after an entry. The first one after CORE_GET_CONFIG_CMD, which
does not depend on them, is sent as soon as CORE_GET_CONFIG_RSP has been compared with what is
expected, whether or not that leads to CORE_SET_CONFIG_CMD. -/
def SmAction.configured (modes : List (UInt32 × UInt32)) : SmAction → List (UInt32 × UInt32)
  | .sent _ _ _ resp _ sm =>
      if resp = .idleToDiscoveryGetConfigRsp then []
      else if resp.transition = some .idleToDiscovery then modes ++ [sm.mode]
      else modes
  | .arrived _ | .cancelled | .answered .. | .sar _ | .signal .. | .intfActivated _ => modes

/-- The modes and technologies from which the commands of the last transition from RFST_IDLE to
RFST_DISCOVERY have been computed. -/
def SmHistory.configured (history : SmHistory) : List (UInt32 × UInt32) :=
  history.foldl SmAction.configured []

/-- The controller has been configured for the current mode and technologies. -/
def SmWorld.Fresh (w : SmWorld SmHistory) : Prop :=
  ∀ mode ∈ w.io.configured, mode = w.sm.mode

variable {H : SmHost} {w w' : SmWorld SmHistory}

theorem mem_configured {modes : List (UInt32 × UInt32)} {mode : UInt32 × UInt32}
    (hmodes : ∀ m ∈ modes, m = mode) {new : SmHistory} (hnew : ∀ e ∈ new, e.Calm mode) :
  ∀ m ∈ new.foldl SmAction.configured modes, m = mode
  := by
  induction new generalizing modes with
  | nil => exact hmodes
  | cons e new ih =>
      apply ih
      · intro m hm
        have he := hnew e List.mem_cons_self
        cases e
        case sent gid oid payload resp ok sm =>
          rw [SmAction.configured] at hm
          split_ifs at hm
          · cases hm
          · obtain hm | hm := List.mem_append.mp hm
            · exact hmodes m hm
            · rw [List.mem_singleton.mp hm]
              exact he
          · exact hmodes m hm
        all_goals exact hmodes m hm
      · exact fun e' he' => hnew e' (List.mem_cons_of_mem _ he')

/-- What is sent for the machine as it is keeps the configuration current. -/
theorem SmWorld.Fresh.extends (h : w.Fresh) (hextends : Extends w w') :
  w'.Fresh
  := by
  obtain ⟨new, hlog, hnew⟩ := hextends.history
  rw [SmWorld.Fresh, hextends.mode, hlog, SmHistory.configured, List.foldl_append]
  exact mem_configured h hnew

/-- Nothing has been configured yet when the transition to RFST_DISCOVERY starts. -/
theorem fresh_nciSmStartTransition (w : SmWorld SmHistory) :
  (nciSmStartTransition (H.io 0) .idleToDiscovery w).2.Fresh
  := by
  have hnone : ∀ history : SmHistory, ∀ payload ok sm, SmHistory.configured (history ++
      [.sent nciGidCore nciOidCoreGetConfig payload .idleToDiscoveryGetConfigRsp ok sm]) = [] := by
    intro history payload ok sm
    rw [SmHistory.configured, List.foldl_append]
    rfl
  have hstart : ∀ w, (nciTransitionStart (H.io 0) .idleToDiscovery w).2.io.configured = [] :=
    fun w => hnone w.io _ _ _
  rw [nciSmStartTransition, SmWorld.Fresh]
  split
  · rw [SmWorld.map_io, hstart]
    simp
  · rw [SmWorld.map_io, hstart]
    simp

/-- The transition to RFST_DISCOVERY is started by a request in RFST_IDLE. -/
theorem fresh_nciSmSwitchTo (hsend : ∀ history, H.send history = true)
    (hentering : w.sm.enteringState = 0) (hactive : w.sm.activeTransition = none)
    (hlast : w.sm.lastState = .idle) (hnext : w.sm.nextState = .idle) :
  (nciSmSwitchTo (H.io 0) .discovery w).Fresh
  := by
  have hidle : ∀ w : SmWorld SmHistory, w.sm.lastState = .idle →
      (nciSmSwitchIdle (H.io 0) .discovery w).Fresh := by
    intro w hlast
    have hstarted := (SmHost.accepts_io hsend 0).start .idleToDiscovery w
    unfold nciSmSwitchIdle
    rw [hlast, show nciStateGetTransition .idle .discovery = some .idleToDiscovery from rfl]
    dsimp only
    rw [if_pos hstarted]
    exact (fresh_nciSmStartTransition w).extends (Extends.map (mode_nciSmSetNextState _ _))
  have hbegin : ∀ w : SmWorld SmHistory, w.sm.activeTransition = none → w.sm.lastState = .idle →
      (nciSmSwitchBegin (H.io 0) .discovery w).Fresh := by
    intro w hactive hlast
    unfold nciSmSwitchBegin
    dsimp only [SmWorld.map_sm]
    rw [hactive]
    exact hidle _ hlast
  have hne : (w.map fun self => { self with pendingSwitch := none }).sm.nextState
      ≠ .discovery := by
    rw [SmWorld.map_sm, hnext]
    decide
  rw [nciSmSwitchTo_outside _ hentering, nciSmSwitchInternal, if_pos hne]
  exact (hbegin (w.map fun self => { self with pendingSwitch := none }) hactive hlast).extends
    (calm_nciSmEmitPendingSignals _)

/-- The transition to RFST_DISCOVERY is started in RFST_IDLE, where it was queued. -/
theorem fresh_nciTransitionFinish {t : NciTransition} (hactive : w.sm.activeTransition = some t)
    (hdest : t.dest = .idle) (hnext : w.sm.nextTransition = some .idleToDiscovery) :
  (nciTransitionFinish (H.io 0) t w).Fresh
  := by
  have hstarted : ∀ w : SmWorld SmHistory, w.sm.nextTransition = some .idleToDiscovery →
      (nciSmStartNextTransition (H.io 0) .idle w).Fresh := by
    intro w hnext
    have htake : nciSmTakeNextTransition .idle w.sm = some .idleToDiscovery := by
      rw [nciSmTakeNextTransition, hnext]
      rfl
    unfold nciSmStartNextTransition
    rw [htake]
    exact fresh_nciSmStartTransition _
  obtain ⟨request, hcontrol, -⟩ := control_nciSmActivate
    (greets_nciStateEntered (E := H.io 0) NciParam.continues_none .idle) (w.map nciSmBeginEntering)
  have hnext' : (nciSmActivate (nciStateEntered (H.io 0)) .idle none
      (w.map nciSmBeginEntering)).sm.nextTransition = some .idleToDiscovery := by
    have hbegin := control_nciSmFinishActiveTransition
      { w.sm with enteringState := w.sm.enteringState + 1 }
    have hactivate := congrArg SmControl.nextTransition hcontrol
    rw [SmControl.activate_eq] at hactivate
    exact hactivate.trans ((congrArg SmControl.nextTransition hbegin).trans hnext)
  rw [nciTransitionFinish, if_pos hactive, hdest]
  apply SmWorld.Fresh.extends _ (calm_nciSmEmitPendingSignals _)
  apply (hstarted _ hnext').extends
  exact Extends.map (mode_of_control (control_nciSmEndEntering .idle _) rfl)

/-! ### Steps -/

/-- What is kept in a run in which only RFST_IDLE and RFST_DISCOVERY are requested. -/
structure SmWorld.Applied (w : SmWorld SmHistory) : Prop where
  enteringState : w.sm.enteringState = 0
  stage : w.sm.control.Stage
  fresh : w.sm.control.Relies → w.Fresh

/-- The requests and responses that such a run consists of. -/
inductive SmEvent.Configures : SmEvent → Prop
  | idle : Configures (.request (.switchTo .idle))
  | discovery : Configures (.request (.switchTo .discovery))
  | setOpMode (opMode : UInt32) : Configures (.request (.setOpMode opMode))
  | setTech (tech : UInt32) : Configures (.request (.setTech tech))
  | response (payload : List UInt8) : Configures (.response payload)

/-- The machine is about to reach RFST_DISCOVERY only to leave it again. -/
def NciSm.LeavesDiscovery (sm : NciSm) : Prop :=
  sm.activeTransition = some .idleToDiscovery ∧ sm.nextState ≠ .discovery

instance (sm : NciSm) : Decidable sm.LeavesDiscovery :=
  inferInstanceAs (Decidable (_ ∧ _))

/-- A machine that is stuck does not rely on its configuration. -/
theorem Stuck.not_relies (h : Stuck w) :
  ¬w.sm.control.Relies
  := by
  apply SmControl.not_relies_of_last h.activeTransition
  intro hlast
  cases h.lastState.symm.trans hlast

section Step

variable (hreact : ∀ history, H.react history = []) (hsend : ∀ history, H.send history = true)
include hreact hsend

omit hreact hsend in
theorem enteringState_nciSmSwitchTo (state : NciState) (h : w.sm.enteringState = 0) :
  (nciSmSwitchTo (H.io 0) state w).sm.enteringState = 0
  := keeps_nciSmSwitchTo (SmControl.closed_enteringState 0).steady
    (SmHost.keeps_io _ 0 (SmControl.closed_enteringState 0).steady) state w h

/-- After RFST_IDLE has been requested nothing relies on the configuration, whether or not it was
current before. -/
theorem SmWorld.applied_switchTo_idle (hentering : w.sm.enteringState = 0)
    (hstage : w.sm.control.Stage) :
  (nciSmSwitchTo (H.io 0) .idle w).Applied
  := by
  have hcontrol := control_nciSmSwitchTo (SmHost.silent_io hreact 0) (SmHost.accepts_io hsend 0)
    hentering .idle
  obtain ⟨hstage', hrelies⟩ := hstage.request_idle
  rw [← hcontrol] at hstage' hrelies
  exact ⟨enteringState_nciSmSwitchTo .idle hentering, hstage', fun h => absurd h hrelies⟩

theorem SmWorld.Applied.switchTo_discovery (h : w.Applied) (hheeded : ¬w.sm.LeavesDiscovery) :
  (nciSmSwitchTo (H.io 0) .discovery w).Applied
  := by
  have hcontrol := control_nciSmSwitchTo (SmHost.silent_io hreact 0) (SmHost.accepts_io hsend 0)
    h.enteringState .discovery
  obtain ⟨hstage, hrelies⟩ := h.stage.request_discovery hheeded
  rw [← hcontrol] at hstage hrelies
  refine ⟨enteringState_nciSmSwitchTo .discovery h.enteringState, hstage, ?_⟩
  intro hrelies'
  obtain hbefore | ⟨hactive, hlast, hnext⟩ := hrelies hrelies'
  · obtain hextends | hstuck := ends_nciSmSwitchTo (H := H) .discovery w
    · exact (h.fresh hbefore).extends hextends
    · exact absurd hrelies' hstuck.not_relies
  · exact fresh_nciSmSwitchTo hsend h.enteringState hactive hlast hnext

/-- A change of the mode or the technologies takes the machine back to RFST_IDLE if it relies on
the configuration. -/
theorem SmWorld.applied_nciSmRestart (hentering : w.sm.enteringState = 0)
    (hstage : w.sm.control.Stage) :
  (nciSmRestart (H.io 0) w).Applied
  := by
  rw [nciSmRestart]
  split
  · exact SmWorld.applied_switchTo_idle hreact hsend hentering hstage
  · rename_i hnext
    refine ⟨hentering, hstage, fun hrelies => absurd ?_ hnext⟩
    have hdiscovery : w.sm.nextState = .discovery := by
      obtain ⟨-, hnext'⟩ | ⟨hactive, hlast⟩ := hrelies
      · exact hnext'
      · cases hstage with
        | resting state hstate hnone hlast' hnext' =>
            exact hnext'.trans (hlast'.symm.trans hlast)
        | toIdle t ht hactive' hfollow => cases hactive.symm.trans hactive'
        | applying hactive' hfollow hnext' => cases hactive.symm.trans hactive'
        | leaving hactive' hfollow hnext' => cases hactive.symm.trans hactive'
    rw [hdiscovery]
    decide

omit hreact hsend in
/-- The stage does not depend on the mode and the technologies. -/
theorem SmControl.Stage.mode {c : SmControl} (h : c.Stage) (opMode techs : UInt32) :
  SmControl.Stage { c with opMode := opMode, techs := techs }
  := by
  cases h with
  | resting state hstate hactive hlast hnext => exact .resting state hstate hactive hlast hnext
  | toIdle t ht hactive hfollow => exact .toIdle t ht hactive hfollow
  | applying hactive hfollow hnext => exact .applying hactive hfollow hnext
  | leaving hactive hfollow hnext => exact .leaving hactive hfollow hnext

theorem SmWorld.Applied.call (h : w.Applied) {resp : NciSmResponseFunc} {t : NciTransition}
    (ht : resp.transition = some t) (hactive : w.sm.activeTransition = some t)
    (payload : List UInt8) :
  (resp.call (H.io 0) .success payload w).Applied
  := by
  have hsilent := SmHost.silent_io hreact 0
  have hentering := keeps_call (SmControl.closed_enteringState 0)
    (H.keeps_io 0 (SmControl.closed_enteringState 0).steady) resp .success payload w
    h.enteringState
  have hother : t ≠ .deactivateToDiscovery := by
    rintro rfl
    cases h.stage with
    | resting state hstate hnone hlast hnext => cases hnone.symm.trans hactive
    | toIdle t ht' hactive' hfollow =>
        obtain rfl : t = .deactivateToDiscovery := Option.some.inj (hactive'.symm.trans hactive)
        exact absurd ht' (by decide)
    | applying hactive' hfollow hnext => cases hactive'.symm.trans hactive
    | leaving hactive' hfollow hnext => cases hactive'.symm.trans hactive
  have hfresh : w.sm.control.Relies → (resp.call (H.io 0) .success payload w).sm.control.Relies →
      (resp.call (H.io 0) .success payload w).Fresh := by
    intro hbefore hafter
    obtain hextends | hstuck := ends_call (H := H) resp .success payload w
    · exact (h.fresh hbefore).extends hextends
    · exact absurd hafter hstuck.not_relies
  obtain hsame | hstall | hfinish := goes_call hsilent ht hother .success payload w
  · refine ⟨hentering, ?_, fun hrelies => hfresh ?_ hrelies⟩
    · rw [hsame]
      exact h.stage
    · rw [hsame] at hrelies
      exact hrelies
  · have hstage := SmControl.stage_stall w.sm.control
    rw [← hstall] at hstage
    refine ⟨hentering, hstage, fun hrelies => absurd hrelies ?_⟩
    rw [hstall, SmControl.stall, SmControl.activate_eq]
    exact SmControl.not_relies_of_last rfl (show NciState.error ≠ .discovery by decide)
  · have hcontrol := control_nciTransitionFinish hsilent (SmHost.accepts_io hsend 0) t w
    obtain ⟨hstage, hrelies⟩ := h.stage.complete hactive
    rw [← hcontrol, ← hfinish] at hstage hrelies
    refine ⟨hentering, hstage, fun hafter => ?_⟩
    obtain hbefore | ⟨hdest, hnext⟩ := hrelies hafter
    · exact hfresh hbefore hafter
    · rw [hfinish]
      exact fresh_nciTransitionFinish hactive hdest hnext

omit hreact hsend in
theorem SmWorld.Applied.note (h : w.Applied) {a : SmAction} (ha : a.Calm w.sm.mode) :
  (w.note a).Applied
  := ⟨h.enteringState, h.stage, fun hrelies => (h.fresh hrelies).extends (Extends.note ha)⟩

theorem SmWorld.Applied.answer (h : w.Applied) (payload : List UInt8) :
  (H.answer 0 .success payload w).Applied
  := by
  unfold SmHost.answer
  split
  · rename_i resp hresp
    have hnote : (w.note (.answered resp .success payload)).Applied := h.note trivial
    revert hnote
    generalize w.note (.answered resp .success payload) = w
    intro h
    by_cases hinactive : ∀ t, resp.transition = some t → w.sm.activeTransition ≠ some t
    · rw [NciSmResponseFunc.call_inactive _ hinactive]
      exact h
    · push Not at hinactive
      obtain ⟨t, ht, hactive⟩ := hinactive
      exact SmWorld.Applied.call hreact hsend h ht hactive payload
  · exact h

/-- A change of the mode does not have to be applied to a machine that goes back to RFST_IDLE. -/
theorem SmWorld.Applied.handle (h : w.Applied) {e : SmEvent} (he : e.Configures)
    (hheeded : ∀ r, e = .request r → r = .switchTo .discovery → ¬w.sm.LeavesDiscovery) :
  (H.handle 0 w e).Applied
  := by
  cases he with
  | idle => exact SmWorld.applied_switchTo_idle hreact hsend h.enteringState h.stage
  | discovery => exact h.switchTo_discovery hreact hsend (hheeded _ rfl rfl)
  | setOpMode opMode =>
      rw [SmHost.handle, SmRequest.perform, nciSmSetOpMode]
      split
      · exact SmWorld.applied_nciSmRestart hreact hsend
          (w := w.map fun self => { self with opMode := opMode }) h.enteringState
          (h.stage.mode opMode w.sm.techs)
      · exact h
  | setTech tech =>
      rw [SmHost.handle, SmRequest.perform, nciSmSetTech]
      split
      · exact SmWorld.applied_nciSmRestart hreact hsend
          (w := w.map fun self => { self with techs := tech &&& nciTechAll }) h.enteringState
          (h.stage.mode w.sm.opMode (tech &&& nciTechAll))
      · exact h
  | response payload => exact h.answer hreact hsend payload

theorem SmWorld.Applied.step (h : w.Applied) {e : SmEvent} (he : e.Configures)
    (hheeded : ∀ r, e = .request r → r = .switchTo .discovery → ¬w.sm.LeavesDiscovery) :
  (H.step 0 w e).Applied
  := by
  have hnote : (w.note (.arrived e)).Applied := h.note trivial
  exact hnote.handle hreact hsend he hheeded

theorem SmWorld.Applied.run {events : List SmEvent} (h : w.Applied)
    (hevents : ∀ e ∈ events, e.Configures)
    (hheeded : ∀ earlier later, events = earlier ++ .request (.switchTo .discovery) :: later →
      ¬(H.run 0 w earlier).sm.LeavesDiscovery) :
  (H.run 0 w events).Applied
  := by
  induction events generalizing w with
  | nil => exact h
  | cons e events ih =>
      apply ih (w := H.step 0 w e)
      · apply h.step hreact hsend (hevents e List.mem_cons_self)
        rintro r rfl rfl
        exact hheeded [] events rfl
      · exact fun e' he' => hevents e' (List.mem_cons_of_mem _ he')
      · intro earlier later hevents'
        exact hheeded (e :: earlier) later (congrArg (e :: ·) hevents')

end Step

/-! ### Runs -/

theorem applied_start (techs : UInt32) (laNfcid1 : NciNfcid1) (liAHb : NciAtsHb) :
  (SmWorld.new (nciSmNew techs laNfcid1 liAHb)).Applied
  := by
  refine ⟨rfl, .resting .init (by simp) rfl rfl rfl, fun h => absurd h ?_⟩
  exact SmControl.not_relies_of_last rfl (show NciState.init ≠ .discovery by decide)

/-- When the machine rests in RFST_DISCOVERY, the controller has been configured for the current
mode and technologies, unless RFST_DISCOVERY has been requested while the machine was about to
reach it only to leave it again. -/
theorem configurationFresh (H : SmHost) (n : Nat) (hreact : ∀ history, H.react history = [])
    (hsend : ∀ history, H.send history = true) (techs : UInt32) (laNfcid1 : NciNfcid1)
    (liAHb : NciAtsHb) (events : List SmEvent) (hevents : ∀ e ∈ events, e.Configures)
    (hheeded : ∀ earlier later, events = earlier ++ .request (.switchTo .discovery) :: later →
      ¬(H.run n (SmWorld.new (nciSmNew techs laNfcid1 liAHb)) earlier).sm.LeavesDiscovery)
    (hactive :
      (H.run n (SmWorld.new (nciSmNew techs laNfcid1 liAHb)) events).sm.activeTransition = none)
    (hlast :
      (H.run n (SmWorld.new (nciSmNew techs laNfcid1 liAHb)) events).sm.lastState = .discovery) :
  (H.run n (SmWorld.new (nciSmNew techs laNfcid1 liAHb)) events).Fresh
  := by
  rw [SmHost.run_eq hreact] at hheeded hactive hlast ⊢
  have hstart := applied_start techs laNfcid1 liAHb
  exact (hstart.run hreact hsend hevents hheeded).fresh (Or.inr ⟨hactive, hlast⟩)

/-- The way to RFST_DISCOVERY with a change of the mode after CORE_GET_CONFIG_RSP, and then with
another request for RFST_DISCOVERY or without. -/
def eventsWithChange (request : List SmEvent) : List SmEvent :=
  eventsToDiscovery.take 5 ++ [.request (.setOpMode nfcOpModeCe)] ++ request
    ++ eventsToDiscovery.drop 5

/-- After the change the machine goes back to RFST_IDLE, from where it is switched to RFST_DISCOVERY
again. -/
def eventsWithReturn : List SmEvent :=
  eventsWithChange [] ++ [.request (.switchTo .discovery), .response [0]]
    ++ eventsToDiscovery.drop 4

theorem configurationFresh_returned :
  (SmHost.quiet.run 0 (SmWorld.new nciSmDefault) eventsWithReturn).Fresh
  := by
  apply configurationFresh SmHost.quiet 0 (fun _ => rfl) (fun _ => rfl)
  · exact List.forall_iff_forall_mem.mp
      ⟨.discovery, .response _, .response _, .response _, .response _, .setOpMode _, .response _,
        .response _, .response _, .discovery, .response _, .response _, .response _, .response _,
        .response _⟩
  · intro earlier later hevents
    have hall : ∀ i < 15, eventsWithReturn[i]? = some (.request (.switchTo .discovery)) →
        ¬(SmHost.quiet.run 0 (SmWorld.new nciSmDefault)
          (eventsWithReturn.take i)).sm.LeavesDiscovery := by decide
    have hlength : eventsWithReturn.length = 15 := rfl
    have hearlier := hall earlier.length
    rw [hevents] at hearlier hlength
    rw [List.take_left] at hearlier
    rw [List.length_append, List.length_cons] at hlength
    exact hearlier (by omega) (by simp)
  · decide
  · decide

/-- The machine rests in RFST_DISCOVERY, but some commands have been computed from the old mode. -/
theorem not_configurationFresh :
  (SmHost.quiet.run 0 (SmWorld.new nciSmDefault)
      (eventsWithChange [.request (.switchTo .discovery)])).sm.activeTransition = none
    ∧ (SmHost.quiet.run 0 (SmWorld.new nciSmDefault)
      (eventsWithChange [.request (.switchTo .discovery)])).sm.lastState = .discovery
    ∧ ¬(SmHost.quiet.run 0 (SmWorld.new nciSmDefault)
      (eventsWithChange [.request (.switchTo .discovery)])).Fresh
  := by
  refine ⟨by decide, by decide, ?_⟩
  intro hfresh
  have hold := hfresh (nfcOpModeRw ||| nfcOpModePoll, nciTechDefault) (by decide)
  exact absurd hold (by decide)

end Nci
