import LibNciCore.Sm.Requests

/-!
# Invariants of the machine

A predicate on the control of the machine that is closed under what can happen to it, entering
a state, stalling, switching and changing the mode, is kept by all functions of the machine, as
long as it is kept by the surroundings when they are called back. The one exception is a first
discovery that is also the last one: RFST_W4_ALL_DISCOVERIES is then left before it has been
entered.
-/

namespace Nci

/-! ### Closed predicates -/

/-- A predicate is closed under everything that can happen to the control of the machine. -/
structure SmControl.Closed (P : SmControl → Prop) : Prop where
  enter : ∀ {c} state request ok, P c → P (c.enter state request ok)
  stall : ∀ {c} state, P c → P (c.stall state)
  switch : ∀ {c} next ok, P c → P (c.switch next ok)
  pending : ∀ {c} request, P c → P { c with pendingSwitch := request }
  forget : ∀ {c}, P c → P c.forget
  mode : ∀ {c} opMode techs, P c → P { c with opMode := opMode, techs := techs }

/-- A predicate is steady if it is closed under what requests can do: only internal states are
entered then. -/
structure SmControl.Steady (P : SmControl → Prop) : Prop where
  enter : ∀ {c state} ok, state.isInternal = true → c.nextTransition = none → P c →
    P (c.enter state none ok)
  stall : ∀ {c} state, state.isInternal = true → P c → P (c.stall state)
  switch : ∀ {c} next ok, P c → P (c.switch next ok)
  pending : ∀ {c} request, P c → P { c with pendingSwitch := request }
  forget : ∀ {c}, P c → P c.forget
  mode : ∀ {c} opMode techs, P c → P { c with opMode := opMode, techs := techs }

theorem SmControl.Closed.steady {P : SmControl → Prop} (h : Closed P) :
  Steady P
  where
  enter ok _ _ hc := h.enter _ none ok hc
  stall state _ hc := h.stall state hc
  switch next ok hc := h.switch next ok hc
  pending request hc := h.pending request hc
  forget hc := h.forget hc
  mode opMode techs hc := h.mode opMode techs hc

namespace SmControl

theorem enteringState_start (t : NciTransition) (ok : Bool) (c : SmControl) :
  (c.start t ok).enteringState = c.enteringState
  := by cases ok <;> rfl

theorem enteringState_stall (state : NciState) (c : SmControl) :
  (c.stall state).enteringState = c.enteringState
  := by
  rw [stall, activate_eq]
  rfl

theorem enteringState_switch (next : NciState) (ok : Bool) (c : SmControl) :
  (c.switch next ok).enteringState = c.enteringState
  := by
  have hviaIdle : ∀ c : SmControl, (c.switchViaIdle next ok).enteringState = c.enteringState := by
    intro c
    unfold switchViaIdle
    dsimp only
    split
    · split
      · exact enteringState_start _ ok c
      · split
        · exact enteringState_start _ ok c
        · exact (enteringState_stall _ _).trans (enteringState_start _ ok c)
    · exact (enteringState_stall _ _).trans (enteringState_start _ ok c)
  unfold switch
  split
  · unfold switchActive
    split
    · split
      · rfl
      · split
        · exact enteringState_enter next none ok c.forget
        · exact enteringState_stall .error c.forget
    · rfl
  · unfold switchIdle
    split
    · split
      · exact enteringState_start _ ok c.forget
      · exact (enteringState_stall _ _).trans (enteringState_start _ ok c.forget)
    · split
      · exact enteringState_enter next none ok c.forget
      · exact hviaIdle c.forget

/-- A switch takes the machine to an internal state, or leaves it where it is. -/
theorem lastState_switch (next : NciState) (ok : Bool) (c : SmControl) :
  (c.switch next ok).lastState = c.lastState ∨ (c.switch next ok).lastState.isInternal = true
  := by
  have hstart : ∀ (c : SmControl) t, (c.start t ok).lastState = c.lastState := by
    intro c t
    cases ok <;> rfl
  have hstall : ∀ c : SmControl, (c.stall .error).lastState.isInternal = true := by
    intro c
    rw [stall, activate_eq]
    rfl
  unfold switch
  split
  · unfold switchActive
    split
    · split
      · exact Or.inl rfl
      · split
        · rename_i hinternal
          exact Or.inr hinternal
        · exact Or.inr (hstall _)
    · exact Or.inl rfl
  · unfold switchIdle
    split
    · split
      · exact Or.inl (hstart _ _)
      · exact Or.inr (hstall _)
    · split
      · rename_i hinternal
        exact Or.inr hinternal
      · unfold switchViaIdle
        dsimp only
        split
        · split
          · exact Or.inl (hstart _ _)
          · split
            · exact Or.inl (hstart _ _)
            · exact Or.inr (hstall _)
        · exact Or.inr (hstall _)

/-- Requests do not take the machine to a state that is not internal. -/
theorem steady_lastState {state : NciState} (h : state.isInternal = false) :
  Steady fun c => c.lastState ≠ state
  := by
  have hne : ∀ {other : NciState}, other.isInternal = true → other ≠ state := by
    rintro other hother rfl
    cases h.symm.trans hother
  constructor
  · intro c other ok hinternal _ _
    exact hne hinternal
  · intro c other hinternal _
    rw [stall, activate_eq]
    exact hne hinternal
  · intro c next ok hc
    obtain hlast | hinternal := c.lastState_switch next ok
    · rw [hlast]
      exact hc
    · exact hne hinternal
  · intro c request hc
    exact hc
  · intro c hc
    exact hc
  · intro c opMode techs hc
    exact hc

/-- The reset transition is the only one that may be active, and the machine is in an internal
state otherwise. -/
structure Resetting (c : SmControl) : Prop where
  active : c.activeTransition = none ∨ c.activeTransition = some .reset
  internal : c.activeTransition = none → c.lastState.isInternal = true

/-- A machine that is being reset is still being reset after a request, or rests. -/
theorem steady_resetting :
  Steady Resetting
  := by
  have henter : ∀ {c : SmControl} {state} ok, state.isInternal = true → c.nextTransition = none →
      Resetting (c.enter state none ok) := by
    intro c state ok hinternal hnext
    have hnone : c.nextTransition.filter (fun t => t.dest != state) = none := by
      rw [hnext]
      rfl
    rw [enter_rests hnone, activate_eq]
    exact ⟨Or.inl rfl, fun _ => hinternal⟩
  have hstall : ∀ {c : SmControl} {state}, state.isInternal = true → Resetting (c.stall state) := by
    intro c state hinternal
    rw [stall, activate_eq]
    exact ⟨Or.inl rfl, fun _ => hinternal⟩
  constructor
  · exact fun ok hinternal hnext _ => henter ok hinternal hnext
  · exact fun state hinternal _ => hstall hinternal
  · intro c next ok hc
    unfold switch
    split
    · unfold switchActive
      split
      · split
        · exact ⟨hc.active, hc.internal⟩
        · split
          · rename_i hinternal
            exact henter ok hinternal rfl
          · exact hstall rfl
      · exact ⟨hc.active, hc.internal⟩
    · rename_i hnone
      have hlast := hc.internal hnone
      have htransition : ∀ dest, nciStateGetTransition c.forget.lastState dest = none := by
        intro dest
        change nciStateGetTransition c.lastState dest = none
        cases hstate : c.lastState <;> rw [hstate] at hlast <;> cases hlast <;> rfl
      unfold switchIdle
      rw [htransition]
      dsimp only
      split
      · rename_i hinternal
        exact henter ok hinternal rfl
      · unfold switchViaIdle
        rw [htransition]
        dsimp only [Option.getD_none]
        cases ok with
        | true =>
            rw [if_pos rfl]
            split
            · exact ⟨Or.inr rfl, fun h => by cases h⟩
            · split
              · exact ⟨Or.inr rfl, fun h => by cases h⟩
              · exact hstall rfl
        | false =>
            rw [if_neg Bool.false_ne_true]
            exact hstall rfl
  · exact fun request hc => ⟨hc.active, hc.internal⟩
  · exact fun hc => ⟨hc.active, hc.internal⟩
  · exact fun opMode techs hc => ⟨hc.active, hc.internal⟩

/-- Between two events no state is being entered. -/
theorem closed_enteringState (k : Nat) :
  Closed fun c => c.enteringState = k
  where
  enter state request ok h := (enteringState_enter state request ok _).trans h
  stall state h := (enteringState_stall state _).trans h
  switch next ok h := (enteringState_switch next ok _).trans h
  pending _ h := h
  forget h := h
  mode _ _ h := h

end SmControl

/-- A predicate is kept by a function. -/
def Keeps {ι : Type} (P : SmControl → Prop) (f : SmWorld ι → SmWorld ι) : Prop :=
  ∀ w, P w.sm.control → P (f w).sm.control

/-- A predicate is kept by the surroundings. -/
structure NciSmIo.Keeps {ι : Type} (E : NciSmIo ι) (P : SmControl → Prop) : Prop where
  signal : ∀ sig, Nci.Keeps P (E.signal sig)
  intfActivated : ∀ ntf, Nci.Keeps P (E.intfActivated ntf)
  sarSetMaxLogicalConnections : ∀ max, Nci.Keeps P (E.sarSetMaxLogicalConnections max)

variable {ι : Type} {E : NciSmIo ι} {P : SmControl → Prop}

theorem Keeps.comp {f g : SmWorld ι → SmWorld ι} (hg : Keeps P g) (hf : Keeps P f) :
  Keeps P fun w => g (f w)
  := fun w hw => hg _ (hf w hw)

/-- A function that leaves the control as it is keeps every predicate. -/
theorem Keeps.of_control {f : SmWorld ι → SmWorld ι} (h : ∀ w, (f w).sm.control = w.sm.control) :
  Keeps P f
  := by
  intro w hw
  rw [h]
  exact hw

theorem Keeps.ite {p : SmWorld ι → Prop} [∀ w, Decidable (p w)] {f g : SmWorld ι → SmWorld ι}
    (hf : Keeps P f) (hg : Keeps P g) :
  Keeps P fun w => if p w then f w else g w
  := by
  intro w hw
  dsimp only
  split
  · exact hf w hw
  · exact hg w hw

theorem keeps_id :
  Keeps P fun w : SmWorld ι => w
  := fun _ hw => hw

section Requests

variable (hP : SmControl.Steady P) (hE : E.Keeps P)
include hP hE

/-! ### Stalling and switching -/

omit hP in
theorem keeps_nciSmEmitPendingSignals :
  Keeps P (nciSmEmitPendingSignals E)
  := by
  have hsignal : ∀ sig, Keeps P (nciSmEmitSignal E sig) := by
    intro sig w hw
    rw [nciSmEmitSignal]
    split
    · exact hE.signal sig _ hw
    · exact hw
  exact (hsignal .lastState).comp (hsignal .nextState)

theorem keeps_nciSmError :
  Keeps P (nciSmError E)
  := by
  apply (keeps_nciSmEmitPendingSignals hE).comp
  intro w hw
  rw [control_nciSmStallInternal]
  exact hP.stall .error rfl hw

theorem keeps_nciSmSwitchInternal (next : NciState) :
  Keeps P (nciSmSwitchInternal E next)
  := by
  refine Keeps.ite ((keeps_nciSmEmitPendingSignals hE).comp ?_) keeps_id
  intro w hw
  obtain ⟨ok, hcontrol, -⟩ := control_nciSmSwitchBegin (E := E) next w
  rw [hcontrol]
  exact hP.switch next ok hw

theorem keeps_nciSmSwitchProc :
  Keeps P (nciSmSwitchProc E)
  := by
  intro w hw
  unfold nciSmSwitchProc
  split
  · exact keeps_nciSmSwitchInternal hP hE _ _ (hP.pending none hw)
  · exact hw

theorem keeps_nciSmSwitchTo (state : NciState) :
  Keeps P (nciSmSwitchTo E state)
  := by
  intro w hw
  by_cases hentering : w.sm.enteringState = 0
  · rw [nciSmSwitchTo_outside E hentering]
    exact keeps_nciSmSwitchInternal hP hE _ _ (hP.pending none hw)
  · rw [nciSmSwitchTo_entering E hentering]
    exact hP.pending (some state) hw

/-! ### Requests -/

theorem keeps_nciSmReset :
  Keeps P (nciSmReset E)
  := by
  apply (keeps_nciSmEmitPendingSignals hE).comp
  intro w hw
  apply keeps_nciSmSwitchInternal hP hE
  obtain ⟨ok, hcontrol, -⟩ := control_nciSmEnterStateInternal_internal (E := E)
    (show NciState.isInternal .init = true from rfl)
    (w.map fun self => { self with pendingSwitch := none, nextTransition := none })
  rw [hcontrol]
  exact hP.enter ok rfl rfl (hP.pending none (hP.forget hw))

theorem keeps_nciSmRestart :
  Keeps P (nciSmRestart E)
  := Keeps.ite (keeps_nciSmSwitchTo hP hE .idle) keeps_id

theorem keeps_nciSmSetOpMode (opMode : UInt32) :
  Keeps P (nciSmSetOpMode E opMode)
  := by
  intro w hw
  rw [nciSmSetOpMode]
  split
  · exact keeps_nciSmRestart hP hE _ (hP.mode opMode w.sm.techs hw)
  · exact hw

theorem keeps_nciSmSetTech (tech : UInt32) :
  Keeps P fun w => (nciSmSetTech E tech w).2
  := by
  intro w hw
  dsimp only
  rw [nciSmSetTech]
  split
  · exact keeps_nciSmRestart hP hE _ (hP.mode w.sm.opMode _ hw)
  · exact hw

theorem keeps_perform (r : SmRequest) :
  Keeps P fun w => r.perform E w
  := by
  cases r with
  | switchTo state => exact keeps_nciSmSwitchTo hP hE state
  | setOpMode opMode => exact keeps_nciSmSetOpMode hP hE opMode
  | setTech tech => exact keeps_nciSmSetTech hP hE tech
  | reset => exact keeps_nciSmReset hP hE

end Requests

section Machine

variable (hP : SmControl.Closed P) (hE : E.Keeps P)
include hP hE

/-! ### Entering a state -/

theorem keeps_nciSmEnterState {param : Option NciParam} (h : NciParam.Continues param)
    (state : NciState) :
  Keeps P (nciSmEnterState E state param)
  := by
  apply (keeps_nciSmEmitPendingSignals hE).comp
  intro w hw
  obtain ⟨request, ok, hcontrol, -⟩ := control_nciSmEnterStateInternal (E := E) h state w
  rw [hcontrol]
  exact hP.enter state request ok hw

theorem keeps_nciSmEnterHostSelect (ntf : List NciDiscoveryNtf) :
  Keeps P (nciSmEnterHostSelect E ntf)
  := by
  apply (keeps_nciSmEmitPendingSignals hE).comp
  intro w hw
  obtain ⟨request, ok, hcontrol, -⟩ := control_nciSmEnterWith (E := E)
    (greets_nciStateEnteredFlat .w4HostSelect (some (.w4HostSelect ntf))) w
  rw [hcontrol]
  exact hP.enter .w4HostSelect request ok hw

/-! ### Responses -/

theorem keeps_nciTransitionFinish (t : NciTransition) :
  Keeps P (nciTransitionFinish E t)
  := Keeps.ite (keeps_nciSmEnterState hP hE NciParam.continues_none t.dest) keeps_id

theorem keeps_nciTransitionRsp {received : SmWorld ι → SmWorld ι} (h : Keeps P received)
    (t : NciTransition) (status : NciRequestStatus) :
  Keeps P (nciTransitionRsp E t received status)
  := Keeps.ite keeps_id (Keeps.ite (keeps_nciSmError hP.steady hE) h)

omit hP hE in
theorem keeps_nciSmSendCommand (gid oid : UInt8) (payload : NciSm → Option (List UInt8))
    (resp : NciSmResponseFunc) :
  Keeps P fun w => (nciSmSendCommand E gid oid (payload w.sm) resp w).2
  := Keeps.of_control fun _ => rfl

theorem keeps_nciTransitionResetInitRsp (rsp : Option CoreInitRsp) :
  Keeps P (nciTransitionResetInitRsp E rsp)
  := by
  cases rsp with
  | some rsp =>
      intro w hw
      exact hE.sarSetMaxLogicalConnections rsp.maxLogicalConns _ hw
  | none => exact keeps_nciSmError hP.steady hE

theorem keeps_nciTransitionResetRsp (status : NciRequestStatus) (payload : List UInt8) :
  Keeps P (nciTransitionResetRsp E status payload)
  := by
  have herror := keeps_nciSmError hP.steady hE
  have hversion : ∀ version, Keeps P fun w : SmWorld ι =>
      w.map fun self => { self with version := version } :=
    fun version => Keeps.of_control fun _ => rfl
  apply keeps_nciTransitionRsp hP hE
  refine Keeps.ite ?_ (Keeps.ite ?_ herror)
  · exact (Keeps.ite (p := fun _ => startsWithOk payload)
      (keeps_nciSmSendCommand _ _ (fun _ => none) _) herror).comp (hversion .v1)
  · exact (Keeps.ite (p := fun _ => startsWithOk payload) keeps_id herror).comp (hversion .v2)

omit hP hE in
theorem keeps_nciTransitionIdleToDiscoveryConfigureRouting :
  Keeps P (nciTransitionIdleToDiscoveryConfigureRouting E)
  := by
  apply Keeps.of_control
  intro w
  rw [nciTransitionIdleToDiscoveryConfigureRouting]
  split_ifs <;> rfl

theorem keeps_nciTransitionIdleToDiscoveryGetConfigRsp (status : NciRequestStatus)
    (payload : List UInt8) :
  Keeps P (nciTransitionIdleToDiscoveryGetConfigRsp E status payload)
  := by
  apply keeps_nciTransitionRsp hP hE
  intro w hw
  dsimp only
  split
  · exact hw
  · exact keeps_nciTransitionIdleToDiscoveryConfigureRouting w hw

/-- A response function either goes on in the transition or ends it. -/
theorem keeps_call (resp : NciSmResponseFunc) (status : NciRequestStatus) (payload : List UInt8) :
  Keeps P (resp.call E status payload)
  := by
  have hrsp := fun t {received} (h : Keeps P received) =>
    keeps_nciTransitionRsp hP hE h t status
  have hfinish := keeps_nciTransitionFinish hP hE
  have herror := keeps_nciSmError hP.steady hE
  have hmap : Keeps P (nciTransitionIdleToDiscoverMap E) := Keeps.of_control fun _ => rfl
  have hrouting : ∀ entries resp, Keeps P (nciTransitionIdleToDiscoverySetRouting E entries resp) :=
    fun _ _ => Keeps.of_control fun _ => rfl
  cases resp with
  | resetRsp => exact keeps_nciTransitionResetRsp hP hE status payload
  | resetInitV1Rsp => exact hrsp .reset (keeps_nciTransitionResetInitRsp hP hE _)
  | resetInitV2Rsp => exact hrsp .reset (keeps_nciTransitionResetInitRsp hP hE _)
  | resetSetConfigRsp => exact hrsp .reset (hfinish .reset)
  | idleToDiscoveryGetConfigRsp =>
      exact keeps_nciTransitionIdleToDiscoveryGetConfigRsp hP hE status payload
  | idleToDiscoverySetConfigRsp =>
      exact hrsp .idleToDiscovery keeps_nciTransitionIdleToDiscoveryConfigureRouting
  | idleToDiscoverySetMixedRoutingRsp =>
      exact hrsp .idleToDiscovery (Keeps.ite hmap (hrouting _ _))
  | idleToDiscoverySetProtocolRoutingRsp =>
      exact hrsp .idleToDiscovery (Keeps.ite hmap (hrouting _ _))
  | idleToDiscoveryLastProtocolRoutingRsp => exact hrsp .idleToDiscovery hmap
  | idleToDiscoverySetTechRoutingRsp => exact hrsp .idleToDiscovery hmap
  | idleToDiscoverMapRsp =>
      exact hrsp .idleToDiscovery (Keeps.ite (Keeps.of_control fun _ => rfl) herror)
  | idleToDiscoveryDiscoverRsp =>
      exact hrsp .idleToDiscovery (Keeps.ite (hfinish .idleToDiscovery) herror)
  | deactivateToIdleRsp =>
      exact hrsp .deactivateToIdle (Keeps.ite (hfinish .deactivateToIdle) herror)
  | deactivateToDiscoveryRsp =>
      exact hrsp .deactivateToDiscovery (Keeps.ite keeps_id (Keeps.of_control fun _ => rfl))
  | deactivateToDiscoveryIdleRsp =>
      exact hrsp .deactivateToDiscovery
        (Keeps.ite (keeps_nciSmEnterState hP hE NciParam.continues_none .idle) herror)
  | pollActiveToIdleRsp => exact hrsp .pollActiveToIdle (Keeps.ite keeps_id herror)
  | listenActiveToIdleRsp =>
      apply hrsp .listenActiveToIdle
      exact Keeps.ite (Keeps.ite (hfinish .listenActiveToIdle) (Keeps.of_control fun _ => rfl))
        herror
  | w4HostSelectRsp => exact keeps_id

/-! ### Notifications -/

theorem keeps_nciDefaultHandleNtf (gid oid : UInt8) (payload : List UInt8) :
  Keeps P (nciDefaultHandleNtf E gid oid payload)
  := by
  refine Keeps.ite ?_ keeps_id
  intro w hw
  unfold nciSmHandleConnCreditsNtf
  split
  · split
    · exact hw
    · exact keeps_nciSmError hP.steady hE w hw
  · exact keeps_nciSmError hP.steady hE w hw

theorem keeps_nciSmHandleRfDeactivateNtf (payload : List UInt8) :
  Keeps P (nciSmHandleRfDeactivateNtf E payload)
  := by
  intro w hw
  unfold nciSmHandleRfDeactivateNtf
  split
  · exact keeps_nciSmEnterState hP hE NciParam.continues_none .idle w hw
  · exact keeps_nciSmEnterState hP hE NciParam.continues_none .discovery w hw
  · exact keeps_nciSmError hP.steady hE w hw
  · exact keeps_nciSmError hP.steady hE w hw
  · exact keeps_nciSmError hP.steady hE w hw

theorem keeps_nciTransitionListenActiveToIdleHandleNtf (gid oid : UInt8) (payload : List UInt8) :
  Keeps P (nciTransitionListenActiveToIdleHandleNtf E gid oid payload)
  := by
  refine Keeps.ite ?_ (keeps_nciDefaultHandleNtf hP hE gid oid payload)
  cases nciParseRfDeactivateNtf payload with
  | some ntf =>
      exact Keeps.ite (keeps_nciTransitionFinish hP hE .listenActiveToIdle)
        (Keeps.of_control fun _ => rfl)
  | none => exact keeps_nciSmError hP.steady hE

theorem keeps_nciTransitionHandleNtf (t : NciTransition) (gid oid : UInt8) (payload : List UInt8) :
  Keeps P (nciTransitionHandleNtf E t gid oid payload)
  := by
  have hdefault := keeps_nciDefaultHandleNtf hP hE gid oid payload
  have hdeactivate : Keeps P (nciTransitionDeactivateHandleNtf E gid oid payload) :=
    Keeps.ite (keeps_nciSmHandleRfDeactivateNtf hP hE payload) hdefault
  cases t with
  | reset => exact Keeps.ite (keeps_nciSmSendCommand _ _ (fun _ => some [0x00, 0x00]) _) hdefault
  | deactivateToDiscovery => exact hdeactivate
  | pollActiveToIdle => exact hdeactivate
  | listenActiveToIdle => exact keeps_nciTransitionListenActiveToIdleHandleNtf hP hE gid oid payload
  | idleToDiscovery => exact hdefault
  | deactivateToIdle => exact hdefault

omit hP in
theorem keeps_nciSmIntfActivated (ntf : NciIntfActivationNtf) :
  Keeps P (nciSmIntfActivated E ntf)
  := fun _ hw => hE.intfActivated ntf _ hw

/-- A first discovery that is the last one. -/
def LastDiscovery (gid oid : UInt8) (payload : List UInt8) : Prop :=
  gid = nciGidRf ∧ oid = nciOidRfDiscover
    ∧ (parseDiscover payload).map NciDiscoveryNtf.last = some true

theorem keeps_nciStateDiscoveryHandleNtf {gid oid : UInt8} {payload : List UInt8}
    (h : ¬LastDiscovery gid oid payload) :
  Keeps P (nciStateDiscoveryHandleNtf E gid oid payload)
  := by
  intro w hw
  have henter := fun state => keeps_nciSmEnterState hP hE NciParam.continues_none state
  rw [nciStateDiscoveryHandleNtf]
  split_ifs with hdiscover hactivated
  · unfold nciStateDiscoveryDiscoverNtf
    split
    · rename_i ntf hntf
      have hlast : NciParam.Continues (some (.w4AllDiscoveries ntf)) := by
        change ntf.last = false
        rw [Bool.eq_false_iff]
        intro hlast
        exact h ⟨hdiscover.1, hdiscover.2, by rw [hntf, Option.map_some, hlast]⟩
      exact keeps_nciSmEnterState hP hE hlast _ w hw
    · exact hw
  · unfold nciStateDiscoveryIntfActivatedNtf
    dsimp only
    split
    · exact keeps_nciSmIntfActivated hE _ _ (henter _ w hw)
    · exact keeps_nciSmSwitchTo hP.steady hE .idle _ (henter _ w hw)
  · exact keeps_nciDefaultHandleNtf hP hE gid oid payload w hw

theorem keeps_nciStateW4AllDiscoveriesHandleNtf (gid oid : UInt8) (payload : List UInt8) :
  Keeps P (nciStateW4AllDiscoveriesHandleNtf E gid oid payload)
  := by
  refine Keeps.ite ?_ (keeps_nciDefaultHandleNtf hP hE gid oid payload)
  intro w hw
  unfold nciStateW4AllDiscoveriesDiscoverNtf
  split
  · rw [nciStateW4AllDiscoveriesHandleDiscovery]
    split
    · exact keeps_nciSmEnterHostSelect hP hE _ _ hw
    · exact hw
  · exact hw

theorem keeps_nciStateW4HostSelectHandleNtf (gid oid : UInt8) (payload : List UInt8) :
  Keeps P (nciStateW4HostSelectHandleNtf E gid oid payload)
  := by
  have hswitch := keeps_nciSmSwitchTo hP.steady hE .discovery
  refine Keeps.ite hswitch (Keeps.ite ?_ (keeps_nciDefaultHandleNtf hP hE gid oid payload))
  intro w hw
  have henter := keeps_nciSmEnterState hP hE NciParam.continues_none .pollActive w hw
  unfold nciStateW4HostSelectHandleIntfActivatedNtf
  split
  · exact keeps_nciSmIntfActivated hE _ _ henter
  · exact hswitch _ henter

theorem keeps_nciStateListenActiveHandleNtf (gid oid : UInt8) (payload : List UInt8) :
  Keeps P (nciStateListenActiveHandleNtf E gid oid payload)
  := by
  refine Keeps.ite (keeps_nciSmSwitchTo hP.steady hE .discovery)
    (Keeps.ite ?_ (keeps_nciDefaultHandleNtf hP hE gid oid payload))
  have henter := fun state => keeps_nciSmEnterState hP hE NciParam.continues_none state
  intro w hw
  unfold nciStateListenActiveRfDeactivateNtf
  split
  · exact henter _ w hw
  · exact henter _ w hw
  · exact henter _ w hw
  · exact keeps_nciSmError hP.steady hE w hw
  · exact keeps_nciSmError hP.steady hE w hw

theorem keeps_nciStateListenSleepHandleNtf (gid oid : UInt8) (payload : List UInt8) :
  Keeps P (nciStateListenSleepHandleNtf E gid oid payload)
  := by
  have henter := fun state => keeps_nciSmEnterState hP hE NciParam.continues_none state
  have herror := keeps_nciSmError hP.steady hE
  refine Keeps.ite ?_ (Keeps.ite ?_ (keeps_nciDefaultHandleNtf hP hE gid oid payload))
  · intro w hw
    unfold nciStateListenSleepIntfActivatedNtf
    split
    · split
      · exact keeps_nciSmIntfActivated hE _ _ (henter _ w hw)
      · exact herror w hw
    · exact herror w hw
  · intro w hw
    unfold nciStateListenSleepRfDeactivateNtf
    split
    · exact henter _ w hw
    all_goals exact herror w hw

theorem keeps_nciStateHandleNtf {gid oid : UInt8} {payload : List UInt8} (state : NciState)
    (h : state = .discovery → ¬LastDiscovery gid oid payload) :
  Keeps P (nciStateHandleNtf E state gid oid payload)
  := by
  have hdefault := keeps_nciDefaultHandleNtf hP hE gid oid payload
  cases state with
  | discovery => exact keeps_nciStateDiscoveryHandleNtf hP hE (h rfl)
  | w4AllDiscoveries => exact keeps_nciStateW4AllDiscoveriesHandleNtf hP hE gid oid payload
  | w4HostSelect => exact keeps_nciStateW4HostSelectHandleNtf hP hE gid oid payload
  | pollActive =>
      exact Keeps.ite (keeps_nciSmSwitchTo hP.steady hE .discovery)
        (Keeps.ite (keeps_nciSmHandleRfDeactivateNtf hP hE payload) hdefault)
  | listenActive => exact keeps_nciStateListenActiveHandleNtf hP hE gid oid payload
  | listenSleep => exact keeps_nciStateListenSleepHandleNtf hP hE gid oid payload
  | init => exact hdefault
  | error => exact hdefault
  | stop => exact hdefault
  | idle => exact hdefault

end Machine

/-! ### Runs -/

/-- A notification that the machine receives in RFST_DISCOVERY, when no transition is active, is
a first discovery that is the last one. -/
def LastDiscoveryIn (sm : NciSm) : SmEvent → Prop
  | .notification gid oid payload =>
      sm.activeTransition = none ∧ sm.lastState = .discovery ∧ LastDiscovery gid oid payload
  | _ => False

variable {H : SmHost}

/-- What the requests that are made in callbacks keep is kept in the callbacks. -/
theorem keeps_ioWith {p : List SmRequest → SmWorld SmHistory → SmWorld SmHistory}
    (h : ∀ requests, Keeps P (p requests)) :
  (H.ioWith p).Keeps P
  := by
  have hnote : ∀ a, Keeps P fun w : SmWorld SmHistory => w.note a :=
    fun a => Keeps.of_control fun _ => rfl
  constructor
  · exact fun sig w hw => h _ _ (hnote (.signal sig w.sm) w hw)
  · exact fun ntf w hw => h _ _ (hnote _ w hw)
  · exact fun max w hw => h _ _ (hnote _ w hw)

theorem SmHost.keeps_perform (H : SmHost) (n : Nat) (hP : SmControl.Steady P)
    (requests : List SmRequest) :
  Keeps P (H.perform n requests)
  := by
  induction n generalizing requests with
  | zero => exact keeps_id
  | succ n ih =>
      induction requests with
      | nil => exact keeps_id
      | cons r requests ihRequests =>
          exact ihRequests.comp (Nci.keeps_perform hP (keeps_ioWith ih) r)

/-- However deep callbacks are nested, they keep what requests keep. -/
theorem SmHost.keeps_io (H : SmHost) (n : Nat) (hP : SmControl.Steady P) :
  (H.io n).Keeps P
  := keeps_ioWith (H.keeps_perform n hP)

variable (hP : SmControl.Closed P)
include hP

theorem SmHost.keeps_answer (n : Nat) (status : NciRequestStatus) (payload : List UInt8) :
  Keeps P (H.answer n status payload)
  := by
  intro w hw
  unfold SmHost.answer
  split
  · exact keeps_call hP (H.keeps_io n hP.steady) _ status payload _ hw
  · exact hw

/-- What is kept when something is done about an event. -/
theorem SmHost.handle_keeps (n : Nat) {w : SmWorld SmHistory} {e : SmEvent}
    (he : ¬LastDiscoveryIn w.sm e) (hw : P w.sm.control) :
  P (H.handle n w e).sm.control
  := by
  have hE := H.keeps_io n hP.steady
  have herror := keeps_nciSmError hP.steady hE
  cases e with
  | request r => exact Nci.keeps_perform hP.steady hE r w hw
  | notification gid oid payload =>
      rw [SmHost.handle]
      unfold nciSmHandleNtf
      split
      · exact keeps_nciTransitionHandleNtf hP hE _ gid oid payload w hw
      · rename_i hactive
        exact keeps_nciStateHandleNtf hP hE _ (fun hlast h => he ⟨hactive, hlast, h⟩) w hw
  | response payload => exact SmHost.keeps_answer hP n .success payload w hw
  | commandTimeout =>
      rw [SmHost.handle]
      split
      · exact herror _ (SmHost.keeps_answer hP n .timeout [] w hw)
      · exact hw
  | transitionTimeout t =>
      rw [SmHost.handle]
      split
      · exact herror _ hw
      · exact hw
  | idle => exact keeps_nciSmSwitchProc hP.steady hE w hw
  | error => exact herror w hw

/-- What a step keeps. -/
theorem SmHost.step_keeps (n : Nat) {w : SmWorld SmHistory} {e : SmEvent}
    (he : ¬LastDiscoveryIn w.sm e) (hw : P w.sm.control) :
  P (H.step n w e).sm.control
  := SmHost.handle_keeps hP n (w := w.note (.arrived e)) he hw

/-- What a run keeps. -/
theorem SmHost.run_keeps (n : Nat) {w : SmWorld SmHistory} {events : List SmEvent}
    (he : ∀ earlier e later, events = earlier ++ e :: later →
      ¬LastDiscoveryIn (H.run n w earlier).sm e)
    (hw : P w.sm.control) :
  P (H.run n w events).sm.control
  := by
  induction events generalizing w with
  | nil => exact hw
  | cons e events ih =>
      apply ih (w := H.step n w e)
      · intro earlier e' later hevents
        exact he (e :: earlier) e' later (congrArg (e :: ·) hevents)
      · exact SmHost.step_keeps hP n (he [] e events rfl) hw

end Nci
