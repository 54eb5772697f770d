import LibNciCore.Sm.Run

/-!
# What the machine upholds

A property of the machine together with what is behind its interface is upheld by all functions of
the machine, if it is upheld by the few things that all of them are made of: an active transition is
finished and another one is started, the last and the next state are set, signals are emitted, and
the functions behind the interface are called. Everything else the machine does to parts of itself
that the property does not depend on.
-/

namespace Nci

variable {ι : Type}

/-- The machines have the same states, pending signals, parameters, active transition, and running
timers. -/
structure NciSm.Alike (sm sm' : NciSm) : Prop where
  lastState : sm'.lastState = sm.lastState
  nextState : sm'.nextState = sm.nextState
  pendingSignals : sm'.pendingSignals = sm.pendingSignals
  llcVersion : sm'.llcVersion = sm.llcVersion
  llcWks : sm'.llcWks = sm.llcWks
  laNfcid1 : sm'.laNfcid1 = sm.laNfcid1
  liAHb : sm'.liAHb = sm.liAHb
  activeTransition : sm'.activeTransition = sm.activeTransition
  timeoutId : sm'.timeoutId = sm.timeoutId

/-- A property is upheld by a function. -/
def Upholds (P : SmWorld ι → Prop) (f : SmWorld ι → SmWorld ι) : Prop := ∀ w, P w → P (f w)

/-- A property is upheld by what the functions of the machine are made of. -/
structure NciSmIo.Upholds (E : NciSmIo ι) (P : SmWorld ι → Prop) : Prop where
  alike : ∀ {w : SmWorld ι} {sm : NciSm}, w.sm.Alike sm → P w → P { w with sm := sm }
  finish : Nci.Upholds P fun w => w.map nciSmFinishActiveTransition
  setLastState : ∀ state, Nci.Upholds P fun w => w.map (nciSmSetLastState state)
  setNextState : ∀ state, Nci.Upholds P fun w => w.map (nciSmSetNextState state)
  start : ∀ transition, Nci.Upholds P fun w => (nciSmStartTransition E transition w).2
  send : ∀ gid oid payload resp,
    Nci.Upholds P fun w => (nciSmSendCommand E gid oid payload resp w).2
  cancel : Nci.Upholds P fun w => { w with io := E.cancel w.sm w.io }
  sarSetMaxLogicalConnections : ∀ max, Nci.Upholds P (E.sarSetMaxLogicalConnections max)
  sarSetMaxControlPayloadSize : ∀ max,
    Nci.Upholds P fun w => { w with io := E.sarSetMaxControlPayloadSize max w.io }
  sarSetMaxDataPayloadSize : ∀ max,
    Nci.Upholds P fun w => { w with io := E.sarSetMaxDataPayloadSize max w.io }
  sarSetInitialCredits : ∀ cid credits,
    Nci.Upholds P fun w => { w with io := E.sarSetInitialCredits cid credits w.io }
  sarAddCredits : ∀ cid credits,
    Nci.Upholds P fun w => { w with io := E.sarAddCredits cid credits w.io }
  emitSignal : ∀ sig, Nci.Upholds P (nciSmEmitSignal E sig)
  intfActivated : ∀ ntf, Nci.Upholds P (E.intfActivated ntf)

variable {E : NciSmIo ι} {P : SmWorld ι → Prop}

/-! ### Leaving a state -/

theorem alike_nciSmLeaveActiveState (self : NciSm) :
  self.Alike (nciSmLeaveActiveState self)
  := by
  rw [nciSmLeaveActiveState]
  split
  · rename_i state _
    cases state <;> exact ⟨rfl, rfl, rfl, rfl, rfl, rfl, rfl, rfl, rfl⟩
  · exact ⟨rfl, rfl, rfl, rfl, rfl, rfl, rfl, rfl, rfl⟩

theorem alike_nciSmReplaceActiveState (state : NciState) (self : NciSm) :
  self.Alike (nciSmReplaceActiveState state self)
  := by
  obtain ⟨h1, h2, h3, h4, h5, h6, h7, h8, h9⟩ := alike_nciSmLeaveActiveState self
  exact ⟨h1, h2, h3, h4, h5, h6, h7, h8, h9⟩

/-! ### Finishing and starting transitions -/

/-- The machines have the same states, pending signals and parameters. -/
structure NciSm.Akin (sm sm' : NciSm) : Prop where
  lastState : sm'.lastState = sm.lastState
  nextState : sm'.nextState = sm.nextState
  pendingSignals : sm'.pendingSignals = sm.pendingSignals
  llcVersion : sm'.llcVersion = sm.llcVersion
  llcWks : sm'.llcWks = sm.llcWks
  laNfcid1 : sm'.laNfcid1 = sm.laNfcid1
  liAHb : sm'.liAHb = sm.liAHb

theorem NciSm.Akin.refl (sm : NciSm) :
  sm.Akin sm
  := ⟨rfl, rfl, rfl, rfl, rfl, rfl, rfl⟩

theorem NciSm.Akin.trans {sm sm' sm'' : NciSm} (h : sm.Akin sm') (h' : sm'.Akin sm'') :
  sm.Akin sm''
  := ⟨h'.lastState.trans h.lastState, h'.nextState.trans h.nextState,
    h'.pendingSignals.trans h.pendingSignals, h'.llcVersion.trans h.llcVersion,
    h'.llcWks.trans h.llcWks, h'.laNfcid1.trans h.laNfcid1, h'.liAHb.trans h.liAHb⟩

theorem NciSm.Alike.akin {sm sm' : NciSm} (h : sm.Alike sm') :
  sm.Akin sm'
  := ⟨h.lastState, h.nextState, h.pendingSignals, h.llcVersion, h.llcWks, h.laNfcid1, h.liAHb⟩

theorem akin_nciSmFinishActiveTransition (self : NciSm) :
  self.Akin (nciSmFinishActiveTransition self)
  := by
  rw [nciSmFinishActiveTransition]
  split
  · rename_i t _
    cases t <;> exact ⟨rfl, rfl, rfl, rfl, rfl, rfl, rfl⟩
  · exact NciSm.Akin.refl self

/-- Starting a transition leaves states, signals and parameters alone, and what is behind the
interface does no more than send a command. -/
theorem akin_nciSmStartTransition (E : NciSmIo ι) (t : NciTransition) (w : SmWorld ι) :
  w.sm.Akin (nciSmStartTransition E t w).2.sm
    ∧ ∃ gid oid payload resp sm,
      (nciSmStartTransition E t w).2.io = (E.send gid oid payload resp sm w.io).2
  := by
  have hmark : w.sm.Akin (nciSmMarkActive t w.sm) := by
    rw [nciSmMarkActive]
    split
    · exact (akin_nciSmFinishActiveTransition w.sm).trans ⟨rfl, rfl, rfl, rfl, rfl, rfl, rfl⟩
    · exact ⟨rfl, rfl, rfl, rfl, rfl, rfl, rfl⟩
  obtain ⟨sent, hstart, hsent, hio⟩ : ∃ sent,
      nciTransitionStart E t (w.map (nciSmMarkActive t)) = sent
        ∧ (nciSmMarkActive t w.sm).Akin sent.2.sm
        ∧ ∃ gid oid payload resp sm, sent.2.io = (E.send gid oid payload resp sm w.io).2 := by
    refine ⟨_, rfl, ?_⟩
    cases t <;> exact ⟨⟨rfl, rfl, rfl, rfl, rfl, rfl, rfl⟩, _, _, _, _, _, rfl⟩
  rw [nciSmStartTransition, hstart]
  split
  · have hleave := (alike_nciSmLeaveActiveState sent.2.sm).akin
    exact ⟨(hmark.trans hsent).trans (hleave.trans ⟨rfl, rfl, rfl, rfl, rfl, rfl, rfl⟩), hio⟩
  · refine ⟨(hmark.trans hsent).trans ?_, hio⟩
    rw [SmWorld.map_sm, nciSmUnmarkActive]
    split
    · exact ⟨rfl, rfl, rfl, rfl, rfl, rfl, rfl⟩
    · exact NciSm.Akin.refl _

/-! ### Functions that uphold a property -/

theorem upholds_id :
  Upholds P fun w => w
  := fun _ hw => hw

theorem Upholds.comp {f g : SmWorld ι → SmWorld ι} (hg : Upholds P g) (hf : Upholds P f) :
  Upholds P fun w => g (f w)
  := fun w hw => hg _ (hf w hw)

theorem Upholds.ite {p : SmWorld ι → Prop} [∀ w, Decidable (p w)] {f g : SmWorld ι → SmWorld ι}
    (hf : Upholds P f) (hg : Upholds P g) :
  Upholds P fun w => if p w then f w else g w
  := by
  intro w hw
  dsimp only
  split
  · exact hf w hw
  · exact hg w hw

section Machine

variable (hE : E.Upholds P)
include hE

/-- Parts of the machine are changed that the property does not depend on. -/
theorem upholds_map {f : NciSm → NciSm} (h : ∀ self : NciSm, self.Alike (f self)) :
  Upholds P fun w => w.map f
  := fun w hw => hE.alike (h w.sm) hw

theorem upholds_nciSmEmitPendingSignals :
  Upholds P (nciSmEmitPendingSignals E)
  := (hE.emitSignal .lastState).comp (hE.emitSignal .nextState)

/-! ### Entering a state -/

/-- Entering a state whose own part upholds the property. -/
theorem upholds_nciSmEnterWith {entered : NciState → Option NciParam → SmWorld ι → SmWorld ι}
    {state : NciState} {param : Option NciParam} (h : Upholds P (entered state param)) :
  Upholds P (nciSmEnterWith E entered state param)
  := by
  have hbegin : Upholds P fun w => w.map nciSmBeginEntering :=
    hE.finish.comp (upholds_map hE (f := fun self =>
      { self with enteringState := self.enteringState + 1 })
      fun _ => ⟨rfl, rfl, rfl, rfl, rfl, rfl, rfl, rfl, rfl⟩)
  have hactivate : Upholds P (nciSmActivate entered state param) := by
    refine Upholds.ite h ?_
    exact (upholds_map hE (f := nciStateDefaultEnter state)
      fun _ => ⟨rfl, rfl, rfl, rfl, rfl, rfl, rfl, rfl, rfl⟩).comp
      (h.comp (upholds_map hE (alike_nciSmReplaceActiveState state)))
  have hnext : Upholds P (nciSmStartNextTransition E state) := by
    intro w hw
    have hw' : P (w.map fun self => { self with nextTransition := none }) :=
      hE.alike ⟨rfl, rfl, rfl, rfl, rfl, rfl, rfl, rfl, rfl⟩ hw
    rw [nciSmStartNextTransition]
    split
    · exact hE.start _ _ hw'
    · exact hw'
  have hend : Upholds P fun w => w.map (nciSmEndEntering state) := by
    intro w hw
    have hlast := hE.setLastState state w hw
    have hnext : P (w.map fun self =>
        if (nciSmSetLastState state self).activeTransition.isNone then
          nciSmSetNextState state (nciSmSetLastState state self)
        else nciSmSetLastState state self) := by
      rw [SmWorld.map]
      split
      · exact hE.setNextState state _ hlast
      · exact hlast
    exact upholds_map hE (f := fun self => { self with enteringState := self.enteringState - 1 })
      (fun _ => ⟨rfl, rfl, rfl, rfl, rfl, rfl, rfl, rfl, rfl⟩) _ hnext
  exact hend.comp (hnext.comp (hactivate.comp hbegin))

theorem upholds_nciStateEnteredFlat (state : NciState) (param : Option NciParam) :
  Upholds P (nciStateEnteredFlat E state param)
  := by
  cases state
  case discovery => exact hE.sarSetMaxDataPayloadSize 0
  case w4HostSelect =>
    intro w hw
    rw [nciStateEnteredFlat]
    unfold nciStateW4HostSelectEntered
    split
    · dsimp only
      split
      · exact hE.send _ _ _ _ w hw
      · exact hE.alike ⟨rfl, rfl, rfl, rfl, rfl, rfl, rfl, rfl, rfl⟩ hw
    · exact hw
  all_goals exact upholds_id

theorem upholds_nciSmEnterHostSelect (ntf : List NciDiscoveryNtf) :
  Upholds P (nciSmEnterHostSelect E ntf)
  := (upholds_nciSmEmitPendingSignals hE).comp
      (upholds_nciSmEnterWith hE (upholds_nciStateEnteredFlat hE _ _))

theorem upholds_nciStateW4AllDiscoveriesHandleDiscovery (ntf : NciDiscoveryNtf) :
  Upholds P (nciStateW4AllDiscoveriesHandleDiscovery E ntf)
  := by
  intro w hw
  have hw' : P (w.map fun self => { self with discoveries := self.discoveries ++ [ntf] }) :=
    hE.alike ⟨rfl, rfl, rfl, rfl, rfl, rfl, rfl, rfl, rfl⟩ hw
  rw [nciStateW4AllDiscoveriesHandleDiscovery]
  split
  · exact upholds_nciSmEnterHostSelect hE _ _ hw'
  · exact hw'

theorem upholds_nciStateEntered (state : NciState) (param : Option NciParam) :
  Upholds P (nciStateEntered E state param)
  := by
  intro w hw
  unfold nciStateEntered
  split
  · have hw' : P (w.map fun self => { self with discoveries := [] }) :=
      hE.alike ⟨rfl, rfl, rfl, rfl, rfl, rfl, rfl, rfl, rfl⟩ hw
    dsimp only
    split
    · exact upholds_nciStateW4AllDiscoveriesHandleDiscovery hE _ _ hw'
    · exact hw'
  · exact upholds_nciStateEnteredFlat hE _ param w hw

theorem upholds_nciSmEnterStateInternal (state : NciState) (param : Option NciParam) :
  Upholds P (nciSmEnterStateInternal E state param)
  := upholds_nciSmEnterWith hE (upholds_nciStateEntered hE state param)

theorem upholds_nciSmEnterState (state : NciState) (param : Option NciParam) :
  Upholds P (nciSmEnterState E state param)
  := (upholds_nciSmEmitPendingSignals hE).comp (upholds_nciSmEnterStateInternal hE state param)

/-! ### Stalling and switching -/

theorem upholds_nciSmStallInternal (type : NciStall) :
  Upholds P (nciSmStallInternal E type)
  := by
  intro w hw
  have hset := hE.setNextState type.state _ (hE.setLastState type.state _
    (hE.finish _ (hE.cancel w hw)))
  rw [nciSmStallInternal, nciSmStalled]
  split
  · obtain ⟨h1, h2, h3, h4, h5, h6, h7, h8, h9⟩ := alike_nciSmReplaceActiveState type.state
      (nciSmSetNextState type.state
        (nciSmSetLastState type.state (nciSmFinishActiveTransition w.sm)))
    exact hE.alike ⟨h1, h2, h3, h4, h5, h6, h7, h8, h9⟩ hset
  · exact hset

theorem upholds_nciSmError :
  Upholds P (nciSmError E)
  := (upholds_nciSmEmitPendingSignals hE).comp (upholds_nciSmStallInternal hE .error)

/-- The next transition is set together with the next state. -/
theorem upholds_setNext (state : NciState) (next : Option NciTransition) :
  Upholds P fun w => w.map fun self =>
    nciSmSetNextState state { self with nextTransition := next }
  := (hE.setNextState state).comp (upholds_map hE
      (f := fun self => { self with nextTransition := next })
      fun _ => ⟨rfl, rfl, rfl, rfl, rfl, rfl, rfl, rfl, rfl⟩)

theorem upholds_nciSmSwitchActive (dest next : NciState) :
  Upholds P (nciSmSwitchActive E dest next)
  := by
  intro w hw
  unfold nciSmSwitchActive
  split
  · split
    · exact upholds_setNext hE next _ w hw
    · split
      · exact upholds_nciSmEnterStateInternal hE next none w hw
      · exact upholds_nciSmStallInternal hE .error w hw
  · exact hw

theorem upholds_nciSmSwitchViaIdle (next : NciState) :
  Upholds P (nciSmSwitchViaIdle E next)
  := by
  intro w hw
  have hstart := hE.start ((nciStateGetTransition w.sm.lastState .idle).getD .reset) w hw
  unfold nciSmSwitchViaIdle
  dsimp only
  split
  · split
    · exact hE.setNextState .idle _ hstart
    · split
      · exact upholds_setNext hE next _ _ hstart
      · exact upholds_nciSmStallInternal hE .error _
          (hE.alike ⟨rfl, rfl, rfl, rfl, rfl, rfl, rfl, rfl, rfl⟩ hstart)
  · exact upholds_nciSmStallInternal hE .error _ hstart

theorem upholds_nciSmSwitchIdle (next : NciState) :
  Upholds P (nciSmSwitchIdle E next)
  := by
  intro w hw
  unfold nciSmSwitchIdle
  split
  · rename_i transition _
    have hstart := hE.start transition w hw
    dsimp only
    split
    · exact hE.setNextState next _ hstart
    · exact upholds_nciSmStallInternal hE .error _ hstart
  · split
    · exact upholds_nciSmEnterStateInternal hE next none w hw
    · exact upholds_nciSmSwitchViaIdle hE next w hw

theorem upholds_nciSmSwitchInternal (next : NciState) :
  Upholds P (nciSmSwitchInternal E next)
  := by
  refine Upholds.ite ((upholds_nciSmEmitPendingSignals hE).comp ?_) upholds_id
  intro w hw
  have hw' : P (w.map fun self => { self with nextTransition := none }) :=
    hE.alike ⟨rfl, rfl, rfl, rfl, rfl, rfl, rfl, rfl, rfl⟩ hw
  unfold nciSmSwitchBegin
  dsimp only
  split
  · exact upholds_nciSmSwitchActive hE _ next _ hw'
  · exact upholds_nciSmSwitchIdle hE next _ hw'

theorem upholds_nciSmSwitchProc :
  Upholds P (nciSmSwitchProc E)
  := by
  intro w hw
  unfold nciSmSwitchProc
  split
  · exact upholds_nciSmSwitchInternal hE _ _
      (hE.alike ⟨rfl, rfl, rfl, rfl, rfl, rfl, rfl, rfl, rfl⟩ hw)
  · exact hw

theorem upholds_nciSmSwitchTo (state : NciState) :
  Upholds P (nciSmSwitchTo E state)
  := by
  intro w hw
  have hw' : P (w.map fun self => { self with pendingSwitch := none }) :=
    hE.alike ⟨rfl, rfl, rfl, rfl, rfl, rfl, rfl, rfl, rfl⟩ hw
  by_cases hentering : w.sm.enteringState = 0
  · rw [nciSmSwitchTo_outside E hentering]
    exact upholds_nciSmSwitchInternal hE state _ hw'
  · rw [nciSmSwitchTo_entering E hentering]
    exact hE.alike ⟨rfl, rfl, rfl, rfl, rfl, rfl, rfl, rfl, rfl⟩ hw

/-! ### Requests -/

theorem upholds_nciSmReset :
  Upholds P (nciSmReset E)
  := (upholds_nciSmEmitPendingSignals hE).comp ((upholds_nciSmSwitchInternal hE .idle).comp
      ((upholds_nciSmEnterStateInternal hE .init none).comp
        (upholds_map hE fun _ => ⟨rfl, rfl, rfl, rfl, rfl, rfl, rfl, rfl, rfl⟩)))

theorem upholds_nciSmRestart :
  Upholds P (nciSmRestart E)
  := Upholds.ite (upholds_nciSmSwitchTo hE .idle) upholds_id

theorem upholds_nciSmSetOpMode (opMode : UInt32) :
  Upholds P (nciSmSetOpMode E opMode)
  := by
  intro w hw
  rw [nciSmSetOpMode]
  split
  · exact upholds_nciSmRestart hE _ (hE.alike ⟨rfl, rfl, rfl, rfl, rfl, rfl, rfl, rfl, rfl⟩ hw)
  · exact hw

theorem upholds_nciSmSetTech (tech : UInt32) :
  Upholds P fun w => (nciSmSetTech E tech w).2
  := by
  intro w hw
  dsimp only
  rw [nciSmSetTech]
  split
  · exact upholds_nciSmRestart hE _ (hE.alike ⟨rfl, rfl, rfl, rfl, rfl, rfl, rfl, rfl, rfl⟩ hw)
  · exact hw

theorem upholds_perform (r : SmRequest) :
  Upholds P fun w => r.perform E w
  := by
  cases r with
  | switchTo state => exact upholds_nciSmSwitchTo hE state
  | setOpMode opMode => exact upholds_nciSmSetOpMode hE opMode
  | setTech tech => exact upholds_nciSmSetTech hE tech
  | reset => exact upholds_nciSmReset hE

/-! ### Responses -/

theorem upholds_nciTransitionFinish (t : NciTransition) :
  Upholds P (nciTransitionFinish E t)
  := Upholds.ite (upholds_nciSmEnterState hE t.dest none) upholds_id

theorem upholds_nciTransitionRsp {received : SmWorld ι → SmWorld ι} (h : Upholds P received)
    (t : NciTransition) (status : NciRequestStatus) :
  Upholds P (nciTransitionRsp E t received status)
  := Upholds.ite upholds_id (Upholds.ite (upholds_nciSmError hE) h)

/-- A command is sent that depends on the machine. -/
theorem upholds_send (gid oid : UInt8) (payload : NciSm → Option (List UInt8))
    (resp : NciSmResponseFunc) :
  Upholds P fun w => (nciSmSendCommand E gid oid (payload w.sm) resp w).2
  := fun w hw => hE.send gid oid (payload w.sm) resp w hw

theorem upholds_nciTransitionResetInitRsp (rsp : Option CoreInitRsp) :
  Upholds P (nciTransitionResetInitRsp E rsp)
  := by
  cases rsp with
  | some rsp =>
      intro w hw
      have htold : w.sm.Alike { w.sm with
          rfInterfaces := rsp.rfInterfaces
          nfccDiscovery := rsp.nfccDiscovery
          nfccRouting := rsp.nfccRouting
          nfccPower := rsp.nfccPower
          maxRoutingTableSize := rsp.maxRoutingTableSize } :=
        ⟨rfl, rfl, rfl, rfl, rfl, rfl, rfl, rfl, rfl⟩
      have hmax := hE.sarSetMaxLogicalConnections rsp.maxLogicalConns _ (hE.alike htold hw)
      have hlimits := hE.sarSetMaxDataPayloadSize 0 _
        (hE.sarSetMaxControlPayloadSize rsp.maxControlPayload _ hmax)
      exact upholds_send hE _ _ (fun sm => some (nciTransitionResetSetConfigCmd sm)) _ _ hlimits
  | none => exact upholds_nciSmError hE

theorem upholds_nciTransitionResetRsp (status : NciRequestStatus) (payload : List UInt8) :
  Upholds P (nciTransitionResetRsp E status payload)
  := by
  have herror := upholds_nciSmError hE
  have hversion : ∀ version, Upholds P fun w : SmWorld ι =>
      w.map fun self => { self with version := version } :=
    fun version => upholds_map hE fun _ => ⟨rfl, rfl, rfl, rfl, rfl, rfl, rfl, rfl, rfl⟩
  apply upholds_nciTransitionRsp hE
  refine Upholds.ite ?_ (Upholds.ite ?_ herror)
  · exact (Upholds.ite (p := fun _ => startsWithOk payload)
      (hE.send _ _ none _) herror).comp (hversion .v1)
  · exact (Upholds.ite (p := fun _ => startsWithOk payload) upholds_id herror).comp (hversion .v2)

theorem upholds_nciTransitionIdleToDiscoverMap :
  Upholds P (nciTransitionIdleToDiscoverMap E)
  := upholds_send hE _ _ (fun sm => some (nciTransitionIdleToDiscoverMapCmd sm)) _

theorem upholds_nciTransitionIdleToDiscoverySetRouting
    (entries : NciSm → List UInt8 → List UInt8) (rsp : NciSmResponseFunc) :
  Upholds P (nciTransitionIdleToDiscoverySetRouting E entries rsp)
  := upholds_send hE _ _ (fun sm => some (nciTransitionIdleToDiscoverySetRoutingCmd sm entries)) _

theorem upholds_nciTransitionIdleToDiscoveryConfigureRouting :
  Upholds P (nciTransitionIdleToDiscoveryConfigureRouting E)
  := by
  have hmap := upholds_nciTransitionIdleToDiscoverMap hE
  have hrouting := upholds_nciTransitionIdleToDiscoverySetRouting hE
  intro w hw
  rw [nciTransitionIdleToDiscoveryConfigureRouting]
  split_ifs
  · exact hrouting _ _ w hw
  · exact hrouting _ _ w hw
  · exact hrouting _ _ w hw
  · exact hmap w hw
  · exact hmap w hw

theorem upholds_nciTransitionIdleToDiscoveryGetConfigRsp (status : NciRequestStatus)
    (payload : List UInt8) :
  Upholds P (nciTransitionIdleToDiscoveryGetConfigRsp E status payload)
  := by
  apply upholds_nciTransitionRsp hE
  intro w hw
  dsimp only
  split
  · exact hE.send _ _ _ _ w hw
  · exact upholds_nciTransitionIdleToDiscoveryConfigureRouting hE w hw

/-- A response function upholds the property. -/
theorem upholds_call (resp : NciSmResponseFunc) (status : NciRequestStatus) (payload : List UInt8) :
  Upholds P (resp.call E status payload)
  := by
  have hrsp := fun t {received} (h : Upholds P received) => upholds_nciTransitionRsp hE h t status
  have hfinish := upholds_nciTransitionFinish hE
  have herror := upholds_nciSmError hE
  have hmap := upholds_nciTransitionIdleToDiscoverMap hE
  have hrouting := upholds_nciTransitionIdleToDiscoverySetRouting hE
  cases resp with
  | resetRsp => exact upholds_nciTransitionResetRsp hE status payload
  | resetInitV1Rsp => exact hrsp .reset (upholds_nciTransitionResetInitRsp hE _)
  | resetInitV2Rsp => exact hrsp .reset (upholds_nciTransitionResetInitRsp hE _)
  | resetSetConfigRsp => exact hrsp .reset (hfinish .reset)
  | idleToDiscoveryGetConfigRsp =>
      exact upholds_nciTransitionIdleToDiscoveryGetConfigRsp hE status payload
  | idleToDiscoverySetConfigRsp =>
      exact hrsp .idleToDiscovery (upholds_nciTransitionIdleToDiscoveryConfigureRouting hE)
  | idleToDiscoverySetMixedRoutingRsp =>
      exact hrsp .idleToDiscovery (Upholds.ite hmap (hrouting _ _))
  | idleToDiscoverySetProtocolRoutingRsp =>
      exact hrsp .idleToDiscovery (Upholds.ite hmap (hrouting _ _))
  | idleToDiscoveryLastProtocolRoutingRsp => exact hrsp .idleToDiscovery hmap
  | idleToDiscoverySetTechRoutingRsp => exact hrsp .idleToDiscovery hmap
  | idleToDiscoverMapRsp =>
      exact hrsp .idleToDiscovery (Upholds.ite
        (upholds_send hE _ _ (fun sm => some (nciTransitionIdleToDiscoveryDiscoverCmd sm)) _)
          herror)
  | idleToDiscoveryDiscoverRsp =>
      exact hrsp .idleToDiscovery (Upholds.ite (hfinish .idleToDiscovery) herror)
  | deactivateToIdleRsp =>
      exact hrsp .deactivateToIdle (Upholds.ite (hfinish .deactivateToIdle) herror)
  | deactivateToDiscoveryRsp =>
      exact hrsp .deactivateToDiscovery (Upholds.ite upholds_id (hE.send _ _ _ _))
  | deactivateToDiscoveryIdleRsp =>
      exact hrsp .deactivateToDiscovery
        (Upholds.ite (upholds_nciSmEnterState hE .idle none) herror)
  | pollActiveToIdleRsp => exact hrsp .pollActiveToIdle (Upholds.ite upholds_id herror)
  | listenActiveToIdleRsp =>
      apply hrsp .listenActiveToIdle
      refine Upholds.ite (Upholds.ite (hfinish .listenActiveToIdle) ?_) herror
      exact upholds_map hE fun _ => ⟨rfl, rfl, rfl, rfl, rfl, rfl, rfl, rfl, rfl⟩
  | w4HostSelectRsp => exact upholds_id

/-! ### Notifications -/

theorem upholds_addCreditEntries (n : Nat) (entries : List UInt8) :
  Upholds P fun w => { w with io := addCreditEntries E n entries w.io }
  := by
  induction n generalizing entries with
  | zero => exact fun w hw => hw
  | succ n ih =>
      match entries with
      | [] => exact fun w hw => hw
      | [_] => exact fun w hw => hw
      | cid :: credits :: entries => exact (ih entries).comp (hE.sarAddCredits cid credits)

theorem upholds_nciDefaultHandleNtf (gid oid : UInt8) (payload : List UInt8) :
  Upholds P (nciDefaultHandleNtf E gid oid payload)
  := by
  refine Upholds.ite ?_ upholds_id
  intro w hw
  unfold nciSmHandleConnCreditsNtf
  split
  · split
    · exact upholds_addCreditEntries hE _ _ w hw
    · exact upholds_nciSmError hE w hw
  · exact upholds_nciSmError hE w hw

theorem upholds_nciSmHandleRfDeactivateNtf (payload : List UInt8) :
  Upholds P (nciSmHandleRfDeactivateNtf E payload)
  := by
  intro w hw
  unfold nciSmHandleRfDeactivateNtf
  split
  · exact upholds_nciSmEnterState hE .idle none w hw
  · exact upholds_nciSmEnterState hE .discovery none w hw
  · exact upholds_nciSmError hE w hw
  · exact upholds_nciSmError hE w hw
  · exact upholds_nciSmError hE w hw

theorem upholds_nciTransitionListenActiveToIdleHandleNtf (gid oid : UInt8) (payload : List UInt8) :
  Upholds P (nciTransitionListenActiveToIdleHandleNtf E gid oid payload)
  := by
  refine Upholds.ite ?_ (upholds_nciDefaultHandleNtf hE gid oid payload)
  cases nciParseRfDeactivateNtf payload with
  | some ntf =>
      exact Upholds.ite (upholds_nciTransitionFinish hE .listenActiveToIdle)
        (upholds_map hE fun _ => ⟨rfl, rfl, rfl, rfl, rfl, rfl, rfl, rfl, rfl⟩)
  | none => exact upholds_nciSmError hE

theorem upholds_nciTransitionHandleNtf (t : NciTransition) (gid oid : UInt8)
    (payload : List UInt8) :
  Upholds P (nciTransitionHandleNtf E t gid oid payload)
  := by
  have hdefault := upholds_nciDefaultHandleNtf hE gid oid payload
  have hdeactivate : Upholds P (nciTransitionDeactivateHandleNtf E gid oid payload) :=
    Upholds.ite (upholds_nciSmHandleRfDeactivateNtf hE payload) hdefault
  cases t with
  | reset => exact Upholds.ite (hE.send _ _ _ _) hdefault
  | deactivateToDiscovery => exact hdeactivate
  | pollActiveToIdle => exact hdeactivate
  | listenActiveToIdle => exact upholds_nciTransitionListenActiveToIdleHandleNtf hE gid oid payload
  | idleToDiscovery => exact hdefault
  | deactivateToIdle => exact hdefault

theorem upholds_nciSmIntfActivated (ntf : NciIntfActivationNtf) :
  Upholds P (nciSmIntfActivated E ntf)
  := fun w hw => hE.intfActivated ntf _ (hE.sarSetInitialCredits nciStaticRfConnId ntf.numCredits _
      (hE.sarSetMaxDataPayloadSize ntf.maxDataPacketSize w hw))

theorem upholds_nciStateDiscoveryHandleNtf (gid oid : UInt8) (payload : List UInt8) :
  Upholds P (nciStateDiscoveryHandleNtf E gid oid payload)
  := by
  intro w hw
  have henter := upholds_nciSmEnterState hE
  rw [nciStateDiscoveryHandleNtf]
  split_ifs
  · unfold nciStateDiscoveryDiscoverNtf
    split
    · exact henter _ _ w hw
    · exact hw
  · unfold nciStateDiscoveryIntfActivatedNtf
    dsimp only
    split
    · exact upholds_nciSmIntfActivated hE _ _ (henter _ none w hw)
    · exact upholds_nciSmSwitchTo hE .idle _ (henter _ none w hw)
  · exact upholds_nciDefaultHandleNtf hE gid oid payload w hw

theorem upholds_nciStateW4AllDiscoveriesHandleNtf (gid oid : UInt8) (payload : List UInt8) :
  Upholds P (nciStateW4AllDiscoveriesHandleNtf E gid oid payload)
  := by
  refine Upholds.ite ?_ (upholds_nciDefaultHandleNtf hE gid oid payload)
  intro w hw
  unfold nciStateW4AllDiscoveriesDiscoverNtf
  split
  · exact upholds_nciStateW4AllDiscoveriesHandleDiscovery hE _ w hw
  · exact hw

theorem upholds_nciStateW4HostSelectHandleNtf (gid oid : UInt8) (payload : List UInt8) :
  Upholds P (nciStateW4HostSelectHandleNtf E gid oid payload)
  := by
  have hswitch := upholds_nciSmSwitchTo hE .discovery
  refine Upholds.ite hswitch (Upholds.ite ?_ (upholds_nciDefaultHandleNtf hE gid oid payload))
  intro w hw
  have henter := upholds_nciSmEnterState hE .pollActive none w hw
  unfold nciStateW4HostSelectHandleIntfActivatedNtf
  split
  · exact upholds_nciSmIntfActivated hE _ _ henter
  · exact hswitch _ henter

theorem upholds_nciStateListenActiveHandleNtf (gid oid : UInt8) (payload : List UInt8) :
  Upholds P (nciStateListenActiveHandleNtf E gid oid payload)
  := by
  refine Upholds.ite (upholds_nciSmSwitchTo hE .discovery)
    (Upholds.ite ?_ (upholds_nciDefaultHandleNtf hE gid oid payload))
  have henter := upholds_nciSmEnterState hE
  intro w hw
  unfold nciStateListenActiveRfDeactivateNtf
  split
  · exact henter _ none w hw
  · exact henter _ none w hw
  · exact henter _ none w hw
  · exact upholds_nciSmError hE w hw
  · exact upholds_nciSmError hE w hw

theorem upholds_nciStateListenSleepHandleNtf (gid oid : UInt8) (payload : List UInt8) :
  Upholds P (nciStateListenSleepHandleNtf E gid oid payload)
  := by
  have henter := upholds_nciSmEnterState hE
  have herror := upholds_nciSmError hE
  refine Upholds.ite ?_ (Upholds.ite ?_ (upholds_nciDefaultHandleNtf hE gid oid payload))
  · intro w hw
    unfold nciStateListenSleepIntfActivatedNtf
    split
    · split
      · exact upholds_nciSmIntfActivated hE _ _ (henter _ none w hw)
      · exact herror w hw
    · exact herror w hw
  · intro w hw
    unfold nciStateListenSleepRfDeactivateNtf
    split
    · exact henter _ none w hw
    all_goals exact herror w hw

theorem upholds_nciStateHandleNtf (state : NciState) (gid oid : UInt8) (payload : List UInt8) :
  Upholds P (nciStateHandleNtf E state gid oid payload)
  := by
  have hdefault := upholds_nciDefaultHandleNtf hE gid oid payload
  cases state with
  | discovery => exact upholds_nciStateDiscoveryHandleNtf hE gid oid payload
  | w4AllDiscoveries => exact upholds_nciStateW4AllDiscoveriesHandleNtf hE gid oid payload
  | w4HostSelect => exact upholds_nciStateW4HostSelectHandleNtf hE gid oid payload
  | pollActive =>
      exact Upholds.ite (upholds_nciSmSwitchTo hE .discovery)
        (Upholds.ite (upholds_nciSmHandleRfDeactivateNtf hE payload) hdefault)
  | listenActive => exact upholds_nciStateListenActiveHandleNtf hE gid oid payload
  | listenSleep => exact upholds_nciStateListenSleepHandleNtf hE gid oid payload
  | init => exact hdefault
  | error => exact hdefault
  | stop => exact hdefault
  | idle => exact hdefault

theorem upholds_nciSmHandleNtf (gid oid : UInt8) (payload : List UInt8) :
  Upholds P (nciSmHandleNtf E gid oid payload)
  := by
  intro w hw
  unfold nciSmHandleNtf
  split
  · exact upholds_nciTransitionHandleNtf hE _ gid oid payload w hw
  · exact upholds_nciStateHandleNtf hE _ gid oid payload w hw

end Machine

/-! ### Runs -/

section Runs

variable {H : SmHost} {n : Nat} {P : SmWorld SmHistory → Prop}

/-- What is upheld if the requests in callbacks uphold it is upheld however deep callbacks are
nested. -/
theorem SmHost.upholds_io
    (h : ∀ perform : List SmRequest → SmWorld SmHistory → SmWorld SmHistory,
      (∀ requests, Upholds P (perform requests)) → (H.ioWith perform).Upholds P) (n : Nat) :
  (H.io n).Upholds P
  := by
  apply h
  induction n with
  | zero => exact fun _ => upholds_id
  | succ n ih =>
      intro requests
      induction requests with
      | nil => exact upholds_id
      | cons r requests ihRequests => exact ihRequests.comp (upholds_perform (h _ ih) r)

variable (hE : (H.io n).Upholds P) (hnote : ∀ a, Upholds P fun w => w.note a)
include hE hnote

theorem SmHost.upholds_answer (status : NciRequestStatus) (payload : List UInt8) :
  Upholds P (H.answer n status payload)
  := by
  intro w hw
  unfold SmHost.answer
  split
  · exact upholds_call hE _ status payload _ (hnote _ w hw)
  · exact hw

/-- A step upholds what the machine upholds, if it does so when a timer expires. -/
theorem SmHost.upholds_step
    (htimer : ∀ t, Upholds P fun w => nciSmError (H.io n) (w.map fun self =>
      { self with timeoutId := Function.update self.timeoutId t false })) (e : SmEvent) :
  Upholds P fun w => H.step n w e
  := by
  intro w hw
  have harrived : P (w.note (.arrived e)) := hnote _ w hw
  change P (H.handle n (w.note (.arrived e)) e)
  generalize w.note (.arrived e) = w at harrived
  have herror := upholds_nciSmError hE
  cases e with
  | request r => exact upholds_perform hE r w harrived
  | notification gid oid payload => exact upholds_nciSmHandleNtf hE gid oid payload w harrived
  | response payload => exact SmHost.upholds_answer hE hnote .success payload w harrived
  | commandTimeout =>
      rw [SmHost.handle]
      split
      · exact herror _ (SmHost.upholds_answer hE hnote .timeout [] w harrived)
      · exact harrived
  | transitionTimeout t =>
      rw [SmHost.handle]
      split
      · exact htimer t w harrived
      · exact harrived
  | idle => exact upholds_nciSmSwitchProc hE w harrived
  | error => exact herror w harrived

/-- A run upholds what its steps uphold. -/
theorem SmHost.upholds_run
    (htimer : ∀ t, Upholds P fun w => nciSmError (H.io n) (w.map fun self =>
      { self with timeoutId := Function.update self.timeoutId t false })) (events : List SmEvent) :
  Upholds P fun w => H.run n w events
  := by
  induction events with
  | nil => exact upholds_id
  | cons e events ih => exact ih.comp (SmHost.upholds_step hE hnote htimer e)

end Runs

end Nci
