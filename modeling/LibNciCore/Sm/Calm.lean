import LibNciCore.Sm.Invariant

/-!
# Calm functions

A function of the machine is calm if it does not stall, leaves the mode and the technologies as
they are, and sends commands only for the machine as it is. Most functions are; the others are
calm unless they stall, which is then the last thing they do.
-/

namespace Nci

/-! ### Calm functions -/

/-- What the commands are computed from. -/
def SmControl.mode (c : SmControl) : UInt32 × UInt32 := (c.opMode, c.techs)

/-- The mode and the technologies of the machine. -/
def NciSm.mode (self : NciSm) : UInt32 × UInt32 := self.control.mode

theorem mode_of_control {self self' : NciSm} {c : SmControl} (h : self'.control = c)
    (hc : c.mode = self.mode) :
  self'.mode = self.mode
  := (congrArg SmControl.mode h).trans hc

/-- An action is not a stall, and a command is computed from the given mode and technologies. -/
def SmAction.Calm (mode : UInt32 × UInt32) : SmAction → Prop
  | .cancelled => False
  | .sent _ _ _ _ _ sm => sm.mode = mode
  | .arrived _ | .answered .. | .sar _ | .signal .. | .intfActivated _ => True

/-- Only calm actions are added to the history. -/
structure Extends (w w' : SmWorld SmHistory) : Prop where
  mode : w'.sm.mode = w.sm.mode
  history : ∃ new, w'.io = w.io ++ new ∧ ∀ e ∈ new, e.Calm w.sm.mode

theorem Extends.refl (w : SmWorld SmHistory) :
  Extends w w
  := ⟨rfl, [], (List.append_nil _).symm, by simp⟩

theorem Extends.trans {w w' w'' : SmWorld SmHistory} (h : Extends w w') (h' : Extends w' w'') :
  Extends w w''
  := by
  obtain ⟨new, hlog, hnew⟩ := h.history
  obtain ⟨new', hlog', hnew'⟩ := h'.history
  refine ⟨h'.mode.trans h.mode, new ++ new', ?_, ?_⟩
  · rw [hlog', hlog, List.append_assoc]
  · intro e he
    obtain he | he := List.mem_append.mp he
    · exact hnew e he
    · rw [← h.mode]
      exact hnew' e he

/-- A change that does not affect the mode and the technologies. -/
theorem Extends.map {w : SmWorld SmHistory} {f : NciSm → NciSm} (h : (f w.sm).mode = w.sm.mode) :
  Extends w (w.map f)
  := ⟨h, [], (List.append_nil _).symm, by simp⟩

theorem Extends.note {w : SmWorld SmHistory} {e : SmAction} (h : e.Calm w.sm.mode) :
  Extends w (w.note e)
  := by
  refine ⟨rfl, [e], rfl, ?_⟩
  intro e' he'
  rw [List.mem_singleton.mp he']
  exact h

/-- A function is calm. -/
def Calm (f : SmWorld SmHistory → SmWorld SmHistory) : Prop :=
  ∀ w, Extends w (f w)

/-- The machine is in the state for errors, and no response is expected. -/
structure Stuck (w : SmWorld SmHistory) : Prop where
  lastState : w.sm.lastState = .error
  nextState : w.sm.nextState = .error
  activeState : w.sm.activeState = some .error
  activeTransition : w.sm.activeTransition = none
  outstanding : w.io.outstanding = none

/-- A function is calm, or ends with a stall. -/
def Ends (f : SmWorld SmHistory → SmWorld SmHistory) : Prop :=
  ∀ w, Extends w (f w) ∨ Stuck (f w)

variable {f g : SmWorld SmHistory → SmWorld SmHistory}

theorem calm_id :
  Calm fun w => w
  := Extends.refl

theorem Calm.comp (hg : Calm g) (hf : Calm f) :
  Calm fun w => g (f w)
  := fun w => (hf w).trans (hg (f w))

theorem Calm.ends (h : Calm f) :
  Ends f
  := fun w => Or.inl (h w)

theorem Ends.comp (hg : Ends g) (hf : Calm f) :
  Ends fun w => g (f w)
  := fun w => (hg (f w)).imp_left (hf w).trans

theorem Calm.ite {p : SmWorld SmHistory → Prop} [∀ w, Decidable (p w)] (hf : Calm f) (hg : Calm g) :
  Calm fun w => if p w then f w else g w
  := by
  intro w
  dsimp only
  split
  · exact hf w
  · exact hg w

theorem Ends.ite {p : SmWorld SmHistory → Prop} [∀ w, Decidable (p w)] (hf : Ends f) (hg : Ends g) :
  Ends fun w => if p w then f w else g w
  := by
  intro w
  dsimp only
  split
  · exact hf w
  · exact hg w

theorem calm_map {f : NciSm → NciSm} (h : ∀ self, (f self).mode = self.mode) :
  Calm fun w => w.map f
  := fun w => Extends.map (h w.sm)

/-! ### Surroundings that make no requests -/

variable {H : SmHost}

/-- If nothing is requested from inside callbacks, then it does not matter how deep they are
nested. -/
theorem SmHost.io_eq (hreact : ∀ history, H.react history = []) (n : Nat) :
  H.io n = H.io 0
  := by simp only [SmHost.io, SmHost.ioWith, hreact, SmHost.perform_nil]

theorem SmHost.step_eq (hreact : ∀ history, H.react history = []) (n : Nat) :
  H.step n = H.step 0
  := by
  funext w e
  cases e <;> simp only [SmHost.step, SmHost.handle, SmHost.answer, SmHost.io_eq hreact n]

theorem SmHost.run_eq (hreact : ∀ history, H.react history = []) (n : Nat) :
  H.run n = H.run 0
  := by
  funext w events
  rw [SmHost.run, SmHost.step_eq hreact, SmHost.run]

/-! ### Entering a state -/

theorem calm_nciSmEmitSignal (sig : NciSmSignal) :
  Calm (nciSmEmitSignal (H.io 0) sig)
  := by
  refine Calm.ite ?_ calm_id
  intro w
  exact (Extends.map (f := fun self => { self with
    pendingSignals := Function.update self.pendingSignals sig false }) rfl).trans
      (Extends.note (e := .signal sig _) trivial)

theorem calm_nciSmEmitPendingSignals :
  Calm (nciSmEmitPendingSignals (H.io 0))
  := (calm_nciSmEmitSignal .lastState).comp (calm_nciSmEmitSignal .nextState)

/-- A command is sent for the machine as it is. -/
theorem extends_nciSmSendCommand (gid oid : UInt8) (payload : Option (List UInt8))
    (resp : NciSmResponseFunc) (w : SmWorld SmHistory) :
  Extends w (nciSmSendCommand (H.io 0) gid oid payload resp w).2
  := Extends.note (e := .sent gid oid payload resp (H.send w.io) w.sm) rfl

theorem calm_nciTransitionStart (t : NciTransition) :
  Calm fun w => (nciTransitionStart (H.io 0) t w).2
  := by
  intro w
  have hstart : Extends w (nciTransitionDefaultStart (H.io 0) t w) := Extends.map rfl
  cases t
  case reset =>
    exact (hstart.trans (Extends.map rfl)).trans (extends_nciSmSendCommand _ _ _ _ _)
  case listenActiveToIdle =>
    exact (Extends.map (f := nciTransitionListenActiveToIdleReset) rfl).trans
      ((Extends.map rfl).trans (extends_nciSmSendCommand _ _ _ _ _))
  all_goals exact hstart.trans (extends_nciSmSendCommand _ _ _ _ _)

theorem mode_nciSmFinishActiveTransition (self : NciSm) :
  (nciSmFinishActiveTransition self).mode = self.mode
  := mode_of_control (control_nciSmFinishActiveTransition self) rfl

theorem mode_nciSmSetNextState (state : NciState) (self : NciSm) :
  (nciSmSetNextState state self).mode = self.mode
  := mode_of_control (control_nciSmSetNextState state self) rfl

theorem calm_nciSmStartTransition (t : NciTransition) :
  Calm fun w => (nciSmStartTransition (H.io 0) t w).2
  := by
  intro w
  have hmark : Extends w (w.map (nciSmMarkActive t)) :=
    Extends.map (mode_of_control (control_nciSmMarkActive t w.sm) rfl)
  have hstart := hmark.trans (calm_nciTransitionStart (H := H) t (w.map (nciSmMarkActive t)))
  dsimp only
  rw [nciSmStartTransition]
  split
  · apply hstart.trans
    exact Extends.map (mode_of_control (control_nciSmLeaveActiveState _ none) rfl)
  · apply hstart.trans
    apply Extends.map
    rw [nciSmUnmarkActive]
    split <;> rfl

theorem calm_nciStateEnteredFlat (state : NciState) (param : Option NciParam) :
  Calm (nciStateEnteredFlat (H.io 0) state param)
  := by
  intro w
  cases state
  case discovery => exact Extends.note (e := .sar (.setMaxDataPayloadSize 0)) trivial
  case w4HostSelect =>
    rcases param with _ | ⟨ntf⟩ | ⟨ntf⟩
    · exact Extends.refl w
    · exact Extends.refl w
    · rw [nciStateEnteredFlat, nciStateW4HostSelectEntered]
      split
      · exact extends_nciSmSendCommand _ _ _ _ w
      · exact Extends.map rfl
  all_goals exact Extends.refl w

theorem calm_nciSmActivate
    {entered : NciState → Option NciParam → SmWorld SmHistory → SmWorld SmHistory}
    {state : NciState} {param : Option NciParam} (h : Calm (entered state param)) :
  Calm (nciSmActivate entered state param)
  := by
  refine Calm.ite h ?_
  intro w
  have hreplace : Extends w (w.map (nciSmReplaceActiveState state)) :=
    Extends.map (mode_of_control (control_nciSmLeaveActiveState w.sm (some state)) rfl)
  exact (hreplace.trans (h _)).trans (Extends.map rfl)

theorem calm_nciSmStartNextTransition (state : NciState) :
  Calm (nciSmStartNextTransition (H.io 0) state)
  := by
  intro w
  have hforget : Extends w (w.map fun self => { self with nextTransition := none }) :=
    Extends.map rfl
  unfold nciSmStartNextTransition
  dsimp only
  split
  · exact hforget.trans (calm_nciSmStartTransition _ _)
  · exact hforget

theorem calm_nciSmEnterWith
    {entered : NciState → Option NciParam → SmWorld SmHistory → SmWorld SmHistory}
    {state : NciState} {param : Option NciParam} (h : Calm (entered state param)) :
  Calm (nciSmEnterWith (H.io 0) entered state param)
  := by
  intro w
  have hbegin : Extends w (w.map nciSmBeginEntering) :=
    Extends.map (mode_nciSmFinishActiveTransition { w.sm with enteringState := _ })
  have hactivate := hbegin.trans (calm_nciSmActivate h _)
  have hnext := hactivate.trans (calm_nciSmStartNextTransition (H := H) state _)
  exact hnext.trans (Extends.map (mode_of_control (control_nciSmEndEntering state _) rfl))

theorem calm_nciSmEnterHostSelect (ntf : List NciDiscoveryNtf) :
  Calm (nciSmEnterHostSelect (H.io 0) ntf)
  := calm_nciSmEmitPendingSignals.comp (calm_nciSmEnterWith (calm_nciStateEnteredFlat _ _))

theorem calm_nciStateW4AllDiscoveriesHandleDiscovery (ntf : NciDiscoveryNtf) :
  Calm (nciStateW4AllDiscoveriesHandleDiscovery (H.io 0) ntf)
  := by
  intro w
  have hcollect : Extends w (w.map fun self =>
      { self with discoveries := self.discoveries ++ [ntf] }) := Extends.map rfl
  rw [nciStateW4AllDiscoveriesHandleDiscovery]
  split
  · exact hcollect.trans (calm_nciSmEnterHostSelect _ _)
  · exact hcollect

theorem calm_nciStateEntered (state : NciState) (param : Option NciParam) :
  Calm (nciStateEntered (H.io 0) state param)
  := by
  intro w
  by_cases hstate : state = .w4AllDiscoveries
  · have hforget : Extends w (w.map fun self => { self with discoveries := [] }) := Extends.map rfl
    rw [hstate]
    rcases param with _ | ⟨ntf⟩ | ⟨ntf⟩
    · exact hforget
    · exact hforget.trans (calm_nciStateW4AllDiscoveriesHandleDiscovery ntf _)
    · exact hforget
  · have hflat : nciStateEntered (H.io 0) state param w
        = nciStateEnteredFlat (H.io 0) state param w := by
      cases state <;> first | rfl | contradiction
    rw [hflat]
    exact calm_nciStateEnteredFlat state param w

theorem calm_nciSmEnterStateInternal (state : NciState) (param : Option NciParam) :
  Calm (nciSmEnterStateInternal (H.io 0) state param)
  := calm_nciSmEnterWith (calm_nciStateEntered state param)

theorem calm_nciSmEnterState (state : NciState) (param : Option NciParam) :
  Calm (nciSmEnterState (H.io 0) state param)
  := calm_nciSmEmitPendingSignals.comp (calm_nciSmEnterStateInternal state param)

/-! ### Stalling -/

theorem stuck_nciSmStallInternal (w : SmWorld SmHistory) :
  Stuck (nciSmStallInternal (H.io 0) .error w)
  := by
  have hcontrol := control_nciSmStallInternal (E := H.io 0) .error w
  have hactivate := SmControl.activate_eq .error
    { w.sm.control.finish with lastState := .error, nextState := .error }
  rw [SmControl.stall, show NciStall.error.state = .error from rfl, hactivate] at hcontrol
  constructor
  · exact congrArg SmControl.lastState hcontrol
  · exact congrArg SmControl.nextState hcontrol
  · exact congrArg SmControl.activeState hcontrol
  · exact congrArg SmControl.activeTransition hcontrol
  · apply SmHistory.outstanding_append

theorem Stuck.emitSignal {w : SmWorld SmHistory} (h : Stuck w) (sig : NciSmSignal) :
  Stuck (nciSmEmitSignal (H.io 0) sig w)
  := by
  rw [nciSmEmitSignal]
  split
  · exact ⟨h.lastState, h.nextState, h.activeState, h.activeTransition,
      (SmHistory.outstanding_append ..).trans h.outstanding⟩
  · exact h

theorem Ends.emit (h : Ends f) :
  Ends fun w => nciSmEmitPendingSignals (H.io 0) (f w)
  := by
  intro w
  obtain hcalm | hstuck := h w
  · exact Or.inl (hcalm.trans (calm_nciSmEmitPendingSignals _))
  · exact Or.inr ((hstuck.emitSignal .nextState).emitSignal .lastState)

theorem stuck_nciSmError (w : SmWorld SmHistory) :
  Stuck (nciSmError (H.io 0) w)
  := ((stuck_nciSmStallInternal w).emitSignal .nextState).emitSignal .lastState

theorem ends_nciSmError :
  Ends (nciSmError (H.io 0))
  := fun w => Or.inr (stuck_nciSmError w)

theorem ends_nciSmStallInternal :
  Ends (nciSmStallInternal (H.io 0) .error)
  := fun w => Or.inr (stuck_nciSmStallInternal w)

/-! ### Switching -/

theorem ends_nciSmSwitchActive (dest next : NciState) :
  Ends (nciSmSwitchActive (H.io 0) dest next)
  := by
  intro w
  unfold nciSmSwitchActive
  split
  · split
    · exact Or.inl (Extends.map (mode_of_control (control_nciSmSetNextState next _) rfl))
    · split
      · exact (calm_nciSmEnterStateInternal next none).ends w
      · exact ends_nciSmStallInternal w
  · exact Or.inl (Extends.refl w)

theorem ends_nciSmSwitchViaIdle (next : NciState) :
  Ends (nciSmSwitchViaIdle (H.io 0) next)
  := by
  intro w
  have hstart := calm_nciSmStartTransition (H := H)
    ((nciStateGetTransition w.sm.lastState .idle).getD .reset) w
  unfold nciSmSwitchViaIdle
  dsimp only
  split
  · split
    · exact Or.inl (hstart.trans (Extends.map (mode_nciSmSetNextState .idle _)))
    · split
      · left
        apply hstart.trans
        exact Extends.map (mode_of_control (control_nciSmSetNextState next _) rfl)
      · exact Or.inr (stuck_nciSmStallInternal _)
  · exact Or.inr (stuck_nciSmStallInternal _)

theorem ends_nciSmSwitchIdle (next : NciState) :
  Ends (nciSmSwitchIdle (H.io 0) next)
  := by
  intro w
  unfold nciSmSwitchIdle
  split
  · rename_i t _
    have hstart := calm_nciSmStartTransition (H := H) t w
    dsimp only
    split
    · exact Or.inl (hstart.trans (Extends.map (mode_nciSmSetNextState next _)))
    · exact Or.inr (stuck_nciSmStallInternal _)
  · split
    · exact (calm_nciSmEnterStateInternal next none).ends w
    · exact ends_nciSmSwitchViaIdle next w

theorem ends_nciSmSwitchInternal (next : NciState) :
  Ends (nciSmSwitchInternal (H.io 0) next)
  := by
  refine Ends.ite (Ends.emit ?_) calm_id.ends
  intro w
  have hforget : Extends w (w.map fun self => { self with nextTransition := none }) :=
    Extends.map rfl
  unfold nciSmSwitchBegin
  dsimp only
  split
  · exact (ends_nciSmSwitchActive _ next _).imp_left hforget.trans
  · exact (ends_nciSmSwitchIdle next _).imp_left hforget.trans

theorem ends_nciSmSwitchTo (state : NciState) :
  Ends (nciSmSwitchTo (H.io 0) state)
  := by
  intro w
  by_cases hentering : w.sm.enteringState = 0
  · rw [nciSmSwitchTo_outside _ hentering]
    exact (ends_nciSmSwitchInternal state _).imp_left (Extends.map rfl).trans
  · rw [nciSmSwitchTo_entering _ hentering]
    exact Or.inl (Extends.map rfl)

theorem ends_nciSmSwitchProc :
  Ends (nciSmSwitchProc (H.io 0))
  := by
  intro w
  unfold nciSmSwitchProc
  split
  · exact (ends_nciSmSwitchInternal _ _).imp_left (Extends.map rfl).trans
  · exact Or.inl (Extends.refl w)

theorem ends_nciSmReset :
  Ends (nciSmReset (H.io 0))
  := by
  have hinit : Calm fun w => nciSmEnterStateInternal (H.io 0) .init none
      (w.map fun self => { self with pendingSwitch := none, nextTransition := none }) :=
    fun w => (Extends.map rfl).trans (calm_nciSmEnterStateInternal .init none _)
  exact Ends.emit (Ends.comp (ends_nciSmSwitchInternal .idle) hinit)

theorem ends_nciSmRestart :
  Ends (nciSmRestart (H.io 0))
  := Ends.ite (ends_nciSmSwitchTo .idle) calm_id.ends

/-! ### Responses -/

theorem calm_nciTransitionFinish (t : NciTransition) :
  Calm (nciTransitionFinish (H.io 0) t)
  := Calm.ite (calm_nciSmEnterState t.dest none) calm_id

theorem ends_nciTransitionRsp (h : Ends f) (t : NciTransition) (status : NciRequestStatus) :
  Ends (nciTransitionRsp (H.io 0) t f status)
  := Ends.ite calm_id.ends (Ends.ite ends_nciSmError h)

theorem calm_nciTransitionResetInitialized (rsp : CoreInitRsp) :
  Calm (nciTransitionResetInitialized (H.io 0) rsp)
  := by
  intro w
  have hsar : ∀ w : SmWorld SmHistory, ∀ c : SarCall, Extends w (w.note (.sar c)) :=
    fun w c => Extends.note trivial
  have hinit : Extends w (w.map fun self =>
      { self with
        rfInterfaces := rsp.rfInterfaces
        nfccDiscovery := rsp.nfccDiscovery
        nfccRouting := rsp.nfccRouting
        nfccPower := rsp.nfccPower
        maxRoutingTableSize := rsp.maxRoutingTableSize }) := Extends.map rfl
  have hconns := hinit.trans (hsar _ (.setMaxLogicalConnections rsp.maxLogicalConns))
  have hcontrol := hconns.trans (hsar _ (.setMaxControlPayloadSize rsp.maxControlPayload))
  have hdata := hcontrol.trans (hsar _ (.setMaxDataPayloadSize 0))
  exact hdata.trans (extends_nciSmSendCommand _ _ _ _ _)

theorem ends_nciTransitionResetInitRsp (rsp : Option CoreInitRsp) :
  Ends (nciTransitionResetInitRsp (H.io 0) rsp)
  := by
  cases rsp with
  | some rsp => exact (calm_nciTransitionResetInitialized rsp).ends
  | none => exact ends_nciSmError

theorem ends_nciTransitionResetRsp (status : NciRequestStatus) (payload : List UInt8) :
  Ends (nciTransitionResetRsp (H.io 0) status payload)
  := by
  have hversion : ∀ version, Calm fun w => w.map fun self => { self with version := version } :=
    fun version => calm_map fun _ => rfl
  have hok : ∀ {f : SmWorld SmHistory → SmWorld SmHistory}, Ends f →
      Ends fun w => if startsWithOk payload then f w else nciSmError (H.io 0) w :=
    fun hf => Ends.ite (p := fun _ => startsWithOk payload) hf ends_nciSmError
  apply ends_nciTransitionRsp
  refine Ends.ite ?_ (Ends.ite ?_ ends_nciSmError)
  · exact (hok fun w => Or.inl (extends_nciSmSendCommand _ _ _ _ w)).comp (hversion .v1)
  · exact (hok calm_id.ends).comp (hversion .v2)

theorem calm_nciTransitionIdleToDiscoveryConfigureRouting :
  Calm (nciTransitionIdleToDiscoveryConfigureRouting (H.io 0))
  := by
  intro w
  rw [nciTransitionIdleToDiscoveryConfigureRouting]
  split_ifs <;> exact extends_nciSmSendCommand _ _ _ _ w

theorem ends_nciTransitionIdleToDiscoveryGetConfigRsp (status : NciRequestStatus)
    (payload : List UInt8) :
  Ends (nciTransitionIdleToDiscoveryGetConfigRsp (H.io 0) status payload)
  := by
  apply ends_nciTransitionRsp
  intro w
  dsimp only
  split
  · exact Or.inl (extends_nciSmSendCommand _ _ _ _ w)
  · exact Or.inl (calm_nciTransitionIdleToDiscoveryConfigureRouting w)

/-- If a response function stalls, then that is the last thing it does. -/
theorem ends_call (resp : NciSmResponseFunc) (status : NciRequestStatus) (payload : List UInt8) :
  Ends (resp.call (H.io 0) status payload)
  := by
  have hrsp := fun t {f} h => ends_nciTransitionRsp (H := H) (f := f) h t status
  have hfinish := fun t => (calm_nciTransitionFinish (H := H) t).ends
  have herror := ends_nciSmError (H := H)
  have hmap : Ends (nciTransitionIdleToDiscoverMap (H.io 0)) :=
    fun w => Or.inl (extends_nciSmSendCommand _ _ _ _ w)
  have hrouting : ∀ entries resp,
      Ends (nciTransitionIdleToDiscoverySetRouting (H.io 0) entries resp) :=
    fun _ _ w => Or.inl (extends_nciSmSendCommand _ _ _ _ w)
  cases resp with
  | resetRsp => exact ends_nciTransitionResetRsp status payload
  | resetInitV1Rsp => exact hrsp .reset (ends_nciTransitionResetInitRsp _)
  | resetInitV2Rsp => exact hrsp .reset (ends_nciTransitionResetInitRsp _)
  | resetSetConfigRsp => exact hrsp .reset (hfinish .reset)
  | idleToDiscoveryGetConfigRsp =>
      exact ends_nciTransitionIdleToDiscoveryGetConfigRsp status payload
  | idleToDiscoverySetConfigRsp =>
      exact hrsp .idleToDiscovery calm_nciTransitionIdleToDiscoveryConfigureRouting.ends
  | idleToDiscoverySetMixedRoutingRsp =>
      exact hrsp .idleToDiscovery (Ends.ite hmap (hrouting _ _))
  | idleToDiscoverySetProtocolRoutingRsp =>
      exact hrsp .idleToDiscovery (Ends.ite hmap (hrouting _ _))
  | idleToDiscoveryLastProtocolRoutingRsp => exact hrsp .idleToDiscovery hmap
  | idleToDiscoverySetTechRoutingRsp => exact hrsp .idleToDiscovery hmap
  | idleToDiscoverMapRsp =>
      apply hrsp .idleToDiscovery
      exact Ends.ite (fun w => Or.inl (extends_nciSmSendCommand _ _ _ _ w)) herror
  | idleToDiscoveryDiscoverRsp =>
      exact hrsp .idleToDiscovery (Ends.ite (hfinish .idleToDiscovery) herror)
  | deactivateToIdleRsp =>
      exact hrsp .deactivateToIdle (Ends.ite (hfinish .deactivateToIdle) herror)
  | deactivateToDiscoveryRsp =>
      apply hrsp .deactivateToDiscovery
      exact Ends.ite calm_id.ends fun w => Or.inl (extends_nciSmSendCommand _ _ _ _ w)
  | deactivateToDiscoveryIdleRsp =>
      exact hrsp .deactivateToDiscovery (Ends.ite (calm_nciSmEnterState .idle none).ends herror)
  | pollActiveToIdleRsp => exact hrsp .pollActiveToIdle (Ends.ite calm_id.ends herror)
  | listenActiveToIdleRsp =>
      apply hrsp .listenActiveToIdle
      exact Ends.ite (Ends.ite (hfinish .listenActiveToIdle) fun _ => Or.inl (Extends.map rfl))
        herror
  | w4HostSelectRsp => exact calm_id.ends

/-! ### Notifications -/

/-- Credits that are passed on leave all but the calls of the layer below as it is. -/
theorem addCreditEntries_induct {P : SmHistory → Prop}
    (h : ∀ history c, P history → P (history ++ [.sar c])) (k : Nat) (entries : List UInt8)
    (history : SmHistory) (hlog : P history) :
  P (addCreditEntries (H.io 0) k entries history)
  := by
  fun_induction addCreditEntries (H.io 0) k entries history with
  | case1 k cid credits entries history ih => exact ih (h history _ hlog)
  | case2 => exact hlog

theorem ends_nciDefaultHandleNtf (gid oid : UInt8) (payload : List UInt8) :
  Ends (nciDefaultHandleNtf (H.io 0) gid oid payload)
  := by
  refine Ends.ite ?_ calm_id.ends
  intro w
  unfold nciSmHandleConnCreditsNtf
  split
  · split
    · left
      apply addCreditEntries_induct (P := fun history => Extends w { w with io := history })
      · exact fun history c hlog => hlog.trans (Extends.note (w := ⟨w.sm, history⟩) trivial)
      · exact Extends.refl w
    · exact ends_nciSmError w
  · exact ends_nciSmError w

theorem ends_nciSmHandleRfDeactivateNtf (payload : List UInt8) :
  Ends (nciSmHandleRfDeactivateNtf (H.io 0) payload)
  := by
  intro w
  unfold nciSmHandleRfDeactivateNtf
  split
  · exact (calm_nciSmEnterState .idle none).ends w
  · exact (calm_nciSmEnterState .discovery none).ends w
  all_goals exact ends_nciSmError w

theorem ends_nciTransitionHandleNtf (t : NciTransition) (gid oid : UInt8) (payload : List UInt8) :
  Ends (nciTransitionHandleNtf (H.io 0) t gid oid payload)
  := by
  have hdefault := ends_nciDefaultHandleNtf (H := H) gid oid payload
  have hdeactivate : Ends (nciTransitionDeactivateHandleNtf (H.io 0) gid oid payload) :=
    Ends.ite (ends_nciSmHandleRfDeactivateNtf payload) hdefault
  cases t with
  | reset => exact Ends.ite (fun w => Or.inl (extends_nciSmSendCommand _ _ _ _ w)) hdefault
  | deactivateToDiscovery => exact hdeactivate
  | pollActiveToIdle => exact hdeactivate
  | listenActiveToIdle =>
      refine Ends.ite ?_ hdefault
      cases nciParseRfDeactivateNtf payload with
      | some ntf =>
          exact Ends.ite (calm_nciTransitionFinish .listenActiveToIdle).ends
            fun _ => Or.inl (Extends.map rfl)
      | none => exact ends_nciSmError
  | idleToDiscovery => exact hdefault
  | deactivateToIdle => exact hdefault

theorem calm_nciSmIntfActivated (ntf : NciIntfActivationNtf) :
  Calm (nciSmIntfActivated (H.io 0) ntf)
  := by
  intro w
  have hsar : ∀ w : SmWorld SmHistory, ∀ c : SarCall, Extends w (w.note (.sar c)) :=
    fun w c => Extends.note trivial
  have hsize := hsar w (.setMaxDataPayloadSize ntf.maxDataPacketSize)
  have hcredits := hsize.trans (hsar _ (.setInitialCredits nciStaticRfConnId ntf.numCredits))
  exact hcredits.trans (Extends.note (e := .intfActivated ntf) trivial)

theorem ends_nciStateDiscoveryHandleNtf (gid oid : UInt8) (payload : List UInt8) :
  Ends (nciStateDiscoveryHandleNtf (H.io 0) gid oid payload)
  := by
  refine Ends.ite ?_ (Ends.ite ?_ (ends_nciDefaultHandleNtf gid oid payload))
  · intro w
    unfold nciStateDiscoveryDiscoverNtf
    split
    · exact (calm_nciSmEnterState _ _).ends w
    · exact Or.inl (Extends.refl w)
  · unfold nciStateDiscoveryIntfActivatedNtf
    cases parseIntfActivated payload with
    | some ntf => exact (calm_nciSmIntfActivated ntf).ends.comp (calm_nciSmEnterState _ none)
    | none => exact (ends_nciSmSwitchTo .idle).comp (calm_nciSmEnterState _ none)

theorem ends_nciStateW4AllDiscoveriesHandleNtf (gid oid : UInt8) (payload : List UInt8) :
  Ends (nciStateW4AllDiscoveriesHandleNtf (H.io 0) gid oid payload)
  := by
  refine Ends.ite ?_ (ends_nciDefaultHandleNtf gid oid payload)
  intro w
  unfold nciStateW4AllDiscoveriesDiscoverNtf
  split
  · exact (calm_nciStateW4AllDiscoveriesHandleDiscovery _).ends w
  · exact Or.inl (Extends.refl w)

theorem ends_nciStateW4HostSelectHandleNtf (gid oid : UInt8) (payload : List UInt8) :
  Ends (nciStateW4HostSelectHandleNtf (H.io 0) gid oid payload)
  := by
  refine Ends.ite (ends_nciSmSwitchTo .discovery)
    (Ends.ite ?_ (ends_nciDefaultHandleNtf gid oid payload))
  unfold nciStateW4HostSelectHandleIntfActivatedNtf
  cases parseIntfActivated payload with
  | some ntf => exact (calm_nciSmIntfActivated ntf).ends.comp (calm_nciSmEnterState _ none)
  | none => exact (ends_nciSmSwitchTo .discovery).comp (calm_nciSmEnterState _ none)

theorem ends_nciStateListenActiveHandleNtf (gid oid : UInt8) (payload : List UInt8) :
  Ends (nciStateListenActiveHandleNtf (H.io 0) gid oid payload)
  := by
  refine Ends.ite (ends_nciSmSwitchTo .discovery)
    (Ends.ite ?_ (ends_nciDefaultHandleNtf gid oid payload))
  intro w
  unfold nciStateListenActiveRfDeactivateNtf
  split
  · exact (calm_nciSmEnterState _ none).ends w
  · exact (calm_nciSmEnterState _ none).ends w
  · exact (calm_nciSmEnterState _ none).ends w
  all_goals exact ends_nciSmError w

theorem ends_nciStateListenSleepHandleNtf (gid oid : UInt8) (payload : List UInt8) :
  Ends (nciStateListenSleepHandleNtf (H.io 0) gid oid payload)
  := by
  refine Ends.ite ?_ (Ends.ite ?_ (ends_nciDefaultHandleNtf gid oid payload))
  · unfold nciStateListenSleepIntfActivatedNtf
    cases parseIntfActivated payload with
    | some ntf =>
        refine Ends.ite (p := fun _ => nciListenMode ntf.mode) ?_ ends_nciSmError
        exact (calm_nciSmIntfActivated ntf).ends.comp (calm_nciSmEnterState _ none)
    | none => exact ends_nciSmError
  · intro w
    unfold nciStateListenSleepRfDeactivateNtf
    split
    · exact (calm_nciSmEnterState _ none).ends w
    all_goals exact ends_nciSmError w

theorem ends_nciSmHandleNtf (gid oid : UInt8) (payload : List UInt8) :
  Ends (nciSmHandleNtf (H.io 0) gid oid payload)
  := by
  have hdefault := ends_nciDefaultHandleNtf (H := H) gid oid payload
  have hstate : ∀ state, Ends (nciStateHandleNtf (H.io 0) state gid oid payload) := by
    intro state
    cases state with
    | discovery => exact ends_nciStateDiscoveryHandleNtf gid oid payload
    | w4AllDiscoveries => exact ends_nciStateW4AllDiscoveriesHandleNtf gid oid payload
    | w4HostSelect => exact ends_nciStateW4HostSelectHandleNtf gid oid payload
    | pollActive =>
        exact Ends.ite (ends_nciSmSwitchTo .discovery)
          (Ends.ite (ends_nciSmHandleRfDeactivateNtf payload) hdefault)
    | listenActive => exact ends_nciStateListenActiveHandleNtf gid oid payload
    | listenSleep => exact ends_nciStateListenSleepHandleNtf gid oid payload
    | init => exact hdefault
    | error => exact hdefault
    | stop => exact hdefault
    | idle => exact hdefault
  intro w
  unfold nciSmHandleNtf
  split
  · exact ends_nciTransitionHandleNtf _ gid oid payload w
  · exact hstate _ w

end Nci
