import LibNciCore.Core.Orderly

/-!
# Restarting

A restart drops the last command, resets the layer below and resets the machine. Each of the three
may make the core call parts of the others. Whatever state the core was in, it ends up in the same
way: nothing is left but CORE_RESET_CMD, which is about to be sent.
-/

namespace Nci

open LinkedQueue

/-! ### The layer below -/

/-- The packet of CORE_RESET_CMD. -/
def coreResetPacket (id : UInt32) : NciSarPacketOut where
  next := none
  conn := none
  hdr := ⟨nciMtCmdPkt, 0, 0⟩
  payload := some [0]
  payloadPos := 0
  complete := some 0
  destroy := none
  id := id

/-- The only packet is CORE_RESET_CMD, which is about to be written. -/
structure NciSar.Resetting (sar : NciSar) (id : UInt32) : Prop where
  writing : sar.writing = none
  writePending : sar.writePending = false
  out : ∀ cid < sar.maxLogicalConns.toNat, (sar.conn cid).out = Queue.empty
  credits : ∀ cid < sar.maxLogicalConns.toNat, (sar.conn cid).credits = 0
  cmd : ∃ a, sar.cmd = ⟨some a, some a⟩ ∧ sar.heap a = some (coreResetPacket id)
  startWriteId : sar.startWriteId = true

/-- CORE_RESET_CMD is queued where nothing is. -/
theorem NciSar.Blank.resetting {sar : NciSar} (h : sar.Blank) :
  (nciSarSendCommand sar nciGidCore nciOidCoreReset (some [0]) (some 0) none).2.Resetting
    sar.nextPacketId
  := by
  obtain ⟨started, max, control, data, last, scheduled, pending, writing, cmd, conn, table, input,
    buf, heap, next, dangling⟩ := sar
  obtain ⟨rfl, rfl, rfl, rfl, hout, hcredits⟩ := h
  refine ⟨rfl, rfl, hout, hcredits, ⟨next, rfl, ?_⟩, rfl⟩
  exact Function.update_self _ _ _

/-- No packet is allocated when one is cancelled. -/
theorem SarEnv.Discreet.nextAddr_cancel {ε : Type} {E : SarEnv ε} (hE : E.Discreet) (id : UInt32)
    (w : World ε) :
  (nciSarCancel E id w).sar.nextAddr = w.sar.nextAddr
  := by
  have heffect : (w.sar.cancelEffect id).nextAddr = w.sar.nextAddr := by
    rw [NciSar.cancelEffect]
    split
    · split <;> rfl
    · split
      · rename_i k _ _
        cases k <;> rfl
      · rfl
  rw [nciSarCancel_eq]
  split
  · rw [hE.packetOutFree]
    exact heffect
  · exact heffect

/-! ### The machine -/

/-- The machine rests in RFST_INIT once it has been entered. -/
theorem nciSmEnterInit {ι : Type} (E : NciSmIo ι) {w : SmWorld ι}
    (hnext : w.sm.nextTransition = none) (hswitch : w.sm.pendingSwitch = none) :
  ∃ sm, nciSmEnterStateInternal E .init none w = ⟨sm, w.io⟩ ∧ sm.activeTransition = none
    ∧ sm.nextTransition = none ∧ sm.pendingSwitch = none ∧ sm.lastState = .init
    ∧ sm.nextState = .init
  := by
  obtain ⟨timeoutId, ntf, expectingNtf, hbegin⟩ := nciSmFinishActiveTransition_eq
    { w.sm with enteringState := w.sm.enteringState + 1 }
  obtain ⟨sm₁, hactivate, hactive₁, hnext₁, hswitch₁⟩ : ∃ sm₁,
      nciSmActivate (nciStateEntered E) .init none (w.map nciSmBeginEntering) = ⟨sm₁, w.io⟩
        ∧ sm₁.activeTransition = none ∧ sm₁.nextTransition = none ∧ sm₁.pendingSwitch = none := by
    obtain ⟨active, discoveries, hleave⟩ := nciSmLeaveActiveState_eq (nciSmBeginEntering w.sm)
    rw [nciSmActivate]
    split
    · refine ⟨nciSmBeginEntering w.sm, rfl, ?_⟩
      rw [nciSmBeginEntering, hbegin]
      exact ⟨rfl, hnext, hswitch⟩
    · refine ⟨nciStateDefaultEnter .init (nciSmReplaceActiveState .init (nciSmBeginEntering w.sm)),
        rfl, ?_⟩
      rw [nciSmReplaceActiveState, hleave, nciSmBeginEntering, hbegin]
      exact ⟨rfl, hnext, hswitch⟩
  obtain ⟨pendingSignals, hend, -⟩ := nciSmEndEntering_eq .init { sm₁ with nextTransition := none }
  refine ⟨nciSmEndEntering .init { sm₁ with nextTransition := none }, ?_, ?_⟩
  · rw [nciSmEnterStateInternal, nciSmEnterWith, hactivate, nciSmStartNextTransition]
    dsimp only
    rw [nciSmTakeNextTransition, hnext₁]
    rfl
  · rw [hend]
    exact ⟨hactive₁, rfl, hswitch₁, rfl, if_pos hactive₁⟩

/-- The machine sends CORE_RESET_CMD when it is reset, and is on its way from RFST_INIT to
RFST_IDLE. -/
theorem nciSmReset_eq {ι : Type} (E : NciSmIo ι)
    (haccepts : ∀ sm io, (E.send nciGidCore nciOidCoreReset (some [0]) .resetRsp sm io).1 = true)
    (w : SmWorld ι) :
  ∃ sm sm', nciSmReset E w = nciSmEmitPendingSignals E (nciSmEmitPendingSignals E
      ⟨sm', (E.send nciGidCore nciOidCoreReset (some [0]) .resetRsp sm w.io).2⟩)
    ∧ sm'.activeTransition = some .reset ∧ sm'.nextTransition = none ∧ sm'.pendingSwitch = none
    ∧ sm'.lastState = .init ∧ sm'.nextState = .idle
  := by
  obtain ⟨sm₁, henter, hactive, hnext, hswitch, hlast, hnextState⟩ := nciSmEnterInit E
    (w := w.map fun self => { self with pendingSwitch := none, nextTransition := none }) rfl rfl
  obtain ⟨timeoutId, ntf, expectingNtf, hmark⟩ := nciSmMarkActive_eq .reset
    { sm₁ with nextTransition := none }
  obtain ⟨sm, sm₂, hstart, hactive₂, hnext₂, hswitch₂, hlast₂⟩ : ∃ sm sm₂,
      nciSmStartTransition E .reset ⟨{ sm₁ with nextTransition := none }, w.io⟩
        = (true, ⟨sm₂, (E.send nciGidCore nciOidCoreReset (some [0]) .resetRsp sm w.io).2⟩)
      ∧ sm₂.activeTransition = some .reset ∧ sm₂.nextTransition = none ∧ sm₂.pendingSwitch = none
      ∧ sm₂.lastState = .init := by
    obtain ⟨sm, hsm⟩ : ∃ sm, sm = nciTransitionResetForget
        { nciSmMarkActive .reset { sm₁ with nextTransition := none } with
          timeoutId := Function.update (nciSmMarkActive .reset
            { sm₁ with nextTransition := none }).timeoutId .reset (E.timeout w.io) } := ⟨_, rfl⟩
    obtain ⟨active, discoveries, hleave⟩ := nciSmLeaveActiveState_eq sm
    refine ⟨sm, nciSmDeactivateState sm, ?_, ?_⟩
    · have htransition : nciTransitionStart E .reset
          ((⟨{ sm₁ with nextTransition := none }, w.io⟩ : SmWorld ι).map (nciSmMarkActive .reset))
          = ((E.send nciGidCore nciOidCoreReset (some [0]) .resetRsp sm w.io).1,
            ⟨sm, (E.send nciGidCore nciOidCoreReset (some [0]) .resetRsp sm w.io).2⟩) := by
        rw [hsm]
        rfl
      rw [nciSmStartTransition, htransition]
      dsimp only
      rw [if_pos (haccepts sm w.io)]
      rfl
    · rw [nciSmDeactivateState, hleave, hsm, hmark]
      exact ⟨rfl, rfl, hswitch, hlast⟩
  obtain ⟨pendingSignals, hset, -⟩ := nciSmSetNextState_eq .idle sm₂
  have hne : sm₁.nextState ≠ .idle := by
    rw [hnextState]
    decide
  have hvia : nciSmSwitchViaIdle E .idle ⟨{ sm₁ with nextTransition := none }, w.io⟩
      = ⟨nciSmSetNextState .idle sm₂,
        (E.send nciGidCore nciOidCoreReset (some [0]) .resetRsp sm w.io).2⟩ := by
    have hreset : (nciStateGetTransition sm₁.lastState .idle).getD .reset = .reset := by
      rw [hlast]
      rfl
    rw [nciSmSwitchViaIdle]
    dsimp only
    rw [hreset, hstart]
    rfl
  have hnone : nciStateGetTransition sm₁.lastState .idle = none := by
    rw [hlast]
    rfl
  have hswitchInternal : nciSmSwitchInternal E .idle ⟨sm₁, w.io⟩ = nciSmEmitPendingSignals E
      ⟨nciSmSetNextState .idle sm₂,
        (E.send nciGidCore nciOidCoreReset (some [0]) .resetRsp sm w.io).2⟩ := by
    have hbegin : nciSmSwitchBegin E .idle ⟨sm₁, w.io⟩
        = nciSmSwitchIdle E .idle ⟨{ sm₁ with nextTransition := none }, w.io⟩ := by
      unfold nciSmSwitchBegin
      dsimp only [SmWorld.map]
      split
      · rename_i hsome
        rw [hactive] at hsome
        cases hsome
      · rfl
    rw [nciSmSwitchInternal, if_pos hne, hbegin, nciSmSwitchIdle]
    dsimp only
    rw [hnone]
    exact congrArg _ hvia
  refine ⟨sm, nciSmSetNextState .idle sm₂, ?_, ?_⟩
  · rw [nciSmReset, henter]
    exact congrArg _ hswitchInternal
  · rw [hset]
    exact ⟨hactive₂, hnext₂, hswitch₂, hlast₂, rfl⟩

/-! ### The slots -/

/-- Nothing is left, and the slots are empty. -/
structure World.Halted {ι : Type} (w : CoreWorld ι) (ms : UInt32) (t : Nat) : Prop where
  blank : w.sar.Blank
  cmdId : w.env.core.cmdId = 0
  cmdTimeoutId : w.env.core.cmdTimeoutId = none
  cmdTimeout : w.env.core.cmdTimeout = ms
  nextTimeout : w.env.nextTimeout = t

theorem World.Halted.congr {ι : Type} {w w' : CoreWorld ι} {ms : UInt32} {t : Nat}
    (h : w.Halted ms t) (hsar : w'.sar = w.sar) (hcore : w'.env.core = w.env.core)
    (hnext : w'.env.nextTimeout = w.env.nextTimeout) :
  w'.Halted ms t
  := by
  constructor
  · rw [hsar]
    exact h.blank
  · rw [hcore]
    exact h.cmdId
  · rw [hcore]
    exact h.cmdTimeoutId
  · rw [hcore]
    exact h.cmdTimeout
  · rw [hnext]
    exact h.nextTimeout

/-- There is no command to be cancelled. -/
theorem nciCoreCancelCommand_of_none {ι : Type} (E : SarEnv (CoreEnv ι)) (S : NciCoreClient ι)
    {w : CoreWorld ι} (hid : w.env.core.cmdId = 0) (htimeoutId : w.env.core.cmdTimeoutId = none) :
  nciCoreCancelCommand E S w = w
  := by
  have hclear : w.mapEnv CoreEnv.clearTimeout = w := by
    rw [World.mapEnv, CoreEnv.clearTimeout, htimeoutId]
  rw [nciCoreCancelCommand, hclear]
  exact if_neg (not_not.mpr hid)

theorem World.Halted.drop {ι : Type} {w : CoreWorld ι} {ms : UInt32} {t : Nat} (h : w.Halted ms t) :
  (nciCoreIoCancel SarEnv.idle NciCoreClient.idle w).Halted ms t
  := by
  rw [nciCoreIoCancel, nciCoreCancelCommand_of_none]
  · exact ⟨h.blank, h.cmdId, h.cmdTimeoutId, h.cmdTimeout, h.nextTimeout⟩
  · exact h.cmdId
  · exact h.cmdTimeoutId

section

variable {A : SystemApp} (hA : A.Silent) {n : Nat}

include hA

/-! ### The surroundings -/

theorem SystemApp.Silent.destroyed_eq (f : Nat) (w : System) :
  A.destroyed (A.perform n) f w = w ∨ A.destroyed (A.perform n) f w = w.report (.destroy (f - 1))
  := by
  cases f with
  | zero => exact Or.inl rfl
  | succ f => exact Or.inr (hA.callback _ w)

/-- Destroy functions call nothing. -/
theorem SystemApp.Silent.discreet :
  (A.sarEnv n).Discreet
  := by
  constructor
  intro f w
  show (A.destroyed (A.perform n) f w).sar = w.sar
  rcases hA.destroyed_eq (n := n) f w with h | h
  · rw [h]
  · rw [h]
    rfl

/-- The slots and the number of the next timeout are left alone by the HAL and by destroy
functions. -/
theorem SystemApp.Silent.quietly_slots (core : NciCoreObject) (t : Nat) :
  (A.sarEnv n).Quietly (fun _ => True) fun env => env.core = core ∧ env.nextTimeout = t
  := by
  refine ⟨⟨fun _ _ h => h, fun _ _ h => h, ?_⟩, fun _ _ h => h, fun _ _ _ _ h => h⟩
  intro f w h
  show (A.destroyed (A.perform n) f w).env.core = core
    ∧ (A.destroyed (A.perform n) f w).env.nextTimeout = t
  rcases hA.destroyed_eq (n := n) f w with heq | heq
  · rw [heq]
    exact h
  · rw [heq]
    exact h

/-! ### Nothing is left -/

/-- The last command is dropped. -/
theorem SystemApp.Silent.cancelCommand (w : System) (h : w.env.Timed) :
  (nciCoreCancelCommand (A.sarEnv n) (A.client n) w).env.core.cmdId = 0
    ∧ (nciCoreCancelCommand (A.sarEnv n) (A.client n) w).env.core.cmdTimeoutId = none
    ∧ (nciCoreCancelCommand (A.sarEnv n) (A.client n) w).env.core.cmdTimeout
      = w.env.core.cmdTimeout
    ∧ (nciCoreCancelCommand (A.sarEnv n) (A.client n) w).env.nextTimeout = w.env.nextTimeout
    ∧ (nciCoreCancelCommand (A.sarEnv n) (A.client n) w).sar.nextAddr = w.sar.nextAddr
  := by
  have hrespond : ∀ resp userData (w : System),
      (A.client n).respond resp .cancelled [] userData w = w := by
    intro resp userData w
    unfold SystemApp.client SystemApp.clientWith
    dsimp only
    split
    · rfl
    · split
      · rw [World.mapSm, NciSmResponseFunc.call_cancelled, World.toSystem_toSm]
      · rfl
  have hclear : (w.mapEnv CoreEnv.clearTimeout).env.core.cmdTimeoutId = none
      ∧ (w.mapEnv CoreEnv.clearTimeout).env.core.cmdTimeout = w.env.core.cmdTimeout
      ∧ (w.mapEnv CoreEnv.clearTimeout).env.nextTimeout = w.env.nextTimeout
      ∧ (w.mapEnv CoreEnv.clearTimeout).sar.nextAddr = w.sar.nextAddr := by
    refine ⟨(clearTimeout_timeouts h).2, ?_, ?_, rfl⟩
    · show w.env.clearTimeout.core.cmdTimeout = _
      rw [CoreEnv.clearTimeout]
      split <;> rfl
    · show w.env.clearTimeout.nextTimeout = _
      rw [CoreEnv.clearTimeout]
      split <;> rfl
  rw [nciCoreCancelCommand]
  generalize w.mapEnv CoreEnv.clearTimeout = w' at hclear ⊢
  obtain ⟨hid, hms, ht, haddr⟩ := hclear
  dsimp only
  split
  · obtain ⟨hcore, hnext⟩ := (hA.quietly_slots (n := n) w'.env.core w'.env.nextTimeout).cancel
      w'.env.core.cmdId (w := w') ⟨rfl, rfl⟩
    have haddr' := (hA.discreet (n := n)).nextAddr_cancel w'.env.core.cmdId w'
    generalize nciSarCancel (A.sarEnv n) w'.env.core.cmdId w' = w'' at hcore hnext haddr' ⊢
    rw [← hcore] at hid hms
    split
    · rw [hrespond]
      exact ⟨rfl, hid, hms, hnext.trans ht, haddr'.trans haddr⟩
    · exact ⟨rfl, hid, hms, hnext.trans ht, haddr'.trans haddr⟩
  · rename_i hzero
    exact ⟨not_not.mp hzero, hid, hms, ht, haddr⟩

/-- After an error there is still nothing left. -/
theorem SystemApp.Silent.halted_smError {w : System} {ms : UInt32} {t : Nat} (h : w.Halted ms t) :
  ((A.client n).smError w).Halted ms t
  := by
  have hio : w.toSm.io.Halted ms t :=
    ⟨h.blank, h.cmdId, h.cmdTimeoutId, h.cmdTimeout, h.nextTimeout⟩
  have hstalled : (nciSmStallInternal (A.smIo n) .error w.toSm).io.Halted ms t := hio.drop
  obtain ⟨-, hsar, hcore, hnext⟩ := hA.emitPendingSignals (n := n)
    (nciSmStallInternal (A.smIo n) .error w.toSm)
  obtain ⟨hblank, hid, htimeoutId, hms, ht⟩ := hstalled.congr hsar hcore hnext
  exact ⟨hblank, hid, htimeoutId, hms, ht⟩

/-- The completion function of a packet that is dropped leaves nothing behind either. -/
theorem SystemApp.Silent.halted_complete {w : System} {ms : UInt32} {t : Nat} (f : Nat) (ok : Bool)
    (h : w.Halted ms t) :
  ((A.sarEnv n).complete f ok w).Halted ms t
  := by
  match f with
  | 0 =>
      have hzero : (w.mapEnv fun env =>
          env.modify fun core => { core with cmdId := 0 }).Halted ms t :=
        ⟨h.blank, rfl, h.cmdTimeoutId, h.cmdTimeout, h.nextTimeout⟩
      show (nciCoreCommandCompletion (A.client n) ok w).Halted ms t
      rw [nciCoreCommandCompletion]
      split
      · exact hzero
      · exact hA.halted_smError hzero
  | 1 => exact h
  | f + 2 =>
      show (A.callback (A.perform n) (.complete f ok) w).Halted ms t
      rw [hA.callback]
      exact ⟨h.blank, h.cmdId, h.cmdTimeoutId, h.cmdTimeout, h.nextTimeout⟩

/-- Nothing is left when the last command has been dropped and the layer below has been reset. -/
theorem SystemApp.Silent.halted_nciSarReset {w : System} (h : w.Regular)
    (hfuel : w.sar.nextAddr + 1 < A.fuel) :
  (nciSarReset (A.sarEnv n) A.fuel (nciCoreCancelCommand (A.sarEnv n) (A.client n) w)).Halted
    w.env.core.cmdTimeout w.env.nextTimeout
  := by
  obtain ⟨hid, htimeoutId, hms, ht, haddr⟩ := hA.cancelCommand (n := n) w h.2.timed
  have hregular := regular_nciCoreCancelCommand (A := A) (orderly_perform A n) h
  generalize hw' : nciCoreCancelCommand (A.sarEnv n) (A.client n) w = w'
  rw [hw'] at hid htimeoutId hms ht haddr
  rw [show nciCoreCancelCommand (A.sarEnvWith (A.perform n)) (A.clientWith (A.perform n)) w = w'
    from hw'] at hregular
  have hfuel' : w'.sar.nextAddr + 1 < A.fuel := by
    rw [haddr]
    exact hfuel
  have hblank := (hA.discreet (n := n)).resetClear_blank hregular.1 hfuel'
  obtain ⟨hcore, hnext⟩ := (hA.quietly_slots (n := n) w'.env.core w'.env.nextTimeout).resetClear
    A.fuel (w := w') ⟨rfl, rfl⟩
  have hcleared : (nciSarResetClear (A.sarEnv n) A.fuel w').Halted w.env.core.cmdTimeout
      w.env.nextTimeout := by
    constructor
    · exact hblank
    · rw [hcore]
      exact hid
    · rw [hcore]
      exact htimeoutId
    · rw [hcore]
      exact hms
    · rw [hnext]
      exact ht
  have hfree : ∀ (a : Nat) {w : System} {ms : UInt32} {t : Nat}, w.Halted ms t →
      (nciSarPacketOutFree (A.sarEnv n) a w).Halted ms t := by
    intro a w ms t h
    have hsar := (hA.discreet (n := n)).packetOutFree a w
    obtain ⟨hcore, hnext⟩ := (hA.quietly_slots (n := n) w.env.core w.env.nextTimeout).packetOutFree
      a (w := w) ⟨rfl, rfl⟩
    constructor
    · rw [hsar]
      obtain ⟨h1, h2, h3, h4, h5, h6⟩ := h.blank
      exact ⟨h1, h2, h3, h4, h5, h6⟩
    · rw [hcore]
      exact h.cmdId
    · rw [hcore]
      exact h.cmdTimeoutId
    · rw [hcore]
      exact h.cmdTimeout
    · rw [hnext]
      exact h.nextTimeout
  rw [nciSarReset_eq]
  split
  · rw [nciSarPacketOutFinish]
    split
    · exact hfree _ (hA.halted_complete _ false hcleared)
    · exact hfree _ hcleared
  · exact hcleared

/-! ### The restart -/

omit hA in
/-- The core after a restart: it is on its way from RFST_INIT to RFST_IDLE, nothing else is going to
happen, and the only packet is CORE_RESET_CMD. -/
structure World.Restarted (w w' : System) : Prop where
  activeTransition : w'.env.io.sm.activeTransition = some .reset
  nextTransition : w'.env.io.sm.nextTransition = none
  pendingSwitch : w'.env.io.sm.pendingSwitch = none
  lastState : w'.env.io.sm.lastState = .init ∧ w'.env.io.io.currentState = .init
  nextState : w'.env.io.sm.nextState = .idle ∧ w'.env.io.io.nextState = .idle
  cmdId : w'.env.core.cmdId ≠ 0
  packets : w'.sar.Resetting w'.env.core.cmdId
  rspHandler : w'.env.core.rspHandler = some (.resp NciSmResponseFunc.resetRsp.place)
  rspGid : w'.env.core.rspGid = nciGidCore
  rspOid : w'.env.core.rspOid = nciOidCoreReset
  cmdTimeoutId : w'.env.core.cmdTimeoutId
    = if w.env.core.cmdTimeout = 0 then none else some w.env.nextTimeout
  timeouts : w'.env.timeouts = w'.env.core.cmdTimeoutId.toList

/-- A signal that has been emitted is not pending any more. -/
theorem SystemApp.Silent.emitted (sig : NciSmSignal) (w : SmWorld (CoreWorld SystemIo)) :
  (nciSmEmitSignal (A.smIo n) sig w).sm.pendingSignals
    = Function.update w.sm.pendingSignals sig false
  := by
  have hsignal : ∀ w : SmWorld (CoreWorld SystemIo), ((A.smIo n).signal sig w).sm = w.sm := by
    intro w
    cases sig with
    | lastState =>
        rw [SystemApp.smIo, SystemApp.smIoWith]
        dsimp only
        rw [hA.callback]
        rfl
    | nextState =>
        rw [SystemApp.smIo, SystemApp.smIoWith]
        dsimp only
        rw [hA.callback]
        rfl
  rw [nciSmEmitSignal]
  split
  · rw [hsignal]
    rfl
  · rename_i hpending
    have hfalse : w.sm.pendingSignals sig = false := Bool.eq_false_iff.mpr hpending
    rw [← hfalse, Function.update_eq_self]

/-- No signal is pending once all of them have been emitted. -/
theorem SystemApp.Silent.nothingPending (w : SmWorld (CoreWorld SystemIo)) (sig : NciSmSignal) :
  (nciSmEmitPendingSignals (A.smIo n) w).sm.pendingSignals sig = false
  := by
  rw [nciSmEmitPendingSignals, hA.emitted, hA.emitted]
  cases sig <;> rfl

/-- The machine is reset when nothing is left. -/
theorem SystemApp.Silent.restarted_smReset {w w' : System} (h : w'.Regular)
    (hhalted : w'.Halted w.env.core.cmdTimeout w.env.nextTimeout) :
  w.Restarted ((A.client n).smReset w')
  := by
  have hregular : ((A.client n).smReset w').Regular :=
    regular_mapSm (upholds_nciSmReset (upholds_regular (orderly_perform A n))) h
  have haccepts : ∀ sm io, ((A.smIo n).send nciGidCore nciOidCoreReset (some [0]) .resetRsp sm io).1
      = true := by
    intro sm io
    obtain ⟨env, heq, -⟩ := nciCoreIoSendCommand_eq nciGidCore nciOidCoreReset (some [0])
      (some NciSmResponseFunc.resetRsp.place) .null
      (nciCoreCancelCommand SarEnv.idle NciCoreClient.idle io)
    show (nciCoreIoSend _ _ _ _ _ _ _ _).1 = true
    rw [nciCoreIoSend, heq]
  obtain ⟨sm, sm', hreset, hactive, hnext, hswitch, hlast, hnextState⟩ :=
    nciSmReset_eq (A.smIo n) haccepts w'.toSm
  obtain ⟨io, hio⟩ : ∃ io, io = ((A.smIo n).send nciGidCore nciOidCoreReset (some [0]) .resetRsp sm
    w'.toSm.io).2 := ⟨_, rfl⟩
  rw [← hio] at hreset
  have hsend : io = (nciCoreIoSendCommand nciGidCore nciOidCoreReset (some [0])
      (some NciSmResponseFunc.resetRsp.place) .null w'.toSm.io).2 := by
    rw [hio]
    show (nciCoreIoSend SarEnv.idle NciCoreClient.idle _ _ _ _ _ _).2 = _
    rw [nciCoreIoSend, nciCoreCancelCommand_of_none]
    · exact hhalted.cmdId
    · exact hhalted.cmdTimeoutId
  obtain ⟨env, heq, -, hid, hgid, hoid, hhandler, -⟩ := nciCoreIoSendCommand_eq nciGidCore
    nciOidCoreReset (some [0]) (some NciSmResponseFunc.resetRsp.place) .null w'.toSm.io
  have htimeoutId := (nciCoreIoSendCommand_timeouts nciGidCore nciOidCoreReset (some [0])
    (some NciSmResponseFunc.resetRsp.place) .null w'.toSm.io).1
  rw [← hsend] at htimeoutId
  rw [heq] at hsend
  obtain ⟨⟨pending, hsm⟩, hsar, hcore, -⟩ := hA.emitPendingSignals (n := n) ⟨sm', io⟩
  obtain ⟨⟨pending', hsm'⟩, hsar', hcore', -⟩ := hA.emitPendingSignals (n := n)
    (nciSmEmitPendingSignals (A.smIo n) ⟨sm', io⟩)
  have hpending := hA.nothingPending (n := n) (nciSmEmitPendingSignals (A.smIo n) ⟨sm', io⟩)
  rw [hsm] at hsm'
  have hsar' := hsar'.trans hsar
  have hcore' := hcore'.trans hcore
  rw [← hreset] at hsm' hsar' hcore' hpending
  have hmachine : ((A.client n).smReset w').env.io.sm = { sm' with pendingSignals := pending' } :=
    hsm'
  have hslots : ((A.client n).smReset w').env.core = io.env.core := hcore'
  have hlayer : ((A.client n).smReset w').sar = io.sar := hsar'
  constructor
  · rw [hmachine]
    exact hactive
  · rw [hmachine]
    exact hnext
  · rw [hmachine]
    exact hswitch
  · have hlast' : ((A.client n).smReset w').env.io.sm.lastState = .init := by
      rw [hmachine]
      exact hlast
    exact ⟨hlast', (hregular.2.published.lastState (hpending .lastState)).trans hlast'⟩
  · have hnextState' : ((A.client n).smReset w').env.io.sm.nextState = .idle := by
      rw [hmachine]
      exact hnextState
    exact ⟨hnextState', (hregular.2.published.nextState (hpending .nextState)).trans hnextState'⟩
  · rw [hslots, hsend]
    exact hid ▸ NciSar.nextPacketId_ne_zero _
  · rw [hslots, hlayer, hsend]
    exact hid ▸ hhalted.blank.resetting
  · rw [hslots, hsend]
    exact hhandler
  · rw [hslots, hsend]
    exact hgid
  · rw [hslots, hsend]
    exact hoid
  · rw [hslots, htimeoutId]
    show (if w'.env.core.cmdTimeout = 0 then w'.env.core.cmdTimeoutId else some w'.env.nextTimeout)
      = _
    rw [hhalted.cmdTimeout, hhalted.cmdTimeoutId, hhalted.nextTimeout]
  · exact hregular.2.timed

/-- Whatever state the core is in, and whatever has been called from inside callbacks before, a
restart ends in the same way if nothing is called from inside callbacks while it is under way. -/
theorem restartFromAnywhere (B : SystemApp) (depth : Nat) (obj : NciSmObject)
    (events : List SystemEvent) (hfuel : (B.run depth (nciCoreNew obj) events).sar.nextAddr + 1
      < A.fuel) :
  (B.run depth (nciCoreNew obj) events).Restarted
    (A.nciCoreRestart (A.perform n) (B.run depth (nciCoreNew obj) events))
  := by
  have h := regular_run B depth (regular_nciCoreNew obj) events
  have hreset := (orderly_sarEnv (A := A) (orderly_perform A n)).reset A.fuel
    (regular_nciCoreCancelCommand (A := A) (orderly_perform A n) h)
  exact hA.restarted_smReset hreset (hA.halted_nciSarReset h hfuel)

end

/-- The core is restarted while CORE_RESET_CMD is being written, and after discovery has been asked
for. -/
theorem restartFromAnywhere_writing :
  (SystemApp.quiet.run 1 (nciCoreNew nciSmObjectNew)
      [.request .restart, .idleWrite, .request (.setState .discovery)]).Restarted
    (SystemApp.quiet.nciCoreRestart (SystemApp.quiet.perform 1) (SystemApp.quiet.run 1
      (nciCoreNew nciSmObjectNew)
      [.request .restart, .idleWrite, .request (.setState .discovery)]))
  := by
  apply restartFromAnywhere (A := SystemApp.quiet) (fun _ => rfl) SystemApp.quiet 1 nciSmObjectNew
  show _ < 100
  decide

end Nci
