import LibNciCore.Core.System
import LibNciCore.Core.Moves
import LibNciCore.Sar.Credits
import LibNciCore.Sm.Initialization

/-!
# What an error leaves alone

When the machine stalls because of an error, the last command is dropped, and then the application
is told about the states. What the machine knows about the controller stays as it is, and so do the
limits and the credits of the layer below.
-/

namespace Nci

/-- The layers have the same limits and the same credits. -/
structure NciSar.SameTerms (sar sar' : NciSar) : Prop where
  maxLogicalConns : sar'.maxLogicalConns = sar.maxLogicalConns
  controlPayloadLimit : sar'.controlPayloadLimit = sar.controlPayloadLimit
  dataPayloadLimit : sar'.dataPayloadLimit = sar.dataPayloadLimit
  credits : ∀ cid, sar'.credits cid = sar.credits cid

theorem NciSar.sameTerms_refl (sar : NciSar) :
  sar.SameTerms sar
  := ⟨rfl, rfl, rfl, fun _ => rfl⟩

/-- Cancelling a packet. -/
theorem sameTerms_cancelEffect (sar : NciSar) (id : UInt32) :
  sar.SameTerms (sar.cancelEffect id)
  := by
  refine ⟨?_, ?_, ?_, fun cid => NciSar.credits_cancelEffect sar id cid⟩
  all_goals
    rw [NciSar.cancelEffect]
    split
    · split <;> rfl
    · split
      · rename_i k _ _
        cases k <;> rfl
      · rfl

section

variable {ι : Type} (w : CoreWorld ι)

theorem nciSarCancel_idle (id : UInt32) :
  w.sar.SameTerms (nciSarCancel SarEnv.idle id w).sar
    ∧ (nciSarCancel SarEnv.idle id w).env = w.env
  := by
  have hfree : ∀ (a : Nat) (w : CoreWorld ι),
      nciSarPacketOutFree SarEnv.idle a w = w.map fun self => self.dealloc a := by
    intro a w
    rw [nciSarPacketOutFree]
    split <;> rfl
  have hterms := sameTerms_cancelEffect w.sar id
  rw [nciSarCancel_eq]
  split
  · rw [hfree]
    exact ⟨⟨hterms.maxLogicalConns, hterms.controlPayloadLimit, hterms.dataPayloadLimit,
      hterms.credits⟩, rfl⟩
  · exact ⟨hterms, rfl⟩

/-- The last command is dropped. -/
theorem nciCoreCancelCommand_idle :
  w.sar.SameTerms (nciCoreCancelCommand SarEnv.idle NciCoreClient.idle w).sar
    ∧ (nciCoreCancelCommand SarEnv.idle NciCoreClient.idle w).env.io = w.env.io
  := by
  have hclear : (w.mapEnv CoreEnv.clearTimeout).env.io = w.env.io := by
    unfold World.mapEnv CoreEnv.clearTimeout
    split <;> rfl
  rw [nciCoreCancelCommand]
  dsimp only
  split
  · obtain ⟨hterms, henv⟩ := nciSarCancel_idle (w.mapEnv CoreEnv.clearTimeout)
      (w.mapEnv CoreEnv.clearTimeout).env.core.cmdId
    have hio := (congrArg CoreEnv.io henv).trans hclear
    split
    · exact ⟨hterms, hio⟩
    · exact ⟨hterms, hio⟩
  · exact ⟨w.sar.sameTerms_refl, hclear⟩

/-- A command is queued. -/
theorem sameTerms_nciSarSend (sar : NciSar) (k : QueueKey) (conn : Option ConnPtr) (b0 b1 : UInt8)
    (payload : Option (List UInt8)) (complete destroy : Option Nat) :
  sar.SameTerms (nciSarSend sar k conn b0 b1 payload complete destroy).2
  := by
  refine ⟨?_, ?_, ?_, fun cid => NciSar.credits_send sar k conn b0 b1 payload complete destroy cid⟩
  all_goals
    rw [nciSarSend]
    unfold nciSarScheduleWrite
    dsimp only
    split <;> cases k <;> rfl

theorem NciSar.SameTerms.trans {sar sar' sar'' : NciSar} (h : sar.SameTerms sar')
    (h' : sar'.SameTerms sar'') :
  sar.SameTerms sar''
  := by
  constructor
  · rw [h'.maxLogicalConns, h.maxLogicalConns]
  · rw [h'.controlPayloadLimit, h.controlPayloadLimit]
  · rw [h'.dataPayloadLimit, h.dataPayloadLimit]
  · intro cid
    rw [h'.credits, h.credits]

/-- The last command is dropped and another one is sent. -/
theorem nciCoreIoSend_idle (gid oid : UInt8) (payload : Option (List UInt8)) (resp : Option Nat)
    (userData : UserData) :
  w.sar.SameTerms
      (nciCoreIoSend SarEnv.idle NciCoreClient.idle gid oid payload resp userData w).2.sar
    ∧ (nciCoreIoSend SarEnv.idle NciCoreClient.idle gid oid payload resp userData w).2.env.io
      = w.env.io
  := by
  obtain ⟨hterms, hio⟩ := nciCoreCancelCommand_idle w
  obtain ⟨env, heq, hio', -⟩ := nciCoreIoSendCommand_eq gid oid payload resp userData
    (nciCoreCancelCommand SarEnv.idle NciCoreClient.idle w)
  have hqueued := sameTerms_nciSarSend (nciCoreCancelCommand SarEnv.idle NciCoreClient.idle w).sar
    .cmd none (nciMtCmdPkt ||| (gid &&& nciControlGidMask)) (oid &&& nciControlOidMask) payload
    (some 0) none
  rw [nciCoreIoSend, heq]
  exact ⟨hterms.trans hqueued, hio'.trans hio⟩

theorem nciCoreIoCancel_idle :
  w.sar.SameTerms (nciCoreIoCancel SarEnv.idle NciCoreClient.idle w).sar
    ∧ (nciCoreIoCancel SarEnv.idle NciCoreClient.idle w).env.io = w.env.io
  := nciCoreCancelCommand_idle (w.mapEnv fun env => env.modify fun core =>
      { core with rspHandler := none, rspData := .null })

end

/-! ### The error -/

variable {A : SystemApp} {n : Nat}

/-- The machine has stalled: the rest is as it was. -/
structure SmWorld.Fails (w w' : SmWorld (CoreWorld SystemIo)) : Prop where
  lastState : w'.sm.lastState = .error
  nextState : w'.sm.nextState = .error
  activeTransition : w'.sm.activeTransition = none
  capabilities : w'.sm.capabilities = w.sm.capabilities
  terms : w.io.sar.SameTerms w'.io.sar

/-- The machine stalls. -/
theorem fails_nciSmStallInternal (w : SmWorld (CoreWorld SystemIo)) :
  w.Fails (nciSmStallInternal (A.smIo n) .error w)
  := by
  obtain ⟨_, _, _, _, _, _, hstalled, -, -⟩ := nciSmStalled_eq .error w.sm
  have hsm : (nciSmStallInternal (A.smIo n) .error w).sm = nciSmStalled .error w.sm := rfl
  constructor
  · rw [hsm, hstalled]
  · rw [hsm, hstalled]
  · rw [hsm, hstalled]
  · rw [hsm, hstalled]
    rfl
  · exact (nciCoreIoCancel_idle w.io).1

/-- An application that calls nothing. -/
def SystemApp.Silent (A : SystemApp) : Prop := ∀ log, A.react log = []

theorem SystemApp.Silent.perform_react (h : A.Silent) (log : SystemLog) (w : System) :
  A.perform n (A.react log) w = w
  := by
  rw [h log]
  cases n <;> rfl

theorem SystemApp.Silent.callback (h : A.Silent) (e : SystemEntry) (w : System) :
  A.callback (A.perform n) e w = w.report e
  := h.perform_react _ _

/-- The states are published. Nothing else happens if the application calls nothing. -/
theorem SystemApp.Silent.emitSignal (h : A.Silent) (sig : NciSmSignal)
    (w : SmWorld (CoreWorld SystemIo)) :
  (∃ pendingSignals, (nciSmEmitSignal (A.smIo n) sig w).sm
      = { w.sm with pendingSignals := pendingSignals })
    ∧ (nciSmEmitSignal (A.smIo n) sig w).io.sar = w.io.sar
    ∧ (nciSmEmitSignal (A.smIo n) sig w).io.env.core = w.io.env.core
    ∧ (nciSmEmitSignal (A.smIo n) sig w).io.env.nextTimeout = w.io.env.nextTimeout
  := by
  have hsignal : ∀ w : SmWorld (CoreWorld SystemIo), ((A.smIo n).signal sig w).sm = w.sm
      ∧ ((A.smIo n).signal sig w).io.sar = w.io.sar
      ∧ ((A.smIo n).signal sig w).io.env.core = w.io.env.core
      ∧ ((A.smIo n).signal sig w).io.env.nextTimeout = w.io.env.nextTimeout := by
    intro w
    cases sig with
    | lastState =>
        rw [SystemApp.smIo, SystemApp.smIoWith]
        dsimp only
        rw [h.callback]
        exact ⟨rfl, rfl, rfl, rfl⟩
    | nextState =>
        rw [SystemApp.smIo, SystemApp.smIoWith]
        dsimp only
        rw [h.callback]
        exact ⟨rfl, rfl, rfl, rfl⟩
  rw [nciSmEmitSignal]
  split
  · obtain ⟨hsm, hrest⟩ := hsignal (w.map fun self =>
      { self with pendingSignals := Function.update self.pendingSignals sig false })
    exact ⟨⟨_, hsm⟩, hrest⟩
  · exact ⟨⟨_, rfl⟩, rfl, rfl, rfl⟩

theorem SystemApp.Silent.emitPendingSignals (h : A.Silent) (w : SmWorld (CoreWorld SystemIo)) :
  (∃ pendingSignals, (nciSmEmitPendingSignals (A.smIo n) w).sm
      = { w.sm with pendingSignals := pendingSignals })
    ∧ (nciSmEmitPendingSignals (A.smIo n) w).io.sar = w.io.sar
    ∧ (nciSmEmitPendingSignals (A.smIo n) w).io.env.core = w.io.env.core
    ∧ (nciSmEmitPendingSignals (A.smIo n) w).io.env.nextTimeout = w.io.env.nextTimeout
  := by
  obtain ⟨⟨pending, hsm⟩, hsar, hcore, hnext⟩ := h.emitSignal (n := n) .nextState w
  obtain ⟨⟨pending', hsm'⟩, hsar', hcore', hnext'⟩ := h.emitSignal (n := n) .lastState
    (nciSmEmitSignal (A.smIo n) .nextState w)
  rw [nciSmEmitPendingSignals]
  refine ⟨⟨pending', ?_⟩, hsar'.trans hsar, hcore'.trans hcore, hnext'.trans hnext⟩
  rw [hsm', hsm]

/-- After an error the machine has stalled when the application is told. -/
theorem nciSmError_fails (A : SystemApp) (n : Nat) (w : SmWorld (CoreWorld SystemIo)) :
  ∃ w', nciSmError (A.smIo n) w = nciSmEmitPendingSignals (A.smIo n) w' ∧ w.Fails w'
  := ⟨_, rfl, fails_nciSmStallInternal w⟩

/-- What holds when the application is told still holds afterwards, if it calls nothing. -/
theorem SystemApp.Silent.fails (h : A.Silent) {w w' : SmWorld (CoreWorld SystemIo)}
    (hfails : w.Fails w') :
  w.Fails (nciSmEmitPendingSignals (A.smIo n) w')
  := by
  obtain ⟨⟨pending, hsm⟩, hsar, -⟩ := h.emitPendingSignals (n := n) w'
  constructor
  · rw [hsm]
    exact hfails.lastState
  · rw [hsm]
    exact hfails.nextState
  · rw [hsm]
    exact hfails.activeTransition
  · rw [hsm]
    exact hfails.capabilities
  · rw [hsar]
    exact hfails.terms

end Nci
