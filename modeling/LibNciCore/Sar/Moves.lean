import LibNciCore.Sar.Trace

/-!
# Moves of the layer

The sequences of small steps of the previous files leave resets and changes of the number of
connections aside. Here a run of any functions of the layer, in any surroundings, is cut into
moves. A move takes the layer from one callback to the next. The packets that are on their way
out of the layer, because a callback is under way before they are freed, are kept on a stack.

What the moves do is asserted without any condition on the state: what holds in a run can then
be proved by induction on the moves, under any condition on what the run has recorded.
-/

namespace Nci

open LinkedQueue

variable {ε : Type}

/-! ### Moments -/

/-- A packet on its way out of the layer: its completion function has still to be called, or
it has only to be freed. -/
inductive Leaving where
  | finish (a : Nat) (ok : Bool)
  | free (a : Nat)
  deriving DecidableEq, Repr

/-- The packet that is on its way out. -/
def Leaving.addr : Leaving → Nat
  | .finish a _ => a
  | .free a => a

/-- A moment of a run: the world, and the packets on their way out, the last one first. -/
abbrev Moment (ε : Type) := World ε × List Leaving

/-- Nothing happens before the completion function of the last packet is called. -/
def Ready : List Leaving → Prop
  | .finish _ _ :: _ => False
  | _ => True

/-- The states have the same packets, queues and packet being written, and differ at most in
what is received, in their credits, and in what is scheduled. -/
structure NciSar.Tuned (sar sar' : NciSar) : Prop where
  same : NciSar.SameQueues sar sar'
  writePending : sar'.writePending = sar.writePending
  maxLogicalConns : sar'.maxLogicalConns = sar.maxLogicalConns
  lastPacketId : sar'.lastPacketId = sar.lastPacketId
  control : sarMinControlPayloadLimit ≤ sar.controlPayloadLimit →
    sarMinControlPayloadLimit ≤ sar'.controlPayloadLimit
  data : sarMinDataPayloadLimit ≤ sar.dataPayloadLimit →
    sarMinDataPayloadLimit ≤ sar'.dataPayloadLimit

/-- What a reset does before the completion function of the packet that was being written is
called. -/
def nciSarResetClear (E : SarEnv ε) (fuel : Nat) (w : World ε) : World ε :=
  let w := nciSarResetIo E w
  let w := nciSarResetConns E fuel (List.range 255) w
  let w := w.map fun self => self.setControlIn (self.controlIn.map fun _ => [])
  let w := nciSarClearQueue E .cmd fuel w
  w.map fun self => self.setStartWriteId false

/-- The packet that a reset drops while it is being written. -/
def NciSar.dropped (sar : NciSar) : List Leaving :=
  match sar.writing with
  | some a => [.finish a false]
  | none => []

/-- The packet that leaves when the HAL reports the end of a write. -/
def NciSar.reported (sar : NciSar) (ok : Bool) (a : Nat) : List Leaving :=
  if ok && !sar.isDoneAt a then [] else [.finish a ok]

theorem nciSarReset_eq (E : SarEnv ε) (fuel : Nat) (w : World ε) :
  nciSarReset E fuel w = match w.sar.writing with
    | some a => nciSarPacketOutFinish E a false (nciSarResetClear E fuel w)
    | none => nciSarResetClear E fuel w
  := rfl

/-! ### Moves -/

/-- A move of the layer: nothing but the HAL and the destroy functions of packets is called. -/
inductive Move (E : SarEnv ε) : Moment ε → Moment ε → Prop
  | tuned {w : World ε} {S : List Leaving} (sar : NciSar) :
      Ready S → w.sar.Tuned sar → Move E (w, S) (⟨sar, w.env⟩, S)
  | selected {w : World ε} {S : List Leaving} :
      Ready S → w.sar.writePending = false → Move E (w, S) (w.map NciSar.select, S)
  | handed {w : World ε} {S : List Leaving} {a : Nat} :
      Ready S → w.sar.writePending = false → w.sar.writing = some a →
      (nciSarAttemptWriteSubmit E a w).1 = true →
      Move E (w, S) ((nciSarAttemptWriteSubmit E a w).2, S)
  | refused {w : World ε} {S : List Leaving} {a : Nat} :
      Ready S → w.sar.writePending = false → w.sar.writing = some a →
      (nciSarAttemptWriteSubmit E a w).1 = false →
      Move E (w, S)
        ((nciSarAttemptWriteSubmit E a w).2.map fun sar => sar.setWriting none,
          .finish a false :: S)
  | skipped {w : World ε} {S : List Leaving} {a : Nat} {ok : Bool} :
      (w.sar.heap a).bind NciSarPacketOut.complete = none →
      Move E (w, .finish a ok :: S) (w, .free a :: S)
  | freed {w : World ε} {S : List Leaving} {a : Nat} :
      Move E (w, .free a :: S) (nciSarPacketOutFree E a w, S)

/-- The steps of a run follow the layer: they include its moves, and the callbacks are
sequences of them. -/
structure SarEnv.Follows (E : SarEnv ε) (T : Moment ε → Moment ε → Prop) : Prop where
  move : ∀ {x y : Moment ε}, Move E x y → T x y
  complete : ∀ (f : Nat) (ok : Bool) (w : World ε) (a : Nat) (S : List Leaving),
    (w.sar.heap a).bind NciSarPacketOut.complete = some f →
    Relation.ReflTransGen T (w, .finish a ok :: S) (E.complete f ok w, .free a :: S)
  error : ∀ (w : World ε) (S : List Leaving), Ready S →
    Relation.ReflTransGen T (w, S) (E.error w, S)
  handleResponse : ∀ (gid oid : UInt8) (payload : List UInt8) (w : World ε) (S : List Leaving),
    Ready S → Relation.ReflTransGen T (w, S) (E.handleResponse gid oid payload w, S)
  handleNotification : ∀ (gid oid : UInt8) (payload : List UInt8) (w : World ε)
    (S : List Leaving), Ready S →
    Relation.ReflTransGen T (w, S) (E.handleNotification gid oid payload w, S)
  handleDataPacket : ∀ (cid : UInt8) (payload : List UInt8) (w : World ε) (S : List Leaving),
    Ready S → Relation.ReflTransGen T (w, S) (E.handleDataPacket cid payload w, S)

/-! ### Changes that leave the packets alone -/

namespace NciSar

theorem tuned_of_same {sar sar' : NciSar} (hs : SameQueues sar sar')
    (hpending : sar'.writePending = sar.writePending)
    (hmax : sar'.maxLogicalConns = sar.maxLogicalConns)
    (hid : sar'.lastPacketId = sar.lastPacketId)
    (hcontrol : sar'.controlPayloadLimit = sar.controlPayloadLimit)
    (hdata : sar'.dataPayloadLimit = sar.dataPayloadLimit) :
  Tuned sar sar'
  := by
  use hs, hpending, hmax, hid
  · rw [hcontrol]
    apply id
  · rw [hdata]
    apply id

theorem tuned_refl (sar : NciSar) :
  Tuned sar sar
  := by
  have hs : SameQueues sar sar := by apply sameQueues_of_fields <;> rfl
  apply tuned_of_same hs rfl rfl rfl rfl rfl

theorem Tuned.trans {sar sar' sar'' : NciSar} (h : Tuned sar sar') (h' : Tuned sar' sar'') :
  Tuned sar sar''
  := by
  constructor
  · apply h.same.trans h'.same
  · rw [h'.writePending, h.writePending]
  · rw [h'.maxLogicalConns, h.maxLogicalConns]
  · rw [h'.lastPacketId, h.lastPacketId]
  · intro hcontrol
    apply h'.control (h.control hcontrol)
  · intro hdata
    apply h'.data (h.data hdata)

theorem tuned_modifyConn (sar : NciSar) (cid : Nat)
    (f : NciSarLogicalConnection → NciSarLogicalConnection)
    (hf : (f (sar.conn cid)).out = (sar.conn cid).out) :
  Tuned sar (sar.modifyConn cid f)
  := tuned_of_same (sameQueues_modifyConn sar cid f hf) rfl rfl rfl rfl rfl

theorem tuned_setInput (sar : NciSar) (cid : Nat) (input : Option (List UInt8)) :
  Tuned sar (sar.setInput cid input)
  := tuned_modifyConn sar cid _ rfl

theorem tuned_setControlIn (sar : NciSar) (input : Option (List UInt8)) :
  Tuned sar (sar.setControlIn input)
  := by
  have hs : SameQueues sar (sar.setControlIn input) := by apply sameQueues_of_fields <;> rfl
  apply tuned_of_same hs rfl rfl rfl rfl rfl

theorem tuned_setDangling (sar : NciSar) :
  Tuned sar sar.setDangling
  := by
  have hs : SameQueues sar sar.setDangling := by apply sameQueues_of_fields <;> rfl
  apply tuned_of_same hs rfl rfl rfl rfl rfl

theorem tuned_setStarted (sar : NciSar) (b : Bool) :
  Tuned sar (sar.setStarted b)
  := by
  have hs : SameQueues sar (sar.setStarted b) := by apply sameQueues_of_fields <;> rfl
  apply tuned_of_same hs rfl rfl rfl rfl rfl

theorem tuned_setStartWriteId (sar : NciSar) (b : Bool) :
  Tuned sar (sar.setStartWriteId b)
  := by
  have hs : SameQueues sar (sar.setStartWriteId b) := by apply sameQueues_of_fields <;> rfl
  apply tuned_of_same hs rfl rfl rfl rfl rfl

theorem tuned_scheduleWrite (sar : NciSar) :
  Tuned sar (nciSarScheduleWrite sar)
  := by
  rw [nciSarScheduleWrite]
  split
  · apply tuned_setStartWriteId
  · apply tuned_refl

theorem tuned_takeCredits (sar : NciSar) (cid : Nat) (credits : UInt8) :
  Tuned sar (nciSarTakeCredits sar cid credits)
  := by
  rw [nciSarTakeCredits]
  split
  · have hconn := tuned_modifyConn sar cid (fun conn =>
      { conn with credits := if 0xff - conn.credits < credits then sarUnlimitedCredits
                             else conn.credits + credits }) rfl
    simp only
    split
    · apply hconn.trans (tuned_scheduleWrite _)
    · apply hconn
  · apply tuned_refl

theorem tuned_addCredits (sar : NciSar) (cid credits : UInt8) :
  Tuned sar (nciSarAddCredits sar cid credits)
  := by
  rw [nciSarAddCredits]
  split
  · apply tuned_takeCredits
  · apply tuned_refl

theorem tuned_setInitialCredits (sar : NciSar) (cid credits : UInt8) :
  Tuned sar (nciSarSetInitialCredits sar cid credits)
  := by
  rw [nciSarSetInitialCredits]
  split
  · apply tuned_modifyConn
    rfl
  · apply tuned_refl

theorem tuned_setMaxControlPayloadSize (sar : NciSar) (max : UInt8) :
  Tuned sar (nciSarSetMaxControlPayloadSize sar max)
  := by
  constructor
  · apply sameQueues_of_fields <;> rfl
  · rfl
  · rfl
  · rfl
  · intro _
    simp only [nciSarSetMaxControlPayloadSize]
    split
    · apply UInt8.le_refl
    · rename_i h
      apply UInt8.not_lt.mp h
  · apply id

theorem tuned_setMaxDataPayloadSize (sar : NciSar) (max : UInt8) :
  Tuned sar (nciSarSetMaxDataPayloadSize sar max)
  := by
  constructor
  · apply sameQueues_of_fields <;> rfl
  · rfl
  · rfl
  · rfl
  · apply id
  · intro _
    simp only [nciSarSetMaxDataPayloadSize]
    split
    · apply UInt8.le_refl
    · rename_i h
      apply UInt8.not_lt.mp h

/-- Tuning keeps the state well formed. -/
theorem Tuned.wf {sar sar' : NciSar} (h : Tuned sar sar') (hw : sar.WF) :
  sar'.WF
  := h.same.wf hw (h.control hw.control) (h.data hw.data)

end NciSar

/-! ### The functions are sequences of moves -/

namespace SarEnv.Follows

variable {E : SarEnv ε} {T : Moment ε → Moment ε → Prop} (hE : E.Follows T)
  {S : List Leaving} (hS : Ready S)

include hE

theorem single {x y : Moment ε} (h : Move E x y) :
  Relation.ReflTransGen T x y
  := Relation.ReflTransGen.single (hE.move h)

/-- A packet is reported to the client and freed. -/
theorem packetOutFinish (a : Nat) (ok : Bool) (w : World ε) :
  Relation.ReflTransGen T (w, .finish a ok :: S) (nciSarPacketOutFinish E a ok w, S)
  := by
  rw [nciSarPacketOutFinish]
  cases hf : (w.sar.heap a).bind NciSarPacketOut.complete with
  | some f =>
      apply (hE.complete f ok w a S hf).tail
      apply hE.move Move.freed
  | none =>
      apply (hE.single (Move.skipped hf)).tail
      apply hE.move Move.freed

/-- The end of a reset. -/
theorem reset {x : Moment ε} {w : World ε} {fuel : Nat}
    (h : Relation.ReflTransGen T x (nciSarResetClear E fuel w, w.sar.dropped ++ S)) :
  Relation.ReflTransGen T x (nciSarReset E fuel w, S)
  := by
  apply h.trans
  rw [nciSarReset_eq, NciSar.dropped]
  cases w.sar.writing with
  | some a => apply hE.packetOutFinish
  | none => apply Relation.ReflTransGen.refl

include hS

/-- A change that leaves the packets alone. -/
theorem tune {w : World ε} {f : NciSar → NciSar} (h : w.sar.Tuned (f w.sar)) :
  Relation.ReflTransGen T (w, S) (w.map f, S)
  := hE.single (Move.tuned (f w.sar) hS h)

/-- A packet whose segment has not been taken is dropped. -/
theorem attemptWriteFailed (a : Nat) (w : World ε) :
  Relation.ReflTransGen T (w.map fun sar => sar.setWriting none, .finish a false :: S)
    (nciSarAttemptWriteFailed E a w, S)
  := by
  rw [nciSarAttemptWriteFailed]
  apply (hE.packetOutFinish a false _).trans
  apply (hE.error _ S hS).trans
  apply hE.tune hS (NciSar.tuned_scheduleWrite _)

/-- Attempting to write. -/
theorem attemptWrite (w : World ε) :
  Relation.ReflTransGen T (w, S) (nciSarAttemptWrite E w, S)
  := by
  by_cases hp : w.sar.writePending = true
  · rw [nciSarAttemptWrite, if_pos hp]
  · have hattempt : nciSarAttemptWrite E w = match w.sar.select.writing with
        | some a => nciSarAttemptWriteGo E a (w.map NciSar.select)
        | none => w.map NciSar.select := by
      rw [nciSarAttemptWrite, if_neg hp]
      rfl
    have hpending : w.sar.writePending = false := by simpa using hp
    have hpending' : (w.map NciSar.select).sar.writePending = false := by
      rw [← hpending]
      apply NciSar.writePending_select
    rw [hattempt]
    apply (hE.single (Move.selected hS hpending)).trans
    cases ha : w.sar.select.writing with
    | none => apply Relation.ReflTransGen.refl
    | some a =>
        show Relation.ReflTransGen T _ (nciSarAttemptWriteGo E a (w.map NciSar.select), S)
        simp only [nciSarAttemptWriteGo]
        split
        · rename_i hok
          apply hE.single (Move.handed hS hpending' ha hok)
        · rename_i hok
          apply (hE.single (Move.refused hS hpending' ha (by simpa using hok))).trans
          apply hE.attemptWriteFailed hS

/-- The idle callback. -/
theorem startWrite (w : World ε) :
  Relation.ReflTransGen T (w, S) (nciSarStartWrite E w, S)
  := (hE.tune hS (NciSar.tuned_setStartWriteId _ false)).trans (hE.attemptWrite hS _)

/-- The end of a write: what follows once it is known whether a packet leaves. -/
theorem writeCompleted {x : Moment ε} {w : World ε} {a : Nat} {ok : Bool}
    (ha : w.sar.writing = some a)
    (h : Relation.ReflTransGen T x
      (w.map fun sar => sar.completedEffect ok a, w.sar.reported ok a ++ S)) :
  Relation.ReflTransGen T x (nciSarWriteCompleted E ok w, S)
  := by
  have hdoneAt : (w.sar.setWritePending false).isDoneAt a = w.sar.isDoneAt a := rfl
  apply h.trans
  rw [nciSarWriteCompleted, ha]
  cases ok with
  | true =>
      simp only [World.map, hdoneAt, if_true]
      cases hdone : w.sar.isDoneAt a with
      | true =>
          have hreported : w.sar.reported true a = [.finish a true] := by
            simp [NciSar.reported, hdone]
          have heffect : w.sar.completedEffect true a
              = (w.sar.setWritePending false).setWriting none := by
            simp [NciSar.completedEffect, hdone]
          rw [hreported, heffect, if_pos rfl]
          apply (hE.packetOutFinish a true _).trans
          apply hE.attemptWrite hS
      | false =>
          have hreported : w.sar.reported true a = [] := by
            simp [NciSar.reported, hdone]
          have heffect : w.sar.completedEffect true a = w.sar.setWritePending false := by
            have hsame : w.sar.setWritePending false
                = (w.sar.setWritePending false).setWriting (some a) := by
              rw [← ha]
              rfl
            rw [hsame]
            simp [NciSar.completedEffect, hdone]
          rw [hreported, heffect, if_neg Bool.false_ne_true]
          apply hE.attemptWrite hS
  | false =>
      have hreported : w.sar.reported false a = [.finish a false] := rfl
      have heffect : w.sar.completedEffect false a
          = (w.sar.setWritePending false).setWriting none := rfl
      simp only [World.map, Bool.false_eq_true, if_false, hreported, heffect]
      apply (hE.packetOutFinish a false _).trans
      apply hE.error _ _ hS

/-- A control message is passed to the client. -/
theorem handleControlPacket (mt gid oid : UInt8) (payload : List UInt8) (w : World ε) :
  Relation.ReflTransGen T (w, S) (nciSarHalHandleControlPacket E mt gid oid payload w, S)
  := by
  rw [nciSarHalHandleControlPacket]
  split
  · apply hE.handleResponse _ _ _ _ _ hS
  · apply hE.handleNotification _ _ _ _ _ hS

/-- A segment of a control message. -/
theorem handleControlSegment (packet : List UInt8) (w : World ε) :
  Relation.ReflTransGen T (w, S) (nciSarHalHandleControlSegment E packet w, S)
  := by
  simp only [nciSarHalHandleControlSegment]
  split
  · split
    · split
      · apply (hE.tune hS (f := fun sar => sar.setControlIn none)
          (NciSar.tuned_setControlIn _ none)).trans
        apply (hE.handleControlPacket hS _ _ _ _ _).trans
        apply hE.tune hS (NciSar.tuned_setControlIn _ _)
      · apply hE.tune hS (NciSar.tuned_setControlIn _ _)
    · apply hE.error _ _ hS
  · split
    · apply hE.tune hS (NciSar.tuned_setControlIn _ _)
    · apply hE.handleControlPacket hS

/-- A segment of a data message. -/
theorem handleDataSegment (packet : List UInt8) (w : World ε) :
  Relation.ReflTransGen T (w, S) (nciSarHalHandleDataSegment E packet w, S)
  := by
  simp only [nciSarHalHandleDataSegment]
  split
  · apply (hE.tune hS (f := fun sar => nciSarTakeCredits sar
      (packet.getD 0 0 &&& nciDataCidMask).toNat (packet.getD 1 0 &&& nciDataCrMask))
      (NciSar.tuned_takeCredits _ _ _)).trans
    split
    · split
      · apply (hE.tune hS (f := fun sar =>
          sar.setInput (packet.getD 0 0 &&& nciDataCidMask).toNat none)
          (NciSar.tuned_setInput _ _ none)).trans
        apply (hE.handleDataPacket _ _ _ S hS).trans
        split
        · apply hE.tune hS (NciSar.tuned_setInput _ _ _)
        · apply hE.tune hS (NciSar.tuned_setDangling _)
      · apply hE.tune hS (NciSar.tuned_setInput _ _ _)
    · split
      · apply hE.tune hS (NciSar.tuned_setInput _ _ _)
      · apply hE.handleDataPacket _ _ _ _ hS
  · apply hE.error _ _ hS

/-- A segment. -/
theorem handleSegment (packet : List UInt8) (w : World ε) :
  Relation.ReflTransGen T (w, S) (nciSarHalHandleSegment E packet w, S)
  := by
  simp only [nciSarHalHandleSegment]
  split
  · apply hE.handleDataSegment hS
  · split
    · apply hE.handleControlSegment hS
    · apply hE.error _ _ hS

end SarEnv.Follows

end Nci
