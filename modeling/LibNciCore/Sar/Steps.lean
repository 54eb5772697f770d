import LibNciCore.Sar.Effects
import Mathlib.Logic.Relation

/-!
# Runs as sequences of small steps

Between two callbacks a function of the layer does something simple. These small steps are
listed here, and every run is shown to be a sequence of them. There are three kinds. `Inner`
steps happen in a callback, in which functions of the interface may be called; `Step` adds
what happens only when the HAL or the event loop enters the layer; and `Completed` is the
report of the HAL that a segment has been written.

A property of runs can then be proved by going through the small steps.
-/

namespace Nci

open LinkedQueue

/-! ### What the calls do -/

namespace NciSar

/-- The queue and the packet that are found for an id. -/
def findPacket (sar : NciSar) (id : UInt32) (ks : List QueueKey) : Option (QueueKey × Nat) :=
  ks.findSome? fun k => (sar.found id k).map fun a => (k, a)

/-- The packet that cancelling an id removes: the first one with that id in the queues,
unless the id is zero or that of the packet being written. -/
def cancelTarget (sar : NciSar) (id : UInt32) : Option (QueueKey × Nat) :=
  if id ≠ 0 ∧ sar.isWriting id = false then sar.findPacket id sar.keys else none

/-- What cancelling an id does before the packet is freed. -/
def cancelEffect (sar : NciSar) (id : UInt32) : NciSar :=
  if id ≠ 0 ∧ sar.isWriting id = true then
    match sar.writing with
    | some a => sar.modifyPacket a fun out => { out with complete := none }
    | none => sar
  else match sar.cancelTarget id with
    | some (k, _) => sar.unlink id k
    | none => sar

/-- What arriving of a segment does to the credits. -/
def receivedEffect (sar : NciSar) (packet : List UInt8) : NciSar :=
  if packet.getD 0 0 &&& nciMtMask = nciMtDataPkt
      ∧ packet.getD 0 0 &&& nciDataCidMask < sar.maxLogicalConns then
    nciSarTakeCredits sar (packet.getD 0 0 &&& nciDataCidMask).toNat
      (packet.getD 1 0 &&& nciDataCrMask)
  else sar

/-- What the end of a write does before the packet is freed. -/
def completedEffect (sar : NciSar) (ok : Bool) (a : Nat) : NciSar :=
  (sar.setWritePending false).setWriting (if ok && !sar.isDoneAt a then some a else none)

/-- The packet to write is chosen. -/
def select (sar : NciSar) : NciSar :=
  nciSarAttemptWritePick (nciSarAttemptWriteContinue sar)

/-- The packet at the address is neither queued nor being written. -/
def Detached (sar : NciSar) (a : Nat) : Prop :=
  a < sar.nextAddr ∧ (∀ k, a ∉ sar.queued k) ∧ sar.writing ≠ some a

end NciSar

/-- What a call does before any callback. -/
def Call.effect (sar : NciSar) : Call → NciSar
  | .setMaxControlPayloadSize max => nciSarSetMaxControlPayloadSize sar max
  | .setMaxDataPayloadSize max => nciSarSetMaxDataPayloadSize sar max
  | .setInitialCredits cid credits => nciSarSetInitialCredits sar cid credits
  | .addCredits cid credits => nciSarAddCredits sar cid credits
  | .sendCommand gid oid payload complete destroy =>
      (nciSarSendCommand sar gid oid payload complete destroy).2
  | .sendDataPacket cid payload complete destroy =>
      (nciSarSendDataPacket sar cid payload complete destroy).2
  | .cancel id => sar.cancelEffect id
  | _ => sar

/-- A packet as it is accepted: its queue, its address, the first two bytes of its header
and its payload. -/
structure Submission where
  key : QueueKey
  addr : Nat
  b0 : UInt8
  b1 : UInt8
  payload : List UInt8
  deriving DecidableEq, Repr

/-- The packet that a call gets accepted. -/
def Call.accepted (sar : NciSar) : Call → Option Submission
  | .sendCommand gid oid payload _ _ =>
      some ⟨.cmd, sar.nextAddr, nciMtCmdPkt ||| (gid &&& nciControlGidMask),
        oid &&& nciControlOidMask, payload.getD []⟩
  | .sendDataPacket cid payload _ _ =>
      if cid < sar.maxLogicalConns then
        some ⟨.out cid.toNat, sar.nextAddr, cid &&& nciDataCidMask, 0, payload.getD []⟩
      else none
  | _ => none

/-- The queue and the packet that a call removes. -/
def Call.cancelled (sar : NciSar) : Call → Option (QueueKey × Nat)
  | .cancel id => sar.cancelTarget id
  | _ => none

/-- An entry that goes with no change of the state. -/
def Entry.Note : Entry → Prop
  | .called _ _ => False
  | .received _ _ => False
  | .completed _ _ => False
  | .halStart _ _ => False
  | .halWrite _ _ _ => False
  | _ => True

/-! ### Small steps -/

/-- What happens in a callback. -/
inductive Inner (P : Call → Prop) : World Log → World Log → Prop
  | note {w : World Log} {e : Entry} : e.Note → Inner P w (w.record e)
  | started {w : World Log} (ok : Bool) (sar : NciSar) :
      Inner P w ((w.map fun sar => sar.setStarted ok).record (.halStart ok sar))
  | called {w : World Log} {c : Call} :
      P c → Inner P w ((w.record (.called c w.sar.snapshot)).map fun sar => c.effect sar)
  | freed {w : World Log} {a : Nat} :
      w.sar.Detached a → Inner P w (w.map fun sar => sar.dealloc a)

/-- If a packet is being written, the HAL has just written a segment of it, and another one
follows. -/
def Resumes (w : World Log) : Prop :=
  ∀ a, w.sar.writing = some a → ∃ sar : NciSar, .completed true sar.snapshot ∈ w.env
    ∧ sar.writing = some a ∧ sar.isDoneAt a = false ∧ NciSar.SameQueues sar w.sar
    ∧ ∀ cid, (w.sar.conn cid).credits = (sar.conn cid).credits

/-- What happens when the HAL or the event loop enters the layer, other than that the HAL
reports the end of a write. -/
inductive Step (P : Call → Prop) : World Log → World Log → Prop
  | inner {w w' : World Log} : Inner P w w' → Step P w w'
  | received {w : World Log} (packet : List UInt8) :
      Step P w ((w.record (.received packet w.sar.snapshot)).map fun sar =>
        sar.receivedEffect packet)
  | controlInput {w : World Log} (input : Option (List UInt8)) :
      Step P w (w.map fun sar => sar.setControlIn input)
  | input {w : World Log} (cid : Nat) (input : Option (List UInt8)) :
      Step P w (w.map fun sar => sar.setInput cid input)
  | unscheduled {w : World Log} : Step P w (w.map fun sar => sar.setStartWriteId false)
  | scheduled {w : World Log} : Step P w (w.map nciSarScheduleWrite)
  | attempted {w : World Log} : w.sar.writePending = false → Resumes w →
      w.sar.select.writing = none → Step P w (w.map NciSar.select)
  | handed {w : World Log} {a : Nat} {out : NciSarPacketOut} (ok : Bool) :
      w.sar.writePending = false → Resumes w → w.sar.select.writing = some a →
      w.sar.select.heap a = some out →
      Step P w ((w.map fun sar => ((sar.select.cutSegment a out).setWritePending ok).setWriting
          (if ok then some a else none)).record
        (.halWrite (out.nextSegment (w.sar.select.maxPayloadSize out)).2 ok
          ((w.sar.select.cutSegment a out).setWritePending true).snapshot))
  | notStarted {w : World Log} {a : Nat} {out : NciSarPacketOut} :
      w.sar.writePending = false → Resumes w → w.sar.select.writing = some a →
      w.sar.select.heap a = some out →
      Step P w ((w.map fun sar =>
          ((sar.select.cutSegment a out).setStarted false).setWriting none).record
        (.halStart false (w.sar.select.cutSegment a out).snapshot))

/-- What happens while a segment is handled. -/
inductive Arrival (P : Call → Prop) : World Log → World Log → Prop
  | inner {w w' : World Log} : Inner P w w' → Arrival P w w'
  | received {w : World Log} (packet : List UInt8) :
      Arrival P w ((w.record (.received packet w.sar.snapshot)).map fun sar =>
        sar.receivedEffect packet)
  | controlInput {w : World Log} (input : Option (List UInt8)) :
      Arrival P w (w.map fun sar => sar.setControlIn input)
  | input {w : World Log} (cid : Nat) (input : Option (List UInt8)) :
      Arrival P w (w.map fun sar => sar.setInput cid input)

theorem Arrival.step {P : Call → Prop} {w w' : World Log} (h : Arrival P w w') :
  Step P w w'
  := by
  cases h with
  | inner h => apply Step.inner h
  | received packet => apply Step.received
  | controlInput input => apply Step.controlInput
  | input cid input => apply Step.input

/-- The HAL reports the end of a write. -/
inductive Completed : World Log → World Log → Prop
  | mk {w : World Log} {a : Nat} (ok : Bool) : w.sar.writePending = true →
      w.sar.writing = some a →
      Completed w
        ((w.record (.completed ok w.sar.snapshot)).map fun sar => sar.completedEffect ok a)

/-- The steps of a callback. -/
abbrev Inners (P : Call → Prop) : World Log → World Log → Prop := Relation.ReflTransGen (Inner P)

/-- The steps of handling a segment. -/
abbrev Arrivals (P : Call → Prop) : World Log → World Log → Prop :=
  Relation.ReflTransGen (Arrival P)

/-- The steps between the ends of two writes. -/
abbrev Steps (P : Call → Prop) : World Log → World Log → Prop := Relation.ReflTransGen (Step P)

/-! ### Small steps keep the state well formed -/

namespace NciSar

variable {sar : NciSar}

/-- Nothing is being written any more. -/
theorem WF.forget (hw : sar.WF) :
  (sar.setWriting none).WF
  := by
  apply (wf_of_lists (sar.setWriting none) sar.queued hw.chain hw.last hw.owned
    (by simp [setWriting]) hw.control hw.data).1

theorem WF.found (hw : sar.WF) {id : UInt32} {k : QueueKey} {a : Nat}
    (ha : sar.found id k = some a) :
  (sar.unlink id k).WF ∧ (sar.unlink id k).lists = sar.lists.remove k a ∧ a ∈ sar.queued k
  := hw.remove ha

theorem findPacket_eq_some {id : UInt32} {ks : List QueueKey} {k : QueueKey} {a : Nat}
    (h : sar.findPacket id ks = some (k, a)) :
  sar.found id k = some a
  := by
  obtain ⟨k', -, hk'⟩ := List.exists_of_findSome?_eq_some h
  obtain ⟨b, hb, heq⟩ := Option.map_eq_some_iff.mp hk'
  obtain ⟨rfl, rfl⟩ := Prod.mk.inj heq
  apply hb

theorem cancelTarget_eq_some {id : UInt32} {k : QueueKey} {a : Nat}
    (h : sar.cancelTarget id = some (k, a)) :
  sar.found id k = some a ∧ sar.isWriting id = false
  := by
  rw [cancelTarget] at h
  split at h
  · rename_i hid
    use findPacket_eq_some h, hid.2
  · simp at h

/-- Cancelling forgets a completion function, removes a packet, or does nothing. -/
theorem WF.cancel_cases (hw : sar.WF) (id : UInt32) :
  (∃ a, sar.writing = some a ∧ sar.cancelTarget id = none
      ∧ sar.cancelEffect id = sar.modifyPacket a fun out => { out with complete := none })
    ∨ (∃ k a, sar.cancelTarget id = some (k, a) ∧ a ∈ sar.queued k
        ∧ sar.cancelEffect id = sar.unlink id k ∧ (sar.unlink id k).WF
        ∧ (sar.unlink id k).lists = sar.lists.remove k a)
    ∨ (sar.cancelTarget id = none ∧ sar.cancelEffect id = sar)
  := by
  by_cases hid : id ≠ 0 ∧ sar.isWriting id = true
  · left
    cases ha : sar.writing with
    | none => simp [isWriting, ha] at hid
    | some a =>
        use a, rfl
        simp [cancelTarget, cancelEffect, hid, ha]
  · right
    cases ht : sar.cancelTarget id with
    | none =>
        right
        use rfl
        rw [cancelEffect, if_neg hid, ht]
    | some p =>
        left
        obtain ⟨k, a⟩ := p
        obtain ⟨hwf, hl, hmem⟩ := hw.found (cancelTarget_eq_some ht).1
        use k, a, rfl, hmem
        rw [cancelEffect, if_neg hid, ht]
        use rfl, hwf, hl

theorem WF.cancelEffect (hw : sar.WF) (id : UInt32) :
  (sar.cancelEffect id).WF
  := by
  rcases hw.cancel_cases id with ⟨a, -, -, heq⟩ | ⟨k, a, -, -, heq, hwf, -⟩ | ⟨-, heq⟩
  · rw [heq]
    apply (hw.modifyPacket a _ _ _).1 <;> intros <;> rfl
  · rw [heq]
    apply hwf
  · rw [heq]
    apply hw

theorem WF.putBackState (hw : sar.WF) {k : QueueKey} {a : Nat} (ha : sar.writing = some a)
    (hk : sar.Owned k a) :
  (sar.putBackState k a).WF ∧ (sar.putBackState k a).lists = sar.lists.putBack k a
  := hw.putBack ha hk

theorem WF.pickState (hw : sar.WF) {k : QueueKey} {a : Nat} {l : List Nat}
    (hk : sar.queued k = a :: l) :
  ((sar.charge k).pickState k).WF ∧ ((sar.charge k).pickState k).lists = sar.lists.pick k
  := by
  have hs := sameQueues_charge sar k
  have hq : (sar.charge k).queued k = a :: l := by rw [hs.queued, hk]
  obtain ⟨hwf, hl⟩ := (hw.charge k).pick hq
  use hwf
  rw [← hs.lists]
  apply hl

/-- The choice of the packet to write keeps the state well formed. -/
theorem WF.select (hw : sar.WF) :
  (nciSarAttemptWriteContinue sar).WF ∧ sar.select.WF
  := by
  have hcont : (nciSarAttemptWriteContinue sar).WF := by
    rcases hw.continue_cases with ⟨-, heq⟩ | ⟨k, a, -, -, -, heq⟩ | ⟨cid, a, ha, hk, -, heq⟩
    · rw [heq]
      apply hw
    · rw [heq]
      apply hw.charge k
    · rw [heq]
      apply (hw.putBackState ha hk).1
  use hcont
  rcases hcont.pick_cases with ⟨a, -, heq⟩ | ⟨-, -, heq⟩ | ⟨k, a, l, -, hl, -, heq⟩
  · rw [NciSar.select, heq]
    apply hcont
  · rw [NciSar.select, heq]
    apply hcont
  · rw [NciSar.select, heq]
    apply (hcont.pickState hl).1

/-- Taking the next segment off a packet changes its header and its position. -/
theorem WF.cutSegment (hw : sar.WF) {a : Nat} {out : NciSarPacketOut}
    (hout : sar.heap a = some out) :
  (sar.cutSegment a out).WF
    ∧ (sar.cutSegment a out).lists
      = sar.lists.modify a fun x => (x.nextSegment (sar.maxPayloadSize out)).1
  := by
  have heq : sar.cutSegment a out
      = sar.modifyPacket a fun x => (x.nextSegment (sar.maxPayloadSize out)).1 := by
    simp [NciSar.cutSegment, NciSar.modifyPacket, Heap.modify, hout]
  rw [heq]
  apply hw.modifyPacket
  · intro x
    simp only [NciSarPacketOut.nextSegment]
    split <;> rfl
  · intro x
    simp only [NciSarPacketOut.nextSegment]
    split <;> rfl
  · intro x n
    by_cases hle : x.remaining.length ≤ (sar.maxPayloadSize out).toNat
    · have hle' : (Node.setNext n x).remaining.length ≤ (sar.maxPayloadSize out).toNat := hle
      simp only [NciSarPacketOut.nextSegment, if_pos hle, if_pos hle']
      rfl
    · have hle' : ¬ (Node.setNext n x).remaining.length ≤ (sar.maxPayloadSize out).toNat := hle
      simp only [NciSarPacketOut.nextSegment, if_neg hle, if_neg hle']
      rfl

theorem WF.setLimits (hw : sar.WF) {sar' : NciSar} (hs : SameQueues sar sar')
    (hcontrol : sarMinControlPayloadLimit ≤ sar'.controlPayloadLimit)
    (hdata : sarMinDataPayloadLimit ≤ sar'.dataPayloadLimit) :
  sar'.WF
  := hs.wf hw hcontrol hdata

theorem WF.receivedEffect (hw : sar.WF) (packet : List UInt8) :
  (sar.receivedEffect packet).WF
  := by
  rw [NciSar.receivedEffect]
  split
  · apply hw.takeCredits
  · apply hw

theorem WF.completedEffect (hw : sar.WF) (ok : Bool) {a : Nat} (ha : sar.writing = some a) :
  (sar.completedEffect ok a).WF
  := by
  by_cases hdone : (ok && !sar.isDoneAt a) = true
  · apply hw.setLimits
    · constructor
      · rfl
      · intro k
        cases k <;> rfl
      · rfl
      · rfl
      · simp [NciSar.completedEffect, setWriting, hdone, ha]
    · apply hw.control
    · apply hw.data
  · apply hw.forget.setLimits
    · constructor
      · rfl
      · intro k
        cases k <;> rfl
      · rfl
      · rfl
      · simp [NciSar.completedEffect, setWriting, hdone]
    · apply hw.control
    · apply hw.data

end NciSar

/-- A call has a packet accepted, forgets a completion function, removes a packet, or leaves
the queues alone. -/
theorem Call.effect_cases {sar : NciSar} (hw : sar.WF) (c : Call) :
  (c.accepted sar = none ∧ c.cancelled sar = none ∧ NciSar.SameQueues sar (c.effect sar))
    ∨ (∃ x payload complete destroy, c.accepted sar = some x ∧ c.cancelled sar = none
        ∧ x.addr = sar.nextAddr ∧ x.payload = payload.getD []
        ∧ c.effect sar
          = (nciSarSend sar x.key (sar.connPtr x.key) x.b0 x.b1 payload complete destroy).2)
    ∨ (∃ a, c.accepted sar = none ∧ c.cancelled sar = none ∧ sar.writing = some a
        ∧ c.effect sar = sar.modifyPacket a fun out => { out with complete := none })
    ∨ (∃ id k a, c.accepted sar = none ∧ c.cancelled sar = some (k, a)
        ∧ sar.found id k = some a ∧ a ∈ sar.queued k
        ∧ c.effect sar = sar.unlink id k ∧ (sar.unlink id k).WF
        ∧ (sar.unlink id k).lists = sar.lists.remove k a)
  := by
  have hsame : NciSar.SameQueues sar sar := by constructor <;> intros <;> rfl
  cases c with
  | start =>
      left
      exact ⟨rfl, rfl, hsame⟩
  | reset =>
      left
      exact ⟨rfl, rfl, hsame⟩
  | setMaxLogicalConnections max =>
      left
      exact ⟨rfl, rfl, hsame⟩
  | setMaxControlPayloadSize max =>
      left
      use rfl, rfl
      constructor <;> intros <;> rfl
  | setMaxDataPayloadSize max =>
      left
      use rfl, rfl
      constructor <;> intros <;> rfl
  | setInitialCredits cid credits =>
      left
      use rfl, rfl
      simp only [Call.effect, nciSarSetInitialCredits]
      split
      · apply NciSar.sameQueues_modifyConn
        rfl
      · apply hsame
  | addCredits cid credits =>
      left
      use rfl, rfl
      simp only [Call.effect, nciSarAddCredits]
      split
      · apply NciSar.sameQueues_takeCredits
      · apply hsame
  | sendCommand gid oid payload complete destroy =>
      right
      left
      exact ⟨_, payload, complete, destroy, rfl, rfl, rfl, rfl, rfl⟩
  | sendDataPacket cid payload complete destroy =>
      by_cases hcid : cid < sar.maxLogicalConns
      · right
        left
        simp only [Call.accepted, Call.effect, nciSarSendDataPacket, if_pos hcid]
        exact ⟨_, payload, complete, destroy, rfl, rfl, rfl, rfl, rfl⟩
      · left
        simp only [Call.accepted, Call.effect, nciSarSendDataPacket, if_neg hcid]
        exact ⟨trivial, rfl, hsame⟩
  | cancel id =>
      rcases hw.cancel_cases id with ⟨a, ha, ht, heq⟩ | ⟨k, a, ht, hmem, heq, hwf, hl⟩ | ⟨ht, heq⟩
      · right
        right
        left
        use a, rfl, ht, ha, heq
      · right
        right
        right
        use id, k, a, rfl, ht, (NciSar.cancelTarget_eq_some ht).1, hmem, heq, hwf, hl
      · left
        use rfl, ht
        rw [Call.effect, heq]
        apply hsame

theorem Call.wf_effect {sar : NciSar} (hw : sar.WF) (c : Call) :
  (c.effect sar).WF
  := by
  cases c with
  | start => apply hw
  | reset => apply hw
  | setMaxLogicalConnections max => apply hw
  | setMaxControlPayloadSize max =>
      apply hw.setLimits
      · constructor <;> intros <;> rfl
      · simp only [Call.effect, nciSarSetMaxControlPayloadSize]
        split
        · apply UInt8.le_refl
        · rename_i hmax
          apply UInt8.not_lt.mp hmax
      · apply hw.data
  | setMaxDataPayloadSize max =>
      apply hw.setLimits
      · constructor <;> intros <;> rfl
      · apply hw.control
      · simp only [Call.effect, nciSarSetMaxDataPayloadSize]
        split
        · apply UInt8.le_refl
        · rename_i hmax
          apply UInt8.not_lt.mp hmax
  | setInitialCredits cid credits =>
      simp only [Call.effect, nciSarSetInitialCredits]
      split
      · apply hw.modifyConn
        rfl
      · apply hw
  | addCredits cid credits =>
      simp only [Call.effect, nciSarAddCredits]
      split
      · apply hw.takeCredits
      · apply hw
  | sendCommand gid oid payload complete destroy =>
      apply (hw.send .cmd _ _ payload complete destroy).1
  | sendDataPacket cid payload complete destroy =>
      simp only [Call.effect, nciSarSendDataPacket]
      split
      · apply (hw.send (.out cid.toNat) _ _ payload complete destroy).1
      · apply hw
  | cancel id => apply hw.cancelEffect

theorem Inner.wf {P : Call → Prop} {w w' : World Log} (h : Inner P w w') (hw : w.sar.WF) :
  w'.sar.WF
  := by
  cases h with
  | note _ => apply hw
  | started ok _ =>
      apply hw.setLimits
      · constructor <;> intros <;> rfl
      · apply hw.control
      · apply hw.data
  | called _ => apply Call.wf_effect hw
  | freed ha => apply (hw.free ha.2.1 ha.2.2).1

theorem Step.wf {P : Call → Prop} {w w' : World Log} (h : Step P w w') (hw : w.sar.WF) :
  w'.sar.WF
  := by
  cases h with
  | inner h => apply h.wf hw
  | received packet =>
      apply hw.receivedEffect
  | controlInput input =>
      apply hw.setLimits
      · constructor <;> intros <;> rfl
      · apply hw.control
      · apply hw.data
  | input cid input =>
      apply hw.modifyConn cid (fun conn => { conn with input := input })
      rfl
  | unscheduled =>
      apply hw.setLimits
      · constructor <;> intros <;> rfl
      · apply hw.control
      · apply hw.data
  | scheduled => apply hw.scheduleWrite
  | attempted _ _ _ => apply hw.select.2
  | @handed a out ok _ _ ha hout =>
      have hcut := (hw.select.2.cutSegment hout).1
      cases ok with
      | true =>
          apply hcut.setLimits
          · constructor
            · rfl
            · intro k
              cases k <;> rfl
            · rfl
            · rfl
            · apply ha.symm
          · apply hcut.control
          · apply hcut.data
      | false =>
          apply hcut.forget.setLimits
          · constructor <;> intros <;> rfl
          · apply hcut.control
          · apply hcut.data
  | @notStarted a out _ _ ha hout =>
      have hcut := (hw.select.2.cutSegment hout).1
      apply hcut.forget.setLimits
      · constructor <;> intros <;> rfl
      · apply hcut.control
      · apply hcut.data

theorem Completed.wf {w w' : World Log} (h : Completed w w') (hw : w.sar.WF) :
  w'.sar.WF
  := by
  obtain ⟨ok, -, ha⟩ := h
  apply hw.completedEffect ok ha

end Nci
