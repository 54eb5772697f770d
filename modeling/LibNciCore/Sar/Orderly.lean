import LibNciCore.Sar.Kept
import Mathlib.Data.Finset.Card

/-!
# What holds in any surroundings

Whatever is called from inside a callback, and whatever has happened to the table of connections,
no packet is where none has been allocated, and a write is pending only while a packet is being
written. This is enough for the queues to be cleared: there are only so many packets that can be
freed.
-/

namespace Nci

open LinkedQueue

variable {ε : Type} {E : SarEnv ε}

/-! ### Layers that are in order -/

/-- There are no packets at addresses that have not been used yet, and a write is pending only while
a packet is being written. -/
structure NciSar.Orderly (sar : NciSar) : Prop where
  fresh : ∀ a, sar.nextAddr ≤ a → sar.heap a = none
  pending : sar.writePending = true → sar.writing.isSome = true

namespace NciSar

variable {sar sar' : NciSar}

/-- No packet is added, and no write is begun. -/
theorem Orderly.within (h : sar.Orderly) (hheap : sar'.heap.Within sar.heap)
    (hnext : sar'.nextAddr = sar.nextAddr)
    (hpending : sar'.writePending = true → sar'.writing.isSome = true) :
  sar'.Orderly
  := by
  constructor
  · intro a ha
    rw [hnext] at ha
    apply hheap a (h.fresh a ha)
  · apply hpending

theorem Orderly.tuned (h : sar.Orderly) (htuned : sar.Tuned sar') :
  sar'.Orderly
  := by
  apply h.within
  · rw [htuned.same.heap]
    apply Heap.Within.refl
  · apply htuned.same.nextAddr
  · rw [htuned.writePending, htuned.same.writing]
    apply h.pending

/-- Another packet is being written, or none, while no write is pending. -/
theorem Orderly.setWriting (h : sar.Orderly) (hpending : sar.writePending = false)
    (writing : Option Nat) :
  (sar.setWriting writing).Orderly
  := by
  refine ⟨h.fresh, fun htrue => ?_⟩
  have htrue' : sar.writePending = true := htrue
  rw [hpending] at htrue'
  cases htrue'

theorem Orderly.setWritePending (h : sar.Orderly) :
  (sar.setWritePending false).Orderly
  := ⟨h.fresh, fun hfalse => nomatch hfalse⟩

theorem relink_heap (sar : NciSar) (k : QueueKey) (q : Queue) (heap : Heap NciSarPacketOut)
    (writing : Option Nat) :
  (sar.relink k q heap writing).heap = heap
    ∧ (sar.relink k q heap writing).nextAddr = sar.nextAddr
    ∧ (sar.relink k q heap writing).writePending = sar.writePending
    ∧ (sar.relink k q heap writing).writing = writing
  := by cases k <;> exact ⟨rfl, rfl, rfl, rfl⟩

theorem useCredit_heap (sar : NciSar) (cid : Nat) :
  (sar.useCredit cid).heap = sar.heap ∧ (sar.useCredit cid).nextAddr = sar.nextAddr
  := by
  rw [useCredit]
  split <;> exact ⟨rfl, rfl⟩

/-- Choosing the packet to write adds none. -/
theorem select_heap (sar : NciSar) :
  sar.select.heap.Within sar.heap ∧ sar.select.nextAddr = sar.nextAddr
  := by
  have hcontinue : (nciSarAttemptWriteContinue sar).heap.Within sar.heap
      ∧ (nciSarAttemptWriteContinue sar).nextAddr = sar.nextAddr := by
    rw [nciSarAttemptWriteContinue]
    split
    · split
      · rename_i conn _
        split
        · split
          · obtain ⟨hheap, hnext⟩ := useCredit_heap sar conn.index
            rw [hheap, hnext]
            exact ⟨Heap.Within.refl _, rfl⟩
          · obtain ⟨hheap, hnext, -⟩ := relink_heap sar (.out conn.index) _ _ none
            rw [hheap, hnext]
            exact ⟨within_putFront _ _ _, rfl⟩
        · exact ⟨Heap.Within.refl _, rfl⟩
      · exact ⟨Heap.Within.refl _, rfl⟩
    · exact ⟨Heap.Within.refl _, rfl⟩
  obtain ⟨hwithin, haddr⟩ := hcontinue
  rw [select]
  generalize nciSarAttemptWriteContinue sar = sar₁ at hwithin haddr ⊢
  have hqueue : (nciSarWriteQueue sar₁).2.heap = sar₁.heap
      ∧ (nciSarWriteQueue sar₁).2.nextAddr = sar₁.nextAddr := by
    rw [nciSarWriteQueue]
    split
    · exact ⟨rfl, rfl⟩
    · split
      · apply useCredit_heap
      · exact ⟨rfl, rfl⟩
  rw [nciSarAttemptWritePick]
  split
  · exact ⟨hwithin, haddr⟩
  · split
    · rename_i k sar₂ heq
      rw [heq] at hqueue
      obtain ⟨hheap, hnext⟩ := hqueue
      obtain ⟨hheap', hnext', -⟩ := relink_heap sar₂ k (dequeue sar₂.heap (sar₂.queue k)).2.2
        (dequeue sar₂.heap (sar₂.queue k)).2.1 (dequeue sar₂.heap (sar₂.queue k)).1
      rw [hheap', hnext', hnext]
      constructor
      · apply Heap.Within.trans _ hwithin
        rw [← hheap]
        apply within_dequeue
      · exact haddr
    · rename_i sar₂ heq
      rw [heq] at hqueue
      obtain ⟨hheap, hnext⟩ := hqueue
      rw [hheap, hnext]
      exact ⟨hwithin, haddr⟩

theorem Orderly.select (h : sar.Orderly) (hpending : sar.writePending = false) :
  sar.select.Orderly
  := by
  obtain ⟨hheap, hnext⟩ := select_heap sar
  apply h.within hheap hnext
  rw [writePending_select, hpending]
  intro hfalse
  cases hfalse

theorem Orderly.dealloc (h : sar.Orderly) (a : Nat) :
  (sar.dealloc a).Orderly
  := h.within (Heap.within_dealloc _ a) rfl h.pending

/-- A packet is queued. -/
theorem Orderly.send (h : sar.Orderly) (k : QueueKey) (conn : Option ConnPtr) (b0 b1 : UInt8)
    (payload : Option (List UInt8)) (complete destroy : Option Nat) :
  (nciSarSend sar k conn b0 b1 payload complete destroy).2.Orderly
  := by
  have halloc : ∀ out, (sar.alloc out).Orderly := by
    intro out
    constructor
    · intro a ha
      have hne : a ≠ sar.nextAddr := Nat.ne_of_gt ha
      exact (Function.update_of_ne hne _ _).trans (h.fresh a (Nat.le_of_succ_le ha))
    · exact h.pending
  rw [nciSarSend]
  dsimp only
  have hqueued : ∀ {self : NciSar}, self.Orderly → ∀ a id,
      ((self.relink k (enqueue self.heap (self.queue k) a).2
        (enqueue self.heap (self.queue k) a).1 self.writing).setLastPacketId id).Orderly := by
    intro self hself a id
    obtain ⟨hheap, hnext, hpending, hwriting⟩ := relink_heap self k
      (enqueue self.heap (self.queue k) a).2 (enqueue self.heap (self.queue k) a).1 self.writing
    apply hself.within
    · rw [setLastPacketId, hheap]
      apply within_enqueue
    · exact hnext
    · rw [setLastPacketId, hpending, hwriting]
      exact hself.pending
  exact (hqueued (halloc _) _ _).tuned (tuned_scheduleWrite _)

/-- A packet is cancelled. -/
theorem Orderly.cancelEffect (h : sar.Orderly) (id : UInt32) :
  (sar.cancelEffect id).Orderly
  := by
  rw [NciSar.cancelEffect]
  split
  · split
    · exact h.within (Heap.within_modify _ _ _) rfl h.pending
    · exact h
  · split
    · rename_i k _ _
      obtain ⟨hheap, hnext, hpending, hwriting⟩ := relink_heap sar k
        (remove (fun out : NciSarPacketOut => out.id == id) sar.nextAddr sar.heap (sar.queue k)).2.2
        (remove (fun out : NciSarPacketOut => out.id == id) sar.nextAddr sar.heap (sar.queue k)).2.1
        sar.writing
      apply h.within
      · rw [unlink, hheap]
        apply within_remove
      · rw [unlink, hnext]
      · rw [unlink, hpending, hwriting]
        exact h.pending
    · exact h

end NciSar

theorem orderly_nciSarNew :
  nciSarNew.Orderly
  := by
  constructor
  · intro a _
    rfl
  · intro h
    cases h

/-- A segment is handed over, or is not. -/
theorem orderly_submit (E : SarEnv ε) {w : World ε} {a : Nat} (h : w.sar.Orderly)
    (ha : w.sar.writing = some a) (hpending : w.sar.writePending = false) :
  (nciSarAttemptWriteSubmit E a w).2.sar.Orderly
    ∧ (nciSarAttemptWriteSubmit E a w).2.sar.writePending = (nciSarAttemptWriteSubmit E a w).1
  := by
  cases hout : w.sar.heap a with
  | none =>
      rw [nciSarAttemptWriteSubmit, hout]
      exact ⟨h, hpending⟩
  | some out =>
      obtain ⟨started, hsar⟩ := submit_sar E hout hpending
      have hcut : (w.sar.cutSegment a out).Orderly :=
        h.within (Heap.within_modify _ _ _) rfl h.pending
      rw [hsar]
      exact ⟨⟨hcut.fresh, fun _ => congrArg Option.isSome ha⟩, rfl⟩

/-! ### Surroundings -/

/-- The layer is in order, and what is around it has a property. -/
def World.InOrder (P : ε → Prop) (w : World ε) : Prop := w.sar.Orderly ∧ P w.env

/-- The surroundings keep a property of theirs, and the callbacks keep the layer in order. -/
structure SarEnv.Orderly (E : SarEnv ε) (P : ε → Prop) : Prop where
  halStart : ∀ sar env, P env → P (E.halStart sar env).2
  halStop : ∀ sar env, P env → P (E.halStop sar env)
  halWrite : ∀ chunks sar env, P env → P (E.halWrite chunks sar env).2
  halCancelWrite : ∀ sar env, P env → P (E.halCancelWrite sar env)
  error : ∀ w, w.InOrder P → (E.error w).InOrder P
  handleResponse : ∀ gid oid payload w, w.InOrder P → (E.handleResponse gid oid payload w).InOrder P
  handleNotification : ∀ gid oid payload w,
    w.InOrder P → (E.handleNotification gid oid payload w).InOrder P
  handleDataPacket : ∀ cid payload w, w.InOrder P → (E.handleDataPacket cid payload w).InOrder P
  complete : ∀ f ok w, w.InOrder P → (E.complete f ok w).InOrder P
  destroy : ∀ f w, w.InOrder P → (E.destroy f w).InOrder P

namespace SarEnv.Orderly

variable {P : ε → Prop} (hE : E.Orderly P)

include hE

theorem start {w : World ε} (h : P w.env) :
  P (nciSarStart E w).env
  := by
  rw [nciSarStart]
  split
  · exact h
  · exact hE.halStart _ _ h

theorem submit {w : World ε} (a : Nat) (h : P w.env) :
  P (nciSarAttemptWriteSubmit E a w).2.env
  := by
  rw [nciSarAttemptWriteSubmit]
  split
  · rw [nciSarAttemptWriteRequest]
    split
    · exact hE.halWrite _ _ _ (hE.start h)
    · exact hE.start h
  · exact h

theorem packetOutFree (a : Nat) {w : World ε} (h : w.InOrder P) :
  (nciSarPacketOutFree E a w).InOrder P
  := by
  rw [nciSarPacketOutFree]
  split
  · obtain ⟨hsar, henv⟩ := hE.destroy _ _ h
    exact ⟨hsar.dealloc a, henv⟩
  · exact ⟨h.1.dealloc a, h.2⟩

/-- What follows from the moves of the layer. -/
theorem follows :
  E.Follows fun x y => x.1.InOrder P → y.1.InOrder P
  := by
  constructor
  · intro x y hmove h
    cases hmove with
    | tuned sar _ htuned => exact ⟨h.1.tuned htuned, h.2⟩
    | selected _ hpending => exact ⟨h.1.select hpending, h.2⟩
    | handed _ hpending ha hok => exact ⟨(orderly_submit E h.1 ha hpending).1, hE.submit _ h.2⟩
    | @refused w S a _ hpending ha hok =>
        obtain ⟨hsar, hfalse⟩ := orderly_submit E h.1 ha hpending
        exact ⟨hsar.setWriting (hfalse.trans hok) none, hE.submit a h.2⟩
    | skipped _ => exact h
    | freed => exact hE.packetOutFree _ h
  · intro f ok w a S _
    exact Relation.ReflTransGen.single fun h => hE.complete f ok w h
  · intro w S _
    exact Relation.ReflTransGen.single fun h => hE.error w h
  · intro gid oid payload w S _
    exact Relation.ReflTransGen.single fun h => hE.handleResponse gid oid payload w h
  · intro gid oid payload w S _
    exact Relation.ReflTransGen.single fun h => hE.handleNotification gid oid payload w h
  · intro cid payload w S _
    exact Relation.ReflTransGen.single fun h => hE.handleDataPacket cid payload w h

omit hE in
/-- What a sequence of moves keeps. -/
theorem of_moves {x y : Moment ε}
    (h : Relation.ReflTransGen (fun x y => x.1.InOrder P → y.1.InOrder P) x y) :
  x.1.InOrder P → y.1.InOrder P
  := by
  induction h with
  | refl => exact id
  | tail _ hlast ih => exact fun h => hlast (ih h)

/-! ### The functions -/

theorem startWrite {w : World ε} (h : w.InOrder P) :
  (nciSarStartWrite E w).InOrder P
  := of_moves (hE.follows.startWrite (S := []) trivial w) h

theorem handleSegment (packet : List UInt8) {w : World ε} (h : w.InOrder P) :
  (nciSarHalHandleSegment E packet w).InOrder P
  := of_moves (hE.follows.handleSegment (S := []) trivial packet w) h

theorem writeCompleted (ok : Bool) {w : World ε} (h : w.InOrder P) :
  (nciSarWriteCompleted E ok w).InOrder P
  := by
  cases ha : w.sar.writing with
  | none =>
      rw [nciSarWriteCompleted, ha]
      exact h
  | some a =>
      have hcompleted : (w.map fun sar => sar.completedEffect ok a).InOrder P :=
        ⟨h.1.setWritePending.setWriting rfl _, h.2⟩
      exact of_moves (hE.follows.writeCompleted (S := []) trivial ha Relation.ReflTransGen.refl)
        hcompleted

/-- Bytes arrive. -/
theorem readPackets (fuel : Nat) (bytes : List UInt8) {w : World ε} (h : w.InOrder P) :
  (nciSarReadPackets E fuel bytes w).2.InOrder P
  := by
  induction fuel generalizing bytes w with
  | zero => exact h
  | succ fuel ih =>
      rw [nciSarReadPackets]
      split
      · apply ih
        apply hE.handleSegment _ h
      · exact h

omit hE in
theorem setReadBuf {w : World ε} (h : w.InOrder P) (f : NciSar → Option (List UInt8)) :
  (w.map fun self => self.setReadBuf (f self)).InOrder P
  := ⟨h.1.within (Heap.Within.refl _) rfl h.1.pending, h.2⟩

theorem readBuffer (fuel : Nat) {w : World ε} (h : w.InOrder P) :
  (nciSarReadBuffer E fuel w).InOrder P
  := by
  induction fuel generalizing w with
  | zero => exact h
  | succ fuel ih =>
      rw [nciSarReadBuffer]
      dsimp only
      split
      · apply ih
        apply setReadBuf (hE.handleSegment _ h)
      · exact h

theorem halClientRead (data : List UInt8) {w : World ε} (h : w.InOrder P) :
  (nciSarHalClientRead E data w).InOrder P
  := by
  obtain ⟨r, hr, hgood⟩ : ∃ r, r = (if (w.sar.readBuf.getD []).length = 0 then
      nciSarReadPackets E data.length data w else (data, w)) ∧ r.2.InOrder P := by
    refine ⟨_, rfl, ?_⟩
    split
    · apply hE.readPackets _ _ h
    · exact h
  rw [nciSarHalClientRead, ← hr]
  dsimp only
  split
  · apply hE.readBuffer
    exact setReadBuf hgood fun self => some (self.readBuf.getD [] ++ r.1)
  · exact hgood

theorem cancel (id : UInt32) {w : World ε} (h : w.InOrder P) :
  (nciSarCancel E id w).InOrder P
  := by
  have hcancelled : (w.map fun self => self.cancelEffect id).InOrder P :=
    ⟨h.1.cancelEffect id, h.2⟩
  rw [nciSarCancel_eq]
  split
  · apply hE.packetOutFree _ hcancelled
  · exact hcancelled

theorem clearQueue (k : QueueKey) (fuel : Nat) {w : World ε} (h : w.InOrder P) :
  (nciSarClearQueue E k fuel w).InOrder P
  := by
  have hqueue : ∀ {w : World ε} (q : NciSar → Queue), w.InOrder P →
      (w.map fun self => self.setQueue k (q self)).InOrder P := by
    intro w q h
    refine ⟨?_, h.2⟩
    cases k <;> exact h.1.within (Heap.Within.refl _) rfl h.1.pending
  induction fuel generalizing w with
  | zero => exact h
  | succ fuel ih =>
      rw [nciSarClearQueue]
      split
      · rename_i a _
        apply ih
        apply hE.packetOutFree
        exact hqueue (fun self =>
          { self.queue k with first := (w.sar.heap a).bind NciSarPacketOut.next }) h
      · exact hqueue (fun self => { self.queue k with last := none }) h

theorem resetConns (fuel : Nat) (cids : List Nat) {w : World ε} (h : w.InOrder P) :
  (nciSarResetConns E fuel cids w).InOrder P
  := by
  induction cids generalizing w with
  | nil => exact h
  | cons cid cids ih =>
      rw [nciSarResetConns]
      split
      · obtain ⟨hsar, henv⟩ := hE.clearQueue (.out cid) fuel h
        apply ih
        exact ⟨hsar.within (Heap.Within.refl _) rfl hsar.pending, henv⟩
      · exact h

theorem resetIo {w : World ε} (h : w.InOrder P) :
  (nciSarResetIo E w).InOrder P
  := by
  constructor
  · rw [resetIo_sar E h.1.pending]
    exact (((h.1.setWritePending).setWriting rfl none).tuned (NciSar.tuned_setStarted _ false))
  · simp only [nciSarResetIo]
    split_ifs
    · exact hE.halStop _ _ (hE.halCancelWrite _ _ h.2)
    · exact hE.halCancelWrite _ _ h.2
    · exact hE.halStop _ _ h.2
    · exact h.2
    · exact hE.halStop _ _ h.2
    · exact h.2

theorem resetClear (fuel : Nat) {w : World ε} (h : w.InOrder P) :
  (nciSarResetClear E fuel w).InOrder P
  := by
  obtain ⟨hsar, henv⟩ := hE.resetConns fuel (List.range 255) (hE.resetIo h)
  have hcontrol : ((nciSarResetConns E fuel (List.range 255) (nciSarResetIo E w)).map fun self =>
      self.setControlIn (self.controlIn.map fun _ => [])).InOrder P :=
    ⟨hsar.tuned (NciSar.tuned_setControlIn _ _), henv⟩
  obtain ⟨hsar', henv'⟩ := hE.clearQueue .cmd fuel hcontrol
  exact ⟨hsar'.tuned (NciSar.tuned_setStartWriteId _ false), henv'⟩

theorem reset (fuel : Nat) {w : World ε} (h : w.InOrder P) :
  (nciSarReset E fuel w).InOrder P
  := of_moves (hE.follows.reset (S := []) Relation.ReflTransGen.refl) (hE.resetClear fuel h)

theorem dropConns (fuel : Nat) (cids : List Nat) {w : World ε} (h : w.InOrder P) :
  (nciSarDropConns E fuel cids w).InOrder P
  := by
  induction cids generalizing w with
  | nil => exact h
  | cons cid cids ih =>
      rw [nciSarDropConns]
      split
      · apply ih
        apply hE.clearQueue _ _ h
      · exact h

theorem setMaxLogicalConnections (fuel : Nat) (max : UInt8) {w : World ε} (h : w.InOrder P) :
  (nciSarSetMaxLogicalConnections E fuel max w).InOrder P
  := by
  simp only [nciSarSetMaxLogicalConnections]
  generalize (if max = 0 then sarDefaultMaxLogicalConnections else max) = max
  split
  · exact ⟨⟨h.1.fresh, h.1.pending⟩, h.2⟩
  · split
    · obtain ⟨hsar, henv⟩ := hE.dropConns fuel ((List.range 255).drop max.toNat) h
      exact ⟨⟨hsar.fresh, hsar.pending⟩, henv⟩
    · exact h

end SarEnv.Orderly

/-! ### Clearing queues that may be broken -/

namespace NciSar

variable {sar sar' : NciSar}

/-- The addresses at which there are packets. -/
def allocated (sar : NciSar) : Finset Nat :=
  (Finset.range sar.nextAddr).filter fun a => (sar.heap a).isSome = true

theorem card_allocated_le (sar : NciSar) :
  sar.allocated.card ≤ sar.nextAddr
  := (Finset.card_filter_le _ _).trans (Finset.card_range _).le

/-- A packet less. -/
theorem Orderly.card_allocated_lt (h : sar.Orderly) {a : Nat} {out : NciSarPacketOut}
    (hout : sar.heap a = some out) (hheap : sar'.heap = Function.update sar.heap a none)
    (hnext : sar'.nextAddr = sar.nextAddr) :
  sar'.allocated.card < sar.allocated.card
  := by
  have hlt : a < sar.nextAddr := by
    by_contra hge
    rw [h.fresh a (Nat.not_lt.mp hge)] at hout
    cases hout
  apply Finset.card_lt_card
  constructor
  · intro b hb
    obtain ⟨hrange, hsome⟩ := Finset.mem_filter.mp hb
    rw [hnext] at hrange
    rw [hheap] at hsome
    by_cases hba : b = a
    · rw [hba, Function.update_self] at hsome
      cases hsome
    · rw [Function.update_of_ne hba] at hsome
      exact Finset.mem_filter.mpr ⟨hrange, hsome⟩
  · intro hsub
    have hmem : a ∈ sar.allocated :=
      Finset.mem_filter.mpr ⟨Finset.mem_range.mpr hlt, congrArg Option.isSome hout⟩
    have hsome := (Finset.mem_filter.mp (hsub hmem)).2
    rw [hheap, Function.update_self] at hsome
    cases hsome

theorem card_allocated_mono (hheap : sar'.heap.Within sar.heap)
    (hnext : sar'.nextAddr = sar.nextAddr) :
  sar'.allocated.card ≤ sar.allocated.card
  := by
  apply Finset.card_le_card
  intro a ha
  obtain ⟨hrange, hsome⟩ := Finset.mem_filter.mp ha
  rw [hnext] at hrange
  apply Finset.mem_filter.mpr ⟨hrange, ?_⟩
  cases hnone : sar.heap a with
  | some _ => rfl
  | none =>
      rw [hheap a hnone] at hsome
      cases hsome

end NciSar

/-- Clearing a queue of which nothing is known. -/
theorem SarEnv.Discreet.clearQueue_out (hE : E.Discreet) (k : QueueKey) {fuel : Nat} {w : World ε}
    (h : w.sar.Orderly) (hfuel : w.sar.allocated.card + 1 < fuel) :
  ∃ heap, (nciSarClearQueue E k fuel w).sar
      = { w.sar.setQueue k Queue.empty with heap := heap } ∧ heap.Within w.sar.heap
  := by
  have hend : ∀ {fuel : Nat} {w : World ε}, (w.sar.queue k).first = none →
      (nciSarClearQueue E k (fuel + 1) w).sar = w.sar.setQueue k Queue.empty := by
    intro fuel w hfirst
    have hlast : { w.sar.queue k with last := none } = Queue.empty := by
      show Queue.mk (w.sar.queue k).first none = Queue.mk none none
      rw [hfirst]
    rw [nciSarClearQueue, hfirst]
    simp only [World.map, hlast]
  induction fuel generalizing w with
  | zero => omega
  | succ fuel ih =>
      cases hfirst : (w.sar.queue k).first with
      | none =>
          refine ⟨w.sar.heap, ?_, Heap.Within.refl _⟩
          rw [hend hfirst]
          cases k <;> rfl
      | some a =>
          obtain ⟨w', hw'⟩ : ∃ w', w' = nciSarPacketOutFree E a (w.map fun self =>
              self.setQueue k
                { self.queue k with first := (w.sar.heap a).bind NciSarPacketOut.next }) := ⟨_, rfl⟩
          have hstep : nciSarClearQueue E k (fuel + 1) w = nciSarClearQueue E k fuel w' := by
            rw [nciSarClearQueue, hfirst, hw']
          have hsar : w'.sar = (w.sar.setQueue k
              ⟨(w.sar.heap a).bind NciSarPacketOut.next, (w.sar.queue k).last⟩).dealloc a := by
            rw [hw', hE.packetOutFree]
            rfl
          have hheap : w'.sar.heap = Function.update w.sar.heap a none := by
            rw [hsar]
            cases k <;> rfl
          have hnext : w'.sar.nextAddr = w.sar.nextAddr := by
            rw [hsar]
            cases k <;> rfl
          have horderly : w'.sar.Orderly := by
            rw [hsar]
            apply NciSar.Orderly.dealloc
            cases k <;> exact ⟨h.fresh, h.pending⟩
          have hempty : ∀ heap : Heap NciSarPacketOut,
              ({ w'.sar.setQueue k Queue.empty with heap := heap } : NciSar)
                = { w.sar.setQueue k Queue.empty with heap := heap } := by
            intro heap
            rw [hsar]
            cases k with
            | cmd => rfl
            | out cid => simp [NciSar.dealloc, NciSar.setQueue, NciSar.modifyConn]
          have hwithin : w'.sar.heap.Within w.sar.heap := by
            rw [hheap]
            apply Heap.within_dealloc
          rw [hstep]
          cases hout : w.sar.heap a with
          | some out =>
              have hcard := h.card_allocated_lt hout hheap hnext
              obtain ⟨heap, heq, hheap'⟩ := ih horderly (by omega)
              exact ⟨heap, heq.trans (hempty heap), hheap'.trans hwithin⟩
          | none =>
              have hfirst' : (w'.sar.queue k).first = none := by
                rw [hsar, hout]
                cases k with
                | cmd => rfl
                | out cid => simp [NciSar.dealloc, NciSar.setQueue, NciSar.modifyConn, NciSar.queue]
              obtain ⟨fuel, rfl⟩ : ∃ m, fuel = m + 1 := ⟨fuel - 1, by omega⟩
              refine ⟨w'.sar.heap, ?_, hwithin⟩
              rw [hend hfirst']
              refine Eq.trans ?_ (hempty w'.sar.heap)
              cases k <;> rfl

/-- The connections are reset one after another, whatever is in their queues. -/
theorem SarEnv.Discreet.resetConns_out (hE : E.Discreet) (fuel : Nat) :
  ∀ (n start : Nat) (w : World ε), w.sar.Orderly → w.sar.allocated.card + 1 < fuel →
    ∃ heap conn, (nciSarResetConns E fuel (List.range' start n) w).sar
        = { w.sar with heap := heap, conn := conn }
      ∧ heap.Within w.sar.heap
      ∧ (∀ cid < start, conn cid = w.sar.conn cid)
      ∧ ∀ cid, start ≤ cid → cid < start + n → cid < w.sar.maxLogicalConns.toNat →
        (conn cid).out = Queue.empty ∧ (conn cid).credits = 0
  | 0, start, w, _, _ =>
      ⟨w.sar.heap, w.sar.conn, rfl, Heap.Within.refl _, fun _ _ => rfl,
        fun cid hle hlt => absurd hlt (Nat.not_lt.mpr hle)⟩
  | n + 1, start, w, h, hfuel => by
      rw [List.range'_succ, nciSarResetConns]
      split
      · obtain ⟨heap, hclear, hwithin⟩ := hE.clearQueue_out (.out start) h hfuel
        obtain ⟨w', hw'⟩ : ∃ w', w' = (nciSarClearQueue E (.out start) fuel w).map fun self =>
            self.modifyConn start fun conn =>
              { conn with credits := 0, input := conn.input.map fun _ => [] } := ⟨_, rfl⟩
        obtain ⟨conn, hsar, hsame, hstart⟩ : ∃ conn : Nat → NciSarLogicalConnection,
            w'.sar = { w.sar with heap := heap, conn := conn }
              ∧ (∀ cid, cid ≠ start → conn cid = w.sar.conn cid)
              ∧ (conn start).out = Queue.empty ∧ (conn start).credits = 0 := by
          refine ⟨w'.sar.conn, ?_, ?_, ?_⟩
          · rw [hw', World.map, hclear]
            rfl
          · intro cid hcid
            rw [hw', World.map, hclear]
            simp [NciSar.modifyConn, NciSar.setQueue, hcid]
          · rw [hw', World.map, hclear]
            simp [NciSar.modifyConn, NciSar.setQueue]
        have horderly : w'.sar.Orderly := by
          rw [hsar]
          exact ⟨fun a ha => hwithin a (h.fresh a ha), h.pending⟩
        have hcard : w'.sar.allocated.card ≤ w.sar.allocated.card := by
          apply NciSar.card_allocated_mono
          · rw [hsar]
            exact hwithin
          · rw [hsar]
        obtain ⟨heap', conn', hsar', hwithin', hbefore, hreset⟩ :=
          hE.resetConns_out fuel n (start + 1) w' horderly (by omega)
        refine ⟨heap', conn', ?_, ?_, ?_, ?_⟩
        · dsimp only
          rw [← hw', hsar', hsar]
        · rw [hsar] at hwithin'
          exact hwithin'.trans hwithin
        · intro cid hcid
          rw [hbefore cid (Nat.lt_succ_of_lt hcid), hsar]
          exact hsame cid (Nat.ne_of_lt hcid)
        · intro cid hle hlt hmax
          by_cases hcid : cid = start
          · rw [hcid, hbefore start (Nat.lt_succ_self _), hsar]
            exact hstart
          · apply hreset cid (by omega) (by omega)
            rw [hsar]
            exact hmax
      · rename_i hmax
        refine ⟨w.sar.heap, w.sar.conn, rfl, Heap.Within.refl _, fun _ _ => rfl, ?_⟩
        intro cid hle _ hcid
        omega

/-- The layer after a reset: nothing is being written, no packet is queued, and no connection has
credits. -/
structure NciSar.Blank (sar : NciSar) : Prop where
  writing : sar.writing = none
  writePending : sar.writePending = false
  startWriteId : sar.startWriteId = false
  cmd : sar.cmd = Queue.empty
  out : ∀ cid < sar.maxLogicalConns.toNat, (sar.conn cid).out = Queue.empty
  credits : ∀ cid < sar.maxLogicalConns.toNat, (sar.conn cid).credits = 0

/-- A reset leaves nothing behind, whatever was there before. -/
theorem SarEnv.Discreet.resetClear_blank (hE : E.Discreet) {fuel : Nat} {w : World ε}
    (h : w.sar.Orderly) (hfuel : w.sar.nextAddr + 1 < fuel) :
  (nciSarResetClear E fuel w).sar.Blank
  := by
  have hcard := w.sar.card_allocated_le
  have hio := resetIo_sar E h.pending
  have horderly : (nciSarResetIo E w).sar.Orderly := by
    rw [hio]
    exact ⟨h.fresh, fun hfalse => nomatch hfalse⟩
  have hallocated : (nciSarResetIo E w).sar.allocated.card = w.sar.allocated.card := by
    rw [hio]
    rfl
  obtain ⟨heap, conn, hconns, hwithin, -, hreset⟩ :=
    hE.resetConns_out fuel 255 0 (nciSarResetIo E w) horderly (by omega)
  rw [← List.range_eq_range'] at hconns
  obtain ⟨w', hw'⟩ : ∃ w', w' = (nciSarResetConns E fuel (List.range 255)
      (nciSarResetIo E w)).map fun self =>
        self.setControlIn (self.controlIn.map fun _ => []) := ⟨_, rfl⟩
  have hsar : w'.sar = { (nciSarResetIo E w).sar with
      heap := heap, conn := conn, controlIn := w'.sar.controlIn } := by
    rw [hw', World.map, hconns]
    rfl
  have horderly' : w'.sar.Orderly := by
    rw [hsar]
    exact ⟨fun a ha => hwithin a (horderly.fresh a ha), horderly.pending⟩
  have hallocated' : w'.sar.allocated.card ≤ (nciSarResetIo E w).sar.allocated.card := by
    apply NciSar.card_allocated_mono
    · rw [hsar]
      exact hwithin
    · rw [hsar]
  have hfuel' : w'.sar.allocated.card + 1 < fuel := by omega
  obtain ⟨heap', hclear, -⟩ := hE.clearQueue_out .cmd horderly' hfuel'
  have heq : (nciSarResetClear E fuel w).sar
      = { w'.sar with cmd := Queue.empty, heap := heap', startWriteId := false } := by
    rw [nciSarResetClear, ← hw', World.map, hclear]
    rfl
  have hlt := w.sar.maxLogicalConns.toNat_lt
  have hmax : (nciSarResetClear E fuel w).sar.maxLogicalConns = w.sar.maxLogicalConns := by
    rw [heq, hsar, hio]
    rfl
  have hconn : ∀ cid < (nciSarResetClear E fuel w).sar.maxLogicalConns.toNat,
      ((nciSarResetClear E fuel w).sar.conn cid).out = Queue.empty
        ∧ ((nciSarResetClear E fuel w).sar.conn cid).credits = 0 := by
    intro cid hcid
    rw [hmax] at hcid
    rw [heq, hsar]
    apply hreset cid (Nat.zero_le _) (by omega)
    rw [hio]
    exact hcid
  constructor
  · rw [heq, hsar, hio]
    rfl
  · rw [heq, hsar, hio]
    rfl
  · rw [heq]
  · rw [heq]
  · exact fun cid hcid => (hconn cid hcid).1
  · exact fun cid hcid => (hconn cid hcid).2

end Nci
