import LibNciCore.Sar.Queues

/-!
# The queues refine lists of packets

`Lists` is what the layer is about when links are forgotten: a list of packets for every
queue, and the packet that is being written. Every edit of the linked queues of a well
formed state is shown to be an edit of the lists, and to keep the state well formed.
-/

namespace Nci

open LinkedQueue

/-- The lists of packets. -/
@[ext]
structure Lists where
  queued : QueueKey → List Nat
  packet : Nat → Option NciSarPacketOut
  writing : Option Nat
  nextAddr : Nat

namespace Lists

/-- The packet at an address changed by `f`. -/
def modify (s : Lists) (a : Nat) (f : NciSarPacketOut → NciSarPacketOut) : Lists :=
  { s with packet := Function.update s.packet a ((s.packet a).map f) }

/-- A new packet comes after the packets in `l`. -/
def append (s : Lists) (k : QueueKey) (l : List Nat) (out : NciSarPacketOut) : Lists :=
  { s with queued := Function.update s.queued k (l ++ [s.nextAddr])
           packet := Function.update s.packet s.nextAddr (some out)
           nextAddr := s.nextAddr + 1 }

/-- Another list for a queue, and another packet being written. -/
def relist (s : Lists) (k : QueueKey) (l : List Nat) (writing : Option Nat) : Lists :=
  { s with queued := Function.update s.queued k l, writing := writing }

/-- The packet that is being written goes back to its queue. -/
def putBack (s : Lists) (k : QueueKey) (a : Nat) : Lists :=
  s.relist k (a :: s.queued k) none

/-- The first packet of a queue is taken to be written. -/
def pick (s : Lists) (k : QueueKey) : Lists :=
  s.relist k (s.queued k).tail (s.queued k).head?

/-- A packet is removed from a queue. -/
def remove (s : Lists) (k : QueueKey) (a : Nat) : Lists :=
  s.relist k ((s.queued k).erase a) s.writing

/-- A packet is deallocated. -/
def free (s : Lists) (a : Nat) : Lists :=
  { s with packet := Function.update s.packet a none }

end Lists

namespace NciSar

/-- The lists of a state. -/
def lists (sar : NciSar) : Lists where
  queued := sar.queued
  packet := sar.packet
  writing := sar.writing
  nextAddr := sar.nextAddr

variable {sar sar' : NciSar}

@[simp]
theorem lists_queued (sar : NciSar) :
  sar.lists.queued = sar.queued
  := rfl

@[simp]
theorem lists_packet (sar : NciSar) :
  sar.lists.packet = sar.packet
  := rfl

@[simp]
theorem lists_writing (sar : NciSar) :
  sar.lists.writing = sar.writing
  := rfl

@[simp]
theorem lists_nextAddr (sar : NciSar) :
  sar.lists.nextAddr = sar.nextAddr
  := rfl

theorem SameQueues.lists (hs : SameQueues sar sar') :
  sar'.lists = sar.lists
  := by
  apply Lists.ext
  · funext k
    apply hs.queued
  · funext a
    apply hs.packet
  · apply hs.writing
  · apply hs.nextAddr

/-! ### Packets come and go -/

/-- Allocating a packet. -/
theorem WF.alloc (hw : sar.WF) (out : NciSarPacketOut) :
  (sar.alloc out).WF ∧ ∀ k, (sar.alloc out).queued k = sar.queued k
  := by
  have hold : ∀ a, a < sar.nextAddr → (sar.alloc out).heap a = sar.heap a :=
    fun a ha => Function.update_of_ne (Nat.ne_of_lt ha) _ _
  have howned : ∀ k a, sar.Owned k a → (sar.alloc out).Owned k a := by
    rintro k a ⟨hlt, x, hx, hconn⟩
    use Nat.lt_succ_of_lt hlt, x
    constructor
    · rw [packet, hold a hlt]
      apply hx
    · cases k <;> exact hconn
  apply wf_of_lists
  · intro k
    apply (hw.chain k).congr
    intro a ha
    apply hold a (hw.owned k a ha).1
  · apply hw.last
  · intro k a ha
    apply howned k a (hw.owned k a ha)
  · intro a ha
    obtain ⟨⟨k, hk⟩, hq⟩ := hw.writing a ha
    use ⟨k, howned k a hk⟩, hq
  · apply hw.control
  · apply hw.data

/-- Changing a packet other than in its link and its connection. -/
theorem WF.modifyPacket (hw : sar.WF) (a : Nat) {f : NciSarPacketOut → NciSarPacketOut}
    (hnext : ∀ x, (f x).next = x.next) (hconn : ∀ x, (f x).conn = x.conn)
    (hf : ∀ x n, f (Node.setNext n x) = Node.setNext n (f x)) :
  (sar.modifyPacket a f).WF ∧ (sar.modifyPacket a f).lists = sar.lists.modify a f
  := by
  have hpacket : ∀ b, (sar.modifyPacket a f).packet b = (sar.lists.modify a f).packet b := by
    intro b
    by_cases hb : b = a
    · subst hb
      simp only [packet, NciSar.modifyPacket, Heap.modify_self, Lists.modify, NciSar.lists,
        Function.update_self, Option.map_map]
      congr 1
      funext x
      apply (hf x none).symm
    · have hheap : (sar.modifyPacket a f).heap b = sar.heap b := Heap.modify_of_ne _ _ hb
      simp [packet, hheap, Lists.modify, NciSar.lists, hb]
  have howned : ∀ k b, sar.Owned k b → (sar.modifyPacket a f).Owned k b := by
    rintro k b ⟨hlt, x, hx, hc⟩
    use hlt
    rw [hpacket]
    by_cases hb : b = a
    · subst hb
      use f x
      constructor
      · simp [Lists.modify, NciSar.lists, hx]
      · rw [hconn]
        cases k <;> exact hc
    · use x
      constructor
      · simp [Lists.modify, NciSar.lists, hx, hb]
      · cases k <;> exact hc
  obtain ⟨hwf, hq⟩ := wf_of_lists (sar.modifyPacket a f) sar.queued (by
      intro k
      apply (hw.chain k).congr_next
      intro b _
      by_cases hb : b = a
      · subst hb
        have hheap : (sar.modifyPacket b f).heap b = (sar.heap b).map f := Heap.modify_self _ _ _
        rw [hheap, Option.map_map]
        congr 1
        funext x
        apply hnext x
      · have hheap : (sar.modifyPacket a f).heap b = sar.heap b := Heap.modify_of_ne _ _ hb
        rw [hheap]) hw.last (by
      intro k b hb
      apply howned k b (hw.owned k b hb)) (by
      intro b hb
      obtain ⟨⟨k, hk⟩, hn⟩ := hw.writing b hb
      use ⟨k, howned k b hk⟩, hn) hw.control hw.data
  use hwf
  apply Lists.ext
  · funext k
    apply hq
  · funext b
    apply hpacket
  · rfl
  · rfl

/-- Deallocating a packet that is neither queued nor being written. -/
theorem WF.free (hw : sar.WF) {a : Nat} (hq : ∀ k, a ∉ sar.queued k)
    (hwriting : sar.writing ≠ some a) :
  (sar.dealloc a).WF
    ∧ (sar.dealloc a).lists = sar.lists.free a
  := by
  have hpacket : ∀ b, (sar.dealloc a).packet b
      = (sar.lists.free a).packet b := by
    intro b
    by_cases hb : b = a
    · subst hb
      simp [packet, Lists.free, NciSar.dealloc]
    · simp [packet, Lists.free, NciSar.lists, NciSar.dealloc, hb]
  have howned : ∀ k b, b ≠ a → sar.Owned k b →
      (sar.dealloc a).Owned k b := by
    rintro k b hb ⟨hlt, x, hx, hc⟩
    use hlt, x
    constructor
    · simpa [packet, NciSar.dealloc, hb] using hx
    · cases k <;> exact hc
  have hne : ∀ k, ∀ b ∈ sar.queued k, b ≠ a := by
    rintro k b hb rfl
    apply hq k hb
  obtain ⟨hwf, hqueued⟩ :=
    wf_of_lists (sar.dealloc a) sar.queued (by
      intro k
      apply (hw.chain k).congr
      intro b hb
      apply Function.update_of_ne (hne k b hb)) hw.last (by
      intro k b hb
      apply howned k b (hne k b hb) (hw.owned k b hb)) (by
      intro b hb
      obtain ⟨⟨k, hk⟩, hn⟩ := hw.writing b hb
      have hba : b ≠ a := by
        rintro rfl
        apply hwriting hb
      use ⟨k, howned k b hba hk⟩, hn) hw.control hw.data
  use hwf
  apply Lists.ext
  · funext k
    apply hqueued
  · funext b
    apply hpacket
  · rfl
  · rfl

/-! ### Edits of one queue -/

/-- The lists of an edited queue. -/
theorem lists_relink {k : QueueKey} {q : Queue} {h : Heap NciSarPacketOut} {l : List Nat}
    {writing : Option Nat} (hl : (sar.relink k q h writing).queued k = l)
    (hne : ∀ k' ≠ k, (sar.relink k q h writing).queued k' = sar.queued k')
    (hp : ∀ a, (sar.relink k q h writing).packet a = sar.packet a) :
  (sar.relink k q h writing).lists = sar.lists.relist k l writing
  := by
  apply Lists.ext
  · funext k'
    by_cases hk : k' = k
    · subst hk
      simpa [Lists.relist] using hl
    · simpa [Lists.relist, hk] using hne k' hk
  · funext a
    apply hp
  · rfl
  · apply (relink_fields sar k q h writing).1

/-- Putting the packet that is being written in front of its queue. -/
theorem WF.putBack (hw : sar.WF) {k : QueueKey} {a : Nat} (ha : sar.writing = some a)
    (hk : sar.Owned k a) :
  (sar.relink k (putFront sar.heap (sar.queue k) a).2 (putFront sar.heap (sar.queue k) a).1
      none).WF
    ∧ (sar.relink k (putFront sar.heap (sar.queue k) a).2
        (putFront sar.heap (sar.queue k) a).1 none).lists = sar.lists.putBack k a
  := by
  obtain ⟨x, hx⟩ : ∃ x, sar.heap a = some x := by
    obtain ⟨-, out, hout, -⟩ := hk
    obtain ⟨x, hx, -⟩ := Option.map_eq_some_iff.mp hout
    use x
  have hq := (hw.writing a ha).2
  obtain ⟨hc, hlast⟩ := putFront_spec (hw.chain k) hx (hq k)
  obtain ⟨hwf, hl, hne, hp⟩ := hw.relink (S := [a]) none
    (relinked_modify sar.heap a (sar.queue k).first List.mem_cons_self) (by simpa using hk) hc
    (by
      rw [hlast]
      rcases hw.last k with hl | hl
      · left
        apply hl
      · cases hqk : sar.queued k with
        | nil =>
            left
            simpa [hqk] using hl
        | cons b l =>
            right
            simpa [hqk] using hl) (by
      intro b hb
      rcases List.mem_cons.mp hb with rfl | hb
      · apply hk
      · apply hw.owned k b hb) (by simp)
  use hwf
  apply lists_relink hl hne hp

/-- Taking the first packet of a queue to be written. -/
theorem WF.pick (hw : sar.WF) {k : QueueKey} {a : Nat} {l : List Nat}
    (hk : sar.queued k = a :: l) :
  (sar.relink k (dequeue sar.heap (sar.queue k)).2.2 (dequeue sar.heap (sar.queue k)).2.1
      (dequeue sar.heap (sar.queue k)).1).WF
    ∧ (sar.relink k (dequeue sar.heap (sar.queue k)).2.2
        (dequeue sar.heap (sar.queue k)).2.1 (dequeue sar.heap (sar.queue k)).1).lists
      = sar.lists.pick k
  := by
  have hchain := hw.chain k
  have hnd := hw.nodup k
  rw [hk] at hchain hnd
  obtain ⟨hout, hc, hlast, hheap⟩ := dequeue_spec hchain
  have ha : sar.Owned k a := hw.owned k a (by rw [hk]; apply List.mem_cons_self)
  have hl : ∀ b ∈ l, sar.Owned k b := fun b hb =>
    hw.owned k b (by rw [hk]; apply List.mem_cons_of_mem a hb)
  obtain ⟨hwf, hl, hne, hp⟩ := hw.relink (S := [a]) (some a)
    (by rw [hheap]; apply relinked_modify _ _ _ List.mem_cons_self) (by simpa using ha) hc
    (by
      rw [hlast]
      split
      · left
        rfl
      · rename_i hnil
        rcases hw.last k with hk' | hk'
        · left
          apply hk'
        · right
          rw [hk', hk]
          obtain ⟨b, l, rfl⟩ := List.exists_cons_of_ne_nil hnil
          rfl) hl (by
      rintro b ⟨rfl⟩
      use ⟨k, ha⟩, (List.nodup_cons.mp hnd).1
      intro k' hk' hmem
      apply hk' (hw.mem_unique hmem ha))
  rw [hout]
  use hwf
  rw [lists_relink hl hne hp]
  simp only [Lists.pick, NciSar.lists, Lists.relist, hk, List.tail_cons, List.head?_cons]

/-- Removing a packet from a queue. -/
theorem WF.remove (hw : sar.WF) {k : QueueKey} {match? : NciSarPacketOut → Bool} {a : Nat}
    (ha : (remove match? sar.nextAddr sar.heap (sar.queue k)).1 = some a) :
  (sar.relink k (remove match? sar.nextAddr sar.heap (sar.queue k)).2.2
      (remove match? sar.nextAddr sar.heap (sar.queue k)).2.1 sar.writing).WF
    ∧ (sar.relink k (remove match? sar.nextAddr sar.heap (sar.queue k)).2.2
        (remove match? sar.nextAddr sar.heap (sar.queue k)).2.1 sar.writing).lists
      = sar.lists.remove k a
    ∧ a ∈ sar.queued k
  := by
  have hlen : (sar.queued k).length ≤ sar.nextAddr := by
    have hsub : sar.queued k ⊆ List.range sar.nextAddr :=
      fun b hb => List.mem_range.mpr (hw.owned k b hb).1
    simpa using (List.Nodup.subperm (hw.nodup k) hsub).length_le
  obtain ⟨hfind, hc, hr, hlast⟩ := remove_spec match? (hw.chain k) hlen
  rw [ha] at hfind
  have hmem : a ∈ sar.queued k := List.mem_of_find?_eq_some hfind.symm
  have herase : (sar.queued k).eraseP (matchesAt match? sar.heap) = (sar.queued k).erase a := by
    apply eraseP_eq_erase hfind.symm
  rw [herase] at hc hlast
  obtain ⟨hwf, hl, hne, hp⟩ := hw.relink sar.writing hr (hw.owned k) hc (by
      rcases hlast with hlast | ⟨hlast, hsame⟩
      · right
        apply hlast
      · rw [hlast, ← hsame]
        apply hw.last k) (by
      intro b hb
      apply hw.owned k b (List.mem_of_mem_erase hb)) (by
      intro b hb
      obtain ⟨hk', hn⟩ := hw.writing b hb
      use hk'
      constructor
      · intro hmem'
        apply hn k (List.mem_of_mem_erase hmem')
      · intro k' _
        apply hn k')
  use hwf
  constructor
  · apply lists_relink hl hne hp
  · apply hmem

end NciSar

end Nci
