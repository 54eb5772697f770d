import LibNciCore.Sar.Run
import Mathlib.Data.List.Perm.Subperm

/-!
# The queues as lists

The packets that can be reached from the first pointer of a queue are a list,
`NciSar.queued`. In a well formed state the last pointer of a queue points to the last
packet of the list or nowhere, every packet of the list belongs to the queue, and the packet
that is being written is in none of the lists. What the edits of the queues do is described
by what they do to the lists and to the packets without their links.
-/

namespace Nci

open LinkedQueue

namespace NciSar

/-! ### Queues and packets -/

/-- The packets that can be reached from the first pointer of a queue. -/
def queued (sar : NciSar) (k : QueueKey) : List Nat :=
  (sar.queue k).addrs sar.heap sar.nextAddr

/-- The packet at an address, without its link. -/
def packet (sar : NciSar) (a : Nat) : Option NciSarPacketOut :=
  (sar.heap a).map (Node.setNext none)

/-- The connection pointer of the packets that belong to a queue. -/
def connPtr (sar : NciSar) : QueueKey → Option ConnPtr
  | .cmd => none
  | .out cid => some ⟨sar.connTable, cid⟩

/-- The packet at an address belongs to a queue. -/
def Owned (sar : NciSar) (k : QueueKey) (a : Nat) : Prop :=
  a < sar.nextAddr ∧ ∃ out, sar.packet a = some out ∧ out.conn = sar.connPtr k

/-- Well formed states. -/
structure WF (sar : NciSar) : Prop where
  chain : ∀ k, Chain sar.heap (sar.queue k).first (sar.queued k)
  last : ∀ k, (sar.queue k).last = none ∨ (sar.queue k).last = (sar.queued k).getLast?
  owned : ∀ k, ∀ a ∈ sar.queued k, sar.Owned k a
  writing : ∀ a, sar.writing = some a → (∃ k, sar.Owned k a) ∧ ∀ k, a ∉ sar.queued k
  control : sarMinControlPayloadLimit ≤ sar.controlPayloadLimit
  data : sarMinDataPayloadLimit ≤ sar.dataPayloadLimit

variable {sar sar' : NciSar}

theorem connPtr_injective (sar : NciSar) {k k' : QueueKey} (h : sar.connPtr k = sar.connPtr k') :
  k = k'
  := by
  cases k with
  | cmd =>
      cases k' with
      | cmd => rfl
      | out cid' => simp [connPtr] at h
  | out cid =>
      cases k' with
      | cmd => simp [connPtr] at h
      | out cid' => simpa [connPtr] using h

/-- A packet belongs to one queue only. -/
theorem Owned.unique {k k' : QueueKey} {a : Nat} (h : sar.Owned k a) (h' : sar.Owned k' a) :
  k = k'
  := by
  obtain ⟨-, out, hout, hconn⟩ := h
  obtain ⟨-, out', hout', hconn'⟩ := h'
  obtain rfl : out = out' := Option.some.inj (hout.symm.trans hout')
  apply sar.connPtr_injective (hconn.symm.trans hconn')

/-- The packets met from the first pointer of a queue are a chain with short enough
addresses, if there is one. -/
theorem queued_eq {k : QueueKey} {l : List Nat} (hc : Chain sar.heap (sar.queue k).first l)
    (hl : ∀ a ∈ l, a < sar.nextAddr) :
  sar.queued k = l
  := by
  apply hc.walk_eq
  have hsub : l ⊆ List.range sar.nextAddr := fun a ha => List.mem_range.mpr (hl a ha)
  have hlen := (List.Nodup.subperm hc.nodup hsub).length_le
  simpa using hlen

theorem WF.mem_unique (hw : sar.WF) {k k' : QueueKey} {a : Nat} (h : a ∈ sar.queued k)
    (h' : sar.Owned k' a) :
  k = k'
  := (hw.owned k a h).unique h'

theorem WF.nodup (hw : sar.WF) (k : QueueKey) :
  (sar.queued k).Nodup
  := (hw.chain k).nodup

/-- The first pointer of a queue points to its first packet. -/
theorem WF.first (hw : sar.WF) (k : QueueKey) :
  (sar.queue k).first = (sar.queued k).head?
  := (hw.chain k).head?

theorem WF.first_isSome (hw : sar.WF) (k : QueueKey) :
  (sar.queue k).first.isSome = true ↔ sar.queued k ≠ []
  := by
  rw [hw.first k]
  cases sar.queued k <;> simp

/-- A state is well formed if its queues are chains of packets that belong to them. -/
theorem wf_of_lists (sar : NciSar) (ls : QueueKey → List Nat)
    (hc : ∀ k, Chain sar.heap (sar.queue k).first (ls k))
    (hlast : ∀ k, (sar.queue k).last = none ∨ (sar.queue k).last = (ls k).getLast?)
    (hown : ∀ k, ∀ a ∈ ls k, sar.Owned k a)
    (hwr : ∀ a, sar.writing = some a → (∃ k, sar.Owned k a) ∧ ∀ k, a ∉ ls k)
    (hcontrol : sarMinControlPayloadLimit ≤ sar.controlPayloadLimit)
    (hdata : sarMinDataPayloadLimit ≤ sar.dataPayloadLimit) :
  sar.WF ∧ ∀ k, sar.queued k = ls k
  := by
  have hq : ∀ k, sar.queued k = ls k := fun k => queued_eq (hc k) fun a ha => (hown k a ha).1
  constructor
  · constructor
    · simpa only [hq] using hc
    · simpa only [hq] using hlast
    · simpa only [hq] using hown
    · simpa only [hq] using hwr
    · apply hcontrol
    · apply hdata
  · apply hq

/-! ### States that differ elsewhere -/

/-- The states have the same packets, queues and packet being written. -/
structure SameQueues (sar sar' : NciSar) : Prop where
  heap : sar'.heap = sar.heap
  queue : ∀ k, sar'.queue k = sar.queue k
  nextAddr : sar'.nextAddr = sar.nextAddr
  connTable : sar'.connTable = sar.connTable
  writing : sar'.writing = sar.writing

/-- States with the same queues in the first place. -/
theorem sameQueues_of_fields (hheap : sar'.heap = sar.heap) (hcmd : sar'.cmd = sar.cmd)
    (hconn : sar'.conn = sar.conn) (hnext : sar'.nextAddr = sar.nextAddr)
    (htable : sar'.connTable = sar.connTable) (hwriting : sar'.writing = sar.writing) :
  SameQueues sar sar'
  := by
  constructor
  · apply hheap
  · intro k
    cases k with
    | cmd => apply hcmd
    | out cid => rw [NciSar.queue, NciSar.queue, hconn]
  · apply hnext
  · apply htable
  · apply hwriting

theorem SameQueues.queued (hs : SameQueues sar sar') (k : QueueKey) :
  sar'.queued k = sar.queued k
  := by rw [NciSar.queued, NciSar.queued, hs.queue, hs.heap, hs.nextAddr]

theorem SameQueues.packet (hs : SameQueues sar sar') (a : Nat) :
  sar'.packet a = sar.packet a
  := by rw [NciSar.packet, NciSar.packet, hs.heap]

theorem SameQueues.connPtr (hs : SameQueues sar sar') (k : QueueKey) :
  sar'.connPtr k = sar.connPtr k
  := by
  cases k with
  | cmd => rfl
  | out cid => rw [NciSar.connPtr, NciSar.connPtr, hs.connTable]

theorem SameQueues.owned (hs : SameQueues sar sar') (k : QueueKey) (a : Nat) :
  sar'.Owned k a ↔ sar.Owned k a
  := by rw [Owned, Owned, hs.nextAddr, hs.packet, hs.connPtr]

theorem SameQueues.trans {sar'' : NciSar} (hs : SameQueues sar sar')
    (hs' : SameQueues sar' sar'') :
  SameQueues sar sar''
  := by
  constructor
  · rw [hs'.heap, hs.heap]
  · intro k
    rw [hs'.queue, hs.queue]
  · rw [hs'.nextAddr, hs.nextAddr]
  · rw [hs'.connTable, hs.connTable]
  · rw [hs'.writing, hs.writing]

/-- Well-formedness depends on the packets, the queues, the packet being written and the
limits only. -/
theorem SameQueues.wf (hs : SameQueues sar sar') (hw : sar.WF)
    (hcontrol : sarMinControlPayloadLimit ≤ sar'.controlPayloadLimit)
    (hdata : sarMinDataPayloadLimit ≤ sar'.dataPayloadLimit) :
  sar'.WF
  := by
  apply (wf_of_lists _ sar.queued _ _ _ _ hcontrol hdata).1
  · simpa only [hs.heap, hs.queue] using hw.chain
  · simpa only [hs.queue] using hw.last
  · simpa only [hs.owned] using hw.owned
  · simpa only [hs.owned, hs.writing] using hw.writing

@[simp]
theorem queue_modifyConn (sar : NciSar) (cid : Nat)
    (f : NciSarLogicalConnection → NciSarLogicalConnection)
    (hf : (f (sar.conn cid)).out = (sar.conn cid).out) (k : QueueKey) :
  (sar.modifyConn cid f).queue k = sar.queue k
  := by
  cases k with
  | cmd => rfl
  | out cid' =>
      by_cases hcid : cid' = cid
      · subst hcid
        simp [queue, modifyConn, hf]
      · simp [queue, modifyConn, hcid]

/-- Changing the balance or the input of a connection. -/
theorem sameQueues_modifyConn (sar : NciSar) (cid : Nat)
    (f : NciSarLogicalConnection → NciSarLogicalConnection)
    (hf : (f (sar.conn cid)).out = (sar.conn cid).out) :
  SameQueues sar (sar.modifyConn cid f)
  := by
  constructor
  · rfl
  · apply queue_modifyConn sar cid f hf
  · rfl
  · rfl
  · rfl

theorem sameQueues_useCredit (sar : NciSar) (cid : Nat) :
  SameQueues sar (sar.useCredit cid)
  := by
  rw [useCredit]
  split
  · apply sameQueues_modifyConn
    rfl
  · constructor <;> intros <;> rfl

theorem sameQueues_scheduleWrite (sar : NciSar) :
  SameQueues sar (nciSarScheduleWrite sar)
  := by
  rw [nciSarScheduleWrite]
  split <;> constructor <;> intros <;> rfl

/-! ### Replacing a queue -/

@[simp]
theorem queue_setQueue_self (sar : NciSar) (k : QueueKey) (q : Queue) :
  (sar.setQueue k q).queue k = q
  := by
  cases k with
  | cmd => rfl
  | out cid => simp [setQueue, queue, modifyConn]

theorem queue_setQueue_of_ne (sar : NciSar) {k k' : QueueKey} (q : Queue) (hk : k' ≠ k) :
  (sar.setQueue k q).queue k' = sar.queue k'
  := by
  cases k with
  | cmd =>
      cases k' with
      | cmd => simp at hk
      | out cid' => rfl
  | out cid =>
      cases k' with
      | cmd => rfl
      | out cid' =>
          have hcid : cid' ≠ cid := by simpa using hk
          simp [setQueue, queue, modifyConn, hcid]

@[simp]
theorem queue_relink_self (sar : NciSar) (k : QueueKey) (q : Queue)
    (heap : Heap NciSarPacketOut) (writing : Option Nat) :
  (sar.relink k q heap writing).queue k = q
  := queue_setQueue_self sar k q

theorem queue_relink_of_ne (sar : NciSar) {k k' : QueueKey} (q : Queue)
    (heap : Heap NciSarPacketOut) (writing : Option Nat) (hk : k' ≠ k) :
  (sar.relink k q heap writing).queue k' = sar.queue k'
  := queue_setQueue_of_ne sar q hk

theorem packet_of_relinked {h h' : Heap NciSarPacketOut} {S : List Nat} (hr : Relinked h h' S)
    (a : Nat) :
  (h' a).map (Node.setNext none) = (h a).map (Node.setNext none)
  := by
  rcases hr a with heq | ⟨-, n, heq⟩
  · rw [heq]
  · rw [heq, Option.map_map]
    rfl

theorem relink_fields (sar : NciSar) (k : QueueKey) (q : Queue) (heap : Heap NciSarPacketOut)
    (writing : Option Nat) :
  (sar.relink k q heap writing).nextAddr = sar.nextAddr
    ∧ (sar.relink k q heap writing).connTable = sar.connTable
    ∧ (sar.relink k q heap writing).controlPayloadLimit = sar.controlPayloadLimit
    ∧ (sar.relink k q heap writing).dataPayloadLimit = sar.dataPayloadLimit
  := by cases k <;> exact ⟨rfl, rfl, rfl, rfl⟩

/-- An edit of one queue that links only packets that belong to it. -/
theorem WF.relink (hw : sar.WF) {k : QueueKey} {q : Queue} {h : Heap NciSarPacketOut}
    {S l : List Nat} (writing : Option Nat) (hr : Relinked sar.heap h S)
    (hS : ∀ a ∈ S, sar.Owned k a) (hc : Chain h q.first l)
    (hlast : q.last = none ∨ q.last = l.getLast?) (hown : ∀ a ∈ l, sar.Owned k a)
    (hwr : ∀ a, writing = some a →
      (∃ k, sar.Owned k a) ∧ a ∉ l ∧ ∀ k' ≠ k, a ∉ sar.queued k') :
  (sar.relink k q h writing).WF
    ∧ (sar.relink k q h writing).queued k = l
    ∧ (∀ k' ≠ k, (sar.relink k q h writing).queued k' = sar.queued k')
    ∧ (∀ a, (sar.relink k q h writing).packet a = sar.packet a)
  := by
  obtain ⟨hnext, htable, hctl, hdat⟩ := relink_fields sar k q h writing
  have hpacket : ∀ a, (sar.relink k q h writing).packet a = sar.packet a :=
    packet_of_relinked hr
  have howned : ∀ k' a, (sar.relink k q h writing).Owned k' a ↔ sar.Owned k' a := by
    intro k' a
    have hptr : (sar.relink k q h writing).connPtr k' = sar.connPtr k' := by
      cases k' with
      | cmd => rfl
      | out cid => rw [connPtr, connPtr, htable]
    rw [Owned, Owned, hnext, hpacket, hptr]
  obtain ⟨hwf, hq⟩ := wf_of_lists (sar.relink k q h writing)
    (Function.update sar.queued k l) (by
      intro k'
      by_cases hk : k' = k
      · subst hk
        rw [queue_relink_self, Function.update_self]
        apply hc
      · rw [queue_relink_of_ne sar q h writing hk, Function.update_of_ne hk]
        apply (hw.chain k').relinked hr
        intro a ha haS
        apply hk (hw.mem_unique ha (hS a haS))) (by
      intro k'
      by_cases hk : k' = k
      · subst hk
        simpa using hlast
      · rw [queue_relink_of_ne sar q h writing hk, Function.update_of_ne hk]
        apply hw.last k') (by
      intro k' a ha
      rw [howned]
      by_cases hk : k' = k
      · subst hk
        rw [Function.update_self] at ha
        apply hown a ha
      · rw [Function.update_of_ne hk] at ha
        apply hw.owned k' a ha) (by
      intro a ha
      obtain ⟨⟨k₀, hk₀⟩, hal, hne⟩ := hwr a ha
      constructor
      · use k₀
        rw [howned]
        apply hk₀
      · intro k'
        by_cases hk : k' = k
        · subst hk
          simpa using hal
        · rw [Function.update_of_ne hk]
          apply hne k' hk) (by rw [hctl]; apply hw.control) (by rw [hdat]; apply hw.data)
  use hwf
  constructor
  · rw [hq k, Function.update_self]
  constructor
  · intro k' hk
    rw [hq k', Function.update_of_ne hk]
  · apply hpacket

end NciSar

end Nci
