import LibNciCore.Sar.Credits

/-!
# Lines of packets

The line of a queue is the packet of that queue that is being written, if there is one,
followed by the packets that wait in the queue. Choosing the packet to write does not change
any line: a packet that is put back stays the first one, and so does one that is picked.
The last pointer of a queue, on the other hand, is lost when a packet is put back to an empty
queue.
-/

namespace Nci

open LinkedQueue

/-! ### Lines -/

namespace Lists

variable {s : Lists} {k : QueueKey} {a : Nat}

/-- The queue that the packet at an address belongs to. -/
def key (s : Lists) (a : Nat) : Option QueueKey := (s.packet a).map NciSarPacketOut.key

/-- The packet that is being written, if it belongs to the queue. -/
def held (s : Lists) (k : QueueKey) : List Nat :=
  s.writing.toList.filter fun a => s.key a = some k

/-- The packet that is being written and those that wait in the queue. -/
def line (s : Lists) (k : QueueKey) : List Nat := s.held k ++ s.queued k

theorem held_of_none (h : s.writing = none) (k : QueueKey) :
  s.held k = []
  := by simp [held, h]

theorem held_of_key (h : s.writing = some a) (hk : s.key a = some k) (k' : QueueKey) :
  s.held k' = if k' = k then [a] else []
  := by
  by_cases hkk : k' = k
  · subst hkk
    simp [held, h, hk]
  · rw [if_neg hkk]
    simp [held, h, hk, Ne.symm hkk]

/-- Putting a packet back to its queue. -/
theorem line_putBack (h : s.writing = some a) (hk : s.key a = some k) (k' : QueueKey) :
  (s.putBack k a).line k' = s.line k'
  := by
  rw [line, line, held_of_key h hk, held_of_none rfl]
  by_cases hkk : k' = k
  · subst hkk
    simp [putBack, relist]
  · simp [putBack, relist, hkk]

/-- Picking a packet from a queue. -/
theorem line_pick (h : s.writing = none) {l : List Nat} (hl : s.queued k = a :: l)
    (hk : s.key a = some k) (k' : QueueKey) :
  (s.pick k).line k' = s.line k'
  := by
  have hw : (s.pick k).writing = some a := by simp [pick, relist, hl]
  rw [line, line, held_of_none h, held_of_key hw hk]
  by_cases hkk : k' = k
  · subst hkk
    simp [pick, relist, hl]
  · simp [pick, relist, hkk]

/-- Removing a packet from a queue. -/
theorem line_remove (h : s.writing ≠ some a) (k' : QueueKey) :
  (s.remove k a).line k' = if k' = k then (s.line k).erase a else s.line k'
  := by
  have hheld : ∀ k', (s.remove k a).held k' = s.held k' := fun _ => rfl
  have hnot : a ∉ s.held k := by
    intro ha
    apply h
    simpa [held] using (List.mem_filter.mp ha).1
  by_cases hkk : k' = k
  · subst hkk
    rw [if_pos rfl, line, line, hheld, List.erase_append_right _ hnot]
    simp [remove, relist]
  · rw [if_neg hkk, line, line, hheld]
    simp [remove, relist, hkk]

/-- Queueing a packet. -/
theorem line_append (h : s.writing ≠ some s.nextAddr) (l : List Nat) (out : NciSarPacketOut)
    (k' : QueueKey) :
  (s.append k l out).line k' = if k' = k then s.held k ++ l ++ [s.nextAddr] else s.line k'
  := by
  have hheld : ∀ k', (s.append k l out).held k' = s.held k' := by
    intro k'
    apply List.filter_congr
    intro a ha
    have hne : a ≠ s.nextAddr := by
      rintro rfl
      apply h
      apply Option.mem_toList.mp ha
    simp [key, append, hne]
  rw [line, line, hheld]
  by_cases hkk : k' = k
  · subst hkk
    simp [append]
  · simp [append, hkk]

/-- Changing a packet that stays in its queue. -/
theorem line_modify {f : NciSarPacketOut → NciSarPacketOut} (hf : ∀ x, (f x).key = x.key)
    (k : QueueKey) :
  (s.modify a f).line k = s.line k
  := by
  have hkey : ∀ b, (s.modify a f).key b = s.key b := by
    intro b
    by_cases hb : b = a
    · subst hb
      simp [key, modify, Function.comp_def, hf]
    · simp [key, modify, hb]
  rw [line, line, held, held]
  simp only [hkey]
  rfl

/-- Freeing a packet that is not being written. -/
theorem line_free (h : s.writing ≠ some a) (k : QueueKey) :
  (s.free a).line k = s.line k
  := by
  have hheld : (s.free a).held k = s.held k := by
    apply List.filter_congr
    intro b hb
    have hne : b ≠ a := by
      rintro rfl
      apply h
      apply Option.mem_toList.mp hb
    simp [key, free, hne]
  rw [line, line, hheld]
  rfl

end Lists

/-! ### Lines of a state -/

namespace NciSar

variable {sar : NciSar} {k : QueueKey} {a : Nat}

/-- The packet of a queue that is being written and those that wait. -/
def line (sar : NciSar) (k : QueueKey) : List Nat := sar.lists.line k

theorem Owned.key (h : sar.Owned k a) :
  sar.lists.key a = some k
  := by
  obtain ⟨-, out, hout, hconn⟩ := h
  rw [Lists.key, lists_packet, hout, Option.map_some, NciSarPacketOut.key, hconn]
  cases k <;> rfl

theorem WF.mem_line (hw : sar.WF) :
  a ∈ sar.line k ↔ a ∈ sar.queued k ∨ sar.writing = some a ∧ sar.Owned k a
  := by
  rw [line, Lists.line, List.mem_append, Lists.held, List.mem_filter, or_comm]
  apply or_congr Iff.rfl
  simp only [lists_writing, Option.mem_toList, decide_eq_true_eq]
  apply and_congr_right
  intro ha
  constructor
  · intro hk
    obtain ⟨⟨k', hk'⟩, -⟩ := hw.writing a ha
    obtain rfl : k' = k := Option.some.inj (hk'.key.symm.trans hk)
    apply hk'
  · apply Owned.key

/-- A packet that is not being written is in the line of a queue if it is in the queue. -/
theorem mem_line_of_ne (h : sar.writing ≠ some a) (k : QueueKey) :
  a ∈ sar.line k ↔ a ∈ sar.queued k
  := by
  rw [line, Lists.line, List.mem_append]
  constructor
  · rintro (ha | ha)
    · apply absurd (Option.mem_toList.mp (List.mem_filter.mp ha).1) h
    · apply ha
  · apply Or.inr

theorem WF.writing_ne_nextAddr (hw : sar.WF) :
  sar.writing ≠ some sar.nextAddr
  := by
  intro h
  obtain ⟨⟨k, hk⟩, -⟩ := hw.writing _ h
  apply Nat.lt_irrefl _ hk.1

theorem WF.line_nodup (hw : sar.WF) (k : QueueKey) :
  (sar.line k).Nodup
  := by
  rw [line, Lists.line]
  apply List.Nodup.append
  · apply List.Nodup.filter
    cases sar.lists.writing <;> simp
  · apply hw.nodup
  · intro a ha
    have hwriting : sar.writing = some a := by
      simpa using (List.mem_filter.mp ha).1
    apply (hw.writing a hwriting).2 k

/-- A packet that is being written comes first in its line. -/
theorem line_of_writing (ha : sar.writing = some a) (hk : sar.Owned k a) :
  sar.line k = a :: sar.queued k
  := by
  rw [line, Lists.line, Lists.held_of_key ha hk.key, if_pos rfl]
  rfl

/-- If nothing is being written, the lines are the queues. -/
theorem line_of_none (h : sar.writing = none) (k : QueueKey) :
  sar.line k = sar.queued k
  := by
  rw [line, Lists.line, Lists.held_of_none h]
  rfl

theorem Detached.not_mem_line (h : sar.Detached a) (k : QueueKey) :
  a ∉ sar.line k
  := by
  rw [mem_line_of_ne h.2.2]
  apply h.2.1

theorem SameQueues.line {sar' : NciSar} (hs : SameQueues sar sar') (k : QueueKey) :
  sar'.line k = sar.line k
  := by rw [NciSar.line, NciSar.line, hs.lists]

/-! ### Choosing the packet to write -/

/-- The states have the same lines of the same packets. -/
structure SameLines (sar sar' : NciSar) : Prop where
  line : ∀ k, sar'.line k = sar.line k
  packet : ∀ a, sar'.packet a = sar.packet a
  nextAddr : sar'.nextAddr = sar.nextAddr

theorem SameLines.trans {sar' sar'' : NciSar} (h : SameLines sar sar')
    (h' : SameLines sar' sar'') :
  SameLines sar sar''
  := by
  constructor
  · intro k
    rw [h'.line, h.line]
  · intro a
    rw [h'.packet, h.packet]
  · rw [h'.nextAddr, h.nextAddr]

theorem SameQueues.sameLines {sar' : NciSar} (hs : SameQueues sar sar') :
  SameLines sar sar'
  := by
  constructor
  · apply hs.line
  · apply hs.packet
  · apply hs.nextAddr

theorem WF.sameLines_putBack (hw : sar.WF) (ha : sar.writing = some a) (hk : sar.Owned k a) :
  SameLines sar (sar.putBackState k a)
  := by
  have hl := (hw.putBackState ha hk).2
  constructor
  · intro k'
    rw [NciSar.line, hl]
    apply Lists.line_putBack ha hk.key
  · intro b
    apply congrFun (congrArg Lists.packet hl) b
  · apply congrArg Lists.nextAddr hl

theorem WF.sameLines_pick (hw : sar.WF) (hnone : sar.writing = none) {l : List Nat}
    (hl : sar.queued k = a :: l) :
  SameLines sar ((sar.charge k).pickState k)
  := by
  have hlists := (hw.pickState hl).2
  have hk : sar.Owned k a := hw.owned k a (by rw [hl]; apply List.mem_cons_self)
  constructor
  · intro k'
    rw [NciSar.line, hlists]
    apply Lists.line_pick hnone hl hk.key
  · intro b
    apply congrFun (congrArg Lists.packet hlists) b
  · apply congrArg Lists.nextAddr hlists

/-- Choosing the packet to write changes no line. -/
theorem WF.sameLines_select (hw : sar.WF) :
  SameLines sar sar.select
  := by
  have hcont : SameLines sar (nciSarAttemptWriteContinue sar) := by
    rcases hw.continue_cases with ⟨-, heq⟩ | ⟨k, a, -, -, -, heq⟩ | ⟨cid, a, ha, hk, -, heq⟩
    · rw [heq]
      constructor <;> intros <;> rfl
    · rw [heq]
      apply (sameQueues_charge sar k).sameLines
    · rw [heq]
      apply hw.sameLines_putBack ha hk
  apply hcont.trans
  rcases hw.select.1.pick_cases with ⟨a, -, heq⟩ | ⟨-, -, heq⟩ | ⟨k, a, l, hnone, hl, -, heq⟩
  · rw [NciSar.select, heq]
    constructor <;> intros <;> rfl
  · rw [NciSar.select, heq]
    constructor <;> intros <;> rfl
  · rw [NciSar.select, heq]
    apply hw.select.1.sameLines_pick hnone hl

/-- Taking a segment off a packet changes no line. -/
theorem WF.line_cutSegment (hw : sar.WF) {out : NciSarPacketOut} (hout : sar.heap a = some out)
    (k : QueueKey) :
  (sar.cutSegment a out).line k = sar.line k
  := by
  rw [NciSar.line, (hw.cutSegment hout).2]
  apply Lists.line_modify
  intro x
  rw [NciSarPacketOut.key, NciSarPacketOut.key, nextSegment_conn]

end NciSar

end Nci
