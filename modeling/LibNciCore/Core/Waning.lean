import LibNciCore.Sar.Kept

/-!
# A layer that carries only commands

Where the only packets are commands, no connection plays a role. What the layer does then, other
than accepting a command, makes the packets that it carries fewer, and leaves their ids and
completion functions alone.
-/

namespace Nci

open LinkedQueue

namespace NciSar

/-! ### What the layer carries -/

/-- The id of the packet at an address. -/
def idAt (sar : NciSar) (a : Nat) : Option UInt32 := (sar.packet a).map NciSarPacketOut.id

/-- The completion function of the packet at an address. -/
def completeAt (sar : NciSar) (a : Nat) : Option Nat :=
  (sar.packet a).bind NciSarPacketOut.complete

/-- The packet is a command that is queued or being written. -/
def Carries (sar : NciSar) (a : Nat) : Prop := sar.writing = some a ∨ a ∈ sar.queued .cmd

/-- The only packets are commands. -/
structure CommandsOnly (sar : NciSar) : Prop where
  out : ∀ cid, sar.queued (.out cid) = []
  writing : ∀ a, sar.writing = some a → sar.Owned .cmd a

/-- The layer carries no more than it did. -/
structure Wanes (sar sar' : NciSar) : Prop where
  sound : sar'.Sound
  commands : sar'.CommandsOnly
  queued : ∀ a ∈ sar'.queued .cmd, a ∈ sar.queued .cmd
  writing : ∀ a, sar'.writing = some a → sar.Carries a
  packet : ∀ a, sar'.Carries a ∨ sar.writing = some a →
    sar'.idAt a = sar.idAt a ∧ sar'.completeAt a = sar.completeAt a
  nextAddr : sar'.nextAddr = sar.nextAddr
  detached : ∀ a, sar.Detached a → sar'.Detached a

variable {sar sar' sar'' : NciSar} {a : Nat}

theorem completeAt_eq_bind (sar : NciSar) (a : Nat) :
  sar.completeAt a = (sar.heap a).bind NciSarPacketOut.complete
  := by
  rw [completeAt, NciSar.packet]
  cases sar.heap a <;> rfl

theorem idAt_eq_map (sar : NciSar) (a : Nat) :
  sar.idAt a = (sar.heap a).map NciSarPacketOut.id
  := by
  rw [idAt, NciSar.packet]
  cases sar.heap a <;> rfl

/-- A packet that has left is not carried. -/
theorem Detached.not_carries (h : sar.Detached a) :
  ¬ sar.Carries a
  := by
  rintro (hwriting | hqueued)
  · apply h.2.2 hwriting
  · apply h.2.1 .cmd hqueued

theorem Wanes.carries (h : Wanes sar sar') (ha : sar'.Carries a) :
  sar.Carries a
  := by
  rcases ha with hwriting | hqueued
  · apply h.writing a hwriting
  · right
    apply h.queued a hqueued

/-! ### Changes that leave the packets where they are -/

theorem owned_cmd_iff (sar : NciSar) (a : Nat) :
  sar.Owned .cmd a ↔ a < sar.lists.nextAddr
    ∧ ∃ out, sar.lists.packet a = some out ∧ out.conn = none
  := Iff.rfl

theorem commandsOnly_of_lists (hc : sar.CommandsOnly) (hl : sar'.lists = sar.lists) :
  sar'.CommandsOnly
  := by
  constructor
  · intro cid
    rw [← lists_queued, hl]
    apply hc.out
  · intro a ha
    rw [owned_cmd_iff, hl]
    apply hc.writing
    rw [← lists_writing, ← hl]
    apply ha

theorem wanes_of_lists (hs : sar'.Sound) (hc : sar.CommandsOnly) (hl : sar'.lists = sar.lists) :
  Wanes sar sar'
  := by
  have hpacket : ∀ a, sar'.packet a = sar.packet a := fun a => congrFun (congrArg Lists.packet hl) a
  have hqueued : sar'.queued .cmd = sar.queued .cmd := congrFun (congrArg Lists.queued hl) .cmd
  constructor
  · apply hs
  · apply commandsOnly_of_lists hc hl
  · intro a ha
    rw [← hqueued]
    apply ha
  · intro a ha
    left
    rw [← ha]
    apply (congrArg Lists.writing hl).symm
  · intro a _
    rw [idAt, idAt, completeAt, completeAt, hpacket]
    exact ⟨rfl, rfl⟩
  · apply congrArg Lists.nextAddr hl
  · intro a ha
    apply ha.of_lists hl

theorem Tuned.wanes (h : Tuned sar sar') (hs : sar.Sound) (hc : sar.CommandsOnly) :
  Wanes sar sar'
  := by
  apply wanes_of_lists _ hc h.same.lists
  use h.wf hs.wf
  rw [h.writePending, h.same.writing]
  apply hs.pending

/-! ### Choosing a command -/

/-- The packet that is being written goes on being written, or the first command is taken. -/
theorem CommandsOnly.select_lists (hc : sar.CommandsOnly) (hw : sar.WF) :
  sar.select.lists = sar.lists
    ∨ sar.writing = none ∧ ∃ a l, sar.queued .cmd = a :: l
      ∧ sar.select.lists = sar.lists.pick .cmd
  := by
  have hcont : (nciSarAttemptWriteContinue sar).lists = sar.lists := by
    rcases hw.continue_cases with ⟨-, heq⟩ | ⟨k, a, -, -, -, heq⟩ | ⟨cid, a, ha, hk, -, -⟩
    · rw [heq]
    · rw [heq, (sameQueues_charge sar k).lists]
    · have hkey := hk.unique (hc.writing a ha)
      cases hkey
  have hwf := hw.select.1
  rcases hwf.pick_cases with ⟨a, -, heq⟩ | ⟨-, -, heq⟩ | ⟨k, a, l, hnone, hl, -, heq⟩
  · left
    rw [NciSar.select, heq, hcont]
  · left
    rw [NciSar.select, heq, hcont]
  · right
    have hqueued : (nciSarAttemptWriteContinue sar).queued k = sar.queued k :=
      congrFun (congrArg Lists.queued hcont) k
    rw [hqueued] at hl
    have hk : k = .cmd := by
      cases k with
      | cmd => rfl
      | out cid =>
          rw [hc.out cid] at hl
          cases hl
    subst hk
    use (congrArg Lists.writing hcont).symm.trans hnone, a, l, hl
    rw [NciSar.select, heq, (hwf.pickState (by rw [hqueued]; apply hl)).2, hcont]

theorem CommandsOnly.wanes_select (hc : sar.CommandsOnly) (hs : sar.Sound)
    (hpending : sar.writePending = false) :
  Wanes sar sar.select
  := by
  have hs' : sar.select.Sound := by
    use hs.wf.select.2
    rw [writePending_select, hpending]
    intro h
    cases h
  rcases hc.select_lists hs.wf with hl | ⟨hnone, a, l, hal, hl⟩
  · apply wanes_of_lists hs' hc hl
  · have hpacket : ∀ b, sar.select.packet b = sar.packet b := by
      intro b
      rw [← lists_packet, hl]
      rfl
    have hqueued : ∀ k, sar.select.queued k = if k = .cmd then l else sar.queued k := by
      intro k
      rw [← lists_queued, hl]
      by_cases hk : k = .cmd
      · subst hk
        simp [Lists.pick, Lists.relist, hal]
      · simp [Lists.pick, Lists.relist, hk]
    have hwriting : sar.select.writing = some a := by
      rw [← lists_writing, hl]
      simp [Lists.pick, Lists.relist, hal]
    have hmem : a ∈ sar.queued .cmd := by
      rw [hal]
      apply List.mem_cons_self
    constructor
    · apply hs'
    · constructor
      · intro cid
        rw [hqueued, if_neg (by intro h; cases h)]
        apply hc.out
      · intro b hb
        obtain rfl : a = b := Option.some.inj (hwriting.symm.trans hb)
        rw [owned_cmd_iff, hl]
        apply hs.wf.owned .cmd a hmem
    · intro b hb
      rw [hqueued, if_pos rfl] at hb
      rw [hal]
      apply List.mem_cons_of_mem _ hb
    · intro b hb
      obtain rfl : a = b := Option.some.inj (hwriting.symm.trans hb)
      right
      apply hmem
    · intro b _
      rw [idAt, idAt, completeAt, completeAt, hpacket]
      exact ⟨rfl, rfl⟩
    · rw [← lists_nextAddr, hl]
      rfl
    · intro b hb
      apply hs.wf.select_detached hb

/-! ### Handing over, forgetting and freeing -/

/-- A segment is cut off a packet. -/
theorem CommandsOnly.wanes_modify (hc : sar.CommandsOnly) (hs' : sar'.Sound) {limit : UInt8}
    (hl : sar'.lists = sar.lists.modify a fun x => (x.nextSegment limit).1) :
  Wanes sar sar'
  := by
  have hpacket : ∀ b, sar'.packet b
      = if b = a then (sar.packet a).map (fun x => (x.nextSegment limit).1) else sar.packet b := by
    intro b
    rw [← lists_packet, hl]
    by_cases hb : b = a
    · subst hb
      simp [Lists.modify]
    · simp [Lists.modify, hb]
  have hfields : ∀ x : NciSarPacketOut, (x.nextSegment limit).1.id = x.id
      ∧ (x.nextSegment limit).1.complete = x.complete ∧ (x.nextSegment limit).1.conn = x.conn := by
    intro x
    rw [NciSarPacketOut.nextSegment]
    split <;> exact ⟨rfl, rfl, rfl⟩
  have hqueued : ∀ k, sar'.queued k = sar.queued k := fun k => congrFun (congrArg Lists.queued hl) k
  have hwriting : sar'.writing = sar.writing := congrArg Lists.writing hl
  have hnext : sar'.nextAddr = sar.nextAddr := congrArg Lists.nextAddr hl
  constructor
  · apply hs'
  · constructor
    · intro cid
      rw [hqueued]
      apply hc.out
    · intro b hb
      rw [hwriting] at hb
      obtain ⟨hlt, out, hout, hconn⟩ := hc.writing b hb
      rw [NciSar.Owned, hnext, hpacket]
      use hlt
      by_cases hba : b = a
      · subst hba
        rw [if_pos rfl, hout]
        exact ⟨_, rfl, (hfields out).2.2.trans hconn⟩
      · rw [if_neg hba]
        exact ⟨out, hout, hconn⟩
  · intro b hb
    rw [← hqueued]
    apply hb
  · intro b hb
    left
    rw [← hwriting]
    apply hb
  · intro b _
    rw [idAt, idAt, completeAt, completeAt, hpacket]
    by_cases hba : b = a
    · subst hba
      rw [if_pos rfl]
      cases sar.packet b with
      | none => exact ⟨rfl, rfl⟩
      | some x =>
          constructor
          · simp [(hfields x).1]
          · simp [(hfields x).2.1]
    · rw [if_neg hba]
      exact ⟨rfl, rfl⟩
  · apply hnext
  · intro b hb
    rw [detached_iff, hl]
    apply hb

/-- Nothing is being written any more. -/
theorem CommandsOnly.wanes_forget (hc : sar.CommandsOnly)
    (hs : SameQueues (sar.setWriting none) sar') (hs' : sar'.Sound) :
  Wanes sar sar'
  := by
  have hl := hs.lists
  have hqueued : ∀ k, sar'.queued k = sar.queued k := by
    intro k
    rw [hs.queued]
    cases k <;> rfl
  have hwriting : sar'.writing = none := hs.writing
  have hpacket : ∀ b, sar'.packet b = sar.packet b := hs.packet
  constructor
  · apply hs'
  · constructor
    · intro cid
      rw [hqueued]
      apply hc.out
    · intro b hb
      rw [hwriting] at hb
      cases hb
  · intro b hb
    rw [← hqueued]
    apply hb
  · intro b hb
    rw [hwriting] at hb
    cases hb
  · intro b _
    rw [idAt, idAt, completeAt, completeAt, hpacket]
    exact ⟨rfl, rfl⟩
  · apply hs.nextAddr
  · intro b hb
    apply hb.dropped.of_lists hl

/-- A packet that has left is deallocated. -/
theorem CommandsOnly.wanes_dealloc (hc : sar.CommandsOnly) (hs : sar.Sound)
    (ha : sar.Detached a) :
  Wanes sar (sar.dealloc a)
  := by
  obtain ⟨hwf, hl⟩ := hs.wf.free ha.2.1 ha.2.2
  have hpacket : ∀ b, b ≠ a → (sar.dealloc a).packet b = sar.packet b := by
    intro b hb
    rw [← lists_packet, hl]
    simp [Lists.free, hb]
  have hqueued : ∀ k, (sar.dealloc a).queued k = sar.queued k :=
    fun k => congrFun (congrArg Lists.queued hl) k
  have hcarried : ∀ b, sar.Carries b → b ≠ a := by
    rintro b hb rfl
    apply ha.not_carries hb
  constructor
  · use hwf
    apply hs.pending
  · constructor
    · intro cid
      rw [hqueued]
      apply hc.out
    · intro b hb
      have hne := hcarried b (Or.inl hb)
      obtain ⟨hlt, hout⟩ := hc.writing b hb
      rw [NciSar.Owned, hpacket b hne]
      exact ⟨hlt, hout⟩
  · intro b hb
    rw [← hqueued]
    apply hb
  · intro b hb
    left
    apply hb
  · intro b hb
    have hne : b ≠ a := by
      apply hcarried
      rcases hb with (hb | hb) | hb
      · left
        apply hb
      · right
        rw [← hqueued]
        apply hb
      · left
        apply hb
    rw [idAt, idAt, completeAt, completeAt, hpacket b hne]
    exact ⟨rfl, rfl⟩
  · rfl
  · intro b hb
    rw [detached_iff, hl]
    apply hb

/-- Queues are cleared. -/
theorem Cleared.wanes {K : QueueKey → Prop} (h : Cleared K sar sar') (hs : sar.Sound)
    (hc : sar.CommandsOnly) :
  Wanes sar sar'
  := by
  obtain ⟨hwf, hnil, hkept⟩ := h.spec hs.wf
  have hqueued : ∀ k, ∀ b ∈ sar'.queued k, b ∈ sar.queued k ∧ ¬ K k := by
    intro k b hb
    by_cases hk : K k
    · rw [hnil k hk] at hb
      cases hb
    · rw [hkept k hk] at hb
      exact ⟨hb, hk⟩
  have hpacket : ∀ b, sar'.Carries b ∨ sar.writing = some b → sar'.packet b = sar.packet b := by
    intro b hb
    apply h.packet
    intro k hk hmem
    rcases hb with (hb | hb) | hb
    · rw [h.writing] at hb
      apply (hs.wf.writing b hb).2 k hmem
    · obtain ⟨hb, hnot⟩ := hqueued .cmd b hb
      apply hs.wf.not_mem_of_not hnot hb k hk hmem
    · apply (hs.wf.writing b hb).2 k hmem
  constructor
  · use hwf
    rw [h.writePending, h.writing]
    apply hs.pending
  · constructor
    · intro cid
      apply List.eq_nil_iff_forall_not_mem.mpr
      intro b hb
      obtain ⟨hb, -⟩ := hqueued _ b hb
      rw [hc.out cid] at hb
      cases hb
    · intro b hb
      rw [h.writing] at hb
      rw [NciSar.Owned, h.nextAddr, hpacket b (Or.inr hb)]
      apply hc.writing b hb
  · intro b hb
    apply (hqueued .cmd b hb).1
  · intro b hb
    left
    rw [← h.writing]
    apply hb
  · intro b hb
    rw [idAt, idAt, completeAt, completeAt, hpacket b hb]
    exact ⟨rfl, rfl⟩
  · apply h.nextAddr
  · intro b hb
    apply h.detached hs.wf hb

theorem Wanes.trans (h : Wanes sar sar') (h' : Wanes sar' sar'')
    (hwriting : sar'.writing = sar.writing ∨ sar'.writing = none ∧ sar''.writing = none
      ∧ ∀ a, sar.writing = some a → sar''.packet a = sar'.packet a) :
  Wanes sar sar''
  := by
  constructor
  · apply h'.sound
  · apply h'.commands
  · intro a ha
    apply h.queued a (h'.queued a ha)
  · intro a ha
    apply h.carries (h'.writing a ha)
  · intro a ha
    rcases ha with ha | ha
    · rw [(h'.packet a (Or.inl ha)).1, (h'.packet a (Or.inl ha)).2]
      apply h.packet a (Or.inl (h'.carries ha))
    · rcases hwriting with hsame | ⟨-, -, hpacket⟩
      · rw [(h'.packet a (Or.inr (hsame.trans ha))).1, (h'.packet a (Or.inr (hsame.trans ha))).2]
        apply h.packet a (Or.inr ha)
      · have heq := h.packet a (Or.inr ha)
        rw [← heq.1, ← heq.2, idAt, idAt, completeAt, completeAt, hpacket a ha]
        exact ⟨rfl, rfl⟩
  · rw [h'.nextAddr, h.nextAddr]
  · intro a ha
    apply h'.detached a (h.detached a ha)

end NciSar

end Nci
