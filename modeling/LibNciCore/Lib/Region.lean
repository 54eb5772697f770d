import Mathlib.Data.List.Basic
import Mathlib.Order.Nat

/-!
# Regions

A region is a number of consecutive addresses. Regions that are carved out of a block one after
another lie in the block, and have no address in common.
-/

/-- Consecutive addresses. -/
structure Region where
  start : Nat
  size : Nat
  deriving DecidableEq, Repr

namespace Region

/-- The first address behind the region. -/
def stop (r : Region) : Nat := r.start + r.size

instance : Membership Nat Region := ⟨fun r i => r.start ≤ i ∧ i < r.stop⟩

theorem mem_iff {r : Region} {i : Nat} :
  i ∈ r ↔ r.start ≤ i ∧ i < r.start + r.size
  := Iff.rfl

/-- The regions have no address in common. -/
def Apart (r r' : Region) : Prop := ∀ i ∈ r, i ∉ r'

/-- The region is a part of another one. -/
def Inside (r r' : Region) : Prop := r'.start ≤ r.start ∧ r.stop ≤ r'.stop

theorem Inside.mem {r r' : Region} (h : r.Inside r') {i : Nat} (hi : i ∈ r) :
  i ∈ r'
  := ⟨h.1.trans hi.1, hi.2.trans_le h.2⟩

theorem Apart.symm {r r' : Region} (h : r.Apart r') :
  r'.Apart r
  := fun i hi hi' => h i hi' hi

theorem apart_of_le {r r' : Region} (h : r.stop ≤ r'.start) :
  r.Apart r'
  := by
  rintro i ⟨-, hi⟩ ⟨hi', -⟩
  exact absurd (hi.trans_le (h.trans hi')) (Nat.lt_irrefl i)

/-- Regions that follow one another between two addresses, perhaps with gaps. -/
def Packed : Nat → List Region → Nat → Prop
  | i, [], j => i ≤ j
  | i, r :: rs, j => i ≤ r.start ∧ Packed r.stop rs j

section

variable {i i' j j' k : Nat} {rs rs' : List Region}

theorem Packed.le (h : Packed i rs j) :
  i ≤ j
  := by
  induction rs generalizing i with
  | nil => exact h
  | cons r rs ih =>
      have hr : i ≤ r.stop := h.1.trans (Nat.le_add_right r.start r.size)
      exact hr.trans (ih h.2)

theorem Packed.append (h : Packed i rs j) (h' : Packed j rs' k) :
  Packed i (rs ++ rs') k
  := by
  induction rs generalizing i with
  | nil =>
      cases rs' with
      | nil => exact Nat.le_trans h h'
      | cons r rs' => exact ⟨Nat.le_trans h h'.1, h'.2⟩
  | cons r rs ih => exact ⟨h.1, ih h.2⟩

/-- More room at both ends. -/
theorem Packed.mono (h : Packed i rs j) (hi : i' ≤ i) (hj : j ≤ j') :
  Packed i' rs j'
  := by
  have hstart : Packed i' [] i := hi
  have hend : Packed j [] j' := hj
  have happend := (hstart.append h).append hend
  rw [List.append_nil] at happend
  exact happend

/-- Packed regions lie between the two addresses. -/
theorem Packed.inside (h : Packed i rs j) {r : Region} (hr : r ∈ rs) :
  i ≤ r.start ∧ r.stop ≤ j
  := by
  induction rs generalizing i with
  | nil => cases hr
  | cons r' rs ih =>
      rcases List.mem_cons.mp hr with rfl | hr
      · exact ⟨h.1, h.2.le⟩
      · have hle : i ≤ r'.stop := h.1.trans (Nat.le_add_right r'.start r'.size)
        obtain ⟨hstart, hstop⟩ := ih h.2 hr
        exact ⟨hle.trans hstart, hstop⟩

/-- Packed regions have no address in common. -/
theorem Packed.apart (h : Packed i rs j) :
  rs.Pairwise Apart
  := by
  induction rs generalizing i with
  | nil => exact List.Pairwise.nil
  | cons r rs ih =>
      apply List.Pairwise.cons
      · intro r' hr'
        exact apart_of_le (h.2.inside hr').1
      · exact ih h.2

end

end Region
