import Mathlib.Data.Nat.Count

/-!
# Counting

The numbers below a bound that have a property are counted by `Nat.count`. Where the property
changes, the count changes by the number of those that gain or lose it.
-/

namespace Counting

variable {n a : Nat} {p q r : Nat → Prop} [DecidablePred p] [DecidablePred q] [DecidablePred r]

theorem count_congr (h : ∀ k < n, p k ↔ q k) :
  Nat.count p n = Nat.count q n
  := Nat.le_antisymm (Nat.count_mono_left fun k hk => (h k hk).mp)
      (Nat.count_mono_left fun k hk => (h k hk).mpr)

/-- The numbers with one of two properties that exclude each other. -/
theorem count_split (h : ∀ k < n, p k ↔ q k ∨ r k) (hdisjoint : ∀ k < n, q k → ¬ r k) :
  Nat.count p n = Nat.count q n + Nat.count r n
  := by
  induction n with
  | zero => rfl
  | succ n ih =>
      have hstep := ih (fun k hk => h k (Nat.lt_succ_of_lt hk))
        fun k hk => hdisjoint k (Nat.lt_succ_of_lt hk)
      have hlast := h n (Nat.lt_succ_self n)
      have hnot := hdisjoint n (Nat.lt_succ_self n)
      rw [Nat.count_succ, Nat.count_succ, Nat.count_succ, hstep]
      by_cases hq : q n
      · rw [if_pos (hlast.mpr (Or.inl hq)), if_pos hq, if_neg (hnot hq)]
        omega
      · by_cases hr : r n
        · rw [if_pos (hlast.mpr (Or.inr hr)), if_neg hq, if_pos hr]
          omega
        · rw [if_neg fun hp => (hlast.mp hp).elim hq hr, if_neg hq, if_neg hr]
          omega

theorem count_eq (ha : a < n) :
  Nat.count (fun k => k = a) n = 1
  := by
  induction n with
  | zero => cases ha
  | succ n ih =>
      rw [Nat.count_succ]
      by_cases hn : n = a
      · rw [if_pos hn, hn, Nat.count_of_forall_not]
        exact fun k hk => Nat.ne_of_lt hk
      · rw [if_neg hn, ih (Nat.lt_of_le_of_ne (Nat.le_of_lt_succ ha) (Ne.symm hn))]

/-- One number loses the property. -/
theorem count_remove (ha : a < n) (hp : p a) (h : ∀ k < n, q k ↔ p k ∧ k ≠ a) :
  Nat.count p n = Nat.count q n + 1
  := by
  rw [count_split (q := q) (r := fun k => k = a), count_eq ha]
  · intro k hk
    rw [h k hk]
    constructor
    · intro hpk
      by_cases hka : k = a
      · exact Or.inr hka
      · exact Or.inl ⟨hpk, hka⟩
    · rintro (⟨hpk, -⟩ | rfl)
      · exact hpk
      · exact hp
  · intro k hk hq
    exact ((h k hk).mp hq).2

theorem count_pos (ha : a < n) (hp : p a) :
  0 < Nat.count p n
  := Nat.pos_of_ne_zero (Nat.count_ne_iff_exists.mpr ⟨a, ha, hp⟩)

end Counting
