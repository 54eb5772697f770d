import LibNciCore.Util.Config

/-!
# When two identifiers are the same

All forms of a dynamic NFCID1 are the same identifier: no bytes, and four bytes the first of which
tells that the others are chosen anew. Any other identifier consists of its bytes.
-/

namespace Nci

/-- The bytes of the identifier. There is room for ten of them. -/
def NciNfcid1.value (id : NciNfcid1) : List UInt8 := id.bytes.take (min id.len.toNat 10)

/-- Identifiers are the same if both are dynamic, or if they have the same length and the same
bytes. -/
inductive SameNfcid1 (id1 id2 : NciNfcid1) : Prop
  | dynamic : nciNfcid1Dynamic id1 = true → nciNfcid1Dynamic id2 = true → SameNfcid1 id1 id2
  | value : id1.len = id2.len → id1.value = id2.value → SameNfcid1 id1 id2

theorem dynamic_iff (id : NciNfcid1) :
  nciNfcid1Dynamic id = true ↔ id.len = 0 ∨ (id.len = 4 ∧ id.bytes.getD 0 0 = 0x08)
  := by simp [nciNfcid1Dynamic]

/-- The first byte belongs to the value, if the value is not empty. -/
theorem getD_value {id : NciNfcid1} (h : id.len = 4) :
  id.value.getD 0 0 = id.bytes.getD 0 0
  := by
  rw [NciNfcid1.value, h]
  cases id.bytes <;> rfl

/-- What has the same length and bytes as a dynamic identifier is dynamic. -/
theorem dynamic_of_value {id1 id2 : NciNfcid1} (hlen : id1.len = id2.len)
    (hvalue : id1.value = id2.value) (h : nciNfcid1Dynamic id1 = true) :
  nciNfcid1Dynamic id2 = true
  := by
  rw [dynamic_iff] at h ⊢
  rcases h with h | ⟨h, hbyte⟩
  · left
    rw [← hlen, h]
  · right
    have h' : id2.len = 4 := hlen ▸ h
    use h'
    rw [← getD_value h', ← hvalue, getD_value h, hbyte]

/-- The comparison tells whether two identifiers are the same. -/
theorem nciNfcid1Equal_iff_same (id1 id2 : NciNfcid1) :
  nciNfcid1Equal id1 id2 = true ↔ SameNfcid1 id1 id2
  := by
  rw [nciNfcid1Equal]
  by_cases hlen : id1.len = id2.len
  · rw [if_pos hlen]
    by_cases hsingle : id1.len = 4 ∧ id1.bytes.getD 0 0 = 0x08
    · rw [if_pos hsingle, beq_iff_eq]
      have hdynamic : nciNfcid1Dynamic id1 = true := (dynamic_iff id1).mpr (Or.inr hsingle)
      constructor
      · intro hbyte
        apply SameNfcid1.dynamic hdynamic
        apply (dynamic_iff id2).mpr
        right
        rw [← hlen, ← hbyte]
        exact hsingle
      · rintro (⟨-, h2⟩ | ⟨-, hvalue⟩)
        · rcases (dynamic_iff id2).mp h2 with h0 | ⟨-, hbyte⟩
          · rw [← hlen, hsingle.1] at h0
            cases h0
          · rw [hsingle.2, hbyte]
        · rw [← getD_value hsingle.1, hvalue, getD_value (hlen ▸ hsingle.1)]
    · rw [if_neg hsingle, beq_iff_eq]
      constructor
      · intro hvalue
        apply SameNfcid1.value hlen
        rw [NciNfcid1.value, NciNfcid1.value, ← hlen]
        exact hvalue
      · rintro (⟨h1, h2⟩ | ⟨-, hvalue⟩)
        · have h0 := ((dynamic_iff id1).mp h1).resolve_right hsingle
          rw [h0]
          rfl
        · rw [NciNfcid1.value, NciNfcid1.value, ← hlen] at hvalue
          exact hvalue
  · rw [if_neg hlen]
    have hdynamic : SameNfcid1 id1 id2
        ↔ nciNfcid1Dynamic id1 = true ∧ nciNfcid1Dynamic id2 = true := by
      constructor
      · rintro (⟨h1, h2⟩ | ⟨heq, -⟩)
        · exact ⟨h1, h2⟩
        · exact absurd heq hlen
      · rintro ⟨h1, h2⟩
        apply SameNfcid1.dynamic h1 h2
    have hzero : ∀ id : NciNfcid1, id.len = 0 → nciNfcid1Dynamic id = true := by
      intro id h
      apply (dynamic_iff id).mpr (Or.inl h)
    rw [hdynamic]
    by_cases h1 : id1.len = 0
    · rw [if_pos h1]
      simp [hzero id1 h1]
    · rw [if_neg h1]
      by_cases h2 : id2.len = 0
      · rw [if_pos h2]
        simp [hzero id2 h2]
      · rw [if_neg h2]
        constructor
        · intro h
          cases h
        · rintro ⟨hd1, hd2⟩
          have hs1 := ((dynamic_iff id1).mp hd1).resolve_left h1
          have hs2 := ((dynamic_iff id2).mp hd2).resolve_left h2
          apply absurd (hs1.1.trans hs2.1.symm) hlen

namespace SameNfcid1

variable {id1 id2 id3 : NciNfcid1}

theorem refl (id : NciNfcid1) :
  SameNfcid1 id id
  := value rfl rfl

theorem symm (h : SameNfcid1 id1 id2) :
  SameNfcid1 id2 id1
  := by
  cases h with
  | dynamic h1 h2 => exact dynamic h2 h1
  | value hlen hvalue => exact value hlen.symm hvalue.symm

/-- The comparison respects being dynamic. -/
theorem dynamic_eq (h : SameNfcid1 id1 id2) :
  nciNfcid1Dynamic id1 = nciNfcid1Dynamic id2
  := by
  cases h with
  | dynamic h1 h2 => rw [h1, h2]
  | value hlen hvalue =>
      apply Bool.eq_iff_iff.mpr
      constructor
      · apply dynamic_of_value hlen hvalue
      · apply dynamic_of_value hlen.symm hvalue.symm

theorem trans (h : SameNfcid1 id1 id2) (h' : SameNfcid1 id2 id3) :
  SameNfcid1 id1 id3
  := by
  cases h with
  | dynamic h1 h2 =>
      apply dynamic h1
      rw [← h'.dynamic_eq]
      exact h2
  | value hlen hvalue =>
      cases h' with
      | dynamic h2 h3 => exact dynamic (dynamic_of_value hlen.symm hvalue.symm h2) h3
      | value hlen' hvalue' => exact value (hlen.trans hlen') (hvalue.trans hvalue')

end SameNfcid1

/-- The comparison is an equivalence. -/
theorem equivalence_nciNfcid1Equal :
  Equivalence fun id1 id2 => nciNfcid1Equal id1 id2 = true
  := by
  constructor
  · intro id
    rw [nciNfcid1Equal_iff_same]
    apply SameNfcid1.refl
  · intro id1 id2 h
    rw [nciNfcid1Equal_iff_same] at h ⊢
    apply h.symm
  · intro id1 id2 id3 h h'
    rw [nciNfcid1Equal_iff_same] at h h' ⊢
    apply h.trans h'

end Nci
