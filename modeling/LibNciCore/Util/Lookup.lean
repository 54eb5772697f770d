import LibNciCore.Lib.Tlv
import LibNciCore.Util.Notification
import Mathlib.Data.Nat.Digits.Defs

/-!
# Looking up configuration parameters

A parameter is looked up in a string of values with type and length. What is found is the first
one with its identifier among the complete ones, and nothing outside of the string is read.
-/

namespace Nci

open Reads

/-- A configuration parameter with its value. -/
abbrev ConfigTlv : Type := Tlv UInt8.toNat

/-! ### Strings in a memory -/

/-- The bytes are found at `base`. -/
def HeldAt (mem : Nat → UInt8) (base : Nat) (bytes : List UInt8) : Prop :=
  ∀ i, (h : i < bytes.length) → mem (base + i) = bytes[i]

variable {mem : Nat → UInt8} {base : Nat}

theorem heldAt_cons {b : UInt8} {bytes : List UInt8} :
  HeldAt mem base (b :: bytes) ↔ mem base = b ∧ HeldAt mem (base + 1) bytes
  := by
  constructor
  · intro h
    use h 0 (Nat.succ_pos _)
    intro i hi
    rw [Nat.add_assoc, Nat.add_comm 1 i]
    exact h (i + 1) (Nat.succ_lt_succ hi)
  · rintro ⟨hb, h⟩ i hi
    cases i with
    | zero => exact hb
    | succ i =>
        have hbyte := h i (Nat.lt_of_succ_lt_succ hi)
        rw [Nat.add_assoc, Nat.add_comm 1 i] at hbyte
        exact hbyte

theorem heldAt_append {bytes rest : List UInt8} :
  HeldAt mem base (bytes ++ rest)
    ↔ HeldAt mem base bytes ∧ HeldAt mem (base + bytes.length) rest
  := by
  induction bytes generalizing base with
  | nil => simp [HeldAt]
  | cons b bytes ih =>
      rw [List.cons_append, heldAt_cons, ih, heldAt_cons, and_assoc, List.length_cons,
        Nat.add_comm bytes.length 1, Nat.add_assoc]

/-- The bytes that are found are the ones that are read. -/
theorem HeldAt.value_bytes {bytes : List UInt8} (h : HeldAt mem base bytes) :
  (Reads.bytes base bytes.length).value mem = bytes
  := by
  rw [Reads.value_bytes]
  apply List.ext_getElem
  · simp
  · intro i _ hi
    rw [List.getElem_map, List.getElem_range, h i hi]

/-- A part of a memory. -/
theorem heldAt_memory (before bytes after : List UInt8) :
  HeldAt (memory (before ++ (bytes ++ after))) before.length bytes
  := by
  intro i hi
  rw [memory_append_right, memory_append_left after hi, memory, List.getD_eq_getElem?_getD,
    List.getElem?_eq_getElem hi, Option.getD_some]

/-! ### Where a value is -/

/-- The view of the first value of a type, if the values start at `base`. -/
def locate (type : UInt8) : List ConfigTlv → Nat → Option GUtilData
  | t :: ts, base =>
      if t.type = type then some ⟨some (base + 2), t.value.length⟩
      else locate type ts (base + t.encode.length)
  | [], _ => none

/-- What is located is what is looked up. -/
theorem locate_spec (type : UInt8) (ts : List ConfigTlv) (base : Nat) :
  (locate type ts base = none ∧ Tlv.lookup type ts = none)
    ∨ ∃ before t after, ts = before ++ t :: after ∧ t.type = type
      ∧ (∀ s ∈ before, s.type ≠ type) ∧ Tlv.lookup type ts = some t.value
      ∧ locate type ts base
        = some ⟨some (base + (Tlv.encodeAll before).length + 2), t.value.length⟩
  := by
  induction ts generalizing base with
  | nil =>
      left
      exact ⟨rfl, rfl⟩
  | cons t ts ih =>
      rw [locate]
      by_cases ht : t.type = type
      · right
        refine ⟨[], t, ts, rfl, ht, by simp, ?_, ?_⟩
        · rw [← ht]
          apply Tlv.lookup_cons_self
        · rw [if_pos ht]
          rfl
      · rw [if_neg ht, Tlv.lookup_cons_of_ne ht]
        rcases ih (base + t.encode.length) with
          hnone | ⟨before, s, after, hts, hs, hbefore, hlookup, hlocate⟩
        · left
          exact hnone
        · right
          refine ⟨t :: before, s, after, ?_, hs, ?_, hlookup, ?_⟩
          · rw [hts]
            rfl
          · intro r hr
            rcases List.mem_cons.mp hr with rfl | hr
            · exact ht
            · exact hbefore r hr
          · rw [hlocate, Tlv.encodeAll_cons, List.length_append, Nat.add_assoc base]

/-- The lookup reads only the string, and gives the view of the first value of the type among those
that are complete. -/
theorem ensures_findConfigParam {params : List UInt8} (h : HeldAt mem base params) (id : UInt8)
    (n : Nat) :
  (nciParseFindConfigParam id n base (base + params.length)).Ensures mem base params.length
    (· = locate id (Tlv.scan n params) base)
  := by
  induction n generalizing base params with
  | zero => exact ensures_pure rfl
  | succ n ih =>
      rw [nciParseFindConfigParam, Tlv.scan]
      rcases params with _ | ⟨type, _ | ⟨len, rest⟩⟩
      · rw [if_neg (by simp)]
        exact ensures_pure rfl
      · rw [if_neg (by simp)]
        exact ensures_pure rfl
      · obtain ⟨htype, hheld⟩ := heldAt_cons.mp h
        obtain ⟨hlen, hheld⟩ := heldAt_cons.mp hheld
        have hlength : (type :: len :: rest).length = rest.length + 2 := rfl
        rw [if_pos (by rw [hlength]; omega)]
        apply ensures_byte (Nat.le_add_right _ _) (by rw [hlength]; omega)
        rw [hlen]
        by_cases hfits : len.toNat ≤ rest.length
        · have hfirst : (Tlv.first (type :: len :: rest) : Option (ConfigTlv × List UInt8))
              = some (⟨type, len, rest.take len.toNat, List.length_take_of_le hfits⟩,
                  rest.drop len.toNat) := dif_pos hfits
          have hfits' : base + 2 + len.toNat ≤ base + (type :: len :: rest).length := by
            rw [hlength]
            omega
          rw [if_pos hfits', hfirst]
          apply ensures_byte (Nat.le_refl _) (by rw [hlength]; omega)
          rw [htype, locate]
          apply ensures_ite
          · intro hid
            apply ensures_pure
            rw [if_pos hid, List.length_take_of_le hfits]
          · intro hid
            have hend : base + (type :: len :: rest).length
                = base + 2 + len.toNat + (rest.drop len.toNat).length := by
              rw [hlength, List.length_drop]
              omega
            have hencode : base + 2 + len.toNat
                = base + (Tlv.encode (⟨type, len, rest.take len.toNat,
                    List.length_take_of_le hfits⟩ : ConfigTlv)).length := by
              rw [Tlv.length_encode, Nat.add_assoc, Nat.add_comm 2]
            have hrest : HeldAt mem (base + 2 + len.toNat) (rest.drop len.toNat) := by
              rw [← List.take_append_drop len.toNat rest] at hheld
              have hdrop := (heldAt_append.mp hheld).2
              rw [List.length_take_of_le hfits] at hdrop
              exact hdrop
            have hih := ih hrest
            rw [if_neg hid, ← hencode, hend]
            apply hih.mono (by omega) (by omega)
        · have hfirst : (Tlv.first (type :: len :: rest) : Option (ConfigTlv × List UInt8))
              = none := dif_neg hfits
          have hfits' : ¬base + 2 + len.toNat ≤ base + (type :: len :: rest).length := by
            rw [hlength]
            omega
          rw [if_neg hfits', hfirst]
          exact ensures_pure rfl

/-! ### What is read of a value -/

/-- A value that is read from the string is found in the string. -/
theorem heldAt_scanned {params : List UInt8} (h : HeldAt mem base params) {n : Nat}
    {before after : List ConfigTlv} {t : ConfigTlv}
    (hts : Tlv.scan n params = before ++ t :: after) :
  base + (Tlv.encodeAll before).length + 2 + t.value.length ≤ base + params.length
    ∧ HeldAt mem (base + (Tlv.encodeAll before).length + 2) t.value
  := by
  obtain ⟨rest, hparams, -⟩ := @Tlv.scan_spec UInt8 UInt8.toNat n params
  have hsplit : params = Tlv.encodeAll before
      ++ ([t.type, t.len] ++ (t.value ++ (Tlv.encodeAll after ++ rest))) := by
    rw [hparams, hts]
    simp [Tlv.encode]
  have hlength := congrArg List.length hsplit
  simp only [List.length_append, List.length_cons, List.length_nil] at hlength
  constructor
  · omega
  · rw [hsplit] at h
    exact (heldAt_append.mp (heldAt_append.mp (heldAt_append.mp h).2).2).1

/-- The value of the first parameter of a type, after it has been read. -/
theorem ensures_found {α : Type} {params : List UInt8} (h : HeldAt mem base params) (id : UInt8)
    (n : Nat) {f : Nat → Nat → Reads (Option α)} {g : List UInt8 → Option α}
    (hf : ∀ i value, HeldAt mem i value → base ≤ i → i + value.length ≤ base + params.length →
      (f i value.length).Ensures mem base params.length (· = g value)) :
  (nciParseFindConfigParam id n base (base + params.length) >>= fun data =>
      match data with
      | some ⟨some i, size⟩ => f i size
      | _ => pure none).Ensures mem base params.length
    (· = (Tlv.lookup id (Tlv.scan n params : List ConfigTlv)).bind g)
  := by
  obtain ⟨hwithin, hvalue⟩ := ensures_findConfigParam h id n
  apply ensures_bind hwithin
  rw [hvalue]
  rcases locate_spec id (Tlv.scan n params) base with
    ⟨hlocate, hlookup⟩ | ⟨before, t, after, hts, -, -, hlookup, hlocate⟩
  · rw [hlocate, hlookup]
    exact ensures_pure rfl
  · obtain ⟨hle, hheld⟩ := heldAt_scanned h hts
    rw [hlocate, hlookup, Option.bind_some]
    apply hf _ _ hheld _ hle
    omega

variable {params : List UInt8} (h : HeldAt mem base params) (id : UInt8) (n : Nat)

include h

/-- A value of one to four bytes is a number. -/
theorem ensures_configParamUint :
  (nciParseConfigParamUint id n base (base + params.length)).Ensures mem base params.length
    (· = (Tlv.lookup id (Tlv.scan n params : List ConfigTlv)).bind fun value =>
        if 0 < value.length ∧ value.length ≤ 4 then some (value.length, littleEndian value)
        else none)
  := by
  apply ensures_found h
  intro i value hvalue hlow hhigh
  apply ensures_ite
  · intro hsize
    apply ensures_bytes hlow hhigh
    rw [hvalue.value_bytes]
    exact ensures_pure (if_pos hsize).symm
  · intro hsize
    exact ensures_pure (if_neg hsize).symm

/-- A value of four, seven or ten bytes is an identifier. -/
theorem ensures_configParamNfcid1 :
  (nciParseConfigParamNfcid1 id n base (base + params.length)).Ensures mem base params.length
    (· = (Tlv.lookup id (Tlv.scan n params : List ConfigTlv)).bind fun value =>
        if value.length = 4 ∨ value.length = 7 ∨ value.length = 10 then
          some ⟨UInt8.ofNat value.length, value ++ List.replicate (10 - value.length) 0⟩
        else none)
  := by
  apply ensures_found h
  intro i value hvalue hlow hhigh
  apply ensures_ite
  · intro hsize
    apply ensures_bytes hlow hhigh
    rw [hvalue.value_bytes]
    exact ensures_pure (if_pos hsize).symm
  · intro hsize
    exact ensures_pure (if_neg hsize).symm

omit h

/-! ### A string of its own -/

theorem heldAt_zero (params : List UInt8) :
  HeldAt (memory params) 0 params
  := by
  have hheld := heldAt_memory [] params []
  rw [List.append_nil] at hheld
  exact hheld

variable (id : UInt8) (n : Nat) (params : List UInt8)

/-- A value is found where it stands in the string. -/
theorem findConfigParam_value :
  ((nciParseFindConfigParam id n 0 params.length).value (memory params) = none
      ∧ Tlv.lookup id (Tlv.scan n params : List ConfigTlv) = none)
    ∨ ∃ i value, (nciParseFindConfigParam id n 0 params.length).value (memory params)
          = some ⟨some i, value.length⟩
        ∧ Tlv.lookup id (Tlv.scan n params : List ConfigTlv) = some value
        ∧ (params.drop i).take value.length = value
  := by
  have hfind := (ensures_findConfigParam (heldAt_zero params) id n).value
  rw [Nat.zero_add] at hfind
  rw [hfind]
  rcases locate_spec id (Tlv.scan n params) 0 with
    hnone | ⟨before, t, after, hts, -, -, hlookup, hlocate⟩
  · left
    exact hnone
  · right
    obtain ⟨rest, hparams, -⟩ := @Tlv.scan_spec UInt8 UInt8.toNat n params
    have hsplit : params = (Tlv.encodeAll before ++ [t.type, t.len])
        ++ (t.value ++ (Tlv.encodeAll after ++ rest)) := by
      rw [hparams, hts]
      simp [Tlv.encode]
    have hlength : 0 + (Tlv.encodeAll before).length + 2
        = (Tlv.encodeAll before ++ [t.type, t.len]).length := by
      rw [List.length_append, Nat.zero_add]
      rfl
    refine ⟨_, t.value, hlocate, hlookup, ?_⟩
    rw [hlength, hsplit, List.drop_left, List.take_left]

/-- A value of one to four bytes is a number. -/
theorem configParamUint_value :
  (nciParseConfigParamUint id n 0 params.length).value (memory params)
    = (Tlv.lookup id (Tlv.scan n params : List ConfigTlv)).bind fun value =>
        if 0 < value.length ∧ value.length ≤ 4 then some (value.length, littleEndian value)
        else none
  := by
  have hvalue := (ensures_configParamUint (heldAt_zero params) id n).value
  rw [Nat.zero_add] at hvalue
  exact hvalue

/-- A value of four, seven or ten bytes is an identifier. -/
theorem configParamNfcid1_value :
  (nciParseConfigParamNfcid1 id n 0 params.length).value (memory params)
    = (Tlv.lookup id (Tlv.scan n params : List ConfigTlv)).bind fun value =>
        if value.length = 4 ∨ value.length = 7 ∨ value.length = 10 then
          some ⟨UInt8.ofNat value.length, value ++ List.replicate (10 - value.length) 0⟩
        else none
  := by
  have hvalue := (ensures_configParamNfcid1 (heldAt_zero params) id n).value
  rw [Nat.zero_add] at hvalue
  exact hvalue

/-! ### Numbers -/

/-- Up to four bytes are a number in base 256. -/
theorem toNat_littleEndian {value : List UInt8} (h : value.length ≤ 4) :
  (littleEndian value).toNat = Nat.ofDigits 256 (value.map UInt8.toNat)
  := by
  induction value with
  | nil => rfl
  | cons b value ih =>
      have hlength : value.length ≤ 3 := Nat.le_of_succ_le_succ h
      have hbound : Nat.ofDigits 256 (value.map UInt8.toNat) < 256 ^ 3 := by
        have hdigits : ∀ d ∈ value.map UInt8.toNat, d < 256 := by
          intro d hd
          obtain ⟨b, -, rfl⟩ := List.mem_map.mp hd
          exact b.toNat_lt
        have hlt := Nat.ofDigits_lt_base_pow_length (by decide) hdigits
        rw [List.length_map] at hlt
        exact Nat.lt_of_lt_of_le hlt (Nat.pow_le_pow_right (by decide) hlength)
      have hcons : littleEndian (b :: value) = b.toUInt32 + (littleEndian value <<< 8) := rfl
      have hb := b.toNat_lt
      rw [hcons, UInt32.toNat_add, UInt32.toNat_shiftLeft, ih (Nat.le_succ_of_le hlength),
        List.map_cons, Nat.ofDigits_cons, UInt8.toNat_toUInt32, Nat.shiftLeft_eq]
      have h8 : (8 : UInt32).toNat % 32 = 8 := rfl
      rw [h8]
      omega

end Nci
