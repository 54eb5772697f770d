import LibNciCore.Util.Nfcid1
import LibNciCore.Sm.Run
import Mathlib.Data.List.DropRight

/-!
# The parameters of the machine and their defaults

The identifier and the historical bytes that the machine presents when it listens can be set, and
can be set back to defaults, which come from a configuration file. The strings in the file are
decoded by a function that is given.
-/

namespace Nci

/-! ### Arrays -/

/-- An array of `n` bytes, the first of which are given. -/
def zeroPadded (n : Nat) (bytes : List UInt8) : List UInt8 :=
  bytes ++ List.replicate (n - bytes.length) 0

theorem length_zeroPadded {n : Nat} {bytes : List UInt8} (h : bytes.length ≤ n) :
  (zeroPadded n bytes).length = n
  := by
  rw [zeroPadded, List.length_append, List.length_replicate, Nat.add_sub_cancel' h]

theorem take_zeroPadded (n : Nat) (bytes : List UInt8) :
  (zeroPadded n bytes).take bytes.length = bytes
  := List.take_left

theorem drop_zeroPadded (n : Nat) (bytes : List UInt8) :
  (zeroPadded n bytes).drop bytes.length = List.replicate (n - bytes.length) 0
  := List.drop_left

/-- The array after bytes have been copied to its beginning. -/
def copied (bytes array : List UInt8) : List UInt8 := bytes ++ array.drop bytes.length

/-- The array after `n` bytes from `i` on have been cleared, as far as they belong to it. -/
def cleared (i n : Nat) (array : List UInt8) : List UInt8 :=
  array.take i ++ List.replicate (min n (array.length - i)) 0 ++ array.drop (i + n)

/-! ### Setting the parameters -/

/-- The machine with the defaults of its parameters. -/
structure NciSmObject where
  sm : NciSm
  defaultLaNfcid1 : NciNfcid1
  defaultLiAHb : NciAtsHb

/-- Sets the identifier to another one, or to its default. -/
def nciSmSetLaNfcid1 (nfcid1 : Option NciNfcid1) (self : NciSmObject) : NciSmObject :=
  match nfcid1 with
  | some nfcid1 =>
      if nfcid1.len = 0 ∨ nfcid1.len = 4 ∨ nfcid1.len = 7 ∨ nfcid1.len = 10 then
        if nciNfcid1Equal nfcid1 self.sm.laNfcid1 then self
        else
          let len := if nciNfcid1Dynamic nfcid1 then 0 else nfcid1.len
          let out : NciNfcid1 := ⟨len, zeroPadded 10 (nfcid1.bytes.take len.toNat)⟩
          { self with sm := { self.sm with laNfcid1 := out } }
      else self
  | none => { self with sm := { self.sm with laNfcid1 := self.defaultLaNfcid1 } }

/-- Sets the historical bytes, or sets them back to their default. -/
def nciSmSetLiAHb (hb : Option NciAtsHb) (self : NciSmObject) : NciSmObject :=
  match hb with
  | some hb =>
      let len := min hb.len 15
      let out : NciAtsHb := ⟨len, zeroPadded 15 (hb.bytes.take len.toNat)⟩
      { self with sm := { self.sm with liAHb := out } }
  | none => { self with sm := { self.sm with liAHb := self.defaultLiAHb } }

/-! ### The configuration file -/

/-- The strings in the configuration file. -/
structure NciSmConfig where
  technologies : Option (List Char)
  laNfcid1 : Option (List Char)
  liAHb : Option (List Char)

/-- Blanks and the like, and the ends of lines. -/
def isSpace (c : Char) : Bool := c == ' ' || (9 ≤ c.toNat && c.toNat ≤ 13)

/-- A string without the blanks around it. -/
def strip (sval : List Char) : List Char := (sval.dropWhile isSpace).rdropWhile isSpace

/-- The names of technologies. -/
def nciTechOptions : List (String × UInt32) :=
  [("A", nciTechA), ("B", nciTechB), ("F", nciTechF), ("V", nciTechV),
    ("Poll-A", nciTechAPoll), ("Poll-B", nciTechBPoll), ("Poll-F", nciTechFPoll),
    ("Poll-V", nciTechVPoll), ("Listen-A", nciTechAListen), ("Listen-B", nciTechBListen),
    ("Listen-F", nciTechFListen), ("Listen-V", nciTechVListen)]

/-- The technologies with a name, in which case does not matter. A name that is not known stands
for none. -/
def techOption (val : List Char) : UInt32 :=
  ((nciTechOptions.find? fun opt => opt.1.toList.map Char.toLower == val.map Char.toLower).map
    Prod.snd).getD 0

/-- Technologies separated by semicolons and commas. If there are none, it is the default ones. -/
def nciSmParseTechnologies (sval : List Char) (self : NciSmObject) : NciSmObject :=
  let techs := (sval.splitOnP fun c => c == ';' || c == ',').foldl
    (fun techs val => techs ||| techOption (strip val)) 0
  { self with sm := { self.sm with techs := if techs = 0 then nciTechDefault else techs } }

section

variable (hex2bin : List Char → Option (List UInt8))

/-- LA_NFCID1. A string of no digits stands for a dynamic identifier. What may have been written
before an error is cleared. -/
def nciSmParseLaNfcid1 (sval : List Char) (self : NciSmObject) : NciSmObject :=
  let sval := strip sval
  let empty : NciNfcid1 := ⟨0, zeroPadded 10 []⟩
  if sval.length = 0 then { self with defaultLaNfcid1 := empty }
  else if sval.length = 8 ∨ sval.length = 14 ∨ sval.length = 20 then
    match hex2bin sval with
    | some bytes =>
        let nfcid1 : NciNfcid1 :=
          ⟨UInt8.ofNat (sval.length / 2), copied bytes self.defaultLaNfcid1.bytes⟩
        { self with defaultLaNfcid1 := nfcid1, sm := { self.sm with laNfcid1 := nfcid1 } }
    | none => { self with defaultLaNfcid1 := empty }
  else self

/-- How many bytes are cleared behind the historical bytes, in the arithmetic of sizes. It is the
number of digits that is subtracted. -/
def liAHbClearSize (len : Nat) : UInt64 := 15 - UInt64.ofNat len

/-- LI_A_HB. There is room for fifteen bytes. -/
def nciSmParseLiAHb (sval : List Char) (self : NciSmObject) : NciSmObject :=
  let sval := strip sval
  if sval.length ≤ 30 then
    match hex2bin sval with
    | some bytes =>
        let len := sval.length / 2
        let out := copied (bytes.take len) self.defaultLiAHb.bytes
        let out := if len < 15 then cleared len (liAHbClearSize sval.length).toNat out else out
        { self with defaultLiAHb := ⟨UInt8.ofNat len, out⟩ }
    | none => self
  else self

/-- An entry of the configuration file is parsed, if it is there. -/
def parseEntry (parse : List Char → NciSmObject → NciSmObject) (sval : Option (List Char))
    (self : NciSmObject) : NciSmObject :=
  match sval with
  | some sval => parse sval self
  | none => self

def nciSmParseConfig (config : NciSmConfig) (self : NciSmObject) : NciSmObject :=
  parseEntry (nciSmParseLiAHb hex2bin) config.liAHb
    (parseEntry (nciSmParseLaNfcid1 hex2bin) config.laNfcid1
      (parseEntry nciSmParseTechnologies config.technologies self))

end

/-- A new machine, before the configuration file is read. -/
def nciSmObjectNew : NciSmObject where
  sm := nciSmNew nciTechDefault ⟨0, zeroPadded 10 []⟩ ⟨0, zeroPadded 15 []⟩
  defaultLaNfcid1 := ⟨0, zeroPadded 10 []⟩
  defaultLiAHb := ⟨0, zeroPadded 15 []⟩

/-! ### The identifier -/

/-- An identifier as it is stored: it has one of the possible lengths, and there are only zeros
behind it. -/
structure NciNfcid1.Normal (id : NciNfcid1) : Prop where
  len : id.len = 0 ∨ id.len = 4 ∨ id.len = 7 ∨ id.len = 10
  length_bytes : id.bytes.length = 10
  zeros : ∀ b ∈ id.bytes.drop id.len.toNat, b = 0

theorem normal_zeroPadded {len : UInt8} {bytes : List UInt8}
    (hlen : len = 0 ∨ len = 4 ∨ len = 7 ∨ len = 10) (hbytes : bytes.length = len.toNat) :
  NciNfcid1.Normal ⟨len, zeroPadded 10 bytes⟩
  := by
  have hle : len.toNat ≤ 10 := by
    rcases hlen with rfl | rfl | rfl | rfl <;> decide
  constructor
  · exact hlen
  · apply length_zeroPadded
    rw [hbytes]
    exact hle
  · intro b hb
    dsimp only at hb
    rw [← hbytes, drop_zeroPadded] at hb
    exact List.eq_of_mem_replicate hb

/-- The length that is stored is one of the possible ones. -/
theorem storedLen {id : NciNfcid1} (h : id.len = 0 ∨ id.len = 4 ∨ id.len = 7 ∨ id.len = 10) :
  (if nciNfcid1Dynamic id then 0 else id.len) = 0 ∨ (if nciNfcid1Dynamic id then 0 else id.len) = 4
    ∨ (if nciNfcid1Dynamic id then 0 else id.len) = 7
    ∨ (if nciNfcid1Dynamic id then 0 else id.len) = 10
  := by
  split
  · left
    rfl
  · exact h

/-- What is stored of an identifier is the same identifier. -/
theorem sameNfcid1_stored {id : NciNfcid1} (hlen : id.len.toNat ≤ id.bytes.length)
    (hten : id.len.toNat ≤ 10) :
  SameNfcid1 ⟨if nciNfcid1Dynamic id then 0 else id.len,
    zeroPadded 10 (id.bytes.take (if nciNfcid1Dynamic id then 0 else id.len).toNat)⟩ id
  := by
  by_cases hdynamic : nciNfcid1Dynamic id = true
  · rw [if_pos hdynamic]
    apply SameNfcid1.dynamic _ hdynamic
    rfl
  · rw [if_neg hdynamic]
    have htake : (id.bytes.take id.len.toNat).length = id.len.toNat := List.length_take_of_le hlen
    have hvalue : NciNfcid1.value ⟨id.len, zeroPadded 10 (id.bytes.take id.len.toNat)⟩
        = id.value := by
      have hpadded := take_zeroPadded 10 (id.bytes.take id.len.toNat)
      rw [htake] at hpadded
      rw [NciNfcid1.value, NciNfcid1.value, Nat.min_eq_left hten]
      exact hpadded
    exact SameNfcid1.value rfl hvalue

/-- The stored identifier and its default are as they should be. -/
structure NciSmObject.Normal (obj : NciSmObject) : Prop where
  laNfcid1 : obj.sm.laNfcid1.Normal
  defaultLaNfcid1 : obj.defaultLaNfcid1.Normal

/-- The possible lengths leave room for the bytes. -/
theorem len_le_ten {id : NciNfcid1} (h : id.len = 0 ∨ id.len = 4 ∨ id.len = 7 ∨ id.len = 10) :
  id.len.toNat ≤ 10
  := by
  rcases h with h | h | h | h <;> rw [h] <;> decide

theorem NciSmObject.Normal.setLaNfcid1 {self : NciSmObject} (h : self.Normal)
    {nfcid1 : Option NciNfcid1} (hbytes : ∀ id ∈ nfcid1, id.bytes.length = 10) :
  (nciSmSetLaNfcid1 nfcid1 self).Normal
  := by
  cases nfcid1 with
  | none => exact ⟨h.defaultLaNfcid1, h.defaultLaNfcid1⟩
  | some id =>
      rw [nciSmSetLaNfcid1]
      dsimp only
      split
      · rename_i hlen
        split
        · exact h
        · refine ⟨?_, h.defaultLaNfcid1⟩
          apply normal_zeroPadded (storedLen hlen)
          rw [List.length_take_of_le]
          rw [hbytes id rfl]
          split
          · apply Nat.zero_le
          · apply len_le_ten hlen
      · exact h

/-- What is set is stored, if it has one of the possible lengths. -/
theorem nciNfcid1Equal_setLaNfcid1 (self : NciSmObject) {id : NciNfcid1}
    (hlen : id.len = 0 ∨ id.len = 4 ∨ id.len = 7 ∨ id.len = 10) (hbytes : id.bytes.length = 10) :
  nciNfcid1Equal (nciSmSetLaNfcid1 (some id) self).sm.laNfcid1 id = true
  := by
  rw [nciNfcid1Equal_iff_same, nciSmSetLaNfcid1]
  dsimp only
  rw [if_pos hlen]
  split
  · rename_i hequal
    apply ((nciNfcid1Equal_iff_same _ _).mp hequal).symm
  · apply sameNfcid1_stored _ (len_le_ten hlen)
    rw [hbytes]
    apply len_le_ten hlen

/-- The comparison is an equivalence. It identifies all dynamic identifiers, and otherwise those
with the same length and bytes. Setting an identifier stores it in its normal form if it has one of
the possible lengths, and changes nothing if it has not. -/
theorem nfcid1Equality :
  Equivalence (fun id1 id2 => nciNfcid1Equal id1 id2 = true)
    ∧ (∀ id1 id2 : NciNfcid1, id1.len ≤ 10 → id2.len ≤ 10 →
      (nciNfcid1Equal id1 id2 = true
        ↔ (nciNfcid1Dynamic id1 = true ∧ nciNfcid1Dynamic id2 = true)
          ∨ (id1.len = id2.len
            ∧ id1.bytes.take id1.len.toNat = id2.bytes.take id2.len.toNat)))
    ∧ (∀ id1 id2 : NciNfcid1, nciNfcid1Equal id1 id2 = true →
      nciNfcid1Dynamic id1 = nciNfcid1Dynamic id2)
    ∧ (∀ (self : NciSmObject) (nfcid1 : Option NciNfcid1), self.Normal →
      (∀ id ∈ nfcid1, id.bytes.length = 10) → (nciSmSetLaNfcid1 nfcid1 self).Normal)
    ∧ (∀ (self : NciSmObject) (id : NciNfcid1), id.bytes.length = 10 →
      (id.len = 0 ∨ id.len = 4 ∨ id.len = 7 ∨ id.len = 10) →
      nciNfcid1Equal (nciSmSetLaNfcid1 (some id) self).sm.laNfcid1 id = true)
    ∧ ∀ (self : NciSmObject) (id : NciNfcid1),
      ¬(id.len = 0 ∨ id.len = 4 ∨ id.len = 7 ∨ id.len = 10) →
      nciSmSetLaNfcid1 (some id) self = self
  := by
  constructor
  · exact equivalence_nciNfcid1Equal
  constructor
  · intro id1 id2 h1 h2
    have hvalue : ∀ id : NciNfcid1, id.len ≤ 10 → id.value = id.bytes.take id.len.toNat := by
      intro id h
      have hten : id.len.toNat ≤ 10 := UInt8.le_iff_toNat_le.mp h
      rw [NciNfcid1.value, Nat.min_eq_left hten]
    rw [nciNfcid1Equal_iff_same, ← hvalue id1 h1, ← hvalue id2 h2]
    constructor
    · rintro (⟨hd1, hd2⟩ | ⟨hlen, hbytes⟩)
      · exact Or.inl ⟨hd1, hd2⟩
      · exact Or.inr ⟨hlen, hbytes⟩
    · rintro (⟨hd1, hd2⟩ | ⟨hlen, hbytes⟩)
      · exact SameNfcid1.dynamic hd1 hd2
      · exact SameNfcid1.value hlen hbytes
  constructor
  · intro id1 id2 h
    apply ((nciNfcid1Equal_iff_same id1 id2).mp h).dynamic_eq
  constructor
  · intro self nfcid1 h hbytes
    apply h.setLaNfcid1 hbytes
  constructor
  · intro self id hbytes hlen
    apply nciNfcid1Equal_setLaNfcid1 self hlen hbytes
  · intro self id hlen
    rw [nciSmSetLaNfcid1]
    exact if_neg hlen

/-- Two forms of a dynamic identifier, and another one that is set. -/
theorem nfcid1Equality_dynamic :
  nciNfcid1Dynamic ⟨0, zeroPadded 10 []⟩ = nciNfcid1Dynamic ⟨4, zeroPadded 10 [8, 1, 2, 3]⟩
    ∧ (nciNfcid1Equal ⟨0, zeroPadded 10 []⟩ ⟨4, zeroPadded 10 [8, 1, 2, 3]⟩ = true
      ↔ (nciNfcid1Dynamic ⟨0, zeroPadded 10 []⟩ = true
          ∧ nciNfcid1Dynamic ⟨4, zeroPadded 10 [8, 1, 2, 3]⟩ = true)
        ∨ ((0 : UInt8) = 4 ∧ ([] : List UInt8) = [8, 1, 2, 3]))
    ∧ (nciSmSetLaNfcid1 (some ⟨4, zeroPadded 10 [1, 2, 3, 4]⟩) nciSmObjectNew).Normal
    ∧ nciNfcid1Equal
        (nciSmSetLaNfcid1 (some ⟨4, zeroPadded 10 [1, 2, 3, 4]⟩) nciSmObjectNew).sm.laNfcid1
        ⟨4, zeroPadded 10 [1, 2, 3, 4]⟩ = true
    ∧ nciSmSetLaNfcid1 (some ⟨5, zeroPadded 10 [1, 2, 3, 4, 5]⟩) nciSmObjectNew = nciSmObjectNew
  := by
  refine ⟨?_, ?_, ?_, ?_, ?_⟩
  · exact nfcid1Equality.2.2.1 ⟨0, zeroPadded 10 []⟩ ⟨4, zeroPadded 10 [8, 1, 2, 3]⟩ (by decide)
  · exact nfcid1Equality.2.1 ⟨0, zeroPadded 10 []⟩ ⟨4, zeroPadded 10 [8, 1, 2, 3]⟩ (by decide)
      (by decide)
  · apply nfcid1Equality.2.2.2.1
    · constructor
      · exact normal_zeroPadded (Or.inl rfl) rfl
      · exact normal_zeroPadded (Or.inl rfl) rfl
    · rintro _ ⟨⟩
      rfl
  · exact nfcid1Equality.2.2.2.2.1 nciSmObjectNew ⟨4, zeroPadded 10 [1, 2, 3, 4]⟩ rfl (by decide)
  · exact nfcid1Equality.2.2.2.2.2 nciSmObjectNew ⟨5, zeroPadded 10 [1, 2, 3, 4, 5]⟩ (by decide)

end Nci
