import LibNciCore.Sm.Converge

/-!
# Configuration parameters are found

What the parsers of configuration parameters find in a string: the first complete value with the
identifier. The commands that configure the controller are lists of such values, which are all
found again.
-/

namespace Nci

open Reads

/-! ### What is found -/

/-- The lookup reads only the string that is found at `base`. It gives the view of the first value
with the identifier among the values that are read, and the view lies inside the string. -/
structure FindsFirst (mem : Nat → UInt8) (base : Nat) (params : List UInt8) (id : UInt8) (n : Nat)
    (r : Reads (Option GUtilData)) : Prop where
  within : r.Within mem base params.length
  found : (r.value mem = none ∧ ∀ t ∈ (Tlv.scan n params : List ConfigTlv), t.type ≠ id)
    ∨ ∃ before t after, (Tlv.scan n params : List ConfigTlv) = before ++ t :: after ∧ t.type = id
      ∧ (∀ s ∈ before, s.type ≠ id)
      ∧ r.value mem = some ⟨some (base + (Tlv.encodeAll before).length + 2), t.value.length⟩
      ∧ (⟨some (base + (Tlv.encodeAll before).length + 2), t.value.length⟩ : GUtilData).Within base
        params.length
      ∧ HeldAt mem (base + (Tlv.encodeAll before).length + 2) t.value

theorem findsFirst {mem : Nat → UInt8} {base : Nat} {params : List UInt8}
    (h : HeldAt mem base params) (id : UInt8) (n : Nat) :
  FindsFirst mem base params id n (nciParseFindConfigParam id n base (base + params.length))
  := by
  obtain ⟨hwithin, hvalue⟩ := ensures_findConfigParam h id n
  use hwithin
  rcases locate_spec id (Tlv.scan n params) base with
    ⟨hlocate, hlookup⟩ | ⟨before, t, after, hts, htype, hbefore, -, hlocate⟩
  · left
    use hvalue.trans hlocate
    intro t ht htype
    apply Tlv.lookup_eq_none_iff.mp hlookup
    rw [← htype]
    apply List.mem_map_of_mem ht
  · right
    obtain ⟨hle, hheld⟩ := heldAt_scanned h hts
    refine ⟨before, t, after, hts, htype, hbefore, hvalue.trans hlocate, ?_, hheld⟩
    constructor
    · omega
    · exact hle

/-- What is read of a string are values that stand at its beginning, at most as many as are asked
for, and fewer only if what follows them is not a complete value. The lookup finds the first one of
them with its identifier, a number is the value of one to four bytes in little endian order, and an
identifier one of four, seven or ten bytes followed by zeros; all of them read only the string. In a
list of values that has been written, as in the commands that configure the controller, each value
is found. -/
theorem parametersFound :
  (∀ (n : Nat) (params : List UInt8), ∃ rest,
      params = Tlv.encodeAll (Tlv.scan n params : List ConfigTlv) ++ rest
        ∧ (Tlv.scan n params : List ConfigTlv).length ≤ n
        ∧ ((Tlv.scan n params : List ConfigTlv).length = n
          ∨ (Tlv.first rest : Option (ConfigTlv × List UInt8)) = none))
    ∧ (∀ (id : UInt8) (n : Nat) (before params after : List UInt8),
      FindsFirst (memory (before ++ (params ++ after))) before.length params id n
          (nciParseFindConfigParam id n before.length (before.length + params.length))
        ∧ (nciParseConfigParamUint id n before.length (before.length + params.length)).Ensures
          (memory (before ++ (params ++ after))) before.length params.length
          (· = (Tlv.lookup id (Tlv.scan n params : List ConfigTlv)).bind fun value =>
            if 0 < value.length ∧ value.length ≤ 4 then some (value.length, littleEndian value)
            else none)
        ∧ (nciParseConfigParamNfcid1 id n before.length (before.length + params.length)).Ensures
          (memory (before ++ (params ++ after))) before.length params.length
          (· = (Tlv.lookup id (Tlv.scan n params : List ConfigTlv)).bind fun value =>
            if value.length = 4 ∨ value.length = 7 ∨ value.length = 10 then
              some ⟨UInt8.ofNat value.length, value ++ List.replicate (10 - value.length) 0⟩
            else none))
    ∧ (∀ value : List UInt8, value.length ≤ 4 →
      (littleEndian value).toNat = Nat.ofDigits 256 (value.map UInt8.toNat))
    ∧ (∀ (ts : List ConfigTlv) (rest : List UInt8),
      (Tlv.scan ts.length (Tlv.encodeAll ts ++ rest) : List ConfigTlv) = ts
        ∧ ((ts.map Tlv.type).Nodup → ∀ t ∈ ts, Tlv.lookup t.type ts = some t.value))
    ∧ (∀ self : NciSm, ((resetConfigTlvs self).map Tlv.type).Nodup
      ∧ (resetConfigTlvs self).length < 256
      ∧ nciTransitionResetSetConfigCmd self
        = UInt8.ofNat (resetConfigTlvs self).length :: Tlv.encodeAll (resetConfigTlvs self))
    ∧ ∀ (flags : CoreSetConfigFlags) (values : ConfigValues),
      values.laNfcid1.len.toNat ≤ values.laNfcid1.bytes.length →
      values.liAHb.len.toNat ≤ values.liAHb.bytes.length →
      ((flags.tlvs values).map Tlv.type).Nodup
        ∧ nciTransitionIdleToDiscoverySetConfigCmd flags values
          = UInt8.ofNat (flags.tlvs values).length :: Tlv.encodeAll (flags.tlvs values)
  := by
  constructor
  · intro n params
    obtain ⟨rest, hparams, hstop⟩ := @Tlv.scan_spec UInt8 UInt8.toNat n params
    use rest, hparams, Tlv.length_scan_le n params
  constructor
  · intro id n before params after
    have hheld := heldAt_memory before params after
    use findsFirst hheld id n, ensures_configParamUint hheld id n
    apply ensures_configParamNfcid1 hheld id n
  constructor
  · apply toNat_littleEndian
  constructor
  · intro ts rest
    use Tlv.scan_encodeAll ts rest
    intro hnodup t ht
    apply Tlv.lookup_of_mem hnodup ht
  constructor
  · intro self
    use nodup_resetConfigTlvs self, length_resetConfigTlvs self
    apply resetSetConfigCmd_eq
  · intro flags values hnfcid1 hhb
    use nodup_tlvs flags values
    apply setConfigCmd_eq flags hnfcid1 hhb

/-- A number in little endian order, one of the values that the reset transition sets, and a command
that sets LA_SENS_RES_1. -/
theorem parametersFound_written :
  (littleEndian [3, 1]).toNat = Nat.ofDigits 256 [3, 1]
    ∧ Tlv.lookup 0x62 (resetConfigTlvs nciSmDefault) = some [0x30]
    ∧ nciTransitionIdleToDiscoverySetConfigCmd ⟨true, false, false, false, false⟩
        ⟨0x40, ⟨0, []⟩, ⟨0, []⟩, 0, 0⟩ = [1, 0x30, 1, 0x40]
  := by
  constructor
  · exact parametersFound.2.2.1 [3, 1] (by decide)
  constructor
  · exact (parametersFound.2.2.2.1 (resetConfigTlvs nciSmDefault) []).2
      (nodup_resetConfigTlvs nciSmDefault) (configTlv 0x62 ⟨[0x30], by decide⟩)
      (by simp [resetConfigTlvs])
  · exact (parametersFound.2.2.2.2.2 ⟨true, false, false, false, false⟩
      ⟨0x40, ⟨0, []⟩, ⟨0, []⟩, 0, 0⟩ (by decide) (by decide)).2

end Nci
