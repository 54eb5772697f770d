import LibNciCore.Sm.Converge
import LibNciCore.Sm.Object

/-!
# Historical bytes from the configuration file

What becomes of LI_A_HB in the configuration file: the default of the historical bytes, and from
there the value that the controller is given. Behind the historical bytes the array is cleared, but
the length that is cleared is computed from the number of digits, of which there are two for each
byte.
-/

namespace Nci

/-! ### The default -/

section

variable {hex2bin : List Char → Option (List UInt8)}

/-- Nothing else in the configuration file has to do with the historical bytes. -/
theorem defaultLiAHb_parseConfig (config : NciSmConfig) (self : NciSmObject) :
  (nciSmParseConfig hex2bin config self).defaultLiAHb
    = (parseEntry (nciSmParseLiAHb hex2bin) config.liAHb self).defaultLiAHb
  := by
  have htechnologies : (parseEntry nciSmParseTechnologies config.technologies self).defaultLiAHb
      = self.defaultLiAHb := by
    cases config.technologies <;> rfl
  have hnfcid1 : ∀ obj : NciSmObject,
      (parseEntry (nciSmParseLaNfcid1 hex2bin) config.laNfcid1 obj).defaultLiAHb
        = obj.defaultLiAHb := by
    intro obj
    cases config.laNfcid1 with
    | none => rfl
    | some sval =>
        rw [parseEntry, nciSmParseLaNfcid1]
        split
        · rfl
        · split
          · split <;> rfl
          · rfl
  have hparse : ∀ obj obj' : NciSmObject, obj.defaultLiAHb = obj'.defaultLiAHb →
      (parseEntry (nciSmParseLiAHb hex2bin) config.liAHb obj).defaultLiAHb
        = (parseEntry (nciSmParseLiAHb hex2bin) config.liAHb obj').defaultLiAHb := by
    intro obj obj' h
    cases config.liAHb with
    | none => exact h
    | some sval =>
        rw [parseEntry, parseEntry, nciSmParseLiAHb, nciSmParseLiAHb]
        split
        · split
          · rw [h]
          · exact h
        · exact h
  rw [nciSmParseConfig]
  apply hparse
  rw [hnfcid1, htechnologies]

/-- Clearing zeros changes nothing. -/
theorem cleared_zeros {bytes : List UInt8} {n k : Nat} :
  cleared bytes.length n (bytes ++ List.replicate k 0) = bytes ++ List.replicate k 0
  := by
  rw [cleared, List.take_left, List.append_assoc]
  congr 1
  rw [List.length_append, Nat.add_sub_cancel_left, List.length_replicate, List.drop_append,
    List.drop_of_length_le (Nat.le_add_right _ _), Nat.add_sub_cancel_left, List.nil_append,
    List.drop_replicate, ← List.replicate_add]
  congr 1
  omega

/-- The default after LI_A_HB has been accepted. -/
theorem defaultLiAHb_accepted {config : NciSmConfig} {sval : List Char} {bytes : List UInt8}
    (hconfig : config.liAHb = some sval) (haccepted : (strip sval).length ≤ 30)
    (hbytes : hex2bin (strip sval) = some bytes)
    (hlength : 2 * bytes.length = (strip sval).length) :
  (nciSmParseConfig hex2bin config nciSmObjectNew).defaultLiAHb
    = ⟨UInt8.ofNat bytes.length, zeroPadded 15 bytes⟩
  := by
  have hlen : (strip sval).length / 2 = bytes.length := by omega
  have hcopied : copied bytes nciSmObjectNew.defaultLiAHb.bytes = zeroPadded 15 bytes := by
    rw [copied, zeroPadded]
    congr 1
    exact List.drop_replicate
  rw [defaultLiAHb_parseConfig, hconfig, parseEntry, nciSmParseLiAHb, if_pos haccepted, hbytes]
  simp only [hlen, List.take_length, hcopied]
  split
  · rw [zeroPadded, cleared_zeros]
  · rfl

end

/-! ### The value that the controller is given -/

theorem configurable_of_normal {sm : NciSm} (hnfcid1 : sm.laNfcid1.Normal)
    (hhb : sm.liAHb.len.toNat ≤ sm.liAHb.bytes.length) :
  sm.Configurable
  := by
  constructor
  · exact hnfcid1.len
  · rw [hnfcid1.length_bytes]
    exact len_le_ten hnfcid1.len
  · exact hhb

/-- Historical bytes that the controller does not report are set. -/
theorem sends_liAHb {ι : Type} (E : NciSmIo ι) {w : SmWorld ι} {bytes payload : List UInt8}
    (hsize : bytes.length ≤ 15)
    (hhb : w.sm.liAHb = ⟨UInt8.ofNat bytes.length, zeroPadded 15 bytes⟩)
    (hnfcid1 : w.sm.laNfcid1.Normal)
    (hactive : w.sm.activeTransition = some .idleToDiscovery)
    (hreported : (Tlv.lookup nciConfigLiAHistBy (reportedConfig payload)).getD [] ≠ bytes) :
  ∃ (set : List ConfigTlv) (cmd : List UInt8), Tlv.Lists set cmd
    ∧ Tlv.lookup nciConfigLiAHistBy set = some bytes
    ∧ nciTransitionIdleToDiscoveryGetConfigRsp E .success payload w
      = (nciSmSendCommand E nciGidCore nciOidCoreSetConfig (some cmd)
          .idleToDiscoverySetConfigRsp w).2
  := by
  have hlen : (UInt8.ofNat bytes.length).toNat = bytes.length :=
    UInt8.toNat_ofNat_of_lt' (Nat.lt_of_le_of_lt hsize (by decide))
  have hconf : w.sm.Configurable := by
    apply configurable_of_normal hnfcid1
    rw [hhb]
    dsimp only
    rw [hlen, length_zeroPadded hsize]
    exact hsize
  have hvalue : w.sm.liAHb.bytes.take w.sm.liAHb.len.toNat = bytes := by
    rw [hhb]
    dsimp only
    rw [hlen, take_zeroPadded]
  have hhas : (nciTransitionIdleToDiscoveryCheckConfig w.sm payload).1.has .liAHb = true := by
    apply (has_nciTransitionIdleToDiscoveryCheckConfig hconf payload .liAHb).mpr
    intro _ hconforms
    apply hreported
    rw [← hvalue]
    exact hconforms
  have hlookup : Tlv.lookup nciConfigLiAHistBy (w.sm.configTlvs payload) = some bytes := by
    have hset := @lookup_tlvs (nciTransitionIdleToDiscoveryCheckConfig w.sm payload).1
      (nciTransitionIdleToDiscoveryCheckConfig w.sm payload).2 .liAHb
    rw [if_pos hhas, value_nciTransitionIdleToDiscoveryCheckConfig] at hset
    rw [NciSm.configTlvs, value_nciTransitionIdleToDiscoveryCheckConfig]
    rw [← hvalue]
    exact hset
  have hne : w.sm.configTlvs payload ≠ [] := by
    intro hnil
    rw [hnil] at hlookup
    cases hlookup
  refine ⟨w.sm.configTlvs payload, _, lists_configTlvs payload, hlookup, ?_⟩
  rw [nciTransitionIdleToDiscoveryGetConfigRsp_eq payload hconf hactive, if_neg hne]

/-! ### The whole way -/

/-- What should become of a string that is accepted for LI_A_HB: clearing the rest of the array does
not leave the array, the default has half as many bytes as there are digits and only zeros behind
them, and once the default is the current value, these bytes are sent to a controller that reports
others. -/
structure LiAHbConfigured (sval : List Char) (bytes : List UInt8) (obj : NciSmObject) : Prop where
  clears : sval.length / 2 < 15 →
    sval.length ≤ 15 ∧ sval.length / 2 + (liAHbClearSize sval.length).toNat ≤ 15
  len : obj.defaultLiAHb.len.toNat = sval.length / 2
  array : obj.defaultLiAHb.bytes = zeroPadded 15 bytes
  current : (nciSmSetLiAHb none obj).sm.liAHb = obj.defaultLiAHb
  sends : ∀ (ι : Type) (E : NciSmIo ι) (w : SmWorld ι) (payload : List UInt8),
    w.sm.liAHb = (nciSmSetLiAHb none obj).sm.liAHb → w.sm.laNfcid1.Normal →
    w.sm.activeTransition = some .idleToDiscovery →
    (Tlv.lookup nciConfigLiAHistBy (reportedConfig payload)).getD [] ≠ bytes →
    ∃ (set : List ConfigTlv) (cmd : List UInt8), Tlv.Lists set cmd
      ∧ Tlv.lookup nciConfigLiAHistBy set = some bytes
      ∧ nciTransitionIdleToDiscoveryGetConfigRsp E .success payload w
        = (nciSmSendCommand E nciGidCore nciOidCoreSetConfig (some cmd)
            .idleToDiscoverySetConfigRsp w).2

/-- The length that is cleared is what is left of the array if there are few digits. -/
theorem liAHbClearSize_le {n : Nat} (h : n ≤ 15) :
  (liAHbClearSize n).toNat = 15 - n
  := by
  rw [liAHbClearSize, UInt64.toNat_sub_of_le]
  · rw [UInt64.toNat_ofNat_of_lt' (Nat.lt_of_le_of_lt h (by decide))]
    rfl
  · apply UInt64.le_iff_toNat_le.mpr
    rw [UInt64.toNat_ofNat_of_lt' (Nat.lt_of_le_of_lt h (by decide))]
    exact h

/-- Historical bytes in the configuration file are handled as they should be if and only if there
are at most fifteen digits, or all thirty of them. -/
theorem liAHbConfigured_iff {hex2bin : List Char → Option (List UInt8)}
    (hhex : ∀ sval bytes, hex2bin sval = some bytes → 2 * bytes.length = sval.length)
    {config : NciSmConfig} {sval : List Char} {bytes : List UInt8}
    (hconfig : config.liAHb = some sval) (haccepted : (strip sval).length ≤ 30)
    (hbytes : hex2bin (strip sval) = some bytes) :
  LiAHbConfigured (strip sval) bytes (nciSmParseConfig hex2bin config nciSmObjectNew)
    ↔ (strip sval).length ≤ 15 ∨ (strip sval).length = 30
  := by
  have hlength := hhex _ _ hbytes
  have hdefault := defaultLiAHb_accepted hconfig haccepted hbytes hlength
  constructor
  · intro h
    by_cases hfull : (strip sval).length / 2 < 15
    · left
      apply (h.clears hfull).1
    · right
      omega
  · intro h
    constructor
    · intro hfull
      have hfew : (strip sval).length ≤ 15 := by omega
      use hfew
      rw [liAHbClearSize_le hfew]
      omega
    · rw [hdefault]
      dsimp only
      rw [UInt8.toNat_ofNat_of_lt' (Nat.lt_of_le_of_lt (by omega : bytes.length ≤ 15) (by decide))]
      omega
    · rw [hdefault]
    · rfl
    · intro ι E w payload hhb hnfcid1 hactive hreported
      apply sends_liAHb E (by omega) _ hnfcid1 hactive hreported
      rw [hhb, ← hdefault]
      rfl

/-- The value of a hexadecimal digit. -/
def hexDigitValue (c : Char) : Option UInt8 :=
  if '0' ≤ c ∧ c ≤ '9' then some (UInt8.ofNat (c.toNat - 48))
  else if 'a' ≤ c ∧ c ≤ 'f' then some (UInt8.ofNat (c.toNat - 87))
  else if 'A' ≤ c ∧ c ≤ 'F' then some (UInt8.ofNat (c.toNat - 55))
  else none

/-- Decodes an even number of hexadecimal digits. -/
def hexBytes : List Char → Option (List UInt8)
  | c :: d :: sval =>
      match hexDigitValue c, hexDigitValue d, hexBytes sval with
      | some high, some low, some bytes => some ((high <<< 4 ||| low) :: bytes)
      | _, _, _ => none
  | [] => some []
  | [_] => none

theorem length_hexBytes :
  ∀ (sval : List Char) (bytes : List UInt8),
    hexBytes sval = some bytes → 2 * bytes.length = sval.length
  | [], bytes, h => by
      cases h
      rfl
  | [_], bytes, h => by
      cases h
  | c :: d :: sval, bytes, h => by
      rw [hexBytes] at h
      split at h
      · rename_i rest _ _ hrest
        injection h with h
        have hlength := length_hexBytes sval rest hrest
        rw [← h, List.length_cons, List.length_cons, List.length_cons]
        omega
      · cases h

/-- Seven historical bytes. -/
theorem liAHbConfigured_seven :
  LiAHbConfigured (strip "00112233445566".toList) [0x00, 0x11, 0x22, 0x33, 0x44, 0x55, 0x66]
    (nciSmParseConfig hexBytes ⟨none, none, some "00112233445566".toList⟩ nciSmObjectNew)
  := (liAHbConfigured_iff length_hexBytes rfl (by decide) (by decide)).mpr (by decide)

/-- With eight historical bytes, far more is cleared than the array. -/
theorem liAHbConfigured_eight :
  (strip "0011223344556677".toList).length ≤ 30
    ∧ hexBytes (strip "0011223344556677".toList)
      = some [0x00, 0x11, 0x22, 0x33, 0x44, 0x55, 0x66, 0x77]
    ∧ (liAHbClearSize (strip "0011223344556677".toList).length).toNat = 2 ^ 64 - 1
    ∧ ¬LiAHbConfigured (strip "0011223344556677".toList)
        [0x00, 0x11, 0x22, 0x33, 0x44, 0x55, 0x66, 0x77]
        (nciSmParseConfig hexBytes ⟨none, none, some "0011223344556677".toList⟩ nciSmObjectNew)
  := by
  refine ⟨by decide, by decide, by decide, ?_⟩
  intro h
  have hclears := h.clears (by decide)
  revert hclears
  decide

end Nci
