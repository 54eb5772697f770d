import LibNciCore.Util.Lookup
import LibNciCore.Sm.Run

/-!
# The configuration converges

CORE_GET_CONFIG_RSP reports values with type and length, and so does CORE_SET_CONFIG_CMD set
them. The values that are set are those that are not as they should be, and once they are set
the configuration is as it should be.
-/

namespace Nci

/-! ### What the configuration should be -/

/-- The parameters that the transition is about. -/
inductive ConfigParam where
  | laSensRes1
  | laSelInfo
  | laNfcid1
  | lfProtocolType
  | liAHb
  deriving DecidableEq, Repr

namespace ConfigParam

/-- The parameters in the order in which they are set. -/
def all : List ConfigParam := [laSensRes1, laSelInfo, laNfcid1, lfProtocolType, liAHb]

theorem mem_all (p : ConfigParam) :
  p ∈ all
  := by cases p <;> decide

/-- The identifier of a parameter. -/
def id : ConfigParam → UInt8
  | laSensRes1 => nciConfigLaSensRes1
  | laSelInfo => nciConfigLaSelInfo
  | laNfcid1 => nciConfigLaNfcid1
  | lfProtocolType => nciConfigLfProtocolType
  | liAHb => nciConfigLiAHistBy

theorem id_injective {p q : ConfigParam} (h : p.id = q.id) :
  p = q
  := by
  revert h
  cases p <;> cases q <;> decide

end ConfigParam

/-- The bits of a parameter that are checked, if it is one byte. -/
def ConfigParam.mask : ConfigParam → Option UInt8
  | .laSensRes1 => some 0xc0
  | .laSelInfo => some 0x60
  | .lfProtocolType => some 0x02
  | .laNfcid1 | .liAHb => none

/-- One byte that has the expected bits. -/
def ByteConforms (expected mask : UInt8) (value : Option (List UInt8)) : Prop :=
  ∃ b, value = some [b] ∧ b &&& mask = expected

/-- An identifier that is the expected one, or dynamic like the expected one. -/
def Nfcid1Conforms (expected : List UInt8) (value : Option (List UInt8)) : Prop :=
  ∃ bytes, value = some bytes ∧ (bytes.length = 4 ∨ bytes.length = 7 ∨ bytes.length = 10)
    ∧ bytes.length = expected.length
    ∧ (bytes = expected ∨ (bytes.length = 4 ∧ bytes.head? = some 0x08 ∧ expected.head? = some 0x08))

/-- The identifier that is expected. -/
def NciSm.expectedNfcid1 (self : NciSm) : List UInt8 :=
  (nciTransitionIdleToDiscoveryLaNfcid1Expected self).bytes.take
    (nciTransitionIdleToDiscoveryLaNfcid1Expected self).len.toNat

/-- A value is as it should be. Historical bytes that are missing count as no bytes. -/
def NciSm.Conforms (self : NciSm) (value : Option (List UInt8)) : ConfigParam → Prop
  | .laSensRes1 => ByteConforms (nciTransitionIdleToDiscoveryLaSensRes1Expected self) 0xc0 value
  | .laSelInfo => ByteConforms (nciTransitionIdleToDiscoveryLaSelInfoExpected self) 0x60 value
  | .laNfcid1 => Nfcid1Conforms self.expectedNfcid1 value
  | .lfProtocolType =>
      ByteConforms (nciTransitionIdleToDiscoveryLfProtocolTypeExpected self) 0x02 value
  | .liAHb => value.getD [] = self.liAHb.bytes.take self.liAHb.len.toNat

/-- The identifier and the historical bytes that are to be set have the lengths that they say:
there is room for ten bytes of an identifier and for fifteen historical bytes. -/
structure NciSm.Configurable (sm : NciSm) : Prop where
  laNfcid1 : sm.laNfcid1.len = 0 ∨ sm.laNfcid1.len = 4 ∨ sm.laNfcid1.len = 7 ∨ sm.laNfcid1.len = 10
  bytes : sm.laNfcid1.len.toNat ≤ sm.laNfcid1.bytes.length
  liAHb : sm.liAHb.len.toNat ≤ sm.liAHb.bytes.length

/-! ### Reported values -/

/-- The response is a successful one that tells how many parameters there are. -/
def ReportsConfig (payload : List UInt8) : Prop :=
  2 ≤ payload.length ∧ payload.head? = some nciStatusOk

instance (payload : List UInt8) : Decidable (ReportsConfig payload) :=
  inferInstanceAs (Decidable (_ ∧ _))

/-- The parameters that the response reports. An error reports nothing. -/
def reportedConfig (payload : List UInt8) : List ConfigTlv :=
  if ReportsConfig payload then Tlv.scan (payload.getD 1 0).toNat (payload.drop 2) else []

section Reading

variable (id n : UInt8) (params : List UInt8)

/-- The historical bytes are compared with the value, or with no bytes at all. -/
theorem hbOk_iff (hb : NciAtsHb) (hlength : hb.len.toNat ≤ hb.bytes.length) :
  nciTransitionIdleToDiscoveryHbOk n.toNat params id hb = true
    ↔ (Tlv.lookup id (Tlv.scan n.toNat params : List ConfigTlv)).getD []
      = hb.bytes.take hb.len.toNat
  := by
  have htaken : (hb.bytes.take hb.len.toNat).length = hb.len.toNat := List.length_take_of_le hlength
  rw [nciTransitionIdleToDiscoveryHbOk]
  rcases findConfigParam_value id n.toNat params with
    ⟨hfind, hlookup⟩ | ⟨i, value, hfind, hlookup, htake⟩
  · rw [hfind, hlookup, Option.getD_none]
    constructor
    · intro hlen
      rw [eq_of_beq hlen]
      rfl
    · intro hnil
      have h0 : hb.len.toNat = 0 := by
        rw [← htaken, ← hnil]
        rfl
      rw [show hb.len = 0 from UInt8.toNat_inj.mp h0]
      rfl
  · rw [hfind, hlookup, Option.getD_some]
    dsimp only [Option.getD_some]
    rw [htake, Bool.and_eq_true, beq_iff_eq, beq_iff_eq]
    constructor
    · intro h
      apply h.2
    · intro h
      rw [h, htaken]
      exact ⟨rfl, rfl⟩

/-! ### Comparing -/

theorem littleEndian_singleton (b : UInt8) :
  (littleEndian [b]).toUInt8 = b
  := by
  rw [littleEndian, List.foldr_cons, List.foldr_nil]
  simp

variable (expected mask : UInt8)

/-- What is found out about a byte. -/
theorem configByteOk_eq :
  nciTransitionIdleToDiscoveryConfigByteOk n.toNat params id expected mask
    = match Tlv.lookup id (Tlv.scan n.toNat params : List ConfigTlv) with
      | some [b] =>
          if b &&& mask = expected then (true, expected)
          else (false, expected ||| (b &&& ~~~mask))
      | _ => (false, expected)
  := by
  rw [nciTransitionIdleToDiscoveryConfigByteOk, configParamUint_value]
  match Tlv.lookup id (Tlv.scan n.toNat params : List ConfigTlv) with
  | none => rfl
  | some [] => rfl
  | some [b] =>
      rw [Option.bind_some, if_pos (by simp)]
      simp only [List.length_singleton, littleEndian_singleton]
  | some (a :: b :: rest) =>
      rw [Option.bind_some]
      split
      · rename_i heq
        split at heq
        · cases heq
        · cases heq
      · rfl

theorem configByteOk_iff :
  (nciTransitionIdleToDiscoveryConfigByteOk n.toNat params id expected mask).1 = true
    ↔ ByteConforms expected mask (Tlv.lookup id (Tlv.scan n.toNat params : List ConfigTlv))
  := by
  rw [configByteOk_eq]
  match Tlv.lookup id (Tlv.scan n.toNat params : List ConfigTlv) with
  | none => simp [ByteConforms]
  | some [] => simp [ByteConforms]
  | some [b] =>
      dsimp only
      split <;> simp [ByteConforms, *]
  | some (a :: b :: rest) => simp [ByteConforms]

/-- An identifier that is reported is compared with the expected one. -/
theorem nciNfcid1Equal_iff {nfcid1 : NciNfcid1} {value : List UInt8}
    (hvalue : value.length = 4 ∨ value.length = 7 ∨ value.length = 10)
    (hpos : nfcid1.len ≠ 0) (hlength : nfcid1.len.toNat ≤ nfcid1.bytes.length) :
  nciNfcid1Equal ⟨UInt8.ofNat value.length, value ++ List.replicate (10 - value.length) 0⟩ nfcid1
      = true
    ↔ value.length = (nfcid1.bytes.take nfcid1.len.toNat).length
      ∧ (value = nfcid1.bytes.take nfcid1.len.toNat
        ∨ (value.length = 4 ∧ value.head? = some 0x08
          ∧ (nfcid1.bytes.take nfcid1.len.toNat).head? = some 0x08))
  := by
  have hten : value.length ≤ 10 := by omega
  have htoNat : (UInt8.ofNat value.length).toNat = value.length := by
    apply UInt8.toNat_ofNat_of_lt'
    apply Nat.lt_of_le_of_lt hten
    decide
  have hzero : UInt8.ofNat value.length ≠ 0 := by
    intro h0
    have h0' := congrArg UInt8.toNat h0
    rw [htoNat] at h0'
    simp at h0'
    simp [h0'] at hvalue
  rw [List.length_take_of_le hlength, nciNfcid1Equal]
  dsimp only
  by_cases hlen : UInt8.ofNat value.length = nfcid1.len
  · have hsame : value.length = nfcid1.len.toNat := by rw [← hlen, htoNat]
    rw [if_pos hlen, ← hlen, htoNat]
    have htake : (value ++ List.replicate (10 - value.length) 0).take (min value.length 10)
        = value := by
      rw [Nat.min_eq_left hten, List.take_left']
      rfl
    have hfour : UInt8.ofNat value.length = 4 ↔ value.length = 4 := by
      rw [← UInt8.toNat_inj, htoNat]
      rfl
    rw [htake, Nat.min_eq_left hten]
    simp only [hfour]
    obtain ⟨v, vs, hcons⟩ : ∃ v vs, value = v :: vs := by
      cases value with
      | nil => simp at hvalue
      | cons v vs => exact ⟨v, vs, rfl⟩
    obtain ⟨b, bs, hbytes⟩ : ∃ b bs, nfcid1.bytes = b :: bs := by
      cases hb : nfcid1.bytes with
      | nil =>
          rw [hb, ← hsame, hcons] at hlength
          cases hlength
      | cons b bs => exact ⟨b, bs, rfl⟩
    have hhead : (nfcid1.bytes.take value.length).head? = some b := by
      rw [hbytes, hcons]
      rfl
    have hhead' : value.head? = some v := by rw [hcons]; rfl
    have hget : (value ++ List.replicate (10 - value.length) 0).getD 0 0 = v := by rw [hcons]; rfl
    have hget' : nfcid1.bytes.getD 0 0 = b := by rw [hbytes]; rfl
    have hsplit : value = nfcid1.bytes.take value.length → v = b := by
      intro h
      have hheads := congrArg List.head? h
      rw [hhead, hhead'] at hheads
      exact Option.some.inj hheads
    rw [hhead, hhead', hget', Option.some_inj, Option.some_inj]
    simp only [hget]
    split
    · rename_i hdynamic
      rw [beq_iff_eq]
      constructor
      · intro h
        exact ⟨trivial, Or.inr ⟨hdynamic.1, hdynamic.2, h ▸ hdynamic.2⟩⟩
      · rintro ⟨-, h | h⟩
        · apply hsplit h
        · rw [h.2.1, h.2.2]
    · rename_i hdynamic
      rw [beq_iff_eq]
      constructor
      · intro h
        exact ⟨trivial, Or.inl h⟩
      · rintro ⟨-, h | h⟩
        · apply h
        · exact absurd ⟨h.1, h.2.1⟩ hdynamic
  · have hsame : value.length ≠ nfcid1.len.toNat := by
      intro h
      apply hlen
      apply UInt8.toNat_inj.mp
      rw [htoNat, h]
    rw [if_neg hlen, if_neg hzero, if_neg hpos]
    simp [hsame]

/-- An identifier is compared with the expected one. -/
theorem configNfcid1Ok_iff {nfcid1 : NciNfcid1} (hpos : nfcid1.len ≠ 0)
    (hlength : nfcid1.len.toNat ≤ nfcid1.bytes.length) :
  nciTransitionIdleToDiscoveryConfigNfcid1Ok n.toNat params id nfcid1 = true
    ↔ Nfcid1Conforms (nfcid1.bytes.take nfcid1.len.toNat)
      (Tlv.lookup id (Tlv.scan n.toNat params : List ConfigTlv))
  := by
  rw [nciTransitionIdleToDiscoveryConfigNfcid1Ok, configParamNfcid1_value]
  cases Tlv.lookup id (Tlv.scan n.toNat params : List ConfigTlv) with
  | none => simp [Nfcid1Conforms]
  | some value =>
      rw [Option.bind_some]
      by_cases hvalue : value.length = 4 ∨ value.length = 7 ∨ value.length = 10
      · rw [if_pos hvalue]
        dsimp only
        rw [nciNfcid1Equal_iff hvalue hpos hlength]
        constructor
        · rintro ⟨hsame, hbytes⟩
          use value
        · rintro ⟨_, ⟨⟩, -, hsame, hbytes⟩
          use hsame
      · rw [if_neg hvalue]
        simp [Nfcid1Conforms, hvalue]

end Reading

/-! ### What is set -/

/-- The parameter is to be set. -/
def CoreSetConfigFlags.has (flags : CoreSetConfigFlags) : ConfigParam → Bool
  | .laSensRes1 => flags.laSensRes1
  | .laSelInfo => flags.laSelInfo
  | .laNfcid1 => flags.laNfcid1
  | .lfProtocolType => flags.lfProtocolType
  | .liAHb => flags.liAHb

/-- The value of a parameter. -/
def ConfigValues.value (values : ConfigValues) : ConfigParam → List UInt8
  | .laSensRes1 => [values.laSensRes1]
  | .laSelInfo => [values.laSelInfo]
  | .laNfcid1 => values.laNfcid1.bytes.take values.laNfcid1.len.toNat
  | .lfProtocolType => [values.lfProtocolType]
  | .liAHb => values.liAHb.bytes.take values.liAHb.len.toNat

theorem length_nciTransitionIdleToDiscoveryLaNfcid1Expected {self : NciSm} (h : self.Configurable) :
  (nciTransitionIdleToDiscoveryLaNfcid1Expected self).len ≠ 0
    ∧ (nciTransitionIdleToDiscoveryLaNfcid1Expected self).len.toNat
      ≤ (nciTransitionIdleToDiscoveryLaNfcid1Expected self).bytes.length
  := by
  rw [nciTransitionIdleToDiscoveryLaNfcid1Expected]
  split
  · rename_i hlen
    constructor
    · rcases hlen with hlen | hlen | hlen <;> rw [hlen] <;> decide
    · dsimp only
      rw [List.length_append, List.length_take_of_le h.bytes]
      apply Nat.le_add_right
  · constructor <;> decide

/-- The parameters that do not conform are set; after an error it is all of them. -/
theorem has_nciTransitionIdleToDiscoveryCheckConfig {self : NciSm} (h : self.Configurable)
    (payload : List UInt8) (p : ConfigParam) :
  (nciTransitionIdleToDiscoveryCheckConfig self payload).1.has p = true
    ↔ (ReportsConfig payload →
      ¬self.Conforms (Tlv.lookup p.id (reportedConfig payload)) p)
  := by
  match payload with
  | [] =>
      cases p <;> simp [nciTransitionIdleToDiscoveryCheckConfig, CoreSetConfigFlags.has,
        ReportsConfig]
  | [_] =>
      cases p <;> simp [nciTransitionIdleToDiscoveryCheckConfig, CoreSetConfigFlags.has,
        ReportsConfig]
  | status :: n :: params =>
      rw [nciTransitionIdleToDiscoveryCheckConfig]
      by_cases hok : status = nciStatusOk
      · have hreports : ReportsConfig (status :: n :: params) := by
          constructor
          · simp
          · rw [hok]
            rfl
        have hreported : reportedConfig (status :: n :: params) = Tlv.scan n.toNat params :=
          if_pos hreports
        rw [if_pos hok, hreported]
        have hnot : ∀ {b : Bool} {P : Prop}, (b = true ↔ P) →
            ((!b) = true ↔ (ReportsConfig (status :: n :: params) → ¬P)) := by
          intro b P hb
          simp [← hb, hreports]
        obtain ⟨hzero, hlength⟩ := length_nciTransitionIdleToDiscoveryLaNfcid1Expected h
        cases p with
        | laSensRes1 => exact hnot (configByteOk_iff _ n params _ _)
        | laSelInfo => exact hnot (configByteOk_iff _ n params _ _)
        | laNfcid1 => exact hnot (configNfcid1Ok_iff _ n params hzero hlength)
        | lfProtocolType => exact hnot (configByteOk_iff _ n params _ _)
        | liAHb => exact hnot (hbOk_iff _ n params _ h.liAHb)
      · have hreports : ¬ReportsConfig (status :: n :: params) := by
          rintro ⟨-, hhead⟩
          apply hok (Option.some.inj hhead)
        rw [if_neg hok]
        constructor
        · intro _ hreports'
          exact absurd hreports' hreports
        · intro _
          cases p <;> rfl

/-- The bits that are checked are taken from the one value, and the others from the other. -/
theorem mask_merge {expected mask : UInt8} (h : expected &&& mask = expected) (b : UInt8) :
  (expected ||| (b &&& ~~~mask)) &&& mask = expected
    ∧ (expected ||| (b &&& ~~~mask)) &&& ~~~mask = b &&& ~~~mask
  := by
  have hbit : ∀ i, i < 8 → (expected.toBitVec.getLsbD i && mask.toBitVec.getLsbD i)
      = expected.toBitVec.getLsbD i := by
    intro i hi
    have hbits := congrArg (fun x : UInt8 => x.toBitVec.getLsbD i) h
    simpa using hbits
  constructor
  · apply UInt8.toBitVec_inj.mp
    apply BitVec.eq_of_getLsbD_eq
    intro i hi
    have hbit' := hbit i hi
    simp [hi]
    grind
  · apply UInt8.toBitVec_inj.mp
    apply BitVec.eq_of_getLsbD_eq
    intro i hi
    have hbit' := hbit i hi
    simp [hi]
    grind

/-- The byte that is set: the bits that are not checked are kept. -/
def mergedByte (expected mask : UInt8) : Option (List UInt8) → UInt8
  | some [b] => if b &&& mask = expected then expected else expected ||| (b &&& ~~~mask)
  | _ => expected

theorem configByteOk_snd (id n : UInt8) (params : List UInt8) (expected mask : UInt8) :
  (nciTransitionIdleToDiscoveryConfigByteOk n.toNat params id expected mask).2
    = mergedByte expected mask (Tlv.lookup id (Tlv.scan n.toNat params : List ConfigTlv))
  := by
  rw [configByteOk_eq]
  match Tlv.lookup id (Tlv.scan n.toNat params : List ConfigTlv) with
  | none => rfl
  | some [] => rfl
  | some [b] =>
      rw [mergedByte]
      dsimp only
      split <;> rfl
  | some (a :: b :: rest) => rfl

/-- A byte that is set has the expected bits. -/
theorem byteConforms_mergedByte {expected mask : UInt8} (h : expected &&& mask = expected)
    (value : Option (List UInt8)) :
  ByteConforms expected mask (some [mergedByte expected mask value])
  := by
  use mergedByte expected mask value, rfl
  unfold mergedByte
  split
  · split
    · apply h
    · apply (mask_merge h _).1
  · apply h

/-- The values that are to be set. -/
theorem value_nciTransitionIdleToDiscoveryCheckConfig (self : NciSm) (payload : List UInt8) :
  (nciTransitionIdleToDiscoveryCheckConfig self payload).2
    = { laSensRes1 := mergedByte (nciTransitionIdleToDiscoveryLaSensRes1Expected self) 0xc0
          (Tlv.lookup ConfigParam.laSensRes1.id (reportedConfig payload))
        laNfcid1 := nciTransitionIdleToDiscoveryLaNfcid1Expected self
        liAHb := self.liAHb
        laSelInfo := mergedByte (nciTransitionIdleToDiscoveryLaSelInfoExpected self) 0x60
          (Tlv.lookup ConfigParam.laSelInfo.id (reportedConfig payload))
        lfProtocolType := mergedByte (nciTransitionIdleToDiscoveryLfProtocolTypeExpected self) 0x02
          (Tlv.lookup ConfigParam.lfProtocolType.id (reportedConfig payload)) }
  := by
  match payload with
  | [] => rfl
  | [_] => rfl
  | status :: n :: params =>
      rw [nciTransitionIdleToDiscoveryCheckConfig]
      by_cases hok : status = nciStatusOk
      · have hreported : reportedConfig (status :: n :: params) = Tlv.scan n.toNat params :=
          if_pos ⟨by simp, by rw [hok]; rfl⟩
        rw [if_pos hok, hreported]
        dsimp only
        rw [configByteOk_snd, configByteOk_snd, configByteOk_snd]
        rfl
      · have hreported : reportedConfig (status :: n :: params) = [] := by
          apply if_neg
          rintro ⟨-, hhead⟩
          apply hok (Option.some.inj hhead)
        rw [if_neg hok, hreported]
        rfl

/-- What is expected of a byte is within the bits that are checked. -/
theorem expected_masked (self : NciSm) :
  nciTransitionIdleToDiscoveryLaSensRes1Expected self &&& 0xc0
      = nciTransitionIdleToDiscoveryLaSensRes1Expected self
    ∧ nciTransitionIdleToDiscoveryLaSelInfoExpected self &&& 0x60
      = nciTransitionIdleToDiscoveryLaSelInfoExpected self
    ∧ nciTransitionIdleToDiscoveryLfProtocolTypeExpected self &&& 0x02
      = nciTransitionIdleToDiscoveryLfProtocolTypeExpected self
  := by
  constructor
  · rw [nciTransitionIdleToDiscoveryLaSensRes1Expected]
    split_ifs <;> decide
  · constructor
    · rw [nciTransitionIdleToDiscoveryLaSelInfoExpected]
      split_ifs <;> decide
    · rw [nciTransitionIdleToDiscoveryLfProtocolTypeExpected]
      split_ifs <;> decide

/-- The identifier that is set has one of the three lengths. -/
theorem length_expectedNfcid1 {self : NciSm} (h : self.Configurable) :
  (self.expectedNfcid1.length = 4 ∨ self.expectedNfcid1.length = 7
      ∨ self.expectedNfcid1.length = 10)
    ∧ nciTransitionIdleToDiscoveryLaSensRes1Expected self
      = if self.expectedNfcid1.length = 4 then 0x00
        else if self.expectedNfcid1.length = 7 then 0x40 else 0x80
  := by
  have hlength : self.expectedNfcid1.length
      = (nciTransitionIdleToDiscoveryLaNfcid1Expected self).len.toNat :=
    List.length_take_of_le (length_nciTransitionIdleToDiscoveryLaNfcid1Expected h).2
  rw [hlength, nciTransitionIdleToDiscoveryLaNfcid1Expected,
    nciTransitionIdleToDiscoveryLaSensRes1Expected]
  rcases h.laNfcid1 with hlen | hlen | hlen | hlen <;> rw [hlen] <;> simp

/-- The values that are set conform. -/
theorem conforms_value {self : NciSm} (h : self.Configurable) (payload : List UInt8)
    (p : ConfigParam) :
  self.Conforms (some ((nciTransitionIdleToDiscoveryCheckConfig self payload).2.value p)) p
  := by
  rw [value_nciTransitionIdleToDiscoveryCheckConfig]
  obtain ⟨hsensRes1, hselInfo, hprotocolType⟩ := expected_masked self
  cases p with
  | laSensRes1 => apply byteConforms_mergedByte hsensRes1
  | laSelInfo => apply byteConforms_mergedByte hselInfo
  | laNfcid1 =>
      use self.expectedNfcid1, rfl, (length_expectedNfcid1 h).1, rfl
      left
      rfl
  | lfProtocolType => apply byteConforms_mergedByte hprotocolType
  | liAHb => rfl

/-! ### CORE_SET_CONFIG_CMD -/

theorem length_value_lt (values : ConfigValues) (p : ConfigParam) :
  (values.value p).length < 256
  := by
  have htake : ∀ (bytes : List UInt8) (len : UInt8), (bytes.take len.toNat).length < 256 := by
    intro bytes len
    apply Nat.lt_of_le_of_lt (List.length_take_le _ _) len.toNat_lt
  cases p with
  | laNfcid1 => apply htake
  | liAHb => apply htake
  | _ => simp [ConfigValues.value]

/-- The value of a parameter with its identifier. -/
def ConfigValues.tlv (values : ConfigValues) (p : ConfigParam) : ConfigTlv :=
  ⟨p.id, UInt8.ofNat (values.value p).length, values.value p,
    (UInt8.toNat_ofNat_of_lt' (length_value_lt values p)).symm⟩

/-- The values that are set. -/
def CoreSetConfigFlags.tlvs (flags : CoreSetConfigFlags) (values : ConfigValues) :
    List ConfigTlv :=
  (ConfigParam.all.filter flags.has).map values.tlv

theorem addEntryIf_tlvs (c : Bool) (t : ConfigTlv) (ts : List ConfigTlv) :
  addEntryIf c t.encode (UInt8.ofNat ts.length :: Tlv.encodeAll ts)
    = UInt8.ofNat (ts ++ if c then [t] else []).length
      :: Tlv.encodeAll (ts ++ if c then [t] else [])
  := by
  cases c with
  | true =>
      rw [addEntryIf, addEntry, if_pos rfl, if_pos rfl, List.length_append, Tlv.encodeAll_append,
        Tlv.encodeAll_cons, Tlv.encodeAll_nil, List.append_nil, UInt8.ofNat_add]
      rfl
  | false =>
      rw [addEntryIf, if_neg (by decide), if_neg (by decide), List.append_nil]

/-- The command is the number of values and the values. -/
theorem setConfigCmd_eq (flags : CoreSetConfigFlags) {values : ConfigValues}
    (hnfcid1 : values.laNfcid1.len.toNat ≤ values.laNfcid1.bytes.length)
    (hhb : values.liAHb.len.toNat ≤ values.liAHb.bytes.length) :
  nciTransitionIdleToDiscoverySetConfigCmd flags values
    = UInt8.ofNat (flags.tlvs values).length :: Tlv.encodeAll (flags.tlvs values)
  := by
  have hlen : ∀ (bytes : List UInt8) (len : UInt8), len.toNat ≤ bytes.length →
      UInt8.ofNat (bytes.take len.toNat).length = len := by
    intro bytes len h
    rw [List.length_take_of_le h, UInt8.ofNat_toNat]
  have hentry : [0x33, values.laNfcid1.len] ++ values.laNfcid1.bytes.take values.laNfcid1.len.toNat
      = (values.tlv .laNfcid1).encode := by
    rw [Tlv.encode, ConfigValues.tlv]
    dsimp only
    rw [ConfigValues.value, hlen _ _ hnfcid1]
    rfl
  have hentry' : [0x59, values.liAHb.len] ++ values.liAHb.bytes.take values.liAHb.len.toNat
      = (values.tlv .liAHb).encode := by
    rw [Tlv.encode, ConfigValues.tlv]
    dsimp only
    rw [ConfigValues.value, hlen _ _ hhb]
    rfl
  have htlvs : flags.tlvs values
      = (((([] ++ if flags.laSensRes1 then [values.tlv .laSensRes1] else [])
          ++ if flags.laSelInfo then [values.tlv .laSelInfo] else [])
          ++ if flags.laNfcid1 then [values.tlv .laNfcid1] else [])
          ++ if flags.lfProtocolType then [values.tlv .lfProtocolType] else [])
          ++ if flags.liAHb then [values.tlv .liAHb] else [] := by
    obtain ⟨a, b, c, d, e⟩ := flags
    cases a <;> cases b <;> cases c <;> cases d <;> cases e <;> rfl
  rw [nciTransitionIdleToDiscoverySetConfigCmd, hentry, hentry', htlvs]
  rw [← addEntryIf_tlvs, ← addEntryIf_tlvs, ← addEntryIf_tlvs, ← addEntryIf_tlvs, ← addEntryIf_tlvs]
  rfl

theorem any_iff (flags : CoreSetConfigFlags) :
  flags.any = true ↔ ∃ p, flags.has p = true
  := by
  constructor
  · intro h
    simp only [CoreSetConfigFlags.any, Bool.or_eq_true] at h
    rcases h with (((h | h) | h) | h) | h
    · exact ⟨.laSensRes1, h⟩
    · exact ⟨.laSelInfo, h⟩
    · exact ⟨.laNfcid1, h⟩
    · exact ⟨.lfProtocolType, h⟩
    · exact ⟨.liAHb, h⟩
  · rintro ⟨p, hp⟩
    cases p <;> simp_all [CoreSetConfigFlags.any, CoreSetConfigFlags.has]

/-- A parameter is among those that are set if it is to be set. -/
theorem mem_tlvs_iff {flags : CoreSetConfigFlags} {values : ConfigValues} {p : ConfigParam} :
  p.id ∈ (flags.tlvs values).map Tlv.type ↔ flags.has p = true
  := by
  rw [CoreSetConfigFlags.tlvs, List.map_map, List.mem_map]
  constructor
  · rintro ⟨q, hq, hid⟩
    obtain rfl : q = p := ConfigParam.id_injective hid
    apply (List.mem_filter.mp hq).2
  · intro hp
    use p, List.mem_filter.mpr ⟨p.mem_all, hp⟩
    rfl

/-- No parameter is set twice. -/
theorem nodup_tlvs (flags : CoreSetConfigFlags) (values : ConfigValues) :
  ((flags.tlvs values).map Tlv.type).Nodup
  := by
  rw [CoreSetConfigFlags.tlvs, List.map_map]
  apply List.pairwise_map.mpr
  have hall : ConfigParam.all.Pairwise (· ≠ ·) := by decide
  apply (hall.filter _).imp
  intro p q hpq hid
  apply hpq (ConfigParam.id_injective hid)

/-- The value of a parameter that is set. -/
theorem lookup_tlvs {flags : CoreSetConfigFlags} {values : ConfigValues} {p : ConfigParam} :
  Tlv.lookup p.id (flags.tlvs values) = if flags.has p then some (values.value p) else none
  := by
  split
  · rename_i hp
    have hsome : ∀ ps : List ConfigParam, p ∈ ps →
        Tlv.lookup p.id (ps.map values.tlv) = some (values.value p) := by
      intro ps
      induction ps with
      | nil => exact fun h => absurd h List.not_mem_nil
      | cons q ps ih =>
          intro hmem
          rw [List.map_cons]
          by_cases hq : q = p
          · rw [hq]
            apply Tlv.lookup_cons_self (values.tlv p)
          · have hid : (values.tlv q).type ≠ p.id := fun h => hq (ConfigParam.id_injective h)
            rw [Tlv.lookup_cons_of_ne hid]
            apply ih ((List.mem_cons.mp hmem).resolve_left (Ne.symm hq))
    apply hsome _ (List.mem_filter.mpr ⟨p.mem_all, hp⟩)
  · rename_i hp
    apply Tlv.lookup_eq_none_iff.mpr
    rw [mem_tlvs_iff]
    apply hp

/-! ### CORE_SET_CONFIG_CMD of the reset transition -/

/-- A value that fits in a parameter. -/
def configTlv (id : UInt8) (value : Counted) : ConfigTlv :=
  ⟨id, value.len, value.bytes, value.toNat_len.symm⟩

theorem length_generalBytes (self : NciSm) :
  (generalBytes self).length < 256
  := by
  have hlength : (generalBytes self).length = 20 := rfl
  rw [hlength]
  decide

/-- The values that the reset transition sets. -/
def resetConfigTlvs (self : NciSm) : List ConfigTlv :=
  [configTlv 0x00 ⟨[UInt8.ofNat (defaultTotalDuration % 256),
      UInt8.ofNat (defaultTotalDuration / 256)], by decide⟩,
    configTlv 0x08 ⟨[0x00], by decide⟩,
    configTlv 0x11 ⟨[0x00], by decide⟩,
    configTlv 0x62 ⟨[0x30], by decide⟩,
    configTlv 0x2a ⟨[0x30], by decide⟩,
    configTlv 0x61 ⟨generalBytes self, length_generalBytes self⟩,
    configTlv 0x29 ⟨generalBytes self, length_generalBytes self⟩]

theorem resetSetConfigCmd_eq (self : NciSm) :
  nciTransitionResetSetConfigCmd self
    = UInt8.ofNat (resetConfigTlvs self).length :: Tlv.encodeAll (resetConfigTlvs self)
  := rfl

theorem nodup_resetConfigTlvs (self : NciSm) :
  ((resetConfigTlvs self).map Tlv.type).Nodup
  := by
  have htypes : (resetConfigTlvs self).map Tlv.type = [0x00, 0x08, 0x11, 0x62, 0x2a, 0x61, 0x29] :=
    rfl
  rw [htypes]
  decide

theorem length_resetConfigTlvs (self : NciSm) :
  (resetConfigTlvs self).length < 256
  := by
  change 7 < 256
  decide

/-! ### Convergence -/

/-- The length of an identifier that LA_SENS_RES_1 tells. -/
def nfcid1Size (sensRes1 : UInt8) : Option Nat :=
  if sensRes1 &&& 0xc0 = 0x00 then some 4
  else if sensRes1 &&& 0xc0 = 0x40 then some 7
  else if sensRes1 &&& 0xc0 = 0x80 then some 10
  else none

/-- The values that are set are those that do not conform, each of them once; after an error it
is all of them. Once they are set everything conforms, the bits that are not checked are as they
were, and LA_SENS_RES_1 tells the length of LA_NFCID1. -/
structure NciSm.Configures (sm : NciSm) (payload : List UInt8) (set : List ConfigTlv) : Prop where
  params : ∀ t ∈ set, ∃ p : ConfigParam, t.type = p.id
  nodup : (set.map Tlv.type).Nodup
  mem_iff : ∀ p : ConfigParam, p.id ∈ set.map Tlv.type
    ↔ (ReportsConfig payload → ¬sm.Conforms (Tlv.lookup p.id (reportedConfig payload)) p)
  conforms : ∀ p : ConfigParam,
    sm.Conforms (Tlv.lookup p.id (Tlv.update set (reportedConfig payload))) p
  kept : ∀ (p : ConfigParam) (mask b : UInt8), p.mask = some mask →
    Tlv.lookup p.id (reportedConfig payload) = some [b] →
    ∃ b', Tlv.lookup p.id (Tlv.update set (reportedConfig payload)) = some [b']
      ∧ b' &&& ~~~mask = b &&& ~~~mask
  size : ∃ b bytes,
    Tlv.lookup ConfigParam.laSensRes1.id (Tlv.update set (reportedConfig payload)) = some [b]
      ∧ Tlv.lookup ConfigParam.laNfcid1.id (Tlv.update set (reportedConfig payload)) = some bytes
      ∧ nfcid1Size b = some bytes.length

section Configures

variable {self : NciSm} (h : self.Configurable) (payload : List UInt8)

/-- The values that the response leads to. -/
def NciSm.configTlvs (self : NciSm) (payload : List UInt8) : List ConfigTlv :=
  (nciTransitionIdleToDiscoveryCheckConfig self payload).1.tlvs
    (nciTransitionIdleToDiscoveryCheckConfig self payload).2

/-- A parameter is what it was, or what it has been set to. -/
theorem lookup_update_configTlvs (p : ConfigParam) :
  Tlv.lookup p.id (Tlv.update (self.configTlvs payload) (reportedConfig payload))
    = if (nciTransitionIdleToDiscoveryCheckConfig self payload).1.has p then
        some ((nciTransitionIdleToDiscoveryCheckConfig self payload).2.value p)
      else Tlv.lookup p.id (reportedConfig payload)
  := by
  rw [Tlv.lookup_update, NciSm.configTlvs, lookup_tlvs]
  split <;> rfl

include h

/-- After the update every parameter conforms. -/
theorem conforms_update (p : ConfigParam) :
  self.Conforms
    (Tlv.lookup p.id (Tlv.update (self.configTlvs payload) (reportedConfig payload))) p
  := by
  rw [lookup_update_configTlvs]
  split
  · apply conforms_value h
  · rename_i hhas
    rw [has_nciTransitionIdleToDiscoveryCheckConfig h, Classical.not_imp, not_not] at hhas
    apply hhas.2

/-- The bits that are not checked are not changed. -/
theorem kept_update {p : ConfigParam} {mask b : UInt8} (hmask : p.mask = some mask)
    (hb : Tlv.lookup p.id (reportedConfig payload) = some [b]) :
  ∃ b', Tlv.lookup p.id (Tlv.update (self.configTlvs payload) (reportedConfig payload)) = some [b']
    ∧ b' &&& ~~~mask = b &&& ~~~mask
  := by
  rw [lookup_update_configTlvs]
  split
  · rename_i hhas
    have hreports : ReportsConfig payload := by
      by_contra hnot
      rw [reportedConfig, if_neg hnot] at hb
      cases hb
    have hnot := (has_nciTransitionIdleToDiscoveryCheckConfig h payload p).mp hhas hreports
    have hmerged : ∀ expected : UInt8, expected &&& mask = expected →
        ¬ByteConforms expected mask (some [b]) →
        mergedByte expected mask (some [b]) &&& ~~~mask = b &&& ~~~mask := by
      intro expected hexpected hconforms
      rw [mergedByte, if_neg fun heq => hconforms ⟨b, rfl, heq⟩]
      apply (mask_merge hexpected b).2
    obtain ⟨hsensRes1, hselInfo, hprotocolType⟩ := expected_masked self
    rw [value_nciTransitionIdleToDiscoveryCheckConfig]
    rw [hb] at hnot
    cases p with
    | laSensRes1 =>
        cases hmask
        rw [ConfigValues.value]
        dsimp only
        rw [hb]
        exact ⟨_, rfl, hmerged _ hsensRes1 hnot⟩
    | laSelInfo =>
        cases hmask
        rw [ConfigValues.value]
        dsimp only
        rw [hb]
        exact ⟨_, rfl, hmerged _ hselInfo hnot⟩
    | lfProtocolType =>
        cases hmask
        rw [ConfigValues.value]
        dsimp only
        rw [hb]
        exact ⟨_, rfl, hmerged _ hprotocolType hnot⟩
    | laNfcid1 => cases hmask
    | liAHb => cases hmask
  · use b, hb

/-- The values that the response leads to configure the controller. -/
theorem configures_configTlvs :
  self.Configures payload (self.configTlvs payload)
  := by
  constructor
  · intro t ht
    obtain ⟨p, -, rfl⟩ := List.mem_map.mp ht
    use p
    rfl
  · apply nodup_tlvs
  · intro p
    rw [NciSm.configTlvs, mem_tlvs_iff]
    apply has_nciTransitionIdleToDiscoveryCheckConfig h
  · apply conforms_update h
  · intro p mask b
    apply kept_update h
  · obtain ⟨b, hb, hbits⟩ := conforms_update h payload .laSensRes1
    obtain ⟨bytes, hbytes, -, hlength, -⟩ := conforms_update h payload .laNfcid1
    obtain ⟨hlengths, hexpected⟩ := length_expectedNfcid1 h
    use b, bytes, hb, hbytes
    rw [hlength, nfcid1Size, hbits, hexpected]
    rcases hlengths with hlen | hlen | hlen <;> rw [hlen] <;> decide

omit h in
theorem configTlvs_eq_nil_iff :
  self.configTlvs payload = []
    ↔ (nciTransitionIdleToDiscoveryCheckConfig self payload).1.any = false
  := by
  rw [← Bool.not_eq_true, any_iff, NciSm.configTlvs, CoreSetConfigFlags.tlvs, List.map_eq_nil_iff,
    List.filter_eq_nil_iff]
  constructor
  · rintro hnone ⟨p, hp⟩
    apply hnone p p.mem_all hp
  · intro hnone p _ hp
    apply hnone ⟨p, hp⟩

omit h in
/-- The handler sends the values, if there are any. -/
theorem nciTransitionIdleToDiscoveryGetConfigRsp_eq {ι : Type} {E : NciSmIo ι} {w : SmWorld ι}
    (hconf : w.sm.Configurable) (hactive : w.sm.activeTransition = some .idleToDiscovery) :
  nciTransitionIdleToDiscoveryGetConfigRsp E .success payload w
    = if w.sm.configTlvs payload = [] then nciTransitionIdleToDiscoveryConfigureRouting E w
      else (nciSmSendCommand E nciGidCore nciOidCoreSetConfig
        (some (UInt8.ofNat (w.sm.configTlvs payload).length
          :: Tlv.encodeAll (w.sm.configTlvs payload))) .idleToDiscoverySetConfigRsp w).2
  := by
  have hcmd : nciTransitionIdleToDiscoverySetConfigCmd
      (nciTransitionIdleToDiscoveryCheckConfig w.sm payload).1
      (nciTransitionIdleToDiscoveryCheckConfig w.sm payload).2
      = UInt8.ofNat (w.sm.configTlvs payload).length
        :: Tlv.encodeAll (w.sm.configTlvs payload) := by
    apply setConfigCmd_eq
    · rw [value_nciTransitionIdleToDiscoveryCheckConfig]
      apply (length_nciTransitionIdleToDiscoveryLaNfcid1Expected hconf).2
    · rw [value_nciTransitionIdleToDiscoveryCheckConfig]
      apply hconf.liAHb
  rw [nciTransitionIdleToDiscoveryGetConfigRsp, nciTransitionRsp,
    if_neg (not_or.mpr ⟨by decide, not_not.mpr hactive⟩), if_neg (by decide)]
  simp only [configTlvs_eq_nil_iff]
  cases hany : (nciTransitionIdleToDiscoveryCheckConfig w.sm payload).1.any with
  | true =>
      rw [if_pos rfl, if_neg (by decide), ← hcmd]
      rfl
  | false =>
      rw [if_neg (by decide), if_pos rfl]

omit h in
/-- The command says how many values there are. -/
theorem lists_configTlvs :
  Tlv.Lists (self.configTlvs payload)
    (UInt8.ofNat (self.configTlvs payload).length :: Tlv.encodeAll (self.configTlvs payload))
  := by
  use UInt8.ofNat (self.configTlvs payload).length
  refine ⟨?_, rfl⟩
  apply UInt8.toNat_ofNat_of_lt'
  have hle : (self.configTlvs payload).length ≤ ConfigParam.all.length := by
    rw [NciSm.configTlvs, CoreSetConfigFlags.tlvs, List.length_map]
    apply List.length_filter_le
  apply Nat.lt_of_le_of_lt hle
  decide

end Configures

/-- What the handler of CORE_GET_CONFIG_RSP sends is a list of values that configures the
controller, and if a later response reports the configuration that results, then it sends
nothing. -/
def ConfigConverges {ι : Type} (E : NciSmIo ι) (payload : List UInt8) (w : SmWorld ι) : Prop :=
  ∃ set : List ConfigTlv,
    ((set = [] ∧ nciTransitionIdleToDiscoveryGetConfigRsp E .success payload w
          = nciTransitionIdleToDiscoveryConfigureRouting E w)
        ∨ (set ≠ [] ∧ ∃ cmd, Tlv.Lists set cmd
          ∧ nciTransitionIdleToDiscoveryGetConfigRsp E .success payload w
            = (nciSmSendCommand E nciGidCore nciOidCoreSetConfig (some cmd)
                .idleToDiscoverySetConfigRsp w).2))
      ∧ w.sm.Configures payload set
      ∧ ∀ payload', ReportsConfig payload' →
        (∀ p : ConfigParam, Tlv.lookup p.id (reportedConfig payload')
          = Tlv.lookup p.id (Tlv.update set (reportedConfig payload))) →
        nciTransitionIdleToDiscoveryGetConfigRsp E .success payload' w
          = nciTransitionIdleToDiscoveryConfigureRouting E w

/-- Whatever the response is, the configuration converges in one step. -/
theorem configConverges {ι : Type} {E : NciSmIo ι} {w : SmWorld ι} (hconf : w.sm.Configurable)
    (hactive : w.sm.activeTransition = some .idleToDiscovery) (payload : List UInt8) :
  ConfigConverges E payload w
  := by
  have hconfigures := configures_configTlvs hconf payload
  use w.sm.configTlvs payload
  refine ⟨?_, hconfigures, ?_⟩
  · rw [nciTransitionIdleToDiscoveryGetConfigRsp_eq payload hconf hactive]
    by_cases hnil : w.sm.configTlvs payload = []
    · left
      rw [if_pos hnil]
      exact ⟨hnil, rfl⟩
    · right
      rw [if_neg hnil]
      exact ⟨hnil, _, lists_configTlvs payload, rfl⟩
  · intro payload' hreports hsame
    rw [nciTransitionIdleToDiscoveryGetConfigRsp_eq payload' hconf hactive]
    apply if_pos
    rw [configTlvs_eq_nil_iff, ← Bool.not_eq_true, any_iff]
    rintro ⟨p, hp⟩
    apply (has_nciTransitionIdleToDiscoveryCheckConfig hconf payload' p).mp hp hreports
    rw [hsame]
    apply hconfigures.conforms

/-- The controller reports LA_SENS_RES_1 alone, with bits that are not checked. -/
theorem configConverges_sensRes1 :
  ConfigConverges (SmHost.quiet.io 0) [0x00, 1, 0x30, 1, 0x44]
    (SmHost.quiet.run 0 (SmWorld.new nciSmDefault) (eventsToDiscovery.take 4))
  := by
  apply configConverges
  · constructor <;> decide
  · decide

end Nci
