import LibNciCore.Util.Config

/-!
# Notifications and their layout

RF_INTF_ACTIVATED_NTF and RF_DISCOVER_NTF consist of fields of one byte and of areas of
parameters, each of which comes after a byte with its length. The parsers get back what has been
written in that layout, whatever follows it, and accept nothing that is shorter.
-/

namespace Nci

open Reads

/-! ### Bytes of the enumerations -/

/-- The byte for a mode. -/
def NciMode.byte : NciMode → UInt8
  | .passivePollA => 0x00
  | .passivePollB => 0x01
  | .passivePollF => 0x02
  | .activePollA => 0x03
  | .activePollF => 0x05
  | .passivePollV => 0x06
  | .passiveListenA => 0x80
  | .passiveListenB => 0x81
  | .passiveListenF => 0x82
  | .activeListenA => 0x83
  | .activeListenF => 0x85
  | .passiveListenV => 0x86
  | .other b => b

/-- No byte is lost when it is taken for a mode. -/
@[simp]
theorem NciMode.byte_ofByte (b : UInt8) :
  (NciMode.ofByte b).byte = b
  := by
  unfold NciMode.ofByte
  repeat' split
  all_goals first
    | exact Eq.symm ‹_›
    | rfl

@[simp]
theorem NciProtocol.byte_ofByte (b : UInt8) :
  (NciProtocol.ofByte b).byte = b
  := by
  unfold NciProtocol.ofByte
  repeat' split
  all_goals first
    | exact Eq.symm ‹_›
    | rfl

@[simp]
theorem NciRfInterface.byte_ofByte (b : UInt8) :
  (NciRfInterface.ofByte b).byte = b
  := by
  unfold NciRfInterface.ofByte
  repeat' split
  all_goals first
    | exact Eq.symm ‹_›
    | rfl

/-! ### Areas -/

/-- Bytes whose number fits in a byte. -/
structure Counted where
  bytes : List UInt8
  length_lt : bytes.length < 256

namespace Counted

/-- The number of the bytes. -/
def len (c : Counted) : UInt8 := UInt8.ofNat c.bytes.length

@[simp]
theorem toNat_len (c : Counted) :
  c.len.toNat = c.bytes.length
  := UInt8.toNat_ofNat_of_lt' c.length_lt

end Counted

/-- A view of the bytes that are found at `i`. There is no view of no bytes. -/
structure Viewed (mem : Nat → UInt8) (start : Option Nat) (n i : Nat) (bytes : List UInt8) :
    Prop where
  size : n = bytes.length
  start : start = if bytes = [] then none else some i
  bytes : (Reads.bytes i n).value mem = bytes

/-! ### Memories -/

/-- What is found after the first bytes of a memory. -/
theorem memory_append_right (before bytes : List UInt8) (i : Nat) :
  memory (before ++ bytes) (before.length + i) = memory bytes i
  := by
  simp only [memory, List.getD_eq_getElem?_getD]
  rw [List.getElem?_append_right (Nat.le_add_right _ _), Nat.add_sub_cancel_left]

theorem memory_append_left {bytes : List UInt8} (rest : List UInt8) {i : Nat}
    (h : i < bytes.length) :
  memory (bytes ++ rest) i = memory bytes i
  := by
  simp only [memory, List.getD_eq_getElem?_getD]
  rw [List.getElem?_append_left h]

/-- The bytes at the start of a memory are read. -/
theorem value_bytes_memory (bytes rest : List UInt8) :
  ((List.range bytes.length).map fun i => memory (bytes ++ rest) i) = bytes
  := by
  apply List.ext_getElem
  · simp
  · intro i hi _
    have hlt : i < bytes.length := by simpa using hi
    rw [List.getElem_map, List.getElem_range, memory_append_left rest hlt, memory,
      List.getD_eq_getElem?_getD, List.getElem?_eq_getElem hlt, Option.getD_some]

/-- An area that follows other bytes is viewed where it is. -/
theorem viewed_memory (before : List UInt8) (c : Counted) (rest : List UInt8) :
  Viewed (memory (before ++ (c.bytes ++ rest)))
    (if c.len.toNat ≠ 0 then some before.length else none) c.len.toNat before.length c.bytes
  := by
  constructor
  · apply c.toNat_len
  · rw [c.toNat_len]
    by_cases h : c.bytes = []
    · simp [h]
    · simp [h]
  · rw [value_bytes, c.toNat_len]
    simp only [memory_append_right]
    apply value_bytes_memory

/-! ### RF_INTF_ACTIVATED_NTF -/

/-- The fields of RF_INTF_ACTIVATED_NTF. -/
structure RfIntfActivatedNtf where
  discoveryId : UInt8
  rfIntf : UInt8
  protocol : UInt8
  mode : UInt8
  maxDataPacketSize : UInt8
  numCredits : UInt8
  modeParam : Counted
  dataExchangeMode : UInt8
  transmitRate : UInt8
  receiveRate : UInt8
  activationParam : Counted

/-- The notification as it is written. -/
def RfIntfActivatedNtf.encode (f : RfIntfActivatedNtf) : List UInt8 :=
  [f.discoveryId, f.rfIntf, f.protocol, f.mode, f.maxDataPacketSize, f.numCredits,
      f.modeParam.len]
    ++ f.modeParam.bytes
    ++ [f.dataExchangeMode, f.transmitRate, f.receiveRate, f.activationParam.len]
    ++ f.activationParam.bytes

/-- The parsed notification has the fields of one that is found at `pkt`. -/
structure NciIntfActivationNtf.Reports (ntf : NciIntfActivationNtf) (mem : Nat → UInt8)
    (pkt : Nat) (f : RfIntfActivatedNtf) : Prop where
  discoveryId : ntf.discoveryId = f.discoveryId
  rfIntf : ntf.rfIntf.byte = f.rfIntf
  protocol : ntf.protocol.byte = f.protocol
  mode : ntf.mode.byte = f.mode
  maxDataPacketSize : ntf.maxDataPacketSize = f.maxDataPacketSize
  numCredits : ntf.numCredits = f.numCredits
  modeParam : Viewed mem ntf.modeParamBytes ntf.modeParamLen (pkt + 7) f.modeParam.bytes
  dataExchangeMode : ntf.dataExchangeMode.byte = f.dataExchangeMode
  transmitRate : ntf.transmitRate = f.transmitRate
  receiveRate : ntf.receiveRate = f.receiveRate
  activationParam : Viewed mem ntf.activationParamBytes ntf.activationParamLen
    (pkt + (11 + f.modeParam.bytes.length)) f.activationParam.bytes

/-- The notification that is parsed, if it is long enough. -/
theorem value_intfActivatedNtf {mem : Nat → UInt8} {pkt len : Nat}
    (h : 11 + (mem (pkt + 6)).toNat + (mem (pkt + (10 + (mem (pkt + 6)).toNat))).toNat ≤ len) :
  ∃ modeParam activationParam, (nciParseIntfActivatedNtf pkt len).value mem = some
    { discoveryId := mem pkt
      rfIntf := .ofByte (mem (pkt + 1))
      protocol := .ofByte (mem (pkt + 2))
      mode := .ofByte (mem (pkt + 3))
      maxDataPacketSize := mem (pkt + 4)
      numCredits := mem (pkt + 5)
      modeParamLen := (mem (pkt + 6)).toNat
      modeParamBytes := if (mem (pkt + 6)).toNat ≠ 0 then some (pkt + 7) else none
      modeParam := modeParam
      dataExchangeMode := .ofByte (mem (pkt + (7 + (mem (pkt + 6)).toNat)))
      transmitRate := mem (pkt + (8 + (mem (pkt + 6)).toNat))
      receiveRate := mem (pkt + (9 + (mem (pkt + 6)).toNat))
      activationParamLen := (mem (pkt + (10 + (mem (pkt + 6)).toNat))).toNat
      activationParamBytes :=
        if (mem (pkt + (10 + (mem (pkt + 6)).toNat))).toNat ≠ 0
        then some (pkt + (11 + (mem (pkt + 6)).toNat)) else none
      activationParam := activationParam }
  := by
  have hlen : 6 < len := by omega
  have hcount : 10 + (mem (pkt + 6)).toNat < len := by omega
  rw [nciParseIntfActivatedNtf, if_pos hlen, value_bind, value_byte, value_bind, value_ite,
    if_pos hcount, value_byte, if_pos h]
  exact ⟨_, _, rfl⟩

/-- What is accepted is long enough for both areas. -/
theorem isSome_intfActivatedNtf_iff (mem : Nat → UInt8) (pkt len : Nat) :
  ((nciParseIntfActivatedNtf pkt len).value mem).isSome = true
    ↔ 11 + (mem (pkt + 6)).toNat + (mem (pkt + (10 + (mem (pkt + 6)).toNat))).toNat ≤ len
  := by
  constructor
  · intro h
    obtain ⟨ntf, hntf⟩ := Option.isSome_iff_exists.mp h
    rw [nciParseIntfActivatedNtf] at hntf
    obtain ⟨-, hntf⟩ := value_guard hntf
    rw [value_bind, value_byte, value_bind] at hntf
    obtain ⟨hle, -⟩ := value_guard hntf
    rw [value_ite, value_byte] at hle
    split at hle
    · apply hle
    · omega
  · intro h
    obtain ⟨_, _, hvalue⟩ := value_intfActivatedNtf h
    rw [hvalue]
    rfl

/-- The fields of a notification are where its layout says. -/
theorem reports_intfActivatedNtf (before rest : List UInt8) (f : RfIntfActivatedNtf) :
  ∃ ntf, (nciParseIntfActivatedNtf before.length (f.encode ++ rest).length).value
      (memory (before ++ (f.encode ++ rest))) = some ntf
    ∧ ntf.Reports (memory (before ++ (f.encode ++ rest))) before.length f
  := by
  obtain ⟨mem, hmem⟩ : ∃ mem, mem = memory (before ++ (f.encode ++ rest)) := ⟨_, rfl⟩
  obtain ⟨head, hhead⟩ : ∃ head, head = [f.discoveryId, f.rfIntf, f.protocol, f.mode,
      f.maxDataPacketSize, f.numCredits, f.modeParam.len] := ⟨_, rfl⟩
  obtain ⟨middle, hmiddle⟩ : ∃ middle, middle
      = [f.dataExchangeMode, f.transmitRate, f.receiveRate, f.activationParam.len] := ⟨_, rfl⟩
  have hencode : before ++ (f.encode ++ rest)
      = before
        ++ (head ++ (f.modeParam.bytes ++ (middle ++ (f.activationParam.bytes ++ rest)))) := by
    simp [RfIntfActivatedNtf.encode, hhead, hmiddle]
  have hhead7 : head.length = 7 := by rw [hhead]; rfl
  have hmiddle4 : middle.length = 4 := by rw [hmiddle]; rfl
  have hfirst : ∀ i < 7, mem (before.length + i) = memory head i := by
    intro i hi
    rw [hmem, hencode, memory_append_right, memory_append_left _ (hhead7 ▸ hi)]
  have hsecond : ∀ i < 4, mem (before.length + (7 + i + f.modeParam.len.toNat))
      = memory middle i := by
    intro i hi
    have hoffset : 7 + i + f.modeParam.len.toNat
        = head.length + (f.modeParam.bytes.length + i) := by
      rw [hhead7, Counted.toNat_len]
      omega
    rw [hmem, hencode, memory_append_right, hoffset, memory_append_right, memory_append_right,
      memory_append_left _ (hmiddle4 ▸ hi)]
  rw [hhead] at hfirst
  rw [hmiddle] at hsecond
  have h6 : mem (before.length + 6) = f.modeParam.len := hfirst 6 (by decide)
  have h10 : mem (before.length + (10 + f.modeParam.len.toNat)) = f.activationParam.len :=
    hsecond 3 (by decide)
  have hmode : Viewed mem (if f.modeParam.len.toNat ≠ 0 then some (before.length + 7) else none)
      f.modeParam.len.toNat (before.length + 7) f.modeParam.bytes := by
    have hview := viewed_memory (before ++ head) f.modeParam
      (middle ++ (f.activationParam.bytes ++ rest))
    rw [List.append_assoc, ← hencode, ← hmem, List.length_append, hhead7] at hview
    exact hview
  have hactivation : Viewed mem
      (if f.activationParam.len.toNat ≠ 0
        then some (before.length + (11 + f.modeParam.len.toNat)) else none)
      f.activationParam.len.toNat (before.length + (11 + f.modeParam.len.toNat))
      f.activationParam.bytes := by
    have hview := viewed_memory (before ++ (head ++ (f.modeParam.bytes ++ middle)))
      f.activationParam rest
    have hlength : (before ++ (head ++ (f.modeParam.bytes ++ middle))).length
        = before.length + (11 + f.modeParam.len.toNat) := by
      simp only [List.length_append, hhead7, hmiddle4, Counted.toNat_len]
      omega
    simp only [hlength, List.append_assoc, ← hencode, ← hmem] at hview
    exact hview
  have hlen : 11 + f.modeParam.len.toNat + f.activationParam.len.toNat
      ≤ (f.encode ++ rest).length := by
    have hl := congrArg List.length hencode
    simp only [List.length_append, hhead7, hmiddle4] at hl
    simp only [List.length_append, Counted.toNat_len]
    omega
  rw [← hmem]
  obtain ⟨modeParam, activationParam, hvalue⟩ := @value_intfActivatedNtf mem
    before.length (f.encode ++ rest).length (by rw [h6, h10]; exact hlen)
  rw [h6, h10] at hvalue
  refine ⟨_, hvalue, ?_⟩
  constructor
  case modeParam => exact hmode
  case activationParam =>
    rw [← Counted.toNat_len]
    exact hactivation
  case discoveryId => exact hfirst 0 (by decide)
  case rfIntf => rw [NciRfInterface.byte_ofByte]; exact hfirst 1 (by decide)
  case protocol => rw [NciProtocol.byte_ofByte]; exact hfirst 2 (by decide)
  case mode => rw [NciMode.byte_ofByte]; exact hfirst 3 (by decide)
  case maxDataPacketSize => exact hfirst 4 (by decide)
  case numCredits => exact hfirst 5 (by decide)
  case dataExchangeMode => rw [NciMode.byte_ofByte]; exact hsecond 0 (by decide)
  case transmitRate => exact hsecond 1 (by decide)
  case receiveRate => exact hsecond 2 (by decide)

/-! ### RF_DISCOVER_NTF -/

/-- The fields of RF_DISCOVER_NTF. -/
structure RfDiscoverNtf where
  discoveryId : UInt8
  protocol : UInt8
  mode : UInt8
  param : Counted
  type : UInt8

/-- The notification as it is written. -/
def RfDiscoverNtf.encode (f : RfDiscoverNtf) : List UInt8 :=
  [f.discoveryId, f.protocol, f.mode, f.param.len] ++ f.param.bytes ++ [f.type]

/-- The parsed notification has the fields of one that is found at `pkt`. It is the last one
unless its type says that there are more. -/
structure NciDiscoveryNtf.Reports (ntf : NciDiscoveryNtf) (mem : Nat → UInt8) (pkt : Nat)
    (f : RfDiscoverNtf) : Prop where
  discoveryId : ntf.discoveryId = f.discoveryId
  protocol : ntf.protocol.byte = f.protocol
  mode : ntf.mode.byte = f.mode
  param : Viewed mem ntf.paramBytes ntf.paramLen (pkt + 4) f.param.bytes
  last : ntf.last = false ↔ f.type = 2

/-- The notification that is parsed, if it is long enough. -/
theorem value_discoverNtf {mem : Nat → UInt8} {pkt len : Nat} (param : Bool)
    (h : 5 + (mem (pkt + 3)).toNat ≤ len) :
  ∃ modeParam, (nciParseDiscoverNtf param pkt len).value mem = some
    { discoveryId := mem pkt
      protocol := .ofByte (mem (pkt + 1))
      mode := .ofByte (mem (pkt + 2))
      paramLen := (mem (pkt + 3)).toNat
      paramBytes := if (mem (pkt + 3)).toNat ≠ 0 then some (pkt + 4) else none
      param := modeParam
      last := mem (pkt + (4 + (mem (pkt + 3)).toNat)) != 2 }
  := by
  have hlen : 5 ≤ len := by omega
  rw [nciParseDiscoverNtf, if_pos hlen, value_bind, value_byte, if_pos h]
  exact ⟨_, rfl⟩

/-- What is accepted is long enough for its area. -/
theorem isSome_discoverNtf_iff (mem : Nat → UInt8) (param : Bool) (pkt len : Nat) :
  ((nciParseDiscoverNtf param pkt len).value mem).isSome = true
    ↔ 5 + (mem (pkt + 3)).toNat ≤ len
  := by
  constructor
  · intro h
    obtain ⟨ntf, hntf⟩ := Option.isSome_iff_exists.mp h
    rw [nciParseDiscoverNtf] at hntf
    obtain ⟨-, hntf⟩ := value_guard hntf
    rw [value_bind, value_byte] at hntf
    apply (value_guard hntf).1
  · intro h
    obtain ⟨_, hvalue⟩ := value_discoverNtf param h
    rw [hvalue]
    rfl

/-- The fields of a notification are where its layout says. -/
theorem reports_discoverNtf (before rest : List UInt8) (param : Bool) (f : RfDiscoverNtf) :
  ∃ ntf, (nciParseDiscoverNtf param before.length (f.encode ++ rest).length).value
      (memory (before ++ (f.encode ++ rest))) = some ntf
    ∧ ntf.Reports (memory (before ++ (f.encode ++ rest))) before.length f
  := by
  obtain ⟨mem, hmem⟩ : ∃ mem, mem = memory (before ++ (f.encode ++ rest)) := ⟨_, rfl⟩
  obtain ⟨head, hhead⟩ : ∃ head, head = [f.discoveryId, f.protocol, f.mode, f.param.len] :=
    ⟨_, rfl⟩
  have hencode : before ++ (f.encode ++ rest)
      = before ++ (head ++ (f.param.bytes ++ (f.type :: rest))) := by
    simp [RfDiscoverNtf.encode, hhead]
  have hhead4 : head.length = 4 := by rw [hhead]; rfl
  have hfirst : ∀ i < 4, mem (before.length + i) = memory head i := by
    intro i hi
    rw [hmem, hencode, memory_append_right, memory_append_left _ (hhead4 ▸ hi)]
  have htype : mem (before.length + (4 + f.param.len.toNat)) = f.type := by
    have hoffset : 4 + f.param.len.toNat = head.length + (f.param.bytes.length + 0) := by
      rw [hhead4, Counted.toNat_len]
      rfl
    rw [hmem, hencode, memory_append_right, hoffset, memory_append_right, memory_append_right]
    rfl
  rw [hhead] at hfirst
  have h3 : mem (before.length + 3) = f.param.len := hfirst 3 (by decide)
  have hparam : Viewed mem (if f.param.len.toNat ≠ 0 then some (before.length + 4) else none)
      f.param.len.toNat (before.length + 4) f.param.bytes := by
    have hview := viewed_memory (before ++ head) f.param (f.type :: rest)
    rw [List.append_assoc, ← hencode, ← hmem, List.length_append, hhead4] at hview
    exact hview
  have hlen : 5 + f.param.len.toNat ≤ (f.encode ++ rest).length := by
    have hl := congrArg List.length hencode
    simp only [List.length_append, List.length_cons, hhead4] at hl
    simp only [List.length_append, Counted.toNat_len]
    omega
  rw [← hmem]
  obtain ⟨modeParam, hvalue⟩ := @value_discoverNtf mem before.length
    (f.encode ++ rest).length param (by rw [h3]; exact hlen)
  rw [h3, htype] at hvalue
  refine ⟨_, hvalue, ?_⟩
  constructor
  case param => exact hparam
  case discoveryId => exact hfirst 0 (by decide)
  case protocol => rw [NciProtocol.byte_ofByte]; exact hfirst 1 (by decide)
  case mode => rw [NciMode.byte_ofByte]; exact hfirst 2 (by decide)
  case last => simp

/-! ### Both notifications -/

/-- The parsers get back the fields of the notifications from their layouts, whatever comes before
and behind them, and accept exactly what is long enough for the lengths that it contains. -/
theorem parsersInvertLayouts :
  (∀ (before rest : List UInt8) (f : RfIntfActivatedNtf),
      ∃ ntf, (nciParseIntfActivatedNtf before.length (f.encode ++ rest).length).value
          (memory (before ++ (f.encode ++ rest))) = some ntf
        ∧ ntf.Reports (memory (before ++ (f.encode ++ rest))) before.length f)
    ∧ (∀ (mem : Nat → UInt8) (pkt len : Nat),
      ((nciParseIntfActivatedNtf pkt len).value mem).isSome = true
        ↔ 11 + (mem (pkt + 6)).toNat + (mem (pkt + (10 + (mem (pkt + 6)).toNat))).toNat ≤ len)
    ∧ (∀ (before rest : List UInt8) (param : Bool) (f : RfDiscoverNtf),
      ∃ ntf, (nciParseDiscoverNtf param before.length (f.encode ++ rest).length).value
          (memory (before ++ (f.encode ++ rest))) = some ntf
        ∧ ntf.Reports (memory (before ++ (f.encode ++ rest))) before.length f)
    ∧ ∀ (mem : Nat → UInt8) (param : Bool) (pkt len : Nat),
      ((nciParseDiscoverNtf param pkt len).value mem).isSome = true
        ↔ 5 + (mem (pkt + 3)).toNat ≤ len
  := by
  constructor
  · apply reports_intfActivatedNtf
  constructor
  · apply isSome_intfActivatedNtf_iff
  constructor
  · apply reports_discoverNtf
  · apply isSome_discoverNtf_iff

end Nci
