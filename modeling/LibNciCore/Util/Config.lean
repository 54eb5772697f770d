import LibNciCore.Util.Parse

/-!
# Configuration parameters

The identifiers of configuration parameters, NFCID1 values and historical bytes, and the
parsers of a list of parameters and of RF_DEACTIVATE_NTF.
-/

namespace Nci

/-! ### Modes -/

/-- The mode is a listen mode. A mode that is not known is taken for a poll mode. -/
def nciListenMode : NciMode → Bool
  | .passiveListenA | .passiveListenB | .passiveListenF | .activeListenA | .activeListenF
  | .passiveListenV => true
  | .passivePollA | .passivePollB | .passivePollF | .activePollA | .activePollF | .passivePollV
  | .other _ => false

/-- The byte for a protocol. -/
def NciProtocol.byte : NciProtocol → UInt8
  | .undetermined => 0x00
  | .t1t => 0x01
  | .t2t => 0x02
  | .t3t => 0x03
  | .isoDep => 0x04
  | .nfcDep => 0x05
  | .t5t => 0x06
  | .proprietary => 0x80
  | .other b => b

/-- The byte for an RF interface. -/
def NciRfInterface.byte : NciRfInterface → UInt8
  | .nfceeDirect => 0x00
  | .frame => 0x01
  | .isoDep => 0x02
  | .nfcDep => 0x03
  | .proprietary => 0x80
  | .other b => b

/-! ### Values -/

/-- NFCID1 can be 4, 7, or 10 bytes long. -/
structure NciNfcid1 where
  len : UInt8
  bytes : List UInt8
  deriving DecidableEq, Repr

/-- Historical bytes, at most 15 of them. -/
structure NciAtsHb where
  len : UInt8
  bytes : List UInt8
  deriving DecidableEq, Repr

def nciNfcid1Dynamic (id : NciNfcid1) : Bool :=
  id.len == 0 || (id.len == 4 && id.bytes.getD 0 0 == 0x08)

/-- Two values are the same identifier. Of a dynamic one only the first byte counts. -/
def nciNfcid1Equal (id1 id2 : NciNfcid1) : Bool :=
  if id1.len = id2.len then
    if id1.len = 4 ∧ id1.bytes.getD 0 0 = 0x08 then id1.bytes.getD 0 0 == id2.bytes.getD 0 0
    else id1.bytes.take (min id1.len.toNat 10) == id2.bytes.take (min id1.len.toNat 10)
  else if id1.len = 0 then nciNfcid1Dynamic id2
  else if id2.len = 0 then nciNfcid1Dynamic id1
  else false

/-! ### Lists of parameters -/

/-- The value of the first parameter with the given identifier. The parameters start at `ptr`
and do not go beyond `stop`. -/
def nciParseFindConfigParam (id : UInt8) : Nat → Nat → Nat → Reads (Option GUtilData)
  | nparams + 1, ptr, stop =>
      if ptr + 2 ≤ stop then do
        let len := (← Reads.byte (ptr + 1)).toNat
        if ptr + 2 + len ≤ stop then do
          let b ← Reads.byte ptr
          if b = id then pure (some ⟨some (ptr + 2), len⟩)
          else nciParseFindConfigParam id nparams (ptr + 2 + len) stop
        else pure none
      else pure none
  | 0, _, _ => pure none

/-- A number in little endian order. -/
def littleEndian (bytes : List UInt8) : UInt32 :=
  bytes.foldr (fun b value => b.toUInt32 + (value <<< 8)) 0

/-- The number of bytes of a parameter of at most four bytes and its value. -/
def nciParseConfigParamUint (id : UInt8) (nparams ptr stop : Nat) : Reads (Option (Nat × UInt32)) :=
  do
  let data ← nciParseFindConfigParam id nparams ptr stop
  match data with
  | some ⟨some i, size⟩ =>
      if 0 < size ∧ size ≤ 4 then do
        let bytes ← Reads.bytes i size
        pure (some (size, littleEndian bytes))
      else pure none
  | _ => pure none

/-- The value of a parameter that is an NFCID1. -/
def nciParseConfigParamNfcid1 (id : UInt8) (nparams ptr stop : Nat) : Reads (Option NciNfcid1) := do
  let data ← nciParseFindConfigParam id nparams ptr stop
  match data with
  | some ⟨some i, size⟩ =>
      if size = 4 ∨ size = 7 ∨ size = 10 then do
        let bytes ← Reads.bytes i size
        pure (some ⟨UInt8.ofNat size, bytes ++ List.replicate (10 - size) 0⟩)
      else pure none
  | _ => pure none

/-! ### Deactivation -/

/-- The type of a deactivation. -/
inductive NciDeactivationType where
  | idle
  | sleep
  | sleepAf
  | discovery
  deriving DecidableEq, Repr

def NciDeactivationType.ofByte (b : UInt8) : Option NciDeactivationType :=
  if b = 0x00 then some idle
  else if b = 0x01 then some sleep
  else if b = 0x02 then some sleepAf
  else if b = 0x03 then some discovery
  else none

abbrev nciDeactivationReasonDhRequest : UInt8 := 0x00

/-- RF_DEACTIVATE_NTF -/
structure NciRfDeactivateNtf where
  type : NciDeactivationType
  reason : UInt8
  deriving DecidableEq, Repr

/-- Parses RF_DEACTIVATE_NTF. -/
def nciParseRfDeactivateNtf (pkt : List UInt8) : Option NciRfDeactivateNtf :=
  match pkt with
  | type :: reason :: _ => (NciDeactivationType.ofByte type).map fun type => ⟨type, reason⟩
  | _ => none

end Nci
