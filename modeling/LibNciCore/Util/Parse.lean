import LibNciCore.Util.Types

/-!
# Parsing notifications

The parsers of RF_DISCOVER_NTF and RF_INTF_ACTIVATED_NTF, and those of the parameters inside
these notifications. A parser is given the offset and the length of the bytes to parse. It
reads them from a memory that does not end where the notification ends.
-/

namespace Nci

/-! ### Conversion tables -/

/-- Conversion of FSCI to FSC and of FSDI to FSD. -/
def fscTable : List Nat := [16, 24, 32, 40, 48, 64, 96, 128, 256]

/-- The number of bytes for an index into the table, whose last entry stands for all that
follow. -/
def fscOf (index : UInt8) : Nat := fscTable.getD index.toNat 256

/-! ### Parameters of a mode -/

def nciParseModeParamPollA (bytes len : Nat) : Reads (Option NciModeParam) :=
  if 4 ≤ len then do
    let sensRes ← Reads.bytes bytes 2
    let nfcid1Len ← Reads.byte (bytes + 2)
    if nfcid1Len.toNat ≤ 10 ∧ nfcid1Len.toNat + 4 ≤ len then do
      let selResLen ← Reads.byte (bytes + (nfcid1Len.toNat + 3))
      if nfcid1Len.toNat + 4 + selResLen.toNat ≤ len then do
        let nfcid1 ← Reads.bytes (bytes + 3) nfcid1Len.toNat
        let selRes ←
          (if selResLen ≠ 0 then Reads.byte (bytes + (nfcid1Len.toNat + 4)) else pure 0)
        pure (some (.pollA
          { sensRes := sensRes, nfcid1Len := nfcid1Len,
            nfcid1 := nfcid1 ++ List.replicate (10 - nfcid1Len.toNat) 0,
            selResLen := selResLen, selRes := selRes }))
      else pure none
    else pure none
  else pure none

def nciParseModeParamPollB (bytes len : Nat) : Reads (Option NciModeParam) :=
  if 1 ≤ len then do
    let sensbResLen ← Reads.byte bytes
    if 11 ≤ sensbResLen.toNat then do
      let fsci ← Reads.byte (bytes + 10)
      let nfcid0 ← Reads.bytes (bytes + 1) 4
      let appData ← Reads.bytes (bytes + 5) 4
      pure (some (.pollB
        { nfcid0 := nfcid0, fsc := fscOf (fsci >>> 4), appData := appData,
          protInfo := ⟨some (bytes + 9), sensbResLen.toNat - 8⟩ }))
    else pure none
  else pure none

def nciParseModeParamPollF (bytes len : Nat) : Reads (Option NciModeParam) :=
  if 1 < len then do
    let sensfResLen ← Reads.byte (bytes + 1)
    if 8 ≤ sensfResLen.toNat ∧ sensfResLen.toNat + 2 ≤ len then do
      let bitrate ← Reads.byte bytes
      let nfcid2 ← Reads.bytes (bytes + 2) 8
      pure (some (.pollF { bitrate := bitrate, nfcid2 := nfcid2 }))
    else pure none
  else pure none

def nciParseModeParamListenF (bytes len : Nat) : Reads (Option NciModeParam) :=
  if 0 < len then do
    let nfcid2Len ← Reads.byte bytes
    if nfcid2Len.toNat + 1 ≤ len then
      if nfcid2Len = 0 then pure (some (.listenF { nfcid2 := GUtilData.zero }))
      else if nfcid2Len = 8 then
        pure (some (.listenF { nfcid2 := ⟨some (bytes + 1), nfcid2Len.toNat⟩ }))
      else pure none
    else pure none
  else pure none

def nciParseModeParamPollV (bytes len : Nat) : Reads (Option NciModeParam) :=
  if 10 ≤ len then do
    let resFlag ← Reads.byte bytes
    let dsfid ← Reads.byte (bytes + 1)
    let uid ← Reads.bytes (bytes + 2) 8
    pure (some (.pollV { resFlag := resFlag, dsfid := dsfid, uid := uid }))
  else pure none

/-- Parses the parameters of an activation mode. -/
def nciParseModeParam (mode : NciMode) (bytes len : Nat) : Reads (Option NciModeParam) :=
  match mode with
  | .activePollA => if len = 0 then pure none else nciParseModeParamPollA bytes len
  | .passivePollA => nciParseModeParamPollA bytes len
  | .passivePollB => nciParseModeParamPollB bytes len
  | .activePollF | .passivePollF => nciParseModeParamPollF bytes len
  | .activeListenF | .passiveListenF => nciParseModeParamListenF bytes len
  | .passivePollV => nciParseModeParamPollV bytes len
  | .passiveListenV | .passiveListenA | .passiveListenB | .activeListenA | .other _ => pure none

/-- Parses RF_DISCOVER_NTF. The parameters are parsed if there is a place for them. -/
def nciParseDiscoverNtf (param : Bool) (pkt len : Nat) : Reads (Option NciDiscoveryNtf) :=
  if 5 ≤ len then do
    let n := (← Reads.byte (pkt + 3)).toNat
    if 5 + n ≤ len then do
      let discoveryId ← Reads.byte pkt
      let protocol ← Reads.byte (pkt + 1)
      let mode := NciMode.ofByte (← Reads.byte (pkt + 2))
      let type ← Reads.byte (pkt + (4 + n))
      let modeParam ←
        (if n ≠ 0 ∧ param = true then nciParseModeParam mode (pkt + 4) n else pure none)
      pure (some
        { discoveryId := discoveryId, protocol := .ofByte protocol, mode := mode, paramLen := n,
          paramBytes := if n ≠ 0 then some (pkt + 4) else none, param := modeParam,
          last := type != 2 })
    else pure none
  else pure none

/-! ### Parameters of an activation -/

abbrev nfcT4aAtsT0A : UInt8 := 0x10

abbrev nfcT4aAtsT0B : UInt8 := 0x20

abbrev nfcT4aAtsT0C : UInt8 := 0x40

abbrev nfcT4aAtsT0FsciMask : UInt8 := 0x0f

abbrev nfcT4bMbliMask : UInt8 := 0xf0

abbrev nfcT4bDidMask : UInt8 := 0x0f

/-- An interface byte of the answer to select: where it is, if it is there, and where the next
byte is. -/
def atsInterfaceByte (t0 flag : UInt8) (atsPtr : Nat) : Option Nat × Nat :=
  if t0 &&& flag ≠ 0 then (some atsPtr, atsPtr + 1) else (none, atsPtr)

/-- Reads an interface byte, which is zero if it is not there. -/
def readInterfaceByte (ptr : Option Nat) : Reads UInt8 :=
  match ptr with
  | some i => Reads.byte i
  | none => pure 0

def nciParseIsoDepPollAParam (bytes len : Nat) : Reads (Option NciActivationParam) := do
  let atsLen := (← Reads.byte bytes).toNat
  if 1 ≤ atsLen ∧ atsLen + 1 ≤ len then do
    let ats := bytes + 1
    let atsEnd := ats + atsLen
    let t0 ← Reads.byte ats
    let ta := atsInterfaceByte t0 nfcT4aAtsT0A (ats + 1)
    let tb := atsInterfaceByte t0 nfcT4aAtsT0B ta.2
    let tc := atsInterfaceByte t0 nfcT4aAtsT0C tb.2
    let atsPtr := tc.2
    if atsPtr ≤ atsEnd then do
      let taByte ← readInterfaceByte ta.1
      let tbByte ← readInterfaceByte tb.1
      let tcByte ← readInterfaceByte tc.1
      pure (some (.isoDepPollA
        { fsc := fscOf (t0 &&& nfcT4aAtsT0FsciMask),
          t1 := ⟨if 0 < atsEnd - atsPtr then some atsPtr else none, atsEnd - atsPtr⟩,
          t0 := t0, ta := taByte, tb := tbByte, tc := tcByte }))
    else pure none
  else pure none

def nciParseIsoDepListenAParam (bytes len : Nat) : Reads (Option NciActivationParam) :=
  if 0 < len then do
    let b2 ← Reads.byte bytes
    pure (some (.isoDepListenA { fsd := fscOf (b2 >>> 4), did := (b2 &&& 0x0f).toNat }))
  else pure none

def nciParseIsoDepPollBParam (bytes : Nat) (_len : Nat) : Reads (Option NciActivationParam) := do
  let attribLength := (← Reads.byte bytes).toNat
  if 1 ≤ attribLength then do
    let b ← Reads.byte (bytes + 1)
    pure (some (.isoDepPollB
      { mbli := ((b &&& nfcT4bMbliMask) >>> 4).toNat, did := (b &&& nfcT4bDidMask).toNat,
        hlr := if 2 ≤ attribLength then ⟨some (bytes + 2), attribLength - 1⟩
               else GUtilData.zero }))
  else pure none

def nciParseIsoDepListenBParam (bytes len : Nat) : Reads (Option NciActivationParam) := do
  let cmdlen := (← Reads.byte bytes).toNat
  if 8 ≤ cmdlen ∧ cmdlen < len then do
    let nfcid0 ← Reads.bytes (bytes + 1) 4
    let param ← Reads.bytes (bytes + 5) 4
    pure (some (.isoDepListenB
      { nfcid0 := nfcid0, param := param,
        hlc := if 8 < cmdlen then ⟨some (bytes + 9), cmdlen - 8⟩ else GUtilData.zero }))
  else pure none

def nciParseNfcDepPollParam (bytes len : Nat) : Reads (Option NciActivationParam) := do
  let atrResLen := (← Reads.byte bytes).toNat
  if 15 ≤ atrResLen ∧ atrResLen + 1 ≤ len then do
    let atrRes := bytes + 1
    let nfcid3 ← Reads.bytes atrRes 10
    let did ← Reads.byte (atrRes + 10)
    let bs ← Reads.byte (atrRes + 11)
    let br ← Reads.byte (atrRes + 12)
    let timeout ← Reads.byte (atrRes + 13)
    let pp ← Reads.byte (atrRes + 14)
    pure (some (.nfcDepPoll
      { nfcid3 := nfcid3, did := did, bs := bs, br := br, timeout := timeout, pp := pp,
        g := if 15 < atrResLen then ⟨some (atrRes + 15), atrResLen - 15⟩ else GUtilData.zero }))
  else pure none

def nciParseNfcDepListenParam (bytes len : Nat) : Reads (Option NciActivationParam) := do
  let atrReqLen := (← Reads.byte bytes).toNat
  if 14 ≤ atrReqLen ∧ atrReqLen + 1 ≤ len then do
    let atrReq := bytes + 1
    let nfcid3 ← Reads.bytes atrReq 10
    let did ← Reads.byte (atrReq + 10)
    let bs ← Reads.byte (atrReq + 11)
    let br ← Reads.byte (atrReq + 12)
    let pp ← Reads.byte (atrReq + 13)
    pure (some (.nfcDepListen
      { nfcid3 := nfcid3, did := did, bs := bs, br := br, pp := pp,
        g := if 14 < atrReqLen then ⟨some (atrReq + 14), atrReqLen - 14⟩ else GUtilData.zero }))
  else pure none

/-- Parses the activation parameters of an interface and a mode. -/
def nciParseActivationParam (intf : NciRfInterface) (mode : NciMode) (bytes len : Nat) :
    Reads (Option NciActivationParam) :=
  match intf with
  | .isoDep =>
      match mode with
      | .passivePollA | .activePollA => nciParseIsoDepPollAParam bytes len
      | .passiveListenA | .activeListenA => nciParseIsoDepListenAParam bytes len
      | .passivePollB => nciParseIsoDepPollBParam bytes len
      | .passiveListenB => nciParseIsoDepListenBParam bytes len
      | .passivePollF | .activePollF | .passivePollV | .passiveListenF | .activeListenF
      | .passiveListenV | .other _ => pure none
  | .frame => pure none
  | .nfcDep =>
      match mode with
      | .activePollA | .activePollF | .passivePollA | .passivePollF =>
          nciParseNfcDepPollParam bytes len
      | .activeListenA | .activeListenF | .passiveListenA | .passiveListenF =>
          nciParseNfcDepListenParam bytes len
      | .passivePollB | .passivePollV | .passiveListenB | .passiveListenV | .other _ => pure none
  | .nfceeDirect | .proprietary | .other _ => pure none

/-- Parses RF_INTF_ACTIVATED_NTF. -/
def nciParseIntfActivatedNtf (pkt len : Nat) : Reads (Option NciIntfActivationNtf) :=
  if 6 < len then do
    let n := (← Reads.byte (pkt + 6)).toNat
    let m := (← (if 10 + n < len then Reads.byte (pkt + (10 + n)) else pure 0)).toNat
    if 11 + n + m ≤ len then do
      let discoveryId ← Reads.byte pkt
      let rfIntf := NciRfInterface.ofByte (← Reads.byte (pkt + 1))
      let protocol ← Reads.byte (pkt + 2)
      let mode := NciMode.ofByte (← Reads.byte (pkt + 3))
      let maxDataPacketSize ← Reads.byte (pkt + 4)
      let numCredits ← Reads.byte (pkt + 5)
      let dataExchangeMode ← Reads.byte (pkt + (7 + n))
      let transmitRate ← Reads.byte (pkt + (8 + n))
      let receiveRate ← Reads.byte (pkt + (9 + n))
      let modeParam ← (if n ≠ 0 then nciParseModeParam mode (pkt + 7) n else pure none)
      let activationParam ←
        (if m ≠ 0 then nciParseActivationParam rfIntf mode (pkt + (11 + n)) m else pure none)
      pure (some
        { discoveryId := discoveryId, rfIntf := rfIntf, protocol := .ofByte protocol,
          mode := mode, maxDataPacketSize := maxDataPacketSize, numCredits := numCredits,
          modeParamLen := n, modeParamBytes := if n ≠ 0 then some (pkt + 7) else none,
          modeParam := modeParam, dataExchangeMode := .ofByte dataExchangeMode,
          transmitRate := transmitRate, receiveRate := receiveRate, activationParamLen := m,
          activationParamBytes := if m ≠ 0 then some (pkt + (11 + n)) else none,
          activationParam := activationParam })
    else pure none
  else pure none

/-- A memory that starts with the given bytes. -/
def memory (bytes : List UInt8) : Nat → UInt8 := fun i => bytes.getD i 0

end Nci
