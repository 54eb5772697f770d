import LibNciCore.Lib.Reads

/-!
# Technologies, interfaces and their parameters

What the controller tells about an endpoint: the RF interface, the RF protocol, the activation
mode, and the parameters that depend on them. A byte that has no meaning is kept as it is.
Bytes of a notification that are not copied are referred to by a view, which is an offset in
the notification and a size.
-/

namespace Nci

/-! ### Enumerations -/

/-- RF technology and mode. -/
inductive NciMode where
  | passivePollA
  | passivePollB
  | passivePollF
  | activePollA
  | activePollF
  | passivePollV
  | passiveListenA
  | passiveListenB
  | passiveListenF
  | activeListenA
  | activeListenF
  | passiveListenV
  | other (byte : UInt8)
  deriving DecidableEq, Repr

def NciMode.ofByte (b : UInt8) : NciMode :=
  if b = 0x00 then passivePollA
  else if b = 0x01 then passivePollB
  else if b = 0x02 then passivePollF
  else if b = 0x03 then activePollA
  else if b = 0x05 then activePollF
  else if b = 0x06 then passivePollV
  else if b = 0x80 then passiveListenA
  else if b = 0x81 then passiveListenB
  else if b = 0x82 then passiveListenF
  else if b = 0x83 then activeListenA
  else if b = 0x85 then activeListenF
  else if b = 0x86 then passiveListenV
  else other b

/-- RF protocols. -/
inductive NciProtocol where
  | undetermined
  | t1t
  | t2t
  | t3t
  | isoDep
  | nfcDep
  | t5t
  | proprietary
  | other (byte : UInt8)
  deriving DecidableEq, Repr

def NciProtocol.ofByte (b : UInt8) : NciProtocol :=
  if b = 0x00 then undetermined
  else if b = 0x01 then t1t
  else if b = 0x02 then t2t
  else if b = 0x03 then t3t
  else if b = 0x04 then isoDep
  else if b = 0x05 then nfcDep
  else if b = 0x06 then t5t
  else if b = 0x80 then proprietary
  else other b

/-- RF interfaces. -/
inductive NciRfInterface where
  | nfceeDirect
  | frame
  | isoDep
  | nfcDep
  | proprietary
  | other (byte : UInt8)
  deriving DecidableEq, Repr

def NciRfInterface.ofByte (b : UInt8) : NciRfInterface :=
  if b = 0x00 then nfceeDirect
  else if b = 0x01 then frame
  else if b = 0x02 then isoDep
  else if b = 0x03 then nfcDep
  else if b = 0x80 then proprietary
  else other b

/-! ### Views -/

/-- A view of bytes: where they start and how many there are. -/
structure GUtilData where
  bytes : Option Nat
  size : Nat
  deriving DecidableEq, Repr

/-- The view of nothing. -/
def GUtilData.zero : GUtilData := ⟨none, 0⟩

/-- All bytes of the view lie in the `n` bytes that start at `base`. -/
def GUtilData.Within (v : GUtilData) (base n : Nat) : Prop :=
  match v.bytes with
  | some i => base ≤ i ∧ i + v.size ≤ base + n
  | none => v.size = 0

instance (v : GUtilData) (base n : Nat) : Decidable (v.Within base n) := by
  unfold GUtilData.Within
  cases v.bytes <;> infer_instance

/-! ### Parameters of a mode -/

/-- Specific parameters for NFC-A poll mode. -/
structure NciModeParamPollA where
  sensRes : List UInt8
  nfcid1Len : UInt8
  nfcid1 : List UInt8
  selResLen : UInt8
  selRes : UInt8
  deriving DecidableEq, Repr

/-- Specific parameters for NFC-B poll mode. -/
structure NciModeParamPollB where
  nfcid0 : List UInt8
  fsc : Nat
  appData : List UInt8
  protInfo : GUtilData
  deriving DecidableEq, Repr

/-- Specific parameters for NFC-F poll mode. -/
structure NciModeParamPollF where
  bitrate : UInt8
  nfcid2 : List UInt8
  deriving DecidableEq, Repr

/-- Specific parameters for NFC-V poll mode. -/
structure NciModeParamPollV where
  resFlag : UInt8
  dsfid : UInt8
  uid : List UInt8
  deriving DecidableEq, Repr

/-- Specific parameters for NFC-F listen mode. -/
structure NciModeParamListenF where
  nfcid2 : GUtilData
  deriving DecidableEq, Repr

inductive NciModeParam where
  | pollA (param : NciModeParamPollA)
  | pollB (param : NciModeParamPollB)
  | pollF (param : NciModeParamPollF)
  | pollV (param : NciModeParamPollV)
  | listenF (param : NciModeParamListenF)
  deriving DecidableEq, Repr

/-- The views that are stored in the parameters. -/
def NciModeParam.views : NciModeParam → List GUtilData
  | .pollB param => [param.protInfo]
  | .listenF param => [param.nfcid2]
  | _ => []

/-! ### Parameters of an activation -/

/-- Activation parameters for NFC-A/ISO-DEP poll mode. -/
structure NciActivationParamIsoDepPollA where
  fsc : Nat
  t1 : GUtilData
  t0 : UInt8
  ta : UInt8
  tb : UInt8
  tc : UInt8
  deriving DecidableEq, Repr

/-- Activation parameters for NFC-B/ISO-DEP poll mode. -/
structure NciActivationParamIsoDepPollB where
  mbli : Nat
  did : Nat
  hlr : GUtilData
  deriving DecidableEq, Repr

/-- Activation parameters for NFC-A/ISO-DEP listen mode. -/
structure NciActivationParamIsoDepListenA where
  fsd : Nat
  did : Nat
  deriving DecidableEq, Repr

/-- Activation parameters for NFC-B/ISO-DEP listen mode. -/
structure NciActivationParamIsoDepListenB where
  nfcid0 : List UInt8
  param : List UInt8
  hlc : GUtilData
  deriving DecidableEq, Repr

/-- Activation parameters for NFC-DEP poll mode. -/
structure NciActivationParamNfcDepPoll where
  nfcid3 : List UInt8
  did : UInt8
  bs : UInt8
  br : UInt8
  timeout : UInt8
  pp : UInt8
  g : GUtilData
  deriving DecidableEq, Repr

/-- Activation parameters for NFC-DEP listen mode. -/
structure NciActivationParamNfcDepListen where
  nfcid3 : List UInt8
  did : UInt8
  bs : UInt8
  br : UInt8
  pp : UInt8
  g : GUtilData
  deriving DecidableEq, Repr

inductive NciActivationParam where
  | isoDepPollA (param : NciActivationParamIsoDepPollA)
  | isoDepPollB (param : NciActivationParamIsoDepPollB)
  | isoDepListenA (param : NciActivationParamIsoDepListenA)
  | isoDepListenB (param : NciActivationParamIsoDepListenB)
  | nfcDepPoll (param : NciActivationParamNfcDepPoll)
  | nfcDepListen (param : NciActivationParamNfcDepListen)
  deriving DecidableEq, Repr

/-- The views that are stored in the parameters. -/
def NciActivationParam.views : NciActivationParam → List GUtilData
  | .isoDepPollA param => [param.t1]
  | .isoDepPollB param => [param.hlr]
  | .isoDepListenA _ => []
  | .isoDepListenB param => [param.hlc]
  | .nfcDepPoll param => [param.g]
  | .nfcDepListen param => [param.g]

/-! ### Notifications -/

/-- RF_INTF_ACTIVATED_NTF -/
structure NciIntfActivationNtf where
  discoveryId : UInt8
  rfIntf : NciRfInterface
  protocol : NciProtocol
  mode : NciMode
  maxDataPacketSize : UInt8
  numCredits : UInt8
  modeParamLen : Nat
  modeParamBytes : Option Nat
  modeParam : Option NciModeParam
  dataExchangeMode : NciMode
  transmitRate : UInt8
  receiveRate : UInt8
  activationParamLen : Nat
  activationParamBytes : Option Nat
  activationParam : Option NciActivationParam
  deriving DecidableEq, Repr

/-- RF_DISCOVER_NTF -/
structure NciDiscoveryNtf where
  discoveryId : UInt8
  protocol : NciProtocol
  mode : NciMode
  paramLen : Nat
  paramBytes : Option Nat
  param : Option NciModeParam
  last : Bool
  deriving DecidableEq, Repr

end Nci
