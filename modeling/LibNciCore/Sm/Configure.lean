import LibNciCore.Sm.Types

/-!
# The commands that configure the controller

The payloads of the commands that the transition from RFST_IDLE to RFST_DISCOVERY sends, all of
them computed from the operation mode and the technologies of the machine, and the payload of
the command that ends a reset.
-/

namespace Nci

/-! ### CORE_SET_CONFIG_CMD of the reset transition -/

abbrev defaultTotalDuration : Nat := 500

/-- ATR_REQ/ATR_RES General Bytes: the LLCP magic and the parameters of LLCP. -/
def generalBytes (self : NciSm) : List UInt8 :=
  [0x46, 0x66, 0x6d,
    1, 1, self.llcVersion,
    2, 0x02, 0x07, 0xff,
    3, 2, (self.llcWks >>> 8).toUInt8, self.llcWks.toUInt8,
    4, 0x01, 0x64,
    7, 0x01, 0x03]

def nciTransitionResetSetConfigCmd (self : NciSm) : List UInt8 :=
  let gb := generalBytes self
  [7,
    0x00, 0x02, UInt8.ofNat (defaultTotalDuration % 256), UInt8.ofNat (defaultTotalDuration / 256),
    0x08, 0x01, 0x00,
    0x11, 0x01, 0x00,
    0x62, 0x01, 0x30,
    0x2a, 0x01, 0x30]
    ++ [0x61, UInt8.ofNat gb.length] ++ gb
    ++ [0x29, UInt8.ofNat gb.length] ++ gb

/-! ### CORE_SET_CONFIG_CMD -/

/-- Which parameters are to be set. -/
structure CoreSetConfigFlags where
  laSensRes1 : Bool
  laSelInfo : Bool
  laNfcid1 : Bool
  lfProtocolType : Bool
  liAHb : Bool
  deriving DecidableEq, Repr

/-- Some parameter is to be set. -/
def CoreSetConfigFlags.any (flags : CoreSetConfigFlags) : Bool :=
  flags.laSensRes1 || flags.laSelInfo || flags.laNfcid1 || flags.lfProtocolType || flags.liAHb

/-- The values of the parameters. -/
structure ConfigValues where
  laSensRes1 : UInt8
  laNfcid1 : NciNfcid1
  liAHb : NciAtsHb
  laSelInfo : UInt8
  lfProtocolType : UInt8
  deriving DecidableEq, Repr

/-- A command that starts with the number of its entries gets another entry. -/
def addEntry (cmd entry : List UInt8) : List UInt8 :=
  (cmd.getD 0 0 + 1) :: (cmd.drop 1 ++ entry)

/-- The entry is added under a condition. -/
def addEntryIf (c : Bool) (entry cmd : List UInt8) : List UInt8 :=
  if c then addEntry cmd entry else cmd

def nciTransitionIdleToDiscoverySetConfigCmd (setConfig : CoreSetConfigFlags)
    (values : ConfigValues) : List UInt8 :=
  let cmd := [0x00]
  let cmd := addEntryIf setConfig.laSensRes1 [0x30, 1, values.laSensRes1] cmd
  let cmd := addEntryIf setConfig.laSelInfo [0x32, 1, values.laSelInfo] cmd
  let cmd := addEntryIf setConfig.laNfcid1
    ([0x33, values.laNfcid1.len] ++ values.laNfcid1.bytes.take values.laNfcid1.len.toNat) cmd
  let cmd := addEntryIf setConfig.lfProtocolType [0x50, 1, values.lfProtocolType] cmd
  addEntryIf setConfig.liAHb
    ([0x59, values.liAHb.len] ++ values.liAHb.bytes.take values.liAHb.len.toNat) cmd

/-! ### The expected configuration -/

def nciTransitionIdleToDiscoveryLaSensRes1Expected (self : NciSm) : UInt8 :=
  if self.laNfcid1.len = 0 ∨ self.laNfcid1.len = 4 then 0x00
  else if self.laNfcid1.len = 7 then 0x40
  else if self.laNfcid1.len = 10 then 0x80
  else 0

/-- The identifier that is set. A dynamic one is told by its first byte. -/
def nciTransitionIdleToDiscoveryLaNfcid1Expected (self : NciSm) : NciNfcid1 :=
  let id := self.laNfcid1
  if id.len = 4 ∨ id.len = 7 ∨ id.len = 10 then
    ⟨id.len, id.bytes.take id.len.toNat ++ List.replicate (10 - id.len.toNat) 0⟩
  else ⟨4, 0x08 :: List.replicate 9 0⟩

/-- Peer mode on the listen side. -/
def NciSm.peerListen (self : NciSm) : Bool :=
  self.opMode &&& (nfcOpModeListen ||| nfcOpModePeer) == (nfcOpModeListen ||| nfcOpModePeer)

def nciTransitionIdleToDiscoveryLaSelInfoExpected (self : NciSm) : UInt8 :=
  (if self.opMode &&& nfcOpModeCe ≠ 0 then 0x20 else 0) ||| (if self.peerListen then 0x40 else 0)

def nciTransitionIdleToDiscoveryLfProtocolTypeExpected (self : NciSm) : UInt8 :=
  if self.peerListen ∧ self.techs &&& nciTechFListen ≠ 0 then 0x02 else 0

/-! ### Checking the reported configuration -/

/-- Compares the bits of a parameter under a mask with what is expected. If the parameter
differs, its other bits are to be kept. -/
def nciTransitionIdleToDiscoveryConfigByteOk (nparams : Nat) (params : List UInt8) (id : UInt8)
    (expected mask : UInt8) : Bool × UInt8 :=
  match (nciParseConfigParamUint id nparams 0 params.length).value (memory params) with
  | some (1, value) =>
      if value.toUInt8 &&& mask = expected then (true, expected)
      else (false, expected ||| (value.toUInt8 &&& ~~~mask))
  | _ => (false, expected)

def nciTransitionIdleToDiscoveryConfigNfcid1Ok (nparams : Nat) (params : List UInt8) (id : UInt8)
    (nfcid1 : NciNfcid1) : Bool :=
  match (nciParseConfigParamNfcid1 id nparams 0 params.length).value (memory params) with
  | some value => nciNfcid1Equal value nfcid1
  | none => false

/-- If there are no historical bytes to configure, a parameter that is missing is fine. -/
def nciTransitionIdleToDiscoveryHbOk (nparams : Nat) (params : List UInt8) (id : UInt8)
    (hb : NciAtsHb) : Bool :=
  match (nciParseFindConfigParam id nparams 0 params.length).value (memory params) with
  | some data =>
      data.size == hb.len.toNat
        && (params.drop (data.bytes.getD 0)).take data.size == hb.bytes.take hb.len.toNat
  | none => hb.len == 0

/-- What CORE_GET_CONFIG_RSP leads to: the parameters that are to be set, and their values. -/
def nciTransitionIdleToDiscoveryCheckConfig (self : NciSm) (payload : List UInt8) :
    CoreSetConfigFlags × ConfigValues :=
  let values : ConfigValues :=
    { laSensRes1 := nciTransitionIdleToDiscoveryLaSensRes1Expected self
      laNfcid1 := nciTransitionIdleToDiscoveryLaNfcid1Expected self
      liAHb := self.liAHb
      laSelInfo := nciTransitionIdleToDiscoveryLaSelInfoExpected self
      lfProtocolType := nciTransitionIdleToDiscoveryLfProtocolTypeExpected self }
  match payload with
  | cmdStatus :: n :: params =>
      if cmdStatus = nciStatusOk then
        let sensRes1 := nciTransitionIdleToDiscoveryConfigByteOk n.toNat params 0x30
          values.laSensRes1 0xc0
        let selInfo := nciTransitionIdleToDiscoveryConfigByteOk n.toNat params 0x32
          values.laSelInfo 0x60
        let protocolType := nciTransitionIdleToDiscoveryConfigByteOk n.toNat params 0x50
          values.lfProtocolType 0x02
        ({ laSensRes1 := !sensRes1.1
           laSelInfo := !selInfo.1
           laNfcid1 :=
             !nciTransitionIdleToDiscoveryConfigNfcid1Ok n.toNat params 0x33 values.laNfcid1
           lfProtocolType := !protocolType.1
           liAHb := !nciTransitionIdleToDiscoveryHbOk n.toNat params 0x59 self.liAHb },
          { values with
            laSensRes1 := sensRes1.2
            laSelInfo := selInfo.2
            lfProtocolType := protocolType.2 })
      else (⟨true, true, true, true, true⟩, values)
  | _ => (⟨true, true, true, true, true⟩, values)

/-! ### RF_SET_LISTEN_MODE_ROUTING_CMD -/

abbrev nciNfccRoutingTechnologyBased : UInt8 := 0x02

abbrev nciNfccRoutingProtocolBased : UInt8 := 0x04

/-- A routing entry is added, unless the table is full. -/
def nciTransitionIdleToDiscoveryAddRoutingEntry (self : NciSm) (entry cmd : List UInt8) :
    List UInt8 :=
  if cmd.length ≤ self.maxRoutingTableSize + 2 then
    cmd.getD 0 0 :: (cmd.getD 1 0 + 1) :: (cmd.drop 2 ++ entry)
  else cmd

/-- An entry for a protocol. -/
def protocolRoutingEntry (protocol : NciProtocol) : List UInt8 :=
  [0x01, 3, 0x00, 0x01, protocol.byte]

/-- An entry for a technology. -/
def techRoutingEntry (technology : UInt8) : List UInt8 := [0x00, 3, 0x00, 0x01, technology]

def nciTransitionIdleToDiscoveryProtocolRoutingEntries (self : NciSm) (cmd : List UInt8) :
    List UInt8 :=
  let cmd :=
    if self.opMode &&& nfcOpModePeer ≠ 0
        ∧ self.opMode &&& (nfcOpModePoll ||| nfcOpModeListen) ≠ 0
        ∧ self.techs &&& (nciTechA ||| nciTechF) ≠ 0 then
      nciTransitionIdleToDiscoveryAddRoutingEntry self (protocolRoutingEntry .nfcDep) cmd
    else cmd
  -- The two masks are combined bit by bit.
  if (self.opMode &&& (nfcOpModeCe ||| nfcOpModeRw)) &&& (self.techs &&& (nciTechA ||| nciTechB))
      ≠ 0 then
    nciTransitionIdleToDiscoveryAddRoutingEntry self (protocolRoutingEntry .isoDep) cmd
  else cmd

def nciTransitionIdleToDiscoveryTechRoutingEntries (self : NciSm) (cmd : List UInt8) :
    List UInt8 :=
  let cmd :=
    if self.techs &&& nciTechFListen ≠ 0
        ∧ self.opMode &&& (nfcOpModeRw ||| nfcOpModePeer) ≠ 0 then
      nciTransitionIdleToDiscoveryAddRoutingEntry self (techRoutingEntry 0x02) cmd
    else cmd
  let cmd :=
    if self.techs &&& nciTechB ≠ 0 then
      nciTransitionIdleToDiscoveryAddRoutingEntry self (techRoutingEntry 0x01) cmd
    else cmd
  if self.techs &&& nciTechA ≠ 0 then
    nciTransitionIdleToDiscoveryAddRoutingEntry self (techRoutingEntry 0x00) cmd
  else cmd

def nciTransitionIdleToDiscoveryMixedRoutingEntries (self : NciSm) (cmd : List UInt8) :
    List UInt8 :=
  nciTransitionIdleToDiscoveryTechRoutingEntries self
    (nciTransitionIdleToDiscoveryProtocolRoutingEntries self cmd)

/-- The payload of the command with the entries that are added to it. -/
def nciTransitionIdleToDiscoverySetRoutingCmd (self : NciSm)
    (addRoutingEntries : NciSm → List UInt8 → List UInt8) : List UInt8 :=
  addRoutingEntries self [0x00, 0x00]

/-! ### RF_DISCOVER_MAP_CMD -/

/-- Adds mapping configurations, each of them a protocol, a mode and an interface. -/
def addMapping (c : Prop) [Decidable c] (entries : List UInt8) (cmd : List UInt8) : List UInt8 :=
  if c then (cmd.getD 0 0 + UInt8.ofNat (entries.length / 3)) :: (cmd.drop 1 ++ entries) else cmd

def nciTransitionIdleToDiscoverMapCmd (self : NciSm) : List UInt8 :=
  let rw := self.opMode &&& nfcOpModeRw ≠ 0
  let peer := self.opMode &&& nfcOpModePeer ≠ 0
  let cmd := [0x00]
  let cmd := addMapping (rw ∧ self.techs &&& nciTechAPoll ≠ 0) [0x01, 0x01, 0x01, 0x02, 0x01, 0x01]
    cmd
  let cmd := addMapping (rw ∧ self.techs &&& nciTechFPoll ≠ 0) [0x03, 0x01, 0x01] cmd
  let cmd := addMapping (rw ∧ self.techs &&& nciTechVPoll ≠ 0) [0x06, 0x01, 0x01] cmd
  let cmd := addMapping (rw ∧ self.techs &&& (nciTechAPoll ||| nciTechBPoll) ≠ 0)
    [0x04, 0x01, 0x02] cmd
  let cmd := addMapping
    (peer ∧ self.opMode &&& nfcOpModePoll ≠ 0 ∧ self.techs &&& (nciTechAPoll ||| nciTechFPoll) ≠ 0)
    [0x05, 0x01, 0x03] cmd
  let cmd := addMapping
    (peer ∧ self.opMode &&& nfcOpModeListen ≠ 0
      ∧ self.techs &&& (nciTechAListen ||| nciTechFListen) ≠ 0) [0x05, 0x02, 0x03] cmd
  addMapping (self.opMode &&& nfcOpModeCe ≠ 0
    ∧ self.techs &&& (nciTechAListen ||| nciTechBListen) ≠ 0) [0x04, 0x02, 0x02] cmd

/-! ### RF_DISCOVER_CMD -/

/-- The modes to discover, each with the technology it belongs to. -/
def techModes : List (UInt32 × UInt8) :=
  [(nciTechAPollActive, 0x03), (nciTechAPollPassive, 0x00), (nciTechBPoll, 0x01),
    (nciTechFPollActive, 0x05), (nciTechFPollPassive, 0x02), (nciTechAListenActive, 0x83),
    (nciTechAListenPassive, 0x80), (nciTechBListen, 0x81), (nciTechFListenActive, 0x85),
    (nciTechFListenPassive, 0x82), (nciTechVPoll, 0x06), (nciTechVListen, 0x86)]

/-- The technologies to discover. -/
def nciTransitionIdleToDiscoveryTechs (self : NciSm) : UInt32 :=
  let techs : UInt32 :=
    if self.opMode &&& nfcOpModeRw ≠ 0 then
      nciTechAPoll ||| nciTechBPoll ||| nciTechFPoll ||| nciTechVPoll
    else 0
  let techs :=
    if self.opMode &&& nfcOpModePeer ≠ 0 ∧ self.opMode &&& nfcOpModePoll ≠ 0 then
      techs ||| nciTechAPoll ||| nciTechFPoll
    else techs
  let techs :=
    if self.opMode &&& nfcOpModePeer ≠ 0 ∧ self.opMode &&& nfcOpModeListen ≠ 0 then
      techs ||| nciTechAListen ||| nciTechFListen
    else techs
  let techs :=
    if self.opMode &&& nfcOpModeCe ≠ 0 then techs ||| nciTechAListenPassive ||| nciTechBListen
    else techs
  techs &&& self.techs

/-- The configurations for the given technologies. The loop ends when none is left. -/
def discoverConfigurations : List (UInt32 × UInt8) → UInt32 → List UInt8 → List UInt8
  | (tech, mode) :: modes, techs, cmd =>
      if techs ≠ 0 then
        if techs &&& tech ≠ 0 then
          discoverConfigurations modes (techs &&& ~~~tech) (addEntry cmd [mode, 1])
        else discoverConfigurations modes techs cmd
      else cmd
  | [], _, cmd => cmd

def nciTransitionIdleToDiscoveryDiscoverCmd (self : NciSm) : List UInt8 :=
  discoverConfigurations techModes (nciTransitionIdleToDiscoveryTechs self) [0x00]

end Nci
