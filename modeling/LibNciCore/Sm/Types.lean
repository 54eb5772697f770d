import LibNciCore.Util.Config
import Mathlib.Logic.Function.Basic

/-!
# The data of the state machine

The states, the transitions between them, and the object that keeps track of both. A state or
a transition is an object of its own in the source; there is one of each, so that it is named
by an enumeration here, and what it remembers is kept with the state machine.

The state machine sends its commands through `NciSmIo`, which also gives it access to the
segmentation and reassembly layer. The type `ι` stands for everything behind that interface.
-/

namespace Nci

/-! ### States and transitions -/

/-- The states. The first three are internal: the machine is not in any of the states of the
specification. -/
inductive NciState where
  | init
  | error
  | stop
  | idle
  | discovery
  | w4AllDiscoveries
  | w4HostSelect
  | pollActive
  | listenActive
  | listenSleep
  deriving DecidableEq, Repr

/-- The identifiers of the states. -/
def NciState.id : NciState → Nat
  | .init => 0
  | .error => 1
  | .stop => 2
  | .idle => 3
  | .discovery => 4
  | .w4AllDiscoveries => 5
  | .w4HostSelect => 6
  | .pollActive => 7
  | .listenActive => 8
  | .listenSleep => 9

/-- Internal states are entered without a transition. -/
def NciState.isInternal (state : NciState) : Bool := state.id < NciState.idle.id

/-- The transitions. The reset transition does not belong to a state. -/
inductive NciTransition where
  | reset
  | deactivateToIdle
  | deactivateToDiscovery
  | idleToDiscovery
  | pollActiveToIdle
  | listenActiveToIdle
  deriving DecidableEq, Repr

/-- The state a transition leads to. -/
def NciTransition.dest : NciTransition → NciState
  | .reset | .deactivateToIdle | .pollActiveToIdle | .listenActiveToIdle => .idle
  | .deactivateToDiscovery | .idleToDiscovery => .discovery

/-- The transitions that are added to a state when the machine is created. -/
def nciSmTransitions : NciState → List NciTransition
  | .discovery | .w4AllDiscoveries | .w4HostSelect | .listenSleep => [.deactivateToIdle]
  | .pollActive => [.deactivateToDiscovery, .pollActiveToIdle]
  | .listenActive => [.deactivateToDiscovery, .listenActiveToIdle]
  | .idle => [.idleToDiscovery]
  | .init | .error | .stop => []

/-- The transition from a state to another one. -/
def nciStateGetTransition (state dest : NciState) : Option NciTransition :=
  (nciSmTransitions state).find? fun transition => transition.dest == dest

/-- What a state is entered with. -/
inductive NciParam where
  | w4AllDiscoveries (ntf : NciDiscoveryNtf)
  | w4HostSelect (ntf : List NciDiscoveryNtf)

/-! ### Requests -/

/-- How a request has ended. -/
inductive NciRequestStatus where
  | success
  | timeout
  | cancelled
  deriving DecidableEq, Repr

/-- The functions that handle the response to a command, each together with the object it is
called for. -/
inductive NciSmResponseFunc where
  | resetRsp
  | resetInitV1Rsp
  | resetInitV2Rsp
  | resetSetConfigRsp
  | idleToDiscoveryGetConfigRsp
  | idleToDiscoverySetConfigRsp
  | idleToDiscoverySetMixedRoutingRsp
  | idleToDiscoverySetProtocolRoutingRsp
  | idleToDiscoveryLastProtocolRoutingRsp
  | idleToDiscoverySetTechRoutingRsp
  | idleToDiscoverMapRsp
  | idleToDiscoveryDiscoverRsp
  | deactivateToIdleRsp
  | deactivateToDiscoveryRsp
  | deactivateToDiscoveryIdleRsp
  | pollActiveToIdleRsp
  | listenActiveToIdleRsp
  | w4HostSelectRsp
  deriving DecidableEq, Repr

abbrev nciStatusOk : UInt8 := 0x00

abbrev nciStatusSyntaxError : UInt8 := 0x05

abbrev nciDiscoveryTargetActivationFailed : UInt8 := 0xa1

abbrev nciRfTransmissionError : UInt8 := 0xb0

abbrev nciRfProtocolError : UInt8 := 0xb1

abbrev nciRfTimeoutError : UInt8 := 0xb2

abbrev nciGidCore : UInt8 := 0x00

abbrev nciGidRf : UInt8 := 0x01

abbrev nciOidCoreReset : UInt8 := 0x00

abbrev nciOidCoreInit : UInt8 := 0x01

abbrev nciOidCoreSetConfig : UInt8 := 0x02

abbrev nciOidCoreGetConfig : UInt8 := 0x03

abbrev nciOidCoreConnCredits : UInt8 := 0x06

abbrev nciOidCoreGenericError : UInt8 := 0x07

abbrev nciOidCoreInterfaceError : UInt8 := 0x08

abbrev nciOidRfDiscoverMap : UInt8 := 0x00

abbrev nciOidRfSetListenModeRouting : UInt8 := 0x01

abbrev nciOidRfDiscover : UInt8 := 0x03

abbrev nciOidRfDiscoverSelect : UInt8 := 0x04

abbrev nciOidRfIntfActivated : UInt8 := 0x05

abbrev nciOidRfDeactivate : UInt8 := 0x06

/-- The connection that is there as long as an interface is activated. -/
abbrev nciStaticRfConnId : UInt8 := 0x00

/-! ### Modes and technologies -/

abbrev nfcOpModeRw : UInt32 := 0x01

abbrev nfcOpModePeer : UInt32 := 0x02

abbrev nfcOpModeCe : UInt32 := 0x04

abbrev nfcOpModePoll : UInt32 := 0x08

abbrev nfcOpModeListen : UInt32 := 0x10

abbrev nciTechAPollPassive : UInt32 := 0x0001

abbrev nciTechAPollActive : UInt32 := 0x0002

abbrev nciTechAListenPassive : UInt32 := 0x0004

abbrev nciTechAListenActive : UInt32 := 0x0008

abbrev nciTechBPoll : UInt32 := 0x0010

abbrev nciTechBListen : UInt32 := 0x0040

abbrev nciTechFPollPassive : UInt32 := 0x0100

abbrev nciTechFPollActive : UInt32 := 0x0200

abbrev nciTechFListenPassive : UInt32 := 0x0400

abbrev nciTechFListenActive : UInt32 := 0x0800

abbrev nciTechVPoll : UInt32 := 0x1000

abbrev nciTechVListen : UInt32 := 0x4000

abbrev nciTechAPoll : UInt32 := nciTechAPollPassive ||| nciTechAPollActive

abbrev nciTechAListen : UInt32 := nciTechAListenPassive ||| nciTechAListenActive

abbrev nciTechA : UInt32 := nciTechAPoll ||| nciTechAListen

abbrev nciTechB : UInt32 := nciTechBPoll ||| nciTechBListen

abbrev nciTechFPoll : UInt32 := nciTechFPollPassive ||| nciTechFPollActive

abbrev nciTechFListen : UInt32 := nciTechFListenPassive ||| nciTechFListenActive

abbrev nciTechF : UInt32 := nciTechFPoll ||| nciTechFListen

abbrev nciTechV : UInt32 := nciTechVPoll ||| nciTechVListen

abbrev nciTechAll : UInt32 := nciTechA ||| nciTechB ||| nciTechF ||| nciTechV

abbrev nciTechDefault : UInt32 := nciTechA ||| nciTechB ||| nciTechF

/-! ### The state machine -/

/-- The version of the interface that the controller speaks. -/
inductive NciInterfaceVersion where
  | unknown
  | v1
  | v2
  deriving DecidableEq, Repr

/-- The signals of the state machine that are queued before they are emitted. -/
inductive NciSmSignal where
  | nextState
  | lastState
  deriving DecidableEq, Repr

/-- How the machine stalls. -/
inductive NciStall where
  | stop
  | error
  deriving DecidableEq, Repr

/-- The state machine. The last five fields belong to the states and the transitions: which
states are active, the discoveries that RFST_W4_ALL_DISCOVERIES has collected, which
transitions have a running timer, and what the transition from RFST_LISTEN_ACTIVE to RFST_IDLE
remembers. -/
structure NciSm where
  lastState : NciState
  nextState : NciState
  rfInterfaces : Option (List UInt8)
  maxRoutingTableSize : Nat
  techs : UInt32
  version : NciInterfaceVersion
  nfccDiscovery : UInt8
  nfccRouting : UInt8
  nfccPower : UInt8
  opMode : UInt32
  llcVersion : UInt8
  llcWks : UInt16
  laNfcid1 : NciNfcid1
  liAHb : NciAtsHb
  nextTransition : Option NciTransition
  activeTransition : Option NciTransition
  activeState : Option NciState
  enteringState : Nat
  pendingSwitch : Option NciState
  pendingSignals : NciSmSignal → Bool
  active : NciState → Bool
  discoveries : List NciDiscoveryNtf
  timeoutId : NciTransition → Bool
  ntf : Option NciRfDeactivateNtf
  expectingNtf : Bool

/-- The state machine together with what is behind its interface. -/
structure SmWorld (ι : Type) where
  sm : NciSm
  io : ι

/-- The world with the state machine changed by `f`. -/
def SmWorld.map {ι : Type} (w : SmWorld ι) (f : NciSm → NciSm) : SmWorld ι :=
  { w with sm := f w.sm }

@[simp]
theorem SmWorld.map_sm {ι : Type} (w : SmWorld ι) (f : NciSm → NciSm) :
  (w.map f).sm = f w.sm
  := rfl

@[simp]
theorem SmWorld.map_io {ι : Type} (w : SmWorld ι) (f : NciSm → NciSm) :
  (w.map f).io = w.io
  := rfl

/-- What the state machine calls: sending and cancelling a command, whether commands time out,
the functions of the segmentation and reassembly layer, and the handlers of its signals. A
function that is given only `ι` does not call back before it returns. -/
structure NciSmIo (ι : Type) where
  timeout : ι → Bool
  send : UInt8 → UInt8 → Option (List UInt8) → NciSmResponseFunc → NciSm → ι → Bool × ι
  cancel : NciSm → ι → ι
  sarSetMaxLogicalConnections : UInt8 → SmWorld ι → SmWorld ι
  sarSetMaxControlPayloadSize : UInt8 → ι → ι
  sarSetMaxDataPayloadSize : UInt8 → ι → ι
  sarSetInitialCredits : UInt8 → UInt8 → ι → ι
  sarAddCredits : UInt8 → UInt8 → ι → ι
  signal : NciSmSignal → SmWorld ι → SmWorld ι
  intfActivated : NciIntfActivationNtf → SmWorld ι → SmWorld ι

end Nci
