import LibNciCore.Sar.Interface
import LibNciCore.Sm.Types

/-!
# Commands

The core sends the commands of the state machine, one at a time. For the last command it keeps
the id that the layer below has given to it, a timeout, and the function that is called with
the response, in one slot each. A command leaves the slots when it is written, when its
response arrives, when it times out, and when it is cancelled or superseded.
-/

namespace Nci

/-! ### The slots -/

/-- What a pointer to user data points to. -/
inductive UserData where
  | null
  | self
  | data (p : Nat)
  deriving DecidableEq, Repr

/-- The functions that are called with the response to a command: one given by the sender, or
`nci_core_io_dummy_resp`, which writes to the log only. -/
inductive NciCoreResp where
  | ioDummyResp
  | resp (f : Nat)
  deriving DecidableEq, Repr

/-- The fields of the core that have to do with commands. -/
structure NciCoreObject where
  cmdTimeout : UInt32
  cmdId : UInt32
  cmdTimeoutId : Option Nat
  rspGid : UInt8
  rspOid : UInt8
  rspHandler : Option NciCoreResp
  rspData : UserData
  deriving DecidableEq, Repr

/-- The core and what is around it: the timeouts that are running, and the rest. -/
structure CoreEnv (ι : Type) where
  core : NciCoreObject
  timeouts : List Nat
  nextTimeout : Nat
  io : ι

/-- The core together with the layer below. -/
abbrev CoreWorld (ι : Type) := World (CoreEnv ι)

/-- The world with what is around the layer changed by `f`. -/
def World.mapEnv {ε : Type} (w : World ε) (f : ε → ε) : World ε :=
  { w with env := f w.env }

namespace CoreEnv

variable {ι : Type}

/-- The core changed by `f`. -/
def modify (env : CoreEnv ι) (f : NciCoreObject → NciCoreObject) : CoreEnv ι :=
  { env with core := f env.core }

/-- Stops the timeout of the last command. -/
def clearTimeout (env : CoreEnv ι) : CoreEnv ι :=
  match env.core.cmdTimeoutId with
  | some t =>
      { env with core := { env.core with cmdTimeoutId := none }, timeouts := env.timeouts.erase t }
  | none => env

/-- Starts a timeout for the last command. -/
def addTimeout (env : CoreEnv ι) : CoreEnv ι :=
  { env with
    core := { env.core with cmdTimeoutId := some env.nextTimeout }
    timeouts := env.timeouts ++ [env.nextTimeout]
    nextTimeout := env.nextTimeout + 1 }

end CoreEnv

/-- What the core calls: the functions that are given a response, and the state machine. -/
structure NciCoreClient (ι : Type) where
  respond : NciCoreResp → NciRequestStatus → List UInt8 → UserData → CoreWorld ι → CoreWorld ι
  smError : CoreWorld ι → CoreWorld ι
  smReset : CoreWorld ι → CoreWorld ι
  smHandleNtf : UInt8 → UInt8 → List UInt8 → CoreWorld ι → CoreWorld ι
  dataPacket : UInt8 → List UInt8 → CoreWorld ι → CoreWorld ι

section

variable {ι : Type} (E : SarEnv (CoreEnv ι)) (S : NciCoreClient ι)

/-! ### The end of a command -/

/-- The last command is cancelled, unless it is written. -/
def nciCoreCancelCommand (w : CoreWorld ι) : CoreWorld ι :=
  let w := w.mapEnv CoreEnv.clearTimeout
  if w.env.core.cmdId ≠ 0 then
    let userData := w.env.core.rspData
    let w := nciSarCancel E w.env.core.cmdId w
    let w := w.mapEnv fun env => env.modify fun core =>
      { core with cmdId := 0, rspData := .null }
    match w.env.core.rspHandler with
    | some handler =>
        let w := w.mapEnv fun env => env.modify fun core => { core with rspHandler := none }
        S.respond handler .cancelled [] userData w
    | none => w
  else w

/-- A command is written, or cannot be. -/
def nciCoreCommandCompletion (success : Bool) (w : CoreWorld ι) : CoreWorld ι :=
  let w := w.mapEnv fun env => env.modify fun core => { core with cmdId := 0 }
  if success then w else S.smError w

/-- A command has timed out. -/
def nciCoreCommandTimeout (w : CoreWorld ι) : CoreWorld ι :=
  let rspData := w.env.core.rspData
  let w := w.mapEnv fun env => env.modify fun core =>
    { core with cmdTimeoutId := none, rspData := .null }
  let w := nciSarCancel E w.env.core.cmdId w
  let w := w.mapEnv fun env => env.modify fun core => { core with cmdId := 0 }
  let w := match w.env.core.rspHandler with
    | some handler =>
        let w := w.mapEnv fun env => env.modify fun core => { core with rspHandler := none }
        S.respond handler .timeout [] rspData w
    | none => w
  S.smError w

/-! ### What the state machine calls -/

/-- The slots are filled with a command, which is queued. -/
def nciCoreIoSendCommand (gid oid : UInt8) (payload : Option (List UInt8)) (resp : Option Nat)
    (userData : UserData) (w : CoreWorld ι) : Bool × CoreWorld ι :=
  let w := w.mapEnv fun env => env.modify fun core =>
    match resp with
    | some f =>
        { core with
          rspGid := gid
          rspOid := oid
          rspHandler := some (.resp f)
          rspData := userData }
    | none =>
        { core with
          rspGid := gid
          rspOid := oid
          rspHandler := some .ioDummyResp
          rspData := .self }
  let r := nciSarSendCommand w.sar gid oid payload (some 0) none
  let w : CoreWorld ι :=
    { sar := r.2, env := w.env.modify fun core => { core with cmdId := r.1 } }
  if w.env.core.cmdId ≠ 0 then
    (true, if w.env.core.cmdTimeout ≠ 0 then w.mapEnv CoreEnv.addTimeout else w)
  else
    (false, w.mapEnv fun env => env.modify fun core =>
      { core with rspHandler := none, rspData := .null })

/-- Sends a command, and tells whether it is accepted. The one before is cancelled. -/
def nciCoreIoSend (gid oid : UInt8) (payload : Option (List UInt8)) (resp : Option Nat)
    (userData : UserData) (w : CoreWorld ι) : Bool × CoreWorld ι :=
  nciCoreIoSendCommand gid oid payload resp userData (nciCoreCancelCommand E S w)

/-- Drops the last command, whose response function is not called. -/
def nciCoreIoCancel (w : CoreWorld ι) : CoreWorld ι :=
  nciCoreCancelCommand E S (w.mapEnv fun env => env.modify fun core =>
    { core with rspHandler := none, rspData := .null })

/-- Restarts everything. -/
def nciCoreRestartInternal (fuel : Nat) (w : CoreWorld ι) : CoreWorld ι :=
  let w := nciCoreCancelCommand E S w
  let w := nciSarReset E fuel w
  S.smReset w

/-! ### What the layer below calls -/

/-- The layer below reports an error. -/
def nciCoreSarError (w : CoreWorld ι) : CoreWorld ι := S.smError w

/-- A response is passed to the function that waits for it, if it is one to the last command. -/
def nciCoreSarHandleResponse (gid oid : UInt8) (payload : List UInt8) (w : CoreWorld ι) :
    CoreWorld ι :=
  match w.env.core.rspHandler with
  | some handler =>
      if w.env.core.rspGid = gid ∧ w.env.core.rspOid = oid then
        let handlerData := w.env.core.rspData
        let w := w.mapEnv CoreEnv.clearTimeout
        let w := w.mapEnv fun env => env.modify fun core =>
          { core with cmdId := 0, rspHandler := none, rspData := .null }
        S.respond handler .success payload handlerData w
      else w
  | none => w

/-- A notification is passed to the state machine. -/
def nciCoreSarHandleNotification (gid oid : UInt8) (payload : List UInt8) (w : CoreWorld ι) :
    CoreWorld ι :=
  S.smHandleNtf gid oid payload w

/-- A data packet is passed on. -/
def nciCoreSarHandleDataPacket (cid : UInt8) (payload : List UInt8) (w : CoreWorld ι) :
    CoreWorld ι :=
  S.dataPacket cid payload w

end

end Nci
