import LibNciCore.Core.Command
import LibNciCore.Sar.Run

/-!
# Runs of the command layer

The core and the layer below it are run together. What is around them is a `CoreApp`: it decides
what the HAL answers, and which functions of the core are called from inside a callback,
depending on everything that has happened so far. The only packets are commands.
-/

namespace Nci

/-! ### Calls -/

/-- A call to the layer below that concerns its limits and credits only, which the state machine
may make. -/
def Call.plain : Call → Bool
  | .reset => false
  | .sendCommand _ _ _ _ _ => false
  | .sendDataPacket _ _ _ _ => false
  | .cancel _ => false
  | _ => true

/-- A call of a function of the command layer, or one that passes it by. -/
inductive CoreCall where
  | ioSend (gid oid : UInt8) (payload : Option (List UInt8)) (resp : Option Nat)
      (userData : UserData)
  | ioCancel
  | restart
  | sar (c : Call) (h : c.plain = true)

/-! ### The log -/

/-- A command as it is accepted: what it asks for, who is to be told, and the id and the address
of its packet. -/
structure CoreCommand where
  gid : UInt8
  oid : UInt8
  resp : NciCoreResp
  userData : UserData
  id : UInt32
  addr : Nat
  deriving DecidableEq, Repr

/-- What happens in a run. The core and the state of the layer below are recorded when a
function of the core is called. A command is recorded when it has been accepted, and `responded`
is the call of its response function. -/
inductive CoreEntry where
  | send (gid oid : UInt8) (core : NciCoreObject) (sar : NciSar)
  | accepted (c : CoreCommand) (sar : NciSar)
  | cancel (core : NciCoreObject) (sar : NciSar)
  | restart
  | timedOut (core : NciCoreObject) (sar : NciSar)
  | response (gid oid : UInt8) (payload : List UInt8)
  | completion (success : Bool) (core : NciCoreObject) (sar : NciSar)
  | responded (resp : NciCoreResp) (status : NciRequestStatus) (userData : UserData)
  | sar (c : Call)
  | smError
  | smReset
  | notification (gid oid : UInt8) (payload : List UInt8)
  | dataPacket (cid : UInt8) (payload : List UInt8)
  | halStart (ok : Bool)
  | halStop
  | halWrite (chunks : List (List UInt8)) (ok : Bool) (sar : NciSar)
  | halCancelWrite
  | written (ok : Bool)

abbrev CoreLog := List CoreEntry

/-- Adds an entry to the log. -/
def CoreEnv.record (env : CoreEnv CoreLog) (e : CoreEntry) : CoreEnv CoreLog :=
  { env with io := env.io ++ [e] }

/-- Adds an entry to the log. -/
def World.note (w : CoreWorld CoreLog) (e : CoreEntry) : CoreWorld CoreLog :=
  w.mapEnv fun env => env.record e

/-! ### Applications -/

/-- The surroundings: the answers of the HAL and the calls made from inside a callback, given the
log so far. -/
structure CoreApp where
  halStart : CoreLog → Bool
  halWrite : CoreLog → Bool
  react : CoreLog → List CoreCall
  fuel : Nat

namespace CoreApp

section

variable (A : CoreApp) (perform : List CoreCall → CoreWorld CoreLog → CoreWorld CoreLog)

/-- An entry is recorded, and calls are made. -/
def callback (e : CoreEntry) (w : CoreWorld CoreLog) : CoreWorld CoreLog :=
  perform (A.react (w.note e).env.io) (w.note e)

/-- The response functions and the state machine. -/
def clientWith : NciCoreClient CoreLog where
  respond resp status _ userData w :=
    match resp with
    | .ioDummyResp => w.note (.responded resp status userData)
    | .resp _ => A.callback perform (.responded resp status userData) w
  smError w := A.callback perform .smError w
  smReset w := A.callback perform .smReset w
  smHandleNtf gid oid payload w := A.callback perform (.notification gid oid payload) w
  dataPacket cid payload w := A.callback perform (.dataPacket cid payload) w

/-- The HAL, and the core as the client of the layer below. -/
def sarEnvWith : SarEnv (CoreEnv CoreLog) where
  halStart _ env := (A.halStart env.io, env.record (.halStart (A.halStart env.io)))
  halStop _ env := env.record .halStop
  halWrite chunks sar env :=
    (A.halWrite env.io, env.record (.halWrite chunks (A.halWrite env.io) sar))
  halCancelWrite _ env := env.record .halCancelWrite
  error w := nciCoreSarError (A.clientWith perform) w
  handleResponse gid oid payload w :=
    nciCoreSarHandleResponse (A.clientWith perform) gid oid payload
      (w.note (.response gid oid payload))
  handleNotification gid oid payload w :=
    nciCoreSarHandleNotification (A.clientWith perform) gid oid payload w
  handleDataPacket cid payload w :=
    nciCoreSarHandleDataPacket (A.clientWith perform) cid payload w
  complete _ success w :=
    nciCoreCommandCompletion (A.clientWith perform) success
      (w.note (.completion success w.env.core w.sar))
  destroy _ w := w

/-- The command that has just been accepted. -/
def acceptedCommand (gid oid : UInt8) (resp : Option Nat) (userData : UserData)
    (w : CoreWorld CoreLog) : CoreCommand where
  gid := gid
  oid := oid
  resp := match resp with
    | some f => .resp f
    | none => .ioDummyResp
  userData := match resp with
    | some _ => userData
    | none => .self
  id := w.env.core.cmdId
  addr := w.sar.nextAddr - 1

/-- Records and sends a command. -/
def ioSend (gid oid : UInt8) (payload : Option (List UInt8)) (resp : Option Nat)
    (userData : UserData) (w : CoreWorld CoreLog) : CoreWorld CoreLog :=
  let r := nciCoreIoSend (A.sarEnvWith perform) (A.clientWith perform) gid oid payload resp
    userData (w.note (.send gid oid w.env.core w.sar))
  if r.1 then r.2.note (.accepted (acceptedCommand gid oid resp userData r.2) r.2.sar) else r.2

/-- Records and performs a call. -/
def call (w : CoreWorld CoreLog) : CoreCall → CoreWorld CoreLog
  | .ioSend gid oid payload resp userData => A.ioSend perform gid oid payload resp userData w
  | .ioCancel =>
      nciCoreIoCancel (A.sarEnvWith perform) (A.clientWith perform)
        (w.note (.cancel w.env.core w.sar))
  | .restart =>
      nciCoreRestartInternal (A.sarEnvWith perform) (A.clientWith perform) A.fuel (w.note .restart)
  | .sar c _ => c.perform (A.sarEnvWith perform) A.fuel (w.note (.sar c))

end

/-- Performs calls, in whose callbacks calls are performed to a given depth. -/
def perform (A : CoreApp) : Nat → List CoreCall → CoreWorld CoreLog → CoreWorld CoreLog
  | 0, _, w => w
  | n + 1, calls, w => calls.foldl (A.call (A.perform n)) w

end CoreApp

/-! ### Runs -/

/-- What can happen when no function is running. -/
inductive CoreEvent where
  | call (c : CoreCall)
  | segment (packet : List UInt8)
  | written (ok : Bool)
  | idle
  | halError
  | timeout (t : Nat)
  | setTimeout (ms : UInt32)

/-- An event takes place. The HAL reports the end of a write only if one is pending, and the
idle callback and timeouts run only if they are scheduled. -/
def CoreApp.step (A : CoreApp) (n : Nat) (w : CoreWorld CoreLog) : CoreEvent → CoreWorld CoreLog
  | .call c => A.call (A.perform n) w c
  | .segment packet => nciSarHalHandleSegment (A.sarEnvWith (A.perform n)) packet w
  | .written ok =>
      if w.sar.writePending then
        nciSarWriteCompleted (A.sarEnvWith (A.perform n)) ok (w.note (.written ok))
      else w
  | .idle =>
      if w.sar.startWriteId then nciSarStartWrite (A.sarEnvWith (A.perform n)) w else w
  | .halError => nciSarHalClientError (A.sarEnvWith (A.perform n)) w
  | .timeout t =>
      if t ∈ w.env.timeouts then
        nciCoreCommandTimeout (A.sarEnvWith (A.perform n)) (A.clientWith (A.perform n))
          ((w.mapEnv fun env => { env with timeouts := env.timeouts.erase t }).note
            (.timedOut w.env.core w.sar))
      else w
  | .setTimeout ms => w.mapEnv fun env => env.modify fun core => { core with cmdTimeout := ms }

/-- Events take place one after another. -/
def CoreApp.run (A : CoreApp) (n : Nat) (w : CoreWorld CoreLog) (events : List CoreEvent) :
    CoreWorld CoreLog :=
  events.foldl (A.step n) w

/-- A new core above a new layer: no command has been sent. -/
def coreStart : CoreWorld CoreLog where
  sar := nciSarNew
  env :=
    { core :=
        { cmdTimeout := 2000, cmdId := 0, cmdTimeoutId := none, rspGid := 0, rspOid := 0,
          rspHandler := none, rspData := .null }
      timeouts := []
      nextTimeout := 0
      io := [] }

end Nci
