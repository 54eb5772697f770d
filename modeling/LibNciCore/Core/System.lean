import LibNciCore.Core.Command
import LibNciCore.Core.Params

/-!
# The core as a whole

The segmentation and reassembly layer, the slots of the last command and the state machine are put
together. The state machine sends its commands through the slots, its response functions are called
by the core, and what it publishes is passed on to the application. What is around the core is a
`SystemApp`: it decides what the HAL answers, and which functions of the core are called from inside
a callback, depending on everything that has happened so far.
-/

namespace Nci

/-! ### The state -/

/-- What is seen of the core from outside: what it asks of the HAL, its signals, and the calls of
functions that come with a data packet. -/
inductive SystemEntry where
  | halStart (ok : Bool)
  | halStop
  | halWrite (chunks : List (List UInt8)) (ok : Bool)
  | halCancelWrite
  | currentState (state : NciState)
  | nextState (state : NciState)
  | intfActivated (ntf : NciIntfActivationNtf)
  | dataPacket (cid : UInt8) (payload : List UInt8)
  | paramChanged (key : NciCoreParamKey)
  | complete (f : Nat) (ok : Bool)
  | destroy (f : Nat)

abbrev SystemLog := List SystemEntry

/-- What belongs neither to the layer below nor to the command slots nor to the state machine: the
states that are published, the defaults of the parameters, and the log. -/
structure SystemIo where
  currentState : NciState
  nextState : NciState
  defaultLaNfcid1 : NciNfcid1
  defaultLiAHb : NciAtsHb
  log : SystemLog

/-- What is above the command slots. -/
structure SystemState where
  sm : NciSm
  io : SystemIo

/-- The core as a whole. -/
abbrev System := CoreWorld SystemState

/-- The surroundings of the core with other things in them. -/
def CoreEnv.withIo {ι κ : Type} (env : CoreEnv ι) (io : κ) : CoreEnv κ :=
  { core := env.core, timeouts := env.timeouts, nextTimeout := env.nextTimeout, io := io }

/-- The state machine, with all the rest behind its interface. -/
def World.toSm (w : System) : SmWorld (CoreWorld SystemIo) :=
  ⟨w.env.io.sm, ⟨w.sar, w.env.withIo w.env.io.io⟩⟩

/-- The core, the state machine of which is given together with all the rest. -/
def SmWorld.toSystem (w : SmWorld (CoreWorld SystemIo)) : System :=
  ⟨w.io.sar, w.io.env.withIo ⟨w.sm, w.io.env.io⟩⟩

@[simp]
theorem World.toSystem_toSm (w : System) :
  w.toSm.toSystem = w
  := rfl

/-- The state machine together with the defaults of its parameters. -/
def World.object (w : System) : NciSmObject :=
  ⟨w.env.io.sm, w.env.io.io.defaultLaNfcid1, w.env.io.io.defaultLiAHb⟩

/-- The state machine and the defaults of its parameters are replaced. -/
def World.setObject (w : System) (obj : NciSmObject) : System :=
  w.mapEnv fun env =>
    env.withIo ⟨obj.sm,
      { env.io.io with defaultLaNfcid1 := obj.defaultLaNfcid1, defaultLiAHb := obj.defaultLiAHb }⟩

/-- An entry is added to the log. -/
def CoreEnv.report (env : CoreEnv SystemState) (e : SystemEntry) : CoreEnv SystemState :=
  env.withIo { env.io with io := { env.io.io with log := env.io.io.log ++ [e] } }

/-- An entry is added to the log. -/
def World.report (w : System) (e : SystemEntry) : System := w.mapEnv fun env => env.report e

/-- The state machine is changed by `f`. -/
def World.mapSm (w : System) (f : SmWorld (CoreWorld SystemIo) → SmWorld (CoreWorld SystemIo)) :
    System :=
  (f w.toSm).toSystem

/-! ### Requests -/

/-- A call of a function of the core. -/
inductive SystemRequest where
  | restart
  | setState (state : NciState)
  | setOpMode (opMode : UInt32)
  | setTech (tech : UInt32)
  | setParams (params : Option (List NciCoreParam)) (reset : Bool)
  | resetParam (key : NciCoreParamKey)
  | sendDataMsg (cid : UInt8) (payload : Option (List UInt8)) (complete destroy : Option Nat)
  | cancel (id : UInt32)
  | setCmdTimeout (ms : UInt32)

/-- What is around the core: the answers of the HAL, and the calls made from inside a callback,
given the log so far. -/
structure SystemApp where
  halStart : SystemLog → Bool
  halWrite : SystemLog → Bool
  react : SystemLog → List SystemRequest
  fuel : Nat

/-! ### What the core calls -/

/-- All response functions. The core knows them by their places in this list. -/
def NciSmResponseFunc.all : List NciSmResponseFunc :=
  [.resetRsp, .resetInitV1Rsp, .resetInitV2Rsp, .resetSetConfigRsp, .idleToDiscoveryGetConfigRsp,
    .idleToDiscoverySetConfigRsp, .idleToDiscoverySetMixedRoutingRsp,
    .idleToDiscoverySetProtocolRoutingRsp, .idleToDiscoveryLastProtocolRoutingRsp,
    .idleToDiscoverySetTechRoutingRsp, .idleToDiscoverMapRsp, .idleToDiscoveryDiscoverRsp,
    .deactivateToIdleRsp, .deactivateToDiscoveryRsp, .deactivateToDiscoveryIdleRsp,
    .pollActiveToIdleRsp, .listenActiveToIdleRsp, .w4HostSelectRsp]

/-- The place of a response function. -/
def NciSmResponseFunc.place (resp : NciSmResponseFunc) : Nat := NciSmResponseFunc.all.idxOf resp

/-- Surroundings of the layer below that do nothing. -/
def SarEnv.idle {ε : Type} : SarEnv ε where
  halStart _ env := (false, env)
  halStop _ env := env
  halWrite _ _ env := (false, env)
  halCancelWrite _ env := env
  error w := w
  handleResponse _ _ _ w := w
  handleNotification _ _ _ w := w
  handleDataPacket _ _ w := w
  complete _ _ w := w
  destroy _ w := w

/-- A client that does nothing. -/
def NciCoreClient.idle {ι : Type} : NciCoreClient ι where
  respond _ _ _ _ w := w
  smError w := w
  smReset w := w
  smHandleNtf _ _ _ w := w
  dataPacket _ _ w := w

namespace SystemApp

section

variable (A : SystemApp) (perform : List SystemRequest → System → System)

/-- An entry is added to the log, and the functions are called that the application calls then. -/
def callback (e : SystemEntry) (w : System) : System :=
  perform (A.react (w.report e).env.io.io.log) (w.report e)

/-- The destroy function that comes with a data packet. -/
def destroyed (destroy : Nat) (w : System) : System :=
  match destroy with
  | 0 => w
  | f + 1 => A.callback perform (.destroy f) w

/-- What is behind the interface of the state machine. Sending a command and cancelling it calls
nothing: a command has no destroy function, and a response function does nothing when it is told
that its request is cancelled. -/
def smIoWith : NciSmIo (CoreWorld SystemIo) where
  timeout w := w.env.core.cmdTimeout != 0
  send gid oid payload resp _ w :=
    nciCoreIoSend SarEnv.idle NciCoreClient.idle gid oid payload (some resp.place) .null w
  cancel _ w := nciCoreIoCancel SarEnv.idle NciCoreClient.idle w
  sarSetMaxLogicalConnections max w :=
    (nciSarSetMaxLogicalConnections { SarEnv.idle with destroy := A.destroyed perform } A.fuel max
      w.toSystem).toSm
  sarSetMaxControlPayloadSize max w := w.map fun sar => nciSarSetMaxControlPayloadSize sar max
  sarSetMaxDataPayloadSize max w := w.map fun sar => nciSarSetMaxDataPayloadSize sar max
  sarSetInitialCredits cid credits w := w.map fun sar => nciSarSetInitialCredits sar cid credits
  sarAddCredits cid credits w := w.map fun sar => nciSarAddCredits sar cid credits
  signal sig w :=
    match sig with
    | .lastState =>
        (A.callback perform (.currentState w.sm.lastState)
          (w.toSystem.mapEnv fun env => env.withIo
            { env.io with io := { env.io.io with currentState := w.sm.lastState } })).toSm
    | .nextState =>
        (A.callback perform (.nextState w.sm.nextState)
          (w.toSystem.mapEnv fun env => env.withIo
            { env.io with io := { env.io.io with nextState := w.sm.nextState } })).toSm
  intfActivated ntf w := (A.callback perform (.intfActivated ntf) w.toSystem).toSm

/-- The state machine and its response functions, as the core calls them. -/
def clientWith : NciCoreClient SystemState where
  respond resp status payload _ w :=
    match resp with
    | .ioDummyResp => w
    | .resp f =>
        match NciSmResponseFunc.all[f]? with
        | some resp => w.mapSm (resp.call (A.smIoWith perform) status payload)
        | none => w
  smError w := w.mapSm (nciSmError (A.smIoWith perform))
  smReset w := w.mapSm (nciSmReset (A.smIoWith perform))
  smHandleNtf gid oid payload w := w.mapSm (nciSmHandleNtf (A.smIoWith perform) gid oid payload)
  dataPacket cid payload w := A.callback perform (.dataPacket cid payload) w

/-- The completion functions: that of commands, that of data packets without a completion function
of their own, and those that come with data packets. -/
def completed (complete : Nat) (ok : Bool) (w : System) : System :=
  match complete with
  | 0 => nciCoreCommandCompletion (A.clientWith perform) ok w
  | 1 => w
  | f + 2 => A.callback perform (.complete f ok) w

/-- The HAL, and the core as the client of the layer below. -/
def sarEnvWith : SarEnv (CoreEnv SystemState) where
  halStart _ env := (A.halStart env.io.io.log, env.report (.halStart (A.halStart env.io.io.log)))
  halStop _ env := env.report .halStop
  halWrite chunks _ env :=
    (A.halWrite env.io.io.log, env.report (.halWrite chunks (A.halWrite env.io.io.log)))
  halCancelWrite _ env := env.report .halCancelWrite
  error w := nciCoreSarError (A.clientWith perform) w
  handleResponse gid oid payload w :=
    nciCoreSarHandleResponse (A.clientWith perform) gid oid payload w
  handleNotification gid oid payload w :=
    nciCoreSarHandleNotification (A.clientWith perform) gid oid payload w
  handleDataPacket cid payload w :=
    nciCoreSarHandleDataPacket (A.clientWith perform) cid payload w
  complete f ok w := A.completed perform f ok w
  destroy f w := A.destroyed perform f w

/-! ### The functions of the core -/

def nciCoreRestart (w : System) : System :=
  nciCoreRestartInternal (A.sarEnvWith perform) (A.clientWith perform) A.fuel w

/-- Changes are signalled one after another, and if there are any, then the core is restarted. -/
def nciCoreParamsSignal (changed : List NciCoreParamKey) (w : System) : System :=
  if changed ≠ [] then
    A.nciCoreRestart perform
      (changed.foldl (fun w key => A.callback perform (.paramChanged key) w) w)
  else w

/-- Sets parameters. Nothing is done if there is no list and they are not to be set back either. -/
def nciCoreSetParams (params : Option (List NciCoreParam)) (reset : Bool) (w : System) : System :=
  if params.isSome ∨ reset = true then
    let obj := nciCoreParamsApply (params.getD []) reset w.object
    A.nciCoreParamsSignal perform (nciCoreParamsChanged w.object obj) (w.setObject obj)
  else w

/-- Sets a parameter back to its default. -/
def nciCoreResetParam (key : NciCoreParamKey) (w : System) : System :=
  let obj := (nciCoreParams key).reset w.object
  let v := (nciCoreParams key).get w.object
  let v' := (nciCoreParams key).get obj
  let w := w.setObject obj
  if !(nciCoreParams key).equal v v' then
    A.nciCoreRestart perform (A.callback perform (.paramChanged key) w)
  else w

/-- Sends a data packet. It has both functions or neither of them. -/
def nciCoreSendDataMsg (cid : UInt8) (payload : Option (List UInt8)) (complete destroy : Option Nat)
    (w : System) : UInt32 × System :=
  let r :=
    if complete.isSome ∨ destroy.isSome then
      nciSarSendDataPacket w.sar cid payload (some ((complete.map (· + 2)).getD 1))
        (some ((destroy.map (· + 1)).getD 0))
    else nciSarSendDataPacket w.sar cid payload none none
  (r.1, { w with sar := r.2 })

def nciCoreCancel (id : UInt32) (w : System) : System :=
  nciSarCancel (A.sarEnvWith perform) id w

/-- The function that is called. -/
def call (w : System) : SystemRequest → System
  | .restart => A.nciCoreRestart perform w
  | .setState state => w.mapSm (nciSmSwitchTo (A.smIoWith perform) state)
  | .setOpMode opMode => w.mapSm (nciSmSetOpMode (A.smIoWith perform) opMode)
  | .setTech tech => w.mapSm fun w => (nciSmSetTech (A.smIoWith perform) tech w).2
  | .setParams params reset => A.nciCoreSetParams perform params reset w
  | .resetParam key => A.nciCoreResetParam perform key w
  | .sendDataMsg cid payload complete destroy =>
      (nciCoreSendDataMsg cid payload complete destroy w).2
  | .cancel id => A.nciCoreCancel perform id w
  | .setCmdTimeout ms => w.mapEnv fun env => env.modify fun core => { core with cmdTimeout := ms }

end

/-- Functions are called one after another, and the callbacks inside them are nested at most to the
given depth. -/
def perform (A : SystemApp) : Nat → List SystemRequest → System → System
  | 0, _, w => w
  | n + 1, requests, w => requests.foldl (A.call (A.perform n)) w

/-- What is behind the interface of the state machine, with callbacks that are nested at most to the
given depth. -/
def smIo (A : SystemApp) (n : Nat) : NciSmIo (CoreWorld SystemIo) := A.smIoWith (A.perform n)

/-- The surroundings of the layer below, with callbacks nested at most to the given depth. -/
def sarEnv (A : SystemApp) (n : Nat) : SarEnv (CoreEnv SystemState) := A.sarEnvWith (A.perform n)

/-- What the core calls, with callbacks that are nested at most to the given depth. -/
def client (A : SystemApp) (n : Nat) : NciCoreClient SystemState := A.clientWith (A.perform n)

end SystemApp

/-! ### Runs -/

/-- What can happen when no function of the core is running. -/
inductive SystemEvent where
  | request (r : SystemRequest)
  | read (data : List UInt8)
  | written (ok : Bool)
  | idleWrite
  | idleSwitch
  | commandTimeout (t : Nat)
  | transitionTimeout (transition : NciTransition)
  | halError

namespace SystemApp

variable (A : SystemApp) (n : Nat)

/-- A transition takes too long. -/
def nciTransitionTimeout (transition : NciTransition) (w : SmWorld (CoreWorld SystemIo)) :
    SmWorld (CoreWorld SystemIo) :=
  if w.sm.timeoutId transition then
    nciSmError (A.smIo n) (w.map fun self =>
      { self with timeoutId := Function.update self.timeoutId transition false })
  else w

/-- An event takes place. The HAL reports the end of a write only if one is pending, and idle
callbacks and timeouts run only if they are scheduled. -/
def step (w : System) : SystemEvent → System
  | .request r => A.call (A.perform n) w r
  | .read data => nciSarHalClientRead (A.sarEnv n) data w
  | .written ok => if w.sar.writePending then nciSarWriteCompleted (A.sarEnv n) ok w else w
  | .idleWrite => if w.sar.startWriteId then nciSarStartWrite (A.sarEnv n) w else w
  | .idleSwitch => w.mapSm (nciSmSwitchProc (A.smIo n))
  | .commandTimeout t =>
      if t ∈ w.env.timeouts then
        nciCoreCommandTimeout (A.sarEnv n) (A.client n)
          (w.mapEnv fun env => { env with timeouts := env.timeouts.erase t })
      else w
  | .transitionTimeout transition => w.mapSm (A.nciTransitionTimeout n transition)
  | .halError => nciSarHalClientError (A.sarEnv n) w

/-- Events take place one after another. -/
def run (w : System) (events : List SystemEvent) : System := events.foldl (A.step n) w

end SystemApp

/-- A new core above a new layer. All parameters are set to their defaults, which may come from a
configuration file. -/
def nciCoreNew (obj : NciSmObject) : System where
  sar := nciSarNew
  env :=
    { core :=
        { cmdTimeout := 2000, cmdId := 0, cmdTimeoutId := none, rspGid := 0, rspOid := 0,
          rspHandler := none, rspData := .null }
      timeouts := []
      nextTimeout := 0
      io :=
        { sm := (nciCoreParamsReset obj).sm
          io :=
            { currentState := (nciCoreParamsReset obj).sm.lastState
              nextState := (nciCoreParamsReset obj).sm.nextState
              defaultLaNfcid1 := obj.defaultLaNfcid1
              defaultLiAHb := obj.defaultLiAHb
              log := [] } } }

/-- Surroundings in which the HAL works, and nothing is called from inside a callback. -/
def SystemApp.quiet : SystemApp where
  halStart _ := true
  halWrite _ := true
  react _ := []
  fuel := 100

end Nci
