import LibNciCore.Sm.Types

/-!
# Entering states and switching between them

How a transition is started and finished, how a state is entered and left, and how the machine
decides what to do when it is asked to switch to another state.
-/

namespace Nci

variable {ι : Type} (E : NciSmIo ι)

/-! ### Signals -/

/-- A signal is queued. -/
def nciSmQueueSignal (sig : NciSmSignal) (self : NciSm) : NciSm :=
  { self with pendingSignals := Function.update self.pendingSignals sig true }

/-- A signal is emitted if it is pending. -/
def nciSmEmitSignal (sig : NciSmSignal) (w : SmWorld ι) : SmWorld ι :=
  if w.sm.pendingSignals sig then
    E.signal sig (w.map fun self =>
      { self with pendingSignals := Function.update self.pendingSignals sig false })
  else w

def nciSmEmitPendingSignals (w : SmWorld ι) : SmWorld ι :=
  nciSmEmitSignal E .lastState (nciSmEmitSignal E .nextState w)

def nciSmSetLastState (state : NciState) (self : NciSm) : NciSm :=
  if self.lastState ≠ state then nciSmQueueSignal .lastState { self with lastState := state }
  else self

def nciSmSetNextState (state : NciState) (self : NciSm) : NciSm :=
  if self.nextState ≠ state then nciSmQueueSignal .nextState { self with nextState := state }
  else self

/-! ### Commands -/

/-- Sends a command, and tells whether it was accepted. -/
def nciSmSendCommand (gid oid : UInt8) (payload : Option (List UInt8)) (resp : NciSmResponseFunc)
    (w : SmWorld ι) : Bool × SmWorld ι :=
  let r := E.send gid oid payload resp w.sm w.io
  (r.1, { w with io := r.2 })

/-- RF_DEACTIVATE_CMD (Idle) -/
def nciTransitionDeactivateToIdle (resp : NciSmResponseFunc) (w : SmWorld ι) : Bool × SmWorld ι :=
  nciSmSendCommand E nciGidRf nciOidRfDeactivate (some [0x00]) resp w

/-- RF_DEACTIVATE_CMD (Discovery) -/
def nciTransitionDeactivateToDiscovery (resp : NciSmResponseFunc) (w : SmWorld ι) :
    Bool × SmWorld ι :=
  nciSmSendCommand E nciGidRf nciOidRfDeactivate (some [0x03]) resp w

/-! ### Starting and finishing transitions -/

/-- The timer of a transition is started, or restarted. -/
def nciTransitionDefaultStart (transition : NciTransition) (w : SmWorld ι) : SmWorld ι :=
  w.map fun self =>
    { self with timeoutId := Function.update self.timeoutId transition (E.timeout w.io) }

/-- What is known of the controller is forgotten. -/
def nciTransitionResetForget (self : NciSm) : NciSm :=
  { self with
    rfInterfaces := none
    maxRoutingTableSize := 0
    version := .unknown
    nfccDiscovery := 0
    nfccRouting := 0
    nfccPower := 0 }

/-- CORE_RESET_CMD (Keep Configuration) -/
def nciTransitionResetStart (w : SmWorld ι) : Bool × SmWorld ι :=
  nciSmSendCommand E nciGidCore nciOidCoreReset (some [0x00]) .resetRsp
    ((nciTransitionDefaultStart E .reset w).map nciTransitionResetForget)

abbrev nciConfigLaSensRes1 : UInt8 := 0x30

abbrev nciConfigLaSelInfo : UInt8 := 0x32

abbrev nciConfigLaNfcid1 : UInt8 := 0x33

abbrev nciConfigLfProtocolType : UInt8 := 0x50

abbrev nciConfigLiAHistBy : UInt8 := 0x59

/-- CORE_GET_CONFIG_CMD -/
def nciTransitionIdleToDiscoveryStart (w : SmWorld ι) : Bool × SmWorld ι :=
  nciSmSendCommand E nciGidCore nciOidCoreGetConfig
    (some [5, nciConfigLaSensRes1, nciConfigLaSelInfo, nciConfigLaNfcid1, nciConfigLfProtocolType,
      nciConfigLiAHistBy])
    .idleToDiscoveryGetConfigRsp (nciTransitionDefaultStart E .idleToDiscovery w)

/-- The transition forgets the notification it has seen. -/
def nciTransitionListenActiveToIdleReset (self : NciSm) : NciSm :=
  { self with expectingNtf := false, ntf := none }

/-- Starts a transition, and tells whether it was started. -/
def nciTransitionStart (transition : NciTransition) (w : SmWorld ι) : Bool × SmWorld ι :=
  match transition with
  | .reset => nciTransitionResetStart E w
  | .idleToDiscovery => nciTransitionIdleToDiscoveryStart E w
  | .deactivateToIdle =>
      nciTransitionDeactivateToIdle E .deactivateToIdleRsp
        (nciTransitionDefaultStart E .deactivateToIdle w)
  | .deactivateToDiscovery =>
      nciTransitionDeactivateToDiscovery E .deactivateToDiscoveryRsp
        (nciTransitionDefaultStart E .deactivateToDiscovery w)
  | .pollActiveToIdle =>
      nciTransitionDeactivateToIdle E .pollActiveToIdleRsp
        (nciTransitionDefaultStart E .pollActiveToIdle w)
  | .listenActiveToIdle =>
      nciTransitionDeactivateToIdle E .listenActiveToIdleRsp
        (nciTransitionDefaultStart E .listenActiveToIdle
          (w.map nciTransitionListenActiveToIdleReset))

/-- The timer of a transition is stopped. -/
def nciTransitionDefaultFinished (transition : NciTransition) (self : NciSm) : NciSm :=
  { self with timeoutId := Function.update self.timeoutId transition false }

def nciTransitionFinished (transition : NciTransition) (self : NciSm) : NciSm :=
  match transition with
  | .listenActiveToIdle =>
      nciTransitionDefaultFinished .listenActiveToIdle (nciTransitionListenActiveToIdleReset self)
  | transition => nciTransitionDefaultFinished transition self

def nciSmFinishActiveTransition (self : NciSm) : NciSm :=
  match self.activeTransition with
  | some finished => nciTransitionFinished finished { self with activeTransition := none }
  | none => self

/-! ### Leaving and entering states -/

def nciStateDefaultEnter (state : NciState) (self : NciSm) : NciSm :=
  { self with active := Function.update self.active state true }

def nciStateDefaultLeave (state : NciState) (self : NciSm) : NciSm :=
  { self with active := Function.update self.active state false }

def nciStateLeave (state : NciState) (self : NciSm) : NciSm :=
  match state with
  | .w4AllDiscoveries =>
      nciStateDefaultLeave .w4AllDiscoveries { self with discoveries := [] }
  | state => nciStateDefaultLeave state self

/-- The active state is left. -/
def nciSmLeaveActiveState (self : NciSm) : NciSm :=
  match self.activeState with
  | some state => nciStateLeave state self
  | none => self

/-- No state is active any more. -/
def nciSmDeactivateState (self : NciSm) : NciSm :=
  { nciSmLeaveActiveState self with activeState := none }

/-- The transition is optimistically marked as active. -/
def nciSmMarkActive (transition : NciTransition) (self : NciSm) : NciSm :=
  { (if self.activeTransition ≠ some transition then nciSmFinishActiveTransition self
      else self) with
    activeTransition := some transition }

/-- The transition is not active after all. There is no need to finish it. -/
def nciSmUnmarkActive (transition : NciTransition) (self : NciSm) : NciSm :=
  if self.activeTransition = some transition then { self with activeTransition := none } else self

/-- Starts a transition and leaves the active state, and tells whether the transition was
started. -/
def nciSmStartTransition (transition : NciTransition) (w : SmWorld ι) : Bool × SmWorld ι :=
  let r := nciTransitionStart E transition (w.map (nciSmMarkActive transition))
  if r.1 then (true, r.2.map nciSmDeactivateState)
  else (false, r.2.map (nciSmUnmarkActive transition))

/-- The part of `nciSmSwitchTo` for a request that is made while a state is being entered: it
is left to an idle callback. -/
def nciSmScheduleSwitch (state : NciState) (self : NciSm) : NciSm :=
  { self with pendingSwitch := some state }

/-! ### The states that do something when they are entered -/

/-- The limit for data packets is set to its default. -/
def nciStateDiscoveryEntered (w : SmWorld ι) : SmWorld ι :=
  { w with io := E.sarSetMaxDataPayloadSize 0 w.io }

def nciSmSupportsProtocol (self : NciSm) (protocol : NciProtocol) : Bool :=
  match protocol with
  | .t2t | .t5t => self.opMode &&& nfcOpModeRw != 0
  | .isoDep => self.opMode &&& (nfcOpModeRw ||| nfcOpModeCe) != 0
  | .nfcDep => self.opMode &&& nfcOpModePeer != 0
  | .undetermined | .t1t | .t3t | .proprietary | .other _ => false

/-- The protocols that are preferred. -/
def protocolOrder : List NciProtocol := [.nfcDep, .isoDep, .t2t]

/-- The order of discoveries: a number that is negative if the first one comes first. -/
def nciStateW4HostSelectSort (a b : NciDiscoveryNtf) : Int :=
  let byProtocol :=
    if a.protocol ≠ b.protocol then
      protocolOrder.findSome? fun protocol =>
        if a.protocol = protocol then some (-1)
        else if b.protocol = protocol then some 1
        else none
    else none
  byProtocol.getD ((a.discoveryId.toNat : Int) - (b.discoveryId.toNat : Int))

/-- Inserts a discovery before the first one that does not come before it. -/
def insertSorted (ntf : NciDiscoveryNtf) : List NciDiscoveryNtf → List NciDiscoveryNtf
  | a :: as =>
      if 0 < nciStateW4HostSelectSort ntf a then a :: insertSorted ntf as else ntf :: a :: as
  | [] => [ntf]

/-- The interface that is selected for a protocol. -/
def selectedInterface : NciProtocol → NciRfInterface
  | .isoDep => .isoDep
  | .nfcDep => .nfcDep
  | .t1t | .t2t | .t3t | .t5t | .proprietary | .undetermined | .other _ => .frame

/-- Selects one of the discovered targets. If the machine supports none of them, the discovery
has to go on. -/
def nciStateW4HostSelectEntered (param : Option NciParam) (w : SmWorld ι) : SmWorld ι :=
  match param with
  | some (.w4HostSelect ntf) =>
      let selected := (ntf.filter fun ntf => nciSmSupportsProtocol w.sm ntf.protocol).foldl
        (fun selected ntf => insertSorted ntf selected) []
      match selected with
      | ntf :: _ =>
          (nciSmSendCommand E nciGidRf nciOidRfDiscoverSelect
            (some [ntf.discoveryId, ntf.protocol.byte, (selectedInterface ntf.protocol).byte])
            .w4HostSelectRsp w).2
      | [] => w.map (nciSmScheduleSwitch .discovery)
  | _ => w

/-- What a state does when it is entered, up to becoming active. RFST_W4_ALL_DISCOVERIES, which
may enter another state from here, is missing. -/
def nciStateEnteredFlat (state : NciState) (param : Option NciParam) (w : SmWorld ι) : SmWorld ι :=
  match state with
  | .discovery => nciStateDiscoveryEntered E w
  | .w4HostSelect => nciStateW4HostSelectEntered E param w
  | _ => w

/-! ### Entering a state -/

/-- The active state is left for another one. -/
def nciSmReplaceActiveState (state : NciState) (self : NciSm) : NciSm :=
  { nciSmLeaveActiveState self with activeState := some state }

/-- Activates a state that does `entered` when it is entered or entered again. -/
def nciSmActivate (entered : NciState → Option NciParam → SmWorld ι → SmWorld ι)
    (state : NciState) (param : Option NciParam) (w : SmWorld ι) : SmWorld ι :=
  if w.sm.activeState = some state then entered state param w
  else
    (entered state param (w.map (nciSmReplaceActiveState state))).map (nciStateDefaultEnter state)

/-- The next transition, unless it leads to the state that has been entered. -/
def nciSmTakeNextTransition (state : NciState) (self : NciSm) : Option NciTransition :=
  self.nextTransition.filter fun transition => transition.dest != state

/-- Starts the next transition if there is any. -/
def nciSmStartNextTransition (state : NciState) (w : SmWorld ι) : SmWorld ι :=
  let next := nciSmTakeNextTransition state w.sm
  let w := w.map fun self => { self with nextTransition := none }
  match next with
  | some transition => (nciSmStartTransition E transition w).2
  | none => w

/-- Entering any state terminates the active transition. -/
def nciSmBeginEntering (self : NciSm) : NciSm :=
  nciSmFinishActiveTransition { self with enteringState := self.enteringState + 1 }

/-- The state that has been entered becomes the last one, and unless a transition has been
started, also the next one. -/
def nciSmEndEntering (state : NciState) (self : NciSm) : NciSm :=
  let self := nciSmSetLastState state self
  let self := if self.activeTransition.isNone then nciSmSetNextState state self else self
  { self with enteringState := self.enteringState - 1 }

/-- Enters a state that does `entered` when it is entered. -/
def nciSmEnterWith (entered : NciState → Option NciParam → SmWorld ι → SmWorld ι)
    (state : NciState) (param : Option NciParam) (w : SmWorld ι) : SmWorld ι :=
  (nciSmStartNextTransition E state
    (nciSmActivate entered state param (w.map nciSmBeginEntering))).map (nciSmEndEntering state)

/-- Enters RFST_W4_HOST_SELECT from inside RFST_W4_ALL_DISCOVERIES. -/
def nciSmEnterHostSelect (ntf : List NciDiscoveryNtf) (w : SmWorld ι) : SmWorld ι :=
  nciSmEmitPendingSignals E
    (nciSmEnterWith E (nciStateEnteredFlat E) .w4HostSelect (some (.w4HostSelect ntf)) w)

/-- A discovery is collected. After the last one the host selects a target. -/
def nciStateW4AllDiscoveriesHandleDiscovery (ntf : NciDiscoveryNtf) (w : SmWorld ι) : SmWorld ι :=
  let w := w.map fun self => { self with discoveries := self.discoveries ++ [ntf] }
  if ntf.last then nciSmEnterHostSelect E w.sm.discoveries w else w

/-- What a state does when it is entered, up to becoming active. -/
def nciStateEntered (state : NciState) (param : Option NciParam) (w : SmWorld ι) : SmWorld ι :=
  match state with
  | .w4AllDiscoveries =>
      let w := w.map fun self => { self with discoveries := [] }
      match param with
      | some (.w4AllDiscoveries ntf) => nciStateW4AllDiscoveriesHandleDiscovery E ntf w
      | _ => w
  | state => nciStateEnteredFlat E state param w

def nciSmEnterStateInternal (state : NciState) (param : Option NciParam) (w : SmWorld ι) :
    SmWorld ι :=
  nciSmEnterWith E (nciStateEntered E) state param w

def nciSmEnterState (state : NciState) (param : Option NciParam) (w : SmWorld ι) : SmWorld ι :=
  nciSmEmitPendingSignals E (nciSmEnterStateInternal E state param w)

/-! ### Stalling -/

/-- The state in which the machine stalls. -/
def NciStall.state : NciStall → NciState
  | .stop => .stop
  | .error => .error

/-- The machine is in the state in which it stalls. -/
def nciSmStalled (state : NciState) (self : NciSm) : NciSm :=
  let self := nciSmSetNextState state (nciSmSetLastState state (nciSmFinishActiveTransition self))
  if self.activeState ≠ some state then
    nciStateDefaultEnter state (nciSmReplaceActiveState state self)
  else self

/-- The outstanding command is cancelled, and the active transition is given up. -/
def nciSmStallInternal (type : NciStall) (w : SmWorld ι) : SmWorld ι :=
  { sm := nciSmStalled type.state w.sm, io := E.cancel w.sm w.io }

def nciSmStall (type : NciStall) (w : SmWorld ι) : SmWorld ι :=
  nciSmEmitPendingSignals E (nciSmStallInternal E type w)

def nciSmError (w : SmWorld ι) : SmWorld ι := nciSmStall E .error w

/-! ### Switching -/

/-- A switch while a transition is active: what comes after that transition is decided. -/
def nciSmSwitchActive (dest next : NciState) (w : SmWorld ι) : SmWorld ι :=
  if dest ≠ next then
    match nciStateGetTransition dest next with
    | some transition =>
        w.map fun self =>
          nciSmSetNextState next { self with nextTransition := some transition }
    | none =>
        if next.isInternal then nciSmEnterStateInternal E next none w
        else nciSmStallInternal E .error w
  else w

/-- A switch by way of RFST_IDLE, with the reset transition if there is no other one that leads
there. -/
def nciSmSwitchViaIdle (next : NciState) (w : SmWorld ι) : SmWorld ι :=
  let transitionToIdle := (nciStateGetTransition w.sm.lastState .idle).getD .reset
  let r := nciSmStartTransition E transitionToIdle w
  if r.1 then
    if next = .idle then r.2.map (nciSmSetNextState .idle)
    else
      match nciStateGetTransition .idle next with
      | some transition =>
          r.2.map fun self => nciSmSetNextState next { self with nextTransition := some transition }
      | none =>
          nciSmStallInternal E .error (r.2.map fun self => { self with nextTransition := none })
  else nciSmStallInternal E .error r.2

/-- A switch while no transition is active. -/
def nciSmSwitchIdle (next : NciState) (w : SmWorld ι) : SmWorld ι :=
  match nciStateGetTransition w.sm.lastState next with
  | some transition =>
      let r := nciSmStartTransition E transition w
      if r.1 then r.2.map (nciSmSetNextState next) else nciSmStallInternal E .error r.2
  | none =>
      if next.isInternal then nciSmEnterStateInternal E next none w
      else nciSmSwitchViaIdle E next w

/-- What is done to get to another state than the one that is next. -/
def nciSmSwitchBegin (next : NciState) (w : SmWorld ι) : SmWorld ι :=
  let w := w.map fun self => { self with nextTransition := none }
  match w.sm.activeTransition with
  | some transition => nciSmSwitchActive E transition.dest next w
  | none => nciSmSwitchIdle E next w

def nciSmSwitchInternal (next : NciState) (w : SmWorld ι) : SmWorld ι :=
  if w.sm.nextState ≠ next then nciSmEmitPendingSignals E (nciSmSwitchBegin E next w) else w

/-- The idle callback of a switch. -/
def nciSmSwitchProc (w : SmWorld ι) : SmWorld ι :=
  match w.sm.pendingSwitch with
  | some state =>
      nciSmSwitchInternal E state (w.map fun self => { self with pendingSwitch := none })
  | none => w

/-- Requests another state. A request that was still waiting is forgotten. -/
def nciSmSwitchTo (state : NciState) (w : SmWorld ι) : SmWorld ι :=
  let w := w.map fun self => { self with pendingSwitch := none }
  if w.sm.enteringState ≠ 0 then w.map (nciSmScheduleSwitch state)
  else nciSmSwitchInternal E state w

/-- While a state is being entered, a request is left to an idle callback. -/
theorem nciSmSwitchTo_entering {w : SmWorld ι} (h : w.sm.enteringState ≠ 0) (state : NciState) :
  nciSmSwitchTo E state w = w.map (nciSmScheduleSwitch state)
  := by
  rw [nciSmSwitchTo]
  simp only [SmWorld.map_sm, ne_eq, h, not_false_eq_true, if_true]
  rfl

theorem nciSmSwitchTo_outside {w : SmWorld ι} (h : w.sm.enteringState = 0) (state : NciState) :
  nciSmSwitchTo E state w
    = nciSmSwitchInternal E state (w.map fun self => { self with pendingSwitch := none })
  := by
  rw [nciSmSwitchTo]
  exact if_neg (not_not.mpr h)

/-! ### The interface of the machine -/

/-- The machine starts anew. -/
def nciSmReset (w : SmWorld ι) : SmWorld ι :=
  let w := w.map fun self => { self with pendingSwitch := none, nextTransition := none }
  nciSmEmitPendingSignals E
    (nciSmSwitchInternal E .idle (nciSmEnterStateInternal E .init none w))

/-- A machine that has left RFST_IDLE, or is about to, goes back there. -/
def nciSmRestart (w : SmWorld ι) : SmWorld ι :=
  if NciState.idle.id < w.sm.nextState.id then nciSmSwitchTo E .idle w else w

def nciSmSetOpMode (opMode : UInt32) (w : SmWorld ι) : SmWorld ι :=
  if w.sm.opMode ≠ opMode then
    nciSmRestart E (w.map fun self => { self with opMode := opMode })
  else w

/-- Sets the technologies, and returns them if they have changed. -/
def nciSmSetTech (tech : UInt32) (w : SmWorld ι) : UInt32 × SmWorld ι :=
  let validTechs := tech &&& nciTechAll
  if w.sm.techs ≠ validTechs then
    (validTechs, nciSmRestart E (w.map fun self => { self with techs := validTechs }))
  else (0, w)

/-- An interface is activated: the layer below gets its limit for data packets and the credits
of the static connection. -/
def nciSmIntfActivated (ntf : NciIntfActivationNtf) (w : SmWorld ι) : SmWorld ι :=
  let io := E.sarSetMaxDataPayloadSize ntf.maxDataPacketSize w.io
  let io := E.sarSetInitialCredits nciStaticRfConnId ntf.numCredits io
  E.intfActivated ntf { w with io := io }

end Nci
