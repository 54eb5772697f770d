import LibNciCore.Sm.Notifications

/-!
# Runs of the state machine

What is around the machine is an `SmHost`: it decides which commands are accepted, whether
commands time out, and what is requested from inside a callback, depending on everything that
has happened so far. What happens is recorded in a history: the events that arrive, what the
commands are answered with, what the layer below is called with, and the machine that sends a
command or emits a signal. Of the core the machine sees only that the response function of the
last command is called at most once.
-/

namespace Nci

/-! ### Requests -/

/-- A request to the machine. -/
inductive SmRequest where
  | switchTo (state : NciState)
  | setOpMode (opMode : UInt32)
  | setTech (tech : UInt32)
  | reset
  deriving DecidableEq, Repr

/-- The request is made. -/
def SmRequest.perform {ι : Type} (E : NciSmIo ι) (w : SmWorld ι) : SmRequest → SmWorld ι
  | .switchTo state => nciSmSwitchTo E state w
  | .setOpMode opMode => nciSmSetOpMode E opMode w
  | .setTech tech => (nciSmSetTech E tech w).2
  | .reset => nciSmReset E w

/-! ### The history -/

/-- What the machine does to the layer below. -/
inductive SarCall where
  | setMaxLogicalConnections (max : UInt8)
  | setMaxControlPayloadSize (max : UInt8)
  | setMaxDataPayloadSize (max : UInt8)
  | setInitialCredits (cid credits : UInt8)
  | addCredits (cid credits : UInt8)
  deriving DecidableEq, Repr

/-- What can happen when no function of the machine is running: a request, a notification, a
response to the last command or none in time, a transition that takes too long, the idle
callback of a switch, and an error of the layer below. -/
inductive SmEvent where
  | request (r : SmRequest)
  | notification (gid oid : UInt8) (payload : List UInt8)
  | response (payload : List UInt8)
  | commandTimeout
  | transitionTimeout (transition : NciTransition)
  | idle
  | error
  deriving DecidableEq

/-- What happens in a run. A command is recorded together with the machine that sends it and
whether it was accepted, a signal together with the machine that emits it. -/
inductive SmAction where
  | arrived (e : SmEvent)
  | sent (gid oid : UInt8) (payload : Option (List UInt8)) (resp : NciSmResponseFunc) (ok : Bool)
      (sm : NciSm)
  | cancelled
  | answered (resp : NciSmResponseFunc) (status : NciRequestStatus) (payload : List UInt8)
  | sar (c : SarCall)
  | signal (sig : NciSmSignal) (sm : NciSm)
  | intfActivated (ntf : NciIntfActivationNtf)

abbrev SmHistory := List SmAction

/-- Adds an action to the history. -/
def SmWorld.note (w : SmWorld SmHistory) (a : SmAction) : SmWorld SmHistory :=
  { w with io := w.io ++ [a] }

@[simp]
theorem SmWorld.note_sm (w : SmWorld SmHistory) (a : SmAction) :
  (w.note a).sm = w.sm
  := rfl

@[simp]
theorem SmWorld.note_io (w : SmWorld SmHistory) (a : SmAction) :
  (w.note a).io = w.io ++ [a]
  := rfl

/-- The response function that waits for an answer after another action. -/
def SmAction.outstanding (waiting : Option NciSmResponseFunc) :
    SmAction → Option NciSmResponseFunc
  | .sent _ _ _ resp ok _ => if ok then some resp else none
  | .cancelled | .answered .. => none
  | .arrived _ | .sar _ | .signal .. | .intfActivated _ => waiting

/-- The response function that waits for an answer. -/
def SmHistory.outstanding (history : SmHistory) : Option NciSmResponseFunc :=
  history.foldl SmAction.outstanding none

@[simp]
theorem SmHistory.outstanding_append (history : SmHistory) (a : SmAction) :
  SmHistory.outstanding (history ++ [a]) = a.outstanding history.outstanding
  := List.foldl_concat ..

/-! ### Hosts -/

/-- The surroundings of the machine: the answers of the core and the requests made from inside
a callback, given the history. -/
structure SmHost where
  timeout : SmHistory → Bool
  send : SmHistory → Bool
  react : SmHistory → List SmRequest

/-- The surroundings that record what happens and make requests in every callback. -/
def SmHost.ioWith (H : SmHost)
    (perform : List SmRequest → SmWorld SmHistory → SmWorld SmHistory) : NciSmIo SmHistory where
  timeout history := H.timeout history
  send gid oid payload resp sm history :=
    (H.send history, history ++ [.sent gid oid payload resp (H.send history) sm])
  cancel _ history := history ++ [.cancelled]
  sarSetMaxLogicalConnections max w :=
    perform (H.react (w.note (.sar (.setMaxLogicalConnections max))).io)
      (w.note (.sar (.setMaxLogicalConnections max)))
  sarSetMaxControlPayloadSize max history := history ++ [.sar (.setMaxControlPayloadSize max)]
  sarSetMaxDataPayloadSize max history := history ++ [.sar (.setMaxDataPayloadSize max)]
  sarSetInitialCredits cid credits history := history ++ [.sar (.setInitialCredits cid credits)]
  sarAddCredits cid credits history := history ++ [.sar (.addCredits cid credits)]
  signal sig w := perform (H.react (w.note (.signal sig w.sm)).io) (w.note (.signal sig w.sm))
  intfActivated ntf w :=
    perform (H.react (w.note (.intfActivated ntf)).io) (w.note (.intfActivated ntf))

/-- The requests made in a callback, which are nested at most to the given depth. -/
def SmHost.perform (H : SmHost) : Nat → List SmRequest → SmWorld SmHistory → SmWorld SmHistory
  | 0, _, w => w
  | n + 1, requests, w => requests.foldl (SmRequest.perform (H.ioWith (H.perform n))) w

@[simp]
theorem SmHost.perform_nil (H : SmHost) (n : Nat) (w : SmWorld SmHistory) :
  H.perform n [] w = w
  := by cases n <;> rfl

/-- The surroundings whose callbacks are nested at most to the given depth. -/
def SmHost.io (H : SmHost) (n : Nat) : NciSmIo SmHistory := H.ioWith (H.perform n)

/-- Surroundings in which all commands are accepted, nothing times out, and nothing is requested
from inside a callback. -/
def SmHost.quiet : SmHost where
  timeout _ := false
  send _ := true
  react _ := []

/-- Nothing is requested while data packets are dropped because the number of connections is set:
only their destroy functions are called then. -/
def SmHost.Discreet (H : SmHost) : Prop :=
  ∀ history max, H.react (history ++ [.sar (.setMaxLogicalConnections max)]) = []

/-! ### Runs -/

/-- The last command is answered, if it still waits for an answer. -/
def SmHost.answer (H : SmHost) (n : Nat) (status : NciRequestStatus) (payload : List UInt8)
    (w : SmWorld SmHistory) : SmWorld SmHistory :=
  match w.io.outstanding with
  | some resp => resp.call (H.io n) status payload (w.note (.answered resp status payload))
  | none => w

/-- What is done about an event. -/
def SmHost.handle (H : SmHost) (n : Nat) (w : SmWorld SmHistory) :
    SmEvent → SmWorld SmHistory
  | .request r => r.perform (H.io n) w
  | .notification gid oid payload => nciSmHandleNtf (H.io n) gid oid payload w
  | .response payload => H.answer n .success payload w
  | .commandTimeout =>
      if w.io.outstanding.isSome then nciSmError (H.io n) (H.answer n .timeout [] w) else w
  | .transitionTimeout transition =>
      if w.sm.timeoutId transition then
        nciSmError (H.io n) (w.map fun self =>
          { self with timeoutId := Function.update self.timeoutId transition false })
      else w
  | .idle => nciSmSwitchProc (H.io n) w
  | .error => nciSmError (H.io n) w

/-- An event takes place. -/
def SmHost.step (H : SmHost) (n : Nat) (w : SmWorld SmHistory) (e : SmEvent) :
    SmWorld SmHistory :=
  H.handle n (w.note (.arrived e)) e

/-- Events take place one after another. -/
def SmHost.run (H : SmHost) (n : Nat) (w : SmWorld SmHistory) (events : List SmEvent) :
    SmWorld SmHistory :=
  events.foldl (H.step n) w

/-- A new machine. The technologies, the identifier and the historical bytes may come from a
configuration file. -/
def nciSmNew (techs : UInt32) (laNfcid1 : NciNfcid1) (liAHb : NciAtsHb) : NciSm where
  lastState := .init
  nextState := .init
  rfInterfaces := none
  maxRoutingTableSize := 0
  techs := techs
  version := .unknown
  nfccDiscovery := 0
  nfccRouting := 0
  nfccPower := 0
  opMode := nfcOpModeRw ||| nfcOpModePoll
  llcVersion := 0x11
  llcWks := 0x0003
  laNfcid1 := laNfcid1
  liAHb := liAHb
  nextTransition := none
  activeTransition := none
  activeState := some .init
  enteringState := 0
  pendingSwitch := none
  pendingSignals := fun _ => false
  active := fun state => state == .init
  discoveries := []
  timeoutId := fun _ => false
  ntf := none
  expectingNtf := false

/-- A new machine without a configuration file. -/
def nciSmDefault : NciSm := nciSmNew nciTechDefault ⟨0, []⟩ ⟨0, []⟩

/-- The start of a run: nothing has happened yet. -/
def SmWorld.new (sm : NciSm) : SmWorld SmHistory := ⟨sm, []⟩

/-- A machine is reached in a run that begins with a new one. -/
def SmHost.Reaches (H : SmHost) (n : Nat) (w : SmWorld SmHistory) : Prop :=
  ∃ techs laNfcid1 liAHb events, w = H.run n (SmWorld.new (nciSmNew techs laNfcid1 liAHb)) events

/-- The way of a new machine to RFST_DISCOVERY, with a controller that speaks version 1: the
reset transition and the one from RFST_IDLE to RFST_DISCOVERY. -/
def eventsToDiscovery : List SmEvent :=
  [.request (.switchTo .discovery), .response [0, 0x10, 0],
    .response [0, 0, 0, 0, 0, 0, 1, 0, 0, 255, 0, 0, 0, 0, 0, 0, 0], .response [0, 0],
    .response [0, 0], .response [0, 0], .response [0], .response [0]]

/-- A machine in RFST_DISCOVERY. -/
def SmWorld.discovering : SmWorld SmHistory :=
  SmHost.quiet.run 0 (SmWorld.new nciSmDefault) eventsToDiscovery

/-- RF_INTF_ACTIVATED_NTF for a type 2 tag. -/
def activation : SmEvent :=
  .notification nciGidRf nciOidRfIntfActivated [1, 1, 2, 0, 0xff, 1, 0, 0, 0, 0, 0]

/-- A machine in RFST_POLL_ACTIVE. -/
def SmWorld.polling : SmWorld SmHistory := SmHost.quiet.step 0 SmWorld.discovering activation

example : SmWorld.polling.sm.lastState = .pollActive := by decide

end Nci
