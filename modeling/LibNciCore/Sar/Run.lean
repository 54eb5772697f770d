import LibNciCore.Sar.Interface

/-!
# Runs

What is around the layer is an `App`: it decides what the HAL answers and which functions of
the layer are called from inside a callback, depending on everything that has happened so
far. What happens is recorded in a log. The callbacks of a run may call back into the layer,
whose callbacks may call back in turn, to any given depth.
-/

namespace Nci

/-! ### Calls -/

/-- A call of a function of the interface. -/
inductive Call where
  | start
  | reset
  | setMaxLogicalConnections (max : UInt8)
  | setMaxControlPayloadSize (max : UInt8)
  | setMaxDataPayloadSize (max : UInt8)
  | setInitialCredits (cid credits : UInt8)
  | addCredits (cid credits : UInt8)
  | sendCommand (gid oid : UInt8) (payload : Option (List UInt8)) (complete destroy : Option Nat)
  | sendDataPacket (cid : UInt8) (payload : Option (List UInt8)) (complete destroy : Option Nat)
  | cancel (id : UInt32)
  deriving DecidableEq, Repr

/-- The function that is called. -/
def Call.perform {ε : Type} (E : SarEnv ε) (fuel : Nat) (w : World ε) : Call → World ε
  | .start => nciSarStart E w
  | .reset => nciSarReset E fuel w
  | .setMaxLogicalConnections max => nciSarSetMaxLogicalConnections E fuel max w
  | .setMaxControlPayloadSize max => w.map fun self => nciSarSetMaxControlPayloadSize self max
  | .setMaxDataPayloadSize max => w.map fun self => nciSarSetMaxDataPayloadSize self max
  | .setInitialCredits cid credits => w.map fun self => nciSarSetInitialCredits self cid credits
  | .addCredits cid credits => w.map fun self => nciSarAddCredits self cid credits
  | .sendCommand gid oid payload complete destroy =>
      w.map fun self => (nciSarSendCommand self gid oid payload complete destroy).2
  | .sendDataPacket cid payload complete destroy =>
      w.map fun self => (nciSarSendDataPacket self cid payload complete destroy).2
  | .cancel id => nciSarCancel E id w

/-- A call that leaves the number of connections alone and does not reset the layer. -/
def Call.Steady : Call → Prop
  | .reset => False
  | .setMaxLogicalConnections _ => False
  | _ => True

/-! ### The log -/

/-- What is recorded of a state: all of it but the read buffer, which no function of the
interface uses. -/
def NciSar.snapshot (self : NciSar) : NciSar := self.setReadBuf none

/-- What happens in a run. Where the state of the layer matters, it is recorded as it is
at that moment: when a function is called, when a segment arrives, when the HAL reports the
end of a write, when the HAL is started, and when a segment is handed to it. -/
inductive Entry where
  | called (c : Call) (sar : NciSar)
  | received (packet : List UInt8) (sar : NciSar)
  | completed (ok : Bool) (sar : NciSar)
  | idle
  | halError
  | halStart (ok : Bool) (sar : NciSar)
  | halStop
  | halWrite (chunks : List (List UInt8)) (ok : Bool) (sar : NciSar)
  | halCancelWrite
  | error
  | response (gid oid : UInt8) (payload : List UInt8)
  | notification (gid oid : UInt8) (payload : List UInt8)
  | dataPacket (cid : UInt8) (payload : List UInt8)
  | complete (f : Nat) (ok : Bool)
  | destroy (f : Nat)

abbrev Log := List Entry

/-- Adds an entry to the log. -/
def World.record (w : World Log) (e : Entry) : World Log :=
  { w with env := w.env ++ [e] }

@[simp]
theorem World.record_sar (w : World Log) (e : Entry) :
  (w.record e).sar = w.sar
  := rfl

/-! ### Applications -/

/-- The surroundings of the layer, which make only calls with the property `P`: the answers
of the HAL and the calls made from inside a callback, given the log so far. -/
structure App (P : Call → Prop) where
  halStart : Log → Bool
  halWrite : Log → Bool
  react : Log → List (Subtype P)
  fuel : Nat

variable {P : Call → Prop}

/-- The surroundings that record what happens and in every callback perform calls. -/
def App.envWith (A : App P) (perform : List (Subtype P) → World Log → World Log) :
    SarEnv Log where
  halStart sar log := (A.halStart log, log ++ [.halStart (A.halStart log) sar.snapshot])
  halStop _ log := log ++ [.halStop]
  halWrite chunks sar log :=
    (A.halWrite log, log ++ [.halWrite chunks (A.halWrite log) sar.snapshot])
  halCancelWrite _ log := log ++ [.halCancelWrite]
  error w := perform (A.react (w.record .error).env) (w.record .error)
  handleResponse gid oid payload w :=
    perform (A.react (w.record (.response gid oid payload)).env)
      (w.record (.response gid oid payload))
  handleNotification gid oid payload w :=
    perform (A.react (w.record (.notification gid oid payload)).env)
      (w.record (.notification gid oid payload))
  handleDataPacket cid payload w :=
    perform (A.react (w.record (.dataPacket cid payload)).env) (w.record (.dataPacket cid payload))
  complete f ok w :=
    perform (A.react (w.record (.complete f ok)).env) (w.record (.complete f ok))
  destroy f w := perform (A.react (w.record (.destroy f)).env) (w.record (.destroy f))

/-- Records and performs a call. -/
def App.call (A : App P) (E : SarEnv Log) (c : Subtype P) (w : World Log) : World Log :=
  c.1.perform E A.fuel (w.record (.called c.1 w.sar.snapshot))

/-- The surroundings whose callbacks are nested at most to the given depth. -/
def App.env (A : App P) : Nat → SarEnv Log
  | 0 => A.envWith fun _ w => w
  | n + 1 => A.envWith fun calls w => calls.foldl (fun w c => A.call (A.env n) c w) w

/-! ### Runs -/

/-- What can happen when no function of the layer is running. -/
inductive Event (P : Call → Prop) where
  | call (c : Subtype P)
  | segment (packet : List UInt8)
  | writeCompleted (ok : Bool)
  | idle
  | halError

/-- An event takes place. The HAL reports the end of a write only if one is pending, and the
idle callback runs only if it is scheduled. -/
def App.step (A : App P) (n : Nat) (w : World Log) : Event P → World Log
  | .call c => A.call (A.env n) c w
  | .segment packet =>
      nciSarHalHandleSegment (A.env n) packet (w.record (.received packet w.sar.snapshot))
  | .writeCompleted ok =>
      if w.sar.writePending then
        nciSarWriteCompleted (A.env n) ok (w.record (.completed ok w.sar.snapshot))
      else w
  | .idle =>
      if w.sar.startWriteId then nciSarStartWrite (A.env n) (w.record .idle) else w
  | .halError => nciSarHalClientError (A.env n) (w.record .halError)

/-- Events take place one after another. -/
def App.run (A : App P) (n : Nat) (w : World Log) (events : List (Event P)) : World Log :=
  events.foldl (A.step n) w

/-- The state after a reset: nothing is queued or being written, and no connection has
credits. -/
structure NciSar.Quiet (sar : NciSar) : Prop where
  queue : ∀ k, sar.queue k = LinkedQueue.Queue.empty
  writing : sar.writing = none
  writePending : sar.writePending = false
  credits : ∀ cid, (sar.conn cid).credits = 0
  control : sarMinControlPayloadLimit ≤ sar.controlPayloadLimit
  data : sarMinDataPayloadLimit ≤ sar.dataPayloadLimit

/-- The start of a run: nothing has happened yet. -/
def World.start (sar : NciSar) : World Log := ⟨sar, []⟩

theorem quiet_nciSarNew :
  nciSarNew.Quiet
  := by
  constructor
  · rintro (_ | cid)
    · rfl
    · rfl
  · rfl
  · rfl
  · intro cid
    rfl
  · decide
  · decide

end Nci
