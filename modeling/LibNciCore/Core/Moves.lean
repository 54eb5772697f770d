import LibNciCore.Core.Run
import LibNciCore.Sar.Kept

/-!
# Moves of the command layer

A run of the command layer is cut into moves: the moves of the layer below, and what the
functions of the core do before they call a response function or the state machine.
-/

namespace Nci

/-! ### The end of a command -/

section

variable {ι : Type} (E : SarEnv (CoreEnv ι))

/-- What cancelling the last command does before its response function is called, which is
returned together with its user data if it has to be. -/
def nciCoreCancelled (w : CoreWorld ι) : Option (NciCoreResp × UserData) × CoreWorld ι :=
  let w := w.mapEnv CoreEnv.clearTimeout
  if w.env.core.cmdId ≠ 0 then
    (w.env.core.rspHandler.map fun handler => (handler, w.env.core.rspData),
      (nciSarCancel E w.env.core.cmdId w).mapEnv fun env => env.modify fun core =>
        { core with cmdId := 0, rspHandler := none, rspData := .null })
  else (none, w)

/-- What a timeout does before the response function is called. -/
def nciCoreTimedOut (w : CoreWorld ι) : Option (NciCoreResp × UserData) × CoreWorld ι :=
  (w.env.core.rspHandler.map fun handler => (handler, w.env.core.rspData),
    (nciSarCancel E w.env.core.cmdId (w.mapEnv fun env => env.modify fun core =>
      { core with cmdTimeoutId := none, rspData := .null })).mapEnv fun env =>
        env.modify fun core => { core with cmdId := 0, rspHandler := none })

/-- What a response does before the response function is called. -/
def nciCoreResponded (gid oid : UInt8) (w : CoreWorld ι) :
    Option (NciCoreResp × UserData) × CoreWorld ι :=
  if w.env.core.rspHandler.isSome ∧ w.env.core.rspGid = gid ∧ w.env.core.rspOid = oid then
    (w.env.core.rspHandler.map fun handler => (handler, w.env.core.rspData),
      (w.mapEnv CoreEnv.clearTimeout).mapEnv fun env => env.modify fun core =>
        { core with cmdId := 0, rspHandler := none, rspData := .null })
  else (none, w)

end

section

variable {ι : Type} {E : SarEnv (CoreEnv ι)} {S : NciCoreClient ι}
  (hE : ∀ id w, (nciSarCancel E id w).env = w.env)

include hE

/-- Where cancelling a packet does not touch the core, the last command is cancelled and then
its response function is called. -/
theorem nciCoreCancelCommand_eq (w : CoreWorld ι) :
  nciCoreCancelCommand E S w = match (nciCoreCancelled E w).1 with
    | some (resp, userData) => S.respond resp .cancelled [] userData (nciCoreCancelled E w).2
    | none => (nciCoreCancelled E w).2
  := by
  simp only [nciCoreCancelCommand, nciCoreCancelled]
  generalize w.mapEnv CoreEnv.clearTimeout = w
  split
  · have henv := hE w.env.core.cmdId w
    generalize nciSarCancel E w.env.core.cmdId w = w' at henv ⊢
    obtain ⟨sar, env⟩ := w'
    obtain rfl : env = w.env := henv
    obtain ⟨sar', ⟨⟨_, _, _, _, _, handler, _⟩, _, _, _⟩⟩ := w
    cases handler <;> rfl
  · rfl

theorem nciCoreCommandTimeout_eq (w : CoreWorld ι) :
  nciCoreCommandTimeout E S w = S.smError (match (nciCoreTimedOut E w).1 with
    | some (resp, userData) => S.respond resp .timeout [] userData (nciCoreTimedOut E w).2
    | none => (nciCoreTimedOut E w).2)
  := by
  simp only [nciCoreCommandTimeout, nciCoreTimedOut]
  have henv := hE w.env.core.cmdId (w.mapEnv fun env => env.modify fun core =>
    { core with cmdTimeoutId := none, rspData := .null })
  obtain ⟨sar', ⟨⟨_, _, _, _, _, handler, _⟩, _, _, _⟩⟩ := w
  simp only [World.mapEnv, CoreEnv.modify] at henv ⊢
  generalize nciSarCancel E _ _ = w' at henv ⊢
  obtain ⟨sar, env⟩ := w'
  obtain rfl : env = _ := henv
  cases handler <;> rfl

end

theorem nciCoreSarHandleResponse_eq {ι : Type} (S : NciCoreClient ι) (gid oid : UInt8)
    (payload : List UInt8) (w : CoreWorld ι) :
  nciCoreSarHandleResponse S gid oid payload w = match (nciCoreResponded gid oid w).1 with
    | some (resp, userData) =>
        S.respond resp .success payload userData (nciCoreResponded gid oid w).2
    | none => (nciCoreResponded gid oid w).2
  := by
  obtain ⟨sar, ⟨⟨_, _, timeout, rspGid, rspOid, handler, _⟩, _, _, _⟩⟩ := w
  simp only [nciCoreSarHandleResponse, nciCoreResponded]
  cases handler with
  | none => rfl
  | some handler =>
      simp only [Option.isSome_some, true_and]
      split <;> rfl

/-- The call of a response function is recorded, if there is one. -/
def World.tell (status : NciRequestStatus)
    (r : Option (NciCoreResp × UserData) × CoreWorld CoreLog) : CoreWorld CoreLog :=
  match r.1 with
  | some (resp, userData) => r.2.note (.responded resp status userData)
  | none => r.2

/-- An entry that goes with no change of the state. -/
def CoreEntry.Note : CoreEntry → Prop
  | .smError | .smReset | .notification _ _ _ | .dataPacket _ _ | .written _ => True
  | _ => False

/-! ### Moves -/

/-- A move of the command layer. -/
inductive CoreMove (A : CoreApp) :
    Moment (CoreEnv CoreLog) → Moment (CoreEnv CoreLog) → Prop
  | layer {x y : Moment (CoreEnv CoreLog)}
      (perform : List CoreCall → CoreWorld CoreLog → CoreWorld CoreLog) :
      Move (A.sarEnvWith perform) x y → CoreMove A x y
  | noted {w : CoreWorld CoreLog} {S : List Leaving} {e : CoreEntry} :
      Ready S → e.Note → CoreMove A (w, S) (w.note e, S)
  | plain {w : CoreWorld CoreLog} {S : List Leaving} {c : Call}
      (perform : List CoreCall → CoreWorld CoreLog → CoreWorld CoreLog) :
      Ready S → c.plain = true →
      CoreMove A (w, S) (c.perform (A.sarEnvWith perform) A.fuel (w.note (.sar c)), S)
  | sent {w : CoreWorld CoreLog} {S : List Leaving} (gid oid : UInt8)
      (perform : List CoreCall → CoreWorld CoreLog → CoreWorld CoreLog) :
      Ready S → CoreMove A (w, S) (World.tell .cancelled
        (nciCoreCancelled (A.sarEnvWith perform) (w.note (.send gid oid w.env.core w.sar))), S)
  | accepted {w : CoreWorld CoreLog} {S : List Leaving} (gid oid : UInt8)
      (payload : Option (List UInt8)) (resp : Option Nat) (userData : UserData) :
      Ready S → CoreMove A (w, S)
        ((nciCoreIoSendCommand gid oid payload resp userData w).2.note
          (.accepted (CoreApp.acceptedCommand gid oid resp userData
              (nciCoreIoSendCommand gid oid payload resp userData w).2)
            (nciCoreIoSendCommand gid oid payload resp userData w).2.sar), S)
  | dropped {w : CoreWorld CoreLog} {S : List Leaving}
      (perform : List CoreCall → CoreWorld CoreLog → CoreWorld CoreLog) :
      Ready S → CoreMove A (w, S) (World.tell .cancelled
        (nciCoreCancelled (A.sarEnvWith perform) ((w.note (.cancel w.env.core w.sar)).mapEnv
          fun env => env.modify fun core => { core with rspHandler := none, rspData := .null })), S)
  | restarted {w : CoreWorld CoreLog} {S : List Leaving}
      (perform : List CoreCall → CoreWorld CoreLog → CoreWorld CoreLog) :
      Ready S → CoreMove A (w, S) (World.tell .cancelled
        (nciCoreCancelled (A.sarEnvWith perform) (w.note .restart)), S)
  | reset {w : CoreWorld CoreLog} {S : List Leaving}
      (perform : List CoreCall → CoreWorld CoreLog → CoreWorld CoreLog) :
      Ready S → CoreMove A (w, S)
        (nciSarResetClear (A.sarEnvWith perform) A.fuel w, w.sar.dropped ++ S)
  | timedOut {w : CoreWorld CoreLog} {S : List Leaving} (t : Nat)
      (perform : List CoreCall → CoreWorld CoreLog → CoreWorld CoreLog) :
      Ready S → CoreMove A (w, S) (World.tell .timeout
        (nciCoreTimedOut (A.sarEnvWith perform)
          ((w.mapEnv fun env => { env with timeouts := env.timeouts.erase t }).note
            (.timedOut w.env.core w.sar))), S)
  | responded {w : CoreWorld CoreLog} {S : List Leaving} (gid oid : UInt8)
      (payload : List UInt8) :
      Ready S → CoreMove A (w, S) (World.tell .success
        (nciCoreResponded gid oid (w.note (.response gid oid payload))), S)
  | completed {w : CoreWorld CoreLog} {S : List Leaving} {a f : Nat} {ok : Bool} :
      (w.sar.heap a).bind NciSarPacketOut.complete = some f →
      CoreMove A (w, .finish a ok :: S)
        ((w.note (.completion ok w.env.core w.sar)).mapEnv fun env =>
          env.modify fun core => { core with cmdId := 0 }, .free a :: S)
  | written {w : CoreWorld CoreLog} {S : List Leaving} {a : Nat} (ok : Bool) :
      Ready S → w.sar.writePending = true → w.sar.writing = some a →
      CoreMove A (w, S) ((w.note (.written ok)).map fun sar => sar.completedEffect ok a,
        w.sar.reported ok a ++ S)
  | timeoutSet {w : CoreWorld CoreLog} {S : List Leaving} (ms : UInt32) :
      Ready S → CoreMove A (w, S)
        (w.mapEnv fun env => env.modify fun core => { core with cmdTimeout := ms }, S)

/-- A sequence of moves. -/
abbrev CoreMoves (A : CoreApp) : Moment (CoreEnv CoreLog) → Moment (CoreEnv CoreLog) → Prop :=
  Relation.ReflTransGen (CoreMove A)

/-! ### The functions are sequences of moves -/

namespace CoreApp

variable (A : CoreApp) {perform : List CoreCall → CoreWorld CoreLog → CoreWorld CoreLog}
  {x : Moment (CoreEnv CoreLog)} {w : CoreWorld CoreLog} {S : List Leaving}

/-- Cancelling a packet does not touch the core: commands have no destroy functions. -/
theorem env_nciSarCancel (perform : List CoreCall → CoreWorld CoreLog → CoreWorld CoreLog)
    (id : UInt32) (w : CoreWorld CoreLog) :
  (nciSarCancel (A.sarEnvWith perform) id w).env = w.env
  := by
  have hfree : ∀ (a : Nat) (w : CoreWorld CoreLog),
      (nciSarPacketOutFree (A.sarEnvWith perform) a w).env = w.env := by
    intro a w
    rw [nciSarPacketOutFree]
    split <;> rfl
  rw [nciSarCancel_eq]
  split
  · rw [hfree]
    rfl
  · rfl

/-- Calls that are sequences of moves. -/
def Moving (perform : List CoreCall → CoreWorld CoreLog → CoreWorld CoreLog) : Prop :=
  ∀ (calls : List CoreCall) (w : CoreWorld CoreLog) (S : List Leaving), Ready S →
    CoreMoves A (w, S) (perform calls w, S)

variable {A} (hperform : A.Moving perform) (hS : Ready S)

include hperform hS

/-- A callback of the state machine. -/
theorem Moving.callback {e : CoreEntry} (he : e.Note) (w : CoreWorld CoreLog) :
  CoreMoves A (w, S) (A.callback perform e w, S)
  := by
  apply Relation.ReflTransGen.head (CoreMove.noted hS he)
  apply hperform _ _ S hS

/-- A response function is called. -/
theorem Moving.respond {resp : NciCoreResp} {status : NciRequestStatus} {payload : List UInt8}
    {userData : UserData}
    (h : CoreMoves A x (w.note (.responded resp status userData), S)) :
  CoreMoves A x ((A.clientWith perform).respond resp status payload userData w, S)
  := by
  cases resp with
  | ioDummyResp => apply h
  | resp f =>
      apply h.trans
      apply hperform _ _ S hS

/-- What follows the end of a command. -/
theorem Moving.tell {status : NciRequestStatus} (payload : List UInt8)
    {r : Option (NciCoreResp × UserData) × CoreWorld CoreLog}
    (h : CoreMoves A x (World.tell status r, S)) :
  CoreMoves A x (match r.1 with
    | some (resp, userData) =>
        (A.clientWith perform).respond resp status payload userData r.2
    | none => r.2, S)
  := by
  obtain ⟨_ | ⟨resp, userData⟩, w⟩ := r
  · apply h
  · apply hperform.respond hS h

/-- The last command is cancelled. -/
theorem Moving.cancelCommand
    (h : CoreMoves A x
      (World.tell .cancelled (nciCoreCancelled (A.sarEnvWith perform) w), S)) :
  CoreMoves A x (nciCoreCancelCommand (A.sarEnvWith perform) (A.clientWith perform) w, S)
  := by
  rw [nciCoreCancelCommand_eq (A.env_nciSarCancel perform)]
  apply hperform.tell hS _ h

end CoreApp

/-! ### Commands are always accepted -/

/-- Packet ids are not zero. -/
theorem NciSar.nextPacketId_ne_zero (sar : NciSar) :
  sar.nextPacketId ≠ 0
  := by
  rw [NciSar.nextPacketId]
  split
  · rename_i h
    rw [h]
    decide
  · rename_i h
    apply h

/-- What is left of the core when a command has been queued. -/
theorem nciCoreIoSendCommand_eq {ι : Type} (gid oid : UInt8) (payload : Option (List UInt8))
    (resp : Option Nat) (userData : UserData) (w : CoreWorld ι) :
  ∃ env : CoreEnv ι, nciCoreIoSendCommand gid oid payload resp userData w
      = (true, ⟨(nciSarSendCommand w.sar gid oid payload (some 0) none).2, env⟩)
    ∧ env.io = w.env.io ∧ env.core.cmdId = w.sar.nextPacketId ∧ env.core.rspGid = gid
    ∧ env.core.rspOid = oid
    ∧ env.core.rspHandler = some (match resp with
        | some f => .resp f
        | none => .ioDummyResp)
    ∧ env.core.rspData = (match resp with
        | some _ => userData
        | none => .self)
  := by
  have hid : (nciSarSendCommand w.sar gid oid payload (some 0) none).1 ≠ 0 :=
    w.sar.nextPacketId_ne_zero
  cases resp with
  | none =>
      simp only [nciCoreIoSendCommand]
      split
      · split
        · exact ⟨_, rfl, rfl, rfl, rfl, rfl, rfl, rfl⟩
        · exact ⟨_, rfl, rfl, rfl, rfl, rfl, rfl, rfl⟩
      · rename_i hnot
        exact absurd hid hnot
  | some f =>
      simp only [nciCoreIoSendCommand]
      split
      · split
        · exact ⟨_, rfl, rfl, rfl, rfl, rfl, rfl, rfl⟩
        · exact ⟨_, rfl, rfl, rfl, rfl, rfl, rfl, rfl⟩
      · rename_i hnot
        exact absurd hid hnot

/-! ### Runs are sequences of moves -/

namespace CoreApp

variable {A : CoreApp} {perform : List CoreCall → CoreWorld CoreLog → CoreWorld CoreLog}
  (hperform : A.Moving perform) {S : List Leaving}

include hperform

/-- The layer below follows the moves. -/
theorem Moving.follows :
  (A.sarEnvWith perform).Follows (CoreMove A)
  := by
  constructor
  · intro x y h
    apply CoreMove.layer perform h
  · intro f ok w a S hf
    apply Relation.ReflTransGen.head (CoreMove.completed hf)
    have hfree : Ready (.free a :: S) := trivial
    cases ok with
    | true => apply Relation.ReflTransGen.refl
    | false => apply hperform.callback (e := .smError) hfree trivial
  · intro w S hS
    apply hperform.callback (e := .smError) hS trivial
  · intro gid oid payload w S hS
    have h := hperform.tell hS payload
      (Relation.ReflTransGen.single (CoreMove.responded (w := w) gid oid payload hS))
    rw [← nciCoreSarHandleResponse_eq] at h
    apply h
  · intro gid oid payload w S hS
    apply hperform.callback (e := .notification gid oid payload) hS trivial
  · intro cid payload w S hS
    apply hperform.callback (e := .dataPacket cid payload) hS trivial

/-- A call. -/
theorem Moving.call (hS : Ready S) (c : CoreCall) (w : CoreWorld CoreLog) :
  CoreMoves A (w, S) (A.call perform w c, S)
  := by
  cases c with
  | ioSend gid oid payload resp userData =>
      have hsent := hperform.cancelCommand hS
        (Relation.ReflTransGen.single (CoreMove.sent (w := w) gid oid perform hS))
      apply hsent.tail
      have haccepted := CoreMove.accepted (A := A)
        (w := nciCoreCancelCommand (A.sarEnvWith perform) (A.clientWith perform)
          (w.note (.send gid oid w.env.core w.sar))) gid oid payload resp userData hS
      obtain ⟨env, heq, -⟩ := nciCoreIoSendCommand_eq gid oid payload resp userData
        (nciCoreCancelCommand (A.sarEnvWith perform) (A.clientWith perform)
          (w.note (.send gid oid w.env.core w.sar)))
      have hok : (nciCoreIoSend (A.sarEnvWith perform) (A.clientWith perform) gid oid payload resp
          userData (w.note (.send gid oid w.env.core w.sar))).1 = true := by
        rw [nciCoreIoSend, heq]
      simp only [CoreApp.call, CoreApp.ioSend]
      rw [if_pos hok]
      apply haccepted
  | ioCancel =>
      apply hperform.cancelCommand hS
      apply Relation.ReflTransGen.single
      apply CoreMove.dropped perform hS
  | restart =>
      have hrestarted := hperform.cancelCommand hS
        (Relation.ReflTransGen.single (CoreMove.restarted (w := w) perform hS))
      have hreset := hperform.follows.reset (hrestarted.tail (CoreMove.reset perform hS))
      apply hreset.trans
      apply hperform.callback (e := .smReset) hS trivial
  | sar c h =>
      apply Relation.ReflTransGen.single
      apply CoreMove.plain perform hS h

omit hperform in
/-- Calls are sequences of moves, at every depth. -/
theorem moving_perform (A : CoreApp) :
  ∀ n, A.Moving (A.perform n)
  | 0 => fun _ _ _ _ => Relation.ReflTransGen.refl
  | n + 1 => by
      intro calls w S hS
      rw [CoreApp.perform]
      induction calls generalizing w with
      | nil => apply Relation.ReflTransGen.refl
      | cons c calls ih =>
          apply ((moving_perform A n).call hS c w).trans
          apply ih

omit hperform in
/-- An event is a sequence of moves. -/
theorem step_moves (A : CoreApp) (n : Nat) (w : CoreWorld CoreLog) (e : CoreEvent) :
  CoreMoves A (w, []) (A.step n w e, [])
  := by
  have hperform := A.moving_perform n
  have hE := hperform.follows
  have hS : Ready [] := trivial
  cases e with
  | call c => apply hperform.call hS
  | segment packet => apply hE.handleSegment hS
  | written ok =>
      rw [CoreApp.step]
      split
      · rename_i hp
        cases ha : w.sar.writing with
        | none =>
            have hnone : nciSarWriteCompleted (A.sarEnvWith (A.perform n)) ok
                (w.note (.written ok)) = w.note (.written ok) := by
              rw [nciSarWriteCompleted]
              show (match w.sar.writing with
                | some _ => _
                | none => _) = _
              rw [ha]
            rw [hnone]
            apply Relation.ReflTransGen.single
            apply CoreMove.noted (e := .written ok) hS trivial
        | some a =>
            apply hE.writeCompleted hS (w := w.note (.written ok)) ha
            apply Relation.ReflTransGen.single
            apply CoreMove.written ok hS hp ha
      · apply Relation.ReflTransGen.refl
  | idle =>
      rw [CoreApp.step]
      split
      · apply hE.startWrite hS
      · apply Relation.ReflTransGen.refl
  | halError => apply hE.error w [] hS
  | timeout t =>
      rw [CoreApp.step]
      split
      · have htold := hperform.tell hS []
          (Relation.ReflTransGen.single (CoreMove.timedOut (w := w) t (A.perform n) hS))
        rw [nciCoreCommandTimeout_eq (A.env_nciSarCancel _)]
        apply htold.trans
        apply hperform.callback (e := .smError) hS trivial
      · apply Relation.ReflTransGen.refl
  | setTimeout ms =>
      apply Relation.ReflTransGen.single
      apply CoreMove.timeoutSet ms hS

omit hperform in
/-- A run is a sequence of moves. -/
theorem run_moves (A : CoreApp) (n : Nat) (w : CoreWorld CoreLog) (events : List CoreEvent) :
  CoreMoves A (w, []) (A.run n w events, [])
  := by
  induction events generalizing w with
  | nil => apply Relation.ReflTransGen.refl
  | cons e events ih =>
      apply (A.step_moves n w e).trans
      apply ih

end CoreApp

end Nci
