import LibNciCore.Core.Moves
import LibNciCore.Lib.History
import Mathlib.Data.List.Induction
import Mathlib.Data.List.TakeWhile

/-!
# Every command is answered

The slots of the core always hold the command that waits for its response, if there is one.
Hence a response function is called at most once for a command, with the user data of that
command, and with success only when a response to that command has just arrived. That a
response function is called at all before the next command takes the slots over depends on how
the next command is sent.
-/

namespace Nci

open History

/-! ### The command that waits -/

/-- The command that waits for its response after an entry. -/
def CoreEntry.waiting (waiting : Option CoreCommand) : CoreEntry → Option CoreCommand
  | .accepted c _ => some c
  | .responded _ _ _ | .cancel _ _ => none
  | _ => waiting

/-- The command that waits for its response. -/
def CoreLog.waiting (log : CoreLog) : Option CoreCommand := log.foldl CoreEntry.waiting none

/-- Whether a command is being sent after an entry: it is not accepted yet. -/
def CoreEntry.sending (sending : Bool) : CoreEntry → Bool
  | .send _ _ _ _ => true
  | .accepted _ _ => false
  | _ => sending

/-- Whether a command is being sent. -/
def CoreLog.sending (log : CoreLog) : Bool := log.foldl CoreEntry.sending false

/-- A command is sent when the last one has been answered, or is not written yet; and while a
command is being sent, no other command is. -/
def CoreEntry.Timely (pre : CoreLog) : CoreEntry → Prop
  | .send _ _ core _ => core.rspHandler = none ∨ core.cmdId ≠ 0
  | .accepted _ _ => CoreLog.sending pre = true
  | _ => True

instance (pre : CoreLog) : ∀ e : CoreEntry, Decidable (e.Timely pre)
  | .send _ _ core _ => inferInstanceAs (Decidable (core.rspHandler = none ∨ core.cmdId ≠ 0))
  | .accepted _ _ => inferInstanceAs (Decidable (CoreLog.sending pre = true))
  | .cancel _ _ | .restart | .timedOut _ _ | .response _ _ _ | .completion _ _ _
  | .responded _ _ _ | .sar _ | .smError | .smReset | .notification _ _ _ | .dataPacket _ _
  | .halStart _ | .halStop | .halWrite _ _ _ | .halCancelWrite | .written _ => .isTrue trivial

/-- A response function is called for the command that waits, with success only when a response
to that command has just arrived; and no command is accepted while one waits. -/
def CoreEntry.Right (pre : CoreLog) : CoreEntry → Prop
  | .responded resp status userData => ∃ c, CoreLog.waiting pre = some c ∧ resp = c.resp
      ∧ userData = c.userData
      ∧ (status = .success → ∃ pre' payload, pre = pre' ++ [.response c.gid c.oid payload])
  | .accepted _ _ => CoreLog.waiting pre = none
  | _ => True

/-- An entry that neither starts nor ends anything. -/
def CoreEntry.Passing : CoreEntry → Prop
  | .send _ _ _ _ | .accepted _ _ | .cancel _ _ | .responded _ _ _ => False
  | _ => True

section

variable {log : CoreLog} {e : CoreEntry}

theorem waiting_concat (log : CoreLog) (e : CoreEntry) :
  CoreLog.waiting (log ++ [e]) = e.waiting (CoreLog.waiting log)
  := by rw [CoreLog.waiting, List.foldl_concat, CoreLog.waiting]

theorem sending_concat (log : CoreLog) (e : CoreEntry) :
  CoreLog.sending (log ++ [e]) = e.sending (CoreLog.sending log)
  := by rw [CoreLog.sending, List.foldl_concat, CoreLog.sending]

theorem CoreEntry.Passing.waiting (he : e.Passing) (waiting : Option CoreCommand) :
  e.waiting waiting = waiting
  := by cases e <;> first | exact he.elim | rfl

theorem CoreEntry.Passing.sending (he : e.Passing) (sending : Bool) :
  e.sending sending = sending
  := by cases e <;> first | exact he.elim | rfl

theorem CoreEntry.Passing.right (he : e.Passing) (pre : CoreLog) :
  e.Right pre
  := by cases e <;> first | exact he.elim | trivial

theorem CoreEntry.Note.passing (he : e.Note) :
  e.Passing
  := by cases e <;> first | exact he.elim | trivial

end

/-! ### The slots -/

/-- The slots hold the command that waits. -/
structure NciCoreObject.Holds (core : NciCoreObject) (waiting : Option CoreCommand) : Prop where
  handler : core.rspHandler = waiting.map CoreCommand.resp
  gid : ∀ c, waiting = some c → core.rspGid = c.gid
  oid : ∀ c, waiting = some c → core.rspOid = c.oid
  userData : ∀ c, waiting = some c → core.rspData = c.userData

/-- The slots hold the command that waits, and if commands are sent in time, then all responses
have been right. -/
structure Remembering (env : CoreEnv CoreLog) : Prop where
  holds : env.core.Holds (CoreLog.waiting env.io)
  right : Throughout CoreEntry.Timely env.io → Throughout CoreEntry.Right env.io

/-- While a command is being sent no other one waits. -/
def Vacant (env : CoreEnv CoreLog) : Prop :=
  Throughout CoreEntry.Timely env.io → CoreLog.sending env.io = true →
    CoreLog.waiting env.io = none

namespace NciCoreObject

variable {core core' : NciCoreObject}

theorem Holds.of_same {waiting : Option CoreCommand} (h : core.Holds waiting)
    (hhandler : core'.rspHandler = core.rspHandler) (hgid : core'.rspGid = core.rspGid)
    (hoid : core'.rspOid = core.rspOid) (hdata : core'.rspData = core.rspData) :
  core'.Holds waiting
  := by
  constructor
  · rw [hhandler, h.handler]
  · rw [hgid]
    apply h.gid
  · rw [hoid]
    apply h.oid
  · rw [hdata]
    apply h.userData

theorem holds_none (h : core.rspHandler = none) :
  core.Holds none
  := by
  constructor
  · apply h
  all_goals
    intro c hc
    cases hc

/-- No command waits if the slots are empty. -/
theorem Holds.eq_none {waiting : Option CoreCommand} (h : core.Holds waiting)
    (hhandler : core.rspHandler = none) :
  waiting = none
  := by
  rw [h.handler] at hhandler
  apply Option.map_eq_none_iff.mp hhandler

end NciCoreObject

section

variable {env : CoreEnv CoreLog} {e : CoreEntry}

/-- An entry is recorded that neither starts nor ends anything. -/
theorem Remembering.record (h : Remembering env) (he : e.Passing) :
  Remembering (env.record e)
  := by
  constructor
  · show env.core.Holds (CoreLog.waiting (env.io ++ [e]))
    rw [waiting_concat, he.waiting]
    apply h.holds
  · intro htimely
    apply throughout_concat.mpr
    use h.right (throughout_concat.mp htimely).1
    apply he.right

theorem Vacant.record (h : Vacant env) (he : e.Passing) :
  Vacant (env.record e)
  := by
  intro htimely hsending
  have hsending' : CoreLog.sending (env.io ++ [e]) = true := hsending
  show CoreLog.waiting (env.io ++ [e]) = none
  rw [waiting_concat, he.waiting]
  rw [sending_concat, he.sending] at hsending'
  apply h (throughout_concat.mp htimely).1 hsending'

/-- The slots of the response are left alone. -/
theorem Remembering.modify (h : Remembering env) {env' : CoreEnv CoreLog} (hio : env'.io = env.io)
    (hhandler : env'.core.rspHandler = env.core.rspHandler)
    (hgid : env'.core.rspGid = env.core.rspGid) (hoid : env'.core.rspOid = env.core.rspOid)
    (hdata : env'.core.rspData = env.core.rspData) :
  Remembering env'
  := by
  constructor
  · rw [hio]
    apply h.holds.of_same hhandler hgid hoid hdata
  · rw [hio]
    apply h.right

theorem Vacant.modify (h : Vacant env) {env' : CoreEnv CoreLog} (hio : env'.io = env.io) :
  Vacant env'
  := by
  rw [Vacant, hio]
  apply h

/-- The response function of the command that waits is called. -/
theorem Remembering.respond (h : Remembering env) {env' : CoreEnv CoreLog} (hio : env'.io = env.io)
    {resp : NciCoreResp} {status : NciRequestStatus} {userData : UserData}
    (hhandler : env.core.rspHandler = some resp) (hdata : env.core.rspData = userData)
    (hempty : env'.core.rspHandler = none)
    (hsuccess : status = .success → ∃ pre gid oid payload,
      env.io = pre ++ [.response gid oid payload] ∧ env.core.rspGid = gid
        ∧ env.core.rspOid = oid) :
  Remembering (env'.record (.responded resp status userData))
  := by
  obtain ⟨c, hc, hresp⟩ : ∃ c, CoreLog.waiting env.io = some c ∧ c.resp = resp := by
    rw [h.holds.handler] at hhandler
    apply Option.map_eq_some_iff.mp hhandler
  constructor
  · show env'.core.Holds (CoreLog.waiting (env'.io ++ [_]))
    rw [waiting_concat]
    apply NciCoreObject.holds_none hempty
  · intro htimely
    have htimely' : Throughout CoreEntry.Timely (env'.io ++ [_]) := htimely
    show Throughout CoreEntry.Right (env'.io ++ [_])
    rw [hio] at htimely' ⊢
    apply throughout_concat.mpr
    use h.right (throughout_concat.mp htimely').1
    use c, hc, hresp.symm, hdata ▸ h.holds.userData c hc
    intro hstatus
    obtain ⟨pre, gid, oid, payload, heq, hgid, hoid⟩ := hsuccess hstatus
    use pre, payload
    rw [heq, ← h.holds.gid c hc, ← h.holds.oid c hc, hgid, hoid]

/-- After a response function has been called no command waits. -/
theorem vacant_respond (resp : NciCoreResp) (status : NciRequestStatus) (userData : UserData) :
  Vacant (env.record (.responded resp status userData))
  := by
  intro _ _
  show CoreLog.waiting (env.io ++ [_]) = none
  rw [waiting_concat]
  rfl

end

/-! ### What the moves do -/

section

variable {A : CoreApp} {perform : List CoreCall → CoreWorld CoreLog → CoreWorld CoreLog}
  {w : CoreWorld CoreLog}

/-- The HAL records what it does. -/
theorem quietly_remembering (A : CoreApp)
    (perform : List CoreCall → CoreWorld CoreLog → CoreWorld CoreLog) :
  (A.sarEnvWith perform).Quietly (fun _ => True) fun env => Remembering env ∧ Vacant env
  := by
  have hrecord : ∀ (env : CoreEnv CoreLog) (e : CoreEntry), e.Passing →
      Remembering env ∧ Vacant env → Remembering (env.record e) ∧ Vacant (env.record e) :=
    fun env e he h => ⟨h.1.record he, h.2.record he⟩
  refine ⟨⟨?_, ?_, ?_⟩, ?_, ?_⟩
  · intro sar env h
    apply hrecord env .halStop trivial h
  · intro sar env h
    apply hrecord env .halCancelWrite trivial h
  · intro f w h
    apply h
  · intro sar env h
    apply hrecord env (.halStart _) trivial h
  · intro chunks sar env _ h
    apply hrecord env (.halWrite chunks _ sar) trivial h

/-- The slots of the response after the timeout has been stopped. -/
theorem clearTimeout_fields (env : CoreEnv CoreLog) :
  env.clearTimeout.io = env.io
    ∧ env.clearTimeout.core.cmdId = env.core.cmdId
    ∧ env.clearTimeout.core.rspHandler = env.core.rspHandler
    ∧ env.clearTimeout.core.rspGid = env.core.rspGid
    ∧ env.clearTimeout.core.rspOid = env.core.rspOid
    ∧ env.clearTimeout.core.rspData = env.core.rspData
  := by
  rw [CoreEnv.clearTimeout]
  split <;> exact ⟨rfl, rfl, rfl, rfl, rfl, rfl⟩

/-- What surrounds the layer when the last command has been cancelled. -/
theorem env_nciCoreCancelled (A : CoreApp)
    (perform : List CoreCall → CoreWorld CoreLog → CoreWorld CoreLog) (w : CoreWorld CoreLog) :
  (nciCoreCancelled (A.sarEnvWith perform) w).2.env.io = w.env.io
    ∧ (w.env.core.cmdId ≠ 0 →
      (nciCoreCancelled (A.sarEnvWith perform) w).1
          = w.env.core.rspHandler.map (fun handler => (handler, w.env.core.rspData))
        ∧ (nciCoreCancelled (A.sarEnvWith perform) w).2.env.core.cmdId = 0
        ∧ (nciCoreCancelled (A.sarEnvWith perform) w).2.env.core.rspHandler = none)
    ∧ (w.env.core.cmdId = 0 →
      (nciCoreCancelled (A.sarEnvWith perform) w).1 = none
        ∧ (nciCoreCancelled (A.sarEnvWith perform) w).2 = w.mapEnv CoreEnv.clearTimeout)
  := by
  obtain ⟨hio, hid, hhandler, -, -, hdata⟩ := clearTimeout_fields w.env
  have henv := A.env_nciSarCancel perform
    (w.mapEnv CoreEnv.clearTimeout).env.core.cmdId (w.mapEnv CoreEnv.clearTimeout)
  have hid' : (w.mapEnv CoreEnv.clearTimeout).env.core.cmdId = w.env.core.cmdId := hid
  simp only [nciCoreCancelled]
  by_cases hzero : w.env.core.cmdId = 0
  · have hnot : ¬ (w.mapEnv CoreEnv.clearTimeout).env.core.cmdId ≠ 0 := by
      rw [hid', hzero]
      simp
    rw [if_neg hnot]
    use hio
    constructor
    · intro hne
      exact absurd hzero hne
    · intro _
      exact ⟨rfl, rfl⟩
  · have hne : (w.mapEnv CoreEnv.clearTimeout).env.core.cmdId ≠ 0 := by
      rw [hid']
      apply hzero
    rw [if_pos hne]
    constructor
    · exact (congrArg CoreEnv.io henv).trans hio
    constructor
    · intro _
      constructor
      · show (w.env.clearTimeout).core.rspHandler.map _ = _
        rw [hhandler]
        show Option.map (fun handler => (handler, w.env.clearTimeout.core.rspData)) _ = _
        rw [hdata]
      · exact ⟨rfl, rfl⟩
    · intro hzero'
      exact absurd hzero' hzero

/-- Cancelling the last command. -/
theorem Remembering.cancelled (h : Remembering w.env) :
  Remembering (World.tell .cancelled (nciCoreCancelled (A.sarEnvWith perform) w)).env
  := by
  obtain ⟨hio, hsome, hnone⟩ := env_nciCoreCancelled A perform w
  by_cases hid : w.env.core.cmdId = 0
  · obtain ⟨htold, heq⟩ := hnone hid
    obtain ⟨hio', -, hhandler, hgid, hoid, hdata⟩ := clearTimeout_fields w.env
    rw [World.tell, htold, heq]
    apply h.modify hio' hhandler hgid hoid hdata
  · obtain ⟨htold, -, hempty⟩ := hsome hid
    rw [World.tell, htold]
    cases hhandler : w.env.core.rspHandler with
    | none =>
        constructor
        · rw [Option.map_none]
          show NciCoreObject.Holds _ (CoreLog.waiting _)
          rw [hio, h.holds.eq_none hhandler]
          apply NciCoreObject.holds_none hempty
        · rw [Option.map_none]
          show Throughout _ _ → Throughout _ _
          rw [hio]
          apply h.right
    | some resp =>
        apply h.respond hio hhandler rfl hempty
        intro hstatus
        cases hstatus

/-- Cancelling the last command leaves no other one in the way. -/
theorem Vacant.cancelled (h : Vacant w.env) :
  Vacant (World.tell .cancelled (nciCoreCancelled (A.sarEnvWith perform) w)).env
  := by
  obtain ⟨hio, -, -⟩ := env_nciCoreCancelled A perform w
  rw [World.tell]
  split
  · apply vacant_respond
  · apply h.modify hio

/-- A command is being sent. -/
theorem Remembering.sent (h : Remembering w.env) (gid oid : UInt8) :
  Remembering (World.tell .cancelled (nciCoreCancelled (A.sarEnvWith perform)
      (w.note (.send gid oid w.env.core w.sar)))).env
    ∧ Vacant (World.tell .cancelled (nciCoreCancelled (A.sarEnvWith perform)
      (w.note (.send gid oid w.env.core w.sar)))).env
  := by
  have hsent : Remembering (w.note (.send gid oid w.env.core w.sar)).env := by
    constructor
    · show w.env.core.Holds (CoreLog.waiting (w.env.io ++ [_]))
      rw [waiting_concat]
      apply h.holds
    · intro htimely
      apply throughout_concat.mpr
      use h.right (throughout_concat.mp htimely).1
      trivial
  have htold : Remembering (World.tell .cancelled (nciCoreCancelled (A.sarEnvWith perform)
      (w.note (.send gid oid w.env.core w.sar)))).env :=
    hsent.cancelled
  use htold
  obtain ⟨hio, hsome, hnone⟩ := env_nciCoreCancelled A perform
    (w.note (.send gid oid w.env.core w.sar))
  intro htimely hsending
  by_cases hid : w.env.core.cmdId = 0
  · obtain ⟨hnot, heq⟩ := hnone hid
    rw [World.tell, hnot] at htimely ⊢
    have htimely' : Throughout CoreEntry.Timely (nciCoreCancelled (A.sarEnvWith perform)
        (w.note (.send gid oid w.env.core w.sar))).2.env.io := htimely
    rw [hio] at htimely'
    have hhandler := ((throughout_concat.mp htimely').2).resolve_right (by simp [hid])
    show CoreLog.waiting (nciCoreCancelled _ _).2.env.io = none
    rw [hio]
    show CoreLog.waiting (w.env.io ++ [_]) = none
    rw [waiting_concat]
    apply h.holds.eq_none hhandler
  · obtain ⟨hresp, -, hempty⟩ := hsome hid
    apply htold.holds.eq_none
    rw [World.tell, hresp]
    split
    · apply hempty
    · apply hempty

/-- The slots are taken over by a command. -/
theorem Remembering.accepted (h : Remembering w.env) (hv : Vacant w.env) (gid oid : UInt8)
    (payload : Option (List UInt8)) (resp : Option Nat) (userData : UserData) :
  Remembering ((nciCoreIoSendCommand gid oid payload resp userData w).2.note
      (.accepted (CoreApp.acceptedCommand gid oid resp userData
          (nciCoreIoSendCommand gid oid payload resp userData w).2)
        (nciCoreIoSendCommand gid oid payload resp userData w).2.sar)).env
    ∧ Vacant ((nciCoreIoSendCommand gid oid payload resp userData w).2.note
      (.accepted (CoreApp.acceptedCommand gid oid resp userData
          (nciCoreIoSendCommand gid oid payload resp userData w).2)
        (nciCoreIoSendCommand gid oid payload resp userData w).2.sar)).env
  := by
  obtain ⟨env, heq, hio, -, hgid, hoid, hhandler, hdata⟩ :=
    nciCoreIoSendCommand_eq gid oid payload resp userData w
  rw [heq]
  simp only
  generalize nciSarSendCommand w.sar gid oid payload (some 0) none = sent
  obtain ⟨c, hc⟩ : ∃ c, c = CoreApp.acceptedCommand gid oid resp userData ⟨sent.2, env⟩ := ⟨_, rfl⟩
  rw [← hc]
  constructor
  · constructor
    · show env.core.Holds (CoreLog.waiting (env.io ++ [.accepted c sent.2]))
      rw [waiting_concat]
      constructor
      · rw [hhandler, hc]
        cases resp <;> rfl
      · intro c' hc'
        obtain rfl := Option.some.inj hc'
        rw [hgid, hc]
        rfl
      · intro c' hc'
        obtain rfl := Option.some.inj hc'
        rw [hoid, hc]
        rfl
      · intro c' hc'
        obtain rfl := Option.some.inj hc'
        rw [hdata, hc]
        cases resp <;> rfl
    · intro htimely
      have htimely' : Throughout CoreEntry.Timely (env.io ++ [.accepted c sent.2]) := htimely
      show Throughout CoreEntry.Right (env.io ++ [.accepted c sent.2])
      rw [hio] at htimely' ⊢
      obtain ⟨hbefore, hsending⟩ := throughout_concat.mp htimely'
      apply throughout_concat.mpr
      use h.right hbefore
      apply hv hbefore hsending
  · intro _ hsending
    have hsending' : CoreLog.sending (env.io ++ [.accepted c sent.2]) = true := hsending
    rw [sending_concat] at hsending'
    cases hsending'

theorem io_nciCoreTimedOut (A : CoreApp)
    (perform : List CoreCall → CoreWorld CoreLog → CoreWorld CoreLog) (w : CoreWorld CoreLog) :
  (nciCoreTimedOut (A.sarEnvWith perform) w).2.env.io = w.env.io
  := by
  have henv := A.env_nciSarCancel perform w.env.core.cmdId
    (w.mapEnv fun env => env.modify fun core =>
      { core with cmdTimeoutId := none, rspData := .null })
  have hio := congrArg CoreEnv.io henv
  exact hio

/-- The last command has timed out. -/
theorem Remembering.timedOut (h : Remembering w.env) :
  Remembering (World.tell .timeout (nciCoreTimedOut (A.sarEnvWith perform) w)).env
  := by
  have hio := io_nciCoreTimedOut A perform w
  rw [World.tell]
  cases hhandler : w.env.core.rspHandler with
  | none =>
      have htold : (nciCoreTimedOut (A.sarEnvWith perform) w).1 = none := by
        rw [nciCoreTimedOut, hhandler]
        rfl
      rw [htold]
      constructor
      · show NciCoreObject.Holds _ (CoreLog.waiting (nciCoreTimedOut _ w).2.env.io)
        rw [hio, h.holds.eq_none hhandler]
        apply NciCoreObject.holds_none
        rfl
      · show Throughout _ (nciCoreTimedOut _ w).2.env.io → Throughout _ _
        rw [hio]
        apply h.right
  | some resp =>
      have htold : (nciCoreTimedOut (A.sarEnvWith perform) w).1
          = some (resp, w.env.core.rspData) := by
        rw [nciCoreTimedOut, hhandler]
        rfl
      rw [htold]
      apply h.respond hio hhandler rfl rfl
      intro hstatus
      cases hstatus

theorem Vacant.timedOut (h : Vacant w.env) :
  Vacant (World.tell .timeout (nciCoreTimedOut (A.sarEnvWith perform) w)).env
  := by
  rw [World.tell]
  split
  · apply vacant_respond
  · apply h.modify (io_nciCoreTimedOut A perform w)

/-- A response has arrived. -/
theorem Remembering.responded (h : Remembering w.env) (gid oid : UInt8) (payload : List UInt8) :
  Remembering
    (World.tell .success (nciCoreResponded gid oid (w.note (.response gid oid payload)))).env
  := by
  have hnoted : Remembering (w.note (.response gid oid payload)).env := h.record trivial
  have hlog : (w.note (.response gid oid payload)).env.io
      = w.env.io ++ [.response gid oid payload] := rfl
  generalize w.note (.response gid oid payload) = w' at hnoted hlog ⊢
  rw [nciCoreResponded]
  split
  · rename_i hmatch
    obtain ⟨hsome, hgid, hoid⟩ := hmatch
    obtain ⟨resp, hhandler⟩ := Option.isSome_iff_exists.mp hsome
    obtain ⟨env, henv⟩ : ∃ env, env = w'.env.clearTimeout.modify fun core =>
        { core with cmdId := 0, rspHandler := none, rspData := .null } := ⟨_, rfl⟩
    have hio : env.io = w'.env.io := by
      rw [henv]
      apply (clearTimeout_fields w'.env).1
    have hempty : env.core.rspHandler = none := by rw [henv]; rfl
    rw [hhandler]
    show Remembering (CoreEnv.record (w'.env.clearTimeout.modify _) _)
    rw [← henv]
    apply hnoted.respond hio hhandler rfl hempty
    intro _
    exact ⟨_, gid, oid, payload, hlog, hgid, hoid⟩
  · apply hnoted

theorem Vacant.responded (h : Vacant w.env) (gid oid : UInt8) (payload : List UInt8) :
  Vacant
    (World.tell .success (nciCoreResponded gid oid (w.note (.response gid oid payload)))).env
  := by
  have hnoted : Vacant (w.note (.response gid oid payload)).env :=
    h.record (e := .response gid oid payload) trivial
  generalize w.note (.response gid oid payload) = w' at hnoted ⊢
  rw [nciCoreResponded]
  split
  · rw [World.tell]
    split
    · apply vacant_respond
    · apply hnoted.modify (clearTimeout_fields w'.env).1
  · apply hnoted

/-- Commands that concern limits and credits. -/
theorem Remembering.plain (h : Remembering w.env ∧ Vacant w.env) {c : Call} (hc : c.plain = true)
    (fuel : Nat) :
  Remembering (c.perform (A.sarEnvWith perform) fuel w).env
    ∧ Vacant (c.perform (A.sarEnvWith perform) fuel w).env
  := by
  have hquiet := quietly_remembering A perform
  cases c with
  | start => apply hquiet.start h
  | setMaxLogicalConnections max => apply hquiet.setMaxLogicalConnections fuel max h
  | setMaxControlPayloadSize max => apply h
  | setMaxDataPayloadSize max => apply h
  | setInitialCredits cid credits => apply h
  | addCredits cid credits => apply h
  | reset => cases hc
  | sendCommand gid oid payload complete destroy => cases hc
  | sendDataPacket cid payload complete destroy => cases hc
  | cancel id => cases hc

end

/-- Every move keeps the slots remembering for. -/
theorem CoreMove.remembering {A : CoreApp} {x y : Moment (CoreEnv CoreLog)} (h : CoreMove A x y)
    (hx : Remembering x.1.env ∧ Vacant x.1.env) :
  Remembering y.1.env ∧ Vacant y.1.env
  := by
  cases h with
  | layer perform hmove => apply (quietly_remembering A perform).move hmove trivial hx
  | noted _ he => exact ⟨hx.1.record he.passing, hx.2.record he.passing⟩
  | @plain w S c perform _ hc =>
      apply Remembering.plain _ hc
      exact ⟨hx.1.record (e := .sar c) trivial, hx.2.record (e := .sar c) trivial⟩
  | sent gid oid perform _ => apply hx.1.sent
  | accepted gid oid payload resp userData _ => apply hx.1.accepted hx.2
  | @dropped w S perform _ =>
      have hcancel : Remembering ((w.note (.cancel w.env.core w.sar)).mapEnv fun env =>
          env.modify fun core => { core with rspHandler := none, rspData := .null }).env := by
        constructor
        · show NciCoreObject.Holds _ (CoreLog.waiting (w.env.io ++ [_]))
          rw [waiting_concat]
          apply NciCoreObject.holds_none
          rfl
        · intro htimely
          apply throughout_concat.mpr
          use hx.1.right (throughout_concat.mp htimely).1
          trivial
      have hvacant : Vacant ((w.note (.cancel w.env.core w.sar)).mapEnv fun env =>
          env.modify fun core => { core with rspHandler := none, rspData := .null }).env := by
        intro _ _
        show CoreLog.waiting (w.env.io ++ [_]) = none
        rw [waiting_concat]
        rfl
      exact ⟨hcancel.cancelled, hvacant.cancelled⟩
  | @restarted w S perform _ =>
      have hrestart : Remembering (w.note .restart).env := hx.1.record trivial
      have hvacant : Vacant (w.note .restart).env := hx.2.record (e := .restart) trivial
      exact ⟨hrestart.cancelled, hvacant.cancelled⟩
  | reset perform _ => apply (quietly_remembering A perform).resetClear A.fuel hx
  | @timedOut w S t perform _ =>
      have htimeout : Remembering ((w.mapEnv fun env =>
          { env with timeouts := env.timeouts.erase t }).note (.timedOut w.env.core w.sar)).env :=
        (show Remembering { w.env with timeouts := w.env.timeouts.erase t } from
          hx.1.modify rfl rfl rfl rfl rfl).record trivial
      have hvacant : Vacant ((w.mapEnv fun env =>
          { env with timeouts := env.timeouts.erase t }).note (.timedOut w.env.core w.sar)).env :=
        (show Vacant { w.env with timeouts := w.env.timeouts.erase t } from
          hx.2.modify rfl).record (e := .timedOut w.env.core w.sar) trivial
      exact ⟨htimeout.timedOut, hvacant.timedOut⟩
  | responded gid oid payload _ =>
      exact ⟨hx.1.responded gid oid payload, hx.2.responded gid oid payload⟩
  | @completed w S a f ok _ =>
      have hnoted : Remembering (w.note (.completion ok w.env.core w.sar)).env :=
        hx.1.record trivial
      have hvacant : Vacant (w.note (.completion ok w.env.core w.sar)).env :=
        hx.2.record (e := .completion ok w.env.core w.sar) trivial
      exact ⟨hnoted.modify rfl rfl rfl rfl rfl, hvacant.modify rfl⟩
  | written ok _ _ _ =>
      exact ⟨hx.1.record (e := .written ok) trivial, hx.2.record (e := .written ok) trivial⟩
  | timeoutSet ms _ => exact ⟨hx.1.modify rfl rfl rfl rfl rfl, hx.2.modify rfl⟩

/-- The slots are remembering for in every run. -/
theorem CoreApp.run_remembering (A : CoreApp) (n : Nat) (events : List CoreEvent) :
  Remembering (A.run n coreStart events).env
  := by
  have hstart : Remembering coreStart.env ∧ Vacant coreStart.env := by
    constructor
    · constructor
      · apply NciCoreObject.holds_none rfl
      · intro _
        apply throughout_nil
    · intro _ _
      rfl
  have hmoves := A.run_moves n coreStart events
  have hall : ∀ {x y : Moment (CoreEnv CoreLog)}, CoreMoves A x y →
      Remembering x.1.env ∧ Vacant x.1.env → Remembering y.1.env ∧ Vacant y.1.env := by
    intro x y h hx
    induction h with
    | refl => apply hx
    | tail _ hmove ih => apply hmove.remembering ih
  apply (hall hmoves hstart).1

/-! ### What becomes of a command -/

/-- A command has been accepted. -/
def CoreEntry.isAccepted : CoreEntry → Bool
  | .accepted _ _ => true
  | _ => false

/-- What happens before another command is accepted. -/
def CoreLog.untilNext (log : CoreLog) : CoreLog := log.takeWhile fun e => !e.isAccepted

/-- The calls of response functions. -/
def CoreEntry.outcome : CoreEntry → Option (NciCoreResp × NciRequestStatus × UserData)
  | .responded resp status userData => some (resp, status, userData)
  | _ => none

/-- The calls of response functions. -/
def CoreLog.outcomes (log : CoreLog) : List (NciCoreResp × NciRequestStatus × UserData) :=
  log.filterMap CoreEntry.outcome

/-- A command is answered, `post` being what happens after it has been accepted. Before another
command is accepted its response function is called once, with its own user data, and no other
response function is called; or none is called, and then the command is dropped, or no other one
has been accepted. A command succeeds only when a response with its GID and its OID has just
arrived. -/
structure CoreCommand.Answered (c : CoreCommand) (post : CoreLog) : Prop where
  once : (∃ status, CoreLog.outcomes (CoreLog.untilNext post) = [(c.resp, status, c.userData)])
    ∨ CoreLog.outcomes (CoreLog.untilNext post) = []
      ∧ (CoreLog.untilNext post = post ∨ ∃ core sar, .cancel core sar ∈ CoreLog.untilNext post)
  success : ∀ l resp userData l',
    CoreLog.untilNext post = l ++ .responded resp .success userData :: l' →
    ∃ l₀ payload, l = l₀ ++ [.response c.gid c.oid payload]

section

variable {pre post l : CoreLog} {c : CoreCommand} {sar : NciSar}

theorem outcomes_append (l l' : CoreLog) :
  CoreLog.outcomes (l ++ l') = CoreLog.outcomes l ++ CoreLog.outcomes l'
  := List.filterMap_append

/-- What has become of a command while no other one has been accepted: it still waits, it has
been answered, or it has been dropped. -/
theorem fate (h : Throughout CoreEntry.Right (pre ++ .accepted c sar :: l))
    (hl : ∀ e ∈ l, e.isAccepted = false) :
  (CoreLog.waiting (pre ++ .accepted c sar :: l) = some c ∧ CoreLog.outcomes l = [])
    ∨ (CoreLog.waiting (pre ++ .accepted c sar :: l) = none
      ∧ ((∃ status, CoreLog.outcomes l = [(c.resp, status, c.userData)])
        ∨ CoreLog.outcomes l = [] ∧ ∃ core sar, .cancel core sar ∈ l))
  := by
  induction l using List.reverseRecOn with
  | nil =>
      left
      rw [waiting_concat]
      exact ⟨rfl, rfl⟩
  | append_singleton l e ih =>
      have hassoc : pre ++ .accepted c sar :: (l ++ [e])
          = (pre ++ .accepted c sar :: l) ++ [e] := by
        simp
      rw [hassoc] at h ⊢
      obtain ⟨hbefore, he⟩ := throughout_concat.mp h
      have hfate := ih hbefore fun e he => hl e (List.mem_append_left _ he)
      rw [waiting_concat, outcomes_append]
      by_cases hpassing : e.Passing ∨ ∃ gid oid core sar, e = .send gid oid core sar
      · have hsame : e.waiting (CoreLog.waiting (pre ++ .accepted c sar :: l))
            = CoreLog.waiting (pre ++ .accepted c sar :: l) := by
          rcases hpassing with hpassing | ⟨gid, oid, core, sar', rfl⟩
          · apply hpassing.waiting
          · rfl
        have hnone : CoreLog.outcomes [e] = [] := by
          rcases hpassing with hpassing | ⟨gid, oid, core, sar', rfl⟩
          · cases e <;> first | exact hpassing.elim | rfl
          · rfl
        rw [hsame, hnone, List.append_nil]
        rcases hfate with hfate | ⟨hwaiting, hanswered | ⟨hempty, core, sar', hmem⟩⟩
        · left
          apply hfate
        · right
          exact ⟨hwaiting, Or.inl hanswered⟩
        · right
          exact ⟨hwaiting, Or.inr ⟨hempty, core, sar', List.mem_append_left _ hmem⟩⟩
      · cases e with
        | accepted c' sar' =>
            have hnot := hl (.accepted c' sar') (List.mem_append_right _ List.mem_cons_self)
            cases hnot
        | responded resp status userData =>
            obtain ⟨c', hc', rfl, rfl, -⟩ := he
            rcases hfate with ⟨hwaiting, hempty⟩ | ⟨hwaiting, -⟩
            · obtain rfl : c = c' := Option.some.inj (hwaiting.symm.trans hc')
              right
              use rfl
              left
              use status
              rw [hempty]
              rfl
            · rw [hwaiting] at hc'
              cases hc'
        | cancel core sar' =>
            right
            use rfl
            have hnone : CoreLog.outcomes [.cancel core sar'] = [] := rfl
            rw [hnone, List.append_nil]
            rcases hfate with ⟨-, hempty⟩ | ⟨-, hanswered | ⟨hempty, -⟩⟩
            · right
              exact ⟨hempty, core, sar', List.mem_append_right _ List.mem_cons_self⟩
            · left
              apply hanswered
            · right
              exact ⟨hempty, core, sar', List.mem_append_right _ List.mem_cons_self⟩
        | send gid oid core sar' => exact absurd (Or.inr ⟨gid, oid, core, sar', rfl⟩) hpassing
        | _ => exact absurd (Or.inl trivial) hpassing

theorem not_isAccepted_of_mem_untilNext {e : CoreEntry} (he : e ∈ CoreLog.untilNext post) :
  e.isAccepted = false
  := by simpa using List.mem_takeWhile_imp he

/-- What happens before another command is accepted is all that happens, or a command is
accepted then. -/
theorem untilNext_cases (post : CoreLog) :
  CoreLog.untilNext post = post
    ∨ ∃ c sar rest, post = CoreLog.untilNext post ++ .accepted c sar :: rest
  := by
  induction post with
  | nil =>
      left
      rfl
  | cons e post ih =>
      rw [CoreLog.untilNext, List.takeWhile_cons]
      cases he : e.isAccepted with
      | true =>
          right
          obtain ⟨c, sar, rfl⟩ : ∃ c sar, e = .accepted c sar := by
            cases e <;> first | exact ⟨_, _, rfl⟩ | cases he
          exact ⟨c, sar, post, rfl⟩
      | false =>
          rw [if_pos (by decide)]
          rcases ih with hall | ⟨c, sar, rest, heq⟩
          · left
            rw [← CoreLog.untilNext, hall]
          · right
            use c, sar, rest
            rw [List.cons_append, ← CoreLog.untilNext, ← heq]

/-- Where all responses are right, every command is answered. -/
theorem answered_of_right (h : Throughout CoreEntry.Right (pre ++ .accepted c sar :: post)) :
  c.Answered post
  := by
  have hprefix : ∃ rest, post = CoreLog.untilNext post ++ rest := by
    rcases untilNext_cases post with hall | ⟨c', sar', rest, heq⟩
    · use []
      rw [hall, List.append_nil]
    · use .accepted c' sar' :: rest
  have hbefore : Throughout CoreEntry.Right (pre ++ .accepted c sar :: CoreLog.untilNext post) := by
    obtain ⟨rest, heq⟩ := hprefix
    rw [heq] at h
    have h' : Throughout CoreEntry.Right
        ((pre ++ .accepted c sar :: CoreLog.untilNext post) ++ rest) := by
      simpa using h
    apply h'.of_append
  have hfate := fate hbefore fun e he => not_isAccepted_of_mem_untilNext he
  constructor
  · rcases hfate with ⟨hwaiting, hempty⟩ | ⟨-, hanswered | ⟨hempty, hdropped⟩⟩
    · right
      use hempty
      left
      rcases untilNext_cases post with hall | ⟨c', sar', rest, heq⟩
      · apply hall
      · exfalso
        rw [heq] at h
        have hnext : CoreEntry.Right (pre ++ .accepted c sar :: CoreLog.untilNext post)
            (.accepted c' sar') := by
          have h' : Throughout CoreEntry.Right ((pre ++ .accepted c sar :: CoreLog.untilNext post)
              ++ .accepted c' sar' :: rest) := by
            simpa using h
          apply h'.entry
        have hnone : CoreLog.waiting (pre ++ .accepted c sar :: CoreLog.untilNext post) = none :=
          hnext
        rw [hwaiting] at hnone
        cases hnone
    · left
      apply hanswered
    · right
      exact ⟨hempty, Or.inr hdropped⟩
  · intro l resp userData l' heq
    rw [heq] at hbefore
    have hbefore' : Throughout CoreEntry.Right
        ((pre ++ .accepted c sar :: l) ++ .responded resp .success userData :: l') := by
      simpa using hbefore
    have hentry : CoreEntry.Right (pre ++ .accepted c sar :: l)
        (.responded resp .success userData) :=
      hbefore'.entry
    have hl : ∀ e ∈ l, e.isAccepted = false := by
      intro e he
      have he' : e ∈ CoreLog.untilNext post := by
        rw [heq]
        apply List.mem_append_left _ he
      apply not_isAccepted_of_mem_untilNext he'
    obtain ⟨c', hc', -, -, hsuccess⟩ := hentry
    obtain ⟨pre', payload, hlast⟩ := hsuccess rfl
    rcases fate hbefore'.of_append hl with ⟨hwaiting, -⟩ | ⟨hwaiting, -⟩
    · obtain rfl : c = c' := Option.some.inj (hwaiting.symm.trans hc')
      rcases List.eq_nil_or_concat l with rfl | ⟨l₀, e, rfl⟩
      · have hentry := List.append_inj_right' hlast rfl
        cases hentry
      · use l₀, payload
        rw [List.concat_eq_append]
        have hassoc : pre ++ .accepted c sar :: (l₀.concat e)
            = (pre ++ .accepted c sar :: l₀) ++ [e] := by simp
        rw [hassoc] at hlast
        rw [List.append_inj_right' hlast rfl]
    · rw [hwaiting] at hc'
      cases hc'

/-- Where all responses are right, none is given before a command has been accepted. -/
theorem outcomes_eq_nil (h : Throughout CoreEntry.Right l) (hl : ∀ e ∈ l, e.isAccepted = false) :
  CoreLog.waiting l = none ∧ CoreLog.outcomes l = []
  := by
  induction l using List.reverseRecOn with
  | nil => exact ⟨rfl, rfl⟩
  | append_singleton l e ih =>
      obtain ⟨hbefore, he⟩ := throughout_concat.mp h
      obtain ⟨hwaiting, hempty⟩ := ih hbefore fun e he => hl e (List.mem_append_left _ he)
      rw [waiting_concat, outcomes_append, hwaiting, hempty]
      cases e with
      | accepted c' sar' =>
          have hnot := hl (.accepted c' sar') (List.mem_append_right _ List.mem_cons_self)
          cases hnot
      | responded resp status userData =>
          obtain ⟨c', hc', -⟩ := he
          rw [hwaiting] at hc'
          cases hc'
      | _ => exact ⟨rfl, rfl⟩

end

/-- In every run in which commands are sent in time every command is answered: a command is sent
only when the one before has been answered or is not written yet, and not by a response function
that is told that its command is cancelled by another one. -/
theorem commandsAnswered (A : CoreApp) (n : Nat) (events : List CoreEvent)
    (h : Throughout CoreEntry.Timely (A.run n coreStart events).env.io) :
  CoreLog.outcomes (CoreLog.untilNext (A.run n coreStart events).env.io) = []
    ∧ ∀ pre c sar post, (A.run n coreStart events).env.io = pre ++ .accepted c sar :: post →
      c.Answered post
  := by
  have hright := (A.run_remembering n events).right h
  constructor
  · have hfirst : Throughout CoreEntry.Right
        (CoreLog.untilNext (A.run n coreStart events).env.io) := by
      rcases untilNext_cases (A.run n coreStart events).env.io with hall | ⟨c, sar, rest, heq⟩
      · rw [hall]
        apply hright
      · rw [heq] at hright
        apply hright.of_append
    apply (outcomes_eq_nil hfirst fun e he => not_isAccepted_of_mem_untilNext he).2
  · intro pre c sar post heq
    rw [heq] at hright
    apply answered_of_right hright

/-- Surroundings in which the HAL takes everything and nothing is called from inside a
callback. -/
def CoreApp.quiet : CoreApp where
  halStart _ := true
  halWrite _ := true
  react _ := []
  fuel := 2

/-- A command and its response, and a command that supersedes another one that has not been
written. -/
def answeredEvents : List CoreEvent :=
  [.call (.ioSend 0 0 none (some 1) .null), .idle, .written true, .segment [0x40, 0, 0],
    .call (.ioSend 0 1 none (some 2) .null), .call (.ioSend 0 2 none (some 3) .null)]

theorem commandsAnswered_answeredEvents :
  ∃ log, log = (CoreApp.quiet.run 1 coreStart answeredEvents).env.io
    ∧ CoreLog.outcomes log
      = [(.resp 1, .success, .null), (.resp 2, .cancelled, .null)]
    ∧ ∀ pre c sar post, log = pre ++ .accepted c sar :: post → c.Answered post
  := by
  obtain ⟨-, hanswered⟩ := commandsAnswered CoreApp.quiet 1 answeredEvents (by decide)
  exact ⟨_, rfl, by decide, hanswered⟩

/-- A command is sent after another one has been written whose response is outstanding: the
response function of that one is never called. -/
theorem not_commandsAnswered :
  ∃ pre c sar post, (CoreApp.quiet.run 1 coreStart
      [.call (.ioSend 0 0 none (some 1) .null), .idle, .written true,
        .call (.ioSend 0 1 none (some 2) .null), .idle, .written true,
        .segment [0x40, 1, 0]]).env.io = pre ++ .accepted c sar :: post
    ∧ c.resp = .resp 1 ∧ ¬ c.Answered post
    ∧ CoreLog.outcomes ((CoreApp.quiet.run 1 coreStart
      [.call (.ioSend 0 0 none (some 1) .null), .idle, .written true,
        .call (.ioSend 0 1 none (some 2) .null), .idle, .written true,
        .segment [0x40, 1, 0]]).env.io) = [(.resp 2, .success, .null)]
  := by
  refine ⟨[_], _, _, _, rfl, rfl, ?_, by decide⟩
  intro h
  rcases h.once with ⟨status, hstatus⟩ | ⟨-, hall | ⟨core, sar, hmem⟩⟩
  · revert hstatus
    cases status <;> decide
  · have hlength := congrArg List.length hall
    revert hlength
    decide
  · have hnot : ∀ l : CoreLog, (l.all fun e => match e with
        | .cancel _ _ => false
        | _ => true) = true → .cancel core sar ∉ l := by
      intro l hl hmem
      have hcancel := List.all_eq_true.mp hl _ hmem
      cases hcancel
    apply hnot _ _ hmem
    decide

end Nci
