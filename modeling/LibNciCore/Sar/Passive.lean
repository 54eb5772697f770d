import LibNciCore.Sar.Interface

/-!
# Changes that the functions do not see

A change of a field that no function on the sending side looks at commutes with these
functions: it does not matter whether it is made before or after. Such a change is that of
the field `started`, and that of the field `readBuf`.
-/

namespace Nci

open LinkedQueue

/-- A change of the state that the functions on the sending side do not see. -/
structure Passive (g : NciSar → NciSar) : Prop where
  maxLogicalConns : ∀ s, (g s).maxLogicalConns = s.maxLogicalConns
  controlPayloadLimit : ∀ s, (g s).controlPayloadLimit = s.controlPayloadLimit
  dataPayloadLimit : ∀ s, (g s).dataPayloadLimit = s.dataPayloadLimit
  lastPacketId : ∀ s, (g s).lastPacketId = s.lastPacketId
  startWriteId : ∀ s, (g s).startWriteId = s.startWriteId
  writePending : ∀ s, (g s).writePending = s.writePending
  writing : ∀ s, (g s).writing = s.writing
  cmd : ∀ s, (g s).cmd = s.cmd
  conn : ∀ s, (g s).conn = s.conn
  connTable : ∀ s, (g s).connTable = s.connTable
  heap : ∀ s, (g s).heap = s.heap
  nextAddr : ∀ s, (g s).nextAddr = s.nextAddr
  relink : ∀ s k q h p, (g s).relink k q h p = g (s.relink k q h p)
  modifyConn : ∀ s cid f, (g s).modifyConn cid f = g (s.modifyConn cid f)
  modifyPacket : ∀ s a f, (g s).modifyPacket a f = g (s.modifyPacket a f)
  alloc : ∀ s out, (g s).alloc out = g (s.alloc out)
  setStartWriteId : ∀ s b, (g s).setStartWriteId b = g (s.setStartWriteId b)
  setLastPacketId : ∀ s id, (g s).setLastPacketId id = g (s.setLastPacketId id)
  setDangling : ∀ s, (g s).setDangling = g s.setDangling

theorem passive_setStarted (b : Bool) :
  Passive fun s => s.setStarted b
  := by
  constructor
  case relink =>
    intro s k q h p
    cases k <;> rfl
  all_goals intros; rfl

theorem passive_setReadBuf (buf : Option (List UInt8)) :
  Passive fun s => s.setReadBuf buf
  := by
  constructor
  case relink =>
    intro s k q h p
    cases k <;> rfl
  all_goals intros; rfl

namespace Passive

variable {g : NciSar → NciSar} (hg : Passive g) (s : NciSar)

include hg

theorem queue (k : QueueKey) :
  (g s).queue k = s.queue k
  := by
  cases k with
  | cmd => apply hg.cmd
  | out cid => rw [NciSar.queue, NciSar.queue, hg.conn]

theorem cids :
  (g s).cids = s.cids
  := by rw [NciSar.cids, NciSar.cids, hg.maxLogicalConns]

theorem keys :
  (g s).keys = s.keys
  := by rw [NciSar.keys, NciSar.keys, hg.cids]

theorem canSend :
  (g s).canSend = s.canSend
  := by
  funext cid
  rw [NciSar.canSend, NciSar.canSend, hg.conn]

theorem canWrite :
  nciSarCanWrite (g s) = nciSarCanWrite s
  := by rw [nciSarCanWrite, nciSarCanWrite, hg.writing, hg.cmd, hg.cids, hg.canSend]

theorem isWriting (id : UInt32) :
  (g s).isWriting id = s.isWriting id
  := by rw [NciSar.isWriting, NciSar.isWriting, hg.heap, hg.writing]

theorem found (id : UInt32) (k : QueueKey) :
  (g s).found id k = s.found id k
  := by rw [NciSar.found, NciSar.found, hg.heap, hg.nextAddr, hg.queue]

theorem unlink (id : UInt32) (k : QueueKey) :
  (g s).unlink id k = g (s.unlink id k)
  := by
  simp only [NciSar.unlink, hg.heap, hg.nextAddr, hg.queue, hg.writing]
  apply hg.relink

theorem useCredit (cid : Nat) :
  (g s).useCredit cid = g (s.useCredit cid)
  := by
  rw [NciSar.useCredit, NciSar.useCredit, hg.conn]
  by_cases hcredits : (s.conn cid).credits ≠ sarUnlimitedCredits
  · rw [if_pos hcredits, if_pos hcredits, hg.modifyConn]
  · rw [if_neg hcredits, if_neg hcredits]

theorem scheduleWrite :
  nciSarScheduleWrite (g s) = g (nciSarScheduleWrite s)
  := by
  rw [nciSarScheduleWrite, nciSarScheduleWrite, hg.startWriteId, hg.canWrite]
  by_cases hwrite : (!s.startWriteId && nciSarCanWrite s) = true
  · rw [if_pos hwrite, if_pos hwrite, hg.setStartWriteId]
  · rw [if_neg hwrite, if_neg hwrite]

theorem writeQueue :
  nciSarWriteQueue (g s) = ((nciSarWriteQueue s).1, g (nciSarWriteQueue s).2)
  := by
  rw [nciSarWriteQueue, nciSarWriteQueue, hg.cmd, hg.cids, hg.canSend]
  by_cases hcmd : s.cmd.first.isSome = true
  · rw [if_pos hcmd, if_pos hcmd]
  · rw [if_neg hcmd, if_neg hcmd]
    cases s.cids.find? s.canSend with
    | none => rfl
    | some cid => simp only [hg.useCredit]

theorem attemptWriteContinue :
  nciSarAttemptWriteContinue (g s) = g (nciSarAttemptWriteContinue s)
  := by
  rw [nciSarAttemptWriteContinue, nciSarAttemptWriteContinue, hg.writing]
  cases ha : s.writing with
  | none => rfl
  | some a =>
      simp only [hg.heap]
      cases (s.heap a).bind NciSarPacketOut.conn with
      | none => rfl
      | some conn =>
          simp only [hg.connTable, hg.conn]
          by_cases htable : conn.table = s.connTable
          · rw [if_pos htable, if_pos htable]
            by_cases hcredits : (s.conn conn.index).credits ≠ 0
            · rw [if_pos hcredits, if_pos hcredits, hg.useCredit]
            · rw [if_neg hcredits, if_neg hcredits, hg.relink]
          · rw [if_neg htable, if_neg htable, hg.setDangling]

theorem attemptWritePick :
  nciSarAttemptWritePick (g s) = g (nciSarAttemptWritePick s)
  := by
  rw [nciSarAttemptWritePick, nciSarAttemptWritePick, hg.writing, hg.writeQueue]
  cases ha : s.writing with
  | some a => rfl
  | none =>
      obtain ⟨_ | k, s'⟩ := nciSarWriteQueue s
      · rfl
      · simp only [hg.heap, hg.queue, hg.relink]

theorem takeCredits (cid : Nat) (credits : UInt8) :
  nciSarTakeCredits (g s) cid credits = g (nciSarTakeCredits s cid credits)
  := by
  rw [nciSarTakeCredits, nciSarTakeCredits]
  by_cases hcredits : credits ≠ 0
  · rw [if_pos hcredits, if_pos hcredits]
    simp only [hg.modifyConn, hg.conn, hg.scheduleWrite]
    split <;> rfl
  · rw [if_neg hcredits, if_neg hcredits]

theorem setInitialCredits (cid credits : UInt8) :
  nciSarSetInitialCredits (g s) cid credits = g (nciSarSetInitialCredits s cid credits)
  := by
  rw [nciSarSetInitialCredits, nciSarSetInitialCredits, hg.maxLogicalConns]
  by_cases hcid : cid < s.maxLogicalConns
  · rw [if_pos hcid, if_pos hcid, hg.modifyConn]
  · rw [if_neg hcid, if_neg hcid]

theorem addCredits (cid credits : UInt8) :
  nciSarAddCredits (g s) cid credits = g (nciSarAddCredits s cid credits)
  := by
  rw [nciSarAddCredits, nciSarAddCredits, hg.maxLogicalConns]
  by_cases hcid : cid < s.maxLogicalConns
  · rw [if_pos hcid, if_pos hcid, hg.takeCredits]
  · rw [if_neg hcid, if_neg hcid]

theorem send (k : QueueKey) (conn : Option ConnPtr) (b0 b1 : UInt8)
    (payload : Option (List UInt8)) (complete destroy : Option Nat) :
  nciSarSend (g s) k conn b0 b1 payload complete destroy
    = ((nciSarSend s k conn b0 b1 payload complete destroy).1,
        g (nciSarSend s k conn b0 b1 payload complete destroy).2)
  := by
  have hid : (g s).nextPacketId = s.nextPacketId := by
    rw [NciSar.nextPacketId, NciSar.nextPacketId, hg.lastPacketId]
  rw [nciSarSend, nciSarSend]
  simp only [hid, hg.alloc, hg.heap, hg.queue, hg.nextAddr, hg.writing, hg.relink,
    hg.setLastPacketId, hg.scheduleWrite]

theorem sendDataPacket (cid : UInt8) (payload : Option (List UInt8))
    (complete destroy : Option Nat) :
  nciSarSendDataPacket (g s) cid payload complete destroy
    = ((nciSarSendDataPacket s cid payload complete destroy).1,
        g (nciSarSendDataPacket s cid payload complete destroy).2)
  := by
  rw [nciSarSendDataPacket, nciSarSendDataPacket, hg.maxLogicalConns, hg.connTable]
  by_cases hcid : cid < s.maxLogicalConns
  · rw [if_pos hcid, if_pos hcid, hg.send]
  · rw [if_neg hcid, if_neg hcid]

end Passive

end Nci
