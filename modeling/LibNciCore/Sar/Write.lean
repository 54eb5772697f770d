import LibNciCore.Sar.Types

/-!
# Sending: picking packets and handing their segments to the HAL

The functions of this file take a packet from a queue, hand its next segment to the HAL, go
on when the HAL reports that the segment is written, and put a packet back to its queue when
its connection has no credits for the next segment.
-/

namespace Nci

open LinkedQueue

variable {ε : Type} (E : SarEnv ε)

/-! ### Freeing a packet -/

/-- Calls the destroy function of a packet and deallocates the packet. -/
def nciSarPacketOutFree (a : Nat) (w : World ε) : World ε :=
  let w := match (w.sar.heap a).bind NciSarPacketOut.destroy with
    | some destroy => E.destroy destroy w
    | none => w
  w.map fun self => self.dealloc a

/-- Calls the completion function of a packet and frees the packet. -/
def nciSarPacketOutFinish (a : Nat) (ok : Bool) (w : World ε) : World ε :=
  let w := match (w.sar.heap a).bind NciSarPacketOut.complete with
    | some complete => E.complete complete ok w
    | none => w
  nciSarPacketOutFree E a w

/-! ### Choosing a queue -/

/-- The connection has a packet to send and credits for it. -/
def NciSar.canSend (self : NciSar) (cid : Nat) : Bool :=
  (self.conn cid).out.first.isSome && (self.conn cid).credits != 0

/-- Takes one credit from a connection, unless its balance is unlimited. -/
def NciSar.useCredit (self : NciSar) (cid : Nat) : NciSar :=
  if (self.conn cid).credits ≠ sarUnlimitedCredits then
    self.modifyConn cid fun conn => { conn with credits := conn.credits - 1 }
  else self

/-- The queue to send from: that of commands, or that of the first connection that can send,
which is charged a credit. -/
def nciSarWriteQueue (self : NciSar) : Option QueueKey × NciSar :=
  if self.cmd.first.isSome then (some .cmd, self)
  else match self.cids.find? self.canSend with
    | some cid => (some (.out cid), self.useCredit cid)
    | none => (none, self)

/-- No packet is being written, and there is a packet to write. -/
def nciSarCanWrite (self : NciSar) : Bool :=
  self.writing.isNone && (self.cmd.first.isSome || self.cids.any self.canSend)

/-- Schedules a write when there is something to write. -/
def nciSarScheduleWrite (self : NciSar) : NciSar :=
  if !self.startWriteId && nciSarCanWrite self then self.setStartWriteId true else self

/-! ### Handing a segment to the HAL -/

/-- The packet being written is charged a credit for its next segment. If its connection has
no credits, it is put back to the queue. -/
def nciSarAttemptWriteContinue (self : NciSar) : NciSar :=
  match self.writing with
  | some a =>
      match (self.heap a).bind NciSarPacketOut.conn with
      | some conn =>
          if conn.table = self.connTable then
            if (self.conn conn.index).credits ≠ 0 then self.useCredit conn.index
            else
              let p := putFront self.heap (self.conn conn.index).out a
              self.relink (.out conn.index) p.2 p.1 none
          else self.setDangling
      | none => self
  | none => self

/-- If no packet is being written, the first one of the queue to send from is taken. -/
def nciSarAttemptWritePick (self : NciSar) : NciSar :=
  match self.writing with
  | some _ => self
  | none =>
      match nciSarWriteQueue self with
      | (some k, self) =>
          let p := dequeue self.heap (self.queue k)
          self.relink k p.2.2 p.2.1 p.1
      | (none, self) => self

/-- The limit on the payload of a segment of the packet. -/
def NciSar.maxPayloadSize (self : NciSar) (out : NciSarPacketOut) : UInt8 :=
  if out.hdr.b0 &&& nciMtMask = nciMtCmdPkt then self.controlPayloadLimit
  else self.dataPayloadLimit

/-- The packet with its next segment handed over, and the chunks of that segment. -/
def NciSarPacketOut.nextSegment (out : NciSarPacketOut) (maxPayloadSize : UInt8) :
    NciSarPacketOut × List (List UInt8) :=
  let remainingPayloadLen := out.remaining.length
  if remainingPayloadLen ≤ maxPayloadSize.toNat then
    let hdr : NciHdr :=
      ⟨out.hdr.b0 &&& ~~~nciPbf, out.hdr.b1, UInt8.ofNat remainingPayloadLen⟩
    ({ out with hdr := hdr,
                payloadPos := out.payloadPos + UInt32.ofNat remainingPayloadLen },
      if remainingPayloadLen = 0 then [hdr.bytes] else [hdr.bytes, out.remaining])
  else
    let hdr : NciHdr := ⟨out.hdr.b0 ||| nciPbf, out.hdr.b1, maxPayloadSize⟩
    ({ out with hdr := hdr, payloadPos := out.payloadPos + maxPayloadSize.toUInt32 },
      [hdr.bytes, out.remaining.take maxPayloadSize.toNat])

/-- Starts the HAL if it is not started, and tells whether it is. -/
def nciSarStart (w : World ε) : World ε :=
  if w.sar.started then w
  else
    let r := E.halStart w.sar w.env
    { sar := w.sar.setStarted r.1, env := r.2 }

/-- Submits a write request to a HAL that is started, and tells whether the HAL has taken
it. -/
def nciSarAttemptWriteRequest (chunks : List (List UInt8)) (w : World ε) : Bool × World ε :=
  if w.sar.started then
    let w := w.map fun self => self.setWritePending true
    let r := E.halWrite chunks w.sar w.env
    (r.1, { sar := w.sar.setWritePending r.1, env := r.2 })
  else (false, w)

/-- The next segment is taken off a packet. -/
def NciSar.cutSegment (self : NciSar) (a : Nat) (out : NciSarPacketOut) : NciSar :=
  self.modifyPacket a fun _ => (out.nextSegment (self.maxPayloadSize out)).1

/-- Hands the next segment of the packet being written to the HAL, which is started on
demand, and tells whether the HAL has taken it. -/
def nciSarAttemptWriteSubmit (a : Nat) (w : World ε) : Bool × World ε :=
  match w.sar.heap a with
  | some out =>
      nciSarAttemptWriteRequest E (out.nextSegment (w.sar.maxPayloadSize out)).2
        (nciSarStart E (w.map fun self => self.cutSegment a out))
  | none => (false, w)

/-- Drops the packet whose segment has not been taken and indicates an error. -/
def nciSarAttemptWriteFailed (a : Nat) (w : World ε) : World ε :=
  let w := w.map fun self => self.setWriting none
  let w := E.error (nciSarPacketOutFinish E a false w)
  w.map nciSarScheduleWrite

/-- Hands the next segment to the HAL, unless a write is pending. -/
def nciSarAttemptWrite (w : World ε) : World ε :=
  if w.sar.writePending then w
  else
    let w := w.map fun self => nciSarAttemptWritePick (nciSarAttemptWriteContinue self)
    match w.sar.writing with
    | some a =>
        let r := nciSarAttemptWriteSubmit E a w
        if r.1 then r.2 else nciSarAttemptWriteFailed E a r.2
    | none => w

/-- The idle callback. -/
def nciSarStartWrite (w : World ε) : World ε :=
  nciSarAttemptWrite E (w.map fun self => self.setStartWriteId false)

/-! ### The HAL has written a segment -/

/-- All of the payload is handed over. -/
def NciSarPacketOut.isDone (out : NciSarPacketOut) : Bool :=
  out.bytes.length == out.payloadPos.toNat

/-- The packet at an address is completely handed over. -/
def NciSar.isDoneAt (self : NciSar) (a : Nat) : Bool :=
  (self.heap a).any NciSarPacketOut.isDone

/-- The HAL reports the end of a write. -/
def nciSarWriteCompleted (ok : Bool) (w : World ε) : World ε :=
  match w.sar.writing with
  | some a =>
      let w := w.map fun self => self.setWritePending false
      if ok then
        let w :=
          if w.sar.isDoneAt a then
            nciSarPacketOutFinish E a true (w.map fun self => self.setWriting none)
          else w
        nciSarAttemptWrite E w
      else
        let w := w.map fun self => self.setWriting none
        E.error (nciSarPacketOutFinish E a false w)
  | none => w

/-! ### Queueing a packet -/

/-- The next packet id: the counter skips zero. -/
def NciSar.nextPacketId (self : NciSar) : UInt32 :=
  if self.lastPacketId + 1 = 0 then self.lastPacketId + 1 + 1 else self.lastPacketId + 1

/-- Appends a new packet to a queue and schedules a write. -/
def nciSarSend (self : NciSar) (k : QueueKey) (conn : Option ConnPtr) (b0 b1 : UInt8)
    (payload : Option (List UInt8)) (complete destroy : Option Nat) : UInt32 × NciSar :=
  let id := self.nextPacketId
  let out : NciSarPacketOut :=
    { next := none, conn := conn, hdr := ⟨b0, b1, 0⟩, payload := payload, payloadPos := 0,
      complete := complete, destroy := destroy, id := id }
  let a := self.nextAddr
  let self := self.alloc out
  let p := enqueue self.heap (self.queue k) a
  (id, nciSarScheduleWrite ((self.relink k p.2 p.1 self.writing).setLastPacketId id))

/-- Adds credits to the balance of a connection, which becomes unlimited on overflow. -/
def nciSarTakeCredits (self : NciSar) (cid : Nat) (credits : UInt8) : NciSar :=
  if credits ≠ 0 then
    let self := self.modifyConn cid fun conn =>
      { conn with credits := if 0xff - conn.credits < credits then sarUnlimitedCredits
                             else conn.credits + credits }
    if (self.conn cid).out.first.isSome then nciSarScheduleWrite self else self
  else self

end Nci
