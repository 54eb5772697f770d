import LibNciCore.Sar.Read

/-!
# The interface of the segmentation and reassembly layer

Creating, starting and resetting the layer, setting its limits, granting credits, and sending
and cancelling packets.
-/

namespace Nci

open LinkedQueue

variable {ε : Type} (E : SarEnv ε)

/-! ### Clearing and searching queues -/

/-- Frees the packets of a queue. A destroy function may append packets to the queue that is
being cleared; `fuel` bounds how many packets are freed. -/
def nciSarClearQueue (k : QueueKey) : Nat → World ε → World ε
  | fuel + 1, w =>
      match (w.sar.queue k).first with
      | some a =>
          let next := (w.sar.heap a).bind NciSarPacketOut.next
          nciSarClearQueue k fuel (nciSarPacketOutFree E a
            (w.map fun self => self.setQueue k { self.queue k with first := next }))
      | none => w.map fun self => self.setQueue k { self.queue k with last := none }
  | 0, w => w

namespace NciSar

/-- The packet with the given id in a queue. -/
def found (self : NciSar) (id : UInt32) (k : QueueKey) : Option Nat :=
  (remove (fun out : NciSarPacketOut => out.id == id) self.nextAddr self.heap (self.queue k)).1

/-- The state without the packet with the given id in a queue. -/
def unlink (self : NciSar) (id : UInt32) (k : QueueKey) : NciSar :=
  let p := remove (fun out : NciSarPacketOut => out.id == id) self.nextAddr self.heap (self.queue k)
  self.relink k p.2.2 p.2.1 self.writing

end NciSar

/-- Removes the packet with the given id from a queue and frees it, and tells whether there
was one. -/
def nciSarCancelQueue (k : QueueKey) (id : UInt32) (w : World ε) : Bool × World ε :=
  match w.sar.found id k with
  | some a => (true, nciSarPacketOutFree E a (w.map fun self => self.unlink id k))
  | none => (false, w)

/-! ### The life of the layer -/

/-- A new layer. -/
def nciSarNew : NciSar where
  started := false
  maxLogicalConns := sarDefaultMaxLogicalConnections
  controlPayloadLimit := sarMinControlPayloadLimit
  dataPayloadLimit := sarMinDataPayloadLimit
  lastPacketId := 0
  startWriteId := false
  writePending := false
  writing := none
  cmd := Queue.empty
  conn := fun _ => NciSarLogicalConnection.zero
  connTable := 0
  controlIn := none
  readBuf := none
  heap := fun _ => none
  nextAddr := 0
  dangling := false

/-- The first part of a reset: the pending write is cancelled and the HAL is stopped. -/
def nciSarResetIo (w : World ε) : World ε :=
  let w :=
    if w.sar.writing.isSome then
      let w := w.map fun self => self.setWriting none
      if w.sar.writePending then
        let env := E.halCancelWrite w.sar w.env
        { sar := w.sar.setWritePending false, env := env }
      else w
    else w
  if w.sar.started then
    let w := w.map fun self => self.setStarted false
    { w with env := E.halStop w.sar w.env }
  else w

/-- The second part of a reset: the connections forget their packets, credits and input. -/
def nciSarResetConns (fuel : Nat) : List Nat → World ε → World ε
  | cid :: cids, w =>
      if cid < w.sar.maxLogicalConns.toNat then
        let w := nciSarClearQueue E (.out cid) fuel w
        nciSarResetConns fuel cids
          (w.map fun self => self.modifyConn cid fun conn =>
            { conn with credits := 0, input := conn.input.map fun _ => [] })
      else w
  | [], w => w

/-- Resets the layer. The completion function of the packet that was being written is called
at the very end. -/
def nciSarReset (fuel : Nat) (w : World ε) : World ε :=
  let cancel := w.sar.writing
  let w := nciSarResetIo E w
  let w := nciSarResetConns E fuel (List.range 255) w
  let w := w.map fun self => self.setControlIn (self.controlIn.map fun _ => [])
  let w := nciSarClearQueue E .cmd fuel w
  let w := w.map fun self => self.setStartWriteId false
  match cancel with
  | some a => nciSarPacketOutFinish E a false w
  | none => w

/-- Frees the layer, after a reset. What is left is what surrounds it. -/
def nciSarFree (fuel : Nat) (w : World ε) : ε := (nciSarReset E fuel w).env

/-! ### Limits and credits -/

/-- Clears the queues of connections that are given up. -/
def nciSarDropConns (fuel : Nat) : List Nat → World ε → World ε
  | cid :: cids, w =>
      if cid < w.sar.maxLogicalConns.toNat then
        nciSarDropConns fuel cids (nciSarClearQueue E (.out cid) fuel w)
      else w
  | [], w => w

/-- Sets the number of connections: the connection table is allocated anew, and connections
that were not there before are empty. -/
def nciSarSetMaxLogicalConnections (fuel : Nat) (max : UInt8) (w : World ε) : World ε :=
  let max := if max = 0 then sarDefaultMaxLogicalConnections else max
  if w.sar.maxLogicalConns < max then
    w.map fun self =>
      { self with
        conn := fun cid =>
          if cid < self.maxLogicalConns.toNat then self.conn cid else NciSarLogicalConnection.zero
        connTable := self.connTable + 1
        maxLogicalConns := max }
  else if max < w.sar.maxLogicalConns then
    let w := nciSarDropConns E fuel ((List.range 255).drop max.toNat) w
    w.map fun self => { self with connTable := self.connTable + 1, maxLogicalConns := max }
  else w

def nciSarSetMaxControlPayloadSize (self : NciSar) (max : UInt8) : NciSar :=
  { self with
    controlPayloadLimit :=
      if max < sarMinControlPayloadLimit then sarMinControlPayloadLimit else max }

def nciSarSetMaxDataPayloadSize (self : NciSar) (max : UInt8) : NciSar :=
  { self with
    dataPayloadLimit := if max < sarMinDataPayloadLimit then sarMinDataPayloadLimit else max }

/-- Sets the balance of a connection. -/
def nciSarSetInitialCredits (self : NciSar) (cid credits : UInt8) : NciSar :=
  if cid < self.maxLogicalConns then
    self.modifyConn cid.toNat fun conn => { conn with credits := credits }
  else self

/-- Adds to the balance of a connection. -/
def nciSarAddCredits (self : NciSar) (cid credits : UInt8) : NciSar :=
  if cid < self.maxLogicalConns then nciSarTakeCredits self cid.toNat credits else self

/-! ### Packets -/

/-- Queues a command and returns its id. -/
def nciSarSendCommand (self : NciSar) (gid oid : UInt8) (payload : Option (List UInt8))
    (complete destroy : Option Nat) : UInt32 × NciSar :=
  nciSarSend self .cmd none (nciMtCmdPkt ||| (gid &&& nciControlGidMask))
    (oid &&& nciControlOidMask) payload complete destroy

/-- Queues a data packet and returns its id, which is zero if there is no such connection. -/
def nciSarSendDataPacket (self : NciSar) (cid : UInt8) (payload : Option (List UInt8))
    (complete destroy : Option Nat) : UInt32 × NciSar :=
  if cid < self.maxLogicalConns then
    nciSarSend self (.out cid.toNat) (some ⟨self.connTable, cid.toNat⟩)
      (cid &&& nciDataCidMask) 0 payload complete destroy
  else (0, self)

/-- Cancels the first packet with the given id in the queues. -/
def nciSarCancelQueues (id : UInt32) : List QueueKey → World ε → World ε
  | k :: ks, w =>
      let r := nciSarCancelQueue E k id w
      if r.1 then r.2 else nciSarCancelQueues id ks r.2
  | [], w => w

/-- The packet being written has the given id. -/
def NciSar.isWriting (self : NciSar) (id : UInt32) : Bool :=
  (self.writing.bind self.heap).any fun out => out.id == id

/-- The keys of the queues, in the order in which they are searched. -/
def NciSar.keys (self : NciSar) : List QueueKey := .cmd :: self.cids.map .out

/-- Cancels a packet. One that is being written is not removed, but its completion function is
forgotten. -/
def nciSarCancel (id : UInt32) (w : World ε) : World ε :=
  if id ≠ 0 then
    if w.sar.isWriting id then
      match w.sar.writing with
      | some a => w.map fun self => self.modifyPacket a fun out => { out with complete := none }
      | none => w
    else nciSarCancelQueues E id w.sar.keys w
  else w

end Nci
