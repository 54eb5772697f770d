import LibNciCore.Lib.LinkedQueue

/-!
# The data of the segmentation and reassembly layer

An outgoing packet is a node of a heap. It waits in the queue of commands or in the queue of
its logical connection, and while its segments are being written it is the packet `writing`.
Incoming messages are accumulated in `controlIn` and in the field `input` of their
connection, and incoming bytes that do not make up a packet yet in `readBuf`.

The state of the layer comes together with the state `ε` of everything around it: the HAL
below and the client above. What is called there is given by `SarEnv`.
-/

namespace Nci

open LinkedQueue

/-! ### Constants -/

abbrev nciMtMask : UInt8 := 0xe0

abbrev nciMtDataPkt : UInt8 := 0x00

abbrev nciMtCmdPkt : UInt8 := 0x20

abbrev nciMtRspPkt : UInt8 := 0x40

abbrev nciMtNtfPkt : UInt8 := 0x60

/-- The flag that tells that more segments of the packet follow. -/
abbrev nciPbf : UInt8 := 0x10

abbrev nciHdrSize : Nat := 3

abbrev nciControlGidMask : UInt8 := 0x0f

abbrev nciControlOidMask : UInt8 := 0x3f

abbrev nciDataCidMask : UInt8 := 0x0f

abbrev nciDataCrMask : UInt8 := 0x03

abbrev sarDefaultMaxLogicalConnections : UInt8 := 1

abbrev sarMinControlPayloadLimit : UInt8 := 0x20

abbrev sarMinDataPayloadLimit : UInt8 := 0x01

/-- The balance that is never decreased. -/
abbrev sarUnlimitedCredits : UInt8 := 0xff

/-! ### Outgoing packets -/

/-- A pointer to a logical connection: the connection table it points into, and the index
there. -/
structure ConnPtr where
  table : Nat
  index : Nat
  deriving DecidableEq, Repr

/-- The header of a packet. -/
structure NciHdr where
  b0 : UInt8
  b1 : UInt8
  b2 : UInt8
  deriving DecidableEq, Repr

/-- The bytes of a header. -/
def NciHdr.bytes (hdr : NciHdr) : List UInt8 := [hdr.b0, hdr.b1, hdr.b2]

/-- An outgoing packet. The completion function and the destroy function stand for the
function together with the user data it is called with. -/
structure NciSarPacketOut where
  next : Option Nat
  conn : Option ConnPtr
  hdr : NciHdr
  payload : Option (List UInt8)
  payloadPos : UInt32
  complete : Option Nat
  destroy : Option Nat
  id : UInt32
  deriving DecidableEq, Repr

instance : LinkedQueue.Node NciSarPacketOut where
  next out := out.next
  setNext n out := { out with next := n }
  next_setNext _ _ := rfl

/-- The bytes of the payload. -/
def NciSarPacketOut.bytes (out : NciSarPacketOut) : List UInt8 :=
  out.payload.getD []

/-- The bytes of the payload that are not handed over yet. -/
def NciSarPacketOut.remaining (out : NciSarPacketOut) : List UInt8 :=
  out.bytes.drop out.payloadPos.toNat

/-! ### The state -/

/-- A logical connection: its balance, the message it receives, and the packets that wait to
be sent on it. -/
structure NciSarLogicalConnection where
  credits : UInt8
  input : Option (List UInt8)
  out : Queue

/-- A connection as it is allocated. -/
def NciSarLogicalConnection.zero : NciSarLogicalConnection := ⟨0, none, Queue.empty⟩

/-- The state of the layer. The connections are those below `maxLogicalConns`; `connTable`
counts the allocations of the connection table, and `dangling` tells that a pointer into a
table that was deallocated has been followed. -/
structure NciSar where
  started : Bool
  maxLogicalConns : UInt8
  controlPayloadLimit : UInt8
  dataPayloadLimit : UInt8
  lastPacketId : UInt32
  startWriteId : Bool
  writePending : Bool
  writing : Option Nat
  cmd : Queue
  conn : Nat → NciSarLogicalConnection
  connTable : Nat
  controlIn : Option (List UInt8)
  readBuf : Option (List UInt8)
  heap : Heap NciSarPacketOut
  nextAddr : Nat
  dangling : Bool

/-- The queues of outgoing packets. -/
inductive QueueKey where
  | cmd
  | out (cid : Nat)
  deriving DecidableEq, Repr

namespace NciSar

/-- Whether the HAL is started. -/
def setStarted (self : NciSar) (started : Bool) : NciSar := { self with started := started }

/-- Whether the idle callback is scheduled. -/
def setStartWriteId (self : NciSar) (scheduled : Bool) : NciSar :=
  { self with startWriteId := scheduled }

/-- Whether a write is pending. -/
def setWritePending (self : NciSar) (pending : Bool) : NciSar :=
  { self with writePending := pending }

/-- The packet being written. -/
def setWriting (self : NciSar) (writing : Option Nat) : NciSar := { self with writing := writing }

/-- The connection changed by `f`. -/
def modifyConn (self : NciSar) (cid : Nat) (f : NciSarLogicalConnection → NciSarLogicalConnection) :
    NciSar :=
  { self with conn := Function.update self.conn cid (f (self.conn cid)) }

/-- The id of the last packet. -/
def setLastPacketId (self : NciSar) (id : UInt32) : NciSar := { self with lastPacketId := id }

/-- A pointer into a deallocated connection table is followed. -/
def setDangling (self : NciSar) : NciSar := { self with dangling := true }

/-- The part of a control message that has arrived. -/
def setControlIn (self : NciSar) (input : Option (List UInt8)) : NciSar :=
  { self with controlIn := input }

/-- The bytes that do not make up a packet yet. -/
def setReadBuf (self : NciSar) (buf : Option (List UInt8)) : NciSar := { self with readBuf := buf }

/-- The part of a data message that has arrived on a connection. -/
def setInput (self : NciSar) (cid : Nat) (input : Option (List UInt8)) : NciSar :=
  self.modifyConn cid fun conn => { conn with input := input }

/-- The packet at an address changed by `f`. -/
def modifyPacket (self : NciSar) (a : Nat) (f : NciSarPacketOut → NciSarPacketOut) : NciSar :=
  { self with heap := self.heap.modify a f }

/-- A packet is allocated at the next address. -/
def alloc (self : NciSar) (out : NciSarPacketOut) : NciSar :=
  { self with heap := Function.update self.heap self.nextAddr (some out)
              nextAddr := self.nextAddr + 1 }

/-- The packet at an address is deallocated. -/
def dealloc (self : NciSar) (a : Nat) : NciSar :=
  { self with heap := Function.update self.heap a none }

/-- The queue with a key. -/
def queue (self : NciSar) : QueueKey → Queue
  | .cmd => self.cmd
  | .out cid => (self.conn cid).out

/-- The state with another queue under a key. -/
def setQueue (self : NciSar) (k : QueueKey) (q : Queue) : NciSar :=
  match k with
  | .cmd => { self with cmd := q }
  | .out cid => self.modifyConn cid fun conn => { conn with out := q }

/-- The state with another queue, other links, and another packet being written. -/
def relink (self : NciSar) (k : QueueKey) (q : Queue) (heap : Heap NciSarPacketOut)
    (writing : Option Nat) : NciSar :=
  { self.setQueue k q with heap := heap, writing := writing }

/-- The indices of the connections. -/
def cids (self : NciSar) : List Nat := List.range self.maxLogicalConns.toNat

end NciSar

/-! ### The surroundings -/

/-- The state of the layer and of its surroundings. -/
structure World (ε : Type) where
  sar : NciSar
  env : ε

/-- The world with the state of the layer changed by `f`. -/
def World.map {ε : Type} (w : World ε) (f : NciSar → NciSar) : World ε :=
  { w with sar := f w.sar }

/-- What the layer calls: the functions of the HAL, the functions of the client, and the
completion and destroy functions of packets. A function of the HAL does not call back
before it returns. -/
structure SarEnv (ε : Type) where
  halStart : NciSar → ε → Bool × ε
  halStop : NciSar → ε → ε
  halWrite : List (List UInt8) → NciSar → ε → Bool × ε
  halCancelWrite : NciSar → ε → ε
  error : World ε → World ε
  handleResponse : UInt8 → UInt8 → List UInt8 → World ε → World ε
  handleNotification : UInt8 → UInt8 → List UInt8 → World ε → World ε
  handleDataPacket : UInt8 → List UInt8 → World ε → World ε
  complete : Nat → Bool → World ε → World ε
  destroy : Nat → World ε → World ε

end Nci
