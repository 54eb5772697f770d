import LibNciCore.Sar.Write

/-!
# Receiving: framing and reassembly

Bytes from the HAL are cut into packets, and the segments of a message are put together
before the client gets to see the message. Complete packets are handled where they arrive;
what does not make up a packet yet is kept in `readBuf`.
-/

namespace Nci

variable {ε : Type} (E : SarEnv ε)

/-! ### Segments -/

/-- The length a packet gives for its payload. -/
def packetPayloadLen (packet : List UInt8) : Nat := (packet.getD 2 0).toNat

/-- The payload of a packet. -/
def packetPayload (packet : List UInt8) : List UInt8 :=
  (packet.drop nciHdrSize).take (packetPayloadLen packet)

/-- Passes a control message to the client. -/
def nciSarHalHandleControlPacket (mt gid oid : UInt8) (payload : List UInt8) (w : World ε) :
    World ε :=
  if mt = nciMtRspPkt then E.handleResponse gid oid payload w
  else E.handleNotification gid oid payload w

/-- Handles a segment of a control message. The accumulated message is detached while the
client handles it. -/
def nciSarHalHandleControlSegment (packet : List UInt8) (w : World ε) : World ε :=
  let hdr := packet.getD 0 0
  let mt := hdr &&& nciMtMask
  let gid := hdr &&& nciControlGidMask
  let oid := packet.getD 1 0 &&& nciControlOidMask
  let payload := packetPayload packet
  let input := w.sar.controlIn.getD []
  if 0 < input.length then
    if mt = input.getD 0 0 &&& nciMtMask ∧ gid = input.getD 0 0 &&& nciControlGidMask
        ∧ oid = input.getD 1 0 &&& nciControlOidMask then
      let input := input ++ payload
      if hdr &&& nciPbf = 0 then
        let w := w.map fun self => self.setControlIn none
        let w := nciSarHalHandleControlPacket E mt gid oid (input.drop nciHdrSize) w
        w.map fun self => self.setControlIn (some (self.controlIn.getD []))
      else w.map fun self => self.setControlIn (some input)
    else E.error w
  else if hdr &&& nciPbf ≠ 0 then
    w.map fun self =>
      self.setControlIn (some (packet.take (packetPayloadLen packet + nciHdrSize)))
  else nciSarHalHandleControlPacket E mt gid oid payload w

/-- Handles a segment of a data message. The accumulated message is detached while the client
handles it. -/
def nciSarHalHandleDataSegment (packet : List UInt8) (w : World ε) : World ε :=
  let hdr := packet.getD 0 0
  let cid := hdr &&& nciDataCidMask
  let cr := packet.getD 1 0 &&& nciDataCrMask
  let payload := packetPayload packet
  if cid < w.sar.maxLogicalConns then
    let table := w.sar.connTable
    let w := w.map fun self => nciSarTakeCredits self cid.toNat cr
    let input := (w.sar.conn cid.toNat).input.getD []
    if 0 < input.length then
      let input := input ++ payload
      if hdr &&& nciPbf = 0 then
        let w := E.handleDataPacket cid (input.drop nciHdrSize)
          (w.map fun self => self.setInput cid.toNat none)
        if table = w.sar.connTable then
          w.map fun self =>
            self.setInput cid.toNat (some ((self.conn cid.toNat).input.getD []))
        else w.map fun self => self.setDangling
      else w.map fun self => self.setInput cid.toNat (some input)
    else if hdr &&& nciPbf ≠ 0 then
      w.map fun self =>
        self.setInput cid.toNat (some (packet.take (packetPayloadLen packet + nciHdrSize)))
    else E.handleDataPacket cid payload w
  else E.error w

/-- Handles a packet. -/
def nciSarHalHandleSegment (packet : List UInt8) (w : World ε) : World ε :=
  let mt := packet.getD 0 0 &&& nciMtMask
  if mt = nciMtDataPkt then nciSarHalHandleDataSegment E packet w
  else if mt = nciMtRspPkt ∨ mt = nciMtNtfPkt then nciSarHalHandleControlSegment E packet w
  else E.error w

/-! ### The HAL client -/

/-- The bytes start with a complete packet. -/
def startsWithPacket (bytes : List UInt8) : Bool :=
  2 < bytes.length && packetPayloadLen bytes + nciHdrSize ≤ bytes.length

/-- The HAL reports an error. -/
def nciSarHalClientError (w : World ε) : World ε := E.error w

/-- The first loop of `nciSarHalClientRead`: the packets at the start of `bytes` are handled
where they are, and the bytes that are left are returned. -/
def nciSarReadPackets : Nat → List UInt8 → World ε → List UInt8 × World ε
  | fuel + 1, bytes, w =>
      if startsWithPacket bytes then
        let packetLen := packetPayloadLen bytes + nciHdrSize
        nciSarReadPackets fuel (bytes.drop packetLen)
          (nciSarHalHandleSegment E (bytes.take packetLen) w)
      else (bytes, w)
  | 0, bytes, w => (bytes, w)

/-- The second loop of `nciSarHalClientRead`: the packets at the start of the read buffer are
handled and removed from it. -/
def nciSarReadBuffer : Nat → World ε → World ε
  | fuel + 1, w =>
      let buf := w.sar.readBuf.getD []
      if startsWithPacket buf then
        let packetLen := packetPayloadLen buf + nciHdrSize
        let w := nciSarHalHandleSegment E (buf.take packetLen) w
        nciSarReadBuffer fuel
          (w.map fun self => self.setReadBuf (self.readBuf.map (List.drop packetLen)))
      else w
  | 0, w => w

/-- The HAL has read bytes. -/
def nciSarHalClientRead (data : List UInt8) (w : World ε) : World ε :=
  let r :=
    if (w.sar.readBuf.getD []).length = 0 then nciSarReadPackets E data.length data w
    else (data, w)
  if 0 < r.1.length then
    let w := r.2.map fun self => self.setReadBuf (some (self.readBuf.getD [] ++ r.1))
    nciSarReadBuffer E (w.sar.readBuf.getD []).length w
  else r.2

end Nci
