import LibNciCore.Sar.Credits
import LibNciCore.Lib.Framing

/-!
# Reading in chunks

The layer reads a stream of bytes in chunks. Whatever the chunks are, it handles the packets
of the stream one after another, and keeps the incomplete packet the stream ends with. This
is so because the handling of a packet does not see the read buffer, as long as the client
does not call the read function of the layer.
-/

namespace Nci

/-! ### The framing of packets -/

/-- A packet has a header of three bytes, of which the last one is the length of the payload. -/
def sarFraming : Framing UInt8 where
  size l := if 2 < l.length then some (packetPayloadLen l + nciHdrSize) else none
  size_pos := by
    intro l n h
    obtain ⟨-, h⟩ := Option.ite_none_right_eq_some.mp h
    rw [← Option.some.inj h]
    apply Nat.succ_pos
  size_append := by
    intro l n m h
    obtain ⟨hlen, h⟩ := Option.ite_none_right_eq_some.mp h
    have hlen' : 2 < (l ++ m).length := by
      rw [List.length_append]
      apply Nat.lt_add_right _ hlen
    have hget : (l ++ m).getD 2 0 = l.getD 2 0 := by
      rw [List.getD_eq_getElem?_getD, List.getElem?_append_left hlen, List.getD_eq_getElem?_getD]
    rw [if_pos hlen', ← h, packetPayloadLen, hget, packetPayloadLen]

theorem split_of_startsWithPacket {bytes : List UInt8} (h : startsWithPacket bytes = true) :
  sarFraming.split bytes
    = some (bytes.take (packetPayloadLen bytes + nciHdrSize),
        bytes.drop (packetPayloadLen bytes + nciHdrSize))
  := by
  rw [startsWithPacket, Bool.and_eq_true, decide_eq_true_eq, decide_eq_true_eq] at h
  apply sarFraming.split_eq_some.mpr
  use packetPayloadLen bytes + nciHdrSize
  use if_pos h.1, h.2

theorem startsWithPacket_eq_false {bytes : List UInt8} :
  startsWithPacket bytes = false ↔ sarFraming.Incomplete bytes
  := by
  constructor
  · intro h
    rw [Framing.Incomplete, Option.eq_none_iff_forall_ne_some]
    rintro ⟨f, r⟩ hsplit
    obtain ⟨n, hn, hle, -, -⟩ := sarFraming.split_eq_some.mp hsplit
    obtain ⟨hlen, hn⟩ := Option.ite_none_right_eq_some.mp hn
    obtain rfl := Option.some.inj hn
    simp [startsWithPacket, hlen, hle] at h
  · intro h
    by_contra hstarts
    have hsplit := split_of_startsWithPacket (by simpa using hstarts)
    rw [Framing.Incomplete] at h
    simp [h] at hsplit

/-! ### The read buffer is not seen -/

section

variable {ε : Type} {E : SarEnv ε}

/-- The world with another read buffer. -/
def World.withReadBuf (w : World ε) (buf : Option (List UInt8)) : World ε :=
  w.map fun sar => sar.setReadBuf buf

/-- The client does not call the read function of the layer: its callbacks neither see nor
change the read buffer. -/
structure ReadNeutral (E : SarEnv ε) : Prop where
  error : ∀ w buf, E.error (w.withReadBuf buf) = (E.error w).withReadBuf buf
  handleResponse : ∀ gid oid payload w buf,
    E.handleResponse gid oid payload (w.withReadBuf buf)
      = (E.handleResponse gid oid payload w).withReadBuf buf
  handleNotification : ∀ gid oid payload w buf,
    E.handleNotification gid oid payload (w.withReadBuf buf)
      = (E.handleNotification gid oid payload w).withReadBuf buf
  handleDataPacket : ∀ cid payload w buf,
    E.handleDataPacket cid payload (w.withReadBuf buf)
      = (E.handleDataPacket cid payload w).withReadBuf buf

theorem ReadNeutral.handleControlPacket (hE : ReadNeutral E) (mt gid oid : UInt8)
    (payload : List UInt8) (w : World ε) (buf : Option (List UInt8)) :
  nciSarHalHandleControlPacket E mt gid oid payload (w.withReadBuf buf)
    = (nciSarHalHandleControlPacket E mt gid oid payload w).withReadBuf buf
  := by
  rw [nciSarHalHandleControlPacket, nciSarHalHandleControlPacket]
  split
  · apply hE.handleResponse
  · apply hE.handleNotification

theorem ReadNeutral.handleControlSegment (hE : ReadNeutral E) (packet : List UInt8)
    (w : World ε) (buf : Option (List UInt8)) :
  nciSarHalHandleControlSegment E packet (w.withReadBuf buf)
    = (nciSarHalHandleControlSegment E packet w).withReadBuf buf
  := by
  have hinput : ∀ (w : World ε) input,
      (w.withReadBuf buf).map (fun sar => sar.setControlIn input)
        = (w.map fun sar => sar.setControlIn input).withReadBuf buf := fun _ _ => rfl
  have hin : (w.withReadBuf buf).sar.controlIn = w.sar.controlIn := rfl
  simp only [nciSarHalHandleControlSegment, hin, hinput, hE.handleControlPacket, hE.error]
  split
  · split
    · split
      · rfl
      · rfl
    · rfl
  · split <;> rfl

theorem ReadNeutral.handleDataSegment (hE : ReadNeutral E) (packet : List UInt8)
    (w : World ε) (buf : Option (List UInt8)) :
  nciSarHalHandleDataSegment E packet (w.withReadBuf buf)
    = (nciSarHalHandleDataSegment E packet w).withReadBuf buf
  := by
  have hinput : ∀ (w : World ε) cid input,
      (w.withReadBuf buf).map (fun sar => sar.setInput cid input)
        = (w.map fun sar => sar.setInput cid input).withReadBuf buf := fun _ _ _ => rfl
  have hdangling : ∀ (w : World ε), (w.withReadBuf buf).map (fun sar => sar.setDangling)
      = (w.map fun sar => sar.setDangling).withReadBuf buf := fun _ => rfl
  have hcredits : ∀ cid credits,
      (w.withReadBuf buf).map (fun sar => nciSarTakeCredits sar cid credits)
        = (w.map fun sar => nciSarTakeCredits sar cid credits).withReadBuf buf := by
    intro cid credits
    simp only [World.withReadBuf, World.map, (passive_setReadBuf buf).takeCredits]
  have hmax : (w.withReadBuf buf).sar.maxLogicalConns = w.sar.maxLogicalConns := rfl
  have htable : ∀ w : World ε, (w.withReadBuf buf).sar.connTable = w.sar.connTable :=
    fun _ => rfl
  have hconn : ∀ w : World ε, (w.withReadBuf buf).sar.conn = w.sar.conn := fun _ => rfl
  simp only [nciSarHalHandleDataSegment, hmax, hcredits, htable, hconn, hinput, hdangling,
    hE.handleDataPacket, hE.error]
  split
  · split
    · split
      · split <;> rfl
      · rfl
    · split <;> rfl
  · rfl

/-- Handling a packet neither sees nor changes the read buffer. -/
theorem ReadNeutral.handleSegment (hE : ReadNeutral E) (packet : List UInt8)
    (w : World ε) (buf : Option (List UInt8)) :
  nciSarHalHandleSegment E packet (w.withReadBuf buf)
    = (nciSarHalHandleSegment E packet w).withReadBuf buf
  := by
  simp only [nciSarHalHandleSegment]
  split
  · apply hE.handleDataSegment
  · split
    · apply hE.handleControlSegment
    · apply hE.error

theorem withReadBuf_self (w : World ε) :
  w.withReadBuf w.sar.readBuf = w
  := rfl

/-! ### The two loops -/

/-- Packets are handled one after another. -/
def handlePackets (E : SarEnv ε) (packets : List (List UInt8)) (w : World ε) : World ε :=
  packets.foldl (fun w packet => nciSarHalHandleSegment E packet w) w

/-- The first loop handles the packets of the bytes and returns the incomplete packet they end
with; as many rounds as there are bytes are enough. -/
theorem nciSarReadPackets_eq :
  ∀ (fuel : Nat) {bytes : List UInt8} (w : World ε), bytes.length ≤ fuel →
    nciSarReadPackets E fuel bytes w
      = ((sarFraming.frames bytes).2, handlePackets E (sarFraming.frames bytes).1 w)
  | 0, bytes, w, hlen => by
      obtain rfl := List.eq_nil_of_length_eq_zero (Nat.le_zero.mp hlen)
      have hnil : sarFraming.Incomplete [] := rfl
      rw [sarFraming.frames_of_incomplete hnil]
      rfl
  | fuel + 1, bytes, w, hlen => by
      rw [nciSarReadPackets]
      by_cases hstarts : startsWithPacket bytes = true
      · have hsplit := split_of_startsWithPacket hstarts
        have hlt := sarFraming.split_length_lt hsplit
        rw [if_pos hstarts, nciSarReadPackets_eq fuel _ (by omega),
          sarFraming.frames_of_split hsplit]
        rfl
      · rw [if_neg hstarts, sarFraming.frames_of_incomplete
          (startsWithPacket_eq_false.mp (by simpa using hstarts))]
        rfl

/-- The second loop handles the packets of the read buffer and leaves the incomplete packet it
ends with; as many rounds as there are bytes are enough. -/
theorem nciSarReadBuffer_eq (hE : ReadNeutral E) :
  ∀ (fuel : Nat) {bytes : List UInt8} (w : World ε), bytes.length ≤ fuel →
    nciSarReadBuffer E fuel (w.withReadBuf (some bytes))
      = (handlePackets E (sarFraming.frames bytes).1 w).withReadBuf
          (some (sarFraming.frames bytes).2)
  | 0, bytes, w, hlen => by
      obtain rfl := List.eq_nil_of_length_eq_zero (Nat.le_zero.mp hlen)
      have hnil : sarFraming.Incomplete [] := rfl
      rw [sarFraming.frames_of_incomplete hnil]
      rfl
  | fuel + 1, bytes, w, hlen => by
      have hbuf : (w.withReadBuf (some bytes)).sar.readBuf.getD [] = bytes := rfl
      rw [nciSarReadBuffer]
      simp only [hbuf]
      by_cases hstarts : startsWithPacket bytes = true
      · have hsplit := split_of_startsWithPacket hstarts
        have hlt := sarFraming.split_length_lt hsplit
        obtain ⟨n, hn⟩ : ∃ n, n = packetPayloadLen bytes + nciHdrSize := ⟨_, rfl⟩
        rw [if_pos hstarts, ← hn, hE.handleSegment]
        rw [← hn] at hsplit hlt
        have hdrop : ((nciSarHalHandleSegment E (bytes.take n) w).withReadBuf (some bytes)).map
              (fun sar => sar.setReadBuf (sar.readBuf.map (List.drop n)))
            = (nciSarHalHandleSegment E (bytes.take n) w).withReadBuf (some (bytes.drop n)) := rfl
        rw [hdrop, nciSarReadBuffer_eq hE fuel _ (by omega), sarFraming.frames_of_split hsplit]
        rfl
      · rw [if_neg hstarts, sarFraming.frames_of_incomplete
          (startsWithPacket_eq_false.mp (by simpa using hstarts))]
        rfl

/-! ### Chunks -/

/-- The bytes that have been read and do not make up a packet yet. -/
def World.tail (w : World ε) : List UInt8 := w.sar.readBuf.getD []

/-- What there is besides the read buffer. -/
def World.rest (w : World ε) : World ε := w.withReadBuf none

theorem ReadNeutral.handlePackets (hE : ReadNeutral E) (packets : List (List UInt8))
    (w : World ε) (buf : Option (List UInt8)) :
  Nci.handlePackets E packets (w.withReadBuf buf)
    = (Nci.handlePackets E packets w).withReadBuf buf
  := by
  induction packets generalizing w with
  | nil => rfl
  | cons packet packets ih =>
      rw [Nci.handlePackets, List.foldl_cons, hE.handleSegment]
      apply ih

theorem ReadNeutral.readBuf_handlePackets (hE : ReadNeutral E) (packets : List (List UInt8))
    (w : World ε) :
  (Nci.handlePackets E packets w).sar.readBuf = w.sar.readBuf
  := by
  have h := hE.handlePackets packets w w.sar.readBuf
  rw [withReadBuf_self] at h
  rw [h]
  rfl

/-- A call of the read function handles the packets that are complete now, and keeps the
incomplete one. -/
theorem ReadNeutral.clientRead (hE : ReadNeutral E) (chunk : List UInt8) (w : World ε)
    (hw : sarFraming.Incomplete w.tail) :
  (nciSarHalClientRead E chunk w).rest
      = (Nci.handlePackets E (sarFraming.frames (w.tail ++ chunk)).1 w).rest
    ∧ (nciSarHalClientRead E chunk w).tail = (sarFraming.frames (w.tail ++ chunk)).2
  := by
  have hbuffer : ∀ (bytes : List UInt8) (w : World ε),
      nciSarReadBuffer E bytes.length (w.withReadBuf (some bytes))
        = (Nci.handlePackets E (sarFraming.frames bytes).1 w).withReadBuf
            (some (sarFraming.frames bytes).2) :=
    fun _ w => nciSarReadBuffer_eq hE _ w (Nat.le_refl _)
  by_cases hempty : (w.sar.readBuf.getD []).length = 0
  · have htail : w.tail = [] := List.eq_nil_of_length_eq_zero hempty
    have hframes := nciSarReadPackets_eq (E := E) chunk.length w (Nat.le_refl _)
    have hincomplete := sarFraming.frames_incomplete chunk
    obtain ⟨w', hw'⟩ : ∃ w', w' = Nci.handlePackets E (sarFraming.frames chunk).1 w := ⟨_, rfl⟩
    have hbuf : w'.sar.readBuf.getD [] = [] := by
      rw [hw', hE.readBuf_handlePackets]
      apply htail
    simp only [nciSarHalClientRead, if_pos hempty, hframes, htail, List.nil_append, ← hw']
    by_cases hpos : 0 < (sarFraming.frames chunk).2.length
    · have hread := hbuffer (sarFraming.frames chunk).2 w'
      rw [sarFraming.frames_of_incomplete hincomplete] at hread
      have hset : w'.map (fun sar =>
            sar.setReadBuf (some (sar.readBuf.getD [] ++ (sarFraming.frames chunk).2)))
          = w'.withReadBuf (some (sarFraming.frames chunk).2) := by
        rw [World.map, hbuf]
        rfl
      rw [if_pos hpos, hset]
      have hlen : ((w'.withReadBuf (some (sarFraming.frames chunk).2)).sar.readBuf.getD
          []).length = (sarFraming.frames chunk).2.length := rfl
      rw [hlen, hread]
      exact ⟨rfl, rfl⟩
    · have hnil : (sarFraming.frames chunk).2 = [] := by
        apply List.eq_nil_of_length_eq_zero
        omega
      rw [if_neg hpos, hnil]
      exact ⟨rfl, hbuf⟩
  · simp only [nciSarHalClientRead, if_neg hempty]
    by_cases hpos : 0 < chunk.length
    · have hread := hbuffer (w.tail ++ chunk) w
      have hset : w.map (fun sar => sar.setReadBuf (some (sar.readBuf.getD [] ++ chunk)))
          = w.withReadBuf (some (w.tail ++ chunk)) := rfl
      have hlen : ((w.withReadBuf (some (w.tail ++ chunk))).sar.readBuf.getD []).length
          = (w.tail ++ chunk).length := rfl
      rw [if_pos hpos, hset, hlen, hread]
      exact ⟨rfl, rfl⟩
    · obtain rfl : chunk = [] := by
        apply List.eq_nil_of_length_eq_zero
        omega
      rw [if_neg hpos, List.append_nil, sarFraming.frames_of_incomplete hw]
      exact ⟨rfl, rfl⟩

/-- The chunks of a stream are read one after another. -/
def readChunks (E : SarEnv ε) (chunks : List (List UInt8)) (w : World ε) : World ε :=
  chunks.foldl (fun w chunk => nciSarHalClientRead E chunk w) w

/-- Reading the chunks of a stream handles the packets of the stream one after another, and
leaves the incomplete packet that the stream ends with in the read buffer. -/
theorem ReadNeutral.readChunks (hE : ReadNeutral E) (chunks : List (List UInt8)) (w : World ε)
    (hw : sarFraming.Incomplete w.tail) :
  (Nci.readChunks E chunks w).rest
      = (Nci.handlePackets E (sarFraming.frames (w.tail ++ chunks.flatten)).1 w).rest
    ∧ (Nci.readChunks E chunks w).tail = (sarFraming.frames (w.tail ++ chunks.flatten)).2
  := by
  have hfeed : ∀ (chunks : List (List UInt8)) (w : World ε), sarFraming.Incomplete w.tail →
      ((Nci.readChunks E chunks w).rest, (Nci.readChunks E chunks w).tail)
        = chunks.foldl (sarFraming.feed fun w packet => nciSarHalHandleSegment E packet w)
            (w.rest, w.tail) := by
    intro chunks
    induction chunks with
    | nil =>
        intro w _
        rfl
    | cons chunk chunks ih =>
        intro w hw
        obtain ⟨hrest, htail⟩ := hE.clientRead chunk w hw
        have hstep := ih (nciSarHalClientRead E chunk w) (by
          rw [htail]
          apply sarFraming.frames_incomplete)
        have hhandle : (Nci.handlePackets E (sarFraming.frames (w.tail ++ chunk)).1 w).rest
            = Nci.handlePackets E (sarFraming.frames (w.tail ++ chunk)).1 w.rest :=
          (hE.handlePackets _ w none).symm
        rw [hrest, htail, hhandle] at hstep
        apply hstep
  have h := hfeed chunks w hw
  rw [sarFraming.foldl_feed _ _ _ _ hw] at h
  obtain ⟨hrest, htail⟩ := Prod.mk.inj h
  exact ⟨hrest.trans (hE.handlePackets _ w none), htail⟩

/-- For every stream and any two ways of cutting it into chunks, starting from the same state
with an incomplete packet in the read buffer, everything but the allocation of the read
buffer ends up the same. It is what handling the packets of the stream one after another
leads to. After every call the read buffer holds the incomplete packet that the stream ends
with so far. The loops of the read function end because there is no complete packet left:
that many rounds as there are bytes are enough. -/
theorem chunkInvariance (hE : ReadNeutral E) (w : World ε) (hw : sarFraming.Incomplete w.tail)
    (chunks chunks' : List (List UInt8)) (hsame : chunks.flatten = chunks'.flatten) :
  (Nci.readChunks E chunks w).rest = (Nci.readChunks E chunks' w).rest
    ∧ (Nci.readChunks E chunks w).rest
      = (Nci.handlePackets E (sarFraming.frames (w.tail ++ chunks.flatten)).1 w).rest
    ∧ (∀ read, read <+: chunks →
        (Nci.readChunks E read w).tail = (sarFraming.frames (w.tail ++ read.flatten)).2)
    ∧ (∀ (bytes : List UInt8) (w : World ε) (fuel : Nat), bytes.length ≤ fuel →
        nciSarReadPackets E fuel bytes w = nciSarReadPackets E bytes.length bytes w
          ∧ startsWithPacket (nciSarReadPackets E fuel bytes w).1 = false
          ∧ nciSarReadBuffer E fuel (w.withReadBuf (some bytes))
            = nciSarReadBuffer E bytes.length (w.withReadBuf (some bytes))
          ∧ startsWithPacket (nciSarReadBuffer E fuel (w.withReadBuf (some bytes))).tail = false)
  := by
  obtain ⟨hrest, -⟩ := hE.readChunks chunks w hw
  obtain ⟨hrest', -⟩ := hE.readChunks chunks' w hw
  constructor
  · rw [hrest, hrest', hsame]
  constructor
  · apply hrest
  constructor
  · intro read _
    apply (hE.readChunks read w hw).2
  · intro bytes w fuel hfuel
    rw [nciSarReadPackets_eq fuel w hfuel, nciSarReadPackets_eq _ w (Nat.le_refl _),
      nciSarReadBuffer_eq hE fuel w hfuel, nciSarReadBuffer_eq hE _ w (Nat.le_refl _)]
    use rfl, startsWithPacket_eq_false.mpr (sarFraming.frames_incomplete bytes), rfl
    apply startsWithPacket_eq_false.mpr (sarFraming.frames_incomplete bytes)

end

/-! ### Applications do not see the read buffer -/

section

variable {P : Call → Prop} {E : SarEnv Log}

/-- Nothing that is around the layer sees the read buffer. -/
structure Blind (E : SarEnv Log) : Prop where
  client : ReadNeutral E
  halStart : ∀ sar buf log, E.halStart (sar.setReadBuf buf) log = E.halStart sar log
  destroy : ∀ f w buf, E.destroy f (w.withReadBuf buf) = (E.destroy f w).withReadBuf buf

theorem Blind.cancelQueue (hE : Blind E) (k : QueueKey) (id : UInt32) (w : World Log)
    (buf : Option (List UInt8)) :
  nciSarCancelQueue E k id (w.withReadBuf buf)
    = ((nciSarCancelQueue E k id w).1, (nciSarCancelQueue E k id w).2.withReadBuf buf)
  := by
  have hg := passive_setReadBuf buf
  have hunlink : (w.withReadBuf buf).map (fun sar => sar.unlink id k)
      = (w.map fun sar => sar.unlink id k).withReadBuf buf := by
    simp only [World.withReadBuf, World.map, hg.unlink]
  have hfree : ∀ a (w : World Log), nciSarPacketOutFree E a (w.withReadBuf buf)
      = (nciSarPacketOutFree E a w).withReadBuf buf := by
    intro a w
    have hheap : (w.withReadBuf buf).sar.heap = w.sar.heap := rfl
    rw [nciSarPacketOutFree, nciSarPacketOutFree, hheap]
    cases (w.sar.heap a).bind NciSarPacketOut.destroy with
    | some f =>
        simp only [hE.destroy]
        rfl
    | none => rfl
  have hfound : (w.withReadBuf buf).sar.found id k = w.sar.found id k := hg.found w.sar id k
  rw [nciSarCancelQueue, nciSarCancelQueue, hfound]
  split
  · rw [hunlink, hfree]
  · rfl

theorem Blind.cancelQueues (hE : Blind E) (id : UInt32) (buf : Option (List UInt8)) :
  ∀ (ks : List QueueKey) (w : World Log), nciSarCancelQueues E id ks (w.withReadBuf buf)
    = (nciSarCancelQueues E id ks w).withReadBuf buf
  | [], _ => rfl
  | k :: ks, w => by
      rw [nciSarCancelQueues, nciSarCancelQueues, hE.cancelQueue]
      simp only
      split
      · rfl
      · apply hE.cancelQueues id buf ks

/-- A call of a function of the interface neither sees nor changes the read buffer. -/
theorem Blind.perform (hE : Blind E) {c : Call} (hc : c.Steady) (fuel : Nat) (w : World Log)
    (buf : Option (List UInt8)) :
  c.perform E fuel (w.withReadBuf buf) = (c.perform E fuel w).withReadBuf buf
  := by
  have hg := passive_setReadBuf buf
  cases c with
  | start =>
      have hstart : ∀ sar, E.halStart (sar.setReadBuf buf) = E.halStart sar := fun sar =>
        funext (hE.halStart sar buf)
      have hstarted : (w.withReadBuf buf).sar.started = w.sar.started := rfl
      rw [Call.perform, Call.perform, nciSarStart, nciSarStart, hstarted]
      split
      · rfl
      · simp only [World.withReadBuf, World.map, hstart]
        rfl
  | reset => exact hc.elim
  | setMaxLogicalConnections _ => exact hc.elim
  | setMaxControlPayloadSize max => rfl
  | setMaxDataPayloadSize max => rfl
  | setInitialCredits cid credits =>
      simp only [Call.perform, World.withReadBuf, World.map, hg.setInitialCredits]
  | addCredits cid credits =>
      simp only [Call.perform, World.withReadBuf, World.map, hg.addCredits]
  | sendCommand gid oid payload complete destroy =>
      simp only [Call.perform, World.withReadBuf, World.map, nciSarSendCommand, hg.send]
  | sendDataPacket cid payload complete destroy =>
      simp only [Call.perform, World.withReadBuf, World.map, hg.sendDataPacket]
  | cancel id =>
      have hwriting : (w.withReadBuf buf).sar.isWriting id = w.sar.isWriting id :=
        hg.isWriting w.sar id
      have hkeys : (w.withReadBuf buf).sar.keys = w.sar.keys := hg.keys w.sar
      rw [Call.perform, Call.perform, nciSarCancel, nciSarCancel, hwriting, hkeys,
        hE.cancelQueues]
      split
      · split
        · have hsame : (w.withReadBuf buf).sar.writing = w.sar.writing := rfl
          rw [hsame]
          split <;> rfl
        · rfl
      · rfl

/-- The surroundings of the layer in a run do not see the read buffer, however deep callbacks
are nested: the read function is not a function the client calls. -/
theorem App.env_blind (A : App P) (hP : ∀ c, P c → c.Steady) :
  ∀ n, Blind (A.env n)
  | 0 => by
      constructor
      · constructor <;> intros <;> rfl
      · intros
        rfl
      · intros
        rfl
  | n + 1 => by
      have hE := A.env_blind hP n
      have hcalls : ∀ (calls : List (Subtype P)) (w : World Log) buf,
          calls.foldl (fun w c => A.call (A.env n) c w) (w.withReadBuf buf)
            = (calls.foldl (fun w c => A.call (A.env n) c w) w).withReadBuf buf := by
        intro calls
        induction calls with
        | nil =>
            intros
            rfl
        | cons c calls ih =>
            intro w buf
            have hcall : A.call (A.env n) c (w.withReadBuf buf)
                = (A.call (A.env n) c w).withReadBuf buf :=
              hE.perform (hP c.1 c.2) A.fuel (w.record (.called c.1 w.sar.snapshot)) buf
            rw [List.foldl_cons, List.foldl_cons, hcall, ih]
      constructor
      · constructor
        · intro w buf
          apply hcalls _ (w.record .error)
        · intro gid oid payload w buf
          apply hcalls _ (w.record (.response gid oid payload))
        · intro gid oid payload w buf
          apply hcalls _ (w.record (.notification gid oid payload))
        · intro cid payload w buf
          apply hcalls _ (w.record (.dataPacket cid payload))
      · intros
        rfl
      · intro f w buf
        apply hcalls _ (w.record (.destroy f))

/-- A notification of five bytes arrives in one chunk, or cut inside its header and inside its
payload. -/
theorem chunkInvariance_notification :
  ∃ w w' : World Log,
    w = Nci.readChunks ((quietApp Call.Steady).env 1) [[0x61, 0x05, 2, 7, 8]]
        (World.start nciSarNew)
      ∧ w' = Nci.readChunks ((quietApp Call.Steady).env 1) [[0x61], [0x05, 2, 7], [8]]
        (World.start nciSarNew)
      ∧ w.rest = w'.rest
  := by
  have hE := ((quietApp Call.Steady).env_blind (fun _ h => h) 1).client
  exact ⟨_, _, rfl, rfl, (chunkInvariance hE (World.start nciSarNew) rfl
    [[0x61, 0x05, 2, 7, 8]] [[0x61], [0x05, 2, 7], [8]] rfl).1⟩

end

end Nci
