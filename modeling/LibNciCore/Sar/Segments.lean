import Mathlib.Algebra.GroupWithZero.Nat
import LibNciCore.Sar.Lines
import LibNciCore.Lib.Cut

/-!
# The segments of a packet

The segments of a packet that have been handed to the HAL can be read off the log. They begin
a cut of its payload under the limits that were in force when they were handed over, and when
the packet is done with they are a complete cut. This goes for every packet of less than 2³²
bytes, the position in the payload being a 32-bit number, that is not spoiled: it is not
cancelled, none of its segments fails, and it is not lost from its queue.
-/

namespace Nci

open LinkedQueue Cut

/-! ### What has been handed over -/

/-- A segment as it is handed to the HAL, and the limit on its payload at that moment. -/
structure Segment where
  limit : Nat
  bytes : List UInt8
  deriving DecidableEq, Repr

/-- A segment together with the packet it belongs to. -/
structure Handed where
  key : QueueKey
  addr : Nat
  segment : Segment
  deriving DecidableEq, Repr

/-- The limit on the payload of the segments of a queue. -/
def NciSar.payloadLimit (sar : NciSar) : QueueKey → UInt8
  | .cmd => sar.controlPayloadLimit
  | .out _ => sar.dataPayloadLimit

theorem NciSar.WF.payloadLimit_pos {sar : NciSar} (hw : sar.WF) (k : QueueKey) :
  0 < (sar.payloadLimit k).toNat
  := by
  cases k with
  | cmd =>
      apply Nat.lt_of_lt_of_le _ (UInt8.le_iff_toNat_le.mp hw.control)
      decide
  | out cid =>
      apply Nat.lt_of_lt_of_le _ (UInt8.le_iff_toNat_le.mp hw.data)
      decide

/-- The segment that is handed over. -/
def Entry.handed : Entry → Option Handed
  | .halWrite chunks _ sar =>
      sar.writing.bind fun a => (sar.heap a).map fun out =>
        ⟨out.key, a, ⟨(sar.payloadLimit out.key).toNat, chunks.flatten⟩⟩
  | _ => none

/-- The segments that have been handed over. -/
def handed (log : Log) : List Handed := log.filterMap Entry.handed

/-- The segments of a packet that have been handed over. -/
def handedOf (a : Nat) (log : Log) : List Segment :=
  ((handed log).filter fun h => h.addr = a).map Handed.segment

theorem handed_append (log : Log) (e : Entry) :
  handed (log ++ [e]) = handed log ++ e.handed.toList
  := by
  cases h : e.handed <;> simp [handed, h]

theorem handed_of_none {log : Log} {e : Entry} (h : e.handed = none) :
  handed (log ++ [e]) = handed log
  := by
  rw [handed_append, h]
  apply List.append_nil

theorem mem_handed_of_none {h : Handed} {log : Log} {e : Entry} (he : e.handed = none)
    (hh : h ∈ handed (log ++ [e])) :
  h ∈ handed log
  := by
  rw [handed_of_none he] at hh
  apply hh

theorem handedOf_of_none {a : Nat} {log : Log} {e : Entry} (h : e.handed = none) :
  handedOf a (log ++ [e]) = handedOf a log
  := by rw [handedOf, handed_of_none h, handedOf]

theorem NciSar.heap_cutSegment (sar : NciSar) (a : Nat) (out : NciSarPacketOut) :
  (sar.cutSegment a out).heap a
    = (sar.heap a).map fun _ => (out.nextSegment (sar.maxPayloadSize out)).1
  := LinkedQueue.Heap.modify_self _ _ _

/-- The segment that is taken off a packet is handed over. -/
theorem handed_halWrite {sar : NciSar} {a : Nat} {out : NciSarPacketOut}
    (ha : sar.writing = some a) (hout : sar.heap a = some out) (ok : Bool) :
  (Entry.halWrite (out.nextSegment (sar.maxPayloadSize out)).2 ok
      ((sar.cutSegment a out).setWritePending true).snapshot).handed
    = some ⟨out.key, a, ⟨(sar.payloadLimit out.key).toNat,
        (out.nextSegment (sar.maxPayloadSize out)).2.flatten⟩⟩
  := by
  have hwriting : ((sar.cutSegment a out).setWritePending true).snapshot.writing = some a := ha
  have hheap : ((sar.cutSegment a out).setWritePending true).snapshot.heap a
      = some (out.nextSegment (sar.maxPayloadSize out)).1 := by
    have hmodify := sar.heap_cutSegment a out
    rw [hout, Option.map_some] at hmodify
    apply hmodify
  have hkey : (out.nextSegment (sar.maxPayloadSize out)).1.key = out.key := by
    rw [NciSarPacketOut.key, NciSar.nextSegment_conn, NciSarPacketOut.key]
  have hlimit : ∀ k, ((sar.cutSegment a out).setWritePending true).snapshot.payloadLimit k
      = sar.payloadLimit k := by
    intro k
    cases k <;> rfl
  simp only [Entry.handed, hwriting, Option.bind_some, hheap, Option.map_some, hkey, hlimit]

theorem handedOf_of_some (a : Nat) (log : Log) {e : Entry} {h : Handed}
    (he : e.handed = some h) :
  handedOf a (log ++ [e]) = handedOf a log ++ if h.addr = a then [h.segment] else []
  := by
  rw [handedOf, handed_append, he, Option.toList_some, List.filter_append, List.map_append,
    handedOf]
  by_cases ha : h.addr = a
  · simp [ha]
  · simp [ha]

/-- A segment of a packet as it is made from a piece of its payload. -/
def Submission.segment (x : Submission) (q : Piece UInt8) : Segment :=
  ⟨q.limit, [if q.more then x.b0 ||| nciPbf else x.b0, x.b1, UInt8.ofNat q.body.length] ++ q.body⟩

/-- The segments are a complete segmentation of the packet. -/
def Submission.IsSegmentation (x : Submission) (segs : List Segment) : Prop :=
  ∃ ps, IsCut x.payload ps ∧ (∀ q ∈ ps, 0 < q.limit) ∧ segs = ps.map x.segment

/-! ### Headers -/

/-- A property of bytes holds if it holds of all 256 of them. -/
theorem forall_byte {p : UInt8 → Prop} (h : ∀ n : Fin 256, p (UInt8.ofNat n.1)) (b : UInt8) :
  p b
  := by
  have hb := h ⟨b.toNat, b.toNat_lt⟩
  rwa [UInt8.ofNat_toNat] at hb

theorem or_pbf (b : UInt8) :
  (b ||| nciPbf) = (b &&& ~~~nciPbf) ||| nciPbf
    ∧ (b ||| nciPbf) &&& ~~~nciPbf = b &&& ~~~nciPbf
    ∧ (b ||| nciPbf) &&& nciMtMask = b &&& nciMtMask
  := by
  revert b
  apply forall_byte
  decide +kernel

theorem and_not_pbf (b : UInt8) :
  (b &&& ~~~nciPbf) &&& ~~~nciPbf = b &&& ~~~nciPbf
    ∧ (b &&& ~~~nciPbf) &&& nciMtMask = b &&& nciMtMask
  := by
  revert b
  apply forall_byte
  decide +kernel

theorem cmd_b0 (gid : UInt8) :
  (nciMtCmdPkt ||| (gid &&& nciControlGidMask)) &&& ~~~nciPbf
      = nciMtCmdPkt ||| (gid &&& nciControlGidMask)
    ∧ (nciMtCmdPkt ||| (gid &&& nciControlGidMask)) &&& nciMtMask = nciMtCmdPkt
  := by
  revert gid
  apply forall_byte
  decide +kernel

theorem data_b0 (cid : UInt8) :
  (cid &&& nciDataCidMask) &&& ~~~nciPbf = cid &&& nciDataCidMask
    ∧ (cid &&& nciDataCidMask) &&& nciMtMask = nciMtDataPkt
  := by
  revert cid
  apply forall_byte
  decide +kernel

/-! ### The packet of a submission -/

/-- The packet is the submitted one, up to the flag and the length in its header. -/
structure Submission.Matches (x : Submission) (out : NciSarPacketOut) : Prop where
  key : out.key = x.key
  bytes : out.bytes = x.payload
  b0 : out.hdr.b0 &&& ~~~nciPbf = x.b0
  b1 : out.hdr.b1 = x.b1
  cmd : out.hdr.b0 &&& nciMtMask = nciMtCmdPkt ↔ x.key = .cmd

namespace Submission

variable {x : Submission} {out : NciSarPacketOut}

theorem Matches.setNext (h : x.Matches out) (n : Option Nat) :
  x.Matches (Node.setNext n out)
  := ⟨h.key, h.bytes, h.b0, h.b1, h.cmd⟩

theorem Matches.maxPayloadSize (h : x.Matches out) (sar : NciSar) :
  sar.maxPayloadSize out = sar.payloadLimit x.key
  := by
  cases hk : x.key with
  | cmd => rw [NciSar.maxPayloadSize, if_pos (h.cmd.mpr hk), NciSar.payloadLimit]
  | out cid =>
      rw [NciSar.maxPayloadSize, if_neg, NciSar.payloadLimit]
      intro hcmd
      simpa [hk] using h.cmd.mp hcmd

/-- The piece of the payload that the next segment is made from. -/
def nextPiece (out : NciSarPacketOut) (limit : UInt8) : Piece UInt8 :=
  if out.remaining.length ≤ limit.toNat then ⟨limit.toNat, false, out.remaining⟩
  else ⟨limit.toNat, true, out.remaining.take limit.toNat⟩

/-- The next segment is the last one. -/
theorem nextSegment_of_le {limit : UInt8} (h : out.remaining.length ≤ limit.toNat) :
  out.nextSegment limit
    = ({ out with
          hdr := ⟨out.hdr.b0 &&& ~~~nciPbf, out.hdr.b1, UInt8.ofNat out.remaining.length⟩
          payloadPos := out.payloadPos + UInt32.ofNat out.remaining.length },
        if out.remaining.length = 0 then
          [[out.hdr.b0 &&& ~~~nciPbf, out.hdr.b1, UInt8.ofNat out.remaining.length]]
        else
          [[out.hdr.b0 &&& ~~~nciPbf, out.hdr.b1, UInt8.ofNat out.remaining.length],
            out.remaining])
  := by
  rw [NciSarPacketOut.nextSegment]
  simp only [if_pos h]
  rfl

/-- More segments follow the next one. -/
theorem nextSegment_of_lt {limit : UInt8} (h : limit.toNat < out.remaining.length) :
  out.nextSegment limit
    = ({ out with
          hdr := ⟨out.hdr.b0 ||| nciPbf, out.hdr.b1, limit⟩
          payloadPos := out.payloadPos + limit.toUInt32 },
        [[out.hdr.b0 ||| nciPbf, out.hdr.b1, limit], out.remaining.take limit.toNat])
  := by
  rw [NciSarPacketOut.nextSegment]
  simp only [if_neg (Nat.not_le.mpr h)]
  rfl

/-- The next segment of a packet is made from the next piece of its payload. -/
theorem Matches.nextSegment (h : x.Matches out) (limit : UInt8) :
  x.Matches (out.nextSegment limit).1
    ∧ (⟨limit.toNat, (out.nextSegment limit).2.flatten⟩ : Segment)
      = x.segment (nextPiece out limit)
  := by
  have hkey : (out.nextSegment limit).1.key = x.key := by
    rw [NciSarPacketOut.key, NciSar.nextSegment_conn, ← h.key, NciSarPacketOut.key]
  by_cases hle : out.remaining.length ≤ limit.toNat
  · obtain ⟨hb0, hmt⟩ := and_not_pbf out.hdr.b0
    rw [nextSegment_of_le hle] at hkey ⊢
    constructor
    · constructor
      · apply hkey
      · apply h.bytes
      · apply hb0.trans h.b0
      · apply h.b1
      · rw [← h.cmd, ← hmt]
    · rw [segment, nextPiece, if_pos hle, ← h.b0, ← h.b1]
      by_cases hzero : out.remaining = []
      · simp [hzero]
      · simp [hzero]
  · obtain ⟨hflag, hb0, hmt⟩ := or_pbf out.hdr.b0
    have hlt := Nat.lt_of_not_le hle
    have hlen : (out.remaining.take limit.toNat).length = limit.toNat :=
      List.length_take_of_le (Nat.le_of_lt hlt)
    rw [nextSegment_of_lt hlt] at hkey ⊢
    constructor
    · constructor
      · apply hkey
      · apply h.bytes
      · apply hb0.trans h.b0
      · apply h.b1
      · rw [← h.cmd, ← hmt]
    · rw [segment, nextPiece, if_neg hle, ← h.b0, ← h.b1]
      simp [hlen, hflag]

/-- The position in the payload after the next segment, as long as the payload has less than
2³² bytes. -/
theorem pos_nextSegment (hbytes : out.bytes.length < 2 ^ 32)
    (hpos : out.payloadPos.toNat + out.remaining.length = out.bytes.length) (limit : UInt8) :
  (out.nextSegment limit).1.payloadPos.toNat
      = out.payloadPos.toNat + (nextPiece out limit).body.length
    ∧ (out.nextSegment limit).1.remaining = out.remaining.drop (nextPiece out limit).body.length
  := by
  have hremaining : ∀ n : UInt32, (out.payloadPos + n).toNat = out.payloadPos.toNat + n.toNat →
      out.bytes.drop (out.payloadPos + n).toNat = out.remaining.drop n.toNat := by
    intro n hn
    rw [hn, NciSarPacketOut.remaining, List.drop_drop]
  by_cases hle : out.remaining.length ≤ limit.toNat
  · have hn : (UInt32.ofNat out.remaining.length).toNat = out.remaining.length := by
      apply UInt32.toNat_ofNat_of_lt'
      apply Nat.lt_of_le_of_lt _ hbytes
      omega
    have hadd : (out.payloadPos + UInt32.ofNat out.remaining.length).toNat
        = out.payloadPos.toNat + out.remaining.length := by
      rw [UInt32.toNat_add, hn, Nat.mod_eq_of_lt (by omega)]
    have hdrop := hremaining (UInt32.ofNat out.remaining.length) (by rw [hadd, hn])
    rw [hn] at hdrop
    rw [nextSegment_of_le hle, nextPiece, if_pos hle]
    use hadd, hdrop
  · have hlt := Nat.lt_of_not_le hle
    have hlen : (out.remaining.take limit.toNat).length = limit.toNat :=
      List.length_take_of_le (Nat.le_of_lt hlt)
    have hadd : (out.payloadPos + limit.toUInt32).toNat = out.payloadPos.toNat + limit.toNat := by
      rw [UInt32.toNat_add, UInt8.toNat_toUInt32, Nat.mod_eq_of_lt (by omega)]
    have hdrop := hremaining limit.toUInt32 (by rw [hadd, UInt8.toNat_toUInt32])
    rw [UInt8.toNat_toUInt32] at hdrop
    rw [nextSegment_of_lt hlt, nextPiece, if_neg hle]
    simp only [hlen]
    use hadd, hdrop

/-- Taking a segment off a packet goes on with the cut of its payload. -/
theorem Matches.advance (h : x.Matches out) (hlen : x.payload.length < 2 ^ 32)
    {ps : List (Piece UInt8)} (hpos : out.payloadPos.toNat = (bodies ps).length)
    (hbegins : Begins x.payload ps out.remaining) (limit : UInt8) :
  (out.nextSegment limit).1.payloadPos.toNat = (bodies (ps ++ [nextPiece out limit])).length
    ∧ (Begins x.payload (ps ++ [nextPiece out limit]) (out.nextSegment limit).1.remaining
          ∧ (out.nextSegment limit).1.remaining ≠ []
        ∨ IsCut x.payload (ps ++ [nextPiece out limit]))
  := by
  have hbodies := hbegins.bodies_append
  obtain ⟨hpos', hremaining⟩ := pos_nextSegment (by rw [h.bytes]; apply hlen)
    (by rw [h.bytes, ← hbodies, List.length_append, hpos]) limit
  constructor
  · rw [hpos', hpos, bodies_append, List.length_append, bodies_cons, bodies_nil, List.append_nil]
  · by_cases hle : out.remaining.length ≤ limit.toNat
    · right
      rw [nextPiece, if_pos hle]
      apply hbegins.finish hle
    · left
      have hlt := Nat.lt_of_not_le hle
      have hq : nextPiece out limit = ⟨limit.toNat, true, out.remaining.take limit.toNat⟩ :=
        if_neg hle
      rw [hremaining, hq, List.length_take_of_le (Nat.le_of_lt hlt)]
      use hbegins.snoc hlt
      intro hnil
      apply hle (List.drop_eq_nil_iff.mp hnil)

end Submission

/-! ### The phases of a packet -/

/-- A segment of the packet has been handed to the HAL and is not written yet. -/
def NciSar.Busy (sar : NciSar) (a : Nat) : Prop :=
  sar.writing = some a ∧ sar.writePending = true

/-- The packet of a submission, of which some pieces have been cut off. -/
structure Submission.At (x : Submission) (sar : NciSar) (ps : List (Piece UInt8))
    (out : NciSarPacketOut) : Prop where
  packet : sar.packet x.addr = some out
  same : x.Matches out
  pos : out.payloadPos.toNat = (bodies ps).length

/-- How far a packet has got: it is underway, its last segment is being written, or it is
done with. -/
inductive Submission.Phase (x : Submission) (sar : NciSar) (ps : List (Piece UInt8)) : Prop
  | underway {out : NciSarPacketOut} : x.addr ∈ sar.line x.key → x.At sar ps out →
      Begins x.payload ps out.remaining → (sar.Busy x.addr → out.remaining ≠ []) → Phase x sar ps
  | ending {out : NciSarPacketOut} : sar.Busy x.addr → x.addr ∈ sar.line x.key →
      x.At sar ps out → IsCut x.payload ps → Phase x sar ps
  | finished : (∀ k, x.addr ∉ sar.line k) → IsCut x.payload ps → Phase x sar ps

/-- The segments of the packet that have been handed over are those of its phase. -/
def Submission.Kept (x : Submission) (w : World Log) : Prop :=
  x.addr < w.sar.nextAddr ∧ ∃ ps, handedOf x.addr w.env = ps.map x.segment
    ∧ (∀ q ∈ ps, 0 < q.limit) ∧ x.Phase w.sar ps

/-- The packet is cancelled or lost, or a segment of it fails. A packet is lost when another
one is sent while it waits in a queue without last pointer. -/
def Entry.Spoils (x : Submission) : Entry → Prop
  | .called c sar => c.cancelled sar = some (x.key, x.addr)
      ∨ (∃ y, c.accepted sar = some y ∧ y.key = x.key) ∧ x.addr ∈ sar.queued x.key
        ∧ (sar.queue x.key).last = none
  | .completed ok sar => ok = false ∧ sar.writing = some x.addr
  | .halStart ok sar => ok = false ∧ sar.writing = some x.addr
  | .halWrite _ ok sar => ok = false ∧ sar.writing = some x.addr
  | _ => False

namespace Submission

variable {x : Submission} {sar sar' : NciSar} {ps : List (Piece UInt8)}

/-- A packet is done when all of its pieces have been cut off. -/
theorem At.isDoneAt {out : NciSarPacketOut} (h : x.At sar ps out) :
  sar.isDoneAt x.addr = decide ((bodies ps).length = x.payload.length)
  := by
  obtain ⟨y, hy, rfl⟩ := Option.map_eq_some_iff.mp h.packet
  have hbytes : y.bytes = x.payload := h.same.bytes
  have hpos : y.payloadPos.toNat = (bodies ps).length := h.pos
  rw [NciSar.isDoneAt, hy, Option.any_some, NciSarPacketOut.isDone, hbytes, hpos, beq_eq_decide]
  simp only [eq_comm]

/-- A packet stays in its phase as long as it stays in its line and only its completion
function changes. -/
theorem Phase.frame (h : x.Phase sar ps)
    (hline : x.addr ∈ sar.line x.key → x.addr ∈ sar'.line x.key)
    (hnot : ∀ k, x.addr ∈ sar'.line k → x.addr ∈ sar.line k)
    (hpacket : x.addr ∈ sar.line x.key → ∀ out, sar.packet x.addr = some out →
      ∃ c, sar'.packet x.addr = some { out with complete := c })
    (hbusy : sar'.Busy x.addr ↔ sar.Busy x.addr) :
  x.Phase sar' ps
  := by
  have hat : ∀ {out}, x.addr ∈ sar.line x.key → x.At sar ps out →
      ∃ c, x.At sar' ps { out with complete := c } := by
    intro out hmem hout
    obtain ⟨c, hc⟩ := hpacket hmem out hout.packet
    use c
    constructor
    · apply hc
    · obtain ⟨hkey, hbytes, hb0, hb1, hcmd⟩ := hout.same
      constructor
      · apply hkey
      · apply hbytes
      · apply hb0
      · apply hb1
      · apply hcmd
    · apply hout.pos
  cases h with
  | underway hmem hout hbegins hmore =>
      obtain ⟨c, hc⟩ := hat hmem hout
      apply Phase.underway (hline hmem) hc hbegins
      intro hb
      apply hmore (hbusy.mp hb)
  | ending hb hmem hout hcut =>
      obtain ⟨c, hc⟩ := hat hmem hout
      apply Phase.ending (hbusy.mpr hb) (hline hmem) hc hcut
  | finished hmem hcut =>
      apply Phase.finished _ hcut
      intro k hmem'
      apply hmem k (hnot k hmem')

theorem Phase.of_sameLines (h : x.Phase sar ps) (hs : NciSar.SameLines sar sar')
    (hbusy : sar'.Busy x.addr ↔ sar.Busy x.addr) :
  x.Phase sar' ps
  := by
  apply h.frame
  · rw [hs.line]
    apply id
  · intro k
    rw [hs.line]
    apply id
  · intro _ out hout
    use out.complete
    rw [hs.packet, hout]
  · apply hbusy

theorem Phase.of_sameQueues (h : x.Phase sar ps) (hs : NciSar.SameQueues sar sar')
    (hp : sar'.writePending = sar.writePending) :
  x.Phase sar' ps
  := by
  apply h.of_sameLines hs.sameLines
  rw [NciSar.Busy, NciSar.Busy, hs.writing, hp]

end Submission

/-! ### Snapshots -/

namespace NciSar

variable (sar : NciSar)

theorem sameQueues_snapshot :
  SameQueues sar sar.snapshot
  := by apply sameQueues_of_fields <;> rfl

theorem sameQueues_receivedEffect (packet : List UInt8) :
  SameQueues sar (sar.receivedEffect packet)
  := by
  rw [receivedEffect]
  split
  · apply sameQueues_takeCredits
  · apply sameQueues_of_fields <;> rfl

theorem sameQueues_setInput (cid : Nat) (input : Option (List UInt8)) :
  SameQueues sar (sar.setInput cid input)
  := by
  apply sameQueues_modifyConn
  rfl

theorem accepted_snapshot (c : Call) :
  c.accepted sar.snapshot = c.accepted sar
  := by cases c <;> rfl

theorem cancelled_snapshot (c : Call) :
  c.cancelled sar.snapshot = c.cancelled sar
  := by
  have hg := passive_setReadBuf none
  cases c with
  | cancel id =>
      rw [Call.cancelled, Call.cancelled, cancelTarget, cancelTarget, findPacket, findPacket,
        snapshot, hg.keys, hg.isWriting]
      simp only [hg.found]
  | _ => rfl

end NciSar

/-! ### Addresses -/

theorem Call.nextAddr_effect (sar : NciSar) (c : Call) :
  sar.nextAddr ≤ (c.effect sar).nextAddr
  := by
  have hsend : ∀ k conn b0 b1 payload complete destroy,
      sar.nextAddr ≤ (nciSarSend sar k conn b0 b1 payload complete destroy).2.nextAddr := by
    intro k conn b0 b1 payload complete destroy
    rw [nciSarSend]
    simp only
    rw [(NciSar.sameQueues_scheduleWrite _).nextAddr]
    cases k <;> apply Nat.le_succ
  cases c with
  | setInitialCredits cid credits =>
      simp only [Call.effect, nciSarSetInitialCredits]
      split <;> apply Nat.le_refl
  | addCredits cid credits =>
      simp only [Call.effect, nciSarAddCredits]
      split
      · apply Nat.le_of_eq (NciSar.sameQueues_takeCredits _ _ _).nextAddr.symm
      · apply Nat.le_refl
  | sendCommand gid oid payload complete destroy => apply hsend
  | sendDataPacket cid payload complete destroy =>
      simp only [Call.effect, nciSarSendDataPacket]
      split
      · apply hsend
      · apply Nat.le_refl
  | cancel id =>
      simp only [Call.effect, NciSar.cancelEffect]
      split
      · split <;> apply Nat.le_refl
      · split
        · rename_i k a h
          cases k <;> apply Nat.le_refl
        · apply Nat.le_refl
  | _ => apply Nat.le_refl

theorem Inner.nextAddr_le {P : Call → Prop} {w w' : World Log} (h : Inner P w w') :
  w.sar.nextAddr ≤ w'.sar.nextAddr
  := by
  cases h with
  | called _ => apply Call.nextAddr_effect
  | _ => apply Nat.le_refl

/-! ### Steps -/

namespace Submission

variable {P : Call → Prop} {x : Submission} {sar sar' : NciSar} {w w' : World Log}
  {ps : List (Piece UInt8)}

/-- A call that does not cancel a packet and does not lose it leaves it in its phase. -/
theorem Phase.effect (h : x.Phase sar ps) (hw : sar.WF) (hlt : x.addr < sar.nextAddr) {c : Call}
    (hs : ¬ (Entry.called c sar.snapshot).Spoils x) :
  x.Phase (c.effect sar) ps
  := by
  obtain ⟨hpending, hwriting⟩ := Call.fields_effect sar c
  have hbusy : (c.effect sar).Busy x.addr ↔ sar.Busy x.addr := by
    rw [NciSar.Busy, NciSar.Busy, hpending, hwriting]
  have hsnapshot := sar.sameQueues_snapshot
  simp only [Entry.Spoils, sar.accepted_snapshot, hsnapshot.queued, hsnapshot.queue] at hs
  obtain ⟨hcancel, hlost⟩ := not_or.mp hs
  rcases Call.effect_cases hw c with ⟨-, -, hsame⟩
    | ⟨y, payload, complete, destroy, hy, -, -, -, heq⟩
    | ⟨a, -, -, ha, heq⟩ | ⟨id, k, a, -, hc, -, hmem, heq, hwf, hl⟩
  · apply h.of_sameQueues hsame hpending
  · obtain ⟨-, hl, -⟩ := hw.send y.key y.b0 y.b1 payload complete destroy
    rw [← heq] at hl
    have hne : x.addr ≠ sar.nextAddr := Nat.ne_of_lt hlt
    have hline : ∀ k, (c.effect sar).line k = _ := fun k =>
      (congrArg (fun s : Lists => s.line k) hl).trans
        (Lists.line_append hw.writing_ne_nextAddr _ _ k)
    apply h.frame
    · intro hmem
      rw [hline]
      by_cases hkey : x.key = y.key
      · rw [if_pos hkey, ← hkey]
        rcases List.mem_append.mp hmem with hheld | hqueued
        · apply List.mem_append_left _ (List.mem_append_left _ hheld)
        · rw [if_neg fun hlast => hlost ⟨⟨y, hy, hkey.symm⟩, hqueued, hlast⟩]
          apply List.mem_append_left _ (List.mem_append_right _ hqueued)
      · rw [if_neg hkey]
        apply hmem
    · intro k hmem
      rw [hline] at hmem
      by_cases hkey : k = y.key
      · rw [if_pos hkey, ← hkey] at hmem
        rcases List.mem_append.mp hmem with hmem | hmem
        · apply List.mem_append.mpr
          apply (List.mem_append.mp hmem).imp_right
          intro hmem
          split at hmem
          · simp at hmem
          · apply hmem
        · apply absurd (List.mem_singleton.mp hmem) hne
      · rw [if_neg hkey] at hmem
        apply hmem
    · intro _ out hout
      use out.complete
      have hpacket := congrFun (congrArg Lists.packet hl) x.addr
      simp only [Lists.append, Function.update_of_ne hne, NciSar.lists_nextAddr,
        NciSar.lists_packet, hout] at hpacket
      apply hpacket
    · apply hbusy
  · obtain ⟨-, hl⟩ := hw.modifyPacket a (f := fun out => { out with complete := none })
      (fun _ => rfl) (fun _ => rfl) (fun _ _ => rfl)
    rw [← heq] at hl
    have hline : ∀ k, (c.effect sar).line k = sar.line k := by
      intro k
      rw [NciSar.line, hl, Lists.line_modify]
      · rfl
      · intro _
        rfl
    apply h.frame
    · rw [hline]
      apply id
    · intro k
      rw [hline]
      apply id
    · intro _ out hout
      have hpacket := congrFun (congrArg Lists.packet hl) x.addr
      by_cases hxa : x.addr = a
      · use none
        rw [← hxa] at hpacket
        simp only [Lists.modify, Function.update_self, NciSar.lists_packet, hout,
          Option.map_some] at hpacket
        apply hpacket
      · use out.complete
        simp only [Lists.modify, Function.update_of_ne hxa, NciSar.lists_packet, hout]
          at hpacket
        apply hpacket
    · apply hbusy
  · have hnotWriting : sar.lists.writing ≠ some a := fun ha => (hw.writing a ha).2 k hmem
    have hline : ∀ k', (c.effect sar).line k' = _ := fun k' =>
      (congrArg (fun s : Lists => s.line k') (heq ▸ hl)).trans
        (Lists.line_remove hnotWriting k')
    apply h.frame
    · intro hmem'
      rw [hline]
      by_cases hkey : x.key = k
      · have hne : x.addr ≠ a := by
          rintro rfl
          apply hcancel
          rw [hkey, sar.cancelled_snapshot, hc]
        rw [if_pos hkey, List.mem_erase_of_ne hne, ← hkey]
        apply hmem'
      · rw [if_neg hkey]
        apply hmem'
    · intro k' hmem'
      rw [hline] at hmem'
      by_cases hkey : k' = k
      · rw [if_pos hkey] at hmem'
        rw [hkey]
        apply List.mem_of_mem_erase hmem'
      · rw [if_neg hkey] at hmem'
        apply hmem'
    · intro _ out hout
      use out.complete
      rw [heq]
      apply (congrFun (congrArg Lists.packet hl) x.addr).trans hout
    · apply hbusy

/-- A packet that is not being written stays in its phase as long as the queues stay the
same. -/
theorem Phase.unwritten (h : x.Phase sar ps) (hw : sar.writing ≠ some x.addr)
    (hw' : sar'.writing ≠ some x.addr) (hq : ∀ k, sar'.queued k = sar.queued k)
    (hp : sar'.packet x.addr = sar.packet x.addr) :
  x.Phase sar' ps
  := by
  have hline : ∀ k, x.addr ∈ sar'.line k ↔ x.addr ∈ sar.line k := by
    intro k
    rw [NciSar.mem_line_of_ne hw, NciSar.mem_line_of_ne hw', hq]
  apply h.frame
  · apply (hline x.key).mpr
  · intro k
    apply (hline k).mp
  · intro _ out hout
    use out.complete
    rw [hp, hout]
  · constructor
    · intro hb
      apply absurd hb.1 hw'
    · intro hb
      apply absurd hb.1 hw

/-- A packet is kept if the log has no more segments of it and it stays in its phase. -/
theorem Kept.of_phase (h : x.Kept w) (hlog : handedOf x.addr w'.env = handedOf x.addr w.env)
    (hle : w.sar.nextAddr ≤ w'.sar.nextAddr)
    (hphase : x.addr < w.sar.nextAddr → ∀ ps, x.Phase w.sar ps → x.Phase w'.sar ps) :
  x.Kept w'
  := by
  obtain ⟨hlt, ps, hps, hpos, hx⟩ := h
  use Nat.lt_of_lt_of_le hlt hle, ps
  rw [hlog]
  use hps, hpos
  apply hphase hlt ps hx

/-- What happens in a callback keeps a packet that is not spoiled. -/
theorem Kept.inner (h : x.Kept w) (hstep : Inner P w w') (hw : w.sar.Sound)
    (hs : ∀ e ∈ w'.env, ¬ e.Spoils x) :
  x.Kept w'
  := by
  obtain ⟨hpending, hwriting⟩ := hstep.fields
  have hle := hstep.nextAddr_le
  have hbusy : w'.sar.Busy x.addr ↔ w.sar.Busy x.addr := by
    rw [NciSar.Busy, NciSar.Busy, hpending, hwriting]
  apply h.of_phase _ hle
  · intro hlt ps hx
    cases hstep with
    | note _ => apply hx
    | started ok sar =>
        apply hx.of_sameQueues
        · apply NciSar.sameQueues_of_fields <;> rfl
        · rfl
    | @called c hc =>
        apply hx.effect hw.wf hlt
        apply hs
        apply List.mem_append_right
        apply List.mem_singleton_self
    | @freed a hd =>
        obtain ⟨-, hl⟩ := hw.wf.free hd.2.1 hd.2.2
        have hline : ∀ k, (w.sar.dealloc a).line k = w.sar.line k := fun k =>
          (congrArg (fun s : Lists => s.line k) hl).trans (Lists.line_free hd.2.2 k)
        apply hx.frame
        · simp only [World.map, hline]
          apply id
        · intro k
          simp only [World.map, hline]
          apply id
        · intro hmem out hout
          have hne : x.addr ≠ a := by
            rintro heq
            rw [heq] at hmem
            apply hd.not_mem_line x.key hmem
          use out.complete
          have hpacket := congrFun (congrArg Lists.packet hl) x.addr
          simp only [Lists.free, Function.update_of_ne hne, NciSar.lists_packet, hout] at hpacket
          apply hpacket
        · apply hbusy
  · cases hstep with
    | @note e he =>
        apply handedOf_of_none
        cases e <;> first | rfl | exact he.elim
    | started _ _ => apply handedOf_of_none rfl
    | called _ => apply handedOf_of_none rfl
    | freed _ => rfl

/-- What has been handed over of a packet is the beginning of a complete segmentation. -/
theorem Kept.exists_isSegmentation (h : x.Kept w) :
  ∃ segs, x.IsSegmentation segs ∧ handedOf x.addr w.env <+: segs
  := by
  obtain ⟨-, ps, hps, hpos, hphase⟩ := h
  have hcut : IsCut x.payload ps → ∃ segs, x.IsSegmentation segs
      ∧ handedOf x.addr w.env <+: segs := by
    intro hcut
    use ps.map x.segment
    constructor
    · use ps, hcut, hpos
    · simp [hps]
  cases hphase with
  | @underway out _ _ hbegins _ =>
      obtain ⟨qs, hqs, hlimit⟩ := exists_isCut Nat.one_pos out.remaining
      use (ps ++ qs).map x.segment
      constructor
      · use ps ++ qs, hbegins.append hqs
        constructor
        · intro q hq
          rcases List.mem_append.mp hq with hq | hq
          · apply hpos q hq
          · rw [hlimit q hq]
            apply Nat.one_pos
        · rfl
      · rw [hps, List.map_append]
        apply List.prefix_append
  | ending _ _ _ hc => apply hcut hc
  | finished _ hc => apply hcut hc

/-- No segment of a packet that waits at the start of its payload has been handed over. -/
theorem Kept.handedOf_eq_nil (h : x.Kept w) (hw : w.sar.writing ≠ some x.addr) {k : QueueKey}
    (hmem : x.addr ∈ w.sar.line k)
    (hpos : ∀ out, w.sar.packet x.addr = some out → out.payloadPos = 0) :
  handedOf x.addr w.env = []
  := by
  obtain ⟨-, ps, hps, hlimit, hphase⟩ := h
  cases hphase with
  | underway _ hat hbegins _ =>
      have hzero := hat.pos
      rw [hpos _ hat.packet] at hzero
      cases ps with
      | nil => apply hps
      | cons q ps =>
          have hfull := (hbegins.full q List.mem_cons_self).2
          have hq := hlimit q List.mem_cons_self
          simp only [UInt32.toNat_zero, bodies_cons, List.length_append] at hzero
          omega
  | ending hb _ _ _ => apply absurd hb.1 hw
  | finished hnot _ => apply absurd hmem (hnot k)

/-- The packet a segment of which is handed over is kept. -/
theorem Kept.cut {a : Nat} {out : NciSarPacketOut} (h : x.Kept w) (hw : w.sar.WF)
    (hlen : x.payload.length < 2 ^ 32) (hp : w.sar.writePending = false)
    (ha : w.sar.select.writing = some a) (hout : w.sar.select.heap a = some out)
    (hx : x.addr = a) :
  x.Kept ((w.map fun sar => ((sar.select.cutSegment a out).setWritePending true).setWriting
      (some a)).record
    (.halWrite (out.nextSegment (w.sar.select.maxPayloadSize out)).2 true
      ((w.sar.select.cutSegment a out).setWritePending true).snapshot))
  := by
  subst hx
  obtain ⟨hlt, ps, hps, hpos, hphase⟩ := h
  have hwf := hw.select.2
  have hlines := hw.sameLines_select
  obtain ⟨sar', hsar'⟩ : ∃ sar', sar' = ((w.sar.select.cutSegment x.addr out).setWritePending
      true).setWriting (some x.addr) := ⟨_, rfl⟩
  have hsame : NciSar.SameQueues (w.sar.select.cutSegment x.addr out) sar' := by
    rw [hsar']
    apply NciSar.sameQueues_of_fields
    · rfl
    · rfl
    · rfl
    · rfl
    · rfl
    · apply ha.symm
  have hline : ∀ k, sar'.line k = w.sar.line k := by
    intro k
    rw [hsame.line, hwf.line_cutSegment hout, hlines.line]
  have hbusy : sar'.Busy x.addr := by
    rw [hsar']
    exact ⟨rfl, rfl⟩
  cases hphase with
  | finished hmem _ =>
      obtain ⟨⟨k, hk⟩, -⟩ := hwf.writing _ ha
      apply absurd (hwf.mem_line.mpr (Or.inr ⟨ha, hk⟩))
      rw [hlines.line]
      apply hmem
  | ending hb _ _ _ => simp [NciSar.Busy, hp] at hb
  | @underway out₀ hmem hat hbegins _ =>
      have hout₀ : Node.setNext none out = out₀ := by
        have hpacket := hlines.packet x.addr
        rw [hat.packet, NciSar.packet, hout] at hpacket
        apply Option.some.inj hpacket
      have hmatches := hat.same
      have hatpos := hat.pos
      rw [← hout₀] at hmatches hatpos hbegins
      have hmatches : x.Matches out := hmatches.setNext out.next
      obtain ⟨limit, hlim⟩ : ∃ limit, limit = w.sar.select.payloadLimit x.key := ⟨_, rfl⟩
      have hpositive : 0 < limit.toNat := hlim ▸ hwf.payloadLimit_pos x.key
      have hmax : w.sar.select.maxPayloadSize out = limit := by
        rw [hmatches.maxPayloadSize, hlim]
      obtain ⟨hmatches', hsegment⟩ := hmatches.nextSegment limit
      obtain ⟨hpos', hcases⟩ := hmatches.advance hlen hatpos hbegins limit
      have hat' : x.At sar' (ps ++ [nextPiece out limit])
          (Node.setNext none (out.nextSegment limit).1) := by
        constructor
        · rw [hsame.packet, NciSar.packet, NciSar.heap_cutSegment, hmax, hout]
          rfl
        · apply hmatches'.setNext
        · apply hpos'
      constructor
      · apply Nat.lt_of_lt_of_le hlt
        apply Nat.le_of_eq hlines.nextAddr.symm
      · use ps ++ [nextPiece out limit]
        constructor
        · have hhanded := handed_halWrite ha hout true
          rw [hmatches.key, ← hlim] at hhanded
          have hof := handedOf_of_some x.addr w.env hhanded
          rw [if_pos rfl, hps, hmax, hsegment] at hof
          rw [List.map_append, List.map_singleton, ← hof, hmax]
          rfl
        constructor
        · intro q hq
          rcases List.mem_append.mp hq with hq | hq
          · apply hpos q hq
          · obtain rfl : q = nextPiece out limit := by simpa using hq
            rw [nextPiece]
            split <;> apply hpositive
        · simp only [World.map, World.record, ← hsar']
          rcases hcases with ⟨hbegins', hne⟩ | hcut
          · apply Phase.underway ((hline _).symm ▸ hmem) hat' hbegins'
            intro _
            apply hne
          · apply Phase.ending hbusy ((hline _).symm ▸ hmem) hat' hcut

/-- Other packets are kept when a segment is handed over, or is to be handed over and is
not. -/
theorem Kept.other {a : Nat} {out : NciSarPacketOut} (h : x.Kept w) (hw : w.sar.WF)
    (hp : w.sar.writePending = false) (ha : w.sar.select.writing = some a)
    (hout : w.sar.select.heap a = some out) (hx : x.addr ≠ a)
    (hq : ∀ k, w'.sar.queued k = (w.sar.select.cutSegment a out).queued k)
    (hpacket : w'.sar.packet = (w.sar.select.cutSegment a out).packet)
    (hwriting : w'.sar.writing ≠ some x.addr)
    (hlog : handedOf x.addr w'.env = handedOf x.addr w.env)
    (hnext : w'.sar.nextAddr = w.sar.select.nextAddr) :
  x.Kept w'
  := by
  have hlines := hw.sameLines_select
  obtain ⟨-, hl⟩ := hw.select.2.cutSegment hout
  apply h.of_phase hlog
  · apply Nat.le_of_eq
    rw [hnext, hlines.nextAddr]
  · intro _ ps hphase
    have hselect : x.Phase w.sar.select ps := by
      apply hphase.of_sameLines hlines
      simp [NciSar.Busy, NciSar.writePending_select, hp]
    apply hselect.unwritten _ hwriting
    · intro k
      rw [hq]
      apply congrFun (congrArg Lists.queued hl) k
    · rw [hpacket]
      have hpacket' := congrFun (congrArg Lists.packet hl) x.addr
      simp only [Lists.modify, Function.update_of_ne hx] at hpacket'
      apply hpacket'
    · rw [ha]
      intro heq
      apply hx (Option.some.inj heq).symm

/-- A step keeps a packet that is not spoiled. -/
theorem Kept.step (h : x.Kept w) (hstep : Step P w w') (hw : w.sar.Sound)
    (hlen : x.payload.length < 2 ^ 32) (hs : ∀ e ∈ w'.env, ¬ e.Spoils x) :
  x.Kept w'
  := by
  have hsame : ∀ {f : NciSar → NciSar} {log : Log}, NciSar.SameQueues w.sar (f w.sar) →
      (f w.sar).writePending = w.sar.writePending → handed log = handed w.env →
      x.Kept ⟨f w.sar, log⟩ := by
    intro f log hsame hpending hlog
    apply h.of_phase
    · rw [handedOf, handedOf, hlog]
    · apply Nat.le_of_eq hsame.nextAddr.symm
    · intro _ ps hphase
      apply hphase.of_sameQueues hsame hpending
  cases hstep with
  | inner hinner => apply h.inner hinner hw hs
  | received packet =>
      apply hsame (f := fun sar => sar.receivedEffect packet)
      · apply w.sar.sameQueues_receivedEffect
      · apply (NciSar.fields_receivedEffect _ _).1
      · apply handed_of_none rfl
  | controlInput input =>
      apply hsame (f := fun sar => sar.setControlIn input)
      · apply NciSar.sameQueues_of_fields <;> rfl
      · rfl
      · rfl
  | input cid input =>
      apply hsame (f := fun sar => sar.setInput cid input)
      · apply w.sar.sameQueues_setInput
      · rfl
      · rfl
  | unscheduled =>
      apply hsame (f := fun sar => sar.setStartWriteId false)
      · apply NciSar.sameQueues_of_fields <;> rfl
      · rfl
      · rfl
  | scheduled =>
      apply hsame (f := nciSarScheduleWrite)
      · apply NciSar.sameQueues_scheduleWrite
      · apply (NciSar.fields_scheduleWrite _).1
      · rfl
  | attempted hp _ hnone =>
      have hlines := hw.wf.sameLines_select
      apply h.of_phase
      · rfl
      · apply Nat.le_of_eq hlines.nextAddr.symm
      · intro _ ps hphase
        apply hphase.of_sameLines hlines
        simp [NciSar.Busy, NciSar.writePending_select, hp]
  | @handed a out ok hp _ ha hout =>
      by_cases hx : x.addr = a
      · cases ok with
        | true => apply h.cut hw.wf hlen hp ha hout hx
        | false =>
            apply absurd _ (hs _ (List.mem_append_right _ (List.mem_singleton_self _)))
            use rfl
            rw [hx]
            apply ha
      · apply h.other hw.wf hp ha hout hx
        · intro k
          cases k <;> rfl
        · rfl
        · cases ok with
          | true =>
              intro heq
              apply hx (Option.some.inj heq).symm
          | false => simp [World.map, World.record, NciSar.setWriting]
        · rw [World.record, handedOf_of_some _ _ (handed_halWrite ha hout ok),
            if_neg (Ne.symm hx), List.append_nil]
          rfl
        · rfl
  | @notStarted a out hp _ ha hout =>
      have hx : x.addr ≠ a := by
        intro hx
        apply hs _ (List.mem_append_right _ (List.mem_singleton_self _))
        use rfl
        rw [hx]
        apply ha
      apply h.other hw.wf hp ha hout hx
      · intro k
        cases k <;> rfl
      · rfl
      · simp [World.map, World.record, NciSar.setWriting]
      · apply handedOf_of_none rfl
      · rfl

/-- The end of a write keeps a packet that is not spoiled. -/
theorem Kept.completed (h : x.Kept w) (hc : Completed w w') (hw : w.sar.Sound)
    (hs : ∀ e ∈ w'.env, ¬ e.Spoils x) :
  x.Kept w'
  := by
  obtain @⟨a, ok, hp, ha⟩ := hc
  apply h.of_phase
  · apply handedOf_of_none rfl
  · apply Nat.le_refl
  · intro _ ps hphase
    have hqueued : ∀ k, (w.sar.completedEffect ok a).queued k = w.sar.queued k := by
      intro k
      cases k <;> rfl
    have hpacket : (w.sar.completedEffect ok a).packet = w.sar.packet := rfl
    have hpending : ∀ b, ¬ (w.sar.completedEffect ok a).Busy b := by
      rintro b ⟨-, hb⟩
      simp [NciSar.completedEffect, NciSar.setWriting, NciSar.setWritePending] at hb
    by_cases hx : x.addr = a
    · subst hx
      obtain rfl : ok = true := by
        by_contra hok
        apply hs _ (List.mem_append_right _ (List.mem_singleton_self _))
        use by simpa using hok
        apply ha
      obtain ⟨⟨k, hk⟩, hnot⟩ := hw.wf.writing _ ha
      cases hphase with
      | @underway out hmem hat hbegins hmore =>
          have hdone : w.sar.isDoneAt x.addr = false := by
            rw [hat.isDoneAt, decide_eq_false_iff_not]
            intro hlength
            apply hmore ⟨ha, hp⟩
            have hlen := congrArg List.length hbegins.bodies_append
            rw [List.length_append, hlength] at hlen
            apply List.eq_nil_of_length_eq_zero
            omega
          have hwriting : (w.sar.completedEffect true x.addr).writing = w.sar.writing := by
            simp [NciSar.completedEffect, NciSar.setWriting, hdone, ha]
          have hline : (w.sar.completedEffect true x.addr).line x.key = w.sar.line x.key := by
            have hs : NciSar.SameQueues w.sar (w.sar.completedEffect true x.addr) := by
              apply NciSar.sameQueues_of_fields
              · rfl
              · rfl
              · rfl
              · rfl
              · rfl
              · apply hwriting
            apply hs.line
          apply Phase.underway _ _ hbegins
          · intro hb
            apply absurd hb (hpending _)
          · simp only [World.map, World.record, hline]
            apply hmem
          · exact ⟨hat.packet, hat.same, hat.pos⟩
      | @ending out hb hmem hat hcut =>
          have hdone : w.sar.isDoneAt x.addr = true := by
            rw [hat.isDoneAt, decide_eq_true_eq, hcut.bodies_eq]
          have hnone : (w.sar.completedEffect true x.addr).writing = none := by
            simp [NciSar.completedEffect, NciSar.setWriting, hdone]
          apply Phase.finished _ hcut
          intro k
          simp only [World.map, World.record, NciSar.line_of_none hnone, hqueued]
          apply hnot k
      | finished hmem _ =>
          apply absurd (hw.wf.mem_line.mpr (Or.inr ⟨ha, hk⟩)) (hmem k)
    · apply hphase.unwritten
      · rw [ha]
        intro heq
        apply hx (Option.some.inj heq).symm
      · have hwriting : (w.sar.completedEffect ok a).writing
            = if (ok && !w.sar.isDoneAt a) = true then some a else none := rfl
        simp only [World.map, World.record, hwriting]
        intro heq
        obtain ⟨-, heq⟩ := Option.ite_none_right_eq_some.mp heq
        apply hx (Option.some.inj heq).symm
      · apply hqueued
      · rw [World.map, World.record, hpacket]

end Submission

/-! ### Runs -/

/-- The packet that is accepted. -/
def Entry.submission : Entry → Option Submission
  | .called c sar => c.accepted sar
  | _ => none

/-- The packets that have been accepted. -/
def submitted (log : Log) : List Submission := log.filterMap Entry.submission

theorem submitted_append (log : Log) (e : Entry) :
  submitted (log ++ [e]) = submitted log ++ e.submission.toList
  := by
  rw [submitted, List.filterMap_append]
  cases h : e.submission <;> simp [h, submitted]

theorem submitted_of_none {log : Log} {e : Entry} (h : e.submission = none) :
  submitted (log ++ [e]) = submitted log
  := by
  rw [submitted_append, h]
  apply List.append_nil

/-- The header of an accepted packet. -/
theorem Call.accepted_header {sar : NciSar} {c : Call} {x : Submission}
    (h : c.accepted sar = some x) :
  x.b0 &&& ~~~nciPbf = x.b0 ∧ (x.b0 &&& nciMtMask = nciMtCmdPkt ↔ x.key = .cmd)
  := by
  cases c with
  | sendCommand gid oid payload complete destroy =>
      obtain rfl := Option.some.inj h
      obtain ⟨hb0, hmt⟩ := cmd_b0 gid
      use hb0
      simp [hmt]
  | sendDataPacket cid payload complete destroy =>
      obtain ⟨-, hx⟩ := Option.ite_none_right_eq_some.mp h
      obtain rfl := Option.some.inj hx
      obtain ⟨hb0, hmt⟩ := data_b0 cid
      have hne : nciMtDataPkt ≠ nciMtCmdPkt := by decide
      use hb0
      simp [hmt, hne]
  | _ => simp [Call.accepted] at h

section

variable {P : Call → Prop} {w w' : World Log}

/-- A packet is kept when it is accepted. -/
theorem Submission.Kept.accepted {c : Call} {x : Submission} (hw : w.sar.WF)
    (hc : c.accepted w.sar = some x) (hnew : ∀ h ∈ handed w.env, h.addr < w.sar.nextAddr) :
  x.Kept ((w.record (.called c w.sar.snapshot)).map fun sar => c.effect sar)
  := by
  rcases Call.effect_cases hw c with ⟨hnone, -⟩
    | ⟨y, payload, complete, destroy, hy, -, haddr, hpayload, heq⟩ | ⟨a, hnone, -⟩
    | ⟨id, k, a, hnone, -⟩
  · simp [hc] at hnone
  · obtain rfl : x = y := Option.some.inj (hc.symm.trans hy)
    obtain ⟨hb0, hcmd⟩ := Call.accepted_header hc
    obtain ⟨-, hl, -⟩ := hw.send x.key x.b0 x.b1 payload complete destroy
    rw [← heq] at hl
    have hpacket := congrFun (congrArg Lists.packet hl) x.addr
    rw [haddr] at hpacket
    simp only [Lists.append, NciSar.lists_nextAddr, Function.update_self, NciSar.lists_packet]
      at hpacket
    have hnext : (c.effect w.sar).nextAddr = w.sar.nextAddr + 1 := congrArg Lists.nextAddr hl
    constructor
    · rw [haddr]
      apply Nat.lt_of_lt_of_le (Nat.lt_succ_self _) (Nat.le_of_eq hnext.symm)
    · use []
      constructor
      · simp only [World.map, World.record, handedOf_of_none (e := .called c w.sar.snapshot) rfl]
        rw [handedOf, List.filter_eq_nil_iff.mpr]
        · rfl
        · intro h hh
          have hlt := hnew h hh
          rw [← haddr] at hlt
          simpa using Nat.ne_of_lt hlt
      constructor
      · simp
      · apply @Phase.underway _ _ _ (w.sar.newPacket (w.sar.connPtr x.key) x.b0 x.b1 payload
          complete destroy)
        · simp only [World.map, World.record, NciSar.line, hl]
          rw [Lists.line_append hw.writing_ne_nextAddr, if_pos rfl, haddr]
          apply List.mem_append_right
          apply List.mem_singleton_self
        · constructor
          · rw [haddr]
            apply hpacket
          · constructor
            · cases hkey : x.key <;> simp [NciSarPacketOut.key, NciSar.newPacket, NciSar.connPtr]
            · rw [hpayload]
              rfl
            · apply hb0
            · rfl
            · apply hcmd
          · rfl
        · rw [hpayload]
          apply Begins.nil
        · intro hbusy
          apply absurd _ hw.writing_ne_nextAddr
          rw [← (Call.fields_effect w.sar c).2, ← haddr]
          apply hbusy.1
  · simp [hc] at hnone
  · simp [hc] at hnone

theorem Step.nextAddr_le (h : Step P w w') (hw : w.sar.WF) :
  w.sar.nextAddr ≤ w'.sar.nextAddr
  := by
  cases h with
  | inner h => apply h.nextAddr_le
  | received packet => apply Nat.le_of_eq (w.sar.sameQueues_receivedEffect packet).nextAddr.symm
  | scheduled => apply Nat.le_of_eq (NciSar.sameQueues_scheduleWrite _).nextAddr.symm
  | attempted _ _ _ => apply Nat.le_of_eq hw.sameLines_select.nextAddr.symm
  | handed _ _ _ _ _ => apply Nat.le_of_eq hw.sameLines_select.nextAddr.symm
  | notStarted _ _ _ _ => apply Nat.le_of_eq hw.sameLines_select.nextAddr.symm
  | _ => apply Nat.le_refl

/-- A step adds at most one entry to the log. -/
theorem Step.env (h : Step P w w') :
  ∃ l, w'.env = w.env ++ l
  := by
  have hnil : ∃ l, w.env = w.env ++ l := ⟨[], (List.append_nil _).symm⟩
  cases h with
  | inner h =>
      cases h with
      | note _ => exact ⟨_, rfl⟩
      | started _ _ => exact ⟨_, rfl⟩
      | called _ => exact ⟨_, rfl⟩
      | freed _ => apply hnil
  | received _ => exact ⟨_, rfl⟩
  | handed _ _ _ _ _ => exact ⟨_, rfl⟩
  | notStarted _ _ _ _ => exact ⟨_, rfl⟩
  | _ => apply hnil

/-- A step has a packet accepted only if it is a call. -/
theorem Step.submitted_cases (h : Step P w w') :
  submitted w'.env = submitted w.env
    ∨ ∃ c, w' = (w.record (.called c w.sar.snapshot)).map (fun sar => c.effect sar)
  := by
  cases h with
  | inner h =>
      cases h with
      | @note e he =>
          left
          apply submitted_of_none
          cases e <;> first | rfl | exact he.elim
      | started _ _ =>
          left
          apply submitted_of_none rfl
      | @called c _ =>
          right
          use c
      | freed _ =>
          left
          rfl
  | received _ =>
      left
      apply submitted_of_none rfl
  | handed _ _ _ _ _ =>
      left
      apply submitted_of_none rfl
  | notStarted _ _ _ _ =>
      left
      apply submitted_of_none rfl
  | _ =>
      left
      rfl

/-- Every accepted packet of less than 2³² bytes that is not spoiled is kept. -/
structure Tracked (w : World Log) : Prop where
  kept : ∀ x ∈ submitted w.env, x.payload.length < 2 ^ 32 → (∀ e ∈ w.env, ¬ e.Spoils x) →
    x.Kept w
  handed : ∀ h ∈ handed w.env, h.addr < w.sar.nextAddr

theorem Step.tracked (h : Step P w w') (hw : w.sar.Sound) (ht : Tracked w) :
  Tracked w'
  := by
  constructor
  · intro x hx hlen hs
    have hold : x ∈ submitted w.env → x.Kept w' := by
      intro hx
      obtain ⟨l, hl⟩ := h.env
      apply (ht.kept x hx hlen _).step h hw hlen hs
      intro e he
      apply hs
      rw [hl]
      apply List.mem_append_left _ he
    rcases h.submitted_cases with hsame | ⟨c, hc⟩
    · rw [hsame] at hx
      apply hold hx
    · subst hc
      have henv : submitted (w.env ++ [.called c w.sar.snapshot])
          = submitted w.env ++ (c.accepted w.sar).toList := by
        rw [← w.sar.accepted_snapshot c, submitted_append]
        rfl
      simp only [World.map, World.record, henv] at hx
      rcases List.mem_append.mp hx with hx | hx
      · apply hold hx
      · apply Submission.Kept.accepted hw.wf (Option.mem_toList.mp hx) ht.handed
  · intro e he
    have hold : e ∈ Nci.handed w.env → e.addr < w'.sar.nextAddr := fun he =>
      Nat.lt_of_lt_of_le (ht.handed e he) (h.nextAddr_le hw.wf)
    cases h with
    | inner hinner =>
        cases hinner with
        | @note e' he' =>
            apply hold
            rw [World.record, handed_of_none] at he
            · apply he
            · cases e' <;> first | rfl | exact he'.elim
        | started _ _ => apply hold (mem_handed_of_none rfl he)
        | called _ => apply hold (mem_handed_of_none rfl he)
        | freed _ => apply hold he
    | received _ => apply hold (mem_handed_of_none rfl he)
    | @handed a out ok _ _ ha hout =>
        simp only [World.record, handed_append, handed_halWrite ha hout ok] at he
        rcases List.mem_append.mp he with he | he
        · apply hold he
        · obtain rfl := List.mem_singleton.mp he
          obtain ⟨⟨k, hk⟩, -⟩ := hw.wf.select.2.writing a ha
          apply hk.1
    | notStarted _ _ _ _ => apply hold (mem_handed_of_none rfl he)
    | _ => apply hold he

theorem Completed.tracked (h : Completed w w') (hw : w.sar.Sound) (ht : Tracked w) :
  Tracked w'
  := by
  have h' := h
  obtain ⟨ok, -, -⟩ := h'
  have hsubmitted : submitted (w.env ++ [.completed ok w.sar.snapshot]) = submitted w.env :=
    submitted_of_none rfl
  constructor
  · intro x hx hlen hs
    simp only [World.map, World.record, hsubmitted] at hx
    apply (ht.kept x hx hlen _).completed h hw hs
    intro e he
    apply hs
    apply List.mem_append_left _ he
  · intro e he
    apply ht.handed
    apply mem_handed_of_none (e := .completed ok w.sar.snapshot) rfl he

end

end Nci
