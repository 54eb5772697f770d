import LibNciCore.Sar.Awake
import LibNciCore.Sar.Reassembly

/-!
# Segmentation and round trip

A packet that is alone on its connection is cut into segments as the limits in force demand,
and waits for nothing but credits. A layer that receives the segments of a data packet
delivers that packet, however the bytes arrive.
-/

namespace Nci

open LinkedQueue Cut Reassembly

/-! ### Complete segmentations -/

/-- The segments are finitely many, their payloads make up that of the packet, their headers
are that of the packet, and the length in every header is that of the payload that follows.
All but the last have the flag that says that more follow, and as much payload as the limit
allows. -/
structure Submission.Segmented (x : Submission) (segs : List Segment) : Prop where
  count : segs.length ≤ x.payload.length + 1
  payload : (segs.flatMap fun s => s.bytes.drop nciHdrSize) = x.payload
  header : ∀ s ∈ segs, s.bytes.getD 0 0 &&& ~~~nciPbf = x.b0 ∧ s.bytes.getD 1 0 = x.b1
  length : ∀ s ∈ segs, (s.bytes.getD 2 0).toNat + nciHdrSize = s.bytes.length
  cut : ∃ init last, segs = init ++ [last]
    ∧ (∀ s ∈ init, s.bytes.getD 0 0 &&& nciPbf = nciPbf
      ∧ s.bytes.length = s.limit + nciHdrSize)
    ∧ last.bytes.getD 0 0 &&& nciPbf = 0 ∧ last.bytes.length ≤ last.limit + nciHdrSize

/-- A layer that has the connection and no unfinished message receives exactly the data packet
from the segments, in whatever chunks their bytes arrive. -/
def Submission.RoundTrip (x : Submission) (segs : List Segment) : Prop :=
  ∀ cid, x.key = .out cid → ∀ (B : App Call.Steady) (m : Nat) (v : World Log), v.tail = [] →
    Holds v.sar (fun _ => none) → cid < v.sar.maxLogicalConns.toNat →
    ∀ chunks : List (List UInt8), chunks.flatten = segs.flatMap Segment.bytes →
      reports (readChunks (B.env m) chunks v).env
          = reports v.env ++ [.message ⟨.data (UInt8.ofNat cid), x.payload⟩]
        ∧ Holds (readChunks (B.env m) chunks v).sar (fun _ => none)
        ∧ (readChunks (B.env m) chunks v).tail = []

section

variable {x : Submission} {ps : List (Piece UInt8)}

theorem flag_pbf (b : UInt8) :
  b &&& ~~~nciPbf = b → b &&& nciPbf = 0 ∧ (b ||| nciPbf) &&& nciPbf = nciPbf
    ∧ (b ||| nciPbf) &&& ~~~nciPbf = b
  := by
  revert b
  apply forall_byte
  decide +kernel

/-- The bytes of a segment. -/
theorem Submission.segment_bytes (x : Submission) {q : Piece UInt8} (hq : q.body.length ≤ 255) :
  (x.segment q).bytes.drop nciHdrSize = q.body
    ∧ (x.segment q).bytes.length = q.body.length + nciHdrSize
    ∧ (x.segment q).bytes.getD 0 0 = (if q.more then x.b0 ||| nciPbf else x.b0)
    ∧ (x.segment q).bytes.getD 1 0 = x.b1
    ∧ ((x.segment q).bytes.getD 2 0).toNat = q.body.length
  := by
  use rfl, rfl, rfl, rfl
  apply UInt8.toNat_ofNat_of_lt'
  apply Nat.lt_of_le_of_lt hq
  decide

/-- The pieces of a cut are not longer than their limits. -/
theorem body_length_le {p : List UInt8} (h : IsCut p ps) (hlimit : ∀ q ∈ ps, q.limit ≤ 255) :
  ∀ q ∈ ps, q.body.length ≤ 255
  := by
  obtain ⟨qs, n, r, rfl, hb, hr⟩ := h.exists_begins
  intro q hq
  have hq' := hlimit q hq
  rcases List.mem_append.mp hq with hq | hq
  · rw [(hb.full q hq).2]
    apply hq'
  · obtain rfl := List.mem_singleton.mp hq
    apply Nat.le_trans hr hq'

/-- The segments that are made from a cut are a complete segmentation. -/
theorem Submission.segmented (hcut : IsCut x.payload ps)
    (hlimit : ∀ q ∈ ps, 0 < q.limit ∧ q.limit ≤ 255) (hb0 : x.b0 &&& ~~~nciPbf = x.b0) :
  x.Segmented (ps.map x.segment)
  := by
  obtain ⟨hclear, hset, hflag⟩ := flag_pbf x.b0 hb0
  have hbody := body_length_le hcut fun q hq => (hlimit q hq).2
  constructor
  case count =>
    rw [List.length_map]
    apply hcut.length_le fun q hq => (hlimit q hq).1
  case payload =>
    rw [← hcut.bodies_eq, List.flatMap_map]
    rfl
  case header =>
    intro s hs
    obtain ⟨q, hq, rfl⟩ := List.mem_map.mp hs
    obtain ⟨-, -, hzero, hone, -⟩ := x.segment_bytes (hbody q hq)
    rw [hzero]
    constructor
    · split
      · apply hflag
      · apply hb0
    · apply hone
  case length =>
    intro s hs
    obtain ⟨q, hq, rfl⟩ := List.mem_map.mp hs
    obtain ⟨-, hlen, -, -, htwo⟩ := x.segment_bytes (hbody q hq)
    rw [htwo, hlen]
  case cut =>
    obtain ⟨qs, n, r, rfl, hb, hr⟩ := hcut.exists_begins
    use qs.map x.segment, x.segment ⟨n, false, r⟩
    constructor
    · rw [List.map_append, List.map_singleton]
    constructor
    · intro s hs
      obtain ⟨q, hq, rfl⟩ := List.mem_map.mp hs
      obtain ⟨-, hlen, hzero, -, -⟩ := x.segment_bytes (hbody q (List.mem_append_left _ hq))
      obtain ⟨hmore, hfull⟩ := hb.full q hq
      rw [hzero, hmore, if_pos rfl, hlen, hfull]
      use hset
      rfl
    · obtain ⟨-, hlen, hzero, -, -⟩ := x.segment_bytes
        (hbody ⟨n, false, r⟩ (List.mem_append_right _ List.mem_cons_self))
      rw [hzero, hlen]
      use hclear
      apply Nat.add_le_add_right hr

/-! ### The way back -/

theorem data_header {b : UInt8} (hb : b < 16) (more : Bool) :
  (if more then b ||| nciPbf else b) &&& nciMtMask = nciMtDataPkt
    ∧ (if more then b ||| nciPbf else b) &&& nciDataCidMask = b
    ∧ ((if more then b ||| nciPbf else b) &&& nciPbf != 0) = more
  := by
  revert more b
  apply forall_byte (p := fun b => b < 16 → ∀ more : Bool,
    (if more then b ||| nciPbf else b) &&& nciMtMask = nciMtDataPkt
      ∧ (if more then b ||| nciPbf else b) &&& nciDataCidMask = b
      ∧ ((if more then b ||| nciPbf else b) &&& nciPbf != 0) = more)
  decide +kernel

/-- What the bytes of a segment of a data packet carry. -/
theorem segmentOf_segment (hb : x.b0 < 16) {q : Piece UInt8} (hq : q.body.length ≤ 255) :
  sarFraming.size (x.segment q).bytes = some (x.segment q).bytes.length
    ∧ segmentOf (x.segment q).bytes = ⟨.data x.b0, q.more, q.body⟩
  := by
  obtain ⟨hdrop, hlen, hzero, -, htwo⟩ := x.segment_bytes hq
  obtain ⟨hmt, hcid, hmore⟩ := data_header hb q.more
  have hpayload : packetPayloadLen (x.segment q).bytes = q.body.length := htwo
  constructor
  · have hpos : 2 < (x.segment q).bytes.length := by
      rw [hlen]
      apply Nat.le_add_left
    have hsize : sarFraming.size (x.segment q).bytes
        = some (packetPayloadLen (x.segment q).bytes + nciHdrSize) := by
      rw [sarFraming]
      simp only
      rw [if_pos hpos]
    rw [hsize, hpayload, hlen]
  · rw [segmentOf, messageHdr, hzero, if_pos hmt, hcid, hmore, packetPayload, hpayload, hdrop,
      List.take_length]

/-- The pieces of a cut complete a message. -/
theorem completes_of_isCut {hdr : MessageHdr} {p : List UInt8} (h : IsCut p ps) :
  ∀ part, Completes ⟨hdr, part ++ p⟩ part (ps.map fun q => ⟨hdr, q.more, q.body⟩)
  := by
  induction h with
  | last _ =>
      intro part
      apply Completes.last rfl
  | @more p n ps _ _ ih =>
      intro part
      apply Completes.more
      have h := ih (part ++ p.take n)
      rw [List.append_assoc, List.take_append_drop] at h
      apply h

/-- The segments that are made from a cut of a data packet give the packet back. -/
theorem Submission.roundTrip (hcut : IsCut x.payload ps) (hlimit : ∀ q ∈ ps, q.limit ≤ 255)
    (hb0 : ∀ cid, x.key = .out cid → x.b0 < 16 ∧ x.b0.toNat = cid) :
  x.RoundTrip (ps.map x.segment)
  := by
  intro cid hkey B m v hv hholds hmax chunks hchunks
  obtain ⟨hlt, hcid⟩ := hb0 cid hkey
  have hbody := body_length_le hcut hlimit
  have hsegments : (ps.map fun q => (x.segment q).bytes).map segmentOf
      = ps.map fun q => ⟨.data x.b0, q.more, q.body⟩ := by
    rw [List.map_map]
    apply List.map_congr_left
    intro q hq
    apply (segmentOf_segment hlt (hbody q hq)).2
  have hmsg : Message.IsCut ⟨.data x.b0, x.payload⟩
      ((ps.map fun q => (x.segment q).bytes).map segmentOf) := by
    rw [hsegments]
    apply completes_of_isCut hcut []
  have hinterleaved : Interleaved MessageHdr.channel _ _ := hmsg.interleaved
  obtain ⟨delivered, hrun, horder⟩ := hinterleaved.run
  obtain ⟨hreports, hdone, htail⟩ := B.readChunks_run m hv hholds
    (ps.map fun q => (x.segment q).bytes) (by
      intro packet hpacket
      obtain ⟨q, hq, rfl⟩ := List.mem_map.mp hpacket
      obtain ⟨hsize, hsegment⟩ := segmentOf_segment hlt (hbody q hq)
      have hheader : messageHdr (x.segment q).bytes = .data x.b0 :=
        congrArg Reassembly.Segment.header hsegment
      use hsize
      rw [hheader]
      apply UInt8.lt_iff_toNat_lt.mpr
      rw [hcid]
      apply hmax) (by
      rw [hchunks, List.flatMap_map]
      rfl)
  rw [hrun] at hreports hdone
  have hofNat : UInt8.ofNat cid = x.b0 := by rw [← hcid, UInt8.ofNat_toNat]
  rw [hofNat, hreports, horder.eq_singleton hmsg]
  exact ⟨rfl, hdone, htail⟩

end

/-! ### A packet that is alone on its connection -/

/-- The packet is cancelled, or another one is sent on its connection before it is finished. -/
def Entry.Disturbs (x : Submission) : Entry → Prop
  | .called c sar => c.cancelled sar = some (x.key, x.addr)
      ∨ x.key ≠ .cmd ∧ x.addr ∈ sar.line x.key
        ∧ (c.accepted sar).map Submission.key = some x.key
  | _ => False

instance (x : Submission) : DecidablePred (Entry.Disturbs x)
  | .called c sar => inferInstanceAs (Decidable (c.cancelled sar = some (x.key, x.addr)
      ∨ x.key ≠ .cmd ∧ x.addr ∈ sar.line x.key
        ∧ (c.accepted sar).map Submission.key = some x.key))
  | .completed _ _ | .halStart _ _ | .halWrite _ _ _ | .received _ _ | .idle | .halError | .halStop
  | .halCancelWrite | .error | .response _ _ _ | .notification _ _ _ | .dataPacket _ _
  | .complete _ _ | .destroy _ =>
      inferInstanceAs (Decidable False)

/-- The size of the payload fits into 32 bits, and the connection into four. -/
def Submission.Fits (x : Submission) : Prop :=
  x.payload.length < 2 ^ 32 ∧ ∀ cid, x.key = .out cid → cid < 16

/-- There are credits for another segment of the queue. -/
def NciSar.HasCredits (sar : NciSar) (k : QueueKey) : Prop :=
  ∀ cid, k = .out cid → sar.credits cid ≠ 0

section

variable {P : Call → Prop} {w w' : World Log} {x : Submission}

/-- The header of an accepted packet is made from the request, and its connection exists. -/
theorem Call.accepted_key {sar : NciSar} {c : Call} (h : c.accepted sar = some x) :
  x.key ∈ sar.keys
    ∧ ∀ cid, x.key = .out cid → ∃ b : UInt8, b.toNat = cid ∧ x.b0 = b &&& nciDataCidMask
  := by
  cases c with
  | sendCommand gid oid payload complete destroy =>
      obtain rfl := Option.some.inj h
      simp [NciSar.keys]
  | sendDataPacket cid payload complete destroy =>
      obtain ⟨hcid, hx⟩ := Option.ite_none_right_eq_some.mp h
      obtain rfl := Option.some.inj hx
      constructor
      · simpa [NciSar.keys, NciSar.cids] using UInt8.lt_iff_toNat_lt.mp hcid
      · intro cid' hkey
        use cid, QueueKey.out.inj hkey
  | _ => simp [Call.accepted] at h

theorem mem_submitted :
  x ∈ submitted w.env ↔ ∃ c sar, Entry.called c sar ∈ w.env ∧ c.accepted sar = some x
  := by
  constructor
  · intro hx
    obtain ⟨e, he, hsubmission⟩ := List.mem_filterMap.mp hx
    cases e with
    | called c sar => use c, sar, he, hsubmission
    | _ => simp [Entry.submission] at hsubmission
  · rintro ⟨c, sar, he, hx⟩
    apply List.mem_filterMap.mpr
    use .called c sar, he, hx

/-- The number of connections stays the same. -/
theorem Step.keys (h : Step P w w') (hw : w.sar.Sound) :
  w'.sar.keys = w.sar.keys
  := by
  have hsame : ∀ {sar : NciSar}, sar.maxLogicalConns = w.sar.maxLogicalConns →
      sar.keys = w.sar.keys := by
    intro sar h
    rw [NciSar.keys, NciSar.cids, h, NciSar.keys, NciSar.cids]
  cases h with
  | inner h => apply hsame h.sameInput.maxLogicalConns
  | received packet => apply hsame (w.sar.sameInput_receivedEffect packet).maxLogicalConns
  | scheduled => apply hsame w.sar.sameInput_scheduleWrite.maxLogicalConns
  | attempted _ _ _ => apply hsame hw.wf.sameInput_select.maxLogicalConns
  | handed _ _ _ _ _ => apply hsame hw.wf.sameInput_select.maxLogicalConns
  | notStarted _ _ _ _ => apply hsame hw.wf.sameInput_select.maxLogicalConns
  | _ => apply hsame rfl

/-- The accepted packets that fit and are not spoiled are kept, their connections exist, and no
command is lost. -/
structure Accounted (w : World Log) : Prop where
  tracked : Tracked w
  key : ∀ x ∈ submitted w.env, x.key ∈ w.sar.keys
  last : LastKept .cmd w

theorem Step.accounted (h : Step P w w') (hw : w.sar.Sound) (ha : Accounted w) :
  Accounted w'
  := by
  use h.tracked hw ha.tracked
  · intro x hx
    rw [h.keys hw]
    rcases h.submitted_cases with hsame | ⟨c, rfl⟩
    · rw [hsame] at hx
      apply ha.key x hx
    · have henv : submitted (w.env ++ [.called c w.sar.snapshot])
          = submitted w.env ++ (c.accepted w.sar.snapshot).toList := submitted_append _ _
      simp only [World.map, World.record, henv] at hx
      rcases List.mem_append.mp hx with hx | hx
      · apply ha.key x hx
      · rw [w.sar.accepted_snapshot] at hx
        apply (Call.accepted_key (Option.mem_toList.mp hx)).1
  · apply h.lastKept hw _ ha.last
    intro hne
    apply absurd rfl hne

theorem Completed.accounted (h : Completed w w') (hw : w.sar.Sound) (ha : Accounted w) :
  Accounted w'
  := by
  use h.tracked hw ha.tracked
  · intro x hx
    obtain ⟨ok, -, -⟩ := h
    have hsubmitted : submitted (w.env ++ [.completed ok w.sar.snapshot]) = submitted w.env :=
      submitted_of_none rfl
    simp only [World.map, World.record, hsubmitted] at hx
    apply ha.key x hx
  · apply h.lastKept ha.last

theorem NciSar.Quiet.accounted {sar : NciSar} (h : sar.Quiet) :
  Accounted (World.start sar)
  := by
  constructor
  · constructor
    · simp [World.start, submitted]
    · simp [World.start, handed]
  · simp [World.start, submitted]
  · apply h.lastKept

/-- A packet that is not disturbed is not spoiled if no write fails. -/
theorem Accounted.not_spoils (h : Accounted w) (hfails : ∀ e ∈ w.env, ¬ e.Fails)
    (halone : ∀ e ∈ w.env, ¬ e.Disturbs x) :
  ∀ e ∈ w.env, ¬ e.Spoils x
  := by
  intro e he hspoils
  cases e with
  | called c sar =>
      apply halone _ he
      rcases hspoils with hcancel | ⟨⟨y, hy, hkey⟩, hmem, hlast⟩
      · left
        apply hcancel
      · right
        constructor
        · intro hcmd
          apply h.last.2 _ he
          rw [hcmd] at hkey hmem hlast
          use y, hy, hkey, hlast
          apply List.ne_nil_of_mem hmem
        · rw [hy, Option.map_some, hkey]
          use List.mem_append_right _ hmem
  | completed ok sar => apply hfails _ he hspoils.1
  | halStart ok sar =>
      apply hfails _ he
      use hspoils.1
      rw [hspoils.2]
      rfl
  | halWrite chunks ok sar => apply hfails _ he hspoils.1
  | _ => apply hspoils

/-- At rest, a packet is in no line unless its connection has no credits. -/
theorem NciSar.not_mem_line {sar : NciSar} (hw : sar.WF) (hnone : sar.writing = none)
    (hidle : sar.Idle) (hkey : x.key ∈ sar.keys) (hcredits : sar.HasCredits x.key) :
  x.addr ∉ sar.line x.key
  := by
  rw [line_of_none hnone]
  intro hmem
  have hne := List.ne_nil_of_mem hmem
  cases hk : x.key with
  | cmd =>
      rw [hk] at hne
      apply hne hidle.1
  | out cid =>
      rw [hk] at hne hkey
      have hcid : cid ∈ sar.cids := by simpa [keys] using hkey
      have hsend := (hw.canSend_iff cid).mpr ⟨hne, hcredits cid hk⟩
      simp [hidle.2 cid hcid] at hsend

/-- The limits that are in force fit into a byte. -/
theorem limit_le {a : Nat} {log : Log} {s : Segment} (hs : s ∈ handedOf a log) :
  s.limit ≤ 255
  := by
  obtain ⟨h, hh, rfl⟩ := List.mem_map.mp hs
  obtain ⟨e, -, he⟩ := List.mem_filterMap.mp (List.mem_filter.mp hh).1
  cases e with
  | halWrite chunks ok sar =>
      obtain ⟨b, -, hb⟩ := Option.bind_eq_some_iff.mp he
      obtain ⟨out, -, rfl⟩ := Option.map_eq_some_iff.mp hb
      apply Nat.le_of_lt_succ
      apply UInt8.toNat_lt
  | _ => simp [Entry.handed] at he

/-- What has been handed over of a packet that fits begins a complete segmentation, from which
the packet can be received, and is all of it if the packet is in no line any more. -/
theorem Accounted.exists_segmented (h : Accounted w) (hx : x ∈ submitted w.env)
    (hfits : x.Fits) (hs : ∀ e ∈ w.env, ¬ e.Spoils x) :
  ∃ segs, handedOf x.addr w.env <+: segs ∧ x.Segmented segs ∧ x.RoundTrip segs
    ∧ (x.addr ∉ w.sar.line x.key → handedOf x.addr w.env = segs)
  := by
  obtain ⟨-, ps, hps, hpos, hphase⟩ := h.tracked.kept x hx hfits.1 hs
  obtain ⟨c, sar, -, haccepted⟩ := mem_submitted.mp hx
  have hlimit : ∀ q ∈ ps, q.limit ≤ 255 := by
    intro q hq
    have hmem : x.segment q ∈ handedOf x.addr w.env := by
      rw [hps]
      apply List.mem_map_of_mem hq
    apply limit_le hmem
  have hb0 : ∀ cid, x.key = .out cid → x.b0 < 16 ∧ x.b0.toNat = cid := by
    intro cid hkey
    obtain ⟨b, hb, hmask⟩ := (Call.accepted_key haccepted).2 cid hkey
    have hlt : b < 16 := by
      apply UInt8.lt_iff_toNat_lt.mpr
      rw [hb]
      apply hfits.2 cid hkey
    obtain ⟨-, hmasked, -⟩ := data_header hlt false
    rw [if_neg Bool.false_ne_true] at hmasked
    rw [hmask, hmasked]
    use hlt, hb
  have hcut : ∀ qs : List (Piece UInt8), IsCut x.payload qs →
      (∀ q ∈ qs, 0 < q.limit ∧ q.limit ≤ 255) →
      x.Segmented (qs.map x.segment) ∧ x.RoundTrip (qs.map x.segment) := by
    intro qs hqs hq
    use Submission.segmented hqs hq (Call.accepted_header haccepted).1
    apply Submission.roundTrip hqs (fun q hmem => (hq q hmem).2) hb0
  have hwhole : IsCut x.payload ps → ∃ segs, handedOf x.addr w.env <+: segs
      ∧ x.Segmented segs ∧ x.RoundTrip segs
      ∧ (x.addr ∉ w.sar.line x.key → handedOf x.addr w.env = segs) := by
    intro hc
    obtain ⟨hsegmented, hroundTrip⟩ := hcut ps hc fun q hq => ⟨hpos q hq, hlimit q hq⟩
    use ps.map x.segment
    rw [hps]
    use List.prefix_refl _, hsegmented, hroundTrip
    intro _
    rfl
  cases hphase with
  | @underway out hmem _ hbegins _ =>
      obtain ⟨qs, hqs, hone⟩ := exists_isCut Nat.one_pos out.remaining
      obtain ⟨hsegmented, hroundTrip⟩ := hcut (ps ++ qs) (hbegins.append hqs) (by
        intro q hq
        rcases List.mem_append.mp hq with hq | hq
        · use hpos q hq, hlimit q hq
        · rw [hone q hq]
          decide)
      use (ps ++ qs).map x.segment
      constructor
      · rw [hps, List.map_append]
        apply List.prefix_append
      · use hsegmented, hroundTrip
        intro hnot
        apply absurd hmem hnot
  | ending _ _ _ hc => apply hwhole hc
  | finished _ hc => apply hwhole hc

/-- In every run in which no write fails and no initial credits are overlooked, let a packet
be accepted that fits, is not cancelled, and is alone on its connection until it is finished.
At every moment the segments of the packet that have been handed over begin a complete
segmentation of it under the limits in force, from which the packet can be received. They are
all of it when the packet is in its line no longer, which is so as soon as the layer is at
rest and there are credits for the connection. -/
theorem segmentation (A : App Call.Steady) (n : Nat) {sar : NciSar} (hsar : sar.Quiet)
    (events : List (Event Call.Steady)) {x : Submission}
    (hx : x ∈ submitted (A.run n (World.start sar) events).env)
    (hsucceeds : ∀ e ∈ (A.run n (World.start sar) events).env, ¬ e.Fails)
    (halone : ∀ e ∈ (A.run n (World.start sar) events).env, ¬ e.Disturbs x)
    (hscheduled : ∀ e ∈ (A.run n (World.start sar) events).env, ¬ e.Overlooks)
    (hfits : x.Fits) :
  ∃ segs, handedOf x.addr (A.run n (World.start sar) events).env <+: segs
    ∧ x.Segmented segs ∧ x.RoundTrip segs
    ∧ (x.addr ∉ (A.run n (World.start sar) events).sar.line x.key →
      handedOf x.addr (A.run n (World.start sar) events).env = segs)
    ∧ ((A.run n (World.start sar) events).sar.AtRest →
      (A.run n (World.start sar) events).sar.HasCredits x.key →
      x.addr ∉ (A.run n (World.start sar) events).sar.line x.key)
  := by
  obtain ⟨hw, hr, hwake⟩ := A.run_wakeful (fun _ h => h) n events hsar.sound hsar.rest hsar.wakeful
  have ha : Accounted (A.run n (World.start sar) events) :=
    A.run_induction (fun _ h => h) (fun _ _ h hw ha => h.accounted hw ha)
      (fun _ _ h hw ha => h.accounted hw ha) n events hsar.sound hsar.rest hsar.accounted
  obtain ⟨segs, hprefix, hsegmented, hroundTrip, hall⟩ :=
    ha.exists_segmented hx hfits (ha.not_spoils hsucceeds halone)
  use segs, hprefix, hsegmented, hroundTrip, hall
  intro hrest hcredits
  have hawake :=
    hwake fun e he => ⟨fun habandons => hsucceeds e he habandons.fails, hscheduled e he⟩
  obtain ⟨hnone, hidle⟩ := hawake.idle hw.wf hr hrest
  apply NciSar.not_mem_line hw.wf hnone hidle (ha.key x hx) hcredits

/-- A data packet of three bytes is sent one byte at a time. It waits after two segments, and
is finished after a third credit. -/
def suspendedWorld : World Log :=
  (quietApp Call.Steady).run 0 (World.start nciSarNew)
    [.call ⟨.setInitialCredits 0 2, trivial⟩,
      .call ⟨.sendDataPacket 0 (some [1, 2, 3]) none none, trivial⟩, .idle,
      .writeCompleted true, .writeCompleted true, .call ⟨.addCredits 0 3, trivial⟩, .idle,
      .writeCompleted true]

theorem segmentation_suspended :
  handedOf 0 suspendedWorld.env = [⟨1, [0x10, 0, 1, 1]⟩, ⟨1, [0x10, 0, 1, 2]⟩, ⟨1, [0, 0, 1, 3]⟩]
    ∧ (⟨.out 0, 0, 0, 0, [1, 2, 3]⟩ : Submission).RoundTrip (handedOf 0 suspendedWorld.env)
  := by
  obtain ⟨segs, -, -, hroundTrip, hall, hfinished⟩ := segmentation (quietApp Call.Steady) 0
    quiet_nciSarNew
    [.call ⟨.setInitialCredits 0 2, trivial⟩,
      .call ⟨.sendDataPacket 0 (some [1, 2, 3]) none none, trivial⟩, .idle,
      .writeCompleted true, .writeCompleted true, .call ⟨.addCredits 0 3, trivial⟩, .idle,
      .writeCompleted true]
    (x := ⟨.out 0, 0, 0, 0, [1, 2, 3]⟩) (by decide) (by decide) (by decide) (by decide)
    ⟨by decide, by rintro cid ⟨⟩; decide⟩
  have heq := hall (hfinished ⟨rfl, rfl⟩ (by
    rintro cid ⟨⟩
    decide))
  use by decide
  rw [← heq] at hroundTrip
  apply hroundTrip

/-! ### Packets that are never finished -/

/-- A command is sent, and any number of its segments are written. -/
def hugeWorld (payload : List UInt8) (m : Nat) : World Log :=
  (quietApp Call.Steady).run 0 (World.start nciSarNew)
    ([.call ⟨.sendCommand 0 0 (some payload) none none, trivial⟩, .idle]
      ++ List.replicate m (.writeCompleted true))

/-- A segment of the packet is being written, and it is one more than those before. -/
structure Endless (payload : List UInt8) (w : World Log) (m : Nat) : Prop where
  writing : w.sar.writing = some 0
  pending : w.sar.writePending = true
  started : w.sar.started = true
  packet : ∃ out, w.sar.heap 0 = some out ∧ out.conn = none ∧ out.payload = some payload
  handed : (handedOf 0 w.env).length = m + 1
  succeeds : ∀ e ∈ w.env, ¬ e.Fails

theorem payload_nextSegment (out : NciSarPacketOut) (max : UInt8) :
  (out.nextSegment max).1.payload = out.payload
  := by
  rw [NciSarPacketOut.nextSegment]
  simp only
  split <;> rfl

theorem endless_zero (payload : List UInt8) :
  Endless payload (hugeWorld payload 0) 0
  := by
  constructor
  case packet =>
    exact ⟨_, rfl, NciSar.nextSegment_conn _ _, payload_nextSegment _ _⟩
  case succeeds =>
    intro e he
    have hmap : (hugeWorld payload 0).env.map (fun e => decide e.Fails)
        = [false, false, false, false] := rfl
    have hmem : decide e.Fails ∈ (hugeWorld payload 0).env.map fun e => decide e.Fails :=
      List.mem_map_of_mem he
    rw [hmap] at hmem
    simpa using hmem
  all_goals rfl

/-- A packet whose size does not fit into 32 bits is not finished by the segment that has been
written: the position in its payload never gets to the end. -/
theorem Endless.next {payload : List UInt8} (hlen : payload.length = 2 ^ 32) {w : World Log}
    {m : Nat} (h : Endless payload w m) :
  Endless payload ((quietApp Call.Steady).step 0 w (.writeCompleted true)) (m + 1)
  := by
  obtain ⟨out, hout, hconn, hpayload⟩ := h.packet
  obtain ⟨sar, hsar⟩ : ∃ sar, sar = w.sar.setWritePending false := ⟨_, rfl⟩
  have hwriting : sar.writing = some 0 := by
    rw [hsar]
    apply h.writing
  have hheap : sar.heap 0 = some out := by
    rw [hsar]
    apply hout
  have hstarted : sar.started = true := by
    rw [hsar]
    apply h.started
  have hcutStarted : (sar.cutSegment 0 out).started = true := hstarted
  have hpending : sar.writePending = false := by
    rw [hsar]
    rfl
  have hdone : sar.isDoneAt 0 = false := by
    have hlt := out.payloadPos.toNat_lt
    rw [NciSar.isDoneAt, hheap, Option.any_some, NciSarPacketOut.isDone, NciSarPacketOut.bytes,
      hpayload]
    simp only [Option.getD_some, hlen, beq_eq_false_iff_ne]
    omega
  have hselect : nciSarAttemptWritePick (nciSarAttemptWriteContinue sar) = sar := by
    rw [nciSarAttemptWriteContinue, hwriting]
    simp only [hheap, Option.bind_some, hconn, nciSarAttemptWritePick, hwriting]
  have hcompleted : nciSarWriteCompleted ((quietApp Call.Steady).env 0) true
        (w.record (.completed true w.sar.snapshot))
      = nciSarAttemptWrite ((quietApp Call.Steady).env 0)
        ⟨sar, w.env ++ [.completed true w.sar.snapshot]⟩ := by
    rw [nciSarWriteCompleted, World.record_sar, h.writing]
    simp only [World.map, World.record, ← hsar, if_true, hdone, Bool.false_eq_true, if_false]
  have hstep : (quietApp Call.Steady).step 0 w (.writeCompleted true)
      = ⟨(sar.cutSegment 0 out).setWritePending true, w.env ++ [.completed true w.sar.snapshot]
          ++ [.halWrite (out.nextSegment (sar.maxPayloadSize out)).2 true
            ((sar.cutSegment 0 out).setWritePending true).snapshot]⟩ := by
    rw [App.step, if_pos h.pending, hcompleted, nciSarAttemptWrite]
    simp only [hpending, Bool.false_eq_true, if_false, World.map, hselect, hwriting,
      nciSarAttemptWriteSubmit, hheap, nciSarStart, hcutStarted, if_true,
      nciSarAttemptWriteRequest]
    rfl
  rw [hstep]
  constructor
  · apply hwriting
  · rfl
  · apply hstarted
  · have hcut := sar.heap_cutSegment 0 out
    rw [hheap] at hcut
    exact ⟨_, hcut, (NciSar.nextSegment_conn _ _).trans hconn,
      (payload_nextSegment _ _).trans hpayload⟩
  · rw [handedOf_of_some _ _ (handed_halWrite hwriting hheap true), handedOf_of_none rfl]
    simp [h.handed]
  · intro e he
    rcases List.mem_append.mp he with he | he
    · rcases List.mem_append.mp he with he | he
      · apply h.succeeds e he
      · obtain rfl := List.mem_singleton.mp he
        simp [Entry.Fails]
    · obtain rfl := List.mem_singleton.mp he
      simp [Entry.Fails, Entry.Refusal]

theorem endless (payload : List UInt8) (hlen : payload.length = 2 ^ 32) :
  ∀ m, Endless payload (hugeWorld payload m) m
  | 0 => endless_zero payload
  | m + 1 => by
      have h := (endless payload hlen m).next hlen
      rw [hugeWorld, App.run, List.replicate_succ', ← List.append_assoc, List.foldl_append]
      apply h

/-- A packet waits for credits, and its connection gets initial credits: nothing will ever
make the layer send it. -/
def asleepWorld : World Log :=
  (quietApp Call.Steady).run 0 (World.start nciSarNew)
    [.call ⟨.sendDataPacket 0 (some [1]) none none, trivial⟩,
      .call ⟨.setInitialCredits 0 1, trivial⟩]

/-- A packet is sent on a connection whose number does not fit into the header. -/
def farWorld : World Log :=
  (quietApp Call.Steady).run 0 (World.start { nciSarNew with maxLogicalConns := 20 })
    [.call ⟨.setInitialCredits 17 1, trivial⟩,
      .call ⟨.sendDataPacket 17 (some [1]) none none, trivial⟩, .idle, .writeCompleted true]

/-- After any number of successful writes a packet of 2³² bytes goes on, even when there are
more segments than a segmentation of it can have. A layer at rest has credits for a packet of
which no segment has been handed over. And the segment of a packet on connection 17 is one for
connection 1. -/
theorem segmentation_endless :
  (∀ m, (∀ e ∈ (hugeWorld (List.replicate (2 ^ 32) 0) m).env, ¬ e.Fails)
      ∧ (handedOf 0 (hugeWorld (List.replicate (2 ^ 32) 0) m).env).length = m + 1
      ∧ (hugeWorld (List.replicate (2 ^ 32) 0) m).sar.writePending = true)
    ∧ (asleepWorld.sar.AtRest ∧ asleepWorld.sar.credits 0 = 1 ∧ handedOf 0 asleepWorld.env = []
      ∧ asleepWorld.sar.line (.out 0) = [0])
    ∧ (submitted farWorld.env).map Submission.key = [.out 17]
    ∧ (handedOf 0 farWorld.env).map (fun s => messageHdr s.bytes) = [.data 1]
  := by
  constructor
  · intro m
    have h := endless (List.replicate (2 ^ 32) 0) (List.length_replicate ..) m
    use h.succeeds, h.handed, h.pending
  · exact ⟨⟨⟨rfl, rfl⟩, by decide, by decide, by decide⟩, by decide, by decide⟩

end

end Nci
