import LibNciCore.Sar.RoundTrip

/-!
# Delivery from one layer to another

What a layer hands to the HAL is received by another layer. In a run of the first in which
nothing goes wrong, the second delivers exactly those data packets of which all segments have
been handed over, on every connection in the order of their acceptance. The packets of different
connections may be mixed, wait for credits and be cut under changing limits, and their bytes may
arrive in any chunks.
-/

namespace Nci

open LinkedQueue Cut Reassembly

/-! ### What is carried over -/

/-- The segments of data packets that have been handed over. -/
def dataSegments (log : Log) : List Handed := (handed log).filter fun h => h.key ≠ .cmd

/-- The bytes that are carried over: those of the segments of data packets. -/
def dataBytes (log : Log) : List UInt8 := (dataSegments log).flatMap fun h => h.segment.bytes

/-- The message that a data packet is to its receiver. -/
def Submission.message (x : Submission) : Message MessageHdr UInt8 := ⟨.data x.b0, x.payload⟩

/-- The messages are those of the data packets of which all segments have been handed over, on
every connection in the order of acceptance. -/
structure Delivered (log : Log) (delivered : List (Message MessageHdr UInt8)) : Prop where
  each : ∀ cid, ∃ sent rest, accepted (.out cid) log = sent ++ rest
    ∧ (∀ x ∈ sent, x.IsSegmentation (handedOf x.addr log))
    ∧ (∀ x ∈ rest, ¬ x.IsSegmentation (handedOf x.addr log))
    ∧ delivered.filter (fun m => m.header.channel = .data cid) = sent.map Submission.message
  data : ∀ m ∈ delivered, m.header.channel ≠ .control

/-! ### The pieces of a packet -/

section

variable {x : Submission} {w : World Log} {ps : List (Piece UInt8)}

/-- What has been handed over of a packet is made from pieces of its payload. -/
theorem Submission.Kept.exists_pieces (h : x.Kept w) :
  ∃ ps, handedOf x.addr w.env = ps.map x.segment ∧ (∀ q ∈ ps, 0 < q.limit ∧ q.limit ≤ 255)
    ∧ (IsCut x.payload ps ∨ ∃ r, Begins x.payload ps r)
  := by
  obtain ⟨-, ps, hps, hpos, hphase⟩ := h
  use ps, hps
  constructor
  · intro q hq
    use hpos q hq
    have hmem : x.segment q ∈ handedOf x.addr w.env := by
      rw [hps]
      apply List.mem_map_of_mem hq
    apply limit_le hmem
  · cases hphase with
    | @underway out _ _ hbegins _ =>
        right
        use out.remaining
    | ending _ _ _ hc =>
        left
        apply hc
    | finished _ hc =>
        left
        apply hc

/-- The pieces that begin a cut make no complete segmentation. -/
theorem Submission.not_isSegmentation {r : List UInt8} (hbegins : Begins x.payload ps r)
    (hb0 : x.b0 &&& ~~~nciPbf = x.b0) :
  ¬ x.IsSegmentation (ps.map x.segment)
  := by
  rintro ⟨ps', hcut, -, hps⟩
  obtain ⟨qs, n, r', rfl, -, -⟩ := hcut.exists_begins
  have hmem : x.segment ⟨n, false, r'⟩ ∈ ps.map x.segment := by
    rw [hps]
    apply List.mem_map_of_mem
    apply List.mem_append_right _ List.mem_cons_self
  obtain ⟨q, hq, hsegment⟩ := List.mem_map.mp hmem
  obtain ⟨hmore, -⟩ := hbegins.full q hq
  obtain ⟨hclear, hset, -⟩ := flag_pbf x.b0 hb0
  have hbyte : (if q.more then x.b0 ||| nciPbf else x.b0) = x.b0 :=
    (List.cons.inj (Segment.mk.inj hsegment).2).1
  rw [hmore, if_pos rfl] at hbyte
  rw [hbyte, hclear] at hset
  revert hset
  decide

end

/-! ### What a healthy run keeps -/

section

variable {w w' : World Log} {keys : List QueueKey}

/-- The accepted packets are kept, and as long as nothing goes wrong, they are in order. -/
structure Sending (keys : List QueueKey) (w : World Log) : Prop where
  accounted : Accounted w
  keys : w.sar.keys = keys
  ordered : Healthy w.env → (∀ k, LastKept k w) ∧ Ordered w

theorem NciSar.Quiet.sending {sar : NciSar} (hsar : sar.Quiet) :
  Sending sar.keys (World.start sar)
  := by
  constructor
  · apply hsar.accounted
  · rfl
  · intro _
    use hsar.lastKept
    constructor
    · simp [World.start, submitted]
    · simp [World.start, submitted]
    · simp [World.start, cancelled]
    · intro k
      use [], []
      simp [accepted, submitted, World.start, handedOn, handed, NciSar.line_of_none hsar.writing,
        hsar.wf.2]

theorem Step.sending {P : Call → Prop} (hstep : Step P w w') (hw : w.sar.Sound)
    (h : Sending keys w) :
  Sending keys w'
  := by
  constructor
  · apply hstep.accounted hw h.accounted
  · rw [hstep.keys hw, h.keys]
  · intro hh
    obtain ⟨l, hl⟩ := hstep.env
    have hh₀ : Healthy w.env := by
      apply hh.of_prefix
      rw [hl]
      apply List.prefix_append
    obtain ⟨hlast, hordered⟩ := h.ordered hh₀
    constructor
    · intro k
      apply hstep.lastKept hw _ (hlast k)
      intro _ e he
      apply (hh₀ e he).2.1
    · apply hstep.ordered hw h.accounted.tracked hh hlast hordered

theorem Completed.sending (hc : Completed w w') (hw : w.sar.Sound) (h : Sending keys w) :
  Sending keys w'
  := by
  have haccounted := hc.accounted hw h.accounted
  constructor
  · apply haccounted
  · rw [← h.keys]
    cases hc
    rfl
  · intro hh
    have hh₀ : Healthy w.env := by
      apply hh.of_prefix
      cases hc
      apply List.prefix_append
    obtain ⟨hlast, hordered⟩ := h.ordered hh₀
    have hlast' : ∀ k, LastKept k w' := fun k => hc.lastKept (hlast k)
    use hlast'
    apply hc.ordered hw haccounted.tracked hh hlast' hordered

theorem App.run_sending (A : App Call.Steady) (n : Nat) {sar : NciSar} (hsar : sar.Quiet)
    (events : List (Event Call.Steady)) :
  Sending sar.keys (A.run n (World.start sar) events)
  := by
  apply A.run_induction (fun _ h => h) _ _ n events hsar.sound hsar.rest hsar.sending
  · intro _ _ hstep hw h
    apply hstep.sending hw h
  · intro _ _ hc hw h
    apply hc.sending hw h

end

/-! ### The packets of a queue -/

section

variable {w : World Log} {x : Submission} {keys : List QueueKey} {k : QueueKey} {cid : Nat}

/-- All segments of the packet have been handed over. -/
def Submission.Whole (x : Submission) (log : Log) : Prop :=
  ∃ ps, handedOf x.addr log = ps.map x.segment ∧ (∀ q ∈ ps, 0 < q.limit ∧ q.limit ≤ 255)
    ∧ IsCut x.payload ps

/-- Some segments of the packet may have been handed over, and more of them follow. -/
def Submission.Part (x : Submission) (log : Log) : Prop :=
  ∃ ps, handedOf x.addr log = ps.map x.segment ∧ (∀ q ∈ ps, 0 < q.limit ∧ q.limit ≤ 255)
    ∧ ∃ r, Begins x.payload ps r

theorem Submission.Whole.isSegmentation {log : Log} (h : x.Whole log) :
  x.IsSegmentation (handedOf x.addr log)
  := by
  obtain ⟨ps, hps, hlimit, hcut⟩ := h
  use ps, hcut
  constructor
  · intro q hq
    apply (hlimit q hq).1
  · apply hps

theorem Submission.Part.not_isSegmentation {log : Log} (h : x.Part log)
    (hb0 : x.b0 &&& ~~~nciPbf = x.b0) :
  ¬ x.IsSegmentation (handedOf x.addr log)
  := by
  obtain ⟨ps, hps, -, r, hbegins⟩ := h
  rw [hps]
  apply Submission.not_isSegmentation hbegins hb0

/-- The packets of a queue in the order of acceptance: all segments have been handed over of the
first ones, maybe some of the next one, and none of the others. -/
theorem Sending.exists_sent (h : Sending keys w) (hh : Healthy w.env) (k : QueueKey) :
  ∃ sent rest part, accepted k w.env = sent ++ rest ∧ (∀ x ∈ sent, x.Whole w.env)
    ∧ (∀ x ∈ rest, x.Part w.env)
    ∧ handedOn k w.env = sent.flatMap (fun x => handedOf x.addr w.env) ++ part
    ∧ (part = [] ∨ ∃ x ∈ rest, part = handedOf x.addr w.env)
  := by
  obtain ⟨hlast, hordered⟩ := h.ordered hh
  obtain ⟨done, live, hacc, -, hon, hdone, htail⟩ := hordered.inOrder k
  have hpieces : ∀ x ∈ accepted k w.env, x.Whole w.env ∨ x.Part w.env := by
    intro x hx
    have hkept := h.accounted.tracked.kept_of_mem_accepted hh hlast hx
    obtain ⟨ps, hps, hlimit, hcut | hbegins⟩ := hkept.exists_pieces
    · left
      use ps
    · right
      use ps
  have hb0 : ∀ x ∈ accepted k w.env, x.b0 &&& ~~~nciPbf = x.b0 := by
    intro x hx
    obtain ⟨c, sar, -, hc⟩ := mem_submitted.mp (mem_accepted.mp hx).1
    apply (Call.accepted_header hc).1
  have hwhole : ∀ x ∈ done, x.Whole w.env := by
    intro x hx
    have hx' : x ∈ accepted k w.env := by
      rw [hacc]
      apply List.mem_append_left _ hx
    rcases hpieces x hx' with hx'' | hx''
    · apply hx''
    · apply absurd (hdone x hx).complete (hx''.not_isSegmentation (hb0 x hx'))
  have hnone : ∀ x : Submission, handedOf x.addr w.env = [] → x.Part w.env := by
    intro x hx
    use [], hx
    constructor
    · simp
    · use x.payload
      apply Begins.nil
  rw [hacc, List.flatMap_append] at hon
  cases live with
  | nil =>
      use done, [], [], hacc, hwhole
      simp [hon]
  | cons x live =>
      have hlive : live.flatMap (fun x => handedOf x.addr w.env) = [] :=
        List.flatMap_eq_nil_iff.mpr htail
      rw [List.flatMap_cons, hlive, List.append_nil] at hon
      have hx : x ∈ accepted k w.env := by
        rw [hacc]
        apply List.mem_append_right _ List.mem_cons_self
      rcases hpieces x hx with hx' | hx'
      · use done ++ [x], live, []
        constructor
        · rw [hacc, List.append_assoc]
          rfl
        constructor
        · intro y hy
          rcases List.mem_append.mp hy with hy | hy
          · apply hwhole y hy
          · rw [List.mem_singleton.mp hy]
            apply hx'
        constructor
        · intro y hy
          apply hnone
          apply htail y hy
        · simp [hon]
      · use done, x :: live, handedOf x.addr w.env, hacc, hwhole
        constructor
        · intro y hy
          rcases List.mem_cons.mp hy with rfl | hy
          · apply hx'
          · apply hnone
            apply htail y hy
        · use hon
          right
          use x, List.mem_cons_self

/-- The header of an accepted data packet names its connection. -/
theorem Sending.header (h : Sending keys w) (hkeys : ∀ cid, QueueKey.out cid ∈ keys → cid < 16)
    (hx : x ∈ accepted (.out cid) w.env) :
  x.b0 < 16 ∧ x.b0.toNat = cid
  := by
  obtain ⟨hx, hkey, -⟩ := mem_accepted.mp hx
  obtain ⟨c, sar, -, hc⟩ := mem_submitted.mp hx
  obtain ⟨b, hb, hmask⟩ := (Call.accepted_key hc).2 cid hkey
  have hlt : b < 16 := by
    apply UInt8.lt_iff_toNat_lt.mpr
    rw [hb]
    apply hkeys
    rw [← h.keys, ← hkey]
    apply h.accounted.key x hx
  obtain ⟨-, hmasked, -⟩ := data_header hlt false
  rw [if_neg Bool.false_ne_true] at hmasked
  rw [hmask, hmasked]
  use hlt, hb

/-! ### What is carried over are messages -/

/-- What the bytes of a segment carry. -/
def Segment.carried (s : Segment) : Reassembly.Segment MessageHdr UInt8 := segmentOf s.bytes

/-- What the pieces of a data packet carry. -/
theorem carried_segment (hb0 : x.b0 < 16) {ps : List (Piece UInt8)}
    (hbody : ∀ q ∈ ps, q.body.length ≤ 255) :
  (ps.map x.segment).map Segment.carried = ps.map fun q => ⟨.data x.b0, q.more, q.body⟩
  := by
  rw [List.map_map]
  apply List.map_congr_left
  intro q hq
  apply (segmentOf_segment hb0 (hbody q hq)).2

theorem Submission.Whole.isCut {log : Log} (h : x.Whole log) (hb0 : x.b0 < 16) :
  x.message.IsCut ((handedOf x.addr log).map Segment.carried)
  := by
  obtain ⟨ps, hps, hlimit, hcut⟩ := h
  rw [hps, carried_segment hb0 (body_length_le hcut fun q hq => (hlimit q hq).2)]
  apply completes_of_isCut hcut []

theorem Submission.Part.completes {log : Log} (h : x.Part log) (hb0 : x.b0 < 16) :
  ∃ rest, Completes x.message [] ((handedOf x.addr log).map Segment.carried ++ rest) ∧ rest ≠ []
  := by
  obtain ⟨ps, hps, hlimit, r, hbegins⟩ := h
  obtain ⟨qs, hqs, -⟩ := exists_isCut Nat.one_pos r
  have hbody : ∀ q ∈ ps, q.body.length ≤ 255 := by
    intro q hq
    rw [(hbegins.full q hq).2]
    apply (hlimit q hq).2
  use qs.map fun q => ⟨.data x.b0, q.more, q.body⟩
  constructor
  · rw [hps, carried_segment hb0 hbody, ← List.map_append]
    apply completes_of_isCut (hbegins.append hqs) []
  · intro hnil
    obtain rfl := List.map_eq_nil_iff.mp hnil
    cases hqs

/-- A segment that has been handed over of a data packet is a packet of its connection. -/
theorem carried_of_mem {log : Log} (h : x.Whole log ∨ x.Part log) (hb0 : x.b0 < 16) {s : Segment}
    (hs : s ∈ handedOf x.addr log) :
  sarFraming.size s.bytes = some s.bytes.length ∧ s.carried.header = .data x.b0
  := by
  obtain ⟨ps, hps, hbody⟩ : ∃ ps : List (Piece UInt8), handedOf x.addr log = ps.map x.segment
      ∧ ∀ q ∈ ps, q.body.length ≤ 255 := by
    rcases h with ⟨ps, hps, hlimit, hcut⟩ | ⟨ps, hps, hlimit, r, hbegins⟩
    · use ps, hps
      apply body_length_le hcut fun q hq => (hlimit q hq).2
    · use ps, hps
      intro q hq
      rw [(hbegins.full q hq).2]
      apply (hlimit q hq).2
  rw [hps] at hs
  obtain ⟨q, hq, rfl⟩ := List.mem_map.mp hs
  obtain ⟨hsize, hsegment⟩ := segmentOf_segment hb0 (hbody q hq)
  use hsize
  rw [Segment.carried, hsegment]

/-- What is carried over belongs to packets that have been accepted. -/
theorem Sending.exists_accepted (h : Sending keys w) (hh : Healthy w.env)
    (hkeys : ∀ cid, QueueKey.out cid ∈ keys → cid < 16) {d : Handed}
    (hd : d ∈ dataSegments w.env) :
  ∃ cid x, x ∈ accepted (.out cid) w.env ∧ d.key = .out cid
    ∧ sarFraming.size d.segment.bytes = some d.segment.bytes.length
    ∧ d.segment.carried.header = .data x.b0
  := by
  obtain ⟨hmem, hne⟩ := List.mem_filter.mp hd
  obtain ⟨cid, hkey⟩ : ∃ cid, d.key = .out cid := by
    cases hkey : d.key with
    | cmd => simp [hkey] at hne
    | out cid => use cid
  have hon : d.segment ∈ handedOn (.out cid) w.env := by
    apply List.mem_map_of_mem
    apply List.mem_filter.mpr
    use hmem
    simpa using hkey
  obtain ⟨sent, rest, part, hacc, hsent, hrest, hsplit, hpart⟩ := h.exists_sent hh (.out cid)
  obtain ⟨x, hx, hs⟩ : ∃ x ∈ accepted (.out cid) w.env, d.segment ∈ handedOf x.addr w.env := by
    rw [hacc]
    rw [hsplit] at hon
    rcases List.mem_append.mp hon with hon | hon
    · obtain ⟨x, hx, hs⟩ := List.mem_flatMap.mp hon
      use x, List.mem_append_left _ hx
    · rcases hpart with rfl | ⟨x, hx, rfl⟩
      · cases hon
      · use x, List.mem_append_right _ hx
  have hcases : x.Whole w.env ∨ x.Part w.env := by
    rw [hacc] at hx
    rcases List.mem_append.mp hx with hx | hx
    · left
      apply hsent x hx
    · right
      apply hrest x hx
  use cid, x, hx, hkey
  apply carried_of_mem hcases (h.header hkeys hx).1 hs

/-- What is carried over on a connection is what has been handed over for its queue. -/
theorem Sending.filter_channel (h : Sending keys w) (hh : Healthy w.env)
    (hkeys : ∀ cid, QueueKey.out cid ∈ keys → cid < 16) (cid : Nat) :
  ((dataSegments w.env).map fun d => d.segment.carried).filter
      (fun s => s.header.channel = .data cid)
    = (handedOn (.out cid) w.env).map Segment.carried
  := by
  have hfilter : (dataSegments w.env).filter (fun d => d.segment.carried.header.channel = .data cid)
      = (handed w.env).filter fun d => d.key = .out cid := by
    calc (dataSegments w.env).filter (fun d => d.segment.carried.header.channel = .data cid)
        = (dataSegments w.env).filter fun d => d.key = .out cid := by
          apply List.filter_congr
          intro d hd
          obtain ⟨cid', x, hx, hkey, -, hheader⟩ := h.exists_accepted hh hkeys hd
          rw [hheader, hkey, MessageHdr.channel, (h.header hkeys hx).2]
          simp
      _ = (handed w.env).filter fun d => d.key = .out cid := by
          rw [dataSegments, List.filter_filter]
          apply List.filter_congr
          intro d _
          cases hkey : d.key
          all_goals simp
  rw [List.filter_map]
  show List.map _ ((dataSegments w.env).filter fun d =>
    d.segment.carried.header.channel = .data cid) = _
  rw [hfilter, handedOn, List.map_map]
  rfl

/-- The messages of packets that have been sent on the connections. -/
def messagesOn (sent : Nat → List Submission) : Channel → List (Message MessageHdr UInt8)
  | .control => []
  | .data cid => (sent cid).map Submission.message

/-- Reading what is carried over. -/
theorem Sending.delivered (h : Sending keys w) (hh : Healthy w.env)
    (hkeys : ∀ cid, QueueKey.out cid ∈ keys → cid < 16) :
  ∃ st delivered, run MessageHdr.channel (fun _ => none)
      ((dataSegments w.env).map fun d => d.segment.carried) = (st, delivered.map .message)
    ∧ Delivered w.env delivered
  := by
  have hsplit := fun cid => h.exists_sent hh (.out cid)
  choose sent rest part hacc hsent hrest hon hpart using hsplit
  have hheader : ∀ cid, ∀ x ∈ sent cid, x.b0 < 16 := by
    intro cid x hx
    have hx' : x ∈ accepted (.out cid) w.env := by
      rw [hacc]
      apply List.mem_append_left _ hx
    apply (h.header hkeys hx').1
  have hcontrol : ((dataSegments w.env).map fun d => d.segment.carried).filter
      (fun s => s.header.channel = .control) = [] := by
    apply List.filter_eq_nil_iff.mpr
    intro s hs
    obtain ⟨d, hd, rfl⟩ := List.mem_map.mp hs
    obtain ⟨cid, x, -, -, -, hx⟩ := h.exists_accepted hh hkeys hd
    simp [hx, MessageHdr.channel]
  have harriving : Arriving MessageHdr.channel
      ((dataSegments w.env).map fun d => d.segment.carried) (messagesOn sent) := by
    intro c
    cases c with
    | control =>
        use [], [], List.Forall₂.nil
        rw [hcontrol]
        simp
    | data cid =>
        use (sent cid).map fun x => (handedOf x.addr w.env).map Segment.carried,
          (part cid).map Segment.carried
        constructor
        · rw [messagesOn, List.forall₂_map_left_iff, List.forall₂_map_right_iff,
            List.forall₂_same]
          intro x hx
          apply (hsent cid x hx).isCut (hheader cid x hx)
        constructor
        · rw [h.filter_channel hh hkeys, hon, List.map_append, List.map_flatMap, List.flatMap_def]
        · rcases hpart cid with hnil | ⟨x, hx, heq⟩
          · left
            rw [hnil]
            rfl
          · right
            have hx' : x ∈ accepted (.out cid) w.env := by
              rw [hacc]
              apply List.mem_append_right _ hx
            obtain ⟨more, hmore, hne⟩ := (hrest cid x hx).completes (h.header hkeys hx').1
            rw [heq]
            use x.message, more
  obtain ⟨st, delivered, hrun, horder⟩ := harriving.run
  use st, delivered, hrun
  constructor
  · intro cid
    use sent cid, rest cid, hacc cid
    constructor
    · intro x hx
      apply (hsent cid x hx).isSegmentation
    constructor
    · intro x hx
      have hx' : x ∈ accepted (.out cid) w.env := by
        rw [hacc]
        apply List.mem_append_right _ hx
      obtain ⟨c, sar, -, hc⟩ := mem_submitted.mp (mem_accepted.mp hx').1
      apply (hrest cid x hx).not_isSegmentation (Call.accepted_header hc).1
    · apply horder.each (.data cid)
  · intro m hm hm'
    have hnil := horder.each .control
    rw [messagesOn] at hnil
    have hmem : m ∈ delivered.filter fun m => m.header.channel = .control := by
      apply List.mem_filter.mpr
      use hm
      simpa using hm'
    rw [hnil] at hmem
    cases hmem

end

/-! ### Delivery -/

/-- In a run of a layer in which nothing goes wrong, the bytes of the data segments that have
been handed over are read, in any chunks, by another layer that has the connections and no
unfinished message. It delivers exactly the data packets of which all segments have been handed
over, each of them once, and on every connection in the order of acceptance. -/
theorem delivery (A B : App Call.Steady) (n m : Nat) {sar : NciSar} (hsar : sar.Quiet)
    (events : List (Event Call.Steady))
    (hhealthy : Healthy (A.run n (World.start sar) events).env) (hmax : sar.maxLogicalConns ≤ 16)
    {v : World Log} (hv : v.tail = []) (hholds : Holds v.sar fun _ => none)
    (hconns : sar.maxLogicalConns ≤ v.sar.maxLogicalConns) (chunks : List (List UInt8))
    (hchunks : chunks.flatten = dataBytes (A.run n (World.start sar) events).env) :
  ∃ delivered, reports (readChunks (B.env m) chunks v).env
      = reports v.env ++ delivered.map .message
    ∧ Delivered (A.run n (World.start sar) events).env delivered
  := by
  have h := A.run_sending n hsar events
  have hcid : ∀ cid, QueueKey.out cid ∈ sar.keys → cid < sar.maxLogicalConns.toNat := by
    intro cid hmem
    simpa [NciSar.keys, NciSar.cids] using hmem
  have hkeys : ∀ cid, QueueKey.out cid ∈ sar.keys → cid < 16 := by
    intro cid hmem
    apply Nat.lt_of_lt_of_le (hcid cid hmem) (UInt8.le_iff_toNat_le.mp hmax)
  obtain ⟨st, delivered, hrun, hdelivered⟩ := h.delivered hhealthy hkeys
  use delivered
  constructor
  · rw [(B.readChunks_run m hv hholds ((dataSegments (A.run n (World.start sar) events).env).map
      fun d => d.segment.bytes) _ (by
        rw [hchunks, dataBytes, List.flatMap_def])).1]
    · rw [List.map_map]
      have hcarried := congrArg Prod.snd hrun
      apply congrArg _ hcarried
    · intro packet hpacket
      obtain ⟨d, hd, rfl⟩ := List.mem_map.mp hpacket
      obtain ⟨cid, x, hx, -, hsize, hheader⟩ := h.exists_accepted hhealthy hkeys hd
      use hsize
      have hhdr : messageHdr d.segment.bytes = .data x.b0 := hheader
      rw [hhdr]
      apply UInt8.lt_iff_toNat_lt.mpr
      obtain ⟨hsubmitted, hkey, -⟩ := mem_accepted.mp hx
      rw [(h.header hkeys hx).2]
      apply Nat.lt_of_lt_of_le _ (UInt8.le_iff_toNat_le.mp hconns)
      apply hcid
      rw [← h.keys, ← hkey]
      apply h.accounted.key x hsubmitted
  · apply hdelivered

/-- A command and two data packets are sent, and there are credits for three segments. -/
def carryingWorld : World Log :=
  (quietApp Call.Steady).run 0 (World.start nciSarNew)
    [.call ⟨.setInitialCredits 0 3, trivial⟩,
      .call ⟨.sendDataPacket 0 (some [1, 2]) none none, trivial⟩,
      .call ⟨.sendDataPacket 0 (some [3, 4]) none none, trivial⟩, .idle,
      .call ⟨.sendCommand 0 0 none none none, trivial⟩, .writeCompleted true,
      .writeCompleted true, .writeCompleted true]

/-- The first data packet is delivered from what has been handed over, and of the second one the
first byte has arrived. -/
theorem delivery_carryingWorld :
  dataBytes carryingWorld.env = [0x10, 0, 1, 1, 0, 0, 1, 2, 0x10, 0, 1, 3]
    ∧ ∃ delivered, reports (readChunks ((quietApp Call.Steady).env 0)
        [[0x10, 0, 1, 1, 0], [0, 1, 2, 0x10, 0, 1, 3]] (World.start nciSarNew)).env
          = delivered.map .message
      ∧ Delivered carryingWorld.env delivered
  := by
  use by decide
  apply delivery (quietApp Call.Steady) (quietApp Call.Steady) 0 0 quiet_nciSarNew
  · rw [Healthy]
    decide
  · decide
  · rfl
  · use rfl
    intro cid _
    rfl
  · decide
  · decide

end Nci
