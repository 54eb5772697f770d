import LibNciCore.Sar.Reassembly

/-!
# What a reset forgets

A reset forgets every unfinished message, but not the bytes that do not make up a packet yet.
If there are none, then a layer that has been reset receives what a new one does. If there
are some, the framing of what is received next is off, and the client is told something else.
-/

namespace Nci

open Reassembly

/-! ### Receiving anything -/

instance (maxLogicalConns : UInt8) : DecidablePred (MessageHdr.Receivable maxLogicalConns)
  | .control mt _ _ => inferInstanceAs (Decidable (mt = nciMtRspPkt ∨ mt = nciMtNtfPkt))
  | .data cid => inferInstanceAs (Decidable (cid < maxLogicalConns))

/-- What the client is told when packets arrive. A packet that cannot be received is an
error. -/
def told (maxLogicalConns : UInt8) :
    Partial Channel MessageHdr UInt8 → List (List UInt8) → List (Report MessageHdr UInt8)
  | st, packet :: packets =>
      if (messageHdr packet).Receivable maxLogicalConns then
        (step MessageHdr.channel st (segmentOf packet)).2.toList
          ++ told maxLogicalConns (step MessageHdr.channel st (segmentOf packet)).1 packets
      else .error :: told maxLogicalConns st packets
  | _, [] => []

section

variable {E : SarEnv Log} {w : World Log} {st : Partial Channel MessageHdr UInt8}
  {packet : List UInt8}

/-- A packet that cannot be received is an error. -/
theorem Reporting.handleSegment_of_not (hE : Reporting E)
    (hreceivable : ¬ (messageHdr packet).Receivable w.sar.maxLogicalConns) :
  NciSar.SameInput w.sar (nciSarHalHandleSegment E packet w).sar
    ∧ reports (nciSarHalHandleSegment E packet w).env = reports w.env ++ [.error]
  := by
  simp only [nciSarHalHandleSegment]
  rw [messageHdr] at hreceivable
  by_cases hdata : packet.getD 0 0 &&& nciMtMask = nciMtDataPkt
  · rw [if_pos hdata] at hreceivable ⊢
    have hcid : ¬ packet.getD 0 0 &&& nciDataCidMask < w.sar.maxLogicalConns := hreceivable
    simp only [nciSarHalHandleDataSegment]
    rw [if_neg hcid]
    apply hE.error
  · rw [if_neg hdata] at hreceivable ⊢
    have hmt : ¬ (packet.getD 0 0 &&& nciMtMask = nciMtRspPkt
        ∨ packet.getD 0 0 &&& nciMtMask = nciMtNtfPkt) := hreceivable
    rw [if_neg hmt]
    apply hE.error

/-- What the client is told when packets are handled depends on the unfinished messages only. -/
theorem Reporting.reports_handlePackets (hE : Reporting E) (packets : List (List UInt8)) :
  ∀ {w : World Log} {st : Partial Channel MessageHdr UInt8}, Holds w.sar st →
    (∀ packet ∈ packets, sarFraming.size packet = some packet.length) →
    reports (Nci.handlePackets E packets w).env
      = reports w.env ++ told w.sar.maxLogicalConns st packets
  := by
  induction packets with
  | nil =>
      intro w st _ _
      apply (List.append_nil _).symm
  | cons packet packets ih =>
      intro w st h hpackets
      have hsize := hpackets packet List.mem_cons_self
      have hpackets' : ∀ packet ∈ packets, sarFraming.size packet = some packet.length :=
        fun packet' hpacket' => hpackets packet' (List.mem_cons_of_mem _ hpacket')
      rw [Nci.handlePackets, List.foldl_cons, ← Nci.handlePackets, told]
      by_cases hreceivable : (messageHdr packet).Receivable w.sar.maxLogicalConns
      · have hstep := hE.handleSegment h hsize hreceivable
        rw [if_pos hreceivable, ih hstep.holds hpackets', hstep.reports, hstep.maxLogicalConns,
          List.append_assoc]
      · obtain ⟨hsame, hreports⟩ := hE.handleSegment_of_not hreceivable
        rw [if_neg hreceivable, ih (h.of_sameInput hsame) hpackets', hreports,
          hsame.maxLogicalConns, List.append_assoc]
        rfl

end

/-- The packets that a stream is cut into are whole. -/
theorem size_of_mem_frames {bytes packet : List UInt8}
    (h : packet ∈ (sarFraming.frames bytes).1) :
  sarFraming.size packet = some packet.length
  := by
  obtain ⟨m, r, hsplit⟩ := sarFraming.exists_split_of_mem_frames h
  obtain ⟨n, hn, hle, rfl, -⟩ := sarFraming.split_eq_some.mp hsplit
  obtain ⟨hlen, hn⟩ := Option.ite_none_right_eq_some.mp hn
  obtain rfl := Option.some.inj hn
  have hlength : (m.take (packetPayloadLen m + nciHdrSize)).length
      = packetPayloadLen m + nciHdrSize := List.length_take_of_le hle
  have hpayload : packetPayloadLen (m.take (packetPayloadLen m + nciHdrSize))
      = packetPayloadLen m := by
    rw [packetPayloadLen, packetPayloadLen, List.getD_eq_getElem?_getD,
      List.getD_eq_getElem?_getD, List.getElem?_take_of_lt (Nat.lt_add_left _ (by decide))]
  rw [hlength]
  show (if _ then _ else _) = _
  rw [if_pos, hpayload]
  rw [hlength]
  apply Nat.lt_add_left _ (by decide)

/-- What the client is told when a stream is read that starts with the bytes in the read
buffer. -/
theorem App.reports_readChunks (A : App Call.Steady) (n : Nat) {w : World Log}
    {st : Partial Channel MessageHdr UInt8} (hw : sarFraming.Incomplete w.tail)
    (h : Holds w.sar st) (chunks : List (List UInt8)) :
  reports (readChunks (A.env n) chunks w).env
    = reports w.env
      ++ told w.sar.maxLogicalConns st (sarFraming.frames (w.tail ++ chunks.flatten)).1
  := by
  have hE := A.env_reporting (fun _ h => h) n
  obtain ⟨hrest, -⟩ := (A.env_blind (fun _ h => h) n).client.readChunks chunks w hw
  have henv : (readChunks (A.env n) chunks w).env
      = (Nci.handlePackets (A.env n) (sarFraming.frames (w.tail ++ chunks.flatten)).1 w).env := by
    show (readChunks (A.env n) chunks w).rest.env = _
    rw [hrest]
    rfl
  rw [henv]
  apply hE.reports_handlePackets _ h
  intro packet hpacket
  apply size_of_mem_frames hpacket

/-! ### Resetting -/

section

variable {E : SarEnv Log}

/-- The read buffer is left alone, and what has been received is left alone or forgotten. -/
structure Forgetful (sar sar' : NciSar) : Prop where
  maxLogicalConns : sar'.maxLogicalConns = sar.maxLogicalConns
  readBuf : sar'.readBuf = sar.readBuf
  controlIn : sar.controlIn.getD [] = [] → sar'.controlIn.getD [] = []
  input : ∀ cid, (sar.conn cid).input.getD [] = [] → (sar'.conn cid).input.getD [] = []

theorem NciSar.SameInput.forgetful {sar sar' : NciSar} (h : NciSar.SameInput sar sar') :
  Forgetful sar sar'
  := by
  use h.maxLogicalConns, h.readBuf
  · rw [h.controlIn]
    apply id
  · intro cid
    rw [h.input]
    apply id

theorem Forgetful.trans {sar sar' sar'' : NciSar} (h : Forgetful sar sar')
    (h' : Forgetful sar' sar'') :
  Forgetful sar sar''
  := by
  constructor
  · rw [h'.maxLogicalConns, h.maxLogicalConns]
  · rw [h'.readBuf, h.readBuf]
  · intro hnil
    apply h'.controlIn (h.controlIn hnil)
  · intro cid hnil
    apply h'.input cid (h.input cid hnil)

theorem Reporting.clearQueue (hE : Reporting E) (k : QueueKey) (fuel : Nat) (w : World Log) :
  NciSar.SameInput w.sar (nciSarClearQueue E k fuel w).sar
  := by
  have hsetQueue : ∀ (sar : NciSar) (q : LinkedQueue.Queue),
      NciSar.SameInput sar (sar.setQueue k q) := by
    intro sar q
    have h := NciSar.sameInput_relink sar k q sar.heap sar.writing
    cases k <;> exact ⟨rfl, rfl, rfl, rfl, h.input⟩
  induction fuel generalizing w with
  | zero => apply NciSar.SameInput.refl
  | succ fuel ih =>
      rw [nciSarClearQueue]
      split
      · apply NciSar.SameInput.trans _ (ih _)
        apply NciSar.SameInput.trans _ (hE.packetOutFree _ _).1
        apply hsetQueue
      · apply hsetQueue

theorem sameInput_resetIo (E : SarEnv Log) (w : World Log) :
  NciSar.SameInput w.sar (nciSarResetIo E w).sar
  := by
  simp only [nciSarResetIo]
  split_ifs <;> exact ⟨rfl, rfl, rfl, rfl, fun _ => rfl⟩

/-- The connections from `start` on forget what they have received. -/
theorem Reporting.resetConns (hE : Reporting E) (fuel : Nat) :
  ∀ (n start : Nat) (w : World Log),
    Forgetful w.sar (nciSarResetConns E fuel (List.range' start n) w).sar
      ∧ ∀ cid, start ≤ cid → cid < start + n → cid < w.sar.maxLogicalConns.toNat →
        ((nciSarResetConns E fuel (List.range' start n) w).sar.conn cid).input.getD [] = []
  | 0, start, w => by
      use (NciSar.SameInput.refl _).forgetful
      intro cid hle hlt
      omega
  | n + 1, start, w => by
      rw [List.range'_succ, nciSarResetConns]
      split
      · have hclear := hE.clearQueue (.out start) fuel w
        obtain ⟨w', hw'⟩ : ∃ w', w' = nciSarClearQueue E (.out start) fuel w := ⟨_, rfl⟩
        rw [← hw'] at hclear ⊢
        dsimp only
        obtain ⟨w'', hw''⟩ : ∃ w'', w'' = w'.map fun self =>
            self.modifyConn start fun conn =>
              { conn with credits := 0, input := conn.input.map fun _ => [] } := ⟨_, rfl⟩
        rw [← hw'']
        have hinput : ∀ cid, (w''.sar.conn cid).input
            = if cid = start then (w'.sar.conn cid).input.map fun _ => []
              else (w'.sar.conn cid).input := by
          intro cid
          rw [hw'']
          by_cases hcid : cid = start
          · subst hcid
            simp [World.map, NciSar.modifyConn]
          · simp [World.map, NciSar.modifyConn, hcid]
        have hstep : Forgetful w.sar w''.sar := by
          apply hclear.forgetful.trans
          constructor
          · rw [hw'']
            rfl
          · rw [hw'']
            rfl
          · rw [hw'']
            apply id
          · intro cid hnil
            rw [hinput]
            split
            · cases (w'.sar.conn cid).input <;> rfl
            · apply hnil
        obtain ⟨hforgetful, hcleared⟩ := hE.resetConns fuel n (start + 1) w''
        use hstep.trans hforgetful
        intro cid hle hlt hmax
        by_cases hcid : cid = start
        · apply hforgetful.input
          rw [hinput, if_pos hcid]
          cases (w'.sar.conn cid).input <;> rfl
        · apply hcleared cid (by omega) (by omega)
          rw [hstep.maxLogicalConns]
          apply hmax
      · use (NciSar.SameInput.refl _).forgetful
        intro cid hle hlt hmax
        omega

/-- After a reset there are no unfinished messages, and the read buffer is as it was. -/
theorem Reporting.reset (hE : Reporting E) (fuel : Nat) (w : World Log) :
  Holds (nciSarReset E fuel w).sar (fun _ => none)
    ∧ (nciSarReset E fuel w).sar.maxLogicalConns = w.sar.maxLogicalConns
    ∧ (nciSarReset E fuel w).tail = w.tail
  := by
  obtain ⟨w₁, hw₁⟩ : ∃ w₁, w₁ = nciSarResetIo E w := ⟨_, rfl⟩
  obtain ⟨w₂, hw₂⟩ : ∃ w₂, w₂ = nciSarResetConns E fuel (List.range 255) w₁ := ⟨_, rfl⟩
  obtain ⟨w₃, hw₃⟩ : ∃ w₃, w₃ = w₂.map fun self =>
      self.setControlIn (self.controlIn.map fun _ => []) := ⟨_, rfl⟩
  obtain ⟨w₄, hw₄⟩ : ∃ w₄, w₄ = (nciSarClearQueue E .cmd fuel w₃).map fun self =>
      self.setStartWriteId false := ⟨_, rfl⟩
  have hio := sameInput_resetIo E w
  obtain ⟨hforgetful, hcleared⟩ := hE.resetConns fuel 255 0 w₁
  rw [← List.range_eq_range'] at hforgetful hcleared
  rw [← hw₁] at hio
  rw [← hw₂] at hforgetful hcleared
  have hcontrol : w₃.sar.controlIn.getD [] = [] := by
    rw [hw₃]
    show (w₂.sar.controlIn.map fun _ => []).getD [] = []
    cases w₂.sar.controlIn <;> rfl
  have hinput : ∀ cid < w₃.sar.maxLogicalConns.toNat, (w₃.sar.conn cid).input.getD [] = [] := by
    intro cid hcid
    have hmax : w₃.sar.maxLogicalConns = w₁.sar.maxLogicalConns := by
      rw [hw₃]
      apply hforgetful.maxLogicalConns
    rw [hmax] at hcid
    have hlt := w₁.sar.maxLogicalConns.toNat_lt
    rw [hw₃]
    apply hcleared cid (Nat.zero_le _) (by omega) hcid
  have hclear : NciSar.SameInput w₃.sar w₄.sar := by
    rw [hw₄]
    apply (hE.clearQueue .cmd fuel w₃).trans
    exact ⟨rfl, rfl, rfl, rfl, fun _ => rfl⟩
  have hfinish : NciSar.SameInput w₄.sar (nciSarReset E fuel w).sar := by
    rw [nciSarReset]
    simp only [← hw₁, ← hw₂, ← hw₃, ← hw₄]
    split
    · apply (hE.packetOutFinish _ _ _).1
    · apply NciSar.SameInput.refl
  have hlast := hclear.trans hfinish
  have hmax : (nciSarReset E fuel w).sar.maxLogicalConns = w.sar.maxLogicalConns := by
    rw [hlast.maxLogicalConns, hw₃]
    exact hforgetful.maxLogicalConns.trans hio.maxLogicalConns
  constructor
  · constructor
    · rw [hlast.controlIn]
      apply hcontrol
    · intro cid hcid
      rw [hlast.maxLogicalConns] at hcid
      rw [hlast.input]
      apply hinput cid hcid
  · use hmax
    rw [World.tail, hlast.readBuf, hw₃]
    show w₂.sar.readBuf.getD [] = w.sar.readBuf.getD []
    rw [hforgetful.readBuf, hio.readBuf]

/-- The client calls nothing while a packet is freed. -/
structure Silent (E : SarEnv Log) : Prop where
  complete : ∀ f ok w, (E.complete f ok w).sar = w.sar
  destroy : ∀ f w, (E.destroy f w).sar = w.sar

theorem Silent.packetOutFree (hE : Silent E) (a : Nat) (w : World Log) :
  (nciSarPacketOutFree E a w).sar = w.sar.dealloc a
  := by
  rw [nciSarPacketOutFree]
  split
  · simp only [World.map, hE.destroy]
  · rfl

theorem Silent.packetOutFinish (hE : Silent E) (a : Nat) (ok : Bool) (w : World Log) :
  (nciSarPacketOutFinish E a ok w).sar = w.sar.dealloc a
  := by
  rw [nciSarPacketOutFinish]
  split
  · simp only [hE.packetOutFree, hE.complete]
  · apply hE.packetOutFree

theorem Silent.credits_clearQueue (hE : Silent E) (k : QueueKey) (fuel : Nat) (w : World Log)
    (cid : Nat) :
  (nciSarClearQueue E k fuel w).sar.credits cid = w.sar.credits cid
  := by
  have hsetQueue : ∀ (sar : NciSar) (q : LinkedQueue.Queue),
      (sar.setQueue k q).credits cid = sar.credits cid := by
    intro sar q
    cases k with
    | cmd => rfl
    | out cid' =>
        rw [NciSar.setQueue, NciSar.credits_modifyConn]
        split
        · rename_i hcid
          rw [hcid]
          rfl
        · rfl
  induction fuel generalizing w with
  | zero => rfl
  | succ fuel ih =>
      rw [nciSarClearQueue]
      split
      · rw [ih, hE.packetOutFree]
        apply hsetQueue
      · apply hsetQueue

/-- The connections from `start` on have no credits, and no others get any. -/
theorem Silent.credits_resetConns (hE : Silent E) (hE' : Reporting E) (fuel : Nat) :
  ∀ (n start : Nat) (w : World Log) (cid : Nat),
    (w.sar.credits cid = 0 →
      (nciSarResetConns E fuel (List.range' start n) w).sar.credits cid = 0)
    ∧ (start ≤ cid → cid < start + n → cid < w.sar.maxLogicalConns.toNat →
      (nciSarResetConns E fuel (List.range' start n) w).sar.credits cid = 0)
  | 0, start, w, cid => by
      use id
      intro hle hlt
      omega
  | n + 1, start, w, cid => by
      rw [List.range'_succ, nciSarResetConns]
      split
      · have hmax := (hE'.clearQueue (.out start) fuel w).maxLogicalConns
        have hcredits := hE.credits_clearQueue (.out start) fuel w cid
        obtain ⟨w', hw'⟩ : ∃ w', w' = nciSarClearQueue E (.out start) fuel w := ⟨_, rfl⟩
        rw [← hw'] at hmax hcredits ⊢
        dsimp only
        obtain ⟨w'', hw''⟩ : ∃ w'', w'' = w'.map fun self =>
            self.modifyConn start fun conn =>
              { conn with credits := 0, input := conn.input.map fun _ => [] } := ⟨_, rfl⟩
        rw [← hw'']
        have hcredits' : w''.sar.credits cid = if cid = start then 0 else w.sar.credits cid := by
          rw [hw'', World.map, NciSar.credits_modifyConn, hcredits]
        have hmax' : w''.sar.maxLogicalConns = w.sar.maxLogicalConns := by
          rw [hw'', World.map]
          apply hmax
        obtain ⟨hkept, hcleared⟩ := hE.credits_resetConns hE' fuel n (start + 1) w'' cid
        constructor
        · intro hzero
          apply hkept
          rw [hcredits', hzero, ite_self]
        · intro hle hlt hcid
          by_cases heq : cid = start
          · apply hkept
            rw [hcredits', if_pos heq]
          · apply hcleared (by omega) (by omega)
            rw [hmax']
            apply hcid
      · use id
        intro hle hlt hcid
        omega

/-- After a reset no connection has credits. -/
theorem Silent.credits_reset (hE : Silent E) (hE' : Reporting E) (fuel : Nat) (w : World Log)
    {cid : Nat} (hcid : cid < w.sar.maxLogicalConns.toNat) :
  (nciSarReset E fuel w).sar.credits cid = 0
  := by
  obtain ⟨w₁, hw₁⟩ : ∃ w₁, w₁ = nciSarResetIo E w := ⟨_, rfl⟩
  obtain ⟨w₂, hw₂⟩ : ∃ w₂, w₂ = nciSarResetConns E fuel (List.range 255) w₁ := ⟨_, rfl⟩
  have hzero : w₂.sar.credits cid = 0 := by
    rw [hw₂, List.range_eq_range']
    have hlt := w.sar.maxLogicalConns.toNat_lt
    apply (hE.credits_resetConns hE' fuel 255 0 w₁ cid).2 (Nat.zero_le _) (by omega)
    rw [hw₁, (sameInput_resetIo E w).maxLogicalConns]
    apply hcid
  rw [nciSarReset]
  simp only [← hw₁, ← hw₂]
  split
  · rw [hE.packetOutFinish]
    show (nciSarClearQueue E .cmd fuel _).sar.credits cid = 0
    rw [hE.credits_clearQueue]
    apply hzero
  · show (nciSarClearQueue E .cmd fuel _).sar.credits cid = 0
    rw [hE.credits_clearQueue]
    apply hzero

end

/-! ### What a notification tells about the read buffer -/

/-- The shortest notification. -/
def emptyNotification : List UInt8 := [0x60, 0, 0]

/-- A stream of which less than a header is left is incomplete. -/
theorem incomplete_of_short {bytes : List UInt8} (h : bytes.length ≤ 2) :
  sarFraming.Incomplete bytes
  := by
  apply startsWithPacket_eq_false.mp
  rw [startsWithPacket, decide_eq_false (by omega), Bool.false_and]

theorem told_emptyNotification (maxLogicalConns : UInt8) :
  told maxLogicalConns (fun _ => none) (sarFraming.frames emptyNotification).1
    = [.message ⟨.control nciMtNtfPkt 0 0, []⟩]
  := by
  have hsplit : sarFraming.split emptyNotification = some (emptyNotification, []) := rfl
  rw [sarFraming.frames_of_split hsplit,
    sarFraming.frames_of_incomplete (incomplete_of_short (Nat.zero_le _))]
  rfl

/-- A single packet tells of the message that it carries. -/
theorem told_singleton {maxLogicalConns : UInt8} {packet : List UInt8}
    {m : Message MessageHdr UInt8}
    (h : told maxLogicalConns (fun _ => none) [packet] = [.message m]) :
  m = ⟨messageHdr packet, packetPayload packet⟩
  := by
  rw [told] at h
  split at h
  · rw [told, List.append_nil, step] at h
    dsimp only at h
    split at h
    · cases h
    · injection h with h
      injection h with h
      exact h.symm
  · cases h

/-- A packet of at least one more byte than its header carries a payload. -/
theorem packetPayload_ne_nil {packet : List UInt8} (hlen : 3 < packet.length)
    (hpos : 0 < packetPayloadLen packet) :
  packetPayload packet ≠ []
  := by
  apply List.ne_nil_of_length_pos
  rw [packetPayload, List.length_take, List.length_drop]
  have hheader : nciHdrSize = 3 := rfl
  omega

/-- Bytes that do not make up a packet spoil the notification that follows them. -/
theorem told_spoiled {maxLogicalConns : UInt8} {tail : List UInt8}
    (h : sarFraming.Incomplete tail) (hne : tail ≠ []) :
  told maxLogicalConns (fun _ => none) (sarFraming.frames (tail ++ emptyNotification)).1
    ≠ [.message ⟨.control nciMtNtfPkt 0 0, []⟩]
  := by
  intro htold
  match tail with
  | [] => contradiction
  | [b0] =>
      have hsplit : sarFraming.split ([b0] ++ emptyNotification) = some ([b0, 0x60, 0], [0]) := rfl
      rw [sarFraming.frames_of_split hsplit,
        sarFraming.frames_of_incomplete (incomplete_of_short (by decide))] at htold
      have hheader := congrArg Message.header (told_singleton htold)
      simp only [messageHdr] at hheader
      split at hheader
      · cases hheader
      · injection hheader with _ _ hoid
        have hoid' : (0 : UInt8) = 0x60 &&& nciControlOidMask := hoid
        revert hoid'
        decide
  | [b0, b1] =>
      have hincomplete : sarFraming.Incomplete ([b0, b1] ++ emptyNotification) := by
        apply startsWithPacket_eq_false.mp
        rfl
      rw [sarFraming.frames_of_incomplete hincomplete] at htold
      cases htold
  | b0 :: b1 :: b2 :: rest =>
      have hheader : nciHdrSize = 3 := rfl
      have hlen : packetPayloadLen (b0 :: b1 :: b2 :: rest ++ emptyNotification) = b2.toNat := rfl
      have htail : rest.length < b2.toNat := by
        have hstarts := startsWithPacket_eq_false.mpr h
        rw [startsWithPacket, Bool.and_eq_false_iff, decide_eq_false_iff_not,
          decide_eq_false_iff_not] at hstarts
        have hpayload : packetPayloadLen (b0 :: b1 :: b2 :: rest) = b2.toNat := rfl
        simp only [hpayload, List.length_cons] at hstarts
        omega
      cases hstarts : startsWithPacket (b0 :: b1 :: b2 :: rest ++ emptyNotification) with
      | true =>
          have hsplit := split_of_startsWithPacket hstarts
          have hle : b2.toNat + 3 ≤ rest.length + 6 := by
            rw [startsWithPacket, Bool.and_eq_true, decide_eq_true_eq, decide_eq_true_eq,
              hlen] at hstarts
            have hle := hstarts.2
            simp only [List.length_append, List.length_cons, emptyNotification,
              List.length_nil] at hle
            omega
          rw [sarFraming.frames_of_split hsplit, sarFraming.frames_of_incomplete] at htold
          · have hbody := congrArg Message.body (told_singleton htold)
            apply packetPayload_ne_nil _ _ hbody.symm
            · rw [List.length_take, hlen]
              simp only [List.length_append, List.length_cons, emptyNotification, List.length_nil]
              omega
            · rw [hlen]
              show 0 < (((b0 :: b1 :: b2 :: rest ++ emptyNotification).take
                (b2.toNat + nciHdrSize)).getD 2 0).toNat
              rw [List.getD_eq_getElem?_getD, List.getElem?_take_of_lt (by omega)]
              show 0 < b2.toNat
              omega
          · apply incomplete_of_short
            rw [List.length_drop, hlen]
            simp only [List.length_append, List.length_cons, emptyNotification, List.length_nil]
            omega
      | false =>
          rw [sarFraming.frames_of_incomplete (startsWithPacket_eq_false.mp hstarts)] at htold
          cases htold

/-! ### A reset layer and a new one -/

/-- A new layer with the given number of connections. -/
def nciSarNewWith (maxLogicalConns : UInt8) : NciSar :=
  { nciSarNew with maxLogicalConns := maxLogicalConns }

/-- A layer is reset at a moment when the read buffer holds no complete packet, which is so
whenever the read function has returned. What its client is told from then on is what the
client of a new layer with as many connections is told, whatever stream is received in
whatever chunks, if and only if the read buffer is empty. And as in a new layer, no connection
has credits, unless the client has granted them meanwhile. -/
theorem resetForgets (A B : App Call.Steady) (n m fuel : Nat) (w : World Log)
    (hw : sarFraming.Incomplete w.tail) :
  ((∀ chunks, reports (readChunks (A.env n) chunks (nciSarReset (A.env n) fuel w)).env
      = reports (nciSarReset (A.env n) fuel w).env
        ++ reports (readChunks (B.env m) chunks
            (World.start (nciSarNewWith w.sar.maxLogicalConns))).env)
    ↔ w.tail = [])
    ∧ (Silent (A.env n) → ∀ cid < w.sar.maxLogicalConns.toNat,
      (nciSarReset (A.env n) fuel w).sar.credits cid = 0)
  := by
  obtain ⟨hholds, hmax, htail⟩ := (A.env_reporting (fun _ h => h) n).reset fuel w
  have hreset : ∀ chunks,
      reports (readChunks (A.env n) chunks (nciSarReset (A.env n) fuel w)).env
        = reports (nciSarReset (A.env n) fuel w).env ++ told w.sar.maxLogicalConns (fun _ => none)
            (sarFraming.frames (w.tail ++ chunks.flatten)).1 := by
    intro chunks
    rw [A.reports_readChunks n (by rw [htail]; apply hw) hholds, hmax, htail]
  have hnew : ∀ chunks,
      reports (readChunks (B.env m) chunks
          (World.start (nciSarNewWith w.sar.maxLogicalConns))).env
        = told w.sar.maxLogicalConns (fun _ => none) (sarFraming.frames chunks.flatten).1 := by
    intro chunks
    have hnone : Holds (nciSarNewWith w.sar.maxLogicalConns) fun _ => none :=
      ⟨rfl, fun _ _ => rfl⟩
    apply B.reports_readChunks m (w := World.start (nciSarNewWith w.sar.maxLogicalConns))
      (incomplete_of_short (Nat.zero_le _)) hnone
  constructor
  · constructor
    · intro h
      by_contra hne
      have hsame := h [emptyNotification]
      rw [hreset, hnew, List.append_cancel_left_eq, List.flatten_singleton,
        told_emptyNotification] at hsame
      apply told_spoiled hw hne hsame
    · intro hnil chunks
      rw [hreset, hnew, hnil, List.nil_append]
  · intro hsilent cid hcid
    apply hsilent.credits_reset (A.env_reporting (fun _ h => h) n) fuel w hcid

/-- A layer has received the first segment of a notification when it is reset: the notification
that is received then is not taken for the next segment of it. -/
theorem resetForgets_segment :
  ∃ w : World Log, w = readChunks ((quietApp Call.Steady).env 1) [[0x71, 5, 1, 7]]
      (World.start nciSarNew)
    ∧ reports (readChunks ((quietApp Call.Steady).env 1) [emptyNotification]
        (nciSarReset ((quietApp Call.Steady).env 1) 0 w)).env
      = reports (nciSarReset ((quietApp Call.Steady).env 1) 0 w).env
        ++ [.message ⟨.control nciMtNtfPkt 0 0, []⟩]
  := by
  obtain ⟨hforgets, -⟩ := resetForgets (quietApp Call.Steady) (quietApp Call.Steady) 1 1 0
    (readChunks ((quietApp Call.Steady).env 1) [[0x71, 5, 1, 7]] (World.start nciSarNew))
    (incomplete_of_short (by decide))
  exact ⟨_, rfl, hforgets.mpr (by decide) [emptyNotification]⟩

/-- A layer has received the first two bytes of a packet when it is reset: the notification that
is received then gets lost. -/
theorem resetForgets_header :
  ∃ w : World Log, w = nciSarReset ((quietApp Call.Steady).env 1) 0
      (readChunks ((quietApp Call.Steady).env 1) [[0x60, 0]] (World.start nciSarNew))
    ∧ reports w.env = []
    ∧ reports (readChunks ((quietApp Call.Steady).env 1) [emptyNotification] w).env = []
    ∧ reports (readChunks ((quietApp Call.Steady).env 1) [emptyNotification]
        (World.start nciSarNew)).env
      = [.message ⟨.control nciMtNtfPkt 0 0, []⟩]
  := by
  exact ⟨_, rfl, by decide, by decide, by decide⟩

end Nci
