import LibNciCore.Sar.Chunking
import LibNciCore.Lib.Reassembly

/-!
# Reassembly of received messages

The layer keeps an unfinished control message and an unfinished message for every connection.
Handling a packet is a step of the receiver `Reassembly.step` whose channels are these. So
every message of an interleaving of segments gets to the client, once and whole.
-/

namespace Nci

open Reassembly

/-! ### Packets as segments -/

/-- The header of a message: message type, group and opcode, or the connection. -/
inductive MessageHdr where
  | control (mt gid oid : UInt8)
  | data (cid : UInt8)
  deriving DecidableEq, Repr

/-- Control messages share one channel, and every connection has its own. -/
inductive Channel where
  | control
  | data (cid : Nat)
  deriving DecidableEq, Repr

/-- The channel of a message. -/
def MessageHdr.channel : MessageHdr → Channel
  | .control _ _ _ => .control
  | .data cid => .data cid.toNat

/-- The header of the message that a packet belongs to. -/
def messageHdr (packet : List UInt8) : MessageHdr :=
  if packet.getD 0 0 &&& nciMtMask = nciMtDataPkt then .data (packet.getD 0 0 &&& nciDataCidMask)
  else .control (packet.getD 0 0 &&& nciMtMask) (packet.getD 0 0 &&& nciControlGidMask)
    (packet.getD 1 0 &&& nciControlOidMask)

/-- The segment that a packet carries. -/
def segmentOf (packet : List UInt8) : Reassembly.Segment MessageHdr UInt8 where
  header := messageHdr packet
  more := packet.getD 0 0 &&& nciPbf != 0
  body := packetPayload packet

/-- Responses and notifications can be received, and data messages on the connections there
are. -/
def MessageHdr.Receivable (maxLogicalConns : UInt8) : MessageHdr → Prop
  | .control mt _ _ => mt = nciMtRspPkt ∨ mt = nciMtNtfPkt
  | .data cid => cid < maxLogicalConns

/-- What an entry of the log tells about messages. -/
def Entry.report : Entry → Option (Report MessageHdr UInt8)
  | .response gid oid payload => some (.message ⟨.control nciMtRspPkt gid oid, payload⟩)
  | .notification gid oid payload => some (.message ⟨.control nciMtNtfPkt gid oid, payload⟩)
  | .dataPacket cid payload => some (.message ⟨.data cid, payload⟩)
  | .error => some .error
  | _ => none

/-- What the client has been told. -/
def reports (log : Log) : List (Report MessageHdr UInt8) := log.filterMap Entry.report

theorem reports_append (log : Log) (e : Entry) :
  reports (log ++ [e]) = reports log ++ e.report.toList
  := by
  rw [reports, List.filterMap_append]
  cases h : e.report <;> simp [h, reports]

theorem reports_of_none {log : Log} {e : Entry} (h : e.report = none) :
  reports (log ++ [e]) = reports log
  := by
  rw [reports_append, h]
  apply List.append_nil

/-- The bytes that have arrived are an unfinished message on a channel, or there are none. -/
def Accumulates (c : Channel) (input : List UInt8) : Option (Message MessageHdr UInt8) → Prop
  | none => input = []
  | some m => nciHdrSize ≤ input.length ∧ m.header = messageHdr input ∧ m.header.channel = c
      ∧ m.body = input.drop nciHdrSize

/-- The unfinished messages that the layer holds. -/
structure Holds (sar : NciSar) (st : Partial Channel MessageHdr UInt8) : Prop where
  control : Accumulates .control (sar.controlIn.getD []) (st .control)
  data : ∀ cid < sar.maxLogicalConns.toNat,
    Accumulates (.data cid) ((sar.conn cid).input.getD []) (st (.data cid))

theorem Holds.of_sameInput {sar sar' : NciSar} {st : Partial Channel MessageHdr UInt8}
    (h : Holds sar st) (hs : NciSar.SameInput sar sar') :
  Holds sar' st
  := by
  constructor
  · rw [hs.controlIn]
    apply h.control
  · intro cid hcid
    rw [hs.maxLogicalConns] at hcid
    rw [hs.input]
    apply h.data cid hcid

theorem Holds.setControlIn {sar : NciSar} {st : Partial Channel MessageHdr UInt8}
    (h : Holds sar st) (input : Option (List UInt8)) {m : Option (Message MessageHdr UInt8)}
    (hm : Accumulates .control (input.getD []) m) :
  Holds (sar.setControlIn input) (Function.update st .control m)
  := by
  constructor
  · rw [Function.update_self]
    apply hm
  · intro cid hcid
    rw [Function.update_of_ne (by simp)]
    apply h.data cid hcid

theorem Holds.setInput {sar : NciSar} {st : Partial Channel MessageHdr UInt8}
    (h : Holds sar st) (cid : Nat) (input : Option (List UInt8))
    {m : Option (Message MessageHdr UInt8)} (hm : Accumulates (.data cid) (input.getD []) m) :
  Holds (sar.setInput cid input) (Function.update st (.data cid) m)
  := by
  constructor
  · rw [Function.update_of_ne (by simp)]
    apply h.control
  · intro cid' hcid'
    by_cases hcid : cid' = cid
    · subst hcid
      rw [Function.update_self]
      simpa [NciSar.setInput, NciSar.modifyConn] using hm
    · rw [Function.update_of_ne (by simpa using hcid)]
      have h' := h.data cid' hcid'
      simpa [NciSar.setInput, NciSar.modifyConn, hcid] using h'

/-! ### Whole packets -/

/-- The payload of a whole packet is what follows its header. -/
theorem packetPayload_of_whole {packet : List UInt8}
    (h : sarFraming.size packet = some packet.length) :
  packetPayload packet = packet.drop nciHdrSize
    ∧ packet.take (packetPayloadLen packet + nciHdrSize) = packet
    ∧ nciHdrSize ≤ packet.length
  := by
  obtain ⟨hlen, hsize⟩ := Option.ite_none_right_eq_some.mp h
  have hsize' : packetPayloadLen packet + nciHdrSize = packet.length := Option.some.inj hsize
  constructor
  · rw [packetPayload]
    apply List.take_of_length_le
    rw [List.length_drop]
    omega
  · rw [hsize', List.take_length]
    use rfl
    omega

/-- What follows does not change the header of a message. -/
theorem messageHdr_append {input : List UInt8} (h : nciHdrSize ≤ input.length)
    (payload : List UInt8) :
  messageHdr (input ++ payload) = messageHdr input
  := by
  have hget : ∀ i < nciHdrSize, (input ++ payload).getD i 0 = input.getD i 0 := by
    intro i hi
    rw [List.getD_eq_getElem?_getD, List.getElem?_append_left (Nat.lt_of_lt_of_le hi h),
      List.getD_eq_getElem?_getD]
  rw [messageHdr, hget 0 (by decide), hget 1 (by decide), messageHdr]

/-- A packet begins a message. -/
theorem accumulates_first {packet : List UInt8} (h : sarFraming.size packet = some packet.length) :
  Accumulates (messageHdr packet).channel packet
    (some ⟨messageHdr packet, packetPayload packet⟩)
  := by
  obtain ⟨hpayload, -, hlen⟩ := packetPayload_of_whole h
  use hlen, rfl, rfl, hpayload

/-- A packet continues a message. -/
theorem Accumulates.append {c : Channel} {input : List UInt8} {m : Message MessageHdr UInt8}
    (h : Accumulates c input (some m)) (payload : List UInt8) :
  Accumulates c (input ++ payload) (some ⟨m.header, m.body ++ payload⟩)
    ∧ (input ++ payload).drop nciHdrSize = m.body ++ payload
  := by
  obtain ⟨hlen, hheader, hchannel, hbody⟩ := h
  have hdrop : (input ++ payload).drop nciHdrSize = m.body ++ payload := by
    rw [List.drop_append_of_le_length hlen, hbody]
  constructor
  · constructor
    · rw [List.length_append]
      apply Nat.le_add_right_of_le hlen
    · rw [messageHdr_append hlen]
      use hheader, hchannel
      apply hdrop.symm
  · apply hdrop

/-! ### What the client is told -/

/-- The client is told of messages and errors by its callbacks only, and a callback leaves what
has been received alone. -/
structure Reporting (E : SarEnv Log) : Prop where
  error : ∀ w, NciSar.SameInput w.sar (E.error w).sar
    ∧ reports (E.error w).env = reports w.env ++ [.error]
  handleResponse : ∀ gid oid payload w,
    NciSar.SameInput w.sar (E.handleResponse gid oid payload w).sar
      ∧ reports (E.handleResponse gid oid payload w).env
        = reports w.env ++ [.message ⟨.control nciMtRspPkt gid oid, payload⟩]
  handleNotification : ∀ gid oid payload w,
    NciSar.SameInput w.sar (E.handleNotification gid oid payload w).sar
      ∧ reports (E.handleNotification gid oid payload w).env
        = reports w.env ++ [.message ⟨.control nciMtNtfPkt gid oid, payload⟩]
  handleDataPacket : ∀ cid payload w,
    NciSar.SameInput w.sar (E.handleDataPacket cid payload w).sar
      ∧ reports (E.handleDataPacket cid payload w).env
        = reports w.env ++ [.message ⟨.data cid, payload⟩]
  complete : ∀ f ok w, NciSar.SameInput w.sar (E.complete f ok w).sar
    ∧ reports (E.complete f ok w).env = reports w.env
  destroy : ∀ f w, NciSar.SameInput w.sar (E.destroy f w).sar
    ∧ reports (E.destroy f w).env = reports w.env
  halStart : ∀ sar log, reports (E.halStart sar log).2 = reports log
  halStop : ∀ sar log, reports (E.halStop sar log) = reports log
  halCancelWrite : ∀ sar log, reports (E.halCancelWrite sar log) = reports log

section

variable {P : Call → Prop} {E : SarEnv Log}

/-- Freeing a packet tells the client of no message. -/
theorem Reporting.packetOutFree (hE : Reporting E) (a : Nat) (w : World Log) :
  NciSar.SameInput w.sar (nciSarPacketOutFree E a w).sar
    ∧ reports (nciSarPacketOutFree E a w).env = reports w.env
  := by
  rw [nciSarPacketOutFree]
  split
  · rename_i f _
    obtain ⟨hsame, hreports⟩ := hE.destroy f w
    exact ⟨hsame.trans ⟨rfl, rfl, rfl, rfl, fun _ => rfl⟩, hreports⟩
  · exact ⟨⟨rfl, rfl, rfl, rfl, fun _ => rfl⟩, rfl⟩

/-- Finishing a packet tells the client of no message. -/
theorem Reporting.packetOutFinish (hE : Reporting E) (a : Nat) (ok : Bool) (w : World Log) :
  NciSar.SameInput w.sar (nciSarPacketOutFinish E a ok w).sar
    ∧ reports (nciSarPacketOutFinish E a ok w).env = reports w.env
  := by
  rw [nciSarPacketOutFinish]
  split
  · rename_i f _
    obtain ⟨hsame, hreports⟩ := hE.complete f ok w
    obtain ⟨hsame', hreports'⟩ := hE.packetOutFree a (E.complete f ok w)
    exact ⟨hsame.trans hsame', hreports'.trans hreports⟩
  · apply hE.packetOutFree

/-- A call of a function of the interface tells the client nothing. -/
theorem Reporting.perform (hE : Reporting E) {c : Call} (hc : c.Steady) (fuel : Nat)
    (w : World Log) :
  NciSar.SameInput w.sar (c.perform E fuel w).sar
    ∧ reports (c.perform E fuel w).env = reports w.env
  := by
  cases c with
  | start =>
      rw [Call.perform, nciSarStart]
      split
      · use NciSar.SameInput.refl _
      · exact ⟨⟨rfl, rfl, rfl, rfl, fun _ => rfl⟩, hE.halStart w.sar w.env⟩
  | reset => exact hc.elim
  | setMaxLogicalConnections _ => exact hc.elim
  | cancel id =>
      have hsame := w.sar.sameInput_cancelEffect id
      rw [Call.perform, nciSarCancel_eq]
      split
      · rename_i a _
        obtain ⟨hsame', hreports⟩ := hE.packetOutFree a (w.map fun sar => sar.cancelEffect id)
        exact ⟨hsame.trans hsame', hreports⟩
      · exact ⟨hsame, rfl⟩
  | setMaxControlPayloadSize max =>
      exact ⟨Call.sameInput_effect w.sar (.setMaxControlPayloadSize max), rfl⟩
  | setMaxDataPayloadSize max =>
      exact ⟨Call.sameInput_effect w.sar (.setMaxDataPayloadSize max), rfl⟩
  | setInitialCredits cid credits =>
      exact ⟨Call.sameInput_effect w.sar (.setInitialCredits cid credits), rfl⟩
  | addCredits cid credits =>
      exact ⟨Call.sameInput_effect w.sar (.addCredits cid credits), rfl⟩
  | sendCommand gid oid payload complete destroy =>
      exact ⟨Call.sameInput_effect w.sar (.sendCommand gid oid payload complete destroy), rfl⟩
  | sendDataPacket cid payload complete destroy =>
      exact ⟨Call.sameInput_effect w.sar (.sendDataPacket cid payload complete destroy), rfl⟩

/-- The client of a run is told of messages and errors by its callbacks only, however deep
callbacks are nested. -/
theorem App.env_reporting (A : App P) (hP : ∀ c, P c → c.Steady) :
  ∀ n, Reporting (A.env n)
  | 0 => by
      constructor
      case halStart =>
        intro sar log
        apply reports_of_none rfl
      case halStop =>
        intro sar log
        apply reports_of_none rfl
      case halCancelWrite =>
        intro sar log
        apply reports_of_none rfl
      case complete =>
        intro f ok w
        use NciSar.SameInput.refl _
        apply reports_of_none rfl
      case destroy =>
        intro f w
        use NciSar.SameInput.refl _
        apply reports_of_none rfl
      all_goals
        intros
        use NciSar.SameInput.refl _
        apply reports_append
  | n + 1 => by
      have hE := A.env_reporting hP n
      have hcalls : ∀ (calls : List (Subtype P)) (w : World Log),
          NciSar.SameInput w.sar (calls.foldl (fun w c => A.call (A.env n) c w) w).sar
            ∧ reports (calls.foldl (fun w c => A.call (A.env n) c w) w).env = reports w.env := by
        intro calls
        induction calls with
        | nil =>
            intro w
            use NciSar.SameInput.refl _
            rfl
        | cons c calls ih =>
            intro w
            obtain ⟨hsame, hreports⟩ := hE.perform (hP c.1 c.2) A.fuel
              (w.record (.called c.1 w.sar.snapshot))
            obtain ⟨hsame', hreports'⟩ := ih (A.call (A.env n) c w)
            use NciSar.SameInput.trans hsame hsame'
            rw [List.foldl_cons, hreports', App.call, hreports]
            apply reports_of_none rfl
      have hcallback : ∀ (calls : List (Subtype P)) (w : World Log) (e : Entry),
          NciSar.SameInput w.sar
              (calls.foldl (fun w c => A.call (A.env n) c w) (w.record e)).sar
            ∧ reports (calls.foldl (fun w c => A.call (A.env n) c w) (w.record e)).env
              = reports w.env ++ e.report.toList := by
        intro calls w e
        obtain ⟨hsame, hreports⟩ := hcalls calls (w.record e)
        use hsame
        rw [hreports]
        apply reports_append
      constructor
      · intro w
        apply hcallback
      · intro gid oid payload w
        apply hcallback _ _ (.response gid oid payload)
      · intro gid oid payload w
        apply hcallback _ _ (.notification gid oid payload)
      · intro cid payload w
        apply hcallback _ _ (.dataPacket cid payload)
      · intro f ok w
        have h := hcallback (A.react (w.record (.complete f ok)).env) w (.complete f ok)
        have hnone : (Entry.complete f ok).report = none := rfl
        rw [hnone, Option.toList_none, List.append_nil] at h
        apply h
      · intro f w
        have h := hcallback (A.react (w.record (.destroy f)).env) w (.destroy f)
        have hnone : (Entry.destroy f).report = none := rfl
        rw [hnone, Option.toList_none, List.append_nil] at h
        apply h
      · intro sar log
        apply reports_of_none rfl
      · intro sar log
        apply reports_of_none rfl
      · intro sar log
        apply reports_of_none rfl

/-! ### Handling a packet is a step of the receiver -/

/-- After a step the layer holds what the receiver holds, and the client has been told what the
receiver reports. -/
structure Follows (w w' : World Log) (st : Partial Channel MessageHdr UInt8)
    (s : Reassembly.Segment MessageHdr UInt8) : Prop where
  holds : Holds w'.sar (step MessageHdr.channel st s).1
  reports : reports w'.env = reports w.env ++ (step MessageHdr.channel st s).2.toList
  maxLogicalConns : w'.sar.maxLogicalConns = w.sar.maxLogicalConns

variable {w w' : World Log} {st : Partial Channel MessageHdr UInt8} {packet : List UInt8}

/-- A control message is passed to the client. -/
theorem Reporting.handleControlPacket (hE : Reporting E) {mt : UInt8} (gid oid : UInt8)
    (hmt : mt = nciMtRspPkt ∨ mt = nciMtNtfPkt) (payload : List UInt8) (w : World Log) :
  NciSar.SameInput w.sar (nciSarHalHandleControlPacket E mt gid oid payload w).sar
    ∧ Nci.reports (nciSarHalHandleControlPacket E mt gid oid payload w).env
      = Nci.reports w.env ++ [.message ⟨.control mt gid oid, payload⟩]
  := by
  rw [nciSarHalHandleControlPacket]
  rcases hmt with rfl | rfl
  · rw [if_pos rfl]
    apply hE.handleResponse
  · rw [if_neg (by decide)]
    apply hE.handleNotification

/-- Handling a segment of a control message is a step of the receiver. -/
theorem Reporting.handleControlSegment (hE : Reporting E) (h : Holds w.sar st)
    (hsize : sarFraming.size packet = some packet.length)
    (hmt : packet.getD 0 0 &&& nciMtMask = nciMtRspPkt
      ∨ packet.getD 0 0 &&& nciMtMask = nciMtNtfPkt) :
  Follows w (nciSarHalHandleControlSegment E packet w) st (segmentOf packet)
  := by
  obtain ⟨hpayload, htake, -⟩ := packetPayload_of_whole hsize
  have hne : packet.getD 0 0 &&& nciMtMask ≠ nciMtDataPkt := by
    rcases hmt with hmt | hmt <;> rw [hmt] <;> decide
  have hheader : messageHdr packet = .control (packet.getD 0 0 &&& nciMtMask)
      (packet.getD 0 0 &&& nciControlGidMask) (packet.getD 1 0 &&& nciControlOidMask) :=
    if_neg hne
  have hchannel : (segmentOf packet).header.channel = .control := by
    rw [segmentOf, hheader]
    rfl
  have hmore : (segmentOf packet).more = (packet.getD 0 0 &&& nciPbf != 0) := rfl
  have hbody : (segmentOf packet).body = packetPayload packet := rfl
  have hsegment : (segmentOf packet).header = messageHdr packet := rfl
  have hcontrol := h.control
  simp only [nciSarHalHandleControlSegment]
  cases hst : st .control with
  | none =>
      rw [hst] at hcontrol
      have hinput : w.sar.controlIn.getD [] = [] := hcontrol
      rw [hinput, if_neg (show ¬ 0 < ([] : List UInt8).length by simp), htake]
      by_cases hflag : packet.getD 0 0 &&& nciPbf ≠ 0
      · have hmore' : (segmentOf packet).more = true := by rw [hmore]; simpa using hflag
        rw [if_pos hflag]
        constructor
        · rw [step, hchannel, hst]
          simp only [hmore', if_true]
          apply h.setControlIn (some packet)
          have hfirst := accumulates_first hsize
          rw [← hsegment, hchannel] at hfirst
          apply hfirst
        · rw [step, hchannel, hst]
          simp only [hmore', if_true, Option.toList_none, List.append_nil]
          rfl
        · rfl
      · have hmore' : (segmentOf packet).more = false := by rw [hmore]; simpa using hflag
        obtain ⟨hsame, hreports⟩ := hE.handleControlPacket
          (packet.getD 0 0 &&& nciControlGidMask) (packet.getD 1 0 &&& nciControlOidMask) hmt
          (packetPayload packet) w
        rw [if_neg hflag]
        constructor
        · rw [step, hchannel, hst]
          simp only [hmore', Bool.false_eq_true, if_false]
          apply h.of_sameInput hsame
        · rw [step, hchannel, hst, hreports, hsegment, hheader, hbody]
          simp only [hmore', Bool.false_eq_true, if_false, Option.toList_some]
        · apply hsame.maxLogicalConns
  | some m =>
      rw [hst] at hcontrol
      obtain ⟨happend, hdrop⟩ := Accumulates.append hcontrol (packetPayload packet)
      obtain ⟨hlen, hm, hmchannel, -⟩ := hcontrol
      have hmne : (w.sar.controlIn.getD []).getD 0 0 &&& nciMtMask ≠ nciMtDataPkt := by
        intro hdata
        rw [hm, messageHdr, if_pos hdata] at hmchannel
        simp [MessageHdr.channel] at hmchannel
      have hmheader : m.header = .control ((w.sar.controlIn.getD []).getD 0 0 &&& nciMtMask)
          ((w.sar.controlIn.getD []).getD 0 0 &&& nciControlGidMask)
          ((w.sar.controlIn.getD []).getD 1 0 &&& nciControlOidMask) := by
        rw [hm, messageHdr, if_neg hmne]
      have hfits : (packet.getD 0 0 &&& nciMtMask
              = (w.sar.controlIn.getD []).getD 0 0 &&& nciMtMask
            ∧ packet.getD 0 0 &&& nciControlGidMask
              = (w.sar.controlIn.getD []).getD 0 0 &&& nciControlGidMask
            ∧ packet.getD 1 0 &&& nciControlOidMask
              = (w.sar.controlIn.getD []).getD 1 0 &&& nciControlOidMask)
          ↔ (segmentOf packet).header = m.header := by
        rw [hsegment, hheader, hmheader, MessageHdr.control.injEq]
      have hpos : 0 < (w.sar.controlIn.getD []).length := Nat.lt_of_lt_of_le (by decide) hlen
      rw [if_pos hpos]
      by_cases hsame : (segmentOf packet).header = m.header
      · rw [if_pos (hfits.mpr hsame)]
        by_cases hflag : packet.getD 0 0 &&& nciPbf = 0
        · have hmore' : (segmentOf packet).more = false := by rw [hmore]; simpa using hflag
          obtain ⟨hinput, hreports⟩ := hE.handleControlPacket
            (packet.getD 0 0 &&& nciControlGidMask) (packet.getD 1 0 &&& nciControlOidMask) hmt
            ((w.sar.controlIn.getD [] ++ packetPayload packet).drop nciHdrSize)
            (w.map fun sar => sar.setControlIn none)
          have hnone : Holds (w.sar.setControlIn none) (Function.update st .control none) :=
            h.setControlIn none rfl
          rw [if_pos hflag]
          constructor
          · rw [step, hchannel, hst]
            simp only [hsame, if_true, hmore', Bool.false_eq_true, if_false]
            have hdone := (hnone.of_sameInput hinput).setControlIn (m := none)
              (some ((nciSarHalHandleControlPacket E (packet.getD 0 0 &&& nciMtMask)
                (packet.getD 0 0 &&& nciControlGidMask) (packet.getD 1 0 &&& nciControlOidMask)
                ((w.sar.controlIn.getD [] ++ packetPayload packet).drop nciHdrSize)
                (w.map fun sar => sar.setControlIn none)).sar.controlIn.getD [])) (by
                rw [hinput.controlIn]
                rfl)
            rw [Function.update_idem] at hdone
            apply hdone
          · rw [step, hchannel, hst]
            simp only [hsame, if_true, hmore', Bool.false_eq_true, if_false, Option.toList_some]
            rw [← hsame, hsegment, hheader, hbody, ← hdrop]
            apply hreports
          · apply hinput.maxLogicalConns
        · have hmore' : (segmentOf packet).more = true := by rw [hmore]; simpa using hflag
          rw [if_neg hflag]
          constructor
          · rw [step, hchannel, hst]
            simp only [hsame, if_true, hmore']
            exact h.setControlIn (some _) happend
          · rw [step, hchannel, hst]
            simp only [hsame, if_true, hmore', Option.toList_none, List.append_nil]
            rfl
          · rfl
      · rw [if_neg fun hcond => hsame (hfits.mp hcond)]
        obtain ⟨hinput, hreports⟩ := hE.error w
        constructor
        · rw [step, hchannel, hst]
          simp only [hsame, if_false]
          apply h.of_sameInput hinput
        · rw [step, hchannel, hst, hreports]
          simp only [hsame, if_false, Option.toList_some]
        · apply hinput.maxLogicalConns

/-- Handling a segment of a data message is a step of the receiver. -/
theorem Reporting.handleDataSegment (hE : Reporting E) (h : Holds w.sar st)
    (hsize : sarFraming.size packet = some packet.length)
    (hmt : packet.getD 0 0 &&& nciMtMask = nciMtDataPkt)
    (hcid : packet.getD 0 0 &&& nciDataCidMask < w.sar.maxLogicalConns) :
  Follows w (nciSarHalHandleDataSegment E packet w) st (segmentOf packet)
  := by
  obtain ⟨hpayload, htake, -⟩ := packetPayload_of_whole hsize
  have hheader : messageHdr packet = .data (packet.getD 0 0 &&& nciDataCidMask) := if_pos hmt
  have hmore : (segmentOf packet).more = (packet.getD 0 0 &&& nciPbf != 0) := rfl
  have hbody : (segmentOf packet).body = packetPayload packet := rfl
  have hsegment : (segmentOf packet).header = messageHdr packet := rfl
  simp only [nciSarHalHandleDataSegment, if_pos hcid]
  generalize packet.getD 0 0 &&& nciDataCidMask = cid at hcid hheader ⊢
  have hchannel : (segmentOf packet).header.channel = .data cid.toNat := by
    rw [segmentOf, hheader]
    rfl
  have htaken := w.sar.sameInput_takeCredits cid.toNat (packet.getD 1 0 &&& nciDataCrMask)
  obtain ⟨w₁, hw₁⟩ : ∃ w₁ : World Log, w₁ = w.map fun sar =>
      nciSarTakeCredits sar cid.toNat (packet.getD 1 0 &&& nciDataCrMask) := ⟨_, rfl⟩
  have hsar : w₁.sar
      = nciSarTakeCredits w.sar cid.toNat (packet.getD 1 0 &&& nciDataCrMask) := by
    rw [hw₁]
    rfl
  have henv : w₁.env = w.env := by
    rw [hw₁]
    rfl
  rw [← hsar] at htaken
  have hholds := h.of_sameInput htaken
  have hdata := hholds.data cid.toNat (by
    rw [htaken.maxLogicalConns]
    apply hcid)
  rw [← hw₁]
  cases hst : st (.data cid.toNat) with
  | none =>
      rw [hst] at hdata
      have hinput : (w₁.sar.conn cid.toNat).input.getD [] = [] := hdata
      rw [hinput, if_neg (show ¬ 0 < ([] : List UInt8).length by simp), htake]
      by_cases hflag : packet.getD 0 0 &&& nciPbf ≠ 0
      · have hmore' : (segmentOf packet).more = true := by rw [hmore]; simpa using hflag
        rw [if_pos hflag]
        constructor
        · rw [step, hchannel, hst]
          simp only [hmore', if_true]
          apply hholds.setInput cid.toNat (some packet)
          have hfirst := accumulates_first hsize
          rw [← hsegment, hchannel] at hfirst
          apply hfirst
        · rw [step, hchannel, hst, ← henv]
          simp only [hmore', if_true, Option.toList_none, List.append_nil]
          rfl
        · apply htaken.maxLogicalConns
      · have hmore' : (segmentOf packet).more = false := by rw [hmore]; simpa using hflag
        obtain ⟨hsame, hreports⟩ := hE.handleDataPacket cid (packetPayload packet) w₁
        rw [if_neg hflag]
        constructor
        · rw [step, hchannel, hst]
          simp only [hmore', Bool.false_eq_true, if_false]
          apply hholds.of_sameInput hsame
        · rw [step, hchannel, hst, hreports, hsegment, hheader, hbody, henv]
          simp only [hmore', Bool.false_eq_true, if_false, Option.toList_some]
        · apply (htaken.trans hsame).maxLogicalConns
  | some m =>
      rw [hst] at hdata
      obtain ⟨happend, hdrop⟩ := Accumulates.append hdata (packetPayload packet)
      obtain ⟨hlen, -, hmchannel, -⟩ := hdata
      have hsame : (segmentOf packet).header = m.header := by
        rw [hsegment, hheader]
        cases hm : m.header with
        | control mt gid oid => simp [hm, MessageHdr.channel] at hmchannel
        | data cid' =>
            rw [hm, MessageHdr.channel, Channel.data.injEq] at hmchannel
            rw [UInt8.toNat_inj.mp hmchannel]
      have hpos : 0 < ((w₁.sar.conn cid.toNat).input.getD []).length :=
        Nat.lt_of_lt_of_le (by decide) hlen
      rw [if_pos hpos]
      by_cases hflag : packet.getD 0 0 &&& nciPbf = 0
      · have hmore' : (segmentOf packet).more = false := by rw [hmore]; simpa using hflag
        obtain ⟨hinput, hreports⟩ := hE.handleDataPacket cid
          (((w₁.sar.conn cid.toNat).input.getD [] ++ packetPayload packet).drop nciHdrSize)
          (w₁.map fun sar => sar.setInput cid.toNat none)
        have hnone : Holds (w₁.sar.setInput cid.toNat none)
            (Function.update st (.data cid.toNat) none) := hholds.setInput cid.toNat none rfl
        rw [if_pos hflag, if_pos (by
          rw [hinput.connTable]
          apply htaken.connTable.symm)]
        constructor
        · rw [step, hchannel, hst]
          simp only [hsame, if_true, hmore', Bool.false_eq_true, if_false]
          have hdone := (hnone.of_sameInput hinput).setInput cid.toNat (m := none)
            (some (((E.handleDataPacket cid
              (((w₁.sar.conn cid.toNat).input.getD [] ++ packetPayload packet).drop nciHdrSize)
              (w₁.map fun sar => sar.setInput cid.toNat none)).sar.conn cid.toNat).input.getD
                [])) (by
              rw [hinput.input]
              simp [World.map, NciSar.setInput, NciSar.modifyConn, Accumulates])
          rw [Function.update_idem] at hdone
          apply hdone
        · rw [step, hchannel, hst]
          simp only [hsame, if_true, hmore', Bool.false_eq_true, if_false, Option.toList_some]
          rw [← hsame, hsegment, hheader, hbody, ← hdrop, ← henv]
          apply hreports
        · rw [World.map, NciSar.setInput, NciSar.modifyConn, hinput.maxLogicalConns]
          apply htaken.maxLogicalConns
      · have hmore' : (segmentOf packet).more = true := by rw [hmore]; simpa using hflag
        rw [if_neg hflag]
        constructor
        · rw [step, hchannel, hst]
          simp only [hsame, if_true, hmore']
          exact hholds.setInput cid.toNat (some _) happend
        · rw [step, hchannel, hst, ← henv]
          simp only [hsame, if_true, hmore', Option.toList_none, List.append_nil]
          rfl
        · apply htaken.maxLogicalConns

/-- Handling a packet of a message that can be received is a step of the receiver. -/
theorem Reporting.handleSegment (hE : Reporting E) (h : Holds w.sar st)
    (hsize : sarFraming.size packet = some packet.length)
    (hreceivable : (messageHdr packet).Receivable w.sar.maxLogicalConns) :
  Follows w (nciSarHalHandleSegment E packet w) st (segmentOf packet)
  := by
  simp only [nciSarHalHandleSegment]
  rw [messageHdr] at hreceivable
  by_cases hdata : packet.getD 0 0 &&& nciMtMask = nciMtDataPkt
  · rw [if_pos hdata] at hreceivable ⊢
    apply hE.handleDataSegment h hsize hdata hreceivable
  · rw [if_neg hdata] at hreceivable ⊢
    have hmt : packet.getD 0 0 &&& nciMtMask = nciMtRspPkt
        ∨ packet.getD 0 0 &&& nciMtMask = nciMtNtfPkt := hreceivable
    rw [if_pos hmt]
    apply hE.handleControlSegment h hsize hmt

/-- Handling packets one after another is a run of the receiver. -/
theorem Reporting.handlePackets (hE : Reporting E) (packets : List (List UInt8)) :
  ∀ {w : World Log} {st : Partial Channel MessageHdr UInt8}, Holds w.sar st →
    (∀ packet ∈ packets, sarFraming.size packet = some packet.length
      ∧ (messageHdr packet).Receivable w.sar.maxLogicalConns) →
    Holds (Nci.handlePackets E packets w).sar
        (run MessageHdr.channel st (packets.map segmentOf)).1
      ∧ Nci.reports (Nci.handlePackets E packets w).env
        = Nci.reports w.env ++ (run MessageHdr.channel st (packets.map segmentOf)).2
  := by
  induction packets with
  | nil =>
      intro w st h _
      use h
      apply (List.append_nil _).symm
  | cons packet packets ih =>
      intro w st h hpackets
      obtain ⟨hsize, hreceivable⟩ := hpackets packet List.mem_cons_self
      have hstep := hE.handleSegment h hsize hreceivable
      obtain ⟨hholds, hreports⟩ := ih hstep.holds (by
        intro packet' hpacket'
        rw [hstep.maxLogicalConns]
        apply hpackets packet' (List.mem_cons_of_mem _ hpacket'))
      use hholds
      rw [Nci.handlePackets, List.foldl_cons, ← Nci.handlePackets, hreports, hstep.reports,
        List.append_assoc]
      rfl

end

/-! ### Every message is delivered -/

/-- Packets that can be received are handled as the receiver of their segments does, in whatever
chunks they arrive. -/
theorem App.readChunks_run (A : App Call.Steady) (n : Nat) {w : World Log} (hw : w.tail = [])
    {st : Partial Channel MessageHdr UInt8} (hholds : Holds w.sar st) (packets : List (List UInt8))
    (hpackets : ∀ packet ∈ packets, sarFraming.size packet = some packet.length
      ∧ (messageHdr packet).Receivable w.sar.maxLogicalConns)
    {chunks : List (List UInt8)} (hchunks : chunks.flatten = packets.flatten) :
  reports (readChunks (A.env n) chunks w).env
      = reports w.env ++ (Reassembly.run MessageHdr.channel st (packets.map segmentOf)).2
    ∧ Holds (readChunks (A.env n) chunks w).sar
      (Reassembly.run MessageHdr.channel st (packets.map segmentOf)).1
    ∧ (readChunks (A.env n) chunks w).tail = []
  := by
  have hE := A.env_reporting (fun _ h => h) n
  have hblind := (A.env_blind (fun _ h => h) n).client
  have hincomplete : sarFraming.Incomplete [] := rfl
  have hframes : sarFraming.frames (w.tail ++ chunks.flatten) = (packets, []) := by
    have h := sarFraming.frames_of_whole (fun packet hpacket => (hpackets packet hpacket).1) []
    rw [List.append_nil, sarFraming.frames_of_incomplete hincomplete, List.append_nil] at h
    rw [hw, List.nil_append, hchunks, h]
  obtain ⟨hrest, htail⟩ := hblind.readChunks chunks w (by
    rw [hw]
    apply hincomplete)
  rw [hframes] at hrest htail
  obtain ⟨hdone, hreports⟩ := hE.handlePackets packets hholds hpackets
  have hrest' : Holds (readChunks (A.env n) chunks w).rest.sar
      (Reassembly.run MessageHdr.channel st (packets.map segmentOf)).1 := by
    rw [hrest]
    exact ⟨hdone.control, hdone.data⟩
  constructor
  · calc
      reports (readChunks (A.env n) chunks w).env
          = reports (readChunks (A.env n) chunks w).rest.env := rfl
      _ = reports w.env ++ (Reassembly.run MessageHdr.channel st (packets.map segmentOf)).2 := by
          rw [hrest]
          apply hreports
  · exact ⟨⟨hrest'.control, hrest'.data⟩, htail⟩

/-- Messages have been cut into segments, and packets that carry these segments arrive in any
chunks, interleaved in any way that leaves those of control messages, and those of every
connection, in their places. If no unfinished message is there, then every message is
delivered once, with its header and all of its payload, in the order of the last segments.
There are no errors, and no unfinished message is left. -/
theorem reassembly (A : App Call.Steady) (n : Nat) (w : World Log)
    (hw : w.tail = []) (hholds : Holds w.sar fun _ => none)
    (packets : List (List UInt8)) (msgs : Channel → List (Message MessageHdr UInt8))
    (hpackets : ∀ packet ∈ packets, sarFraming.size packet = some packet.length)
    (hreceivable : ∀ c, ∀ m ∈ msgs c, m.header.Receivable w.sar.maxLogicalConns)
    (hmsgs : Interleaved MessageHdr.channel (packets.map segmentOf) msgs)
    (chunks : List (List UInt8)) (hchunks : chunks.flatten = packets.flatten) :
  ∃ delivered, reports (readChunks (A.env n) chunks w).env
      = reports w.env ++ delivered.map .message
    ∧ InOrder MessageHdr.channel (packets.map segmentOf) msgs delivered
    ∧ Holds (readChunks (A.env n) chunks w).sar (fun _ => none)
    ∧ (readChunks (A.env n) chunks w).tail = []
  := by
  obtain ⟨delivered, hrun, horder⟩ := hmsgs.run
  obtain ⟨hreports, hdone, htail⟩ := A.readChunks_run n hw hholds packets (by
    intro packet hpacket
    use hpackets packet hpacket
    obtain ⟨m, hm, hheader⟩ := hmsgs.exists_message (List.mem_map_of_mem hpacket)
    have hheader' : messageHdr packet = m.header := hheader
    rw [hheader']
    apply hreceivable _ m hm) hchunks
  rw [hrun] at hreports hdone
  exact ⟨delivered, hreports, horder, hdone, htail⟩

/-- The segments of a notification and those of a data message arrive interleaved, and cut
inside a header. -/
theorem reassembly_interleaved :
  ∃ (w : World Log) (delivered : List (Message MessageHdr UInt8)),
    w = readChunks ((quietApp Call.Steady).env 1)
        [[0x71, 5, 1, 7, 0x10], [0, 0, 0x61, 5, 0, 0, 0, 2, 8, 9]] (World.start nciSarNew)
      ∧ reports w.env = delivered.map .message
      ∧ delivered.filter (fun m => m.header.channel = .control)
        = [⟨.control nciMtNtfPkt 1 5, [7]⟩]
      ∧ delivered.filter (fun m => m.header.channel = .data 0) = [⟨.data 0, [8, 9]⟩]
  := by
  obtain ⟨delivered, hreports, horder, -⟩ := reassembly (quietApp Call.Steady) 1
    (World.start nciSarNew) rfl ⟨rfl, fun _ _ => rfl⟩
    [[0x71, 5, 1, 7], [0x10, 0, 0], [0x61, 5, 0], [0, 0, 2, 8, 9]]
    (fun c => match c with
      | .control => [⟨.control nciMtNtfPkt 1 5, [7]⟩]
      | .data 0 => [⟨.data 0, [8, 9]⟩]
      | .data _ => [])
    (by decide)
    (by
      rintro (_ | _ | _) m hm
      · obtain rfl := List.mem_singleton.mp hm
        exact Or.inr rfl
      · obtain rfl := List.mem_singleton.mp hm
        exact show (0 : UInt8) < nciSarNew.maxLogicalConns by decide
      · cases hm)
    (by
      rintro (_ | _ | cid)
      · use [[⟨.control nciMtNtfPkt 1 5, true, [7]⟩, ⟨.control nciMtNtfPkt 1 5, false, []⟩]]
        exact ⟨.cons (.more (.last rfl)) .nil, by decide⟩
      · use [[⟨.data 0, true, []⟩, ⟨.data 0, false, [8, 9]⟩]]
        exact ⟨.cons (.more (.last rfl)) .nil, by decide⟩
      · use []
        have hchannels : ∀ s ∈ [[0x71, 5, 1, 7], [0x10, 0, 0], [0x61, 5, 0],
            [0, 0, 2, 8, 9]].map segmentOf,
            s.header.channel = .control ∨ s.header.channel = .data 0 := by decide
        use .nil
        apply List.filter_eq_nil_iff.mpr
        intro s hs
        rcases hchannels s hs with h | h <;> simp [h])
    [[0x71, 5, 1, 7, 0x10], [0, 0, 0x61, 5, 0, 0, 0, 2, 8, 9]] rfl
  exact ⟨_, delivered, rfl, hreports, horder.each .control, horder.each (.data 0)⟩

end Nci
