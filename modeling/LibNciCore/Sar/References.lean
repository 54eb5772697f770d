import LibNciCore.Sar.Callbacks
import LibNciCore.Sar.Segments

/-!
# References to connections

A data packet points to the entry of its connection in the table of connections. As long as the
table is not replaced while there are data packets that stay, every packet that is queued or being
written points to an entry of the table that is there, namely that of the connection that its
header names. This holds between the moves of a run, and in every state that is recorded while the
functions of the layer are at work.
-/

namespace Nci

open LinkedQueue

variable {P : Call → Prop} {A : App P} {p : NciSarPacketOut → Prop}

/-! ### What every packet keeps -/

/-- A property that packets have when they are queued, and keep while they are written and
cancelled. -/
structure PacketRule (p : NciSarPacketOut → Prop) : Prop where
  command : ∀ (sar : NciSar) (gid oid : UInt8) (payload : Option (List UInt8)) (f g : Option Nat),
    p (sar.newPacket none (nciMtCmdPkt ||| (gid &&& nciControlGidMask)) (oid &&& nciControlOidMask)
      payload f g)
  data : ∀ (sar : NciSar) (cid : UInt8) (payload : Option (List UInt8)) (f g : Option Nat),
    p (sar.newPacket (some ⟨sar.connTable, cid.toNat⟩) (cid &&& nciDataCidMask) 0 payload f g)
  segment : ∀ (out : NciSarPacketOut) (max : UInt8), p out → p (out.nextSegment max).1
  cancel : ∀ out : NciSarPacketOut, p out → p { out with complete := none }

/-- Every packet that is allocated has a property. -/
def NciSar.Every (p : NciSarPacketOut → Prop) (sar : NciSar) : Prop :=
  ∀ a out, sar.packet a = some out → p out

namespace NciSar

variable {sar sar' : NciSar}

theorem Every.of_packet (h : sar.Every p) (hpacket : ∀ a, sar'.packet a = sar.packet a) :
  sar'.Every p
  := by
  intro a out hout
  rw [hpacket] at hout
  exact h a out hout

/-- A packet is changed. -/
theorem Every.modify (h : sar.Every p) {a : Nat} {f : NciSarPacketOut → NciSarPacketOut}
    (hl : sar'.lists = sar.lists.modify a f) (hf : ∀ out, p out → p (f out)) :
  sar'.Every p
  := by
  intro b out hout
  rw [← lists_packet, hl] at hout
  by_cases hba : b = a
  · subst hba
    simp only [Lists.modify, Function.update_self] at hout
    obtain ⟨out', hout', rfl⟩ := Option.map_eq_some_iff.mp hout
    exact hf out' (h b out' hout')
  · simp only [Lists.modify, Function.update_of_ne hba] at hout
    exact h b out hout

/-- A packet is queued. -/
theorem Every.send (h : sar.Every p) (hw : sar.WF) {k : QueueKey} {b0 b1 : UInt8}
    {payload : Option (List UInt8)} {f g : Option Nat}
    (hnew : p (sar.newPacket (sar.connPtr k) b0 b1 payload f g)) :
  (nciSarSend sar k (sar.connPtr k) b0 b1 payload f g).2.Every p
  := by
  obtain ⟨-, hl, -⟩ := hw.send k b0 b1 payload f g
  intro a out hout
  rw [← lists_packet, hl] at hout
  by_cases ha : a = sar.nextAddr
  · subst ha
    simp only [Lists.append, lists_nextAddr, Function.update_self] at hout
    rw [← Option.some.inj hout]
    exact hnew
  · simp only [Lists.append, lists_nextAddr, Function.update_of_ne ha] at hout
    exact h a out hout

theorem Every.dealloc (h : sar.Every p) (a : Nat) :
  (sar.dealloc a).Every p
  := by
  intro b out hout
  rw [packet_dealloc] at hout
  split at hout
  · cases hout
  · exact h b out hout

end NciSar

/-- Clearing queues changes no packet that is left. -/
theorem Freeing.every {E : SarEnv Log} (hE : E.Discreet) {gone : List Nat} {w w' : World Log}
    (h : Freeing E gone w w') (hw : w.sar.Every p) :
  w'.sar.Every p
  := by
  induction h with
  | refl => exact hw
  | tail _ hstep ih =>
      cases hstep with
      | edit sar _ hheap =>
          apply ih.of_packet
          intro a
          rw [NciSar.packet, NciSar.packet, hheap]
      | free _ =>
          rw [hE.packetOutFree]
          exact ih.dealloc _

/-- A move of the layer. -/
theorem Move.every {E : SarEnv Log} (hE : E.Discreet) (hp : PacketRule p) {x y : Moment Log}
    (h : Move E x y) (hx : x.Sound) (hevery : x.1.sar.Every p) :
  y.1.sar.Every p
  := by
  cases h with
  | tuned sar _ htuned => exact hevery.of_packet htuned.same.packet
  | selected _ _ => exact hevery.of_packet hx.sar.wf.sameLines_select.packet
  | @handed w S a _ hpending ha _ =>
      obtain ⟨out, -, -, hl⟩ := submit_spec E hx.sar ha hpending
      exact hevery.modify hl fun out' => hp.segment out' _
  | @refused w S a _ hpending ha _ =>
      obtain ⟨out, -, -, hl⟩ := submit_spec E hx.sar ha hpending
      have hcut := hevery.modify hl fun out' => hp.segment out' _
      exact hcut.of_packet fun _ => rfl
  | skipped _ => exact hevery
  | freed =>
      rw [hE.packetOutFree]
      exact hevery.dealloc _

section

variable {perform : List (Subtype P) → World Log → World Log} {w : World Log} {S : List Leaving}

/-- A packet is cancelled. -/
theorem NciSar.Every.cancel {E : SarEnv Log} (hE : E.Discreet) (hp : PacketRule p)
    (hw : w.sar.WF) (hevery : w.sar.Every p) (id : UInt32) :
  (nciSarCancel E id w).sar.Every p
  := by
  have heffect : (w.sar.cancelEffect id).Every p := by
    rcases hw.cancel_cases id with ⟨a, -, -, heq⟩ | ⟨k, a, -, -, heq, -, hl⟩ | ⟨-, heq⟩
    · obtain ⟨-, hl⟩ := hw.modifyPacket a (f := fun out => { out with complete := none })
        (fun _ => rfl) (fun _ => rfl) (fun _ _ => rfl)
      rw [heq]
      exact hevery.modify hl hp.cancel
    · rw [heq]
      apply hevery.of_packet
      intro b
      rw [← NciSar.lists_packet, hl]
      rfl
    · rw [heq]
      exact hevery
  rw [nciSarCancel_eq]
  split
  · rw [hE.packetOutFree]
    exact heffect.dealloc _
  · exact heffect

/-- A function is called that does not reset the layer. -/
theorem NciSar.Every.call {E : SarEnv Log} (hE : E.Discreet) (hp : PacketRule p)
    (hw : w.sar.WF) (hevery : w.sar.Every p) (c : Call) (hreset : c ≠ .reset) {fuel : Nat}
    (htame : (Entry.called c w.sar.snapshot).Tame fuel) :
  (c.perform E fuel w).sar.Every p
  := by
  have htuned : ∀ {sar : NciSar}, w.sar.Tuned sar → sar.Every p := fun h =>
    hevery.of_packet h.same.packet
  cases c with
  | start =>
      apply htuned
      rw [Call.perform, nciSarStart]
      split
      · exact NciSar.tuned_refl _
      · exact NciSar.tuned_setStarted _ _
  | reset => exact absurd rfl hreset
  | setMaxLogicalConnections max =>
      have hfreeing : Freeing E (w.sar.cids.flatMap fun cid => w.sar.queued (.out cid)) w
          (nciSarSetMaxLogicalConnections E fuel max w) := by
        apply hE.freeing_setMaxLogicalConnections max hw htame.1
        intro cid a _ hlt ha
        exact List.mem_flatMap.mpr ⟨cid, List.mem_range.mpr hlt, ha⟩
      exact hfreeing.every hE hevery
  | setMaxControlPayloadSize max => exact htuned (NciSar.tuned_setMaxControlPayloadSize _ _)
  | setMaxDataPayloadSize max => exact htuned (NciSar.tuned_setMaxDataPayloadSize _ _)
  | setInitialCredits cid credits => exact htuned (NciSar.tuned_setInitialCredits _ _ _)
  | addCredits cid credits => exact htuned (NciSar.tuned_addCredits _ _ _)
  | sendCommand gid oid payload f g =>
      exact hevery.send hw (k := .cmd) (hp.command _ gid oid payload f g)
  | sendDataPacket cid payload f g =>
      rw [Call.perform]
      simp only [nciSarSendDataPacket, World.map]
      split
      · exact hevery.send hw (k := .out cid.toNat) (hp.data _ cid payload f g)
      · exact hevery
  | cancel id => exact hevery.cancel hE hp hw id

/-- The layer is reset. -/
theorem NciSar.Every.reset {E : SarEnv Log} (hE : E.Discreet) (hw : w.sar.Sound)
    (hevery : w.sar.Every p) {fuel : Nat} (hfuel : w.sar.nextAddr < fuel) :
  (nciSarResetClear E fuel w).sar.Every p
  := by
  have hio : (nciSarResetIo E w).sar.Every p := by
    apply hevery.of_packet
    intro a
    rw [resetIo_sar E hw.pending]
    rfl
  have hfreeing := hE.freeing_resetClear hw hfuel fun _ ha => ha
  exact hfreeing.every hE hio

end

/-- Every move keeps a property of packets. -/
theorem AppMove.every (hA : A.Discreet) (hp : PacketRule p) {x y : Moment Log} (h : AppMove A x y)
    (hx : x.Sound) (hevery : x.1.sar.Every p) (hy : ∀ e ∈ y.1.env, e.Tame A.fuel) :
  y.1.sar.Every p
  := by
  cases h with
  | layer perform hnil hmove => exact hmove.every (hA.env hnil) hp hx hevery
  | noted _ _ => exact hevery
  | received packet _ => exact hevery
  | @called w S c perform hnil _ _ hreset =>
      have hnoted : (w.record (.called c w.sar.snapshot)).sar.Every p := hevery
      have hwf : (w.record (.called c w.sar.snapshot)).sar.WF := hx.sar.wf
      apply hnoted.call (hA.env hnil) hp hwf c hreset
      apply hy (.called c w.sar.snapshot)
      apply (hA.longer_call hnil c hreset _ _).subset
      exact List.mem_append_right _ (List.mem_singleton_self _)
  | @reset w S perform hnil _ _ =>
      have hnoted : (w.record (.called .reset w.sar.snapshot)).sar.Every p := hevery
      have hsound : (w.record (.called .reset w.sar.snapshot)).sar.Sound := hx.sar
      apply hnoted.reset (hA.env hnil) hsound
      apply hy (.called .reset w.sar.snapshot)
      apply (hA.longer_reset hnil _ _).subset
      exact List.mem_append_right _ (List.mem_singleton_self _)
  | completed ok _ _ _ => exact hevery.of_packet fun _ => rfl
  | stray ok _ _ => exact hevery
  | reported _ => exact hevery

/-! ### Headers -/

/-- The header of a packet names the connection that it points to, but for the flag that says that
more segments follow. A packet without a connection is a command. -/
def NciSarPacketOut.Addressed (out : NciSarPacketOut) : Prop :=
  match out.conn with
  | some c => out.hdr.b0 &&& ~~~nciPbf = UInt8.ofNat c.index &&& nciDataCidMask
  | none => out.hdr.b0 &&& nciMtMask = nciMtCmdPkt

/-- The header of a segment is that of the packet, but for the flag that says that more segments
follow. -/
theorem header_nextSegment (out : NciSarPacketOut) (max : UInt8) :
  (out.nextSegment max).1.hdr.b0 &&& ~~~nciPbf = out.hdr.b0 &&& ~~~nciPbf
    ∧ (out.nextSegment max).1.hdr.b0 &&& nciMtMask = out.hdr.b0 &&& nciMtMask
  := by
  simp only [NciSarPacketOut.nextSegment]
  split
  · exact and_not_pbf _
  · exact (or_pbf _).2

theorem packetRule_addressed :
  PacketRule NciSarPacketOut.Addressed
  := by
  constructor
  · intro sar gid oid payload f g
    exact (cmd_b0 gid).2
  · intro sar cid payload f g
    show (cid &&& nciDataCidMask) &&& ~~~nciPbf = UInt8.ofNat cid.toNat &&& nciDataCidMask
    rw [UInt8.ofNat_toNat]
    exact (data_b0 cid).1
  · intro out max hout
    obtain ⟨hpbf, hmt⟩ := header_nextSegment out max
    rw [NciSarPacketOut.Addressed, NciSar.nextSegment_conn]
    rw [NciSarPacketOut.Addressed] at hout
    cases hconn : out.conn with
    | some c =>
        rw [hconn] at hout
        exact hpbf.trans hout
    | none =>
        rw [hconn] at hout
        exact hmt.trans hout
  · intro out hout
    exact hout

/-! ### References -/

/-- What a packet in the line of a queue refers to: a data packet to an entry of the table that
there is, the one of the connection that its header names and in whose line it is, and a command to
nothing. -/
def NciSar.Refers (sar : NciSar) (a : Nat) (out : NciSarPacketOut) : Prop :=
  match out.conn with
  | some c => c.table = sar.connTable ∧ c.index < sar.maxLogicalConns.toNat
      ∧ a ∈ sar.line (.out c.index)
      ∧ out.hdr.b0 &&& ~~~nciPbf = UInt8.ofNat c.index &&& nciDataCidMask
  | none => a ∈ sar.line .cmd ∧ out.hdr.b0 &&& nciMtMask = nciMtCmdPkt

/-- Every packet that is queued or being written is there and refers to where it belongs, and
choosing the packet to write follows no reference to a table that is gone. -/
structure NciSar.Referring (sar : NciSar) : Prop where
  refers : ∀ a, (sar.writing = some a ∨ ∃ k, a ∈ sar.queued k) →
    ∃ out, sar.packet a = some out ∧ sar.Refers a out
  select : sar.select.dangling = sar.dangling

theorem NciSar.dangling_charge (sar : NciSar) (k : QueueKey) :
  (sar.charge k).dangling = sar.dangling
  := by
  cases k with
  | cmd => rfl
  | out cid =>
      rw [NciSar.charge, NciSar.useCredit]
      split <;> rfl

theorem NciSar.dangling_relink (sar : NciSar) (k : QueueKey) (q : Queue)
    (heap : Heap NciSarPacketOut) (writing : Option Nat) :
  (sar.relink k q heap writing).dangling = sar.dangling
  := by cases k <;> rfl

/-- Choosing the packet to write follows no reference to a table that is gone. -/
theorem NciSar.WF.dangling_select {sar : NciSar} (hw : sar.WF) :
  sar.select.dangling = sar.dangling
  := by
  have hcontinue : (nciSarAttemptWriteContinue sar).dangling = sar.dangling := by
    rcases hw.continue_cases with ⟨-, heq⟩ | ⟨k, a, -, -, -, heq⟩ | ⟨cid, a, -, -, -, heq⟩
    · rw [heq]
    · rw [heq, dangling_charge]
    · rw [heq, NciSar.putBackState, dangling_relink]
  rw [← hcontinue]
  rcases hw.select.1.pick_cases with ⟨a, -, heq⟩ | ⟨-, -, heq⟩ | ⟨k, a, l, -, -, -, heq⟩
  · rw [NciSar.select, heq]
  · rw [NciSar.select, heq]
  · rw [NciSar.select, heq, NciSar.pickState, dangling_relink, dangling_charge]

/-- The packets of a state are in their places, and those that refer to a connection name it. -/
structure NciSar.InPlace (sar : NciSar) : Prop where
  wf : sar.WF
  beyond : ∀ cid, sar.maxLogicalConns.toNat ≤ cid → sar.line (.out cid) = []
  addressed : sar.Every NciSarPacketOut.Addressed

namespace NciSar

variable {sar sar' : NciSar}

theorem InPlace.referring (h : sar.InPlace) :
  sar.Referring
  := by
  refine ⟨?_, h.wf.dangling_select⟩
  intro a ha
  have howned : ∃ k, sar.Owned k a := by
    rcases ha with hwriting | ⟨k, hk⟩
    · exact (h.wf.writing a hwriting).1
    · exact ⟨k, h.wf.owned k a hk⟩
  obtain ⟨k, hk⟩ := howned
  have hline : a ∈ sar.line k := by
    rcases ha with hwriting | ⟨k', hk'⟩
    · exact h.wf.mem_line.mpr (Or.inr ⟨hwriting, hk⟩)
    · obtain rfl := h.wf.mem_unique hk' hk
      exact h.wf.mem_line.mpr (Or.inl hk')
  obtain ⟨-, out, hout, hconn⟩ := hk
  have haddressed := h.addressed a out hout
  refine ⟨out, hout, ?_⟩
  rw [NciSarPacketOut.Addressed, hconn] at haddressed
  rw [NciSar.Refers, hconn]
  cases k with
  | cmd => exact ⟨hline, haddressed⟩
  | out cid =>
      refine ⟨rfl, ?_, hline, haddressed⟩
      by_contra hle
      rw [h.beyond cid (Nat.not_lt.mp hle)] at hline
      cases hline

/-- A change that leaves the packets where they are. -/
theorem InPlace.of_same (h : sar.InPlace) (hs : SameQueues sar sar')
    (hmax : sar'.maxLogicalConns = sar.maxLogicalConns)
    (hcontrol : sar'.controlPayloadLimit = sar.controlPayloadLimit)
    (hdata : sar'.dataPayloadLimit = sar.dataPayloadLimit) :
  sar'.InPlace
  := by
  constructor
  · apply hs.wf h.wf
    · rw [hcontrol]
      exact h.wf.control
    · rw [hdata]
      exact h.wf.data
  · intro cid hcid
    rw [hs.line]
    rw [hmax] at hcid
    exact h.beyond cid hcid
  · exact h.addressed.of_packet hs.packet

/-- What is recorded of a state. -/
theorem InPlace.snapshot (h : sar.InPlace) :
  sar.snapshot.InPlace
  := h.of_same (by apply sameQueues_of_fields <;> rfl) rfl rfl rfl

/-- A segment is cut off. -/
theorem InPlace.cutSegment (h : sar.InPlace) {a : Nat} {out : NciSarPacketOut}
    (hout : sar.heap a = some out) :
  (sar.cutSegment a out).InPlace
  := by
  obtain ⟨hwf, hl⟩ := h.wf.cutSegment hout
  refine ⟨hwf, ?_, h.addressed.modify hl fun out' => packetRule_addressed.segment out' _⟩
  intro cid hcid
  rw [line, hl, Lists.line_modify]
  · exact h.beyond cid hcid
  · intro x
    rw [NciSarPacketOut.key, NciSarPacketOut.key, nextSegment_conn]

end NciSar

theorem Moment.Intact.inPlace {x : Moment Log} (hx : x.Intact)
    (hevery : x.1.sar.Every NciSarPacketOut.Addressed) :
  x.1.sar.InPlace
  := ⟨hx.sound.sar.wf, hx.beyond, hevery⟩

/-! ### What is recorded -/

/-- The packets of the state that is recorded refer to where they belong. -/
def Entry.Referring : Entry → Prop
  | .called _ sar | .received _ sar | .completed _ sar | .halStart _ sar | .halWrite _ _ sar =>
      sar.Referring
  | _ => True

theorem referring_record {w : World Log} {e : Entry} (h : ∀ e ∈ w.env, e.Referring)
    (he : e.Referring) :
  ∀ e' ∈ (w.record e).env, e'.Referring
  := List.forall_mem_append.mpr ⟨h, List.forall_mem_singleton.mpr he⟩

section

variable {perform : List (Subtype P) → World Log → World Log} {w : World Log}

/-- While packets are dropped, no state is recorded. -/
theorem App.Discreet.dropping (hA : A.Discreet) (hnil : ∀ w, perform [] w = w) :
  (A.envWith perform).Dropping fun env => ∀ e ∈ env, e.Referring
  := by
  constructor
  · intro sar env h
    exact referring_record (w := ⟨sar, env⟩) (e := .halStop) h trivial
  · intro sar env h
    exact referring_record (w := ⟨sar, env⟩) (e := .halCancelWrite) h trivial
  · intro f w h
    rw [hA.destroy hnil]
    exact referring_record (e := .destroy f) h trivial

/-- The HAL is started. -/
theorem App.referring_start (A : App P) (hw : w.sar.InPlace) (h : ∀ e ∈ w.env, e.Referring) :
  ∀ e ∈ (nciSarStart (A.envWith perform) w).env, e.Referring
  := by
  rw [nciSarStart]
  split
  · exact h
  · exact referring_record (e := .halStart _ w.sar.snapshot) h hw.snapshot.referring

/-- A segment is handed to the HAL. -/
theorem App.referring_submit (A : App P) (hw : w.sar.InPlace) (h : ∀ e ∈ w.env, e.Referring)
    (a : Nat) :
  ∀ e ∈ (nciSarAttemptWriteSubmit (A.envWith perform) a w).2.env, e.Referring
  := by
  rw [nciSarAttemptWriteSubmit]
  split
  · rename_i out hout
    obtain ⟨cut, hcut⟩ : ∃ cut : World Log, cut = w.map fun self => self.cutSegment a out :=
      ⟨_, rfl⟩
    have hin : cut.sar.InPlace := by
      rw [hcut]
      exact hw.cutSegment hout
    have hstart : ∀ e ∈ (nciSarStart (A.envWith perform) cut).env, e.Referring :=
      A.referring_start hin (by rw [hcut]; exact h)
    have hstarted : (nciSarStart (A.envWith perform) cut).sar.InPlace := by
      rw [nciSarStart]
      split
      · exact hin
      · exact hin.of_same (by apply NciSar.sameQueues_of_fields <;> rfl) rfl rfl rfl
    rw [← hcut, nciSarAttemptWriteRequest]
    split
    · have hpending : ((nciSarStart (A.envWith perform) cut).sar.setWritePending true).InPlace :=
        hstarted.of_same (by apply NciSar.sameQueues_of_fields <;> rfl) rfl rfl rfl
      exact referring_record (w := nciSarStart (A.envWith perform) cut)
        (e := .halWrite _ _ _) hstart hpending.snapshot.referring
    · exact hstart
  · exact h

end

/-- A move of the layer records states in which the packets refer to where they belong. -/
theorem AppMove.referring (hA : A.Discreet) {x y : Moment Log} (hmove : AppMove A x y)
    (hx : x.1.sar.InPlace) (h : ∀ e ∈ x.1.env, e.Referring) :
  ∀ e ∈ y.1.env, e.Referring
  := by
  cases hmove with
  | layer perform hnil hmove =>
      cases hmove with
      | tuned _ _ _ => exact h
      | selected _ _ => exact h
      | handed _ _ _ _ => exact A.referring_submit hx h _
      | refused _ _ _ _ => exact A.referring_submit hx h _
      | skipped _ => exact h
      | freed => exact (hA.dropping hnil).packetOutFree _ h
  | @noted w S e _ he =>
      apply referring_record h
      cases e <;> trivial
  | received packet _ => exact referring_record (e := .received packet _) h hx.snapshot.referring
  | @called w S c perform hnil _ _ hreset =>
      have hcalled := referring_record (e := .called c w.sar.snapshot) h hx.snapshot.referring
      cases c with
      | start =>
          exact A.referring_start (w := w.record (.called .start w.sar.snapshot)) hx hcalled
      | reset => exact absurd rfl hreset
      | setMaxLogicalConnections max =>
          exact (hA.dropping hnil).setMaxLogicalConnections _ _ hcalled
      | cancel id => exact (hA.dropping hnil).cancel _ hcalled
      | setMaxControlPayloadSize max => exact hcalled
      | setMaxDataPayloadSize max => exact hcalled
      | setInitialCredits cid credits => exact hcalled
      | addCredits cid credits => exact hcalled
      | sendCommand gid oid payload f g => exact hcalled
      | sendDataPacket cid payload f g => exact hcalled
  | @reset w S perform hnil _ _ =>
      have hcalled := referring_record (e := .called .reset w.sar.snapshot) h hx.snapshot.referring
      exact (hA.dropping hnil).resetClear _ hcalled
  | completed ok _ _ _ => exact referring_record (e := .completed ok _) h hx.snapshot.referring
  | stray ok _ _ => exact referring_record (e := .completed ok _) h hx.snapshot.referring
  | @reported w S a f ok _ => exact referring_record (e := .complete f ok) h trivial

/-- At every moment between the moves of a run, and in every state that is recorded, the packets
refer to where they belong, as long as the destroy functions call nothing and the number of
connections is not changed while there are data packets that stay. The states that are recorded are
those in which a function is called, by the client or in a callback, in which the HAL is started or
given a segment, and in which it reports the end of a write or delivers a packet. Resets and
changes of the number of connections are single moves. -/
theorem referencesStayValid (A : App P) (hA : A.Discreet) {x : Moment Log}
    (h : AppMoves A (World.start nciSarNew, []) x) (htame : ∀ e ∈ x.1.env, e.Tame A.fuel) :
  x.1.sar.Referring ∧ ∀ e ∈ x.1.env, e.Referring
  := by
  have hstart : (World.start nciSarNew).sar.Every NciSarPacketOut.Addressed := by
    intro a out hout
    cases hout
  have hkept := AppMoves.induction hA
    (I := fun x => (x.Intact ∧ x.1.sar.Every NciSarPacketOut.Addressed)
      ∧ ∀ e ∈ x.1.env, e.Referring)
    (p := fun log => ∀ e ∈ log, e.Tame A.fuel) forall_of_prefix ?_ h
    ⟨⟨intact_start, hstart⟩, fun _ he => absurd he List.not_mem_nil⟩ htame
  · exact ⟨(hkept.1.1.inPlace hkept.1.2).referring, hkept.2⟩
  · rintro x y hmove ⟨⟨hx, hevery⟩, hlog⟩ hy
    exact ⟨⟨hmove.intact hA hx hy, hmove.every hA packetRule_addressed hx.sound hevery hy⟩,
      hmove.referring hA (hx.inPlace hevery) hlog⟩

/-- The number of connections is changed twice, and a data packet is queued in between on a
connection that is given up. Then a command is handed to the HAL. -/
theorem referencesStayValid_resized :
  ∃ w : World Log, w = passiveApp.run 0 (World.start nciSarNew)
      [.call ⟨.setMaxLogicalConnections 3, trivial⟩,
        .call ⟨.sendDataPacket 2 (some [1, 2]) none none, trivial⟩,
        .call ⟨.setMaxLogicalConnections 2, trivial⟩,
        .call ⟨.sendDataPacket 1 (some [3]) none none, trivial⟩,
        .call ⟨.sendCommand 0 0 none none none, trivial⟩, .idle]
    ∧ w.sar.connTable = 2 ∧ w.sar.queued (.out 1) = [1] ∧ w.sar.writing = some 2
    ∧ w.sar.Referring ∧ w.env.Forall Entry.Referring
  := by
  have hvalid := referencesStayValid passiveApp (fun _ _ => rfl)
    (passiveApp.run_moves 0 (World.start nciSarNew)
      [.call ⟨.setMaxLogicalConnections 3, trivial⟩,
        .call ⟨.sendDataPacket 2 (some [1, 2]) none none, trivial⟩,
        .call ⟨.setMaxLogicalConnections 2, trivial⟩,
        .call ⟨.sendDataPacket 1 (some [3]) none none, trivial⟩,
        .call ⟨.sendCommand 0 0 none none none, trivial⟩, .idle]) (by decide)
  exact ⟨_, rfl, by decide, by decide, by decide, hvalid.1, List.forall_iff_forall_mem.mpr hvalid.2⟩

end Nci
