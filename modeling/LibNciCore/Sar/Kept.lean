import LibNciCore.Sar.Clearing

/-!
# What every move keeps

Every move keeps the state well formed, and a packet that is neither queued nor being written
stays so. No move touches what surrounds the layer other than through the HAL and through the
destroy functions of packets.
-/

namespace Nci

open LinkedQueue

variable {ε : Type} {E : SarEnv ε}

/-- The state is well formed, and the packets on their way out have left it. -/
structure Moment.Sound (x : Moment ε) : Prop where
  sar : x.1.sar.Sound
  leaving : ∀ l ∈ x.2, x.1.sar.Detached l.addr

/-! ### Handing over a segment -/

/-- What handing over a segment does to the state: the segment is cut off, and the write is
pending if the HAL has taken it. -/
theorem submit_sar (E : SarEnv ε) {w : World ε} {a : Nat} {out : NciSarPacketOut}
    (hout : w.sar.heap a = some out) (hpending : w.sar.writePending = false) :
  ∃ started, (nciSarAttemptWriteSubmit E a w).2.sar
    = ((w.sar.cutSegment a out).setStarted started).setWritePending
        (nciSarAttemptWriteSubmit E a w).1
  := by
  obtain ⟨cut, hcut⟩ : ∃ cut, cut = w.sar.cutSegment a out := ⟨_, rfl⟩
  have hcutPending : cut.writePending = false := by
    rw [hcut]
    apply hpending
  have hsame : ∀ sar : NciSar, sar.writePending = false → sar.setWritePending false = sar := by
    intro sar h
    rw [NciSar.setWritePending, ← h]
  obtain ⟨started, hstart⟩ : ∃ started, (nciSarStart E ⟨cut, w.env⟩).sar
      = cut.setStarted started := by
    rw [nciSarStart]
    split
    · use cut.started
      rfl
    · exact ⟨_, rfl⟩
  use started
  rw [nciSarAttemptWriteSubmit, hout]
  simp only [World.map, ← hcut]
  rw [nciSarAttemptWriteRequest]
  split
  · simp only [World.map, hstart]
    rfl
  · simp only [hstart]
    rw [hsame]
    exact hcutPending

/-- A segment is cut off: the packets stay where they are. -/
theorem submit_spec (E : SarEnv ε) {w : World ε} (hw : w.sar.Sound) {a : Nat}
    (ha : w.sar.writing = some a) (hpending : w.sar.writePending = false) :
  ∃ out, w.sar.heap a = some out ∧ (nciSarAttemptWriteSubmit E a w).2.sar.WF
    ∧ (nciSarAttemptWriteSubmit E a w).2.sar.lists
      = w.sar.lists.modify a fun x => (x.nextSegment (w.sar.maxPayloadSize out)).1
  := by
  obtain ⟨⟨k, hk⟩, -⟩ := hw.wf.writing a ha
  obtain ⟨out, hout⟩ : ∃ out, w.sar.heap a = some out := by
    obtain ⟨-, x, hx, -⟩ := hk
    obtain ⟨out, hout, -⟩ := Option.map_eq_some_iff.mp hx
    use out
  obtain ⟨started, hsar⟩ := submit_sar E hout hpending
  obtain ⟨hwf, hl⟩ := hw.wf.cutSegment hout
  have hs : NciSar.SameQueues (w.sar.cutSegment a out)
      (nciSarAttemptWriteSubmit E a w).2.sar := by
    rw [hsar]
    apply NciSar.sameQueues_of_fields <;> rfl
  use out, hout
  constructor
  · apply hs.wf hwf
    · rw [hsar]
      apply hwf.control
    · rw [hsar]
      apply hwf.data
  · rw [hs.lists, hl]

/-! ### Moves keep the state well formed -/

/-- Every packet is queued, being written, or has left. -/
theorem NciSar.detached_dropped {sar : NciSar} (hw : sar.WF) {a : Nat}
    (ha : sar.writing = some a) :
  (sar.setWriting none).Detached a
  := by
  obtain ⟨⟨k, hk⟩, hn⟩ := hw.writing a ha
  use hk.1
  constructor
  · intro k'
    have hq : (sar.setWriting none).queued k' = sar.queued k' := by cases k' <;> rfl
    rw [hq]
    apply hn
  · simp [NciSar.setWriting]

theorem NciSar.Detached.dropped {sar : NciSar} {a : Nat} (h : sar.Detached a) :
  (sar.setWriting none).Detached a
  := by
  use h.1
  constructor
  · intro k'
    have hq : (sar.setWriting none).queued k' = sar.queued k' := by cases k' <;> rfl
    rw [hq]
    apply h.2.1
  · simp [NciSar.setWriting]

/-- A packet that is picked was queued, and one that is put back was being written. -/
theorem NciSar.WF.select_detached {sar : NciSar} (hw : sar.WF) {a : Nat} (h : sar.Detached a) :
  sar.select.Detached a
  := by
  obtain ⟨hcont, -⟩ := hw.select
  have h' : (nciSarAttemptWriteContinue sar).Detached a := by
    rcases hw.continue_cases with ⟨-, heq⟩ | ⟨k, b, -, -, -, heq⟩ | ⟨cid, b, hb, hk, -, heq⟩
    · rw [heq]
      apply h
    · rw [heq]
      apply h.of_lists (sameQueues_charge sar k).lists
    · obtain ⟨-, hl⟩ := hw.putBackState hb hk
      rw [heq, detached_iff, hl]
      use h.1
      constructor
      · intro k' hmem
        by_cases hk' : k' = .out cid
        · subst hk'
          simp only [Lists.putBack, Lists.relist, Function.update_self] at hmem
          rcases List.mem_cons.mp hmem with rfl | hmem
          · apply h.2.2 hb
          · apply h.2.1 _ hmem
        · simp only [Lists.putBack, Lists.relist, Function.update_of_ne hk'] at hmem
          apply h.2.1 k' hmem
      · simp [Lists.putBack, Lists.relist]
  rcases hcont.pick_cases with ⟨b, -, heq⟩ | ⟨-, -, heq⟩ | ⟨k, b, l, -, hl, -, heq⟩
  · rw [NciSar.select, heq]
    apply h'
  · rw [NciSar.select, heq]
    apply h'
  · have hpick := (hcont.pickState hl).2
    rw [NciSar.select, heq, detached_iff, hpick]
    use h'.1
    constructor
    · intro k' hmem
      by_cases hk' : k' = k
      · subst hk'
        simp only [Lists.pick, Lists.relist, Function.update_self, lists_queued, hl,
          List.tail_cons] at hmem
        apply h'.2.1 k'
        rw [hl]
        apply List.mem_cons_of_mem _ hmem
      · simp only [Lists.pick, Lists.relist, Function.update_of_ne hk'] at hmem
        apply h'.2.1 k' hmem
    · simp only [Lists.pick, Lists.relist, lists_queued, hl, List.head?_cons]
      intro hb
      apply h'.2.1 k
      rw [hl, Option.some.inj hb]
      apply List.mem_cons_self

/-- A packet that has left does not come back. -/
theorem Move.detached (hE : E.Discreet) {x y : Moment ε} (h : Move E x y) (hx : x.Sound)
    {a : Nat} (ha : x.1.sar.Detached a) :
  y.1.sar.Detached a
  := by
  cases h with
  | tuned sar _ htuned => apply ha.of_lists htuned.same.lists
  | selected _ _ => apply hx.sar.wf.select_detached ha
  | @handed w S b _ hpending hb _ =>
      obtain ⟨out, -, -, hl⟩ := submit_spec E hx.sar hb hpending
      rw [NciSar.detached_iff, hl]
      apply ha
  | @refused w S b _ hpending hb _ =>
      obtain ⟨out, -, -, hl⟩ := submit_spec E hx.sar hb hpending
      apply NciSar.Detached.dropped
      rw [NciSar.detached_iff, hl]
      apply ha
  | skipped _ => apply ha
  | @freed w S b =>
      have hb : w.sar.Detached b := hx.leaving (.free b) List.mem_cons_self
      rw [hE.packetOutFree, NciSar.detached_iff, (hx.sar.wf.free hb.2.1 hb.2.2).2]
      apply ha

/-- Every move keeps the state well formed. -/
theorem Move.sound (hE : E.Discreet) {x y : Moment ε} (h : Move E x y) (hx : x.Sound) :
  y.Sound
  := by
  have hdetached := fun a ha => h.detached hE hx (a := a) ha
  cases h with
  | tuned sar _ htuned =>
      constructor
      · use htuned.wf hx.sar.wf
        rw [htuned.writePending, htuned.same.writing]
        apply hx.sar.pending
      · intro l hl
        apply hdetached _ (hx.leaving l hl)
  | @selected w S _ hpending =>
      constructor
      · use hx.sar.wf.select.2
        intro hp
        rw [World.map, NciSar.writePending_select, hpending] at hp
        cases hp
      · intro l hl
        apply hdetached _ (hx.leaving l hl)
  | @handed w S b _ hpending hb _ =>
      obtain ⟨out, -, hwf, hl⟩ := submit_spec E hx.sar hb hpending
      have hwriting : (nciSarAttemptWriteSubmit E b w).2.sar.writing = w.sar.writing :=
        congrArg Lists.writing hl
      constructor
      · use hwf
        rw [hwriting, hb]
        intro _
        rfl
      · intro l hl
        apply hdetached _ (hx.leaving l hl)
  | @refused w S b _ hpending hb hok =>
      obtain ⟨out, hout, hwf, hl⟩ := submit_spec E hx.sar hb hpending
      have hwriting : (nciSarAttemptWriteSubmit E b w).2.sar.writing = some b := by
        rw [← hb]
        apply congrArg Lists.writing hl
      constructor
      · use hwf.forget
        obtain ⟨started, hsar⟩ := submit_sar E hout hpending
        intro hp
        have hp' : (nciSarAttemptWriteSubmit E b w).2.sar.writePending = true := hp
        rw [hsar, hok] at hp'
        cases hp'
      · intro l hl
        rcases List.mem_cons.mp hl with rfl | hl
        · apply NciSar.detached_dropped hwf hwriting
        · apply hdetached _ (hx.leaving l hl)
  | @skipped w S b ok _ =>
      use hx.sar
      intro l hl
      rcases List.mem_cons.mp hl with rfl | hl
      · apply hx.leaving (.finish b ok) List.mem_cons_self
      · apply hx.leaving l (List.mem_cons_of_mem _ hl)
  | @freed w S b =>
      have hb : w.sar.Detached b := hx.leaving (.free b) List.mem_cons_self
      constructor
      · rw [hE.packetOutFree]
        use (hx.sar.wf.free hb.2.1 hb.2.2).1
        apply hx.sar.pending
      · intro l hl
        apply hdetached _ (hx.leaving l (List.mem_cons_of_mem _ hl))

/-! ### The surroundings -/

/-- A property of the surroundings that is kept while packets are dropped: by the HAL when it is
stopped and by the destroy functions. -/
structure SarEnv.Dropping (E : SarEnv ε) (Q : ε → Prop) : Prop where
  halStop : ∀ sar env, Q env → Q (E.halStop sar env)
  halCancelWrite : ∀ sar env, Q env → Q (E.halCancelWrite sar env)
  destroy : ∀ f w, Q w.env → Q (E.destroy f w).env

/-- A property of the surroundings that the HAL and the destroy functions keep, as long as the
packet that is being written has a property. -/
structure SarEnv.Quietly (E : SarEnv ε) (W : Option Nat → Prop) (Q : ε → Prop) : Prop
    extends E.Dropping Q where
  halStart : ∀ sar env, Q env → Q (E.halStart sar env).2
  halWrite : ∀ chunks (sar : NciSar) env, W sar.writing → Q env → Q (E.halWrite chunks sar env).2

namespace SarEnv.Dropping

variable {Q : ε → Prop} (hQ : E.Dropping Q)

include hQ

theorem packetOutFree {w : World ε} (a : Nat) (h : Q w.env) :
  Q (nciSarPacketOutFree E a w).env
  := by
  rw [nciSarPacketOutFree]
  split
  · apply hQ.destroy _ _ h
  · apply h

theorem clearQueue (k : QueueKey) (fuel : Nat) {w : World ε} (h : Q w.env) :
  Q (nciSarClearQueue E k fuel w).env
  := by
  induction fuel generalizing w with
  | zero => apply h
  | succ fuel ih =>
      rw [nciSarClearQueue]
      split
      · apply ih
        apply hQ.packetOutFree
        apply h
      · apply h

theorem resetConns (fuel : Nat) (cids : List Nat) {w : World ε} (h : Q w.env) :
  Q (nciSarResetConns E fuel cids w).env
  := by
  induction cids generalizing w with
  | nil => apply h
  | cons cid cids ih =>
      rw [nciSarResetConns]
      split
      · apply ih
        apply hQ.clearQueue _ _ h
      · apply h

theorem resetIo {w : World ε} (h : Q w.env) :
  Q (nciSarResetIo E w).env
  := by
  simp only [nciSarResetIo]
  split_ifs
  · apply hQ.halStop _ _ (hQ.halCancelWrite _ _ h)
  · apply hQ.halCancelWrite _ _ h
  · apply hQ.halStop _ _ h
  · apply h
  · apply hQ.halStop _ _ h
  · apply h

theorem resetClear (fuel : Nat) {w : World ε} (h : Q w.env) :
  Q (nciSarResetClear E fuel w).env
  := by
  rw [nciSarResetClear]
  apply hQ.clearQueue .cmd fuel
  apply hQ.resetConns fuel
  apply hQ.resetIo h

theorem dropConns (fuel : Nat) (cids : List Nat) {w : World ε} (h : Q w.env) :
  Q (nciSarDropConns E fuel cids w).env
  := by
  induction cids generalizing w with
  | nil => apply h
  | cons cid cids ih =>
      rw [nciSarDropConns]
      split
      · apply ih
        apply hQ.clearQueue _ _ h
      · apply h

theorem setMaxLogicalConnections (fuel : Nat) (max : UInt8) {w : World ε} (h : Q w.env) :
  Q (nciSarSetMaxLogicalConnections E fuel max w).env
  := by
  simp only [nciSarSetMaxLogicalConnections]
  generalize (if max = 0 then sarDefaultMaxLogicalConnections else max) = max
  split
  · apply h
  · split
    · apply hQ.dropConns _ _ h
    · apply h

theorem cancel (id : UInt32) {w : World ε} (h : Q w.env) :
  Q (nciSarCancel E id w).env
  := by
  rw [nciSarCancel_eq]
  split
  · apply hQ.packetOutFree
    apply h
  · apply h

end SarEnv.Dropping

namespace SarEnv.Quietly

variable {W : Option Nat → Prop} {Q : ε → Prop} (hQ : E.Quietly W Q)

include hQ

theorem start {w : World ε} (h : Q w.env) :
  Q (nciSarStart E w).env
  := by
  rw [nciSarStart]
  split
  · apply h
  · apply hQ.halStart _ _ h

theorem submit {w : World ε} (a : Nat) (hW : W w.sar.writing) (h : Q w.env) :
  Q (nciSarAttemptWriteSubmit E a w).2.env
  := by
  have hwriting : ∀ w : World ε, (nciSarStart E w).sar.writing = w.sar.writing := by
    intro w
    rw [nciSarStart]
    split <;> rfl
  rw [nciSarAttemptWriteSubmit]
  split
  · rw [nciSarAttemptWriteRequest]
    split
    · apply hQ.halWrite
      · show W (nciSarStart E _).sar.writing
        rw [hwriting]
        apply hW
      · apply hQ.start
        apply h
    · apply hQ.start
      apply h
  · apply h

theorem move {x y : Moment ε} (hmove : Move E x y) (hW : W x.1.sar.writing) (h : Q x.1.env) :
  Q y.1.env
  := by
  cases hmove with
  | tuned _ _ _ => apply h
  | selected _ _ => apply h
  | handed _ _ _ _ => apply hQ.submit _ hW h
  | refused _ _ _ _ => apply hQ.submit _ hW h
  | skipped _ => apply h
  | freed => apply hQ.packetOutFree _ h

end SarEnv.Quietly

end Nci
