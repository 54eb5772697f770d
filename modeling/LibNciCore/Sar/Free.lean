import LibNciCore.Sar.Callbacks

/-!
# Freeing the layer

As long as no packet is sent on a queue that has lost its last pointer, no packet is lost: every
packet that is allocated is queued, being written, or on its way out. So when the layer is freed,
every destroy function has been called.
-/

namespace Nci

open LinkedQueue

variable {P : Call → Prop} {A : App P}

/-- A packet is sent on a queue that has packets but no last pointer. -/
def Entry.Leaks : Entry → Prop
  | .called c sar => ((c.accepted sar).any fun x =>
      (sar.queue x.key).last.isNone && !(sar.queued x.key).isEmpty) = true
  | _ => False

instance : DecidablePred Entry.Leaks
  | .called c sar => inferInstanceAs (Decidable (((c.accepted sar).any fun x =>
      (sar.queue x.key).last.isNone && !(sar.queued x.key).isEmpty) = true))
  | .completed _ _ | .halStart _ _ | .halWrite _ _ _ | .received _ _ | .idle | .halError | .halStop
  | .halCancelWrite | .error | .response _ _ _ | .notification _ _ _ | .dataPacket _ _
  | .complete _ _ | .destroy _ =>
      inferInstanceAs (Decidable False)

/-- Every packet that is allocated is queued, being written, or on its way out. -/
def Moment.Held (x : Moment Log) : Prop :=
  ∀ a, (x.1.sar.packet a).isSome = true →
    (∃ k, a ∈ x.1.sar.line k) ∨ a ∈ x.2.map Leaving.addr

section

variable {w v : World Log} {S : List Leaving}

/-- A change that leaves the packets in their places. -/
theorem Moment.Held.frame (h : Moment.Held (w, S)) (hline : ∀ k, v.sar.line k = w.sar.line k)
    (hpacket : ∀ a, (v.sar.packet a).isSome = (w.sar.packet a).isSome) :
  Moment.Held (v, S)
  := by
  intro a ha
  rw [hpacket] at ha
  rcases h a ha with ⟨k, hk⟩ | hmem
  · left
    use k
    rw [hline]
    exact hk
  · exact Or.inr hmem

/-- The packet that is being written leaves. -/
theorem Moment.Held.leave (h : Moment.Held (w, S)) {l : Leaving}
    (hw : w.sar.WF) (ha : w.sar.writing = some l.addr)
    (hline : ∀ k, ∀ a ∈ w.sar.queued k, a ∈ v.sar.line k)
    (hpacket : ∀ a, (v.sar.packet a).isSome = (w.sar.packet a).isSome) :
  Moment.Held (v, l :: S)
  := by
  intro a hsome
  rw [hpacket] at hsome
  rcases h a hsome with ⟨k, hk⟩ | hmem
  · rcases hw.mem_line.mp hk with hqueued | ⟨hwriting, -⟩
    · exact Or.inl ⟨k, hline k a hqueued⟩
    · rw [ha] at hwriting
      right
      rw [← Option.some.inj hwriting]
      exact List.mem_cons_self
  · exact Or.inr (List.mem_cons_of_mem _ hmem)

/-- A packet on its way out is freed. -/
theorem Moment.Held.free {E : SarEnv Log} (hE : E.Discreet) {a : Nat}
    (h : Moment.Held (w, .free a :: S)) (hw : w.sar.WF) (ha : w.sar.Detached a) :
  Moment.Held (nciSarPacketOutFree E a w, S)
  := by
  have hlists := (hw.free ha.2.1 ha.2.2).2
  intro b hb
  rw [hE.packetOutFree] at hb ⊢
  rw [NciSar.packet_dealloc] at hb
  split at hb
  · cases hb
  · rename_i hba
    rcases h b hb with ⟨k, hk⟩ | hmem
    · left
      use k
      rw [NciSar.line, hlists, Lists.line_free ha.2.2]
      exact hk
    · right
      exact (List.mem_cons.mp hmem).resolve_left hba

end

/-- A move of the layer loses no packet. -/
theorem Move.held {E : SarEnv Log} (hE : E.Discreet) {x y : Moment Log} (h : Move E x y)
    (hx : x.Intact) (hheld : x.Held) :
  y.Held
  := by
  cases h with
  | tuned sar _ htuned =>
      apply hheld.frame htuned.same.line
      intro a
      rw [htuned.same.packet]
  | @selected w S _ _ =>
      have hsame := hx.sound.sar.wf.sameLines_select
      apply hheld.frame (v := w.map NciSar.select) hsame.line
      intro a
      rw [World.map, hsame.packet]
  | @handed w S a _ hpending ha _ =>
      obtain ⟨out, -, -, hl⟩ := submit_spec E hx.sound.sar ha hpending
      apply hheld.frame
      · intro k
        rw [NciSar.line, hl, Lists.line_modify]
        · rfl
        · intro x
          rw [NciSarPacketOut.key, NciSarPacketOut.key, NciSar.nextSegment_conn]
      · intro b
        rw [← NciSar.lists_packet, hl, NciSar.isSome_modify]
        rfl
  | @refused w S a _ hpending ha _ =>
      obtain ⟨out, -, -, hl⟩ := submit_spec E hx.sound.sar ha hpending
      apply hheld.leave (l := .finish a false) hx.sound.sar.wf ha
      · intro k b hb
        rw [World.map, NciSar.line_setWriting]
        have hq : (nciSarAttemptWriteSubmit E a w).2.sar.queued k = w.sar.queued k :=
          congrFun (congrArg Lists.queued hl) k
        rw [hq]
        exact hb
      · intro b
        show ((nciSarAttemptWriteSubmit E a w).2.sar.packet b).isSome = _
        rw [← NciSar.lists_packet, hl, NciSar.isSome_modify]
        rfl
  | @skipped w S a ok _ => exact hheld
  | @freed w S a =>
      exact hheld.free hE hx.sound.sar.wf (hx.sound.leaving (.free a) List.mem_cons_self)

/-! ### Calls and resets -/

section

variable {w v : World Log} {S : List Leaving}

/-- A packet is queued, and those that were queued before are not lost. -/
theorem Moment.Held.send (h : Moment.Held (w, S)) (hw : w.sar.WF) {k : QueueKey} {b0 b1 : UInt8}
    {payload : Option (List UInt8)} {f g : Option Nat}
    (hkept : (w.sar.queue k).last = none → w.sar.queued k = []) (log : Log) :
  Moment.Held (⟨(nciSarSend w.sar k (w.sar.connPtr k) b0 b1 payload f g).2, log⟩, S)
  := by
  obtain ⟨-, hl, -⟩ := hw.send k b0 b1 payload f g
  have hqueued : (if (w.sar.queue k).last = none then [] else w.sar.queued k) = w.sar.queued k := by
    split
    · rename_i hlast
      exact (hkept hlast).symm
    · rfl
  rw [hqueued] at hl
  have hline : ∀ k', (nciSarSend w.sar k (w.sar.connPtr k) b0 b1 payload f g).2.line k'
      = if k' = k then w.sar.line k ++ [w.sar.nextAddr] else w.sar.line k' := by
    intro k'
    rw [NciSar.line, hl, Lists.line_append hw.writing_ne_nextAddr]
    rfl
  intro a ha
  by_cases hnew : a = w.sar.nextAddr
  · left
    use k
    rw [hline, if_pos rfl, hnew]
    exact List.mem_append_right _ (List.mem_singleton_self _)
  · have hold : (w.sar.packet a).isSome = true := by
      rw [← NciSar.lists_packet, hl] at ha
      simp only [Lists.append, NciSar.lists_nextAddr, Function.update_of_ne hnew] at ha
      exact ha
    rcases h a hold with ⟨k', hk'⟩ | hmem
    · left
      use k'
      rw [hline]
      split
      · rename_i heq
        rw [← heq]
        exact List.mem_append_left _ hk'
      · exact hk'
    · exact Or.inr hmem

/-- A packet is cancelled. -/
theorem Moment.Held.cancel {E : SarEnv Log} (hE : E.Discreet) (h : Moment.Held (w, S))
    (hw : w.sar.WF) (id : UInt32) :
  Moment.Held (nciSarCancel E id w, S)
  := by
  rw [nciSarCancel_eq]
  rcases hw.cancel_cases id with ⟨a, -, ht, heq⟩ | ⟨k, a, ht, hmem, heq, hwf', hl⟩ | ⟨ht, heq⟩
  · rw [ht]
    obtain ⟨-, hl⟩ := hw.modifyPacket a (f := fun out => { out with complete := none })
      (fun _ => rfl) (fun _ => rfl) (fun _ _ => rfl)
    apply h.frame (v := w.map fun sar => sar.cancelEffect id)
    · intro k
      rw [World.map, heq, NciSar.line, hl, Lists.line_modify]
      · rfl
      · intro x
        rfl
    · intro b
      rw [World.map, heq, ← NciSar.lists_packet, hl, NciSar.isSome_modify]
      rfl
  · rw [ht]
    have hne : w.sar.writing ≠ some a := fun hwriting => (hw.writing a hwriting).2 k hmem
    have hdetached := NciSar.detached_of_cancelTarget hw ht
    rw [← heq] at hl hwf'
    have hremoved : Moment.Held (w.map fun sar => sar.cancelEffect id, .free a :: S) := by
      intro b hb
      rw [World.map, ← NciSar.lists_packet, hl] at hb
      by_cases hba : b = a
      · right
        rw [hba]
        exact List.mem_cons_self
      · rcases h b hb with ⟨k', hk'⟩ | hmem'
        · left
          use k'
          rw [World.map, NciSar.line, hl, Lists.line_remove hne]
          split
          · rename_i hkk
            rw [hkk] at hk'
            exact (List.mem_erase_of_ne hba).mpr hk'
          · exact hk'
        · exact Or.inr (List.mem_cons_of_mem _ hmem')
    exact hremoved.free hE hwf' hdetached
  · rw [ht, World.map, heq]
    exact h

/-- A reset loses no packet. -/
theorem Moment.Held.reset {E : SarEnv Log} (hE : E.Discreet) (h : Moment.Held (w, S))
    (hx : Moment.Intact (w, S)) {fuel : Nat} (hfuel : w.sar.nextAddr < fuel) :
  Moment.Held (nciSarResetClear E fuel w, w.sar.dropped ++ S)
    ∧ ∀ k ∈ w.sar.keys, ∀ a ∈ w.sar.queued k,
        (nciSarResetClear E fuel w).sar.packet a = none
  := by
  have hwf := hx.sound.sar.wf
  obtain ⟨hcleared, -⟩ := hE.resetClear hx.sound.sar fun k =>
    Nat.lt_of_le_of_lt (hwf.length_queued k) hfuel
  have hqueued : ∀ k, (((w.sar.setWriting none).setWritePending false).setStarted false).queued k
      = w.sar.queued k := by
    intro k
    cases k <;> rfl
  have hgone : ∀ k ∈ w.sar.keys, ∀ a ∈ w.sar.queued k,
      (nciSarResetClear E fuel w).sar.packet a = none := by
    intro k hk a ha
    rw [← hqueued] at ha
    rw [NciSar.packet, hcleared.gone k hk a ha]
    rfl
  refine ⟨?_, hgone⟩
  intro a ha
  right
  have hnot : ∀ k ∈ w.sar.keys, a ∉ w.sar.queued k := by
    intro k hk hmem
    rw [hgone k hk a hmem] at ha
    cases ha
  have hold : (w.sar.packet a).isSome = true := by
    rw [hcleared.packet fun k hk => by rw [hqueued]; exact hnot k hk] at ha
    exact ha
  rcases h a hold with ⟨k, hk⟩ | hmem
  · rcases hwf.mem_line.mp hk with hmem | ⟨hwriting, -⟩
    · exfalso
      apply hnot k _ hmem
      rw [NciSar.mem_keys]
      cases k with
      | cmd => exact Or.inl rfl
      | out cid =>
          right
          refine ⟨cid, rfl, ?_⟩
          by_contra hle
          have hnil := NciSar.queued_of_line (hx.beyond cid (Nat.not_lt.mp hle))
          rw [hnil] at hmem
          cases hmem
    · rw [NciSar.dropped, hwriting]
      exact List.mem_cons_self
  · rw [List.map_append]
    exact List.mem_append_right _ hmem

/-- The number of connections is changed. -/
theorem Moment.Held.setMaxLogicalConnections {E : SarEnv Log} (hE : E.Discreet)
    (h : Moment.Held (w, S)) (hx : Moment.Intact (w, S)) {fuel : Nat} {max : UInt8}
    (hfuel : w.sar.nextAddr < fuel) (hmax : ¬ w.sar.Retabled max) :
  Moment.Held (nciSarSetMaxLogicalConnections E fuel max w, S)
  := by
  have hwf := hx.sound.sar.wf
  by_cases heq : newMaxLogicalConns max = w.sar.maxLogicalConns
  · rw [setMaxLogicalConnections_of_eq E fuel max heq]
    exact h
  · obtain ⟨hsurvive, hcommand⟩ := hwf.quiet_of_not_retabled hmax heq
    have hbeyond : ∀ cid, w.sar.maxLogicalConns.toNat ≤ cid → w.sar.queued (.out cid) = [] :=
      fun cid hcid => NciSar.queued_of_line (hx.beyond cid hcid)
    obtain ⟨hresized, -⟩ := hE.setMaxLogicalConnections max hwf
      (fun k => Nat.lt_of_le_of_lt (hwf.length_queued k) hfuel) hsurvive hbeyond hcommand heq
    intro a ha
    have hnot : ∀ cid, a ∉ w.sar.queued (.out cid) := by
      intro cid hmem
      by_cases hle : (newMaxLogicalConns max).toNat ≤ cid
      · by_cases hlt : cid < w.sar.maxLogicalConns.toNat
        · rw [hE.gone_setMaxLogicalConnections max hwf hfuel hle hlt hmem] at ha
          cases ha
        · rw [hbeyond cid (Nat.not_lt.mp hlt)] at hmem
          cases hmem
      · rw [hsurvive cid (Nat.not_le.mp hle)] at hmem
        cases hmem
    rw [hresized.packet a hnot] at ha
    rcases h a ha with ⟨k, hk⟩ | hmem
    · left
      rcases hwf.mem_line.mp hk with hmem | ⟨hwriting, -⟩
      · cases k with
        | cmd =>
            use .cmd
            apply hresized.wf.mem_line.mpr
            left
            rw [hresized.cmd]
            exact hmem
        | out cid => exact absurd hmem (hnot cid)
      · obtain ⟨k', hk'⟩ := (hresized.wf.writing a (hresized.writing ▸ hwriting)).1
        exact ⟨k', hresized.wf.mem_line.mpr (Or.inr ⟨hresized.writing ▸ hwriting, hk'⟩)⟩
    · exact Or.inr hmem

/-- A function is called that does not reset the layer. -/
theorem Moment.Held.call {E : SarEnv Log} (hE : E.Discreet) (h : Moment.Held (w, S))
    (hx : Moment.Intact (w, S)) (c : Call) (hreset : c ≠ .reset) {fuel : Nat} {s : NciSar}
    (hs : s = w.sar.snapshot) (htame : (Entry.called c s).Tame fuel)
    (hleaks : ¬ (Entry.called c s).Leaks) :
  Moment.Held (c.perform E fuel w, S)
  := by
  have hwf := hx.sound.sar.wf
  have hkept : ∀ (k : QueueKey) (x : Submission), c.accepted s = some x → x.key = k →
      (w.sar.queue k).last = none → w.sar.queued k = [] := by
    intro k x hx hxk hlast
    have hlast' : (s.queue k).last = none := by
      rw [hs]
      cases k <;> exact hlast
    have hqueued : s.queued k = w.sar.queued k := by
      rw [hs]
      cases k <;> rfl
    rw [← hqueued]
    by_contra hne
    apply hleaks
    rw [Entry.Leaks, hx, Option.any_some, hxk, hlast']
    simpa using hne
  have htuned : ∀ {v : World Log}, w.sar.Tuned v.sar → Moment.Held (v, S) := by
    intro v hv
    apply h.frame hv.same.line
    intro a
    rw [hv.same.packet]
  cases c with
  | start =>
      apply htuned
      rw [Call.perform, nciSarStart]
      split
      · exact NciSar.tuned_refl _
      · exact NciSar.tuned_setStarted _ _
  | reset => exact absurd rfl hreset
  | setMaxLogicalConnections max =>
      rw [hs] at htame
      exact h.setMaxLogicalConnections hE hx htame.1 htame.2
  | setMaxControlPayloadSize max => exact htuned (NciSar.tuned_setMaxControlPayloadSize _ _)
  | setMaxDataPayloadSize max => exact htuned (NciSar.tuned_setMaxDataPayloadSize _ _)
  | setInitialCredits cid credits => exact htuned (NciSar.tuned_setInitialCredits _ _ _)
  | addCredits cid credits => exact htuned (NciSar.tuned_addCredits _ _ _)
  | sendCommand gid oid payload f g =>
      apply h.send hwf (k := .cmd)
      exact hkept .cmd _ rfl rfl
  | sendDataPacket cid payload f g =>
      rw [Call.perform]
      simp only [nciSarSendDataPacket, World.map]
      split
      · rename_i hcid
        apply h.send hwf (k := .out cid.toNat)
        obtain ⟨x, haccepted, hkey⟩ : ∃ x, (Call.sendDataPacket cid payload f g).accepted s = some x
            ∧ x.key = .out cid.toNat := by
          rw [hs]
          exact ⟨_, if_pos hcid, rfl⟩
        exact hkept (.out cid.toNat) x haccepted hkey
      · exact h
  | cancel id => exact h.cancel hE hwf id

end

/-- Every move loses no packet. -/
theorem AppMove.held (hA : A.Discreet) {x y : Moment Log} (h : AppMove A x y) (hx : x.Intact)
    (hheld : x.Held) (hy : ∀ e ∈ y.1.env, e.Tame A.fuel ∧ ¬ e.Leaks) :
  y.Held
  := by
  cases h with
  | layer perform hnil hmove => exact hmove.held (hA.env hnil) hx hheld
  | noted _ _ => exact hheld
  | received packet _ => exact hheld
  | @called w S c perform hnil _ _ hreset =>
      have hnoted : Moment.Held (w.record (.called c w.sar.snapshot), S) := hheld
      have hintact : Moment.Intact (w.record (.called c w.sar.snapshot), S) := hx.noted _
      have hentry := hy (.called c w.sar.snapshot) (by
        apply (hA.longer_call hnil c hreset _ _).subset
        exact List.mem_append_right _ (List.mem_singleton_self _))
      exact hnoted.call (hA.env hnil) hintact c hreset rfl hentry.1 hentry.2
  | @reset w S perform hnil _ _ =>
      have hnoted : Moment.Held (w.record (.called .reset w.sar.snapshot), S) := hheld
      have hintact : Moment.Intact (w.record (.called .reset w.sar.snapshot), S) := hx.noted _
      have hentry := hy (.called .reset w.sar.snapshot) (by
        apply (hA.longer_reset hnil _ _).subset
        exact List.mem_append_right _ (List.mem_singleton_self _))
      exact (hnoted.reset (hA.env hnil) hintact hentry.1).1
  | @completed w S a ok _ _ ha =>
      have hwf := hx.sound.sar.wf
      by_cases hstays : (ok && !w.sar.isDoneAt a) = true
      · have heffect : w.sar.completedEffect ok a = w.sar.setWritePending false := by
          rw [NciSar.completedEffect, if_pos hstays, ← ha]
          rfl
        have hsame : NciSar.SameQueues w.sar (w.sar.setWritePending false) := by
          apply NciSar.sameQueues_of_fields <;> rfl
        rw [NciSar.reported, if_pos hstays, World.map, World.record_sar, heffect]
        apply hheld.frame (v := ⟨w.sar.setWritePending false, _⟩) hsame.line
        intro b
        rw [hsame.packet]
      · have heffect : w.sar.completedEffect ok a
            = (w.sar.setWriting none).setWritePending false := by
          rw [NciSar.completedEffect, if_neg hstays]
          rfl
        rw [NciSar.reported, if_neg hstays, World.map, World.record_sar, heffect]
        apply hheld.leave (l := .finish a ok) hwf ha
        · intro k b hb
          have hnone : ((w.sar.setWriting none).setWritePending false).writing = none := rfl
          show b ∈ ((w.sar.setWriting none).setWritePending false).line k
          rw [NciSar.line_of_none hnone]
          cases k <;> exact hb
        · exact fun _ => rfl
  | stray ok _ _ => exact hheld
  | reported _ => exact hheld

/-! ### Runs -/

/-- No packet is lost in a run. -/
theorem AppMoves.held (hA : A.Discreet) {x y : Moment Log} (h : AppMoves A x y) (hx : x.Intact)
    (hheld : x.Held) (hy : ∀ e ∈ y.1.env, e.Tame A.fuel ∧ ¬ e.Leaks) :
  y.Intact ∧ y.Held
  := by
  apply AppMoves.induction hA (I := fun x => x.Intact ∧ x.Held)
    (p := fun log => ∀ e ∈ log, e.Tame A.fuel ∧ ¬ e.Leaks) forall_of_prefix _ h ⟨hx, hheld⟩ hy
  rintro x y hmove ⟨hx, hheld⟩ hy
  exact ⟨hmove.intact hA hx fun e he => (hy e he).1, hmove.held hA hx hheld hy⟩

theorem held_start :
  Moment.Held (World.start nciSarNew, [])
  := by
  intro a ha
  cases ha

/-- Moves only add to the log. -/
theorem AppMoves.longer (hA : A.Discreet) {x y : Moment Log} (h : AppMoves A x y) :
  x.1.env <+: y.1.env
  := by
  induction h with
  | refl => exact List.prefix_refl _
  | tail _ hlast ih => exact ih.trans (hlast.longer hA)

/-- A function of the layer is called. -/
def Entry.isCalled : Entry → Bool
  | .called _ _ => true
  | _ => false

/-- No function is called in what is added to a log. -/
def Log.Uncalled (log log' : Log) : Prop := ∀ e ∈ log'.drop log.length, e.isCalled = false

instance (log log' : Log) : Decidable (Log.Uncalled log log') :=
  inferInstanceAs (Decidable (∀ e ∈ log'.drop log.length, e.isCalled = false))

/-- A call is recorded. -/
theorem App.Moving.longer_call (hA : A.Discreet)
    {perform : List (Subtype P) → World Log → World Log} (hperform : A.Moving perform)
    (c : Subtype P) (w : World Log) :
  w.env ++ [.called c.1 w.sar.snapshot] <+: (A.call (A.envWith perform) c w).env
  := by
  obtain ⟨c, hc⟩ := c
  by_cases hreset : c = .reset
  · subst hreset
    have hclear := hA.longer_reset hperform.nil A.fuel (w.record (.called .reset w.sar.snapshot))
    have hmoves : AppMoves A (nciSarResetClear (A.envWith perform) A.fuel
          (w.record (.called .reset w.sar.snapshot)), w.sar.dropped ++ [])
        (nciSarReset (A.envWith perform) A.fuel (w.record (.called .reset w.sar.snapshot)), []) :=
      hperform.follows.reset Relation.ReflTransGen.refl
    exact hclear.trans (hmoves.longer hA)
  · exact hA.longer_call hperform.nil c hreset A.fuel (w.record (.called c w.sar.snapshot))

theorem Log.Uncalled.mono {log log' log₁ log₂ : Log} (h : Log.Uncalled log log')
    (hlog : log <+: log₁) (hlog' : log₂ <+: log') :
  Log.Uncalled log₁ log₂
  := by
  intro e hmem
  apply h e
  obtain ⟨es, rfl⟩ := hlog
  obtain ⟨es', rfl⟩ := hlog'
  obtain ⟨i, hi⟩ := List.mem_iff_getElem?.mp hmem
  rw [List.getElem?_drop, List.length_append] at hi
  apply List.mem_iff_getElem?.mpr
  use es.length + i
  rw [List.getElem?_drop, ← Nat.add_assoc]
  exact List.getElem?_append_left (List.getElem?_eq_some_iff.mp hi).1 ▸ hi

/-- Where no function is called, the completion function of a packet does nothing. -/
theorem App.Discreet.complete_of_uncalled (hA : A.Discreet) (n : Nat) (f : Nat) (ok : Bool)
    (w : World Log) (h : Log.Uncalled w.env ((A.env n).complete f ok w).env) :
  (A.env n).complete f ok w = w.record (.complete f ok)
  := by
  cases n with
  | zero => rfl
  | succ n =>
      obtain ⟨inner, hinner, hmoving⟩ := A.moving_env n
      have hcomplete : (A.env (n + 1)).complete f ok w
          = (A.react (w.record (.complete f ok)).env).foldl (fun w c => A.call (A.env n) c w)
              (w.record (.complete f ok)) := rfl
      rw [hcomplete, hinner] at h ⊢
      cases hcalls : A.react (w.record (.complete f ok)).env with
      | nil => rfl
      | cons c calls =>
          exfalso
          rw [hcalls, List.foldl_cons] at h
          have hfirst := hmoving.longer_call hA c (w.record (.complete f ok))
          have hrest : ∀ (calls : List (Subtype P)) (v : World Log),
              v.env <+: (calls.foldl (fun w c => A.call (A.envWith inner) c w) v).env := by
            intro calls
            induction calls with
            | nil => exact fun v => List.prefix_refl _
            | cons c calls ih =>
                intro v
                have hstep := (List.prefix_append _ _).trans (hmoving.longer_call hA c v)
                exact hstep.trans (ih _)
          obtain ⟨es, hes⟩ := hfirst.trans (hrest calls _)
          have hcalled : Entry.isCalled (.called c.1 w.sar.snapshot) = false := by
            apply h
            rw [← hes]
            simp [World.record]
          cases hcalled

/-! ### Freeing the layer -/

/-- A reset empties the lines of all queues before the packet that was being written is reported. -/
theorem line_resetClear {E : SarEnv Log} (hE : E.Discreet) {w : World Log}
    (hx : Moment.Intact (w, [])) {fuel : Nat} (hfuel : w.sar.nextAddr < fuel) (k : QueueKey) :
  (nciSarResetClear E fuel w).sar.line k = []
  := by
  have hy := hx.reset hE hfuel
  obtain ⟨hcleared, -⟩ := hE.resetClear hx.sound.sar fun k =>
    Nat.lt_of_le_of_lt (hx.sound.sar.wf.length_queued k) hfuel
  have hnone : (nciSarResetClear E fuel w).sar.writing = none := hcleared.writing
  have hmax : (nciSarResetClear E fuel w).sar.maxLogicalConns = w.sar.maxLogicalConns :=
    hcleared.maxLogicalConns
  by_cases hk : k ∈ w.sar.keys
  · rw [NciSar.line_of_none hnone]
    by_contra hne
    have hfirst := (hy.sound.sar.wf.first_isSome k).mpr hne
    rw [hcleared.empty k hk] at hfirst
    cases hfirst
  · cases k with
    | cmd => exact absurd (NciSar.mem_keys.mpr (Or.inl rfl)) hk
    | out cid =>
        apply hy.beyond
        rw [hmax]
        by_contra hlt
        exact hk (NciSar.mem_keys.mpr (Or.inr ⟨cid, rfl, Nat.not_le.mp hlt⟩))

/-- After a reset in which no function is called, no packet is left. -/
theorem App.Discreet.empty_reset (hA : A.Discreet) {n : Nat} {w : World Log}
    (hx : Moment.Intact (w, [])) (hheld : Moment.Held (w, [])) (hreset : P .reset)
    (hfuel : w.sar.nextAddr < A.fuel)
    (hquiet : Log.Uncalled (w.env ++ [.called .reset w.sar.snapshot])
      (A.call (A.env n) ⟨.reset, hreset⟩ w).env) (a : Nat) :
  (A.call (A.env n) ⟨.reset, hreset⟩ w).sar.packet a = none
  := by
  obtain ⟨perform, henv, hmoving⟩ := A.moving_env n
  have hE : (A.env n).Discreet := by
    rw [henv]
    exact hA.env hmoving.nil
  obtain ⟨v, hv⟩ : ∃ v, v = w.record (.called .reset w.sar.snapshot) := ⟨_, rfl⟩
  have hxv : Moment.Intact (v, []) := by
    rw [hv]
    exact hx.noted _
  have hheldv : Moment.Held (v, []) := by
    rw [hv]
    exact hheld
  have hfuelv : v.sar.nextAddr < A.fuel := by
    rw [hv]
    exact hfuel
  have hcall : A.call (A.env n) ⟨.reset, hreset⟩ w = nciSarReset (A.env n) A.fuel v := by
    rw [hv]
    rfl
  obtain ⟨r, hr⟩ : ∃ r, r = nciSarResetClear (A.env n) A.fuel v := ⟨_, rfl⟩
  have hline := line_resetClear hE hxv hfuelv
  obtain ⟨hheldr, -⟩ := hheldv.reset hE hxv hfuelv
  rw [hcall, nciSarReset_eq] at hquiet ⊢
  rw [NciSar.dropped] at hheldr
  rw [← hr] at hquiet hline hheldr ⊢
  have hgone : ∀ b, b ∉ (v.sar.dropped ++ []).map Leaving.addr → r.sar.packet b = none := by
    intro b hb
    by_contra hsome
    rcases hheldr b (Option.isSome_iff_ne_none.mpr hsome) with ⟨k, hk⟩ | hmem
    · rw [hline] at hk
      cases hk
    · exact hb hmem
  rw [NciSar.dropped] at hgone
  cases hb : v.sar.writing with
  | none =>
      rw [hb] at hgone
      exact hgone a List.not_mem_nil
  | some b =>
      rw [hb] at hgone hquiet
      simp only at hquiet ⊢
      have hcomplete : ∃ u : World Log, u.sar = r.sar
          ∧ nciSarPacketOutFinish (A.env n) b false r = nciSarPacketOutFree (A.env n) b u := by
        rw [nciSarPacketOutFinish] at hquiet ⊢
        cases hf : (r.sar.heap b).bind NciSarPacketOut.complete with
        | none => exact ⟨r, rfl, rfl⟩
        | some f =>
            rw [hf] at hquiet
            simp only at hquiet ⊢
            refine ⟨r.record (.complete f false), rfl, ?_⟩
            rw [hA.complete_of_uncalled n f false r]
            apply hquiet.mono
            · rw [hr, henv, hv]
              exact hA.longer_reset hmoving.nil A.fuel (w.record (.called .reset w.sar.snapshot))
            · rw [henv, hA.packetOutFree hmoving.nil]
              exact List.prefix_append _ _
      obtain ⟨u, hu, heq⟩ := hcomplete
      rw [heq, hE.packetOutFree, hu, NciSar.packet_dealloc]
      split
      · rfl
      · rename_i hab
        apply hgone
        exact fun hmem => hab (List.mem_singleton.mp hmem)

/-- When the layer is freed, every packet has been destroyed, and completed unless it has been
cancelled or swept away. -/
theorem freeLeavesNothing (A : App P) (hA : A.Discreet) (n : Nat) (events : List (Event P))
    {w : World Log} (hw : w = A.run n (World.start nciSarNew) events) (hreset : P .reset)
    (hlog : ∀ e ∈ w.env, e.Tame A.fuel ∧ ¬ e.Leaks) (hfuel : w.sar.nextAddr < A.fuel) {log : Log}
    (hfree : log = nciSarFree (A.env n) A.fuel (w.record (.called .reset w.sar.snapshot)))
    (hquiet : Log.Uncalled (w.env ++ [.called .reset w.sar.snapshot]) log) :
  (∀ f, Log.accepted f log = Log.completed f log + Log.forgotten f log)
    ∧ ∀ g, Log.acceptedWith g log = Log.destroyed g log
  := by
  have hrun := A.run_moves n (World.start nciSarNew) events
  rw [← hw] at hrun
  obtain ⟨perform, henv, hmoving⟩ := A.moving_env n
  have hcall : AppMoves A (w, []) (A.call (A.env n) ⟨.reset, hreset⟩ w, []) := by
    rw [henv]
    exact hmoving.call (S := []) trivial ⟨.reset, hreset⟩ w
  obtain ⟨hx, hheld⟩ := hrun.held hA intact_start held_start hlog
  have hlog' : log = (A.call (A.env n) ⟨.reset, hreset⟩ w).env := hfree
  rw [hlog'] at hquiet ⊢
  have hempty := hA.empty_reset hx hheld hreset hfuel hquiet
  have htame : ∀ e ∈ (A.call (A.env n) ⟨.reset, hreset⟩ w).env, e.Tame A.fuel := by
    have hlonger := hmoving.longer_call hA ⟨.reset, hreset⟩ w
    rw [← henv] at hlonger
    obtain ⟨es, hes⟩ := hlonger
    rw [← hes, Log.Uncalled, List.drop_left] at hquiet
    rw [← hes]
    intro e he
    rcases List.mem_append.mp he with he | he
    · rcases List.mem_append.mp he with he | he
      · exact (hlog e he).1
      · rw [List.mem_singleton.mp he]
        exact hfuel
    · cases e with
      | called c sar => cases hquiet _ he
      | _ => trivial
  obtain ⟨-, hacc⟩ := AppMoves.accounted hA (hrun.trans hcall) intact_start accounted_start htame
  have hbook : ∀ a, (A.call (A.env n) ⟨.reset, hreset⟩ w).sar.book a = none := by
    intro a
    rw [NciSar.book_eq, NciSar.lists_packet, hempty a]
    rfl
  constructor
  · intro f
    rw [hacc.ledger.completions f, Nat.count_of_forall_not]
    · rfl
    · rintro a _ ⟨ha, -⟩
      rw [Book.completion, hbook] at ha
      cases ha
  · intro g
    rw [hacc.ledger.destructions g, Nat.count_of_forall_not]
    · rfl
    · intro a _ ha
      rw [Book.destruction, hbook] at ha
      cases ha

/-- The layer is freed while a command is being written and a data packet is queued. -/
theorem freeLeavesNothing_twoPackets :
  ∃ w log, w = passiveApp.run 0 (World.start nciSarNew)
      [.call ⟨.sendCommand 0 1 none (some 1) (some 2), trivial⟩,
        .call ⟨.sendDataPacket 0 none (some 3) (some 4), trivial⟩, .idle]
    ∧ log = nciSarFree (passiveApp.env 0) passiveApp.fuel (w.record (.called .reset w.sar.snapshot))
    ∧ Log.destroyed 2 log = 1 ∧ Log.accepted 1 log = Log.completed 1 log + Log.forgotten 1 log
    ∧ Log.acceptedWith 4 log = Log.destroyed 4 log
  := by
  refine ⟨_, _, rfl, rfl, by decide, ?_⟩
  have hfreed := freeLeavesNothing passiveApp (fun _ _ => rfl) 0
    [.call ⟨.sendCommand 0 1 none (some 1) (some 2), trivial⟩,
      .call ⟨.sendDataPacket 0 none (some 3) (some 4), trivial⟩, .idle] rfl trivial (by decide)
    (by decide) rfl (by decide)
  exact ⟨hfreed.1 1, hfreed.2 4⟩

end Nci
