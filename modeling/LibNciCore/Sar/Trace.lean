import LibNciCore.Sar.Steps
import LibNciCore.Sar.Passive

/-!
# Every run is a sequence of small steps

A callback of an application is a sequence of `Inner` steps, whatever the depth to which
callbacks are nested, and hence every event of a run is a sequence of `Step`s.
-/

namespace Nci

open LinkedQueue

variable {P : Call → Prop} {w w' : World Log}

/-! ### Invariants of all steps -/

/-- Well formed states in which a pending write is that of a packet. -/
structure NciSar.Sound (sar : NciSar) : Prop where
  wf : sar.WF
  pending : sar.writePending = true → sar.writing.isSome = true

/-- Between events, a packet that is being written has a pending write. -/
def NciSar.Rest (sar : NciSar) : Prop := sar.writePending = false → sar.writing = none

namespace NciSar

theorem fields_scheduleWrite (sar : NciSar) :
  (nciSarScheduleWrite sar).writePending = sar.writePending
    ∧ (nciSarScheduleWrite sar).writing = sar.writing
  := by
  rw [nciSarScheduleWrite]
  split <;> exact ⟨rfl, rfl⟩

theorem fields_takeCredits (sar : NciSar) (cid : Nat) (credits : UInt8) :
  (nciSarTakeCredits sar cid credits).writePending = sar.writePending
    ∧ (nciSarTakeCredits sar cid credits).writing = sar.writing
  := by
  rw [nciSarTakeCredits]
  split
  · simp only
    split
    · apply fields_scheduleWrite
    · exact ⟨rfl, rfl⟩
  · exact ⟨rfl, rfl⟩

theorem fields_send (sar : NciSar) (k : QueueKey) (conn : Option ConnPtr) (b0 b1 : UInt8)
    (payload : Option (List UInt8)) (complete destroy : Option Nat) :
  (nciSarSend sar k conn b0 b1 payload complete destroy).2.writePending = sar.writePending
    ∧ (nciSarSend sar k conn b0 b1 payload complete destroy).2.writing = sar.writing
  := by
  rw [nciSarSend]
  simp only
  rw [(fields_scheduleWrite _).1, (fields_scheduleWrite _).2]
  cases k <;> exact ⟨rfl, rfl⟩

theorem fields_receivedEffect (sar : NciSar) (packet : List UInt8) :
  (sar.receivedEffect packet).writePending = sar.writePending
    ∧ (sar.receivedEffect packet).writing = sar.writing
  := by
  rw [receivedEffect]
  split
  · apply fields_takeCredits
  · exact ⟨rfl, rfl⟩

theorem writePending_useCredit (sar : NciSar) (cid : Nat) :
  (sar.useCredit cid).writePending = sar.writePending
  := by
  rw [useCredit]
  split <;> rfl

theorem writePending_continue (sar : NciSar) :
  (nciSarAttemptWriteContinue sar).writePending = sar.writePending
  := by
  rw [nciSarAttemptWriteContinue]
  split
  · split
    · split
      · split
        · apply writePending_useCredit
        · rfl
      · rfl
    · rfl
  · rfl

theorem writePending_writeQueue (sar : NciSar) :
  (nciSarWriteQueue sar).2.writePending = sar.writePending
  := by
  rw [nciSarWriteQueue]
  split
  · rfl
  · split
    · apply writePending_useCredit
    · rfl

theorem writePending_pick (sar : NciSar) :
  (nciSarAttemptWritePick sar).writePending = sar.writePending
  := by
  have h := writePending_writeQueue sar
  rw [nciSarAttemptWritePick]
  split
  · rfl
  · generalize nciSarWriteQueue sar = r at h
    obtain ⟨_ | k, s⟩ := r
    · apply h
    · cases k <;> apply h

theorem writePending_select (sar : NciSar) :
  sar.select.writePending = sar.writePending
  := by rw [select, writePending_pick, writePending_continue]

theorem fields_cancelEffect (sar : NciSar) (id : UInt32) :
  (sar.cancelEffect id).writePending = sar.writePending
    ∧ (sar.cancelEffect id).writing = sar.writing
  := by
  rw [cancelEffect]
  split
  · split <;> exact ⟨rfl, rfl⟩
  · split
    · rename_i k a h
      cases k <;> exact ⟨rfl, rfl⟩
    · exact ⟨rfl, rfl⟩

end NciSar

/-- A call does not touch the write that is under way. -/
theorem Call.fields_effect (sar : NciSar) (c : Call) :
  (c.effect sar).writePending = sar.writePending ∧ (c.effect sar).writing = sar.writing
  := by
  cases c with
  | setInitialCredits cid credits =>
      simp only [Call.effect, nciSarSetInitialCredits]
      split <;> exact ⟨rfl, rfl⟩
  | addCredits cid credits =>
      simp only [Call.effect, nciSarAddCredits]
      split
      · apply NciSar.fields_takeCredits
      · exact ⟨rfl, rfl⟩
  | sendCommand gid oid payload complete destroy => apply NciSar.fields_send
  | sendDataPacket cid payload complete destroy =>
      simp only [Call.effect, nciSarSendDataPacket]
      split
      · apply NciSar.fields_send
      · exact ⟨rfl, rfl⟩
  | cancel id => apply NciSar.fields_cancelEffect
  | _ => exact ⟨rfl, rfl⟩

/-- Nothing that happens in a callback touches the write that is under way. -/
theorem Inner.fields (h : Inner P w w') :
  w'.sar.writePending = w.sar.writePending ∧ w'.sar.writing = w.sar.writing
  := by
  cases h with
  | note _ => exact ⟨rfl, rfl⟩
  | started _ _ => exact ⟨rfl, rfl⟩
  | called _ => apply Call.fields_effect
  | freed _ => exact ⟨rfl, rfl⟩

theorem Inners.fields (h : Inners P w w') :
  w'.sar.writePending = w.sar.writePending ∧ w'.sar.writing = w.sar.writing
  := by
  induction h with
  | refl => exact ⟨rfl, rfl⟩
  | tail _ hstep ih => rw [hstep.fields.1, hstep.fields.2, ih.1, ih.2]; exact ⟨rfl, rfl⟩

theorem Step.pending (h : Step P w w')
    (hw : w.sar.writePending = true → w.sar.writing.isSome = true) :
  w'.sar.writePending = true → w'.sar.writing.isSome = true
  := by
  cases h with
  | inner h =>
      rw [h.fields.1, h.fields.2]
      apply hw
  | received packet =>
      simp only [World.map, World.record]
      rw [(NciSar.fields_receivedEffect _ _).1, (NciSar.fields_receivedEffect _ _).2]
      apply hw
  | controlInput _ => apply hw
  | input _ _ => apply hw
  | unscheduled => apply hw
  | scheduled =>
      simp only [World.map]
      rw [(NciSar.fields_scheduleWrite _).1, (NciSar.fields_scheduleWrite _).2]
      apply hw
  | attempted hp _ hnone =>
      intro hpending
      simp [World.map, NciSar.writePending_select, hp] at hpending
  | @handed a out ok hp _ ha hout =>
      intro hok
      obtain rfl : ok = true := hok
      rfl
  | @notStarted a out hp _ ha hout =>
      intro hpending
      have hcut : (w.sar.select.cutSegment a out).writePending = true := hpending
      have hselect : w.sar.select.writePending = true := hcut
      simp [NciSar.writePending_select, hp] at hselect

theorem Completed.pending (h : Completed w w') :
  w'.sar.writePending = false
  := by
  obtain ⟨ok, -, -⟩ := h
  rfl

theorem Completed.sound (h : Completed w w') (hw : w.sar.Sound) :
  w'.sar.Sound
  := by
  use h.wf hw.wf
  intro hp
  simp [h.pending] at hp

/-- After a step no packet is being written without a pending write, if that was so before. -/
theorem Step.rest (h : Step P w w') (hr : w.sar.Rest) :
  w'.sar.Rest
  := by
  cases h with
  | inner h =>
      rw [NciSar.Rest, h.fields.1, h.fields.2]
      apply hr
  | received packet =>
      simp only [World.map, World.record, NciSar.Rest]
      rw [(NciSar.fields_receivedEffect _ _).1, (NciSar.fields_receivedEffect _ _).2]
      apply hr
  | controlInput _ => apply hr
  | input _ _ => apply hr
  | unscheduled => apply hr
  | scheduled =>
      simp only [World.map, NciSar.Rest]
      rw [(NciSar.fields_scheduleWrite _).1, (NciSar.fields_scheduleWrite _).2]
      apply hr
  | attempted _ _ hnone =>
      intro _
      apply hnone
  | @handed a out ok _ _ _ _ =>
      intro hp
      obtain rfl : ok = false := hp
      rfl
  | notStarted _ _ _ _ =>
      intro _
      rfl

theorem Step.sound (h : Step P w w') (hw : w.sar.Sound) :
  w'.sar.Sound
  := ⟨h.wf hw.wf, h.pending hw.pending⟩

theorem Inner.sound (h : Inner P w w') (hw : w.sar.Sound) :
  w'.sar.Sound
  := (Step.inner h).sound hw

theorem Inners.sound (h : Inners P w w') (hw : w.sar.Sound) :
  w'.sar.Sound
  := by
  induction h with
  | refl => apply hw
  | tail _ hstep ih => apply hstep.sound ih

theorem Steps.sound (h : Steps P w w') (hw : w.sar.Sound) :
  w'.sar.Sound
  := by
  induction h with
  | refl => apply hw
  | tail _ hstep ih => apply hstep.sound ih

theorem Steps.rest (h : Steps P w w') (hr : w.sar.Rest) :
  w'.sar.Rest
  := by
  induction h with
  | refl => apply hr
  | tail _ hstep ih => apply hstep.rest ih

theorem Inners.steps (h : Inners P w w') :
  Steps P w w'
  := Relation.ReflTransGen.mono (fun _ _ => Step.inner) _ _ h

theorem Inners.arrivals (h : Inners P w w') :
  Arrivals P w w'
  := Relation.ReflTransGen.mono (fun _ _ => Arrival.inner) _ _ h

theorem Arrivals.steps (h : Arrivals P w w') :
  Steps P w w'
  := Relation.ReflTransGen.mono (fun _ _ => Arrival.step) _ _ h

/-! ### Detached packets stay detached -/

namespace NciSar

/-- Whether a packet is detached can be seen from the lists. -/
theorem detached_iff (sar : NciSar) (a : Nat) :
  sar.Detached a ↔ a < sar.lists.nextAddr ∧ (∀ k, a ∉ sar.lists.queued k)
    ∧ sar.lists.writing ≠ some a
  := Iff.rfl

theorem Detached.of_lists {sar sar' : NciSar} {a : Nat} (hd : sar.Detached a)
    (hl : sar'.lists = sar.lists) :
  sar'.Detached a
  := by
  rw [detached_iff, hl]
  apply hd

end NciSar

/-- A packet that is cancelled is detached. -/
theorem NciSar.detached_of_cancelTarget {sar : NciSar} (hw : sar.WF) {id : UInt32}
    {k : QueueKey} {a : Nat} (ht : sar.cancelTarget id = some (k, a)) :
  (sar.cancelEffect id).Detached a
  := by
  rcases hw.cancel_cases id with ⟨b, -, ht', -⟩ | ⟨k', b, ht', hmem, heq, -, hl⟩ | ⟨ht', -⟩
  · simp [ht'] at ht
  · obtain ⟨rfl, rfl⟩ : k' = k ∧ b = a := by simpa [ht'] using ht
    have hown := hw.owned k' b hmem
    rw [heq, detached_iff, hl]
    use hown.1
    constructor
    · intro k hk
      by_cases hkk : k = k'
      · subst hkk
        simp only [Lists.remove, Lists.relist, Function.update_self] at hk
        apply (hw.nodup k).not_mem_erase hk
      · simp only [Lists.remove, Lists.relist, Function.update_of_ne hkk] at hk
        apply hkk (hw.mem_unique hk hown)
    · intro hwriting
      apply (hw.writing b hwriting).2 k' hmem
  · simp [ht'] at ht

/-- A packet that is detached stays so: only new packets are queued. -/
theorem Call.detached_effect {sar : NciSar} (hw : sar.WF) {a : Nat} (hd : sar.Detached a)
    (c : Call) :
  (c.effect sar).Detached a
  := by
  rcases c.effect_cases hw with ⟨-, -, hs⟩ | ⟨x, payload, complete, destroy, -, -, -, -, heq⟩
    | ⟨b, -, -, -, heq⟩ | ⟨id, k, b, -, -, -, -, heq, -, hl⟩
  · apply hd.of_lists hs.lists
  · obtain ⟨-, hl, -⟩ := hw.send x.key x.b0 x.b1 payload complete destroy
    rw [heq, NciSar.detached_iff, hl]
    use Nat.lt_succ_of_lt hd.1
    constructor
    · intro k hmem
      by_cases hk : k = x.key
      · subst hk
        simp only [Lists.append, Function.update_self, NciSar.lists_nextAddr] at hmem
        rcases List.mem_append.mp hmem with hmem | hmem
        · split at hmem
          · simp at hmem
          · apply hd.2.1 _ hmem
        · apply Nat.ne_of_lt hd.1 (by simpa using hmem)
      · simp only [Lists.append, Function.update_of_ne hk] at hmem
        apply hd.2.1 k hmem
    · apply hd.2.2
  · have hl := (hw.modifyPacket b (f := fun out => { out with complete := none }) (fun _ => rfl)
      (fun _ => rfl) (fun _ _ => rfl)).2
    rw [heq, NciSar.detached_iff, hl]
    apply hd
  · rw [heq, NciSar.detached_iff, hl]
    use hd.1
    constructor
    · intro k' hmem
      by_cases hk : k' = k
      · subst hk
        simp only [Lists.remove, Lists.relist, Function.update_self] at hmem
        apply hd.2.1 k' (List.mem_of_mem_erase hmem)
      · simp only [Lists.remove, Lists.relist, Function.update_of_ne hk] at hmem
        apply hd.2.1 k' hmem
    · apply hd.2.2

theorem Inner.detached (h : Inner P w w') (hw : w.sar.WF) {a : Nat} (hd : w.sar.Detached a) :
  w'.sar.Detached a
  := by
  cases h with
  | note _ => apply hd
  | started _ _ => apply hd
  | called _ => apply Call.detached_effect hw hd
  | freed hb =>
      rw [World.map, NciSar.detached_iff, (hw.free hb.2.1 hb.2.2).2]
      apply hd

theorem Inners.detached (h : Inners P w w') (hw : w.sar.Sound) {a : Nat}
    (hd : w.sar.Detached a) :
  w'.sar.Detached a
  := by
  induction h with
  | refl => apply hd
  | tail hs hstep ih => apply hstep.detached (Inners.sound hs hw).wf ih

/-! ### The receiving side is left alone -/

/-- The states have the same connections and have received the same. -/
structure NciSar.SameInput (sar sar' : NciSar) : Prop where
  maxLogicalConns : sar'.maxLogicalConns = sar.maxLogicalConns
  connTable : sar'.connTable = sar.connTable
  controlIn : sar'.controlIn = sar.controlIn
  readBuf : sar'.readBuf = sar.readBuf
  input : ∀ cid, (sar'.conn cid).input = (sar.conn cid).input

namespace NciSar

theorem SameInput.refl (sar : NciSar) :
  SameInput sar sar
  := ⟨rfl, rfl, rfl, rfl, fun _ => rfl⟩

theorem SameInput.trans {sar sar' sar'' : NciSar} (h : SameInput sar sar')
    (h' : SameInput sar' sar'') :
  SameInput sar sar''
  := by
  constructor
  · rw [h'.maxLogicalConns, h.maxLogicalConns]
  · rw [h'.connTable, h.connTable]
  · rw [h'.controlIn, h.controlIn]
  · rw [h'.readBuf, h.readBuf]
  · intro cid
    rw [h'.input, h.input]

theorem sameInput_modifyConn (sar : NciSar) (cid : Nat)
    (f : NciSarLogicalConnection → NciSarLogicalConnection)
    (hf : (f (sar.conn cid)).input = (sar.conn cid).input) :
  SameInput sar (sar.modifyConn cid f)
  := by
  use rfl, rfl, rfl, rfl
  intro cid'
  by_cases hcid : cid' = cid
  · subst hcid
    simp [modifyConn, hf]
  · simp [modifyConn, hcid]

theorem sameInput_relink (sar : NciSar) (k : QueueKey) (q : Queue)
    (heap : Heap NciSarPacketOut) (writing : Option Nat) :
  SameInput sar (sar.relink k q heap writing)
  := by
  cases k with
  | cmd => exact ⟨rfl, rfl, rfl, rfl, fun _ => rfl⟩
  | out cid =>
      have h := sameInput_modifyConn sar cid (fun conn => { conn with out := q }) rfl
      exact ⟨rfl, rfl, rfl, rfl, h.input⟩

theorem sameInput_scheduleWrite (sar : NciSar) :
  SameInput sar (nciSarScheduleWrite sar)
  := by
  rw [nciSarScheduleWrite]
  split <;> exact ⟨rfl, rfl, rfl, rfl, fun _ => rfl⟩

theorem sameInput_takeCredits (sar : NciSar) (cid : Nat) (credits : UInt8) :
  SameInput sar (nciSarTakeCredits sar cid credits)
  := by
  rw [nciSarTakeCredits]
  split
  · have h := sameInput_modifyConn sar cid (fun conn =>
      { conn with credits := if 0xff - conn.credits < credits then sarUnlimitedCredits
                             else conn.credits + credits }) rfl
    simp only
    split
    · apply h.trans (sameInput_scheduleWrite _)
    · apply h
  · apply SameInput.refl

theorem sameInput_receivedEffect (sar : NciSar) (packet : List UInt8) :
  SameInput sar (sar.receivedEffect packet)
  := by
  rw [receivedEffect]
  split
  · apply sameInput_takeCredits
  · apply SameInput.refl

theorem sameInput_charge (sar : NciSar) (k : QueueKey) :
  SameInput sar (sar.charge k)
  := by
  cases k with
  | cmd => apply SameInput.refl
  | out cid =>
      rw [charge, useCredit]
      split
      · apply sameInput_modifyConn
        rfl
      · apply SameInput.refl

theorem WF.sameInput_select {sar : NciSar} (hw : sar.WF) :
  SameInput sar sar.select
  := by
  have hcontinue : SameInput sar (nciSarAttemptWriteContinue sar) := by
    rcases hw.continue_cases with ⟨-, heq⟩ | ⟨k, a, -, -, -, heq⟩ | ⟨cid, a, -, -, -, heq⟩
    · rw [heq]
      apply SameInput.refl
    · rw [heq]
      apply sameInput_charge
    · rw [heq]
      apply sameInput_relink
  apply hcontinue.trans
  rcases hw.select.1.pick_cases with ⟨a, -, heq⟩ | ⟨-, -, heq⟩ | ⟨k, a, l, -, -, -, heq⟩
  · rw [NciSar.select, heq]
    apply SameInput.refl
  · rw [NciSar.select, heq]
    apply SameInput.refl
  · rw [NciSar.select, heq]
    apply (sameInput_charge _ k).trans
    apply sameInput_relink

theorem sameInput_send (sar : NciSar) (k : QueueKey) (conn : Option ConnPtr) (b0 b1 : UInt8)
    (payload : Option (List UInt8)) (complete destroy : Option Nat) :
  SameInput sar (nciSarSend sar k conn b0 b1 payload complete destroy).2
  := by
  rw [nciSarSend]
  simp only
  have halloc : ∀ out, SameInput sar (sar.alloc out) := fun _ => ⟨rfl, rfl, rfl, rfl, fun _ => rfl⟩
  have hid : ∀ (sar : NciSar) id, SameInput sar (sar.setLastPacketId id) :=
    fun _ _ => ⟨rfl, rfl, rfl, rfl, fun _ => rfl⟩
  apply (halloc _).trans
  apply (sameInput_relink _ _ _ _ _).trans
  apply (hid _ _).trans
  apply sameInput_scheduleWrite

theorem sameInput_cancelEffect (sar : NciSar) (id : UInt32) :
  SameInput sar (sar.cancelEffect id)
  := by
  rw [cancelEffect]
  split
  · split <;> exact ⟨rfl, rfl, rfl, rfl, fun _ => rfl⟩
  · split
    · apply sameInput_relink
    · apply SameInput.refl

end NciSar

/-- A call does not touch what has been received. -/
theorem Call.sameInput_effect (sar : NciSar) (c : Call) :
  NciSar.SameInput sar (c.effect sar)
  := by
  cases c with
  | setInitialCredits cid credits =>
      simp only [Call.effect, nciSarSetInitialCredits]
      split
      · apply NciSar.sameInput_modifyConn
        rfl
      · apply NciSar.SameInput.refl
  | addCredits cid credits =>
      simp only [Call.effect, nciSarAddCredits]
      split
      · apply NciSar.sameInput_takeCredits
      · apply NciSar.SameInput.refl
  | sendCommand gid oid payload complete destroy => apply NciSar.sameInput_send
  | sendDataPacket cid payload complete destroy =>
      simp only [Call.effect, nciSarSendDataPacket]
      split
      · apply NciSar.sameInput_send
      · apply NciSar.SameInput.refl
  | cancel id => apply NciSar.sameInput_cancelEffect
  | _ => exact ⟨rfl, rfl, rfl, rfl, fun _ => rfl⟩

/-- Nothing that happens in a callback touches what has been received. -/
theorem Inner.sameInput (h : Inner P w w') :
  NciSar.SameInput w.sar w'.sar
  := by
  cases h with
  | note _ => apply NciSar.SameInput.refl
  | started _ _ => exact ⟨rfl, rfl, rfl, rfl, fun _ => rfl⟩
  | called _ => apply Call.sameInput_effect
  | freed _ => exact ⟨rfl, rfl, rfl, rfl, fun _ => rfl⟩

theorem Inners.sameInput (h : Inners P w w') :
  NciSar.SameInput w.sar w'.sar
  := by
  induction h with
  | refl => apply NciSar.SameInput.refl
  | tail _ hstep ih => apply ih.trans hstep.sameInput

/-! ### Callbacks -/

/-- The surroundings record what happens, and their callbacks are sequences of `Inner`
steps. -/
structure SarEnv.Traced (P : Call → Prop) (E : SarEnv Log) : Prop where
  halStart : ∀ sar log, (E.halStart sar log).2
    = log ++ [.halStart (E.halStart sar log).1 sar.snapshot]
  halWrite : ∀ chunks sar log, (E.halWrite chunks sar log).2
    = log ++ [.halWrite chunks (E.halWrite chunks sar log).1 sar.snapshot]
  error : ∀ w, w.sar.Sound → Inners P w (E.error w)
  handleResponse : ∀ gid oid payload w, w.sar.Sound →
    Inners P w (E.handleResponse gid oid payload w)
  handleNotification : ∀ gid oid payload w, w.sar.Sound →
    Inners P w (E.handleNotification gid oid payload w)
  handleDataPacket : ∀ cid payload w, w.sar.Sound →
    Inners P w (E.handleDataPacket cid payload w)
  complete : ∀ f ok w, w.sar.Sound → Inners P w (E.complete f ok w)
  destroy : ∀ f w, w.sar.Sound → Inners P w (E.destroy f w)

variable {E : SarEnv Log}

/-- Freeing a detached packet. -/
theorem SarEnv.Traced.packetOutFree (hE : E.Traced P) {a : Nat} (hw : w.sar.Sound)
    (hd : w.sar.Detached a) :
  Inners P w (nciSarPacketOutFree E a w)
  := by
  rw [nciSarPacketOutFree]
  split
  · rename_i destroy _
    have hdestroy := hE.destroy destroy w hw
    apply hdestroy.tail
    apply Inner.freed
    apply Inners.detached hdestroy hw hd
  · apply Relation.ReflTransGen.single
    apply Inner.freed hd

/-- Finishing a detached packet. -/
theorem SarEnv.Traced.packetOutFinish (hE : E.Traced P) {a : Nat} (ok : Bool)
    (hw : w.sar.Sound) (hd : w.sar.Detached a) :
  Inners P w (nciSarPacketOutFinish E a ok w)
  := by
  rw [nciSarPacketOutFinish]
  split
  · rename_i complete _
    have hcomplete := hE.complete complete ok w hw
    apply hcomplete.trans
    apply hE.packetOutFree (Inners.sound hcomplete hw) (Inners.detached hcomplete hw hd)
  · apply hE.packetOutFree hw hd

/-- Searching the queues for an id. -/
theorem nciSarCancelQueues_eq {ε : Type} (E : SarEnv ε) (id : UInt32) (w : World ε) :
  ∀ ks : List QueueKey, nciSarCancelQueues E id ks w
    = match w.sar.findPacket id ks with
      | some (k, a) => nciSarPacketOutFree E a (w.map fun sar => sar.unlink id k)
      | none => w
  | [] => rfl
  | k :: ks => by
      rw [nciSarCancelQueues, nciSarCancelQueue, NciSar.findPacket, List.findSome?_cons]
      cases ha : w.sar.found id k with
      | some a => simp
      | none =>
          simp only [Option.map_none, Bool.false_eq_true, if_false]
          apply nciSarCancelQueues_eq E id w ks

/-- Cancelling is its effect on the queues, followed by freeing the packet that is removed. -/
theorem nciSarCancel_eq {ε : Type} (E : SarEnv ε) (id : UInt32) (w : World ε) :
  nciSarCancel E id w
    = match w.sar.cancelTarget id with
      | some (_, a) => nciSarPacketOutFree E a (w.map fun sar => sar.cancelEffect id)
      | none => w.map fun sar => sar.cancelEffect id
  := by
  by_cases hid : id = 0
  · simp [nciSarCancel, NciSar.cancelTarget, NciSar.cancelEffect, hid, World.map]
  · by_cases hwr : w.sar.isWriting id = true
    · have htarget : w.sar.cancelTarget id = none := by simp [NciSar.cancelTarget, hwr]
      rw [nciSarCancel, if_pos hid, if_pos hwr, htarget]
      simp only [World.map, NciSar.cancelEffect, ne_eq, hid, hwr, not_false_eq_true, true_and,
        if_true]
      cases w.sar.writing <;> rfl
    · have htarget : w.sar.cancelTarget id = w.sar.findPacket id w.sar.keys := by
        simp [NciSar.cancelTarget, hid, hwr]
      rw [nciSarCancel, if_pos hid, if_neg hwr, nciSarCancelQueues_eq, htarget]
      simp only [World.map, NciSar.cancelEffect, hwr, and_false, if_false, htarget,
        Bool.false_eq_true]
      cases w.sar.findPacket id w.sar.keys <;> rfl

/-- A call is a sequence of `Inner` steps. -/
theorem App.call_inners (A : App P) (hP : ∀ c, P c → c.Steady) (hE : E.Traced P)
    (c : Subtype P) (hw : w.sar.Sound) :
  Inners P w (A.call E c w)
  := by
  obtain ⟨c, hc⟩ := c
  have hcalled : Inners P w ((w.record (.called c w.sar.snapshot)).map fun sar => c.effect sar) :=
    Relation.ReflTransGen.single (Inner.called hc)
  cases c with
  | reset => exact absurd (hP _ hc) id
  | setMaxLogicalConnections max => exact absurd (hP _ hc) id
  | start =>
      apply hcalled.trans
      simp only [App.call, Call.perform, nciSarStart]
      split
      · apply Relation.ReflTransGen.refl
      · rw [hE.halStart]
        apply Relation.ReflTransGen.single
        apply Inner.started
  | cancel id =>
      apply hcalled.trans
      have hsound := Inners.sound hcalled hw
      simp only [App.call, Call.perform, nciSarCancel_eq]
      split
      · rename_i k a ht
        apply hE.packetOutFree hsound
        apply NciSar.detached_of_cancelTarget hw.wf ht
      · apply Relation.ReflTransGen.refl
  | setMaxControlPayloadSize max => apply hcalled
  | setMaxDataPayloadSize max => apply hcalled
  | setInitialCredits cid credits => apply hcalled
  | addCredits cid credits => apply hcalled
  | sendCommand gid oid payload complete destroy => apply hcalled
  | sendDataPacket cid payload complete destroy => apply hcalled

/-- Calls in a row are a sequence of `Inner` steps. -/
theorem App.calls_inners (A : App P) (hP : ∀ c, P c → c.Steady) (hE : E.Traced P) :
  ∀ (calls : List (Subtype P)) {w : World Log}, w.sar.Sound →
    Inners P w (calls.foldl (fun w c => A.call E c w) w)
  | [], _, _ => Relation.ReflTransGen.refl
  | c :: calls, _, hw => by
      have hc := A.call_inners hP hE c hw
      apply hc.trans
      apply A.calls_inners hP hE calls (Inners.sound hc hw)

theorem App.envWith_traced (A : App P) {perform : List (Subtype P) → World Log → World Log}
    (hperform : ∀ calls w, w.sar.Sound → Inners P w (perform calls w)) :
  (A.envWith perform).Traced P
  := by
  have hcallback : ∀ e w, e.Note → w.sar.Sound →
      Inners P w (perform (A.react (w.record e).env) (w.record e)) := by
    intro e w he hw
    apply Relation.ReflTransGen.head (Inner.note he)
    apply hperform _ (w.record e) hw
  constructor
  · intro sar log
    rfl
  · intro chunks sar log
    rfl
  · intro w hw
    apply hcallback .error w trivial hw
  · intro gid oid payload w hw
    apply hcallback (.response gid oid payload) w trivial hw
  · intro gid oid payload w hw
    apply hcallback (.notification gid oid payload) w trivial hw
  · intro cid payload w hw
    apply hcallback (.dataPacket cid payload) w trivial hw
  · intro f ok w hw
    apply hcallback (.complete f ok) w trivial hw
  · intro f w hw
    apply hcallback (.destroy f) w trivial hw

/-- The surroundings of a run record what happens, at every depth. -/
theorem App.env_traced (A : App P) (hP : ∀ c, P c → c.Steady) :
  ∀ n, (A.env n).Traced P
  | 0 => A.envWith_traced fun _ _ _ => Relation.ReflTransGen.refl
  | n + 1 => A.envWith_traced fun calls _ hw => A.calls_inners hP (A.env_traced hP n) calls hw

/-! ### Writing -/

namespace NciSar

/-- The choice of the packet to write does not depend on whether the HAL is started. -/
theorem select_setStarted (sar : NciSar) (b : Bool) :
  (sar.setStarted b).select = sar.select.setStarted b
  := by
  have hg := passive_setStarted b
  rw [select, hg.attemptWriteContinue, hg.attemptWritePick, select]

end NciSar

/-- Dropping a packet forgets that it is being written first. -/
theorem nciSarAttemptWriteFailed_setWriting {ε : Type} (E : SarEnv ε) (a : Nat) (w : World ε) :
  nciSarAttemptWriteFailed E a (w.map fun sar => sar.setWriting none)
    = nciSarAttemptWriteFailed E a w
  := rfl

/-- A detached packet whose segment has not been taken is dropped. -/
theorem SarEnv.Traced.attemptWriteFailed (hE : E.Traced P) {a : Nat} (hw : w.sar.Sound)
    (hd : w.sar.Detached a) (hwriting : w.sar.writing = none) :
  Steps P w (nciSarAttemptWriteFailed E a w)
  := by
  have heq : (w.map fun sar => sar.setWriting none) = w := by
    simp [World.map, NciSar.setWriting, ← hwriting]
  rw [nciSarAttemptWriteFailed, heq]
  have hfinish := hE.packetOutFinish false hw hd
  have herror := hfinish.trans (hE.error _ (Inners.sound hfinish hw))
  apply (Inners.steps herror).tail
  apply Step.scheduled

/-- A packet that is being written is detached once its segment is cut off and it is
forgotten. -/
theorem NciSar.WF.detached_cutSegment {sar sar' : NciSar} (hw : sar.WF) {a : Nat}
    {out : NciSarPacketOut} (ha : sar.writing = some a) (hout : sar.heap a = some out)
    (hs : NciSar.SameQueues ((sar.cutSegment a out).setWriting none) sar') :
  sar'.Detached a
  := by
  obtain ⟨⟨k, hk⟩, hn⟩ := hw.writing a ha
  rw [detached_iff, hs.lists]
  have hl := (hw.cutSegment hout).2
  use hk.1
  constructor
  · intro k'
    have hq : (sar.cutSegment a out).queued k' = sar.queued k' :=
      congrFun (congrArg Lists.queued hl) k'
    have hq' : ((sar.cutSegment a out).setWriting none).queued k'
        = (sar.cutSegment a out).queued k' := by cases k' <;> rfl
    rw [lists_queued, hq', hq]
    apply hn
  · simp [setWriting]

/-- Other changes do not matter to whether a packet is resumed. -/
theorem Resumes.of_same (hr : Resumes w) (hlog : ∀ {e}, e ∈ w.env → e ∈ w'.env)
    (hs : NciSar.SameQueues w.sar w'.sar)
    (hcredits : ∀ cid, (w'.sar.conn cid).credits = (w.sar.conn cid).credits) :
  Resumes w'
  := by
  intro a ha
  rw [hs.writing] at ha
  obtain ⟨sar, hmem, hsar, hdone, hs', hcredits'⟩ := hr a ha
  use sar, hlog hmem, hsar, hdone, hs'.trans hs
  intro cid
  rw [hcredits, hcredits']

theorem resumes_of_none (h : w.sar.writing = none) :
  Resumes w
  := by
  intro a ha
  simp [h] at ha

/-- What is done with the packet that has been chosen. -/
def nciSarAttemptWriteGo {ε : Type} (E : SarEnv ε) (a : Nat) (w : World ε) : World ε :=
  let r := nciSarAttemptWriteSubmit E a w
  if r.1 then r.2 else nciSarAttemptWriteFailed E a r.2

section

variable {a : Nat} {out : NciSarPacketOut}

/-- The chosen packet is handed to a HAL that is started. -/
theorem SarEnv.Traced.go_started (hE : E.Traced P) (hw : w.sar.Sound)
    (hp : w.sar.writePending = false) (hr : Resumes w) (ha : w.sar.select.writing = some a)
    (hout : w.sar.select.heap a = some out) (hstarted : w.sar.select.started = true) :
  Steps P w (nciSarAttemptWriteGo E a (w.map NciSar.select))
    ∧ (nciSarAttemptWriteGo E a (w.map NciSar.select)).sar.Rest
  := by
  obtain ⟨chunks, hchunks⟩ : ∃ chunks,
      chunks = (out.nextSegment (w.sar.select.maxPayloadSize out)).2 := ⟨_, rfl⟩
  obtain ⟨cut, hcut⟩ : ∃ cut, cut = w.sar.select.cutSegment a out := ⟨_, rfl⟩
  obtain ⟨ok, hok⟩ : ∃ ok, (E.halWrite chunks (cut.setWritePending true) w.env).1 = ok :=
    ⟨_, rfl⟩
  have hlog := hE.halWrite chunks (cut.setWritePending true) w.env
  rw [hok] at hlog
  have hhanded := Step.handed (P := P) ok hp hr ha hout
  have hcutStarted : cut.started = true := by
    rw [hcut]
    apply hstarted
  have hcutWriting : cut.writing = some a := by
    rw [hcut]
    apply ha
  have hsubmit : nciSarAttemptWriteSubmit E a (w.map NciSar.select)
      = (ok, ⟨cut.setWritePending ok,
          w.env ++ [.halWrite chunks ok (cut.setWritePending true).snapshot]⟩) := by
    have hstart : nciSarStart E ⟨cut, w.env⟩ = ⟨cut, w.env⟩ := by
      rw [nciSarStart, if_pos hcutStarted]
    simp only [nciSarAttemptWriteSubmit, World.map, hout, ← hchunks, ← hcut, hstart,
      nciSarAttemptWriteRequest, if_pos hcutStarted, hok, hlog]
    rfl
  simp only [World.map, World.record, ← hcut, ← hchunks] at hhanded
  rw [nciSarAttemptWriteGo, hsubmit]
  cases ok with
  | true =>
      have heq : (cut.setWritePending true).setWriting (some a) = cut.setWritePending true := by
        rw [← hcutWriting]
        rfl
      simp only [if_true, heq] at hhanded ⊢
      constructor
      · apply Relation.ReflTransGen.single hhanded
      · intro hpending
        simp [NciSar.setWritePending] at hpending
  | false =>
      simp only [Bool.false_eq_true, if_false] at hhanded ⊢
      rw [← nciSarAttemptWriteFailed_setWriting]
      have hfailed := hE.attemptWriteFailed (hhanded.sound hw)
        (hw.wf.select.2.detached_cutSegment ha hout (by
          rw [hcut]
          apply NciSar.sameQueues_of_fields <;> rfl)) rfl
      constructor
      · apply Relation.ReflTransGen.head hhanded hfailed
      · apply Steps.rest hfailed
        intro _
        rfl

/-- The chosen packet is dropped because the HAL cannot be started. -/
theorem SarEnv.Traced.go_notStarted (hE : E.Traced P) (hw : w.sar.Sound)
    (hp : w.sar.writePending = false) (hr : Resumes w) (ha : w.sar.select.writing = some a)
    (hout : w.sar.select.heap a = some out) (hstarted : w.sar.select.started = false)
    (hstart : (E.halStart (w.sar.select.cutSegment a out) w.env).1 = false) :
  Steps P w (nciSarAttemptWriteGo E a (w.map NciSar.select))
    ∧ (nciSarAttemptWriteGo E a (w.map NciSar.select)).sar.Rest
  := by
  obtain ⟨cut, hcut⟩ : ∃ cut, cut = w.sar.select.cutSegment a out := ⟨_, rfl⟩
  rw [← hcut] at hstart
  have hlog := hE.halStart cut w.env
  rw [hstart] at hlog
  have hstep := Step.notStarted (P := P) hp hr ha hout
  simp only [World.map, World.record, ← hcut] at hstep
  have hcutStarted : cut.started = false := by
    rw [hcut]
    apply hstarted
  have hsubmit : nciSarAttemptWriteSubmit E a (w.map NciSar.select)
      = (false, ⟨cut.setStarted false, w.env ++ [.halStart false cut.snapshot]⟩) := by
    have hnot : nciSarStart E ⟨cut, w.env⟩
        = ⟨cut.setStarted false, w.env ++ [.halStart false cut.snapshot]⟩ := by
      simp only [nciSarStart, hcutStarted, Bool.false_eq_true, if_false, hstart, hlog]
    simp only [nciSarAttemptWriteSubmit, World.map, hout, ← hcut, hnot,
      nciSarAttemptWriteRequest]
    rfl
  rw [nciSarAttemptWriteGo, hsubmit]
  simp only [Bool.false_eq_true, if_false]
  rw [← nciSarAttemptWriteFailed_setWriting]
  have hfailed := hE.attemptWriteFailed (hstep.sound hw)
    (hw.wf.select.2.detached_cutSegment ha hout (by
      rw [hcut]
      apply NciSar.sameQueues_of_fields <;> rfl)) rfl
  constructor
  · apply Relation.ReflTransGen.head hstep hfailed
  · apply Steps.rest hfailed
    intro _
    rfl

/-- The chosen packet is handed over after the HAL has been started. -/
theorem SarEnv.Traced.go_start (hE : E.Traced P) (hw : w.sar.Sound)
    (hp : w.sar.writePending = false) (hr : Resumes w) (ha : w.sar.select.writing = some a)
    (hout : w.sar.select.heap a = some out) (hstarted : w.sar.select.started = false)
    (hstart : (E.halStart (w.sar.select.cutSegment a out) w.env).1 = true) :
  Steps P w (nciSarAttemptWriteGo E a (w.map NciSar.select))
    ∧ (nciSarAttemptWriteGo E a (w.map NciSar.select)).sar.Rest
  := by
  obtain ⟨w', hw'⟩ : ∃ w', w' = (w.map fun sar => sar.setStarted true).record
      (.halStart true (w.sar.select.cutSegment a out).snapshot) := ⟨_, rfl⟩
  have hinner : Inner P w w' := by
    rw [hw']
    apply Inner.started true _
  have hselect : w'.sar.select = w.sar.select.setStarted true := by
    rw [hw']
    apply NciSar.select_setStarted
  have hgo : nciSarAttemptWriteGo E a (w.map NciSar.select)
      = nciSarAttemptWriteGo E a (w'.map NciSar.select) := by
    obtain ⟨cut, hcut⟩ : ∃ cut, cut = w.sar.select.cutSegment a out := ⟨_, rfl⟩
    have hlog := hE.halStart cut w.env
    rw [← hcut] at hstart
    rw [hstart] at hlog
    have hcutStarted : cut.started = false := by
      rw [hcut]
      apply hstarted
    have hfirst : nciSarStart E ⟨cut, w.env⟩
        = ⟨cut.setStarted true, w.env ++ [.halStart true cut.snapshot]⟩ := by
      simp only [nciSarStart, hcutStarted, Bool.false_eq_true, if_false, hstart, hlog]
    have hsecond : nciSarStart E ⟨cut.setStarted true, w.env ++ [.halStart true cut.snapshot]⟩
        = ⟨cut.setStarted true, w.env ++ [.halStart true cut.snapshot]⟩ := rfl
    have hmap : w'.map NciSar.select
        = ⟨w.sar.select.setStarted true, w.env ++ [.halStart true cut.snapshot]⟩ := by
      rw [World.map, hselect, hw', hcut]
      rfl
    have hcut' : (w.sar.select.setStarted true).cutSegment a out = cut.setStarted true := by
      rw [hcut]
      rfl
    have hout' : (w.sar.select.setStarted true).heap a = some out := hout
    have hsubmit : nciSarAttemptWriteSubmit E a (w.map NciSar.select)
        = nciSarAttemptWriteSubmit E a (w'.map NciSar.select) := by
      rw [hmap]
      simp only [nciSarAttemptWriteSubmit, World.map, hout, hout', ← hcut, hcut', hfirst, hsecond]
      rfl
    rw [nciSarAttemptWriteGo, nciSarAttemptWriteGo, hsubmit]
  rw [hgo]
  have hresumes : Resumes w' := by
    rw [hw']
    apply hr.of_same (List.mem_append_left _)
    · apply NciSar.sameQueues_of_fields <;> rfl
    · intro cid
      rfl
  obtain ⟨hsteps, hrest⟩ := hE.go_started (hinner.sound hw) (by rw [hinner.fields.1, hp]) hresumes
    (by rw [hselect]; apply ha) (by rw [hselect]; apply hout) (by rw [hselect]; rfl)
  constructor
  · apply Relation.ReflTransGen.head (Step.inner hinner) hsteps
  · apply hrest

end

/-- Attempting to write. -/
theorem SarEnv.Traced.attemptWrite (hE : E.Traced P) (hw : w.sar.Sound)
    (hr : w.sar.writePending = false → Resumes w) :
  Steps P w (nciSarAttemptWrite E w) ∧ (nciSarAttemptWrite E w).sar.Rest
  := by
  by_cases hp : w.sar.writePending = true
  · rw [nciSarAttemptWrite, if_pos hp]
    use Relation.ReflTransGen.refl
    intro hp'
    simp [hp] at hp'
  have hp' : w.sar.writePending = false := by simpa using hp
  cases ha : w.sar.select.writing with
  | none =>
      have hattempt : nciSarAttemptWrite E w = w.map NciSar.select := by
        rw [nciSarAttemptWrite, if_neg hp]
        dsimp only
        split
        · rename_i hsome
          cases ha.symm.trans hsome
        · rfl
      rw [hattempt]
      constructor
      · apply Relation.ReflTransGen.single
        apply Step.attempted hp' (hr hp') ha
      · intro _
        apply ha
  | some a =>
      have hattempt : nciSarAttemptWrite E w
          = nciSarAttemptWriteGo E a (w.map NciSar.select) := by
        rw [nciSarAttemptWrite, if_neg hp]
        dsimp only
        split
        · rename_i hsome
          cases ha.symm.trans hsome
          rfl
        · rename_i hnone
          cases ha.symm.trans hnone
      rw [hattempt]
      obtain ⟨out, hout⟩ : ∃ out, w.sar.select.heap a = some out := by
        obtain ⟨⟨k, -, x, hx, -⟩, -⟩ := hw.wf.select.2.writing a ha
        obtain ⟨out, hout, -⟩ := Option.map_eq_some_iff.mp hx
        use out
      by_cases hstarted : w.sar.select.started = true
      · apply hE.go_started hw hp' (hr hp') ha hout hstarted
      · have hstarted' : w.sar.select.started = false := by simpa using hstarted
        by_cases hstart : (E.halStart (w.sar.select.cutSegment a out) w.env).1 = true
        · apply hE.go_start hw hp' (hr hp') ha hout hstarted' hstart
        · apply hE.go_notStarted hw hp' (hr hp') ha hout hstarted' (by simpa using hstart)

/-- A packet that is being written is detached once it is forgotten. -/
theorem NciSar.WF.detached_completedEffect {sar : NciSar} (hw : sar.WF) {ok : Bool} {a : Nat}
    (ha : sar.writing = some a) (hdone : (ok && !sar.isDoneAt a) = false) :
  (sar.completedEffect ok a).Detached a
  := by
  obtain ⟨⟨k, hk⟩, hn⟩ := hw.writing a ha
  use hk.1
  constructor
  · intro k'
    have hq : (sar.completedEffect ok a).queued k' = sar.queued k' := by cases k' <;> rfl
    rw [hq]
    apply hn
  · simp [NciSar.completedEffect, setWriting, hdone]

/-- The end of a write, and what follows from it: an attempt to write if it has succeeded, and
only callbacks if it has not. -/
theorem SarEnv.Traced.writeCompleted (hE : E.Traced P) (ok : Bool) (hw : w.sar.Sound)
    (hp : w.sar.writePending = true) :
  ∃ w', Completed w w' ∧ w'.env = w.env ++ [.completed ok w.sar.snapshot]
    ∧ Steps P w' (nciSarWriteCompleted E ok (w.record (.completed ok w.sar.snapshot)))
    ∧ (nciSarWriteCompleted E ok (w.record (.completed ok w.sar.snapshot))).sar.Rest
    ∧ (ok = true → ∃ w'' : World Log, w''.sar.Sound
      ∧ nciSarWriteCompleted E ok (w.record (.completed ok w.sar.snapshot))
        = nciSarAttemptWrite E w'')
    ∧ (ok = false →
      Inners P w' (nciSarWriteCompleted E ok (w.record (.completed ok w.sar.snapshot))))
  := by
  obtain ⟨a, ha⟩ := Option.isSome_iff_exists.mp (hw.pending hp)
  obtain ⟨w', hw'⟩ : ∃ w', w' = (w.record (.completed ok w.sar.snapshot)).map fun sar =>
      sar.completedEffect ok a := ⟨_, rfl⟩
  have hstep : Completed w w' := by
    rw [hw']
    apply Completed.mk ok hp ha
  have hsound := hstep.sound hw
  have hpending : w.sar.setWritePending false
      = (w.sar.setWritePending false).setWriting (some a) := by
    rw [← ha]
    rfl
  use w', hstep, by rw [hw']; rfl
  simp only [nciSarWriteCompleted, World.record, ha]
  cases ok with
  | true =>
      have hdoneAt : (w.sar.setWritePending false).isDoneAt a = w.sar.isDoneAt a := rfl
      by_cases hdone : w.sar.isDoneAt a = true
      · have heq : w' = ⟨(w.sar.setWritePending false).setWriting none,
            w.env ++ [.completed true w.sar.snapshot]⟩ := by
          simp [hw', World.map, World.record, NciSar.completedEffect, hdone]
        have hdetached : w'.sar.Detached a := by
          rw [hw']
          apply hw.wf.detached_completedEffect ha
          simp [hdone]
        have hfinish := hE.packetOutFinish true hsound hdetached
        simp only [World.map, hdoneAt, hdone, if_true]
        rw [heq] at hfinish hsound ⊢
        obtain ⟨hsteps, hrest⟩ := hE.attemptWrite (Inners.sound hfinish hsound) (by
          intro _
          apply resumes_of_none
          apply (Inners.fields hfinish).2)
        constructor
        · apply (Inners.steps hfinish).trans hsteps
        · use hrest
          constructor
          · intro _
            exact ⟨_, Inners.sound hfinish hsound, rfl⟩
          · intro hok
            simp at hok
      · have heq : w' = ⟨w.sar.setWritePending false,
            w.env ++ [.completed true w.sar.snapshot]⟩ := by
          simp [hw', World.map, World.record, NciSar.completedEffect, hdone, ← hpending]
        simp only [World.map, hdoneAt, hdone, if_true, Bool.false_eq_true, if_false]
        rw [← heq]
        obtain ⟨hsteps, hrest⟩ := hE.attemptWrite hsound (by
          intro _ b hb
          obtain rfl : a = b := by simpa [heq, NciSar.setWritePending, ha] using hb
          use w.sar
          rw [heq]
          use List.mem_append_right _ List.mem_cons_self, ha, by simpa using hdone
          constructor
          · apply NciSar.sameQueues_of_fields <;> rfl
          · intro cid
            rfl)
        use hsteps, hrest
        constructor
        · intro _
          use w', hsound
        · intro hok
          simp at hok
  | false =>
      have heq : w' = ⟨(w.sar.setWritePending false).setWriting none,
          w.env ++ [.completed false w.sar.snapshot]⟩ := by
        simp [hw', World.map, World.record, NciSar.completedEffect]
      have hdetached : w'.sar.Detached a := by
        rw [hw']
        apply hw.wf.detached_completedEffect ha rfl
      have hfinish := hE.packetOutFinish false hsound hdetached
      simp only [World.map, Bool.false_eq_true, if_false]
      rw [heq] at hfinish hsound ⊢
      have herror := hfinish.trans (hE.error _ (Inners.sound hfinish hsound))
      constructor
      · apply Inners.steps herror
      constructor
      · apply Steps.rest (Inners.steps herror)
        intro _
        rfl
      constructor
      · intro hok
        simp at hok
      · intro _
        apply herror

/-- The idle callback. -/
theorem SarEnv.Traced.startWrite (hE : E.Traced P) (hw : w.sar.Sound) (hr : w.sar.Rest) :
  Steps P w (nciSarStartWrite E (w.record .idle))
  := by
  have hidle : Step P w (w.record .idle) := Step.inner (Inner.note trivial)
  have hstep : Step P (w.record .idle)
      ((w.record .idle).map fun sar => sar.setStartWriteId false) :=
    Step.unscheduled
  apply Relation.ReflTransGen.head hidle
  apply Relation.ReflTransGen.head hstep
  apply (hE.attemptWrite (hstep.sound (hidle.sound hw)) _).1
  intro hp
  apply resumes_of_none
  apply hr hp

/-! ### Segments -/

/-- A control message is passed to the client. -/
theorem SarEnv.Traced.handleControlPacket (hE : E.Traced P) (mt gid oid : UInt8)
    (payload : List UInt8) (hw : w.sar.Sound) :
  Arrivals P w (nciSarHalHandleControlPacket E mt gid oid payload w)
  := by
  rw [nciSarHalHandleControlPacket]
  split
  · apply Inners.arrivals (hE.handleResponse gid oid payload w hw)
  · apply Inners.arrivals (hE.handleNotification gid oid payload w hw)

/-- A segment of a control message. -/
theorem SarEnv.Traced.handleControlSegment (hE : E.Traced P) (packet : List UInt8)
    (hw : w.sar.Sound) :
  Arrivals P w (nciSarHalHandleControlSegment E packet w)
  := by
  have hinput : ∀ (w : World Log) (input : Option (List UInt8)),
      Arrival P w (w.map fun sar => sar.setControlIn input) :=
        fun _ input => Arrival.controlInput input
  simp only [nciSarHalHandleControlSegment]
  split
  · split
    · split
      · have hpacket := hE.handleControlPacket (packet.getD 0 0 &&& nciMtMask)
          (packet.getD 0 0 &&& nciControlGidMask) (packet.getD 1 0 &&& nciControlOidMask)
          ((w.sar.controlIn.getD [] ++ packetPayload packet).drop nciHdrSize)
          ((hinput w none).step.sound hw)
        apply Relation.ReflTransGen.head (hinput w none)
        apply hpacket.tail
        apply hinput
      · apply Relation.ReflTransGen.single
        apply hinput
    · apply Inners.arrivals (hE.error w hw)
  · split
    · apply Relation.ReflTransGen.single
      apply hinput
    · apply hE.handleControlPacket _ _ _ _ hw

theorem NciSar.receivedEffect_of_data {sar : NciSar} {packet : List UInt8}
    (hmt : packet.getD 0 0 &&& nciMtMask = nciMtDataPkt)
    (hcid : packet.getD 0 0 &&& nciDataCidMask < sar.maxLogicalConns) :
  sar.receivedEffect packet
    = nciSarTakeCredits sar (packet.getD 0 0 &&& nciDataCidMask).toNat
        (packet.getD 1 0 &&& nciDataCrMask)
  := by rw [receivedEffect, if_pos ⟨hmt, hcid⟩]

theorem NciSar.receivedEffect_of_not {sar : NciSar} {packet : List UInt8}
    (h : ¬ (packet.getD 0 0 &&& nciMtMask = nciMtDataPkt
      ∧ packet.getD 0 0 &&& nciDataCidMask < sar.maxLogicalConns)) :
  sar.receivedEffect packet = sar
  := by rw [receivedEffect, if_neg h]

/-- The step in which a segment arrives that grants no credits. -/
theorem Arrival.received_of_not {packet : List UInt8}
    (h : ¬ (packet.getD 0 0 &&& nciMtMask = nciMtDataPkt
      ∧ packet.getD 0 0 &&& nciDataCidMask < w.sar.maxLogicalConns)) :
  Arrival P w (w.record (.received packet w.sar.snapshot))
  := by
  have hstep := Arrival.received (P := P) (w := w) packet
  have heq : ((w.record (.received packet w.sar.snapshot)).map fun sar =>
      sar.receivedEffect packet) = w.record (.received packet w.sar.snapshot) := by
    simp only [World.map, World.record_sar, NciSar.receivedEffect_of_not h]
    rfl
  rw [heq] at hstep
  apply hstep

/-- A segment of a data message. -/
theorem SarEnv.Traced.handleDataSegment (hE : E.Traced P) (packet : List UInt8)
    (hw : w.sar.Sound) (hmt : packet.getD 0 0 &&& nciMtMask = nciMtDataPkt) :
  Arrivals P w (nciSarHalHandleDataSegment E packet (w.record (.received packet w.sar.snapshot)))
  := by
  have hinput : ∀ (w : World Log) (cid : Nat) (input : Option (List UInt8)),
      Arrival P w (w.map fun sar => sar.setInput cid input) :=
        fun _ cid input => Arrival.input cid input
  by_cases hcid : packet.getD 0 0 &&& nciDataCidMask < w.sar.maxLogicalConns
  · have hstep := Arrival.received (P := P) (w := w) packet
    have hsound := hstep.step.sound hw
    obtain ⟨w', hw'⟩ : ∃ w', w' = (w.record (.received packet w.sar.snapshot)).map fun sar =>
        nciSarTakeCredits sar (packet.getD 0 0 &&& nciDataCidMask).toNat
          (packet.getD 1 0 &&& nciDataCrMask) := ⟨_, rfl⟩
    have heq : ((w.record (.received packet w.sar.snapshot)).map fun sar =>
        sar.receivedEffect packet) = w' := by
      simp only [hw', World.map, World.record_sar, NciSar.receivedEffect_of_data hmt hcid]
    have hcid' : packet.getD 0 0 &&& nciDataCidMask
        < (w.record (.received packet w.sar.snapshot)).sar.maxLogicalConns := hcid
    have htable : (w.record (.received packet w.sar.snapshot)).sar.connTable
        = w'.sar.connTable := by
      rw [hw']
      apply (NciSar.sameInput_takeCredits _ _ _).connTable.symm
    apply Relation.ReflTransGen.head hstep
    rw [heq] at hsound ⊢
    simp only [nciSarHalHandleDataSegment, if_pos hcid', ← hw']
    split
    · split
      · have hdetach := hinput w' (packet.getD 0 0 &&& nciDataCidMask).toNat none
        have hpacket := hE.handleDataPacket (packet.getD 0 0 &&& nciDataCidMask)
          (((w'.sar.conn (packet.getD 0 0 &&& nciDataCidMask).toNat).input.getD []
            ++ packetPayload packet).drop nciHdrSize) _ (hdetach.step.sound hsound)
        have htable' := htable.trans (Inners.sameInput hpacket).connTable.symm
        rw [if_pos htable']
        apply Relation.ReflTransGen.head hdetach
        apply (Inners.arrivals hpacket).tail
        apply hinput
      · apply Relation.ReflTransGen.single
        apply hinput
    · split
      · apply Relation.ReflTransGen.single
        apply hinput
      · apply Inners.arrivals (hE.handleDataPacket _ _ w' hsound)
  · have hstep : Arrival P w (w.record (.received packet w.sar.snapshot)) :=
      Arrival.received_of_not fun h => hcid h.2
    have hcid' : ¬ packet.getD 0 0 &&& nciDataCidMask
        < (w.record (.received packet w.sar.snapshot)).sar.maxLogicalConns := hcid
    apply Relation.ReflTransGen.head hstep
    rw [nciSarHalHandleDataSegment]
    simp only [if_neg hcid']
    apply Inners.arrivals (hE.error _ (hstep.step.sound hw))

/-- A segment. -/
theorem SarEnv.Traced.handleSegment (hE : E.Traced P) (packet : List UInt8) (hw : w.sar.Sound) :
  Arrivals P w (nciSarHalHandleSegment E packet (w.record (.received packet w.sar.snapshot)))
  := by
  rw [nciSarHalHandleSegment]
  by_cases hmt : packet.getD 0 0 &&& nciMtMask = nciMtDataPkt
  · simp only [if_pos hmt]
    apply hE.handleDataSegment packet hw hmt
  · have hstep : Arrival P w (w.record (.received packet w.sar.snapshot)) :=
      Arrival.received_of_not fun h => hmt h.1
    have hsound := hstep.step.sound hw
    simp only [if_neg hmt]
    apply Relation.ReflTransGen.head hstep
    split
    · apply hE.handleControlSegment packet hsound
    · apply Inners.arrivals (hE.error _ hsound)

/-! ### Runs -/

/-- An event is a sequence of steps, which comes after the end of a write if that is what the
event is. -/
theorem App.step_steps (A : App P) (hP : ∀ c, P c → c.Steady) (n : Nat) (e : Event P)
    (hw : w.sar.Sound) (hr : w.sar.Rest) :
  (Steps P w (A.step n w e) ∨ ∃ w', Completed w w' ∧ Steps P w' (A.step n w e))
    ∧ (A.step n w e).sar.Rest
  := by
  have hE := A.env_traced hP n
  cases e with
  | call c =>
      have hsteps := Inners.steps (A.call_inners hP hE c hw)
      use Or.inl hsteps
      apply Steps.rest hsteps hr
  | segment packet =>
      have hsteps := Arrivals.steps (hE.handleSegment packet hw)
      use Or.inl hsteps
      apply Steps.rest hsteps hr
  | writeCompleted ok =>
      rw [App.step]
      split
      · rename_i hp
        obtain ⟨w', hcompleted, -, hsteps, hrest, -, -⟩ := hE.writeCompleted ok hw hp
        use Or.inr ⟨w', hcompleted, hsteps⟩
      · use Or.inl Relation.ReflTransGen.refl
  | idle =>
      rw [App.step]
      split
      · have hsteps := hE.startWrite hw hr
        use Or.inl hsteps
        apply Steps.rest hsteps hr
      · use Or.inl Relation.ReflTransGen.refl
  | halError =>
      have hnote : Step P w (w.record .halError) := Step.inner (Inner.note trivial)
      have hsteps : Steps P w (A.step n w .halError) :=
        Relation.ReflTransGen.head hnote (Inners.steps (hE.error (w.record .halError) hw))
      use Or.inl hsteps
      apply Steps.rest hsteps hr

/-- What every step preserves is preserved by a sequence of steps. -/
theorem Steps.induction {I : World Log → Prop}
    (hI : ∀ w w', Step P w w' → w.sar.Sound → I w → I w') (h : Steps P w w')
    (hw : w.sar.Sound) (hIw : I w) :
  I w'
  := by
  induction h with
  | refl => apply hIw
  | tail hs hstep ih => apply hI _ _ hstep (Steps.sound hs hw) ih

/-- What every step and every end of a write preserve is preserved by an event. -/
theorem App.step_induction (A : App P) (hP : ∀ c, P c → c.Steady) {I : World Log → Prop}
    (hI : ∀ w w', Step P w w' → w.sar.Sound → I w → I w')
    (hI' : ∀ w w', Completed w w' → w.sar.Sound → I w → I w') (n : Nat) (e : Event P)
    (hw : w.sar.Sound) (hr : w.sar.Rest) (h : I w) :
  I (A.step n w e) ∧ (A.step n w e).sar.Sound ∧ (A.step n w e).sar.Rest
  := by
  obtain ⟨hsteps | ⟨w', hcompleted, hsteps⟩, hrest⟩ := A.step_steps hP n e hw hr
  · use Steps.induction hI hsteps hw h, Steps.sound hsteps hw
  · have hw' := hcompleted.sound hw
    use Steps.induction hI hsteps hw' (hI' _ _ hcompleted hw h), Steps.sound hsteps hw'

/-- What every step and every end of a write preserve is preserved by a run. -/
theorem App.run_induction (A : App P) (hP : ∀ c, P c → c.Steady) {I : World Log → Prop}
    (hI : ∀ w w', Step P w w' → w.sar.Sound → I w → I w')
    (hI' : ∀ w w', Completed w w' → w.sar.Sound → I w → I w') (n : Nat) :
  ∀ (events : List (Event P)) {w : World Log}, w.sar.Sound → w.sar.Rest → I w →
    I (A.run n w events)
  | [], _, _, _, h => h
  | e :: events, _, hw, hr, h => by
      obtain ⟨h', hw', hr'⟩ := A.step_induction hP hI hI' n e hw hr h
      apply A.run_induction hP hI hI' n events hw' hr' h'

/-- The state at the start of a run is well formed, and its queues are empty. -/
theorem NciSar.Quiet.wf {sar : NciSar} (h : sar.Quiet) :
  sar.WF ∧ ∀ k, sar.queued k = []
  := by
  apply wf_of_lists _ (fun _ => []) _ _ _ _ h.control h.data
  · intro k
    rw [h.queue]
    rfl
  · intro k
    left
    rw [h.queue]
    rfl
  · simp
  · simp [h.writing]

theorem NciSar.Quiet.sound {sar : NciSar} (h : sar.Quiet) :
  sar.Sound
  := by
  use h.wf.1
  simp [h.writePending]

theorem NciSar.Quiet.rest {sar : NciSar} (h : sar.Quiet) :
  sar.Rest
  := fun _ => h.writing

end Nci
