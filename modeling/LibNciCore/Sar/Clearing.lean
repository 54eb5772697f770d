import LibNciCore.Sar.Moves

/-!
# Clearing queues

Where the destroy functions of packets call nothing, clearing a queue is a single change of the
state: the queue is empty, and its packets are deallocated. So are the resets, which clear all
queues, and the changes of the number of connections, which clear the queues of the connections
that are given up.
-/

namespace Nci

open LinkedQueue

variable {ε : Type} {E : SarEnv ε}

/-- The destroy functions of packets call nothing. -/
structure SarEnv.Discreet (E : SarEnv ε) : Prop where
  destroy : ∀ f w, (E.destroy f w).sar = w.sar

theorem SarEnv.Discreet.packetOutFree (hE : E.Discreet) (a : Nat) (w : World ε) :
  (nciSarPacketOutFree E a w).sar = w.sar.dealloc a
  := by
  rw [nciSarPacketOutFree]
  split
  · simp only [World.map, hE.destroy]
  · rfl

/-! ### Cleared states -/

namespace NciSar

/-- The queues with some keys are cleared: they are empty, and their packets are deallocated.
The other queues and packets are left alone. -/
structure Cleared (K : QueueKey → Prop) (sar sar' : NciSar) : Prop where
  empty : ∀ k, K k → sar'.queue k = Queue.empty
  queue : ∀ k, ¬ K k → sar'.queue k = sar.queue k
  gone : ∀ k, K k → ∀ a ∈ sar.queued k, sar'.heap a = none
  heap : ∀ a, (∀ k, K k → a ∉ sar.queued k) → sar'.heap a = sar.heap a
  nextAddr : sar'.nextAddr = sar.nextAddr
  connTable : sar'.connTable = sar.connTable
  writing : sar'.writing = sar.writing
  writePending : sar'.writePending = sar.writePending
  maxLogicalConns : sar'.maxLogicalConns = sar.maxLogicalConns
  lastPacketId : sar'.lastPacketId = sar.lastPacketId
  control : sar'.controlPayloadLimit = sar.controlPayloadLimit
  data : sar'.dataPayloadLimit = sar.dataPayloadLimit

variable {sar sar' sar'' : NciSar} {K K' : QueueKey → Prop}

/-- A packet of another queue is not among those of the cleared queues. -/
theorem WF.not_mem_of_not (hw : sar.WF) {k : QueueKey} {a : Nat} (hk : ¬ K k)
    (ha : a ∈ sar.queued k) :
  ∀ k', K k' → a ∉ sar.queued k'
  := by
  intro k' hk' ha'
  obtain rfl := hw.mem_unique ha' (hw.owned k a ha)
  apply hk hk'

theorem Cleared.packet (h : Cleared K sar sar') {a : Nat}
    (ha : ∀ k, K k → a ∉ sar.queued k) :
  sar'.packet a = sar.packet a
  := by rw [NciSar.packet, NciSar.packet, h.heap a ha]

theorem Cleared.connPtr (h : Cleared K sar sar') (k : QueueKey) :
  sar'.connPtr k = sar.connPtr k
  := by
  cases k with
  | cmd => rfl
  | out cid => rw [NciSar.connPtr, NciSar.connPtr, h.connTable]

theorem Cleared.owned (h : Cleared K sar sar') {k : QueueKey} {a : Nat}
    (ha : ∀ k, K k → a ∉ sar.queued k) (hk : sar.Owned k a) :
  sar'.Owned k a
  := by
  rw [Owned, h.nextAddr, h.packet ha, h.connPtr]
  apply hk

/-- A cleared state is well formed, and the queues that are left have the same packets. -/
theorem Cleared.spec (h : Cleared K sar sar') (hw : sar.WF) :
  sar'.WF ∧ (∀ k, K k → sar'.queued k = []) ∧ ∀ k, ¬ K k → sar'.queued k = sar.queued k
  := by
  classical
  obtain ⟨hwf, hq⟩ := wf_of_lists sar' (fun k => if K k then [] else sar.queued k) (by
      intro k
      by_cases hk : K k
      · rw [if_pos hk, h.empty k hk]
        rfl
      · rw [if_neg hk, h.queue k hk]
        apply (hw.chain k).congr
        intro a ha
        apply h.heap a (hw.not_mem_of_not hk ha)) (by
      intro k
      by_cases hk : K k
      · left
        rw [h.empty k hk]
        rfl
      · rw [if_neg hk, h.queue k hk]
        apply hw.last k) (by
      intro k a ha
      by_cases hk : K k
      · simp [hk] at ha
      · rw [if_neg hk] at ha
        apply h.owned (hw.not_mem_of_not hk ha) (hw.owned k a ha)) (by
      intro a ha
      rw [h.writing] at ha
      obtain ⟨⟨k, hk⟩, hn⟩ := hw.writing a ha
      use ⟨k, h.owned (fun k' _ => hn k') hk⟩
      intro k'
      by_cases hk' : K k'
      · simp [hk']
      · rw [if_neg hk']
        apply hn k') (by rw [h.control]; apply hw.control) (by rw [h.data]; apply hw.data)
  use hwf
  constructor
  · intro k hk
    rw [hq k, if_pos hk]
  · intro k hk
    rw [hq k, if_neg hk]

/-- Clearing no queue at all. -/
theorem cleared_of_tuned (h : Tuned sar sar') (hcontrol : sar'.controlPayloadLimit
      = sar.controlPayloadLimit) (hdata : sar'.dataPayloadLimit = sar.dataPayloadLimit) :
  Cleared (fun _ => False) sar sar'
  := by
  constructor
  · intro k hk
    exact hk.elim
  · intro k _
    apply h.same.queue
  · intro k hk
    exact hk.elim
  · intro a _
    rw [h.same.heap]
  · apply h.same.nextAddr
  · apply h.same.connTable
  · apply h.same.writing
  · apply h.writePending
  · apply h.maxLogicalConns
  · apply h.lastPacketId
  · apply hcontrol
  · apply hdata

/-- Clearing some queues after others. -/
theorem Cleared.trans (h : Cleared K sar sar') (h' : Cleared K' sar' sar'') (hw : sar.WF) :
  Cleared (fun k => K k ∨ K' k) sar sar''
  := by
  obtain ⟨-, hnil, hkept⟩ := h.spec hw
  constructor
  · intro k hk
    by_cases hk' : K' k
    · apply h'.empty k hk'
    · rw [h'.queue k hk']
      apply h.empty k (hk.resolve_right hk')
  · intro k hk
    rw [h'.queue k fun hk' => hk (Or.inr hk'), h.queue k fun hk' => hk (Or.inl hk')]
  · intro k hk a ha
    by_cases hgone : ∃ k', K' k' ∧ a ∈ sar'.queued k'
    · obtain ⟨k', hk', ha'⟩ := hgone
      apply h'.gone k' hk' a ha'
    · have hnot : ∀ k', K' k' → a ∉ sar'.queued k' := fun k' hk' ha' => hgone ⟨k', hk', ha'⟩
      rw [h'.heap a hnot]
      by_cases hK : K k
      · apply h.gone k hK a ha
      · exfalso
        apply hnot k (hk.resolve_left hK)
        rw [hkept k hK]
        apply ha
  · intro a ha
    rw [h'.heap a, h.heap a fun k hk => ha k (Or.inl hk)]
    intro k hk
    by_cases hK : K k
    · rw [hnil k hK]
      apply List.not_mem_nil
    · rw [hkept k hK]
      apply ha k (Or.inr hk)
  · rw [h'.nextAddr, h.nextAddr]
  · rw [h'.connTable, h.connTable]
  · rw [h'.writing, h.writing]
  · rw [h'.writePending, h.writePending]
  · rw [h'.maxLogicalConns, h.maxLogicalConns]
  · rw [h'.lastPacketId, h.lastPacketId]
  · rw [h'.control, h.control]
  · rw [h'.data, h.data]

theorem Cleared.congr (h : Cleared K sar sar') (hK : ∀ k, K k ↔ K' k) :
  Cleared K' sar sar'
  := by
  obtain rfl : K = K' := funext fun k => propext (hK k)
  apply h

/-- A packet that is neither queued nor being written stays so. -/
theorem Cleared.detached (h : Cleared K sar sar') (hw : sar.WF) {a : Nat}
    (ha : sar.Detached a) :
  sar'.Detached a
  := by
  obtain ⟨-, hnil, hkept⟩ := h.spec hw
  use h.nextAddr ▸ ha.1
  constructor
  · intro k
    by_cases hk : K k
    · rw [hnil k hk]
      apply List.not_mem_nil
    · rw [hkept k hk]
      apply ha.2.1 k
  · rw [h.writing]
    apply ha.2.2

/-- No more packets are queued after queues have been cleared. -/
theorem Cleared.length_lt (h : Cleared K sar sar') (hw : sar.WF) {fuel : Nat}
    (hfuel : ∀ k, (sar.queued k).length < fuel) (k : QueueKey) :
  (sar'.queued k).length < fuel
  := by
  obtain ⟨-, hnil, hkept⟩ := h.spec hw
  by_cases hk : K k
  · rw [hnil k hk]
    apply Nat.lt_of_le_of_lt (Nat.zero_le _) (hfuel k)
  · rw [hkept k hk]
    apply hfuel

/-- The packets of a queue are fewer than the addresses that have been used. -/
theorem WF.length_queued (hw : sar.WF) (k : QueueKey) :
  (sar.queued k).length ≤ sar.nextAddr
  := by
  have hsub : sar.queued k ⊆ List.range sar.nextAddr := fun a ha =>
    List.mem_range.mpr (hw.owned k a ha).1
  have hlen := (List.Nodup.subperm (hw.nodup k) hsub).length_le
  simpa using hlen

end NciSar

/-! ### Clearing a queue -/

theorem NciSar.heap_setQueue (sar : NciSar) (k : QueueKey) (q : Queue) :
  (sar.setQueue k q).heap = sar.heap
  := by cases k <;> rfl

/-- What clearing a queue does, whose packets are those in a list. -/
theorem SarEnv.Discreet.clearQueue_eq (hE : E.Discreet) (k : QueueKey) {l : List Nat} {fuel : Nat}
    {w : World ε} (hc : Chain w.sar.heap (w.sar.queue k).first l) (hnodup : l.Nodup)
    (hlen : l.length < fuel) :
  (nciSarClearQueue E k fuel w).sar
    = { w.sar.setQueue k Queue.empty with heap := fun a => if a ∈ l then none else w.sar.heap a }
  := by
  obtain ⟨fuel, rfl⟩ : ∃ n, fuel = n + 1 := ⟨fuel - 1, by omega⟩
  induction l generalizing fuel w with
  | nil =>
      rw [chain_nil] at hc
      have hlast : { w.sar.queue k with last := none } = Queue.empty := by
        show Queue.mk (w.sar.queue k).first none = Queue.mk none none
        rw [hc]
      rw [nciSarClearQueue, hc]
      simp only [World.map, hlast, List.not_mem_nil, if_false]
      cases k <;> rfl
  | cons a l ih =>
      obtain ⟨hfirst, out, hout, hc⟩ := hc
      obtain ⟨hnot, hnodup⟩ := List.nodup_cons.mp hnodup
      obtain ⟨fuel, rfl⟩ : ∃ n, fuel = n + 1 := ⟨fuel - 1, by simp at hlen; omega⟩
      obtain ⟨w', hw'⟩ : ∃ w', w' = nciSarPacketOutFree E a (w.map fun self =>
          self.setQueue k { self.queue k with first := out.next }) := ⟨_, rfl⟩
      have hsar : w'.sar = (w.sar.setQueue k ⟨out.next, (w.sar.queue k).last⟩).dealloc a := by
        rw [hw', hE.packetOutFree]
        rfl
      have hheap : w'.sar.heap = Function.update w.sar.heap a none := by
        rw [hsar, NciSar.dealloc, NciSar.heap_setQueue]
      have hqueue : w'.sar.queue k = ⟨out.next, (w.sar.queue k).last⟩ := by
        have hdealloc : ∀ sar : NciSar, (sar.dealloc a).queue k = sar.queue k := by
          intro sar
          cases k <;> rfl
        rw [hsar, hdealloc, NciSar.queue_setQueue_self]
      have hchain : Chain w'.sar.heap (w'.sar.queue k).first l := by
        rw [hheap, hqueue]
        apply hc.congr
        intro b hb
        apply Function.update_of_ne
        rintro rfl
        apply hnot hb
      have hempty : w'.sar.setQueue k Queue.empty
          = (w.sar.setQueue k Queue.empty).dealloc a := by
        rw [hsar]
        cases k with
        | cmd => rfl
        | out cid => simp [NciSar.dealloc, NciSar.setQueue, NciSar.modifyConn]
      have hstep : nciSarClearQueue E k (fuel + 1 + 1) w = nciSarClearQueue E k (fuel + 1) w' := by
        rw [nciSarClearQueue, hfirst]
        simp only [hout, Option.bind_some, hw']
      rw [hstep, ih hchain hnodup fuel (by simpa using hlen), hempty, hheap]
      simp only [NciSar.dealloc]
      congr 1
      funext b
      by_cases hb : b = a
      · subst hb
        simp
      · simp [hb]

/-- Clearing a queue. -/
theorem SarEnv.Discreet.clearQueue (hE : E.Discreet) (k : QueueKey) {fuel : Nat} {w : World ε}
    (hw : w.sar.WF) (hfuel : (w.sar.queued k).length < fuel) :
  NciSar.Cleared (fun k' => k' = k) w.sar (nciSarClearQueue E k fuel w).sar
  := by
  rw [hE.clearQueue_eq k (hw.chain k) (hw.nodup k) hfuel]
  have hqueue : ∀ (sar : NciSar) (h : Heap NciSarPacketOut) (k' : QueueKey),
      ({ sar with heap := h } : NciSar).queue k' = sar.queue k' := by
    intro sar h k'
    cases k' <;> rfl
  constructor
  · rintro k' rfl
    rw [hqueue, NciSar.queue_setQueue_self]
  · intro k' hk'
    rw [hqueue, NciSar.queue_setQueue_of_ne _ _ hk']
  · rintro k' rfl a ha
    apply if_pos ha
  · intro a ha
    apply if_neg (ha k rfl)
  all_goals cases k <;> rfl

/-! ### Resets -/

/-- A connection forgets its credits and what it has received. -/
theorem NciSar.cleared_forget (sar : NciSar) (cid : Nat) :
  NciSar.Cleared (fun _ => False) sar (sar.modifyConn cid fun conn =>
    { conn with credits := 0, input := conn.input.map fun _ => [] })
  := NciSar.cleared_of_tuned (NciSar.tuned_modifyConn sar cid _ rfl) rfl rfl

/-- The connections are reset one after another. -/
theorem SarEnv.Discreet.resetConns (hE : E.Discreet) (fuel : Nat) :
  ∀ (n start : Nat) (w : World ε), w.sar.WF → (∀ k, (w.sar.queued k).length < fuel) →
    NciSar.Cleared (fun k => ∃ cid, k = .out cid ∧ start ≤ cid ∧ cid < start + n
        ∧ cid < w.sar.maxLogicalConns.toNat) w.sar
      (nciSarResetConns E fuel (List.range' start n) w).sar
  | 0, start, w, _, _ => by
      apply (NciSar.cleared_of_tuned (NciSar.tuned_refl _) rfl rfl).congr
      intro k
      constructor
      · exact False.elim
      · rintro ⟨cid, -, hle, hlt, -⟩
        omega
  | n + 1, start, w, hw, hfuel => by
      rw [List.range'_succ, nciSarResetConns]
      split
      · rename_i hstart
        have hclear := hE.clearQueue (.out start) hw (hfuel _)
        have hw₁ := (hclear.spec hw).1
        have hforget := hclear.trans
          (NciSar.cleared_forget (nciSarClearQueue E (.out start) fuel w).sar start) hw
        have hw₂ := (hforget.spec hw).1
        have hrest := hE.resetConns fuel n (start + 1)
          ((nciSarClearQueue E (.out start) fuel w).map fun self =>
            self.modifyConn start fun conn =>
              { conn with credits := 0, input := conn.input.map fun _ => [] }) hw₂
          (hforget.length_lt hw hfuel)
        apply (hforget.trans hrest hw).congr
        intro k
        have hmax : (World.map (nciSarClearQueue E (.out start) fuel w) fun self =>
            self.modifyConn start fun conn =>
              { conn with credits := 0, input := conn.input.map fun _ => [] }).sar.maxLogicalConns
            = w.sar.maxLogicalConns := hforget.maxLogicalConns
        rw [hmax]
        constructor
        · rintro ((rfl | hfalse) | ⟨cid, rfl, hle, hlt, hcid⟩)
          · exact ⟨start, rfl, Nat.le_refl _, by omega, hstart⟩
          · exact hfalse.elim
          · exact ⟨cid, rfl, by omega, by omega, hcid⟩
        · rintro ⟨cid, rfl, hle, hlt, hcid⟩
          by_cases heq : cid = start
          · left
            left
            rw [heq]
          · right
            exact ⟨cid, rfl, by omega, by omega, hcid⟩
      · rename_i hstart
        apply (NciSar.cleared_of_tuned (NciSar.tuned_refl _) rfl rfl).congr
        intro k
        constructor
        · exact False.elim
        · rintro ⟨cid, -, hle, -, hcid⟩
          omega

/-- The first part of a reset forgets the packet that is being written. -/
theorem resetIo_sar (E : SarEnv ε) {w : World ε}
    (hpending : w.sar.writePending = true → w.sar.writing.isSome = true) :
  (nciSarResetIo E w).sar = ((w.sar.setWriting none).setWritePending false).setStarted false
  := by
  have hrest : w.sar.writing = none → w.sar.writePending = false := by
    intro hnone
    cases hp : w.sar.writePending with
    | false => rfl
    | true =>
        have hsome := hpending hp
        rw [hnone] at hsome
        cases hsome
  clear hpending
  obtain ⟨sar, env⟩ := w
  obtain ⟨started, m, c, d, i, t, pending, writing, cmd, conn, table, input, buf, heap, addr,
    dangling⟩ := sar
  cases writing with
  | none =>
      obtain rfl : pending = false := hrest rfl
      cases started <;> rfl
  | some a => cases pending <;> cases started <;> rfl

/-- Nothing is being written any more. -/
theorem NciSar.Sound.forgotten {sar : NciSar} (hw : sar.Sound) :
  (((sar.setWriting none).setWritePending false).setStarted false).WF
  := by
  apply hw.wf.forget.setLimits
  · apply NciSar.sameQueues_of_fields <;> rfl
  · apply hw.wf.control
  · apply hw.wf.data

theorem NciSar.mem_keys {sar : NciSar} {k : QueueKey} :
  k ∈ sar.keys ↔ k = .cmd ∨ ∃ cid, k = .out cid ∧ cid < sar.maxLogicalConns.toNat
  := by
  rw [NciSar.keys, List.mem_cons, List.mem_map]
  constructor
  · rintro (rfl | ⟨cid, hcid, rfl⟩)
    · left
      rfl
    · right
      use cid, rfl
      apply List.mem_range.mp hcid
  · rintro (rfl | ⟨cid, rfl, hcid⟩)
    · left
      rfl
    · right
      use cid
      constructor
      · apply List.mem_range.mpr hcid
      · rfl

/-- What a reset has done when the completion function of the packet that was being written is
called: no packet is being written, and all queues are cleared. -/
theorem SarEnv.Discreet.resetClear (hE : E.Discreet) {fuel : Nat} {w : World ε}
    (hw : w.sar.Sound) (hfuel : ∀ k, (w.sar.queued k).length < fuel) :
  NciSar.Cleared (fun k => k ∈ w.sar.keys)
      (((w.sar.setWriting none).setWritePending false).setStarted false)
      (nciSarResetClear E fuel w).sar
    ∧ (nciSarResetClear E fuel w).sar.startWriteId = false
  := by
  obtain ⟨w₁, hw₁⟩ : ∃ w₁, w₁ = nciSarResetIo E w := ⟨_, rfl⟩
  obtain ⟨w₂, hw₂⟩ : ∃ w₂, w₂ = nciSarResetConns E fuel (List.range 255) w₁ := ⟨_, rfl⟩
  obtain ⟨w₃, hw₃⟩ : ∃ w₃, w₃ = w₂.map fun self =>
      self.setControlIn (self.controlIn.map fun _ => []) := ⟨_, rfl⟩
  have hsar₁ := resetIo_sar E hw.pending
  have hwf₁ := hw.forgotten
  rw [← hw₁] at hsar₁
  rw [← hsar₁] at hwf₁ ⊢
  have hfuel₁ : ∀ k, (w₁.sar.queued k).length < fuel := by
    intro k
    have hq : w₁.sar.queued k = w.sar.queued k := by
      rw [hsar₁]
      cases k <;> rfl
    rw [hq]
    apply hfuel
  have hmax₁ : w₁.sar.maxLogicalConns = w.sar.maxLogicalConns := by
    rw [hsar₁]
    rfl
  have hconns := hE.resetConns fuel 255 0 w₁ hwf₁ hfuel₁
  rw [← List.range_eq_range', ← hw₂] at hconns
  have hcontrol : NciSar.Cleared (fun _ => False) w₂.sar w₃.sar := by
    rw [hw₃]
    apply NciSar.cleared_of_tuned (NciSar.tuned_setControlIn _ _) rfl rfl
  have h₃ := hconns.trans hcontrol hwf₁
  have hcmd := hE.clearQueue .cmd (h₃.spec hwf₁).1 (h₃.length_lt hwf₁ hfuel₁ _)
  have hidle : NciSar.Cleared (fun _ => False) (nciSarClearQueue E .cmd fuel w₃).sar
      (nciSarResetClear E fuel w).sar := by
    rw [nciSarResetClear]
    simp only [← hw₁, ← hw₂, ← hw₃]
    apply NciSar.cleared_of_tuned (NciSar.tuned_setStartWriteId _ _) rfl rfl
  constructor
  · apply ((h₃.trans hcmd hwf₁).trans hidle hwf₁).congr
    intro k
    have hlt := w₁.sar.maxLogicalConns.toNat_lt
    rw [NciSar.mem_keys, ← hmax₁]
    constructor
    · rintro (((⟨cid, rfl, -, -, hcid⟩ | hfalse) | rfl) | hfalse)
      · right
        exact ⟨cid, rfl, hcid⟩
      · exact hfalse.elim
      · left
        rfl
      · exact hfalse.elim
    · rintro (rfl | ⟨cid, rfl, hcid⟩)
      · left
        right
        rfl
      · left
        left
        left
        exact ⟨cid, rfl, Nat.zero_le _, by omega, hcid⟩
  · rfl

/-! ### Changing the number of connections -/

/-- The commands that are queued, and no data packets. -/
def NciSar.queuedCommands (sar : NciSar) : QueueKey → List Nat
  | .cmd => sar.queued .cmd
  | .out _ => []

/-- A state without data packets is well formed whatever the connection table is. -/
theorem NciSar.WF.retable {sar : NciSar} (hw : sar.WF) (sar' : NciSar)
    (hempty : ∀ cid, (sar'.conn cid).out.first = none ∧ (sar'.conn cid).out.last = none)
    (hcommand : ∀ a, sar.writing = some a → sar.Owned .cmd a)
    (hcmd : sar'.cmd = sar.cmd) (hheap : ∀ a ∈ sar.queued .cmd, sar'.heap a = sar.heap a)
    (hwriting : sar'.writing = sar.writing)
    (hheap' : ∀ a, sar.writing = some a → sar'.heap a = sar.heap a)
    (hnext : sar'.nextAddr = sar.nextAddr)
    (hcontrol : sar'.controlPayloadLimit = sar.controlPayloadLimit)
    (hdata : sar'.dataPayloadLimit = sar.dataPayloadLimit) :
  sar'.WF ∧ sar'.queued .cmd = sar.queued .cmd ∧ ∀ cid, sar'.queued (.out cid) = []
  := by
  have howned : ∀ a, sar'.heap a = sar.heap a → sar.Owned .cmd a → sar'.Owned .cmd a := by
    intro a ha hown
    rw [NciSar.Owned, hnext, NciSar.packet, ha]
    apply hown
  obtain ⟨hwf, hq⟩ := wf_of_lists sar' sar.queuedCommands (by
      intro k
      cases k with
      | cmd =>
          have hchain := hw.chain .cmd
          rw [NciSar.queue] at hchain ⊢
          rw [hcmd]
          apply hchain.congr hheap
      | out cid => apply (hempty cid).1) (by
      intro k
      cases k with
      | cmd =>
          have hlast := hw.last .cmd
          rw [NciSar.queue] at hlast ⊢
          rw [hcmd]
          apply hlast
      | out cid =>
          left
          apply (hempty cid).2) (by
      intro k a ha
      cases k with
      | cmd => apply howned a (hheap a ha) (hw.owned .cmd a ha)
      | out cid => cases ha) (by
      intro a ha
      rw [hwriting] at ha
      use ⟨.cmd, howned a (hheap' a ha) (hcommand a ha)⟩
      intro k
      cases k with
      | cmd => apply (hw.writing a ha).2
      | out cid => apply List.not_mem_nil) (by rw [hcontrol]; apply hw.control)
    (by rw [hdata]; apply hw.data)
  use hwf, hq .cmd
  intro cid
  apply hq (.out cid)

/-- The pointers of a queue without packets. -/
theorem NciSar.WF.pointers_of_nil {sar : NciSar} (hw : sar.WF) {k : QueueKey}
    (hk : sar.queued k = []) :
  (sar.queue k).first = none ∧ (sar.queue k).last = none
  := by
  have hchain := hw.chain k
  have hlast := hw.last k
  rw [hk] at hchain hlast
  use hchain
  rcases hlast with hlast | hlast
  · apply hlast
  · apply hlast

/-- Connections are given up one after another. -/
theorem SarEnv.Discreet.dropConns (hE : E.Discreet) (fuel : Nat) :
  ∀ (n start : Nat) (w : World ε), w.sar.WF → (∀ k, (w.sar.queued k).length < fuel) →
    NciSar.Cleared (fun k => ∃ cid, k = .out cid ∧ start ≤ cid ∧ cid < start + n
        ∧ cid < w.sar.maxLogicalConns.toNat) w.sar
      (nciSarDropConns E fuel (List.range' start n) w).sar
  | 0, start, w, _, _ => by
      apply (NciSar.cleared_of_tuned (NciSar.tuned_refl _) rfl rfl).congr
      intro k
      constructor
      · exact False.elim
      · rintro ⟨cid, -, hle, hlt, -⟩
        omega
  | n + 1, start, w, hw, hfuel => by
      rw [List.range'_succ, nciSarDropConns]
      split
      · rename_i hstart
        have hclear := hE.clearQueue (.out start) hw (hfuel _)
        have hrest := hE.dropConns fuel n (start + 1) (nciSarClearQueue E (.out start) fuel w)
          (hclear.spec hw).1 (hclear.length_lt hw hfuel)
        apply (hclear.trans hrest hw).congr
        intro k
        rw [hclear.maxLogicalConns]
        constructor
        · rintro (rfl | ⟨cid, rfl, hle, hlt, hcid⟩)
          · exact ⟨start, rfl, Nat.le_refl _, by omega, hstart⟩
          · exact ⟨cid, rfl, by omega, by omega, hcid⟩
        · rintro ⟨cid, rfl, hle, hlt, hcid⟩
          by_cases heq : cid = start
          · left
            rw [heq]
          · right
            exact ⟨cid, rfl, by omega, by omega, hcid⟩
      · rename_i hstart
        apply (NciSar.cleared_of_tuned (NciSar.tuned_refl _) rfl rfl).congr
        intro k
        constructor
        · exact False.elim
        · rintro ⟨cid, -, hle, -, hcid⟩
          omega

/-- What is left when the number of connections has been changed while no data packet was being
written, and none was queued on a connection that there still is. -/
structure NciSar.Resized (sar sar' : NciSar) : Prop where
  wf : sar'.WF
  cmd : sar'.queued .cmd = sar.queued .cmd
  out : ∀ cid, sar'.queued (.out cid) = []
  packet : ∀ a, (∀ cid, a ∉ sar.queued (.out cid)) → sar'.packet a = sar.packet a
  writing : sar'.writing = sar.writing
  writePending : sar'.writePending = sar.writePending
  nextAddr : sar'.nextAddr = sar.nextAddr
  lastPacketId : sar'.lastPacketId = sar.lastPacketId

/-- The number of connections that is set. -/
def newMaxLogicalConns (max : UInt8) : UInt8 :=
  if max = 0 then sarDefaultMaxLogicalConnections else max

theorem SarEnv.Discreet.setMaxLogicalConnections (hE : E.Discreet) {fuel : Nat} (max : UInt8)
    {w : World ε} (hw : w.sar.WF) (hfuel : ∀ k, (w.sar.queued k).length < fuel)
    (hsurvive : ∀ cid < (newMaxLogicalConns max).toNat, w.sar.queued (.out cid) = [])
    (hbeyond : ∀ cid, w.sar.maxLogicalConns.toNat ≤ cid → w.sar.queued (.out cid) = [])
    (hcommand : ∀ a, w.sar.writing = some a → w.sar.Owned .cmd a)
    (hne : newMaxLogicalConns max ≠ w.sar.maxLogicalConns) :
  NciSar.Resized w.sar (nciSarSetMaxLogicalConnections E fuel max w).sar
    ∧ (nciSarSetMaxLogicalConnections E fuel max w).sar.maxLogicalConns = newMaxLogicalConns max
  := by
  obtain ⟨m, hm⟩ : ∃ m, m = newMaxLogicalConns max := ⟨_, rfl⟩
  have hdef : nciSarSetMaxLogicalConnections E fuel max w
      = if w.sar.maxLogicalConns < m then
          w.map fun self =>
            { self with
              conn := fun cid =>
                if cid < self.maxLogicalConns.toNat then self.conn cid
                else NciSarLogicalConnection.zero
              connTable := self.connTable + 1
              maxLogicalConns := m }
        else if m < w.sar.maxLogicalConns then
          (nciSarDropConns E fuel ((List.range 255).drop m.toNat) w).map fun self =>
            { self with connTable := self.connTable + 1, maxLogicalConns := m }
        else w := by rw [hm]; rfl
  rw [← hm] at hsurvive hne ⊢
  rw [hdef]
  by_cases hgrow : w.sar.maxLogicalConns < m
  · rw [if_pos hgrow]
    have hnil : ∀ cid, w.sar.queued (.out cid) = [] := by
      intro cid
      by_cases hcid : cid < m.toNat
      · apply hsurvive cid hcid
      · apply hbeyond
        have hlt := UInt8.lt_iff_toNat_lt.mp hgrow
        omega
    obtain ⟨hwf, hcmd, hout⟩ := hw.retable { w.sar with
        conn := fun cid =>
          if cid < w.sar.maxLogicalConns.toNat then w.sar.conn cid
          else NciSarLogicalConnection.zero
        connTable := w.sar.connTable + 1
        maxLogicalConns := m } (by
      intro cid
      simp only
      split
      · apply hw.pointers_of_nil (hnil cid)
      · exact ⟨rfl, rfl⟩) hcommand rfl (fun _ _ => rfl) rfl (fun _ _ => rfl) rfl rfl rfl
    constructor
    · use hwf, hcmd, hout
      all_goals intros; rfl
    · rfl
  · rw [if_neg hgrow]
    have hshrink : m < w.sar.maxLogicalConns := by
      have hle := UInt8.not_lt.mp hgrow
      apply UInt8.lt_of_le_of_ne hle hne
    rw [if_pos hshrink]
    have hdrop := hE.dropConns fuel (255 - m.toNat) m.toNat w hw hfuel
    have hrange : (List.range 255).drop m.toNat = List.range' m.toNat (255 - m.toNat) := by
      rw [List.range_eq_range', List.drop_range']
      simp
    rw [← hrange] at hdrop
    obtain ⟨hwf', hnil', hkept'⟩ := hdrop.spec hw
    have hlt := w.sar.maxLogicalConns.toNat_lt
    have hout' : ∀ cid,
        (nciSarDropConns E fuel ((List.range 255).drop m.toNat) w).sar.queued (.out cid) = [] := by
      intro cid
      by_cases hcid : m.toNat ≤ cid ∧ cid < w.sar.maxLogicalConns.toNat
      · apply hnil'
        exact ⟨cid, rfl, hcid.1, by omega, hcid.2⟩
      · rw [hkept']
        · by_cases hcid' : cid < m.toNat
          · apply hsurvive cid hcid'
          · apply hbeyond
            omega
        · rintro ⟨cid', heq, hle, -, hcid'⟩
          obtain rfl : cid = cid' := by simpa using heq
          exact hcid ⟨hle, hcid'⟩
    have hkeptCmd := hkept' .cmd (by rintro ⟨cid, heq, -⟩; cases heq)
    have hcommand' : ∀ a,
        (nciSarDropConns E fuel ((List.range 255).drop m.toNat) w).sar.writing = some a →
        (nciSarDropConns E fuel ((List.range 255).drop m.toNat) w).sar.Owned .cmd a := by
      intro a ha
      rw [hdrop.writing] at ha
      apply hdrop.owned _ (hcommand a ha)
      intro k _
      apply (hw.writing a ha).2
    generalize nciSarDropConns E fuel ((List.range 255).drop m.toNat) w = w' at *
    obtain ⟨hwf, hcmd, hout⟩ := hwf'.retable { w'.sar with
        connTable := w'.sar.connTable + 1
        maxLogicalConns := m } (by
      intro cid
      apply hwf'.pointers_of_nil (hout' cid)) hcommand' rfl (fun _ _ => rfl) rfl
      (fun _ _ => rfl) rfl rfl rfl
    constructor
    · use hwf, hcmd.trans hkeptCmd, hout
      · intro a ha
        apply hdrop.packet
        rintro k ⟨cid, rfl, -⟩
        apply ha
      · apply hdrop.writing
      · apply hdrop.writePending
      · apply hdrop.nextAddr
      · apply hdrop.lastPacketId
    · rfl

end Nci
