import LibNciCore.Sar.Ledger

/-!
# The life of a packet

However a packet leaves the layer, be it written, refused by the HAL, cancelled, or swept away by a
reset or by a change of the number of connections, the account of it is right: its completion
function is called once unless it is cancelled or swept away, and its destroy function is called
once, after that, when it is freed.
-/

namespace Nci

open LinkedQueue History

variable {P : Call → Prop} {A : App P}

/-! ### What happens to the packets that are allocated -/

namespace NciSar

variable {sar sar' : NciSar} {a : Nat}

theorem book_eq (sar : NciSar) (a : Nat) :
  sar.book a = (sar.lists.packet a).map fun out => ⟨out.complete, out.destroy⟩
  := by
  rw [lists_packet, packet, book, Option.map_map]
  rfl

theorem book_of_packet (h : ∀ a, sar'.lists.packet a = sar.lists.packet a) :
  sar'.book = sar.book
  := by
  funext a
  rw [book_eq, h, book_eq]

theorem book_of_heap (h : sar'.heap = sar.heap) :
  sar'.book = sar.book
  := by
  funext a
  rw [book, book, h]

theorem SameQueues.book (h : SameQueues sar sar') :
  sar'.book = sar.book
  := by
  apply book_of_packet
  intro a
  rw [h.lists]

theorem book_modifyPacket (sar : NciSar) (a : Nat) :
  (sar.modifyPacket a fun out => { out with complete := none }).book = sar.book.mute a
  := by
  funext k
  by_cases hk : k = a
  · subst hk
    simp only [book, modifyPacket, Book.mute, Function.update_self, Heap.modify_self,
      Option.map_map]
    rfl
  · simp only [book, modifyPacket, Book.mute, Function.update_of_ne hk, Heap.modify_of_ne _ _ hk]

theorem book_dealloc (sar : NciSar) (a : Nat) :
  (sar.dealloc a).book = Function.update sar.book a none
  := by
  funext k
  by_cases hk : k = a
  · subst hk
    simp [book, dealloc]
  · simp [book, dealloc, hk]

theorem packet_dealloc (sar : NciSar) (a b : Nat) :
  (sar.dealloc a).packet b = if b = a then none else sar.packet b
  := by
  by_cases hba : b = a
  · subst hba
    simp [packet, dealloc]
  · simp [packet, dealloc, hba]

theorem nextSegment_functions (out : NciSarPacketOut) (max : UInt8) :
  (out.nextSegment max).1.complete = out.complete ∧ (out.nextSegment max).1.destroy = out.destroy
  := by
  simp only [NciSarPacketOut.nextSegment]
  split <;> exact ⟨rfl, rfl⟩

/-- Cutting a segment off leaves the functions of the packet alone. -/
theorem book_of_cut {max : UInt8}
    (h : sar'.lists = sar.lists.modify a fun x => (x.nextSegment max).1) :
  sar'.book = sar.book
  := by
  funext k
  rw [book_eq, book_eq, h]
  by_cases hk : k = a
  · subst hk
    simp only [Lists.modify, Function.update_self, Option.map_map]
    cases sar.lists.packet k with
    | none => rfl
    | some out =>
        obtain ⟨hcomplete, hdestroy⟩ := nextSegment_functions out max
        simp [hcomplete, hdestroy]
  · simp only [Lists.modify, Function.update_of_ne hk]

/-- A packet is queued with its functions. -/
theorem WF.book_send (hw : sar.WF) (k : QueueKey) (b0 b1 : UInt8) (payload : Option (List UInt8))
    (f g : Option Nat) :
  (nciSarSend sar k (sar.connPtr k) b0 b1 payload f g).2.book
      = Function.update sar.book sar.nextAddr (some ⟨f, g⟩)
    ∧ (nciSarSend sar k (sar.connPtr k) b0 b1 payload f g).2.nextAddr = sar.nextAddr + 1
  := by
  obtain ⟨-, hl, -⟩ := hw.send k b0 b1 payload f g
  constructor
  · funext a
    rw [book_eq, hl]
    by_cases ha : a = sar.nextAddr
    · subst ha
      simp [Lists.append, newPacket]
    · simp only [Lists.append, lists_nextAddr, Function.update_of_ne ha]
      exact (book_eq sar a).symm
  · exact congrArg Lists.nextAddr hl

end NciSar

/-- Freeing a packet, in surroundings that only record that destroy functions are called. -/
theorem App.Discreet.packetOutFree (hA : A.Discreet)
    {perform : List (Subtype P) → World Log → World Log} (hnil : ∀ w, perform [] w = w) (a : Nat)
    (w : World Log) :
  nciSarPacketOutFree (A.envWith perform) a w
    = ⟨w.sar.dealloc a, w.env ++ (w.sar.book.destruction a).toList.map Entry.destroy⟩
  := by
  have hbook : w.sar.book.destruction a = (w.sar.heap a).bind NciSarPacketOut.destroy := by
    rw [Book.destruction, NciSar.book]
    cases w.sar.heap a <;> rfl
  rw [nciSarPacketOutFree, hbook]
  cases (w.sar.heap a).bind NciSarPacketOut.destroy with
  | none =>
      simp only [World.map, Option.toList_none, List.map_nil, List.append_nil]
  | some g =>
      simp only [hA.destroy hnil]
      rfl

/-! ### Freeing the packets of queues -/

/-- One step of clearing queues: a packet is freed, or the packets are left alone. -/
inductive FreeStep (E : SarEnv Log) (gone : List Nat) : World Log → World Log → Prop
  | edit {w : World Log} (sar : NciSar) :
      sar.nextAddr = w.sar.nextAddr → sar.heap = w.sar.heap → FreeStep E gone w ⟨sar, w.env⟩
  | free {w : World Log} {a : Nat} :
      a ∈ gone → FreeStep E gone w (nciSarPacketOutFree E a w)

/-- Clearing queues that have only packets of a list. -/
abbrev Freeing (E : SarEnv Log) (gone : List Nat) : World Log → World Log → Prop :=
  Relation.ReflTransGen (FreeStep E gone)

section

variable {E : SarEnv Log} {gone : List Nat}

/-- Clearing a queue frees its packets. -/
theorem SarEnv.Discreet.freeing_clearQueue (hE : E.Discreet) (k : QueueKey) (fuel : Nat) :
  ∀ {l : List Nat} {w : World Log}, Chain w.sar.heap (w.sar.queue k).first l → l.Nodup →
    (∀ a ∈ l, a ∈ gone) → Freeing E gone w (nciSarClearQueue E k fuel w)
  := by
  induction fuel with
  | zero =>
      intro l w _ _ _
      exact Relation.ReflTransGen.refl
  | succ fuel ih =>
      intro l w hc hnodup hgone
      have hedit : ∀ q, FreeStep E gone w (w.map fun sar => sar.setQueue k q) := by
        intro q
        apply FreeStep.edit
        · cases k <;> rfl
        · cases k <;> rfl
      cases l with
      | nil =>
          rw [chain_nil] at hc
          rw [nciSarClearQueue, hc]
          exact Relation.ReflTransGen.single (hedit _)
      | cons a l =>
          obtain ⟨hfirst, out, hout, hc⟩ := hc
          obtain ⟨hnot, hnodup⟩ := List.nodup_cons.mp hnodup
          obtain ⟨w', hw'⟩ : ∃ w', w' = nciSarPacketOutFree E a (w.map fun sar =>
              sar.setQueue k { sar.queue k with first := out.next }) := ⟨_, rfl⟩
          have hsar : w'.sar
              = (w.sar.setQueue k { w.sar.queue k with first := out.next }).dealloc a := by
            rw [hw', hE.packetOutFree]
            rfl
          have hchain : Chain w'.sar.heap (w'.sar.queue k).first l := by
            have hheap : w'.sar.heap = Function.update w.sar.heap a none := by
              rw [hsar, NciSar.dealloc, NciSar.heap_setQueue]
            have hqueue : (w'.sar.queue k).first = out.next := by
              have hdealloc : ∀ sar : NciSar, (sar.dealloc a).queue k = sar.queue k := by
                intro sar
                cases k <;> rfl
              rw [hsar, hdealloc, NciSar.queue_setQueue_self]
            rw [hheap, hqueue]
            apply hc.congr
            intro b hb
            apply Function.update_of_ne
            rintro rfl
            exact hnot hb
          have hstep : nciSarClearQueue E k (fuel + 1) w = nciSarClearQueue E k fuel w' := by
            rw [nciSarClearQueue, hfirst]
            simp only [hout, Option.bind_some, hw']
          rw [hstep]
          apply Relation.ReflTransGen.head (hedit { w.sar.queue k with first := out.next })
          apply Relation.ReflTransGen.head (b := w')
          · rw [hw']
            exact FreeStep.free (hgone a List.mem_cons_self)
          · exact ih hchain hnodup fun b hb => hgone b (List.mem_cons_of_mem _ hb)

/-- Where a queue has been cleared, the queues have no other packets than before. -/
theorem NciSar.Cleared.queued_subset {K : QueueKey → Prop} {sar sar' : NciSar}
    (h : NciSar.Cleared K sar sar') (hw : sar.WF) (k : QueueKey) {a : Nat}
    (ha : a ∈ sar'.queued k) :
  a ∈ sar.queued k
  := by
  obtain ⟨-, hnil, hkept⟩ := h.spec hw
  by_cases hk : K k
  · rw [hnil k hk] at ha
    cases ha
  · rw [hkept k hk] at ha
    exact ha

/-- The connections are reset: the packets of their queues are freed. -/
theorem SarEnv.Discreet.freeing_resetConns (hE : E.Discreet) {fuel : Nat} (cids : List Nat) :
  ∀ {w : World Log}, w.sar.WF → (∀ k, (w.sar.queued k).length < fuel) →
    (∀ cid < w.sar.maxLogicalConns.toNat, ∀ a ∈ w.sar.queued (.out cid), a ∈ gone) →
    Freeing E gone w (nciSarResetConns E fuel cids w)
  := by
  induction cids with
  | nil =>
      intro w _ _ _
      exact Relation.ReflTransGen.refl
  | cons cid cids ih =>
      intro w hw hfuel hgone
      rw [nciSarResetConns]
      split
      · rename_i hcid
        have hclear := hE.clearQueue (.out cid) hw (hfuel _)
        have hforget := hclear.trans
          (NciSar.cleared_forget (nciSarClearQueue E (.out cid) fuel w).sar cid) hw
        apply (hE.freeing_clearQueue (.out cid) fuel (hw.chain _) (hw.nodup _)
          (hgone cid hcid)).trans
        apply Relation.ReflTransGen.head (FreeStep.edit
          ((nciSarClearQueue E (.out cid) fuel w).sar.modifyConn cid fun conn =>
            { conn with credits := 0, input := conn.input.map fun _ => [] }) rfl rfl)
        apply ih (hforget.spec hw).1 (hforget.length_lt hw hfuel)
        intro cid' hcid' a ha
        rw [hforget.maxLogicalConns] at hcid'
        exact hgone cid' hcid' a (hforget.queued_subset hw _ ha)
      · exact Relation.ReflTransGen.refl

/-- Connections are given up: the packets of their queues are freed. -/
theorem SarEnv.Discreet.freeing_dropConns (hE : E.Discreet) {fuel : Nat} (cids : List Nat) :
  ∀ {w : World Log}, w.sar.WF → (∀ k, (w.sar.queued k).length < fuel) →
    (∀ cid ∈ cids, cid < w.sar.maxLogicalConns.toNat → ∀ a ∈ w.sar.queued (.out cid), a ∈ gone) →
    Freeing E gone w (nciSarDropConns E fuel cids w)
  := by
  induction cids with
  | nil =>
      intro w _ _ _
      exact Relation.ReflTransGen.refl
  | cons cid cids ih =>
      intro w hw hfuel hgone
      rw [nciSarDropConns]
      split
      · rename_i hcid
        have hclear := hE.clearQueue (.out cid) hw (hfuel _)
        apply (hE.freeing_clearQueue (.out cid) fuel (hw.chain _) (hw.nodup _)
          (hgone cid List.mem_cons_self hcid)).trans
        apply ih (hclear.spec hw).1 (hclear.length_lt hw hfuel)
        intro cid' hmem hcid' a ha
        rw [hclear.maxLogicalConns] at hcid'
        exact hgone cid' (List.mem_cons_of_mem _ hmem) hcid' a (hclear.queued_subset hw _ ha)
      · exact Relation.ReflTransGen.refl

end

/-- Clearing queues keeps the account. -/
theorem Ledger.freeing (hA : A.Discreet) {perform : List (Subtype P) → World Log → World Log}
    (hnil : ∀ w, perform [] w = w) {gone : List Nat} {w w' : World Log}
    (h : Freeing (A.envWith perform) gone w w')
    (hw : Ledger w.sar.nextAddr w.sar.book w.env gone) :
  Ledger w'.sar.nextAddr w'.sar.book w'.env gone
  := by
  induction h with
  | refl => exact hw
  | tail _ hstep ih =>
      cases hstep with
      | edit sar hnext hheap =>
          rw [hnext, NciSar.book_of_heap hheap]
          exact ih
      | free ha =>
          rw [hA.packetOutFree hnil, NciSar.book_dealloc]
          exact ih.free ha

/-! ### Entries of the HAL -/

/-- Entries that are not about packets. -/
theorem Ledger.asides {n : Nat} {b : Book} {log : Log} {gone : List Nat}
    (h : Ledger n b log gone) (es : List Entry) (hes : ∀ e ∈ es, e.Aside) :
  Ledger n b (log ++ es) gone
  := by
  induction es generalizing log with
  | nil =>
      rw [List.append_nil]
      exact h
  | cons e es ih =>
      rw [← List.singleton_append, ← List.append_assoc]
      apply ih (h.aside (hes e List.mem_cons_self))
      exact fun e' he' => hes e' (List.mem_cons_of_mem _ he')

/-- A log that goes on with entries that are not about packets. -/
def Log.Onward (log log' : Log) : Prop := ∃ es : List Entry, (∀ e ∈ es, e.Aside) ∧ log' = log ++ es

namespace Log.Onward

theorem refl (log : Log) :
  Log.Onward log log
  := ⟨[], fun _ he => absurd he List.not_mem_nil, (List.append_nil _).symm⟩

theorem concat {log log' : Log} (h : Log.Onward log log') {e : Entry} (he : e.Aside) :
  Log.Onward log (log' ++ [e])
  := by
  obtain ⟨es, hes, rfl⟩ := h
  refine ⟨es ++ [e], ?_, List.append_assoc _ _ _⟩
  intro e' he'
  rcases List.mem_append.mp he' with he' | he'
  · exact hes e' he'
  · obtain rfl := List.mem_singleton.mp he'
    exact he

end Log.Onward

theorem Ledger.onward {n : Nat} {b : Book} {log log' : Log} {gone : List Nat}
    (h : Ledger n b log gone) (hlog : Log.Onward log log') :
  Ledger n b log' gone
  := by
  obtain ⟨es, hes, rfl⟩ := hlog
  exact h.asides es hes

section

variable {perform : List (Subtype P) → World Log → World Log}

theorem onward_start (w : World Log) :
  Log.Onward w.env (nciSarStart (A.envWith perform) w).env
  := by
  rw [nciSarStart]
  split
  · exact Log.Onward.refl _
  · exact (Log.Onward.refl _).concat trivial

/-- Handing over a segment is recorded, and that the HAL is started. -/
theorem onward_submit (a : Nat) (w : World Log) :
  Log.Onward w.env (nciSarAttemptWriteSubmit (A.envWith perform) a w).2.env
  := by
  rw [nciSarAttemptWriteSubmit]
  split
  · rename_i out _
    have hstart : Log.Onward w.env (nciSarStart (A.envWith perform)
        (w.map fun sar => sar.cutSegment a out)).env := onward_start _
    rw [nciSarAttemptWriteRequest]
    split
    · exact hstart.concat trivial
    · exact hstart
  · exact Log.Onward.refl _

/-- Before a reset clears the queues, the HAL is stopped. -/
theorem onward_resetIo (w : World Log) :
  Log.Onward w.env (nciSarResetIo (A.envWith perform) w).env
  := by
  have hrefl := Log.Onward.refl w.env
  simp only [nciSarResetIo]
  split_ifs
  · exact (hrefl.concat (e := .halCancelWrite) trivial).concat trivial
  · exact hrefl.concat trivial
  · exact hrefl.concat trivial
  · exact hrefl
  · exact hrefl.concat trivial
  · exact hrefl

end

/-! ### Moments -/

/-- The packets that are about to be freed. -/
def freeing : List Leaving → List Nat
  | .free a :: S => a :: freeing S
  | .finish _ _ :: S => freeing S
  | [] => []

/-- The account of the packets is right, and a packet is reported to be written when the HAL has
reported that its last segment is. -/
structure Moment.Accounted (x : Moment Log) : Prop where
  ledger : Ledger x.1.sar.nextAddr x.1.sar.book x.1.env (freeing x.2)
  written : ∀ a, .finish a true ∈ x.2 → ∃ sar, Entry.completed true sar ∈ x.1.env
    ∧ sar.writing = some a ∧ sar.isDoneAt a = true

theorem mem_of_freeing {S : List Leaving} {a : Nat} (h : a ∈ freeing S) :
  .free a ∈ S
  := by
  induction S with
  | nil => cases h
  | cons l S ih =>
      cases l with
      | finish b ok => exact List.mem_cons_of_mem _ (ih h)
      | free b =>
          rcases List.mem_cons.mp h with rfl | h
          · exact List.mem_cons_self
          · exact List.mem_cons_of_mem _ (ih h)

/-- A change that leaves the packets alone. -/
theorem Moment.Accounted.frame {w v : World Log} {S : List Leaving}
    (h : Moment.Accounted (w, S)) (hnext : v.sar.nextAddr = w.sar.nextAddr)
    (hbook : v.sar.book = w.sar.book) (hlog : Log.Onward w.env v.env) :
  Moment.Accounted (v, S)
  := by
  constructor
  · rw [hnext, hbook]
    exact h.ledger.onward hlog
  · intro a ha
    obtain ⟨sar, hsar, hrest⟩ := h.written a ha
    obtain ⟨es, -, henv⟩ := hlog
    refine ⟨sar, ?_, hrest⟩
    rw [henv]
    exact List.mem_append_left _ hsar

/-- A move of the layer keeps the account. -/
theorem Move.accounted (hA : A.Discreet) {perform : List (Subtype P) → World Log → World Log}
    (hnil : ∀ w, perform [] w = w) {x y : Moment Log} (h : Move (A.envWith perform) x y)
    (hx : x.Intact) (hacc : x.Accounted) :
  y.Accounted
  := by
  have hrefl := Log.Onward.refl x.1.env
  cases h with
  | tuned sar _ htuned => exact hacc.frame htuned.same.nextAddr htuned.same.book hrefl
  | @selected w S _ _ =>
      have hsame := hx.sound.sar.wf.sameLines_select
      apply hacc.frame (v := w.map NciSar.select) hsame.nextAddr _ hrefl
      exact NciSar.book_of_packet hsame.packet
  | @handed w S a _ hpending ha _ =>
      obtain ⟨out, -, -, hl⟩ := submit_spec (A.envWith perform) hx.sound.sar ha hpending
      apply hacc.frame (congrArg Lists.nextAddr hl) (NciSar.book_of_cut hl) (onward_submit a w)
  | @refused w S a _ hpending ha _ =>
      obtain ⟨out, -, -, hl⟩ := submit_spec (A.envWith perform) hx.sound.sar ha hpending
      have hbook := NciSar.book_of_cut hl
      have hframe : Moment.Accounted
          ((nciSarAttemptWriteSubmit (A.envWith perform) a w).2.map fun sar => sar.setWriting none,
            S) :=
        hacc.frame (congrArg Lists.nextAddr hl) hbook (onward_submit a w)
      refine ⟨hframe.ledger, ?_⟩
      intro b hb
      rcases List.mem_cons.mp hb with hb | hb
      · cases hb
      · exact hframe.written b hb
  | @skipped w S a ok ha =>
      refine ⟨hacc.ledger.skip (hx.sound.leaving (.finish a ok) List.mem_cons_self).1 ?_, ?_⟩
      · rw [Book.completion, NciSar.book]
        revert ha
        cases w.sar.heap a with
        | none => exact fun _ => rfl
        | some out => exact id
      · intro b hb
        rcases List.mem_cons.mp hb with hb | hb
        · cases hb
        · exact hacc.written b (List.mem_cons_of_mem _ hb)
  | @freed w S a =>
      rw [hA.packetOutFree hnil]
      have hfree := hacc.ledger.free (a := a) List.mem_cons_self
      constructor
      · show Ledger (w.sar.dealloc a).nextAddr (w.sar.dealloc a).book _ (freeing S)
        rw [NciSar.book_dealloc]
        apply hfree.discard (l := [a])
        intro b hb
        rw [List.mem_singleton.mp hb, Function.update_self]
      · intro b hb
        obtain ⟨sar, hsar, hrest⟩ := hacc.written b (List.mem_cons_of_mem _ hb)
        exact ⟨sar, List.mem_append_left _ hsar, hrest⟩

/-! ### Calls and resets -/

section

variable {perform : List (Subtype P) → World Log → World Log} {w : World Log} {S : List Leaving}

/-- More entries do not change which packets have been reported to be written. -/
theorem written_of_longer {log log' : Log} (hlog : log <+: log')
    (h : ∀ a, Leaving.finish a true ∈ S → ∃ sar, Entry.completed true sar ∈ log
      ∧ sar.writing = some a ∧ sar.isDoneAt a = true) :
  ∀ a, Leaving.finish a true ∈ S → ∃ sar, Entry.completed true sar ∈ log'
    ∧ sar.writing = some a ∧ sar.isDoneAt a = true
  := by
  intro a ha
  obtain ⟨sar, hsar, hrest⟩ := h a ha
  exact ⟨sar, hlog.subset hsar, hrest⟩

/-- A call that is not about packets. -/
theorem Moment.Accounted.called (hacc : Moment.Accounted (w, S)) {c : Call}
    (hc : (Entry.called c w.sar.snapshot).Aside) {v : World Log}
    (hsame : NciSar.SameQueues w.sar v.sar)
    (hlog : Log.Onward (w.env ++ [.called c w.sar.snapshot]) v.env) :
  Moment.Accounted (v, S)
  := by
  have hnoted : Moment.Accounted (w.record (.called c w.sar.snapshot), S) :=
    hacc.frame rfl rfl ((Log.Onward.refl _).concat hc)
  exact hnoted.frame hsame.nextAddr hsame.book hlog

/-- A packet is queued. -/
theorem Moment.Accounted.send (hacc : Moment.Accounted (w, S)) (hw : w.sar.WF) {c : Call}
    {k : QueueKey} {b0 b1 : UInt8} {payload : Option (List UInt8)} {f g : Option Nat}
    (hc : (Entry.called c w.sar.snapshot).acceptance = some ⟨w.sar.nextAddr, f, g⟩)
    (hforgets : c.forgets w.sar.snapshot = []) :
  Moment.Accounted (⟨(nciSarSend w.sar k (w.sar.connPtr k) b0 b1 payload f g).2,
    w.env ++ [.called c w.sar.snapshot]⟩, S)
  := by
  obtain ⟨hbook, hnext⟩ := hw.book_send k b0 b1 payload f g
  constructor
  · rw [hbook, hnext]
    apply hacc.ledger.accept (x := ⟨f, g⟩) hc
    · intro f'
      rw [Entry.forgotten, hforgets, Nat.count_of_forall_not]
      intro a _ hmem
      cases hmem.2
    · exact fun _ _ => Entry.noConfusion
    · exact fun _ => Entry.noConfusion
    · trivial
  · exact written_of_longer (List.prefix_append _ _) hacc.written

/-- A packet is cancelled. -/
theorem Moment.Accounted.cancel (hA : A.Discreet) (hnil : ∀ w, perform [] w = w)
    (hx : Moment.Intact (w, S)) (hacc : Moment.Accounted (w, S)) (id : UInt32) :
  Moment.Accounted (nciSarCancel (A.envWith perform) id
    (w.record (.called (.cancel id) w.sar.snapshot)), S)
  := by
  have hwf := hx.sound.sar.wf
  have hdetached : ∀ b ∈ freeing S, w.sar.Detached b := fun b hb =>
    hx.sound.leaving (.free b) (mem_of_freeing hb)
  have hwritten := written_of_longer
    (List.prefix_append w.env [.called (.cancel id) w.sar.snapshot]) hacc.written
  rw [nciSarCancel_eq]
  by_cases hid : id ≠ 0 ∧ w.sar.isWriting id = true
  · obtain ⟨a, ha⟩ : ∃ a, w.sar.writing = some a := by
      cases ha : w.sar.writing with
      | none => simp [NciSar.isWriting, ha] at hid
      | some a => exact ⟨a, rfl⟩
    have htarget : w.sar.cancelTarget id = none := by simp [NciSar.cancelTarget, hid]
    have heffect : w.sar.cancelEffect id
        = w.sar.modifyPacket a fun out => { out with complete := none } := by
      simp [NciSar.cancelEffect, hid, ha]
    have hforgets : (Call.cancel id).forgets w.sar.snapshot = [a] := by
      show w.sar.cancelsAt id = [a]
      rw [NciSar.cancelsAt, if_pos hid, ha]
      rfl
    have hnot : a ∉ freeing S := fun hmem => (hdetached a hmem).2.2 ha
    have hlt : a < w.sar.nextAddr := by
      obtain ⟨⟨k, hk⟩, -⟩ := hwf.writing a ha
      exact hk.1
    have hforget := hacc.ledger.forget hforgets rfl rfl rfl
      (fun b hb => List.mem_singleton.mp hb ▸ hlt) fun b hb => List.mem_singleton.mp hb ▸ hnot
    simp only [World.record, htarget]
    constructor
    · show Ledger (w.sar.cancelEffect id).nextAddr (w.sar.cancelEffect id).book _ (freeing S)
      rw [heffect, NciSar.book_modifyPacket]
      exact hforget.mute hnot
    · exact hwritten
  · cases ht : w.sar.cancelTarget id with
    | none =>
        have heffect : w.sar.cancelEffect id = w.sar := by
          rw [NciSar.cancelEffect, if_neg hid, ht]
        have hforgets : (Call.cancel id).forgets w.sar.snapshot = [] := by
          show w.sar.cancelsAt id = []
          rw [NciSar.cancelsAt, if_neg hid, ht]
          rfl
        simp only [World.record, ht]
        apply hacc.called (c := .cancel id) ⟨rfl, hforgets⟩ _ (Log.Onward.refl _)
        rw [World.map, heffect]
        exact (NciSar.tuned_refl _).same
    | some p =>
        obtain ⟨k, a⟩ := p
        obtain ⟨hfound, -⟩ := NciSar.cancelTarget_eq_some ht
        obtain ⟨-, hl, hmem⟩ := hwf.found hfound
        have heffect : w.sar.cancelEffect id = w.sar.unlink id k := by
          rw [NciSar.cancelEffect, if_neg hid, ht]
        have hforgets : (Call.cancel id).forgets w.sar.snapshot = [a] := by
          show w.sar.cancelsAt id = [a]
          rw [NciSar.cancelsAt, if_neg hid, ht]
          rfl
        have hnot : a ∉ freeing S := fun hmem' => (hdetached a hmem').2.1 k hmem
        have hlt := (hwf.owned k a hmem).1
        have hforget := hacc.ledger.forget hforgets rfl rfl rfl
          (fun b hb => List.mem_singleton.mp hb ▸ hlt) fun b hb => List.mem_singleton.mp hb ▸ hnot
        have hbook : (w.sar.unlink id k).book = w.sar.book := by
          apply NciSar.book_of_packet
          intro b
          rw [hl]
          rfl
        have hnext : (w.sar.unlink id k).nextAddr = w.sar.nextAddr := congrArg Lists.nextAddr hl
        simp only [World.record, ht]
        rw [hA.packetOutFree hnil]
        constructor
        · show Ledger ((w.sar.cancelEffect id).dealloc a).nextAddr
            ((w.sar.cancelEffect id).dealloc a).book
            (w.env ++ [.called (.cancel id) w.sar.snapshot]
              ++ ((w.sar.cancelEffect id).book.destruction a).toList.map Entry.destroy) (freeing S)
          rw [heffect, NciSar.book_dealloc, hbook]
          show Ledger (w.sar.unlink id k).nextAddr _ _ _
          rw [hnext]
          apply (hforget.free (List.mem_append_left _ (List.mem_singleton_self a))).discard
          intro b hb
          rw [List.mem_singleton.mp hb, Function.update_self]
        · exact written_of_longer (List.prefix_append _ _) hwritten

/-- A reset frees the packets of all queues. -/
theorem SarEnv.Discreet.freeing_resetClear {E : SarEnv Log} (hE : E.Discreet) {fuel : Nat}
    (hw : w.sar.Sound) (hfuel : w.sar.nextAddr < fuel) {gone : List Nat}
    (hgone : ∀ a ∈ w.sar.keys.flatMap w.sar.queued, a ∈ gone) :
  Freeing E gone (nciSarResetIo E w) (nciSarResetClear E fuel w)
  := by
  obtain ⟨w₁, hw₁⟩ : ∃ w₁, w₁ = nciSarResetIo E w := ⟨_, rfl⟩
  obtain ⟨w₂, hw₂⟩ : ∃ w₂, w₂ = nciSarResetConns E fuel (List.range 255) w₁ := ⟨_, rfl⟩
  have hsar₁ := resetIo_sar E hw.pending
  have hwf₁ := hw.forgotten
  rw [← hw₁] at hsar₁ ⊢
  rw [← hsar₁] at hwf₁
  have hqueued : ∀ k, w₁.sar.queued k = w.sar.queued k := by
    intro k
    rw [hsar₁]
    cases k <;> rfl
  have hfuel₁ : ∀ k, (w₁.sar.queued k).length < fuel := by
    intro k
    rw [hqueued]
    exact Nat.lt_of_le_of_lt (hw.wf.length_queued k) hfuel
  have hmax₁ : w₁.sar.maxLogicalConns = w.sar.maxLogicalConns := by
    rw [hsar₁]
    rfl
  have hkey : ∀ k ∈ w.sar.keys, ∀ a ∈ w₁.sar.queued k, a ∈ gone := by
    intro k hk a ha
    rw [hqueued] at ha
    exact hgone a (List.mem_flatMap.mpr ⟨k, hk, ha⟩)
  have hconns := hE.resetConns fuel 255 0 w₁ hwf₁ hfuel₁
  rw [← List.range_eq_range', ← hw₂] at hconns
  have hwf₂ := (hconns.spec hwf₁).1
  have hcmd : ∀ a ∈ w₂.sar.queued .cmd, a ∈ gone := fun a ha =>
    hkey .cmd (NciSar.mem_keys.mpr (Or.inl rfl)) a (hconns.queued_subset hwf₁ .cmd ha)
  have hfirst : Freeing E gone w₁ w₂ := by
    rw [hw₂]
    apply hE.freeing_resetConns _ hwf₁ hfuel₁
    intro cid hcid
    apply hkey
    rw [hmax₁] at hcid
    exact NciSar.mem_keys.mpr (Or.inr ⟨cid, rfl, hcid⟩)
  obtain ⟨w₃, hw₃⟩ : ∃ w₃, w₃ = w₂.map fun self =>
      self.setControlIn (self.controlIn.map fun _ => []) := ⟨_, rfl⟩
  have hsecond : Freeing E gone w₁ w₃ := by
    apply hfirst.tail
    rw [hw₃]
    exact FreeStep.edit _ rfl rfl
  have hthird : Freeing E gone w₃ (nciSarClearQueue E .cmd fuel w₃) := by
    rw [hw₃]
    exact hE.freeing_clearQueue .cmd fuel (hwf₂.chain .cmd) (hwf₂.nodup .cmd) hcmd
  rw [nciSarResetClear]
  simp only [← hw₁, ← hw₂, ← hw₃]
  exact (hsecond.trans hthird).tail (FreeStep.edit _ rfl rfl)

theorem freeing_dropped (sar : NciSar) (S : List Leaving) :
  freeing (sar.dropped ++ S) = freeing S
  := by
  rw [NciSar.dropped]
  cases sar.writing <;> rfl

/-- The layer is reset. -/
theorem Moment.Accounted.reset (hA : A.Discreet) (hnil : ∀ w, perform [] w = w)
    (hx : Moment.Intact (w, S)) (hacc : Moment.Accounted (w, S)) {fuel : Nat}
    (hfuel : w.sar.nextAddr < fuel) :
  Moment.Accounted (nciSarResetClear (A.envWith perform) fuel
    (w.record (.called .reset w.sar.snapshot)), w.sar.dropped ++ S)
  := by
  have hE := hA.env hnil
  have hwf := hx.sound.sar.wf
  obtain ⟨l, hl⟩ : ∃ l, l = w.sar.keys.flatMap w.sar.queued := ⟨_, rfl⟩
  obtain ⟨w₀, hw₀⟩ : ∃ w₀, w₀ = w.record (.called .reset w.sar.snapshot) := ⟨_, rfl⟩
  have hsar₀ : w₀.sar = w.sar := by rw [hw₀, World.record_sar]
  have hqueued : ∀ a ∈ l, ∃ k, a ∈ w.sar.queued k := by
    intro a ha
    rw [hl] at ha
    obtain ⟨k, -, hk⟩ := List.mem_flatMap.mp ha
    exact ⟨k, hk⟩
  have hforget : Ledger w₀.sar.nextAddr w₀.sar.book w₀.env (l ++ freeing S) := by
    rw [hw₀]
    have hforgets : Call.reset.forgets w.sar.snapshot = l := hl.symm
    apply hacc.ledger.forget hforgets rfl rfl rfl
    · intro a ha
      obtain ⟨k, hk⟩ := hqueued a ha
      exact (hwf.owned k a hk).1
    · intro a ha hmem
      obtain ⟨k, hk⟩ := hqueued a ha
      exact (hx.sound.leaving (.free a) (mem_of_freeing hmem)).2.1 k hk
  have hsound₀ : w₀.sar.Sound := by
    rw [hsar₀]
    exact hx.sound.sar
  have hio : Ledger (nciSarResetIo (A.envWith perform) w₀).sar.nextAddr
      (nciSarResetIo (A.envWith perform) w₀).sar.book (nciSarResetIo (A.envWith perform) w₀).env
      (l ++ freeing S) := by
    rw [resetIo_sar _ hsound₀.pending]
    exact hforget.onward (onward_resetIo w₀)
  have hfuel₀ : w₀.sar.nextAddr < fuel := by
    rw [hsar₀]
    exact hfuel
  have hgone : ∀ a ∈ w₀.sar.keys.flatMap w₀.sar.queued, a ∈ l ++ freeing S := by
    intro a ha
    rw [hsar₀, ← hl] at ha
    exact List.mem_append_left _ ha
  have hfreeing := hE.freeing_resetClear hsound₀ hfuel₀ hgone
  obtain ⟨hcleared, -⟩ := hE.resetClear hsound₀ fun k =>
    Nat.lt_of_le_of_lt (hsound₀.wf.length_queued k) hfuel₀
  rw [← hw₀]
  constructor
  · show Ledger _ _ _ (freeing (w.sar.dropped ++ S))
    rw [freeing_dropped]
    apply (Ledger.freeing hA hnil hfreeing hio).discard
    intro a ha
    rw [hl] at ha
    obtain ⟨k, hk, hmem⟩ := List.mem_flatMap.mp ha
    have hmem' : a ∈ (((w.sar.setWriting none).setWritePending false).setStarted false).queued k
        := by cases k <;> exact hmem
    rw [hsar₀] at hcleared
    rw [NciSar.book, hcleared.gone k hk a hmem']
    rfl
  · intro a ha
    have hmem : .finish a true ∈ S := by
      rcases List.mem_append.mp ha with ha | ha
      · rw [NciSar.dropped] at ha
        split at ha
        · cases List.mem_singleton.mp ha
        · cases ha
      · exact ha
    have hlonger : w.env <+: (nciSarResetClear (A.envWith perform) fuel w₀).env := by
      rw [hw₀]
      exact (List.prefix_append w.env _).trans
        (hA.longer_reset hnil fuel (w.record (.called .reset w.sar.snapshot)))
    exact written_of_longer hlonger hacc.written a hmem

/-- What a change of the number of connections does. -/
theorem setMaxLogicalConnections_eq (E : SarEnv Log) (fuel : Nat) (max : UInt8) (w : World Log) :
  nciSarSetMaxLogicalConnections E fuel max w
    = if w.sar.maxLogicalConns < newMaxLogicalConns max then
        w.map fun self =>
          { self with
            conn := fun cid =>
              if cid < self.maxLogicalConns.toNat then self.conn cid
              else NciSarLogicalConnection.zero
            connTable := self.connTable + 1
            maxLogicalConns := newMaxLogicalConns max }
      else if newMaxLogicalConns max < w.sar.maxLogicalConns then
        (nciSarDropConns E fuel ((List.range 255).drop (newMaxLogicalConns max).toNat) w).map
          fun self => { self with
            connTable := self.connTable + 1, maxLogicalConns := newMaxLogicalConns max }
      else w
  := rfl

theorem range_drop_eq (m : Nat) :
  (List.range 255).drop m = List.range' m (255 - m)
  := by
  rw [List.range_eq_range', List.drop_range']
  simp

/-- A change of the number of connections frees the packets of the connections that are given
up. -/
theorem SarEnv.Discreet.freeing_setMaxLogicalConnections {E : SarEnv Log} (hE : E.Discreet)
    {fuel : Nat} (max : UInt8) (hw : w.sar.WF) (hfuel : w.sar.nextAddr < fuel) {gone : List Nat}
    (hgone : ∀ cid a, (newMaxLogicalConns max).toNat ≤ cid → cid < w.sar.maxLogicalConns.toNat →
      a ∈ w.sar.queued (.out cid) → a ∈ gone) :
  Freeing E gone w (nciSarSetMaxLogicalConnections E fuel max w)
  := by
  rw [setMaxLogicalConnections_eq]
  split
  · exact Relation.ReflTransGen.single (FreeStep.edit _ rfl rfl)
  · split
    · have hdrop : Freeing E gone w
          (nciSarDropConns E fuel ((List.range 255).drop (newMaxLogicalConns max).toNat) w) := by
        apply hE.freeing_dropConns _ hw
          fun k => Nat.lt_of_le_of_lt (hw.length_queued k) hfuel
        intro cid hcid hlt a ha
        rw [range_drop_eq, List.mem_range'_1] at hcid
        exact hgone cid a hcid.1 hlt ha
      exact hdrop.tail (FreeStep.edit _ rfl rfl)
    · exact Relation.ReflTransGen.refl

/-- Where the number of connections is changed, the packets of the connections that are given up
are freed. -/
theorem SarEnv.Discreet.gone_setMaxLogicalConnections {E : SarEnv Log} (hE : E.Discreet)
    {fuel : Nat} (max : UInt8) (hw : w.sar.WF) (hfuel : w.sar.nextAddr < fuel) {cid a : Nat}
    (hle : (newMaxLogicalConns max).toNat ≤ cid) (hlt : cid < w.sar.maxLogicalConns.toNat)
    (ha : a ∈ w.sar.queued (.out cid)) :
  (nciSarSetMaxLogicalConnections E fuel max w).sar.packet a = none
  := by
  have hfuel' : ∀ k, (w.sar.queued k).length < fuel := fun k =>
    Nat.lt_of_le_of_lt (hw.length_queued k) hfuel
  have hshrink : newMaxLogicalConns max < w.sar.maxLogicalConns :=
    UInt8.lt_iff_toNat_lt.mpr (Nat.lt_of_le_of_lt hle hlt)
  have hgrow : ¬ w.sar.maxLogicalConns < newMaxLogicalConns max := UInt8.lt_asymm hshrink
  rw [setMaxLogicalConnections_eq, if_neg hgrow, if_pos hshrink]
  have hdrop := hE.dropConns fuel (255 - (newMaxLogicalConns max).toNat)
    (newMaxLogicalConns max).toNat w hw hfuel'
  have hbound := w.sar.maxLogicalConns.toNat_lt
  rw [range_drop_eq, NciSar.packet]
  show Option.map _ ((nciSarDropConns E fuel _ w).sar.heap a) = none
  rw [hdrop.gone (.out cid) ⟨cid, rfl, hle, by omega, hlt⟩ a ha]
  rfl

/-- The number of connections is changed. -/
theorem Moment.Accounted.setMaxLogicalConnections (hA : A.Discreet) (hnil : ∀ w, perform [] w = w)
    (hx : Moment.Intact (w, S)) (hacc : Moment.Accounted (w, S)) {fuel : Nat}
    (hfuel : w.sar.nextAddr < fuel) (max : UInt8) :
  Moment.Accounted (nciSarSetMaxLogicalConnections (A.envWith perform) fuel max
    (w.record (.called (.setMaxLogicalConnections max) w.sar.snapshot)), S)
  := by
  have hE := hA.env hnil
  have hwf := hx.sound.sar.wf
  obtain ⟨m, hm⟩ : ∃ m, m = (newMaxLogicalConns max).toNat := ⟨_, rfl⟩
  obtain ⟨l, hl⟩ : ∃ l, l = (w.sar.cids.drop m).flatMap fun cid => w.sar.queued (.out cid) :=
    ⟨_, rfl⟩
  have hforgets : (Call.setMaxLogicalConnections max).forgets w.sar.snapshot = l := by
    rw [hl, hm]
    rfl
  have hmem : ∀ a, a ∈ l ↔ ∃ cid, m ≤ cid ∧ cid < w.sar.maxLogicalConns.toNat
      ∧ a ∈ w.sar.queued (.out cid) := by
    intro a
    rw [hl, List.mem_flatMap, NciSar.cids, List.range_eq_range', List.drop_range']
    simp only [List.mem_range'_1]
    constructor
    · rintro ⟨cid, ⟨hle, hlt⟩, ha⟩
      exact ⟨cid, by omega, by omega, ha⟩
    · rintro ⟨cid, hle, hlt, ha⟩
      exact ⟨cid, ⟨by omega, by omega⟩, ha⟩
  obtain ⟨w₀, hw₀⟩ : ∃ w₀, w₀ = w.record (.called (.setMaxLogicalConnections max)
      w.sar.snapshot) := ⟨_, rfl⟩
  have hsar₀ : w₀.sar = w.sar := by rw [hw₀, World.record_sar]
  have hforget : Ledger w₀.sar.nextAddr w₀.sar.book w₀.env (l ++ freeing S) := by
    rw [hw₀]
    apply hacc.ledger.forget hforgets rfl rfl rfl
    · intro a ha
      obtain ⟨cid, -, -, hcid⟩ := (hmem a).mp ha
      exact (hwf.owned _ a hcid).1
    · intro a ha hmem'
      obtain ⟨cid, -, -, hcid⟩ := (hmem a).mp ha
      exact (hx.sound.leaving (.free a) (mem_of_freeing hmem')).2.1 _ hcid
  rw [← hw₀]
  rw [← hsar₀] at hwf hfuel hmem
  constructor
  · have hfreeing : Freeing (A.envWith perform) (l ++ freeing S) w₀
        (nciSarSetMaxLogicalConnections (A.envWith perform) fuel max w₀) := by
      apply hE.freeing_setMaxLogicalConnections max hwf hfuel
      intro cid a hle hlt ha
      rw [← hm] at hle
      exact List.mem_append_left _ ((hmem a).mpr ⟨cid, hle, hlt, ha⟩)
    apply (Ledger.freeing hA hnil hfreeing hforget).discard
    intro a ha
    obtain ⟨cid, hle, hlt, hcid⟩ := (hmem a).mp ha
    rw [hm] at hle
    rw [NciSar.book_eq, NciSar.lists_packet,
      hE.gone_setMaxLogicalConnections max hwf hfuel hle hlt hcid]
    rfl
  · have hlonger := hA.longer_call hnil (.setMaxLogicalConnections max) Call.noConfusion fuel w₀
    apply written_of_longer _ hacc.written
    rw [hw₀] at hlonger ⊢
    exact (List.prefix_append w.env _).trans hlonger

/-- A function is called that does not reset the layer. -/
theorem Moment.Accounted.call (hA : A.Discreet) (hnil : ∀ w, perform [] w = w)
    (hx : Moment.Intact (w, S)) (hacc : Moment.Accounted (w, S)) (c : Call) (hreset : c ≠ .reset)
    {fuel : Nat} (htame : (Entry.called c w.sar.snapshot).Tame fuel) :
  Moment.Accounted (c.perform (A.envWith perform) fuel (w.record (.called c w.sar.snapshot)), S)
  := by
  have hrefl := Log.Onward.refl (w.env ++ [.called c w.sar.snapshot])
  have hwf := hx.sound.sar.wf
  cases c with
  | start =>
      apply hacc.called (c := .start) ⟨rfl, rfl⟩
      · rw [Call.perform, nciSarStart]
        split
        · exact (NciSar.tuned_refl _).same
        · exact (NciSar.tuned_setStarted _ _).same
      · exact onward_start _
  | reset => exact absurd rfl hreset
  | setMaxLogicalConnections max =>
      exact hacc.setMaxLogicalConnections hA hnil hx htame.1 max
  | setMaxControlPayloadSize max =>
      exact hacc.called ⟨rfl, rfl⟩ (NciSar.tuned_setMaxControlPayloadSize _ _).same hrefl
  | setMaxDataPayloadSize max =>
      exact hacc.called ⟨rfl, rfl⟩ (NciSar.tuned_setMaxDataPayloadSize _ _).same hrefl
  | setInitialCredits cid credits =>
      exact hacc.called ⟨rfl, rfl⟩ (NciSar.tuned_setInitialCredits _ _ _).same hrefl
  | addCredits cid credits =>
      exact hacc.called ⟨rfl, rfl⟩ (NciSar.tuned_addCredits _ _ _).same hrefl
  | sendCommand gid oid payload f g => exact hacc.send hwf (k := .cmd) rfl rfl
  | sendDataPacket cid payload f g =>
      rw [Call.perform]
      simp only [nciSarSendDataPacket, World.map]
      split
      · rename_i hcid
        exact hacc.send hwf (k := .out cid.toNat) (if_pos hcid) rfl
      · rename_i hcid
        exact hacc.called (c := .sendDataPacket cid payload f g) ⟨if_neg hcid, rfl⟩
          (NciSar.tuned_refl _).same hrefl
  | cancel id => exact hacc.cancel hA hnil hx id

/-- The HAL reports the end of a write. -/
theorem Moment.Accounted.completed (hacc : Moment.Accounted (w, S)) {a : Nat} (ok : Bool)
    (ha : w.sar.writing = some a) :
  Moment.Accounted (⟨w.sar.completedEffect ok a, w.env ++ [.completed ok w.sar.snapshot]⟩,
    w.sar.reported ok a ++ S)
  := by
  have hfreeing : freeing (w.sar.reported ok a ++ S) = freeing S := by
    rw [NciSar.reported]
    split <;> rfl
  constructor
  · rw [hfreeing]
    exact hacc.ledger.aside trivial
  · intro b hb
    rcases List.mem_append.mp hb with hb | hb
    · rw [NciSar.reported] at hb
      split at hb
      · cases hb
      · rename_i hleaves
        cases List.mem_singleton.mp hb
        refine ⟨w.sar.snapshot, List.mem_append_right _ (List.mem_singleton_self _), ha, ?_⟩
        show w.sar.isDoneAt a = true
        simpa using hleaves
    · exact written_of_longer (List.prefix_append _ _) hacc.written b hb

end

theorem Entry.Remark.aside {e : Entry} (h : e.Remark) :
  e.Aside
  := by
  cases e <;> trivial

/-- Every move keeps the account. -/
theorem AppMove.accounted (hA : A.Discreet) {x y : Moment Log} (h : AppMove A x y) (hx : x.Intact)
    (hacc : x.Accounted) (hy : ∀ e ∈ y.1.env, e.Tame A.fuel) :
  y.Accounted
  := by
  have hrefl := Log.Onward.refl x.1.env
  cases h with
  | layer perform hnil hmove => exact hmove.accounted hA hnil hx hacc
  | noted _ he => exact hacc.frame rfl rfl (hrefl.concat he.aside)
  | received packet _ => exact hacc.frame rfl rfl (hrefl.concat trivial)
  | @called w S c perform hnil _ _ hreset =>
      apply hacc.call hA hnil hx c hreset
      apply hy (.called c w.sar.snapshot)
      apply (hA.longer_call hnil c hreset _ _).subset
      exact List.mem_append_right _ (List.mem_singleton_self _)
  | @reset w S perform hnil _ _ =>
      apply hacc.reset hA hnil hx
      apply hy (.called .reset w.sar.snapshot)
      apply (hA.longer_reset hnil _ _).subset
      exact List.mem_append_right _ (List.mem_singleton_self _)
  | completed ok _ _ ha => exact hacc.completed ok ha
  | stray ok _ _ => exact hacc.frame rfl rfl (hrefl.concat trivial)
  | @reported w S a f ok ha =>
      have hcompletion : w.sar.book.completion a = some f := by
        rw [Book.completion, NciSar.book, ← ha]
        cases w.sar.heap a <;> rfl
      have hnot : a ∉ freeing S := by
        intro hmem
        apply (List.nodup_cons.mp hx.nodup).1
        exact List.mem_map.mpr ⟨_, mem_of_freeing hmem, rfl⟩
      constructor
      · apply hacc.ledger.report hcompletion hnot
        rintro rfl
        exact hacc.written a List.mem_cons_self
      · intro b hb
        rcases List.mem_cons.mp hb with hb | hb
        · cases hb
        · exact written_of_longer (S := S) (List.prefix_append _ _)
            (fun b hb => hacc.written b (List.mem_cons_of_mem _ hb)) b hb

/-! ### Runs -/

/-- In a new layer, there is nothing to account for. -/
theorem accounted_start :
  Moment.Accounted (World.start nciSarNew, [])
  := by
  constructor
  · constructor
    · intro a _
      rfl
    · intro a ha
      cases ha
    · intro a x ha
      cases ha
    · intro f
      rfl
    · intro g
      rfl
    · intro p hp
      cases hp
    · exact throughout_nil
  · intro a ha
    cases ha

/-- The account is right after every run that is tame. -/
theorem AppMoves.accounted (hA : A.Discreet) {x y : Moment Log} (h : AppMoves A x y)
    (hx : x.Intact) (hacc : x.Accounted) (hy : ∀ e ∈ y.1.env, e.Tame A.fuel) :
  y.Intact ∧ y.Accounted
  := by
  apply AppMoves.induction hA (I := fun x => x.Intact ∧ x.Accounted)
    (p := fun log => ∀ e ∈ log, e.Tame A.fuel) forall_of_prefix _ h ⟨hx, hacc⟩ hy
  rintro x y hmove ⟨hx, hacc⟩ hy
  exact ⟨hmove.intact hA hx hy, hmove.accounted hA hx hacc hy⟩

end Nci
