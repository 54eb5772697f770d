import LibNciCore.Sar.Segments

/-!
# Last pointers

A queue that has its last pointer keeps it, until a packet is put back to it while it is
empty: then the last pointer stays behind, and the next packet that is sent takes the place
of the one that waits. The queue of commands always has its last pointer, for no command is
ever put back.
-/

namespace Nci

open LinkedQueue

/-- The last pointer of a queue points to its last packet, or nowhere if it is empty. -/
def NciSar.Listed (sar : NciSar) (k : QueueKey) : Prop :=
  (sar.queue k).last = (sar.queued k).getLast?

/-- More segments of the packet that is being written follow, there are no credits for them,
and the queue of the packet is empty. -/
def NciSar.strands (sar : NciSar) : Bool :=
  match sar.writing, sar.writingKey with
  | some a, some (.out cid) =>
      !sar.isDoneAt a && sar.credits cid == 0 && (sar.queued (.out cid)).isEmpty
  | _, _ => false

/-- A segment has been written of a packet that is about to be put back to an empty queue. -/
def Entry.Strands : Entry → Prop
  | .completed ok sar => ok = true ∧ sar.strands = true
  | _ => False

instance : DecidablePred Entry.Strands := fun e => by
  cases e <;> unfold Entry.Strands <;> infer_instance

/-- A packet is sent on a queue that has packets but no last pointer. -/
def Entry.Loses (k : QueueKey) : Entry → Prop
  | .called c sar => ∃ x, c.accepted sar = some x ∧ x.key = k ∧ (sar.queue k).last = none
      ∧ sar.queued k ≠ []
  | _ => False

namespace NciSar

variable {sar sar' : NciSar} {k k' : QueueKey} {a : Nat}

theorem Listed.of_same (h : sar.Listed k) (hqueue : sar'.queue k = sar.queue k)
    (hqueued : sar'.queued k = sar.queued k) :
  sar'.Listed k
  := by rw [Listed, hqueue, hqueued, h]

theorem Listed.of_sameQueues (h : sar.Listed k) (hs : SameQueues sar sar') :
  sar'.Listed k
  := h.of_same (hs.queue k) (hs.queued k)

/-- An edit of a queue that gives it the right last pointer. -/
theorem Listed.relink (h : sar.Listed k) {q : Queue} {heap : Heap NciSarPacketOut}
    {writing : Option Nat} {l : List Nat}
    (hl : (sar.relink k' q heap writing).lists = sar.lists.relist k' l writing)
    (hlast : k' = k → q.last = l.getLast?) :
  (sar.relink k' q heap writing).Listed k
  := by
  have hqueued := congrFun (congrArg Lists.queued hl) k
  simp only [lists_queued, Lists.relist] at hqueued
  by_cases hk : k = k'
  · subst hk
    rw [Listed, queue_relink_self, hqueued, Function.update_self, hlast rfl]
  · rw [Listed, queue_relink_of_ne _ _ _ _ hk, hqueued, Function.update_of_ne hk, h]

theorem Listed.putBack (h : sar.Listed k) (hw : sar.WF) (ha : sar.writing = some a)
    (hk : sar.Owned k' a) (hne : k' = k → sar.queued k' ≠ []) :
  (sar.putBackState k' a).Listed k
  := by
  apply h.relink (hw.putBackState ha hk).2
  rintro rfl
  obtain ⟨b, l, hl⟩ := List.exists_cons_of_ne_nil (hne rfl)
  have hlast : (putFront sar.heap (sar.queue k') a).2.last = (sar.queue k').last := rfl
  rw [hlast, h, lists_queued, hl, List.getLast?_cons_cons]

theorem Listed.pick (h : sar.Listed k) (hw : sar.WF) {l : List Nat}
    (hl : sar.queued k' = a :: l) :
  ((sar.charge k').pickState k').Listed k
  := by
  have hs := sameQueues_charge sar k'
  have hlists := (hw.pickState hl).2
  have hchain := (hw.charge k').chain k'
  rw [hs.queued, hl] at hchain
  obtain ⟨hfirst, -, hlast, -⟩ := dequeue_spec hchain
  have hpick : ((sar.charge k').pickState k').lists = (sar.charge k').lists.relist k' l
      (dequeue (sar.charge k').heap ((sar.charge k').queue k')).1 := by
    rw [hlists, hs.lists, hfirst, Lists.pick, lists_queued, hl]
    rfl
  apply (h.of_sameQueues hs).relink hpick
  rintro rfl
  rw [hlast, hs.queue]
  cases l with
  | nil => rfl
  | cons b l =>
      rw [if_neg (List.cons_ne_nil b l), h, hl, List.getLast?_cons_cons]

theorem Listed.unlink (h : sar.Listed k) (hw : sar.WF) {id : UInt32}
    (hl : (sar.unlink id k').lists = sar.lists.remove k' a) (ha : sar.found id k' = some a) :
  (sar.unlink id k').Listed k
  := by
  have hlen : (sar.queued k').length ≤ sar.nextAddr := by
    have hsub : sar.queued k' ⊆ List.range sar.nextAddr :=
      fun b hb => List.mem_range.mpr (hw.owned k' b hb).1
    simpa using (List.Nodup.subperm (hw.nodup k') hsub).length_le
  obtain ⟨hfind, -, -, hlast⟩ :=
    remove_spec (fun out : NciSarPacketOut => out.id == id) (hw.chain k') hlen
  rw [found] at ha
  rw [ha] at hfind
  apply h.relink hl
  rintro rfl
  rw [eraseP_eq_erase hfind.symm] at hlast
  rcases hlast with hlast | ⟨hlast, hsame⟩
  · apply hlast
  · rw [hlast, h, hsame, lists_queued]

/-- A call keeps the last pointers. -/
theorem Listed.effect (h : sar.Listed k) (hw : sar.WF) (c : Call) :
  (c.effect sar).Listed k
  := by
  rcases Call.effect_cases hw c with ⟨-, -, hsame⟩
    | ⟨y, payload, complete, destroy, hy, -, -, -, heq⟩
    | ⟨a, -, -, ha, heq⟩ | ⟨id, k', a, -, -, hfound, -, heq, -, hl⟩
  · apply h.of_sameQueues hsame
  · obtain ⟨-, hl, hlast, hother⟩ := hw.send y.key y.b0 y.b1 payload complete destroy
    rw [← heq] at hl hlast hother
    have hqueued := congrFun (congrArg Lists.queued hl) k
    simp only [lists_queued, Lists.append] at hqueued
    by_cases hk : k = y.key
    · subst hk
      rw [Listed, hlast, hqueued, Function.update_self]
      simp
    · rw [Listed, hother k hk, hqueued, Function.update_of_ne hk, h]
  · obtain ⟨-, hl⟩ := hw.modifyPacket a (f := fun out => { out with complete := none })
      (fun _ => rfl) (fun _ => rfl) (fun _ _ => rfl)
    rw [← heq] at hl
    apply h.of_same
    · rw [heq]
      cases k <;> rfl
    · apply congrFun (congrArg Lists.queued hl) k
  · rw [heq]
    apply h.unlink hw hl hfound

/-- Choosing the packet to write keeps the last pointers, unless the packet is put back to an
empty queue. -/
theorem Listed.select (h : sar.Listed k) (hw : sar.WF)
    (hne : ∀ cid a, sar.writing = some a → sar.Owned (.out cid) a → sar.credits cid = 0 →
      .out cid = k → sar.queued (.out cid) ≠ []) :
  sar.select.Listed k
  := by
  have hcont : (nciSarAttemptWriteContinue sar).Listed k := by
    rcases hw.continue_cases with ⟨-, heq⟩ | ⟨k', a, -, -, -, heq⟩ | ⟨cid, a, ha, hk, hzero, heq⟩
    · rw [heq]
      apply h
    · rw [heq]
      apply h.of_sameQueues (sameQueues_charge sar k')
    · rw [heq]
      apply h.putBack hw ha hk (hne cid a ha hk hzero)
  rcases hw.select.1.pick_cases with ⟨a, -, heq⟩ | ⟨-, -, heq⟩ | ⟨k', a, l, -, hl, -, heq⟩
  · rw [NciSar.select, heq]
    apply hcont
  · rw [NciSar.select, heq]
    apply hcont
  · rw [NciSar.select, heq]
    apply hcont.pick hw.select.1 hl

end NciSar

section

variable {P : Call → Prop} {w w' : World Log} {k : QueueKey}

/-- The last pointer of a queue is right, and no packet has been lost from it. -/
def LastKept (k : QueueKey) (w : World Log) : Prop :=
  w.sar.Listed k ∧ ∀ e ∈ w.env, ¬ e.Loses k

theorem LastKept.note (h : LastKept k w) {sar : NciSar} {e : Entry} (hsar : sar.Listed k)
    (he : ¬ e.Loses k) :
  LastKept k ⟨sar, w.env ++ [e]⟩
  := by
  use hsar
  intro e' he'
  rcases List.mem_append.mp he' with he' | he'
  · apply h.2 e' he'
  · rw [List.mem_singleton.mp he']
    apply he

/-- At the start of a run the last pointers are right. -/
theorem NciSar.Quiet.lastKept {sar : NciSar} (h : sar.Quiet) (k : QueueKey) :
  LastKept k (World.start sar)
  := by
  constructor
  · rw [NciSar.Listed, World.start, h.wf.2 k, h.queue]
    rfl
  · simp [World.start]

/-- A packet that is put back to an empty queue has been stranded before. -/
theorem Resumes.queued_ne_nil (hr : Resumes w) (hs : ∀ e ∈ w.env, ¬ e.Strands) {cid a : Nat}
    (ha : w.sar.writing = some a) (hk : w.sar.Owned (.out cid) a) (hzero : w.sar.credits cid = 0) :
  w.sar.queued (.out cid) ≠ []
  := by
  intro hnil
  obtain ⟨sar, hmem, hwriting, hdone, hsame, hcredits⟩ := hr a ha
  have hsnapshot := sar.sameQueues_snapshot
  have hkey : sar.snapshot.writingKey = some (.out cid) := by
    have hown : sar.snapshot.Owned (.out cid) a := by
      rw [hsnapshot.owned, ← hsame.owned]
      apply hk
    apply hown.writingKey_eq hwriting
  have hwriting' : sar.snapshot.writing = some a := hwriting
  have hdone' : sar.snapshot.isDoneAt a = false := hdone
  have hzero' : sar.snapshot.credits cid = 0 := (hcredits cid).symm.trans hzero
  have hnil' : sar.snapshot.queued (.out cid) = [] := by rw [hsnapshot.queued, ← hsame.queued, hnil]
  apply hs _ hmem
  use rfl
  simp [NciSar.strands, hwriting', hkey, hdone', hzero', hnil']

theorem Inner.lastKept (h : Inner P w w') (hw : w.sar.Sound) (hl : LastKept k w) :
  LastKept k w'
  := by
  cases h with
  | @note e he =>
      apply hl.note hl.1
      cases e <;> first | apply not_false | exact he.elim
  | started ok _ =>
      apply hl.note _ (by apply not_false)
      apply hl.1.of_sameQueues
      apply NciSar.sameQueues_of_fields <;> rfl
  | @called c _ =>
      apply hl.note (hl.1.effect hw.wf c)
      rintro ⟨x, -, -, hlast, hne⟩
      have hsnapshot := w.sar.sameQueues_snapshot
      rw [hsnapshot.queue, hl.1] at hlast
      rw [hsnapshot.queued] at hne
      apply hne (List.getLast?_eq_none_iff.mp hlast)
  | @freed a hd =>
      obtain ⟨-, hlists⟩ := hw.wf.free hd.2.1 hd.2.2
      use hl.1.of_same (by cases k <;> rfl) (congrFun (congrArg Lists.queued hlists) k)
      apply hl.2

/-- A step keeps the last pointer of a queue, as long as no packet is stranded. There is no
need for that in the case of commands. -/
theorem Step.lastKept (h : Step P w w') (hw : w.sar.Sound)
    (hs : k ≠ .cmd → ∀ e ∈ w.env, ¬ e.Strands) (hl : LastKept k w) :
  LastKept k w'
  := by
  have hselect : Resumes w → w.sar.select.Listed k := fun hr =>
    hl.1.select hw.wf fun _ _ ha hk hzero hcid =>
      hr.queued_ne_nil (hs (by rw [← hcid]; simp)) ha hk hzero
  have hcut : ∀ {a out}, Resumes w → w.sar.select.heap a = some out →
      (w.sar.select.cutSegment a out).Listed k := by
    intro a out hr hout
    apply (hselect hr).of_same
    · cases k <;> rfl
    · apply congrFun (congrArg Lists.queued (hw.wf.select.2.cutSegment hout).2) k
  cases h with
  | inner h => apply h.lastKept hw hl
  | received packet =>
      apply hl.note _ (by apply not_false)
      apply hl.1.of_sameQueues (w.sar.sameQueues_receivedEffect packet)
  | controlInput input =>
      use hl.1.of_sameQueues (by apply NciSar.sameQueues_of_fields <;> rfl), hl.2
  | input cid input =>
      use hl.1.of_sameQueues (w.sar.sameQueues_setInput cid input), hl.2
  | unscheduled =>
      use hl.1.of_sameQueues (by apply NciSar.sameQueues_of_fields <;> rfl), hl.2
  | scheduled => use hl.1.of_sameQueues (NciSar.sameQueues_scheduleWrite _), hl.2
  | attempted _ hr _ => use hselect hr, hl.2
  | handed ok _ hr _ hout =>
      apply hl.note _ (by apply not_false)
      apply (hcut hr hout).of_same <;> cases k <;> rfl
  | notStarted _ hr _ hout =>
      apply hl.note _ (by apply not_false)
      apply (hcut hr hout).of_same <;> cases k <;> rfl

theorem Completed.lastKept (h : Completed w w') (hl : LastKept k w) :
  LastKept k w'
  := by
  obtain ⟨ok, -, -⟩ := h
  apply hl.note _ (by apply not_false)
  apply hl.1.of_same <;> cases k <;> rfl

end

end Nci
