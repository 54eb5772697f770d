import LibNciCore.Sar.LastPointers

/-!
# Packets are sent in the order in which they were accepted

In a run in which no packet is put back to an empty queue and no packet is cancelled in the
middle, the segments handed over for a queue are, packet by packet and in the order of
acceptance, the segmentations of the packets.
-/

namespace Nci

open LinkedQueue Cut

/-! ### The order of the segments -/

/-- The packet that is cancelled. -/
def Entry.cancellation : Entry → Option Nat
  | .called c sar => (c.cancelled sar).map Prod.snd
  | _ => none

/-- The packets that have been cancelled. -/
def cancelled (log : Log) : List Nat := log.filterMap Entry.cancellation

/-- The packets of a queue that have been accepted and not cancelled, in the order of
acceptance. -/
def accepted (k : QueueKey) (log : Log) : List Submission :=
  (submitted log).filter fun x => x.key = k ∧ x.addr ∉ cancelled log

/-- The segments that have been handed over for a queue. -/
def handedOn (k : QueueKey) (log : Log) : List Segment :=
  ((handed log).filter fun h => h.key = k).map Handed.segment

/-- A write fails: the HAL refuses it, cannot be started, or reports that it has failed. -/
def Entry.Fails : Entry → Prop
  | .completed ok _ => ok = false
  | e => e.Refusal

instance : DecidablePred Entry.Fails
  | .completed ok _ => inferInstanceAs (Decidable (ok = false))
  | .halStart ok sar => inferInstanceAs (Decidable (ok = false ∧ sar.writing.isSome = true))
  | .halWrite _ ok _ => inferInstanceAs (Decidable (ok = false))
  | .called _ _ | .received _ _ | .idle | .halError | .halStop | .halCancelWrite | .error
  | .response _ _ _ | .notification _ _ _ | .dataPacket _ _ | .complete _ _ | .destroy _ =>
      inferInstanceAs (Decidable False)

/-- A packet is cancelled of which segments have been handed over. -/
def Entry.CutsShort : Entry → Prop
  | .called c sar => ((c.cancelled sar).any fun p =>
      (sar.packet p.2).any fun out => out.payloadPos != 0) = true
  | _ => False

/-- A packet is accepted whose size does not fit into 32 bits. -/
def Entry.Oversized : Entry → Prop
  | .called c sar => ((c.accepted sar).any fun x => 2 ^ 32 ≤ x.payload.length) = true
  | _ => False

instance : DecidablePred Entry.CutsShort
  | .called c sar => inferInstanceAs (Decidable (((c.cancelled sar).any fun p =>
      (sar.packet p.2).any fun out => out.payloadPos != 0) = true))
  | .completed _ _ | .halStart _ _ | .halWrite _ _ _ | .received _ _ | .idle | .halError | .halStop
  | .halCancelWrite | .error | .response _ _ _ | .notification _ _ _ | .dataPacket _ _
  | .complete _ _ | .destroy _ =>
      inferInstanceAs (Decidable False)

instance : DecidablePred Entry.Oversized
  | .called c sar => inferInstanceAs (Decidable (((c.accepted sar).any fun x =>
      2 ^ 32 ≤ x.payload.length) = true))
  | .completed _ _ | .halStart _ _ | .halWrite _ _ _ | .received _ _ | .idle | .halError | .halStop
  | .halCancelWrite | .error | .response _ _ _ | .notification _ _ _ | .dataPacket _ _
  | .complete _ _ | .destroy _ =>
      inferInstanceAs (Decidable False)

/-- All segments of a packet have been handed over, and after that the HAL has reported that what
it had of the packet is written. -/
structure Submission.Written (x : Submission) (log : Log) : Prop where
  complete : x.IsSegmentation (handedOf x.addr log)
  reported : ∃ log' sar, log' ++ [.completed true sar] <+: log ∧ sar.writing = some x.addr
    ∧ handedOf x.addr log' = handedOf x.addr log

/-- What has been handed over for a queue is, packet by packet, what has been handed over of
the accepted packets. The first of them are written, the others make up the line of the
queue, and of those only the first has been begun. -/
def InOrder (k : QueueKey) (sar : NciSar) (log : Log) : Prop :=
  ∃ done live, accepted k log = done ++ live
    ∧ live.map Submission.addr = sar.line k
    ∧ handedOn k log = (accepted k log).flatMap (fun x => handedOf x.addr log)
    ∧ (∀ x ∈ done, x.Written log)
    ∧ ∀ x ∈ live.tail, handedOf x.addr log = []

/-- The packets of a run have different addresses, and their segments are in order. -/
structure Ordered (w : World Log) : Prop where
  nodup : ((submitted w.env).map Submission.addr).Nodup
  submitted : ∀ x ∈ submitted w.env, x.addr < w.sar.nextAddr
  cancelled : ∀ a ∈ cancelled w.env, a < w.sar.nextAddr
  inOrder : ∀ k, InOrder k w.sar w.env

/-- Leaving out items that contribute nothing. -/
theorem flatMap_filter_eq {α β : Type} {p : α → Bool} {f : α → List β} :
  ∀ {l : List α}, (∀ x ∈ l, p x = false → f x = []) → (l.filter p).flatMap f = l.flatMap f
  | [], _ => rfl
  | x :: l, h => by
      have ih := flatMap_filter_eq (l := l) fun y hy => h y (List.mem_cons_of_mem _ hy)
      cases hx : p x with
      | true => rw [List.filter_cons_of_pos hx, List.flatMap_cons, List.flatMap_cons, ih]
      | false =>
          rw [List.filter_cons_of_neg (by simp [hx]), List.flatMap_cons, ih,
            h x List.mem_cons_self hx, List.nil_append]

/-- What comes after the first item left comes after the first item. -/
theorem mem_tail_of_mem_tail_filter {α : Type} {p : α → Bool} {l : List α} {x : α}
    (h : x ∈ (l.filter p).tail) :
  x ∈ l.tail
  := by
  cases l with
  | nil => apply h
  | cons y l =>
      cases hy : p y with
      | true =>
          rw [List.filter_cons_of_pos hy] at h
          apply (List.mem_filter.mp h).1
      | false =>
          rw [List.filter_cons_of_neg (by simp [hy])] at h
          apply (List.mem_filter.mp (List.mem_of_mem_tail h)).1

section

variable {P : Call → Prop} {w w' : World Log} {k : QueueKey} {sar sar' : NciSar} {log log' : Log}

/-- A packet that is written stays so when nothing more of it is handed over. -/
theorem Submission.Written.mono {x : Submission} (h : x.Written log) (hlog : log <+: log')
    (hof : handedOf x.addr log' = handedOf x.addr log) :
  x.Written log'
  := by
  constructor
  · rw [hof]
    exact h.complete
  · obtain ⟨before, sar, hbefore, hwriting, hsame⟩ := h.reported
    exact ⟨before, sar, hbefore.trans hlog, hwriting, hsame.trans hof.symm⟩

theorem InOrder.frame (h : InOrder k sar log) (hlog : log <+: log')
    (hsubmitted : submitted log' = submitted log)
    (hcancelled : Nci.cancelled log' = Nci.cancelled log) (hhanded : handed log' = handed log)
    (hline : sar'.line k = sar.line k) :
  InOrder k sar' log'
  := by
  have hof : ∀ a, handedOf a log' = handedOf a log := by
    intro a
    rw [handedOf, hhanded, handedOf]
  obtain ⟨done, live, hacc, hlive, hon, hdone, htail⟩ := h
  use done, live
  simp only [accepted, handedOn, hsubmitted, hcancelled, hhanded, hof, hline] at hacc hon ⊢
  use hacc, hlive, hon, fun x hx => (hdone x hx).mono hlog (hof _), htail

/-- Packets with one address are one packet. -/
theorem Ordered.eq_of_addr (h : Ordered w) {x y : Submission} (hx : x ∈ Nci.submitted w.env)
    (hy : y ∈ Nci.submitted w.env) (hxy : x.addr = y.addr) :
  x = y
  := List.inj_on_of_nodup_map h.nodup hx hy hxy

/-- A packet in a line has been accepted. -/
theorem InOrder.exists_accepted (h : InOrder k sar log) {a : Nat} (ha : a ∈ sar.line k) :
  ∃ x ∈ accepted k log, x.addr = a
  := by
  obtain ⟨done, live, hacc, hlive, -⟩ := h
  rw [← hlive] at ha
  obtain ⟨x, hx, rfl⟩ := List.mem_map.mp ha
  use x
  rw [hacc]
  use List.mem_append_right _ hx

theorem mem_accepted {x : Submission} :
  x ∈ accepted k log ↔ x ∈ submitted log ∧ x.key = k ∧ x.addr ∉ cancelled log
  := by simp [accepted]

/-- A packet that is accepted comes last. -/
theorem InOrder.accept (h : InOrder k sar log) {y : Submission} (hlog : log <+: log')
    (hsubmitted : submitted log' = submitted log ++ [y])
    (hcancelled : cancelled log' = cancelled log) (hhanded : handed log' = handed log)
    (hnot : y.addr ∉ cancelled log) (hnew : handedOf y.addr log = [])
    (hline : sar'.line k = if k = y.key then sar.line k ++ [y.addr] else sar.line k) :
  InOrder k sar' log'
  := by
  have hof : ∀ a, handedOf a log' = handedOf a log := by
    intro a
    rw [handedOf, hhanded, handedOf]
  have hacc' : accepted k log' = if k = y.key then accepted k log ++ [y] else accepted k log := by
    rw [accepted, hsubmitted, hcancelled, List.filter_append, accepted]
    by_cases hk : k = y.key
    · simp [hk, hnot]
    · simp [hk, Ne.symm hk]
  obtain ⟨done, live, hacc, hlive, hon, hdone, htail⟩ := h
  by_cases hk : k = y.key
  · rw [if_pos hk] at hacc' hline
    use done, live ++ [y]
    simp only [hof, hacc']
    constructor
    · rw [hacc, List.append_assoc]
    constructor
    · rw [List.map_append, hlive, hline, List.map_singleton]
    constructor
    · rw [handedOn, hhanded, List.flatMap_append, ← hon, handedOn]
      simp [hnew]
    · use fun x hx => (hdone x hx).mono hlog (hof _)
      cases live with
      | nil => simp
      | cons x live =>
          intro z hz
          rcases List.mem_append.mp hz with hz | hz
          · apply htail z hz
          · rw [List.mem_singleton.mp hz, hnew]
  · rw [if_neg hk] at hacc' hline
    use done, live
    simp only [handedOn, hhanded, hof, hacc', hline] at hon ⊢
    use hacc, hlive, hon, fun x hx => (hdone x hx).mono hlog (hof _), htail

/-- A packet that is cancelled before any segment of it has been handed over leaves no
trace. -/
theorem InOrder.cancel (h : InOrder k sar log) {a : Nat} {kc : QueueKey} (hlog : log <+: log')
    (hsubmitted : submitted log' = submitted log)
    (hcancelled : cancelled log' = cancelled log ++ [a]) (hhanded : handed log' = handed log)
    (hnone : handedOf a log = []) (hkey : ∀ x ∈ accepted k log, x.addr = a → k = kc)
    (hnodup : (sar.line k).Nodup)
    (hline : sar'.line k = if k = kc then (sar.line k).erase a else sar.line k) :
  InOrder k sar' log'
  := by
  have hof : ∀ a, handedOf a log' = handedOf a log := by
    intro a
    rw [handedOf, hhanded, handedOf]
  have hacc' : accepted k log' = (accepted k log).filter fun x => x.addr ≠ a := by
    rw [accepted, hsubmitted, hcancelled, accepted, List.filter_filter]
    apply List.filter_congr
    intro x _
    simp only [List.mem_append, List.mem_singleton, not_or, ← Bool.decide_and]
    congr 1
    apply propext
    tauto
  obtain ⟨done, live, hacc, hlive, hon, hdone, htail⟩ := h
  have hdone' : done.filter (fun x => decide (x.addr ≠ a)) = done := by
    apply List.filter_eq_self.mpr
    intro x hx
    apply decide_eq_true
    rintro rfl
    obtain ⟨ps, hcut, -, hps⟩ := (hdone x hx).complete
    rw [hnone] at hps
    obtain rfl := List.map_eq_nil_iff.mp hps.symm
    cases hcut
  use done, live.filter fun x => x.addr ≠ a
  simp only [hof]
  constructor
  · rw [hacc', hacc, List.filter_append, hdone']
  constructor
  · have hmap : (live.filter fun x => x.addr ≠ a).map Submission.addr
        = (sar.line k).filter fun b => b ≠ a := by
      rw [← hlive, List.filter_map]
      rfl
    rw [hmap, hline]
    by_cases hk : k = kc
    · rw [if_pos hk, hnodup.erase_eq_filter]
      apply List.filter_congr
      intro b _
      rw [decide_not, bne, beq_eq_decide]
    · rw [if_neg hk, List.filter_eq_self]
      intro b hb
      apply decide_eq_true
      rintro rfl
      rw [← hlive] at hb
      obtain ⟨x, hx, rfl⟩ := List.mem_map.mp hb
      apply hk (hkey x _ rfl)
      rw [hacc]
      apply List.mem_append_right _ hx
  constructor
  · rw [handedOn, hhanded, ← handedOn, hon, hacc', flatMap_filter_eq]
    intro x _ hx
    obtain rfl : x.addr = a := by simpa using hx
    apply hnone
  · use fun x hx => (hdone x hx).mono hlog (hof _)
    intro x hx
    apply htail x (mem_tail_of_mem_tail_filter hx)

/-- A segment of the first packet of a line is handed over. -/
theorem InOrder.hand (h : InOrder k sar log) {a : Nat} {k₀ : QueueKey} {segment : Segment}
    (hlog : log <+: log') (hsubmitted : submitted log' = submitted log)
    (hcancelled : cancelled log' = cancelled log)
    (hhanded : handed log' = handed log ++ [⟨k₀, a, segment⟩])
    (hkey : ∀ x ∈ accepted k log, x.addr = a → k = k₀)
    (hnodup : ((accepted k log).map Submission.addr).Nodup)
    (hhead : (sar.line k₀).head? = some a) (hline : sar'.line k = sar.line k) :
  InOrder k sar' log'
  := by
  have hof : ∀ b, handedOf b log' = handedOf b log ++ if a = b then [segment] else [] := by
    intro b
    rw [handedOf, hhanded, List.filter_append, List.map_append, handedOf]
    by_cases hb : a = b <;> simp [hb]
  have hacc' : accepted k log' = accepted k log := by
    rw [accepted, hsubmitted, hcancelled, accepted]
  obtain ⟨done, live, hacc, hlive, hon, hdone, htail⟩ := h
  rw [InOrder, hacc', hline]
  by_cases hk : k = k₀
  · subst hk
    cases live with
    | nil => simp [← hlive] at hhead
    | cons x live =>
        obtain rfl : x.addr = a := by simpa [← hlive] using hhead
        rw [hacc] at hnodup
        simp only [List.map_append, List.map_cons, List.nodup_append, List.nodup_cons] at hnodup
        obtain ⟨-, ⟨hnotLive, -⟩, hdisjoint⟩ := hnodup
        have hlive' : ∀ y ∈ live, handedOf y.addr log' = [] := by
          intro y hy
          rw [hof, htail y hy, if_neg]
          · rfl
          · intro heq
            apply hnotLive
            rw [heq]
            apply List.mem_map_of_mem hy
        have hdone' : ∀ y ∈ done, handedOf y.addr log' = handedOf y.addr log := by
          intro y hy
          rw [hof, if_neg, List.append_nil]
          intro heq
          apply hdisjoint y.addr (List.mem_map_of_mem hy) x.addr List.mem_cons_self heq.symm
        use done, x :: live, hacc, hlive
        constructor
        · have hdone₀ : done.flatMap (fun y => handedOf y.addr log')
              = done.flatMap fun y => handedOf y.addr log := List.flatMap_congr hdone'
          have hlive₀ : live.flatMap (fun y => handedOf y.addr log') = [] :=
            List.flatMap_eq_nil_iff.mpr hlive'
          have hlive₁ : live.flatMap (fun y => handedOf y.addr log) = [] :=
            List.flatMap_eq_nil_iff.mpr htail
          rw [hacc, List.flatMap_append, List.flatMap_cons, hlive₁] at hon
          rw [hacc, List.flatMap_append, List.flatMap_cons, hdone₀, hlive₀, hof, if_pos rfl,
            handedOn, hhanded, List.filter_append, List.map_append, ← handedOn, hon]
          simp
        · constructor
          · exact fun y hy => (hdone y hy).mono hlog (hdone' y hy)
          · apply hlive'
  · have hof' : ∀ y ∈ accepted k log, handedOf y.addr log' = handedOf y.addr log := by
      intro y hy
      rw [hof, if_neg, List.append_nil]
      intro heq
      apply hk (hkey y hy heq.symm)
    have hon' : handedOn k log' = handedOn k log := by
      rw [handedOn, hhanded, List.filter_append, List.map_append, handedOn]
      simp [Ne.symm hk]
    use done, live, hacc, hlive
    constructor
    · rw [hon', hon]
      symm
      apply List.flatMap_congr hof'
    · rw [hacc] at hof'
      constructor
      · exact fun y hy => (hdone y hy).mono hlog (hof' y (List.mem_append_left _ hy))
      · intro y hy
        rw [hof' y (List.mem_append_right _ (List.mem_of_mem_tail hy))]
        apply htail y hy

/-- The first packet of a line is done with. -/
theorem InOrder.finish (h : InOrder k sar log) {a : Nat} {k₀ : QueueKey} (hlog : log <+: log')
    (hsubmitted : submitted log' = submitted log) (hcancelled : cancelled log' = cancelled log)
    (hhanded : handed log' = handed log)
    (hwritten : ∀ x ∈ accepted k log, x.addr = a → x.Written log')
    (hline : sar.line k = if k = k₀ then a :: sar'.line k else sar'.line k) :
  InOrder k sar' log'
  := by
  by_cases hk : k = k₀
  · rw [if_pos hk] at hline
    have hsame : InOrder k sar log' := h.frame hlog hsubmitted hcancelled hhanded rfl
    have hacc' : accepted k log' = accepted k log := by
      rw [accepted, hsubmitted, hcancelled, accepted]
    obtain ⟨done, live, hacc, hlive, hon, hdone, htail⟩ := hsame
    rw [hline] at hlive
    cases live with
    | nil => simp at hlive
    | cons x live =>
        obtain ⟨rfl, hlive'⟩ := List.cons.inj hlive
        use done ++ [x], live
        constructor
        · rw [hacc, List.append_assoc]
          rfl
        · use hlive', hon
          constructor
          · intro y hy
            rcases List.mem_append.mp hy with hy | hy
            · apply hdone y hy
            · rw [List.mem_singleton.mp hy]
              apply hwritten x _ rfl
              rw [← hacc', hacc]
              apply List.mem_append_right _ List.mem_cons_self
          · intro y hy
            apply htail y (List.mem_of_mem_tail hy)
  · rw [if_neg hk] at hline
    apply h.frame hlog hsubmitted hcancelled hhanded hline.symm

/-! ### Steps keep the order -/

/-- No write fails, no packet is stranded, none is cut short and none is oversized. -/
def Healthy (log : Log) : Prop :=
  ∀ e ∈ log, ¬ e.Fails ∧ ¬ e.Strands ∧ ¬ e.CutsShort ∧ ¬ e.Oversized

theorem cancelled_append (log : Log) (e : Entry) :
  cancelled (log ++ [e]) = cancelled log ++ e.cancellation.toList
  := by
  rw [cancelled, List.filterMap_append]
  cases h : e.cancellation <;> simp [h, cancelled]

theorem cancelled_of_none {e : Entry} (h : e.cancellation = none) :
  cancelled (log ++ [e]) = cancelled log
  := by
  rw [cancelled_append, h]
  apply List.append_nil

/-- In a healthy run the accepted packets are not spoiled. -/
theorem not_spoils_of_mem_accepted (hh : Healthy w.env) (hl : ∀ k, LastKept k w) {x : Submission}
    (hx : x ∈ accepted k w.env) :
  ∀ e ∈ w.env, ¬ e.Spoils x
  := by
  intro e he hspoils
  obtain ⟨hfails, -⟩ := hh e he
  cases e with
  | called c sar =>
      rcases hspoils with hcancel | ⟨⟨y, hy, hkey⟩, hmem, hlast⟩
      · apply (mem_accepted.mp hx).2.2
        apply List.mem_filterMap.mpr
        use .called c sar, he
        rw [Entry.cancellation, hcancel, Option.map_some]
      · apply (hl x.key).2 _ he
        use y, hy, hkey, hlast
        apply List.ne_nil_of_mem hmem
  | completed ok sar => apply hfails hspoils.1
  | halStart ok sar =>
      apply hfails
      use hspoils.1
      rw [hspoils.2]
      rfl
  | halWrite chunks ok sar => apply hfails hspoils.1
  | _ => apply hspoils

/-- In a healthy run the accepted packets are kept. -/
theorem Tracked.kept_of_mem_accepted (ht : Tracked w) (hh : Healthy w.env) (hl : ∀ k, LastKept k w)
    {x : Submission} (hx : x ∈ accepted k w.env) :
  x.Kept w
  := by
  have hx' := (mem_accepted.mp hx).1
  apply ht.kept x hx' _ (not_spoils_of_mem_accepted hh hl hx)
  obtain ⟨e, he, hsubmission⟩ := List.mem_filterMap.mp hx'
  obtain ⟨-, -, -, hsize⟩ := hh e he
  cases e with
  | called c sar =>
      apply Nat.lt_of_not_le
      intro hle
      have hx : c.accepted sar = some x := hsubmission
      apply hsize
      rw [Entry.Oversized, hx]
      simpa using hle
  | _ => simp [Entry.submission] at hsubmission

theorem Ordered.frame (h : Ordered w) (hlog : w.env <+: w'.env)
    (hsubmitted : Nci.submitted w'.env = Nci.submitted w.env)
    (hcancelled : Nci.cancelled w'.env = Nci.cancelled w.env)
    (hhanded : handed w'.env = handed w.env) (hnext : w.sar.nextAddr ≤ w'.sar.nextAddr)
    (hline : ∀ k, w'.sar.line k = w.sar.line k) :
  Ordered w'
  := by
  constructor
  · rw [hsubmitted]
    apply h.nodup
  · intro x hx
    rw [hsubmitted] at hx
    apply Nat.lt_of_lt_of_le (h.submitted x hx) hnext
  · intro a ha
    rw [hcancelled] at ha
    apply Nat.lt_of_lt_of_le (h.cancelled a ha) hnext
  · intro k
    apply (h.inOrder k).frame hlog hsubmitted hcancelled hhanded (hline k)

/-- A change that adds no entry to the log. -/
theorem Ordered.map (h : Ordered w) {f : NciSar → NciSar}
    (hnext : w.sar.nextAddr ≤ (f w.sar).nextAddr) (hline : ∀ k, (f w.sar).line k = w.sar.line k) :
  Ordered (w.map f)
  := by
  apply h.frame
  · apply List.prefix_refl
  · rfl
  · rfl
  · rfl
  · apply hnext
  · apply hline

/-- An entry that accepts and cancels nothing and hands nothing over. -/
theorem Ordered.note (h : Ordered w) {sar : NciSar} {e : Entry} (hsubmission : e.submission = none)
    (hcancellation : e.cancellation = none) (hhanded : e.handed = none)
    (hnext : w.sar.nextAddr ≤ sar.nextAddr) (hline : ∀ k, sar.line k = w.sar.line k) :
  Ordered ⟨sar, w.env ++ [e]⟩
  := by
  apply h.frame
  · apply List.prefix_append
  · apply submitted_of_none hsubmission
  · apply cancelled_of_none hcancellation
  · apply handed_of_none hhanded
  · apply hnext
  · apply hline

/-- A packet in a line belongs to one queue only. -/
theorem Ordered.key_unique (h : Ordered w) {k k₀ : QueueKey} {a : Nat} (ha : a ∈ w.sar.line k₀)
    {x : Submission} (hx : x ∈ accepted k w.env) (hxa : x.addr = a) :
  k = k₀
  := by
  obtain ⟨y, hy, hya⟩ := (h.inOrder k₀).exists_accepted ha
  obtain ⟨hx', hkx, -⟩ := mem_accepted.mp hx
  obtain ⟨hy', hky, -⟩ := mem_accepted.mp hy
  obtain rfl := h.eq_of_addr hx' hy' (hxa.trans hya.symm)
  rw [← hkx, hky]

theorem Ordered.nodup_accepted (h : Ordered w) (k : QueueKey) :
  ((accepted k w.env).map Submission.addr).Nodup
  := h.nodup.sublist (List.filter_sublist.map _)

/-- A call keeps the order. -/
theorem Ordered.effect (h : Ordered w) (hw : w.sar.WF) (ht : Tracked w) (hl : ∀ k, LastKept k w)
    {c : Call} (hh : Healthy (w.env ++ [.called c w.sar.snapshot])) :
  Ordered ⟨c.effect w.sar, w.env ++ [.called c w.sar.snapshot]⟩
  := by
  have hsubmission : (Entry.called c w.sar.snapshot).submission = c.accepted w.sar :=
    w.sar.accepted_snapshot c
  have hcancellation : (Entry.called c w.sar.snapshot).cancellation
      = (c.cancelled w.sar).map Prod.snd := by
    rw [Entry.cancellation, w.sar.cancelled_snapshot]
  have hnext := Call.nextAddr_effect w.sar c
  rcases Call.effect_cases hw c with ⟨haccepted, hcancelled, hsame⟩
    | ⟨y, payload, complete, destroy, hy, hcancelled, haddr, -, heq⟩
    | ⟨a, haccepted, hcancelled, ha, heq⟩
    | ⟨id, kc, a, haccepted, hcancelled, -, hmem, heq, hwf, hlists⟩
  · apply h.note
    · rw [hsubmission, haccepted]
    · rw [hcancellation, hcancelled, Option.map_none]
    · rfl
    · apply hnext
    · apply hsame.line
  · obtain ⟨-, hlists, -⟩ := hw.send y.key y.b0 y.b1 payload complete destroy
    rw [← heq] at hlists
    have hsubmitted : Nci.submitted (w.env ++ [.called c w.sar.snapshot])
        = Nci.submitted w.env ++ [y] := by
      rw [submitted_append, hsubmission, hy]
      rfl
    have hcancelled' : Nci.cancelled (w.env ++ [.called c w.sar.snapshot])
        = Nci.cancelled w.env := by
      apply cancelled_of_none
      rw [hcancellation, hcancelled, Option.map_none]
    have hlt : w.sar.nextAddr < (c.effect w.sar).nextAddr := by
      have hsucc : (c.effect w.sar).nextAddr = w.sar.nextAddr + 1 :=
        congrArg Lists.nextAddr hlists
      rw [hsucc]
      apply Nat.lt_succ_self
    constructor
    · rw [hsubmitted, List.map_append, List.map_singleton, List.nodup_append]
      use h.nodup, List.nodup_singleton _
      intro b hb b' hb'
      rw [List.mem_singleton.mp hb', haddr]
      obtain ⟨x, hx, rfl⟩ := List.mem_map.mp hb
      apply Nat.ne_of_lt (h.submitted x hx)
    · intro x hx
      rw [hsubmitted] at hx
      rcases List.mem_append.mp hx with hx | hx
      · apply Nat.lt_of_lt_of_le (h.submitted x hx) hnext
      · rw [List.mem_singleton.mp hx, haddr]
        apply hlt
    · intro a ha
      rw [hcancelled'] at ha
      apply Nat.lt_of_lt_of_le (h.cancelled a ha) hnext
    · intro k
      apply (h.inOrder k).accept (List.prefix_append _ _) hsubmitted hcancelled'
        (handed_of_none rfl)
      · intro hmem
        apply Nat.ne_of_lt (h.cancelled _ hmem) haddr
      · rw [handedOf, List.filter_eq_nil_iff.mpr]
        · rfl
        · intro e he
          rw [haddr]
          simpa using Nat.ne_of_lt (ht.handed e he)
      · rw [NciSar.line, hlists, Lists.line_append hw.writing_ne_nextAddr, haddr]
        by_cases hk : k = y.key
        · rw [if_pos hk, if_pos hk, ← hk, NciSar.line, Lists.line]
          split
          · rename_i hlast
            rw [(hl _).1, List.getLast?_eq_none_iff] at hlast
            rw [NciSar.lists_queued, hlast]
            rfl
          · rfl
        · rw [if_neg hk, if_neg hk]
          rfl
  · obtain ⟨-, hlists⟩ := hw.modifyPacket a (f := fun out => { out with complete := none })
      (fun _ => rfl) (fun _ => rfl) (fun _ _ => rfl)
    rw [← heq] at hlists
    apply h.note
    · rw [hsubmission, haccepted]
    · rw [hcancellation, hcancelled, Option.map_none]
    · rfl
    · apply hnext
    · intro k
      rw [NciSar.line, hlists, Lists.line_modify]
      · rfl
      · intro _
        rfl
  · have hnotWriting : w.sar.lists.writing ≠ some a := fun ha => (hw.writing a ha).2 kc hmem
    have hmemLine : a ∈ w.sar.line kc := hw.mem_line.mpr (Or.inl hmem)
    have hsubmitted : Nci.submitted (w.env ++ [.called c w.sar.snapshot])
        = Nci.submitted w.env := by
      apply submitted_of_none
      rw [hsubmission, haccepted]
    have hcancelled' : Nci.cancelled (w.env ++ [.called c w.sar.snapshot])
        = Nci.cancelled w.env ++ [a] := by
      rw [cancelled_append, hcancellation, hcancelled]
      rfl
    have hnone : handedOf a w.env = [] := by
      obtain ⟨x, hx, rfl⟩ := (h.inOrder kc).exists_accepted hmemLine
      have hhealthy : Healthy w.env := fun e he => hh e (List.mem_append_left _ he)
      apply (ht.kept_of_mem_accepted hhealthy hl hx).handedOf_eq_nil hnotWriting hmemLine
      intro out hout
      obtain ⟨-, -, hcut, -⟩ := hh _ (List.mem_append_right _ (List.mem_singleton_self _))
      by_contra hpos
      apply hcut
      rw [Entry.CutsShort, w.sar.cancelled_snapshot, hcancelled, Option.any_some,
        w.sar.sameQueues_snapshot.packet, hout, Option.any_some]
      simpa using hpos
    constructor
    · rw [hsubmitted]
      apply h.nodup
    · intro x hx
      rw [hsubmitted] at hx
      apply Nat.lt_of_lt_of_le (h.submitted x hx) hnext
    · intro b hb
      rw [hcancelled'] at hb
      apply Nat.lt_of_lt_of_le _ hnext
      rcases List.mem_append.mp hb with hb | hb
      · apply h.cancelled b hb
      · rw [List.mem_singleton.mp hb]
        apply (hw.owned kc a hmem).1
    · intro k
      apply (h.inOrder k).cancel (List.prefix_append _ _) hsubmitted hcancelled'
        (handed_of_none rfl) hnone
      · intro x hx hxa
        apply h.key_unique hmemLine hx hxa
      · apply hw.line_nodup
      · rw [NciSar.line, heq, hlists, Lists.line_remove hnotWriting]
        split
        · rename_i hk
          rw [hk]
          rfl
        · rfl

/-- A step keeps the order. -/
theorem Step.ordered (hstep : Step P w w') (hw : w.sar.Sound) (ht : Tracked w)
    (hh : Healthy w'.env) (hl : ∀ k, LastKept k w) (h : Ordered w) :
  Ordered w'
  := by
  have hnext := hstep.nextAddr_le hw.wf
  have hlines := hw.wf.sameLines_select
  cases hstep with
  | inner hinner =>
      cases hinner with
      | @note e he =>
          apply h.note _ _ _ hnext
          · intro _
            rfl
          · cases e <;> first | rfl | exact he.elim
          · cases e <;> first | rfl | exact he.elim
          · cases e <;> first | rfl | exact he.elim
      | started ok sar =>
          apply h.note rfl rfl rfl hnext
          apply NciSar.SameQueues.line
          apply NciSar.sameQueues_of_fields <;> rfl
      | called _ => apply h.effect hw.wf ht hl hh
      | @freed a hd =>
          obtain ⟨-, hlists⟩ := hw.wf.free hd.2.1 hd.2.2
          apply h.map hnext
          intro k
          apply (congrArg (fun s : Lists => s.line k) hlists).trans
          apply Lists.line_free hd.2.2
  | received packet =>
      apply h.note rfl rfl rfl hnext
      apply (w.sar.sameQueues_receivedEffect packet).line
  | controlInput input =>
      apply h.map hnext
      apply NciSar.SameQueues.line
      apply NciSar.sameQueues_of_fields <;> rfl
  | input cid input =>
      apply h.map hnext
      apply (w.sar.sameQueues_setInput cid input).line
  | unscheduled =>
      apply h.map hnext
      apply NciSar.SameQueues.line
      apply NciSar.sameQueues_of_fields <;> rfl
  | scheduled =>
      apply h.map hnext
      apply (NciSar.sameQueues_scheduleWrite _).line
  | attempted _ _ _ =>
      apply h.map hnext
      apply hlines.line
  | @handed a out ok hp hr ha hout =>
      obtain ⟨hok, -⟩ := hh _ (List.mem_append_right _ (List.mem_singleton_self _))
      obtain rfl : ok = true := by simpa [Entry.Fails, Entry.Refusal] using hok
      have hhanded := handed_halWrite ha hout true
      obtain ⟨⟨k₀, hk₀⟩, -⟩ := hw.wf.select.2.writing a ha
      have hkey : out.key = k₀ := by
        have hkey := hk₀.key
        rw [Lists.key, NciSar.lists_packet, NciSar.packet, hout] at hkey
        apply Option.some.inj hkey
      have hhead : w.sar.line k₀ = a :: w.sar.select.queued k₀ := by
        rw [← hlines.line]
        apply NciSar.line_of_writing ha hk₀
      rw [hkey] at hhanded
      have hlog := handed_append w.env (.halWrite (out.nextSegment
        (w.sar.select.maxPayloadSize out)).2 true
          ((w.sar.select.cutSegment a out).setWritePending true).snapshot)
      rw [hhanded, Option.toList_some] at hlog
      constructor
      · rw [World.record, submitted_of_none rfl]
        apply h.nodup
      · intro x hx
        rw [World.record, submitted_of_none rfl] at hx
        apply Nat.lt_of_lt_of_le (h.submitted x hx) hnext
      · intro b hb
        rw [World.record, cancelled_of_none rfl] at hb
        apply Nat.lt_of_lt_of_le (h.cancelled b hb) hnext
      · intro k
        apply (h.inOrder k).hand (List.prefix_append _ _) (submitted_of_none rfl)
          (cancelled_of_none rfl) hlog
        · intro x hx hxa
          apply h.key_unique _ hx hxa
          rw [hhead]
          apply List.mem_cons_self
        · apply h.nodup_accepted
        · rw [hhead]
          rfl
        · have hsame : NciSar.SameQueues (w.sar.select.cutSegment a out)
              (((w.sar.select.cutSegment a out).setWritePending true).setWriting (some a)) := by
            apply NciSar.sameQueues_of_fields
            · rfl
            · rfl
            · rfl
            · rfl
            · rfl
            · apply ha.symm
          apply (hsame.line k).trans
          rw [hw.wf.select.2.line_cutSegment hout, hlines.line]
  | @notStarted a out _ _ ha _ =>
      obtain ⟨hfails, -⟩ := hh _ (List.mem_append_right _ (List.mem_singleton_self _))
      apply absurd _ hfails
      use rfl
      have hwriting : (w.sar.select.cutSegment a out).snapshot.writing = some a := ha
      rw [hwriting]
      rfl

/-- The end of a write keeps the order. -/
theorem Completed.ordered (hc : Completed w w') (hw : w.sar.Sound) (ht' : Tracked w')
    (hh : Healthy w'.env) (hl' : ∀ k, LastKept k w') (h : Ordered w) :
  Ordered w'
  := by
  have hwf' := hc.wf hw.wf
  obtain @⟨a, ok, hp, ha⟩ := hc
  obtain ⟨hfails, -⟩ := hh _ (List.mem_append_right _ (List.mem_singleton_self _))
  obtain rfl : ok = true := by simpa [Entry.Fails] using hfails
  have hqueued : ∀ k, (w.sar.completedEffect true a).queued k = w.sar.queued k := by
    intro k
    cases k <;> rfl
  cases hdone : w.sar.isDoneAt a with
  | false =>
      have hline : ∀ k, (w.sar.completedEffect true a).line k = w.sar.line k := by
        apply NciSar.SameQueues.line
        apply NciSar.sameQueues_of_fields
        · rfl
        · rfl
        · rfl
        · rfl
        · rfl
        · simp [NciSar.completedEffect, NciSar.setWriting, hdone, ha]
      exact h.note rfl rfl rfl (Nat.le_refl _) hline
  | true =>
      have hnone : (w.sar.completedEffect true a).writing = none := by
        simp [NciSar.completedEffect, NciSar.setWriting, hdone]
      obtain ⟨⟨k₀, hk₀⟩, hnot⟩ := hw.wf.writing a ha
      have hhead := NciSar.line_of_writing ha hk₀
      have hof : ∀ b, handedOf b (w.env ++ [.completed true w.sar.snapshot])
          = handedOf b w.env := fun b => handedOf_of_none rfl
      constructor
      · rw [World.map, World.record, submitted_of_none rfl]
        apply h.nodup
      · intro x hx
        rw [World.map, World.record, submitted_of_none rfl] at hx
        apply h.submitted x hx
      · intro b hb
        rw [World.map, World.record, cancelled_of_none rfl] at hb
        apply h.cancelled b hb
      · intro k
        apply (h.inOrder k).finish (List.prefix_append _ _) (submitted_of_none rfl)
          (cancelled_of_none rfl) (handed_of_none rfl)
        · intro x hx hxa
          have hx' : x ∈ accepted k (w.env ++ [.completed true w.sar.snapshot]) := by
            rw [accepted, submitted_of_none rfl, cancelled_of_none rfl]
            apply hx
          obtain ⟨-, ps, hps, hpos, hphase⟩ := ht'.kept_of_mem_accepted hh hl' hx'
          have hout : ∀ k, x.addr ∉ (w.sar.completedEffect true a).line k := by
            intro k
            rw [NciSar.line_of_none hnone, hqueued, hxa]
            apply hnot k
          simp only [World.map, World.record, hof] at hps
          cases hphase with
          | underway hmem _ _ _ => apply absurd hmem (hout _)
          | ending _ hmem _ _ => apply absurd hmem (hout _)
          | finished _ hcut =>
              constructor
              · rw [hof]
                use ps, hcut, hpos, hps
              · refine ⟨w.env, w.sar.snapshot, List.prefix_refl _, ?_, (hof _).symm⟩
                rw [hxa]
                exact ha
        · simp only [World.map, World.record, NciSar.line_of_none hnone, hqueued]
          by_cases hk : k = k₀
          · rw [if_pos hk, hk, hhead]
          · rw [if_neg hk, NciSar.line, Lists.line, Lists.held_of_key ha hk₀.key, if_neg hk]
            rfl

/-! ### Runs -/

/-- The segments handed over for a queue begin the segmentations of its accepted packets, one
after another. -/
def Prefixed (k : QueueKey) (log : Log) : Prop :=
  ∃ segss, List.Forall₂ Submission.IsSegmentation (accepted k log) segss
    ∧ handedOn k log <+: segss.flatten

theorem InOrder.prefixed (h : InOrder k sar log)
    (hx : ∀ x ∈ accepted k log, ∃ segs, x.IsSegmentation segs ∧ handedOf x.addr log <+: segs) :
  Prefixed k log
  := by
  obtain ⟨done, live, hacc, -, hon, hdone, htail⟩ := h
  rw [hacc] at hx
  choose! f hf using hx
  use done.map (fun x => handedOf x.addr log) ++ live.map f
  rw [hon, hacc]
  constructor
  · apply List.rel_append
    · rw [List.forall₂_map_right_iff, List.forall₂_same]
      exact fun x hx => (hdone x hx).complete
    · rw [List.forall₂_map_right_iff, List.forall₂_same]
      intro x hx
      apply (hf x (List.mem_append_right _ hx)).1
  · rw [List.flatten_append, List.flatMap_append, List.flatMap_def]
    apply (List.prefix_append_right_inj _).mpr
    cases live with
    | nil => apply List.prefix_refl
    | cons x live =>
        have hnil : live.flatMap (fun x => handedOf x.addr log) = [] :=
          List.flatMap_eq_nil_iff.mpr htail
        rw [List.flatMap_cons, hnil, List.append_nil, List.map_cons, List.flatten_cons]
        apply (hf x (List.mem_append_right _ List.mem_cons_self)).2.trans
        apply List.prefix_append

/-- The packets are sent in order at the moment: what has been handed over of every queue
begins the segmentations of its packets, every accepted packet is written, as the HAL has reported,
or in the line of its queue, and every queue has its last pointer. -/
structure Fifo (w : World Log) : Prop where
  prefixed : ∀ k, Prefixed k w.env
  owned : ∀ k, ∀ x ∈ accepted k w.env,
    x.Written w.env ∨ x.addr ∈ w.sar.line k
  last : ∀ k, w.sar.Listed k

theorem Ordered.toFifo (h : Ordered w) (ht : Tracked w) (hh : Healthy w.env)
    (hl : ∀ k, LastKept k w) :
  Fifo w
  := by
  constructor
  · intro k
    apply (h.inOrder k).prefixed
    intro x hx
    apply (ht.kept_of_mem_accepted hh hl hx).exists_isSegmentation
  · intro k x hx
    obtain ⟨done, live, hacc, hlive, -, hdone, -⟩ := h.inOrder k
    rw [hacc] at hx
    rcases List.mem_append.mp hx with hx | hx
    · left
      apply hdone x hx
    · right
      rw [← hlive]
      apply List.mem_map_of_mem hx
  · intro k
    apply (hl k).1

/-- What a healthy run keeps: at every moment so far, the segments were in order. -/
def Sequenced (w : World Log) : Prop :=
  Tracked w ∧ (Healthy w.env → (∀ k, LastKept k w) ∧ Ordered w
    ∧ ∀ log, log <+: w.env → ∀ k, Prefixed k log)

theorem Healthy.of_prefix (h : Healthy log') (hlog : log <+: log') :
  Healthy log
  := fun e he => h e (hlog.subset he)

theorem Sequenced.next (h : Sequenced w) (ht : Tracked w') {e : Entry}
    (henv : w'.env = w.env ∨ w'.env = w.env ++ [e])
    (hnext : Healthy w'.env → (∀ k, LastKept k w) → Ordered w →
      (∀ k, LastKept k w') ∧ Ordered w') :
  Sequenced w'
  := by
  use ht
  intro hh
  have hprefix : w.env <+: w'.env := by
    rcases henv with henv | henv
    · simp [henv]
    · simp [henv]
  obtain ⟨hl, ho, hmoments⟩ := h.2 (hh.of_prefix hprefix)
  obtain ⟨hl', ho'⟩ := hnext hh hl ho
  use hl', ho'
  intro log hlog k
  have hlast : log = w'.env ∨ log <+: w.env := by
    rcases henv with henv | henv
    · right
      rw [← henv]
      apply hlog
    · rw [henv] at hlog ⊢
      apply List.prefix_concat_iff.mp hlog
  rcases hlast with rfl | hlog
  · apply (ho'.toFifo ht hh hl').prefixed k
  · apply hmoments log hlog k

end

/-- A step adds at most one entry to the log. -/
theorem Step.env_cases {P : Call → Prop} {w w' : World Log} (h : Step P w w') :
  ∃ e, w'.env = w.env ∨ w'.env = w.env ++ [e]
  := by
  cases h with
  | inner h =>
      cases h with
      | note _ => exact ⟨_, Or.inr rfl⟩
      | started _ _ => exact ⟨_, Or.inr rfl⟩
      | called _ => exact ⟨_, Or.inr rfl⟩
      | freed _ => exact ⟨.idle, Or.inl rfl⟩
  | received _ => exact ⟨_, Or.inr rfl⟩
  | handed _ _ _ _ _ => exact ⟨_, Or.inr rfl⟩
  | notStarted _ _ _ _ => exact ⟨_, Or.inr rfl⟩
  | _ => exact ⟨.idle, Or.inl rfl⟩

/-- In every run that starts from a new or a reset layer, in which no write fails, no packet
is stranded, none is cancelled in the middle and none has 2³² bytes or more, packets are sent
in the order of their acceptance, and none is lost: at every moment of the run the segments
handed over for a queue begin the segmentations of its accepted packets, and after the run
every packet that is not written is in the line of its queue. -/
theorem fifo (A : App Call.Steady) (n : Nat) {sar : NciSar} (hsar : sar.Quiet)
    (events : List (Event Call.Steady))
    (hsucceeds : ∀ e ∈ (A.run n (World.start sar) events).env, ¬ e.Fails)
    (hsafe : ∀ e ∈ (A.run n (World.start sar) events).env,
      ¬ e.Strands ∧ ¬ e.CutsShort ∧ ¬ e.Oversized) :
  Fifo (A.run n (World.start sar) events)
    ∧ ∀ log, log <+: (A.run n (World.start sar) events).env → ∀ k, Prefixed k log
  := by
  have hrun : Sequenced (A.run n (World.start sar) events) := by
    apply A.run_induction (fun _ h => h) (I := Sequenced) _ _ n events hsar.sound hsar.rest
    · constructor
      · constructor
        · simp [World.start, submitted]
        · simp [World.start, handed]
      · intro _
        have hqueued := hsar.wf.2
        have hinOrder : ∀ k, InOrder k sar [] := by
          intro k
          use [], []
          simp [accepted, submitted, handedOn, handed, NciSar.line_of_none hsar.writing, hqueued]
        use hsar.lastKept
        constructor
        · constructor
          · simp [World.start, submitted]
          · simp [World.start, submitted]
          · simp [World.start, cancelled]
          · apply hinOrder
        · intro log hlog k
          obtain rfl := List.prefix_nil.mp hlog
          apply (hinOrder k).prefixed
          simp [accepted, submitted]
    · intro w w' hstep hw h
      obtain ⟨e, henv⟩ := hstep.env_cases
      apply h.next (hstep.tracked hw h.1) henv
      intro hh hl ho
      have hprefix : w.env <+: w'.env := by
        obtain ⟨l, hl⟩ := hstep.env
        rw [hl]
        apply List.prefix_append
      have hl' : ∀ k, LastKept k w' := fun k =>
        hstep.lastKept hw (fun _ e he => (hh.of_prefix hprefix e he).2.1) (hl k)
      exact ⟨hl', hstep.ordered hw h.1 hh hl ho⟩
    · intro w w' hc hw h
      have ht' := hc.tracked hw h.1
      obtain ⟨e, henv⟩ : ∃ e, w'.env = w.env ++ [e] := by
        obtain ⟨ok, -, -⟩ := hc
        exact ⟨_, rfl⟩
      apply h.next ht' (Or.inr henv)
      intro hh hl ho
      have hl' : ∀ k, LastKept k w' := fun k => hc.lastKept (hl k)
      exact ⟨hl', hc.ordered hw ht' hh hl' ho⟩
  have hhealthy : Healthy (A.run n (World.start sar) events).env := by
    intro e he
    use hsucceeds e he
    apply hsafe e he
  obtain ⟨hl, ho, hmoments⟩ := hrun.2 hhealthy
  exact ⟨ho.toFifo hrun.1 hhealthy hl, hmoments⟩

/-! ### A packet that is lost -/

theorem not_isSegmentation_of_more {x : Submission} {limit : Nat} {bytes : List UInt8}
    (h : bytes.head? ≠ some x.b0) :
  ¬ x.IsSegmentation [⟨limit, bytes⟩]
  := by
  rintro ⟨ps, hcut, -, hps⟩
  cases hcut with
  | last _ =>
      have hbytes := (Segment.mk.inj (List.cons.inj hps).1).2
      apply h
      rw [hbytes]
      rfl
  | more _ hcut =>
      have hnil := List.map_eq_nil_iff.mp (List.cons.inj hps).2.symm
      rw [hnil] at hcut
      cases hcut

/-- A packet of two bytes is put back to its empty queue after its first byte, for lack of
credits. Then another packet is sent, and credits are granted. -/
def lostWorld : World Log :=
  (quietApp Call.Steady).run 0 (World.start nciSarNew)
    [.call ⟨.setInitialCredits 0 1, trivial⟩,
      .call ⟨.sendDataPacket 0 (some [1, 2]) none none, trivial⟩, .idle,
      .writeCompleted true, .call ⟨.sendDataPacket 0 (some [3]) none none, trivial⟩,
      .call ⟨.addCredits 0 5, trivial⟩, .idle, .writeCompleted true]

/-- The first packet is in no line any more, and never gets complete. -/
theorem fifo_lostWorld :
  (∀ e ∈ lostWorld.env, ¬ e.Fails)
    ∧ handedOn (.out 0) lostWorld.env = [⟨1, [0x10, 0, 1, 1]⟩, ⟨1, [0, 0, 1, 3]⟩]
    ∧ ¬ Fifo lostWorld
  := by
  use by decide, by decide
  intro h
  have hx : (⟨.out 0, 0, 0, 0, [1, 2]⟩ : Submission) ∈ accepted (.out 0) lostWorld.env := by
    decide
  rcases h.owned (.out 0) _ hx with ⟨hx, -⟩ | hx
  · have hof : handedOf 0 lostWorld.env = [⟨1, [0x10, 0, 1, 1]⟩] := by decide
    rw [hof] at hx
    apply not_isSegmentation_of_more _ hx
    decide
  · revert hx
    decide

/-- A packet that is put back to a queue with another packet in it is not lost: it goes on when
there are credits, and the other packet follows. -/
theorem fifo_putBack :
  ∃ w : World Log, w = (quietApp Call.Steady).run 0 (World.start nciSarNew)
      [.call ⟨.setInitialCredits 0 1, trivial⟩,
        .call ⟨.sendDataPacket 0 (some [1, 2]) none none, trivial⟩,
        .call ⟨.sendDataPacket 0 (some [3]) none none, trivial⟩, .idle,
        .writeCompleted true, .call ⟨.addCredits 0 5, trivial⟩, .idle, .writeCompleted true,
        .writeCompleted true]
    ∧ handedOn (.out 0) w.env
      = [⟨1, [0x10, 0, 1, 1]⟩, ⟨1, [0, 0, 1, 2]⟩, ⟨1, [0, 0, 1, 3]⟩]
    ∧ Fifo w
  := by
  exact ⟨_, rfl, by decide,
    (fifo (quietApp Call.Steady) 0 quiet_nciSarNew _ (by decide) (by decide)).1⟩

end Nci
