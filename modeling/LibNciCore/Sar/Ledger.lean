import LibNciCore.Lib.Counting
import LibNciCore.Lib.History
import LibNciCore.Sar.Packets
import Mathlib.Algebra.GroupWithZero.Nat

/-!
# Accounts of the packets

A packet comes with a completion function and a destroy function. What a run has recorded is an
account of them: a completion function has been called, or its packet has been cancelled or swept
away by a reset, or it has still to be called. A destroy function has been called, or its packet is
still there. Nothing is called twice, and nothing is forgotten.
-/

namespace Nci

open History

/-! ### What a log tells -/

/-- A packet that is accepted: where it is, and the functions it comes with. -/
structure Acceptance where
  addr : Nat
  complete : Option Nat
  destroy : Option Nat
  deriving DecidableEq, Repr

/-- The packet that a call queues. -/
def Entry.acceptance : Entry → Option Acceptance
  | .called (.sendCommand _ _ _ f g) sar => some ⟨sar.nextAddr, f, g⟩
  | .called (.sendDataPacket cid _ f g) sar =>
      if cid < sar.maxLogicalConns then some ⟨sar.nextAddr, f, g⟩ else none
  | _ => none

/-- The packets that have been accepted. -/
def acceptances (log : Log) : List Acceptance := log.filterMap Entry.acceptance

/-- The functions that a packet comes with. -/
structure Functions where
  complete : Option Nat
  destroy : Option Nat
  deriving DecidableEq, Repr

/-- The packets that are there, with their functions. -/
abbrev Book := Nat → Option Functions

namespace Book

/-- The completion function of the packet at an address. -/
def completion (b : Book) (a : Nat) : Option Nat := (b a).bind Functions.complete

/-- The destroy function of the packet at an address. -/
def destruction (b : Book) (a : Nat) : Option Nat := (b a).bind Functions.destroy

/-- The completion function of a packet is forgotten. -/
def mute (b : Book) (a : Nat) : Book :=
  Function.update b a ((b a).map fun x => { x with complete := none })

end Book

namespace NciSar

/-- The packets that are allocated. -/
def book (sar : NciSar) : Book := fun a =>
  (sar.heap a).map fun out => ⟨out.complete, out.destroy⟩

/-- The packet that a cancellation is about. -/
def cancelsAt (sar : NciSar) (id : UInt32) : List Nat :=
  if id ≠ 0 ∧ sar.isWriting id = true then sar.writing.toList
  else (sar.cancelTarget id).toList.map Prod.snd

end NciSar

/-- The packets whose completion functions a call makes the layer forget: the one that is
cancelled, and those that are queued where queues are cleared. -/
def Call.forgets (sar : NciSar) : Call → List Nat
  | .cancel id => sar.cancelsAt id
  | .reset => sar.keys.flatMap sar.queued
  | .setMaxLogicalConnections max =>
      (sar.cids.drop (newMaxLogicalConns max).toNat).flatMap fun cid => sar.queued (.out cid)
  | _ => []

/-- The number of packets with a completion function that a call makes the layer forget. -/
def Entry.forgotten (f : Nat) : Entry → Nat
  | .called c sar =>
      Nat.count (fun a => sar.book.completion a = some f ∧ a ∈ c.forgets sar) sar.nextAddr
  | _ => 0

/-- The packets with a completion function that have been accepted. -/
def Log.accepted (f : Nat) (log : Log) : Nat :=
  (acceptances log).countP fun p => p.complete = some f

/-- The packets with a destroy function that have been accepted. -/
def Log.acceptedWith (g : Nat) (log : Log) : Nat :=
  (acceptances log).countP fun p => p.destroy = some g

/-- The calls of a completion function. -/
def Log.completed (f : Nat) (log : Log) : Nat :=
  log.countP fun e => match e with
    | .complete f' _ => f' == f
    | _ => false

/-- The calls of a destroy function. -/
def Log.destroyed (g : Nat) (log : Log) : Nat :=
  log.countP fun e => match e with
    | .destroy g' => g' == g
    | _ => false

/-- The packets with a completion function that have been cancelled or swept away. -/
def Log.forgotten (f : Nat) (log : Log) : Nat := (log.map (Entry.forgotten f)).sum

/-- The packets whose completion function has still to be called. -/
def NciSar.waiting (sar : NciSar) (f : Nat) : Nat :=
  Nat.count (fun a => sar.book.completion a = some f) sar.nextAddr

/-- The packets whose destroy function has still to be called. -/
def NciSar.held (sar : NciSar) (g : Nat) : Nat :=
  Nat.count (fun a => sar.book.destruction a = some g) sar.nextAddr

/-- A function of a packet is called when it is its turn. A completion function is called for a
packet that has not been cancelled and not been freed, and with success only if the HAL has
reported that the last segment is written. A destroy function is called for a packet that has been
completed, or cancelled, or swept away. -/
def Entry.Due (log : Log) : Entry → Prop
  | .complete f ok =>
      Log.completed f log + Log.forgotten f log < Log.accepted f log
        ∧ ∃ p ∈ acceptances log, p.complete = some f
          ∧ (∀ g, p.destroy = some g → Log.destroyed g log < Log.acceptedWith g log)
          ∧ (ok = true → ∃ sar, Entry.completed true sar ∈ log ∧ sar.writing = some p.addr
            ∧ sar.isDoneAt p.addr = true)
  | .destroy g =>
      Log.destroyed g log < Log.acceptedWith g log
        ∧ ∃ p ∈ acceptances log, p.destroy = some g
          ∧ ∀ f, p.complete = some f → 0 < Log.completed f log + Log.forgotten f log
  | _ => True

/-- An entry that neither queues a packet, nor forgets one, nor calls a function of one. -/
def Entry.Aside : Entry → Prop
  | .called c sar => (Entry.called c sar).acceptance = none ∧ c.forgets sar = []
  | .complete _ _ | .destroy _ => False
  | _ => True

/-! ### One more entry -/

section

variable {log : Log} {e : Entry} (f g : Nat)

theorem acceptances_concat (log : Log) (e : Entry) :
  acceptances (log ++ [e]) = acceptances log ++ e.acceptance.toList
  := by
  rw [acceptances, acceptances, List.filterMap_append]
  cases h : e.acceptance <;> simp [h]

theorem acceptances_concat_of_none (h : e.acceptance = none) :
  acceptances (log ++ [e]) = acceptances log
  := by rw [acceptances_concat, h, Option.toList_none, List.append_nil]

theorem accepted_concat_of_none (h : e.acceptance = none) :
  Log.accepted f (log ++ [e]) = Log.accepted f log
  := by rw [Log.accepted, acceptances_concat_of_none h, Log.accepted]

theorem acceptedWith_concat_of_none (h : e.acceptance = none) :
  Log.acceptedWith g (log ++ [e]) = Log.acceptedWith g log
  := by rw [Log.acceptedWith, acceptances_concat_of_none h, Log.acceptedWith]

theorem forgotten_concat (log : Log) (e : Entry) :
  Log.forgotten f (log ++ [e]) = Log.forgotten f log + e.forgotten f
  := by simp [Log.forgotten]

theorem Entry.Aside.acceptance (h : e.Aside) :
  e.acceptance = none
  := by
  cases e with
  | called c sar => exact h.1
  | _ => rfl

theorem Entry.Aside.forgotten (h : e.Aside) :
  e.forgotten f = 0
  := by
  cases e with
  | called c sar =>
      rw [Entry.forgotten, h.2, Nat.count_of_forall_not]
      intro a _ hmem
      cases hmem.2
  | _ => rfl

theorem completed_concat_of_ne (h : ∀ ok, e ≠ .complete f ok) :
  Log.completed f (log ++ [e]) = Log.completed f log
  := by
  rw [Log.completed, List.countP_append, ← Log.completed]
  cases e with
  | complete f' ok =>
      have hne : f' ≠ f := by
        rintro rfl
        exact h ok rfl
      simp [hne]
  | _ => rfl

theorem completed_concat (ok : Bool) :
  Log.completed f (log ++ [.complete f ok]) = Log.completed f log + 1
  := by simp [Log.completed]

theorem destroyed_concat_of_ne (h : e ≠ .destroy g) :
  Log.destroyed g (log ++ [e]) = Log.destroyed g log
  := by
  rw [Log.destroyed, List.countP_append, ← Log.destroyed]
  cases e with
  | destroy g' =>
      have hne : g' ≠ g := by
        rintro rfl
        exact h rfl
      simp [hne]
  | _ => rfl

theorem destroyed_concat :
  Log.destroyed g (log ++ [.destroy g]) = Log.destroyed g log + 1
  := by simp [Log.destroyed]

theorem Entry.Aside.completed (h : e.Aside) :
  Log.completed f (log ++ [e]) = Log.completed f log
  := by
  apply completed_concat_of_ne
  rintro ok rfl
  exact h

theorem Entry.Aside.destroyed (h : e.Aside) :
  Log.destroyed g (log ++ [e]) = Log.destroyed g log
  := by
  apply destroyed_concat_of_ne
  rintro rfl
  exact h

theorem Entry.Aside.due (h : e.Aside) :
  e.Due log
  := by
  cases e with
  | complete f ok => exact h.elim
  | destroy g => exact h.elim
  | _ => trivial

/-- What has been called or forgotten stays so. -/
theorem settled_concat (log : Log) (e : Entry)
    (h : 0 < Log.completed f log + Log.forgotten f log) :
  0 < Log.completed f (log ++ [e]) + Log.forgotten f (log ++ [e])
  := by
  have hle : Log.completed f log ≤ Log.completed f (log ++ [e]) := by
    rw [Log.completed, Log.completed, List.countP_append]
    apply Nat.le_add_right
  rw [forgotten_concat]
  omega

end

/-! ### Accounts -/

/-- The account of what a log tells of the packets, where the completion functions of some packets
are not called any more. -/
structure Ledger (n : Nat) (b : Book) (log : Log) (gone : List Nat) : Prop where
  fresh : ∀ a, n ≤ a → b a = none
  below : ∀ a ∈ gone, a < n
  listed : ∀ a x, b a = some x → ∃ p ∈ acceptances log, p.addr = a ∧ p.destroy = x.destroy
    ∧ (x.complete = none ∨ x.complete = p.complete)
  completions : ∀ f, Log.accepted f log = Log.completed f log + Log.forgotten f log
    + Nat.count (fun a => b.completion a = some f ∧ a ∉ gone) n
  destructions : ∀ g, Log.acceptedWith g log = Log.destroyed g log
    + Nat.count (fun a => b.destruction a = some g) n
  settled : ∀ p ∈ acceptances log, ∀ f, p.complete = some f →
    0 < Log.completed f log + Log.forgotten f log ∨ b.completion p.addr = some f ∧ p.addr ∉ gone
  due : Throughout Entry.Due log

namespace Ledger

variable {n a : Nat} {b : Book} {log : Log} {gone gone' l : List Nat} {e : Entry}

theorem lt (h : Ledger n b log gone) {x : Functions} (ha : b a = some x) :
  a < n
  := by
  by_contra hle
  have hnone := h.fresh a (Nat.not_lt.mp hle)
  rw [hnone] at ha
  cases ha

/-- An entry that is not about packets. -/
theorem aside (h : Ledger n b log gone) (he : e.Aside) :
  Ledger n b (log ++ [e]) gone
  := by
  have hacc : acceptances (log ++ [e]) = acceptances log := acceptances_concat_of_none he.acceptance
  constructor
  · exact h.fresh
  · exact h.below
  · rw [hacc]
    exact h.listed
  · intro f
    rw [accepted_concat_of_none f he.acceptance, he.completed, forgotten_concat, he.forgotten]
    exact h.completions f
  · intro g
    rw [acceptedWith_concat_of_none g he.acceptance, he.destroyed]
    exact h.destructions g
  · intro p hp f hf
    rw [hacc] at hp
    rw [he.completed, forgotten_concat, he.forgotten]
    exact h.settled p hp f hf
  · exact throughout_concat.mpr ⟨h.due, he.due⟩

/-- A packet is accepted. -/
theorem accept (h : Ledger n b log gone) {x : Functions}
    (he : e.acceptance = some ⟨n, x.complete, x.destroy⟩) (hforgotten : ∀ f, e.forgotten f = 0)
    (hcompleted : ∀ f ok, e ≠ .complete f ok) (hdestroyed : ∀ g, e ≠ .destroy g)
    (hdue : e.Due log) :
  Ledger (n + 1) (Function.update b n (some x)) (log ++ [e]) gone
  := by
  have hacc : acceptances (log ++ [e]) = acceptances log ++ [⟨n, x.complete, x.destroy⟩] := by
    rw [acceptances_concat, he, Option.toList_some]
  have hne : ∀ k < n, Function.update b n (some x) k = b k := fun k hk =>
    Function.update_of_ne (Nat.ne_of_lt hk) _ _
  have hself : Function.update b n (some x) n = some x := Function.update_self _ _ _
  have hgone : n ∉ gone := fun hn => Nat.lt_irrefl n (h.below n hn)
  constructor
  · intro a ha
    rw [Function.update_of_ne (Nat.ne_of_gt ha)]
    exact h.fresh a (Nat.le_of_succ_le ha)
  · exact fun a ha => Nat.lt_succ_of_lt (h.below a ha)
  · intro a y ha
    rw [hacc]
    by_cases han : a = n
    · rw [han, hself] at ha
      obtain rfl := Option.some.inj ha
      exact ⟨_, List.mem_append_right _ (List.mem_singleton_self _), han.symm, rfl, Or.inr rfl⟩
    · rw [Function.update_of_ne han] at ha
      obtain ⟨p, hp, hrest⟩ := h.listed a y ha
      exact ⟨p, List.mem_append_left _ hp, hrest⟩
  · intro f
    have hcount : Nat.count (fun a => Book.completion (Function.update b n (some x)) a = some f
        ∧ a ∉ gone) n = Nat.count (fun a => b.completion a = some f ∧ a ∉ gone) n := by
      apply Counting.count_congr
      intro k hk
      rw [Book.completion, hne k hk, Book.completion]
    have hold := h.completions f
    rw [completed_concat_of_ne f (hcompleted f), forgotten_concat, hforgotten, Nat.count_succ,
      hcount, Log.accepted, hacc, List.countP_append, ← Log.accepted, hold, Book.completion, hself]
    simp [hgone]
    omega
  · intro g
    have hcount : Nat.count (fun a => Book.destruction (Function.update b n (some x)) a = some g) n
        = Nat.count (fun a => b.destruction a = some g) n := by
      apply Counting.count_congr
      intro k hk
      rw [Book.destruction, hne k hk, Book.destruction]
    have hold := h.destructions g
    rw [destroyed_concat_of_ne g (hdestroyed g), Nat.count_succ, hcount, Log.acceptedWith, hacc,
      List.countP_append, ← Log.acceptedWith, hold, Book.destruction, hself]
    simp
    omega
  · intro p hp f hf
    rw [hacc] at hp
    rcases List.mem_append.mp hp with hp | hp
    · rcases h.settled p hp f hf with hsettled | ⟨hcompletion, hp'⟩
      · exact Or.inl (settled_concat f log e hsettled)
      · right
        have hlt : p.addr < n := by
          by_contra hle
          rw [Book.completion, h.fresh _ (Nat.not_lt.mp hle)] at hcompletion
          cases hcompletion
        rw [Book.completion, hne _ hlt]
        exact ⟨hcompletion, hp'⟩
    · obtain rfl := List.mem_singleton.mp hp
      right
      rw [Book.completion, hself]
      exact ⟨hf, hgone⟩
  · exact throughout_concat.mpr ⟨h.due, hdue⟩

/-- A completion function is called. -/
theorem report (h : Ledger n b log gone) {f : Nat} {ok : Bool} (ha : b.completion a = some f)
    (hgone : a ∉ gone)
    (hok : ok = true → ∃ sar, Entry.completed true sar ∈ log ∧ sar.writing = some a
      ∧ sar.isDoneAt a = true) :
  Ledger n b (log ++ [.complete f ok]) (a :: gone)
  := by
  obtain ⟨x, hx, hf⟩ := Option.bind_eq_some_iff.mp ha
  have hlt := h.lt hx
  have hacc : acceptances (log ++ [Entry.complete f ok]) = acceptances log :=
    acceptances_concat_of_none rfl
  have hremove : Nat.count (fun k => b.completion k = some f ∧ k ∉ gone) n
      = Nat.count (fun k => b.completion k = some f ∧ k ∉ a :: gone) n + 1 := by
    apply Counting.count_remove hlt ⟨ha, hgone⟩
    intro k _
    simp only [List.mem_cons, not_or]
    tauto
  constructor
  · exact h.fresh
  · intro k hk
    rcases List.mem_cons.mp hk with rfl | hk
    · exact hlt
    · exact h.below k hk
  · rw [hacc]
    exact h.listed
  · intro f'
    have hold := h.completions f'
    rw [accepted_concat_of_none f' rfl, forgotten_concat, hold]
    by_cases hff : f' = f
    · subst hff
      rw [completed_concat, hremove]
      simp only [Entry.forgotten]
      omega
    · rw [completed_concat_of_ne]
      · have hsame : Nat.count (fun k => b.completion k = some f' ∧ k ∉ a :: gone) n
            = Nat.count (fun k => b.completion k = some f' ∧ k ∉ gone) n := by
          apply Counting.count_congr
          intro k _
          simp only [List.mem_cons, not_or]
          constructor
          · exact fun hk => ⟨hk.1, hk.2.2⟩
          · rintro ⟨hk, hk'⟩
            refine ⟨hk, ?_, hk'⟩
            rintro rfl
            exact hff (Option.some.inj (hk.symm.trans ha))
        rw [hsame]
        rfl
      · rintro ok' heq
        exact hff (Entry.complete.inj heq).1.symm
  · intro g
    rw [acceptedWith_concat_of_none g rfl, destroyed_concat_of_ne g Entry.noConfusion]
    exact h.destructions g
  · intro p hp f' hf'
    rw [hacc] at hp
    rcases h.settled p hp f' hf' with hsettled | ⟨hcompletion, hp'⟩
    · exact Or.inl (settled_concat f' log _ hsettled)
    · by_cases hpa : p.addr = a
      · left
        rw [hpa, ha] at hcompletion
        obtain rfl := Option.some.inj hcompletion
        rw [completed_concat]
        omega
      · right
        refine ⟨hcompletion, ?_⟩
        rw [List.mem_cons, not_or]
        exact ⟨hpa, hp'⟩
  · apply throughout_concat.mpr ⟨h.due, ?_⟩
    have hold := h.completions f
    refine ⟨by omega, ?_⟩
    obtain ⟨p, hp, hpa, hdestroy, hcomplete⟩ := h.listed a x hx
    refine ⟨p, hp, ?_, ?_, ?_⟩
    · rcases hcomplete with hnone | hsame
      · rw [hnone] at hf
        cases hf
      · rw [← hsame, hf]
    · intro g hg
      have hheld : 0 < Nat.count (fun k => b.destruction k = some g) n := by
        apply Counting.count_pos hlt
        rw [Book.destruction, hx, Option.bind_some, ← hdestroy, hg]
      have := h.destructions g
      omega
    · rw [hpa]
      exact hok

/-- The members of the list of packets whose functions are not called matter only where there are
packets. -/
theorem congr (h : Ledger n b log gone) (hbelow : ∀ a ∈ gone', a < n)
    (hgone : ∀ a, b.completion a ≠ none → (a ∈ gone' ↔ a ∈ gone)) :
  Ledger n b log gone'
  := by
  refine ⟨h.fresh, hbelow, h.listed, ?_, h.destructions, ?_, h.due⟩
  · intro f
    rw [h.completions f]
    congr 1
    apply Counting.count_congr
    intro k _
    constructor
    · rintro ⟨hk, hk'⟩
      exact ⟨hk, fun hmem => hk' ((hgone k (by rw [hk]; exact Option.some_ne_none f)).mp hmem)⟩
    · rintro ⟨hk, hk'⟩
      exact ⟨hk, fun hmem => hk' ((hgone k (by rw [hk]; exact Option.some_ne_none f)).mpr hmem)⟩
  · intro p hp f hf
    rcases h.settled p hp f hf with hsettled | ⟨hcompletion, hp'⟩
    · exact Or.inl hsettled
    · right
      refine ⟨hcompletion, fun hmem => hp' ?_⟩
      exact (hgone _ (by rw [hcompletion]; exact Option.some_ne_none f)).mp hmem

/-- Packets that have been freed. -/
theorem discard (h : Ledger n b log (l ++ gone)) (hl : ∀ a ∈ l, b a = none) :
  Ledger n b log gone
  := by
  apply h.congr
  · exact fun a ha => h.below a (List.mem_append_right _ ha)
  · intro a ha
    rw [List.mem_append]
    constructor
    · exact Or.inr
    · rintro (hmem | hmem)
      · rw [Book.completion, hl a hmem] at ha
        exact absurd rfl ha
      · exact hmem

/-- A packet without a completion function. -/
theorem skip (h : Ledger n b log gone) (hlt : a < n) (ha : b.completion a = none) :
  Ledger n b log (a :: gone)
  := by
  apply h.congr
  · intro k hk
    rcases List.mem_cons.mp hk with rfl | hk
    · exact hlt
    · exact h.below k hk
  · intro k hk
    rw [List.mem_cons]
    constructor
    · rintro (rfl | hmem)
      · exact absurd ha hk
      · exact hmem
    · exact Or.inr

/-- A call makes the layer forget completion functions. -/
theorem forget (h : Ledger n b log gone) {c : Call} {sar : NciSar} (hl : c.forgets sar = l)
    (hn : sar.nextAddr = n) (hb : sar.book = b) (hacc : (Entry.called c sar).acceptance = none)
    (hlt : ∀ a ∈ l, a < n) (hgone : ∀ a ∈ l, a ∉ gone) :
  Ledger n b (log ++ [.called c sar]) (l ++ gone)
  := by
  have hacc' : acceptances (log ++ [.called c sar]) = acceptances log :=
    acceptances_concat_of_none hacc
  have hforgotten : ∀ f, Entry.forgotten f (.called c sar)
      = Nat.count (fun a => b.completion a = some f ∧ a ∈ l) n := by
    intro f
    rw [← hn, ← hb, ← hl]
    rfl
  constructor
  · exact h.fresh
  · intro a ha
    rcases List.mem_append.mp ha with ha | ha
    · exact hlt a ha
    · exact h.below a ha
  · rw [hacc']
    exact h.listed
  · intro f
    have hsplit : Nat.count (fun a => b.completion a = some f ∧ a ∉ gone) n
        = Nat.count (fun a => b.completion a = some f ∧ a ∉ l ++ gone) n
          + Nat.count (fun a => b.completion a = some f ∧ a ∈ l) n := by
      apply Counting.count_split
      · intro k _
        rw [List.mem_append, not_or]
        constructor
        · rintro ⟨hk, hk'⟩
          by_cases hkl : k ∈ l
          · exact Or.inr ⟨hk, hkl⟩
          · exact Or.inl ⟨hk, hkl, hk'⟩
        · rintro (⟨hk, -, hk'⟩ | ⟨hk, hkl⟩)
          · exact ⟨hk, hk'⟩
          · exact ⟨hk, hgone k hkl⟩
      · rintro k _ ⟨-, hk⟩ ⟨-, hkl⟩
        exact hk (List.mem_append_left _ hkl)
    have hold := h.completions f
    rw [accepted_concat_of_none f hacc, completed_concat_of_ne f fun _ => Entry.noConfusion,
      forgotten_concat, hforgotten, hold, hsplit]
    omega
  · intro g
    rw [acceptedWith_concat_of_none g hacc, destroyed_concat_of_ne g Entry.noConfusion]
    exact h.destructions g
  · intro p hp f hf
    rw [hacc'] at hp
    rcases h.settled p hp f hf with hsettled | ⟨hcompletion, hp'⟩
    · exact Or.inl (settled_concat f log _ hsettled)
    · by_cases hpl : p.addr ∈ l
      · left
        have hcount : 0 < Nat.count (fun a => b.completion a = some f ∧ a ∈ l) n :=
          Counting.count_pos (hlt _ hpl) ⟨hcompletion, hpl⟩
        rw [forgotten_concat, hforgotten]
        omega
      · right
        refine ⟨hcompletion, ?_⟩
        rw [List.mem_append, not_or]
        exact ⟨hpl, hp'⟩
  · exact throughout_concat.mpr ⟨h.due, trivial⟩

/-- A packet whose completion function is not called any more can lose it. -/
theorem mute (h : Ledger n b log (a :: gone)) (hgone : a ∉ gone) :
  Ledger n (b.mute a) log gone
  := by
  have hself : (b.mute a).completion a = none := by
    rw [Book.completion, Book.mute, Function.update_self]
    cases b a <;> rfl
  have hne : ∀ k, k ≠ a → b.mute a k = b k := fun k hk => Function.update_of_ne hk _ _
  have hcompletion : ∀ f k, ((b.mute a).completion k = some f ∧ k ∉ gone)
      ↔ b.completion k = some f ∧ k ∉ a :: gone := by
    intro f k
    rw [List.mem_cons, not_or]
    by_cases hka : k = a
    · subst hka
      rw [hself]
      simp
    · rw [Book.completion, hne k hka, Book.completion]
      simp [hka]
  have hdestruction : ∀ k, (b.mute a).destruction k = b.destruction k := by
    intro k
    by_cases hka : k = a
    · subst hka
      rw [Book.destruction, Book.mute, Function.update_self, Book.destruction]
      cases b k <;> rfl
    · rw [Book.destruction, hne k hka, Book.destruction]
  constructor
  · intro k hk
    by_cases hka : k = a
    · subst hka
      rw [Book.mute, Function.update_self, h.fresh k hk]
      rfl
    · rw [hne k hka]
      exact h.fresh k hk
  · exact fun k hk => h.below k (List.mem_cons_of_mem _ hk)
  · intro k x hk
    by_cases hka : k = a
    · subst hka
      rw [Book.mute, Function.update_self] at hk
      obtain ⟨y, hy, rfl⟩ := Option.map_eq_some_iff.mp hk
      obtain ⟨p, hp, hpa, hdestroy, -⟩ := h.listed k y hy
      exact ⟨p, hp, hpa, hdestroy, Or.inl rfl⟩
    · rw [hne k hka] at hk
      exact h.listed k x hk
  · intro f
    rw [h.completions f]
    congr 1
    apply Counting.count_congr
    exact fun k _ => (hcompletion f k).symm
  · intro g
    rw [h.destructions g]
    congr 1
    apply Counting.count_congr
    intro k _
    rw [hdestruction]
  · intro p hp f hf
    rcases h.settled p hp f hf with hsettled | hwaiting
    · exact Or.inl hsettled
    · exact Or.inr ((hcompletion f _).mpr hwaiting)
  · exact h.due

/-- A packet whose completion function is not called any more is freed, and its destroy function is
called if it has one. -/
theorem free (h : Ledger n b log gone) (hgone : a ∈ gone) :
  Ledger n (Function.update b a none) (log ++ (b.destruction a).toList.map Entry.destroy) gone
  := by
  obtain ⟨es, hes⟩ : ∃ es, es = (b.destruction a).toList.map Entry.destroy := ⟨_, rfl⟩
  have hcases : b.destruction a = none ∧ es = []
      ∨ ∃ g, b.destruction a = some g ∧ es = [.destroy g] := by
    rw [hes]
    cases b.destruction a with
    | none => exact Or.inl ⟨rfl, rfl⟩
    | some g => exact Or.inr ⟨g, rfl, rfl⟩
  rw [← hes]
  have hne : ∀ k, k ≠ a → Function.update b a none k = b k := fun k hk =>
    Function.update_of_ne hk _ _
  have hself : Function.update b a none a = none := Function.update_self _ _ _
  have hcompletion : ∀ f k, (Book.completion (Function.update b a none) k = some f ∧ k ∉ gone)
      ↔ b.completion k = some f ∧ k ∉ gone := by
    intro f k
    by_cases hka : k = a
    · subst hka
      simp [hgone]
    · rw [Book.completion, hne k hka, Book.completion]
  have hacc : acceptances (log ++ es) = acceptances log := by
    rcases hcases with ⟨-, rfl⟩ | ⟨g, -, rfl⟩
    · rw [List.append_nil]
    · exact acceptances_concat_of_none rfl
  have hcompleted : ∀ f, Log.completed f (log ++ es) = Log.completed f log := by
    intro f
    rcases hcases with ⟨-, rfl⟩ | ⟨g, -, rfl⟩
    · rw [List.append_nil]
    · exact completed_concat_of_ne f fun _ => Entry.noConfusion
  have hforgotten : ∀ f, Log.forgotten f (log ++ es) = Log.forgotten f log := by
    intro f
    rcases hcases with ⟨-, rfl⟩ | ⟨g, -, rfl⟩
    · rw [List.append_nil]
    · exact forgotten_concat f log _
  constructor
  · intro k hk
    by_cases hka : k = a
    · rw [hka, hself]
    · rw [hne k hka]
      exact h.fresh k hk
  · exact h.below
  · rw [hacc]
    intro k x hk
    by_cases hka : k = a
    · rw [hka, hself] at hk
      cases hk
    · rw [hne k hka] at hk
      exact h.listed k x hk
  · intro f
    rw [Log.accepted, hacc, ← Log.accepted, hcompleted, hforgotten, h.completions f]
    congr 1
    apply Counting.count_congr
    exact fun k _ => (hcompletion f k).symm
  · intro g
    have hdestruction : ∀ k, Book.destruction (Function.update b a none) k = some g
        ↔ b.destruction k = some g ∧ k ≠ a := by
      intro k
      by_cases hka : k = a
      · rw [hka, Book.destruction, hself]
        simp
      · rw [Book.destruction, hne k hka, Book.destruction]
        simp [hka]
    rw [Log.acceptedWith, hacc, ← Log.acceptedWith, h.destructions g]
    by_cases hag : b.destruction a = some g
    · obtain ⟨x, hx, -⟩ := Option.bind_eq_some_iff.mp hag
      rw [Counting.count_remove (h.lt hx) hag fun k _ => hdestruction k]
      rcases hcases with ⟨hnone, -⟩ | ⟨g', hg', rfl⟩
      · rw [hag] at hnone
        cases hnone
      · obtain rfl := Option.some.inj (hg'.symm.trans hag)
        rw [destroyed_concat]
        omega
    · have hdestroyed : Log.destroyed g (log ++ es) = Log.destroyed g log := by
        rcases hcases with ⟨-, rfl⟩ | ⟨g', hg', rfl⟩
        · rw [List.append_nil]
        · apply destroyed_concat_of_ne
          intro heq
          rw [Entry.destroy.inj heq] at hg'
          exact hag hg'
      rw [hdestroyed]
      congr 1
      apply Counting.count_congr
      intro k _
      rw [hdestruction]
      constructor
      · intro hk
        refine ⟨hk, ?_⟩
        rintro rfl
        exact hag hk
      · exact And.left
  · intro p hp f hf
    rw [hacc] at hp
    rw [hcompleted, hforgotten]
    rcases h.settled p hp f hf with hsettled | hwaiting
    · exact Or.inl hsettled
    · exact Or.inr ((hcompletion f _).mpr hwaiting)
  · rcases hcases with ⟨-, rfl⟩ | ⟨g, hg, rfl⟩
    · rw [List.append_nil]
      exact h.due
    · obtain ⟨x, hx, hxg⟩ := Option.bind_eq_some_iff.mp hg
      have hheld : 0 < Nat.count (fun k => b.destruction k = some g) n :=
        Counting.count_pos (h.lt hx) hg
      have hold := h.destructions g
      apply throughout_concat.mpr ⟨h.due, ?_⟩
      refine ⟨by omega, ?_⟩
      obtain ⟨p, hp, hpa, hdestroy, -⟩ := h.listed a x hx
      refine ⟨p, hp, hdestroy.trans hxg, ?_⟩
      intro f hf
      rcases h.settled p hp f hf with hsettled | ⟨-, hnot⟩
      · exact hsettled
      · rw [hpa] at hnot
        exact absurd hgone hnot

end Ledger

end Nci
