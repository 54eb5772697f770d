import Mathlib.Data.List.Nodup
import Mathlib.Logic.Function.Basic

/-!
# Linked queues

A heap maps addresses to nodes, and every node points to the next one or nowhere. A queue
is the pair of its first and its last pointer. `Chain h p l` says that the nodes met from
the pointer `p` on are those at the addresses `l`.

The operations are the usual ones of an intrusive singly linked queue: appending a node at
the end, taking the first node, putting a node in front without looking at the last
pointer, and removing the first node with a property. Each is described by what it does
to the chain of the queue, to the last pointer, and to the other nodes of the heap.
-/

universe u

namespace LinkedQueue

/-- A node: it holds a pointer to the next node, which can be overwritten. -/
class Node (α : Type u) where
  next : α → Option Nat
  setNext : Option Nat → α → α
  next_setNext : ∀ n x, next (setNext n x) = n

variable {α : Type u} [Node α]

@[simp]
theorem next_setNext (n : Option Nat) (x : α) :
  Node.next (Node.setNext n x) = n
  := Node.next_setNext n x

/-- A heap: the node at every address, if there is one. -/
abbrev Heap (α : Type u) := Nat → Option α

/-- The heap with the node at `a` changed by `f`. -/
def Heap.modify {α : Type u} (h : Heap α) (a : Nat) (f : α → α) : Heap α :=
  Function.update h a ((h a).map f)

@[simp]
theorem Heap.modify_self {α : Type u} (h : Heap α) (a : Nat) (f : α → α) :
  h.modify a f a = (h a).map f
  := by simp [Heap.modify]

theorem Heap.modify_of_ne {α : Type u} (h : Heap α) {a b : Nat} (f : α → α) (hab : b ≠ a) :
  h.modify a f b = h b
  := by simp [Heap.modify, hab]

/-! ### Chains -/

/-- The nodes met from the pointer `p` on are those at the addresses in the list, in this
order. -/
def Chain (h : Heap α) : Option Nat → List Nat → Prop
  | p, [] => p = none
  | p, a :: l => p = some a ∧ ∃ x, h a = some x ∧ Chain h (Node.next x) l

@[simp]
theorem chain_nil (h : Heap α) (p : Option Nat) :
  Chain h p [] ↔ p = none
  := Iff.rfl

theorem chain_cons (h : Heap α) (p : Option Nat) (a : Nat) (l : List Nat) :
  Chain h p (a :: l) ↔ p = some a ∧ ∃ x, h a = some x ∧ Chain h (Node.next x) l
  := Iff.rfl

/-- The pointer a chain starts from points to its first address. -/
theorem Chain.head? {h : Heap α} {p : Option Nat} {l : List Nat} (hc : Chain h p l) :
  p = l.head?
  := by
  cases l with
  | nil => apply hc
  | cons a l => apply hc.1

/-- A pointer starts at most one chain. -/
theorem Chain.unique {h : Heap α} :
  ∀ {l l' : List Nat} {p : Option Nat}, Chain h p l → Chain h p l' → l = l'
  | [], [], _, _, _ => rfl
  | [], _ :: _, _, hc, hc' => by
      rw [chain_nil] at hc
      simp [hc, chain_cons] at hc'
  | _ :: _, [], _, hc, hc' => by
      rw [chain_nil] at hc'
      simp [hc', chain_cons] at hc
  | a :: l, b :: l', p, ⟨hp, x, hx, hl⟩, ⟨hp', y, hy, hl'⟩ => by
      obtain rfl : a = b := Option.some.inj (hp.symm.trans hp')
      obtain rfl : x = y := Option.some.inj (hx.symm.trans hy)
      rw [Chain.unique hl hl']

/-- What follows an address of a chain is again a chain. -/
theorem Chain.suffix {h : Heap α} :
  ∀ {l r : List Nat} {p : Option Nat}, Chain h p (l ++ r) → ∃ q, Chain h q r
  | [], _, p, hc => ⟨p, hc⟩
  | _ :: _, _, _, ⟨_, _, _, hl⟩ => Chain.suffix hl

/-- A chain does not meet an address twice. -/
theorem Chain.nodup {h : Heap α} {l : List Nat} {p : Option Nat} (hc : Chain h p l) :
  l.Nodup
  := by
  induction l generalizing p with
  | nil => apply List.nodup_nil
  | cons a l ih =>
      obtain ⟨hp, x, hx, hl⟩ := hc
      apply List.nodup_cons.mpr
      constructor
      · intro ha
        obtain ⟨s, t, rfl⟩ := List.append_of_mem ha
        obtain ⟨q, hq⟩ := Chain.suffix hl
        obtain ⟨rfl, y, hy, ht⟩ := hq
        obtain rfl : x = y := Option.some.inj (hx.symm.trans hy)
        have hlen := congrArg List.length (Chain.unique hl ht)
        simp only [List.length_append, List.length_cons] at hlen
        omega
      · apply ih hl

/-- A chain stays a chain in a heap with the same nodes at its addresses. -/
theorem Chain.congr {h h' : Heap α} :
  ∀ {l : List Nat} {p : Option Nat}, Chain h p l → (∀ a ∈ l, h' a = h a) → Chain h' p l
  | [], _, hc, _ => hc
  | a :: _, _, ⟨hp, x, hx, hl⟩, heq => by
      use hp, x
      constructor
      · rw [heq a List.mem_cons_self, hx]
      · apply Chain.congr hl
        intro b hb
        apply heq b (List.mem_cons_of_mem a hb)

/-- A chain stays a chain in a heap whose nodes at its addresses point where they did. -/
theorem Chain.congr_next {h h' : Heap α} :
  ∀ {l : List Nat} {p : Option Nat}, Chain h p l →
    (∀ a ∈ l, (h' a).map Node.next = (h a).map Node.next) → Chain h' p l
  | [], _, hc, _ => hc
  | a :: _, _, ⟨hp, x, hx, hl⟩, heq => by
      have ha := heq a List.mem_cons_self
      rw [hx, Option.map_some] at ha
      obtain ⟨y, hy, hyx⟩ := Option.map_eq_some_iff.mp ha
      use hp, y, hy
      rw [hyx]
      apply Chain.congr_next hl
      intro b hb
      apply heq b (List.mem_cons_of_mem a hb)

/-- Pointing the last node of a chain to a node that points nowhere makes the chain longer
by that node. -/
theorem Chain.snoc {h : Heap α} {l : List Nat} {p : Option Nat} {b a : Nat} {y : α}
    (hc : Chain h p (l ++ [b])) (hy : h a = some y) (hn : Node.next y = none)
    (ha : a ∉ l ++ [b]) :
  Chain (h.modify b (Node.setNext (some a))) p (l ++ [b] ++ [a])
  := by
  have hne : a ≠ b := by
    rintro rfl
    simp at ha
  induction l generalizing p with
  | nil =>
      obtain ⟨hp, x, hx, hnil⟩ := hc
      use hp, Node.setNext (some a) x
      constructor
      · simp [hx]
      · rw [next_setNext]
        use rfl, y
        rw [Heap.modify_of_ne h _ hne]
        use hy, hn
  | cons c l ih =>
      have hnd := hc.nodup
      obtain ⟨hp, x, hx, hl⟩ := hc
      have hcb : c ≠ b := by
        rintro rfl
        simp at hnd
      use hp, x
      rw [Heap.modify_of_ne h _ hcb]
      use hx
      apply ih hl
      intro hmem
      apply ha
      apply List.mem_cons_of_mem c hmem

/-- The addresses met from `p` on, as far as the fuel lasts. -/
def walk (h : Heap α) : Nat → Option Nat → List Nat
  | fuel + 1, some a =>
      match h a with
      | some x => a :: walk h fuel (Node.next x)
      | none => []
  | _, _ => []

/-- A walk with enough fuel meets the whole chain. -/
theorem Chain.walk_eq {h : Heap α} :
  ∀ {l : List Nat} {p : Option Nat} {fuel : Nat}, Chain h p l → l.length ≤ fuel →
    walk h fuel p = l
  | [], _, _, hc, _ => by
      rw [chain_nil] at hc
      subst hc
      simp [walk]
  | a :: l, _, 0, _, hf => by simp at hf
  | a :: l, _, fuel + 1, ⟨hp, x, hx, hl⟩, hf => by
      subst hp
      simp only [walk, hx]
      rw [Chain.walk_eq hl (Nat.le_of_succ_le_succ hf)]

/-! ### Heaps that differ in the links of some nodes -/

/-- The heaps hold the same nodes, up to the links of the nodes at the addresses in `S`. -/
def Relinked (h h' : Heap α) (S : List Nat) : Prop :=
  ∀ a, h' a = h a ∨ (a ∈ S ∧ ∃ n, h' a = (h a).map (Node.setNext n))

theorem Relinked.refl (h : Heap α) (S : List Nat) :
  Relinked h h S
  := fun _ => Or.inl rfl

theorem Relinked.of_not_mem {h h' : Heap α} {S : List Nat} (hr : Relinked h h' S) {a : Nat}
    (ha : a ∉ S) :
  h' a = h a
  := by
  rcases hr a with heq | ⟨hmem, -⟩
  · apply heq
  · apply absurd hmem ha

theorem relinked_modify (h : Heap α) (b : Nat) (n : Option Nat) {S : List Nat} (hb : b ∈ S) :
  Relinked h (h.modify b (Node.setNext n)) S
  := by
  intro a
  by_cases hab : a = b
  · subst hab
    right
    use hb, n
    apply Heap.modify_self
  · left
    apply Heap.modify_of_ne h _ hab

/-- A chain that meets no relinked node stays a chain. -/
theorem Chain.relinked {h h' : Heap α} {S l : List Nat} {p : Option Nat} (hc : Chain h p l)
    (hr : Relinked h h' S) (hd : ∀ a ∈ l, a ∉ S) :
  Chain h' p l
  := by
  apply hc.congr
  intro a ha
  apply hr.of_not_mem (hd a ha)

/-! ### The operations of a queue -/

/-- The first and the last pointer of a queue. -/
structure Queue where
  first : Option Nat
  last : Option Nat
  deriving DecidableEq, Repr

/-- A queue with no node. -/
def Queue.empty : Queue := ⟨none, none⟩

/-- Appends the node at `a`: the last node is made to point to it, if the queue has one. -/
def enqueue (h : Heap α) (q : Queue) (a : Nat) : Heap α × Queue :=
  match q.last with
  | some b => (h.modify b (Node.setNext (some a)), { q with last := some a })
  | none => (h, ⟨some a, some a⟩)

/-- Takes the first node off the queue. -/
def dequeue (h : Heap α) (q : Queue) : Option Nat × Heap α × Queue :=
  match q.first with
  | some a =>
      let first := (h a).bind Node.next
      (some a, h.modify a (Node.setNext none),
        { first := first, last := if first = none then none else q.last })
  | none => (none, h, q)

/-- Puts the node at `a` in front of the queue and leaves the last pointer as it is. -/
def putFront (h : Heap α) (q : Queue) (a : Nat) : Heap α × Queue :=
  (h.modify a (Node.setNext q.first), { q with first := some a })

/-- Looks for a node with the property `match?` behind the node at `prev`, from the pointer
`out` on, and unlinks it. -/
def removeAfter (match? : α → Bool) (h : Heap α) (q : Queue) :
    Nat → Nat → Option Nat → Option Nat × Heap α × Queue
  | fuel + 1, prev, some a =>
      match h a with
      | some x =>
          if match? x then
            (some a, h.modify prev (Node.setNext (Node.next x)),
              if Node.next x = none then { q with last := some prev } else q)
          else removeAfter match? h q fuel a (Node.next x)
      | none => (none, h, q)
  | _, _, _ => (none, h, q)

/-- Unlinks the first node with the property `match?`. -/
def remove (match? : α → Bool) (fuel : Nat) (h : Heap α) (q : Queue) :
    Option Nat × Heap α × Queue :=
  match q.first with
  | some a =>
      match h a with
      | some x =>
          if match? x then
            (some a, h, { first := Node.next x,
                          last := if Node.next x = none then none else q.last })
          else removeAfter match? h q fuel a (Node.next x)
      | none => (none, h, q)
  | none => (none, h, q)

/-- The addresses reachable from the first pointer of a queue. -/
def Queue.addrs (h : Heap α) (fuel : Nat) (q : Queue) : List Nat :=
  walk h fuel q.first

/-! ### No node comes out of nowhere -/

/-- The first heap has nodes only where the second one has. -/
def Heap.Within {α : Type u} (h' h : Heap α) : Prop := ∀ a, h a = none → h' a = none

theorem Heap.Within.refl {α : Type u} (h : Heap α) :
  h.Within h
  := fun _ => id

theorem Heap.Within.trans {α : Type u} {h h' h'' : Heap α} (hw' : h''.Within h')
    (hw : h'.Within h) :
  h''.Within h
  := fun a ha => hw' a (hw a ha)

theorem Heap.within_modify {α : Type u} (h : Heap α) (a : Nat) (f : α → α) :
  (h.modify a f).Within h
  := by
  intro b hb
  by_cases hab : b = a
  · rw [hab] at hb ⊢
    rw [Heap.modify_self, hb, Option.map_none]
  · rw [Heap.modify_of_ne h f hab, hb]

theorem Heap.within_dealloc {α : Type u} (h : Heap α) (a : Nat) :
  Heap.Within (Function.update h a none) h
  := by
  intro b hb
  by_cases hab : b = a
  · rw [hab]
    apply Function.update_self
  · exact (Function.update_of_ne hab _ _).trans hb

theorem within_enqueue (h : Heap α) (q : Queue) (a : Nat) :
  (enqueue h q a).1.Within h
  := by
  rw [enqueue]
  split
  · apply Heap.within_modify
  · apply Heap.Within.refl

theorem within_dequeue (h : Heap α) (q : Queue) :
  (dequeue h q).2.1.Within h
  := by
  rw [dequeue]
  split
  · apply Heap.within_modify
  · apply Heap.Within.refl

theorem within_putFront (h : Heap α) (q : Queue) (a : Nat) :
  (putFront h q a).1.Within h
  := Heap.within_modify h a _

theorem within_removeAfter (match? : α → Bool) (h : Heap α) (q : Queue) :
  ∀ (fuel prev : Nat) (p : Option Nat), (removeAfter match? h q fuel prev p).2.1.Within h
  | 0, _, _ => Heap.Within.refl h
  | _ + 1, _, none => Heap.Within.refl h
  | fuel + 1, prev, some a => by
      rw [removeAfter]
      split
      · split
        · apply Heap.within_modify
        · apply within_removeAfter match? h q fuel
      · apply Heap.Within.refl

theorem within_remove (match? : α → Bool) (fuel : Nat) (h : Heap α) (q : Queue) :
  (remove match? fuel h q).2.1.Within h
  := by
  rw [remove]
  split
  · split
    · split
      · apply Heap.Within.refl
      · apply within_removeAfter
    · apply Heap.Within.refl
  · apply Heap.Within.refl

/-! ### What the operations do to the chain of a queue -/

/-- The node at `a` exists and has the property `match?`. -/
def matchesAt (match? : α → Bool) (h : Heap α) (a : Nat) : Bool :=
  (h a).any match?

/-- Appending to a queue whose last pointer points to the last node of its chain. -/
theorem enqueue_spec {h : Heap α} {q : Queue} {l : List Nat} {a : Nat} {y : α}
    (hc : Chain h q.first l) (hlast : q.last = l.getLast?) (hy : h a = some y)
    (hn : Node.next y = none) (ha : a ∉ l) :
  Chain (enqueue h q a).1 (enqueue h q a).2.first (l ++ [a])
    ∧ (enqueue h q a).2.last = some a ∧ Relinked h (enqueue h q a).1 l
  := by
  rcases l.eq_nil_or_concat' with rfl | ⟨l, b, rfl⟩
  · simp only [List.getLast?_nil] at hlast
    simp only [enqueue, hlast, List.nil_append]
    use ⟨rfl, y, hy, hn⟩, trivial
    apply Relinked.refl
  · simp only [List.getLast?_append, List.getLast?_singleton, Option.some_or] at hlast
    simp only [enqueue, hlast]
    use Chain.snoc hc hy hn ha, trivial
    apply relinked_modify _ _ _ (List.mem_append_right l List.mem_cons_self)

/-- Appending to a queue whose last pointer points nowhere leaves only the new node in its
chain. -/
theorem enqueue_of_last_eq_none {h : Heap α} {q : Queue} {a : Nat} {y : α}
    (hlast : q.last = none) (hy : h a = some y) (hn : Node.next y = none) :
  Chain (enqueue h q a).1 (enqueue h q a).2.first [a]
    ∧ (enqueue h q a).2.last = some a ∧ (enqueue h q a).1 = h
  := by
  simp only [enqueue, hlast]
  use ⟨rfl, y, hy, hn⟩

/-- Taking the first node off a queue. -/
theorem dequeue_spec {h : Heap α} {q : Queue} {l : List Nat} {a : Nat}
    (hc : Chain h q.first (a :: l)) :
  (dequeue h q).1 = some a ∧ Chain (dequeue h q).2.1 (dequeue h q).2.2.first l
    ∧ (dequeue h q).2.2.last = (if l = [] then none else q.last)
    ∧ (dequeue h q).2.1 = h.modify a (Node.setNext none)
  := by
  have hnd := hc.nodup
  obtain ⟨hp, x, hx, hl⟩ := hc
  have hne : Node.next x = none ↔ l = [] := by
    rw [hl.head?]
    simp
  simp only [dequeue, hp, hx, Option.bind_some, hne]
  use trivial
  constructor
  · apply hl.congr
    intro b hb
    apply Heap.modify_of_ne
    rintro rfl
    simp [hb] at hnd
  · trivial

/-- Putting a node in front of a queue. -/
theorem putFront_spec {h : Heap α} {q : Queue} {l : List Nat} {a : Nat} {x : α}
    (hc : Chain h q.first l) (hx : h a = some x) (ha : a ∉ l) :
  Chain (putFront h q a).1 (putFront h q a).2.first (a :: l)
    ∧ (putFront h q a).2.last = q.last
  := by
  constructor
  · use rfl, Node.setNext q.first x
    constructor
    · simp [putFront, hx]
    · rw [next_setNext]
      apply hc.congr
      intro b hb
      apply Heap.modify_of_ne
      rintro rfl
      apply ha hb
  · rfl

/-- Removing a node behind the node at `prev`: the chain from `prev` on loses the first node
with the property. -/
theorem removeAfter_spec (match? : α → Bool) {h : Heap α} {q : Queue} :
  ∀ {l : List Nat} {fuel prev : Nat} {y : α}, h prev = some y → prev ∉ l →
    Chain h (Node.next y) l → l.length ≤ fuel →
    (removeAfter match? h q fuel prev (Node.next y)).1 = l.find? (matchesAt match? h)
      ∧ Chain (removeAfter match? h q fuel prev (Node.next y)).2.1 (some prev)
          (prev :: l.eraseP (matchesAt match? h))
      ∧ Relinked h (removeAfter match? h q fuel prev (Node.next y)).2.1 (prev :: l)
      ∧ (removeAfter match? h q fuel prev (Node.next y)).2.2.first = q.first
      ∧ ((removeAfter match? h q fuel prev (Node.next y)).2.2.last
            = (prev :: l.eraseP (matchesAt match? h)).getLast?
          ∨ (removeAfter match? h q fuel prev (Node.next y)).2.2.last = q.last
            ∧ (prev :: l).getLast? = (prev :: l.eraseP (matchesAt match? h)).getLast?)
  | [], fuel, prev, y, hy, _, hc, _ => by
      rw [chain_nil] at hc
      simp only [hc, removeAfter, List.find?_nil, List.eraseP_nil]
      use trivial, ⟨rfl, y, hy, hc⟩, Relinked.refl _ _, trivial
      right
      trivial
  | b :: l, 0, _, _, _, _, _, hf => by simp at hf
  | b :: l, fuel + 1, prev, y, hy, hprev, hc, hf => by
      have hnd := hc.nodup
      obtain ⟨hp, x, hx, hl⟩ := hc
      have hbl : b ∉ l := (List.nodup_cons.mp hnd).1
      have hne : prev ≠ b := fun he => hprev (he ▸ List.mem_cons_self)
      have hpl : prev ∉ l := fun hmem => hprev (List.mem_cons_of_mem b hmem)
      have hmb : matchesAt match? h b = match? x := by simp [matchesAt, hx]
      simp only [removeAfter, hp, hx]
      by_cases hm : match? x = true
      · have hnil : Node.next x = none ↔ l = [] := by
          rw [hl.head?]
          simp
        simp only [hm, if_true, List.find?_cons, List.eraseP_cons, hmb, cond_true, hnil]
        use trivial
        constructor
        · use rfl, Node.setNext (Node.next x) y
          constructor
          · simp [hy]
          · rw [next_setNext]
            apply hl.congr
            intro c hc
            apply Heap.modify_of_ne
            rintro rfl
            apply hpl hc
        constructor
        · apply relinked_modify
          simp
        by_cases hl0 : l = []
        · simp [hl0]
        · simp only [hl0, if_false]
          use trivial
          right
          use trivial
          obtain ⟨c, l, rfl⟩ := List.exists_cons_of_ne_nil hl0
          simp
      · have hm' : match? x = false := by simpa using hm
        obtain ⟨h1, h2, h3, h4, h5⟩ :=
          removeAfter_spec match? (q := q) hx hbl hl (Nat.le_of_succ_le_succ hf)
        simp only [hm', Bool.false_eq_true, if_false, List.find?_cons, List.eraseP_cons, hmb,
          cond_false]
        use h1
        constructor
        · use rfl, y
          constructor
          · rw [h3.of_not_mem, hy]
            apply hprev
          · rw [hp]
            apply h2
        constructor
        · intro c
          rcases h3 c with heq | ⟨hmem, hn⟩
          · left
            apply heq
          · right
            exact ⟨List.mem_cons_of_mem prev hmem, hn⟩
        use h4
        simpa using h5

/-- Removing the first item with a property is removing that item. -/
theorem eraseP_eq_erase {β : Type u} [DecidableEq β] {p : β → Bool} {a : β} :
  ∀ {l : List β}, l.find? p = some a → l.eraseP p = l.erase a
  | [], h => by simp at h
  | b :: l, h => by
      by_cases hb : p b = true
      · obtain rfl : b = a := by simpa [hb] using h
        simp [hb]
      · have hl : l.find? p = some a := by simpa [hb] using h
        have hba : b ≠ a := by
          rintro rfl
          apply hb (List.find?_some hl)
        simp [hb, hba, eraseP_eq_erase hl]

/-- Removing from a queue: its chain loses the first node with the property, and the last
pointer either points to the last node left or is left as it was with that node unchanged. -/
theorem remove_spec (match? : α → Bool) {fuel : Nat} {h : Heap α} {q : Queue} {l : List Nat}
    (hc : Chain h q.first l) (hf : l.length ≤ fuel) :
  (remove match? fuel h q).1 = l.find? (matchesAt match? h)
    ∧ Chain (remove match? fuel h q).2.1 (remove match? fuel h q).2.2.first
        (l.eraseP (matchesAt match? h))
    ∧ Relinked h (remove match? fuel h q).2.1 l
    ∧ ((remove match? fuel h q).2.2.last = (l.eraseP (matchesAt match? h)).getLast?
        ∨ (remove match? fuel h q).2.2.last = q.last
          ∧ l.getLast? = (l.eraseP (matchesAt match? h)).getLast?)
  := by
  cases l with
  | nil =>
      rw [chain_nil] at hc
      simp [remove, hc, Relinked.refl]
  | cons a l =>
      have hnd := hc.nodup
      obtain ⟨hp, x, hx, hl⟩ := hc
      have hma : matchesAt match? h a = match? x := by simp [matchesAt, hx]
      simp only [remove, hp, hx]
      by_cases hm : match? x = true
      · have hnil : Node.next x = none ↔ l = [] := by
          rw [hl.head?]
          simp
        simp only [hm, if_true, List.find?_cons, List.eraseP_cons, hma, cond_true, hnil]
        use trivial, hl, Relinked.refl _ _
        by_cases hl0 : l = []
        · simp [hl0]
        · right
          simp only [hl0, if_false]
          use trivial
          obtain ⟨c, l, rfl⟩ := List.exists_cons_of_ne_nil hl0
          simp
      · have hm' : match? x = false := by simpa using hm
        obtain ⟨h1, h2, h3, h4, h5⟩ := removeAfter_spec match? (q := q) hx
          (List.nodup_cons.mp hnd).1 hl (Nat.le_of_succ_le hf)
        simp only [hm', Bool.false_eq_true, if_false, List.find?_cons, List.eraseP_cons, hma,
          cond_false]
        use h1
        constructor
        · rw [h4, hp]
          apply h2
        use h3, h5

end LinkedQueue
