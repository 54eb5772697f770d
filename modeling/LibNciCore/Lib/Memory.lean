import LibNciCore.Lib.Region

/-!
# A memory of values

A value occupies several addresses of the memory, each of which holds a piece of it. What is copied
from one place to another are the pieces, whatever they belong to, and a value is read if all of its
pieces are there, in the right order. A program that works on a memory goes wrong when it touches
addresses that are not in use.
-/

/-- A piece of a value: the value, and the place of the piece in it. -/
structure Fragment (V : Type) where
  value : V
  place : Nat
  deriving DecidableEq

/-- A memory. There is nothing at the addresses that are not in use. -/
abbrev Memory (V : Type) : Type := Nat → Option (Fragment V)

/-- The values of type `α` as values in a memory, and how many addresses they occupy. -/
structure Layout (V α : Type) where
  size : Nat
  size_pos : 0 < size
  toValue : α → V
  ofValue : V → Option α
  ofValue_toValue : ∀ a, ofValue (toValue a) = some a

namespace Memory

variable {V α : Type}

/-! ### Addresses in use -/

/-- All addresses of the region are in use. -/
def InUse (M : Memory V) (r : Region) : Prop := ∀ k < r.size, (M (r.start + k)).isSome = true

instance (M : Memory V) (r : Region) : Decidable (M.InUse r) :=
  inferInstanceAs (Decidable (∀ k < r.size, (M (r.start + k)).isSome = true))

/-- No address of the region is in use. -/
def Fresh (M : Memory V) (r : Region) : Prop := ∀ i ∈ r, M i = none

/-- A memory with more in it. -/
def Extends (M' M : Memory V) : Prop := ∀ i f, M i = some f → M' i = some f

theorem Extends.refl (M : Memory V) :
  M.Extends M
  := fun _ _ h => h

theorem InUse.mem {M : Memory V} {r : Region} (h : M.InUse r) {i : Nat} (hi : i ∈ r) :
  (M i).isSome = true
  := by
  obtain ⟨hstart, hstop⟩ := Region.mem_iff.mp hi
  have hk := h (i - r.start) (by omega)
  rw [Nat.add_sub_cancel' hstart] at hk
  exact hk

theorem inUse_of_mem {M : Memory V} {r : Region} (h : ∀ i ∈ r, (M i).isSome = true) :
  M.InUse r
  := by
  intro k hk
  apply h
  exact Region.mem_iff.mpr ⟨Nat.le_add_right _ _, Nat.add_lt_add_left hk _⟩

theorem InUse.inside {M : Memory V} {r r' : Region} (h : M.InUse r') (hr : r.Inside r') :
  M.InUse r
  := inUse_of_mem fun _ hi => h.mem (hr.mem hi)

theorem Fresh.inside {M : Memory V} {r r' : Region} (h : M.Fresh r') (hr : r.Inside r') :
  M.Fresh r
  := fun i hi => h i (hr.mem hi)

/-! ### Reading -/

section

variable [DecidableEq V] (T : Layout V α)

/-- The value that starts at an address, if it is there. -/
def read (M : Memory V) (i : Nat) : Option α :=
  match M i with
  | some f =>
      if ∀ k < T.size, M (i + k) = some ⟨f.value, k⟩ then T.ofValue f.value else none
  | none => none

/-- The `n` values that follow one another from an address on. -/
def readMany (M : Memory V) : Nat → Nat → Option (List α)
  | _, 0 => some []
  | i, n + 1 => (M.read T i).bind fun a => (readMany M (i + T.size) n).map (a :: ·)

variable {T} {M M' : Memory V} {i j n : Nat} {a : α}

theorem pieces_of_read (h : M.read T i = some a) :
  ∃ v, T.ofValue v = some a ∧ ∀ k < T.size, M (i + k) = some ⟨v, k⟩
  := by
  rw [read] at h
  split at h
  · rename_i f _
    split at h
    · rename_i hpieces
      exact ⟨f.value, h, hpieces⟩
    · cases h
  · cases h

theorem read_of_pieces {v : V} (hv : T.ofValue v = some a)
    (h : ∀ k < T.size, M (i + k) = some ⟨v, k⟩) :
  M.read T i = some a
  := by
  have hfirst : M i = some ⟨v, 0⟩ := h 0 T.size_pos
  rw [read, hfirst]
  dsimp only
  rw [if_pos h]
  exact hv

theorem inUse_of_read (h : M.read T i = some a) :
  M.InUse ⟨i, T.size⟩
  := by
  obtain ⟨v, -, hpieces⟩ := pieces_of_read h
  intro k hk
  rw [hpieces k hk]
  rfl

/-- The same pieces somewhere else. -/
theorem read_congr (h : ∀ k < T.size, M' (j + k) = M (i + k)) :
  M'.read T j = M.read T i
  := by
  have hfirst : M' j = M i := h 0 T.size_pos
  rw [read, read, hfirst]
  split
  · have hpieces : (∀ k < T.size, M' (j + k) = some ⟨‹Fragment V›.value, k⟩)
        ↔ ∀ k < T.size, M (i + k) = some ⟨‹Fragment V›.value, k⟩ := by
      apply forall₂_congr
      intro k hk
      rw [h k hk]
    simp only [hpieces]
  · rfl

theorem readMany_congr (h : ∀ k < n * T.size, M' (j + k) = M (i + k)) :
  M'.readMany T j n = M.readMany T i n
  := by
  induction n generalizing i j with
  | zero => rfl
  | succ n ih =>
      have hsize : (n + 1) * T.size = T.size + n * T.size := by
        rw [Nat.add_mul, Nat.one_mul, Nat.add_comm]
      have hhead : M'.read T j = M.read T i := read_congr fun k hk => h k (by omega)
      have htail : M'.readMany T (j + T.size) n = M.readMany T (i + T.size) n := by
        apply ih
        intro k hk
        rw [Nat.add_assoc, Nat.add_assoc]
        exact h (T.size + k) (by omega)
      rw [readMany, readMany, hhead, htail]

theorem inUse_of_readMany {as : List α} (h : M.readMany T i n = some as) :
  M.InUse ⟨i, n * T.size⟩
  := by
  induction n generalizing i as with
  | zero =>
      intro k hk
      rw [Nat.zero_mul] at hk
      cases hk
  | succ n ih =>
      rw [readMany] at h
      obtain ⟨a, hread, hrest⟩ := Option.bind_eq_some_iff.mp h
      obtain ⟨as', hmany, -⟩ := Option.map_eq_some_iff.mp hrest
      have hhead := inUse_of_read hread
      have htail := ih hmany
      intro k hk
      have hk' : k < T.size + n * T.size := by
        rw [Nat.add_mul, Nat.one_mul, Nat.add_comm] at hk
        exact hk
      by_cases hfirst : k < T.size
      · exact hhead k hfirst
      · have hlater := htail (k - T.size) (by dsimp only; omega)
        dsimp only at hlater ⊢
        rw [Nat.add_assoc, Nat.add_sub_cancel' (Nat.le_of_not_lt hfirst)] at hlater
        exact hlater

/-- What can be read can still be read when there is more in the memory. -/
theorem Extends.read (h : M'.Extends M) (hread : M.read T i = some a) :
  M'.read T i = some a
  := by
  obtain ⟨v, hv, hpieces⟩ := pieces_of_read hread
  exact read_of_pieces hv fun k hk => h _ _ (hpieces k hk)

theorem Extends.readMany {as : List α} (h : M'.Extends M) (hread : M.readMany T i n = some as) :
  M'.readMany T i n = some as
  := by
  rw [← hread]
  apply readMany_congr
  intro k hk
  have hused := inUse_of_readMany hread k hk
  obtain ⟨f, hf⟩ := Option.isSome_iff_exists.mp hused
  dsimp only at hf
  rw [hf]
  exact h _ _ hf

end

theorem Extends.inUse {M M' : Memory V} (h : M'.Extends M) {r : Region} (hr : M.InUse r) :
  M'.InUse r
  := by
  intro k hk
  obtain ⟨f, hf⟩ := Option.isSome_iff_exists.mp (hr k hk)
  rw [h _ _ hf]
  rfl

/-! ### Changing -/

/-- Values are put into a region. -/
def fill (M : Memory V) (r : Region) (v : V) : Memory V :=
  fun i => if r.start ≤ i ∧ i < r.start + r.size then some ⟨v, 0⟩ else M i

/-- The pieces at `n` addresses are copied. -/
def copy (M : Memory V) (dest src n : Nat) : Memory V :=
  fun i => if dest ≤ i ∧ i < dest + n then M (src + (i - dest)) else M i

/-- A value is stored. -/
def write (M : Memory V) (T : Layout V α) (i : Nat) (a : α) : Memory V :=
  fun j => if i ≤ j ∧ j < i + T.size then some ⟨T.toValue a, j - i⟩ else M j

/-- The memories are the same at the addresses of a region. -/
def Agrees (M M' : Memory V) (r : Region) : Prop := ∀ i ∈ r, M' i = M i

/-- The memories are the same but for the addresses of a region. -/
def SameBut (r : Region) (M M' : Memory V) : Prop := ∀ i, i ∉ r → M' i = M i

section

variable {M M' M'' : Memory V} {r r' : Region} {T : Layout V α} {a : α} {i dest src n : Nat}

theorem sameBut_fill (M : Memory V) (r : Region) (v : V) :
  SameBut r M (M.fill r v)
  := fun _ hi => if_neg hi

theorem sameBut_copy (M : Memory V) (dest src n : Nat) :
  SameBut ⟨dest, n⟩ M (M.copy dest src n)
  := fun _ hi => if_neg hi

theorem sameBut_write (M : Memory V) (T : Layout V α) (i : Nat) (a : α) :
  SameBut ⟨i, T.size⟩ M (M.write T i a)
  := fun _ hi => if_neg hi

theorem SameBut.trans (h : SameBut r M M') (h' : SameBut r M' M'') :
  SameBut r M M''
  := fun i hi => (h' i hi).trans (h i hi)

theorem SameBut.mono (h : SameBut r M M') (hr : r.Inside r') :
  SameBut r' M M'
  := fun i hi => h i fun hmem => hi (hr.mem hmem)

/-- What is changed had not been in use. -/
theorem SameBut.extends {M₀ : Memory V} (h : SameBut r M M') (hfresh : M₀.Fresh r)
    (hM : M.Extends M₀) :
  M'.Extends M₀
  := by
  intro i f hf
  by_cases hi : i ∈ r
  · rw [hfresh i hi] at hf
    cases hf
  · rw [h i hi]
    exact hM i f hf

/-- Everything that has been in use still is, if what has been changed is. -/
theorem SameBut.inUse (h : SameBut r M M') (hr : M'.InUse r) (hr' : M.InUse r') :
  M'.InUse r'
  := by
  apply inUse_of_mem
  intro i hi
  by_cases hmem : r.start ≤ i ∧ i < r.start + r.size
  · exact hr.mem (Region.mem_iff.mpr hmem)
  · rw [h i hmem]
    exact hr'.mem hi

/-- The same, with changes in two regions. -/
theorem inUse_of_same {r₁ r₂ : Region} (h : ∀ i, i ∉ r₁ → i ∉ r₂ → M' i = M i)
    (hr₁ : M'.InUse r₁) (hr₂ : M'.InUse r₂) (hr : M.InUse r) :
  M'.InUse r
  := by
  apply inUse_of_mem
  intro i hi
  by_cases h₁ : r₁.start ≤ i ∧ i < r₁.start + r₁.size
  · exact hr₁.mem (Region.mem_iff.mpr h₁)
  · by_cases h₂ : r₂.start ≤ i ∧ i < r₂.start + r₂.size
    · exact hr₂.mem (Region.mem_iff.mpr h₂)
    · rw [h i h₁ h₂]
      exact hr.mem hi

theorem SameBut.agrees (h : SameBut r M M') (hr : r.Apart r') :
  M.Agrees M' r'
  := fun i hi => h i (hr.symm i hi)

theorem Agrees.inside (h : M.Agrees M' r') (hr : r.Inside r') :
  M.Agrees M' r
  := fun i hi => h i (hr.mem hi)

/-- What has not been changed can be read as before. -/
theorem Agrees.read [DecidableEq V] (h : M.Agrees M' ⟨i, T.size⟩) :
  M'.read T i = M.read T i
  := by
  apply read_congr
  intro k hk
  exact h _ (Region.mem_iff.mpr ⟨Nat.le_add_right _ _, Nat.add_lt_add_left hk _⟩)

theorem Agrees.readMany [DecidableEq V] (h : M.Agrees M' ⟨i, n * T.size⟩) :
  M'.readMany T i n = M.readMany T i n
  := by
  apply readMany_congr
  intro k hk
  exact h _ (Region.mem_iff.mpr ⟨Nat.le_add_right _ _, Nat.add_lt_add_left hk _⟩)

theorem inUse_fill (M : Memory V) (r : Region) (v : V) :
  (M.fill r v).InUse r
  := by
  apply inUse_of_mem
  intro i hi
  rw [fill, if_pos (Region.mem_iff.mp hi)]
  rfl

theorem extends_fill (hfresh : M.Fresh r) (v : V) :
  (M.fill r v).Extends M
  := (sameBut_fill M r v).extends hfresh (Extends.refl M)

/-- Copying keeps what is in use. -/
theorem inUse_copy (hsrc : M.InUse ⟨src, n⟩) (hr : M.InUse r) :
  (M.copy dest src n).InUse r
  := by
  apply inUse_of_mem
  intro i hi
  rw [copy]
  split
  · rename_i hdest
    exact hsrc (i - dest) (by dsimp only; omega)
  · exact hr.mem hi

theorem inUse_write (hr : M.InUse r) (i : Nat) (a : α) :
  (M.write T i a).InUse r
  := by
  apply inUse_of_mem
  intro j hj
  rw [write]
  split
  · rfl
  · exact hr.mem hj

variable [DecidableEq V]

theorem read_copy (M : Memory V) (dest src : Nat) :
  (M.copy dest src T.size).read T dest = M.read T src
  := by
  apply read_congr
  intro k hk
  rw [copy, if_pos ⟨Nat.le_add_right _ _, Nat.add_lt_add_left hk _⟩, Nat.add_sub_cancel_left]

theorem readMany_copy (M : Memory V) (dest src n : Nat) :
  (M.copy dest src (n * T.size)).readMany T dest n = M.readMany T src n
  := by
  apply readMany_congr
  intro k hk
  rw [copy, if_pos ⟨Nat.le_add_right _ _, Nat.add_lt_add_left hk _⟩, Nat.add_sub_cancel_left]

theorem read_write (M : Memory V) (i : Nat) (a : α) :
  (M.write T i a).read T i = some a
  := by
  apply read_of_pieces (T.ofValue_toValue a)
  intro k hk
  rw [write, if_pos ⟨Nat.le_add_right _ _, Nat.add_lt_add_left hk _⟩, Nat.add_sub_cancel_left]

end

end Memory

/-! ### Programs -/

/-- A program that works on a memory. -/
abbrev Program (V : Type) : Type → Type := StateT (Memory V) Option

namespace Program

open Memory

variable {V α β : Type}

/-- A value is read. -/
def load [DecidableEq V] (T : Layout V α) (i : Nat) : Program V α :=
  fun M => (M.read T i).map (·, M)

/-- A value is stored. -/
def store (T : Layout V α) (i : Nat) (a : α) : Program V Unit :=
  fun M => if M.InUse ⟨i, T.size⟩ then some ((), M.write T i a) else none

def memcpy (dest src n : Nat) : Program V Unit :=
  fun M => if M.InUse ⟨dest, n⟩ ∧ M.InUse ⟨src, n⟩ then some ((), M.copy dest src n) else none

/-- A block is allocated at the address that is given for its size, and filled with a value. -/
def alloc (place : Nat → Nat) (v : V) (n : Nat) : Program V Nat :=
  fun M => some (place n, M.fill ⟨place n, n⟩ v)

/-- The program does not go wrong, and gives the value and the memory. -/
def Returns (m : Program V α) (M : Memory V) (a : α) (M' : Memory V) : Prop := m M = some (a, M')

section

variable {M M' M'' : Memory V} {a : α} {b : β} {i dest src n : Nat}

theorem returns_pure (M : Memory V) (a : α) :
  (pure a : Program V α).Returns M a M
  := rfl

theorem Returns.bind {m : Program V α} {f : α → Program V β} (h : m.Returns M a M')
    (h' : (f a).Returns M' b M'') :
  (m >>= f).Returns M b M''
  := by
  show (m M).bind (fun r => f r.1 r.2) = some (b, M'')
  rw [h]
  exact h'

theorem returns_load [DecidableEq V] {T : Layout V α} (h : M.read T i = some a) :
  (load T i).Returns M a M
  := by
  rw [Returns, load, h]
  rfl

theorem returns_store {T : Layout V α} (h : M.InUse ⟨i, T.size⟩) :
  (store T i a).Returns M () (M.write T i a)
  := if_pos h

theorem returns_memcpy (hdest : M.InUse ⟨dest, n⟩) (hsrc : M.InUse ⟨src, n⟩) :
  (memcpy dest src n).Returns M () (M.copy dest src n)
  := if_pos ⟨hdest, hsrc⟩

theorem returns_alloc (place : Nat → Nat) (v : V) (n : Nat) :
  (alloc place v n).Returns M (place n) (M.fill ⟨place n, n⟩ v)
  := rfl

end

end Program
