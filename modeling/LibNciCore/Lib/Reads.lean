import Mathlib.Data.List.Basic

/-!
# Computations that read a memory

A computation of type `Reads α` looks at bytes of a memory and gives a value. Besides the
value it keeps the offsets that it has looked at, so that it can be said where a computation
reads. A memory is a total function: a computation that goes beyond the end of an object
reads what happens to be there.
-/

/-- A computation that reads a memory: its value, and the offsets that it reads. -/
def Reads (α : Type) : Type := (Nat → UInt8) → α × List Nat

namespace Reads

variable {α β : Type}

/-- The value of a computation. -/
def value (m : Reads α) (mem : Nat → UInt8) : α := (m mem).1

/-- The offsets that a computation reads. -/
def offsets (m : Reads α) (mem : Nat → UInt8) : List Nat := (m mem).2

instance : Monad Reads where
  pure a := fun _ => (a, [])
  bind m f := fun mem => ((f (m mem).1 mem).1, (m mem).2 ++ (f (m mem).1 mem).2)

/-- The byte at an offset. -/
def byte (i : Nat) : Reads UInt8 := fun mem => (mem i, [i])

/-- The `n` bytes that start at an offset. -/
def bytes (i n : Nat) : Reads (List UInt8) :=
  fun mem => ((List.range n).map fun j => mem (i + j), (List.range n).map fun j => i + j)

@[simp]
theorem value_pure (a : α) (mem : Nat → UInt8) :
  (pure a : Reads α).value mem = a
  := rfl

@[simp]
theorem offsets_pure (a : α) (mem : Nat → UInt8) :
  (pure a : Reads α).offsets mem = []
  := rfl

@[simp]
theorem value_bind (m : Reads α) (f : α → Reads β) (mem : Nat → UInt8) :
  (m >>= f).value mem = (f (m.value mem)).value mem
  := rfl

@[simp]
theorem offsets_bind (m : Reads α) (f : α → Reads β) (mem : Nat → UInt8) :
  (m >>= f).offsets mem = m.offsets mem ++ (f (m.value mem)).offsets mem
  := rfl

@[simp]
theorem value_byte (i : Nat) (mem : Nat → UInt8) :
  (byte i).value mem = mem i
  := rfl

@[simp]
theorem value_bytes (i n : Nat) (mem : Nat → UInt8) :
  (bytes i n).value mem = (List.range n).map fun j => mem (i + j)
  := rfl

@[simp]
theorem mem_offsets_bytes {i n k : Nat} {mem : Nat → UInt8} :
  k ∈ (bytes i n).offsets mem ↔ i ≤ k ∧ k < i + n
  := by
  show k ∈ (List.range n).map (fun j => i + j) ↔ _
  rw [List.mem_map]
  constructor
  · rintro ⟨j, hj, rfl⟩
    have hlt := List.mem_range.mp hj
    omega
  · rintro ⟨hle, hlt⟩
    use k - i, List.mem_range.mpr (by omega)
    omega

@[simp]
theorem value_ite (c : Prop) [Decidable c] (m m' : Reads α) (mem : Nat → UInt8) :
  (if c then m else m').value mem = if c then m.value mem else m'.value mem
  := by
  split <;> rfl

/-- A computation that gives a value only under a condition has given one. -/
theorem value_guard {c : Prop} [Decidable c] {m : Reads (Option α)} {mem : Nat → UInt8} {a : α}
    (h : (if c then m else pure none).value mem = some a) :
  c ∧ m.value mem = some a
  := by
  rw [value_ite] at h
  split at h
  · use ‹_›, h
  · cases h

/-! ### Computations that stay within bounds -/

/-- All that a computation reads lies in the `n` bytes that start at `base`. -/
def Within (m : Reads α) (mem : Nat → UInt8) (base n : Nat) : Prop :=
  ∀ i ∈ m.offsets mem, base ≤ i ∧ i < base + n

/-- A computation reads only the `n` bytes that start at `base`, and its value has the property
`Q`. -/
structure Ensures (m : Reads α) (mem : Nat → UInt8) (base n : Nat) (Q : α → Prop) : Prop where
  within : m.Within mem base n
  value : Q (m.value mem)

variable {mem : Nat → UInt8} {base n i k : Nat} {Q : α → Prop}

theorem within_pure (a : α) :
  (pure a : Reads α).Within mem base n
  := by simp [Within]

theorem within_byte (hle : base ≤ i) (hlt : i < base + n) :
  (byte i).Within mem base n
  := by
  intro j hj
  obtain rfl := List.mem_singleton.mp hj
  use hle

theorem within_bytes (hle : base ≤ i) (hlt : i + k ≤ base + n) :
  (bytes i k).Within mem base n
  := by
  intro j hj
  obtain ⟨hlow, hhigh⟩ := mem_offsets_bytes.mp hj
  omega

theorem within_bind {m : Reads α} {f : α → Reads β} (hm : m.Within mem base n)
    (hf : (f (m.value mem)).Within mem base n) :
  (m >>= f).Within mem base n
  := by
  intro j hj
  rw [offsets_bind] at hj
  rcases List.mem_append.mp hj with hj | hj
  · apply hm j hj
  · apply hf j hj

theorem within_ite {c : Prop} [Decidable c] {m m' : Reads α} (hm : c → m.Within mem base n)
    (hm' : ¬ c → m'.Within mem base n) :
  (if c then m else m').Within mem base n
  := by
  split
  · apply hm ‹_›
  · apply hm' ‹_›

/-- What reads from a part of the bytes reads from all of them. -/
theorem Within.mono {m : Reads α} {base' n' : Nat} (h : m.Within mem base n)
    (hle : base' ≤ base) (hlt : base + n ≤ base' + n') :
  m.Within mem base' n'
  := by
  intro j hj
  have hj' := h j hj
  omega

theorem Ensures.mono {m : Reads α} {base' n' : Nat} (h : m.Ensures mem base n Q)
    (hle : base' ≤ base) (hlt : base + n ≤ base' + n') :
  m.Ensures mem base' n' Q
  := ⟨h.within.mono hle hlt, h.value⟩

theorem ensures_pure {a : α} (h : Q a) :
  (pure a : Reads α).Ensures mem base n Q
  := ⟨within_pure a, h⟩

theorem ensures_bind {m : Reads β} {f : β → Reads α} (hm : m.Within mem base n)
    (hf : (f (m.value mem)).Ensures mem base n Q) :
  (m >>= f).Ensures mem base n Q
  := ⟨within_bind hm hf.within, hf.value⟩

theorem ensures_byte {f : UInt8 → Reads α} (hle : base ≤ i) (hlt : i < base + n)
    (hf : (f (mem i)).Ensures mem base n Q) :
  (byte i >>= f).Ensures mem base n Q
  := ensures_bind (within_byte hle hlt) hf

theorem ensures_bytes {f : List UInt8 → Reads α} (hle : base ≤ i) (hlt : i + k ≤ base + n)
    (hf : (f ((bytes i k).value mem)).Ensures mem base n Q) :
  (bytes i k >>= f).Ensures mem base n Q
  := ensures_bind (within_bytes hle hlt) hf

theorem ensures_ite {c : Prop} [Decidable c] {m m' : Reads α} (hm : c → m.Ensures mem base n Q)
    (hm' : ¬ c → m'.Ensures mem base n Q) :
  (if c then m else m').Ensures mem base n Q
  := by
  split
  · apply hm ‹_›
  · apply hm' ‹_›

end Reads
