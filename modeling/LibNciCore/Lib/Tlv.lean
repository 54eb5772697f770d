import Mathlib.Data.List.Basic
import Mathlib.Data.List.Flatten

/-!
# Lists of values with type and length

A value comes with its type and its length, both of which are symbols like those that the value
consists of; `size` tells which number a symbol stands for. Values are written one after
another. A reader that knows how many there are gets them back one by one, and stops at the
first one that is not complete.
-/

universe u

/-- The symbols are the number of the items and the items; `size` tells which number a symbol stands
for. -/
def Enumerates {α β : Type u} (size : α → Nat) (encode : β → List α) (items : List β)
    (symbols : List α) : Prop :=
  ∃ n, size n = items.length ∧ symbols = n :: items.flatMap encode

/-- A value with its type and its length. -/
structure Tlv {α : Type u} (size : α → Nat) where
  type : α
  len : α
  value : List α
  length_value : value.length = size len
  deriving DecidableEq

namespace Tlv

variable {α : Type u} {size : α → Nat}

/-! ### Writing and reading -/

/-- A value as it is written. -/
def encode (t : Tlv size) : List α := t.type :: t.len :: t.value

/-- Values that are written one after another. -/
def encodeAll (ts : List (Tlv size)) : List α := ts.flatMap encode

theorem length_encode (t : Tlv size) :
  t.encode.length = size t.len + 2
  := congrArg (· + 2) t.length_value

@[simp]
theorem encodeAll_nil :
  encodeAll ([] : List (Tlv size)) = []
  := rfl

@[simp]
theorem encodeAll_cons (t : Tlv size) (ts : List (Tlv size)) :
  encodeAll (t :: ts) = t.encode ++ encodeAll ts
  := rfl

@[simp]
theorem encodeAll_append (ts ts' : List (Tlv size)) :
  encodeAll (ts ++ ts') = encodeAll ts ++ encodeAll ts'
  := List.flatMap_append

/-- The first value and what follows it, if it is complete. -/
def first : List α → Option (Tlv size × List α)
  | type :: len :: rest =>
      if h : size len ≤ rest.length then
        some (⟨type, len, rest.take (size len), List.length_take_of_le h⟩, rest.drop (size len))
      else none
  | _ => none

/-- At most `n` values, up to the first one that is not complete. -/
def scan : Nat → List α → List (Tlv size)
  | n + 1, symbols =>
      match first symbols with
      | some (t, rest) => t :: scan n rest
      | none => []
  | 0, _ => []

/-- What has been written is read. -/
theorem first_encode (t : Tlv size) (rest : List α) :
  first (t.encode ++ rest) = some (t, rest)
  := by
  obtain ⟨type, len, value, hlength⟩ := t
  have hle : size len ≤ (value ++ rest).length := by
    rw [List.length_append, ← hlength]
    apply Nat.le_add_right
  rw [encode, List.cons_append, List.cons_append, first, dif_pos hle]
  simp only [← hlength, List.take_left', List.drop_left']

/-- Values that have been written are read one by one. -/
theorem scan_encodeAll (ts : List (Tlv size)) (rest : List α) :
  scan ts.length (encodeAll ts ++ rest) = ts
  := by
  induction ts with
  | nil => rfl
  | cons t ts ih =>
      rw [encodeAll_cons, List.append_assoc, List.length_cons, scan, first_encode]
      exact congrArg (t :: ·) ih

/-- What comes first has been written. -/
theorem eq_encode_of_first {symbols rest : List α} {t : Tlv size}
    (h : first symbols = some (t, rest)) :
  symbols = t.encode ++ rest
  := by
  match symbols with
  | [] => cases h
  | [_] => cases h
  | type :: len :: rest' =>
      rw [first] at h
      split at h
      · injection h with h
        injection h with ht hrest
        rw [← ht, ← hrest, encode, List.cons_append, List.cons_append, List.take_append_drop]
      · cases h

theorem length_scan_le (n : Nat) (symbols : List α) :
  (scan n symbols : List (Tlv size)).length ≤ n
  := by
  induction n generalizing symbols with
  | zero => apply Nat.le_refl
  | succ n ih =>
      rw [scan]
      cases first symbols with
      | none => apply Nat.zero_le
      | some p => apply Nat.succ_le_succ (ih p.2)

/-- The values that are read come first. If there are fewer than asked for, what follows them does
not start with a complete one. -/
theorem scan_spec (n : Nat) (symbols : List α) :
  ∃ rest, symbols = encodeAll (scan n symbols : List (Tlv size)) ++ rest
    ∧ ((scan n symbols : List (Tlv size)).length = n
      ∨ first rest = (none : Option (Tlv size × List α)))
  := by
  induction n generalizing symbols with
  | zero => exact ⟨symbols, rfl, Or.inl rfl⟩
  | succ n ih =>
      rw [scan]
      cases hfirst : (first symbols : Option (Tlv size × List α)) with
      | none => exact ⟨symbols, rfl, Or.inr hfirst⟩
      | some p =>
          obtain ⟨t, symbols'⟩ := p
          obtain ⟨rest, hrest, hstop⟩ := ih symbols'
          use rest
          constructor
          · rw [eq_encode_of_first hfirst, encodeAll_cons, List.append_assoc, ← hrest]
          · rcases hstop with hn | hstop
            · left
              rw [List.length_cons, hn]
            · right
              apply hstop

/-! ### Lists with their number -/

/-- The symbols are the number of the values and the values. -/
abbrev Lists (ts : List (Tlv size)) (symbols : List α) : Prop := Enumerates size encode ts symbols

/-! ### Looking values up -/

variable [DecidableEq α]

/-- The first value of a type. -/
def lookup (type : α) (ts : List (Tlv size)) : Option (List α) :=
  (ts.find? fun t => t.type == type).map value

theorem lookup_cons_self (t : Tlv size) (ts : List (Tlv size)) :
  lookup t.type (t :: ts) = some t.value
  := by simp [lookup]

theorem lookup_cons_of_ne {t : Tlv size} {type : α} (h : t.type ≠ type) (ts : List (Tlv size)) :
  lookup type (t :: ts) = lookup type ts
  := by
  rw [lookup, List.find?_cons_of_neg (by simpa using h)]
  rfl

/-- A type is found if there is a value of that type. -/
theorem lookup_eq_none_iff {type : α} {ts : List (Tlv size)} :
  lookup type ts = none ↔ type ∉ ts.map Tlv.type
  := by
  simp [lookup]

/-- Values replace those of the same types, or are added. -/
def update (new old : List (Tlv size)) : List (Tlv size) :=
  new ++ old.filter fun t => t.type ∉ new.map Tlv.type

/-- The value of a type is that of the first one with the type. -/
theorem lookup_eq_some_iff {type : α} {ts : List (Tlv size)} {value : List α} :
  lookup type ts = some value
    ↔ ∃ before t after, ts = before ++ t :: after ∧ t.type = type ∧ t.value = value
      ∧ ∀ s ∈ before, s.type ≠ type
  := by
  rw [lookup, Option.map_eq_some_iff]
  constructor
  · rintro ⟨t, hfind, hvalue⟩
    obtain ⟨ht, before, after, hts, hbefore⟩ := List.find?_eq_some_iff_append.mp hfind
    use before, t, after, hts, by simpa using ht, hvalue
    simpa using hbefore
  · rintro ⟨before, t, after, rfl, ht, hvalue, hbefore⟩
    use t
    constructor
    · apply List.find?_eq_some_iff_append.mpr
      use by simpa using ht, before, after, rfl
      simpa using hbefore
    · exact hvalue

/-- If no type comes twice, the value of every type is found. -/
theorem lookup_of_mem {ts : List (Tlv size)} (hnodup : (ts.map Tlv.type).Nodup) {t : Tlv size}
    (ht : t ∈ ts) :
  lookup t.type ts = some t.value
  := by
  obtain ⟨before, after, rfl⟩ := List.append_of_mem ht
  apply lookup_eq_some_iff.mpr
  use before, t, after, rfl, rfl, rfl
  intro s hs heq
  rw [List.map_append, List.map_cons] at hnodup
  have hdisjoint := (List.nodup_append.mp hnodup).2.2
  apply hdisjoint s.type (List.mem_map_of_mem hs) t.type List.mem_cons_self heq

theorem lookup_append (type : α) (ts ts' : List (Tlv size)) :
  lookup type (ts ++ ts') = (lookup type ts).or (lookup type ts')
  := by
  rw [lookup, List.find?_append, lookup, lookup]
  cases ts.find? fun t => t.type == type <;> rfl

theorem lookup_filter {type : α} {p : α → Bool} (h : p type = true) (ts : List (Tlv size)) :
  lookup type (ts.filter fun t => p t.type) = lookup type ts
  := by
  induction ts with
  | nil => rfl
  | cons t ts ih =>
      by_cases ht : t.type = type
      · obtain rfl := ht
        rw [List.filter_cons, if_pos h, lookup_cons_self, lookup_cons_self]
      · rw [lookup_cons_of_ne ht, ← ih, List.filter_cons]
        split
        · apply lookup_cons_of_ne ht
        · rfl

/-- A value that is updated is the new one, if there is one, and the old one otherwise. -/
theorem lookup_update (type : α) (new old : List (Tlv size)) :
  lookup type (update new old) = (lookup type new).or (lookup type old)
  := by
  rw [update, lookup_append]
  cases hnew : lookup type new with
  | some value => rfl
  | none =>
      have hnot : decide (type ∉ new.map Tlv.type) = true :=
        decide_eq_true (lookup_eq_none_iff.mp hnew)
      have hfilter := lookup_filter (p := fun type => decide (type ∉ new.map Tlv.type)) hnot old
      rw [Option.none_or, Option.none_or]
      exact hfilter

end Tlv
