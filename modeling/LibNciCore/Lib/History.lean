/-!
# Histories

A history is a list of entries, the last one at the end. A property of entries that depends on
what came before is `Throughout` a history when every entry of it has the property.
-/

universe u

namespace History

variable {α : Type u} {P Q : List α → α → Prop} {l l' pre post : List α} {e : α}

/-- Every entry of a list has a property of itself and of what came before, `pre` being what came
before the list. -/
def From (P : List α → α → Prop) : List α → List α → Prop
  | _, [] => True
  | pre, e :: l => P pre e ∧ From P (pre ++ [e]) l

/-- Every entry of a history has a property of itself and of what came before. -/
def Throughout (P : List α → α → Prop) (l : List α) : Prop := From P [] l

instance decidableFrom (P : List α → α → Prop) [∀ pre e, Decidable (P pre e)] :
    ∀ pre l, Decidable (From P pre l)
  | _, [] => .isTrue trivial
  | pre, e :: l =>
      have : Decidable (From P (pre ++ [e]) l) := decidableFrom P (pre ++ [e]) l
      inferInstanceAs (Decidable (P pre e ∧ From P (pre ++ [e]) l))

instance decidableThroughout (P : List α → α → Prop) [∀ pre e, Decidable (P pre e)]
    (l : List α) : Decidable (Throughout P l) :=
  decidableFrom P [] l

theorem from_append :
  From P pre (l ++ l') ↔ From P pre l ∧ From P (pre ++ l) l'
  := by
  induction l generalizing pre with
  | nil => simp [From]
  | cons e l ih => simp [From, ih, and_assoc]

theorem throughout_nil :
  Throughout P []
  := trivial

/-- One more entry. -/
theorem throughout_concat :
  Throughout P (l ++ [e]) ↔ Throughout P l ∧ P l e
  := by
  rw [Throughout, from_append]
  simp [From, Throughout]

theorem Throughout.of_append (h : Throughout P (l ++ l')) :
  Throughout P l
  := (from_append.mp h).1

/-- An entry of a history. -/
theorem Throughout.entry (h : Throughout P (pre ++ e :: post)) :
  P pre e
  := by
  have h' := (from_append.mp h).2.1
  rw [List.nil_append] at h'
  apply h'

end History
