import Mathlib.Data.List.Basic
import Mathlib.Data.List.Flatten

/-!
# Cutting a payload into pieces

A payload is cut into pieces under limits that may change from piece to piece: while more
than the limit is left, a piece of exactly the limit is cut off and marked as not the last
one; what fits into the limit is the last piece. `IsCut p ps` says that `ps` is such a cut
of `p`, and `Begins p ps r` that `ps` begins one and leaves `r` to be cut.
-/

universe u

namespace Cut

variable {α : Type u}

/-- A piece: the limit it was cut under, whether more pieces follow, and its content. -/
structure Piece (α : Type u) where
  limit : Nat
  more : Bool
  body : List α
  deriving DecidableEq, Repr

/-- The content of a sequence of pieces. -/
def bodies (ps : List (Piece α)) : List α := ps.flatMap Piece.body

@[simp]
theorem bodies_nil :
  bodies ([] : List (Piece α)) = []
  := rfl

@[simp]
theorem bodies_cons (q : Piece α) (ps : List (Piece α)) :
  bodies (q :: ps) = q.body ++ bodies ps
  := rfl

@[simp]
theorem bodies_append (ps qs : List (Piece α)) :
  bodies (ps ++ qs) = bodies ps ++ bodies qs
  := List.flatMap_append

/-- The pieces are a cut of the payload. -/
inductive IsCut : List α → List (Piece α) → Prop
  | last {p : List α} {n : Nat} : p.length ≤ n → IsCut p [⟨n, false, p⟩]
  | more {p : List α} {n : Nat} {ps : List (Piece α)} :
      n < p.length → IsCut (p.drop n) ps → IsCut p (⟨n, true, p.take n⟩ :: ps)

/-- The pieces begin a cut of the payload, and the rest is left. -/
inductive Begins : List α → List (Piece α) → List α → Prop
  | nil {p : List α} : Begins p [] p
  | more {p r : List α} {n : Nat} {ps : List (Piece α)} :
      n < p.length → Begins (p.drop n) ps r → Begins p (⟨n, true, p.take n⟩ :: ps) r

/-! ### Growing a cut -/

/-- One more piece that is not the last one. -/
theorem Begins.snoc {p r : List α} {ps : List (Piece α)} {n : Nat} (h : Begins p ps r)
    (hn : n < r.length) :
  Begins p (ps ++ [⟨n, true, r.take n⟩]) (r.drop n)
  := by
  induction h with
  | nil => apply Begins.more hn Begins.nil
  | more hm _ ih => apply Begins.more hm (ih hn)

/-- A cut of what is left completes the cut. -/
theorem Begins.append {p r : List α} {ps qs : List (Piece α)} (h : Begins p ps r)
    (hq : IsCut r qs) :
  IsCut p (ps ++ qs)
  := by
  induction h with
  | nil => apply hq
  | more hm _ ih => apply IsCut.more hm (ih hq)

/-- What is left is the last piece if it fits into the limit. -/
theorem Begins.finish {p r : List α} {ps : List (Piece α)} {n : Nat} (h : Begins p ps r)
    (hn : r.length ≤ n) :
  IsCut p (ps ++ [⟨n, false, r⟩])
  := h.append (IsCut.last hn)

/-- The pieces cut off and the rest make up the payload. -/
theorem Begins.bodies_append {p r : List α} {ps : List (Piece α)} (h : Begins p ps r) :
  bodies ps ++ r = p
  := by
  induction h with
  | nil => rfl
  | more _ _ ih =>
      rw [bodies_cons, List.append_assoc, ih]
      apply List.take_append_drop

/-- Every piece that begins a cut is marked as not the last one and fills its limit. -/
theorem Begins.full {p r : List α} {ps : List (Piece α)} (h : Begins p ps r) :
  ∀ q ∈ ps, q.more = true ∧ q.body.length = q.limit
  := by
  induction h with
  | nil => simp
  | more hm _ ih =>
      intro q hq
      rcases List.mem_cons.mp hq with rfl | hq
      · use rfl
        apply List.length_take_of_le (Nat.le_of_lt hm)
      · apply ih q hq

/-- If the limits are positive, there are no more pieces than items cut off. -/
theorem Begins.length_le {p r : List α} {ps : List (Piece α)} (h : Begins p ps r)
    (hpos : ∀ q ∈ ps, 0 < q.limit) :
  ps.length + r.length ≤ p.length
  := by
  induction h with
  | nil => simp
  | more hm _ ih =>
      have hn := hpos _ List.mem_cons_self
      have hrest := ih fun q hq => hpos q (List.mem_cons_of_mem _ hq)
      simp only [List.length_drop, List.length_cons] at hrest hn ⊢
      omega

/-! ### Cuts -/

/-- A cut is what begins it followed by its last piece. -/
theorem IsCut.exists_begins {p : List α} {ps : List (Piece α)} (h : IsCut p ps) :
  ∃ qs n r, ps = qs ++ [⟨n, false, r⟩] ∧ Begins p qs r ∧ r.length ≤ n
  := by
  induction h with
  | @last p n hn => use [], n, p, rfl, Begins.nil, hn
  | @more p n ps hm _ ih =>
      obtain ⟨qs, k, r, rfl, hb, hr⟩ := ih
      use ⟨n, true, p.take n⟩ :: qs, k, r, rfl, Begins.more hm hb, hr

/-- The pieces of a cut make up the payload. -/
theorem IsCut.bodies_eq {p : List α} {ps : List (Piece α)} (h : IsCut p ps) :
  bodies ps = p
  := by
  obtain ⟨qs, n, r, rfl, hb, -⟩ := h.exists_begins
  rw [bodies_append, ← hb.bodies_append]
  simp

/-- If the limits are positive, a cut has at most one piece more than the payload has
items. -/
theorem IsCut.length_le {p : List α} {ps : List (Piece α)} (h : IsCut p ps)
    (hpos : ∀ q ∈ ps, 0 < q.limit) :
  ps.length ≤ p.length + 1
  := by
  obtain ⟨qs, n, r, rfl, hb, -⟩ := h.exists_begins
  have hlen := hb.length_le fun q hq => hpos q (List.mem_append_left _ hq)
  rw [List.length_append, List.length_singleton]
  omega

/-- Every payload has a cut under a given positive limit. -/
theorem exists_isCut {n : Nat} (hn : 0 < n) (p : List α) :
  ∃ ps, IsCut p ps ∧ ∀ q ∈ ps, q.limit = n
  := by
  induction hk : p.length using Nat.strongRecOn generalizing p with
  | _ k ih =>
      by_cases hle : p.length ≤ n
      · use [⟨n, false, p⟩], IsCut.last hle
        simp
      · have hlt : n < p.length := Nat.lt_of_not_le hle
        obtain ⟨ps, hps, hlim⟩ := ih (p.drop n).length
          (by rw [List.length_drop]; omega) (p.drop n) rfl
        use ⟨n, true, p.take n⟩ :: ps, IsCut.more hlt hps
        simpa using hlim

end Cut
