import Mathlib.Data.List.Basic

/-!
# Framing of a stream

A framing tells the length of the frame a stream starts with, once enough of the stream is
known. `Framing.frames` cuts a stream into its frames and the incomplete frame it ends
with. A receiver that keeps the incomplete frame and handles the others
(`Framing.feed`) does the same whatever chunks the stream arrives in
(`Framing.foldl_feed`).
-/

universe u v

/-- The length of the frame a stream starts with. It is positive, and more input does not
change it. -/
structure Framing (α : Type u) where
  size : List α → Option Nat
  size_pos : ∀ {l : List α} {n : Nat}, size l = some n → 0 < n
  size_append : ∀ {l : List α} {n : Nat} (m : List α), size l = some n → size (l ++ m) = some n

namespace Framing

variable {α : Type u} (F : Framing α)

/-- The first frame of a stream and what follows it, if the frame is complete. -/
def split (l : List α) : Option (List α × List α) :=
  match F.size l with
  | some n => if n ≤ l.length then some (l.take n, l.drop n) else none
  | none => none

/-- The stream does not hold a complete frame. -/
def Incomplete (l : List α) : Prop := F.split l = none

theorem split_eq_some {l f r : List α} :
  F.split l = some (f, r)
    ↔ ∃ n, F.size l = some n ∧ n ≤ l.length ∧ f = l.take n ∧ r = l.drop n
  := by
  cases hn : F.size l with
  | none => simp [split, hn]
  | some n =>
      by_cases hle : n ≤ l.length
      · simp [split, hn, hle, eq_comm]
      · simp [split, hn, hle]

theorem split_length_lt {l f r : List α} (h : F.split l = some (f, r)) :
  r.length < l.length
  := by
  obtain ⟨n, hn, hle, -, rfl⟩ := F.split_eq_some.mp h
  have hpos := F.size_pos hn
  rw [List.length_drop]
  omega

/-- More input does not change the first frame. -/
theorem split_append {l f r : List α} (m : List α) (h : F.split l = some (f, r)) :
  F.split (l ++ m) = some (f, r ++ m)
  := by
  obtain ⟨n, hn, hle, rfl, rfl⟩ := F.split_eq_some.mp h
  apply F.split_eq_some.mpr
  use n, F.size_append m hn
  rw [List.length_append, List.take_append_of_le_length hle, List.drop_append_of_le_length hle]
  use Nat.le_add_right_of_le hle

/-- The frames of a stream, and the incomplete frame it ends with. -/
def frames (l : List α) : List (List α) × List α :=
  match _h : F.split l with
  | some (f, r) => (f :: (frames r).1, (frames r).2)
  | none => ([], l)
  termination_by l.length
  decreasing_by all_goals apply F.split_length_lt _h

theorem frames_of_split {l f r : List α} (h : F.split l = some (f, r)) :
  F.frames l = (f :: (F.frames r).1, (F.frames r).2)
  := by
  rw [frames]
  split
  · rename_i f' r' h'
    obtain ⟨rfl, rfl⟩ := Prod.mk.inj (Option.some.inj (h'.symm.trans h))
    rfl
  · rename_i h'
    simp [h'] at h

theorem frames_of_incomplete {l : List α} (h : F.Incomplete l) :
  F.frames l = ([], l)
  := by
  rw [frames]
  split
  · rename_i f r h'
    simp [Incomplete, h'] at h
  · rfl

/-- What a stream ends with is incomplete. -/
theorem frames_incomplete (l : List α) :
  F.Incomplete (F.frames l).2
  := by
  induction l using Framing.frames.induct F with
  | case1 l f r h ih =>
      rw [F.frames_of_split h]
      apply ih
  | case2 l h =>
      rw [F.frames_of_incomplete h]
      apply h

/-- Every frame of a stream is the first one of what is left of the stream there. -/
theorem exists_split_of_mem_frames {l f : List α} (hf : f ∈ (F.frames l).1) :
  ∃ m r, F.split m = some (f, r)
  := by
  induction l using Framing.frames.induct F with
  | case1 l g r h ih =>
      rw [F.frames_of_split h] at hf
      rcases List.mem_cons.mp hf with rfl | hf
      · use l, r
      · apply ih hf
  | case2 l h =>
      rw [F.frames_of_incomplete h] at hf
      cases hf

/-- The frames of a longer stream: those of its first part, and those of the incomplete
frame the first part ends with, continued by the second. -/
theorem frames_append (l m : List α) :
  F.frames (l ++ m)
    = ((F.frames l).1 ++ (F.frames ((F.frames l).2 ++ m)).1,
        (F.frames ((F.frames l).2 ++ m)).2)
  := by
  induction l using Framing.frames.induct F with
  | case1 l f r h ih =>
      rw [F.frames_of_split (F.split_append m h), F.frames_of_split h, ih]
      rfl
  | case2 l h =>
      rw [F.frames_of_incomplete h]
      rfl

/-- A stream that starts with whole frames. -/
theorem frames_of_whole {ps : List (List α)} (hps : ∀ p ∈ ps, F.size p = some p.length)
    (m : List α) :
  F.frames (ps.flatten ++ m) = (ps ++ (F.frames m).1, (F.frames m).2)
  := by
  induction ps with
  | nil => rfl
  | cons p ps ih =>
      have hp : F.split (p ++ (ps.flatten ++ m)) = some (p, ps.flatten ++ m) := by
        apply F.split_eq_some.mpr
        use p.length, F.size_append _ (hps p List.mem_cons_self)
        simp
      rw [List.flatten_cons, List.append_assoc, F.frames_of_split hp,
        ih fun q hq => hps q (List.mem_cons_of_mem p hq)]
      rfl

/-! ### Receivers -/

variable {σ : Type v} (handle : σ → List α → σ)

/-- A receiver gets a chunk: it handles the frames that are complete now and keeps the rest. -/
def feed (s : σ × List α) (chunk : List α) : σ × List α :=
  ((F.frames (s.2 ++ chunk)).1.foldl handle s.1, (F.frames (s.2 ++ chunk)).2)

/-- A receiver that keeps an incomplete frame does with a sequence of chunks what it does with
the whole stream. -/
theorem foldl_feed (chunks : List (List α)) (s : σ) (buf : List α) (hbuf : F.Incomplete buf) :
  chunks.foldl (F.feed handle) (s, buf) = F.feed handle (s, buf) chunks.flatten
  := by
  induction chunks generalizing s buf with
  | nil => simp [feed, F.frames_of_incomplete hbuf]
  | cons c chunks ih =>
      rw [List.foldl_cons, feed, ih _ _ (F.frames_incomplete _), feed, feed,
        List.flatten_cons, ← List.append_assoc, F.frames_append (buf ++ c),
        List.foldl_append]

end Framing
