import LibNciCore.Sar.Kept

/-!
# Moves of a run

A run of the layer in which any of its functions are called, and in which packets have destroy
functions that call nothing, is cut into moves: those of the layer, and what its functions do
before they call the client. Resets and changes of the number of connections are moves, too.
-/

namespace Nci

variable {P : Call → Prop}

/-- The destroy functions of packets call nothing. -/
def App.Discreet (A : App P) : Prop :=
  ∀ (log : Log) (f : Nat), A.react (log ++ [.destroy f]) = []

/-- An entry that goes with no change of the state and with no call of a function that comes with
a packet. -/
def Entry.Remark : Entry → Prop
  | .idle | .halError | .error | .response _ _ _ | .notification _ _ _ | .dataPacket _ _ => True
  | _ => False

/-- A move of a run. -/
inductive AppMove (A : App P) : Moment Log → Moment Log → Prop
  | layer {x y : Moment Log} (perform : List (Subtype P) → World Log → World Log) :
      (∀ w, perform [] w = w) → Move (A.envWith perform) x y → AppMove A x y
  | noted {w : World Log} {S : List Leaving} {e : Entry} :
      Ready S → e.Remark → AppMove A (w, S) (w.record e, S)
  | received {w : World Log} {S : List Leaving} (packet : List UInt8) :
      Ready S → AppMove A (w, S) (w.record (.received packet w.sar.snapshot), S)
  | called {w : World Log} {S : List Leaving} {c : Call}
      (perform : List (Subtype P) → World Log → World Log) :
      (∀ w, perform [] w = w) → Ready S → P c → c ≠ .reset →
      AppMove A (w, S)
        (c.perform (A.envWith perform) A.fuel (w.record (.called c w.sar.snapshot)), S)
  | reset {w : World Log} {S : List Leaving}
      (perform : List (Subtype P) → World Log → World Log) :
      (∀ w, perform [] w = w) → Ready S → P .reset →
      AppMove A (w, S)
        (nciSarResetClear (A.envWith perform) A.fuel (w.record (.called .reset w.sar.snapshot)),
          w.sar.dropped ++ S)
  | completed {w : World Log} {S : List Leaving} {a : Nat} (ok : Bool) :
      Ready S → w.sar.writePending = true → w.sar.writing = some a →
      AppMove A (w, S)
        ((w.record (.completed ok w.sar.snapshot)).map fun sar => sar.completedEffect ok a,
          w.sar.reported ok a ++ S)
  | stray {w : World Log} {S : List Leaving} (ok : Bool) :
      Ready S → w.sar.writing = none →
      AppMove A (w, S) (w.record (.completed ok w.sar.snapshot), S)
  | reported {w : World Log} {S : List Leaving} {a f : Nat} {ok : Bool} :
      (w.sar.heap a).bind NciSarPacketOut.complete = some f →
      AppMove A (w, .finish a ok :: S) (w.record (.complete f ok), .free a :: S)

/-- A sequence of moves. -/
abbrev AppMoves (A : App P) : Moment Log → Moment Log → Prop := Relation.ReflTransGen (AppMove A)

/-! ### The functions are sequences of moves -/

namespace App

variable (A : App P) {perform : List (Subtype P) → World Log → World Log} {w : World Log}
  {S : List Leaving}

/-- Calls that are sequences of moves. No calls do nothing. -/
structure Moving (perform : List (Subtype P) → World Log → World Log) : Prop where
  nil : ∀ w, perform [] w = w
  moves : ∀ (calls : List (Subtype P)) (w : World Log) (S : List Leaving), Ready S →
    AppMoves A (w, S) (perform calls w, S)

variable {A} (hperform : A.Moving perform)

include hperform

/-- A callback of the client. -/
theorem Moving.callback (hS : Ready S) {e : Entry} (he : e.Remark) (w : World Log) :
  AppMoves A (w, S) (perform (A.react (w.record e).env) (w.record e), S)
  := by
  apply Relation.ReflTransGen.head (AppMove.noted hS he)
  apply hperform.moves _ _ S hS

/-- The layer follows the moves. -/
theorem Moving.follows :
  (A.envWith perform).Follows (AppMove A)
  := by
  constructor
  · intro x y h
    apply AppMove.layer perform hperform.nil h
  · intro f ok w a S hf
    apply Relation.ReflTransGen.head (AppMove.reported hf)
    have hfree : Ready (.free a :: S) := trivial
    apply hperform.moves _ (w.record (.complete f ok)) _ hfree
  · intro w S hS
    apply hperform.callback (e := .error) hS trivial
  · intro gid oid payload w S hS
    apply hperform.callback (e := .response gid oid payload) hS trivial
  · intro gid oid payload w S hS
    apply hperform.callback (e := .notification gid oid payload) hS trivial
  · intro cid payload w S hS
    apply hperform.callback (e := .dataPacket cid payload) hS trivial

/-- A call. -/
theorem Moving.call (hS : Ready S) (c : Subtype P) (w : World Log) :
  AppMoves A (w, S) (A.call (A.envWith perform) c w, S)
  := by
  obtain ⟨c, hc⟩ := c
  by_cases hreset : c = .reset
  · subst hreset
    rw [App.call]
    apply hperform.follows.reset (w := w.record (.called .reset w.sar.snapshot))
    apply Relation.ReflTransGen.single
    apply AppMove.reset perform hperform.nil hS hc
  · apply Relation.ReflTransGen.single
    apply AppMove.called perform hperform.nil hS hc hreset

omit hperform in
/-- Calls are sequences of moves, at every depth. -/
theorem moving_env (A : App P) :
  ∀ n, ∃ perform, A.env n = A.envWith perform ∧ A.Moving perform
  | 0 => ⟨fun _ w => w, rfl, fun _ => rfl, fun _ _ _ _ => Relation.ReflTransGen.refl⟩
  | n + 1 => by
      obtain ⟨perform, henv, hperform⟩ := moving_env A n
      refine ⟨_, rfl, fun _ => rfl, ?_⟩
      intro calls w S hS
      induction calls generalizing w with
      | nil => apply Relation.ReflTransGen.refl
      | cons c calls ih =>
          apply Relation.ReflTransGen.trans _ (ih (A.call (A.env n) c w))
          rw [henv]
          apply hperform.call hS

omit hperform in
/-- An event is a sequence of moves. -/
theorem step_moves (A : App P) (n : Nat) (w : World Log) (e : Event P) :
  AppMoves A (w, []) (A.step n w e, [])
  := by
  obtain ⟨perform, henv, hperform⟩ := A.moving_env n
  have hE := hperform.follows
  have hS : Ready [] := trivial
  cases e with
  | call c =>
      rw [App.step, henv]
      apply hperform.call hS
  | segment packet =>
      rw [App.step, henv]
      apply Relation.ReflTransGen.head (AppMove.received packet hS)
      apply hE.handleSegment hS
  | writeCompleted ok =>
      rw [App.step, henv]
      split
      · rename_i hp
        cases ha : w.sar.writing with
        | none =>
            have hnone : nciSarWriteCompleted (A.envWith perform) ok
                (w.record (.completed ok w.sar.snapshot))
                = w.record (.completed ok w.sar.snapshot) := by
              rw [nciSarWriteCompleted]
              dsimp only [World.record]
              rw [ha]
            rw [hnone]
            apply Relation.ReflTransGen.single
            apply AppMove.stray ok hS ha
        | some a =>
            apply hE.writeCompleted hS (w := w.record (.completed ok w.sar.snapshot)) ha
            apply Relation.ReflTransGen.single
            apply AppMove.completed ok hS hp ha
      · apply Relation.ReflTransGen.refl
  | idle =>
      rw [App.step, henv]
      split
      · apply Relation.ReflTransGen.head (AppMove.noted (e := .idle) hS trivial)
        apply hE.startWrite hS
      · apply Relation.ReflTransGen.refl
  | halError =>
      rw [App.step, henv]
      apply Relation.ReflTransGen.head (AppMove.noted (e := .halError) hS trivial)
      apply hE.error _ [] hS

omit hperform in
/-- A run is a sequence of moves. -/
theorem run_moves (A : App P) (n : Nat) (w : World Log) (events : List (Event P)) :
  AppMoves A (w, []) (A.run n w events, [])
  := by
  induction events generalizing w with
  | nil => apply Relation.ReflTransGen.refl
  | cons e events ih =>
      apply (A.step_moves n w e).trans
      apply ih

end App

end Nci
