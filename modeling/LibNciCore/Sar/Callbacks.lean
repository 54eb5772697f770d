import LibNciCore.Sar.LifeCycle

/-!
# The functions of a packet

In every run of the layer, resets and changes of the number of connections included, the functions
that packets come with are called as their accounts say. The functions of a packet that has
functions of its own are called at most once, the completion function not after the packet has been
cancelled or swept away, and the destroy function last.
-/

namespace Nci

open History

variable {P : Call → Prop} {A : App P}

/-- What is accounted for after a run. -/
theorem App.Discreet.accounted (hA : A.Discreet) (n : Nat) (events : List (Event P))
    (htame : ∀ e ∈ (A.run n (World.start nciSarNew) events).env, e.Tame A.fuel) :
  Moment.Intact (A.run n (World.start nciSarNew) events, [])
    ∧ Moment.Accounted (A.run n (World.start nciSarNew) events, [])
  := (A.run_moves n (World.start nciSarNew) events).accounted hA intact_start accounted_start htame

/-- The accounts are right after every run in which destroy functions call nothing, and in which
the number of connections is not changed while there are data packets that stay. -/
theorem everyPacketAccounted (A : App P) (hA : A.Discreet) (n : Nat) (events : List (Event P))
    (htame : ∀ e ∈ (A.run n (World.start nciSarNew) events).env, e.Tame A.fuel) :
  let w := A.run n (World.start nciSarNew) events
  (∀ f, Log.accepted f w.env
      = Log.completed f w.env + Log.forgotten f w.env + w.sar.waiting f)
    ∧ (∀ g, Log.acceptedWith g w.env = Log.destroyed g w.env + w.sar.held g)
    ∧ Throughout Entry.Due w.env
  := by
  obtain ⟨-, hacc⟩ := hA.accounted n events htame
  refine ⟨?_, hacc.ledger.destructions, hacc.ledger.due⟩
  intro f
  have hcount := hacc.ledger.completions f
  rw [NciSar.waiting, hcount]
  congr 1
  apply Counting.count_congr
  intro a _
  exact ⟨And.left, fun h => ⟨h, List.not_mem_nil⟩⟩

/-- An application that takes every segment, makes no calls of its own, and calls anything. -/
def passiveApp : App fun _ => True where
  halStart _ := true
  halWrite _ := true
  react _ := []
  fuel := 8

/-- A command is written, another one is being written when the layer is reset, and a data packet is
queued then. -/
def sweptEvents : List (Event fun _ => True) :=
  [.call ⟨.sendCommand 0 1 none (some 1) (some 2), trivial⟩,
    .call ⟨.sendCommand 0 2 none (some 3) (some 4), trivial⟩,
    .call ⟨.sendDataPacket 0 none (some 5) (some 6), trivial⟩, .idle, .writeCompleted true,
    .call ⟨.reset, trivial⟩]

/-- The packets are accounted for: the data packet is not reported. -/
theorem everyPacketAccounted_sweptEvents :
  ∃ w : World Log, w = passiveApp.run 0 (World.start nciSarNew) sweptEvents
    ∧ Log.completed 1 w.env = 1 ∧ Log.completed 3 w.env = 1 ∧ Log.completed 5 w.env = 0
    ∧ Log.accepted 5 w.env = Log.completed 5 w.env + Log.forgotten 5 w.env + w.sar.waiting 5
    ∧ Log.acceptedWith 6 w.env = Log.destroyed 6 w.env + w.sar.held 6
  := by
  have haccounted := everyPacketAccounted passiveApp (fun _ _ => rfl) 0 sweptEvents (by decide)
  exact ⟨_, rfl, by decide, by decide, by decide, haccounted.1 5, haccounted.2.1 6⟩

/-- The functions of a packet that has been accepted, `f` for its completion and `g` for its
destruction, are called in order. -/
structure Acceptance.InOrder (p : Acceptance) (f g : Nat) (log : Log) : Prop where
  completedOnce : Log.completed f log + Log.forgotten f log ≤ 1
  destroyedOnce : Log.destroyed g log ≤ 1
  completed : ∀ pre ok post, log = pre ++ .complete f ok :: post →
    Log.completed f pre = 0 ∧ Log.forgotten f pre = 0 ∧ Log.destroyed g pre = 0
  written : ∀ pre post, log = pre ++ .complete f true :: post →
    ∃ sar, Entry.completed true sar ∈ pre ∧ sar.writing = some p.addr
      ∧ sar.isDoneAt p.addr = true
  destroyed : ∀ pre post, log = pre ++ .destroy g :: post →
    Log.completed f pre + Log.forgotten f pre = 1 ∧ Log.destroyed g pre = 0

theorem acceptances_append (pre post : Log) :
  acceptances (pre ++ post) = acceptances pre ++ acceptances post
  := List.filterMap_append

theorem accepted_append_le (f : Nat) (pre post : Log) :
  Log.accepted f pre ≤ Log.accepted f (pre ++ post)
  := by
  rw [Log.accepted, Log.accepted, acceptances_append, List.countP_append]
  apply Nat.le_add_right

theorem acceptedWith_append_le (g : Nat) (pre post : Log) :
  Log.acceptedWith g pre ≤ Log.acceptedWith g (pre ++ post)
  := by
  rw [Log.acceptedWith, Log.acceptedWith, acceptances_append, List.countP_append]
  apply Nat.le_add_right

/-- What is in the account is in the accounts of longer logs. -/
theorem settled_append_le (f : Nat) (pre post : Log) :
  Log.completed f pre + Log.forgotten f pre
    ≤ Log.completed f (pre ++ post) + Log.forgotten f (pre ++ post)
  := by
  rw [Log.completed, Log.completed, Log.forgotten, Log.forgotten, List.countP_append,
    List.map_append, List.sum_append]
  omega

/-- Where a property is counted once, only one member of a list has it. -/
theorem eq_of_countP_le_one {α : Type} {q : α → Bool} {l : List α} (hl : l.countP q ≤ 1) {x y : α}
    (hx : x ∈ l) (hqx : q x = true) (hy : y ∈ l) (hqy : q y = true) :
  x = y
  := by
  rw [List.countP_eq_length_filter] at hl
  have hx' : x ∈ l.filter q := List.mem_filter.mpr ⟨hx, hqx⟩
  have hy' : y ∈ l.filter q := List.mem_filter.mpr ⟨hy, hqy⟩
  cases h : l.filter q with
  | nil =>
      rw [h] at hx'
      cases hx'
  | cons z zs =>
      rw [h] at hl hx' hy'
      obtain rfl : zs = [] := by simpa using hl
      rw [List.mem_singleton.mp hx', List.mem_singleton.mp hy']

/-- A packet that has functions of its own. -/
theorem callbacksInOrder (A : App P) (hA : A.Discreet) (n : Nat) (events : List (Event P))
    (htame : ∀ e ∈ (A.run n (World.start nciSarNew) events).env, e.Tame A.fuel) {p : Acceptance}
    {f g : Nat} (hp : p ∈ acceptances (A.run n (World.start nciSarNew) events).env)
    (hf : p.complete = some f) (hg : p.destroy = some g)
    (hown : Log.accepted f (A.run n (World.start nciSarNew) events).env = 1)
    (hown' : Log.acceptedWith g (A.run n (World.start nciSarNew) events).env = 1) :
  p.InOrder f g (A.run n (World.start nciSarNew) events).env
  := by
  obtain ⟨-, hacc⟩ := hA.accounted n events htame
  obtain ⟨log, hlog⟩ : ∃ log, log = (A.run n (World.start nciSarNew) events).env := ⟨_, rfl⟩
  have hcompletions := hacc.ledger.completions f
  have hdestructions := hacc.ledger.destructions g
  have hdue := hacc.ledger.due
  simp only at hcompletions hdestructions hdue
  rw [← hlog] at hcompletions hdestructions hdue hp hown hown' ⊢
  have hmem : ∀ {pre post : Log} {q : Acceptance}, log = pre ++ post → q ∈ acceptances pre →
      q ∈ acceptances log := by
    intro pre post q heq hq
    rw [heq, acceptances_append]
    exact List.mem_append_left _ hq
  have hcomplete : ∀ q ∈ acceptances log, q.complete = some f → q = p := by
    intro q hq hqf
    apply eq_of_countP_le_one (Nat.le_of_eq hown) hq (by simpa using hqf) hp (by simpa using hf)
  have hdestroy : ∀ q ∈ acceptances log, q.destroy = some g → q = p := by
    intro q hq hqg
    apply eq_of_countP_le_one (Nat.le_of_eq hown') hq (by simpa using hqg) hp (by simpa using hg)
  have hone : ∀ {pre post : Log}, log = pre ++ post →
      Log.accepted f pre ≤ 1 ∧ Log.acceptedWith g pre ≤ 1 := by
    intro pre post heq
    have hle := accepted_append_le f pre post
    have hle' := acceptedWith_append_le g pre post
    rw [← heq] at hle hle'
    omega
  constructor
  · omega
  · omega
  · intro pre ok post heq
    rw [heq] at hdue
    obtain ⟨hlt, q, hq, hqf, hheld, -⟩ := hdue.entry
    obtain rfl := hcomplete q (hmem heq hq) hqf
    have hlt' := hheld g hg
    obtain ⟨hle, hle'⟩ := hone heq
    omega
  · intro pre post heq
    rw [heq] at hdue
    obtain ⟨-, q, hq, hqf, -, hwritten⟩ := hdue.entry
    obtain rfl := hcomplete q (hmem heq hq) hqf
    exact hwritten rfl
  · intro pre post heq
    rw [heq] at hdue
    obtain ⟨hlt, q, hq, hqg, hsettled⟩ := hdue.entry
    obtain rfl := hdestroy q (hmem heq hq) hqg
    have hpos := hsettled f hf
    have hle := settled_append_le f pre (.destroy g :: post)
    rw [← heq] at hle
    obtain ⟨-, hle'⟩ := hone heq
    omega

/-- The functions of the command that is being written when the layer is reset. -/
theorem callbacksInOrder_sweptEvents :
  Acceptance.InOrder ⟨1, some 3, some 4⟩ 3 4
    (passiveApp.run 0 (World.start nciSarNew) sweptEvents).env
  := by
  apply callbacksInOrder passiveApp (fun _ _ => rfl) 0 sweptEvents (by decide) (by decide) rfl rfl
  · decide
  · decide

end Nci
