import Mathlib.Data.List.Forall2
import Mathlib.Logic.Function.Basic

/-!
# Reassembling interleaved messages

Messages are cut into segments, all but the last of which say that more follow. The segments
of messages on different channels may be mixed in any way, while on each channel they come
message by message. A receiver that keeps one unfinished message for every channel
(`Reassembly.step`) gets every message back, in the order in which their last segments arrive
(`Interleaved.run`); of messages that are still arriving, it gets those that are complete
(`Arriving.run`).
-/

universe u v

namespace Reassembly

variable {κ η : Type u} {β : Type v}

/-- A segment: the header of its message, whether more segments follow, and a part of the
message. -/
structure Segment (η : Type u) (β : Type v) where
  header : η
  more : Bool
  body : List β
  deriving DecidableEq, Repr

/-- A message. -/
structure Message (η : Type u) (β : Type v) where
  header : η
  body : List β
  deriving DecidableEq, Repr

/-- What a receiver reports. -/
inductive Report (η : Type u) (β : Type v) where
  | message (m : Message η β)
  | error
  deriving DecidableEq, Repr

/-- The unfinished messages of the channels. -/
abbrev Partial (κ η : Type u) (β : Type v) := κ → Option (Message η β)

/-! ### The receiver -/

section

variable [DecidableEq κ] [DecidableEq η] (channel : η → κ)

/-- A segment arrives: it begins a message, continues the unfinished message of its channel,
or does not fit there. -/
def step (st : Partial κ η β) (s : Segment η β) : Partial κ η β × Option (Report η β) :=
  match st (channel s.header) with
  | some m =>
      if s.header = m.header then
        if s.more then
          (Function.update st (channel s.header) (some ⟨m.header, m.body ++ s.body⟩), none)
        else
          (Function.update st (channel s.header) none,
            some (.message ⟨m.header, m.body ++ s.body⟩))
      else (st, some .error)
  | none =>
      if s.more then
        (Function.update st (channel s.header) (some ⟨s.header, s.body⟩), none)
      else (st, some (.message ⟨s.header, s.body⟩))

/-- Segments arrive one after another. -/
def run : Partial κ η β → List (Segment η β) → Partial κ η β × List (Report η β)
  | st, [] => (st, [])
  | st, s :: ss =>
      ((run (step channel st s).1 ss).1,
        (step channel st s).2.toList ++ (run (step channel st s).1 ss).2)

end

/-! ### Interleaved messages -/

/-- The segments complete a message of which a part has arrived. -/
inductive Completes (m : Message η β) : List β → List (Segment η β) → Prop
  | last {part body : List β} : part ++ body = m.body →
      Completes m part [⟨m.header, false, body⟩]
  | more {part body : List β} {ss : List (Segment η β)} : Completes m (part ++ body) ss →
      Completes m part (⟨m.header, true, body⟩ :: ss)

/-- The segments make up a message. -/
def Message.IsCut (m : Message η β) (ss : List (Segment η β)) : Prop := Completes m [] ss

/-- On every channel the segments come message by message. -/
def Interleaved [DecidableEq κ] (channel : η → κ) (ss : List (Segment η β))
    (msgs : κ → List (Message η β)) : Prop :=
  ∀ c, ∃ cuts, List.Forall₂ Message.IsCut (msgs c) cuts
    ∧ ss.filter (fun s => channel s.header = c) = cuts.flatten

/-- The messages are reported in the order of their last segments: those of every channel in
their order, and those of different channels as their last segments come. -/
structure InOrder [DecidableEq κ] (channel : η → κ) (ss : List (Segment η β))
    (msgs : κ → List (Message η β)) (delivered : List (Message η β)) : Prop where
  each : ∀ c, delivered.filter (fun m => channel m.header = c) = msgs c
  order : delivered.map (fun m => channel m.header)
    = (ss.filter fun s => !s.more).map fun s => channel s.header

section

variable [DecidableEq κ] {channel : η → κ}

/-- The segments of a message have its header. -/
theorem Completes.header {m : Message η β} {part : List β} {ss : List (Segment η β)}
    (h : Completes m part ss) :
  ∀ s ∈ ss, s.header = m.header
  := by
  induction h with
  | last _ => simp
  | more _ ih =>
      intro s hs
      rcases List.mem_cons.mp hs with rfl | hs
      · rfl
      · apply ih s hs

/-- Every segment of an interleaving belongs to a message. -/
theorem Interleaved.exists_message {ss : List (Segment η β)} {msgs : κ → List (Message η β)}
    (h : Interleaved channel ss msgs) {s : Segment η β} (hs : s ∈ ss) :
  ∃ m ∈ msgs (channel s.header), s.header = m.header
  := by
  obtain ⟨cuts, hcuts, hss⟩ := h (channel s.header)
  have hmem : s ∈ cuts.flatten := by
    rw [← hss]
    apply List.mem_filter.mpr
    use hs
    simp
  clear hss
  generalize msgs (channel s.header) = ms at hcuts ⊢
  induction hcuts with
  | nil => simp at hmem
  | @cons m cut msgs cuts hc _ ih =>
      rw [List.flatten_cons] at hmem
      rcases List.mem_append.mp hmem with hmem | hmem
      · use m, List.mem_cons_self, hc.header s hmem
      · obtain ⟨m', hm', hheader⟩ := ih hmem
        use m', List.mem_cons_of_mem _ hm', hheader

/-- The segments of one message are an interleaving. -/
theorem Message.IsCut.interleaved {m : Message η β} {ss : List (Segment η β)} (h : m.IsCut ss) :
  Interleaved channel ss fun c => if channel m.header = c then [m] else []
  := by
  have hheader := h.header
  intro c
  simp only
  split
  · rename_i hc
    use [ss], List.Forall₂.cons h List.Forall₂.nil
    rw [List.flatten_singleton, List.filter_eq_self]
    intro s hs
    simpa [hheader s hs] using hc
  · rename_i hc
    use [], List.Forall₂.nil
    apply List.filter_eq_nil_iff.mpr
    intro s hs
    simpa [hheader s hs] using hc

/-- If all the segments are those of one message, that message is all that is delivered. -/
theorem InOrder.eq_singleton {m : Message η β} {ss : List (Segment η β)}
    {delivered : List (Message η β)} (hcut : m.IsCut ss)
    (h : InOrder channel ss (fun c => if channel m.header = c then [m] else []) delivered) :
  delivered = [m]
  := by
  have hall : ∀ m' ∈ delivered, channel m'.header = channel m.header := by
    intro m' hm'
    have hmem : channel m'.header ∈ delivered.map fun m => channel m.header :=
      List.mem_map_of_mem hm'
    rw [h.order] at hmem
    obtain ⟨s, hs, heq⟩ := List.mem_map.mp hmem
    rw [← heq, hcut.header s (List.mem_filter.mp hs).1]
  have heach := h.each (channel m.header)
  rw [if_pos rfl, List.filter_eq_self.mpr] at heach
  · apply heach
  · intro m' hm'
    simpa using hall m' hm'

/-- What is still to come on a channel, given its unfinished message: the rest of that message,
and further messages. -/
def Remaining (part : Option (Message η β)) (ss : List (Segment η β))
    (msgs : List (Message η β)) : Prop :=
  match part with
  | none => ∃ cuts, List.Forall₂ Message.IsCut msgs cuts ∧ ss = cuts.flatten
  | some p => ∃ m msgs' rest cuts, msgs = m :: msgs' ∧ p.header = m.header
      ∧ Completes m p.body rest ∧ List.Forall₂ Message.IsCut msgs' cuts
      ∧ ss = rest ++ cuts.flatten

theorem remaining_nil {part : Option (Message η β)} {msgs : List (Message η β)}
    (h : Remaining part [] msgs) :
  part = none ∧ msgs = []
  := by
  have hne : ∀ {m : Message η β} {l ss}, Completes m l ss → ss ≠ [] := by
    intro m l ss hc
    cases hc <;> simp
  cases part with
  | some p =>
      obtain ⟨m, msgs', rest, cuts, -, -, hc, -, hnil⟩ := h
      apply absurd (List.append_eq_nil_iff.mp hnil.symm).1 (hne hc)
  | none =>
      obtain ⟨cuts, hcuts, hnil⟩ := h
      use rfl
      cases hcuts with
      | nil => rfl
      | cons hc _ =>
          rw [List.flatten_cons] at hnil
          apply absurd (List.append_eq_nil_iff.mp hnil.symm).1 (hne hc)

/-- The next segment on a channel continues its unfinished message or begins one. -/
theorem remaining_cons {part : Option (Message η β)} {s : Segment η β} {ss : List (Segment η β)}
    {msgs : List (Message η β)} (h : Remaining part (s :: ss) msgs) :
  ∃ m msgs', msgs = m :: msgs' ∧ s.header = m.header
    ∧ (∀ p, part = some p → p.header = m.header)
    ∧ (s.more = true →
        Remaining (some ⟨m.header, (part.map Message.body).getD [] ++ s.body⟩) ss msgs)
    ∧ (s.more = false → m.body = (part.map Message.body).getD [] ++ s.body
        ∧ Remaining none ss msgs')
  := by
  obtain ⟨m, msgs', rest, cuts, rfl, hheader, hc, hcuts, hss⟩ : ∃ m msgs' rest cuts,
      msgs = m :: msgs' ∧ (∀ p, part = some p → p.header = m.header)
        ∧ Completes m ((part.map Message.body).getD []) rest
        ∧ List.Forall₂ Message.IsCut msgs' cuts ∧ s :: ss = rest ++ cuts.flatten := by
    cases part with
    | some p =>
        obtain ⟨m, msgs', rest, cuts, hmsgs, hheader, hc, hcuts, hss⟩ := h
        use m, msgs', rest, cuts, hmsgs
        exact ⟨fun p' hp' => Option.some.inj hp' ▸ hheader, hc, hcuts, hss⟩
    | none =>
        obtain ⟨cuts, hcuts, hss⟩ := h
        cases hcuts with
        | nil => simp at hss
        | @cons m cut msgs' cuts hc hcuts =>
            use m, msgs', cut, cuts, rfl, by simp, hc, hcuts
            rw [hss, List.flatten_cons]
  use m, msgs', rfl
  cases hc with
  | @last _ body hbody =>
      obtain ⟨rfl, hrest⟩ := List.cons.inj hss
      use rfl, hheader
      constructor
      · intro hmore
        simp at hmore
      · intro _
        use hbody.symm, cuts, hcuts
        apply hrest
  | @more _ body rest hc =>
      obtain ⟨rfl, hrest⟩ := List.cons.inj hss
      use rfl, hheader
      constructor
      · intro _
        use m, msgs', rest, cuts, rfl, rfl, hc, hcuts
        apply hrest
      · intro hmore
        simp at hmore

variable [DecidableEq η]

/-- A segment that comes in its turn is taken, and its message is reported if it is
complete. -/
theorem step_of_remaining {st : Partial κ η β} {s : Segment η β} {m : Message η β}
    (hheader : s.header = m.header)
    (hpart : ∀ p, st (channel s.header) = some p → p.header = m.header) :
  step channel st s
    = (Function.update st (channel s.header)
        (if s.more then
          some ⟨m.header, ((st (channel s.header)).map Message.body).getD [] ++ s.body⟩
        else none),
      if s.more then none
      else some (.message ⟨m.header,
        ((st (channel s.header)).map Message.body).getD [] ++ s.body⟩))
  := by
  rw [step]
  cases hst : st (channel s.header) with
  | some p =>
      have hp := hpart p hst
      simp only [hheader, hp, if_true, Option.map_some, Option.getD_some]
      split <;> rfl
  | none =>
      have hself : Function.update st (channel s.header) none = st := by
        rw [← hst, Function.update_eq_self]
      simp only [Option.map_none, Option.getD_none, List.nil_append]
      split
      · rw [hheader]
      · rw [hself, hheader]

/-- A receiver gets the messages whose last segments come, from segments that begin what is still
to come, and what follows them remains. -/
theorem run_of_remaining {ss : List (Segment η β)} {st : Partial κ η β}
    {msgs : κ → List (Message η β)} {rest : κ → List (Segment η β)}
    (h : ∀ c, Remaining (st c) ((ss.filter fun s => channel s.header = c) ++ rest c) (msgs c)) :
  ∃ (st' : Partial κ η β) (delivered : List (Message η β)) (later : κ → List (Message η β)),
    run channel st ss = (st', delivered.map .message)
    ∧ (∀ c, msgs c = delivered.filter (fun m => channel m.header = c) ++ later c)
    ∧ (∀ c, Remaining (st' c) (rest c) (later c))
    ∧ delivered.map (fun m => channel m.header)
      = (ss.filter fun s => !s.more).map fun s => channel s.header
  := by
  induction ss generalizing st msgs with
  | nil => exact ⟨st, [], msgs, rfl, fun _ => rfl, h, rfl⟩
  | cons s ss ih =>
      obtain ⟨c₀, hc₀⟩ : ∃ c₀, c₀ = channel s.header := ⟨_, rfl⟩
      have hs := h c₀
      rw [List.filter_cons_of_pos (by simp [hc₀]), List.cons_append] at hs
      obtain ⟨m, msgs', hmsgs, hheader, hpart, hmore, hlast⟩ := remaining_cons hs
      rw [hc₀] at hpart
      have hstep := step_of_remaining hheader hpart
      rw [← hc₀] at hstep
      have hother : ∀ c, c ≠ c₀ → Remaining (st c)
          ((ss.filter fun s => channel s.header = c) ++ rest c) (msgs c) := by
        intro c hc
        have hrest := h c
        rw [List.filter_cons_of_neg (by simpa [← hc₀] using Ne.symm hc)] at hrest
        apply hrest
      cases hflag : s.more with
      | true =>
          simp only [hflag, if_true] at hstep
          have hst := congrArg Prod.fst hstep
          simp only at hst
          obtain ⟨st', delivered, later, hrun, heach, hlater, horder⟩ :=
            @ih (step channel st s).1 msgs (by
              intro c
              rw [hst]
              by_cases hc : c = c₀
              · subst hc
                rw [Function.update_self]
                apply hmore hflag
              · rw [Function.update_of_ne hc]
                apply hother c hc)
          use st', delivered, later
          constructor
          · rw [run, hrun, hstep]
            rfl
          · use heach, hlater
            rw [horder, List.filter_cons_of_neg (by simp [hflag])]
      | false =>
          obtain ⟨hbody, hrest⟩ := hlast hflag
          simp only [hflag, Bool.false_eq_true, if_false, ← hbody] at hstep
          have hst := congrArg Prod.fst hstep
          simp only at hst
          obtain ⟨st', delivered, later, hrun, heach, hlater, horder⟩ :=
            @ih (step channel st s).1 (Function.update msgs c₀ msgs') (by
              intro c
              rw [hst]
              by_cases hc : c = c₀
              · subst hc
                rw [Function.update_self, Function.update_self]
                apply hrest
              · rw [Function.update_of_ne hc, Function.update_of_ne hc]
                apply hother c hc)
          have hchannel : channel m.header = c₀ := by rw [hc₀, hheader]
          use st', m :: delivered, later
          constructor
          · rw [run, hrun, hstep]
            rfl
          constructor
          · intro c
            have hc' := heach c
            by_cases hc : c = c₀
            · subst hc
              rw [Function.update_self] at hc'
              rw [List.filter_cons_of_pos (by simpa using hchannel), hmsgs, hc', List.cons_append]
            · rw [Function.update_of_ne hc] at hc'
              rw [List.filter_cons_of_neg (by simpa [hchannel] using Ne.symm hc), hc']
          · use hlater
            rw [List.map_cons, List.filter_cons_of_pos (by simp [hflag]), List.map_cons, horder,
              hheader]

/-- A receiver without unfinished messages gets every message of an interleaving, each of them
once and in the order of their last segments, and is left without unfinished messages. -/
theorem Interleaved.run {ss : List (Segment η β)} {msgs : κ → List (Message η β)}
    (h : Interleaved channel ss msgs) :
  ∃ delivered, Reassembly.run channel (fun _ => none) ss
      = ((fun _ => none), delivered.map .message)
    ∧ InOrder channel ss msgs delivered
  := by
  have hremaining : ∀ c, Remaining none ((ss.filter fun s => channel s.header = c) ++ [])
      (msgs c) := by
    intro c
    rw [List.append_nil]
    exact h c
  obtain ⟨st, delivered, later, hrun, heach, hlater, horder⟩ := run_of_remaining hremaining
  have hst : st = fun _ => none := by
    funext c
    exact (remaining_nil (hlater c)).1
  rw [hst] at hrun
  use delivered, hrun
  constructor
  · intro c
    rw [heach, (remaining_nil (hlater c)).2, List.append_nil]
  · exact horder

end

/-! ### Messages that are still arriving -/

section

variable [DecidableEq κ] {channel : η → κ}

/-- On every channel the segments come message by message, and after them there may be the first
segments of another message. -/
def Arriving (channel : η → κ) (ss : List (Segment η β)) (msgs : κ → List (Message η β)) : Prop :=
  ∀ c, ∃ cuts part, List.Forall₂ Message.IsCut (msgs c) cuts
    ∧ ss.filter (fun s => channel s.header = c) = cuts.flatten ++ part
    ∧ (part = [] ∨ ∃ m rest, Completes m [] (part ++ rest) ∧ rest ≠ [])

/-- Of the segments of a message only the last one is not followed by another. -/
theorem Completes.append {m : Message η β} {part : List β} {ss : List (Segment η β)}
    (h : Completes m part ss) {ss₁ ss₂ : List (Segment η β)} (hss : ss = ss₁ ++ ss₂) :
  (ss₁.filter fun s => !s.more).length = if ss₂ = [] then 1 else 0
  := by
  induction h generalizing ss₁ with
  | last _ =>
      cases ss₁ with
      | nil =>
          obtain rfl : ss₂ = _ := hss.symm
          rfl
      | cons s ss₁ =>
          obtain ⟨rfl, hnil⟩ := List.cons.inj hss
          obtain ⟨rfl, rfl⟩ := List.append_eq_nil_iff.mp hnil.symm
          rfl
  | more _ ih =>
      cases ss₁ with
      | nil =>
          obtain rfl : ss₂ = _ := hss.symm
          rfl
      | cons s ss₁ =>
          obtain ⟨rfl, hrest⟩ := List.cons.inj hss
          rw [List.filter_cons_of_neg (by simp)]
          apply ih hrest

/-- There are as many messages as segments that are not followed by another. -/
theorem length_lasts {msgs : List (Message η β)} {cuts : List (List (Segment η β))}
    (h : List.Forall₂ Message.IsCut msgs cuts) :
  (cuts.flatten.filter fun s => !s.more).length = msgs.length
  := by
  induction h with
  | nil => rfl
  | cons hcut _ ih =>
      have hone := hcut.append (List.append_nil _).symm
      rw [if_pos rfl] at hone
      rw [List.flatten_cons, List.filter_append, List.length_append, hone, ih, List.length_cons,
        Nat.add_comm]

variable [DecidableEq η]

/-- A receiver without unfinished messages gets every message of which all segments have arrived,
each of them once and in the order of their last segments. -/
theorem Arriving.run {ss : List (Segment η β)} {msgs : κ → List (Message η β)}
    (h : Arriving channel ss msgs) :
  ∃ st delivered, Reassembly.run channel (fun _ => none) ss = (st, delivered.map .message)
    ∧ InOrder channel ss msgs delivered
  := by
  have hextend : ∀ c, ∃ msgs', msgs c <+: msgs' ∧ ∃ rest,
      Remaining none ((ss.filter fun s => channel s.header = c) ++ rest) msgs' := by
    intro c
    obtain ⟨cuts, part, hcuts, hss, hpart⟩ := h c
    rw [hss]
    rcases hpart with rfl | ⟨m, rest, hm, -⟩
    · use msgs c, List.prefix_refl _, [], cuts, hcuts
      simp
    · use msgs c ++ [m], List.prefix_append _ _, rest, cuts ++ [part ++ rest]
      constructor
      · apply List.rel_append hcuts
        apply List.Forall₂.cons _ List.Forall₂.nil
        apply hm
      · simp
  choose msgs' hextends rest hrest using hextend
  obtain ⟨st, delivered, later, hrun, hdelivered, -, horder⟩ := run_of_remaining hrest
  have heach : ∀ c, delivered.filter (fun m => channel m.header = c) <+: msgs' c := fun c =>
    ⟨later c, (hdelivered c).symm⟩
  use st, delivered, hrun
  constructor
  · intro c
    obtain ⟨cuts, part, hcuts, hss, hpart⟩ := h c
    have hnone : (part.filter fun s => !s.more).length = 0 := by
      rcases hpart with rfl | ⟨m, rest, hm, hne⟩
      · rfl
      · rw [hm.append rfl, if_neg hne]
    have hlength : (delivered.filter fun m => channel m.header = c).length = (msgs c).length := by
      calc (delivered.filter fun m => channel m.header = c).length
          = ((delivered.map fun m => channel m.header).filter fun d => d = c).length := by
            rw [List.filter_map, List.length_map]
            rfl
        _ = ((ss.filter fun s => channel s.header = c).filter fun s => !s.more).length := by
            rw [horder, List.filter_map, List.length_map, List.filter_comm]
            rfl
        _ = (msgs c).length := by
            rw [hss, List.filter_append, List.length_append, hnone, length_lasts hcuts,
              Nat.add_zero]
    apply List.IsPrefix.eq_of_length _ hlength
    apply List.prefix_of_prefix_length_le (heach c) (hextends c)
    apply Nat.le_of_eq hlength
  · apply horder

end

end Reassembly
