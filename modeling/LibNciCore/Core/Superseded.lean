import LibNciCore.Core.Answers
import LibNciCore.Core.Waning

/-!
# Superseded commands

The core knows a command that has still to be written by its id. Hence the command is removed from
the layer below when another one takes its place, when it is dropped, and when it times out, and a
report that a command is written is never taken for one about a later command. This depends on a
response not being faster than the report that its command is written.
-/

namespace Nci

open History

/-! ### What is recorded -/

/-- Whether the end of the last command has still to be reported after an entry. -/
def CoreEntry.unwritten (unwritten : Bool) : CoreEntry → Bool
  | .accepted _ _ => true
  | .completion _ _ _ => false
  | _ => unwritten

/-- Whether the end of the last command has still to be reported. -/
def CoreLog.unwritten (log : CoreLog) : Bool := log.foldl CoreEntry.unwritten false

/-- The packets of the commands that are given up while they are queued. -/
def CoreEntry.superseded : CoreEntry → List Nat
  | .send _ _ _ layer | .cancel _ layer | .timedOut _ layer => layer.queued .cmd
  | _ => []

/-- The packets of the commands that have been given up while they were queued. -/
def CoreLog.superseded (log : CoreLog) : List Nat := log.flatMap CoreEntry.superseded

/-- A response to the last command arrives after the end of that command has been reported; while a
command is being sent no other command is; and a command does not get the id of one that is still
being written. -/
def CoreEntry.Prompt (pre : CoreLog) : CoreEntry → Prop
  | .response gid oid _ =>
      (CoreLog.waiting pre).all (fun c => c.gid != gid || c.oid != oid) = true
        ∨ CoreLog.unwritten pre = false
  | .accepted c layer =>
      CoreLog.sending pre = true ∧ layer.writing.all (fun a => layer.idAt a != some c.id) = true
  | _ => True

instance (pre : CoreLog) : ∀ e : CoreEntry, Decidable (e.Prompt pre)
  | .response gid oid _ => inferInstanceAs (Decidable (
      (CoreLog.waiting pre).all (fun c => c.gid != gid || c.oid != oid) = true
        ∨ CoreLog.unwritten pre = false))
  | .accepted c layer => inferInstanceAs (Decidable (
      CoreLog.sending pre = true ∧ layer.writing.all (fun a => layer.idAt a != some c.id) = true))
  | .send _ _ _ _ | .cancel _ _ | .restart | .timedOut _ _ | .completion _ _ _
  | .responded _ _ _ | .sar _ | .smError | .smReset | .notification _ _ _ | .dataPacket _ _
  | .halStart _ | .halStop | .halWrite _ _ _ | .halCancelWrite | .written _ => .isTrue trivial

/-- The core knows the command that waits for its response by its id, as long as the packet of that
command is queued or being written. -/
def NciCoreObject.Tracks (core : NciCoreObject) (waiting : Option CoreCommand) (sar : NciSar) :
    Prop :=
  ∀ c, waiting = some c → sar.Carries c.addr → core.cmdId = c.id

/-- None of the packets is queued or being written. -/
def NciSar.Rid (sar : NciSar) (gone : List Nat) : Prop := ∀ a ∈ gone, ¬ sar.Carries a

/-- The core knows the last command, commands that have been given up are not queued or written any
more, and only the end of the last command is reported. -/
def CoreEntry.Current (pre : CoreLog) : CoreEntry → Prop
  | .send _ _ core layer | .cancel core layer | .timedOut core layer =>
      core.Tracks (CoreLog.waiting pre) layer ∧ layer.Rid (CoreLog.superseded pre)
  | .completion _ core layer =>
      (∃ c, CoreLog.waiting pre = some c ∧ core.cmdId = c.id ∧ ¬ layer.Carries c.addr)
        ∧ layer.Rid (CoreLog.superseded pre)
  | .accepted _ layer => layer.Rid (CoreLog.superseded pre)
  | .halWrite _ _ layer => ∀ a ∈ CoreLog.superseded pre, layer.writing ≠ some a
  | _ => True

/-- An entry that has to do with neither the last command nor its end. -/
def CoreEntry.Aside : CoreEntry → Prop
  | .send _ _ _ _ | .accepted _ _ | .cancel _ _ | .responded _ _ _ | .timedOut _ _
  | .completion _ _ _ => False
  | _ => True

section

variable {log : CoreLog} {e : CoreEntry}

theorem unwritten_concat (log : CoreLog) (e : CoreEntry) :
  CoreLog.unwritten (log ++ [e]) = e.unwritten (CoreLog.unwritten log)
  := by rw [CoreLog.unwritten, List.foldl_concat, CoreLog.unwritten]

theorem superseded_concat (log : CoreLog) (e : CoreEntry) :
  CoreLog.superseded (log ++ [e]) = CoreLog.superseded log ++ e.superseded
  := by simp [CoreLog.superseded]

theorem CoreEntry.Aside.passing (he : e.Aside) :
  e.Passing
  := by cases e <;> first | exact he.elim | trivial

theorem CoreEntry.Note.aside (he : e.Note) :
  e.Aside
  := by cases e <;> first | exact he.elim | trivial

theorem CoreEntry.Note.current (he : e.Note) (pre : CoreLog) :
  e.Current pre
  := by cases e <;> first | exact he.elim | trivial

end

/-! ### The slots are left alone -/

/-- The id of the last command is as it was, and what has been recorded has to do with neither that
command nor its end. -/
structure Kept (env env' : CoreEnv CoreLog) : Prop where
  cmdId : env'.core.cmdId = env.core.cmdId
  waiting : CoreLog.waiting env'.io = CoreLog.waiting env.io
  sending : CoreLog.sending env'.io = CoreLog.sending env.io
  unwritten : CoreLog.unwritten env'.io = CoreLog.unwritten env.io
  superseded : CoreLog.superseded env'.io = CoreLog.superseded env.io
  current : Throughout CoreEntry.Current env.io → Throughout CoreEntry.Current env'.io

theorem Kept.refl (env : CoreEnv CoreLog) :
  Kept env env
  := ⟨rfl, rfl, rfl, rfl, rfl, id⟩

/-- One more entry. -/
theorem Kept.record {env env' : CoreEnv CoreLog} (h : Kept env env') {e : CoreEntry} (he : e.Aside)
    (hcurrent : e.Current env'.io) :
  Kept env (env'.record e)
  := by
  constructor
  · exact h.cmdId
  · show CoreLog.waiting (env'.io ++ [e]) = _
    rw [waiting_concat, he.passing.waiting]
    exact h.waiting
  · show CoreLog.sending (env'.io ++ [e]) = _
    rw [sending_concat, he.passing.sending]
    exact h.sending
  · show CoreLog.unwritten (env'.io ++ [e]) = _
    rw [unwritten_concat]
    refine Eq.trans ?_ h.unwritten
    cases e <;> first | exact he.elim | rfl
  · show CoreLog.superseded (env'.io ++ [e]) = _
    rw [superseded_concat]
    refine Eq.trans ?_ h.superseded
    cases e <;> first | exact he.elim | exact List.append_nil _
  · intro hthroughout
    exact throughout_concat.mpr ⟨h.current hthroughout, hcurrent⟩

section

variable {A : CoreApp} {perform : List CoreCall → CoreWorld CoreLog → CoreWorld CoreLog}

/-- The HAL leaves the slots alone, as long as no packet is being written that has been given up. -/
theorem quietly_kept (A : CoreApp)
    (perform : List CoreCall → CoreWorld CoreLog → CoreWorld CoreLog) (env : CoreEnv CoreLog) :
  (A.sarEnvWith perform).Quietly
    (fun writing => ∀ a ∈ CoreLog.superseded env.io, writing ≠ some a) (Kept env)
  := by
  refine ⟨⟨?_, ?_, ?_⟩, ?_, ?_⟩
  · intro sar env' h
    exact h.record (e := .halStop) trivial trivial
  · intro sar env' h
    exact h.record (e := .halCancelWrite) trivial trivial
  · intro f w h
    exact h
  · intro sar env' h
    exact h.record (e := .halStart _) trivial trivial
  · intro chunks sar env' hwriting h
    apply h.record (e := .halWrite chunks _ sar) trivial
    show ∀ a ∈ CoreLog.superseded env'.io, sar.writing ≠ some a
    rw [h.superseded]
    exact hwriting

end

/-! ### The packets -/

/-- Callbacks are nested: nothing happens before the completion function of a packet is called. -/
def Nested : List Leaving → Prop
  | [] => True
  | _ :: S => Ready S ∧ Nested S

theorem CoreMove.nested {A : CoreApp} {x y : Moment (CoreEnv CoreLog)} (h : CoreMove A x y)
    (hx : Nested x.2) :
  Nested y.2
  := by
  cases h with
  | layer perform hmove =>
      cases hmove with
      | refused hS _ _ _ => exact ⟨hS, hx⟩
      | freed => exact hx.2
      | _ => exact hx
  | @reset w S perform hS =>
      show Nested (w.sar.dropped ++ S)
      rw [NciSar.dropped]
      split
      · exact ⟨hS, hx⟩
      · exact hx
  | @written w S a ok hS _ _ =>
      show Nested (w.sar.reported ok a ++ S)
      rw [NciSar.reported]
      split
      · exact hx
      · exact ⟨hS, hx⟩
  | _ => exact hx

/-- The packet at the address is queued or being written, or its completion function is about to be
called. -/
def Moment.Live (x : Moment (CoreEnv CoreLog)) (a : Nat) : Prop :=
  (x.1.sar.Carries a ∨ ∃ ok S, x.2 = .finish a ok :: S) ∧ x.1.sar.completeAt a ≠ none

/-- The only packet that has a completion function is that of the last command, as long as the core
knows it. -/
structure Moment.Superseding (x : Moment (CoreEnv CoreLog)) : Prop where
  sound : x.Sound
  commands : x.1.sar.CommandsOnly
  live : ∀ a, x.Live a → ∃ c, CoreLog.waiting x.1.env.io = some c ∧ c.addr = a
    ∧ x.1.sar.idAt a = some c.id ∧ x.1.env.core.cmdId = c.id ∧ c.id ≠ 0
    ∧ CoreLog.sending x.1.env.io = false ∧ CoreLog.unwritten x.1.env.io = true
  queued : ∀ a ∈ x.1.sar.queued .cmd, x.1.sar.completeAt a ≠ none
  waiting : ∀ c, CoreLog.waiting x.1.env.io = some c → x.1.sar.Carries c.addr →
    x.1.sar.completeAt c.addr ≠ none
  distinct : ∀ a ∈ x.1.sar.queued .cmd, ∀ b, x.1.sar.writing = some b →
    x.1.sar.idAt a ≠ x.1.sar.idAt b
  superseded : ∀ a ∈ CoreLog.superseded x.1.env.io, x.1.sar.Detached a
  current : Throughout CoreEntry.Current x.1.env.io

namespace Moment.Superseding

variable {x y : Moment (CoreEnv CoreLog)} (hx : x.Superseding)

include hx

/-- Two packets with completion functions are the same. -/
theorem unique {a b : Nat} (ha : x.Live a) (hb : x.Live b) :
  a = b
  := by
  obtain ⟨c, hc, rfl, -⟩ := hx.live a ha
  obtain ⟨c', hc', rfl, -⟩ := hx.live b hb
  rw [Option.some.inj (hc.symm.trans hc')]

theorem live_of_queued {a : Nat} (ha : a ∈ x.1.sar.queued .cmd) :
  x.Live a
  := ⟨Or.inl (Or.inr ha), hx.queued a ha⟩

/-- At most one command is queued. -/
theorem queued_cases :
  x.1.sar.queued .cmd = [] ∨ ∃ a, x.1.sar.queued .cmd = [a] ∧ x.Live a
  := by
  cases hal : x.1.sar.queued .cmd with
  | nil => exact Or.inl rfl
  | cons a l =>
      have hmem : ∀ b ∈ a :: l, x.Live b := by
        intro b hb
        rw [← hal] at hb
        exact hx.live_of_queued hb
      have hnodup := hx.sound.sar.wf.nodup .cmd
      rw [hal] at hnodup
      right
      refine ⟨a, congrArg (List.cons a) (List.eq_nil_iff_forall_not_mem.mpr ?_),
        hmem a List.mem_cons_self⟩
      intro b hb
      obtain rfl := hx.unique (hmem b (List.mem_cons_of_mem a hb)) (hmem a List.mem_cons_self)
      exact (List.nodup_cons.mp hnodup).1 hb

/-- The core knows the command that waits. -/
theorem tracks :
  x.1.env.core.Tracks (CoreLog.waiting x.1.env.io) x.1.sar
  := by
  intro c hc hcarries
  obtain ⟨c', hc', -, -, hid, -⟩ := hx.live c.addr ⟨Or.inl hcarries, hx.waiting c hc hcarries⟩
  rw [hid, Option.some.inj (hc.symm.trans hc')]

theorem rid :
  x.1.sar.Rid (CoreLog.superseded x.1.env.io)
  := fun a ha => (hx.superseded a ha).not_carries

/-- The layer carries fewer packets, and the slots are left alone. -/
theorem wanes (hkept : Kept x.1.env y.1.env) (hwanes : NciSar.Wanes x.1.sar y.1.sar)
    (hsound : y.Sound)
    (hleaving : ∀ a ok S, y.2 = .finish a ok :: S → x.1.sar.writing = some a) :
  y.Superseding
  := by
  have hlive : ∀ a, y.Live a → x.Live a ∧ y.1.sar.idAt a = x.1.sar.idAt a := by
    rintro a ⟨hcarries | ⟨ok, S, hS⟩, hcomplete⟩
    · obtain ⟨hid, hsame⟩ := hwanes.packet a (Or.inl hcarries)
      rw [hsame] at hcomplete
      exact ⟨⟨Or.inl (hwanes.carries hcarries), hcomplete⟩, hid⟩
    · have hwriting := hleaving a ok S hS
      obtain ⟨hid, hsame⟩ := hwanes.packet a (Or.inr hwriting)
      rw [hsame] at hcomplete
      exact ⟨⟨Or.inl (Or.inl hwriting), hcomplete⟩, hid⟩
  constructor
  · exact hsound
  · exact hwanes.commands
  · intro a ha
    obtain ⟨ha', hid⟩ := hlive a ha
    rw [hkept.waiting, hkept.sending, hkept.unwritten, hkept.cmdId, hid]
    exact hx.live a ha'
  · intro a ha
    rw [(hwanes.packet a (Or.inl (Or.inr ha))).2]
    exact hx.queued a (hwanes.queued a ha)
  · intro c hc hcarries
    rw [hkept.waiting] at hc
    rw [(hwanes.packet c.addr (Or.inl hcarries)).2]
    exact hx.waiting c hc (hwanes.carries hcarries)
  · intro a ha b hb
    have ha' := hwanes.queued a ha
    rw [(hwanes.packet a (Or.inl (Or.inr ha))).1, (hwanes.packet b (Or.inl (Or.inl hb))).1]
    rcases hwanes.writing b hb with hwriting | hqueued
    · exact hx.distinct a ha' b hwriting
    · obtain rfl := hx.unique (hx.live_of_queued ha') (hx.live_of_queued hqueued)
      exact absurd ha ((hwanes.sound.wf.writing a hb).2 .cmd)
  · intro a ha
    rw [hkept.superseded] at ha
    exact hwanes.detached a (hx.superseded a ha)
  · exact hkept.current hx.current

end Moment.Superseding

/-! ### The layer below -/

section

variable {A : CoreApp} {perform : List CoreCall → CoreWorld CoreLog → CoreWorld CoreLog}

/-- Commands have no destroy functions. -/
theorem discreet_sarEnvWith (A : CoreApp)
    (perform : List CoreCall → CoreWorld CoreLog → CoreWorld CoreLog) :
  (A.sarEnvWith perform).Discreet
  := ⟨fun _ _ => rfl⟩

/-- The layer below makes a move. -/
theorem Moment.Superseding.layer {x y : Moment (CoreEnv CoreLog)} (hx : x.Superseding)
    (hnested : Nested x.2) (hmove : Move (A.sarEnvWith perform) x y) :
  y.Superseding
  := by
  have hsound := hmove.sound (discreet_sarEnvWith A perform) hx.sound
  have hkept : Kept x.1.env y.1.env := by
    apply (quietly_kept A perform x.1.env).move hmove
    · intro a ha hwriting
      exact (hx.superseded a ha).2.2 hwriting
    · exact Kept.refl _
  have hready : ∀ {S : List Leaving}, Ready S → ∀ a ok S', S ≠ .finish a ok :: S' := by
    rintro S hS a ok S' rfl
    exact hS
  have hs := hx.sound.sar
  have hc := hx.commands
  cases hmove with
  | tuned sar hS htuned =>
      apply hx.wanes hkept (htuned.wanes hs hc) hsound
      intro a ok S' hS'
      exact absurd hS' (hready hS a ok S')
  | selected hS hpending =>
      apply hx.wanes hkept (hc.wanes_select hs hpending) hsound
      intro a ok S' hS'
      exact absurd hS' (hready hS a ok S')
  | handed hS hpending hwriting hok =>
      obtain ⟨out, -, -, hl⟩ := submit_spec (A.sarEnvWith perform) hs hwriting hpending
      apply hx.wanes hkept (hc.wanes_modify hsound.sar hl) hsound
      intro a ok S' hS'
      exact absurd hS' (hready hS a ok S')
  | @refused w S b hS hpending hwriting hok =>
      obtain ⟨out, hout, hwf, hl⟩ := submit_spec (A.sarEnvWith perform) hs hwriting hpending
      obtain ⟨started, hsar⟩ := submit_sar (A.sarEnvWith perform) hout hpending
      have hsubmitted : (nciSarAttemptWriteSubmit (A.sarEnvWith perform) b w).2.sar.Sound := by
        use hwf
        rw [hsar, hok]
        intro hfalse
        cases hfalse
      have hcut := hc.wanes_modify hsubmitted hl
      have hforget := hcut.commands.wanes_forget (NciSar.tuned_refl _).same hsound.sar
      apply hx.wanes hkept _ hsound
      · intro a ok S' hS'
        obtain ⟨heq, -⟩ := List.cons.inj hS'
        cases heq
        exact hwriting
      · exact hcut.trans hforget (Or.inl (congrArg Lists.writing hl))
  | skipped _ =>
      apply hx.wanes hkept _ hsound
      · intro a ok S' hS'
        cases hS'
      · exact (NciSar.tuned_refl _).wanes hs hc
  | @freed w S b =>
      have hb := hx.sound.leaving (.free b) List.mem_cons_self
      apply hx.wanes hkept _ hsound
      · intro a ok S' hS'
        exact absurd hS' (hready hnested.1 a ok S')
      · show NciSar.Wanes w.sar (nciSarPacketOutFree (A.sarEnvWith perform) b w).sar
        rw [(discreet_sarEnvWith A perform).packetOutFree]
        exact hc.wanes_dealloc hs hb

/-! ### The last command is given up -/

/-- What cancelling an id does, where destroy functions call nothing. -/
def NciSar.cancelled (sar : NciSar) (id : UInt32) : NciSar :=
  match sar.cancelTarget id with
  | some (_, a) => (sar.cancelEffect id).dealloc a
  | none => sar.cancelEffect id

theorem sar_nciSarCancel (A : CoreApp)
    (perform : List CoreCall → CoreWorld CoreLog → CoreWorld CoreLog) (id : UInt32)
    (w : CoreWorld CoreLog) :
  (nciSarCancel (A.sarEnvWith perform) id w).sar = w.sar.cancelled id
  := by
  rw [nciSarCancel_eq, NciSar.cancelled]
  cases w.sar.cancelTarget id with
  | none => rfl
  | some target => exact (discreet_sarEnvWith A perform).packetOutFree _ _

/-- What is left when the last command has been given up: no command is queued, and the packet that
is being written, if there is one, has no completion function. -/
structure NciSar.GivenUp (sar sar' : NciSar) : Prop where
  sound : sar'.Sound
  commands : sar'.CommandsOnly
  queued : sar'.queued .cmd = []
  complete : ∀ a, sar'.writing = some a → sar'.completeAt a = none
  detached : ∀ a, sar.Detached a ∨ a ∈ sar.queued .cmd → sar'.Detached a

/-- The packet being written has an id. -/
theorem isWriting_eq {sar : NciSar} {a : Nat} (ha : sar.writing = some a) (id : UInt32) :
  sar.isWriting id = true ↔ sar.idAt a = some id
  := by
  rw [NciSar.isWriting, ha, NciSar.idAt_eq_map]
  show (sar.heap a).any _ = true ↔ _
  cases sar.heap a with
  | none => simp
  | some out => simp

/-- The completion function of the packet that is being written is forgotten. -/
theorem NciSar.givenUp_forget {sar : NciSar} (hs : sar.Sound) (hc : sar.CommandsOnly)
    (hqueued : sar.queued .cmd = []) {a : Nat} (ha : sar.writing = some a) :
  sar.GivenUp (sar.modifyPacket a fun out => { out with complete := none })
  := by
  obtain ⟨hwf, hl⟩ := hs.wf.modifyPacket a (f := fun out => { out with complete := none })
    (fun _ => rfl) (fun _ => rfl) (fun _ _ => rfl)
  obtain ⟨sar', hsar'⟩ : ∃ sar', sar' = sar.modifyPacket a fun out =>
    { out with complete := none } := ⟨_, rfl⟩
  have hwriting : sar'.writing = sar.writing := by rw [hsar']; rfl
  have hpending : sar'.writePending = sar.writePending := by rw [hsar']; rfl
  rw [← hsar'] at hwf hl ⊢
  have hq : ∀ k, sar'.queued k = sar.queued k := fun k => congrFun (congrArg Lists.queued hl) k
  have hnext : sar'.nextAddr = sar.nextAddr := congrArg Lists.nextAddr hl
  have hpacket : sar'.packet a = (sar.packet a).map fun out => { out with complete := none } := by
    rw [← NciSar.lists_packet, hl]
    exact Function.update_self _ _ _
  constructor
  · use hwf
    rw [hwriting, hpending]
    exact hs.pending
  · constructor
    · intro cid
      rw [hq]
      exact hc.out cid
    · intro b hb
      rw [hwriting, ha] at hb
      obtain rfl := Option.some.inj hb
      obtain ⟨hlt, out, hout, hconn⟩ := hc.writing a ha
      rw [NciSar.Owned, hpacket, hout]
      exact ⟨hlt.trans_eq hnext.symm, _, rfl, hconn⟩
  · rw [hq]
    exact hqueued
  · intro b hb
    rw [hwriting, ha] at hb
    obtain rfl := Option.some.inj hb
    rw [NciSar.completeAt, hpacket]
    cases sar.packet a <;> rfl
  · rintro b (hb | hb)
    · rw [NciSar.detached_iff, hl]
      exact hb
    · rw [hqueued] at hb
      cases hb

/-- A command that is queued is removed. -/
theorem NciSar.givenUp_remove {sar sar' : NciSar} (hs : sar.Sound) (hc : sar.CommandsOnly)
    {a : Nat} (hqueued : sar.queued .cmd = [a])
    (hcomplete : ∀ b, sar.writing = some b → sar.completeAt b = none) (hs' : sar'.Sound)
    (hl : sar'.lists = (sar.lists.remove .cmd a).free a) :
  sar.GivenUp sar'
  := by
  have ha : a ∈ sar.queued .cmd := by
    rw [hqueued]
    exact List.mem_singleton_self a
  have hnil : sar'.queued .cmd = [] := by
    rw [← NciSar.lists_queued, hl]
    show ((Function.update sar.lists.queued .cmd ((sar.lists.queued .cmd).erase a)) .cmd) = []
    rw [Function.update_self, NciSar.lists_queued, hqueued]
    exact List.erase_cons_head a []
  have hout : ∀ cid, sar'.queued (.out cid) = [] := by
    intro cid
    rw [← NciSar.lists_queued, hl]
    exact hc.out cid
  have hwriting : sar'.writing = sar.writing := congrArg Lists.writing hl
  have hnext : sar'.nextAddr = sar.nextAddr := congrArg Lists.nextAddr hl
  have hpacket : ∀ b, sar.writing = some b → sar'.packet b = sar.packet b := by
    intro b hb
    have hne : b ≠ a := by
      rintro rfl
      exact (hs.wf.writing b hb).2 .cmd ha
    rw [← NciSar.lists_packet, hl]
    exact Function.update_of_ne hne _ _
  have hnone : ∀ b k, b ∉ sar'.queued k := by
    intro b k
    cases k with
    | cmd => simp [hnil]
    | out cid => simp [hout]
  constructor
  · exact hs'
  · refine ⟨hout, ?_⟩
    intro b hb
    rw [hwriting] at hb
    obtain ⟨hlt, out, hown, hconn⟩ := hc.writing b hb
    rw [NciSar.Owned, hpacket b hb]
    exact ⟨hlt.trans_eq hnext.symm, out, hown, hconn⟩
  · exact hnil
  · intro b hb
    rw [hwriting] at hb
    rw [NciSar.completeAt, hpacket b hb]
    exact hcomplete b hb
  · intro b hb
    have hlt : b < sar.nextAddr := hb.elim (fun h => h.1) fun h => (hs.wf.owned .cmd b h).1
    have hwriting' : sar.writing ≠ some b :=
      hb.elim (fun h => h.2.2) fun h hb' => (hs.wf.writing b hb').2 .cmd h
    refine ⟨hlt.trans_eq hnext.symm, hnone b, ?_⟩
    rw [hwriting]
    exact hwriting'

/-- The command that is queued is found by its id. -/
theorem cancelTarget_of_queued {sar : NciSar} (hw : sar.WF) {a : Nat} {id : UInt32}
    (hqueued : sar.queued .cmd = [a]) (hid : sar.idAt a = some id) (hne : id ≠ 0)
    (hwriting : sar.isWriting id = false) :
  sar.cancelTarget id = some (.cmd, a)
  := by
  have hlt : a < sar.nextAddr := by
    apply (hw.owned .cmd a _).1
    rw [hqueued]
    exact List.mem_singleton_self a
  have hlen : (sar.queued .cmd).length ≤ sar.nextAddr := by
    rw [hqueued]
    exact Nat.succ_le_of_lt (Nat.zero_lt_of_lt hlt)
  have hfound : sar.found id .cmd = some a := by
    rw [NciSar.found, (LinkedQueue.remove_spec _ (hw.chain .cmd) hlen).1, hqueued]
    rw [NciSar.idAt_eq_map] at hid
    obtain ⟨out, hout, hid⟩ := Option.map_eq_some_iff.mp hid
    simp [LinkedQueue.matchesAt, hout, hid]
  rw [NciSar.cancelTarget, if_pos ⟨hne, hwriting⟩, NciSar.findPacket, NciSar.keys,
    List.findSome?_cons, hfound]
  rfl

/-- The last command is given up. -/
theorem Moment.Superseding.givenUp {w : CoreWorld CoreLog} {S : List Leaving}
    (hx : Moment.Superseding (w, S)) :
  w.sar.GivenUp (w.sar.cancelled w.env.core.cmdId)
  := by
  have hs : w.sar.Sound := hx.sound.sar
  have hc : w.sar.CommandsOnly := hx.commands
  obtain ⟨id, hid⟩ : ∃ id, id = w.env.core.cmdId := ⟨_, rfl⟩
  rw [← hid, NciSar.cancelled]
  rcases hx.queued_cases with hnil | ⟨a, hqueued, hlive⟩
  · have hqueued : w.sar.queued .cmd = [] := hnil
    by_cases hlive : ∃ a, w.sar.writing = some a ∧ w.sar.completeAt a ≠ none
    · obtain ⟨a, ha, hcomplete⟩ := hlive
      obtain ⟨c, -, -, hidAt, hcmdId, hne, -⟩ := hx.live a ⟨Or.inl (Or.inl ha), hcomplete⟩
      have hidAt' : w.sar.idAt a = some id := by
        rw [hid, hcmdId]
        exact hidAt
      have hne' : id ≠ 0 := by
        rw [hid, hcmdId]
        exact hne
      have hwriting := (isWriting_eq ha id).mpr hidAt'
      have htarget : w.sar.cancelTarget id = none := by simp [NciSar.cancelTarget, hwriting]
      have heffect : w.sar.cancelEffect id
          = w.sar.modifyPacket a fun out => { out with complete := none } := by
        rw [NciSar.cancelEffect, if_pos ⟨hne', hwriting⟩, ha]
      rw [htarget]
      show w.sar.GivenUp (w.sar.cancelEffect id)
      rw [heffect]
      exact NciSar.givenUp_forget hs hc hqueued ha
    · rcases hs.wf.cancel_cases id with ⟨a, ha, htarget, heffect⟩ | ⟨k, a, -, hmem, -⟩
        | ⟨htarget, heffect⟩
      · rw [htarget]
        show w.sar.GivenUp (w.sar.cancelEffect id)
        rw [heffect]
        exact NciSar.givenUp_forget hs hc hqueued ha
      · cases k with
        | cmd =>
            rw [hqueued] at hmem
            cases hmem
        | out cid =>
            rw [hc.out cid] at hmem
            cases hmem
      · rw [htarget]
        show w.sar.GivenUp (w.sar.cancelEffect id)
        rw [heffect]
        refine ⟨hs, hc, hqueued, ?_, ?_⟩
        · intro a ha
          by_contra hcomplete
          exact hlive ⟨a, ha, hcomplete⟩
        · rintro a (ha | ha)
          · exact ha
          · rw [hqueued] at ha
            cases ha
  · have hsingle : w.sar.queued .cmd = [a] := hqueued
    have ha : a ∈ w.sar.queued .cmd := by
      rw [hsingle]
      exact List.mem_singleton_self a
    obtain ⟨c, -, -, hidAt, hcmdId, hne, -⟩ := hx.live a hlive
    have hidAt' : w.sar.idAt a = some id := by
      rw [hid, hcmdId]
      exact hidAt
    have hwriting : w.sar.isWriting id = false := by
      cases hb : w.sar.writing with
      | none => simp [NciSar.isWriting, hb]
      | some b =>
          apply Bool.eq_false_iff.mpr
          intro htrue
          apply hx.distinct a ha b hb
          exact hidAt'.trans ((isWriting_eq hb id).mp htrue).symm
    have htarget := cancelTarget_of_queued hs.wf hsingle hidAt' (by
      rw [hid, hcmdId]
      exact hne) hwriting
    rcases hs.wf.cancel_cases id with ⟨_, _, hnone, _⟩ | ⟨k, b, hsome, hmem, heffect, hwf, hl⟩
      | ⟨hnone, _⟩
    · rw [htarget] at hnone
      cases hnone
    · rw [htarget] at hsome ⊢
      obtain ⟨rfl, rfl⟩ := Prod.mk.inj (Option.some.inj hsome)
      show w.sar.GivenUp ((w.sar.cancelEffect id).dealloc a)
      have hdetached := NciSar.detached_of_cancelTarget hs.wf htarget
      have hfree := hs.wf.cancelEffect id |>.free hdetached.2.1 hdetached.2.2
      apply NciSar.givenUp_remove hs hc hsingle
      · intro b hb
        by_contra hcomplete
        obtain rfl := hx.unique hlive ⟨Or.inl (Or.inl hb), hcomplete⟩
        exact (hs.wf.writing a hb).2 .cmd ha
      · use hfree.1
        show (w.sar.cancelEffect id).writePending = true →
          (w.sar.cancelEffect id).writing.isSome = _
        rw [(NciSar.fields_cancelEffect _ id).1, (NciSar.fields_cancelEffect _ id).2]
        exact hs.pending
      · rw [hfree.2, heffect, hl]
    · rw [htarget] at hnone
      cases hnone

/-- The last command has been given up, and its packet is gone. -/
theorem Moment.Superseding.superseded_of_givenUp {w v : CoreWorld CoreLog} {S : List Leaving}
    (hx : Moment.Superseding (w, S)) (hS : Ready S) (hsar : w.sar.GivenUp v.sar)
    (hwaiting : CoreLog.waiting v.env.io = none)
    (hsuperseded : ∀ a ∈ CoreLog.superseded v.env.io,
      a ∈ CoreLog.superseded w.env.io ∨ a ∈ w.sar.queued .cmd)
    (hcurrent : Throughout CoreEntry.Current v.env.io) :
  Moment.Superseding (v, S)
  := by
  have hnone : ∀ a, ¬ Moment.Live (v, S) a := by
    rintro a ⟨(hwriting | hqueued) | ⟨ok, S', rfl⟩, hcomplete⟩
    · exact hcomplete (hsar.complete a hwriting)
    · have hqueued' : a ∈ v.sar.queued .cmd := hqueued
      rw [hsar.queued] at hqueued'
      cases hqueued'
    · exact hS
  have hnil : ∀ a, a ∉ v.sar.queued .cmd := by
    intro a
    simp [hsar.queued]
  constructor
  · use hsar.sound
    intro l hl
    exact hsar.detached _ (Or.inl (hx.sound.leaving l hl))
  · exact hsar.commands
  · intro a ha
    exact absurd ha (hnone a)
  · intro a ha
    exact absurd ha (hnil a)
  · intro c hc
    have hc' : CoreLog.waiting v.env.io = some c := hc
    rw [hwaiting] at hc'
    cases hc'
  · intro a ha
    exact absurd ha (hnil a)
  · intro a ha
    apply hsar.detached
    rcases hsuperseded a ha with h | h
    · exact Or.inl (hx.superseded a h)
    · exact Or.inr h
  · exact hcurrent

/-- Nothing happens to the layer below while no packet has a completion function. -/
theorem Moment.Superseding.superseded_of_same {w v : CoreWorld CoreLog} {S : List Leaving}
    (hx : Moment.Superseding (w, S)) (hlive : ∀ a, ¬ Moment.Live (w, S) a)
    (hsar : v.sar = w.sar)
    (hwaiting : CoreLog.waiting v.env.io = CoreLog.waiting w.env.io
      ∨ CoreLog.waiting v.env.io = none)
    (hsuperseded : ∀ a ∈ CoreLog.superseded v.env.io,
      a ∈ CoreLog.superseded w.env.io ∨ a ∈ w.sar.queued .cmd)
    (hcurrent : Throughout CoreEntry.Current v.env.io) :
  Moment.Superseding (v, S)
  := by
  obtain ⟨sar', env'⟩ := v
  obtain rfl : sar' = w.sar := hsar
  constructor
  · exact ⟨hx.sound.sar, hx.sound.leaving⟩
  · exact hx.commands
  · intro a ha
    exact absurd ha (hlive a)
  · exact hx.queued
  · intro c hc hcarries
    rcases hwaiting with h | h
    · exact hx.waiting c (h.symm.trans hc) hcarries
    · have hc' : CoreLog.waiting env'.io = some c := hc
      rw [h] at hc'
      cases hc'
  · exact hx.distinct
  · intro a ha
    rcases hsuperseded a ha with h | h
    · exact hx.superseded a h
    · exact absurd (hx.live_of_queued h) (hlive a)
  · exact hcurrent

/-- What the core does to the layer below when the last command is cancelled. -/
theorem sar_nciCoreCancelled (A : CoreApp)
    (perform : List CoreCall → CoreWorld CoreLog → CoreWorld CoreLog) (w : CoreWorld CoreLog) :
  (nciCoreCancelled (A.sarEnvWith perform) w).2.sar
    = if w.env.core.cmdId ≠ 0 then w.sar.cancelled w.env.core.cmdId else w.sar
  := by
  have hid : (w.mapEnv CoreEnv.clearTimeout).env.core.cmdId = w.env.core.cmdId :=
    (clearTimeout_fields w.env).2.1
  rw [nciCoreCancelled, hid]
  split
  · exact sar_nciSarCancel A perform _ _
  · rfl

/-- The call of a response function is recorded. -/
theorem waiting_tell (status : NciRequestStatus)
    (r : Option (NciCoreResp × UserData) × CoreWorld CoreLog) :
  (World.tell status r).sar = r.2.sar
    ∧ CoreLog.waiting (World.tell status r).env.io
      = (if r.1.isSome then none else CoreLog.waiting r.2.env.io)
    ∧ CoreLog.superseded (World.tell status r).env.io = CoreLog.superseded r.2.env.io
    ∧ (Throughout CoreEntry.Current r.2.env.io →
      Throughout CoreEntry.Current (World.tell status r).env.io)
  := by
  obtain ⟨_ | ⟨resp, userData⟩, w⟩ := r
  · exact ⟨rfl, rfl, rfl, id⟩
  · refine ⟨rfl, ?_, ?_, ?_⟩
    · show CoreLog.waiting (w.env.io ++ [_]) = _
      rw [waiting_concat]
      rfl
    · show CoreLog.superseded (w.env.io ++ [_]) = _
      rw [superseded_concat]
      exact List.append_nil _
    · intro h
      exact throughout_concat.mpr ⟨h, trivial⟩

/-- The last command is cancelled. -/
theorem Moment.Superseding.cancelled {w v : CoreWorld CoreLog} {S : List Leaving}
    (hx : Moment.Superseding (w, S)) (hS : Ready S) (hsar : v.sar = w.sar)
    (hid : v.env.core.cmdId = w.env.core.cmdId)
    (hholds : v.env.core.Holds (CoreLog.waiting v.env.io))
    (hwaiting : CoreLog.waiting v.env.io = CoreLog.waiting w.env.io
      ∨ CoreLog.waiting v.env.io = none)
    (hsuperseded : ∀ a ∈ CoreLog.superseded v.env.io,
      a ∈ CoreLog.superseded w.env.io ∨ a ∈ w.sar.queued .cmd)
    (hcurrent : Throughout CoreEntry.Current v.env.io) :
  Moment.Superseding (World.tell .cancelled (nciCoreCancelled (A.sarEnvWith perform) v), S)
  := by
  obtain ⟨hio, hsome, hnone⟩ := env_nciCoreCancelled A perform v
  have hsar' := sar_nciCoreCancelled A perform v
  obtain ⟨htold, hwaiting', hsuperseded', hcurrent'⟩ :=
    waiting_tell .cancelled (nciCoreCancelled (A.sarEnvWith perform) v)
  rw [hio] at hwaiting' hsuperseded' hcurrent'
  by_cases hzero : v.env.core.cmdId = 0
  · obtain ⟨hnot, -⟩ := hnone hzero
    rw [hnot] at hwaiting'
    rw [if_neg (not_not.mpr hzero)] at hsar'
    apply hx.superseded_of_same
    · intro a ha
      obtain ⟨c, -, -, -, hcmdId, hne, -⟩ := hx.live a ha
      apply hne
      rw [← hcmdId, ← hzero, hid]
    · rw [htold, hsar', hsar]
    · rw [hwaiting']
      exact hwaiting
    · rw [hsuperseded']
      exact hsuperseded
    · exact hcurrent' hcurrent
  · obtain ⟨hresp, -, -⟩ := hsome hzero
    rw [if_pos hzero, hsar, hid] at hsar'
    apply hx.superseded_of_givenUp hS
    · rw [htold, hsar']
      exact hx.givenUp
    · rw [hwaiting', hresp, hholds.handler]
      cases hw : CoreLog.waiting v.env.io <;> simp
    · rw [hsuperseded']
      exact hsuperseded
    · exact hcurrent' hcurrent

/-- The last command has timed out. -/
theorem Moment.Superseding.timedOut {w v : CoreWorld CoreLog} {S : List Leaving}
    (hx : Moment.Superseding (w, S)) (hS : Ready S) (hsar : v.sar = w.sar)
    (hid : v.env.core.cmdId = w.env.core.cmdId)
    (hholds : v.env.core.Holds (CoreLog.waiting v.env.io))
    (hsuperseded : ∀ a ∈ CoreLog.superseded v.env.io,
      a ∈ CoreLog.superseded w.env.io ∨ a ∈ w.sar.queued .cmd)
    (hcurrent : Throughout CoreEntry.Current v.env.io) :
  Moment.Superseding (World.tell .timeout (nciCoreTimedOut (A.sarEnvWith perform) v), S)
  := by
  have hio := io_nciCoreTimedOut A perform v
  have hsar' : (nciCoreTimedOut (A.sarEnvWith perform) v).2.sar
      = v.sar.cancelled v.env.core.cmdId := sar_nciSarCancel A perform _ _
  have hresp : (nciCoreTimedOut (A.sarEnvWith perform) v).1
      = v.env.core.rspHandler.map fun handler => (handler, v.env.core.rspData) := rfl
  obtain ⟨htold, hwaiting', hsuperseded', hcurrent'⟩ :=
    waiting_tell .timeout (nciCoreTimedOut (A.sarEnvWith perform) v)
  rw [hio] at hwaiting' hsuperseded' hcurrent'
  apply hx.superseded_of_givenUp hS
  · rw [htold, hsar', hsar, hid]
    exact hx.givenUp
  · rw [hwaiting', hresp, hholds.handler]
    cases hw : CoreLog.waiting v.env.io <;> simp
  · rw [hsuperseded']
    exact hsuperseded
  · exact hcurrent' hcurrent

/-! ### What else the core does to the layer below -/

/-- A packet that has left does not come back. -/
theorem sound_of_wanes {w v : CoreWorld CoreLog} {S : List Leaving}
    (hx : Moment.Sound (w, S)) (h : NciSar.Wanes w.sar v.sar) :
  Moment.Sound (v, S)
  := ⟨h.sound, fun l hl => h.detached _ (hx.leaving l hl)⟩

/-- Changes of limits and credits. -/
theorem wanes_plain {w : CoreWorld CoreLog} (hs : w.sar.Sound) (hc : w.sar.CommandsOnly)
    {fuel : Nat} (hfuel : ∀ k, (w.sar.queued k).length < fuel) {c : Call}
    (hplain : c.plain = true) :
  NciSar.Wanes w.sar (c.perform (A.sarEnvWith perform) fuel w).sar
  := by
  cases c with
  | start =>
      have hstart : w.sar.Tuned (nciSarStart (A.sarEnvWith perform) w).sar := by
        rw [nciSarStart]
        split
        · exact NciSar.tuned_refl _
        · exact NciSar.tuned_setStarted _ _
      exact hstart.wanes hs hc
  | setMaxLogicalConnections max =>
      show NciSar.Wanes w.sar (nciSarSetMaxLogicalConnections _ fuel max w).sar
      by_cases hne : newMaxLogicalConns max = w.sar.maxLogicalConns
      · have hsame : nciSarSetMaxLogicalConnections (A.sarEnvWith perform) fuel max w = w := by
          have hlt : ¬ newMaxLogicalConns max < w.sar.maxLogicalConns := by
            rw [hne]
            exact UInt8.lt_irrefl _
          have hgt : ¬ w.sar.maxLogicalConns < newMaxLogicalConns max := by
            rw [hne]
            exact UInt8.lt_irrefl _
          exact (if_neg hgt).trans (if_neg hlt)
        rw [hsame]
        exact (NciSar.tuned_refl _).wanes hs hc
      · obtain ⟨hresized, -⟩ := (discreet_sarEnvWith A perform).setMaxLogicalConnections max hs.wf
          hfuel (fun cid _ => hc.out cid) (fun cid _ => hc.out cid) hc.writing hne
        have hpacket : ∀ a, (nciSarSetMaxLogicalConnections (A.sarEnvWith perform) fuel max
            w).sar.packet a = w.sar.packet a := by
          intro a
          apply hresized.packet
          intro cid
          rw [hc.out cid]
          exact List.not_mem_nil
        apply NciSar.wanes_of_lists _ hc
        · apply Lists.ext
          · funext k
            cases k with
            | cmd => exact hresized.cmd
            | out cid => exact (hresized.out cid).trans (hc.out cid).symm
          · funext a
            exact hpacket a
          · exact hresized.writing
          · exact hresized.nextAddr
        · use hresized.wf
          rw [hresized.writePending, hresized.writing]
          exact hs.pending
  | setMaxControlPayloadSize max => exact (NciSar.tuned_setMaxControlPayloadSize _ _).wanes hs hc
  | setMaxDataPayloadSize max => exact (NciSar.tuned_setMaxDataPayloadSize _ _).wanes hs hc
  | setInitialCredits cid credits => exact (NciSar.tuned_setInitialCredits _ _ _).wanes hs hc
  | addCredits cid credits => exact (NciSar.tuned_addCredits _ _ _).wanes hs hc
  | reset => cases hplain
  | sendCommand gid oid payload complete destroy => cases hplain
  | sendDataPacket cid payload complete destroy => cases hplain
  | cancel id => cases hplain

/-- The layer below is reset, but for the packet that was being written. -/
theorem wanes_resetClear {w : CoreWorld CoreLog} (hs : w.sar.Sound) (hc : w.sar.CommandsOnly)
    {fuel : Nat} (hfuel : ∀ k, (w.sar.queued k).length < fuel) :
  NciSar.Wanes w.sar (nciSarResetClear (A.sarEnvWith perform) fuel w).sar
    ∧ (nciSarResetClear (A.sarEnvWith perform) fuel w).sar.writing = none
  := by
  obtain ⟨hcleared, -⟩ := (discreet_sarEnvWith A perform).resetClear hs hfuel
  have hforget : NciSar.Wanes w.sar
      (((w.sar.setWriting none).setWritePending false).setStarted false) := by
    apply hc.wanes_forget
    · apply NciSar.sameQueues_of_fields <;> rfl
    · exact ⟨hs.forgotten, fun hfalse => absurd hfalse Bool.false_ne_true⟩
  have hnone : (nciSarResetClear (A.sarEnvWith perform) fuel w).sar.writing = none :=
    hcleared.writing
  refine ⟨hforget.trans (hcleared.wanes hforget.sound hforget.commands) ?_, hnone⟩
  right
  refine ⟨rfl, hnone, ?_⟩
  intro a ha
  apply hcleared.packet
  intro k _ hmem
  apply (hs.wf.writing a ha).2 k
  cases k <;> exact hmem

/-- The end of a write is reported. -/
theorem wanes_completedEffect {sar : NciSar} (hs : sar.Sound) (hc : sar.CommandsOnly) {a : Nat}
    (ha : sar.writing = some a) (ok : Bool) :
  NciSar.Wanes sar (sar.completedEffect ok a)
  := by
  rw [NciSar.completedEffect]
  split
  · rw [← ha]
    have hl : ((sar.setWritePending false).setWriting sar.writing).lists = sar.lists := rfl
    have hsame : NciSar.SameQueues sar
        ((sar.setWritePending false).setWriting sar.writing) := by
      apply NciSar.sameQueues_of_fields <;> rfl
    apply NciSar.wanes_of_lists _ hc hl
    exact ⟨hsame.wf hs.wf hs.wf.control hs.wf.data, fun hfalse => absurd hfalse Bool.false_ne_true⟩
  · have hsame : NciSar.SameQueues (sar.setWriting none)
        ((sar.setWritePending false).setWriting none) := by
      apply NciSar.sameQueues_of_fields <;> rfl
    apply hc.wanes_forget hsame
    exact ⟨hsame.wf hs.wf.forget hs.wf.control hs.wf.data,
      fun hfalse => absurd hfalse Bool.false_ne_true⟩

/-! ### A command is accepted -/

/-- A command is accepted where no packet has a completion function. -/
theorem Moment.Superseding.accepted {w : CoreWorld CoreLog} {S : List Leaving}
    (hx : Moment.Superseding (w, S)) (hS : Ready S) (gid oid : UInt8)
    (payload : Option (List UInt8)) (resp : Option Nat) (userData : UserData)
    (hprompt : CoreEntry.Prompt w.env.io (.accepted (CoreApp.acceptedCommand gid oid resp userData
        (nciCoreIoSendCommand gid oid payload resp userData w).2)
      (nciCoreIoSendCommand gid oid payload resp userData w).2.sar)) :
  Moment.Superseding ((nciCoreIoSendCommand gid oid payload resp userData w).2.note
    (.accepted (CoreApp.acceptedCommand gid oid resp userData
        (nciCoreIoSendCommand gid oid payload resp userData w).2)
      (nciCoreIoSendCommand gid oid payload resp userData w).2.sar), S)
  := by
  obtain ⟨hsending, hfresh⟩ := hprompt
  obtain ⟨env, heq, hio, hid, -⟩ := nciCoreIoSendCommand_eq gid oid payload resp userData w
  rw [heq] at hfresh ⊢
  obtain ⟨sar', hsar'⟩ : ∃ sar', sar' = (nciSarSendCommand w.sar gid oid payload (some 0) none).2 :=
    ⟨_, rfl⟩
  obtain ⟨c, hc⟩ : ∃ c, c = CoreApp.acceptedCommand gid oid resp userData
    (⟨sar', env⟩ : CoreWorld CoreLog) := ⟨_, rfl⟩
  rw [← hsar'] at hfresh ⊢
  dsimp only at hfresh ⊢
  rw [← hc] at hfresh ⊢
  have hs : w.sar.Sound := hx.sound.sar
  have honly : w.sar.CommandsOnly := hx.commands
  have hdead : ∀ a, ¬ Moment.Live (w, S) a := by
    intro a ha
    obtain ⟨c, -, -, -, -, -, hnot, -⟩ := hx.live a ha
    have hnot' : CoreLog.sending w.env.io = false := hnot
    rw [hsending] at hnot'
    cases hnot'
  have hnil : w.sar.queued .cmd = [] := by
    apply List.eq_nil_iff_forall_not_mem.mpr
    intro a ha
    exact hdead a (hx.live_of_queued ha)
  obtain ⟨out, hout⟩ : ∃ out, out = w.sar.newPacket none
    (nciMtCmdPkt ||| (gid &&& nciControlGidMask)) (oid &&& nciControlOidMask) payload (some 0)
    none := ⟨_, rfl⟩
  obtain ⟨hwf, hl, -⟩ := hs.wf.send .cmd (nciMtCmdPkt ||| (gid &&& nciControlGidMask))
    (oid &&& nciControlOidMask) payload (some 0) none
  have hsend : sar' = (nciSarSend w.sar .cmd (w.sar.connPtr .cmd)
      (nciMtCmdPkt ||| (gid &&& nciControlGidMask)) (oid &&& nciControlOidMask) payload (some 0)
      none).2 := hsar'
  rw [← hsend] at hwf hl
  have hl' : sar'.lists = w.sar.lists.append .cmd [] out := by
    rw [hl, hnil, hout, ite_self]
    rfl
  have hqueued : sar'.queued .cmd = [w.sar.nextAddr] := by
    rw [← NciSar.lists_queued, hl']
    exact Function.update_self QueueKey.cmd [w.sar.nextAddr] w.sar.lists.queued
  have hnone : ∀ cid, sar'.queued (.out cid) = [] := by
    intro cid
    rw [← NciSar.lists_queued, hl']
    exact honly.out cid
  have hwriting : sar'.writing = w.sar.writing := congrArg Lists.writing hl'
  have hnext : sar'.nextAddr = w.sar.nextAddr + 1 := congrArg Lists.nextAddr hl'
  have hnew : sar'.packet w.sar.nextAddr = some out := by
    rw [← NciSar.lists_packet, hl']
    exact Function.update_self w.sar.nextAddr (some out) w.sar.lists.packet
  have hold : ∀ a, w.sar.writing = some a → sar'.packet a = w.sar.packet a
      ∧ a ≠ w.sar.nextAddr := by
    intro a ha
    have hne : a ≠ w.sar.nextAddr := ne_of_lt (honly.writing a ha).1
    refine ⟨?_, hne⟩
    rw [← NciSar.lists_packet, hl']
    exact Function.update_of_ne hne _ _
  have haddr : c.addr = w.sar.nextAddr := by
    rw [hc]
    show sar'.nextAddr - 1 = _
    rw [hnext, Nat.add_sub_cancel]
  have hcid : c.id = w.sar.nextPacketId := by
    rw [hc]
    exact hid
  have hidAt : sar'.idAt w.sar.nextAddr = some c.id := by
    rw [NciSar.idAt, hnew, hcid, hout]
    rfl
  have hcomplete : sar'.completeAt w.sar.nextAddr ≠ none := by
    rw [NciSar.completeAt, hnew, hout]
    exact Option.some_ne_none 0
  have hwaiting : CoreLog.waiting (env.io ++ [.accepted c sar']) = some c := by
    rw [waiting_concat]
    rfl
  have hdetached : ∀ a, w.sar.Detached a → sar'.Detached a := by
    rintro a ⟨hlt, -, hnot⟩
    refine ⟨hlt.trans_le (hnext ▸ Nat.le_succ _), ?_, ?_⟩
    · intro k hmem
      cases k with
      | cmd =>
          rw [hqueued, List.mem_singleton] at hmem
          exact ne_of_lt hlt hmem
      | out cid =>
          rw [hnone] at hmem
          cases hmem
    · rw [hwriting]
      exact hnot
  constructor
  · refine ⟨⟨hwf, ?_⟩, ?_⟩
    · show sar'.writePending = true → sar'.writing.isSome = true
      rw [hsend, (NciSar.fields_send _ _ _ _ _ _ _ _).1, (NciSar.fields_send _ _ _ _ _ _ _ _).2]
      exact hs.pending
    · intro l hmem
      exact hdetached _ (hx.sound.leaving l hmem)
  · refine ⟨hnone, ?_⟩
    intro a ha
    have ha' : w.sar.writing = some a := hwriting.symm.trans ha
    obtain ⟨hlt, hown⟩ := honly.writing a ha'
    show sar'.Owned .cmd a
    rw [NciSar.Owned, (hold a ha').1]
    exact ⟨hlt.trans_le (hnext ▸ Nat.le_succ _), hown⟩
  · rintro a ⟨(ha | ha) | ⟨ok, S', rfl⟩, hlive⟩
    · have ha' : w.sar.writing = some a := hwriting.symm.trans ha
      have hsame : sar'.completeAt a = w.sar.completeAt a := by
        rw [NciSar.completeAt, (hold a ha').1, NciSar.completeAt]
      exact absurd ⟨Or.inl (Or.inl ha'), hsame ▸ hlive⟩ (hdead a)
    · have ha' : a ∈ sar'.queued .cmd := ha
      rw [hqueued, List.mem_singleton] at ha'
      subst ha'
      refine ⟨c, hwaiting, haddr, hidAt, ?_, ?_, ?_, ?_⟩
      · exact hid.trans hcid.symm
      · rw [hcid]
        exact w.sar.nextPacketId_ne_zero
      · show CoreLog.sending (env.io ++ [.accepted c sar']) = false
        rw [sending_concat]
        rfl
      · show CoreLog.unwritten (env.io ++ [.accepted c sar']) = true
        rw [unwritten_concat]
        rfl
    · exact hS.elim
  · intro a ha
    have ha' : a ∈ sar'.queued .cmd := ha
    rw [hqueued, List.mem_singleton] at ha'
    subst ha'
    exact hcomplete
  · intro c' hc' _
    obtain rfl : c = c' := Option.some.inj (hwaiting.symm.trans hc')
    show sar'.completeAt c.addr ≠ none
    rw [haddr]
    exact hcomplete
  · intro a ha b hb
    have ha' : a ∈ sar'.queued .cmd := ha
    rw [hqueued, List.mem_singleton] at ha'
    subst ha'
    have hb' : sar'.writing = some b := hb
    rw [hb'] at hfresh
    show sar'.idAt _ ≠ sar'.idAt b
    rw [hidAt]
    rw [Option.all_some, bne_iff_ne] at hfresh
    exact hfresh.symm
  · intro a ha
    have ha' : a ∈ CoreLog.superseded (env.io ++ [.accepted c sar']) := ha
    rw [superseded_concat, hio] at ha'
    apply hdetached
    apply hx.superseded
    exact (List.append_nil _).subst (motive := fun l => a ∈ l) ha'
  · show Throughout CoreEntry.Current (env.io ++ [.accepted c sar'])
    rw [hio]
    refine throughout_concat.mpr ⟨hx.current, ?_⟩
    intro a ha
    exact (hdetached a (hx.superseded a ha)).not_carries

/-! ### Every move -/

/-- At most one command is queued. -/
theorem Moment.Superseding.length_lt {w : CoreWorld CoreLog} {S : List Leaving}
    (hx : Moment.Superseding (w, S)) {fuel : Nat} (hfuel : 1 < fuel) (k : QueueKey) :
  (w.sar.queued k).length < fuel
  := by
  cases k with
  | cmd =>
      rcases hx.queued_cases with h | ⟨a, h, -⟩
      · rw [h]
        exact Nat.zero_lt_of_lt hfuel
      · rw [h]
        exact hfuel
  | out cid =>
      have hnil : w.sar.queued (.out cid) = [] := hx.commands.out cid
      rw [hnil]
      exact Nat.zero_lt_of_lt hfuel

/-- The slots are left alone, and nothing leaves. -/
theorem Moment.Superseding.kept {w v : CoreWorld CoreLog} {S : List Leaving}
    (hx : Moment.Superseding (w, S)) (hS : Ready S) (hkept : Kept w.env v.env)
    (hwanes : NciSar.Wanes w.sar v.sar) :
  Moment.Superseding (v, S)
  := by
  apply hx.wanes hkept hwanes (sound_of_wanes hx.sound hwanes)
  rintro a ok S' rfl
  exact hS.elim

/-- The packet that was being written leaves. -/
theorem Moment.Superseding.left {w v : CoreWorld CoreLog} {S : List Leaving}
    (hx : Moment.Superseding (w, S)) (hkept : Kept w.env v.env)
    (hwanes : NciSar.Wanes w.sar v.sar) {a : Nat} {ok : Bool} (ha : w.sar.writing = some a)
    (hnone : v.sar.writing = none) :
  Moment.Superseding (v, .finish a ok :: S)
  := by
  have hs : w.sar.WF := hx.sound.sar.wf
  obtain ⟨⟨k, hk⟩, hnot⟩ := hs.writing a ha
  have hdetached : v.sar.Detached a := by
    refine ⟨hwanes.nextAddr ▸ hk.1, ?_, ?_⟩
    · intro k hmem
      cases k with
      | cmd => exact hnot .cmd (hwanes.queued a hmem)
      | out cid =>
          rw [hwanes.commands.out cid] at hmem
          cases hmem
    · rw [hnone]
      exact nofun
  apply hx.wanes hkept hwanes
  · refine ⟨hwanes.sound, ?_⟩
    intro l hl
    rcases List.mem_cons.mp hl with rfl | hl
    · exact hdetached
    · exact hwanes.detached _ (hx.sound.leaving l hl)
  · intro b ok' S' hS'
    obtain ⟨heq, -⟩ := List.cons.inj hS'
    cases heq
    exact ha

/-- A call that concerns limits and credits leaves the slots alone. -/
theorem kept_plain {env : CoreEnv CoreLog} {w : CoreWorld CoreLog} (h : Kept env w.env) {c : Call}
    (hplain : c.plain = true) (fuel : Nat) :
  Kept env (c.perform (A.sarEnvWith perform) fuel w).env
  := by
  have hquiet := quietly_kept A perform env
  cases c with
  | start => exact hquiet.start h
  | setMaxLogicalConnections max => exact hquiet.setMaxLogicalConnections fuel max h
  | setMaxControlPayloadSize max => exact h
  | setMaxDataPayloadSize max => exact h
  | setInitialCredits cid credits => exact h
  | addCredits cid credits => exact h
  | reset => cases hplain
  | sendCommand gid oid payload complete destroy => cases hplain
  | sendDataPacket cid payload complete destroy => cases hplain
  | cancel id => cases hplain

/-- A response arrives. -/
theorem Moment.Superseding.responded {w : CoreWorld CoreLog} {S : List Leaving}
    (hx : Moment.Superseding (w, S)) (hS : Ready S) (hr : Remembering w.env) (gid oid : UInt8)
    (payload : List UInt8) (hprompt : CoreEntry.Prompt w.env.io (.response gid oid payload)) :
  Moment.Superseding
    (World.tell .success (nciCoreResponded gid oid (w.note (.response gid oid payload))), S)
  := by
  have hkept : Kept w.env (w.note (.response gid oid payload)).env :=
    (Kept.refl w.env).record (e := .response gid oid payload) trivial trivial
  by_cases hmatch : w.env.core.rspHandler.isSome ∧ w.env.core.rspGid = gid
    ∧ w.env.core.rspOid = oid
  · obtain ⟨hsome, hgid, hoid⟩ := hmatch
    obtain ⟨handler, hhandler⟩ := Option.isSome_iff_exists.mp hsome
    have hwaits := hr.holds.handler
    rw [hhandler] at hwaits
    obtain ⟨c, hc, -⟩ := Option.map_eq_some_iff.mp hwaits.symm
    have hwritten : CoreLog.unwritten w.env.io = false := by
      apply hprompt.resolve_left
      rw [hc, Option.all_some, ← hr.holds.gid c hc, ← hr.holds.oid c hc, hgid, hoid]
      simp
    have hlive : ∀ a, ¬ Moment.Live (w, S) a := by
      intro a ha
      obtain ⟨c, -, -, -, -, -, -, hnot⟩ := hx.live a ha
      have hnot' : CoreLog.unwritten w.env.io = true := hnot
      rw [hwritten] at hnot'
      cases hnot'
    have heq : nciCoreResponded gid oid (w.note (.response gid oid payload))
        = (some (handler, w.env.core.rspData),
          ((w.note (.response gid oid payload)).mapEnv CoreEnv.clearTimeout).mapEnv fun env =>
            env.modify fun core =>
              { core with cmdId := 0, rspHandler := none, rspData := .null }) := by
      rw [nciCoreResponded, if_pos ⟨hsome, hgid, hoid⟩]
      show (w.env.core.rspHandler.map _, _) = _
      rw [hhandler]
      rfl
    obtain ⟨htold, hwaiting', hsuperseded', hcurrent'⟩ :=
      waiting_tell .success (nciCoreResponded gid oid (w.note (.response gid oid payload)))
    rw [heq] at htold hwaiting' hsuperseded' hcurrent' ⊢
    have hio := (clearTimeout_fields (w.note (.response gid oid payload)).env).1
    apply hx.superseded_of_same hlive
    · exact htold
    · right
      exact hwaiting'
    · intro a ha
      left
      rw [hsuperseded'] at ha
      have ha' : a ∈ CoreLog.superseded (w.note (.response gid oid payload)).env.clearTimeout.io :=
        ha
      rw [hio, hkept.superseded] at ha'
      exact ha'
    · apply hcurrent'
      show Throughout CoreEntry.Current (w.note (.response gid oid payload)).env.clearTimeout.io
      rw [hio]
      exact hkept.current hx.current
  · have heq : nciCoreResponded gid oid (w.note (.response gid oid payload))
        = (none, w.note (.response gid oid payload)) := by
      rw [nciCoreResponded]
      exact if_neg hmatch
    rw [heq]
    exact hx.kept hS hkept ((NciSar.tuned_refl _).wanes hx.sound.sar hx.commands)

end

/-- The end of a command is reported. -/
theorem Moment.Superseding.completed {w : CoreWorld CoreLog} {S : List Leaving} {a f : Nat}
    {ok : Bool} (hx : Moment.Superseding (w, .finish a ok :: S))
    (hf : (w.sar.heap a).bind NciSarPacketOut.complete = some f) :
  Moment.Superseding ((w.note (.completion ok w.env.core w.sar)).mapEnv fun env =>
    env.modify fun core => { core with cmdId := 0 }, .free a :: S)
  := by
  have hcomplete : w.sar.completeAt a ≠ none := by
    rw [NciSar.completeAt_eq_bind, hf]
    exact Option.some_ne_none f
  have hlive : Moment.Live (w, .finish a ok :: S) a := ⟨Or.inr ⟨ok, S, rfl⟩, hcomplete⟩
  obtain ⟨c, hc, haddr, -, hid, -⟩ := hx.live a hlive
  have hleft : w.sar.Detached a := hx.sound.leaving (.finish a ok) List.mem_cons_self
  have hdead : ∀ b, w.sar.Carries b → w.sar.completeAt b = none := by
    intro b hb
    by_contra hne
    obtain rfl := hx.unique hlive ⟨Or.inl hb, hne⟩
    exact hleft.not_carries hb
  have hcurrent : CoreEntry.Current w.env.io (.completion ok w.env.core w.sar) :=
    ⟨⟨c, hc, hid, haddr ▸ hleft.not_carries⟩, hx.rid⟩
  constructor
  · refine ⟨hx.sound.sar, ?_⟩
    intro l hl
    rcases List.mem_cons.mp hl with rfl | hl
    · exact hleft
    · exact hx.sound.leaving l (List.mem_cons_of_mem _ hl)
  · exact hx.commands
  · rintro b ⟨hb | ⟨ok', S', hS'⟩, hne⟩
    · exact absurd (hdead b hb) hne
    · cases hS'
  · exact hx.queued
  · intro c' hc'
    apply hx.waiting c'
    have hsame : CoreLog.waiting (w.env.io ++ [.completion ok w.env.core w.sar]) = some c' := hc'
    rw [waiting_concat] at hsame
    exact hsame
  · exact hx.distinct
  · intro b hb
    apply hx.superseded
    have hb' : b ∈ CoreLog.superseded (w.env.io ++ [.completion ok w.env.core w.sar]) := hb
    rw [superseded_concat] at hb'
    exact (List.append_nil _).subst (motive := fun l => b ∈ l) hb'
  · exact throughout_concat.mpr ⟨hx.current, hcurrent⟩

/-! ### The log grows -/

/-- The HAL only adds to the log. -/
theorem quietly_longer (A : CoreApp)
    (perform : List CoreCall → CoreWorld CoreLog → CoreWorld CoreLog) (log : CoreLog) :
  (A.sarEnvWith perform).Quietly (fun _ => True) fun env => log <+: env.io
  := by
  have hrecord : ∀ (env : CoreEnv CoreLog) (e : CoreEntry), log <+: env.io →
      log <+: (env.record e).io :=
    fun env e h => h.trans (List.prefix_append _ _)
  refine ⟨⟨?_, ?_, ?_⟩, ?_, ?_⟩
  · exact fun _ env h => hrecord env _ h
  · exact fun _ env h => hrecord env _ h
  · exact fun _ _ h => h
  · exact fun _ env h => hrecord env _ h
  · exact fun _ _ env _ h => hrecord env _ h

/-- The call of a response function only adds to the log. -/
theorem longer_tell (status : NciRequestStatus)
    (r : Option (NciCoreResp × UserData) × CoreWorld CoreLog) {log : CoreLog}
    (h : log <+: r.2.env.io) :
  log <+: (World.tell status r).env.io
  := by
  obtain ⟨_ | ⟨resp, userData⟩, w⟩ := r
  · exact h
  · exact h.trans (List.prefix_append _ _)

/-- Every move only adds to the log. -/
theorem CoreMove.longer {A : CoreApp} {x y : Moment (CoreEnv CoreLog)} (h : CoreMove A x y) :
  x.1.env.io <+: y.1.env.io
  := by
  have hcancelled : ∀ (perform : List CoreCall → CoreWorld CoreLog → CoreWorld CoreLog)
      (w : CoreWorld CoreLog) (log : CoreLog), log <+: w.env.io →
      log <+: (World.tell .cancelled (nciCoreCancelled (A.sarEnvWith perform) w)).env.io := by
    intro perform w log h
    apply longer_tell
    rw [(env_nciCoreCancelled A perform w).1]
    exact h
  cases h with
  | layer perform hmove =>
      exact (quietly_longer A perform _).move hmove trivial (List.prefix_refl _)
  | noted _ _ => exact List.prefix_append _ _
  | @plain w S c perform _ hplain =>
      have h := quietly_longer A perform w.env.io
      have hnote : w.env.io <+: (w.note (.sar c)).env.io := List.prefix_append _ _
      cases c with
      | start => exact h.start hnote
      | setMaxLogicalConnections max => exact h.setMaxLogicalConnections A.fuel max hnote
      | setMaxControlPayloadSize max => exact hnote
      | setMaxDataPayloadSize max => exact hnote
      | setInitialCredits cid credits => exact hnote
      | addCredits cid credits => exact hnote
      | reset => cases hplain
      | sendCommand gid oid payload complete destroy => cases hplain
      | sendDataPacket cid payload complete destroy => cases hplain
      | cancel id => cases hplain
  | sent gid oid perform _ => exact hcancelled perform _ _ (List.prefix_append _ _)
  | @accepted w S gid oid payload resp userData _ =>
      obtain ⟨env, heq, hio, -⟩ := nciCoreIoSendCommand_eq gid oid payload resp userData w
      rw [heq]
      show w.env.io <+: env.io ++ [_]
      rw [hio]
      exact List.prefix_append _ _
  | dropped perform _ => exact hcancelled perform _ _ (List.prefix_append _ _)
  | restarted perform _ => exact hcancelled perform _ _ (List.prefix_append _ _)
  | reset perform _ => exact (quietly_longer A perform _).resetClear A.fuel (List.prefix_refl _)
  | @timedOut w S t perform _ =>
      apply longer_tell
      rw [io_nciCoreTimedOut]
      exact List.prefix_append _ _
  | @responded w S gid oid payload _ =>
      apply longer_tell
      rw [nciCoreResponded]
      split
      · show w.env.io <+: (w.note (.response gid oid payload)).env.clearTimeout.io
        rw [(clearTimeout_fields _).1]
        exact List.prefix_append _ _
      · exact List.prefix_append _ _
  | completed _ => exact List.prefix_append _ _
  | written _ _ _ _ => exact List.prefix_append _ _
  | timeoutSet _ _ => exact List.prefix_refl _

/-- What holds throughout a log holds throughout the beginning of it. -/
theorem throughout_of_longer {P : CoreLog → CoreEntry → Prop} {log log' : CoreLog}
    (h : log <+: log') (hlog' : Throughout P log') :
  Throughout P log
  := by
  obtain ⟨l, rfl⟩ := h
  exact hlog'.of_append

/-! ### Runs -/

/-- Every move keeps the packet of the last command the only one that has a completion function. -/
theorem CoreMove.superseding {A : CoreApp} {x y : Moment (CoreEnv CoreLog)} (h : CoreMove A x y)
    (hfuel : 1 < A.fuel) (hx : x.Superseding) (hnested : Nested x.2)
    (hr : Remembering x.1.env) (hprompt : Throughout CoreEntry.Prompt y.1.env.io) :
  y.Superseding
  := by
  have hs := hx.sound.sar
  have hc := hx.commands
  cases h with
  | layer perform hmove => exact hx.layer hnested hmove
  | @noted w S e hS he =>
      apply hx.kept hS
      · exact (Kept.refl w.env).record he.aside (he.current _)
      · exact (NciSar.tuned_refl _).wanes hs hc
  | @plain w S c perform hS hplain =>
      have hkept : Kept w.env (w.note (.sar c)).env :=
        (Kept.refl w.env).record (e := .sar c) trivial trivial
      apply hx.kept hS
      · exact kept_plain hkept hplain A.fuel
      · exact wanes_plain (w := w.note (.sar c)) hs hc (hx.length_lt hfuel) hplain
  | @sent w S gid oid perform hS =>
      apply hx.cancelled (v := w.note (.send gid oid w.env.core w.sar)) hS rfl rfl
      · show w.env.core.Holds (CoreLog.waiting (w.env.io ++ [_]))
        rw [waiting_concat]
        exact hr.holds
      · left
        show CoreLog.waiting (w.env.io ++ [_]) = _
        rw [waiting_concat]
        rfl
      · intro a ha
        have ha' : a ∈ CoreLog.superseded (w.env.io ++ [.send gid oid w.env.core w.sar]) := ha
        rw [superseded_concat] at ha'
        exact List.mem_append.mp ha'
      · exact throughout_concat.mpr ⟨hx.current, hx.tracks, hx.rid⟩
  | @accepted w S gid oid payload resp userData hS =>
      apply hx.accepted hS
      obtain ⟨env, heq, hio, -⟩ := nciCoreIoSendCommand_eq gid oid payload resp userData w
      rw [heq] at hprompt ⊢
      have hprompt' : Throughout CoreEntry.Prompt (env.io ++ [_]) := hprompt
      rw [hio] at hprompt'
      exact (throughout_concat.mp hprompt').2
  | @dropped w S perform hS =>
      apply hx.cancelled (v := (w.note (.cancel w.env.core w.sar)).mapEnv fun env =>
        env.modify fun core => { core with rspHandler := none, rspData := .null }) hS rfl rfl
      · show NciCoreObject.Holds _ (CoreLog.waiting (w.env.io ++ [_]))
        rw [waiting_concat]
        exact NciCoreObject.holds_none rfl
      · right
        show CoreLog.waiting (w.env.io ++ [_]) = _
        rw [waiting_concat]
        rfl
      · intro a ha
        have ha' : a ∈ CoreLog.superseded (w.env.io ++ [.cancel w.env.core w.sar]) := ha
        rw [superseded_concat] at ha'
        exact List.mem_append.mp ha'
      · exact throughout_concat.mpr ⟨hx.current, hx.tracks, hx.rid⟩
  | @restarted w S perform hS =>
      apply hx.cancelled (v := w.note .restart) hS rfl rfl
      · show w.env.core.Holds (CoreLog.waiting (w.env.io ++ [_]))
        rw [waiting_concat]
        exact hr.holds
      · left
        show CoreLog.waiting (w.env.io ++ [_]) = _
        rw [waiting_concat]
        rfl
      · intro a ha
        left
        have ha' : a ∈ CoreLog.superseded (w.env.io ++ [.restart]) := ha
        rw [superseded_concat] at ha'
        exact (List.append_nil _).subst (motive := fun l => a ∈ l) ha'
      · exact throughout_concat.mpr ⟨hx.current, trivial⟩
  | @reset w S perform hS =>
      have hkept : Kept w.env (nciSarResetClear (A.sarEnvWith perform) A.fuel w).env :=
        (quietly_kept A perform w.env).resetClear A.fuel (Kept.refl w.env)
      obtain ⟨hwanes, hnone⟩ : NciSar.Wanes w.sar
          (nciSarResetClear (A.sarEnvWith perform) A.fuel w).sar
          ∧ (nciSarResetClear (A.sarEnvWith perform) A.fuel w).sar.writing = none :=
        wanes_resetClear hs hc (hx.length_lt hfuel)
      rw [NciSar.dropped]
      split
      · rename_i a ha
        exact hx.left hkept hwanes ha hnone
      · exact hx.kept hS hkept hwanes
  | @timedOut w S t perform hS =>
      apply hx.timedOut (v := (w.mapEnv fun env =>
        { env with timeouts := env.timeouts.erase t }).note (.timedOut w.env.core w.sar)) hS rfl rfl
      · show w.env.core.Holds (CoreLog.waiting (w.env.io ++ [_]))
        rw [waiting_concat]
        exact hr.holds
      · intro a ha
        have ha' : a ∈ CoreLog.superseded (w.env.io ++ [.timedOut w.env.core w.sar]) := ha
        rw [superseded_concat] at ha'
        exact List.mem_append.mp ha'
      · exact throughout_concat.mpr ⟨hx.current, hx.tracks, hx.rid⟩
  | @responded w S gid oid payload hS =>
      apply hx.responded hS hr
      have hlonger : w.env.io ++ [.response gid oid payload] <+: (World.tell .success
          (nciCoreResponded gid oid (w.note (.response gid oid payload)))).env.io := by
        apply longer_tell
        rw [nciCoreResponded]
        split
        · show _ <+: (w.note (.response gid oid payload)).env.clearTimeout.io
          rw [(clearTimeout_fields _).1]
          exact List.prefix_refl _
        · exact List.prefix_refl _
      exact (throughout_concat.mp (throughout_of_longer hlonger hprompt)).2
  | completed hf => exact hx.completed hf
  | @written w S a ok hS _ ha =>
      have hkept : Kept w.env (w.note (.written ok)).env :=
        (Kept.refl w.env).record (e := .written ok) trivial trivial
      have hwanes := wanes_completedEffect hs hc ha ok
      rw [NciSar.reported]
      split
      · exact hx.kept hS hkept hwanes
      · rename_i hdone
        exact hx.left (v := (w.note (.written ok)).map fun sar => sar.completedEffect ok a) hkept
          hwanes ha (if_neg hdone)
  | @timeoutSet w S ms hS =>
      apply hx.kept hS
      · exact ⟨rfl, rfl, rfl, rfl, rfl, id⟩
      · exact (NciSar.tuned_refl _).wanes hs hc

/-- Nothing has been sent yet. -/
theorem superseding_coreStart :
  Moment.Superseding (coreStart, [])
  := by
  have hnil : ∀ k, nciSarNew.queued k = [] := by
    intro k
    cases k <;> rfl
  have hcarries : ∀ a, ¬ nciSarNew.Carries a := by
    rintro a (ha | ha)
    · cases ha
    · rw [hnil] at ha
      cases ha
  constructor
  · exact ⟨⟨quiet_nciSarNew.wf.1, fun hfalse => absurd hfalse Bool.false_ne_true⟩,
      fun l hl => absurd hl List.not_mem_nil⟩
  · refine ⟨fun cid => hnil (.out cid), ?_⟩
    intro a ha
    cases ha
  · rintro a ⟨ha | ⟨ok, S, hS⟩, -⟩
    · exact absurd ha (hcarries a)
    · cases hS
  · intro a ha
    exact absurd (Or.inr ha) (hcarries a)
  · intro c hc
    cases hc
  · intro a ha
    exact absurd (Or.inr ha) (hcarries a)
  · intro a ha
    cases ha
  · exact throughout_nil

/-- In every run in which responses are prompt the packet of the last command is the only one that
has a completion function. -/
theorem CoreApp.run_superseding (A : CoreApp) (hfuel : 1 < A.fuel) (n : Nat)
    (events : List CoreEvent)
    (h : Throughout CoreEntry.Prompt (A.run n coreStart events).env.io) :
  Moment.Superseding (A.run n coreStart events, [])
  := by
  have hall : ∀ {y : Moment (CoreEnv CoreLog)}, CoreMoves A (coreStart, []) y →
      (Remembering y.1.env ∧ Vacant y.1.env) ∧ Nested y.2
        ∧ (Throughout CoreEntry.Prompt y.1.env.io → y.Superseding) := by
    intro y hmoves
    induction hmoves with
    | refl =>
        refine ⟨⟨⟨NciCoreObject.holds_none rfl, fun _ => throughout_nil⟩, fun _ _ => rfl⟩, trivial,
          fun _ => superseding_coreStart⟩
    | tail _ hmove ih =>
        obtain ⟨hr, hnested, hsuperseding⟩ := ih
        refine ⟨hmove.remembering hr, hmove.nested hnested, fun hprompt => ?_⟩
        exact hmove.superseding hfuel (hsuperseding (throughout_of_longer hmove.longer hprompt))
          hnested hr.1 hprompt
  exact (hall (A.run_moves n coreStart events)).2.2 h

/-- In every run in which responses are prompt, the core knows the last command by its id as long as
the packet of that command is queued or being written. A command that is superseded, dropped or
timed out while it is queued is never handed to the HAL, and only the end of the last command is
reported. -/
theorem supersededNotSent (A : CoreApp) (hfuel : 1 < A.fuel) (n : Nat) (events : List CoreEvent)
    (h : Throughout CoreEntry.Prompt (A.run n coreStart events).env.io) :
  Throughout CoreEntry.Current (A.run n coreStart events).env.io
    ∧ (A.run n coreStart events).env.core.Tracks
      (CoreLog.waiting (A.run n coreStart events).env.io) (A.run n coreStart events).sar
    ∧ (A.run n coreStart events).sar.Rid (CoreLog.superseded (A.run n coreStart events).env.io)
  := by
  have hx := A.run_superseding hfuel n events h
  exact ⟨hx.current, hx.tracks, hx.rid⟩

/-- A command is answered after it is written, and another one is superseded while it is queued. -/
theorem supersededNotSent_answeredEvents :
  ∃ w, w = CoreApp.quiet.run 1 coreStart answeredEvents
    ∧ CoreLog.superseded w.env.io = [1]
    ∧ Throughout CoreEntry.Current w.env.io
    ∧ w.env.core.Tracks (CoreLog.waiting w.env.io) w.sar
    ∧ w.sar.Rid (CoreLog.superseded w.env.io)
  := ⟨_, rfl, by decide, supersededNotSent CoreApp.quiet (by decide) 1 answeredEvents (by decide)⟩

/-- A response arrives before the HAL reports that its command is written, and the next command is
sent. -/
def overtakenEvents : List CoreEvent :=
  [.call (.ioSend 0 0 none (some 1) .null), .idle, .segment [0x40, 0, 0],
    .call (.ioSend 0 1 none (some 2) .null), .written false]

/-- Responses have to be prompt: when the HAL reports that the first command could not be written,
the core takes this for a report about the second one, which is still queued. When that one is
dropped and another one is sent, it is written nevertheless. -/
example :
  (∃ c, CoreLog.waiting (CoreApp.quiet.run 1 coreStart overtakenEvents).env.io = some c
      ∧ (CoreApp.quiet.run 1 coreStart overtakenEvents).sar.Carries c.addr
      ∧ (CoreApp.quiet.run 1 coreStart overtakenEvents).env.core.cmdId ≠ c.id)
    ∧ ∃ a ∈ CoreLog.superseded (CoreApp.quiet.run 1 coreStart (overtakenEvents
        ++ [.call .ioCancel, .call (.ioSend 0 2 none (some 3) .null), .idle])).env.io,
      (CoreApp.quiet.run 1 coreStart (overtakenEvents
        ++ [.call .ioCancel, .call (.ioSend 0 2 none (some 3) .null), .idle])).sar.writing = some a
  := by
  refine ⟨⟨_, rfl, ?_, ?_⟩, 1, ?_, ?_⟩
  · right
    decide
  · decide
  · decide
  · decide

end Nci
