import LibNciCore.Sar.AppMoves
import LibNciCore.Sar.Lines

/-!
# Where the packets are

In a run in which any functions of the layer are called, every packet that is queued, that is
being written or that is on its way out of the layer is allocated, and no packet is in two of these
places. The number of connections must not be changed while data packets are there that stay, since
those point into the table of connections that was there before.
-/

namespace Nci

open LinkedQueue

variable {P : Call → Prop} {A : App P}

/-! ### Runs in which packets do not lose their connection -/

/-- The number of connections is changed while there is a data packet that stays. -/
def NciSar.Retabled (sar : NciSar) (max : UInt8) : Prop :=
  newMaxLogicalConns max ≠ sar.maxLogicalConns
    ∧ ((∃ cid ∈ List.range (newMaxLogicalConns max).toNat, (sar.conn cid).out.first.isSome = true)
      ∨ ((sar.writing.bind sar.heap).bind NciSarPacketOut.conn).isSome = true)

instance (sar : NciSar) (max : UInt8) : Decidable (sar.Retabled max) :=
  inferInstanceAs (Decidable (newMaxLogicalConns max ≠ sar.maxLogicalConns
    ∧ ((∃ cid ∈ List.range (newMaxLogicalConns max).toNat, (sar.conn cid).out.first.isSome = true)
      ∨ ((sar.writing.bind sar.heap).bind NciSarPacketOut.conn).isSome = true)))

/-- The number of connections is not changed while there is a data packet that stays, and where
queues are cleared, fewer packets have been accepted than can be freed. -/
def Entry.Tame (fuel : Nat) : Entry → Prop
  | .called .reset sar => sar.nextAddr < fuel
  | .called (.setMaxLogicalConnections max) sar => sar.nextAddr < fuel ∧ ¬ sar.Retabled max
  | _ => True

instance (fuel : Nat) : DecidablePred (Entry.Tame fuel)
  | .called .reset sar => inferInstanceAs (Decidable (sar.nextAddr < fuel))
  | .called (.setMaxLogicalConnections max) sar =>
      inferInstanceAs (Decidable (sar.nextAddr < fuel ∧ ¬ sar.Retabled max))
  | .called .start _ | .called (.setMaxControlPayloadSize _) _
  | .called (.setMaxDataPayloadSize _) _ | .called (.setInitialCredits _ _) _
  | .called (.addCredits _ _) _ | .called (.sendCommand _ _ _ _ _) _
  | .called (.sendDataPacket _ _ _ _) _ | .called (.cancel _) _ | .completed _ _ | .halStart _ _
  | .halWrite _ _ _ | .received _ _ | .idle | .halError | .halStop | .halCancelWrite | .error
  | .response _ _ _ | .notification _ _ _ | .dataPacket _ _ | .complete _ _ | .destroy _ =>
      inferInstanceAs (Decidable True)

/-! ### Moves and the log -/

/-- Where destroy functions call nothing, the surroundings only record that they are called. -/
theorem App.Discreet.destroy (hA : A.Discreet)
    {perform : List (Subtype P) → World Log → World Log} (hnil : ∀ w, perform [] w = w) (f : Nat)
    (w : World Log) :
  (A.envWith perform).destroy f w = w.record (.destroy f)
  := by
  show perform (A.react (w.env ++ [.destroy f])) (w.record (.destroy f)) = w.record (.destroy f)
  rw [hA, hnil]

theorem App.Discreet.env (hA : A.Discreet)
    {perform : List (Subtype P) → World Log → World Log} (hnil : ∀ w, perform [] w = w) :
  (A.envWith perform).Discreet
  := by
  constructor
  intro f w
  rw [hA.destroy hnil]
  rfl

/-- The HAL and the destroy functions only add to the log. -/
theorem App.Discreet.quietly (hA : A.Discreet)
    {perform : List (Subtype P) → World Log → World Log} (hnil : ∀ w, perform [] w = w)
    (log : Log) :
  (A.envWith perform).Quietly (fun _ => True) fun env => log <+: env
  := by
  refine ⟨⟨?_, ?_, ?_⟩, ?_, ?_⟩
  · exact fun _ _ h => h.trans (List.prefix_append _ _)
  · exact fun _ _ h => h.trans (List.prefix_append _ _)
  · intro f w h
    rw [hA.destroy hnil]
    exact h.trans (List.prefix_append _ _)
  · exact fun _ _ h => h.trans (List.prefix_append _ _)
  · exact fun _ _ _ _ h => h.trans (List.prefix_append _ _)

/-- A call that does not reset the layer only adds to the log. -/
theorem App.Discreet.longer_call (hA : A.Discreet)
    {perform : List (Subtype P) → World Log → World Log} (hnil : ∀ w, perform [] w = w) (c : Call)
    (hreset : c ≠ .reset) (fuel : Nat) (w : World Log) :
  w.env <+: (c.perform (A.envWith perform) fuel w).env
  := by
  have hQ := hA.quietly hnil w.env
  have hrefl := List.prefix_refl w.env
  cases c with
  | start => exact hQ.start hrefl
  | reset => exact absurd rfl hreset
  | setMaxLogicalConnections max => exact hQ.setMaxLogicalConnections _ _ hrefl
  | cancel id => exact hQ.cancel _ hrefl
  | setMaxControlPayloadSize max => exact hrefl
  | setMaxDataPayloadSize max => exact hrefl
  | setInitialCredits cid credits => exact hrefl
  | addCredits cid credits => exact hrefl
  | sendCommand gid oid payload complete destroy => exact hrefl
  | sendDataPacket cid payload complete destroy => exact hrefl

/-- A reset only adds to the log. -/
theorem App.Discreet.longer_reset (hA : A.Discreet)
    {perform : List (Subtype P) → World Log → World Log} (hnil : ∀ w, perform [] w = w)
    (fuel : Nat) (w : World Log) :
  w.env <+: (nciSarResetClear (A.envWith perform) fuel w).env
  := (hA.quietly hnil w.env).resetClear fuel (List.prefix_refl _)

/-- A move only adds to the log. -/
theorem AppMove.longer (hA : A.Discreet) {x y : Moment Log} (h : AppMove A x y) :
  x.1.env <+: y.1.env
  := by
  cases h with
  | layer perform hnil hmove =>
      exact (hA.quietly hnil _).move hmove trivial (List.prefix_refl _)
  | noted _ _ => exact List.prefix_append _ _
  | received packet _ => exact List.prefix_append _ _
  | @called w S c perform hnil _ _ hreset =>
      exact (List.prefix_append w.env _).trans
        (hA.longer_call hnil c hreset A.fuel (w.record (.called c w.sar.snapshot)))
  | @reset w S perform hnil _ _ =>
      exact (List.prefix_append w.env _).trans
        (hA.longer_reset hnil A.fuel (w.record (.called .reset w.sar.snapshot)))
  | completed ok _ _ _ => exact List.prefix_append _ _
  | stray ok _ _ => exact List.prefix_append _ _
  | reported _ => exact List.prefix_append _ _

/-- What every entry of a log has, every entry of an earlier log has. -/
theorem forall_of_prefix {p : Entry → Prop} {log log' : Log} (h : log <+: log')
    (hlog' : ∀ e ∈ log', p e) :
  ∀ e ∈ log, p e
  := fun e he => hlog' e (h.subset he)

/-- A property that every move keeps, as long as all that is recorded is of some kind, holds after
every run of that kind. -/
theorem AppMoves.induction (hA : A.Discreet) {I : Moment Log → Prop} {p : Log → Prop}
    (hp : ∀ {log log' : Log}, log <+: log' → p log' → p log)
    (hI : ∀ {x y : Moment Log}, AppMove A x y → I x → p y.1.env → I y) {x y : Moment Log}
    (h : AppMoves A x y) (hx : I x) (hy : p y.1.env) :
  I y
  := by
  induction h with
  | refl => exact hx
  | tail _ hlast ih => exact hI hlast (ih (hp (hlast.longer hA) hy)) hy

/-! ### Where the packets are -/

/-- Every packet is in its place: those that are queued and the one that is being written belong to
connections that exist, and those on their way out have left the queues, are allocated and are
different from each other. -/
structure Moment.Intact (x : Moment Log) : Prop where
  sound : x.Sound
  beyond : ∀ cid, x.1.sar.maxLogicalConns.toNat ≤ cid → x.1.sar.line (.out cid) = []
  allocated : ∀ l ∈ x.2, (x.1.sar.packet l.addr).isSome = true
  nodup : (x.2.map Leaving.addr).Nodup

namespace NciSar

variable {sar sar' : NciSar}

/-- When the packet that is being written is forgotten, only the queues are left. -/
theorem line_setWriting (sar : NciSar) (k : QueueKey) :
  (sar.setWriting none).line k = sar.queued k
  := by
  have hnone : (sar.setWriting none).writing = none := rfl
  rw [line_of_none hnone]
  cases k <;> rfl

/-- The queue of a line without packets is empty. -/
theorem queued_of_line {k : QueueKey} (h : sar.line k = []) :
  sar.queued k = []
  := by
  rw [line, Lists.line] at h
  exact (List.append_eq_nil_iff.mp h).2

/-- A packet that is being written is allocated. -/
theorem WF.packet_writing (hw : sar.WF) {a : Nat} (ha : sar.writing = some a) :
  (sar.packet a).isSome = true
  := by
  obtain ⟨⟨k, -, out, hout, -⟩, -⟩ := hw.writing a ha
  rw [hout]
  rfl

/-- Cutting a segment off deallocates nothing. -/
theorem isSome_modify (s : Lists) (a b : Nat) (f : NciSarPacketOut → NciSarPacketOut) :
  ((s.modify a f).packet b).isSome = (s.packet b).isSome
  := by
  by_cases hb : b = a
  · subst hb
    simp [Lists.modify]
  · simp [Lists.modify, hb]

end NciSar

/-- The moves that leave the packets where they are. -/
theorem Moment.Intact.frame {w v : World Log} {S : List Leaving} (hx : Moment.Intact (w, S))
    (hsound : Moment.Sound (v, S)) (hmax : v.sar.maxLogicalConns = w.sar.maxLogicalConns)
    (hline : ∀ k, w.sar.line k = [] → v.sar.line k = [])
    (hpacket : ∀ a ∈ S.map Leaving.addr,
      (w.sar.packet a).isSome = true → (v.sar.packet a).isSome = true) :
  Moment.Intact (v, S)
  := by
  refine ⟨hsound, ?_, ?_, hx.nodup⟩
  · intro cid hcid
    apply hline
    apply hx.beyond
    rw [hmax] at hcid
    exact hcid
  · intro l hl
    exact hpacket _ (List.mem_map_of_mem hl) (hx.allocated l hl)

/-- A packet that leaves while it is being written. -/
theorem Moment.Intact.leave {w w' : World Log} {S : List Leaving} {l : Leaving}
    (hx : Moment.Intact (w, S)) (ha : w.sar.writing = some l.addr)
    (hsound : Moment.Sound (w', l :: S)) (hmax : w'.sar.maxLogicalConns = w.sar.maxLogicalConns)
    (hline : ∀ k, w.sar.line k = [] → w'.sar.line k = [])
    (hpacket : ∀ a, (w'.sar.packet a).isSome = (w.sar.packet a).isSome) :
  Moment.Intact (w', l :: S)
  := by
  refine ⟨hsound, ?_, ?_, ?_⟩
  · intro cid hcid
    apply hline
    apply hx.beyond
    rw [hmax] at hcid
    exact hcid
  · intro l' hl'
    rw [hpacket]
    rcases List.mem_cons.mp hl' with rfl | hl'
    · exact hx.sound.sar.wf.packet_writing ha
    · exact hx.allocated l' hl'
  · apply List.nodup_cons.mpr
    refine ⟨?_, hx.nodup⟩
    intro hmem
    obtain ⟨l', hl', heq⟩ := List.mem_map.mp hmem
    apply (hx.sound.leaving l' hl').2.2
    rw [heq]
    exact ha

/-- The completion function of a packet need not be called any more. -/
theorem Moment.Intact.release {w : World Log} {S : List Leaving} {a : Nat} {ok : Bool}
    (hx : Moment.Intact (w, .finish a ok :: S)) {log : Log}
    (hsound : Moment.Sound (⟨w.sar, log⟩, .free a :: S)) :
  Moment.Intact (⟨w.sar, log⟩, .free a :: S)
  := by
  refine ⟨hsound, hx.beyond, ?_, hx.nodup⟩
  intro l hl
  rcases List.mem_cons.mp hl with rfl | hl
  · exact hx.allocated (.finish a ok) List.mem_cons_self
  · exact hx.allocated l (List.mem_cons_of_mem _ hl)

/-- A move of the layer keeps the packets in their places. -/
theorem Move.intact {E : SarEnv Log} (hE : E.Discreet) {x y : Moment Log} (h : Move E x y)
    (hx : x.Intact) :
  y.Intact
  := by
  have hsound := h.sound hE hx.sound
  cases h with
  | tuned sar _ htuned =>
      apply hx.frame hsound htuned.maxLogicalConns
      · intro k hk
        rw [htuned.same.line]
        exact hk
      · intro a _ ha
        rw [htuned.same.packet]
        exact ha
  | @selected w S _ _ =>
      have hwf := hx.sound.sar.wf
      apply hx.frame hsound hwf.sameInput_select.maxLogicalConns
      · intro k hk
        exact (hwf.sameLines_select.line k).trans hk
      · intro a _ ha
        rw [World.map, hwf.sameLines_select.packet]
        exact ha
  | @handed w S a _ hpending ha _ =>
      obtain ⟨out, hout, hwf, hl⟩ := submit_spec E hx.sound.sar ha hpending
      obtain ⟨started, hsar⟩ := submit_sar E hout hpending
      apply hx.frame hsound (by rw [hsar]; rfl)
      · intro k hk
        rw [NciSar.line, hl, Lists.line_modify]
        · exact hk
        · intro x
          rw [NciSarPacketOut.key, NciSarPacketOut.key, NciSar.nextSegment_conn]
      · intro b _ hb
        rw [← NciSar.lists_packet, hl, NciSar.isSome_modify]
        exact hb
  | @refused w S a _ hpending ha _ =>
      obtain ⟨out, hout, hwf, hl⟩ := submit_spec E hx.sound.sar ha hpending
      obtain ⟨started, hsar⟩ := submit_sar E hout hpending
      apply hx.leave (l := .finish a false) ha hsound (by rw [World.map, hsar]; rfl)
      · intro k hk
        rw [World.map, NciSar.line_setWriting]
        exact (congrFun (congrArg Lists.queued hl) k).trans (NciSar.queued_of_line hk)
      · intro b
        show ((nciSarAttemptWriteSubmit E a w).2.sar.packet b).isSome = _
        rw [← NciSar.lists_packet, hl, NciSar.isSome_modify]
        rfl
  | skipped _ => exact hx.release hsound
  | @freed w S a =>
      have hdetached : w.sar.Detached a := hx.sound.leaving (.free a) List.mem_cons_self
      obtain ⟨hnot, hnodup⟩ := List.nodup_cons.mp hx.nodup
      have hlists := (hx.sound.sar.wf.free hdetached.2.1 hdetached.2.2).2
      refine ⟨hsound, ?_, ?_, hnodup⟩
      · intro cid hcid
        rw [hE.packetOutFree] at hcid ⊢
        rw [NciSar.line, hlists, Lists.line_free hdetached.2.2]
        exact hx.beyond cid hcid
      · intro l hl
        rw [hE.packetOutFree, ← NciSar.lists_packet, hlists]
        have hne : l.addr ≠ a := by
          intro heq
          apply hnot
          rw [← heq]
          exact List.mem_map.mpr ⟨l, hl, rfl⟩
        simp only [Lists.free, Function.update_of_ne hne]
        exact hx.allocated l (List.mem_cons_of_mem _ hl)

/-! ### Calls and resets -/

section

variable {w v : World Log} {S : List Leaving}

/-- Other entries of the log do not matter. -/
theorem Moment.Intact.noted (hx : Moment.Intact (w, S)) (log : Log) :
  Moment.Intact (⟨w.sar, log⟩, S)
  := ⟨⟨hx.sound.sar, hx.sound.leaving⟩, hx.beyond, hx.allocated, hx.nodup⟩

/-- A change that leaves the packets alone. -/
theorem Moment.Intact.tuned (hx : Moment.Intact (w, S)) (h : w.sar.Tuned v.sar) :
  Moment.Intact (v, S)
  := by
  apply hx.frame ⟨⟨h.wf hx.sound.sar.wf, ?_⟩, ?_⟩ h.maxLogicalConns
  · intro k hk
    rw [h.same.line]
    exact hk
  · intro a _ ha
    rw [h.same.packet]
    exact ha
  · rw [h.writePending, h.same.writing]
    exact hx.sound.sar.pending
  · exact fun l hl => (hx.sound.leaving l hl).of_lists h.same.lists

/-- A packet is queued on a connection that exists. -/
theorem Moment.Intact.send (hx : Moment.Intact (w, S)) {k : QueueKey} (b0 b1 : UInt8)
    (payload : Option (List UInt8)) (complete destroy : Option Nat)
    (hk : ∀ cid, k = .out cid → cid < w.sar.maxLogicalConns.toNat) :
  Moment.Intact (w.map fun sar =>
    (nciSarSend sar k (w.sar.connPtr k) b0 b1 payload complete destroy).2, S)
  := by
  have hwf := hx.sound.sar.wf
  obtain ⟨hwf', hl, -⟩ := hwf.send k b0 b1 payload complete destroy
  obtain ⟨hpending, hwriting⟩ :=
    w.sar.fields_send k (w.sar.connPtr k) b0 b1 payload complete destroy
  have hmax := (w.sar.sameInput_send k (w.sar.connPtr k) b0 b1 payload complete
    destroy).maxLogicalConns
  obtain ⟨sar', hsar'⟩ : ∃ sar', sar' = (nciSarSend w.sar k (w.sar.connPtr k) b0 b1 payload complete
      destroy).2 := ⟨_, rfl⟩
  rw [← hsar'] at hwf' hl hpending hwriting hmax
  have hgoal : Moment.Intact (⟨sar', w.env⟩, S) := by
    refine ⟨⟨⟨hwf', ?_⟩, ?_⟩, ?_, ?_, hx.nodup⟩
    · rw [hpending, hwriting]
      exact hx.sound.sar.pending
    · intro l hmem
      have hdetached := hx.sound.leaving l hmem
      rw [NciSar.detached_iff, hl]
      refine ⟨Nat.lt_succ_of_lt hdetached.1, ?_, hdetached.2.2⟩
      intro k' hmem'
      by_cases hkk : k' = k
      · subst hkk
        simp only [Lists.append, Function.update_self, NciSar.lists_nextAddr] at hmem'
        rcases List.mem_append.mp hmem' with hmem' | hmem'
        · split at hmem'
          · cases hmem'
          · exact hdetached.2.1 _ hmem'
        · exact absurd (List.mem_singleton.mp hmem') (Nat.ne_of_lt hdetached.1)
      · simp only [Lists.append, Function.update_of_ne hkk] at hmem'
        exact hdetached.2.1 k' hmem'
    · intro cid hcid
      rw [hmax] at hcid
      have hne : QueueKey.out cid ≠ k := fun heq =>
        Nat.not_le.mpr (hk cid heq.symm) hcid
      rw [NciSar.line, hl, Lists.line_append hwf.writing_ne_nextAddr, if_neg hne]
      exact hx.beyond cid hcid
    · intro l hmem
      have hne : l.addr ≠ w.sar.nextAddr := Nat.ne_of_lt (hx.sound.leaving l hmem).1
      rw [← NciSar.lists_packet, hl]
      simp only [Lists.append, NciSar.lists_nextAddr, Function.update_of_ne hne]
      exact hx.allocated l hmem
  rw [hsar'] at hgoal
  exact hgoal

/-- A packet is cancelled. -/
theorem Moment.Intact.cancel {E : SarEnv Log} (hE : E.Discreet) (hx : Moment.Intact (w, S))
    (id : UInt32) :
  Moment.Intact (nciSarCancel E id w, S)
  := by
  have hwf := hx.sound.sar.wf
  have hfields := w.sar.fields_cancelEffect id
  have hmax := (w.sar.sameInput_cancelEffect id).maxLogicalConns
  have hsound' : (w.sar.cancelEffect id).Sound := by
    refine ⟨hwf.cancelEffect id, ?_⟩
    rw [hfields.1, hfields.2]
    exact hx.sound.sar.pending
  have hleaving : ∀ l ∈ S, (w.sar.cancelEffect id).Detached l.addr := fun l hl =>
    Call.detached_effect hwf (hx.sound.leaving l hl) (.cancel id)
  rw [nciSarCancel_eq]
  rcases hwf.cancel_cases id with ⟨a, -, ht, heq⟩ | ⟨k, a, ht, hmem, heq, -, hl⟩ | ⟨ht, heq⟩
  · rw [ht]
    obtain ⟨-, hl⟩ := hwf.modifyPacket a (f := fun out => { out with complete := none })
      (fun _ => rfl) (fun _ => rfl) (fun _ _ => rfl)
    apply hx.frame (v := w.map fun sar => sar.cancelEffect id) ⟨hsound', hleaving⟩ hmax
    · intro k hk
      rw [World.map, heq, NciSar.line, hl, Lists.line_modify]
      · exact hk
      · intro x
        rfl
    · intro b _ hb
      rw [World.map, heq, ← NciSar.lists_packet, hl, NciSar.isSome_modify]
      exact hb
  · rw [ht]
    have hdetached := NciSar.detached_of_cancelTarget hwf ht
    have hne : w.sar.writing ≠ some a := fun hwriting => (hwf.writing a hwriting).2 k hmem
    rw [← heq] at hl
    have hremoved : Moment.Intact (w.map fun sar => sar.cancelEffect id, .free a :: S) := by
      refine ⟨⟨hsound', ?_⟩, ?_, ?_, ?_⟩
      · intro l hmem'
        rcases List.mem_cons.mp hmem' with rfl | hmem'
        · exact hdetached
        · exact hleaving l hmem'
      · intro cid hcid
        have hcid' : w.sar.maxLogicalConns.toNat ≤ cid := by
          rw [← hmax]
          exact hcid
        have hnil := hx.beyond cid hcid'
        rw [World.map, NciSar.line, hl, Lists.line_remove hne]
        split
        · rename_i hkk
          rw [← hkk]
          exact congrArg (List.erase · a) hnil
        · exact hnil
      · intro l hmem'
        rw [World.map, ← NciSar.lists_packet, hl]
        rcases List.mem_cons.mp hmem' with rfl | hmem'
        · obtain ⟨-, out, hout, -⟩ := hwf.owned k a hmem
          exact congrArg Option.isSome hout
        · exact hx.allocated l hmem'
      · apply List.nodup_cons.mpr
        refine ⟨?_, hx.nodup⟩
        intro hmem'
        obtain ⟨l, hl', haddr⟩ := List.mem_map.mp hmem'
        apply (hx.sound.leaving l hl').2.1 k
        rw [haddr]
        exact hmem
    exact Move.intact hE Move.freed hremoved
  · rw [ht]
    exact hx.tuned (v := w.map fun sar => sar.cancelEffect id) (by
      rw [World.map, heq]
      apply NciSar.tuned_refl)

/-- The queues with some keys are cleared. -/
theorem Moment.Intact.cleared {K : QueueKey → Prop} (hx : Moment.Intact (w, S))
    (hcleared : NciSar.Cleared K w.sar v.sar) :
  Moment.Intact (v, S)
  := by
  have hwf := hx.sound.sar.wf
  obtain ⟨hwf', hnil, hkept⟩ := hcleared.spec hwf
  have hsub : ∀ k a, a ∈ v.sar.line k → a ∈ w.sar.line k := by
    intro k a ha
    rcases hwf'.mem_line.mp ha with hq | ⟨hwriting, hk⟩
    · by_cases hK : K k
      · rw [hnil k hK] at hq
        cases hq
      · rw [hkept k hK] at hq
        exact hwf.mem_line.mpr (Or.inl hq)
    · rw [hcleared.writing] at hwriting
      refine hwf.mem_line.mpr (Or.inr ⟨hwriting, ?_⟩)
      rw [NciSar.Owned, hcleared.nextAddr, hcleared.connPtr,
        hcleared.packet fun k' _ => (hwf.writing a hwriting).2 k'] at hk
      exact hk
  apply hx.frame ⟨⟨hwf', ?_⟩, ?_⟩ hcleared.maxLogicalConns
  · intro k hk
    apply List.eq_nil_iff_forall_not_mem.mpr
    intro a ha
    have ha' := hsub k a ha
    rw [hk] at ha'
    cases ha'
  · intro a ha hsome
    obtain ⟨l, hl, rfl⟩ := List.mem_map.mp ha
    rw [hcleared.packet fun k _ => (hx.sound.leaving l hl).2.1 k]
    exact hsome
  · rw [hcleared.writePending, hcleared.writing]
    exact hx.sound.sar.pending
  · intro l hl
    exact hcleared.detached hwf (hx.sound.leaving l hl)

/-- The packet that is being written leaves when it is forgotten. -/
theorem Moment.Intact.forgotten (hx : Moment.Intact (w, S)) {a : Nat} {ok : Bool} {log : Log}
    (ha : w.sar.writing = some a) {sar : NciSar}
    (hsame : NciSar.SameQueues (w.sar.setWriting none) sar) (hwf : sar.WF)
    (hpending : sar.writePending = false) (hmax : sar.maxLogicalConns = w.sar.maxLogicalConns) :
  Moment.Intact (⟨sar, log⟩, .finish a ok :: S)
  := by
  apply hx.leave (l := .finish a ok) ha ⟨⟨hwf, ?_⟩, ?_⟩ hmax
  · intro k hk
    rw [hsame.line, NciSar.line_setWriting]
    apply NciSar.queued_of_line hk
  · intro b
    rw [hsame.packet]
    rfl
  · intro hp
    rw [hpending] at hp
    cases hp
  · intro l hl
    rcases List.mem_cons.mp hl with rfl | hl
    · exact (NciSar.detached_dropped hx.sound.sar.wf ha).of_lists hsame.lists
    · exact (hx.sound.leaving l hl).dropped.of_lists hsame.lists

/-- The HAL reports the end of a write. -/
theorem Moment.Intact.completed (hx : Moment.Intact (w, S)) {a : Nat} (ok : Bool) {log : Log}
    (ha : w.sar.writing = some a) :
  Moment.Intact (⟨w.sar.completedEffect ok a, log⟩, w.sar.reported ok a ++ S)
  := by
  have hwf := hx.sound.sar.wf
  by_cases hstays : (ok && !w.sar.isDoneAt a) = true
  · have heffect : w.sar.completedEffect ok a = w.sar.setWritePending false := by
      rw [NciSar.completedEffect, if_pos hstays, ← ha]
      rfl
    have hsame : NciSar.SameQueues w.sar (w.sar.setWritePending false) := by
      apply NciSar.sameQueues_of_fields <;> rfl
    rw [heffect, NciSar.reported, if_pos hstays]
    apply hx.frame (v := ⟨w.sar.setWritePending false, log⟩)
      ⟨⟨hsame.wf hwf hwf.control hwf.data, ?_⟩, ?_⟩ rfl
    · intro k hk
      rw [hsame.line]
      exact hk
    · intro b _ hb
      rw [hsame.packet]
      exact hb
    · intro hp
      cases hp
    · exact fun l hl => (hx.sound.leaving l hl).of_lists hsame.lists
  · have heffect : w.sar.completedEffect ok a = (w.sar.setWriting none).setWritePending false := by
      rw [NciSar.completedEffect, if_neg hstays]
      rfl
    have hsame : NciSar.SameQueues (w.sar.setWriting none)
        ((w.sar.setWriting none).setWritePending false) := by
      apply NciSar.sameQueues_of_fields <;> rfl
    rw [heffect, NciSar.reported, if_neg hstays]
    apply hx.forgotten ha hsame _ rfl rfl
    apply hsame.wf hwf.forget hwf.control hwf.data

/-- A reset forgets the packet that is being written, and empties all queues. -/
theorem Moment.Intact.reset {E : SarEnv Log} (hE : E.Discreet) (hx : Moment.Intact (w, S))
    {fuel : Nat} (hfuel : w.sar.nextAddr < fuel) :
  Moment.Intact (nciSarResetClear E fuel w, w.sar.dropped ++ S)
  := by
  have hwf := hx.sound.sar.wf
  obtain ⟨sar, hsar⟩ : ∃ sar, sar = ((w.sar.setWriting none).setWritePending false).setStarted false
    := ⟨_, rfl⟩
  have hsame : NciSar.SameQueues (w.sar.setWriting none) sar := by
    rw [hsar]
    apply NciSar.sameQueues_of_fields <;> rfl
  have hwf' : sar.WF := by
    rw [hsar]
    exact hx.sound.sar.forgotten
  have hpending : sar.writePending = false := by
    rw [hsar]
    rfl
  have hmax : sar.maxLogicalConns = w.sar.maxLogicalConns := by
    rw [hsar]
    rfl
  have hleft : Moment.Intact (⟨sar, w.env⟩, w.sar.dropped ++ S) := by
    rw [NciSar.dropped]
    cases ha : w.sar.writing with
    | some a => exact hx.forgotten ha hsame hwf' hpending hmax
    | none =>
        have hself : w.sar.setWriting none = w.sar := by
          rw [← ha]
          rfl
        rw [hself] at hsame
        apply hx.frame ⟨⟨hwf', ?_⟩, ?_⟩ hmax
        · intro k hk
          rw [hsame.line]
          exact hk
        · intro b _ hb
          rw [hsame.packet]
          exact hb
        · intro hp
          rw [hpending] at hp
          cases hp
        · exact fun l hl => (hx.sound.leaving l hl).of_lists hsame.lists
  obtain ⟨hcleared, -⟩ := hE.resetClear hx.sound.sar fun k =>
    Nat.lt_of_le_of_lt (hwf.length_queued k) hfuel
  rw [← hsar] at hcleared
  exact hleft.cleared hcleared

theorem setMaxLogicalConnections_of_eq (E : SarEnv Log) (fuel : Nat) (max : UInt8)
    (h : newMaxLogicalConns max = w.sar.maxLogicalConns) :
  nciSarSetMaxLogicalConnections E fuel max w = w
  := by
  rw [newMaxLogicalConns] at h
  simp only [nciSarSetMaxLogicalConnections, h]
  rw [if_neg (UInt8.lt_irrefl _), if_neg (UInt8.lt_irrefl _)]

/-- If there is no data packet that stays, the queues that stay are empty, and no data packet is
being written. -/
theorem NciSar.WF.quiet_of_not_retabled {sar : NciSar} (hw : sar.WF) {max : UInt8}
    (hmax : ¬ sar.Retabled max) (hne : newMaxLogicalConns max ≠ sar.maxLogicalConns) :
  (∀ cid < (newMaxLogicalConns max).toNat, sar.queued (.out cid) = [])
    ∧ ∀ a, sar.writing = some a → sar.Owned .cmd a
  := by
  have hquiet := not_or.mp fun h => hmax ⟨hne, h⟩
  constructor
  · intro cid hcid
    by_contra hqueued
    apply hquiet.1
    exact ⟨cid, List.mem_range.mpr hcid, (hw.first_isSome (.out cid)).mpr hqueued⟩
  · intro a ha
    obtain ⟨⟨k, hk⟩, -⟩ := hw.writing a ha
    cases k with
    | cmd => exact hk
    | out cid =>
        exfalso
        apply hquiet.2
        rw [ha, Option.bind_some, hk.conn]
        rfl

/-- The number of connections is changed while there is no data packet that stays. -/
theorem Moment.Intact.setMaxLogicalConnections {E : SarEnv Log} (hE : E.Discreet)
    (hx : Moment.Intact (w, S)) {fuel : Nat} {max : UInt8} (hfuel : w.sar.nextAddr < fuel)
    (hmax : ¬ w.sar.Retabled max) :
  Moment.Intact (nciSarSetMaxLogicalConnections E fuel max w, S)
  := by
  have hwf := hx.sound.sar.wf
  by_cases heq : newMaxLogicalConns max = w.sar.maxLogicalConns
  · rw [setMaxLogicalConnections_of_eq E fuel max heq]
    exact hx
  · obtain ⟨hsurvive, hcommand⟩ := hwf.quiet_of_not_retabled hmax heq
    obtain ⟨hresized, -⟩ := hE.setMaxLogicalConnections max hwf
      (fun k => Nat.lt_of_le_of_lt (hwf.length_queued k) hfuel) hsurvive
      (fun cid hcid => NciSar.queued_of_line (hx.beyond cid hcid)) hcommand heq
    refine ⟨⟨⟨hresized.wf, ?_⟩, ?_⟩, ?_, ?_, hx.nodup⟩
    · rw [hresized.writePending, hresized.writing]
      exact hx.sound.sar.pending
    · intro l hl
      obtain ⟨hlt, hnot, hwriting⟩ := hx.sound.leaving l hl
      refine ⟨hresized.nextAddr ▸ hlt, ?_, hresized.writing ▸ hwriting⟩
      intro k hmem
      cases k with
      | cmd =>
          rw [hresized.cmd] at hmem
          exact hnot _ hmem
      | out cid =>
          rw [hresized.out] at hmem
          cases hmem
    · intro cid _
      apply List.eq_nil_iff_forall_not_mem.mpr
      intro a ha
      rcases hresized.wf.mem_line.mp ha with hmem | ⟨hwriting, howned⟩
      · rw [hresized.out] at hmem
        cases hmem
      · rw [hresized.writing] at hwriting
        have hcmd := hcommand a hwriting
        obtain ⟨-, out, hout, hconn⟩ := howned
        rw [hresized.packet a fun cid' => (hwf.writing a hwriting).2 (.out cid')] at hout
        obtain ⟨-, out', hout', hconn'⟩ := hcmd
        obtain rfl := Option.some.inj (hout.symm.trans hout')
        rw [hconn] at hconn'
        cases hconn'
    · intro l hl
      rw [hresized.packet l.addr fun cid => (hx.sound.leaving l hl).2.1 (.out cid)]
      exact hx.allocated l hl

/-- A function is called that does not reset the layer. -/
theorem Moment.Intact.call {E : SarEnv Log} (hE : E.Discreet) (hx : Moment.Intact (w, S)) (c : Call)
    (hreset : c ≠ .reset) {fuel : Nat} {s : NciSar} (hnext : s.nextAddr = w.sar.nextAddr)
    (hretabled : ∀ max, w.sar.Retabled max → s.Retabled max)
    (htame : (Entry.called c s).Tame fuel) :
  Moment.Intact (c.perform E fuel w, S)
  := by
  cases c with
  | start =>
      apply hx.tuned
      rw [Call.perform, nciSarStart]
      split
      · exact NciSar.tuned_refl _
      · exact NciSar.tuned_setStarted _ _
  | reset => exact absurd rfl hreset
  | setMaxLogicalConnections max =>
      obtain ⟨hfuel, hmax⟩ := htame
      rw [hnext] at hfuel
      exact hx.setMaxLogicalConnections hE hfuel fun h => hmax (hretabled max h)
  | setMaxControlPayloadSize max => exact hx.tuned (NciSar.tuned_setMaxControlPayloadSize _ _)
  | setMaxDataPayloadSize max => exact hx.tuned (NciSar.tuned_setMaxDataPayloadSize _ _)
  | setInitialCredits cid credits => exact hx.tuned (NciSar.tuned_setInitialCredits _ _ _)
  | addCredits cid credits => exact hx.tuned (NciSar.tuned_addCredits _ _ _)
  | sendCommand gid oid payload complete destroy =>
      apply hx.send (k := .cmd)
      intro cid heq
      cases heq
  | sendDataPacket cid payload complete destroy =>
      rw [Call.perform]
      simp only [nciSarSendDataPacket, World.map]
      split
      · rename_i hcid
        apply hx.send (k := .out cid.toNat)
        intro cid' heq
        obtain rfl := QueueKey.out.inj heq
        exact UInt8.lt_iff_toNat_lt.mp hcid
      · exact hx
  | cancel id => exact hx.cancel hE id

end

/-- In a new layer, there are no packets. -/
theorem intact_start :
  Moment.Intact (World.start nciSarNew, [])
  := by
  refine ⟨⟨quiet_nciSarNew.sound, ?_⟩, ?_, ?_, List.nodup_nil⟩
  · intro l hl
    cases hl
  · intro cid _
    exact (NciSar.line_of_none quiet_nciSarNew.writing _).trans (quiet_nciSarNew.wf.2 _)
  · intro l hl
    cases hl

/-- Every move keeps the packets in their places. -/
theorem AppMove.intact (hA : A.Discreet) {x y : Moment Log} (h : AppMove A x y) (hx : x.Intact)
    (hy : ∀ e ∈ y.1.env, e.Tame A.fuel) :
  y.Intact
  := by
  cases h with
  | layer perform hnil hmove => exact hmove.intact (hA.env hnil) hx
  | noted _ _ => exact hx.noted _
  | received packet _ => exact hx.noted _
  | @called w S c perform hnil _ _ hreset =>
      have hnoted : Moment.Intact (w.record (.called c w.sar.snapshot), S) := hx.noted _
      apply hnoted.call (hA.env hnil) c hreset (s := w.sar.snapshot) rfl fun _ h => h
      apply hy (.called c w.sar.snapshot)
      apply (hA.longer_call hnil c hreset _ _).subset
      exact List.mem_append_right _ (List.mem_singleton_self _)
  | @reset w S perform hnil _ _ =>
      have hnoted : Moment.Intact (w.record (.called .reset w.sar.snapshot), S) := hx.noted _
      apply hnoted.reset (hA.env hnil)
      apply hy (.called .reset w.sar.snapshot)
      apply (hA.longer_reset hnil _ _).subset
      exact List.mem_append_right _ (List.mem_singleton_self _)
  | completed ok _ _ ha => exact hx.completed ok ha
  | stray ok _ _ => exact hx.noted _
  | reported _ => exact hx.release ⟨⟨hx.sound.sar.wf, hx.sound.sar.pending⟩, by
      intro l hl
      rcases List.mem_cons.mp hl with rfl | hl
      · exact hx.sound.leaving (.finish _ _) List.mem_cons_self
      · exact hx.sound.leaving l (List.mem_cons_of_mem _ hl)⟩

end Nci
