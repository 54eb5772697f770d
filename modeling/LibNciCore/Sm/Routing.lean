import LibNciCore.Lib.Tlv
import LibNciCore.Sm.Run

/-!
# Listen mode routing

The entries of RF_SET_LISTEN_MODE_ROUTING_CMD are values with type and length. Which of them
are wanted depends on the operation mode and the technologies; how many there is room for, on
the size of the table.
-/

namespace Nci

/-! ### Entries -/

/-- An entry of the routing table. -/
abbrev RoutingEntry : Type := Tlv UInt8.toNat

/-- The entry that routes a protocol to the host. -/
def RoutingEntry.protocol (protocol : NciProtocol) : RoutingEntry :=
  ⟨0x01, 3, [0x00, 0x01, protocol.byte], rfl⟩

/-- The entry that routes a technology to the host. -/
def RoutingEntry.tech (technology : UInt8) : RoutingEntry :=
  ⟨0x00, 3, [0x00, 0x01, technology], rfl⟩

/-- The entry, if it is wanted. -/
def wantedIf (c : Prop) [Decidable c] (entry : RoutingEntry) : List RoutingEntry :=
  if c then [entry] else []

/-- The entries that are wanted for protocols. -/
def protocolEntries (self : NciSm) : List RoutingEntry :=
  wantedIf (self.opMode &&& nfcOpModePeer ≠ 0
      ∧ self.opMode &&& (nfcOpModePoll ||| nfcOpModeListen) ≠ 0
      ∧ self.techs &&& (nciTechA ||| nciTechF) ≠ 0) (.protocol .nfcDep)
    ++ wantedIf ((self.opMode &&& (nfcOpModeCe ||| nfcOpModeRw))
      &&& (self.techs &&& (nciTechA ||| nciTechB)) ≠ 0) (.protocol .isoDep)

/-- The entries that are wanted for technologies. -/
def techEntries (self : NciSm) : List RoutingEntry :=
  wantedIf (self.techs &&& nciTechFListen ≠ 0
      ∧ self.opMode &&& (nfcOpModeRw ||| nfcOpModePeer) ≠ 0) (.tech 0x02)
    ++ wantedIf (self.techs &&& nciTechB ≠ 0) (.tech 0x01)
    ++ wantedIf (self.techs &&& nciTechA ≠ 0) (.tech 0x00)

/-- What routing is based on. -/
inductive RoutingVariant where
  | mixed
  | protocol
  | technology
  deriving DecidableEq, Repr

/-- The function that adds the entries. -/
def RoutingVariant.addRoutingEntries : RoutingVariant → NciSm → List UInt8 → List UInt8
  | .mixed => nciTransitionIdleToDiscoveryMixedRoutingEntries
  | .protocol => nciTransitionIdleToDiscoveryProtocolRoutingEntries
  | .technology => nciTransitionIdleToDiscoveryTechRoutingEntries

/-- The entries that are wanted. -/
def RoutingVariant.wanted (self : NciSm) : RoutingVariant → List RoutingEntry
  | .mixed => protocolEntries self ++ techEntries self
  | .protocol => protocolEntries self
  | .technology => techEntries self

/-! ### Adding entries -/

/-- Entries are added one after another. -/
def addRoutingEntriesOf (self : NciSm) (entries : List RoutingEntry) (cmd : List UInt8) :
    List UInt8 :=
  entries.foldl (fun cmd entry => nciTransitionIdleToDiscoveryAddRoutingEntry self entry.encode cmd)
    cmd

theorem addRoutingEntriesOf_append (self : NciSm) (entries entries' : List RoutingEntry)
    (cmd : List UInt8) :
  addRoutingEntriesOf self (entries ++ entries') cmd
    = addRoutingEntriesOf self entries' (addRoutingEntriesOf self entries cmd)
  := List.foldl_append

theorem addRoutingEntriesOf_wantedIf (self : NciSm) (c : Prop) [Decidable c] (entry : RoutingEntry)
    (cmd : List UInt8) :
  addRoutingEntriesOf self (wantedIf c entry) cmd
    = if c then nciTransitionIdleToDiscoveryAddRoutingEntry self entry.encode cmd else cmd
  := by
  rw [wantedIf]
  split <;> rfl

/-- The functions add the entries that are wanted. -/
theorem RoutingVariant.addRoutingEntries_eq (v : RoutingVariant) (self : NciSm)
    (cmd : List UInt8) :
  v.addRoutingEntries self cmd = addRoutingEntriesOf self (v.wanted self) cmd
  := by
  have hprotocol : ∀ cmd, nciTransitionIdleToDiscoveryProtocolRoutingEntries self cmd
      = addRoutingEntriesOf self (protocolEntries self) cmd := by
    intro cmd
    rw [protocolEntries, addRoutingEntriesOf_append, addRoutingEntriesOf_wantedIf,
      addRoutingEntriesOf_wantedIf]
    rfl
  have htech : ∀ cmd, nciTransitionIdleToDiscoveryTechRoutingEntries self cmd
      = addRoutingEntriesOf self (techEntries self) cmd := by
    intro cmd
    rw [techEntries, addRoutingEntriesOf_append, addRoutingEntriesOf_append,
      addRoutingEntriesOf_wantedIf, addRoutingEntriesOf_wantedIf, addRoutingEntriesOf_wantedIf]
    rfl
  cases v with
  | mixed =>
      rw [addRoutingEntries, wanted, addRoutingEntriesOf_append, ← hprotocol, ← htech]
      rfl
  | protocol => apply hprotocol
  | technology => apply htech

/-- All entries have the same size. -/
theorem RoutingVariant.length_encode_of_mem_wanted {v : RoutingVariant} {self : NciSm}
    {entry : RoutingEntry} (h : entry ∈ v.wanted self) :
  entry.encode.length = 5
  := by
  have hif : ∀ (c : Prop) [Decidable c] (e : RoutingEntry), e.encode.length = 5 →
      entry ∈ wantedIf c e → entry.encode.length = 5 := by
    intro c _ e he hmem
    rw [wantedIf] at hmem
    split at hmem
    · rw [List.mem_singleton.mp hmem]
      apply he
    · cases hmem
  have hprotocol : entry ∈ protocolEntries self → entry.encode.length = 5 := by
    intro hmem
    rcases List.mem_append.mp hmem with hmem | hmem
    · apply hif _ _ rfl hmem
    · apply hif _ _ rfl hmem
  have htech : entry ∈ techEntries self → entry.encode.length = 5 := by
    intro hmem
    rcases List.mem_append.mp hmem with hmem | hmem
    · rcases List.mem_append.mp hmem with hmem | hmem
      · apply hif _ _ rfl hmem
      · apply hif _ _ rfl hmem
    · apply hif _ _ rfl hmem
  cases v with
  | mixed => exact (List.mem_append.mp h).elim hprotocol htech
  | protocol => apply hprotocol h
  | technology => apply htech h

theorem length_encodeAll_of_length {entries : List RoutingEntry}
    (h : ∀ entry ∈ entries, entry.encode.length = 5) :
  (Tlv.encodeAll entries).length = 5 * entries.length
  := by
  induction entries with
  | nil => rfl
  | cons entry entries ih =>
      rw [Tlv.encodeAll_cons, List.length_append, h entry List.mem_cons_self,
        ih fun e he => h e (List.mem_cons_of_mem _ he), List.length_cons]
      omega

/-- A command that has its header and some entries gets more of them until the table is
exceeded: the check does not count the entry that is to be added. -/
theorem addRoutingEntriesOf_eq (self : NciSm) (entries placed : List RoutingEntry)
    (hplaced : ∀ entry ∈ placed, entry.encode.length = 5)
    (h : ∀ entry ∈ entries, entry.encode.length = 5) :
  addRoutingEntriesOf self entries
      (0 :: UInt8.ofNat placed.length :: Tlv.encodeAll placed)
    = 0 :: UInt8.ofNat
          (placed ++ entries.take (self.maxRoutingTableSize / 5 + 1 - placed.length)).length
        :: Tlv.encodeAll
          (placed ++ entries.take (self.maxRoutingTableSize / 5 + 1 - placed.length))
  := by
  induction entries generalizing placed with
  | nil => rw [List.take_nil, List.append_nil]; rfl
  | cons entry entries ih =>
      have hentries : ∀ e ∈ entries, e.encode.length = 5 :=
        fun e he => h e (List.mem_cons_of_mem _ he)
      have hlength : (0 :: UInt8.ofNat placed.length :: Tlv.encodeAll placed).length
          = 5 * placed.length + 2 := by
        rw [List.length_cons, List.length_cons, length_encodeAll_of_length hplaced]
      rw [addRoutingEntriesOf, List.foldl_cons, nciTransitionIdleToDiscoveryAddRoutingEntry,
        hlength]
      by_cases hroom : 5 * placed.length + 2 ≤ self.maxRoutingTableSize + 2
      · have hadded : ∀ e ∈ placed ++ [entry], e.encode.length = 5 := by
          intro e he
          rcases List.mem_append.mp he with he | he
          · apply hplaced e he
          · rw [List.mem_singleton.mp he]
            apply h entry List.mem_cons_self
        have hcmd : (0 : UInt8) :: (UInt8.ofNat placed.length + 1) ::
            (Tlv.encodeAll placed ++ entry.encode)
            = 0 :: UInt8.ofNat (placed ++ [entry]).length :: Tlv.encodeAll (placed ++ [entry]) := by
          rw [Tlv.encodeAll_append, Tlv.encodeAll_cons, Tlv.encodeAll_nil, List.append_nil,
            List.length_append, UInt8.ofNat_add]
          rfl
        have hmore : self.maxRoutingTableSize / 5 + 1 - placed.length
            = self.maxRoutingTableSize / 5 + 1 - (placed ++ [entry]).length + 1 := by
          rw [List.length_append, List.length_singleton]
          omega
        rw [if_pos hroom]
        refine Eq.trans (congrArg (addRoutingEntriesOf self entries) hcmd) ?_
        rw [ih _ hadded hentries, hmore, List.take_succ_cons, List.append_assoc]
        rfl
      · have hnone : self.maxRoutingTableSize / 5 + 1 - placed.length = 0 := by omega
        rw [if_neg hroom]
        refine (ih _ hplaced hentries).trans ?_
        rw [hnone, List.take_zero, List.take_zero]

/-- The entries that are in the command. -/
def RoutingVariant.placed (v : RoutingVariant) (self : NciSm) : List RoutingEntry :=
  (v.wanted self).take (self.maxRoutingTableSize / 5 + 1)

/-- The command consists of its header and its entries. -/
theorem RoutingVariant.setRoutingCmd_eq (v : RoutingVariant) (self : NciSm) :
  nciTransitionIdleToDiscoverySetRoutingCmd self v.addRoutingEntries
    = 0 :: UInt8.ofNat (v.placed self).length :: Tlv.encodeAll (v.placed self)
  := by
  have h := addRoutingEntriesOf_eq self (v.wanted self) []
    (fun _ he => absurd he List.not_mem_nil) fun _ he => length_encode_of_mem_wanted he
  rw [nciTransitionIdleToDiscoverySetRoutingCmd, addRoutingEntries_eq]
  exact h

theorem length_wantedIf_le (c : Prop) [Decidable c] (entry : RoutingEntry) :
  (wantedIf c entry).length ≤ 1
  := by
  rw [wantedIf]
  split
  · apply Nat.le_refl
  · apply Nat.zero_le

/-- At most two protocols and three technologies are routed. -/
theorem RoutingVariant.length_wanted_le (v : RoutingVariant) (self : NciSm) :
  (v.wanted self).length ≤ 5
  := by
  have hprotocol : (protocolEntries self).length ≤ 2 := by
    rw [protocolEntries, List.length_append]
    apply Nat.add_le_add (length_wantedIf_le _ _) (length_wantedIf_le _ _)
  have htech : (techEntries self).length ≤ 3 := by
    rw [techEntries, List.length_append, List.length_append]
    apply Nat.add_le_add _ (length_wantedIf_le _ _)
    apply Nat.add_le_add (length_wantedIf_le _ _) (length_wantedIf_le _ _)
  cases v with
  | mixed =>
      rw [wanted, List.length_append]
      omega
  | protocol => exact Nat.le_trans hprotocol (by omega)
  | technology => exact Nat.le_trans htech (by omega)

theorem RoutingVariant.length_placed_le (v : RoutingVariant) (self : NciSm) :
  (v.placed self).length ≤ 5
  := Nat.le_trans (List.length_take_le' _ _) (v.length_wanted_le self)

/-- The number that the command starts with is that of its entries. -/
theorem RoutingVariant.toNat_length_placed (v : RoutingVariant) (self : NciSm) :
  (UInt8.ofNat (v.placed self).length).toNat = (v.placed self).length
  := by
  have h := v.length_placed_le self
  apply UInt8.toNat_ofNat_of_lt'
  apply Nat.lt_of_le_of_lt h
  decide

theorem RoutingVariant.length_encodeAll_placed (v : RoutingVariant) (self : NciSm) :
  (Tlv.encodeAll (v.placed self)).length = 5 * (v.placed self).length
  := by
  apply length_encodeAll_of_length
  intro entry he
  apply length_encode_of_mem_wanted (List.mem_of_mem_take he)

/-! ### The size of the table -/

/-- The command carries entries that fit into a table of the given size, together with their
number. A wanted entry is left out only if it does not fit behind those before it. -/
def RoutingFits (limit : Nat) (wanted : List RoutingEntry) (cmd : List UInt8) : Prop :=
  ∃ entries : List RoutingEntry,
    (∃ more rest, cmd = more :: rest ∧ Tlv.Lists entries rest)
      ∧ entries.Sublist wanted
      ∧ (Tlv.encodeAll entries).length ≤ limit
      ∧ ∀ before entry after, wanted = before ++ entry :: after → entry ∉ entries →
        limit < (Tlv.encodeAll (before.filter (· ∈ entries))).length + entry.encode.length

/-- The entries fit into the table exactly if there is room for all that are wanted. -/
theorem routingFits (v : RoutingVariant) (self : NciSm) :
  RoutingFits self.maxRoutingTableSize (v.wanted self)
      (nciTransitionIdleToDiscoverySetRoutingCmd self v.addRoutingEntries)
    ↔ 5 * (v.wanted self).length ≤ self.maxRoutingTableSize
  := by
  rw [v.setRoutingCmd_eq]
  constructor
  · rintro ⟨entries, ⟨more, rest, hcmd, n, hn, hrest⟩, -, hfits, -⟩
    have hsame : Tlv.encodeAll (v.placed self) = Tlv.encodeAll entries := by
      rw [hrest] at hcmd
      apply (List.cons.inj (List.cons.inj hcmd).2).2
    rw [← hsame, v.length_encodeAll_placed, RoutingVariant.placed, List.length_take] at hfits
    omega
  · intro hroom
    have hplaced : v.placed self = v.wanted self := by
      apply List.take_of_length_le
      omega
    use v.wanted self
    constructor
    · use 0, UInt8.ofNat (v.placed self).length :: Tlv.encodeAll (v.placed self), rfl
      use UInt8.ofNat (v.placed self).length
      rw [v.toNat_length_placed, hplaced]
      exact ⟨rfl, rfl⟩
    · use List.Sublist.refl _
      constructor
      · rw [← hplaced, v.length_encodeAll_placed, hplaced]
        apply hroom
      · intro before entry after hwanted hnot
        exfalso
        apply hnot
        rw [hwanted]
        apply List.mem_append_right _ List.mem_cons_self

/-- One entry of five bytes is put into a table of four. -/
theorem not_routingFits :
  ¬RoutingFits 4
      (RoutingVariant.protocol.wanted
        { nciSmDefault with opMode := nfcOpModeCe, maxRoutingTableSize := 4 })
      (nciTransitionIdleToDiscoverySetRoutingCmd
        { nciSmDefault with opMode := nfcOpModeCe, maxRoutingTableSize := 4 }
        nciTransitionIdleToDiscoveryProtocolRoutingEntries)
  := by
  rintro ⟨entries, ⟨more, rest, hcmd, n, hn, hrest⟩, -, hfits, -⟩
  have hentries : Tlv.encodeAll entries = [0x01, 3, 0x00, 0x01, 0x04] := by
    rw [hrest] at hcmd
    apply ((List.cons.inj (List.cons.inj hcmd).2).2).symm
  rw [hentries] at hfits
  exact absurd hfits (by decide)

end Nci
