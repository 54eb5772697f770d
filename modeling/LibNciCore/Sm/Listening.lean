import LibNciCore.Sm.Routing

/-!
# What the controller listens for

The protocols that RF_DISCOVER_MAP_CMD maps in listen mode and the technologies that
RF_DISCOVER_CMD asks for in listen mode are compared with those that the routing table has an
entry for.
-/

namespace Nci

/-! ### Masks -/

/-- Some bit is in both. -/
theorem and_ne_zero_iff {x m : UInt32} :
  x &&& m ≠ 0 ↔ ∃ i < 32, x.toNat.testBit i ∧ m.toNat.testBit i
  := by
  constructor
  · intro h
    have hne : (x &&& m).toNat ≠ 0 := fun h0 => h (UInt32.toNat_inj.mp h0)
    obtain ⟨i, hi⟩ := Nat.exists_testBit_of_ne_zero hne
    have hlt : (x &&& m).toNat < 2 ^ 32 := (x &&& m).toNat_lt
    use i
    constructor
    · by_contra hge
      rw [Nat.testBit_lt_two_pow (Nat.lt_of_lt_of_le hlt
        (Nat.pow_le_pow_right (by decide) (Nat.le_of_not_lt hge)))] at hi
      cases hi
    · rw [UInt32.toNat_and, Nat.testBit_and, Bool.and_eq_true] at hi
      apply hi
  · rintro ⟨i, -, hx, hm⟩ h0
    have hbit : (x &&& m).toNat.testBit i = true := by
      rw [UInt32.toNat_and, Nat.testBit_and, hx, hm]
      rfl
    rw [h0] at hbit
    simp at hbit

/-- A mask that is part of another one. -/
theorem and_ne_zero_of_part {x m m' : UInt32} (h : m &&& m' = m) (hx : x &&& m ≠ 0) :
  x &&& m' ≠ 0
  := by
  intro h0
  apply hx
  rw [← h, UInt32.and_comm m, ← UInt32.and_assoc, h0, UInt32.zero_and]

/-- The condition for the ISO-DEP entry puts the modes and the technologies into one mask: what
it tells is not what it says. -/
theorem isoDep_wanted_iff (opMode techs : UInt32) :
  (opMode &&& (nfcOpModeCe ||| nfcOpModeRw)) &&& (techs &&& (nciTechA ||| nciTechB)) ≠ 0
    ↔ (opMode &&& nfcOpModeCe ≠ 0 ∧ techs &&& nciTechAListenPassive ≠ 0)
      ∨ (opMode &&& nfcOpModeRw ≠ 0 ∧ techs &&& nciTechAPollPassive ≠ 0)
  := by
  have hmask : ∀ i < 32, (nfcOpModeCe ||| nfcOpModeRw).toNat.testBit i
      ∧ (nciTechA ||| nciTechB).toNat.testBit i ↔ i = 0 ∨ i = 2 := by decide
  have hone : ∀ i < 32, (1 : UInt32).toNat.testBit i ↔ i = 0 := by decide
  have hfour : ∀ i < 32, (4 : UInt32).toNat.testBit i ↔ i = 2 := by decide
  simp only [and_ne_zero_iff, UInt32.toNat_and, Nat.testBit_and, Bool.and_eq_true]
  constructor
  · rintro ⟨i, hi, ⟨hmode, hmodes⟩, htech, htechs⟩
    rcases (hmask i hi).mp ⟨hmodes, htechs⟩ with rfl | rfl
    · right
      exact ⟨⟨0, hi, hmode, by decide⟩, ⟨0, hi, htech, by decide⟩⟩
    · left
      exact ⟨⟨2, hi, hmode, by decide⟩, ⟨2, hi, htech, by decide⟩⟩
  · rintro (⟨⟨i, hi, hmode, hi'⟩, ⟨j, hj, htech, hj'⟩⟩ | ⟨⟨i, hi, hmode, hi'⟩, ⟨j, hj, htech, hj'⟩⟩)
    · obtain rfl := (hfour i hi).mp hi'
      obtain rfl := (hfour j hj).mp hj'
      exact ⟨2, hi, ⟨hmode, by decide⟩, htech, by decide⟩
    · obtain rfl := (hone i hi).mp hi'
      obtain rfl := (hone j hj).mp hj'
      exact ⟨0, hi, ⟨hmode, by decide⟩, htech, by decide⟩

/-! ### RF_DISCOVER_MAP_CMD -/

/-- A protocol that is mapped to an interface in a mode. -/
structure Mapping where
  protocol : UInt8
  mode : UInt8
  interface : UInt8
  deriving DecidableEq, Repr

abbrev nciDiscoverMapModeListen : UInt8 := 0x02

/-- Mappings one after another. -/
def mappings : List UInt8 → List Mapping
  | protocol :: mode :: interface :: rest => ⟨protocol, mode, interface⟩ :: mappings rest
  | _ => []

theorem mappings_append {entries : List UInt8} (h : 3 ∣ entries.length) (rest : List UInt8) :
  mappings (entries ++ rest) = mappings entries ++ mappings rest
  := by
  induction entries using mappings.induct with
  | case1 protocol mode interface entries ih =>
      rw [List.cons_append, List.cons_append, List.cons_append, mappings, mappings, ih,
        List.cons_append]
      rw [List.length_cons, List.length_cons, List.length_cons] at h
      omega
  | case2 entries hshort =>
      match entries, hshort with
      | [], _ => rfl
      | [_], _ => simp at h
      | [_, _], _ => simp at h
      | a :: b :: c :: rest, hshort => exact absurd rfl (hshort a b c rest)

theorem drop_addMapping (c : Prop) [Decidable c] (entries cmd : List UInt8) :
  (addMapping c entries cmd).drop 1 = cmd.drop 1 ++ if c then entries else []
  := by
  rw [addMapping]
  split
  · rfl
  · rw [List.append_nil]

/-- What is mapped in listen mode. -/
theorem listen_mapping_iff {self : NciSm} {m : Mapping} (hm : m.mode = nciDiscoverMapModeListen) :
  m ∈ mappings ((nciTransitionIdleToDiscoverMapCmd self).drop 1)
    ↔ (m = ⟨NciProtocol.nfcDep.byte, 0x02, 0x03⟩
        ∧ self.opMode &&& nfcOpModePeer ≠ 0 ∧ self.opMode &&& nfcOpModeListen ≠ 0
        ∧ self.techs &&& (nciTechAListen ||| nciTechFListen) ≠ 0)
      ∨ (m = ⟨NciProtocol.isoDep.byte, 0x02, 0x02⟩
        ∧ self.opMode &&& nfcOpModeCe ≠ 0
        ∧ self.techs &&& (nciTechAListen ||| nciTechBListen) ≠ 0)
  := by
  have hif : ∀ (c : Prop) [Decidable c] (entries : List UInt8), 3 ∣ entries.length →
      3 ∣ (if c then entries else []).length := by
    intro c _ entries hentries
    split
    · apply hentries
    · apply Nat.dvd_zero
  have hmem : ∀ (c : Prop) [Decidable c] (entries : List UInt8),
      m ∈ mappings (if c then entries else []) ↔ m ∈ mappings entries ∧ c := by
    intro c _ entries
    split
    · simp [*]
    · simp [*, mappings]
  obtain ⟨protocol, mode, interface⟩ := m
  obtain rfl := hm
  rw [nciTransitionIdleToDiscoverMapCmd]
  simp only [drop_addMapping, List.drop_succ_cons, List.drop_nil, List.nil_append,
    List.append_assoc]
  rw [mappings_append (hif _ _ (by decide)), mappings_append (hif _ _ (by decide)),
    mappings_append (hif _ _ (by decide)), mappings_append (hif _ _ (by decide)),
    mappings_append (hif _ _ (by decide)), mappings_append (hif _ _ (by decide))]
  simp only [List.mem_append, hmem]
  have hpoll : nciDiscoverMapModeListen ≠ 0x01 := by decide
  simp [mappings, NciProtocol.byte, hpoll]

/-! ### RF_DISCOVER_CMD -/

/-- Modes one after another, each with how often it is discovered. -/
def discoveredModes : List UInt8 → List UInt8
  | mode :: _frequency :: rest => mode :: discoveredModes rest
  | _ => []

theorem discoveredModes_snoc (mode : UInt8) {entries : List UInt8} (h : 2 ∣ entries.length) :
  discoveredModes (entries ++ [mode, 1]) = discoveredModes entries ++ [mode]
  := by
  induction entries using discoveredModes.induct with
  | case1 mode' frequency entries ih =>
      rw [List.cons_append, List.cons_append, discoveredModes, discoveredModes, ih,
        List.cons_append]
      rw [List.length_cons, List.length_cons] at h
      omega
  | case2 entries hshort =>
      match entries, hshort with
      | [], _ => rfl
      | [_], _ => simp at h
      | a :: b :: rest, hshort => exact absurd rfl (hshort a b rest)

/-- A mode is discovered only for a technology that is asked for. -/
theorem tech_of_discovered {modes : List (UInt32 × UInt8)} {techs : UInt32} {cmd : List UInt8}
    {mode : UInt8} (hcmd : 2 ∣ (cmd.drop 1).length)
    (h : mode ∈ discoveredModes ((discoverConfigurations modes techs cmd).drop 1)) :
  mode ∈ discoveredModes (cmd.drop 1) ∨ ∃ tech, (tech, mode) ∈ modes ∧ techs &&& tech ≠ 0
  := by
  induction modes generalizing techs cmd with
  | nil => exact Or.inl h
  | cons entry modes ih =>
      obtain ⟨tech, mode'⟩ := entry
      have hlater : ∀ techs' : UInt32, techs' &&& techs = techs' →
          (∃ tech, (tech, mode) ∈ modes ∧ techs' &&& tech ≠ 0) →
          ∃ tech', (tech', mode) ∈ (tech, mode') :: modes ∧ techs &&& tech' ≠ 0 := by
        rintro techs' hpart ⟨tech', hmem, htech⟩
        use tech', List.mem_cons_of_mem _ hmem
        rw [UInt32.and_comm] at htech ⊢
        apply and_ne_zero_of_part hpart htech
      rw [discoverConfigurations] at h
      split at h
      · split at h
        · rename_i htech
          have hadded : (addEntry cmd [mode', 1]).drop 1 = cmd.drop 1 ++ [mode', 1] := rfl
          have heven : 2 ∣ ((addEntry cmd [mode', 1]).drop 1).length := by
            rw [hadded, List.length_append]
            apply Nat.dvd_add hcmd
            apply Nat.dvd_refl
          rcases ih heven h with hmode | hmode
          · rw [hadded, discoveredModes_snoc mode' hcmd] at hmode
            rcases List.mem_append.mp hmode with hmode | hmode
            · left
              apply hmode
            · right
              rw [List.mem_singleton.mp hmode]
              use tech, List.mem_cons_self
          · right
            apply hlater _ _ hmode
            rw [UInt32.and_assoc, UInt32.and_comm _ techs, ← UInt32.and_assoc, UInt32.and_self]
        · rcases ih hcmd h with hmode | hmode
          · left
            apply hmode
          · right
            apply hlater techs (UInt32.and_self) hmode
      · left
        apply h

/-- The technology of a listen mode. -/
def listenTechnology : NciMode → Option UInt8
  | .passiveListenA | .activeListenA => some 0x00
  | .passiveListenB => some 0x01
  | .passiveListenF | .activeListenF => some 0x02
  | .passiveListenV => some 0x03
  | _ => none

/-- The technologies that are discovered are switched on, and those of NFC-F only if peer mode is
on or the controller does not listen for them. NFC-V is never listened for. -/
theorem techs_of_discovered (self : NciSm) (tech : UInt32)
    (h : nciTransitionIdleToDiscoveryTechs self &&& tech ≠ 0) :
  self.techs &&& tech ≠ 0
    ∧ (tech &&& nciTechFListen = tech → self.opMode &&& nfcOpModePeer ≠ 0)
    ∧ tech ≠ nciTechVListen
  := by
  rw [nciTransitionIdleToDiscoveryTechs] at h
  have hpart : ∀ techs : UInt32, (techs &&& self.techs) &&& tech ≠ 0 →
      self.techs &&& tech ≠ 0 ∧ techs &&& tech ≠ 0 := by
    intro techs hne
    constructor
    · intro h0
      rw [UInt32.and_assoc, h0, UInt32.and_zero] at hne
      exact hne rfl
    · intro h0
      rw [UInt32.and_comm techs, UInt32.and_assoc, h0, UInt32.and_zero] at hne
      exact hne rfl
  obtain ⟨hswitched, hmodes⟩ := hpart _ h
  use hswitched
  constructor
  · intro hlisten hpeer
    rw [← hlisten, UInt32.and_comm tech, ← UInt32.and_assoc] at hmodes
    simp only [hpeer, ne_eq, not_true_eq_false, false_and, if_false] at hmodes
    apply hmodes
    have hnone : ∀ techs : UInt32, techs &&& nciTechFListen = 0 →
        (techs &&& nciTechFListen) &&& tech = 0 := by
      intro techs h0
      rw [h0, UInt32.zero_and]
    apply hnone
    split_ifs <;> decide
  · rintro rfl
    apply hmodes
    split_ifs <;> decide

/-! ### The routing table -/

/-- The entries that a command carries. -/
def routingEntries (cmd : List UInt8) : List RoutingEntry :=
  Tlv.scan (cmd.getD 1 0).toNat (cmd.drop 2)

/-- A table that has room for all entries gets them. -/
theorem routingEntries_setRoutingCmd {v : RoutingVariant} {self : NciSm}
    (hroom : 5 * (v.wanted self).length ≤ self.maxRoutingTableSize) :
  routingEntries (nciTransitionIdleToDiscoverySetRoutingCmd self v.addRoutingEntries)
    = v.wanted self
  := by
  have hplaced : v.placed self = v.wanted self := by
    apply List.take_of_length_le
    omega
  have hscan := Tlv.scan_encodeAll (v.placed self) []
  rw [List.append_nil] at hscan
  rw [v.setRoutingCmd_eq, routingEntries, ← hplaced]
  refine Eq.trans ?_ hscan
  rw [show (0 :: UInt8.ofNat (v.placed self).length :: Tlv.encodeAll (v.placed self)).getD 1 0
    = UInt8.ofNat (v.placed self).length from rfl, v.toNat_length_placed]
  rfl

theorem mem_wantedIf {c : Prop} [Decidable c] {entry entry' : RoutingEntry} :
  entry ∈ wantedIf c entry' ↔ c ∧ entry = entry'
  := by
  rw [wantedIf]
  split <;> simp [*]

theorem mem_protocolEntries {self : NciSm} {entry : RoutingEntry} :
  entry ∈ protocolEntries self
    ↔ (self.opMode &&& nfcOpModePeer ≠ 0
        ∧ self.opMode &&& (nfcOpModePoll ||| nfcOpModeListen) ≠ 0
        ∧ self.techs &&& (nciTechA ||| nciTechF) ≠ 0) ∧ entry = .protocol .nfcDep
      ∨ ((self.opMode &&& nfcOpModeCe ≠ 0 ∧ self.techs &&& nciTechAListenPassive ≠ 0)
        ∨ (self.opMode &&& nfcOpModeRw ≠ 0 ∧ self.techs &&& nciTechAPollPassive ≠ 0))
        ∧ entry = .protocol .isoDep
  := by
  rw [protocolEntries, List.mem_append, mem_wantedIf, mem_wantedIf, isoDep_wanted_iff]

theorem mem_techEntries {self : NciSm} {entry : RoutingEntry} :
  entry ∈ techEntries self
    ↔ (((self.techs &&& nciTechFListen ≠ 0
          ∧ self.opMode &&& (nfcOpModeRw ||| nfcOpModePeer) ≠ 0) ∧ entry = .tech 0x02)
        ∨ (self.techs &&& nciTechB ≠ 0 ∧ entry = .tech 0x01))
      ∨ (self.techs &&& nciTechA ≠ 0 ∧ entry = .tech 0x00)
  := by
  rw [techEntries, List.mem_append, List.mem_append, mem_wantedIf, mem_wantedIf, mem_wantedIf]

/-- The technology of a mode that is discovered has an entry. -/
theorem tech_routed {self : NciSm} {mode technology : UInt8}
    (hmode : mode ∈ discoveredModes ((nciTransitionIdleToDiscoveryDiscoverCmd self).drop 1))
    (htechnology : listenTechnology (.ofByte mode) = some technology) :
  .tech technology ∈ techEntries self
  := by
  have hfound := tech_of_discovered (by decide) hmode
  obtain ⟨tech, hmem, htech⟩ := hfound.resolve_left List.not_mem_nil
  obtain ⟨hswitched, hpeer, hlisten⟩ := techs_of_discovered self tech htech
  have hA : tech &&& nciTechA = tech → RoutingEntry.tech 0x00 ∈ techEntries self :=
    fun h => mem_techEntries.mpr (Or.inr ⟨and_ne_zero_of_part h hswitched, rfl⟩)
  have hB : tech &&& nciTechB = tech → RoutingEntry.tech 0x01 ∈ techEntries self :=
    fun h => mem_techEntries.mpr (Or.inl (Or.inr ⟨and_ne_zero_of_part h hswitched, rfl⟩))
  have hF : tech &&& nciTechFListen = tech → RoutingEntry.tech 0x02 ∈ techEntries self :=
    fun h => mem_techEntries.mpr (Or.inl (Or.inl ⟨⟨and_ne_zero_of_part h hswitched,
      and_ne_zero_of_part (by decide) (hpeer h)⟩, rfl⟩))
  simp only [techModes, List.mem_cons, Prod.mk.injEq, List.not_mem_nil, or_false] at hmem
  rcases hmem with ⟨rfl, rfl⟩ | ⟨rfl, rfl⟩ | ⟨rfl, rfl⟩ | ⟨rfl, rfl⟩ | ⟨rfl, rfl⟩ | ⟨rfl, rfl⟩
    | ⟨rfl, rfl⟩ | ⟨rfl, rfl⟩ | ⟨rfl, rfl⟩ | ⟨rfl, rfl⟩ | ⟨rfl, rfl⟩ | ⟨rfl, rfl⟩
  case inr.inr.inr.inr.inr.inl => cases htechnology; exact hA (by decide)
  case inr.inr.inr.inr.inr.inr.inl => cases htechnology; exact hA (by decide)
  case inr.inr.inr.inr.inr.inr.inr.inl => cases htechnology; exact hB (by decide)
  case inr.inr.inr.inr.inr.inr.inr.inr.inl => cases htechnology; exact hF (by decide)
  case inr.inr.inr.inr.inr.inr.inr.inr.inr.inl => cases htechnology; exact hF (by decide)
  case inr.inr.inr.inr.inr.inr.inr.inr.inr.inr.inr => exact absurd rfl hlisten
  all_goals cases htechnology

/-! ### Agreement -/

/-- The protocols that are mapped in listen mode and the technologies that are discovered in
listen mode are routed to the host. -/
structure NciSm.RoutesListening (sm : NciSm) : Prop where
  protocol : ∀ v, v ≠ RoutingVariant.technology →
    ∀ m ∈ mappings ((nciTransitionIdleToDiscoverMapCmd sm).drop 1),
      m.mode = nciDiscoverMapModeListen →
      ∃ entry ∈ routingEntries
          (nciTransitionIdleToDiscoverySetRoutingCmd sm v.addRoutingEntries),
        entry.type = 0x01 ∧ entry.value = [0x00, 0x01, m.protocol]
  technology : ∀ v, v ≠ RoutingVariant.protocol →
    ∀ mode ∈ discoveredModes ((nciTransitionIdleToDiscoveryDiscoverCmd sm).drop 1),
      ∀ technology, listenTechnology (.ofByte mode) = some technology →
      ∃ entry ∈ routingEntries
          (nciTransitionIdleToDiscoverySetRoutingCmd sm v.addRoutingEntries),
        entry.type = 0x00 ∧ entry.value = [0x00, 0x01, technology]

/-- If ISO-DEP is mapped in listen mode, then listening with passive NFC-A is on, or reading with
passive NFC-A. -/
def NciSm.IsoDepRouted (self : NciSm) : Prop :=
  self.opMode &&& nfcOpModeCe ≠ 0 → self.techs &&& (nciTechAListen ||| nciTechBListen) ≠ 0 →
    self.techs &&& nciTechAListenPassive ≠ 0
      ∨ (self.opMode &&& nfcOpModeRw ≠ 0 ∧ self.techs &&& nciTechAPollPassive ≠ 0)

/-- In a table with room for all entries, everything that the controller listens for is routed
exactly if ISO-DEP is. -/
theorem routesListening {self : NciSm}
    (hroom : 5 * (RoutingVariant.mixed.wanted self).length ≤ self.maxRoutingTableSize) :
  self.RoutesListening ↔ self.IsoDepRouted
  := by
  have hrooms : ∀ v : RoutingVariant,
      5 * (v.wanted self).length ≤ self.maxRoutingTableSize := by
    intro v
    rw [RoutingVariant.wanted, List.length_append] at hroom
    cases v with
    | mixed =>
        rw [RoutingVariant.wanted, List.length_append]
        apply hroom
    | protocol =>
        rw [RoutingVariant.wanted]
        omega
    | technology =>
        rw [RoutingVariant.wanted]
        omega
  have hentries := fun v => routingEntries_setRoutingCmd (hrooms v)
  constructor
  · intro h hce htechs
    obtain ⟨entry, hmem, -, hvalue⟩ := h.protocol .protocol (by decide)
      ⟨NciProtocol.isoDep.byte, 0x02, 0x02⟩
      ((listen_mapping_iff rfl).mpr (Or.inr ⟨rfl, hce, htechs⟩)) rfl
    rw [hentries] at hmem
    rcases mem_protocolEntries.mp hmem with ⟨-, rfl⟩ | ⟨hwanted, -⟩
    · cases hvalue
    · rcases hwanted with ⟨-, hpassive⟩ | hread
      · left
        apply hpassive
      · right
        apply hread
  · intro h
    constructor
    · intro v hv m hm hlisten
      have hprotocol : ∀ entry ∈ protocolEntries self, entry ∈ routingEntries
          (nciTransitionIdleToDiscoverySetRoutingCmd self v.addRoutingEntries) := by
        intro entry hmem
        rw [hentries]
        cases v with
        | mixed => apply List.mem_append_left _ hmem
        | protocol => apply hmem
        | technology => exact absurd rfl hv
      rcases (listen_mapping_iff hlisten).mp hm with
        ⟨rfl, hpeer, hmode, htechs⟩ | ⟨rfl, hce, htechs⟩
      · use .protocol .nfcDep
        constructor
        · apply hprotocol
          apply mem_protocolEntries.mpr
          left
          exact ⟨⟨hpeer, and_ne_zero_of_part (by decide) hmode,
            and_ne_zero_of_part (by decide) htechs⟩, rfl⟩
        · exact ⟨rfl, rfl⟩
      · use .protocol .isoDep
        constructor
        · apply hprotocol
          apply mem_protocolEntries.mpr
          right
          refine ⟨?_, rfl⟩
          rcases h hce htechs with hpassive | hread
          · left
            exact ⟨hce, hpassive⟩
          · right
            apply hread
        · exact ⟨rfl, rfl⟩
    · intro v hv mode hmode technology htechnology
      have hrouted := tech_routed hmode htechnology
      use .tech technology
      constructor
      · rw [hentries]
        cases v with
        | mixed => apply List.mem_append_right _ hrouted
        | protocol => exact absurd rfl hv
        | technology => apply hrouted
      · exact ⟨rfl, rfl⟩

/-- Card emulation with passive NFC-A. -/
theorem routesListening_cardEmulation :
  NciSm.RoutesListening
    { nciSmDefault with
      opMode := nfcOpModeCe
      techs := nciTechA ||| nciTechB
      maxRoutingTableSize := 15 }
  := by
  apply (routesListening (by decide)).mpr
  intro _ _
  left
  decide

/-- Card emulation with NFC-B alone: ISO-DEP is mapped, and not routed. -/
theorem not_routesListening :
  5 * (RoutingVariant.mixed.wanted { nciSmDefault with
        opMode := nfcOpModeCe
        techs := nciTechB
        maxRoutingTableSize := 255 }).length ≤ 255
    ∧ NciSm.listens { nciSmDefault with
        opMode := nfcOpModeCe
        techs := nciTechB
        maxRoutingTableSize := 255 } = true
    ∧ ¬NciSm.RoutesListening { nciSmDefault with
        opMode := nfcOpModeCe
        techs := nciTechB
        maxRoutingTableSize := 255 }
  := by
  refine ⟨by decide, by decide, ?_⟩
  intro h
  obtain ⟨entry, hmem, -, -⟩ := h.protocol .protocol (by decide)
    ⟨NciProtocol.isoDep.byte, 0x02, 0x02⟩ (by decide) rfl
  exact absurd hmem List.not_mem_nil

end Nci
