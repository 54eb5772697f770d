import LibNciCore.Sm.Belonging
import Mathlib.Data.List.Sort
import Mathlib.Data.Prod.Lex

/-!
# The selection of a target

In RFST_DISCOVERY and RFST_W4_ALL_DISCOVERIES the machine collects the endpoints that are
discovered. After the last one it selects the best of those that it supports, or goes back to the
discovery if it supports none of them.
-/

namespace Nci

/-! ### The order of discoveries -/

/-- The place of a protocol among those that are preferred. -/
def NciProtocol.rank : NciProtocol → Nat
  | .nfcDep => 0
  | .isoDep => 1
  | .t2t => 2
  | .undetermined | .t1t | .t3t | .t5t | .proprietary | .other _ => 3

/-- Discoveries are ordered by their protocols, and those of equal rank by discovery IDs. -/
def NciDiscoveryNtf.key (self : NciDiscoveryNtf) : Nat ×ₗ Nat :=
  toLex (self.protocol.rank, self.discoveryId.toNat)

/-- A discovery does not come after another one. -/
def NciDiscoveryNtf.Preferred (a b : NciDiscoveryNtf) : Prop := nciStateW4HostSelectSort a b ≤ 0

instance : DecidableRel NciDiscoveryNtf.Preferred :=
  fun a b => inferInstanceAs (Decidable (nciStateW4HostSelectSort a b ≤ 0))

/-- Protocols of different ranks decide which discovery comes first. -/
theorem findSome_protocolOrder (p q : NciProtocol) :
  (if p ≠ q then
      protocolOrder.findSome? fun protocol =>
        if p = protocol then some (-1 : Int) else if q = protocol then some 1 else none
    else none)
    = if p.rank < q.rank then some (-1) else if q.rank < p.rank then some 1 else none
  := by
  cases p <;> cases q
  case other.other b b' =>
    by_cases h : NciProtocol.other b ≠ NciProtocol.other b'
    · rw [if_pos h]
      rfl
    · rw [if_neg h]
      rfl
  all_goals rfl

theorem nciStateW4HostSelectSort_eq (a b : NciDiscoveryNtf) :
  nciStateW4HostSelectSort a b
    = if a.protocol.rank < b.protocol.rank then -1
      else if b.protocol.rank < a.protocol.rank then 1
      else (a.discoveryId.toNat : Int) - b.discoveryId.toNat
  := by
  rw [nciStateW4HostSelectSort, findSome_protocolOrder]
  split
  · rfl
  · split <;> rfl

/-- The comparison of discoveries is that of their keys. -/
theorem NciDiscoveryNtf.preferred_iff (a b : NciDiscoveryNtf) :
  a.Preferred b ↔ a.key ≤ b.key
  := by
  rw [Preferred, nciStateW4HostSelectSort_eq, key, key, Prod.Lex.le_iff]
  dsimp only [ofLex_toLex]
  split
  · rename_i hlt
    simp [hlt]
  · rename_i hge
    split
    · rename_i hgt
      constructor
      · intro h
        omega
      · rintro (hlt | ⟨heq, -⟩) <;> omega
    · rename_i hle
      have heq : a.protocol.rank = b.protocol.rank := by omega
      constructor
      · intro h
        exact Or.inr ⟨heq, by omega⟩
      · rintro (hlt | ⟨-, hid⟩) <;> omega

instance : Std.Total NciDiscoveryNtf.Preferred where
  total a b := by
    rw [NciDiscoveryNtf.preferred_iff, NciDiscoveryNtf.preferred_iff]
    exact le_total ..

instance : IsTrans NciDiscoveryNtf NciDiscoveryNtf.Preferred where
  trans a b c := by
    rw [NciDiscoveryNtf.preferred_iff, NciDiscoveryNtf.preferred_iff,
      NciDiscoveryNtf.preferred_iff]
    exact le_trans

theorem insertSorted_eq (ntf : NciDiscoveryNtf) (ntfs : List NciDiscoveryNtf) :
  insertSorted ntf ntfs = ntfs.orderedInsert NciDiscoveryNtf.Preferred ntf
  := by
  induction ntfs with
  | nil => rfl
  | cons a as ih =>
      rw [insertSorted, List.orderedInsert_cons, ih]
      by_cases h : ntf.Preferred a
      · rw [if_pos h, if_neg (Int.not_lt.mpr h)]
      · rw [if_neg h, if_pos (Int.not_le.mp h)]

/-- The discoveries from which a machine selects one, sorted. -/
theorem foldl_insertSorted (ntfs : List NciDiscoveryNtf) :
  ntfs.foldl (fun selected ntf => insertSorted ntf selected) []
    = ntfs.reverse.insertionSort NciDiscoveryNtf.Preferred
  := by
  rw [← List.foldr_reverse, List.insertionSort]
  congr 1
  funext ntf selected
  exact insertSorted_eq ntf selected

/-- The first one of the sorted discoveries is a least one. -/
theorem head_foldl_insertSorted {ntfs rest : List NciDiscoveryNtf} {ntf : NciDiscoveryNtf}
    (h : ntfs.foldl (fun selected ntf => insertSorted ntf selected) [] = ntf :: rest) :
  ntf ∈ ntfs ∧ ∀ a ∈ ntfs, ntf.key ≤ a.key
  := by
  rw [foldl_insertSorted] at h
  have hmem : ∀ a, a ∈ ntf :: rest ↔ a ∈ ntfs := by
    intro a
    rw [← h, List.mem_insertionSort, List.mem_reverse]
  have hsorted := List.pairwise_insertionSort NciDiscoveryNtf.Preferred ntfs.reverse
  rw [h] at hsorted
  refine ⟨(hmem ntf).mp List.mem_cons_self, fun a ha => ?_⟩
  obtain rfl | ha := List.mem_cons.mp ((hmem a).mpr ha)
  · exact le_refl _
  · exact (ntf.preferred_iff a).mp (List.rel_of_pairwise_cons hsorted ha)

/-! ### Selecting -/

/-- ISO-DEP and NFC-DEP have interfaces of their own, all other protocols have the frame
interface. -/
theorem byte_selectedInterface (protocol : NciProtocol) :
  (selectedInterface protocol).byte
    = if protocol = .isoDep then 0x02 else if protocol = .nfcDep then 0x03 else 0x01
  := by cases protocol <;> rfl

/-- RF_DISCOVER_SELECT_CMD -/
def SmAction.selection : SmAction → Option (Option (List UInt8))
  | .sent gid oid payload _ _ _ =>
      if gid = nciGidRf ∧ oid = nciOidRfDiscoverSelect then some payload else none
  | _ => none

/-- The commands of a history that select a target. -/
def SmHistory.selections (history : SmHistory) : List (Option (List UInt8)) :=
  history.filterMap SmAction.selection

@[simp]
theorem SmHistory.selections_append (history new : SmHistory) :
  SmHistory.selections (history ++ new) = history.selections ++ new.selections
  := List.filterMap_append

/-- A machine of the given operation mode has selected one of the targets that have been found,
a best one of those that it supports, with the interface ISO-DEP (0x02), NFC-DEP (0x03) or Frame
(0x01) that its protocol has. If it supports none of them the discovery is to go on. -/
structure Selects (sm : NciSm) (found : List NciDiscoveryNtf) (new : SmHistory)
    (pendingSwitch : Option NciState) : Prop where
  selects : (∃ ntf ∈ found, nciSmSupportsProtocol sm ntf.protocol = true) →
    ∃ ntf ∈ found, nciSmSupportsProtocol sm ntf.protocol = true
      ∧ (∀ a ∈ found, nciSmSupportsProtocol sm a.protocol = true → ntf.key ≤ a.key)
      ∧ new.selections = [some [ntf.discoveryId, ntf.protocol.byte,
          if ntf.protocol = .isoDep then 0x02 else if ntf.protocol = .nfcDep then 0x03 else 0x01]]
  discovers : (∀ ntf ∈ found, nciSmSupportsProtocol sm ntf.protocol = false) →
    new.selections = [] ∧ pendingSwitch = some .discovery

/-- What does not concern the selection of a target. -/
structure Apart (w w' : SmWorld SmHistory) : Prop where
  opMode : w'.sm.opMode = w.sm.opMode
  pendingSwitch : w'.sm.pendingSwitch = w.sm.pendingSwitch
  activeTransition : w'.sm.activeTransition = w.sm.activeTransition
  nextTransition : w'.sm.nextTransition = w.sm.nextTransition
  history : ∃ new, w'.io = w.io ++ new ∧ SmHistory.selections new = []

variable {H : SmHost} {w w' w'' : SmWorld SmHistory}

theorem Apart.refl (w : SmWorld SmHistory) :
  Apart w w
  := ⟨rfl, rfl, rfl, rfl, [], (List.append_nil _).symm, rfl⟩

theorem Apart.trans (h : Apart w w') (h' : Apart w' w'') :
  Apart w w''
  := by
  obtain ⟨new, hio, hnew⟩ := h.history
  obtain ⟨new', hio', hnew'⟩ := h'.history
  refine ⟨h'.opMode.trans h.opMode, h'.pendingSwitch.trans h.pendingSwitch,
    h'.activeTransition.trans h.activeTransition, h'.nextTransition.trans h.nextTransition,
    new ++ new', ?_, ?_⟩
  · rw [hio', hio, List.append_assoc]
  · rw [SmHistory.selections_append, hnew, hnew', List.append_nil]

/-- The machine changes without anything happening. -/
theorem Apart.map {sm : NciSm} (hopMode : sm.opMode = w.sm.opMode)
    (hpending : sm.pendingSwitch = w.sm.pendingSwitch)
    (hactive : sm.activeTransition = w.sm.activeTransition)
    (hnext : sm.nextTransition = w.sm.nextTransition) :
  Apart w ⟨sm, w.io⟩
  := ⟨hopMode, hpending, hactive, hnext, [], (List.append_nil _).symm, rfl⟩

/-- No more requests are made in callbacks. -/
def SmHost.Silent (H : SmHost) (history : SmHistory) : Prop :=
  ∀ later, H.react (history ++ later) = []

theorem SmHost.Silent.append {history : SmHistory} (h : H.Silent history) (new : SmHistory) :
  H.Silent (history ++ new)
  := by
  intro later
  rw [List.append_assoc]
  exact h _

theorem SmHost.Silent.apart (h : H.Silent w.io) (hapart : Apart w w') :
  H.Silent w'.io
  := by
  obtain ⟨new, hio, -⟩ := hapart.history
  rw [hio]
  exact h.append new

/-- A signal is emitted, and no requests are made. -/
theorem apart_nciSmEmitSignal (n : Nat) (sig : NciSmSignal) (hsilent : H.Silent w.io) :
  Apart w (nciSmEmitSignal (H.io n) sig w)
    ∧ (nciSmEmitSignal (H.io n) sig w).sm.lastState = w.sm.lastState
    ∧ (nciSmEmitSignal (H.io n) sig w).sm.discoveries = w.sm.discoveries
  := by
  rw [nciSmEmitSignal]
  split
  · have hsignal : ∀ v : SmWorld SmHistory, v.io = w.io →
        (H.io n).signal sig v = v.note (.signal sig v.sm) := by
      intro v hio
      have hreact : H.react (v.note (.signal sig v.sm)).io = [] := by
        rw [SmWorld.note_io, hio]
        exact hsilent _
      have hperform : (H.io n).signal sig v
          = H.perform n (H.react (v.note (.signal sig v.sm)).io) (v.note (.signal sig v.sm)) := rfl
      rw [hperform, hreact]
      exact (H.plays_perform n).nothing _
    rw [hsignal (w.map _) rfl]
    exact ⟨⟨rfl, rfl, rfl, rfl, _, rfl, rfl⟩, rfl, rfl⟩
  · exact ⟨.refl w, rfl, rfl⟩

theorem apart_nciSmEmitPendingSignals (n : Nat) (hsilent : H.Silent w.io) :
  Apart w (nciSmEmitPendingSignals (H.io n) w)
    ∧ (nciSmEmitPendingSignals (H.io n) w).sm.lastState = w.sm.lastState
    ∧ (nciSmEmitPendingSignals (H.io n) w).sm.discoveries = w.sm.discoveries
  := by
  obtain ⟨hnext, hnextState, hnextFound⟩ := apart_nciSmEmitSignal n .nextState hsilent
  obtain ⟨hlast, hlastState, hlastFound⟩ :=
    apart_nciSmEmitSignal n .lastState (hsilent.apart hnext)
  exact ⟨hnext.trans hlast, hlastState.trans hnextState, hlastFound.trans hnextFound⟩

/-! ### Entering a state -/

/-- Apart from what a state does when it is entered, entering it does not concern the selection. -/
theorem apart_nciSmEnterWith (n : Nat)
    (entered : NciState → Option NciParam → SmWorld SmHistory → SmWorld SmHistory)
    (state : NciState) (param : Option NciParam) (hactive : w.sm.activeTransition = none) :
  ∃ v, Apart w v
    ∧ ((entered state param v).sm.activeTransition = none →
      (entered state param v).sm.nextTransition = none →
      Apart (entered state param v) (nciSmEnterWith (H.io n) entered state param w)
        ∧ (nciSmEnterWith (H.io n) entered state param w).sm.lastState = state
        ∧ (nciSmEnterWith (H.io n) entered state param w).sm.discoveries
          = (entered state param v).sm.discoveries)
  := by
  have hbegin : nciSmBeginEntering w.sm
      = { w.sm with enteringState := w.sm.enteringState + 1 } := by
    rw [nciSmBeginEntering, nciSmFinishActiveTransition]
    dsimp only
    rw [hactive]
  -- What follows the state's own actions.
  have hend : ∀ u u' : SmWorld SmHistory, u'.sm.activeTransition = none →
      u'.sm.nextTransition = none → Apart u u' → u'.sm.discoveries = u.sm.discoveries →
      Apart u ((nciSmStartNextTransition (H.io n) state u').map (nciSmEndEntering state))
        ∧ ((nciSmStartNextTransition (H.io n) state u').map
          (nciSmEndEntering state)).sm.lastState = state
        ∧ ((nciSmStartNextTransition (H.io n) state u').map
          (nciSmEndEntering state)).sm.discoveries = u.sm.discoveries := by
    intro u u' hactive' hnext' hapart hfound
    have hstart : nciSmStartNextTransition (H.io n) state u'
        = u'.map fun self => { self with nextTransition := none } := by
      rw [nciSmStartNextTransition, nciSmTakeNextTransition, hnext']
      rfl
    obtain ⟨_, hended, -⟩ := nciSmEndEntering_eq state { u'.sm with nextTransition := none }
    have hopMode := congrArg NciSm.opMode hended
    have hpending := congrArg NciSm.pendingSwitch hended
    have htransition := congrArg NciSm.activeTransition hended
    have hnextTransition := (congrArg NciSm.nextTransition hended).trans hnext'.symm
    have hlast := congrArg NciSm.lastState hended
    have hdiscoveries := congrArg NciSm.discoveries hended
    rw [hstart]
    exact ⟨hapart.trans (.map hopMode hpending htransition hnextTransition), hlast,
      hdiscoveries.trans hfound⟩
  rw [nciSmEnterWith, nciSmActivate, SmWorld.map_sm, hbegin]
  split
  · refine ⟨w.map nciSmBeginEntering, ?_, fun hactive' hnext' => ?_⟩
    · rw [SmWorld.map, hbegin]
      exact .map rfl rfl rfl rfl
    · exact hend _ _ hactive' hnext' (.refl _) rfl
  · refine ⟨(w.map nciSmBeginEntering).map (nciSmReplaceActiveState state), ?_,
      fun hactive' hnext' => ?_⟩
    · obtain ⟨active, discoveries, hleave⟩ :=
        nciSmLeaveActiveState_eq { w.sm with enteringState := w.sm.enteringState + 1 }
      rw [SmWorld.map, SmWorld.map_sm, hbegin, nciSmReplaceActiveState, hleave]
      exact .map rfl rfl rfl rfl
    · exact hend _ _ hactive' hnext' (.map rfl rfl rfl rfl) rfl

/-! ### RFST_W4_HOST_SELECT -/

/-- A target is selected, and nothing else is done that concerns the selection. -/
structure Chooses (found : List NciDiscoveryNtf) (w w' : SmWorld SmHistory) : Prop where
  activeTransition : w'.sm.activeTransition = w.sm.activeTransition
  nextTransition : w'.sm.nextTransition = w.sm.nextTransition
  selects : ∃ new, w'.io = w.io ++ new ∧ Selects w.sm found new w'.sm.pendingSwitch

theorem supportsProtocol_of_opMode {sm sm' : NciSm} (h : sm.opMode = sm'.opMode)
    (protocol : NciProtocol) :
  nciSmSupportsProtocol sm protocol = nciSmSupportsProtocol sm' protocol
  := by
  unfold nciSmSupportsProtocol
  rw [h]

theorem Chooses.after {found : List NciDiscoveryNtf} (h : Chooses found w' w'')
    (hapart : Apart w w') :
  Chooses found w w''
  := by
  obtain ⟨new, hio, hselects⟩ := h.selects
  obtain ⟨earlier, hearlier, hnone⟩ := hapart.history
  refine ⟨h.activeTransition.trans hapart.activeTransition,
    h.nextTransition.trans hapart.nextTransition, earlier ++ new, ?_, ?_⟩
  · rw [hio, hearlier, List.append_assoc]
  · have hselections : SmHistory.selections (earlier ++ new) = new.selections := by
      rw [SmHistory.selections_append, hnone, List.nil_append]
    have hsame := supportsProtocol_of_opMode hapart.opMode
    constructor
    · rw [hselections]
      simpa only [hsame] using hselects.selects
    · rw [hselections]
      simpa only [hsame] using hselects.discovers

theorem Chooses.before {found : List NciDiscoveryNtf} (h : Chooses found w w')
    (hapart : Apart w' w'') :
  Chooses found w w''
  := by
  obtain ⟨new, hio, hselects⟩ := h.selects
  obtain ⟨later, hlater, hnone⟩ := hapart.history
  refine ⟨hapart.activeTransition.trans h.activeTransition,
    hapart.nextTransition.trans h.nextTransition, new ++ later, ?_, ?_⟩
  · rw [hlater, hio, List.append_assoc]
  · have hselections : SmHistory.selections (new ++ later) = new.selections := by
      rw [SmHistory.selections_append, hnone, List.append_nil]
    constructor
    · rw [hselections]
      exact hselects.selects
    · rw [hselections, hapart.pendingSwitch]
      exact hselects.discovers

theorem SmHost.Silent.chooses {found : List NciDiscoveryNtf} (h : H.Silent w.io)
    (hchooses : Chooses found w w') :
  H.Silent w'.io
  := by
  obtain ⟨new, hio, -⟩ := hchooses.selects
  rw [hio]
  exact h.append new

/-- RFST_W4_HOST_SELECT selects a target. -/
theorem chooses_nciStateW4HostSelectEntered (n : Nat) (found : List NciDiscoveryNtf)
    (w : SmWorld SmHistory) :
  Chooses found w (nciStateW4HostSelectEntered (H.io n) (some (.w4HostSelect found)) w)
  := by
  have hmem : ∀ ntf, ntf ∈ found.filter (fun ntf => nciSmSupportsProtocol w.sm ntf.protocol)
      ↔ ntf ∈ found ∧ nciSmSupportsProtocol w.sm ntf.protocol = true :=
    fun ntf => List.mem_filter
  rw [nciStateW4HostSelectEntered]
  split
  · rename_i ntf rest hselected
    obtain ⟨hntf, hleast⟩ := head_foldl_insertSorted hselected
    obtain ⟨hfound, hsupports⟩ := (hmem ntf).mp hntf
    rw [byte_selectedInterface]
    refine ⟨rfl, rfl, _, rfl, fun _ => ?_, fun hnone => ?_⟩
    · exact ⟨ntf, hfound, hsupports, fun a ha ha' => hleast a ((hmem a).mpr ⟨ha, ha'⟩), rfl⟩
    · cases (hnone ntf hfound).symm.trans hsupports
  · rename_i hselected
    refine ⟨rfl, rfl, [], (List.append_nil _).symm, ?_, fun _ => ⟨rfl, rfl⟩⟩
    rintro ⟨ntf, hfound, hsupports⟩
    rw [foldl_insertSorted] at hselected
    have hnil := (hmem ntf).mpr ⟨hfound, hsupports⟩
    rw [← List.mem_reverse, ← List.mem_insertionSort NciDiscoveryNtf.Preferred, hselected] at hnil
    cases hnil

/-- RFST_W4_HOST_SELECT is entered after the last discovery. -/
theorem chooses_nciSmEnterHostSelect (n : Nat) (found : List NciDiscoveryNtf)
    (hsilent : H.Silent w.io) (hactive : w.sm.activeTransition = none)
    (hnext : w.sm.nextTransition = none) :
  Chooses found w (nciSmEnterHostSelect (H.io n) found w)
  := by
  obtain ⟨v, hv, hentered⟩ := apart_nciSmEnterWith (H := H) n (nciStateEnteredFlat (H.io n))
    .w4HostSelect (some (.w4HostSelect found)) hactive
  have hchooses := chooses_nciStateW4HostSelectEntered (H := H) n found v
  obtain ⟨hrest, -, -⟩ := hentered
    (hchooses.activeTransition.trans (hv.activeTransition.trans hactive))
    (hchooses.nextTransition.trans (hv.nextTransition.trans hnext))
  have hdone := (hchooses.after hv).before hrest
  exact hdone.before (apart_nciSmEmitPendingSignals n (hsilent.chooses hdone)).1

/-! ### Discoveries -/

/-- Discoveries are being collected. -/
structure SmWorld.Collects (w : SmWorld SmHistory) (found : List NciDiscoveryNtf) : Prop where
  activeTransition : w.sm.activeTransition = none
  nextTransition : w.sm.nextTransition = none
  found : (found = [] ∧ w.sm.lastState = .discovery)
    ∨ (w.sm.lastState = .w4AllDiscoveries ∧ w.sm.discoveries = found)

/-- A discovery is collected in RFST_W4_ALL_DISCOVERIES. -/
theorem nciStateW4AllDiscoveriesHandleDiscovery_more (n : Nat) {ntf : NciDiscoveryNtf}
    (hlast : ntf.last = false) (w : SmWorld SmHistory) :
  nciStateW4AllDiscoveriesHandleDiscovery (H.io n) ntf w
    = w.map fun self => { self with discoveries := self.discoveries ++ [ntf] }
  := by
  rw [nciStateW4AllDiscoveriesHandleDiscovery, hlast]
  rfl

theorem chooses_nciStateW4AllDiscoveriesHandleDiscovery (n : Nat) {ntf : NciDiscoveryNtf}
    (hlast : ntf.last = true) (hsilent : H.Silent w.io) (hactive : w.sm.activeTransition = none)
    (hnext : w.sm.nextTransition = none) :
  Chooses (w.sm.discoveries ++ [ntf]) w
    (nciStateW4AllDiscoveriesHandleDiscovery (H.io n) ntf w)
  := by
  obtain ⟨v, hv⟩ : ∃ v, v = w.map fun self =>
    { self with discoveries := self.discoveries ++ [ntf] } := ⟨_, rfl⟩
  have happend : Apart w v := by
    rw [hv]
    exact .map rfl rfl rfl rfl
  have hchooses := chooses_nciSmEnterHostSelect n (w.sm.discoveries ++ [ntf])
    (hsilent.apart happend) (happend.activeTransition.trans hactive)
    (happend.nextTransition.trans hnext)
  rw [hv] at hchooses
  rw [nciStateW4AllDiscoveriesHandleDiscovery, if_pos hlast]
  exact hchooses.after (.map rfl rfl rfl rfl)

/-- RF_DISCOVER_NTF is handled by the state in which discoveries are collected. -/
theorem SmHost.step_discover {n : Nat} {found : List NciDiscoveryNtf} (h : w.Collects found)
    {payload : List UInt8} {ntf : NciDiscoveryNtf} (hparsed : parseDiscover payload = some ntf) :
  H.step n w (.notification nciGidRf nciOidRfDiscover payload)
    = if w.sm.lastState = .discovery then
        nciSmEnterState (H.io n) .w4AllDiscoveries (some (.w4AllDiscoveries ntf))
          (w.note (.arrived (.notification nciGidRf nciOidRfDiscover payload)))
      else nciStateW4AllDiscoveriesHandleDiscovery (H.io n) ntf
          (w.note (.arrived (.notification nciGidRf nciOidRfDiscover payload)))
  := by
  have hactive : (w.note (.arrived (.notification nciGidRf nciOidRfDiscover
      payload))).sm.activeTransition = none := h.activeTransition
  rw [step, handle, nciSmHandleNtf, hactive]
  dsimp only [SmWorld.note_sm]
  obtain ⟨-, hstate⟩ | ⟨hstate, -⟩ := h.found
  · rw [hstate, if_pos rfl, nciStateHandleNtf, nciStateDiscoveryHandleNtf, if_pos ⟨rfl, rfl⟩,
      nciStateDiscoveryDiscoverNtf, hparsed]
  · rw [hstate, if_neg (by decide), nciStateHandleNtf, nciStateW4AllDiscoveriesHandleNtf,
      if_pos ⟨rfl, rfl⟩, nciStateW4AllDiscoveriesDiscoverNtf, hparsed]

/-- The first discovery takes the machine to RFST_W4_ALL_DISCOVERIES. -/
theorem collects_enterAllDiscoveries (n : Nat) {ntf : NciDiscoveryNtf} (hlast : ntf.last = false)
    (hsilent : H.Silent w.io) (hactive : w.sm.activeTransition = none)
    (hnext : w.sm.nextTransition = none) :
  Apart w (nciSmEnterState (H.io n) .w4AllDiscoveries (some (.w4AllDiscoveries ntf)) w)
    ∧ (nciSmEnterState (H.io n) .w4AllDiscoveries
      (some (.w4AllDiscoveries ntf)) w).Collects [ntf]
  := by
  obtain ⟨v, hv, hentered⟩ := apart_nciSmEnterWith (H := H) n (nciStateEntered (H.io n))
    .w4AllDiscoveries (some (.w4AllDiscoveries ntf)) hactive
  obtain ⟨u, hu⟩ : ∃ u, u = nciStateEntered (H.io n) .w4AllDiscoveries
    (some (.w4AllDiscoveries ntf)) v := ⟨_, rfl⟩
  have hmore : u = v.map fun self => { self with discoveries := [ntf] } :=
    hu.trans (nciStateW4AllDiscoveriesHandleDiscovery_more n hlast _)
  have hvu : Apart v u := by
    rw [hmore]
    exact .map rfl rfl rfl rfl
  have hcollected : u.sm.discoveries = [ntf] := by rw [hmore]; rfl
  have hwu := hv.trans hvu
  rw [← hu] at hentered
  obtain ⟨hrest, hstate, hfound⟩ := hentered (hwu.activeTransition.trans hactive)
    (hwu.nextTransition.trans hnext)
  have hentering := hwu.trans hrest
  obtain ⟨hemit, hstate', hfound'⟩ :=
    apart_nciSmEmitPendingSignals n (hsilent.apart hentering)
  have hall := hentering.trans hemit
  exact ⟨hall, hall.activeTransition.trans hactive, hall.nextTransition.trans hnext,
    Or.inr ⟨hstate'.trans hstate, (hfound'.trans hfound).trans hcollected⟩⟩

/-- The only discovery takes the machine to RFST_W4_ALL_DISCOVERIES, and from inside that state to
RFST_W4_HOST_SELECT. -/
theorem chooses_enterAllDiscoveries (n : Nat) {ntf : NciDiscoveryNtf} (hlast : ntf.last = true)
    (hsilent : H.Silent w.io) (hactive : w.sm.activeTransition = none)
    (hnext : w.sm.nextTransition = none) :
  Chooses [ntf] w (nciSmEnterState (H.io n) .w4AllDiscoveries (some (.w4AllDiscoveries ntf)) w)
  := by
  obtain ⟨v, hv, hentered⟩ := apart_nciSmEnterWith (H := H) n (nciStateEntered (H.io n))
    .w4AllDiscoveries (some (.w4AllDiscoveries ntf)) hactive
  obtain ⟨u, hu⟩ : ∃ u, u = v.map fun self => { self with discoveries := [] } := ⟨_, rfl⟩
  have hvu : Apart v u := by
    rw [hu]
    exact .map rfl rfl rfl rfl
  have hwu := hv.trans hvu
  have hchooses := chooses_nciStateW4AllDiscoveriesHandleDiscovery n hlast (hsilent.apart hwu)
    (hwu.activeTransition.trans hactive) (hwu.nextTransition.trans hnext)
  have hnone : u.sm.discoveries = [] := by rw [hu]; rfl
  have hsame : nciStateEntered (H.io n) .w4AllDiscoveries (some (.w4AllDiscoveries ntf)) v
      = nciStateW4AllDiscoveriesHandleDiscovery (H.io n) ntf u := by
    rw [hu]
    rfl
  rw [hnone, List.nil_append] at hchooses
  rw [hsame] at hentered
  have hchosen := hchooses.after hwu
  obtain ⟨hrest, -, -⟩ := hentered (hchosen.activeTransition.trans hactive)
    (hchosen.nextTransition.trans hnext)
  have hdone := hchosen.before hrest
  exact hdone.before (apart_nciSmEmitPendingSignals n (hsilent.chooses hdone)).1

/-! ### Sequences of notifications -/

/-- A notification other than RF_DISCOVER_NTF is ignored where discoveries are collected. -/
def NciState.Ignores (state : NciState) (gid oid : UInt8) : Prop :=
  ¬(gid = nciGidCore ∧ oid = nciOidCoreConnCredits)
    ∧ (state = .discovery → ¬(gid = nciGidRf ∧ oid = nciOidRfIntfActivated))

/-- Notifications that do not end the collection of discoveries, the first one of which arrives in
the given state. -/
def NciState.Gathers : NciState → List SmEvent → Prop
  | _, [] => True
  | state, .notification gid oid payload :: events =>
      if gid = nciGidRf ∧ oid = nciOidRfDiscover then
        match parseDiscover payload with
        | some ntf => ntf.last = false ∧ Gathers .w4AllDiscoveries events
        | none => state.Gathers events
      else state.Ignores gid oid ∧ state.Gathers events
  | _, _ :: _ => False

/-- The discoveries that are accepted. -/
def discovered (events : List SmEvent) : List NciDiscoveryNtf :=
  events.filterMap fun e => match e with
    | .notification gid oid payload =>
        if gid = nciGidRf ∧ oid = nciOidRfDiscover then parseDiscover payload else none
    | _ => none

theorem SmWorld.Collects.note {found : List NciDiscoveryNtf} (h : w.Collects found)
    (a : SmAction) :
  (w.note a).Collects found
  := ⟨h.activeTransition, h.nextTransition, h.found⟩

theorem Apart.arrived (w : SmWorld SmHistory) (e : SmEvent) :
  Apart w (w.note (.arrived e))
  := ⟨rfl, rfl, rfl, rfl, _, rfl, rfl⟩

/-- An ignored notification is only recorded. -/
theorem SmHost.step_ignored {n : Nat} {found : List NciDiscoveryNtf} (h : w.Collects found)
    {gid oid : UInt8} {payload : List UInt8}
    (hignores : w.sm.lastState.Ignores gid oid)
    (hdiscover : gid = nciGidRf ∧ oid = nciOidRfDiscover → parseDiscover payload = none) :
  H.step n w (.notification gid oid payload) = w.note (.arrived (.notification gid oid payload))
  := by
  have hactive : (w.note (.arrived (.notification gid oid payload))).sm.activeTransition = none :=
    h.activeTransition
  obtain ⟨hcredits, hactivated⟩ := hignores
  have hdefault : nciDefaultHandleNtf (H.io n) gid oid payload
      (w.note (.arrived (.notification gid oid payload)))
      = w.note (.arrived (.notification gid oid payload)) := if_neg hcredits
  rw [step, handle, nciSmHandleNtf, hactive]
  dsimp only [SmWorld.note_sm]
  obtain ⟨-, hstate⟩ | ⟨hstate, -⟩ := h.found
  · rw [hstate, nciStateHandleNtf, nciStateDiscoveryHandleNtf, hdefault,
      if_neg (hactivated hstate)]
    split
    · rw [nciStateDiscoveryDiscoverNtf, hdiscover ‹_›]
    · rfl
  · rw [hstate, nciStateHandleNtf, nciStateW4AllDiscoveriesHandleNtf, hdefault]
    split
    · rw [nciStateW4AllDiscoveriesDiscoverNtf, hdiscover ‹_›]
    · rfl

/-- One more discovery. -/
theorem SmWorld.Collects.more {n : Nat} {found : List NciDiscoveryNtf} (h : w.Collects found)
    (hsilent : H.Silent w.io) {payload : List UInt8} {ntf : NciDiscoveryNtf}
    (hparsed : parseDiscover payload = some ntf) (hlast : ntf.last = false) :
  Apart w (H.step n w (.notification nciGidRf nciOidRfDiscover payload))
    ∧ (H.step n w (.notification nciGidRf nciOidRfDiscover payload)).Collects (found ++ [ntf])
    ∧ (H.step n w (.notification nciGidRf nciOidRfDiscover payload)).sm.lastState
      = .w4AllDiscoveries
  := by
  have harrived := Apart.arrived w (.notification nciGidRf nciOidRfDiscover payload)
  rw [H.step_discover h hparsed]
  obtain ⟨rfl, hstate⟩ | ⟨hstate, hfound⟩ := h.found
  · rw [if_pos hstate]
    obtain ⟨hapart, hcollects⟩ := collects_enterAllDiscoveries n hlast (hsilent.apart harrived)
      (harrived.activeTransition.trans h.activeTransition)
      (harrived.nextTransition.trans h.nextTransition)
    refine ⟨harrived.trans hapart, hcollects, ?_⟩
    obtain ⟨hnil, -⟩ | ⟨hstate', -⟩ := hcollects.found
    · cases hnil
    · exact hstate'
  · rw [if_neg (by rw [hstate]; decide), nciStateW4AllDiscoveriesHandleDiscovery_more n hlast]
    refine ⟨harrived.trans (.map rfl rfl rfl rfl), ⟨h.activeTransition, h.nextTransition, ?_⟩,
      hstate⟩
    exact Or.inr ⟨hstate, congrArg (· ++ [ntf]) hfound⟩

/-- The last discovery. -/
theorem SmWorld.Collects.last {n : Nat} {found : List NciDiscoveryNtf} (h : w.Collects found)
    (hsilent : H.Silent w.io) {payload : List UInt8} {ntf : NciDiscoveryNtf}
    (hparsed : parseDiscover payload = some ntf) (hlast : ntf.last = true) :
  Chooses (found ++ [ntf]) w (H.step n w (.notification nciGidRf nciOidRfDiscover payload))
  := by
  have harrived := Apart.arrived w (.notification nciGidRf nciOidRfDiscover payload)
  have hactive := harrived.activeTransition.trans h.activeTransition
  have hnext := harrived.nextTransition.trans h.nextTransition
  rw [H.step_discover h hparsed]
  obtain ⟨rfl, hstate⟩ | ⟨hstate, hfound⟩ := h.found
  · rw [if_pos hstate]
    exact (chooses_enterAllDiscoveries n hlast (hsilent.apart harrived) hactive hnext).after
      harrived
  · rw [if_neg (by rw [hstate]; decide)]
    have hchooses := chooses_nciStateW4AllDiscoveriesHandleDiscovery n hlast
      (hsilent.apart harrived) hactive hnext
    rw [SmWorld.note_sm, hfound] at hchooses
    exact hchooses.after harrived

/-- Discoveries are collected as long as more of them follow. -/
theorem SmWorld.Collects.run {n : Nat} {events : List SmEvent} {found : List NciDiscoveryNtf}
    (h : w.Collects found) (hsilent : H.Silent w.io) (hevents : w.sm.lastState.Gathers events) :
  Apart w (H.run n w events) ∧ (H.run n w events).Collects (found ++ discovered events)
  := by
  induction events generalizing w found with
  | nil =>
      rw [discovered, List.filterMap_nil, List.append_nil]
      exact ⟨.refl w, h⟩
  | cons e events ih =>
      cases e
      case notification gid oid payload =>
        have hignored : w.sm.lastState.Ignores gid oid → (gid = nciGidRf ∧ oid = nciOidRfDiscover →
            parseDiscover payload = none) → w.sm.lastState.Gathers events →
            Apart w (H.run n w (.notification gid oid payload :: events))
              ∧ (H.run n w (.notification gid oid payload :: events)).Collects
                (found ++ discovered events) := by
          intro hignores hdiscover hevents
          have hstep := H.step_ignored (n := n) h hignores hdiscover
          have harrived := Apart.arrived w (.notification gid oid payload)
          obtain ⟨hapart, hcollects⟩ := ih (h.note (.arrived (.notification gid oid payload)))
            (hsilent.apart harrived) hevents
          rw [SmHost.run, List.foldl_cons, hstep]
          exact ⟨harrived.trans hapart, hcollects⟩
        rw [NciState.Gathers] at hevents
        split at hevents
        · rename_i hdiscover
          obtain ⟨rfl, rfl⟩ := hdiscover
          cases hparsed : parseDiscover payload with
          | none =>
              rw [hparsed] at hevents
              have hnone : discovered (.notification nciGidRf nciOidRfDiscover payload :: events)
                  = discovered events := by
                rw [discovered, List.filterMap_cons_none]
                · rfl
                · exact (if_pos ⟨rfl, rfl⟩).trans hparsed
              rw [hnone]
              exact hignored ⟨by decide, fun _ => by decide⟩ (fun _ => hparsed) hevents
          | some ntf =>
              rw [hparsed] at hevents
              obtain ⟨hlast, hevents⟩ := hevents
              obtain ⟨hapart, hcollects, hstate⟩ := h.more (n := n) hsilent hparsed hlast
              obtain ⟨hapart', hcollects'⟩ := ih hcollects (hsilent.apart hapart)
                (by rw [hstate]; exact hevents)
              have hsome : discovered (.notification nciGidRf nciOidRfDiscover payload :: events)
                  = ntf :: discovered events := by
                rw [discovered, List.filterMap_cons_some]
                · rfl
                · exact (if_pos ⟨rfl, rfl⟩).trans hparsed
              rw [hsome, List.append_cons]
              exact ⟨hapart.trans hapart', hcollects'⟩
        · rename_i hdiscover
          obtain ⟨hignores, hevents⟩ := hevents
          have hnone : discovered (.notification gid oid payload :: events)
              = discovered events := by
            rw [discovered, List.filterMap_cons_none]
            · rfl
            · exact if_neg hdiscover
          rw [hnone]
          exact hignored hignores (fun h => absurd h hdiscover) hevents
      all_goals cases hevents

/-- From RFST_DISCOVERY on, endpoints are discovered until the last one has been told. Then the
best one of those that the machine supports is selected, or the discovery goes on. -/
theorem selectsTarget (H : SmHost) (n : Nat) {w : SmWorld SmHistory} (hw : H.Reaches n w)
    (hstate : w.sm.lastState = .discovery) (hactive : w.sm.activeTransition = none)
    (hsilent : H.Silent w.io) {events : List SmEvent}
    (hevents : NciState.discovery.Gathers events) {payload : List UInt8} {ntf : NciDiscoveryNtf}
    (hparsed : parseDiscover payload = some ntf) (hlast : ntf.last = true) :
  ∃ new, (H.run n w (events ++ [.notification nciGidRf nciOidRfDiscover payload])).io
      = w.io ++ new
    ∧ Selects w.sm (discovered events ++ [ntf]) new
      (H.run n w (events ++ [.notification nciGidRf nciOidRfDiscover payload])).sm.pendingSwitch
  := by
  have hnext : w.sm.nextTransition = none := by
    rw [Option.eq_none_iff_forall_ne_some]
    intro t ht
    obtain ⟨u, hu, -⟩ | ⟨-, hleads⟩ := hw.belongs.queued hw.enteringState t ht
    · cases hactive.symm.trans hu
    · rw [hstate] at hleads
      cases hleads
  have hcollects : w.Collects [] := ⟨hactive, hnext, Or.inl ⟨rfl, hstate⟩⟩
  obtain ⟨hapart, hcollected⟩ := hcollects.run (n := n) hsilent (by rw [hstate]; exact hevents)
  rw [List.nil_append] at hcollected
  have hchooses := (hcollected.last (n := n) (hsilent.apart hapart) hparsed hlast).after hapart
  have hrun : H.run n w (events ++ [.notification nciGidRf nciOidRfDiscover payload])
      = H.step n (H.run n w events) (.notification nciGidRf nciOidRfDiscover payload) :=
    List.foldl_concat ..
  rw [hrun]
  exact hchooses.selects

/-- Two endpoints are discovered one after another. -/
def eventsOfTargets : List SmEvent :=
  [.notification nciGidRf nciOidRfDiscover [1, 2, 0, 0, 2],
    .notification nciGidRf nciOidRfDiscover [2, 4, 0, 0, 0]]

theorem selectsTarget_two :
  ∃ new, (SmHost.quiet.run 0 (SmHost.quiet.run 0 (SmWorld.new nciSmDefault) eventsToDiscovery)
        eventsOfTargets).io
      = (SmHost.quiet.run 0 (SmWorld.new nciSmDefault) eventsToDiscovery).io ++ new
    ∧ Selects (SmHost.quiet.run 0 (SmWorld.new nciSmDefault) eventsToDiscovery).sm
      (discovered eventsOfTargets) new
      (SmHost.quiet.run 0 (SmHost.quiet.run 0 (SmWorld.new nciSmDefault) eventsToDiscovery)
        eventsOfTargets).sm.pendingSwitch
  := by
  have hreaches : SmHost.quiet.Reaches 0
      (SmHost.quiet.run 0 (SmWorld.new nciSmDefault) eventsToDiscovery) :=
    ⟨nciTechDefault, ⟨0, []⟩, ⟨0, []⟩, eventsToDiscovery, rfl⟩
  have hevents : NciState.discovery.Gathers (eventsOfTargets.take 1) := ⟨rfl, trivial⟩
  have hparsed : (parseDiscover [2, 4, 0, 0, 0]).map NciDiscoveryNtf.last = some true := by decide
  obtain ⟨ntf, hntf, hlast⟩ := Option.map_eq_some_iff.mp hparsed
  have hselects := selectsTarget SmHost.quiet 0 hreaches (by decide) (by decide) (fun _ => rfl)
    hevents hntf hlast
  have hfound : discovered eventsOfTargets
      = discovered (eventsOfTargets.take 1) ++ [ntf] := by
    cases hntf
    rfl
  rw [hfound]
  exact hselects

end Nci
