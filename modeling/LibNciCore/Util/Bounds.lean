import LibNciCore.Util.Parse

/-!
# Parameters are parsed within their bounds

A parser of parameters is given an area of a notification. It should read and refer to
nothing outside of that area, and reject it if a length byte in it promises more bytes than
there are. All parsers do, but two: those for NFC-B poll mode trust the length byte.
-/

namespace Nci

open Reads

/-- The views lie in the `n` bytes that start at `base`, and there is nothing if more bytes are
promised. -/
structure Exposes {α : Type} (views : α → List GUtilData) (base n promised : Nat)
    (r : Option α) : Prop where
  views : ∀ p ∈ r, ∀ v ∈ views p, v.Within base n
  rejects : n < promised → r = none

/-- A parser stays in the `n` bytes that start at `base`: it reads them only, the views that it
stores lie there, and it gives nothing if more bytes are promised. -/
def Bounded {α : Type} (parse : Reads (Option α)) (views : α → List GUtilData)
    (mem : Nat → UInt8) (base n promised : Nat) : Prop :=
  parse.Ensures mem base n (Exposes views base n promised)

variable {mem : Nat → UInt8} {base n promised : Nat}

theorem exposes_none {α : Type} (views : α → List GUtilData) :
  Exposes views base n promised none
  := by
  constructor
  · simp
  · simp

theorem exposes_some {α : Type} {views : α → List GUtilData} {p : α}
    (hviews : ∀ v ∈ views p, v.Within base n) (hpromised : promised ≤ n) :
  Exposes views base n promised (some p)
  := by
  constructor
  · rintro _ ⟨⟩
    apply hviews
  · omega

/-- What gives nothing without reading stays anywhere. -/
theorem bounded_none {α : Type} (views : α → List GUtilData) :
  Bounded (pure none) views mem base n promised
  := ensures_pure (exposes_none views)

/-! ### Parameters of a mode -/

theorem bounded_pollA :
  Bounded (nciParseModeParamPollA base n) NciModeParam.views mem base n
    ((mem (base + 2)).toNat + 4 + (mem (base + ((mem (base + 2)).toNat + 3))).toNat)
  := by
  apply ensures_ite _ fun _ => bounded_none _
  intro hlen
  apply ensures_bytes (by omega) (by omega)
  apply ensures_byte (by omega) (by omega)
  apply ensures_ite _ fun _ => bounded_none _
  intro hnfcid1
  apply ensures_byte (by omega) (by omega)
  apply ensures_ite _ fun _ => bounded_none _
  intro hselRes
  apply ensures_bytes (by omega) (by omega)
  apply ensures_bind
  · apply within_ite _ fun _ => within_pure _
    intro hne
    have hpos : (mem (base + ((mem (base + 2)).toNat + 3))).toNat ≠ 0 := by
      intro hzero
      apply hne
      apply UInt8.toNat_inj.mp hzero
    apply within_byte (by omega) (by omega)
  · apply ensures_pure
    apply exposes_some _ hselRes
    simp [NciModeParam.views]

/-- The parser for NFC-B poll mode stays in its area unless the length byte promises more than
there is, and at least what it needs to go on. -/
theorem bounded_pollB_iff (hn : 1 ≤ n) :
  Bounded (nciParseModeParamPollB base n) NciModeParam.views mem base n ((mem base).toNat + 1)
    ↔ ¬ (11 ≤ (mem base).toNat ∧ n < (mem base).toNat + 1)
  := by
  constructor
  · rintro h ⟨hmin, hlt⟩
    have hnone := h.value.rejects hlt
    simp [nciParseModeParamPollB, hn, hmin] at hnone
  · intro hcond
    apply ensures_ite _ fun _ => bounded_none _
    intro _
    apply ensures_byte (by omega) (by omega)
    apply ensures_ite _ fun _ => bounded_none _
    intro hmin
    apply ensures_byte (by omega) (by omega)
    apply ensures_bytes (by omega) (by omega)
    apply ensures_bytes (by omega) (by omega)
    apply ensures_pure
    apply exposes_some _ (by omega)
    simp only [NciModeParam.views, List.mem_singleton, forall_eq, GUtilData.Within]
    omega

theorem bounded_pollF :
  Bounded (nciParseModeParamPollF base n) NciModeParam.views mem base n
    ((mem (base + 1)).toNat + 2)
  := by
  apply ensures_ite _ fun _ => bounded_none _
  intro hlen
  apply ensures_byte (by omega) (by omega)
  apply ensures_ite _ fun _ => bounded_none _
  intro hsensf
  apply ensures_byte (by omega) (by omega)
  apply ensures_bytes (by omega) (by omega)
  apply ensures_pure
  apply exposes_some _ hsensf.2
  simp [NciModeParam.views]

theorem bounded_listenF :
  Bounded (nciParseModeParamListenF base n) NciModeParam.views mem base n ((mem base).toNat + 1)
  := by
  apply ensures_ite _ fun _ => bounded_none _
  intro hlen
  apply ensures_byte (by omega) (by omega)
  apply ensures_ite _ fun _ => bounded_none _
  intro hnfcid2
  apply ensures_ite
  · intro _
    apply ensures_pure
    apply exposes_some _ hnfcid2
    simp [NciModeParam.views, GUtilData.zero, GUtilData.Within]
  · intro _
    apply ensures_ite _ fun _ => bounded_none _
    intro _
    apply ensures_pure
    apply exposes_some _ hnfcid2
    simp only [NciModeParam.views, List.mem_singleton, forall_eq, GUtilData.Within]
    omega

theorem bounded_pollV :
  Bounded (nciParseModeParamPollV base n) NciModeParam.views mem base n 0
  := by
  apply ensures_ite _ fun _ => bounded_none _
  intro hlen
  apply ensures_byte (by omega) (by omega)
  apply ensures_byte (by omega) (by omega)
  apply ensures_bytes (by omega) (by omega)
  apply ensures_pure
  apply exposes_some _ (by omega)
  simp [NciModeParam.views]

/-- The number of bytes that the length bytes in the parameters of a mode promise. -/
def modeParamPromised (mem : Nat → UInt8) (mode : NciMode) (base : Nat) : Nat :=
  match mode with
  | .activePollA | .passivePollA =>
      (mem (base + 2)).toNat + 4 + (mem (base + ((mem (base + 2)).toNat + 3))).toNat
  | .activePollF | .passivePollF => (mem (base + 1)).toNat + 2
  | .passivePollB | .activeListenF | .passiveListenF => (mem base).toNat + 1
  | _ => 0

/-- The parameters of NFC-B poll mode are accepted although they are longer than their area. -/
def PollBOverrun (mem : Nat → UInt8) (mode : NciMode) (base n : Nat) : Prop :=
  mode = .passivePollB ∧ 11 ≤ (mem base).toNat ∧ n < (mem base).toNat + 1

theorem bounded_modeParam {mode : NciMode} (hmode : mode ≠ .passivePollB) :
  Bounded (nciParseModeParam mode base n) NciModeParam.views mem base n
    (modeParamPromised mem mode base)
  := by
  cases mode with
  | passivePollB => contradiction
  | activePollA => apply ensures_ite (fun _ => bounded_none _) fun _ => bounded_pollA
  | passivePollA => apply bounded_pollA
  | activePollF => apply bounded_pollF
  | passivePollF => apply bounded_pollF
  | activeListenF => apply bounded_listenF
  | passiveListenF => apply bounded_listenF
  | passivePollV => apply bounded_pollV
  | passiveListenV => apply bounded_none
  | passiveListenA => apply bounded_none
  | passiveListenB => apply bounded_none
  | activeListenA => apply bounded_none
  | other byte => apply bounded_none

theorem bounded_modeParam_iff (mode : NciMode) (hn : 1 ≤ n) :
  Bounded (nciParseModeParam mode base n) NciModeParam.views mem base n
      (modeParamPromised mem mode base)
    ↔ ¬ PollBOverrun mem mode base n
  := by
  by_cases hmode : mode = .passivePollB
  · subst hmode
    simp only [PollBOverrun, true_and]
    apply bounded_pollB_iff hn
  · simp only [PollBOverrun, hmode, false_and, not_false_eq_true, iff_true]
    apply bounded_modeParam hmode

/-! ### Parameters of an activation -/

theorem within_readInterfaceByte {t0 flag : UInt8} {i : Nat} (hle : base ≤ i)
    (hlt : (atsInterfaceByte t0 flag i).2 ≤ base + n) :
  (readInterfaceByte (atsInterfaceByte t0 flag i).1).Within mem base n
  := by
  revert hlt
  rw [atsInterfaceByte]
  split
  · intro hlt
    apply within_byte hle hlt
  · intro _
    apply within_pure

theorem le_atsInterfaceByte (t0 flag : UInt8) (i : Nat) :
  i ≤ (atsInterfaceByte t0 flag i).2
  := by
  rw [atsInterfaceByte]
  split
  · apply Nat.le_succ
  · apply Nat.le_refl

theorem bounded_isoDepPollA (hn : 1 ≤ n) :
  Bounded (nciParseIsoDepPollAParam base n) NciActivationParam.views mem base n
    ((mem base).toNat + 1)
  := by
  apply ensures_byte (by omega) (by omega)
  apply ensures_ite _ fun _ => bounded_none _
  intro hats
  apply ensures_byte (by omega) (by omega)
  apply ensures_ite _ fun _ => bounded_none _
  intro hend
  have hta := le_atsInterfaceByte (mem (base + 1)) nfcT4aAtsT0A (base + 1 + 1)
  have htb := le_atsInterfaceByte (mem (base + 1)) nfcT4aAtsT0B
    (atsInterfaceByte (mem (base + 1)) nfcT4aAtsT0A (base + 1 + 1)).2
  have htc := le_atsInterfaceByte (mem (base + 1)) nfcT4aAtsT0C
    (atsInterfaceByte (mem (base + 1)) nfcT4aAtsT0B
      (atsInterfaceByte (mem (base + 1)) nfcT4aAtsT0A (base + 1 + 1)).2).2
  apply ensures_bind (within_readInterfaceByte (by omega) (by omega))
  apply ensures_bind (within_readInterfaceByte (by omega) (by omega))
  apply ensures_bind (within_readInterfaceByte (by omega) (by omega))
  apply ensures_pure
  apply exposes_some _ hats.2
  simp only [NciActivationParam.views, List.mem_singleton, forall_eq, GUtilData.Within]
  split
  · rename_i i hi
    simp only [Option.ite_none_right_eq_some] at hi
    obtain ⟨-, hi⟩ := hi
    injection hi with hi
    omega
  · rename_i hi
    simp at hi
    omega

theorem bounded_isoDepListenA :
  Bounded (nciParseIsoDepListenAParam base n) NciActivationParam.views mem base n 0
  := by
  apply ensures_ite _ fun _ => bounded_none _
  intro hlen
  apply ensures_byte (by omega) (by omega)
  apply ensures_pure
  apply exposes_some _ (by omega)
  simp [NciActivationParam.views]

/-- A view that starts at `i` in the area and ends where the area does, or one of nothing. -/
theorem within_view {c : Prop} [Decidable c] {i k : Nat} (hle : base ≤ i)
    (hlt : c → i + k ≤ base + n) :
  (if c then (⟨some i, k⟩ : GUtilData) else GUtilData.zero).Within base n
  := by
  split
  · rename_i hc
    use hle, hlt hc
  · rfl

/-- The parser for NFC-B/ISO-DEP poll mode does not compare its length byte with the length of
the area. -/
theorem bounded_isoDepPollB_iff (hn : 1 ≤ n) :
  Bounded (nciParseIsoDepPollBParam base n) NciActivationParam.views mem base n
      ((mem base).toNat + 1)
    ↔ ¬ (1 ≤ (mem base).toNat ∧ n < (mem base).toNat + 1)
  := by
  constructor
  · rintro h ⟨hmin, hlt⟩
    have hnone := h.value.rejects hlt
    simp [nciParseIsoDepPollBParam, hmin] at hnone
  · intro hcond
    apply ensures_byte (by omega) (by omega)
    apply ensures_ite _ fun _ => bounded_none _
    intro hmin
    apply ensures_byte (by omega) (by omega)
    apply ensures_pure
    apply exposes_some _ (by omega)
    simp only [NciActivationParam.views, List.mem_singleton, forall_eq]
    apply within_view (by omega) (by omega)

theorem bounded_isoDepListenB (hn : 1 ≤ n) :
  Bounded (nciParseIsoDepListenBParam base n) NciActivationParam.views mem base n
    ((mem base).toNat + 1)
  := by
  apply ensures_byte (by omega) (by omega)
  apply ensures_ite _ fun _ => bounded_none _
  intro hcmd
  apply ensures_bytes (by omega) (by omega)
  apply ensures_bytes (by omega) (by omega)
  apply ensures_pure
  apply exposes_some _ hcmd.2
  simp only [NciActivationParam.views, List.mem_singleton, forall_eq]
  apply within_view (by omega) (by omega)

theorem bounded_nfcDepPoll (hn : 1 ≤ n) :
  Bounded (nciParseNfcDepPollParam base n) NciActivationParam.views mem base n
    ((mem base).toNat + 1)
  := by
  apply ensures_byte (by omega) (by omega)
  apply ensures_ite _ fun _ => bounded_none _
  intro hatr
  apply ensures_bytes (by omega) (by omega)
  apply ensures_byte (by omega) (by omega)
  apply ensures_byte (by omega) (by omega)
  apply ensures_byte (by omega) (by omega)
  apply ensures_byte (by omega) (by omega)
  apply ensures_byte (by omega) (by omega)
  apply ensures_pure
  apply exposes_some _ hatr.2
  simp only [NciActivationParam.views, List.mem_singleton, forall_eq]
  apply within_view (by omega) (by omega)

theorem bounded_nfcDepListen (hn : 1 ≤ n) :
  Bounded (nciParseNfcDepListenParam base n) NciActivationParam.views mem base n
    ((mem base).toNat + 1)
  := by
  apply ensures_byte (by omega) (by omega)
  apply ensures_ite _ fun _ => bounded_none _
  intro hatr
  apply ensures_bytes (by omega) (by omega)
  apply ensures_byte (by omega) (by omega)
  apply ensures_byte (by omega) (by omega)
  apply ensures_byte (by omega) (by omega)
  apply ensures_byte (by omega) (by omega)
  apply ensures_pure
  apply exposes_some _ hatr.2
  simp only [NciActivationParam.views, List.mem_singleton, forall_eq]
  apply within_view (by omega) (by omega)

/-- The number of bytes that the length byte in the parameters of an activation promises. -/
def activationParamPromised (mem : Nat → UInt8) (intf : NciRfInterface) (mode : NciMode)
    (base : Nat) : Nat :=
  match intf, mode with
  | .isoDep, .passivePollA | .isoDep, .activePollA | .isoDep, .passivePollB
  | .isoDep, .passiveListenB | .nfcDep, .activePollA | .nfcDep, .activePollF
  | .nfcDep, .passivePollA | .nfcDep, .passivePollF | .nfcDep, .activeListenA
  | .nfcDep, .activeListenF | .nfcDep, .passiveListenA | .nfcDep, .passiveListenF =>
      (mem base).toNat + 1
  | _, _ => 0

/-- The response to ATTRIB is accepted although it is longer than its area. -/
def AttribOverrun (mem : Nat → UInt8) (intf : NciRfInterface) (mode : NciMode) (base n : Nat) :
    Prop :=
  intf = .isoDep ∧ mode = .passivePollB ∧ 1 ≤ (mem base).toNat ∧ n < (mem base).toNat + 1

theorem bounded_activationParam {intf : NciRfInterface} {mode : NciMode} (hn : 1 ≤ n)
    (h : ¬ (intf = .isoDep ∧ mode = .passivePollB)) :
  Bounded (nciParseActivationParam intf mode base n) NciActivationParam.views mem base n
    (activationParamPromised mem intf mode base)
  := by
  cases intf with
  | isoDep =>
      cases mode with
      | passivePollB => simp at h
      | passivePollA => apply bounded_isoDepPollA hn
      | activePollA => apply bounded_isoDepPollA hn
      | passiveListenA => apply bounded_isoDepListenA
      | activeListenA => apply bounded_isoDepListenA
      | passiveListenB => apply bounded_isoDepListenB hn
      | _ => apply bounded_none
  | nfcDep =>
      cases mode with
      | activePollA => apply bounded_nfcDepPoll hn
      | activePollF => apply bounded_nfcDepPoll hn
      | passivePollA => apply bounded_nfcDepPoll hn
      | passivePollF => apply bounded_nfcDepPoll hn
      | activeListenA => apply bounded_nfcDepListen hn
      | activeListenF => apply bounded_nfcDepListen hn
      | passiveListenA => apply bounded_nfcDepListen hn
      | passiveListenF => apply bounded_nfcDepListen hn
      | _ => apply bounded_none
  | _ => apply bounded_none

theorem bounded_activationParam_iff (intf : NciRfInterface) (mode : NciMode) (hn : 1 ≤ n) :
  Bounded (nciParseActivationParam intf mode base n) NciActivationParam.views mem base n
      (activationParamPromised mem intf mode base)
    ↔ ¬ AttribOverrun mem intf mode base n
  := by
  by_cases h : intf = .isoDep ∧ mode = .passivePollB
  · obtain ⟨rfl, rfl⟩ := h
    simp only [AttribOverrun, true_and]
    apply bounded_isoDepPollB_iff hn
  · rw [AttribOverrun, ← and_assoc]
    simp only [h, false_and, not_false_eq_true, iff_true]
    apply bounded_activationParam hn h

/-! ### The areas in a notification -/

/-- The area of the parameters in a notification: it is not empty, and lies inside. -/
structure Area (base n pkt len : Nat) : Prop where
  pos : 1 ≤ n
  low : pkt ≤ base
  high : base + n ≤ pkt + len

variable {pkt len : Nat}

/-- The parameters of RF_DISCOVER_NTF are what is parsed in an area of the notification. -/
theorem area_discoverNtf {param : Bool} {ntf : NciDiscoveryNtf}
    (h : (nciParseDiscoverNtf param pkt len).value mem = some ntf)
    (hp : ntf.paramBytes = some base) :
  Area base ntf.paramLen pkt len
    ∧ ntf.param
      = if param then (nciParseModeParam ntf.mode base ntf.paramLen).value mem else none
  := by
  rw [nciParseDiscoverNtf] at h
  obtain ⟨hlen, h⟩ := value_guard h
  rw [value_bind, value_byte] at h
  obtain ⟨hn, h⟩ := value_guard h
  simp only [value_bind, value_pure] at h
  injection h with h
  subst h
  simp only [Option.ite_none_right_eq_some, Option.some.injEq] at hp
  obtain ⟨hne, rfl⟩ := hp
  dsimp only
  use ⟨by omega, by omega, by omega⟩
  cases param with
  | true => rw [if_pos ⟨hne, rfl⟩, if_pos rfl]
  | false => simp

/-- The parameters of RF_INTF_ACTIVATED_NTF are what is parsed in two areas of the
notification. -/
theorem area_intfActivatedNtf {ntf : NciIntfActivationNtf}
    (h : (nciParseIntfActivatedNtf pkt len).value mem = some ntf) :
  (∀ base, ntf.modeParamBytes = some base → Area base ntf.modeParamLen pkt len
      ∧ ntf.modeParam = (nciParseModeParam ntf.mode base ntf.modeParamLen).value mem)
    ∧ ∀ base, ntf.activationParamBytes = some base → Area base ntf.activationParamLen pkt len
      ∧ ntf.activationParam
        = (nciParseActivationParam ntf.rfIntf ntf.mode base ntf.activationParamLen).value mem
  := by
  rw [nciParseIntfActivatedNtf] at h
  obtain ⟨hlen, h⟩ := value_guard h
  rw [value_bind, value_byte, value_bind] at h
  obtain ⟨hm, h⟩ := value_guard h
  simp only [value_bind, value_pure] at h
  injection h with h
  subst h
  constructor
  · intro base hbase
    simp only [Option.ite_none_right_eq_some, Option.some.injEq] at hbase
    obtain ⟨hne, rfl⟩ := hbase
    dsimp only
    use ⟨by omega, by omega, by omega⟩
    rw [if_pos hne]
  · intro base hbase
    simp only [Option.ite_none_right_eq_some, Option.some.injEq] at hbase
    obtain ⟨hne, rfl⟩ := hbase
    dsimp only
    use ⟨by omega, by omega, by omega⟩
    rw [if_pos hne]

/-! ### All notifications -/

/-- The parameters of a mode in RF_DISCOVER_NTF and RF_INTF_ACTIVATED_NTF are those that are
parsed in an area of the notification, and the parser stays in the area, unless they are those
of NFC-B poll mode and are longer than the area. -/
theorem modeParamBounds (mem : Nat → UInt8) :
  (∀ (param : Bool) (pkt len : Nat) (ntf : NciDiscoveryNtf) (base : Nat),
      (nciParseDiscoverNtf param pkt len).value mem = some ntf → ntf.paramBytes = some base →
      Area base ntf.paramLen pkt len
        ∧ ntf.param
          = if param then (nciParseModeParam ntf.mode base ntf.paramLen).value mem else none)
    ∧ (∀ (pkt len : Nat) (ntf : NciIntfActivationNtf) (base : Nat),
      (nciParseIntfActivatedNtf pkt len).value mem = some ntf → ntf.modeParamBytes = some base →
      Area base ntf.modeParamLen pkt len
        ∧ ntf.modeParam = (nciParseModeParam ntf.mode base ntf.modeParamLen).value mem)
    ∧ ∀ (mode : NciMode) (base n : Nat), 1 ≤ n →
      (Bounded (nciParseModeParam mode base n) NciModeParam.views mem base n
          (modeParamPromised mem mode base)
        ↔ ¬ PollBOverrun mem mode base n)
  := by
  constructor
  · intro param pkt len ntf base h hp
    apply area_discoverNtf h hp
  constructor
  · intro pkt len ntf base h hp
    apply (area_intfActivatedNtf h).1 base hp
  · intro mode base n hn
    apply bounded_modeParam_iff mode hn

/-- The parameters of NFC-A poll mode in a notification. -/
theorem modeParamBounds_pollA :
  Bounded (nciParseModeParam .passivePollA 4 9) NciModeParam.views
    (memory [1, 2, 0, 9, 0x44, 0, 4, 1, 2, 3, 4, 1, 0x20, 0]) 4 9 9
  := by
  apply ((modeParamBounds (memory [1, 2, 0, 9, 0x44, 0, 4, 1, 2, 3, 4, 1, 0x20, 0])).2.2
    .passivePollA 4 9 (by decide)).mpr
  rintro ⟨hmode, -⟩
  cases hmode

/-- An area of one byte that promises eleven bytes more is accepted: the byte ten bytes further
is read, and the protocol info is to be found where the notification has ended. -/
theorem modeParamBounds_pollB :
  ∃ ntf, (nciParseDiscoverNtf true 0 6).value (memory [1, 4, 1, 1, 11, 0]) = some ntf
    ∧ ntf.mode = .passivePollB ∧ ntf.paramBytes = some 4 ∧ ntf.paramLen = 1
    ∧ (∃ p, ntf.param = some (.pollB p) ∧ p.protInfo = ⟨some 13, 3⟩)
    ∧ 14 ∈ (nciParseDiscoverNtf true 0 6).offsets (memory [1, 4, 1, 1, 11, 0])
    ∧ ¬ Bounded (nciParseModeParam .passivePollB 4 1) NciModeParam.views
      (memory [1, 4, 1, 1, 11, 0]) 4 1
        (modeParamPromised (memory [1, 4, 1, 1, 11, 0]) .passivePollB 4)
  := by
  refine ⟨_, rfl, rfl, rfl, rfl, ⟨_, rfl, rfl⟩, by decide, ?_⟩
  intro h
  have hnone := h.value.rejects (by decide)
  cases hnone

/-- The parameters of an activation in RF_INTF_ACTIVATED_NTF are those that are parsed in an
area of the notification, and the parser stays in the area, unless they are those of
NFC-B/ISO-DEP poll mode and are longer than the area. -/
theorem activationParamBounds (mem : Nat → UInt8) :
  (∀ (pkt len : Nat) (ntf : NciIntfActivationNtf) (base : Nat),
      (nciParseIntfActivatedNtf pkt len).value mem = some ntf →
      ntf.activationParamBytes = some base →
      Area base ntf.activationParamLen pkt len
        ∧ ntf.activationParam
          = (nciParseActivationParam ntf.rfIntf ntf.mode base ntf.activationParamLen).value mem)
    ∧ ∀ (intf : NciRfInterface) (mode : NciMode) (base n : Nat), 1 ≤ n →
      (Bounded (nciParseActivationParam intf mode base n) NciActivationParam.views mem base n
          (activationParamPromised mem intf mode base)
        ↔ ¬ AttribOverrun mem intf mode base n)
  := by
  constructor
  · intro pkt len ntf base h hp
    apply (area_intfActivatedNtf h).2 base hp
  · intro intf mode base n hn
    apply bounded_activationParam_iff intf mode hn

/-- The parameters of an activation in NFC-A/ISO-DEP poll mode. -/
theorem activationParamBounds_pollA :
  Bounded (nciParseActivationParam .isoDep .passivePollA 11 5) NciActivationParam.views
    (memory [1, 2, 4, 0, 0xff, 1, 0, 0, 0, 0, 5, 4, 0x78, 0x80, 0x70, 2]) 11 5 5
  := by
  apply ((activationParamBounds
    (memory [1, 2, 4, 0, 0xff, 1, 0, 0, 0, 0, 5, 4, 0x78, 0x80, 0x70, 2])).2
    .isoDep .passivePollA 11 5 (by decide)).mpr
  rintro ⟨-, hmode, -⟩
  cases hmode

/-- An area of one byte that promises five bytes more is accepted: the byte that follows the
notification is read, and the higher layer response is to be found after it. -/
theorem activationParamBounds_pollB :
  ∃ ntf, (nciParseIntfActivatedNtf 0 12).value
      (memory [1, 2, 4, 1, 0xff, 1, 0, 1, 0, 0, 1, 5]) = some ntf
    ∧ ntf.rfIntf = .isoDep ∧ ntf.mode = .passivePollB ∧ ntf.activationParamBytes = some 11
    ∧ ntf.activationParamLen = 1
    ∧ (∃ p, ntf.activationParam = some (.isoDepPollB p) ∧ p.hlr = ⟨some 13, 4⟩)
    ∧ 12 ∈ (nciParseIntfActivatedNtf 0 12).offsets
      (memory [1, 2, 4, 1, 0xff, 1, 0, 1, 0, 0, 1, 5])
    ∧ ¬ Bounded (nciParseActivationParam .isoDep .passivePollB 11 1) NciActivationParam.views
      (memory [1, 2, 4, 1, 0xff, 1, 0, 1, 0, 0, 1, 5]) 11 1
      (activationParamPromised (memory [1, 2, 4, 1, 0xff, 1, 0, 1, 0, 0, 1, 5]) .isoDep
        .passivePollB 11)
  := by
  refine ⟨_, rfl, rfl, rfl, rfl, rfl, ⟨_, rfl, rfl⟩, by decide, ?_⟩
  intro h
  have hnone := h.value.rejects (by decide)
  cases hnone

end Nci
