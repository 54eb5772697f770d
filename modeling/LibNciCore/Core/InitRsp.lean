import LibNciCore.Core.Failing
import LibNciCore.Sar.Kept
import LibNciCore.Util.Lookup

/-!
# CORE_INIT_RSP

How the response is read that tells the features of the controller. In version 2 its last part
consists of records of different sizes, the number of which is known, but which may be too long for
the packet. Nothing outside of the packet is read, and a response that is not accepted changes
nothing that is known about the controller.
-/

namespace Nci

open Reads

/-! ### Reading a packet -/

/-- Reads CORE_INIT_RSP of version 1. -/
def readInitV1Rsp (pkt len : Nat) : Reads (Option CoreInitRsp) :=
  if 17 ≤ len then do
    let status ← byte pkt
    if status = nciStatusOk then do
      let count ← byte (pkt + 5)
      let n := count.toNat
      if len = n + 17 then do
        let maxLogicalConns ← byte (pkt + (6 + n))
        let maxControlPayload ← byte (pkt + (9 + n))
        let rfInterfaces ← bytes (pkt + 6) n
        let nfccDiscovery ← byte (pkt + 1)
        let nfccRouting ← byte (pkt + 2)
        let nfccPower ← byte (pkt + 3)
        let high ← byte (pkt + (8 + n))
        let low ← byte (pkt + (7 + n))
        pure (some
          { rfInterfaces := if 0 < n then some rfInterfaces else none
            nfccDiscovery := nfccDiscovery
            nfccRouting := nfccRouting
            nfccPower := nfccPower
            maxRoutingTableSize := high.toNat * 256 + low.toNat
            maxLogicalConns := maxLogicalConns
            maxControlPayload := maxControlPayload })
      else pure none
    else pure none
  else pure none

/-- Reads at most `n` interfaces with their extensions. The number of extensions is read once more
on the way to the next interface. -/
def readRfInterfaces : Nat → Nat → Nat → Reads (List UInt8)
  | n + 1, ptr, stop =>
      if ptr + 1 < stop then do
        let extensions ← byte (ptr + 1)
        if ptr + 2 + extensions.toNat ≤ stop then do
          let interface ← byte ptr
          let extensions ← byte (ptr + 1)
          let interfaces ← readRfInterfaces n (ptr + (2 + extensions.toNat)) stop
          pure (interface :: interfaces)
        else pure []
      else pure []
  | 0, _, _ => pure []

/-- Reads CORE_INIT_RSP of version 2. -/
def readInitV2Rsp (pkt len : Nat) : Reads (Option CoreInitRsp) :=
  if 14 ≤ len then do
    let status ← byte pkt
    if status = nciStatusOk then do
      let count ← byte (pkt + 13)
      let n := count.toNat
      if 2 * n + 14 ≤ len then do
        let maxLogicalConns ← byte (pkt + 5)
        let maxControlPayload ← byte (pkt + 8)
        let rfInterfaces ← readRfInterfaces n (pkt + 14) (pkt + len)
        let nfccDiscovery ← byte (pkt + 1)
        let nfccRouting ← byte (pkt + 2)
        let nfccPower ← byte (pkt + 3)
        let high ← byte (pkt + 7)
        let low ← byte (pkt + 6)
        pure (some
          { rfInterfaces := if 0 < n then some rfInterfaces else none
            nfccDiscovery := nfccDiscovery
            nfccRouting := nfccRouting
            nfccPower := nfccPower
            maxRoutingTableSize := high.toNat * 256 + low.toNat
            maxLogicalConns := maxLogicalConns
            maxControlPayload := maxControlPayload })
      else pure none
    else pure none
  else pure none

section

variable {mem : Nat → UInt8} {base : Nat} {pkt : List UInt8}

theorem HeldAt.getD (h : HeldAt mem base pkt) {i : Nat} (hi : i < pkt.length) :
  mem (base + i) = pkt.getD i 0
  := by
  rw [h i hi, List.getD_eq_getElem?_getD, List.getElem?_eq_getElem hi, Option.getD_some]

/-- A part of what is found. -/
theorem HeldAt.drop (h : HeldAt mem base pkt) {i : Nat} (hi : i ≤ pkt.length) :
  HeldAt mem (base + i) (pkt.drop i)
  := by
  rw [← List.take_append_drop i pkt] at h
  have hdrop := (heldAt_append.mp h).2
  rw [List.length_take_of_le hi] at hdrop
  exact hdrop

/-- The bytes that are read. -/
theorem HeldAt.value_bytes_part (h : HeldAt mem base pkt) {i n : Nat} (hi : i + n ≤ pkt.length) :
  (Reads.bytes (base + i) n).value mem = (pkt.drop i).take n
  := by
  have hlength : ((pkt.drop i).take n).length = n := by
    apply List.length_take_of_le
    rw [List.length_drop]
    omega
  have hpart : HeldAt mem (base + i) ((pkt.drop i).take n) := by
    have hdrop := h.drop (show i ≤ pkt.length by omega)
    rw [← List.take_append_drop n (pkt.drop i)] at hdrop
    exact (heldAt_append.mp hdrop).1
  have hvalue := hpart.value_bytes
  rw [hlength] at hvalue
  exact hvalue

/-- The interfaces are read from within the packet. -/
theorem ensures_readRfInterfaces (h : HeldAt mem base pkt) (n : Nat) :
  (readRfInterfaces n base (base + pkt.length)).Ensures mem base pkt.length
    (· = parseRfInterfaces n pkt)
  := by
  induction n generalizing base pkt with
  | zero => exact ensures_pure rfl
  | succ n ih =>
      rw [readRfInterfaces]
      match pkt with
      | [] =>
          rw [if_neg (by simp)]
          exact ensures_pure rfl
      | [_] =>
          rw [if_neg (by simp)]
          exact ensures_pure rfl
      | interface :: extensions :: rest =>
          obtain ⟨hinterface, hheld⟩ := heldAt_cons.mp h
          obtain ⟨hextensions, hheld⟩ := heldAt_cons.mp hheld
          have hlength : (interface :: extensions :: rest).length = rest.length + 2 := rfl
          rw [if_pos (by rw [hlength]; omega)]
          apply ensures_byte (Nat.le_add_right _ _) (by rw [hlength]; omega)
          rw [hextensions, parseRfInterfaces]
          by_cases hfits : extensions.toNat ≤ rest.length
          · rw [if_pos (by rw [hlength]; omega), if_pos hfits]
            apply ensures_byte (Nat.le_refl _) (by rw [hlength]; omega)
            apply ensures_byte (Nat.le_add_right _ _) (by rw [hlength]; omega)
            rw [hinterface, hextensions]
            have hrest : HeldAt mem (base + (2 + extensions.toNat))
                (rest.drop extensions.toNat) := by
              have hdrop := hheld.drop hfits
              rw [Nat.add_assoc, Nat.add_assoc, ← Nat.add_assoc 1 1] at hdrop
              exact hdrop
            have hstop : base + (interface :: extensions :: rest).length
                = base + (2 + extensions.toNat) + (rest.drop extensions.toNat).length := by
              rw [hlength, List.length_drop]
              omega
            have hih := ih hrest
            rw [hstop]
            apply ensures_bind
            · apply hih.within.mono (Nat.le_add_right _ _) (by omega)
            · rw [hih.value]
              exact ensures_pure rfl
          · rw [if_neg (by rw [hlength]; omega), if_neg hfits]
            exact ensures_pure rfl

/-- CORE_INIT_RSP of version 2 is read from within the packet. -/
theorem ensures_readInitV2Rsp (h : HeldAt mem base pkt) :
  (readInitV2Rsp base pkt.length).Ensures mem base pkt.length (· = parseInitV2Rsp pkt)
  := by
  rw [readInitV2Rsp, parseInitV2Rsp]
  by_cases hlen : 14 ≤ pkt.length
  · have hbyte : ∀ {i : Nat}, i < 14 → mem (base + i) = pkt.getD i 0 :=
      fun hi => h.getD (Nat.lt_of_lt_of_le hi hlen)
    have hstatus : mem base = pkt.getD 0 0 := hbyte (i := 0) (by decide)
    rw [if_pos hlen]
    apply ensures_byte (Nat.le_refl _) (by omega)
    rw [hstatus]
    by_cases hok : pkt.getD 0 0 = nciStatusOk
    · rw [if_pos hok]
      apply ensures_byte (by omega) (by omega)
      rw [hbyte (by decide)]
      dsimp only
      by_cases hcount : 2 * (pkt.getD 13 0).toNat + 14 ≤ pkt.length
      · rw [if_pos hcount, if_pos ⟨hlen, hok, hcount⟩]
        apply ensures_byte (by omega) (by omega)
        apply ensures_byte (by omega) (by omega)
        have hrf := ensures_readRfInterfaces (h.drop hlen) (pkt.getD 13 0).toNat
        have hstop : base + 14 + (pkt.drop 14).length = base + pkt.length := by
          rw [List.length_drop]
          omega
        rw [hstop] at hrf
        apply ensures_bind
        · apply hrf.within.mono (by omega) (by omega)
        · rw [hrf.value]
          apply ensures_byte (by omega) (by omega)
          apply ensures_byte (by omega) (by omega)
          apply ensures_byte (by omega) (by omega)
          apply ensures_byte (by omega) (by omega)
          apply ensures_byte (by omega) (by omega)
          apply ensures_pure
          rw [hbyte (i := 1) (by decide), hbyte (i := 2) (by decide), hbyte (i := 3) (by decide),
            hbyte (i := 5) (by decide), hbyte (i := 6) (by decide), hbyte (i := 7) (by decide),
            hbyte (i := 8) (by decide)]
      · rw [if_neg hcount, if_neg fun h => hcount h.2.2]
        exact ensures_pure rfl
    · rw [if_neg hok, if_neg fun h => hok h.2.1]
      exact ensures_pure rfl
  · rw [if_neg hlen, if_neg fun h => hlen h.1]
    exact ensures_pure rfl

/-- CORE_INIT_RSP of version 1 is read from within the packet. -/
theorem ensures_readInitV1Rsp (h : HeldAt mem base pkt) :
  (readInitV1Rsp base pkt.length).Ensures mem base pkt.length (· = parseInitV1Rsp pkt)
  := by
  rw [readInitV1Rsp, parseInitV1Rsp]
  by_cases hlen : 17 ≤ pkt.length
  · have hbyte : ∀ {i : Nat}, i < pkt.length → mem (base + i) = pkt.getD i 0 := fun hi => h.getD hi
    have hstatus : mem base = pkt.getD 0 0 := hbyte (i := 0) (by omega)
    rw [if_pos hlen]
    apply ensures_byte (Nat.le_refl _) (by omega)
    rw [hstatus]
    by_cases hok : pkt.getD 0 0 = nciStatusOk
    · rw [if_pos hok]
      apply ensures_byte (by omega) (by omega)
      rw [hbyte (i := 5) (by omega)]
      dsimp only
      by_cases hcount : pkt.length = (pkt.getD 5 0).toNat + 17
      · rw [if_pos hcount, if_pos ⟨hlen, hok, hcount⟩]
        apply ensures_byte (by omega) (by omega)
        apply ensures_byte (by omega) (by omega)
        apply ensures_bytes (by omega) (by omega)
        apply ensures_byte (by omega) (by omega)
        apply ensures_byte (by omega) (by omega)
        apply ensures_byte (by omega) (by omega)
        apply ensures_byte (by omega) (by omega)
        apply ensures_byte (by omega) (by omega)
        apply ensures_pure
        rw [h.value_bytes_part (by omega), hbyte (i := 1) (by omega), hbyte (i := 2) (by omega),
          hbyte (i := 3) (by omega), hbyte (i := 6 + (pkt.getD 5 0).toNat) (by omega),
          hbyte (i := 7 + (pkt.getD 5 0).toNat) (by omega),
          hbyte (i := 8 + (pkt.getD 5 0).toNat) (by omega),
          hbyte (i := 9 + (pkt.getD 5 0).toNat) (by omega)]
      · rw [if_neg hcount, if_neg fun h => hcount h.2.2]
        exact ensures_pure rfl
    · rw [if_neg hok, if_neg fun h => hok h.2.1]
      exact ensures_pure rfl
  · rw [if_neg hlen, if_neg fun h => hlen h.1]
    exact ensures_pure rfl

end

/-! ### What is told -/

/-- A record: the number of an interface, and its extensions with their number. -/
abbrev RfInterfaceRecord : Type := ConfigTlv

/-- The records are the ones that fit: they come first among the bytes, there are at most `n` of
them, and if there are fewer, then none fits behind them. -/
structure FittingRecords (n : Nat) (bytes : List UInt8)
    (records : List RfInterfaceRecord) : Prop where
  length_le : records.length ≤ n
  rest : ∃ rest, bytes = Tlv.encodeAll records ++ rest
    ∧ (records.length = n ∨ ∀ (record : RfInterfaceRecord) rest', rest ≠ record.encode ++ rest')

theorem fittingRecords_scan (n : Nat) (bytes : List UInt8) :
  FittingRecords n bytes (Tlv.scan n bytes)
  := by
  constructor
  · apply Tlv.length_scan_le
  · obtain ⟨rest, hrest, hstop⟩ := @Tlv.scan_spec UInt8 UInt8.toNat n bytes
    refine ⟨rest, hrest, hstop.imp_right ?_⟩
    intro hnone record rest' heq
    rw [heq, Tlv.first_encode] at hnone
    cases hnone

/-- The interfaces are those of the records that fit. -/
theorem parseRfInterfaces_eq (n : Nat) (bytes : List UInt8) :
  parseRfInterfaces n bytes = (Tlv.scan n bytes : List RfInterfaceRecord).map Tlv.type
  := by
  induction n generalizing bytes with
  | zero => rfl
  | succ n ih =>
      match bytes with
      | [] => rfl
      | [_] => rfl
      | interface :: extensions :: rest =>
          rw [parseRfInterfaces, Tlv.scan, Tlv.first]
          by_cases hfits : extensions.toNat ≤ rest.length
          · rw [if_pos hfits, dif_pos hfits, ih]
            rfl
          · rw [if_neg hfits, dif_neg hfits]
            rfl

/-- What CORE_INIT_RSP of version 1 tells is where it should be. -/
structure CoreInitRsp.TellsV1 (pkt : List UInt8) (rsp : CoreInitRsp) : Prop where
  rfInterfaces : rsp.rfInterfaces
    = if pkt.getD 5 0 = 0 then none else some ((pkt.drop 6).take (pkt.getD 5 0).toNat)
  nfccDiscovery : rsp.nfccDiscovery = pkt.getD 1 0
  nfccRouting : rsp.nfccRouting = pkt.getD 2 0
  nfccPower : rsp.nfccPower = pkt.getD 3 0
  maxLogicalConns : rsp.maxLogicalConns = pkt.getD (6 + (pkt.getD 5 0).toNat) 0
  maxRoutingTableSize : rsp.maxRoutingTableSize
    = (pkt.getD (7 + (pkt.getD 5 0).toNat) 0).toNat
      + 256 * (pkt.getD (8 + (pkt.getD 5 0).toNat) 0).toNat
  maxControlPayload : rsp.maxControlPayload = pkt.getD (9 + (pkt.getD 5 0).toNat) 0

/-- What CORE_INIT_RSP of version 2 tells is where it should be, and its interfaces are those of the
records that fit. -/
structure CoreInitRsp.TellsV2 (pkt : List UInt8) (rsp : CoreInitRsp) : Prop where
  rfInterfaces : ∃ records, FittingRecords (pkt.getD 13 0).toNat (pkt.drop 14) records
    ∧ rsp.rfInterfaces = if pkt.getD 13 0 = 0 then none else some (records.map Tlv.type)
  nfccDiscovery : rsp.nfccDiscovery = pkt.getD 1 0
  nfccRouting : rsp.nfccRouting = pkt.getD 2 0
  nfccPower : rsp.nfccPower = pkt.getD 3 0
  maxLogicalConns : rsp.maxLogicalConns = pkt.getD 5 0
  maxRoutingTableSize : rsp.maxRoutingTableSize
    = (pkt.getD 6 0).toNat + 256 * (pkt.getD 7 0).toNat
  maxControlPayload : rsp.maxControlPayload = pkt.getD 8 0

theorem isSome_parseInitV1Rsp_iff (pkt : List UInt8) :
  (parseInitV1Rsp pkt).isSome = true
    ↔ pkt.getD 0 0 = nciStatusOk ∧ pkt.length = (pkt.getD 5 0).toNat + 17
  := by
  rw [parseInitV1Rsp]
  split
  · rename_i h
    exact ⟨fun _ => h.2, fun _ => rfl⟩
  · rename_i h
    exact ⟨fun h' => absurd h' Bool.false_ne_true, fun h' => absurd ⟨by omega, h'⟩ h⟩

theorem isSome_parseInitV2Rsp_iff (pkt : List UInt8) :
  (parseInitV2Rsp pkt).isSome = true
    ↔ pkt.getD 0 0 = nciStatusOk ∧ 14 ≤ pkt.length ∧ 14 + 2 * (pkt.getD 13 0).toNat ≤ pkt.length
  := by
  rw [parseInitV2Rsp]
  split
  · rename_i h
    exact ⟨fun _ => ⟨h.2.1, h.1, by omega⟩, fun _ => rfl⟩
  · rename_i h
    exact ⟨fun h' => absurd h' Bool.false_ne_true, fun h' => absurd ⟨h'.2.1, h'.1, by omega⟩ h⟩

/-- The number is not zero. -/
theorem ite_toNat_pos {α : Type} (n : UInt8) (a b : α) :
  (if 0 < n.toNat then a else b) = if n = 0 then b else a
  := by
  by_cases h : n = 0
  · rw [if_pos h, h]
    rfl
  · rw [if_neg h, if_pos]
    apply Nat.pos_of_ne_zero
    intro h'
    apply h
    apply UInt8.toNat_inj.mp h'

theorem tells_parseInitV1Rsp {pkt : List UInt8} {rsp : CoreInitRsp}
    (h : parseInitV1Rsp pkt = some rsp) :
  rsp.TellsV1 pkt
  := by
  rw [parseInitV1Rsp] at h
  split at h
  · obtain rfl := Option.some.inj h
    refine ⟨?_, rfl, rfl, rfl, rfl, ?_, rfl⟩
    · apply ite_toNat_pos
    · rw [Nat.add_comm, Nat.mul_comm]
  · cases h

theorem tells_parseInitV2Rsp {pkt : List UInt8} {rsp : CoreInitRsp}
    (h : parseInitV2Rsp pkt = some rsp) :
  rsp.TellsV2 pkt
  := by
  rw [parseInitV2Rsp] at h
  split at h
  · obtain rfl := Option.some.inj h
    refine ⟨⟨_, fittingRecords_scan _ _, ?_⟩, rfl, rfl, rfl, rfl, ?_, rfl⟩
    · rw [← parseRfInterfaces_eq]
      apply ite_toNat_pos
    · rw [Nat.add_comm, Nat.mul_comm]
  · cases h

/-! ### What is done about it -/

/-- What the machine knows and the limits of the layer below are those of the response. -/
structure SmWorld.Accepts (w w' : SmWorld (CoreWorld SystemIo)) (rsp : CoreInitRsp) : Prop where
  capabilities : w'.sm.capabilities = rsp.capabilities w.sm.version
  limits : w'.io.sar.limits = rsp.limits

theorem SystemApp.Silent.accepts {A : SystemApp} {n : Nat} (h : A.Silent) (rsp : CoreInitRsp)
    (w : SmWorld (CoreWorld SystemIo)) :
  w.Accepts (nciTransitionResetInitialized (A.smIo n) rsp w) rsp
  := by
  have hquiet : SarEnv.Quietly
      ({ SarEnv.idle with destroy := A.destroyed (A.perform n) } : SarEnv (CoreEnv SystemState))
      (fun _ => True)
      (fun env => env.io.sm.capabilities = rsp.capabilities w.sm.version) := by
    refine ⟨⟨fun _ _ h => h, fun _ _ h => h, ?_⟩, fun _ _ h => h, fun _ _ _ _ h => h⟩
    intro f w' hw'
    cases f with
    | zero => exact hw'
    | succ f =>
        change (A.callback (A.perform n) (.destroy f) w').env.io.sm.capabilities = _
        rw [h.callback]
        exact hw'
  let told : SmWorld (CoreWorld SystemIo) := w.map fun self =>
    { self with
      rfInterfaces := rsp.rfInterfaces
      nfccDiscovery := rsp.nfccDiscovery
      nfccRouting := rsp.nfccRouting
      nfccPower := rsp.nfccPower
      maxRoutingTableSize := rsp.maxRoutingTableSize }
  let w₁ : System := nciSarSetMaxLogicalConnections
    { SarEnv.idle with destroy := A.destroyed (A.perform n) } A.fuel rsp.maxLogicalConns
    told.toSystem
  have hcapabilities : w₁.env.io.sm.capabilities = rsp.capabilities w.sm.version :=
    hquiet.setMaxLogicalConnections A.fuel rsp.maxLogicalConns (w := told.toSystem) rfl
  have hconns : w₁.sar.maxLogicalConns = newMaxLogicalConns rsp.maxLogicalConns :=
    limits_setMaxLogicalConnections _ A.fuel rsp.maxLogicalConns told.toSystem
  let io : CoreWorld SystemIo := (w₁.toSm.io.map fun sar =>
    nciSarSetMaxControlPayloadSize sar rsp.maxControlPayload).map fun sar =>
      nciSarSetMaxDataPayloadSize sar 0
  have hresult : nciTransitionResetInitialized (A.smIo n) rsp w
      = ⟨w₁.env.io.sm, (nciCoreIoSend SarEnv.idle NciCoreClient.idle nciGidCore nciOidCoreSetConfig
          (some (nciTransitionResetSetConfigCmd w₁.env.io.sm))
          (some NciSmResponseFunc.resetSetConfigRsp.place) .null io).2⟩ := rfl
  obtain ⟨hterms, -⟩ := nciCoreIoSend_idle io nciGidCore nciOidCoreSetConfig
    (some (nciTransitionResetSetConfigCmd w₁.env.io.sm))
    (some NciSmResponseFunc.resetSetConfigRsp.place) .null
  rw [hresult]
  constructor
  · exact hcapabilities
  · rw [NciSar.limits]
    dsimp only
    rw [hterms.maxLogicalConns, hterms.controlPayloadLimit]
    change (⟨w₁.sar.maxLogicalConns, _⟩ : SarLimits) = rsp.limits
    rw [hconns]
    rfl

/-- What is done about a response is what is done about the one that has been parsed. -/
structure HandlesInitRsp (A : SystemApp) (n : Nat) (parse : List UInt8 → Option CoreInitRsp)
    (handle : List UInt8 → SmWorld (CoreWorld SystemIo) → SmWorld (CoreWorld SystemIo)) : Prop where
  accepted : ∀ pkt rsp w, w.sm.activeTransition = some .reset → parse pkt = some rsp →
    handle pkt w = nciTransitionResetInitialized (A.smIo n) rsp w
      ∧ (A.Silent → w.Accepts (handle pkt w) rsp)
  rejected : ∀ pkt w, w.sm.activeTransition = some .reset → parse pkt = none →
    ∃ w', handle pkt w = nciSmEmitPendingSignals (A.smIo n) w' ∧ w.Fails w'
      ∧ (A.Silent → w.Fails (handle pkt w))

theorem handles_nciTransitionRsp (A : SystemApp) (n : Nat)
    (parse : List UInt8 → Option CoreInitRsp) :
  HandlesInitRsp A n parse fun pkt w => nciTransitionRsp (A.smIo n) .reset
    (nciTransitionResetInitRsp (A.smIo n) (parse pkt)) .success w
  := by
  have hreceived : ∀ pkt (w : SmWorld (CoreWorld SystemIo)),
      w.sm.activeTransition = some .reset →
      nciTransitionRsp (A.smIo n) .reset (nciTransitionResetInitRsp (A.smIo n) (parse pkt))
        .success w
        = nciTransitionResetInitRsp (A.smIo n) (parse pkt) w := by
    intro pkt w hactive
    rw [nciTransitionRsp, if_neg (by rw [hactive]; simp), if_neg (by simp)]
  constructor
  · intro pkt rsp w hactive hparse
    rw [hreceived pkt w hactive, hparse]
    exact ⟨rfl, fun hsilent => hsilent.accepts rsp w⟩
  · intro pkt w hactive hparse
    obtain ⟨w', heq, hfails⟩ := nciSmError_fails A n w
    rw [hreceived pkt w hactive, hparse]
    refine ⟨w', heq, hfails, fun hsilent => ?_⟩
    change w.Fails (nciSmError (A.smIo n) w)
    rw [heq]
    exact hsilent.fails hfails

/-- CORE_INIT_RSP is read from within the packet. In version 2 it is accepted if it is successful
and long enough for its interfaces, as far as their number tells, and then its interfaces are those
of the records that fit. In version 1 it is accepted if it is successful and has exactly the length
that its number of interfaces tells. All the rest is where it should be. What is rejected leaves
what is known about the controller and the limits of the layer below as they are, and the machine
stalls. -/
theorem initRspRead (A : SystemApp) (n : Nat) :
  (∀ mem base pkt, HeldAt mem base pkt →
      (readInitV2Rsp base pkt.length).Ensures mem base pkt.length (· = parseInitV2Rsp pkt)
        ∧ (readInitV1Rsp base pkt.length).Ensures mem base pkt.length (· = parseInitV1Rsp pkt))
    ∧ (∀ pkt, (parseInitV2Rsp pkt).isSome = true
      ↔ pkt.getD 0 0 = nciStatusOk ∧ 14 ≤ pkt.length ∧ 14 + 2 * (pkt.getD 13 0).toNat ≤ pkt.length)
    ∧ (∀ pkt rsp, parseInitV2Rsp pkt = some rsp → rsp.TellsV2 pkt)
    ∧ (∀ pkt, (parseInitV1Rsp pkt).isSome = true
      ↔ pkt.getD 0 0 = nciStatusOk ∧ pkt.length = (pkt.getD 5 0).toNat + 17)
    ∧ (∀ pkt rsp, parseInitV1Rsp pkt = some rsp → rsp.TellsV1 pkt)
    ∧ HandlesInitRsp A n parseInitV2Rsp (nciTransitionResetInitV2Rsp (A.smIo n) .success)
    ∧ HandlesInitRsp A n parseInitV1Rsp (nciTransitionResetInitV1Rsp (A.smIo n) .success)
  := by
  refine ⟨?_, isSome_parseInitV2Rsp_iff, ?_, isSome_parseInitV1Rsp_iff, ?_, ?_, ?_⟩
  · intro mem base pkt h
    exact ⟨ensures_readInitV2Rsp h, ensures_readInitV1Rsp h⟩
  · intro pkt rsp h
    exact tells_parseInitV2Rsp h
  · intro pkt rsp h
    exact tells_parseInitV1Rsp h
  · exact handles_nciTransitionRsp A n parseInitV2Rsp
  · exact handles_nciTransitionRsp A n parseInitV1Rsp

/-- A controller with one interface, a response that is too short, and a machine that is being
reset. -/
theorem initRspRead_oneInterface :
  (readInitV2Rsp 0 16).Within
      (memory [0, 1, 2, 3, 4, 1, 0, 1, 255, 0, 0, 0, 0, 1, 2, 0]) 0 16
    ∧ CoreInitRsp.TellsV2 [0, 1, 2, 3, 4, 1, 0, 1, 255, 0, 0, 0, 0, 1, 2, 0]
      ⟨some [2], 1, 2, 3, 256, 1, 255⟩
    ∧ CoreInitRsp.TellsV1 [0, 1, 2, 3, 4, 1, 2, 1, 0, 1, 255, 0, 0, 0, 0, 0, 0, 0]
      ⟨some [2], 1, 2, 3, 256, 1, 255⟩
    ∧ SmWorld.Accepts
        (SystemApp.quiet.run 0 (nciCoreNew nciSmObjectNew) [.request (.setState .idle)]).toSm
        (nciTransitionResetInitV2Rsp (SystemApp.quiet.smIo 0) .success
          [0, 1, 2, 3, 4, 1, 0, 1, 255, 0, 0, 0, 0, 1, 2, 0]
          (SystemApp.quiet.run 0 (nciCoreNew nciSmObjectNew) [.request (.setState .idle)]).toSm)
        ⟨some [2], 1, 2, 3, 256, 1, 255⟩
    ∧ SmWorld.Fails
        (SystemApp.quiet.run 0 (nciCoreNew nciSmObjectNew) [.request (.setState .idle)]).toSm
        (nciTransitionResetInitV1Rsp (SystemApp.quiet.smIo 0) .success [0]
          (SystemApp.quiet.run 0 (nciCoreNew nciSmObjectNew) [.request (.setState .idle)]).toSm)
  := by
  obtain ⟨hread, -, htells2, -, htells1, hhandles2, hhandles1⟩ := initRspRead SystemApp.quiet 0
  refine ⟨?_, ?_, ?_, ?_, ?_⟩
  · exact (hread _ 0 _ (heldAt_memory [] [0, 1, 2, 3, 4, 1, 0, 1, 255, 0, 0, 0, 0, 1, 2, 0]
      [])).1.within
  · apply htells2
    decide
  · apply htells1
    decide
  · apply (hhandles2.accepted _ _ _ rfl _).2
    · intro _
      rfl
    · decide
  · obtain ⟨_, -, -, hsilent⟩ := hhandles1.rejected [0]
      (SystemApp.quiet.run 0 (nciCoreNew nciSmObjectNew) [.request (.setState .idle)]).toSm rfl
      (by decide)
    exact hsilent fun _ => rfl

end Nci
