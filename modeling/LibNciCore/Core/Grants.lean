import Mathlib.Algebra.GroupWithZero.Nat
import LibNciCore.Core.Failing

/-!
# Notifications of credits

CORE_CONN_CREDITS_NTF grants credits to connections. Each connection ends up with the credits it had
and all that it is granted, and its balance is unlimited if that is too much to be counted. A
notification that is too short grants nothing.
-/

namespace Nci

/-! ### Entries -/

/-- The first entries of a notification: identifiers of connections, and credits. -/
def creditEntries : Nat → List UInt8 → List (UInt8 × UInt8)
  | n + 1, cid :: credits :: entries => (cid, credits) :: creditEntries n entries
  | _, _ => []

/-- What the entries grant to a connection. -/
def granted (entries : List (UInt8 × UInt8)) (cid : Nat) : Nat :=
  ((entries.filter fun e => e.1.toNat == cid).map fun e => e.2.toNat).sum

@[simp]
theorem granted_nil (cid : Nat) :
  granted [] cid = 0
  := rfl

@[simp]
theorem granted_cons (e : UInt8 × UInt8) (entries : List (UInt8 × UInt8)) (cid : Nat) :
  granted (e :: entries) cid = (if e.1.toNat = cid then e.2.toNat else 0) + granted entries cid
  := by
  rw [granted, List.filter_cons]
  by_cases h : e.1.toNat = cid
  · rw [if_pos (beq_iff_eq.mpr h), if_pos h, List.map_cons, List.sum_cons, granted]
  · rw [if_neg (fun h' => h (beq_iff_eq.mp h')), if_neg h, Nat.zero_add, granted]

/-- The order of the entries does not matter. -/
theorem granted_perm {entries entries' : List (UInt8 × UInt8)} (h : entries.Perm entries')
    (cid : Nat) :
  granted entries cid = granted entries' cid
  := ((h.filter _).map _).sum_nat

/-- Entries are passed on one after another. -/
theorem addCreditEntries_eq {ι : Type} (E : NciSmIo ι) (n : Nat) (entries : List UInt8) (io : ι) :
  addCreditEntries E n entries io
    = (creditEntries n entries).foldl (fun io e => E.sarAddCredits e.1 e.2 io) io
  := by
  induction n, entries using creditEntries.induct generalizing io with
  | case1 n cid credits entries ih =>
      rw [addCreditEntries, creditEntries, List.foldl_cons]
      apply ih
  | case2 n entries h =>
      rw [addCreditEntries, creditEntries]
      · rfl
      · exact h
      · exact h

/-! ### Balances -/

/-- A balance after more credits are granted. -/
def saturated (credits : UInt8) (n : Nat) : UInt8 := UInt8.ofNat (min 0xff (credits.toNat + n))

theorem toNat_saturated (credits : UInt8) (n : Nat) :
  (saturated credits n).toNat = min 0xff (credits.toNat + n)
  := UInt8.toNat_ofNat_of_lt' (Nat.lt_of_le_of_lt (Nat.min_le_left _ _) (by decide))

theorem saturated_zero (credits : UInt8) :
  saturated credits 0 = credits
  := by
  apply UInt8.toNat_inj.mp
  have hlt := credits.toNat_lt
  rw [toNat_saturated, Nat.add_zero]
  omega

theorem saturated_saturated (credits : UInt8) (n m : Nat) :
  saturated (saturated credits n) m = saturated credits (n + m)
  := by
  apply UInt8.toNat_inj.mp
  rw [toNat_saturated, toNat_saturated, toNat_saturated]
  omega

/-- The balance is unlimited when the credits cannot be counted any more. -/
theorem saturated_eq (credits n : UInt8) :
  (if 0xff - credits < n then sarUnlimitedCredits else credits + n) = saturated credits n.toNat
  := by
  apply UInt8.toNat_inj.mp
  have hcredits := credits.toNat_lt
  have hn := n.toNat_lt
  have hsub : (0xff - credits).toNat = 255 - credits.toNat := by
    apply UInt8.toNat_sub_of_le
    apply UInt8.le_iff_toNat_le.mpr
    have : (0xff : UInt8).toNat = 255 := rfl
    omega
  rw [toNat_saturated]
  split
  · rename_i h
    rw [UInt8.lt_iff_toNat_lt, hsub] at h
    have : sarUnlimitedCredits.toNat = 255 := rfl
    omega
  · rename_i h
    rw [UInt8.lt_iff_toNat_lt, hsub] at h
    rw [UInt8.toNat_add]
    omega

/-! ### All entries -/

/-- Packets wait on a connection that is granted credits. -/
def NciSar.enables (sar : NciSar) (entries : List (UInt8 × UInt8)) : Bool :=
  sar.cids.any fun cid => (sar.conn cid).out.first.isSome && granted entries cid != 0

/-- The layer after credits are granted: nothing else has changed, except that a write is scheduled
if none is under way and there is something to be sent. -/
def NciSar.grant (sar : NciSar) (entries : List (UInt8 × UInt8)) : NciSar :=
  { sar with
    conn := fun cid =>
      if cid < sar.maxLogicalConns.toNat then
        { sar.conn cid with credits := saturated (sar.conn cid).credits (granted entries cid) }
      else sar.conn cid
    startWriteId := sar.startWriteId || (sar.writing.isNone && sar.enables entries) }

theorem NciSar.enables_iff {sar : NciSar} {entries : List (UInt8 × UInt8)} :
  sar.enables entries = true ↔ ∃ cid < sar.maxLogicalConns.toNat,
    (sar.conn cid).out.first.isSome = true ∧ granted entries cid ≠ 0
  := by simp [NciSar.enables, NciSar.cids]

@[simp]
theorem NciSar.grant_nil (sar : NciSar) :
  sar.grant [] = sar
  := by
  have henables : sar.enables [] = false := by simp [NciSar.enables]
  rw [NciSar.grant, henables, Bool.and_false, Bool.or_false]
  have hconn : (fun cid =>
      if cid < sar.maxLogicalConns.toNat then
        { sar.conn cid with credits := saturated (sar.conn cid).credits (granted [] cid) }
      else sar.conn cid) = sar.conn := by
    funext cid
    rw [granted_nil, saturated_zero]
    split <;> rfl
  rw [hconn]

/-- One entry is granted and then the others. -/
theorem NciSar.grant_cons (sar : NciSar) (e : UInt8 × UInt8) (entries : List (UInt8 × UInt8)) :
  (sar.grant [e]).grant entries = sar.grant (e :: entries)
  := by
  have hconn : ((sar.grant [e]).grant entries).conn = (sar.grant (e :: entries)).conn := by
    funext cid
    simp only [NciSar.grant]
    by_cases hcid : cid < sar.maxLogicalConns.toNat
    · simp only [if_pos hcid]
      rw [saturated_saturated, granted_cons, granted_cons, granted_nil, Nat.add_zero]
    · simp only [if_neg hcid]
  have henables : (sar.enables [e] || (sar.grant [e]).enables entries)
      = sar.enables (e :: entries) := by
    rw [Bool.eq_iff_iff, Bool.or_eq_true, NciSar.enables_iff, NciSar.enables_iff,
      NciSar.enables_iff]
    have hwaiting : ∀ cid, ((sar.grant [e]).conn cid).out = (sar.conn cid).out := by
      intro cid
      simp only [NciSar.grant]
      split <;> rfl
    simp only [hwaiting, granted_cons, granted_nil, Nat.add_zero]
    constructor
    · rintro (⟨cid, hcid, hfirst, hgranted⟩ | ⟨cid, hcid, hfirst, hgranted⟩)
      · exact ⟨cid, hcid, hfirst, by omega⟩
      · exact ⟨cid, hcid, hfirst, by omega⟩
    · rintro ⟨cid, hcid, hfirst, hgranted⟩
      by_cases hone : (if e.1.toNat = cid then e.2.toNat else 0) = 0
      · exact Or.inr ⟨cid, hcid, hfirst, by omega⟩
      · exact Or.inl ⟨cid, hcid, hfirst, hone⟩
  have hstart : ((sar.grant [e]).grant entries).startWriteId
      = (sar.grant (e :: entries)).startWriteId := by
    change ((sar.startWriteId || (sar.writing.isNone && sar.enables [e]))
      || (sar.writing.isNone && (sar.grant [e]).enables entries))
      = (sar.startWriteId || (sar.writing.isNone && sar.enables (e :: entries)))
    rw [← henables, Bool.and_or_distrib_left, Bool.or_assoc]
  change { sar with
    conn := ((sar.grant [e]).grant entries).conn
    startWriteId := ((sar.grant [e]).grant entries).startWriteId } = _
  rw [hconn, hstart]
  rfl

/-- A connection that packets wait on can send when it is granted credits. -/
theorem nciSarTakeCredits_eq {sar : NciSar} {cid credits : UInt8}
    (hcid : cid < sar.maxLogicalConns) :
  nciSarTakeCredits sar cid.toNat credits = sar.grant [(cid, credits)]
  := by
  have hlt : cid.toNat < sar.maxLogicalConns.toNat := UInt8.lt_iff_toNat_lt.mp hcid
  have hconn : (sar.modifyConn cid.toNat fun conn =>
      { conn with credits := if 0xff - conn.credits < credits then sarUnlimitedCredits
                             else conn.credits + credits })
      = { sar with conn := (sar.grant [(cid, credits)]).conn } := by
    rw [NciSar.modifyConn]
    congr 1
    funext cid'
    simp only [NciSar.grant, granted_cons, granted_nil, Nat.add_zero]
    by_cases hsame : cid' = cid.toNat
    · rw [hsame, Function.update_self, saturated_eq, if_pos hlt, if_pos rfl]
    · have hother : cid.toNat ≠ cid' := fun h => hsame h.symm
      simp only [Function.update_of_ne hsame, if_neg hother, saturated_zero, ite_self]
  have hwaiting : ∀ cid', ((sar.grant [(cid, credits)]).conn cid').out = (sar.conn cid').out := by
    intro cid'
    simp only [NciSar.grant]
    split <;> rfl
  have henables : sar.enables [(cid, credits)] = true
      ↔ (sar.conn cid.toNat).out.first.isSome = true ∧ credits ≠ 0 := by
    rw [NciSar.enables_iff]
    simp only [granted_cons, granted_nil, Nat.add_zero]
    constructor
    · rintro ⟨cid', -, hfirst, hgranted⟩
      by_cases hsame : cid.toNat = cid'
      · rw [if_pos hsame] at hgranted
        refine ⟨hsame ▸ hfirst, ?_⟩
        rintro rfl
        exact hgranted rfl
      · rw [if_neg hsame] at hgranted
        exact absurd rfl hgranted
    · rintro ⟨hfirst, hcredits⟩
      refine ⟨cid.toNat, hlt, hfirst, ?_⟩
      rw [if_pos rfl]
      exact fun h => hcredits (UInt8.toNat_inj.mp h)
  rw [nciSarTakeCredits]
  by_cases hcredits : credits = 0
  · have hnone : sar.enables [(cid, credits)] = false :=
      Bool.eq_false_iff.mpr fun h => (henables.mp h).2 hcredits
    rw [if_neg (not_not.mpr hcredits)]
    have hgrant : sar.grant [(cid, credits)]
        = { sar with conn := (sar.grant [(cid, credits)]).conn }
        := by
      rw [NciSar.grant, hnone, Bool.and_false, Bool.or_false]
    have hsame : (sar.grant [(cid, credits)]).conn = sar.conn := by
      rw [hcredits]
      have h := congrArg NciSar.conn sar.grant_nil
      funext cid'
      rw [← h]
      simp only [NciSar.grant, granted_cons, granted_nil, Nat.add_zero]
      congr 3
      split <;> rfl
    rw [hgrant, hsame]
  · rw [if_pos hcredits]
    dsimp only
    rw [hconn]
    dsimp only
    rw [hwaiting]
    by_cases hfirst : (sar.conn cid.toNat).out.first.isSome = true
    · rw [if_pos hfirst, nciSarScheduleWrite]
      have hall : sar.enables [(cid, credits)] = true := henables.mpr ⟨hfirst, hcredits⟩
      have hcanSend : NciSar.canSend { sar with conn := (sar.grant [(cid, credits)]).conn }
          cid.toNat
          = true := by
        have hbalance : saturated (sar.conn cid.toNat).credits credits.toNat ≠ 0 := by
          intro h
          have h' := congrArg UInt8.toNat h
          rw [toNat_saturated] at h'
          have hpos : credits.toNat ≠ 0 := fun h => hcredits (UInt8.toNat_inj.mp h)
          have hzero : (0 : UInt8).toNat = 0 := rfl
          omega
        rw [NciSar.canSend]
        simp only [NciSar.grant, if_pos hlt, granted_cons, granted_nil, if_true, Nat.add_zero]
        rw [hfirst, Bool.true_and]
        exact bne_iff_ne.mpr hbalance
      have hany : (NciSar.cids { sar with conn := (sar.grant [(cid, credits)]).conn }).any
          (NciSar.canSend { sar with conn := (sar.grant [(cid, credits)]).conn }) = true :=
        List.any_eq_true.mpr ⟨cid.toNat, List.mem_range.mpr hlt, hcanSend⟩
      have hcan : nciSarCanWrite { sar with conn := (sar.grant [(cid, credits)]).conn }
          = sar.writing.isNone := by
        rw [nciSarCanWrite, hany, Bool.or_true, Bool.and_true]
      rw [hcan]
      have hgrant : sar.grant [(cid, credits)]
          = { sar with
              conn := (sar.grant [(cid, credits)]).conn
              startWriteId := sar.startWriteId || sar.writing.isNone } := by
        rw [NciSar.grant, hall, Bool.and_true]
      rw [hgrant]
      dsimp only
      cases hstart : sar.startWriteId <;> cases hwriting : sar.writing.isNone <;>
        simp [NciSar.setStartWriteId]
    · have hnone : sar.enables [(cid, credits)] = false :=
        Bool.eq_false_iff.mpr fun h => hfirst (henables.mp h).1
      rw [if_neg hfirst]
      conv_rhs => rw [NciSar.grant, hnone, Bool.and_false, Bool.or_false]
      rfl

/-- Credits for a connection that is not known are ignored. -/
theorem nciSarAddCredits_eq (sar : NciSar) (cid credits : UInt8) :
  nciSarAddCredits sar cid credits = sar.grant [(cid, credits)]
  := by
  rw [nciSarAddCredits]
  split
  · rename_i hcid
    exact nciSarTakeCredits_eq hcid
  · rename_i hcid
    have hge : ∀ cid' < sar.maxLogicalConns.toNat, cid.toNat ≠ cid' := by
      intro cid' h hsame
      apply hcid
      apply UInt8.lt_iff_toNat_lt.mpr
      rw [hsame]
      exact h
    have hnone : sar.enables [(cid, credits)] = false := by
      apply Bool.eq_false_iff.mpr
      intro h
      obtain ⟨cid', hcid', -, hgranted⟩ := NciSar.enables_iff.mp h
      rw [granted_cons, if_neg (hge cid' hcid')] at hgranted
      exact hgranted rfl
    have hconn : (sar.grant [(cid, credits)]).conn = sar.conn := by
      funext cid'
      simp only [NciSar.grant]
      by_cases hcid' : cid' < sar.maxLogicalConns.toNat
      · rw [if_pos hcid', granted_cons, if_neg (hge cid' hcid'), granted_nil, Nat.add_zero,
          saturated_zero]
      · rw [if_neg hcid']
    have hgrant : sar.grant [(cid, credits)]
        = { sar with conn := (sar.grant [(cid, credits)]).conn }
        := by
      rw [NciSar.grant, hnone, Bool.and_false, Bool.or_false]
    rw [hgrant, hconn]

/-- Entries are granted one after another. -/
theorem foldl_nciSarAddCredits (sar : NciSar) (entries : List (UInt8 × UInt8)) :
  entries.foldl (fun sar e => nciSarAddCredits sar e.1 e.2) sar = sar.grant entries
  := by
  induction entries generalizing sar with
  | nil => rw [List.foldl_nil, NciSar.grant_nil]
  | cons e entries ih => rw [List.foldl_cons, nciSarAddCredits_eq, ih, NciSar.grant_cons]

/-! ### The notification -/

/-- The notification has all its entries, the number of which is in its first byte. -/
def CreditsComplete (payload : List UInt8) : Prop :=
  0 < payload.length ∧ 1 + 2 * (payload.getD 0 0).toNat ≤ payload.length

instance (payload : List UInt8) : Decidable (CreditsComplete payload) :=
  inferInstanceAs (Decidable (_ ∧ _))

/-- The entries of a notification. -/
def notifiedCredits (payload : List UInt8) : List (UInt8 × UInt8) :=
  creditEntries (payload.getD 0 0).toNat (payload.drop 1)

/-- The layers differ in nothing but what has been granted: the connections have it in addition to
what they had, and a write is scheduled if there is something to be sent because of it. -/
structure NciSar.Granted (entries : List (UInt8 × UInt8)) (sar sar' : NciSar) : Prop where
  credits : ∀ cid < sar.maxLogicalConns.toNat,
    (sar'.credits cid).toNat = min 0xff ((sar.credits cid).toNat + granted entries cid)
  unknown : ∀ cid, sar.maxLogicalConns.toNat ≤ cid → sar'.credits cid = sar.credits cid
  rest : sar' = { sar with
    conn := fun cid => { sar.conn cid with credits := sar'.credits cid }
    startWriteId := sar'.startWriteId }
  scheduled : sar'.startWriteId = true ↔ sar.startWriteId = true ∨ (sar.writing = none
    ∧ ∃ cid < sar.maxLogicalConns.toNat,
      (sar.conn cid).out.first.isSome = true ∧ granted entries cid ≠ 0)

theorem NciSar.granted_grant (sar : NciSar) (entries : List (UInt8 × UInt8)) :
  NciSar.Granted entries sar (sar.grant entries)
  := by
  constructor
  · intro cid hcid
    rw [NciSar.credits, NciSar.grant]
    dsimp only
    rw [if_pos hcid]
    exact toNat_saturated _ _
  · intro cid hcid
    rw [NciSar.credits, NciSar.grant]
    dsimp only
    rw [if_neg (Nat.not_lt.mpr hcid)]
    rfl
  · rw [NciSar.grant]
    congr 1
    funext cid
    rw [NciSar.credits]
    dsimp only
    split <;> rfl
  · rw [NciSar.grant]
    dsimp only
    rw [Bool.or_eq_true, Bool.and_eq_true, NciSar.enables_iff, Option.isNone_iff_eq_none]

/-- A notification that is complete grants its credits. -/
theorem nciSmHandleConnCreditsNtf_complete (A : SystemApp) (n : Nat) {payload : List UInt8}
    (h : CreditsComplete payload) (w : SmWorld (CoreWorld SystemIo)) :
  nciSmHandleConnCreditsNtf (A.smIo n) payload w
    = { w with io := w.io.map fun sar => sar.grant (notifiedCredits payload) }
  := by
  have hfold : ∀ (entries : List (UInt8 × UInt8)) (io : CoreWorld SystemIo),
      entries.foldl (fun io e => (A.smIo n).sarAddCredits e.1 e.2 io) io
        = io.map fun sar => sar.grant entries := by
    intro entries io
    rw [World.map, ← foldl_nciSarAddCredits]
    induction entries generalizing io with
    | nil => rfl
    | cons e entries ih =>
        rw [List.foldl_cons, List.foldl_cons, ih]
        rfl
  obtain ⟨hpos, hlen⟩ := h
  cases payload with
  | nil => cases hpos
  | cons count entries =>
      have hentries : 2 * count.toNat ≤ entries.length := by
        rw [List.getD_cons_zero, List.length_cons] at hlen
        omega
      rw [nciSmHandleConnCreditsNtf, if_pos hentries, addCreditEntries_eq, hfold]
      rfl

theorem nciSmHandleConnCreditsNtf_incomplete {ι : Type} (E : NciSmIo ι) {payload : List UInt8}
    (h : ¬ CreditsComplete payload) (w : SmWorld ι) :
  nciSmHandleConnCreditsNtf E payload w = nciSmError E w
  := by
  cases payload with
  | nil => rfl
  | cons count entries =>
      rw [nciSmHandleConnCreditsNtf]
      apply if_neg
      intro hentries
      apply h
      constructor
      · exact Nat.succ_pos _
      · rw [List.getD_cons_zero, List.length_cons]
        omega

/-- A notification of credits grants all of them or none. If it is complete, then each connection
ends up with what it had and what all entries grant it, and nothing else changes but that a write
may be scheduled; the order of the entries does not matter. If it is not complete, then no balance
changes and the machine stalls: that is so when the application is told, and afterwards too if the
application does not call anything then. -/
theorem creditsAllOrNothing (A : SystemApp) (n : Nat) :
  (∀ payload w, CreditsComplete payload →
      (nciSmHandleConnCreditsNtf (A.smIo n) payload w).sm = w.sm
        ∧ (nciSmHandleConnCreditsNtf (A.smIo n) payload w).io.env = w.io.env
        ∧ NciSar.Granted (notifiedCredits payload) w.io.sar
          (nciSmHandleConnCreditsNtf (A.smIo n) payload w).io.sar)
    ∧ (∀ payload payload' w, CreditsComplete payload → CreditsComplete payload' →
      (notifiedCredits payload).Perm (notifiedCredits payload') →
      nciSmHandleConnCreditsNtf (A.smIo n) payload w
        = nciSmHandleConnCreditsNtf (A.smIo n) payload' w)
    ∧ ∀ payload w, ¬ CreditsComplete payload →
      ∃ w', nciSmHandleConnCreditsNtf (A.smIo n) payload w
          = nciSmEmitPendingSignals (A.smIo n) w'
        ∧ w.Fails w'
        ∧ (A.Silent → w.Fails (nciSmHandleConnCreditsNtf (A.smIo n) payload w))
  := by
  constructor
  · intro payload w h
    rw [nciSmHandleConnCreditsNtf_complete A n h]
    exact ⟨rfl, rfl, NciSar.granted_grant _ _⟩
  constructor
  · intro payload payload' w h h' hperm
    have hgranted : granted (notifiedCredits payload) = granted (notifiedCredits payload') :=
      funext fun cid => granted_perm hperm cid
    have hgrant : ∀ sar : NciSar, sar.grant (notifiedCredits payload)
        = sar.grant (notifiedCredits payload') := by
      intro sar
      rw [NciSar.grant, NciSar.grant, NciSar.enables, NciSar.enables, hgranted]
    rw [nciSmHandleConnCreditsNtf_complete A n h, nciSmHandleConnCreditsNtf_complete A n h',
      funext hgrant]
  · intro payload w h
    rw [nciSmHandleConnCreditsNtf_incomplete (A.smIo n) h]
    obtain ⟨w', heq, hfails⟩ := nciSmError_fails A n w
    refine ⟨w', heq, hfails, fun hsilent => ?_⟩
    rw [heq]
    exact hsilent.fails hfails

/-- The same entries in another order, and a notification that is too short. -/
theorem creditsAllOrNothing_new :
  NciSar.Granted [(0, 3), (7, 1)] nciSarNew (nciSmHandleConnCreditsNtf (SystemApp.quiet.smIo 0)
      [2, 0, 3, 7, 1] (nciCoreNew nciSmObjectNew).toSm).io.sar
    ∧ nciSmHandleConnCreditsNtf (SystemApp.quiet.smIo 0) [2, 0, 3, 7, 1]
        (nciCoreNew nciSmObjectNew).toSm
      = nciSmHandleConnCreditsNtf (SystemApp.quiet.smIo 0) [2, 7, 1, 0, 3]
        (nciCoreNew nciSmObjectNew).toSm
    ∧ (nciCoreNew nciSmObjectNew).toSm.Fails (nciSmHandleConnCreditsNtf (SystemApp.quiet.smIo 0)
        [2, 0, 3, 7] (nciCoreNew nciSmObjectNew).toSm)
  := by
  obtain ⟨hgranted, horder, hfails⟩ := creditsAllOrNothing SystemApp.quiet 0
  refine ⟨?_, ?_, ?_⟩
  · exact (hgranted [2, 0, 3, 7, 1] (nciCoreNew nciSmObjectNew).toSm (by decide)).2.2
  · apply horder [2, 0, 3, 7, 1] [2, 7, 1, 0, 3] _ (by decide) (by decide)
    exact List.Perm.swap _ _ _
  · obtain ⟨-, -, -, hsilent⟩ := hfails [2, 0, 3, 7] (nciCoreNew nciSmObjectNew).toSm (by decide)
    exact hsilent fun _ => rfl

end Nci
