import LibNciCore.Sar.Trace

/-!
# Flow control

What a connection has been granted and what has been submitted on it can be read off the log.
The balance of a connection that is not unlimited never exceeds the difference, and is the
difference as long as the HAL takes every segment.
-/

namespace Nci

open LinkedQueue

/-! ### The account of a connection -/

/-- The queue a packet belongs to. -/
def NciSarPacketOut.key (out : NciSarPacketOut) : QueueKey :=
  match out.conn with
  | some conn => .out conn.index
  | none => .cmd

/-- The queue of the packet being written. -/
def NciSar.writingKey (sar : NciSar) : Option QueueKey :=
  (sar.writing.bind sar.heap).map NciSarPacketOut.key

/-- What a connection has been granted and how many segments have been submitted on it since
its credits were set. -/
structure Account where
  granted : Nat
  submitted : Nat
  deriving DecidableEq, Repr

/-- An entry of the log changes the account of a connection. -/
def Entry.account (cid : Nat) (acc : Account) : Entry → Account
  | .called (.setInitialCredits c credits) sar =>
      if c.toNat = cid ∧ c < sar.maxLogicalConns then ⟨credits.toNat, 0⟩ else acc
  | .called (.addCredits c credits) sar =>
      if c.toNat = cid ∧ c < sar.maxLogicalConns then
        { acc with granted := acc.granted + credits.toNat }
      else acc
  | .received packet sar =>
      if packet.getD 0 0 &&& nciMtMask = nciMtDataPkt
          ∧ (packet.getD 0 0 &&& nciDataCidMask).toNat = cid
          ∧ packet.getD 0 0 &&& nciDataCidMask < sar.maxLogicalConns then
        { acc with granted := acc.granted + (packet.getD 1 0 &&& nciDataCrMask).toNat }
      else acc
  | .halWrite _ _ sar =>
      if sar.writingKey = some (.out cid) then { acc with submitted := acc.submitted + 1 } else acc
  | _ => acc

/-- The account of a connection after a run. -/
def account (cid : Nat) (log : Log) : Account := log.foldl (Entry.account cid) ⟨0, 0⟩

theorem account_append (cid : Nat) (log : Log) (e : Entry) :
  account cid (log ++ [e]) = e.account cid (account cid log)
  := by simp [account]

/-- The HAL refuses a segment, or cannot be started when there is one. -/
def Entry.Refusal : Entry → Prop
  | .halStart ok sar => ok = false ∧ sar.writing.isSome = true
  | .halWrite _ ok _ => ok = false
  | _ => False

/-- The HAL takes every segment. -/
def NoRefusal (log : Log) : Prop := ∀ e ∈ log, ¬ e.Refusal

theorem noRefusal_append {log : Log} {e : Entry} :
  NoRefusal (log ++ [e]) ↔ NoRefusal log ∧ ¬ e.Refusal
  := by
  simp only [NoRefusal, List.mem_append, List.mem_singleton]
  constructor
  · intro h
    use fun e he => h e (Or.inl he)
    apply h e (Or.inr rfl)
  · rintro ⟨h, he⟩ e' (he' | rfl)
    · apply h e' he'
    · apply he

/-- The balance of a connection goes with its account, unless it is unlimited. -/
def Balanced (cid : Nat) (credits : UInt8) (log : Log) : Prop :=
  credits ≠ sarUnlimitedCredits →
    credits.toNat + (account cid log).submitted ≤ (account cid log).granted
      ∧ (NoRefusal log →
          credits.toNat + (account cid log).submitted = (account cid log).granted)

/-! ### Arithmetic of credits -/

/-- Adding credits to a balance, as far as it stays limited. -/
theorem toNat_addCredits {balance credits : UInt8} {sum : UInt8}
    (hsum : sum = if 0xff - balance < credits then sarUnlimitedCredits else balance + credits)
    (hlimited : sum ≠ sarUnlimitedCredits) :
  sum.toNat = balance.toNat + credits.toNat ∧ (credits ≠ 0 → balance ≠ sarUnlimitedCredits)
  := by
  split at hsum
  · exact absurd hsum hlimited
  · rename_i hle
    have hle' : credits.toNat ≤ 255 - balance.toNat := by
      have h1 := UInt8.le_iff_toNat_le.mp (UInt8.not_lt.mp hle)
      rw [UInt8.toNat_sub_of_le _ _ (UInt8.le_iff_toNat_le.mpr (by
        have := balance.toNat_lt
        simp
        omega))] at h1
      simpa using h1
    have hlt := balance.toNat_lt
    constructor
    · rw [hsum, UInt8.toNat_add, Nat.mod_eq_of_lt]
      omega
    · rintro hcredits rfl
      have hzero : credits.toNat ≤ 255 - 255 := hle'
      apply hcredits
      apply UInt8.toNat_inj.mp
      simpa using hzero

/-- Taking a credit from a limited balance that is not zero. -/
theorem toNat_useCredit {balance : UInt8} (h : balance ≠ 0) :
  (balance - 1).toNat + 1 = balance.toNat
  := by
  have hpos : 1 ≤ balance.toNat := by
    by_contra hlt
    apply h
    apply UInt8.toNat_inj.mp
    simp
    omega
  rw [UInt8.toNat_sub_of_le _ _ (UInt8.le_iff_toNat_le.mpr (by simpa using hpos))]
  simp
  omega

/-! ### What the functions do to the balances -/

namespace NciSar

variable {sar : NciSar}

/-- The balance of a connection. -/
def credits (sar : NciSar) (cid : Nat) : UInt8 := (sar.conn cid).credits

theorem credits_modifyConn (sar : NciSar) (cid cid' : Nat)
    (f : NciSarLogicalConnection → NciSarLogicalConnection) :
  (sar.modifyConn cid' f).credits cid
    = if cid = cid' then (f (sar.conn cid)).credits else sar.credits cid
  := by
  by_cases hcid : cid = cid'
  · subst hcid
    simp [credits, modifyConn]
  · simp [credits, modifyConn, hcid]

theorem credits_relink (sar : NciSar) (k : QueueKey) (q : Queue) (heap : Heap NciSarPacketOut)
    (writing : Option Nat) (cid : Nat) :
  (sar.relink k q heap writing).credits cid = sar.credits cid
  := by
  cases k with
  | cmd => rfl
  | out cid' =>
      have h := credits_modifyConn sar cid cid' fun conn => { conn with out := q }
      have heq : (sar.relink (.out cid') q heap writing).credits cid
          = (sar.modifyConn cid' fun conn => { conn with out := q }).credits cid := rfl
      rw [heq, h]
      split <;> rfl

theorem credits_scheduleWrite (sar : NciSar) (cid : Nat) :
  (nciSarScheduleWrite sar).credits cid = sar.credits cid
  := by
  rw [nciSarScheduleWrite]
  split <;> rfl

theorem credits_send (sar : NciSar) (k : QueueKey) (conn : Option ConnPtr) (b0 b1 : UInt8)
    (payload : Option (List UInt8)) (complete destroy : Option Nat) (cid : Nat) :
  (nciSarSend sar k conn b0 b1 payload complete destroy).2.credits cid = sar.credits cid
  := by
  have hid : ∀ (sar : NciSar) id, (sar.setLastPacketId id).credits cid = sar.credits cid :=
    fun _ _ => rfl
  rw [nciSarSend]
  simp only
  rw [credits_scheduleWrite, hid, credits_relink]
  rfl

theorem credits_cancelEffect (sar : NciSar) (id : UInt32) (cid : Nat) :
  (sar.cancelEffect id).credits cid = sar.credits cid
  := by
  rw [cancelEffect]
  split
  · split <;> rfl
  · split
    · apply credits_relink
    · rfl

/-- Granting credits to a connection. -/
theorem credits_takeCredits (sar : NciSar) (cid cid' : Nat) (credits : UInt8) :
  (nciSarTakeCredits sar cid' credits).credits cid
    = if cid = cid' then
        if 0xff - sar.credits cid < credits then sarUnlimitedCredits
        else sar.credits cid + credits
      else sar.credits cid
  := by
  rw [nciSarTakeCredits]
  by_cases hcredits : credits ≠ 0
  · rw [if_pos hcredits]
    have h := credits_modifyConn sar cid cid' fun conn =>
      { conn with credits := if 0xff - conn.credits < credits then sarUnlimitedCredits
                             else conn.credits + credits }
    simp only
    split
    · rw [credits_scheduleWrite, h]
      rfl
    · rw [h]
      rfl
  · obtain rfl : credits = 0 := not_not.mp hcredits
    simp [credits]

theorem credits_useCredit (sar : NciSar) (cid cid' : Nat) :
  (sar.useCredit cid').credits cid
    = if cid = cid' ∧ sar.credits cid ≠ sarUnlimitedCredits then sar.credits cid - 1
      else sar.credits cid
  := by
  rw [useCredit]
  by_cases hcredits : (sar.conn cid').credits ≠ sarUnlimitedCredits
  · rw [if_pos hcredits, credits_modifyConn]
    by_cases hcid : cid = cid'
    · subst hcid
      rw [if_pos rfl, if_pos ⟨rfl, hcredits⟩]
      rfl
    · rw [if_neg hcid, if_neg fun h => hcid h.1]
  · rw [if_neg hcredits, if_neg]
    rintro ⟨rfl, h⟩
    apply hcredits h

/-- The packet that is chosen to be written has been charged: a segment of a connection costs
a credit of that connection, and a command costs nothing. If none is chosen, nothing has been
charged, and nothing can be sent. -/
theorem WF.select_cases (hw : sar.WF) :
  (sar.select.writing = none ∧ sar.select.Idle ∧ ∀ cid, sar.select.credits cid = sar.credits cid)
    ∨ (∃ k a, sar.select.writing = some a ∧ sar.select.Owned k a ∧ sar.Charged k
        ∧ ∀ cid, sar.select.credits cid = (sar.charge k).credits cid)
  := by
  have hwf := hw.select
  have hpick : ∀ sar' : NciSar, sar'.WF → (∀ cid, sar'.credits cid = sar.credits cid) →
      sar'.writing = none → sar.select = nciSarAttemptWritePick sar' →
      (sar.select.writing = none ∧ sar.select.Idle
          ∧ ∀ cid, sar.select.credits cid = sar.credits cid)
        ∨ (∃ k a, sar.select.writing = some a ∧ sar.select.Owned k a ∧ sar.Charged k
            ∧ ∀ cid, sar.select.credits cid = (sar.charge k).credits cid) := by
    intro sar' hw' hcredits hnone hselect
    rcases hw'.pick_cases with ⟨a, ha, -⟩ | ⟨-, hidle, heq⟩ | ⟨k, a, l, -, hl, hk, heq⟩
    · simp [hnone] at ha
    · left
      rw [hselect, heq]
      use hnone, hidle, hcredits
    · right
      obtain ⟨hwf', hlists⟩ := hw'.pickState hl
      have hwriting : sar.select.writing = some a := by
        have h := congrArg Lists.writing hlists
        rw [hselect, heq]
        simpa [Lists.pick, Lists.relist, hl] using h
      use k, a, hwriting
      have hcharge : ∀ cid, (sar'.charge k).credits cid = (sar.charge k).credits cid := by
        intro cid
        cases k with
        | cmd => apply hcredits
        | out cid' =>
            rw [NciSar.charge, NciSar.charge, credits_useCredit, credits_useCredit, hcredits]
      constructor
      · rw [hselect, heq]
        have hs := sameQueues_charge sar' k
        have hown := (hs.owned k a).mpr (hw'.owned k a (by rw [hl]; apply List.mem_cons_self))
        obtain ⟨hnext, htable, -, -⟩ := relink_fields (sar'.charge k) k
          (dequeue (sar'.charge k).heap ((sar'.charge k).queue k)).2.2
          (dequeue (sar'.charge k).heap ((sar'.charge k).queue k)).2.1
          (dequeue (sar'.charge k).heap ((sar'.charge k).queue k)).1
        have hpacket := congrFun (congrArg Lists.packet hlists) a
        obtain ⟨hlt, out, hout, hconn⟩ := hown
        rw [hs.packet] at hout
        rw [NciSar.pickState] at hpacket ⊢
        use by rw [hnext]; apply hlt
        use out
        constructor
        · rw [← hout]
          apply hpacket
        · rw [hconn]
          cases k with
          | cmd => rfl
          | out cid => rw [connPtr, connPtr, htable]
      constructor
      · cases k with
        | cmd => trivial
        | out cid =>
            intro hzero
            apply hk
            rw [← hzero]
            apply hcredits
      · intro cid
        rw [hselect, heq, NciSar.pickState, credits_relink, hcharge]
  rcases hw.continue_cases with ⟨hnone, heq⟩ | ⟨k, a, ha, hk, hcharged, heq⟩
    | ⟨cid, a, ha, hk, hzero, heq⟩
  · apply hpick sar hw (fun _ => rfl) hnone
    rw [NciSar.select, heq]
  · right
    have hs := sameQueues_charge sar k
    have hwriting : (sar.charge k).writing = some a := by rw [hs.writing, ha]
    have hselect : sar.select = sar.charge k := by
      rw [NciSar.select, heq, nciSarAttemptWritePick, hwriting]
    use k, a
    rw [hselect]
    use hwriting, (hs.owned k a).mpr hk, hcharged
    intro cid
    trivial
  · apply hpick (sar.putBackState (.out cid) a) (hw.putBackState ha hk).1
    · intro cid'
      apply credits_relink
    · rfl
    · rw [NciSar.select, heq]

/-- Cutting a segment off a packet leaves it in its connection. -/
theorem nextSegment_conn (out : NciSarPacketOut) (max : UInt8) :
  (out.nextSegment max).1.conn = out.conn
  := by
  rw [NciSarPacketOut.nextSegment]
  simp only
  split <;> rfl

/-- The queue of the packet that is being written. -/
theorem Owned.writingKey_eq {k : QueueKey} {a : Nat} (h : sar.Owned k a)
    (ha : sar.writing = some a) :
  sar.writingKey = some k
  := by
  obtain ⟨-, out, hout, hconn⟩ := h
  obtain ⟨x, hx, rfl⟩ := Option.map_eq_some_iff.mp hout
  have hconn' : x.conn = sar.connPtr k := hconn
  rw [NciSar.writingKey, ha, Option.bind_some, hx, Option.map_some, NciSarPacketOut.key, hconn']
  cases k <;> rfl

/-- The queue of the packet a segment of which is handed over. -/
theorem Owned.writingKey {k : QueueKey} {a : Nat} {out : NciSarPacketOut} (h : sar.Owned k a)
    (ha : sar.writing = some a) (hout : sar.heap a = some out) :
  ((sar.cutSegment a out).setWritePending true).snapshot.writingKey = some k
  := by
  have hwriting : ((sar.cutSegment a out).setWritePending true).snapshot.writing = some a := ha
  have hheap : ((sar.cutSegment a out).setWritePending true).snapshot.heap a
      = some (out.nextSegment (sar.maxPayloadSize out)).1 := by
    have hmodify : ((sar.cutSegment a out).setWritePending true).snapshot.heap a
        = (sar.heap a).map fun _ => (out.nextSegment (sar.maxPayloadSize out)).1 :=
      Heap.modify_self _ _ _
    rw [hmodify, hout, Option.map_some]
  have hkey := h.writingKey_eq ha
  rw [NciSar.writingKey, ha, Option.bind_some, hout, Option.map_some] at hkey
  rw [NciSar.writingKey, hwriting, Option.bind_some, hheap, Option.map_some, ← hkey,
    NciSarPacketOut.key, nextSegment_conn, NciSarPacketOut.key]

end NciSar

/-! ### Balances in a run -/

section

variable {cid : Nat} {c c' : UInt8} {log : Log} {e : Entry}

/-- An entry that is nothing to the account. -/
theorem Balanced.note (h : Balanced cid c log) (hc : c' = c)
    (he : e.account cid (account cid log) = account cid log) :
  Balanced cid c' (log ++ [e])
  := by
  intro hlimited
  rw [hc] at hlimited ⊢
  rw [account_append, he]
  obtain ⟨hle, heq⟩ := h hlimited
  use hle
  intro hrefusal
  apply heq (noRefusal_append.mp hrefusal).1

/-- Credits are granted. -/
theorem Balanced.grant {credits : UInt8} (h : Balanced cid c log)
    (hc : c' = if 0xff - c < credits then sarUnlimitedCredits else c + credits)
    (he : e.account cid (account cid log)
      = { account cid log with granted := (account cid log).granted + credits.toNat }) :
  Balanced cid c' (log ++ [e])
  := by
  intro hlimited
  obtain ⟨hsum, hne⟩ := toNat_addCredits hc hlimited
  rw [account_append, he, hsum]
  by_cases hcredits : credits = 0
  · subst hcredits
    obtain rfl : c' = c := by
      apply UInt8.toNat_inj.mp
      simpa using hsum
    obtain ⟨hle, heq⟩ := h hlimited
    use by simpa using hle
    intro hrefusal
    simpa using heq (noRefusal_append.mp hrefusal).1
  · obtain ⟨hle, heq⟩ := h (hne hcredits)
    constructor
    · simp only
      omega
    · intro hrefusal
      have heq' := heq (noRefusal_append.mp hrefusal).1
      simp only
      omega

/-- The balance is set. -/
theorem Balanced.set (he : e.account cid (account cid log) = ⟨c'.toNat, 0⟩) :
  Balanced cid c' (log ++ [e])
  := by
  intro _
  rw [account_append, he]
  use Nat.le_refl _
  intro _
  rfl

/-- A segment of the connection is submitted. -/
theorem Balanced.submit (h : Balanced cid c log) (hpos : c ≠ 0)
    (hc : c' = if c ≠ sarUnlimitedCredits then c - 1 else c)
    (he : e.account cid (account cid log)
      = { account cid log with submitted := (account cid log).submitted + 1 }) :
  Balanced cid c' (log ++ [e])
  := by
  intro hlimited
  have hne : c ≠ sarUnlimitedCredits := by
    rintro rfl
    apply hlimited
    rw [hc]
    simp
  rw [if_pos hne] at hc
  have hnat := toNat_useCredit hpos
  obtain ⟨hle, heq⟩ := h hne
  rw [account_append, he, hc]
  constructor
  · simp only
    omega
  · intro hrefusal
    have heq' := heq (noRefusal_append.mp hrefusal).1
    simp only
    omega

/-- A charged segment is lost because the HAL refuses it. -/
theorem Balanced.refuse (h : Balanced cid c log) (hc : c ≠ sarUnlimitedCredits →
      c' ≠ sarUnlimitedCredits → c'.toNat ≤ c.toNat)
    (hun : c = sarUnlimitedCredits → c' = sarUnlimitedCredits)
    (he : e.account cid (account cid log) = account cid log) (hrefusal : e.Refusal) :
  Balanced cid c' (log ++ [e])
  := by
  intro hlimited
  have hne : c ≠ sarUnlimitedCredits := fun heq => hlimited (hun heq)
  obtain ⟨hle, -⟩ := h hne
  have hle' := hc hne hlimited
  rw [account_append, he]
  constructor
  · omega
  · intro hno
    exact absurd hrefusal (noRefusal_append.mp hno).2

end

variable {P : Call → Prop} {w w' : World Log}

/-- A call keeps the balance. -/
theorem Call.balanced (cid : Nat) (sar : NciSar) (log : Log)
    (h : Balanced cid (sar.credits cid) log) (c : Call) :
  Balanced cid ((c.effect sar).credits cid) (log ++ [.called c sar.snapshot])
  := by
  cases c with
  | setInitialCredits c credits =>
      by_cases hmax : c < sar.maxLogicalConns
      · have heffect : (Call.setInitialCredits c credits).effect sar
            = sar.modifyConn c.toNat fun conn => { conn with credits := credits } := by
          rw [Call.effect, nciSarSetInitialCredits, if_pos hmax]
        rw [heffect, NciSar.credits_modifyConn]
        by_cases hcid : c.toNat = cid
        · rw [if_pos hcid.symm]
          apply Balanced.set
          rw [Entry.account, if_pos ⟨hcid, hmax⟩]
        · rw [if_neg fun he => hcid he.symm]
          apply h.note rfl
          rw [Entry.account, if_neg fun he => hcid he.1]
      · have heffect : (Call.setInitialCredits c credits).effect sar = sar := by
          rw [Call.effect, nciSarSetInitialCredits, if_neg hmax]
        rw [heffect]
        apply h.note rfl
        rw [Entry.account, if_neg fun he => hmax he.2]
  | addCredits c credits =>
      by_cases hmax : c < sar.maxLogicalConns
      · have heffect : (Call.addCredits c credits).effect sar
            = nciSarTakeCredits sar c.toNat credits := by
          rw [Call.effect, nciSarAddCredits, if_pos hmax]
        rw [heffect, NciSar.credits_takeCredits]
        by_cases hcid : c.toNat = cid
        · rw [if_pos hcid.symm]
          apply h.grant rfl
          rw [Entry.account, if_pos ⟨hcid, hmax⟩]
        · rw [if_neg fun he => hcid he.symm]
          apply h.note rfl
          rw [Entry.account, if_neg fun he => hcid he.1]
      · have heffect : (Call.addCredits c credits).effect sar = sar := by
          rw [Call.effect, nciSarAddCredits, if_neg hmax]
        rw [heffect]
        apply h.note rfl
        rw [Entry.account, if_neg fun he => hmax he.2]
  | sendCommand gid oid payload complete destroy =>
      apply h.note _ rfl
      apply NciSar.credits_send
  | sendDataPacket c payload complete destroy =>
      apply h.note _ rfl
      simp only [Call.effect, nciSarSendDataPacket]
      split
      · apply NciSar.credits_send
      · rfl
  | cancel id =>
      apply h.note _ rfl
      apply NciSar.credits_cancelEffect
  | _ => apply h.note rfl rfl

theorem Entry.Note.account {e : Entry} (he : e.Note) (cid : Nat) (acc : Account) :
  e.account cid acc = acc
  := by cases e <;> first | rfl | exact absurd he id

/-- What happens in a callback keeps the balance. -/
theorem Inner.balanced (h : Inner P w w') (cid : Nat)
    (hb : Balanced cid (w.sar.credits cid) w.env) :
  Balanced cid (w'.sar.credits cid) w'.env
  := by
  cases h with
  | note he => apply hb.note rfl (he.account _ _)
  | started _ _ => apply hb.note rfl rfl
  | called _ => apply Call.balanced cid _ _ hb
  | freed _ => apply hb

/-- The arrival of a segment keeps the balance. -/
theorem balanced_received (cid : Nat) (packet : List UInt8) {sar : NciSar} {log : Log}
    (h : Balanced cid (sar.credits cid) log) :
  Balanced cid ((sar.receivedEffect packet).credits cid)
    (log ++ [.received packet sar.snapshot])
  := by
  have hmax : sar.snapshot.maxLogicalConns = sar.maxLogicalConns := rfl
  by_cases hdata : packet.getD 0 0 &&& nciMtMask = nciMtDataPkt
      ∧ packet.getD 0 0 &&& nciDataCidMask < sar.maxLogicalConns
  · rw [NciSar.receivedEffect_of_data hdata.1 hdata.2, NciSar.credits_takeCredits]
    by_cases hcid : (packet.getD 0 0 &&& nciDataCidMask).toNat = cid
    · rw [if_pos hcid.symm]
      apply h.grant rfl
      rw [Entry.account, if_pos ⟨hdata.1, hcid, hdata.2⟩]
    · rw [if_neg fun he => hcid he.symm]
      apply h.note rfl
      rw [Entry.account, if_neg fun he => hcid he.2.1]
  · rw [NciSar.receivedEffect_of_not hdata]
    apply h.note rfl
    rw [Entry.account, if_neg fun he => hdata ⟨he.1, he.2.2⟩]

/-- The balance of a connection when a segment of a queue is charged. -/
theorem NciSar.credits_charge (sar : NciSar) (k : QueueKey) (cid : Nat) :
  (sar.charge k).credits cid
    = if k = .out cid ∧ sar.credits cid ≠ sarUnlimitedCredits then sar.credits cid - 1
      else sar.credits cid
  := by
  cases k with
  | cmd => simp [charge]
  | out cid' =>
      rw [charge, credits_useCredit]
      simp only [QueueKey.out.injEq, eq_comm]

/-- Every step keeps the balance. -/
theorem Step.balanced (h : Step P w w') (hw : w.sar.Sound) (cid : Nat)
    (hb : Balanced cid (w.sar.credits cid) w.env) :
  Balanced cid (w'.sar.credits cid) w'.env
  := by
  cases h with
  | inner h => apply h.balanced cid hb
  | received packet => apply balanced_received cid packet hb
  | controlInput _ => apply hb
  | input cid' input =>
      have hcredits : (w.sar.setInput cid' input).credits cid = w.sar.credits cid := by
        rw [NciSar.setInput, NciSar.credits_modifyConn]
        split <;> rfl
      simp only [World.map]
      rw [hcredits]
      apply hb
  | unscheduled => apply hb
  | scheduled =>
      simp only [World.map]
      rw [NciSar.credits_scheduleWrite]
      apply hb
  | attempted _ _ hnone =>
      rcases hw.wf.select_cases with ⟨-, -, hcredits⟩ | ⟨k, a, ha, -⟩
      · simp only [World.map]
        rw [hcredits]
        apply hb
      · simp [hnone] at ha
  | @handed a out ok _ _ ha hout =>
      rcases hw.wf.select_cases with ⟨hnone, -⟩ | ⟨k, a', ha', hown, hcharged, hcredits⟩
      · simp [hnone] at ha
      · obtain rfl : a = a' := Option.some.inj (ha.symm.trans ha')
        have hkey := hown.writingKey ha hout
        have hc : (((w.sar.select.cutSegment a out).setWritePending ok).setWriting
            (if ok then some a else none)).credits cid = (w.sar.charge k).credits cid :=
          hcredits cid
        simp only [World.map, World.record]
        rw [hc, NciSar.credits_charge]
        by_cases hk : k = .out cid
        · subst hk
          apply hb.submit hcharged
          · simp
          · rw [Entry.account, if_pos hkey]
        · apply hb.note
          · rw [if_neg fun h => hk h.1]
          · rw [Entry.account, hkey, if_neg fun h => hk (Option.some.inj h)]
  | @notStarted a out _ _ ha hout =>
      rcases hw.wf.select_cases with ⟨hnone, -⟩ | ⟨k, a', ha', hown, hcharged, hcredits⟩
      · simp [hnone] at ha
      · have hc : (((w.sar.select.cutSegment a out).setStarted false).setWriting none).credits cid
            = (w.sar.charge k).credits cid := hcredits cid
        simp only [World.map, World.record]
        rw [hc, NciSar.credits_charge]
        apply hb.refuse
        · intro hne _
          split
          · rename_i hk
            obtain ⟨rfl, -⟩ := hk
            have hnat := toNat_useCredit hcharged
            have hcr : w.sar.credits cid = (w.sar.conn cid).credits := rfl
            rw [hcr]
            omega
          · apply Nat.le_refl
        · intro hun
          rw [if_neg fun h => h.2 hun, hun]
        · rfl
        · use rfl
          have hwriting : (w.sar.select.cutSegment a out).snapshot.writing = some a := ha
          rw [hwriting]
          rfl

/-- The end of a write keeps the balance. -/
theorem Completed.balanced (h : Completed w w') (cid : Nat)
    (hb : Balanced cid (w.sar.credits cid) w.env) :
  Balanced cid (w'.sar.credits cid) w'.env
  := by
  obtain ⟨ok, -, -⟩ := h
  apply hb.note rfl rfl

/-- In every run that starts from a new or a reset layer, what has been submitted on a
connection whose balance is limited has been paid for: together with the balance it does not
exceed what has been granted since the credits were set. As long as the HAL takes every
segment, the balance is exactly what has been granted and not been submitted. -/
theorem flowControl (A : App Call.Steady) (n : Nat) {sar : NciSar} (hsar : sar.Quiet)
    (events : List (Event Call.Steady)) (cid : Nat)
    (hlimited : (A.run n (World.start sar) events).sar.credits cid ≠ sarUnlimitedCredits) :
  ((A.run n (World.start sar) events).sar.credits cid).toNat
      + (account cid (A.run n (World.start sar) events).env).submitted
      ≤ (account cid (A.run n (World.start sar) events).env).granted
    ∧ (NoRefusal (A.run n (World.start sar) events).env →
        ((A.run n (World.start sar) events).sar.credits cid).toNat
            + (account cid (A.run n (World.start sar) events).env).submitted
          = (account cid (A.run n (World.start sar) events).env).granted)
  := by
  have hstart : Balanced cid ((World.start sar).sar.credits cid) (World.start sar).env := by
    have hzero : (World.start sar).sar.credits cid = 0 := hsar.credits cid
    rw [hzero]
    intro _
    use Nat.le_refl _
    intro _
    rfl
  apply A.run_induction (fun _ h => h) (I := fun w => Balanced cid (w.sar.credits cid) w.env)
    (fun _ _ hstep hw => hstep.balanced hw cid) (fun _ _ hstep _ => hstep.balanced cid) n events
    hsar.sound hsar.rest hstart hlimited

/-- An application that takes every segment and makes no calls of its own. -/
def quietApp (P : Call → Prop) : App P where
  halStart _ := true
  halWrite _ := true
  react _ := []
  fuel := 0

/-- A packet of three bytes is sent one byte at a time. After two credits it waits; a third
one lets it go on. -/
theorem flowControl_threeBytes :
  ∃ w : World Log, w = (quietApp Call.Steady).run 0 (World.start nciSarNew)
      [.call ⟨.setInitialCredits 0 2, trivial⟩,
        .call ⟨.sendDataPacket 0 (some [1, 2, 3]) none none, trivial⟩, .idle,
        .writeCompleted true, .writeCompleted true, .call ⟨.addCredits 0 3, trivial⟩, .idle]
    ∧ w.sar.credits 0 = 2 ∧ account 0 w.env = ⟨5, 3⟩
    ∧ (w.sar.credits 0).toNat + (account 0 w.env).submitted ≤ (account 0 w.env).granted
  := by
  exact ⟨_, rfl, by decide, by decide,
    (flowControl (quietApp Call.Steady) 0 quiet_nciSarNew _ 0 (by decide)).1⟩

end Nci
