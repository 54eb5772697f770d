import LibNciCore.Sar.Lists

/-!
# What the functions do to the lists

For every function that edits the queues: the cases it distinguishes, and what it does to the
lists of packets. The functions that do not edit the queues leave the lists alone.
-/

namespace Nci

open LinkedQueue

namespace NciSar

variable {sar : NciSar}

/-! ### Limits and credits -/

theorem sameQueues_takeCredits (sar : NciSar) (cid : Nat) (credits : UInt8) :
  SameQueues sar (nciSarTakeCredits sar cid credits)
  := by
  rw [nciSarTakeCredits]
  split
  · have hconn := sameQueues_modifyConn sar cid (fun conn =>
      { conn with credits := if 0xff - conn.credits < credits then sarUnlimitedCredits
                             else conn.credits + credits }) rfl
    simp only
    split
    · apply hconn.trans (sameQueues_scheduleWrite _)
    · apply hconn
  · constructor <;> intros <;> rfl

theorem limits_scheduleWrite (sar : NciSar) :
  (nciSarScheduleWrite sar).controlPayloadLimit = sar.controlPayloadLimit
    ∧ (nciSarScheduleWrite sar).dataPayloadLimit = sar.dataPayloadLimit
  := by
  rw [nciSarScheduleWrite]
  split <;> exact ⟨rfl, rfl⟩

theorem WF.scheduleWrite (hw : sar.WF) :
  (nciSarScheduleWrite sar).WF
  := by
  apply (sameQueues_scheduleWrite sar).wf hw
  · rw [(limits_scheduleWrite sar).1]
    apply hw.control
  · rw [(limits_scheduleWrite sar).2]
    apply hw.data

theorem WF.modifyConn (hw : sar.WF) (cid : Nat)
    (f : NciSarLogicalConnection → NciSarLogicalConnection)
    (hf : (f (sar.conn cid)).out = (sar.conn cid).out) :
  (sar.modifyConn cid f).WF
  := (sameQueues_modifyConn sar cid f hf).wf hw hw.control hw.data

theorem WF.takeCredits (hw : sar.WF) (cid : Nat) (credits : UInt8) :
  (nciSarTakeCredits sar cid credits).WF
  := by
  rw [nciSarTakeCredits]
  split
  · have hconn : (sar.modifyConn cid fun conn =>
        { conn with credits := if 0xff - conn.credits < credits then sarUnlimitedCredits
                               else conn.credits + credits }).WF := by
      apply hw.modifyConn
      rfl
    simp only
    split
    · apply hconn.scheduleWrite
    · apply hconn
  · apply hw

theorem WF.useCredit (hw : sar.WF) (cid : Nat) :
  (sar.useCredit cid).WF
  := by
  rw [NciSar.useCredit]
  split
  · apply hw.modifyConn
    rfl
  · apply hw

/-! ### Queueing a packet -/

/-- The packet that is queued. -/
def newPacket (sar : NciSar) (conn : Option ConnPtr) (b0 b1 : UInt8)
    (payload : Option (List UInt8)) (complete destroy : Option Nat) : NciSarPacketOut :=
  { next := none, conn := conn, hdr := ⟨b0, b1, 0⟩, payload := payload, payloadPos := 0,
    complete := complete, destroy := destroy, id := sar.nextPacketId }

/-- A queued packet comes last. Where the last pointer is lost, the packets that were queued
before are lost too. -/
theorem WF.send (hw : sar.WF) (k : QueueKey) (b0 b1 : UInt8) (payload : Option (List UInt8))
    (complete destroy : Option Nat) :
  (nciSarSend sar k (sar.connPtr k) b0 b1 payload complete destroy).2.WF
    ∧ (nciSarSend sar k (sar.connPtr k) b0 b1 payload complete destroy).2.lists
      = sar.lists.append k (if (sar.queue k).last = none then [] else sar.queued k)
          (sar.newPacket (sar.connPtr k) b0 b1 payload complete destroy)
    ∧ ((nciSarSend sar k (sar.connPtr k) b0 b1 payload complete destroy).2.queue k).last
      = some sar.nextAddr
    ∧ ∀ k' ≠ k, (nciSarSend sar k (sar.connPtr k) b0 b1 payload complete destroy).2.queue k'
        = sar.queue k'
  := by
  obtain ⟨out, hout⟩ : ∃ out, out = sar.newPacket (sar.connPtr k) b0 b1 payload complete destroy :=
    ⟨_, rfl⟩
  obtain ⟨hwa, hqa⟩ := hw.alloc out
  have hheap : (sar.alloc out).heap sar.nextAddr = some out := Function.update_self _ _ _
  have hnext : Node.next out = none := by rw [hout]; rfl
  have hnot : sar.nextAddr ∉ sar.queued k := fun ha =>
    Nat.lt_irrefl _ (hw.owned k _ ha).1
  have hqueue : (sar.alloc out).queue k = sar.queue k := by cases k <;> rfl
  have hchain := hwa.chain k
  rw [hqa, hqueue] at hchain
  have hown : (sar.alloc out).Owned k sar.nextAddr := by
    use Nat.lt_succ_self _, out
    constructor
    · rw [packet, hheap, hout]
      rfl
    · rw [hout]
      cases k <;> rfl
  have hspec : ∃ S, Relinked (sar.alloc out).heap
        (enqueue (sar.alloc out).heap (sar.queue k) sar.nextAddr).1 S
      ∧ (∀ a ∈ S, (sar.alloc out).Owned k a)
      ∧ Chain (enqueue (sar.alloc out).heap (sar.queue k) sar.nextAddr).1
          (enqueue (sar.alloc out).heap (sar.queue k) sar.nextAddr).2.first
          ((if (sar.queue k).last = none then [] else sar.queued k) ++ [sar.nextAddr])
      ∧ (enqueue (sar.alloc out).heap (sar.queue k) sar.nextAddr).2.last = some sar.nextAddr := by
    by_cases hlast : (sar.queue k).last = none
    · obtain ⟨hc, hl, hh⟩ := enqueue_of_last_eq_none hlast hheap hnext
      use []
      rw [if_pos hlast, hh]
      rw [hh] at hc
      exact ⟨Relinked.refl _ _, by simp, hc, hl⟩
    · have hlast' := (hw.last k).resolve_left hlast
      obtain ⟨hc, hl, hr⟩ := enqueue_spec hchain hlast' hheap hnext hnot
      use sar.queued k, hr
      rw [if_neg hlast]
      constructor
      · intro a ha
        apply hwa.owned k a
        rw [hqa]
        apply ha
      · use hc, hl
  obtain ⟨S, hr, hS, hc, hl⟩ := hspec
  obtain ⟨hwf, hq, hne, hp⟩ := hwa.relink sar.writing hr hS hc
    (by right; simpa using hl) (by
      intro a ha
      rcases List.mem_append.mp ha with ha | ha
      · split at ha
        · simp at ha
        · apply hwa.owned k a
          rw [hqa]
          apply ha
      · obtain rfl : a = sar.nextAddr := by simpa using ha
        apply hown) (by
      intro a ha
      obtain ⟨hk, hn⟩ := hwa.writing a ha
      have hlt : a < sar.nextAddr := by
        obtain ⟨k', hk', -⟩ := (hw.writing a ha).1
        apply hk'
      use hk
      constructor
      · intro hmem
        rcases List.mem_append.mp hmem with hmem | hmem
        · split at hmem
          · simp at hmem
          · apply hn k
            rw [hqa]
            apply hmem
        · apply Nat.ne_of_lt hlt (by simpa using hmem)
      · intro k' _
        apply hn k')
  obtain ⟨sar', hsar'⟩ : ∃ sar', sar' = (sar.alloc out).relink k
      (enqueue (sar.alloc out).heap (sar.queue k) sar.nextAddr).2
      (enqueue (sar.alloc out).heap (sar.queue k) sar.nextAddr).1 sar.writing := ⟨_, rfl⟩
  rw [← hsar'] at hwf hq hne hp
  have hsend : (nciSarSend sar k (sar.connPtr k) b0 b1 payload complete destroy).2
      = nciSarScheduleWrite (sar'.setLastPacketId sar.nextPacketId) := by
    rw [hsar', hout, ← hqueue, hout]
    rfl
  have hsame : SameQueues sar' (sar'.setLastPacketId sar.nextPacketId) := by
    constructor
    · rfl
    · intro k'
      cases k' <;> rfl
    · rfl
    · rfl
    · rfl
  have hsame' := hsame.trans (sameQueues_scheduleWrite _)
  rw [hsend]
  constructor
  · apply WF.scheduleWrite
    apply hsame.wf hwf hwf.control hwf.data
  constructor
  · rw [hsame'.lists, hsar', lists_relink (hsar' ▸ hq) (hsar' ▸ hne) (hsar' ▸ hp), ← hout]
    apply Lists.ext
    · funext k'
      by_cases hk : k' = k
      · subst hk
        simp [Lists.relist, Lists.append]
      · simp [Lists.relist, Lists.append, hk, hqa]
    · funext a
      by_cases ha : a = sar.nextAddr
      · subst ha
        simp only [Lists.relist, Lists.append, lists_packet, packet, hheap, lists_nextAddr,
          Function.update_self, Option.map_some]
        rw [hout]
        rfl
      · have hold : (sar.alloc out).heap a = sar.heap a := Function.update_of_ne ha _ _
        simp [Lists.relist, Lists.append, packet, hold, ha]
    · rfl
    · rfl
  constructor
  · rw [hsame'.queue, hsar', queue_relink_self]
    apply hl
  · intro k' hk
    rw [hsame'.queue, hsar', queue_relink_of_ne _ _ _ _ hk]
    cases k' <;> rfl

/-! ### Choosing a packet to write -/

/-- The connection of a packet that belongs to a connection. -/
theorem Owned.conn {cid a : Nat} (h : sar.Owned (.out cid) a) :
  (sar.heap a).bind NciSarPacketOut.conn = some ⟨sar.connTable, cid⟩
  := by
  obtain ⟨-, out, hout, hconn⟩ := h
  obtain ⟨x, hx, rfl⟩ := Option.map_eq_some_iff.mp hout
  rw [hx]
  apply hconn

/-- A command has no connection. -/
theorem Owned.conn_cmd {a : Nat} (h : sar.Owned .cmd a) :
  (sar.heap a).bind NciSarPacketOut.conn = none
  := by
  obtain ⟨-, out, hout, hconn⟩ := h
  obtain ⟨x, hx, rfl⟩ := Option.map_eq_some_iff.mp hout
  rw [hx]
  apply hconn

/-- Where the next segment of a queue is charged. -/
def charge (sar : NciSar) : QueueKey → NciSar
  | .cmd => sar
  | .out cid => sar.useCredit cid

/-- A segment of the queue may be sent: commands need no credits. -/
def Charged (sar : NciSar) : QueueKey → Prop
  | .cmd => True
  | .out cid => (sar.conn cid).credits ≠ 0

theorem sameQueues_charge (sar : NciSar) (k : QueueKey) :
  SameQueues sar (sar.charge k)
  := by
  cases k with
  | cmd => constructor <;> intros <;> rfl
  | out cid => apply sameQueues_useCredit

theorem WF.charge (hw : sar.WF) (k : QueueKey) :
  (sar.charge k).WF
  := by
  cases k with
  | cmd => apply hw
  | out cid => apply hw.useCredit

/-- The state with the packet that is being written put back to its queue. -/
def putBackState (sar : NciSar) (k : QueueKey) (a : Nat) : NciSar :=
  sar.relink k (putFront sar.heap (sar.queue k) a).2 (putFront sar.heap (sar.queue k) a).1 none

/-- The state with the first packet of a queue taken to be written. -/
def pickState (sar : NciSar) (k : QueueKey) : NciSar :=
  sar.relink k (dequeue sar.heap (sar.queue k)).2.2 (dequeue sar.heap (sar.queue k)).2.1
    (dequeue sar.heap (sar.queue k)).1

/-- What happens to the packet that is being written: nothing is being written, or its next
segment is charged, or it has no credits and is put back. -/
theorem WF.continue_cases (hw : sar.WF) :
  (sar.writing = none ∧ nciSarAttemptWriteContinue sar = sar)
    ∨ (∃ k a, sar.writing = some a ∧ sar.Owned k a ∧ sar.Charged k
        ∧ nciSarAttemptWriteContinue sar = sar.charge k)
    ∨ (∃ cid a, sar.writing = some a ∧ sar.Owned (.out cid) a ∧ (sar.conn cid).credits = 0
        ∧ nciSarAttemptWriteContinue sar = sar.putBackState (.out cid) a)
  := by
  cases ha : sar.writing with
  | none =>
      left
      simp [nciSarAttemptWriteContinue, ha]
  | some a =>
      right
      obtain ⟨⟨k, hk⟩, -⟩ := hw.writing a ha
      cases k with
      | cmd =>
          left
          use .cmd, a, rfl, hk, trivial
          simp [nciSarAttemptWriteContinue, ha, hk.conn_cmd, NciSar.charge]
      | out cid =>
          by_cases hcredits : (sar.conn cid).credits = 0
          · right
            use cid, a, rfl, hk, hcredits
            simp [nciSarAttemptWriteContinue, ha, hk.conn, hcredits, putBackState, queue]
          · left
            use .out cid, a, rfl, hk, hcredits
            simp [nciSarAttemptWriteContinue, ha, hk.conn, hcredits, NciSar.charge]

/-- A connection can send if it has packets and credits. -/
theorem WF.canSend_iff (hw : sar.WF) (cid : Nat) :
  sar.canSend cid = true ↔ sar.queued (.out cid) ≠ [] ∧ (sar.conn cid).credits ≠ 0
  := by
  have hfirst : (sar.conn cid).out.first.isSome = true ↔ sar.queued (.out cid) ≠ [] :=
    hw.first_isSome (.out cid)
  rw [canSend, Bool.and_eq_true, hfirst, bne_iff_ne]

/-- Nothing can be sent: there is no command, and no connection that has packets has
credits. -/
def Idle (sar : NciSar) : Prop :=
  sar.queued .cmd = [] ∧ ∀ cid ∈ sar.cids, sar.canSend cid = false

/-- The queue to send from has a packet and is charged, or nothing can be sent. -/
theorem WF.writeQueue_cases (hw : sar.WF) :
  (∃ k, sar.queued k ≠ [] ∧ sar.Charged k ∧ nciSarWriteQueue sar = (some k, sar.charge k))
    ∨ (sar.Idle ∧ nciSarWriteQueue sar = (none, sar))
  := by
  have hcmd : sar.cmd.first.isSome = true ↔ sar.queued .cmd ≠ [] := hw.first_isSome .cmd
  by_cases hc : sar.cmd.first.isSome = true
  · left
    use .cmd, hcmd.mp hc, trivial
    rw [nciSarWriteQueue, if_pos hc]
    rfl
  · have hnil : sar.queued .cmd = [] := by
      by_contra hne
      apply hc (hcmd.mpr hne)
    cases hfind : sar.cids.find? sar.canSend with
    | none =>
        right
        rw [nciSarWriteQueue, if_neg hc, hfind]
        use ⟨hnil, by simpa using hfind⟩
    | some cid =>
        left
        obtain ⟨hq, hcredits⟩ := (hw.canSend_iff cid).mp (List.find?_some hfind)
        use .out cid, hq, hcredits
        rw [nciSarWriteQueue, if_neg hc, hfind]
        rfl

/-- What is picked: nothing if a packet is being written already or nothing can be sent,
else the first packet of the queue to send from. -/
theorem WF.pick_cases (hw : sar.WF) :
  (∃ a, sar.writing = some a ∧ nciSarAttemptWritePick sar = sar)
    ∨ (sar.writing = none ∧ sar.Idle ∧ nciSarAttemptWritePick sar = sar)
    ∨ (∃ k a l, sar.writing = none ∧ sar.queued k = a :: l ∧ sar.Charged k
        ∧ nciSarAttemptWritePick sar = (sar.charge k).pickState k)
  := by
  cases ha : sar.writing with
  | some a =>
      left
      use a, rfl
      simp [nciSarAttemptWritePick, ha]
  | none =>
      right
      rcases hw.writeQueue_cases with ⟨k, hq, hk, heq⟩ | ⟨hidle, heq⟩
      · right
        obtain ⟨a, l, hl⟩ := List.exists_cons_of_ne_nil hq
        use k, a, l, rfl, hl, hk
        simp [nciSarAttemptWritePick, ha, heq, pickState]
      · left
        use rfl, hidle
        simp [nciSarAttemptWritePick, ha, heq]

end NciSar

end Nci
