import LibNciCore.Sar.Segments

/-!
# Dealing with the HAL

The HAL is to be started before it is given anything to write, it writes one segment at a time,
and it is to be stopped only when nothing is being written. What has gone on between the layer
and the HAL is read off the log, and in every run all of it was in order, whatever functions of
the layer are called and wherever they are called from.
-/

namespace Nci

open LinkedQueue

variable {ε : Type}

/-! ### What is given to the HAL -/

/-- The bytes are one complete packet, whose payload is no longer than the limit for packets of
its type. One that another segment follows is as long as the limit. -/
def NciSar.isSegment (self : NciSar) (bytes : List UInt8) : Bool :=
  let hdr := bytes.getD 0 0
  let limit :=
    if hdr &&& nciMtMask = nciMtCmdPkt then self.controlPayloadLimit else self.dataPayloadLimit
  nciHdrSize ≤ bytes.length && bytes.length == packetPayloadLen bytes + nciHdrSize
    && packetPayloadLen bytes ≤ limit.toNat
    && (hdr &&& nciPbf = 0 || packetPayloadLen bytes == limit.toNat)

/-- The bytes of a segment. -/
theorem NciSar.isSegment_cons {sar : NciSar} {b0 b1 len : UInt8} {payload : List UInt8}
    {n : UInt8}
    (hlimit : n = if b0 &&& nciMtMask = nciMtCmdPkt then sar.controlPayloadLimit
      else sar.dataPayloadLimit)
    (hlen : payload.length = len.toNat) (hle : len.toNat ≤ n.toNat)
    (hflag : b0 &&& nciPbf = 0 ∨ len.toNat = n.toNat) :
  sar.isSegment (b0 :: b1 :: len :: payload) = true
  := by
  have hpayload : packetPayloadLen (b0 :: b1 :: len :: payload) = len.toNat := rfl
  have hhdr : (b0 :: b1 :: len :: payload).getD 0 0 = b0 := rfl
  have hbytes : (b0 :: b1 :: len :: payload).length = len.toNat + nciHdrSize := by
    rw [← hlen]
    rfl
  simp only [isSegment, hpayload, hhdr, hbytes, ← hlimit, Bool.and_eq_true, Bool.or_eq_true,
    decide_eq_true_eq, beq_iff_eq]
  constructor
  · constructor
    · constructor
      · omega
      · trivial
    · apply hle
  · apply hflag

/-- What is handed over of a packet is a segment. -/
theorem NciSar.isSegment_nextSegment (sar : NciSar) (out : NciSarPacketOut) :
  sar.isSegment (out.nextSegment (sar.maxPayloadSize out)).2.flatten = true
  := by
  obtain ⟨limit, hlimit⟩ : ∃ limit, limit = sar.maxPayloadSize out := ⟨_, rfl⟩
  rw [← hlimit]
  rw [maxPayloadSize] at hlimit
  by_cases hle : out.remaining.length ≤ limit.toNat
  · obtain ⟨-, hmt⟩ := and_not_pbf out.hdr.b0
    have hlen : (UInt8.ofNat out.remaining.length).toNat = out.remaining.length := by
      apply UInt8.toNat_ofNat_of_lt'
      apply Nat.lt_of_le_of_lt hle limit.toNat_lt
    have hseg : (out.nextSegment limit).2.flatten
        = (out.hdr.b0 &&& ~~~nciPbf) :: out.hdr.b1 :: UInt8.ofNat out.remaining.length
          :: out.remaining := by
      rw [Submission.nextSegment_of_le hle]
      by_cases hzero : out.remaining = []
      · simp [hzero]
      · simp [hzero]
    rw [hseg]
    apply isSegment_cons (n := limit)
    · rw [hlimit, hmt]
    · rw [hlen]
    · rw [hlen]
      apply hle
    · left
      rw [UInt8.and_assoc, show ~~~nciPbf &&& nciPbf = 0 by decide]
      exact UInt8.and_zero
  · obtain ⟨-, -, hmt⟩ := or_pbf out.hdr.b0
    have hlt := Nat.lt_of_not_le hle
    rw [Submission.nextSegment_of_lt hlt]
    apply isSegment_cons (n := limit)
    · rw [hlimit, hmt]
    · simp only [List.flatten_cons, List.flatten_nil, List.append_nil]
      apply List.length_take_of_le (Nat.le_of_lt hlt)
    · apply Nat.le_refl
    · right
      rfl

/-! ### Keeping an agreement with the HAL -/

/-- For the HAL, the states are the same. -/
structure NciSar.HalSame (sar sar' : NciSar) : Prop where
  started : sar'.started = sar.started
  writePending : sar'.writePending = sar.writePending
  writing : sar.writePending = true → sar'.writing = sar.writing

/-- What surrounds the layer has a property, which speaks of whether the HAL is started and of
whether a write is pending, and it does so for the state as the layer sees it. A write is pending
only when the HAL is started and a packet is being written. -/
structure World.Accords (I : Bool → Bool → ε → Prop) (w : World ε) : Prop where
  env : I w.sar.started w.sar.writePending w.env
  pending : w.sar.writePending = true → w.sar.started = true ∧ w.sar.writing.isSome = true

/-- A property that the functions of the HAL keep, if they are called in order, and that is kept
by whatever the client does in its callbacks. -/
structure SarEnv.Accords (E : SarEnv ε) (I : Bool → Bool → ε → Prop) : Prop where
  halStart : ∀ sar env, I false false env →
    I (E.halStart sar env).1 false (E.halStart sar env).2
  halStop : ∀ sar env, I true false env → I false false (E.halStop sar env)
  halWrite : ∀ chunks (sar : NciSar) env, sar.isSegment chunks.flatten = true →
    I true false env → I true (E.halWrite chunks sar env).1 (E.halWrite chunks sar env).2
  halCancelWrite : ∀ sar env, I true true env → I true false (E.halCancelWrite sar env)
  error : ∀ w : World ε, w.Accords I → (E.error w).Accords I
  handleResponse : ∀ gid oid payload (w : World ε), w.Accords I →
    (E.handleResponse gid oid payload w).Accords I
  handleNotification : ∀ gid oid payload (w : World ε), w.Accords I →
    (E.handleNotification gid oid payload w).Accords I
  handleDataPacket : ∀ cid payload (w : World ε), w.Accords I →
    (E.handleDataPacket cid payload w).Accords I
  complete : ∀ f ok (w : World ε), w.Accords I → (E.complete f ok w).Accords I
  destroy : ∀ f (w : World ε), w.Accords I → (E.destroy f w).Accords I

namespace NciSar

theorem HalSame.trans {sar sar' sar'' : NciSar} (h : HalSame sar sar') (h' : HalSame sar' sar'') :
  HalSame sar sar''
  := by
  constructor
  · rw [h'.started, h.started]
  · rw [h'.writePending, h.writePending]
  · intro hp
    rw [h'.writing, h.writing hp]
    rw [h.writePending, hp]

theorem halSame_of_fields {sar sar' : NciSar} (hstarted : sar'.started = sar.started)
    (hpending : sar'.writePending = sar.writePending) (hwriting : sar'.writing = sar.writing) :
  HalSame sar sar'
  := by
  use hstarted, hpending
  intro _
  apply hwriting

theorem HalSame.refl (sar : NciSar) :
  HalSame sar sar
  := by
  apply halSame_of_fields
  all_goals rfl

theorem halSame_setQueue (sar : NciSar) (k : QueueKey) (q : Queue) :
  HalSame sar (sar.setQueue k q)
  := by
  cases k
  all_goals
    apply halSame_of_fields
    all_goals rfl

theorem halSame_relink (sar : NciSar) (k : QueueKey) (q : Queue) (heap : Heap NciSarPacketOut) :
  HalSame sar (sar.relink k q heap sar.writing)
  := by
  cases k
  all_goals
    apply halSame_of_fields
    all_goals rfl

theorem halSame_scheduleWrite (sar : NciSar) :
  HalSame sar (nciSarScheduleWrite sar)
  := by
  rw [nciSarScheduleWrite]
  split
  · apply halSame_of_fields
    all_goals rfl
  · apply HalSame.refl

theorem halSame_takeCredits (sar : NciSar) (cid : Nat) (credits : UInt8) :
  HalSame sar (nciSarTakeCredits sar cid credits)
  := by
  have hmodify : ∀ f, HalSame sar (sar.modifyConn cid f) := by
    intro f
    apply halSame_of_fields
    all_goals rfl
  rw [nciSarTakeCredits]
  split
  · dsimp only
    split
    · apply (hmodify _).trans
      apply halSame_scheduleWrite
    · apply hmodify
  · apply HalSame.refl

theorem halSame_send (sar : NciSar) (k : QueueKey) (conn : Option ConnPtr) (b0 b1 : UInt8)
    (payload : Option (List UInt8)) (complete destroy : Option Nat) :
  HalSame sar (nciSarSend sar k conn b0 b1 payload complete destroy).2
  := by
  apply HalSame.trans _ (halSame_scheduleWrite _)
  cases k
  all_goals
    apply halSame_of_fields
    all_goals rfl

theorem halSame_useCredit (sar : NciSar) (cid : Nat) :
  HalSame sar (sar.useCredit cid)
  := by
  rw [useCredit]
  split
  · apply halSame_of_fields
    all_goals rfl
  · apply HalSame.refl

theorem started_continue (sar : NciSar) :
  (nciSarAttemptWriteContinue sar).started = sar.started
  := by
  rw [nciSarAttemptWriteContinue]
  split
  · split
    · split
      · split
        · apply (halSame_useCredit sar _).started
        · rfl
      · rfl
    · rfl
  · rfl

theorem started_pick (sar : NciSar) :
  (nciSarAttemptWritePick sar).started = sar.started
  := by
  rw [nciSarAttemptWritePick]
  split
  · rfl
  · rename_i hwriting
    have hqueue : (nciSarWriteQueue sar).2.started = sar.started := by
      rw [nciSarWriteQueue]
      split
      · rfl
      · split
        · apply (halSame_useCredit sar _).started
        · rfl
    split
    · rename_i k sar' h
      rw [h] at hqueue
      cases k
      · apply hqueue
      · apply hqueue
    · rename_i sar' h
      rw [h] at hqueue
      apply hqueue

/-- Choosing the packet to write is nothing to the HAL. -/
theorem halSame_select {sar : NciSar} (hpending : sar.writePending = false) :
  HalSame sar sar.select
  := by
  constructor
  · rw [select, started_pick, started_continue]
  · apply writePending_select
  · rw [hpending]
    intro h
    cases h

theorem halSame_cancelEffect (sar : NciSar) (id : UInt32) :
  HalSame sar (sar.cancelEffect id)
  := by
  obtain ⟨hpending, hwriting⟩ := fields_cancelEffect sar id
  apply halSame_of_fields _ hpending hwriting
  rw [cancelEffect]
  split
  · split
    · rfl
    · rfl
  · split
    · rename_i k a h
      apply (halSame_relink sar k _ _).started
    · rfl

end NciSar

/-! ### What keeps the agreement -/

namespace World.Accords

variable {I : Bool → Bool → ε → Prop} {w : World ε}

theorem map (h : w.Accords I) {f : NciSar → NciSar} (hf : w.sar.HalSame (f w.sar)) :
  (w.map f).Accords I
  := by
  constructor
  · show I (f w.sar).started (f w.sar).writePending w.env
    rw [hf.started, hf.writePending]
    apply h.env
  · show (f w.sar).writePending = true → (f w.sar).started = true ∧ _
    intro hp
    rw [hf.writePending] at hp
    rw [hf.started, World.map, hf.writing hp]
    apply h.pending hp

/-- A change that only touches fields that are nothing to the HAL. -/
theorem tune (h : w.Accords I) {f : NciSar → NciSar}
    (hstarted : (f w.sar).started = w.sar.started)
    (hpending : (f w.sar).writePending = w.sar.writePending)
    (hwriting : (f w.sar).writing = w.sar.writing) :
  (w.map f).Accords I
  := by
  apply h.map
  apply NciSar.halSame_of_fields hstarted hpending hwriting

/-- No packet is being written any more. -/
theorem drop (h : w.Accords I) (hpending : w.sar.writePending = false) :
  (w.map fun self => self.setWriting none).Accords I
  := by
  constructor
  · apply h.env
  · intro hp
    have hp' : w.sar.writePending = true := hp
    rw [hpending] at hp'
    cases hp'

end World.Accords

namespace SarEnv.Accords

variable {E : SarEnv ε} {I : Bool → Bool → ε → Prop} (hE : E.Accords I) {w : World ε}

include hE

/-- The HAL is started unless it is. -/
theorem start (h : w.Accords I) :
  (nciSarStart E w).Accords I ∧ (nciSarStart E w).sar.writePending = w.sar.writePending
    ∧ (nciSarStart E w).sar.writing = w.sar.writing
  := by
  rw [nciSarStart]
  split
  · use h
  · rename_i hstarted
    have hs : w.sar.started = false := by simpa using hstarted
    have hp : w.sar.writePending = false := by
      cases hp : w.sar.writePending with
      | false => rfl
      | true =>
          obtain ⟨hs', -⟩ := h.pending hp
          rw [hs] at hs'
          cases hs'
    constructor
    · have henv := h.env
      rw [hs, hp] at henv
      constructor
      · show I _ w.sar.writePending _
        rw [hp]
        apply hE.halStart _ _ henv
      · show w.sar.writePending = true → _
        rw [hp]
        intro h'
        cases h'
    · constructor
      · rfl
      · rfl

theorem packetOutFree (a : Nat) (h : w.Accords I) :
  (nciSarPacketOutFree E a w).Accords I
  := by
  rw [nciSarPacketOutFree]
  split
  · apply World.Accords.tune (hE.destroy _ _ h)
    all_goals rfl
  · apply h.tune
    all_goals rfl

theorem packetOutFinish (a : Nat) (ok : Bool) (h : w.Accords I) :
  (nciSarPacketOutFinish E a ok w).Accords I
  := by
  rw [nciSarPacketOutFinish]
  split
  · apply hE.packetOutFree _ (hE.complete _ _ _ h)
  · apply hE.packetOutFree _ h

/-- A segment is written only when the HAL is started. If it is not taken, no write is
pending. -/
theorem request {chunks : List (List UInt8)} (h : w.Accords I)
    (hpending : w.sar.writePending = false) (hwriting : w.sar.writing.isSome = true)
    (hseg : w.sar.isSegment chunks.flatten = true) :
  (nciSarAttemptWriteRequest E chunks w).2.Accords I
    ∧ ((nciSarAttemptWriteRequest E chunks w).1 = false →
      (nciSarAttemptWriteRequest E chunks w).2.sar.writePending = false)
  := by
  rw [nciSarAttemptWriteRequest]
  split
  · rename_i hs
    have henv := h.env
    rw [hs, hpending] at henv
    constructor
    · constructor
      · dsimp only
        show I w.sar.started _ _
        rw [hs]
        apply hE.halWrite chunks (w.sar.setWritePending true) w.env hseg henv
      · intro _
        use hs
        apply hwriting
    · apply id
  · use h
    intro _
    apply hpending

/-- The next segment of the packet being written is handed over. -/
theorem submit {a : Nat} (h : w.Accords I) (ha : w.sar.writing = some a)
    (hpending : w.sar.writePending = false) :
  (nciSarAttemptWriteSubmit E a w).2.Accords I
    ∧ ((nciSarAttemptWriteSubmit E a w).1 = false →
      (nciSarAttemptWriteSubmit E a w).2.sar.writePending = false)
  := by
  rw [nciSarAttemptWriteSubmit]
  split
  · rename_i out hout
    have hcut : (w.map fun self => self.cutSegment a out).Accords I := by
      apply h.tune
      all_goals rfl
    obtain ⟨hstart, hp, hwriting⟩ := hE.start hcut
    apply hE.request hstart
    · rw [hp]
      apply hpending
    · rw [hwriting]
      show w.sar.writing.isSome = true
      rw [ha]
      rfl
    · have hlimits : ∀ w : World ε, (nciSarStart E w).sar.isSegment = w.sar.isSegment := by
        intro w
        rw [nciSarStart]
        split
        all_goals rfl
      rw [hlimits]
      apply w.sar.isSegment_nextSegment out
  · use h
    intro _
    apply hpending

theorem attemptWriteFailed (a : Nat) (h : w.Accords I) (hpending : w.sar.writePending = false) :
  (nciSarAttemptWriteFailed E a w).Accords I
  := by
  rw [nciSarAttemptWriteFailed]
  have hfinish := hE.packetOutFinish a false (h.drop hpending)
  apply World.Accords.map (hE.error _ hfinish)
  apply NciSar.halSame_scheduleWrite

theorem attemptWrite (h : w.Accords I) :
  (nciSarAttemptWrite E w).Accords I
  := by
  rw [nciSarAttemptWrite]
  split
  · apply h
  · rename_i hp
    have hpending : w.sar.writePending = false := by simpa using hp
    have hselect : (w.map NciSar.select).Accords I :=
      h.map (NciSar.halSame_select hpending)
    have hpending' : (w.map NciSar.select).sar.writePending = false := by
      rw [← hpending]
      apply NciSar.writePending_select
    dsimp only
    split
    · rename_i a ha
      obtain ⟨hsubmit, hfailed⟩ := hE.submit hselect ha hpending'
      split
      · apply hsubmit
      · rename_i hok
        apply hE.attemptWriteFailed a hsubmit
        apply hfailed
        apply Bool.eq_false_iff.mpr hok
    · apply hselect

theorem startWrite (h : w.Accords I) :
  (nciSarStartWrite E w).Accords I
  := by
  apply hE.attemptWrite
  apply h.tune
  all_goals rfl

/-- The end of a write. What surrounds the layer already knows that no write is pending. -/
theorem writeCompleted (ok : Bool) (hwriting : w.sar.writing.isSome = true)
    (h : I w.sar.started false w.env) :
  (nciSarWriteCompleted E ok w).Accords I
  := by
  have hdone : (w.map fun self => self.setWritePending false).Accords I := by
    use h
    intro hp
    cases hp
  have hdropped := hdone.drop rfl
  obtain ⟨a, ha⟩ := Option.isSome_iff_exists.mp hwriting
  rw [nciSarWriteCompleted]
  simp only [ha]
  split
  · apply hE.attemptWrite
    split
    · apply hE.packetOutFinish _ _ hdropped
    · apply hdone
  · apply hE.error
    apply hE.packetOutFinish _ _ hdropped

theorem clearQueue (k : QueueKey) (fuel : Nat) (h : w.Accords I) :
  (nciSarClearQueue E k fuel w).Accords I
  := by
  induction fuel generalizing w with
  | zero => apply h
  | succ fuel ih =>
      rw [nciSarClearQueue]
      split
      · apply ih
        apply hE.packetOutFree
        apply h.map
        apply NciSar.halSame_setQueue
      · apply h.map
        apply NciSar.halSame_setQueue

theorem resetConns (fuel : Nat) (cids : List Nat) (h : w.Accords I) :
  (nciSarResetConns E fuel cids w).Accords I
  := by
  induction cids generalizing w with
  | nil => apply h
  | cons cid cids ih =>
      rw [nciSarResetConns]
      split
      · apply ih
        apply World.Accords.tune (hE.clearQueue _ _ h)
        all_goals rfl
      · apply h

/-- The pending write is cancelled before the HAL is stopped. -/
theorem resetIo (h : w.Accords I) :
  (nciSarResetIo E w).Accords I
  := by
  obtain ⟨w', hw', h', hp'⟩ : ∃ w' : World ε, nciSarResetIo E w
      = (if w'.sar.started then
          { w'.map (fun self => self.setStarted false) with
            env := E.halStop (w'.map fun self => self.setStarted false).sar w'.env }
        else w') ∧ w'.Accords I ∧ w'.sar.writePending = false := by
    rw [nciSarResetIo]
    refine ⟨_, rfl, ?_⟩
    cases hp : w.sar.writePending with
    | true =>
        obtain ⟨hs, hwriting⟩ := h.pending hp
        have henv := h.env
        rw [hs, hp] at henv
        rw [if_pos hwriting, if_pos (by apply hp)]
        constructor
        · constructor
          · show I w.sar.started false _
            rw [hs]
            apply hE.halCancelWrite _ _ henv
          · intro h'
            cases h'
        · rfl
    | false =>
        split
        · rw [if_neg (by simp [World.map, NciSar.setWriting, hp])]
          use h.drop hp
          apply hp
        · use h
  rw [hw']
  split
  · rename_i hs
    have henv := h'.env
    rw [hs, hp'] at henv
    constructor
    · show I false w'.sar.writePending _
      rw [hp']
      apply hE.halStop _ _ henv
    · show w'.sar.writePending = true → _
      rw [hp']
      intro h'
      cases h'
  · apply h'

theorem reset (fuel : Nat) (h : w.Accords I) :
  (nciSarReset E fuel w).Accords I
  := by
  have hclear : ((nciSarClearQueue E .cmd fuel
      ((nciSarResetConns E fuel (List.range 255) (nciSarResetIo E w)).map fun self =>
        self.setControlIn (self.controlIn.map fun _ => []))).map fun self =>
          self.setStartWriteId false).Accords I := by
    apply World.Accords.tune
    · apply hE.clearQueue
      apply World.Accords.tune (hE.resetConns _ _ (hE.resetIo h))
      all_goals rfl
    all_goals rfl
  rw [nciSarReset]
  split
  · apply hE.packetOutFinish _ _ hclear
  · apply hclear

theorem dropConns (fuel : Nat) (cids : List Nat) (h : w.Accords I) :
  (nciSarDropConns E fuel cids w).Accords I
  := by
  induction cids generalizing w with
  | nil => apply h
  | cons cid cids ih =>
      rw [nciSarDropConns]
      split
      · apply ih
        apply hE.clearQueue _ _ h
      · apply h

theorem setMaxLogicalConnections (fuel : Nat) (max : UInt8) (h : w.Accords I) :
  (nciSarSetMaxLogicalConnections E fuel max w).Accords I
  := by
  rw [nciSarSetMaxLogicalConnections]
  generalize (if max = 0 then sarDefaultMaxLogicalConnections else max) = max
  dsimp only
  split
  · apply h.tune
    all_goals rfl
  · split
    · apply World.Accords.tune (hE.dropConns fuel _ h)
      all_goals rfl
    · apply h

theorem cancel (id : UInt32) (h : w.Accords I) :
  (nciSarCancel E id w).Accords I
  := by
  have heffect : (w.map fun sar => sar.cancelEffect id).Accords I :=
    h.map (NciSar.halSame_cancelEffect _ _)
  rw [nciSarCancel_eq]
  split
  · apply hE.packetOutFree _ heffect
  · apply heffect

/-- Every call. -/
theorem perform (fuel : Nat) (c : Call) (h : w.Accords I) :
  (c.perform E fuel w).Accords I
  := by
  cases c with
  | start => apply (hE.start h).1
  | reset => apply hE.reset fuel h
  | setMaxLogicalConnections max => apply hE.setMaxLogicalConnections fuel max h
  | setMaxControlPayloadSize max =>
      rw [Call.perform]
      apply h.tune
      all_goals rfl
  | setMaxDataPayloadSize max =>
      rw [Call.perform]
      apply h.tune
      all_goals rfl
  | setInitialCredits cid credits =>
      rw [Call.perform]
      apply h.map
      rw [nciSarSetInitialCredits]
      split
      · apply NciSar.halSame_of_fields
        all_goals rfl
      · apply NciSar.HalSame.refl
  | addCredits cid credits =>
      rw [Call.perform]
      apply h.map
      rw [nciSarAddCredits]
      split
      · apply NciSar.halSame_takeCredits
      · apply NciSar.HalSame.refl
  | sendCommand gid oid payload complete destroy =>
      rw [Call.perform]
      apply h.map
      apply NciSar.halSame_send
  | sendDataPacket cid payload complete destroy =>
      rw [Call.perform]
      apply h.map
      rw [nciSarSendDataPacket]
      split
      · apply NciSar.halSame_send
      · apply NciSar.HalSame.refl
  | cancel id => apply hE.cancel id h

/-! ### Receiving -/

theorem handleControlPacket (mt gid oid : UInt8) (payload : List UInt8) (h : w.Accords I) :
  (nciSarHalHandleControlPacket E mt gid oid payload w).Accords I
  := by
  rw [nciSarHalHandleControlPacket]
  split
  · apply hE.handleResponse _ _ _ _ h
  · apply hE.handleNotification _ _ _ _ h

theorem handleControlSegment (packet : List UInt8) (h : w.Accords I) :
  (nciSarHalHandleControlSegment E packet w).Accords I
  := by
  have hinput : ∀ {w : World ε}, w.Accords I → ∀ input : NciSar → Option (List UInt8),
      (w.map fun self => self.setControlIn (input self)).Accords I := by
    intro w h input
    apply h.tune
    all_goals rfl
  rw [nciSarHalHandleControlSegment]
  dsimp only
  split
  · split
    · split
      · apply hinput
        apply hE.handleControlPacket
        apply hinput h
      · apply hinput h
    · apply hE.error _ h
  · split
    · apply hinput h
    · apply hE.handleControlPacket _ _ _ _ h

theorem handleDataSegment (packet : List UInt8) (h : w.Accords I) :
  (nciSarHalHandleDataSegment E packet w).Accords I
  := by
  have hinput : ∀ {w : World ε}, w.Accords I → ∀ (cid : Nat)
      (input : NciSar → Option (List UInt8)),
      (w.map fun self => self.setInput cid (input self)).Accords I := by
    intro w h cid input
    apply h.tune
    all_goals rfl
  have hcredits : (w.map fun self => nciSarTakeCredits self
      (packet.getD 0 0 &&& nciDataCidMask).toNat (packet.getD 1 0 &&& nciDataCrMask)).Accords I :=
    h.map (NciSar.halSame_takeCredits _ _ _)
  rw [nciSarHalHandleDataSegment]
  dsimp only
  split
  · split
    · split
      · have hpassed := hE.handleDataPacket (packet.getD 0 0 &&& nciDataCidMask)
          (((World.sar (w.map fun self => nciSarTakeCredits self
            (packet.getD 0 0 &&& nciDataCidMask).toNat
            (packet.getD 1 0 &&& nciDataCrMask))).conn
            (packet.getD 0 0 &&& nciDataCidMask).toNat).input.getD []
              ++ packetPayload packet |>.drop nciHdrSize) _ (hinput hcredits
            (packet.getD 0 0 &&& nciDataCidMask).toNat fun _ => none)
        split
        · apply hinput hpassed
        · apply World.Accords.tune hpassed
          all_goals rfl
      · apply hinput hcredits
    · split
      · apply hinput hcredits
      · apply hE.handleDataPacket _ _ _ hcredits
  · apply hE.error _ h

theorem handleSegment (packet : List UInt8) (h : w.Accords I) :
  (nciSarHalHandleSegment E packet w).Accords I
  := by
  rw [nciSarHalHandleSegment]
  split
  · apply hE.handleDataSegment _ h
  · split
    · apply hE.handleControlSegment _ h
    · apply hE.error _ h

theorem readPackets (fuel : Nat) (bytes : List UInt8) (h : w.Accords I) :
  (nciSarReadPackets E fuel bytes w).2.Accords I
  := by
  induction fuel generalizing bytes w with
  | zero => apply h
  | succ fuel ih =>
      rw [nciSarReadPackets]
      split
      · apply ih
        apply hE.handleSegment _ h
      · apply h

theorem readBuffer (fuel : Nat) (h : w.Accords I) :
  (nciSarReadBuffer E fuel w).Accords I
  := by
  induction fuel generalizing w with
  | zero => apply h
  | succ fuel ih =>
      rw [nciSarReadBuffer]
      dsimp only
      split
      · apply ih
        apply World.Accords.tune (hE.handleSegment _ h)
        all_goals rfl
      · apply h

/-- Bytes are read. -/
theorem read (data : List UInt8) (h : w.Accords I) :
  (nciSarHalClientRead E data w).Accords I
  := by
  have hfirst : (if (w.sar.readBuf.getD []).length = 0 then
      nciSarReadPackets E data.length data w else (data, w)).2.Accords I := by
    split
    · apply hE.readPackets _ _ h
    · apply h
  rw [nciSarHalClientRead]
  generalize (if (w.sar.readBuf.getD []).length = 0 then
    nciSarReadPackets E data.length data w else (data, w)) = r at hfirst
  dsimp only
  split
  · apply hE.readBuffer
    apply hfirst.tune
    all_goals rfl
  · apply hfirst

end SarEnv.Accords

/-! ### The log of the dealings -/

/-- How things stand between the layer and the HAL. -/
structure HalState where
  started : Bool
  writePending : Bool
  deriving DecidableEq, Repr

namespace HalState

/-- At first the HAL is not started. -/
def init : HalState := ⟨false, false⟩

/-- How things stand after an entry, unless the entry is out of order. -/
def next (s : HalState) : Entry → Option HalState
  | .halStart ok _ => if !s.started && !s.writePending then some ⟨ok, false⟩ else none
  | .halStop => if s.started && !s.writePending then some ⟨false, false⟩ else none
  | .halWrite chunks ok sar =>
      if s.started && !s.writePending && sar.isSegment chunks.flatten then some ⟨true, ok⟩
      else none
  | .halCancelWrite => if s.started && s.writePending then some ⟨true, false⟩ else none
  | .completed _ _ => if s.started && s.writePending then some ⟨true, false⟩ else none
  | _ => some s

/-- How things stand after all that is in a log, unless something in it is out of order. -/
def after (s : HalState) (log : Log) : Option HalState := log.foldlM next s

theorem after_record (s : HalState) (w : World Log) (e : Entry) :
  s.after (w.record e).env = (s.after w.env).bind fun s' => s'.next e
  := by
  rw [World.record, after, after, List.foldlM_append]
  congr 1
  funext s'
  apply bind_pure

/-- The log is in order, and how things stand is as the layer sees it. -/
def Recorded (started pending : Bool) (log : Log) : Prop :=
  init.after log = some ⟨started, pending⟩

/-- An entry that is no dealing with the HAL. -/
theorem next_accords {w : World Log} (h : w.Accords Recorded) {e : Entry}
    (he : ∀ s : HalState, s.next e = some s) :
  (w.record e).Accords Recorded
  := by
  constructor
  · show init.after (w.record e).env = _
    rw [after_record, h.env]
    apply he
  · apply h.pending

end HalState

namespace App

variable {P : Call → Prop} (A : App P)

/-- The surroundings keep the log in order, if the calls that are made from inside callbacks
do. -/
theorem accords_envWith {perform : List (Subtype P) → World Log → World Log}
    (hperform : ∀ calls (w : World Log), w.Accords HalState.Recorded →
      (perform calls w).Accords HalState.Recorded) :
  (A.envWith perform).Accords HalState.Recorded
  := by
  have hnext : ∀ {e : Entry} {s s' : HalState} {log : Log},
      HalState.init.after log = some s → s.next e = some s' →
      HalState.init.after (log ++ [e]) = some s' := by
    intro e s s' log hlog he
    have hrecord := HalState.after_record HalState.init ⟨nciSarNew, log⟩ e
    rw [hlog] at hrecord
    apply hrecord.trans he
  constructor
  · intro sar log h
    apply hnext h
    rfl
  · intro sar log h
    apply hnext h
    rfl
  · intro chunks sar log hseg h
    apply hnext h
    have hsnapshot : sar.snapshot.isSegment chunks.flatten = true := hseg
    rw [HalState.next, hsnapshot]
    rfl
  · intro sar log h
    apply hnext h
    rfl
  · intro w h
    apply hperform
    apply HalState.next_accords h
    intro s
    rfl
  · intro gid oid payload w h
    apply hperform
    apply HalState.next_accords h
    intro s
    rfl
  · intro gid oid payload w h
    apply hperform
    apply HalState.next_accords h
    intro s
    rfl
  · intro cid payload w h
    apply hperform
    apply HalState.next_accords h
    intro s
    rfl
  · intro f ok w h
    apply hperform
    apply HalState.next_accords h
    intro s
    rfl
  · intro f w h
    apply hperform
    apply HalState.next_accords h
    intro s
    rfl

/-- A call keeps the log in order. -/
theorem accords_call {E : SarEnv Log} (hE : E.Accords HalState.Recorded) (c : Subtype P)
    {w : World Log} (h : w.Accords HalState.Recorded) :
  (A.call E c w).Accords HalState.Recorded
  := by
  apply hE.perform
  apply HalState.next_accords h
  intro s
  rfl

/-- The surroundings keep the log in order, however deep callbacks are nested. -/
theorem accords_env (n : Nat) :
  (A.env n).Accords HalState.Recorded
  := by
  induction n with
  | zero =>
      apply A.accords_envWith
      intro calls w h
      apply h
  | succ n ih =>
      apply A.accords_envWith
      intro calls
      induction calls with
      | nil =>
          intro w h
          apply h
      | cons c calls ih' =>
          intro w h
          apply ih'
          apply A.accords_call ih c h

/-- An event keeps the log in order. -/
theorem accords_step (n : Nat) {w : World Log} (h : w.Accords HalState.Recorded) (e : Event P) :
  (A.step n w e).Accords HalState.Recorded
  := by
  have hE := A.accords_env n
  cases e with
  | call c => apply A.accords_call hE c h
  | segment packet =>
      apply hE.handleSegment
      apply HalState.next_accords h
      intro s
      rfl
  | writeCompleted ok =>
      rw [App.step]
      split
      · rename_i hp
        obtain ⟨hs, hwriting⟩ := h.pending hp
        apply hE.writeCompleted (w := w.record _) ok hwriting
        have henv := h.env
        rw [hs, hp] at henv
        show HalState.init.after (w.record (.completed ok w.sar.snapshot)).env
          = some ⟨w.sar.started, false⟩
        rw [HalState.after_record, henv, hs]
        rfl
      · apply h
  | idle =>
      rw [App.step]
      split
      · apply hE.startWrite
        apply HalState.next_accords h
        intro s
        rfl
      · apply h
  | halError =>
      apply hE.error
      apply HalState.next_accords h
      intro s
      rfl

end App

/-! ### Runs in which bytes are read -/

/-- What comes to the layer from outside: an event, or bytes that the HAL has read. -/
inductive Input (P : Call → Prop) where
  | event (e : Event P)
  | read (data : List UInt8)

variable {P : Call → Prop}

/-- The layer deals with what comes from outside. -/
def App.feed (A : App P) (n : Nat) (w : World Log) : Input P → World Log
  | .event e => A.step n w e
  | .read data => nciSarHalClientRead (A.env n) data w

/-- The layer deals with one thing after another. -/
def App.serve (A : App P) (n : Nat) (w : World Log) (inputs : List (Input P)) : World Log :=
  inputs.foldl (A.feed n) w

theorem App.accords_serve (A : App P) (n : Nat) {w : World Log}
    (h : w.Accords HalState.Recorded) (inputs : List (Input P)) :
  (A.serve n w inputs).Accords HalState.Recorded
  := by
  induction inputs generalizing w with
  | nil => apply h
  | cons i inputs ih =>
      apply ih
      cases i with
      | event e => apply A.accords_step n h
      | read data => apply (A.accords_env n).read _ h

/-- In every run the dealings with the HAL are in order, and they stand as the layer sees them:
the HAL is started only when it is not, it is given one segment at a time, a complete packet
within the limits, and only when it is started, it is stopped only when nothing is being written,
and a write is cancelled or reported only while it is pending. A packet is being written
whenever a write is pending. A run in which a pointer into a replaced table of connections is
followed goes on here with the packet as it is; what the code does then is undefined. -/
theorem halInOrder (A : App P) (n : Nat) (inputs : List (Input P)) :
  HalState.init.after (A.serve n (World.start nciSarNew) inputs).env
      = some ⟨(A.serve n (World.start nciSarNew) inputs).sar.started,
          (A.serve n (World.start nciSarNew) inputs).sar.writePending⟩
    ∧ ((A.serve n (World.start nciSarNew) inputs).sar.writePending = true →
      (A.serve n (World.start nciSarNew) inputs).sar.writing.isSome = true)
  := by
  have hstart : (World.start nciSarNew).Accords HalState.Recorded := by
    constructor
    · rfl
    · intro h
      cases h
  have h := A.accords_serve n hstart inputs
  use h.env
  intro hp
  apply (h.pending hp).2

end Nci
