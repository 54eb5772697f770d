import LibNciCore.Sar.Fifo

/-!
# The layer does not fall asleep

A write is scheduled whenever there is something to write and nothing is being written: this
is how all functions of the layer leave it, but two. Setting the initial credits of a
connection that has packets does not schedule a write, and neither does the report that a
write has failed. In a run in which nothing is overlooked or abandoned in these two ways, a
layer that waits neither for the HAL nor for the idle callback has nothing to write.
-/

namespace Nci

open LinkedQueue

/-- If there is something to write, a write is scheduled. -/
def NciSar.Awake (sar : NciSar) : Prop := nciSarCanWrite sar = true → sar.startWriteId = true

/-- A connection that has packets gets its initial credits while nothing is being written and
no write is scheduled. -/
def Entry.Overlooks : Entry → Prop
  | .called (.setInitialCredits cid credits) sar =>
      cid < sar.maxLogicalConns ∧ credits ≠ 0 ∧ (sar.conn cid.toNat).out.first.isSome = true
        ∧ sar.writing = none ∧ sar.startWriteId = false
  | _ => False

instance : DecidablePred Entry.Overlooks
  | .called (.setInitialCredits cid credits) sar =>
      inferInstanceAs (Decidable (cid < sar.maxLogicalConns ∧ credits ≠ 0
        ∧ (sar.conn cid.toNat).out.first.isSome = true ∧ sar.writing = none
        ∧ sar.startWriteId = false))
  | .called .start _ | .called .reset _ | .called (.setMaxLogicalConnections _) _
  | .called (.setMaxControlPayloadSize _) _ | .called (.setMaxDataPayloadSize _) _
  | .called (.addCredits _ _) _ | .called (.sendCommand _ _ _ _ _) _
  | .called (.sendDataPacket _ _ _ _) _ | .called (.cancel _) _ | .received _ _
  | .completed _ _ | .idle | .halError | .halStart _ _ | .halStop | .halWrite _ _ _
  | .halCancelWrite | .error | .response _ _ _ | .notification _ _ _ | .dataPacket _ _
  | .complete _ _ | .destroy _ => inferInstanceAs (Decidable False)

/-- A write fails while there is something else to write, and no write is scheduled. -/
def Entry.Abandons : Entry → Prop
  | .completed false sar =>
      nciSarCanWrite (sar.setWriting none) = true ∧ sar.startWriteId = false
  | _ => False

instance : DecidablePred Entry.Abandons
  | .completed false sar =>
      inferInstanceAs (Decidable (nciSarCanWrite (sar.setWriting none) = true
        ∧ sar.startWriteId = false))
  | .completed true _ | .called _ _ | .received _ _ | .idle | .halError | .halStart _ _
  | .halStop | .halWrite _ _ _ | .halCancelWrite | .error | .response _ _ _
  | .notification _ _ _ | .dataPacket _ _ | .complete _ _ | .destroy _ =>
      inferInstanceAs (Decidable False)

/-- A write is abandoned only if it fails. -/
theorem Entry.Abandons.fails {e : Entry} (h : e.Abandons) :
  e.Fails
  := by
  cases e with
  | completed ok sar =>
      cases ok with
      | false => rfl
      | true => cases h
  | _ => cases h

/-- Neither the HAL nor the main loop has anything to do for the layer. -/
def NciSar.AtRest (sar : NciSar) : Prop := sar.startWriteId = false ∧ sar.writePending = false

namespace NciSar

variable {sar sar' : NciSar}

theorem canWrite_eq_true :
  nciSarCanWrite sar = true ↔ sar.writing = none
    ∧ (sar.cmd.first.isSome = true ∨ ∃ cid ∈ sar.cids, sar.canSend cid = true)
  := by
  rw [nciSarCanWrite, Bool.and_eq_true, Bool.or_eq_true, Option.isNone_iff_eq_none,
    List.any_eq_true]

/-- What cannot write more than before is as awake as before. -/
theorem Awake.of_le (h : sar.Awake) (hwriting : sar'.writing = sar.writing)
    (hstart : sar'.startWriteId = sar.startWriteId) (hcids : sar'.cids = sar.cids)
    (hcmd : sar'.cmd.first.isSome = true → sar.cmd.first.isSome = true)
    (hconn : ∀ cid, sar'.canSend cid = true → sar.canSend cid = true) :
  sar'.Awake
  := by
  intro hcan
  obtain ⟨hnone, hsome⟩ := canWrite_eq_true.mp hcan
  rw [hstart]
  apply h
  apply canWrite_eq_true.mpr
  use hwriting ▸ hnone
  rcases hsome with hfirst | ⟨cid, hcid, hsend⟩
  · left
    apply hcmd hfirst
  · right
    use cid, hcids ▸ hcid, hconn cid hsend

theorem awake_of_writing {a : Nat} (h : sar.writing = some a) :
  sar.Awake
  := by
  intro hcan
  obtain ⟨hnone, -⟩ := canWrite_eq_true.mp hcan
  simp [h] at hnone

theorem awake_scheduleWrite (sar : NciSar) :
  (nciSarScheduleWrite sar).Awake
  := by
  rw [nciSarScheduleWrite]
  split
  · intro _
    rfl
  · rename_i h
    intro hcan
    cases hstart : sar.startWriteId with
    | true => rfl
    | false =>
        apply absurd _ h
        rw [hstart, hcan]
        rfl

theorem WF.cmd_first (hw : sar.WF) :
  sar.cmd.first.isSome = true ↔ sar.queued .cmd ≠ []
  := hw.first_isSome .cmd

/-- Nothing is written if nothing can be sent. -/
theorem WF.awake_of_idle (hw : sar.WF) (h : sar.Idle) :
  sar.Awake
  := by
  intro hcan
  obtain ⟨-, hfirst | ⟨cid, hcid, hsend⟩⟩ := canWrite_eq_true.mp hcan
  · apply absurd h.1 (hw.cmd_first.mp hfirst)
  · simp [h.2 cid hcid] at hsend

/-- A layer that is awake and at rest has nothing to write. -/
theorem Awake.idle (h : sar.Awake) (hw : sar.WF) (hr : sar.Rest) (hrest : sar.AtRest) :
  sar.writing = none ∧ sar.Idle
  := by
  have hnone := hr hrest.2
  have hcan : ¬ nciSarCanWrite sar = true := by
    intro hcan
    have hstart := h hcan
    simp [hrest.1] at hstart
  use hnone
  constructor
  · by_contra hne
    apply hcan
    apply canWrite_eq_true.mpr
    use hnone
    left
    apply hw.cmd_first.mpr hne
  · intro cid hcid
    by_contra hsend
    apply hcan
    apply canWrite_eq_true.mpr
    use hnone
    right
    use cid, hcid
    simpa using hsend

theorem Awake.takeCredits (h : sar.Awake) (cid : Nat) (credits : UInt8) :
  (nciSarTakeCredits sar cid credits).Awake
  := by
  rw [nciSarTakeCredits]
  split
  · simp only
    split
    · apply awake_scheduleWrite
    · rename_i hfirst
      apply h.of_le
      · rfl
      · rfl
      · rfl
      · apply id
      intro cid'
      by_cases hcid : cid' = cid
      · subst hcid
        intro hsend
        apply absurd _ hfirst
        rw [canSend, Bool.and_eq_true] at hsend
        apply hsend.1
      · simp [canSend, modifyConn, hcid]
  · apply h

theorem Awake.receivedEffect (h : sar.Awake) (packet : List UInt8) :
  (sar.receivedEffect packet).Awake
  := by
  rw [NciSar.receivedEffect]
  split
  · apply h.takeCredits
  · apply h

theorem Awake.setInput (h : sar.Awake) (cid : Nat) (input : Option (List UInt8)) :
  (sar.setInput cid input).Awake
  := by
  apply h.of_le
  · rfl
  · rfl
  · rfl
  · apply id
  intro cid'
  by_cases hcid : cid' = cid
  · subst hcid
    simp [NciSar.setInput, canSend, modifyConn]
  · simp [NciSar.setInput, canSend, modifyConn, hcid]

theorem Awake.send (k : QueueKey) (conn : Option ConnPtr) (b0 b1 : UInt8)
    (payload : Option (List UInt8)) (complete destroy : Option Nat) :
  (nciSarSend sar k conn b0 b1 payload complete destroy).2.Awake
  := by apply awake_scheduleWrite

theorem startWriteId_cancelEffect (sar : NciSar) (id : UInt32) :
  (sar.cancelEffect id).startWriteId = sar.startWriteId
  := by
  rw [cancelEffect]
  split
  · split <;> rfl
  · split
    · rename_i k a h
      cases k <;> rfl
    · rfl

theorem cids_cancelEffect (sar : NciSar) (id : UInt32) :
  (sar.cancelEffect id).cids = sar.cids
  := by rw [cids, (sar.sameInput_cancelEffect id).maxLogicalConns, cids]

theorem WF.mem_queued_cancelEffect (hw : sar.WF) (id : UInt32) {k : QueueKey} {a : Nat}
    (ha : a ∈ (sar.cancelEffect id).queued k) :
  a ∈ sar.queued k
  := by
  rcases hw.cancel_cases id with ⟨b, -, -, heq⟩ | ⟨k', b, -, -, heq, -, hl⟩ | ⟨-, heq⟩
  · obtain ⟨-, hl⟩ := hw.modifyPacket b (f := fun out => { out with complete := none })
      (fun _ => rfl) (fun _ => rfl) (fun _ _ => rfl)
    have hqueued := congrFun (congrArg Lists.queued hl) k
    rw [heq] at ha
    rw [← lists_queued, hqueued] at ha
    apply ha
  · have hqueued := congrFun (congrArg Lists.queued hl) k
    rw [heq, ← lists_queued, hqueued] at ha
    simp only [Lists.remove, Lists.relist] at ha
    by_cases hk : k = k'
    · subst hk
      rw [Function.update_self] at ha
      apply List.mem_of_mem_erase ha
    · rw [Function.update_of_ne hk] at ha
      apply ha
  · rw [heq] at ha
    apply ha

end NciSar

/-- A call leaves the layer awake, unless it sets initial credits. -/
theorem Call.awake_effect {sar : NciSar} (hw : sar.WF) (h : sar.Awake) {c : Call}
    (hc : ¬ (Entry.called c sar.snapshot).Overlooks) :
  (c.effect sar).Awake
  := by
  cases c with
  | setInitialCredits cid credits =>
      simp only [Call.effect, nciSarSetInitialCredits]
      split
      · rename_i hcid
        intro hcan
        obtain ⟨hnone, hsome⟩ := NciSar.canWrite_eq_true.mp hcan
        by_contra hstart
        have hnot : ¬ nciSarCanWrite sar = true := fun hcan' => hstart (h hcan')
        apply hnot
        apply NciSar.canWrite_eq_true.mpr
        use hnone
        rcases hsome with hfirst | ⟨cid', hcid', hsend⟩
        · left
          apply hfirst
        · right
          use cid', hcid'
          by_cases heq : cid' = cid.toNat
          · subst heq
            exfalso
            simp only [NciSar.canSend, NciSar.modifyConn, Function.update_self, Bool.and_eq_true,
              bne_iff_ne] at hsend
            apply hc
            have hstart' : sar.startWriteId ≠ true := hstart
            use hcid, hsend.2, hsend.1, hnone, Bool.eq_false_iff.mpr hstart'
          · simpa [NciSar.canSend, NciSar.modifyConn, heq] using hsend
      · apply h
  | addCredits cid credits =>
      simp only [Call.effect, nciSarAddCredits]
      split
      · apply h.takeCredits
      · apply h
  | sendCommand gid oid payload complete destroy => apply NciSar.Awake.send
  | sendDataPacket cid payload complete destroy =>
      simp only [Call.effect, nciSarSendDataPacket]
      split
      · apply NciSar.Awake.send
      · apply h
  | cancel id =>
      have hwf := hw.cancelEffect id
      have hqueued : ∀ k, (sar.cancelEffect id).queued k ≠ [] → sar.queued k ≠ [] := by
        intro k hne
        obtain ⟨b, hb⟩ := List.exists_mem_of_ne_nil _ hne
        apply List.ne_nil_of_mem (hw.mem_queued_cancelEffect id hb)
      apply h.of_le
      · apply (NciSar.fields_cancelEffect sar id).2
      · apply NciSar.startWriteId_cancelEffect
      · apply NciSar.cids_cancelEffect
      · intro hfirst
        apply hw.cmd_first.mpr (hqueued .cmd (hwf.cmd_first.mp hfirst))
      · intro cid hsend
        obtain ⟨hne, hcredits⟩ := (hwf.canSend_iff cid).mp hsend
        apply (hw.canSend_iff cid).mpr
        use hqueued _ hne
        intro hzero
        apply hcredits
        rw [← hzero]
        apply NciSar.credits_cancelEffect
  | _ => apply h

/-! ### Runs -/

section

variable {P : Call → Prop} {E : SarEnv Log} {w w' : World Log}

/-- As long as nothing is abandoned and no initial credits are overlooked, the layer is awake. -/
def Wakeful (w : World Log) : Prop :=
  (∀ e ∈ w.env, ¬ e.Abandons ∧ ¬ e.Overlooks) → w.sar.Awake

theorem Wakeful.next (h : Wakeful w) (henv : w.env <+: w'.env)
    (hawake : (∀ e ∈ w'.env, ¬ e.Abandons ∧ ¬ e.Overlooks) → w.sar.Awake → w'.sar.Awake) :
  Wakeful w'
  := by
  intro hlog
  apply hawake hlog
  apply h
  intro e he
  apply hlog e (henv.subset he)

theorem Inner.wakeful (h : Inner P w w') (hw : w.sar.Sound) (hA : Wakeful w) :
  Wakeful w'
  := by
  cases h with
  | note _ => exact hA.next (List.prefix_append _ _) fun _ => id
  | started ok _ => exact hA.next (List.prefix_append _ _) fun _ => id
  | called _ =>
      apply hA.next (List.prefix_append _ _)
      intro hlog hawake
      apply Call.awake_effect hw.wf hawake
      apply (hlog _ (List.mem_append_right _ List.mem_cons_self)).2
  | freed _ => exact hA.next (List.prefix_refl _) fun _ => id

theorem Arrival.wakeful (h : Arrival P w w') (hw : w.sar.Sound) (hA : Wakeful w) :
  Wakeful w'
  := by
  cases h with
  | inner h => apply h.wakeful hw hA
  | received packet =>
      apply hA.next (List.prefix_append _ _)
      intro _ hawake
      apply hawake.receivedEffect
  | controlInput input => exact hA.next (List.prefix_refl _) fun _ => id
  | input cid input => exact hA.next (List.prefix_refl _) fun _ hawake => hawake.setInput cid input

theorem Arrivals.wakeful (h : Arrivals P w w') (hw : w.sar.Sound) (hA : Wakeful w) :
  Wakeful w'
  := by
  induction h with
  | refl => apply hA
  | tail hs hstep ih => apply hstep.wakeful (Steps.sound (Arrivals.steps hs) hw) ih

/-- Handing a segment to the HAL does not change what is being written. -/
theorem writing_attemptWriteSubmit (E : SarEnv Log) (a : Nat) (w : World Log) :
  (nciSarAttemptWriteSubmit E a w).2.sar.writing = w.sar.writing
  := by
  have hstart : ∀ w : World Log, (nciSarStart E w).sar.writing = w.sar.writing := by
    intro w
    rw [nciSarStart]
    split <;> rfl
  have hrequest : ∀ chunks (w : World Log),
      (nciSarAttemptWriteRequest E chunks w).2.sar.writing = w.sar.writing := by
    intro chunks w
    rw [nciSarAttemptWriteRequest]
    split <;> rfl
  rw [nciSarAttemptWriteSubmit]
  split
  · rw [hrequest, hstart]
    rfl
  · rfl

/-- An attempt to write leaves the layer awake. -/
theorem awake_attemptWrite (E : SarEnv Log) (hw : w.sar.Sound) :
  (nciSarAttemptWrite E w).sar.Awake
  := by
  rw [nciSarAttemptWrite]
  split
  · rename_i hp
    obtain ⟨a, ha⟩ := Option.isSome_iff_exists.mp (hw.pending hp)
    apply NciSar.awake_of_writing ha
  · have hselect : ∀ sar', sar' = w.sar.select → sar'.writing = none → sar'.Awake := by
      rintro _ rfl hnone
      rcases hw.wf.select_cases with ⟨-, hidle, -⟩ | ⟨k, a, ha, -⟩
      · apply hw.wf.select.2.awake_of_idle hidle
      · simp [hnone] at ha
    simp only
    split
    · rename_i a ha
      split
      · apply NciSar.awake_of_writing (a := a)
        rw [writing_attemptWriteSubmit]
        apply ha
      · apply NciSar.awake_scheduleWrite
    · rename_i hnone
      apply hselect _ rfl hnone

/-- The report that a write has failed leaves the layer awake, unless something is
abandoned. -/
theorem Completed.wakeful (h : Completed w w')
    (henv : w'.env = w.env ++ [.completed false w.sar.snapshot]) (hA : Wakeful w) :
  Wakeful w'
  := by
  obtain ⟨ok, hp, ha⟩ := h
  obtain rfl : ok = false := by simpa [World.map, World.record] using henv
  apply hA.next (List.prefix_append _ _)
  intro hlog _ hcan
  have habandons := (hlog (.completed false w.sar.snapshot)
    (List.mem_append_right _ List.mem_cons_self)).1
  by_contra hstart
  apply habandons
  use hcan
  apply Bool.eq_false_iff.mpr hstart

/-- After every event the layer is awake. -/
theorem App.step_wakeful (A : App P) (hP : ∀ c, P c → c.Steady) (n : Nat) (e : Event P)
    (hw : w.sar.Sound) (h : Wakeful w) :
  Wakeful (A.step n w e)
  := by
  have hE := A.env_traced hP n
  cases e with
  | call c => apply Arrivals.wakeful (Inners.arrivals (A.call_inners hP hE c hw)) hw h
  | segment packet => apply Arrivals.wakeful (hE.handleSegment packet hw) hw h
  | writeCompleted ok =>
      rw [App.step]
      split
      · rename_i hp
        obtain ⟨w', hcompleted, henv, -, -, hattempt, hfailed⟩ := hE.writeCompleted ok hw hp
        cases ok with
        | true =>
            obtain ⟨w'', hsound, heq⟩ := hattempt rfl
            intro _
            rw [heq]
            apply awake_attemptWrite _ hsound
        | false =>
            apply Arrivals.wakeful (Inners.arrivals (hfailed rfl)) (hcompleted.sound hw)
            apply hcompleted.wakeful henv h
      · apply h
  | idle =>
      rw [App.step]
      split
      · intro _
        apply awake_attemptWrite
        have hstep : Step P (w.record .idle)
          ((w.record .idle).map fun sar => sar.setStartWriteId false) := Step.unscheduled
        apply hstep.sound hw
      · apply h
  | halError =>
      have hnote : Inner P w (w.record .halError) := Inner.note trivial
      have herror : Inners P (w.record .halError)
          ((A.env n).error (w.record .halError)) :=
        hE.error (w.record .halError) hw
      apply Arrivals.wakeful (Inners.arrivals (Relation.ReflTransGen.head hnote herror)) hw h

/-- In every run that starts from a layer that is awake, the layer stays awake. -/
theorem App.run_wakeful (A : App P) (hP : ∀ c, P c → c.Steady) (n : Nat) :
  ∀ (events : List (Event P)) {w : World Log}, w.sar.Sound → w.sar.Rest → Wakeful w →
    (A.run n w events).sar.Sound ∧ (A.run n w events).sar.Rest ∧ Wakeful (A.run n w events)
  | [], _, hw, hr, h => ⟨hw, hr, h⟩
  | e :: events, _, hw, hr, h => by
      obtain ⟨-, hw', hr'⟩ := A.step_induction hP (I := fun _ => True) (fun _ _ _ _ _ => trivial)
        (fun _ _ _ _ _ => trivial) n e hw hr trivial
      apply A.run_wakeful hP n events hw' hr' (A.step_wakeful hP n e hw h)

/-- A new or a reset layer has nothing to write. -/
theorem NciSar.Quiet.wakeful {sar : NciSar} (h : sar.Quiet) :
  Wakeful (World.start sar)
  := by
  intro _
  apply h.wf.1.awake_of_idle
  use h.wf.2 .cmd
  intro cid _
  by_contra hsend
  rw [Bool.not_eq_false] at hsend
  apply ((h.wf.1.canSend_iff cid).mp hsend).1 (h.wf.2 _)

/-- In every run that starts from a new or a reset layer, and in which nothing is abandoned
and no initial credits are overlooked: whenever no segment is in flight and there is something
to write, a write is scheduled. -/
theorem noLostWakeUp (A : App Call.Steady) (n : Nat) {sar : NciSar} (hsar : sar.Quiet)
    (events : List (Event Call.Steady))
    (hkept : ∀ e ∈ (A.run n (World.start sar) events).env, ¬ e.Abandons ∧ ¬ e.Overlooks) :
  (A.run n (World.start sar) events).sar.writing = none →
    (A.run n (World.start sar) events).sar.writePending = false →
    nciSarCanWrite (A.run n (World.start sar) events).sar = true →
    (A.run n (World.start sar) events).sar.startWriteId = true
  := by
  intro _ _
  obtain ⟨-, -, hwake⟩ := A.run_wakeful (fun _ h => h) n events hsar.sound hsar.rest hsar.wakeful
  apply hwake hkept

/-- The only command fails, and then another one is sent. -/
theorem noLostWakeUp_failed :
  ((quietApp Call.Steady).run 0 (World.start nciSarNew)
      [.call ⟨.sendCommand 0 0 none none none, trivial⟩, .idle, .writeCompleted false,
        .call ⟨.sendCommand 0 1 none none none, trivial⟩]).sar.startWriteId = true
  := by
  apply noLostWakeUp (quietApp Call.Steady) 0 quiet_nciSarNew
  · decide
  · decide
  · decide
  · decide

/-- The first of two commands fails. -/
def stalledWorld : World Log :=
  (quietApp Call.Steady).run 0 (World.start nciSarNew)
    [.call ⟨.sendCommand 0 0 none none none, trivial⟩,
      .call ⟨.sendCommand 0 1 none none none, trivial⟩, .idle, .writeCompleted false]

/-- A packet waits for credits, and its connection gets initial credits. -/
def overlookedWorld : World Log :=
  (quietApp Call.Steady).run 0 (World.start nciSarNew)
    [.call ⟨.sendDataPacket 0 (some [1]) none none, trivial⟩,
      .call ⟨.setInitialCredits 0 1, trivial⟩]

/-- Nothing is in flight and there is something to write, but no write is scheduled: neither
for the second command, nor for the packet. -/
theorem noLostWakeUp_stalled :
  (stalledWorld.sar.writing = none ∧ stalledWorld.sar.writePending = false
      ∧ nciSarCanWrite stalledWorld.sar = true ∧ stalledWorld.sar.startWriteId = false)
    ∧ overlookedWorld.sar.writing = none ∧ overlookedWorld.sar.writePending = false
    ∧ nciSarCanWrite overlookedWorld.sar = true ∧ overlookedWorld.sar.startWriteId = false
  := by decide

end

end Nci
