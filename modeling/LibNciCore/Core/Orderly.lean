import LibNciCore.Core.Failing
import LibNciCore.Sar.Orderly
import LibNciCore.Sm.Upkeep

/-!
# What holds in every run of the core

The layer below is in order, the only timeout that is running is the one that the core knows of, and
the states that are published are those of the machine unless a signal is pending. All functions of
the core keep it that way, whatever is called from inside a callback.
-/

namespace Nci

open LinkedQueue

/-! ### The core in order -/

/-- The states of the machine are published, unless the signals are still pending. -/
structure NciSm.Published (sm : NciSm) (io : SystemIo) : Prop where
  lastState : sm.pendingSignals .lastState = false → io.currentState = sm.lastState
  nextState : sm.pendingSignals .nextState = false → io.nextState = sm.nextState

/-- The states and the signals of the machine. -/
def NciSm.states (sm : NciSm) : NciState × NciState × (NciSmSignal → Bool) :=
  (sm.lastState, sm.nextState, sm.pendingSignals)

/-- Another machine with the same states and signals. -/
theorem NciSm.Published.akin {sm sm' : NciSm} {io : SystemIo} (h : sm.Published io)
    (hakin : sm.Akin sm') :
  sm'.Published io
  := by
  constructor
  · intro hpending
    rw [hakin.pendingSignals] at hpending
    rw [hakin.lastState]
    exact h.lastState hpending
  · intro hpending
    rw [hakin.pendingSignals] at hpending
    rw [hakin.nextState]
    exact h.nextState hpending

/-- The only timeout is that of the last command. -/
def CoreEnv.Timed {ι : Type} (env : CoreEnv ι) : Prop := env.timeouts = env.core.cmdTimeoutId.toList

/-- The only timeout is that of the last command, and the published states are those of the machine
unless it has still to be told that they have changed. -/
structure CoreEnv.Orderly (env : CoreEnv SystemState) : Prop where
  timed : env.Timed
  published : env.io.sm.Published env.io.io

/-- The core is in order. -/
abbrev World.Regular (w : System) : Prop := w.InOrder CoreEnv.Orderly

/-- The core is in order if the layer below is, and the slots, and the machine. -/
theorem SmWorld.regular {w : SmWorld (CoreWorld SystemIo)} (hio : w.io.InOrder CoreEnv.Timed)
    (hsm : w.sm.Published w.io.env.io) :
  w.toSystem.Regular
  := ⟨hio.1, hio.2, hsm⟩

theorem World.Regular.inOrder {w : SmWorld (CoreWorld SystemIo)} (h : w.toSystem.Regular) :
  w.io.InOrder CoreEnv.Timed
  := ⟨h.1, h.2.timed⟩

theorem World.Regular.published {w : SmWorld (CoreWorld SystemIo)} (h : w.toSystem.Regular) :
  w.sm.Published w.io.env.io
  := h.2.published

theorem CoreEnv.Orderly.report {env : CoreEnv SystemState} (h : env.Orderly) (e : SystemEntry) :
  (env.report e).Orderly
  := ⟨h.timed, h.published.lastState, h.published.nextState⟩

/-- Slots are changed other than that of the timeout. -/
theorem CoreEnv.Timed.modify {ι : Type} {env : CoreEnv ι} (h : env.Timed)
    {f : NciCoreObject → NciCoreObject} (hf : ∀ core, (f core).cmdTimeoutId = core.cmdTimeoutId) :
  (env.modify f).Timed
  := by
  show env.timeouts = (f env.core).cmdTimeoutId.toList
  rw [hf]
  exact h

/-! ### Timeouts -/

section

variable {ι : Type} {env : CoreEnv ι}

/-- No timeout is running any more. -/
theorem clearTimeout_timeouts (h : env.Timed) :
  env.clearTimeout.timeouts = [] ∧ env.clearTimeout.core.cmdTimeoutId = none
  := by
  rw [CoreEnv.clearTimeout]
  cases hid : env.core.cmdTimeoutId with
  | none =>
      refine ⟨?_, hid⟩
      rw [CoreEnv.Timed, hid] at h
      exact h
  | some t =>
      rw [CoreEnv.Timed, hid] at h
      refine ⟨?_, rfl⟩
      show env.timeouts.erase t = []
      rw [h]
      exact List.erase_cons_head t []

theorem clearTimeout_io (env : CoreEnv ι) :
  env.clearTimeout.io = env.io
  := by
  rw [CoreEnv.clearTimeout]
  split <;> rfl

/-- Dropping the last command stops its timeout. -/
theorem nciCoreCancelCommand_idle_timeouts {w : CoreWorld ι} (h : w.env.Timed) :
  (nciCoreCancelCommand SarEnv.idle NciCoreClient.idle w).env.timeouts = []
    ∧ (nciCoreCancelCommand SarEnv.idle NciCoreClient.idle w).env.core.cmdTimeoutId = none
  := by
  have hclear : (w.mapEnv CoreEnv.clearTimeout).env.timeouts = []
      ∧ (w.mapEnv CoreEnv.clearTimeout).env.core.cmdTimeoutId = none := clearTimeout_timeouts h
  have henv := (nciSarCancel_idle (w.mapEnv CoreEnv.clearTimeout)
    (w.mapEnv CoreEnv.clearTimeout).env.core.cmdId).2
  rw [nciCoreCancelCommand]
  generalize w.mapEnv CoreEnv.clearTimeout = w' at hclear henv ⊢
  dsimp only
  split
  · generalize nciSarCancel SarEnv.idle w'.env.core.cmdId w' = w'' at henv ⊢
    rw [← henv] at hclear
    split
    · exact hclear
    · exact hclear
  · exact hclear

/-- A command that is queued gets a timeout, if there are timeouts. -/
theorem nciCoreIoSendCommand_timeouts (gid oid : UInt8) (payload : Option (List UInt8))
    (resp : Option Nat) (userData : UserData) (w : CoreWorld ι) :
  (nciCoreIoSendCommand gid oid payload resp userData w).2.env.core.cmdTimeoutId
      = (if w.env.core.cmdTimeout = 0 then w.env.core.cmdTimeoutId else some w.env.nextTimeout)
    ∧ (nciCoreIoSendCommand gid oid payload resp userData w).2.env.timeouts
      = if w.env.core.cmdTimeout = 0 then w.env.timeouts else w.env.timeouts ++ [w.env.nextTimeout]
  := by
  have hid : (nciSarSendCommand w.sar gid oid payload (some 0) none).1 ≠ 0 :=
    w.sar.nextPacketId_ne_zero
  by_cases htimeout : w.env.core.cmdTimeout = 0
  · rw [if_pos htimeout, if_pos htimeout]
    cases resp <;> simp [nciCoreIoSendCommand, hid, htimeout, World.mapEnv, CoreEnv.modify]
  · rw [if_neg htimeout, if_neg htimeout]
    cases resp <;> simp [nciCoreIoSendCommand, hid, htimeout, World.mapEnv, CoreEnv.modify,
      CoreEnv.addTimeout]

end

/-! ### Sending and dropping commands -/

/-- Surroundings of the layer below that do nothing. -/
theorem orderly_idle {ε : Type} (P : ε → Prop) :
  (SarEnv.idle : SarEnv ε).Orderly P
  := by
  constructor
  · exact fun _ _ h => h
  · exact fun _ _ h => h
  · exact fun _ _ _ h => h
  · exact fun _ _ h => h
  · exact fun _ h => h
  · exact fun _ _ _ _ h => h
  · exact fun _ _ _ _ h => h
  · exact fun _ _ _ h => h
  · exact fun _ _ _ h => h
  · exact fun _ _ h => h

section

variable {ι : Type} {w : CoreWorld ι}

theorem orderly_nciCoreCancelCommand_idle (h : w.sar.Orderly) :
  (nciCoreCancelCommand SarEnv.idle NciCoreClient.idle w).sar.Orderly
  := by
  rw [nciCoreCancelCommand]
  dsimp only
  split
  · have hclear : (w.mapEnv CoreEnv.clearTimeout).InOrder fun _ => True := ⟨h, trivial⟩
    have hcancel := ((orderly_idle fun _ => True).cancel
      (w.mapEnv CoreEnv.clearTimeout).env.core.cmdId hclear).1
    split <;> exact hcancel
  · exact h

/-- A command is sent. -/
theorem World.InOrder.send (h : w.InOrder CoreEnv.Timed) (gid oid : UInt8)
    (payload : Option (List UInt8)) (resp : Option Nat) (userData : UserData) :
  (nciCoreIoSend SarEnv.idle NciCoreClient.idle gid oid payload resp userData w).2.InOrder
    CoreEnv.Timed
  := by
  have hsar := orderly_nciCoreCancelCommand_idle h.1
  obtain ⟨hnone, hid⟩ := nciCoreCancelCommand_idle_timeouts h.2
  rw [nciCoreIoSend]
  generalize nciCoreCancelCommand SarEnv.idle NciCoreClient.idle w = w' at hsar hnone hid ⊢
  obtain ⟨hid', htimeouts'⟩ := nciCoreIoSendCommand_timeouts gid oid payload resp userData w'
  constructor
  · obtain ⟨env, heq, -⟩ := nciCoreIoSendCommand_eq gid oid payload resp userData w'
    rw [heq]
    exact hsar.send _ _ _ _ _ _ _
  · rw [CoreEnv.Timed, hid', htimeouts', hnone, hid]
    split <;> rfl

/-- The last command is dropped. -/
theorem World.InOrder.drop (h : w.InOrder CoreEnv.Timed) :
  (nciCoreIoCancel SarEnv.idle NciCoreClient.idle w).InOrder CoreEnv.Timed
  := by
  have hforgot : (w.mapEnv fun env => env.modify fun core =>
      { core with rspHandler := none, rspData := .null }).InOrder CoreEnv.Timed :=
    ⟨h.1, h.2.modify fun _ => rfl⟩
  have hsar := orderly_nciCoreCancelCommand_idle hforgot.1
  obtain ⟨hnone, hid⟩ := nciCoreCancelCommand_idle_timeouts hforgot.2
  rw [nciCoreIoCancel]
  refine ⟨hsar, ?_⟩
  rw [CoreEnv.Timed, hnone, hid]
  rfl

end

/-! ### What the application may call -/

/-- Calls keep the core in order. -/
def Orderly (perform : List SystemRequest → System → System) : Prop :=
  ∀ requests w, w.Regular → (perform requests w).Regular

section

variable {A : SystemApp} {perform : List SystemRequest → System → System}
  (hperform : Orderly perform) {w : System}

include hperform

theorem regular_callback (e : SystemEntry) (h : w.Regular) :
  (A.callback perform e w).Regular
  := hperform _ _ ⟨h.1, h.2.report e⟩

theorem regular_destroyed (f : Nat) (h : w.Regular) :
  (A.destroyed perform f w).Regular
  := by
  cases f with
  | zero => exact h
  | succ f => exact regular_callback hperform _ h

/-! ### The machine -/

/-- A signal is emitted. -/
theorem regular_emitSignal (sig : NciSmSignal) {w : SmWorld (CoreWorld SystemIo)}
    (h : w.toSystem.Regular) :
  (nciSmEmitSignal (A.smIoWith perform) sig w).toSystem.Regular
  := by
  obtain ⟨hlast, hnext⟩ := h.published
  rw [nciSmEmitSignal]
  split
  · cases sig with
    | lastState =>
        apply regular_callback hperform
        have hother : Function.update w.sm.pendingSignals .lastState false .nextState
            = w.sm.pendingSignals .nextState := Function.update_of_ne (by decide) _ _
        exact ⟨h.1, h.2.timed, fun _ => rfl, fun hpending => hnext (hother.symm.trans hpending)⟩
    | nextState =>
        apply regular_callback hperform
        have hother : Function.update w.sm.pendingSignals .nextState false .lastState
            = w.sm.pendingSignals .lastState := Function.update_of_ne (by decide) _ _
        exact ⟨h.1, h.2.timed, fun hpending => hlast (hother.symm.trans hpending), fun _ => rfl⟩
  · exact h

omit hperform in
/-- Setting the last state. -/
theorem published_nciSmSetLastState {sm : NciSm} {io : SystemIo} (h : sm.Published io)
    (state : NciState) :
  (nciSmSetLastState state sm).Published io
  := by
  rw [nciSmSetLastState]
  split
  · have hother : Function.update sm.pendingSignals .lastState true .nextState
        = sm.pendingSignals .nextState := Function.update_of_ne (by decide) _ _
    constructor
    · intro hpending
      exact absurd hpending (by simp [nciSmQueueSignal])
    · intro hpending
      exact h.nextState (hother.symm.trans hpending)
  · exact h

omit hperform in
/-- Setting the next state. -/
theorem published_nciSmSetNextState {sm : NciSm} {io : SystemIo} (h : sm.Published io)
    (state : NciState) :
  (nciSmSetNextState state sm).Published io
  := by
  rw [nciSmSetNextState]
  split
  · have hother : Function.update sm.pendingSignals .nextState true .lastState
        = sm.pendingSignals .lastState := Function.update_of_ne (by decide) _ _
    constructor
    · intro hpending
      exact h.lastState (hother.symm.trans hpending)
    · intro hpending
      exact absurd hpending (by simp [nciSmQueueSignal])
  · exact h

/-- The layer below, as the machine sees it. -/
theorem orderly_smIo :
  ({ SarEnv.idle with destroy := A.destroyed perform } : SarEnv (CoreEnv SystemState)).Orderly
    CoreEnv.Orderly
  := by
  obtain ⟨h1, h2, h3, h4, h5, h6, h7, h8, h9, -⟩ := orderly_idle CoreEnv.Orderly
  exact ⟨h1, h2, h3, h4, h5, h6, h7, h8, h9, fun f _ => regular_destroyed hperform f⟩

/-- The machine keeps the core in order. -/
theorem upholds_regular :
  (A.smIoWith perform).Upholds fun w => w.toSystem.Regular
  := by
  have hsar : ∀ {w : SmWorld (CoreWorld SystemIo)} (f : NciSar → NciSar), w.toSystem.Regular →
      w.io.sar.Tuned (f w.io.sar) → (SmWorld.toSystem { w with io := w.io.map f }).Regular :=
    fun f h htuned => ⟨h.1.tuned htuned, h.2⟩
  constructor
  · intro w sm halike h
    exact SmWorld.regular h.inOrder (h.published.akin halike.akin)
  · intro w h
    exact SmWorld.regular h.inOrder
      (h.published.akin (akin_nciSmFinishActiveTransition w.sm))
  · intro state w h
    exact SmWorld.regular h.inOrder (published_nciSmSetLastState h.published state)
  · intro state w h
    exact SmWorld.regular h.inOrder (published_nciSmSetNextState h.published state)
  · intro t w h
    obtain ⟨hakin, gid, oid, payload, resp, sm, hsent⟩ :=
      akin_nciSmStartTransition (A.smIoWith perform) t w
    have hio := (nciCoreIoSend_idle w.io gid oid payload (some resp.place) .null).2
    apply SmWorld.regular
    · rw [hsent]
      exact World.InOrder.send h.inOrder gid oid payload (some resp.place) .null
    · rw [hsent]
      have hpublished := h.published.akin hakin
      rw [← hio] at hpublished
      exact hpublished
  · intro gid oid payload resp w h
    have hio := (nciCoreIoSend_idle w.io gid oid payload (some resp.place) .null).2
    apply SmWorld.regular
    · exact World.InOrder.send h.inOrder gid oid payload (some resp.place) .null
    · have hpublished := h.published
      rw [← hio] at hpublished
      exact hpublished
  · intro w h
    have hio := (nciCoreIoCancel_idle w.io).2
    apply SmWorld.regular
    · exact World.InOrder.drop h.inOrder
    · have hpublished := h.published
      rw [← hio] at hpublished
      exact hpublished
  · intro max w h
    exact (orderly_smIo hperform).setMaxLogicalConnections A.fuel max h
  · intro max w h
    exact hsar _ h (NciSar.tuned_setMaxControlPayloadSize _ max)
  · intro max w h
    exact hsar _ h (NciSar.tuned_setMaxDataPayloadSize _ max)
  · intro cid credits w h
    exact hsar _ h (NciSar.tuned_setInitialCredits _ cid credits)
  · intro cid credits w h
    exact hsar _ h (NciSar.tuned_addCredits _ cid credits)
  · intro sig w h
    exact regular_emitSignal hperform sig h
  · intro ntf w h
    exact regular_callback hperform (.intfActivated ntf) h

/-! ### The core -/

omit hperform in
theorem regular_mapSm {f : SmWorld (CoreWorld SystemIo) → SmWorld (CoreWorld SystemIo)}
    (hf : Upholds (fun w => w.toSystem.Regular) f) (h : w.Regular) :
  (w.mapSm f).Regular
  := hf w.toSm h

/-- A response function is called. -/
theorem regular_respond (resp : NciCoreResp) (status : NciRequestStatus) (payload : List UInt8)
    (userData : UserData) (h : w.Regular) :
  ((A.clientWith perform).respond resp status payload userData w).Regular
  := by
  unfold SystemApp.clientWith
  dsimp only
  split
  · exact h
  · split
    · exact regular_mapSm (upholds_call (upholds_regular hperform) _ status payload) h
    · exact h

theorem regular_smError (h : w.Regular) :
  ((A.clientWith perform).smError w).Regular
  := regular_mapSm (upholds_nciSmError (upholds_regular hperform)) h

omit hperform in
/-- The slots are changed, and the timeout has been stopped. -/
theorem regular_clearTimeout (h : w.Regular) :
  (w.mapEnv CoreEnv.clearTimeout).Regular
  := by
  obtain ⟨htimeouts, hid⟩ := clearTimeout_timeouts h.2.timed
  refine ⟨h.1, ?_, ?_⟩
  · show w.env.clearTimeout.Timed
    rw [CoreEnv.Timed, htimeouts, hid]
    rfl
  · show w.env.clearTimeout.io.sm.Published w.env.clearTimeout.io.io
    rw [clearTimeout_io]
    exact h.2.published

omit hperform in
theorem regular_modify {f : NciCoreObject → NciCoreObject} (h : w.Regular)
    (hf : ∀ core, (f core).cmdTimeoutId = core.cmdTimeoutId) :
  (w.mapEnv fun env => env.modify f).Regular
  := ⟨h.1, h.2.timed.modify hf, h.2.published⟩

theorem regular_nciCoreCommandCompletion (ok : Bool) (h : w.Regular) :
  (nciCoreCommandCompletion (A.clientWith perform) ok w).Regular
  := by
  have hmodified : (w.mapEnv fun env => env.modify fun core => { core with cmdId := 0 }).Regular :=
    regular_modify h fun _ => rfl
  rw [nciCoreCommandCompletion]
  split
  · exact hmodified
  · exact regular_smError hperform hmodified

/-- The layer below keeps the core in order. -/
theorem orderly_sarEnv :
  (A.sarEnvWith perform).Orderly CoreEnv.Orderly
  := by
  constructor
  · exact fun _ env h => h.report _
  · exact fun _ env h => h.report _
  · exact fun _ _ env h => h.report _
  · exact fun _ env h => h.report _
  · exact fun w h => regular_smError hperform h
  · intro gid oid payload w h
    show (nciCoreSarHandleResponse (A.clientWith perform) gid oid payload w).Regular
    rw [nciCoreSarHandleResponse]
    split
    · split
      · apply regular_respond hperform
        apply regular_modify (regular_clearTimeout h)
        intro _
        rfl
      · exact h
    · exact h
  · intro gid oid payload w h
    exact regular_mapSm
      (upholds_nciSmHandleNtf (upholds_regular hperform) gid oid payload) h
  · exact fun cid payload w h => regular_callback hperform _ h
  · intro f ok w h
    rcases f with _ | _ | f
    · exact regular_nciCoreCommandCompletion hperform ok h
    · exact h
    · exact regular_callback hperform _ h
  · exact fun f w h => regular_destroyed hperform f h

theorem regular_nciCoreCancelCommand (h : w.Regular) :
  (nciCoreCancelCommand (A.sarEnvWith perform) (A.clientWith perform) w).Regular
  := by
  have hclear := regular_clearTimeout h
  rw [nciCoreCancelCommand]
  generalize w.mapEnv CoreEnv.clearTimeout = w' at hclear ⊢
  dsimp only
  split
  · have hcancel := (orderly_sarEnv (A := A) hperform).cancel w'.env.core.cmdId hclear
    have hmodified := regular_modify (f := fun core => { core with cmdId := 0, rspData := .null })
      hcancel fun _ => rfl
    split
    · apply regular_respond hperform
      exact regular_modify hmodified fun _ => rfl
    · exact hmodified
  · exact hclear

theorem regular_nciCoreRestart (h : w.Regular) :
  (A.nciCoreRestart perform w).Regular
  := by
  have hreset := (orderly_sarEnv (A := A) hperform).reset A.fuel
    (regular_nciCoreCancelCommand (A := A) hperform h)
  exact regular_mapSm (upholds_nciSmReset (upholds_regular hperform)) hreset

theorem regular_nciCoreCommandTimeout (h : w.sar.Orderly) (hpublished : w.env.io.sm.Published
    w.env.io.io) (htimeouts : w.env.timeouts = []) :
  (nciCoreCommandTimeout (A.sarEnvWith perform) (A.clientWith perform) w).Regular
  := by
  have hstopped : (w.mapEnv fun env => env.modify fun core =>
      { core with cmdTimeoutId := none, rspData := .null }).Regular := ⟨h, htimeouts, hpublished⟩
  rw [nciCoreCommandTimeout]
  generalize (w.mapEnv fun env => env.modify fun core =>
    { core with cmdTimeoutId := none, rspData := .null }) = w' at hstopped ⊢
  have hcancel := (orderly_sarEnv (A := A) hperform).cancel w'.env.core.cmdId hstopped
  have hmodified := regular_modify (f := fun core => { core with cmdId := 0 }) hcancel fun _ => rfl
  apply regular_smError hperform
  split
  · apply regular_respond hperform
    exact regular_modify hmodified fun _ => rfl
  · exact hmodified

/-! ### Parameters -/

omit hperform in
/-- Setting a parameter or setting it back leaves the states and the signals alone. -/
theorem states_nciCoreParams (key : NciCoreParamKey) (obj : NciSmObject) :
  (∀ value, ((nciCoreParams key).set value obj).sm.states = obj.sm.states)
    ∧ ((nciCoreParams key).reset obj).sm.states = obj.sm.states
  := by
  have hversion : ∀ v obj, (nciCoreParamSetLlcVersion v obj).sm.states = obj.sm.states := by
    intro v obj
    rw [nciCoreParamSetLlcVersion]
    split <;> rfl
  have hwks : ∀ v obj, (nciCoreParamSetLlcWks v obj).sm.states = obj.sm.states := by
    intro v obj
    rw [nciCoreParamSetLlcWks]
    dsimp only
    split <;> rfl
  have hnfcid1 : ∀ v obj, (nciSmSetLaNfcid1 v obj).sm.states = obj.sm.states := by
    intro v obj
    unfold nciSmSetLaNfcid1
    repeat' split
    all_goals rfl
  have hhb : ∀ v obj, (nciSmSetLiAHb v obj).sm.states = obj.sm.states := by
    intro v obj
    unfold nciSmSetLiAHb
    repeat' split
    all_goals rfl
  cases key with
  | llcVersion => exact ⟨fun v => hversion v obj, hversion _ obj⟩
  | llcWks => exact ⟨fun v => hwks v obj, hwks _ obj⟩
  | laNfcid1 => exact ⟨fun v => hnfcid1 _ obj, hnfcid1 _ obj⟩
  | liAHb => exact ⟨fun v => hhb _ obj, hhb _ obj⟩

omit hperform in
theorem states_nciCoreParamsApply (params : List NciCoreParam) (reset : Bool) (obj : NciSmObject) :
  (nciCoreParamsApply params reset obj).sm.states = obj.sm.states
  := by
  have hreset : ∀ (keys : List NciCoreParamKey) (obj : NciSmObject),
      (keys.foldl (fun core key => (nciCoreParams key).reset core) obj).sm.states
        = obj.sm.states := by
    intro keys obj
    induction keys generalizing obj with
    | nil => rfl
    | cons key keys ih => exact (ih _).trans (states_nciCoreParams key obj).2
  have happly : ∀ obj : NciSmObject,
      (params.foldl NciCoreParam.apply obj).sm.states = obj.sm.states := by
    intro obj
    induction params generalizing obj with
    | nil => rfl
    | cons param params ih =>
        refine (ih _).trans ?_
        cases param with
        | known key value => exact (states_nciCoreParams key obj).1 value
        | other key => rfl
  rw [nciCoreParamsApply, happly]
  split
  · exact hreset _ obj
  · rfl

omit hperform in
/-- Other parameters. -/
theorem regular_setObject {obj : NciSmObject} (h : w.Regular)
    (hstates : obj.sm.states = w.object.sm.states) :
  (w.setObject obj).Regular
  := by
  have hlast : obj.sm.lastState = w.env.io.sm.lastState := congrArg Prod.fst hstates
  have hnext : obj.sm.nextState = w.env.io.sm.nextState := congrArg (fun s => s.2.1) hstates
  have hpending : obj.sm.pendingSignals = w.env.io.sm.pendingSignals :=
    congrArg (fun s => s.2.2) hstates
  refine ⟨h.1, h.2.timed, ?_, ?_⟩
  · intro hnot
    exact (h.2.published.lastState ((congrFun hpending _).symm.trans hnot)).trans hlast.symm
  · intro hnot
    exact (h.2.published.nextState ((congrFun hpending _).symm.trans hnot)).trans hnext.symm

theorem regular_nciCoreSetParams (params : Option (List NciCoreParam)) (reset : Bool)
    (h : w.Regular) :
  (A.nciCoreSetParams perform params reset w).Regular
  := by
  have hset := regular_setObject h (states_nciCoreParamsApply (params.getD []) reset w.object)
  have hsignals : ∀ (changed : List NciCoreParamKey) (w : System), w.Regular →
      (changed.foldl (fun w key => A.callback perform (.paramChanged key) w) w).Regular := by
    intro changed w h
    induction changed generalizing w with
    | nil => exact h
    | cons key changed ih => exact ih _ (regular_callback hperform _ h)
  have hsignal : ∀ (changed : List NciCoreParamKey) (w : System), w.Regular →
      (A.nciCoreParamsSignal perform changed w).Regular := by
    intro changed w h
    rw [SystemApp.nciCoreParamsSignal]
    split
    · exact regular_nciCoreRestart hperform (hsignals changed w h)
    · exact h
  rw [SystemApp.nciCoreSetParams]
  split
  · exact hsignal _ _ hset
  · exact h

theorem regular_nciCoreResetParam (key : NciCoreParamKey) (h : w.Regular) :
  (A.nciCoreResetParam perform key w).Regular
  := by
  have hset := regular_setObject h (states_nciCoreParams key w.object).2
  rw [SystemApp.nciCoreResetParam]
  split
  · exact regular_nciCoreRestart hperform (regular_callback hperform _ hset)
  · exact hset

/-! ### Calls -/

theorem regular_call (r : SystemRequest) (h : w.Regular) :
  (A.call perform w r).Regular
  := by
  have hsm := upholds_regular (A := A) hperform
  cases r with
  | restart => exact regular_nciCoreRestart hperform h
  | setState state => exact regular_mapSm (upholds_nciSmSwitchTo hsm state) h
  | setOpMode opMode => exact regular_mapSm (upholds_nciSmSetOpMode hsm opMode) h
  | setTech tech => exact regular_mapSm (upholds_nciSmSetTech hsm tech) h
  | setParams params reset => exact regular_nciCoreSetParams hperform params reset h
  | resetParam key => exact regular_nciCoreResetParam hperform key h
  | sendDataMsg cid payload complete destroy =>
      have hsend : ∀ complete destroy,
          (nciSarSendDataPacket w.sar cid payload complete destroy).2.Orderly := by
        intro complete destroy
        rw [nciSarSendDataPacket]
        split
        · exact h.1.send _ _ _ _ _ _ _
        · exact h.1
      refine ⟨?_, h.2⟩
      show (SystemApp.nciCoreSendDataMsg cid payload complete destroy w).2.sar.Orderly
      rw [SystemApp.nciCoreSendDataMsg]
      dsimp only
      split
      · exact hsend _ _
      · exact hsend _ _
  | cancel id => exact (orderly_sarEnv hperform).cancel id h
  | setCmdTimeout ms => exact regular_modify h fun _ => rfl

end

/-- Calls keep the core in order, at every depth. -/
theorem orderly_perform (A : SystemApp) :
  ∀ n, Orderly (A.perform n)
  | 0 => fun _ _ h => h
  | n + 1 => by
      intro requests w h
      rw [SystemApp.perform]
      induction requests generalizing w with
      | nil => exact h
      | cons r requests ih => exact ih _ (regular_call (orderly_perform A n) r h)

/-! ### Runs -/

theorem regular_nciTransitionTimeout {A : SystemApp} (n : Nat) (t : NciTransition) {w : System}
    (h : w.Regular) :
  (w.mapSm (A.nciTransitionTimeout n t)).Regular
  := by
  have hperform := orderly_perform A n
  have hexpired : (w.toSm.map fun self =>
      { self with timeoutId := Function.update self.timeoutId t false }).toSystem.Regular :=
    ⟨h.1, h.2.timed, h.2.published.akin ⟨rfl, rfl, rfl, rfl, rfl, rfl, rfl⟩⟩
  rw [World.mapSm, SystemApp.nciTransitionTimeout]
  split
  · exact upholds_nciSmError (upholds_regular hperform) _ hexpired
  · exact h

theorem regular_step (A : SystemApp) (n : Nat) {w : System} (h : w.Regular) (e : SystemEvent) :
  (A.step n w e).Regular
  := by
  have hperform := orderly_perform A n
  have hE : (A.sarEnvWith (A.perform n)).Orderly CoreEnv.Orderly := orderly_sarEnv hperform
  cases e with
  | request r => exact regular_call hperform r h
  | read data => exact hE.halClientRead data h
  | written ok =>
      rw [SystemApp.step]
      split
      · exact hE.writeCompleted ok h
      · exact h
  | idleWrite =>
      rw [SystemApp.step]
      split
      · exact hE.startWrite h
      · exact h
  | idleSwitch =>
      exact regular_mapSm (upholds_nciSmSwitchProc (upholds_regular hperform)) h
  | commandTimeout t =>
      have hexpired : t ∈ w.env.timeouts → w.env.timeouts.erase t = [] := by
        intro ht
        rw [h.2.timed] at ht ⊢
        rw [Option.mem_toList.mp ht]
        exact List.erase_cons_head t []
      rw [SystemApp.step]
      split
      · rename_i ht
        exact regular_nciCoreCommandTimeout hperform (w := w.mapEnv fun env =>
          { env with timeouts := env.timeouts.erase t }) h.1 h.2.published (hexpired ht)
      · exact h
  | transitionTimeout t => exact regular_nciTransitionTimeout n t h
  | halError => exact hE.error w h

theorem regular_nciCoreNew (obj : NciSmObject) :
  (nciCoreNew obj).Regular
  := ⟨orderly_nciSarNew, rfl, fun _ => rfl, fun _ => rfl⟩

/-- Every state of a run is in order. -/
theorem regular_run (A : SystemApp) (n : Nat) {w : System} (h : w.Regular)
    (events : List SystemEvent) :
  (A.run n w events).Regular
  := by
  induction events generalizing w with
  | nil => exact h
  | cons e events ih => exact ih (regular_step A n h e)

end Nci
