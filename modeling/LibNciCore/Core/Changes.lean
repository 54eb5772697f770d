import LibNciCore.Core.Failing
import LibNciCore.Core.Settings
import LibNciCore.Sm.Upkeep

/-!
# Setting parameters

When parameters are set, those that have other values afterwards are signalled, and the core is
restarted if there are any. The restart leaves the parameters alone, and signals no changes. All of
this is about an application that does not call the core from inside a callback.
-/

namespace Nci

/-! ### What has been signalled -/

/-- The parameters that have been signalled as changed. -/
def SystemLog.changes (log : SystemLog) : List NciCoreParamKey :=
  log.filterMap fun
    | .paramChanged key => some key
    | _ => none

theorem SystemLog.changes_append (log log' : SystemLog) :
  SystemLog.changes (log ++ log') = SystemLog.changes log ++ SystemLog.changes log'
  := List.filterMap_append

/-- The parameters and their defaults are the same, and no more changes have been signalled. -/
structure SystemState.Unset (s s' : SystemState) : Prop where
  stored : s'.sm.stored = s.sm.stored
  defaultLaNfcid1 : s'.io.defaultLaNfcid1 = s.io.defaultLaNfcid1
  defaultLiAHb : s'.io.defaultLiAHb = s.io.defaultLiAHb
  changes : s'.io.log.changes = s.io.log.changes

theorem SystemState.Unset.refl (s : SystemState) :
  s.Unset s
  := ⟨rfl, rfl, rfl, rfl⟩

theorem SystemState.Unset.trans {s s' s'' : SystemState} (h : s.Unset s') (h' : s'.Unset s'') :
  s.Unset s''
  := by
  constructor
  · exact h'.stored.trans h.stored
  · exact h'.defaultLaNfcid1.trans h.defaultLaNfcid1
  · exact h'.defaultLiAHb.trans h.defaultLiAHb
  · exact h'.changes.trans h.changes

/-- Another machine with the same parameters. -/
theorem SystemState.Unset.machine {s s' : SystemState} (h : s.Unset s') {sm : NciSm}
    (hsm : sm.stored = s'.sm.stored) :
  s.Unset ⟨sm, s'.io⟩
  := h.trans ⟨hsm, rfl, rfl, rfl⟩

/-- An entry that does not signal a change. -/
theorem unset_report (env : CoreEnv SystemState) {e : SystemEntry}
    (he : SystemLog.changes [e] = []) :
  env.io.Unset (env.report e).io
  := by
  refine ⟨rfl, rfl, rfl, ?_⟩
  show SystemLog.changes (env.io.io.log ++ [e]) = _
  rw [SystemLog.changes_append, he, List.append_nil]

/-! ### The machine -/

theorem stored_of_akin {sm sm' : NciSm} (h : sm.Akin sm') :
  sm'.stored = sm.stored
  := by
  funext key
  cases key with
  | llcVersion => exact h.llcVersion
  | llcWks => exact h.llcWks
  | laNfcid1 => exact h.laNfcid1
  | liAHb => exact h.liAHb

theorem stored_nciSmSetLastState (state : NciState) (self : NciSm) :
  (nciSmSetLastState state self).stored = self.stored
  := by
  rw [nciSmSetLastState]
  split <;> rfl

theorem stored_nciSmSetNextState (state : NciState) (self : NciSm) :
  (nciSmSetNextState state self).stored = self.stored
  := by
  rw [nciSmSetNextState]
  split <;> rfl

variable {A : SystemApp}

/-! ### Everything but setting parameters -/

section

variable (hA : A.Silent) (n : Nat) (s : SystemState)

include hA

theorem SystemApp.Silent.unset_callback {e : SystemEntry} (he : SystemLog.changes [e] = [])
    (w : System) :
  w.env.io.Unset (A.callback (A.perform n) e w).env.io
  := by
  rw [hA.callback]
  exact unset_report w.env he

theorem SystemApp.Silent.unset_destroyed (f : Nat) (w : System) :
  w.env.io.Unset (A.destroyed (A.perform n) f w).env.io
  := by
  cases f with
  | zero => exact SystemState.Unset.refl _
  | succ f => exact hA.unset_callback n rfl w

/-- Publishing a state. -/
theorem SystemApp.Silent.unset_signal (sig : NciSmSignal) (w : SmWorld (CoreWorld SystemIo)) :
  w.toSystem.env.io.Unset ((A.smIo n).signal sig w).toSystem.env.io
  := by
  have hpublish : ∀ (w' : System) {e : SystemEntry}, SystemLog.changes [e] = [] →
      w.toSystem.env.io.Unset w'.env.io →
      w.toSystem.env.io.Unset (A.callback (A.perform n) e w').env.io := by
    intro w' e he h
    exact h.trans (hA.unset_callback n he w')
  cases sig with
  | lastState => exact hpublish _ rfl ⟨rfl, rfl, rfl, rfl⟩
  | nextState => exact hpublish _ rfl ⟨rfl, rfl, rfl, rfl⟩

/-- The machine leaves the parameters alone. -/
theorem SystemApp.Silent.upholds_unset :
  (A.smIo n).Upholds fun w => s.Unset w.toSystem.env.io
  := by
  have hio : ∀ {w : SmWorld (CoreWorld SystemIo)} {io : CoreWorld SystemIo},
      s.Unset w.toSystem.env.io → io.env.io = w.io.env.io →
      s.Unset (SmWorld.toSystem { w with io := io }).env.io := by
    intro w io h heq
    show s.Unset ⟨w.sm, io.env.io⟩
    rw [heq]
    exact h
  have hdestroy : SarEnv.Quietly
      { SarEnv.idle (ε := CoreEnv SystemState) with destroy := A.destroyed (A.perform n) }
      (fun _ => True) (fun env => s.Unset env.io) :=
    { halStart := fun _ _ h => h
      halStop := fun _ _ h => h
      halWrite := fun _ _ _ _ h => h
      halCancelWrite := fun _ _ h => h
      destroy := fun f w h => h.trans (hA.unset_destroyed n f w) }
  constructor
  · intro w sm halike h
    exact h.machine (stored_of_akin halike.akin)
  · intro w h
    exact h.machine (stored_of_akin (akin_nciSmFinishActiveTransition w.sm))
  · intro state w h
    exact h.machine (stored_nciSmSetLastState state w.sm)
  · intro state w h
    exact h.machine (stored_nciSmSetNextState state w.sm)
  · intro t w h
    obtain ⟨hakin, gid, oid, payload, resp, sm, hsent⟩ :=
      akin_nciSmStartTransition (A.smIo n) t w
    have hsend := (nciCoreIoSend_idle w.io gid oid payload (some resp.place) .null).2
    have hsame : (nciSmStartTransition (A.smIo n) t w).2.io.env.io = w.io.env.io := by
      rw [hsent]
      exact hsend
    exact (hio h hsame).machine (stored_of_akin hakin)
  · intro gid oid payload resp w h
    exact hio h (nciCoreIoSend_idle w.io gid oid payload (some resp.place) .null).2
  · intro w h
    exact hio h (nciCoreIoCancel_idle w.io).2
  · intro max w h
    exact hdestroy.setMaxLogicalConnections A.fuel max h
  · intro max w h
    exact h
  · intro max w h
    exact h
  · intro cid credits w h
    exact h
  · intro cid credits w h
    exact h
  · intro sig w h
    rw [nciSmEmitSignal]
    split
    · have hcleared : s.Unset (w.map fun self =>
          { self with
            pendingSignals := Function.update self.pendingSignals sig false }).toSystem.env.io :=
        h.machine rfl
      exact hcleared.trans (hA.unset_signal n sig _)
    · exact h
  · intro ntf w h
    exact h.trans (hA.unset_callback n (e := .intfActivated ntf) rfl w.toSystem)

/-- The layer below leaves the parameters alone. -/
theorem SystemApp.Silent.quietly_unset :
  (A.sarEnv n).Quietly (fun _ => True) fun env => s.Unset env.io
  := by
  refine ⟨⟨?_, ?_, ?_⟩, ?_, ?_⟩
  · intro _ env h
    exact h.trans (unset_report env rfl)
  · intro _ env h
    exact h.trans (unset_report env rfl)
  · intro f w h
    exact h.trans (hA.unset_destroyed n f w)
  · intro _ env h
    exact h.trans (unset_report env rfl)
  · intro _ _ env _ h
    exact h.trans (unset_report env rfl)

/-- A restart leaves the parameters alone. -/
theorem SystemApp.Silent.unset_nciCoreRestart (w : System) :
  w.env.io.Unset (A.nciCoreRestart (A.perform n) w).env.io
  := by
  have hquietly := hA.quietly_unset n w.env.io
  have hsm := hA.upholds_unset n w.env.io
  have hrespond : ∀ (resp : NciCoreResp) (status : NciRequestStatus) (payload : List UInt8)
      (userData : UserData) (w' : System), w.env.io.Unset w'.env.io →
      w.env.io.Unset ((A.client n).respond resp status payload userData w').env.io := by
    intro resp status payload userData w' h
    unfold SystemApp.client SystemApp.clientWith
    dsimp only
    split
    · exact h
    · split
      · exact upholds_call hsm _ status payload w'.toSm h
      · exact h
  have hcancel : w.env.io.Unset
      (nciCoreCancelCommand (A.sarEnv n) (A.client n) w).env.io := by
    have hclear : w.env.io.Unset (w.mapEnv CoreEnv.clearTimeout).env.io := by
      unfold World.mapEnv CoreEnv.clearTimeout
      split <;> exact SystemState.Unset.refl _
    rw [nciCoreCancelCommand]
    dsimp only
    split
    · have hdropped := hquietly.cancel (w.mapEnv CoreEnv.clearTimeout).env.core.cmdId hclear
      split
      · exact hrespond _ _ _ _ _ hdropped
      · exact hdropped
    · exact hclear
  have hcomplete : ∀ (f : Nat) (ok : Bool) (w' : System), w.env.io.Unset w'.env.io →
      w.env.io.Unset ((A.sarEnv n).complete f ok w').env.io := by
    intro f ok w' h
    rcases f with _ | _ | f
    · show w.env.io.Unset (nciCoreCommandCompletion (A.client n) ok w').env.io
      rw [nciCoreCommandCompletion]
      split
      · exact h
      · exact upholds_nciSmError hsm _ h
    · exact h
    · exact h.trans (hA.unset_callback n rfl w')
  have hreset : ∀ w' : System, w.env.io.Unset w'.env.io →
      w.env.io.Unset (nciSarReset (A.sarEnv n) A.fuel w').env.io := by
    intro w' h
    have hclear := hquietly.resetClear A.fuel h
    rw [nciSarReset_eq]
    split
    · rw [nciSarPacketOutFinish]
      split
      · exact hquietly.packetOutFree _ (hcomplete _ _ _ hclear)
      · exact hquietly.packetOutFree _ hclear
    · exact hclear
  exact upholds_nciSmReset hsm _ (hreset _ hcancel)

end

/-! ### Setting parameters -/

/-- The parameters are given the values `s`. Those that have had other values before are signalled,
each of them once and in ascending order, and then the core is restarted if there are any. -/
structure SystemApp.Gives (A : SystemApp) (n : Nat) (w : System) (s : NciSettings) (w' : System) :
    Prop where
  settings : w'.object.settings.Same s
  defaults : w'.object.defaults = w.object.defaults
  signals : ∃ changed : List NciCoreParamKey, changed.Sublist NciCoreParamKey.all
    ∧ (∀ key, key ∈ changed ↔ ¬ key.Same (w.object.settings key) (s key))
    ∧ w'.env.io.io.log.changes = w.env.io.io.log.changes ++ changed
    ∧ ∃ obj, w.object.Takes s obj
      ∧ w' = if changed = [] then w.setObject obj
        else A.nciCoreRestart (A.perform n)
          (changed.foldl (fun w key => w.report (.paramChanged key)) (w.setObject obj))

/-- The signals add nothing but entries to the log. -/
theorem reported_changes (changed : List NciCoreParamKey) (w : System) :
  (changed.foldl (fun w key => w.report (.paramChanged key)) w).object = w.object
    ∧ (changed.foldl (fun w key => w.report (.paramChanged key)) w).env.io.io.log.changes
      = w.env.io.io.log.changes ++ changed
  := by
  induction changed generalizing w with
  | nil => exact ⟨rfl, (List.append_nil _).symm⟩
  | cons key changed ih =>
      obtain ⟨hobject, hchanges⟩ := ih (w.report (.paramChanged key))
      refine ⟨hobject, hchanges.trans ?_⟩
      show SystemLog.changes (w.env.io.io.log ++ [.paramChanged key]) ++ changed = _
      rw [SystemLog.changes_append, List.append_assoc]
      rfl

theorem SystemState.Unset.object {w w' : System} (h : w.env.io.Unset w'.env.io) :
  w'.object.settings = w.object.settings ∧ w'.object.defaults = w.object.defaults
  := by
  have hsettings : w'.object.settings = w.object.settings := settings_congr h.stored
  refine ⟨hsettings, ?_⟩
  funext key
  cases key with
  | llcVersion => rfl
  | llcWks => rfl
  | laNfcid1 => exact congrArg NciCoreParamKey.laNfcid1.fitting h.defaultLaNfcid1
  | liAHb => exact congrArg NciCoreParamKey.liAHb.fitting h.defaultLiAHb

/-- The changes are signalled, and the core is restarted if there are any. -/
theorem SystemApp.Silent.gives (hA : A.Silent) (n : Nat) {w : System} {s : NciSettings}
    {obj : NciSmObject} (h : w.object.Takes s obj) {changed : List NciCoreParamKey}
    (hsublist : changed.Sublist NciCoreParamKey.all)
    (hchanged : ∀ key, key ∈ changed ↔ ¬ key.Same (w.object.settings key) (s key)) :
  A.Gives n w s (A.nciCoreParamsSignal (A.perform n) changed (w.setObject obj))
  := by
  obtain ⟨hobject, hchanges⟩ := reported_changes changed (w.setObject obj)
  have hcallbacks : changed.foldl
      (fun w key => A.callback (A.perform n) (.paramChanged key) w) (w.setObject obj)
      = changed.foldl (fun w key => w.report (.paramChanged key)) (w.setObject obj) := by
    congr 1
    funext w key
    exact hA.callback _ w
  rw [SystemApp.nciCoreParamsSignal, hcallbacks]
  by_cases hnone : changed = []
  · rw [if_neg (not_not.mpr hnone)]
    refine ⟨h.settings, h.defaults, changed, hsublist, hchanged, ?_, obj, h, ?_⟩
    · rw [hnone, List.append_nil]
      rfl
    · rw [if_pos hnone]
  · rw [if_pos hnone]
    have hunset := hA.unset_nciCoreRestart n
      (changed.foldl (fun w key => w.report (.paramChanged key)) (w.setObject obj))
    obtain ⟨hsettings, hdefaults⟩ := hunset.object
    refine ⟨?_, ?_, changed, hsublist, hchanged, ?_, obj, h, ?_⟩
    · rw [hsettings, hobject]
      exact h.settings
    · rw [hdefaults, hobject]
      exact h.defaults
    · exact hunset.changes.trans hchanges
    · rw [if_neg hnone]

/-- Setting parameters gives them the values that are wanted, and setting one of them back gives it
its default. Both signal what has changed, and restart the core if anything has. -/
theorem settingParameters (A : SystemApp) (hA : A.Silent) (n : Nat) (w : System)
    (hw : w.object.Sized) :
  (∀ (params : Option (List NciCoreParam)) (reset : Bool),
      (∀ param ∈ params.getD [], param.Sized) →
      A.Gives n w (w.object.wanted (params.getD []) reset)
        (A.nciCoreSetParams (A.perform n) params reset w))
    ∧ ∀ key : NciCoreParamKey,
      A.Gives n w (Function.update w.object.settings key (w.object.defaults key))
        (A.nciCoreResetParam (A.perform n) key w)
  := by
  constructor
  · intro params reset hparams
    rw [SystemApp.nciCoreSetParams]
    split
    · have htakes := takes_nciCoreParamsApply hw hparams reset
      exact hA.gives n htakes (sublist_nciCoreParamsChanged _ _) (mem_nciCoreParamsChanged htakes)
    · rename_i hnothing
      obtain ⟨hparams', hreset⟩ := not_or.mp hnothing
      rw [Option.not_isSome_iff_eq_none.mp hparams', Bool.eq_false_iff.mpr hreset]
      have hnone := hA.gives n (NciSmObject.Takes.refl hw) (List.nil_sublist _) (by
        intro key
        constructor
        · intro hmem
          cases hmem
        · intro hdiffers
          exact absurd ((equivalence_same key).refl _) hdiffers)
      exact hnone
  · intro key
    have htakes := (NciSmObject.Takes.refl hw).reset key
    have hsignal : A.nciCoreResetParam (A.perform n) key w
        = A.nciCoreParamsSignal (A.perform n)
          (if nciCoreParamChanged w.object ((nciCoreParams key).reset w.object) key then [key]
            else [])
          (w.setObject ((nciCoreParams key).reset w.object)) := by
      have hunfold : A.nciCoreResetParam (A.perform n) key w
          = if nciCoreParamChanged w.object ((nciCoreParams key).reset w.object) key then
              A.nciCoreRestart (A.perform n) (A.callback (A.perform n) (.paramChanged key)
                (w.setObject ((nciCoreParams key).reset w.object)))
            else w.setObject ((nciCoreParams key).reset w.object) := rfl
      rw [hunfold, SystemApp.nciCoreParamsSignal]
      split <;> rfl
    rw [hsignal]
    apply hA.gives n htakes
    · split
      · cases key <;> decide
      · exact List.nil_sublist _
    · intro key'
      have hchanged := nciCoreParamChanged_iff htakes key'
      by_cases hkey : key' = key
      · subst hkey
        rw [← hchanged]
        split
        · rename_i hdiffers
          simp [hdiffers]
        · rename_i hsame
          simp [hsame]
      · rw [Function.update_of_ne hkey]
        constructor
        · intro hmem
          split at hmem
          · exact absurd (List.mem_singleton.mp hmem) hkey
          · cases hmem
        · intro hdiffers
          exact absurd ((equivalence_same key').refl _) hdiffers

/-- The identifier is set to another one and the version to the one it has, and then both are set
back. -/
theorem settingParameters_identifier :
  SystemApp.quiet.Gives 1 (nciCoreNew nciSmObjectNew)
      ((nciCoreNew nciSmObjectNew).object.wanted
        [.known .laNfcid1 ⟨4, zeroPadded 10 [1, 2, 3, 4]⟩, .other 7,
          .known .llcVersion nciDefaultLlcVersion] false)
      (SystemApp.quiet.nciCoreSetParams (SystemApp.quiet.perform 1)
        (some [.known .laNfcid1 ⟨4, zeroPadded 10 [1, 2, 3, 4]⟩, .other 7,
          .known .llcVersion nciDefaultLlcVersion]) false (nciCoreNew nciSmObjectNew))
    ∧ SystemApp.quiet.Gives 1 (nciCoreNew nciSmObjectNew)
      (Function.update (nciCoreNew nciSmObjectNew).object.settings .laNfcid1
        ((nciCoreNew nciSmObjectNew).object.defaults .laNfcid1))
      (SystemApp.quiet.nciCoreResetParam (SystemApp.quiet.perform 1) .laNfcid1
        (nciCoreNew nciSmObjectNew))
  := by
  have hsized : (nciCoreNew nciSmObjectNew).object.Sized := by
    constructor
    · intro key
      cases key <;> constructor
    · intro key
      cases key <;> constructor
  have hquiet : SystemApp.quiet.Silent := fun _ => rfl
  constructor
  · apply (settingParameters SystemApp.quiet hquiet 1 (nciCoreNew nciSmObjectNew) hsized).1
      (some _) false
    intro param hparam
    simp only [Option.getD_some, List.mem_cons, List.not_mem_nil, or_false] at hparam
    rcases hparam with rfl | rfl | rfl
    · exact (rfl : (zeroPadded 10 [1, 2, 3, 4]).length = 10)
    · exact trivial
    · exact trivial
  · exact (settingParameters SystemApp.quiet hquiet 1 (nciCoreNew nciSmObjectNew) hsized).2
      .laNfcid1

end Nci
