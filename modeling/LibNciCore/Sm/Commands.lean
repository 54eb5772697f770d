import LibNciCore.Sm.Conduct
import LibNciCore.Sm.Converge
import LibNciCore.Sm.Listening

/-!
# The commands are well formed

Most commands are lists: their payload starts with the number of its entries, which follow one
after another. In every run, what is sent to the controller can be read as such a list, nothing
is left over, and no entry is there twice.
-/

namespace Nci

/-! ### Lists with their number -/

theorem enumerates_ofNat {α : Type} {encode : α → List UInt8} {entries : List α}
    (h : entries.length < 256) :
  Enumerates UInt8.toNat encode entries (UInt8.ofNat entries.length :: entries.flatMap encode)
  := by
  use UInt8.ofNat entries.length
  use UInt8.toNat_ofNat_of_lt' h

/-- The bytes of a mapping. -/
def Mapping.encode (m : Mapping) : List UInt8 := [m.protocol, m.mode, m.interface]

/-- The bytes of a mode that is discovered each time. -/
def discoverEntry (mode : UInt8) : List UInt8 := [mode, 1]

/-- The commands that the machine sends, without RF_DISCOVER_SELECT_CMD. -/
inductive IsCommand : UInt8 → UInt8 → Option (List UInt8) → Prop
  | reset (type : UInt8) : IsCommand nciGidCore nciOidCoreReset (some [type])
  | init : IsCommand nciGidCore nciOidCoreInit none
  | initV2 (enable enable' : UInt8) : IsCommand nciGidCore nciOidCoreInit (some [enable, enable'])
  | setConfig {params : List ConfigTlv} {cmd : List UInt8} (hcmd : Tlv.Lists params cmd)
      (hne : params ≠ []) (hnodup : (params.map Tlv.type).Nodup) :
      IsCommand nciGidCore nciOidCoreSetConfig (some cmd)
  | getConfig {ids cmd : List UInt8} (hcmd : Enumerates UInt8.toNat (fun id => [id]) ids cmd)
      (hnodup : ids.Nodup) : IsCommand nciGidCore nciOidCoreGetConfig (some cmd)
  | discoverMap {ms : List Mapping} {cmd : List UInt8}
      (hcmd : Enumerates UInt8.toNat Mapping.encode ms cmd)
      (hnodup : ms.Nodup) : IsCommand nciGidRf nciOidRfDiscoverMap (some cmd)
  | setListenModeRouting (more : UInt8) {entries : List RoutingEntry} {cmd : List UInt8}
      (hcmd : Tlv.Lists entries cmd) (hnodup : entries.Nodup) :
      IsCommand nciGidRf nciOidRfSetListenModeRouting (some (more :: cmd))
  | discover {modes cmd : List UInt8} (hcmd : Enumerates UInt8.toNat discoverEntry modes cmd)
      (hnodup : modes.Nodup) : IsCommand nciGidRf nciOidRfDiscover (some cmd)
  | deactivate (type : UInt8) : IsCommand nciGidRf nciOidRfDeactivate (some [type])

/-- A command is well formed, unless it selects a target. -/
def SmAction.IsWellFormed : SmAction → Prop
  | .sent gid oid payload resp _ _ => resp = .w4HostSelectRsp ∨ IsCommand gid oid payload
  | .arrived _ | .cancelled | .answered .. | .sar _ | .signal .. | .intfActivated _ => True

/-! ### CORE_SET_CONFIG_CMD -/

theorem isCommand_resetSetConfig (self : NciSm) :
  IsCommand nciGidCore nciOidCoreSetConfig (some (nciTransitionResetSetConfigCmd self))
  := by
  rw [resetSetConfigCmd_eq]
  apply IsCommand.setConfig (enumerates_ofNat (length_resetConfigTlvs self))
  · apply List.cons_ne_nil
  · apply nodup_resetConfigTlvs

/-- What CORE_GET_CONFIG_RSP leads to, if there is anything to be set. -/
theorem isCommand_setConfig {self : NciSm} (h : self.Configurable) (payload : List UInt8)
    (hany : (nciTransitionIdleToDiscoveryCheckConfig self payload).1.any = true) :
  IsCommand nciGidCore nciOidCoreSetConfig
    (some (nciTransitionIdleToDiscoverySetConfigCmd
      (nciTransitionIdleToDiscoveryCheckConfig self payload).1
      (nciTransitionIdleToDiscoveryCheckConfig self payload).2))
  := by
  rw [setConfigCmd_eq]
  · apply IsCommand.setConfig (lists_configTlvs payload)
    · intro hnil
      rw [configTlvs_eq_nil_iff, hany] at hnil
      cases hnil
    · apply nodup_tlvs
  · rw [value_nciTransitionIdleToDiscoveryCheckConfig]
    apply (length_nciTransitionIdleToDiscoveryLaNfcid1Expected h).2
  · rw [value_nciTransitionIdleToDiscoveryCheckConfig]
    apply h.liAHb

/-! ### RF_SET_LISTEN_MODE_ROUTING_CMD -/

theorem sublist_wantedIf (c : Prop) [Decidable c] (entry : RoutingEntry) :
  (wantedIf c entry).Sublist [entry]
  := by
  rw [wantedIf]
  split
  · apply List.Sublist.refl
  · apply List.nil_sublist

/-- No entry is wanted twice. -/
theorem RoutingVariant.nodup_wanted (v : RoutingVariant) (self : NciSm) :
  (v.wanted self).Nodup
  := by
  have hprotocol : (protocolEntries self).Sublist [.protocol .nfcDep, .protocol .isoDep] :=
    (sublist_wantedIf _ _).append (sublist_wantedIf _ _)
  have htech : (techEntries self).Sublist [.tech 0x02, .tech 0x01, .tech 0x00] :=
    ((sublist_wantedIf _ _).append (sublist_wantedIf _ _)).append (sublist_wantedIf _ _)
  cases v with
  | mixed =>
      apply (hprotocol.append htech).nodup
      decide
  | protocol =>
      apply hprotocol.nodup
      decide
  | technology =>
      apply htech.nodup
      decide

theorem isCommand_setRouting (v : RoutingVariant) (self : NciSm) :
  IsCommand nciGidRf nciOidRfSetListenModeRouting
    (some (nciTransitionIdleToDiscoverySetRoutingCmd self v.addRoutingEntries))
  := by
  rw [v.setRoutingCmd_eq]
  have hcmd : Tlv.Lists (v.placed self)
      (UInt8.ofNat (v.placed self).length :: Tlv.encodeAll (v.placed self)) := by
    use UInt8.ofNat (v.placed self).length, v.toNat_length_placed self
    rfl
  apply IsCommand.setListenModeRouting 0 hcmd
  · apply (List.take_sublist _ _).nodup (v.nodup_wanted self)

/-! ### RF_DISCOVER_MAP_CMD -/

/-- Mappings are added to a list. -/
theorem addMapping_encode (c : Prop) [Decidable c] (ms ms' : List Mapping) :
  addMapping c (ms'.flatMap Mapping.encode)
      (UInt8.ofNat ms.length :: ms.flatMap Mapping.encode)
    = UInt8.ofNat (ms ++ if c then ms' else []).length
      :: (ms ++ if c then ms' else []).flatMap Mapping.encode
  := by
  have hlength : (ms'.flatMap Mapping.encode).length / 3 = ms'.length := by
    have hthree : (ms'.flatMap Mapping.encode).length = 3 * ms'.length := by
      induction ms' with
      | nil => rfl
      | cons m ms' ih =>
          rw [List.flatMap_cons, List.length_append, ih, List.length_cons]
          change 3 + _ = _
          omega
    omega
  rw [addMapping]
  split
  · rw [hlength, List.length_append, UInt8.ofNat_add, List.flatMap_append]
    rfl
  · rw [List.append_nil]

/-- The command is a list of some of the given mappings, in their order. -/
def Maps (all : List Mapping) (cmd : List UInt8) : Prop :=
  ∃ ms : List Mapping, ms.Sublist all
    ∧ cmd = UInt8.ofNat ms.length :: ms.flatMap Mapping.encode

theorem Maps.add {all : List Mapping} {cmd : List UInt8} (h : Maps all cmd) (c : Prop)
    [Decidable c] (ms : List Mapping) :
  Maps (all ++ ms) (addMapping c (ms.flatMap Mapping.encode) cmd)
  := by
  obtain ⟨ms', hms', rfl⟩ := h
  use ms' ++ if c then ms else []
  constructor
  · apply hms'.append
    split
    · apply List.Sublist.refl
    · apply List.nil_sublist
  · apply addMapping_encode

/-- All mappings that there may be: T1T and T2T, T3T, T5T, ISO-DEP, NFC-DEP in both modes, and
ISO-DEP in listen mode. -/
def allMappings : List Mapping :=
  [] ++ [⟨0x01, 0x01, 0x01⟩, ⟨0x02, 0x01, 0x01⟩] ++ [⟨0x03, 0x01, 0x01⟩] ++ [⟨0x06, 0x01, 0x01⟩]
    ++ [⟨0x04, 0x01, 0x02⟩] ++ [⟨0x05, 0x01, 0x03⟩] ++ [⟨0x05, 0x02, 0x03⟩] ++ [⟨0x04, 0x02, 0x02⟩]

theorem maps_nciTransitionIdleToDiscoverMapCmd (self : NciSm) :
  Maps allMappings (nciTransitionIdleToDiscoverMapCmd self)
  := by
  have hstart : Maps [] [0x00] := by
    use []
    use List.Sublist.refl _
    rfl
  exact ((((((hstart.add _ _).add _ _).add _ _).add _ _).add _ _).add _ _).add _ _

theorem isCommand_discoverMap (self : NciSm) :
  IsCommand nciGidRf nciOidRfDiscoverMap (some (nciTransitionIdleToDiscoverMapCmd self))
  := by
  obtain ⟨ms, hms, heq⟩ := maps_nciTransitionIdleToDiscoverMapCmd self
  rw [heq]
  have hlength : ms.length < 256 := by
    apply Nat.lt_of_le_of_lt hms.length_le
    decide
  apply IsCommand.discoverMap (enumerates_ofNat hlength)
  apply hms.nodup
  decide

/-! ### RF_DISCOVER_CMD -/

/-- The modes that are added are some of those in the table, in their order. -/
theorem discoverConfigurations_eq (modes : List (UInt32 × UInt8)) (techs : UInt32)
    (added : List UInt8) :
  ∃ new : List UInt8, new.Sublist (modes.map Prod.snd)
    ∧ discoverConfigurations modes techs
        (UInt8.ofNat added.length :: added.flatMap discoverEntry)
      = UInt8.ofNat (added ++ new).length :: (added ++ new).flatMap discoverEntry
  := by
  induction modes generalizing techs added with
  | nil =>
      use [], List.nil_sublist _
      rw [List.append_nil]
      rfl
  | cons entry modes ih =>
      obtain ⟨tech, mode⟩ := entry
      rw [discoverConfigurations]
      split
      · split
        · have hadd : addEntry (UInt8.ofNat added.length :: added.flatMap discoverEntry) [mode, 1]
              = UInt8.ofNat (added ++ [mode]).length
                :: (added ++ [mode]).flatMap discoverEntry := by
            rw [addEntry, List.length_append, UInt8.ofNat_add, List.flatMap_append]
            rfl
          obtain ⟨new, hnew, heq⟩ := ih (techs &&& ~~~tech) (added ++ [mode])
          use mode :: new, hnew.cons_cons mode
          rw [hadd, heq, List.append_assoc]
          rfl
        · obtain ⟨new, hnew, heq⟩ := ih techs added
          use new, hnew.cons _
      · use [], List.nil_sublist _
        rw [List.append_nil]

theorem isCommand_discover (self : NciSm) :
  IsCommand nciGidRf nciOidRfDiscover (some (nciTransitionIdleToDiscoveryDiscoverCmd self))
  := by
  obtain ⟨new, hnew, heq⟩ := discoverConfigurations_eq techModes
    (nciTransitionIdleToDiscoveryTechs self) []
  have hcmd : nciTransitionIdleToDiscoveryDiscoverCmd self
      = UInt8.ofNat new.length :: new.flatMap discoverEntry := heq
  have hlength : new.length < 256 := by
    apply Nat.lt_of_le_of_lt hnew.length_le
    decide
  rw [hcmd]
  apply IsCommand.discover (enumerates_ofNat hlength)
  apply hnew.nodup
  decide

/-! ### What a response leads to -/

theorem isCommand_configureRoutingOutcome (self : NciSm) {sm : NciSm} {gid oid : UInt8}
    {cmd : Option (List UInt8)} {next : NciSmResponseFunc}
    (h : configureRoutingOutcome self = .send sm gid oid cmd next) :
  IsCommand gid oid cmd
  := by
  rw [configureRoutingOutcome] at h
  split_ifs at h
  · cases h
    apply isCommand_setRouting .mixed
  · cases h
    apply isCommand_setRouting .protocol
  · cases h
    apply isCommand_setRouting .technology
  · cases h
    apply isCommand_discoverMap
  · cases h
    apply isCommand_discoverMap

/-- The command that follows a response. -/
theorem NciSmResponseFunc.isCommand_outcome {resp : NciSmResponseFunc} {payload : List UInt8}
    {self sm : NciSm} (hconf : self.Configurable) {gid oid : UInt8} {cmd : Option (List UInt8)}
    {next : NciSmResponseFunc} (h : resp.outcome payload self = .send sm gid oid cmd next) :
  IsCommand gid oid cmd
  := by
  cases resp
  case resetRsp =>
    rw [outcome, resetOutcome] at h
    split_ifs at h
    all_goals cases h
    apply IsCommand.init
  case resetInitV1Rsp =>
    rw [outcome] at h
    cases hparsed : parseInitV1Rsp payload
    all_goals
      rw [hparsed] at h
      cases h
  case resetInitV2Rsp =>
    rw [outcome] at h
    cases hparsed : parseInitV2Rsp payload
    all_goals
      rw [hparsed] at h
      cases h
  case idleToDiscoveryGetConfigRsp =>
    rw [outcome, getConfigOutcome] at h
    split at h
    · rename_i hany
      cases h
      apply isCommand_setConfig hconf payload hany
    · apply isCommand_configureRoutingOutcome self h
  case idleToDiscoverySetConfigRsp => apply isCommand_configureRoutingOutcome self h
  case idleToDiscoverySetMixedRoutingRsp =>
    rw [outcome] at h
    split at h
    · cases h
      apply isCommand_discoverMap
    · cases h
      apply isCommand_setRouting .protocol
  case idleToDiscoverySetProtocolRoutingRsp =>
    rw [outcome] at h
    split at h
    · cases h
      apply isCommand_discoverMap
    · cases h
      apply isCommand_setRouting .technology
  case idleToDiscoveryLastProtocolRoutingRsp =>
    cases h
    apply isCommand_discoverMap
  case idleToDiscoverySetTechRoutingRsp =>
    cases h
    apply isCommand_discoverMap
  case idleToDiscoverMapRsp =>
    rw [outcome] at h
    split at h
    · cases h
      apply isCommand_discover
    · cases h
  case deactivateToDiscoveryRsp =>
    rw [outcome] at h
    split at h
    · cases h
    · cases h
      apply IsCommand.deactivate
  all_goals
    rw [outcome] at h
    try split_ifs at h
    all_goals cases h

/-! ### Moves -/

variable {H : SmHost} {w w' : SmWorld SmHistory}

/-- The machines have the same parameters. -/
structure NciSm.SameParams (sm sm' : NciSm) : Prop where
  laNfcid1 : sm'.laNfcid1 = sm.laNfcid1
  liAHb : sm'.liAHb = sm.liAHb

theorem NciSm.SameParams.refl (sm : NciSm) :
  sm.SameParams sm
  := ⟨rfl, rfl⟩

theorem NciSm.SameParams.trans {sm sm' sm'' : NciSm} (h : sm.SameParams sm')
    (h' : sm'.SameParams sm'') :
  sm.SameParams sm''
  := by
  constructor
  · rw [h'.laNfcid1, h.laNfcid1]
  · rw [h'.liAHb, h.liAHb]

theorem NciSm.SameParams.configurable {sm sm' : NciSm} (h : sm.SameParams sm')
    (hconf : sm.Configurable) :
  sm'.Configurable
  := by
  constructor
  · rw [h.laNfcid1]
    apply hconf.laNfcid1
  · rw [h.laNfcid1]
    apply hconf.bytes
  · rw [h.liAHb]
    apply hconf.liAHb

/-- The machine has parameters that can be configured, and has sent only well formed commands. -/
structure SmWorld.Commands (w : SmWorld SmHistory) : Prop where
  configurable : w.sm.Configurable
  history : ∀ a ∈ w.io, a.IsWellFormed

/-- The machine goes on with the same parameters, and what it does is well formed. -/
theorem SmWorld.Commands.append (h : w.Commands) {sm : NciSm} {new : List SmAction}
    (hsame : w.sm.SameParams sm) (hnew : ∀ a ∈ new, a.IsWellFormed) :
  SmWorld.Commands ⟨sm, w.io ++ new⟩
  := by
  use hsame.configurable h.configurable
  intro a ha
  rcases List.mem_append.mp ha with ha | ha
  · apply h.history a ha
  · apply hnew a ha

theorem SmWorld.Commands.edit (h : w.Commands) {sm : NciSm} (hsame : w.sm.SameParams sm) :
  (w.become sm).Commands
  := by
  use hsame.configurable h.configurable
  apply h.history

/-- The first command of a transition. -/
theorem isWellFormed_firstCommand (t : NciTransition) (ok : Bool) (sm : NciSm) :
  (t.firstCommand ok sm).IsWellFormed
  := by
  cases t
  all_goals right
  case reset => apply IsCommand.reset
  case idleToDiscovery =>
    have hcmd : Enumerates UInt8.toNat (fun id => [id]) [nciConfigLaSensRes1, nciConfigLaSelInfo,
        nciConfigLaNfcid1, nciConfigLfProtocolType, nciConfigLiAHistBy]
        [5, nciConfigLaSensRes1, nciConfigLaSelInfo, nciConfigLaNfcid1, nciConfigLfProtocolType,
          nciConfigLiAHistBy] := by
      use 5
      use rfl
      rfl
    apply IsCommand.getConfig hcmd
    decide
  all_goals apply IsCommand.deactivate

theorem sameParams_started (t : NciTransition) (timeout ok : Bool) (w : SmWorld SmHistory) :
  w.sm.SameParams (w.started t timeout ok).sm
  := by
  cases ok with
  | true =>
      obtain ⟨_, _, _, _, _, h⟩ := SmWorld.started_accepted t timeout w
      rw [h]
      split
      · constructor
        · rfl
        · rfl
      · constructor
        · rfl
        · rfl
  | false =>
      obtain ⟨_, _, _, h⟩ := SmWorld.started_refused t timeout w
      rw [h]
      split
      · constructor
        · rfl
        · rfl
      · constructor
        · rfl
        · rfl

theorem sameParams_nciSmStalled (state : NciState) (sm : NciSm) :
  sm.SameParams (nciSmStalled state sm)
  := by
  obtain ⟨_, _, _, _, _, _, h, -⟩ := nciSmStalled_eq state sm
  rw [h]
  constructor
  · rfl
  · rfl

theorem sameParams_nciSmEndEntering (state : NciState) (sm : NciSm) :
  sm.SameParams (nciSmEndEntering state sm)
  := by
  obtain ⟨_, h, -⟩ := nciSmEndEntering_eq state sm
  rw [h]
  constructor
  · rfl
  · rfl

theorem sameParams_nciSmSetNextState (state : NciState) (sm : NciSm) :
  sm.SameParams (nciSmSetNextState state sm)
  := by
  obtain ⟨_, h, -⟩ := nciSmSetNextState_eq state sm
  rw [h]
  constructor
  · rfl
  · rfl

/-- A transition is started with a command that is well formed. -/
theorem SmWorld.Commands.started (h : w.Commands) (t : NciTransition) (timeout ok : Bool) :
  (w.started t timeout ok).Commands
  := by
  apply h.append (sameParams_started t timeout ok w)
  intro a ha
  rw [List.mem_singleton.mp ha]
  apply isWellFormed_firstCommand

/-- Turns send only first commands of transitions. -/
theorem SmTurn.commands (hturn : SmTurn w w') (h : w.Commands) :
  w'.Commands
  := by
  cases hturn with
  | enter henter =>
      rename_i state
      obtain ⟨_, _, _, _, _, hentering⟩ := nciSmEntering_eq state w.sm
      apply h.edit
      rw [hentering]
      constructor
      · rfl
      · rfl
  | follow hentering hstate hactive hnext hdest timeout ok =>
      rename_i state t
      have hsame : w.sm.SameParams { w.sm with nextTransition := none } := ⟨rfl, rfl⟩
      have hforget : (w.map fun self => { self with nextTransition := none }).Commands :=
        h.edit hsame
      apply (hforget.started t timeout ok).edit
      apply sameParams_nciSmEndEntering
  | forget =>
      apply h.edit
      constructor
      · rfl
      · rfl
  | leave _ _ state _ =>
      apply h.edit
      apply sameParams_nciSmEndEntering
  | stall version expectingNtf _ type =>
      have hsame : w.sm.SameParams
          { w.sm with version := version, expectingNtf := expectingNtf } := ⟨rfl, rfl⟩
      apply h.append (hsame.trans (sameParams_nciSmStalled type.state _))
      · intro a ha
        rw [List.mem_singleton.mp ha]
        trivial
  | start _ _ _ timeout ok _ => apply h.started
  | abandon hentering hactive ht timeout =>
      rename_i t
      have hsame : (w.started t timeout true).sm.SameParams
          { (w.started t timeout true).sm with nextTransition := none } := ⟨rfl, rfl⟩
      apply (h.started t timeout true).append (hsame.trans (sameParams_nciSmStalled .error _))
      · intro a ha
        rw [List.mem_singleton.mp ha]
        trivial
  | queue hentering hactive ht' next =>
      rename_i u t
      have hsame : w.sm.SameParams { w.sm with nextTransition := some t } := ⟨rfl, rfl⟩
      apply h.edit (hsame.trans (sameParams_nciSmSetNextState next _))
  | aim _ next =>
      apply h.edit
      apply sameParams_nciSmSetNextState
  | emit _ =>
      apply h.append
      · constructor
        · rfl
        · rfl
      · intro a ha
        rw [List.mem_singleton.mp ha]
        trivial

/-- The limits of CORE_INIT_RSP are set, and the controller is configured. -/
theorem isWellFormed_configuring (rsp : CoreInitRsp) (ok : Bool) (sm : NciSm) :
  ∀ a ∈ rsp.configuring ok sm, a.IsWellFormed
  := by
  intro a ha
  simp only [CoreInitRsp.configuring, List.mem_cons, List.not_mem_nil, or_false] at ha
  rcases ha with rfl | rfl | rfl
  · trivial
  · trivial
  · right
    apply isCommand_resetSetConfig

/-- Every move sends only commands that are well formed. -/
theorem SmMove.commands (hmove : SmMove H w w') (h : w.Commands) :
  w'.Commands
  := by
  have hplain : ∀ a : SmAction, a.IsWellFormed → ∀ b ∈ [a], b.IsWellFormed := by
    intro a ha b hb
    rw [List.mem_singleton.mp hb]
    apply ha
  have hmachine : ∀ {resp : NciSmResponseFunc} {payload : List UInt8} {sm : NciSm},
      (resp.outcome payload w.sm).machine = some sm → w.sm.SameParams sm := by
    intro resp payload sm hsm
    obtain ⟨_, _, rfl⟩ := NciSmResponseFunc.machine_outcome hsm
    constructor
    · rfl
    · rfl
  cases hmove with
  | edit sm hkernel =>
      apply h.edit
      constructor
      · apply congrArg NciSm.laNfcid1 hkernel
      · apply congrArg NciSm.liAHb hkernel
  | sar c _ => apply h.append (NciSm.SameParams.refl _) (hplain (.sar c) trivial)
  | activated ntf =>
      apply h.append (NciSm.SameParams.refl _) (hplain (.intfActivated ntf) trivial)
  | answered resp status payload _ _ =>
      apply h.append (NciSm.SameParams.refl _) (hplain (.answered resp status payload) trivial)
  | stay _ houtcome =>
      apply h.edit
      apply hmachine
      rw [houtcome]
      rfl
  | send _ houtcome ok =>
      apply h.append
      · apply hmachine
        rw [houtcome]
        rfl
      · apply hplain
        right
        apply NciSmResponseFunc.isCommand_outcome h.configurable houtcome
  | configure _ _ ok =>
      rename_i rsp _
      apply h.append
      · constructor
        · rfl
        · rfl
      · intro a ha
        rcases List.mem_cons.mp ha with rfl | ha
        · trivial
        · apply isWellFormed_configuring rsp ok _ a ha
  | @remember _ _ _ rsp _ _ =>
      apply h.append
      · constructor
        · rfl
        · rfl
      · apply hplain (.sar (.setMaxLogicalConnections rsp.maxLogicalConns)) trivial
  | resume _ _ _ ok =>
      apply h.append (NciSm.SameParams.refl _)
      apply isWellFormed_configuring
  | renew _ _ _ _ ok =>
      apply h.append (NciSm.SameParams.refl _)
      apply hplain
      right
      apply IsCommand.initV2
  | seen _ _ ntf =>
      apply h.edit
      constructor
      · rfl
      · rfl
  | select _ _ payload ok =>
      apply h.append (NciSm.SameParams.refl _)
      apply hplain
      left
      rfl
  | turn hturn => apply hturn.commands h

/-! ### Runs -/

theorem SmHost.Reaches.commands {n : Nat} (hreaches : H.Reaches n w) (h : w.Commands)
    (events : List SmEvent) :
  (H.run n w events).Commands
  := by
  induction events generalizing w with
  | nil => apply h
  | cons e events ih =>
      apply ih (hreaches.step e)
      apply (H.performs_step n hreaches.enteringState e).toPasses.keeps
      · intro _ _ hmove
        apply hmove.commands
      · apply h.append (NciSm.SameParams.refl _)
        intro a ha
        rw [List.mem_singleton.mp ha]
        trivial

/-- In every run of a machine whose identifier and historical bytes have the lengths that they
say, every command that is sent, apart from RF_DISCOVER_SELECT_CMD, is well formed: the number in
front of a list is that of its entries, nothing follows them, and none of them is there twice. -/
theorem commandsWellFormed (H : SmHost) (n : Nat) (techs : UInt32) {laNfcid1 : NciNfcid1}
    {liAHb : NciAtsHb} (hconf : (nciSmNew techs laNfcid1 liAHb).Configurable)
    (events : List SmEvent) :
  ∀ a ∈ (H.run n (SmWorld.new (nciSmNew techs laNfcid1 liAHb)) events).io, a.IsWellFormed
  := by
  have hreaches : H.Reaches n (SmWorld.new (nciSmNew techs laNfcid1 liAHb)) := by
    use techs, laNfcid1, liAHb, []
    rfl
  apply (hreaches.commands _ events).history
  use hconf
  intro a ha
  cases ha

/-- The way to RFST_DISCOVERY, with an identifier and historical bytes. -/
theorem commandsWellFormed_discovering :
  (SmHost.quiet.run 0 (SmWorld.new (nciSmNew nciTechDefault
      ⟨7, [1, 2, 3, 4, 5, 6, 7, 0, 0, 0]⟩ ⟨2, [8, 9]⟩)) eventsToDiscovery).io.Forall
    SmAction.IsWellFormed
  := by
  rw [List.forall_iff_forall_mem]
  apply commandsWellFormed
  constructor
  · decide
  · decide
  · decide

end Nci
