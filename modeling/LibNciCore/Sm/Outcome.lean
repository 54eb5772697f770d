import LibNciCore.Sm.Notifications

/-!
# Outcomes

A response function whose transition is active does one of a few things with a response: it
changes what the machine remembers and waits, it sends the next command, it enters a state, or
it fails. What it does is a function of the response and the machine, its `SmOutcome`.
-/

namespace Nci

/-! ### Outcomes -/

/-- What a response leads to. The machine that waits, sends a command or fails may have changed. -/
inductive SmOutcome where
  | stay (sm : NciSm)
  | send (sm : NciSm) (gid oid : UInt8) (payload : Option (List UInt8)) (resp : NciSmResponseFunc)
  | enter (state : NciState)
  | fail (sm : NciSm)
  | configure (rsp : CoreInitRsp)

/-- The machine is replaced by another one. -/
def SmWorld.become {ι : Type} (w : SmWorld ι) (sm : NciSm) : SmWorld ι := { w with sm := sm }

/-- The outcome takes effect. -/
def SmOutcome.perform {ι : Type} (E : NciSmIo ι) (w : SmWorld ι) : SmOutcome → SmWorld ι
  | .stay sm => w.become sm
  | .send sm gid oid payload resp => (nciSmSendCommand E gid oid payload resp (w.become sm)).2
  | .enter state => nciSmEnterState E state none w
  | .fail sm => nciSmError E (w.become sm)
  | .configure rsp => nciTransitionResetInitialized E rsp w

/-- The outcome of CORE_RESET_RSP. -/
def resetOutcome (payload : List UInt8) (self : NciSm) : SmOutcome :=
  if payload.length = 3 then
    if startsWithOk payload then
      .send { self with version := .v1 } nciGidCore nciOidCoreInit none .resetInitV1Rsp
    else .fail { self with version := .v1 }
  else if payload.length = 1 then
    if startsWithOk payload then .stay { self with version := .v2 }
    else .fail { self with version := .v2 }
  else .fail self

/-- The outcome of CORE_INIT_RSP, given how it is parsed. -/
def initOutcome (rsp : Option CoreInitRsp) (self : NciSm) : SmOutcome :=
  match rsp with
  | some rsp => .configure rsp
  | none => .fail self

/-- RF_DISCOVER_MAP_CMD is sent. -/
def mapOutcome (self : NciSm) : SmOutcome :=
  .send self nciGidRf nciOidRfDiscoverMap (some (nciTransitionIdleToDiscoverMapCmd self))
    .idleToDiscoverMapRsp

/-- RF_SET_LISTEN_MODE_ROUTING_CMD is sent. -/
def routingOutcome (addRoutingEntries : NciSm → List UInt8 → List UInt8) (resp : NciSmResponseFunc)
    (self : NciSm) : SmOutcome :=
  .send self nciGidRf nciOidRfSetListenModeRouting
    (some (nciTransitionIdleToDiscoverySetRoutingCmd self addRoutingEntries)) resp

/-- The routing is configured, if there is any. -/
def configureRoutingOutcome (self : NciSm) : SmOutcome :=
  let routing :=
    self.nfccRouting &&& (nciNfccRoutingProtocolBased ||| nciNfccRoutingTechnologyBased)
  if self.listens then
    if routing = nciNfccRoutingProtocolBased ||| nciNfccRoutingTechnologyBased then
      routingOutcome nciTransitionIdleToDiscoveryMixedRoutingEntries
        .idleToDiscoverySetMixedRoutingRsp self
    else if routing = nciNfccRoutingProtocolBased then
      routingOutcome nciTransitionIdleToDiscoveryProtocolRoutingEntries
        .idleToDiscoveryLastProtocolRoutingRsp self
    else if routing = nciNfccRoutingTechnologyBased then
      routingOutcome nciTransitionIdleToDiscoveryTechRoutingEntries
        .idleToDiscoverySetTechRoutingRsp self
    else mapOutcome self
  else mapOutcome self

/-- The outcome of CORE_GET_CONFIG_RSP. -/
def getConfigOutcome (payload : List UInt8) (self : NciSm) : SmOutcome :=
  let r := nciTransitionIdleToDiscoveryCheckConfig self payload
  if r.1.any then
    .send self nciGidCore nciOidCoreSetConfig
      (some (nciTransitionIdleToDiscoverySetConfigCmd r.1 r.2)) .idleToDiscoverySetConfigRsp
  else configureRoutingOutcome self

/-- What a response leads to while its transition is active. -/
def NciSmResponseFunc.outcome (resp : NciSmResponseFunc) (payload : List UInt8) (self : NciSm) :
    SmOutcome :=
  match resp with
  | .resetRsp => resetOutcome payload self
  | .resetInitV1Rsp => initOutcome (parseInitV1Rsp payload) self
  | .resetInitV2Rsp => initOutcome (parseInitV2Rsp payload) self
  | .resetSetConfigRsp => .enter .idle
  | .idleToDiscoveryGetConfigRsp => getConfigOutcome payload self
  | .idleToDiscoverySetConfigRsp => configureRoutingOutcome self
  | .idleToDiscoverySetMixedRoutingRsp =>
      if startsWithOk payload then mapOutcome self
      else
        routingOutcome nciTransitionIdleToDiscoveryProtocolRoutingEntries
          .idleToDiscoverySetProtocolRoutingRsp self
  | .idleToDiscoverySetProtocolRoutingRsp =>
      if startsWithOk payload then mapOutcome self
      else
        routingOutcome nciTransitionIdleToDiscoveryTechRoutingEntries
          .idleToDiscoverySetTechRoutingRsp self
  | .idleToDiscoveryLastProtocolRoutingRsp | .idleToDiscoverySetTechRoutingRsp => mapOutcome self
  | .idleToDiscoverMapRsp =>
      if startsWithOk payload then
        .send self nciGidRf nciOidRfDiscover (some (nciTransitionIdleToDiscoveryDiscoverCmd self))
          .idleToDiscoveryDiscoverRsp
      else .fail self
  | .idleToDiscoveryDiscoverRsp =>
      if startsWithOk payload then .enter .discovery else .fail self
  | .deactivateToIdleRsp => if startsWithOk payload then .enter .idle else .fail self
  | .deactivateToDiscoveryRsp =>
      if payload = [nciStatusOk] then .stay self
      else .send self nciGidRf nciOidRfDeactivate (some [0x00]) .deactivateToDiscoveryIdleRsp
  | .deactivateToDiscoveryIdleRsp =>
      if payload = [nciStatusOk] then .enter .idle else .fail self
  | .pollActiveToIdleRsp => if payload = [nciStatusOk] then .stay self else .fail self
  | .listenActiveToIdleRsp =>
      if payload = [nciStatusOk] then
        if self.ntf.isSome then .enter .idle else .stay { self with expectingNtf := true }
      else .fail self
  | .w4HostSelectRsp => .stay self

/-- The machine that waits, sends a command or fails. -/
def SmOutcome.machine : SmOutcome → Option NciSm
  | .stay sm | .send sm .. | .fail sm => some sm
  | .enter _ | .configure _ => none

/-- Before a machine waits, sends a command or fails, only the version and what is expected may
change. -/
theorem NciSmResponseFunc.machine_outcome {resp : NciSmResponseFunc} {payload : List UInt8}
    {self sm : NciSm} (h : (resp.outcome payload self).machine = some sm) :
  ∃ version expectingNtf, sm = { self with version := version, expectingNtf := expectingNtf }
  := by
  have hrouting : (configureRoutingOutcome self).machine = some self := by
    rw [configureRoutingOutcome]
    split_ifs <;> rfl
  cases resp
  case resetRsp =>
    rw [outcome, resetOutcome] at h
    split_ifs at h <;> cases h <;> exact ⟨_, _, rfl⟩
  case resetInitV1Rsp =>
    rw [outcome] at h
    cases hparsed : parseInitV1Rsp payload <;> rw [hparsed] at h <;> cases h
    exact ⟨_, _, rfl⟩
  case resetInitV2Rsp =>
    rw [outcome] at h
    cases hparsed : parseInitV2Rsp payload <;> rw [hparsed] at h <;> cases h
    exact ⟨_, _, rfl⟩
  case idleToDiscoveryGetConfigRsp =>
    rw [outcome, getConfigOutcome] at h
    split at h
    · cases h
      exact ⟨_, _, rfl⟩
    · cases hrouting.symm.trans h
      exact ⟨_, _, rfl⟩
  case idleToDiscoverySetConfigRsp =>
    cases hrouting.symm.trans h
    exact ⟨_, _, rfl⟩
  all_goals
    rw [outcome] at h
    try split_ifs at h
    all_goals cases h <;> exact ⟨_, _, rfl⟩

/-- Only the reset transition configures the machine. -/
theorem NciSmResponseFunc.transition_of_configure {resp : NciSmResponseFunc}
    {payload : List UInt8} {self : NciSm} {rsp : CoreInitRsp}
    (h : resp.outcome payload self = .configure rsp) :
  resp.transition = some .reset
  := by
  have hrouting : configureRoutingOutcome self ≠ .configure rsp := by
    rw [configureRoutingOutcome]
    split_ifs <;> rintro ⟨⟩
  cases resp
  case resetRsp => rfl
  case resetInitV1Rsp => rfl
  case resetInitV2Rsp => rfl
  case idleToDiscoveryGetConfigRsp =>
    rw [outcome, getConfigOutcome] at h
    split at h
    · cases h
    · exact absurd h hrouting
  case idleToDiscoverySetConfigRsp => exact absurd h hrouting
  all_goals
    rw [outcome] at h
    try split_ifs at h
    all_goals cases h

/-- The machine is configured with what CORE_INIT_RSP tells. -/
theorem NciSmResponseFunc.init_of_configure {resp : NciSmResponseFunc} {payload : List UInt8}
    {self : NciSm} {rsp : CoreInitRsp} (h : resp.outcome payload self = .configure rsp) :
  (resp = .resetInitV1Rsp ∧ parseInitV1Rsp payload = some rsp)
    ∨ (resp = .resetInitV2Rsp ∧ parseInitV2Rsp payload = some rsp)
  := by
  have htransition := transition_of_configure h
  cases resp <;> cases htransition
  case resetRsp =>
    rw [outcome, resetOutcome] at h
    split_ifs at h
  case resetInitV1Rsp =>
    rw [outcome] at h
    cases hparsed : parseInitV1Rsp payload <;> rw [hparsed] at h <;> cases h
    exact Or.inl ⟨rfl, rfl⟩
  case resetInitV2Rsp =>
    rw [outcome] at h
    cases hparsed : parseInitV2Rsp payload <;> rw [hparsed] at h <;> cases h
    exact Or.inr ⟨rfl, rfl⟩
  case resetSetConfigRsp => cases h

/-! ### Response functions -/

variable {ι : Type} {E : NciSmIo ι} {w : SmWorld ι} {t : NciTransition}

/-- While a transition is active, its response functions handle what is received. -/
theorem nciTransitionRsp_active (h : w.sm.activeTransition = some t)
    (received : SmWorld ι → SmWorld ι) :
  nciTransitionRsp E t received .success w = received w
  := by
  have hgoes : ¬(NciRequestStatus.success = .cancelled ∨ w.sm.activeTransition ≠ some t) :=
    not_or.mpr ⟨by decide, not_not.mpr h⟩
  rw [nciTransitionRsp, if_neg hgoes, if_neg (by decide)]

/-- A response that does not come in time is an error. -/
theorem nciTransitionRsp_timeout (h : w.sm.activeTransition = some t)
    (received : SmWorld ι → SmWorld ι) :
  nciTransitionRsp E t received .timeout w = nciSmError E w
  := by
  have hgoes : ¬(NciRequestStatus.timeout = .cancelled ∨ w.sm.activeTransition ≠ some t) :=
    not_or.mpr ⟨by decide, not_not.mpr h⟩
  rw [nciTransitionRsp, if_neg hgoes, if_pos rfl]

theorem nciTransitionFinish_active (h : w.sm.activeTransition = some t) :
  nciTransitionFinish E t w = nciSmEnterState E t.dest none w
  := if_pos h

theorem perform_configureRoutingOutcome (w : SmWorld ι) :
  (configureRoutingOutcome w.sm).perform E w = nciTransitionIdleToDiscoveryConfigureRouting E w
  := by
  rw [configureRoutingOutcome, nciTransitionIdleToDiscoveryConfigureRouting]
  split_ifs <;> rfl

theorem perform_resetOutcome (payload : List UInt8) (h : w.sm.activeTransition = some .reset) :
  (resetOutcome payload w.sm).perform E w = nciTransitionResetRsp E .success payload w
  := by
  rw [nciTransitionResetRsp, nciTransitionRsp_active h, resetOutcome]
  dsimp only
  split_ifs <;> rfl

theorem perform_initOutcome (rsp : Option CoreInitRsp) (w : SmWorld ι) :
  (initOutcome rsp w.sm).perform E w = nciTransitionResetInitRsp E rsp w
  := by cases rsp <;> rfl

theorem perform_getConfigOutcome (payload : List UInt8)
    (h : w.sm.activeTransition = some .idleToDiscovery) :
  (getConfigOutcome payload w.sm).perform E w
    = nciTransitionIdleToDiscoveryGetConfigRsp E .success payload w
  := by
  rw [nciTransitionIdleToDiscoveryGetConfigRsp, nciTransitionRsp_active h, getConfigOutcome]
  dsimp only
  split
  · rfl
  · exact perform_configureRoutingOutcome w

/-- A response function whose transition is active does what its outcome says. -/
theorem NciSmResponseFunc.call_success {resp : NciSmResponseFunc} (hresp : resp.transition = some t)
    (h : w.sm.activeTransition = some t) (payload : List UInt8) :
  resp.call E .success payload w = (resp.outcome payload w.sm).perform E w
  := by
  have hfinish : nciTransitionFinish E t w = nciSmEnterState E t.dest none w :=
    nciTransitionFinish_active h
  cases resp <;> cases hresp
  case resetRsp => exact (perform_resetOutcome payload h).symm
  case resetInitV1Rsp =>
    exact (nciTransitionRsp_active h _).trans (perform_initOutcome _ w).symm
  case resetInitV2Rsp =>
    exact (nciTransitionRsp_active h _).trans (perform_initOutcome _ w).symm
  case resetSetConfigRsp => exact (nciTransitionRsp_active h _).trans hfinish
  case idleToDiscoveryGetConfigRsp => exact (perform_getConfigOutcome payload h).symm
  case idleToDiscoverySetConfigRsp =>
    exact (nciTransitionRsp_active h _).trans (perform_configureRoutingOutcome w).symm
  case idleToDiscoverySetMixedRoutingRsp =>
    rw [call, nciTransitionIdleToDiscoverySetMixedRoutingRsp, nciTransitionRsp_active h, outcome]
    split <;> rfl
  case idleToDiscoverySetProtocolRoutingRsp =>
    rw [call, nciTransitionIdleToDiscoverySetProtocolRoutingRsp, nciTransitionRsp_active h, outcome]
    split <;> rfl
  case idleToDiscoveryLastProtocolRoutingRsp => exact nciTransitionRsp_active h _
  case idleToDiscoverySetTechRoutingRsp => exact nciTransitionRsp_active h _
  case idleToDiscoverMapRsp =>
    rw [call, nciTransitionIdleToDiscoverMapRsp, nciTransitionRsp_active h, outcome]
    split <;> rfl
  case idleToDiscoveryDiscoverRsp =>
    rw [call, nciTransitionIdleToDiscoveryDiscoverRsp, nciTransitionRsp_active h, outcome, hfinish]
    split <;> rfl
  case deactivateToIdleRsp =>
    rw [call, nciTransitionDeactivateToIdleRsp, nciTransitionRsp_active h, outcome, hfinish]
    split <;> rfl
  case deactivateToDiscoveryRsp =>
    rw [call, nciTransitionDeactivateToDiscoveryRsp, nciTransitionRsp_active h, outcome]
    split <;> rfl
  case deactivateToDiscoveryIdleRsp =>
    rw [call, nciTransitionDeactivateToDiscoveryIdleRsp, nciTransitionRsp_active h, outcome]
    split <;> rfl
  case pollActiveToIdleRsp =>
    rw [call, nciTransitionPollActiveToIdleRsp, nciTransitionRsp_active h, outcome]
    split <;> rfl
  case listenActiveToIdleRsp =>
    rw [call, nciTransitionListenActiveToIdleRsp, nciTransitionRsp_active h, outcome, hfinish]
    split_ifs <;> rfl

/-- A response function whose transition is active fails when there is no response in time. -/
theorem NciSmResponseFunc.call_timeout {resp : NciSmResponseFunc} (hresp : resp.transition = some t)
    (h : w.sm.activeTransition = some t) (payload : List UInt8) :
  resp.call E .timeout payload w = nciSmError E w
  := by
  have herror : nciTransitionRsp E t id .timeout w = nciSmError E w := nciTransitionRsp_timeout h id
  cases resp <;> cases hresp <;> exact herror

end Nci
