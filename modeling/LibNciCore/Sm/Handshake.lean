import LibNciCore.Sm.Steps
import LibNciCore.Lib.History

/-!
# The handshake of the transition to RFST_DISCOVERY

On its way from RFST_IDLE to RFST_DISCOVERY the machine asks for the configuration, sets what is
not as it should be, configures the routing if it is to listen, maps the interfaces and starts the
discovery. Each command answers the response to the one before it. What is not answered as
expected is skipped, tried in another way, or ends the transition.
-/

namespace Nci

/-! ### Commands -/

/-- The commands of the transition. -/
inductive HandshakeCommand where
  | getConfig
  | setConfig
  | mixedRouting
  | protocolRouting
  | techRouting
  | discoverMap
  | discover
  deriving DecidableEq, Repr

/-- The identifiers and the payload are those of a command, sent by the given machine. -/
def HandshakeCommand.Is (command : HandshakeCommand) (gid oid : UInt8)
    (payload : Option (List UInt8)) (sm : NciSm) : Prop :=
  match command with
  | .getConfig => gid = nciGidCore ∧ oid = nciOidCoreGetConfig
  | .setConfig => gid = nciGidCore ∧ oid = nciOidCoreSetConfig
  | .mixedRouting =>
      gid = nciGidRf ∧ oid = nciOidRfSetListenModeRouting
        ∧ payload = some (nciTransitionIdleToDiscoverySetRoutingCmd sm
          nciTransitionIdleToDiscoveryMixedRoutingEntries)
  | .protocolRouting =>
      gid = nciGidRf ∧ oid = nciOidRfSetListenModeRouting
        ∧ payload = some (nciTransitionIdleToDiscoverySetRoutingCmd sm
          nciTransitionIdleToDiscoveryProtocolRoutingEntries)
  | .techRouting =>
      gid = nciGidRf ∧ oid = nciOidRfSetListenModeRouting
        ∧ payload = some (nciTransitionIdleToDiscoverySetRoutingCmd sm
          nciTransitionIdleToDiscoveryTechRoutingEntries)
  | .discoverMap => gid = nciGidRf ∧ oid = nciOidRfDiscoverMap
  | .discover => gid = nciGidRf ∧ oid = nciOidRfDiscover

/-- The command of the transition that a response function waits for the response to. -/
def NciSmResponseFunc.command : NciSmResponseFunc → Option HandshakeCommand
  | .idleToDiscoveryGetConfigRsp => some .getConfig
  | .idleToDiscoverySetConfigRsp => some .setConfig
  | .idleToDiscoverySetMixedRoutingRsp => some .mixedRouting
  | .idleToDiscoverySetProtocolRoutingRsp | .idleToDiscoveryLastProtocolRoutingRsp =>
      some .protocolRouting
  | .idleToDiscoverySetTechRoutingRsp => some .techRouting
  | .idleToDiscoverMapRsp => some .discoverMap
  | .idleToDiscoveryDiscoverRsp => some .discover
  | .resetRsp | .resetInitV1Rsp | .resetInitV2Rsp | .resetSetConfigRsp | .deactivateToIdleRsp
  | .deactivateToDiscoveryRsp | .deactivateToDiscoveryIdleRsp | .pollActiveToIdleRsp
  | .listenActiveToIdleRsp | .w4HostSelectRsp => none

/-- The ways in which the routing is configured, or not. -/
def routingCommands : List (List HandshakeCommand) :=
  [[], [.mixedRouting], [.mixedRouting, .protocolRouting],
    [.mixedRouting, .protocolRouting, .techRouting], [.protocolRouting], [.techRouting]]

/-- The commands come in the order of the transition. -/
def HandshakeCommand.Ordered (commands : List HandshakeCommand) : Prop :=
  ∃ set ∈ [[], [HandshakeCommand.setConfig]], ∃ routing ∈ routingCommands,
    commands <+: .getConfig :: (set ++ routing ++ [.discoverMap, .discover])

instance (commands : List HandshakeCommand) : Decidable (HandshakeCommand.Ordered commands) :=
  inferInstanceAs (Decidable (∃ set ∈ [[], [HandshakeCommand.setConfig]],
    ∃ routing ∈ routingCommands,
      commands <+: .getConfig :: (set ++ routing ++ [.discoverMap, .discover])))

/-! ### What has been exchanged -/

/-- How the controller routes what it receives in listen mode. -/
def NciSm.routing (self : NciSm) : UInt8 :=
  self.nfccRouting &&& (nciNfccRoutingProtocolBased ||| nciNfccRoutingTechnologyBased)

/-- Listening is enabled, and routing is supported. -/
structure NciSm.Routes (sm : NciSm) : Prop where
  listens : sm.listens = true
  routing : sm.routing ≠ 0

/-- The commands that configure the routing. -/
def NciSmResponseFunc.isRouting : NciSmResponseFunc → Bool
  | .idleToDiscoverySetMixedRoutingRsp | .idleToDiscoverySetProtocolRoutingRsp
  | .idleToDiscoveryLastProtocolRoutingRsp | .idleToDiscoverySetTechRoutingRsp => true
  | _ => false

/-- What has been exchanged since the transition was started: the commands that were sent, by
their response functions, those among them that were answered with `STATUS_OK`, and the machine
that sent the first command about the routing. -/
structure Handshake where
  sent : List NciSmResponseFunc
  acknowledged : List NciSmResponseFunc
  router : Option NciSm

/-- What has been exchanged after another action. -/
def Handshake.after (h : Handshake) : SmAction → Handshake
  | .sent _ _ _ resp _ sm =>
      if resp = .idleToDiscoveryGetConfigRsp then ⟨[resp], [], none⟩
      else if resp.command.isSome then
        { h with
          sent := h.sent ++ [resp]
          router := if resp.isRouting then h.router.or (some sm) else h.router }
      else h
  | .answered resp .success payload =>
      if startsWithOk payload then { h with acknowledged := h.acknowledged ++ [resp] } else h
  | _ => h

/-- What has been exchanged since the transition was started for the last time. -/
def SmHistory.handshake (history : SmHistory) : Handshake :=
  history.foldl Handshake.after ⟨[], [], none⟩

/-- The commands of the transition since it was started for the last time. -/
def SmHistory.commands (history : SmHistory) : List HandshakeCommand :=
  history.handshake.sent.filterMap NciSmResponseFunc.command

@[simp]
theorem SmHistory.handshake_append (history : SmHistory) (a : SmAction) :
  SmHistory.handshake (history ++ [a]) = history.handshake.after a
  := List.foldl_concat ..

/-- A machine sends the next command after a response to the last one. -/
def NciSmResponseFunc.Precedes (last : NciSmResponseFunc) (payload : List UInt8) (sm : NciSm) :
    NciSmResponseFunc → Prop
  | .idleToDiscoverySetConfigRsp => last = .idleToDiscoveryGetConfigRsp
  | .idleToDiscoverySetMixedRoutingRsp =>
      last.command ∈ [some .getConfig, some .setConfig] ∧ sm.listens = true
        ∧ sm.routing = nciNfccRoutingProtocolBased ||| nciNfccRoutingTechnologyBased
  | .idleToDiscoverySetProtocolRoutingRsp =>
      last = .idleToDiscoverySetMixedRoutingRsp ∧ startsWithOk payload = false
  | .idleToDiscoveryLastProtocolRoutingRsp =>
      last.command ∈ [some .getConfig, some .setConfig] ∧ sm.listens = true
        ∧ sm.routing = nciNfccRoutingProtocolBased
  | .idleToDiscoverySetTechRoutingRsp =>
      last.command ∈ [some .getConfig, some .setConfig] ∧ sm.listens = true
          ∧ sm.routing = nciNfccRoutingTechnologyBased
        ∨ last = .idleToDiscoverySetProtocolRoutingRsp ∧ startsWithOk payload = false
  | .idleToDiscoverMapRsp =>
      last.command ∈ [some .getConfig, some .setConfig] ∧ ¬sm.Routes
        ∨ last.isRouting = true ∧ (startsWithOk payload = true
          ∨ last = .idleToDiscoveryLastProtocolRoutingRsp
          ∨ last = .idleToDiscoverySetTechRoutingRsp)
  | .idleToDiscoveryDiscoverRsp => last = .idleToDiscoverMapRsp ∧ startsWithOk payload = true
  | _ => False

/-- A command of the transition is the first one, or it answers the response to the one before it
in the same run. If it is about the routing, then the machine that decided to configure the
routing listens, and routing is supported. -/
def SmHistory.Continues (pre : SmHistory) : SmAction → Prop
  | .sent gid oid payload resp _ sm =>
      ∀ command, resp.command = some command → command.Is gid oid payload sm
        ∧ (command = .getConfig ∨ ∃ (earlier : SmHistory) (last : NciSmResponseFunc)
          (rsp : List UInt8), pre = earlier ++ [.answered last .success rsp]
            ∧ earlier.outstanding = some last ∧ earlier.handshake.sent.getLast? = some last
            ∧ last.Precedes rsp sm resp)
        ∧ (resp.isRouting = true → (pre.handshake.router.getD sm).Routes)
  | _ => True

/-! ### Order -/

/-- What may have been sent when the response to a command is awaited. -/
def NciSmResponseFunc.sequences (resp : NciSmResponseFunc) : List (List NciSmResponseFunc) :=
  let configured : List (List NciSmResponseFunc) :=
    [[.idleToDiscoveryGetConfigRsp],
      [.idleToDiscoveryGetConfigRsp, .idleToDiscoverySetConfigRsp]]
  let routed : List (List NciSmResponseFunc) :=
    [[.idleToDiscoverySetMixedRoutingRsp],
      [.idleToDiscoverySetMixedRoutingRsp, .idleToDiscoverySetProtocolRoutingRsp],
      [.idleToDiscoverySetMixedRoutingRsp, .idleToDiscoverySetProtocolRoutingRsp,
        .idleToDiscoverySetTechRoutingRsp],
      [.idleToDiscoveryLastProtocolRoutingRsp], [.idleToDiscoverySetTechRoutingRsp]]
  let mapped : List (List NciSmResponseFunc) := ([] :: routed).map (· ++ [.idleToDiscoverMapRsp])
  let discovered : List (List NciSmResponseFunc) :=
    mapped.map (· ++ [.idleToDiscoveryDiscoverRsp])
  (configured ++ configured.flatMap fun l => (routed ++ mapped ++ discovered).map (l ++ ·)).filter
    fun l => l.getLast? = some resp

/-- What is sent comes in order. -/
theorem ordered_sequences :
  ∀ resp : NciSmResponseFunc, ∀ sent ∈ resp.sequences,
    HandshakeCommand.Ordered (sent.filterMap NciSmResponseFunc.command)
  := by
  intro resp
  cases resp <;> decide

/-- A command that is sent after a response extends the sequence. -/
theorem NciSmResponseFunc.Precedes.sequences {last next : NciSmResponseFunc}
    {payload : List UInt8} {sm : NciSm} (h : last.Precedes payload sm next) :
  ∀ sent ∈ last.sequences, sent ++ [next] ∈ next.sequences
  := by
  have hconfigured : ∀ {last : NciSmResponseFunc}, 
      last.command ∈ [some .getConfig, some .setConfig] →
      last = .idleToDiscoveryGetConfigRsp ∨ last = .idleToDiscoverySetConfigRsp := by
    intro last
    cases last <;> decide
  cases next <;> try exact h.elim
  case idleToDiscoverySetConfigRsp =>
    cases h
    decide
  case idleToDiscoverySetMixedRoutingRsp =>
    obtain ⟨hlast, -⟩ := h
    obtain rfl | rfl := hconfigured hlast <;> decide
  case idleToDiscoverySetProtocolRoutingRsp =>
    obtain ⟨rfl, -⟩ := h
    decide
  case idleToDiscoveryLastProtocolRoutingRsp =>
    obtain ⟨hlast, -⟩ := h
    obtain rfl | rfl := hconfigured hlast <;> decide
  case idleToDiscoverySetTechRoutingRsp =>
    obtain ⟨hlast, -⟩ | ⟨rfl, -⟩ := h
    · obtain rfl | rfl := hconfigured hlast <;> decide
    · decide
  case idleToDiscoverMapRsp =>
    obtain ⟨hlast, -⟩ | ⟨hlast, -⟩ := h
    · obtain rfl | rfl := hconfigured hlast <;> decide
    · cases last <;> cases hlast <;> decide
  case idleToDiscoveryDiscoverRsp =>
    obtain ⟨rfl, -⟩ := h
    decide

/-! ### Outcomes -/

/-- The controller routes by protocol, by technology, by both or not at all. -/
theorem NciSm.routing_cases (self : NciSm) :
  self.routing = nciNfccRoutingProtocolBased ||| nciNfccRoutingTechnologyBased
    ∨ self.routing = nciNfccRoutingProtocolBased ∨ self.routing = nciNfccRoutingTechnologyBased
    ∨ self.routing = 0
  := by
  have hcases : ∀ routing : BitVec 8,
      (UInt8.ofBitVec routing &&& 6 : UInt8) = 6 ∨ (UInt8.ofBitVec routing &&& 6 : UInt8) = 4
        ∨ (UInt8.ofBitVec routing &&& 6 : UInt8) = 2
        ∨ (UInt8.ofBitVec routing &&& 6 : UInt8) = 0 := by decide +kernel
  exact hcases self.nfccRouting.toBitVec

/-- Whether or not the routing is configured, the transition goes on. -/
theorem precedes_configureRoutingOutcome {last next : NciSmResponseFunc} {self sm : NciSm}
    {gid oid : UInt8} {cmd : Option (List UInt8)} (payload : List UInt8)
    (hlast : last.command ∈ [some .getConfig, some .setConfig])
    (h : configureRoutingOutcome self = .send sm gid oid cmd next) :
  sm = self ∧ (∀ command, next.command = some command → command.Is gid oid cmd sm)
    ∧ last.Precedes payload sm next
  := by
  have hrouting : self.nfccRouting
      &&& (nciNfccRoutingProtocolBased ||| nciNfccRoutingTechnologyBased)
      = self.routing := rfl
  rw [configureRoutingOutcome, hrouting] at h
  split_ifs at h with hlistens hmixed hprotocol htech
  · cases h
    exact ⟨rfl, by rintro _ ⟨⟩; exact ⟨rfl, rfl, rfl⟩, hlast, hlistens, hmixed⟩
  · cases h
    exact ⟨rfl, by rintro _ ⟨⟩; exact ⟨rfl, rfl, rfl⟩, hlast, hlistens, hprotocol⟩
  · cases h
    exact ⟨rfl, by rintro _ ⟨⟩; exact ⟨rfl, rfl, rfl⟩, Or.inl ⟨hlast, hlistens, htech⟩⟩
  · cases h
    have hnone : self.routing = 0 :=
      ((self.routing_cases.resolve_left hmixed).resolve_left hprotocol).resolve_left htech
    exact ⟨rfl, by rintro _ ⟨⟩; exact ⟨rfl, rfl⟩,
      Or.inl ⟨hlast, fun hroutes => hroutes.routing hnone⟩⟩
  · cases h
    exact ⟨rfl, by rintro _ ⟨⟩; exact ⟨rfl, rfl⟩,
      Or.inl ⟨hlast, fun hroutes => hlistens hroutes.listens⟩⟩

/-- The command that is sent after a response to a command of the transition is the next one. -/
theorem NciSmResponseFunc.precedes_outcome {last next : NciSmResponseFunc} {self sm : NciSm}
    {gid oid : UInt8} {cmd : Option (List UInt8)} {payload : List UInt8}
    (h : last.outcome payload self = .send sm gid oid cmd next) {command : HandshakeCommand}
    (hcommand : next.command = some command) :
  sm = self ∧ command.Is gid oid cmd sm ∧ last.Precedes payload sm next
  := by
  have hrouting : last.command ∈ [some .getConfig, some .setConfig] →
      configureRoutingOutcome self = .send sm gid oid cmd next →
      sm = self ∧ command.Is gid oid cmd sm ∧ last.Precedes payload sm next := by
    intro hlast h
    obtain ⟨hsm, his, hprecedes⟩ := precedes_configureRoutingOutcome payload hlast h
    exact ⟨hsm, his command hcommand, hprecedes⟩
  cases last
  case resetRsp =>
    rw [outcome, resetOutcome] at h
    split_ifs at h
    all_goals cases h
    all_goals cases hcommand
  case resetInitV1Rsp =>
    rw [outcome] at h
    cases hparsed : parseInitV1Rsp payload <;> rw [hparsed] at h <;> cases h
  case resetInitV2Rsp =>
    rw [outcome] at h
    cases hparsed : parseInitV2Rsp payload <;> rw [hparsed] at h <;> cases h
  case idleToDiscoveryGetConfigRsp =>
    rw [outcome, getConfigOutcome] at h
    split at h
    · cases h
      cases hcommand
      exact ⟨rfl, ⟨rfl, rfl⟩, rfl⟩
    · exact hrouting (by decide) h
  case idleToDiscoverySetConfigRsp => exact hrouting (by decide) h
  case idleToDiscoverySetMixedRoutingRsp =>
    rw [outcome] at h
    split_ifs at h with hok
    · cases h
      cases hcommand
      exact ⟨rfl, ⟨rfl, rfl⟩, Or.inr ⟨rfl, Or.inl hok⟩⟩
    · cases h
      cases hcommand
      exact ⟨rfl, ⟨rfl, rfl, rfl⟩, rfl, Bool.eq_false_iff.mpr hok⟩
  case idleToDiscoverySetProtocolRoutingRsp =>
    rw [outcome] at h
    split_ifs at h with hok
    · cases h
      cases hcommand
      exact ⟨rfl, ⟨rfl, rfl⟩, Or.inr ⟨rfl, Or.inl hok⟩⟩
    · cases h
      cases hcommand
      exact ⟨rfl, ⟨rfl, rfl, rfl⟩, Or.inr ⟨rfl, Bool.eq_false_iff.mpr hok⟩⟩
  case idleToDiscoveryLastProtocolRoutingRsp =>
    cases h
    cases hcommand
    exact ⟨rfl, ⟨rfl, rfl⟩, Or.inr ⟨rfl, Or.inr (Or.inl rfl)⟩⟩
  case idleToDiscoverySetTechRoutingRsp =>
    cases h
    cases hcommand
    exact ⟨rfl, ⟨rfl, rfl⟩, Or.inr ⟨rfl, Or.inr (Or.inr rfl)⟩⟩
  case idleToDiscoverMapRsp =>
    rw [outcome] at h
    split_ifs at h with hok
    cases h
    cases hcommand
    exact ⟨rfl, ⟨rfl, rfl⟩, rfl, hok⟩
  case idleToDiscoveryDiscoverRsp =>
    rw [outcome] at h
    split_ifs at h
  all_goals
    rw [outcome] at h
    try split_ifs at h
    all_goals cases h <;> cases hcommand

/-! ### Histories -/

/-- What the history of a machine tells about the transition. -/
structure SmHistory.Handshakes (history : SmHistory) : Prop where
  position : ∀ resp, history.handshake.sent.getLast? = some resp →
    history.handshake.sent ∈ resp.sequences
  routes : ∀ sm, history.handshake.router = some sm → sm.Routes
  routing : ∀ resp, history.handshake.sent.getLast? = some resp → resp.isRouting = true →
    history.handshake.router.isSome
  acknowledged : .idleToDiscoveryDiscoverRsp ∈ history.handshake.sent →
    .idleToDiscoverMapRsp ∈ history.handshake.acknowledged
  outstanding : ∀ resp, history.outstanding = some resp → resp.command.isSome = true →
    history.handshake.sent.getLast? = some resp
  answered : ∀ (earlier : SmHistory) resp payload,
    history = earlier ++ [.answered resp .success payload] → earlier.outstanding = some resp
      ∧ (resp.command.isSome = true → earlier.handshake.sent.getLast? = some resp)
      ∧ (startsWithOk payload = true → resp ∈ history.handshake.acknowledged)
  entries : History.Throughout SmHistory.Continues history

/-- Neither a command of the transition is sent nor a response received. -/
def SmAction.isBystander : SmAction → Bool
  | .sent _ _ _ resp _ _ => resp.command.isNone
  | .answered .. => false
  | _ => true

variable {history : SmHistory} {a : SmAction}

theorem SmHistory.Handshakes.nil :
  SmHistory.Handshakes []
  := by
  refine ⟨?_, ?_, ?_, ?_, ?_, ?_, History.throughout_nil⟩
  · rintro resp ⟨⟩
  · rintro sm ⟨⟩
  · rintro resp ⟨⟩
  · rintro ⟨⟩
  · rintro resp ⟨⟩
  · rintro earlier resp payload h
    cases (List.append_ne_nil_of_right_ne_nil earlier (by simp)) h.symm

theorem Handshake.after_bystander (h : a.isBystander = true) (x : Handshake) :
  x.after a = x
  := by
  cases a
  case sent gid oid payload resp ok sm =>
    have hcommand : resp.command = none := Option.isNone_iff_eq_none.mp h
    have hfirst : resp ≠ .idleToDiscoveryGetConfigRsp := by
      rintro rfl
      cases hcommand
    rw [after, if_neg hfirst, if_neg (by rw [hcommand]; exact Bool.false_ne_true)]
  case answered => cases h
  all_goals rfl

theorem SmHistory.Handshakes.bystander (h : history.Handshakes) (ha : a.isBystander = true) :
  SmHistory.Handshakes (history ++ [a])
  := by
  have hsame : SmHistory.handshake (history ++ [a]) = history.handshake := by
    rw [SmHistory.handshake_append, Handshake.after_bystander ha]
  refine ⟨?_, ?_, ?_, ?_, ?_, ?_, History.throughout_concat.mpr ⟨h.entries, ?_⟩⟩
  · rw [hsame]
    exact h.position
  · rw [hsame]
    exact h.routes
  · rw [hsame]
    exact h.routing
  · rw [hsame]
    exact h.acknowledged
  · intro resp hresp hcommand
    rw [hsame]
    rw [SmHistory.outstanding_append] at hresp
    cases a
    case sent gid oid payload resp' ok sm =>
      cases ok with
      | true =>
          cases hresp
          cases (Option.isNone_iff_eq_none.mp ha).symm.trans (Option.eq_some_of_isSome hcommand)
      | false => cases hresp
    case answered => cases ha
    case cancelled => cases hresp
    all_goals exact h.outstanding resp hresp hcommand
  · intro earlier resp payload hlast
    cases (List.append_inj_right' hlast rfl)
    cases ha
  · cases a
    case sent gid oid payload resp ok sm =>
      intro command hcommand
      cases (Option.isNone_iff_eq_none.mp ha).symm.trans hcommand
    all_goals trivial

theorem Handshake.sent_answered (x : Handshake) (resp : NciSmResponseFunc)
    (status : NciRequestStatus) (payload : List UInt8) :
  (x.after (.answered resp status payload)).sent = x.sent
    ∧ (x.after (.answered resp status payload)).router = x.router
  := by
  cases status
  case success =>
    rw [after]
    split <;> exact ⟨rfl, rfl⟩
  all_goals exact ⟨rfl, rfl⟩

theorem Handshake.acknowledged_answered (x : Handshake) (resp : NciSmResponseFunc)
    (status : NciRequestStatus) (payload : List UInt8) :
  ∀ resp' ∈ x.acknowledged, resp' ∈ (x.after (.answered resp status payload)).acknowledged
  := by
  intro resp' hmem
  cases status
  case success =>
    rw [after]
    split
    · exact List.mem_append_left _ hmem
    · exact hmem
  all_goals exact hmem

/-- The response to the last command is received. -/
theorem SmHistory.Handshakes.answer (h : history.Handshakes) {resp : NciSmResponseFunc}
    (hresp : history.outstanding = some resp) (status : NciRequestStatus) (payload : List UInt8) :
  SmHistory.Handshakes (history ++ [.answered resp status payload])
  := by
  obtain ⟨hsent, hrouter⟩ := history.handshake.sent_answered resp status payload
  refine ⟨?_, ?_, ?_, ?_, ?_, ?_, History.throughout_concat.mpr ⟨h.entries, trivial⟩⟩
  · rw [SmHistory.handshake_append, hsent]
    exact h.position
  · rw [SmHistory.handshake_append, hrouter]
    exact h.routes
  · rw [SmHistory.handshake_append, hsent, hrouter]
    exact h.routing
  · rw [SmHistory.handshake_append, hsent]
    exact fun hmem => history.handshake.acknowledged_answered _ _ _ _ (h.acknowledged hmem)
  · intro resp' hresp'
    rw [SmHistory.outstanding_append] at hresp'
    cases hresp'
  · intro earlier resp' payload' hlast
    obtain ⟨rfl, ha⟩ := List.append_inj' hlast rfl
    cases ha
    refine ⟨hresp, h.outstanding resp hresp, fun hok => ?_⟩
    rw [SmHistory.handshake_append, Handshake.after, if_pos hok]
    exact List.mem_append_right _ (List.mem_singleton_self _)

/-- The first command of the transition is sent. -/
theorem SmHistory.Handshakes.start (h : history.Handshakes) {payload : Option (List UInt8)}
    (ok : Bool) (sm : NciSm) :
  SmHistory.Handshakes (history ++ [.sent nciGidCore nciOidCoreGetConfig payload
    .idleToDiscoveryGetConfigRsp ok sm])
  := by
  have hsame : SmHistory.handshake (history ++ [.sent nciGidCore nciOidCoreGetConfig payload
      .idleToDiscoveryGetConfigRsp ok sm]) = ⟨[.idleToDiscoveryGetConfigRsp], [], none⟩ := by
    rw [SmHistory.handshake_append]
    rfl
  refine ⟨?_, ?_, ?_, ?_, ?_, ?_, History.throughout_concat.mpr ⟨h.entries, ?_⟩⟩
  · rw [hsame]
    rintro resp ⟨⟩
    decide
  · rw [hsame]
    rintro sm ⟨⟩
  · rw [hsame]
    rintro resp ⟨⟩ ⟨⟩
  · rw [hsame]
    decide
  · intro resp hresp _
    rw [hsame]
    rw [SmHistory.outstanding_append] at hresp
    cases ok with
    | true => exact hresp
    | false => cases hresp
  · intro earlier resp payload hlast
    cases (List.append_inj_right' hlast rfl)
  · rintro command ⟨⟩
    exact ⟨⟨rfl, rfl⟩, Or.inl rfl, by rintro ⟨⟩⟩

/-- Only a command of the transition is followed by another one. -/
theorem NciSmResponseFunc.Precedes.command {last next : NciSmResponseFunc}
    {payload : List UInt8} {sm : NciSm} (h : last.Precedes payload sm next) :
  last.command.isSome = true
  := by
  have hconfigured : last.command ∈ [some .getConfig, some .setConfig] →
      last.command.isSome = true := by
    cases last <;> decide
  cases next <;> try exact h.elim
  case idleToDiscoverySetConfigRsp =>
    cases h
    rfl
  case idleToDiscoverySetMixedRoutingRsp => exact hconfigured h.1
  case idleToDiscoverySetProtocolRoutingRsp =>
    obtain ⟨rfl, -⟩ := h
    rfl
  case idleToDiscoveryLastProtocolRoutingRsp => exact hconfigured h.1
  case idleToDiscoverySetTechRoutingRsp =>
    obtain ⟨hlast, -⟩ | ⟨rfl, -⟩ := h
    · exact hconfigured hlast
    · rfl
  case idleToDiscoverMapRsp =>
    obtain ⟨hlast, -⟩ | ⟨hlast, -⟩ := h
    · exact hconfigured hlast
    · cases last <;> first | rfl | cases hlast
  case idleToDiscoveryDiscoverRsp =>
    obtain ⟨rfl, -⟩ := h
    rfl

/-- Whoever configures the routing listens, or has decided to configure it before. -/
theorem NciSmResponseFunc.Precedes.routes {last next : NciSmResponseFunc}
    {payload : List UInt8} {sm : NciSm} (h : last.Precedes payload sm next)
    (hrouting : next.isRouting = true) :
  sm.Routes ∨ last.isRouting = true
  := by
  cases next <;> cases hrouting
  case idleToDiscoverySetMixedRoutingRsp =>
    obtain ⟨-, hlistens, hmixed⟩ := h
    exact Or.inl ⟨hlistens, by rw [hmixed]; decide⟩
  case idleToDiscoverySetProtocolRoutingRsp =>
    obtain ⟨rfl, -⟩ := h
    exact Or.inr rfl
  case idleToDiscoveryLastProtocolRoutingRsp =>
    obtain ⟨-, hlistens, hprotocol⟩ := h
    exact Or.inl ⟨hlistens, by rw [hprotocol]; decide⟩
  case idleToDiscoverySetTechRoutingRsp =>
    obtain ⟨-, hlistens, htech⟩ | ⟨rfl, -⟩ := h
    · exact Or.inl ⟨hlistens, by rw [htech]; decide⟩
    · exact Or.inr rfl

/-- The machine that decides to configure the routing listens. -/
theorem SmHistory.Handshakes.router (h : history.Handshakes) {last next : NciSmResponseFunc}
    (hlast : history.handshake.sent.getLast? = some last) {payload : List UInt8} {sm : NciSm}
    (hprecedes : last.Precedes payload sm next) (hrouting : next.isRouting = true) :
  (history.handshake.router.getD sm).Routes
  := by
  cases hrouter : history.handshake.router with
  | some sm' => exact h.routes sm' hrouter
  | none =>
      obtain hroutes | hlast' := hprecedes.routes hrouting
      · exact hroutes
      · have hsome := h.routing last hlast hlast'
        rw [hrouter] at hsome
        cases hsome

/-- What is exchanged when the next command is sent. -/
theorem Handshake.after_next {x : Handshake} {resp : NciSmResponseFunc}
    (hfirst : resp ≠ .idleToDiscoveryGetConfigRsp) (hcommand : resp.command.isSome = true)
    (gid oid : UInt8) (payload : Option (List UInt8)) (ok : Bool) (sm : NciSm) :
  x.after (.sent gid oid payload resp ok sm)
    = { x with
        sent := x.sent ++ [resp]
        router := if resp.isRouting then x.router.or (some sm) else x.router }
  := by
  rw [after, if_neg hfirst, if_pos hcommand]

/-- The next command is sent after a response. -/
theorem SmHistory.Handshakes.send {last next : NciSmResponseFunc} {rsp : List UInt8}
    (h : SmHistory.Handshakes (history ++ [.answered last .success rsp])) {sm : NciSm}
    (hprecedes : last.Precedes rsp sm next) {gid oid : UInt8} {payload : Option (List UInt8)}
    {command : HandshakeCommand} (hcommand : next.command = some command)
    (his : command.Is gid oid payload sm) (ok : Bool) :
  SmHistory.Handshakes (history ++ [.answered last .success rsp]
    ++ [.sent gid oid payload next ok sm])
  := by
  obtain ⟨houtstanding, hlast, hacknowledged⟩ := h.answered history last rsp rfl
  have hlast' := hlast hprecedes.command
  have hfirst : next ≠ .idleToDiscoveryGetConfigRsp := by
    rintro rfl
    exact hprecedes
  have hlast'' : (SmHistory.handshake (history ++ [.answered last .success rsp])).sent.getLast?
      = some last := by
    rw [SmHistory.handshake_append, (history.handshake.sent_answered last .success rsp).1]
    exact hlast'
  have hcontinues : SmHistory.Continues (history ++ [.answered last .success rsp])
      (.sent gid oid payload next ok sm) := by
    intro command' hcommand'
    cases hcommand.symm.trans hcommand'
    exact ⟨his, Or.inr ⟨history, last, rsp, rfl, houtstanding, hlast', hprecedes⟩,
      h.router hlast'' hprecedes⟩
  have hentries := History.throughout_concat.mpr ⟨h.entries, hcontinues⟩
  generalize history ++ [.answered last .success rsp] = history' at h hlast'' hacknowledged hentries
  have hafter : SmHistory.handshake (history' ++ [.sent gid oid payload next ok sm])
      = { history'.handshake with
          sent := history'.handshake.sent ++ [next]
          router := if next.isRouting then history'.handshake.router.or (some sm)
            else history'.handshake.router } := by
    rw [SmHistory.handshake_append,
      Handshake.after_next hfirst (Option.isSome_of_eq_some hcommand)]
  refine ⟨?_, ?_, ?_, ?_, ?_, ?_, hentries⟩
  · rw [hafter]
    intro resp hresp
    rw [List.getLast?_concat] at hresp
    cases hresp
    exact hprecedes.sequences _ (h.position last hlast'')
  · rw [hafter]
    dsimp only
    intro sm' hsm'
    split at hsm'
    · rename_i hrouting
      have hroutes := h.router hlast'' hprecedes hrouting
      cases hrouter : history'.handshake.router with
      | some sm'' =>
          rw [hrouter] at hsm' hroutes
          cases hsm'
          exact hroutes
      | none =>
          rw [hrouter] at hsm' hroutes
          cases hsm'
          exact hroutes
    · exact h.routes sm' hsm'
  · rw [hafter]
    intro resp hresp hrouting
    rw [List.getLast?_concat] at hresp
    cases hresp
    rw [if_pos hrouting, Option.isSome_or]
    exact Bool.or_true _
  · rw [hafter]
    intro hmem
    obtain hmem | hmem := List.mem_append.mp hmem
    · exact h.acknowledged hmem
    · cases List.mem_singleton.mp hmem
      obtain ⟨rfl, hok⟩ := hprecedes
      exact hacknowledged hok
  · intro resp hresp _
    rw [hafter, List.getLast?_concat]
    rw [SmHistory.outstanding_append] at hresp
    cases ok with
    | true => exact hresp
    | false => cases hresp
  · intro earlier resp payload hlast
    cases (List.append_inj_right' hlast rfl)

/-! ### Moves -/

variable {H : SmHost} {w w' : SmWorld SmHistory}

/-- Things happen that do not concern the transition. -/
theorem SmHistory.Handshakes.bystanders (h : history.Handshakes) {new : List SmAction}
    (hnew : ∀ a ∈ new, a.isBystander = true) :
  SmHistory.Handshakes (history ++ new)
  := by
  induction new generalizing history with
  | nil =>
      rw [List.append_nil]
      exact h
  | cons a new ih =>
      rw [List.append_cons]
      have ha := h.bystander (hnew a List.mem_cons_self)
      exact ih ha fun a ha => hnew a (List.mem_cons_of_mem _ ha)

/-- The first command of a transition is sent. -/
theorem SmHistory.Handshakes.firstCommand (h : history.Handshakes) (t : NciTransition) (ok : Bool)
    (sm : NciSm) :
  SmHistory.Handshakes (history ++ [t.firstCommand ok sm])
  := by
  cases t
  case idleToDiscovery => exact h.start ok sm
  all_goals exact h.bystander rfl

theorem SmTurn.handshakes (hturn : SmTurn w w') (h : w.io.Handshakes) :
  w'.io.Handshakes
  := by
  cases hturn with
  | enter _ => exact h
  | follow _ _ _ _ _ timeout ok => exact h.firstCommand _ ok _
  | forget => exact h
  | leave _ _ state _ => exact h
  | stall _ _ _ type => exact h.bystander rfl
  | start _ _ _ timeout ok _ => exact h.firstCommand _ ok _
  | abandon _ _ _ timeout =>
      exact SmHistory.Handshakes.bystander (h.firstCommand _ true _) rfl
  | queue _ _ _ next => exact h
  | aim _ next => exact h
  | emit _ => exact h.bystander rfl

/-- Every move goes on with the transition as it should. -/
theorem SmMove.handshakes (hmove : SmMove H w w') (h : w.io.Handshakes) :
  w'.io.Handshakes
  := by
  cases hmove with
  | turn hturn => exact hturn.handshakes h
  | edit sm _ => exact h
  | sar c _ => exact h.bystander rfl
  | activated ntf => exact h.bystander rfl
  | answered resp status payload hresp _ => exact h.answer hresp status payload
  | stay _ _ => exact h
  | @send resp payload hanswering sm gid oid cmd next houtcome ok =>
      cases hcommand : next.command with
      | none =>
          apply h.bystander
          rw [SmAction.isBystander, hcommand]
          rfl
      | some command =>
          obtain ⟨-, his, hprecedes⟩ := NciSmResponseFunc.precedes_outcome houtcome hcommand
          obtain ⟨earlier, hreceived⟩ := hanswering.received
          have hsend := SmHistory.Handshakes.send (hreceived ▸ h) hprecedes hcommand his ok
          rw [← hreceived] at hsend
          exact hsend
  | configure _ _ ok =>
      apply h.bystanders
      simp [CoreInitRsp.configuring, SmAction.isBystander, NciSmResponseFunc.command]
  | remember _ _ _ => exact h.bystander rfl
  | resume _ _ _ ok =>
      apply h.bystanders
      simp [CoreInitRsp.configuring, SmAction.isBystander, NciSmResponseFunc.command]
  | renew _ _ _ _ ok => exact h.bystander rfl
  | seen _ _ ntf => exact h
  | select _ _ payload ok => exact h.bystander rfl

/-- In every run, the history tells of the transition as it should. -/
theorem SmHost.Reaches.handshakes {n : Nat} (h : H.Reaches n w) :
  w.io.Handshakes
  := by
  apply h.keeps (I := fun w => w.io.Handshakes) (fun _ _ hmove => hmove.handshakes)
  · exact fun w e hw => hw.bystander rfl
  · exact fun _ _ _ => SmHistory.Handshakes.nil

/-! ### How the transition ends -/

/-- The machine enters a state on the response to RF_DISCOVER_CMD only. -/
theorem NciSmResponseFunc.enter_of_idleToDiscovery {resp : NciSmResponseFunc}
    {payload : List UInt8} {self : NciSm} {state : NciState}
    (hresp : resp.transition = some .idleToDiscovery)
    (h : resp.outcome payload self = .enter state) :
  resp = .idleToDiscoveryDiscoverRsp ∧ startsWithOk payload = true
  := by
  have hrouting : configureRoutingOutcome self ≠ .enter state := by
    rw [configureRoutingOutcome]
    split_ifs <;> rintro ⟨⟩
  cases resp <;> cases hresp
  case idleToDiscoveryGetConfigRsp =>
    rw [outcome, getConfigOutcome] at h
    split at h
    · cases h
    · exact absurd h hrouting
  case idleToDiscoverySetConfigRsp => exact absurd h hrouting
  case idleToDiscoveryDiscoverRsp =>
    rw [outcome] at h
    split_ifs at h with hok
    exact ⟨rfl, hok⟩
  all_goals
    rw [outcome] at h
    try split_ifs at h
    all_goals cases h

/-- While the transition is active, the machine gets to RFST_DISCOVERY only by the response to
RF_DISCOVER_CMD. -/
theorem SmHost.step_discovery {n : Nat} (hactive : w.sm.activeTransition = some .idleToDiscovery)
    (hlast : w.sm.lastState ≠ .discovery) {e : SmEvent}
    (h : (H.step n w e).sm.lastState = .discovery) :
  ∃ payload, e = .response payload ∧ startsWithOk payload = true
    ∧ w.io.outstanding = some .idleToDiscoveryDiscoverRsp
  := by
  have hstate : NciState.isInternal .discovery = false := rfl
  have hsteady := SmControl.steady_lastState hstate
  have herror := keeps_nciSmError hsteady (H.keeps_io n hsteady)
  have hother : ¬((∀ payload, e ≠ .response payload)
      ∧ ∀ gid oid payload, e ≠ .notification gid oid payload) :=
    fun he => H.keeps_step n hstate hlast he h
  cases e
  case response payload =>
    cases hresp : w.io.outstanding with
    | none =>
        rw [H.step_response_none hresp] at h
        exact absurd h hlast
    | some resp =>
        by_cases htransition : resp.transition = some .idleToDiscovery
        · rw [H.step_response hresp htransition hactive] at h
          have hmachine : ∀ {sm}, (resp.outcome payload w.sm).machine = some sm →
              sm.lastState ≠ .discovery := by
            intro sm hsm
            obtain ⟨_, _, rfl⟩ := NciSmResponseFunc.machine_outcome hsm
            exact hlast
          cases houtcome : resp.outcome payload w.sm with
          | stay sm =>
              rw [houtcome] at h
              exact absurd h (hmachine (by rw [houtcome]; rfl))
          | send sm gid oid cmd next =>
              rw [houtcome] at h
              exact absurd h (hmachine (by rw [houtcome]; rfl))
          | enter state =>
              obtain ⟨rfl, hok⟩ := NciSmResponseFunc.enter_of_idleToDiscovery htransition houtcome
              exact ⟨payload, rfl, hok, rfl⟩
          | fail sm =>
              rw [houtcome] at h
              exact absurd h (herror _ (hmachine (by rw [houtcome]; rfl)))
          | configure rsp =>
              cases htransition.symm.trans (NciSmResponseFunc.transition_of_configure houtcome)
        · have hinactive : ∀ t, resp.transition = some t → w.sm.activeTransition ≠ some t := by
            intro t ht ht'
            cases hactive.symm.trans ht'
            exact htransition ht
          rw [H.step_response_inactive hresp hinactive] at h
          exact absurd h hlast
  case notification gid oid payload =>
    have hhandle : H.step n w (.notification gid oid payload)
        = nciDefaultHandleNtf (H.io n) gid oid payload
          (w.note (.arrived (.notification gid oid payload))) := by
      unfold step handle nciSmHandleNtf
      dsimp only [SmWorld.note_sm]
      rw [hactive]
      rfl
    rw [hhandle] at h
    exact absurd h (H.keeps_nciDefaultHandleNtf n hstate gid oid payload _ hlast)
  all_goals exact absurd ⟨by rintro payload ⟨⟩, by rintro gid oid payload ⟨⟩⟩ hother

/-! ### The transition -/

/-- The machine goes to RFST_DISCOVERY as it should: the commands come in order, each of them
after the response to the one before it, RFST_DISCOVERY is entered only after both
RF_DISCOVER_MAP_CMD and RF_DISCOVER_CMD have been acknowledged, everything else ends in
NCI_STATE_ERROR, and nothing happens after the transition is over. -/
structure SmHost.DiscoveryHandshake (H : SmHost) (n : Nat) (w : SmWorld SmHistory) : Prop where
  ordered : HandshakeCommand.Ordered w.io.commands
  continues : History.Throughout SmHistory.Continues w.io
  finishes : w.sm.activeTransition = some .idleToDiscovery →
    ∀ e, (H.step n w e).sm.lastState = .discovery →
      .idleToDiscoverMapRsp ∈ w.io.handshake.acknowledged
        ∧ w.io.outstanding = some .idleToDiscoveryDiscoverRsp
        ∧ ∃ payload, e = .response payload ∧ startsWithOk payload = true
  timeout : w.sm.activeTransition = some .idleToDiscovery → w.io.outstanding.isSome = true →
    H.Stalls n (H.step n w .commandTimeout)
  transitionTimeout : ∀ t, w.sm.timeoutId t = true →
    H.Stalls n (H.step n w (.transitionTimeout t))
  refused : w.sm.activeTransition = some .idleToDiscovery →
    ∀ resp : NciSmResponseFunc, w.io.outstanding = some resp →
    resp = .idleToDiscoverMapRsp ∨ resp = .idleToDiscoveryDiscoverRsp →
    ∀ payload, startsWithOk payload = false → H.Stalls n (H.step n w (.response payload))
  ignores : w.sm.activeTransition ≠ some .idleToDiscovery →
    ∀ resp : NciSmResponseFunc, resp.transition = some .idleToDiscovery →
    ∀ status payload w', w'.sm = w.sm → resp.call (H.io n) status payload w' = w'

/-- Whatever happens to a new machine, it goes from RFST_IDLE to RFST_DISCOVERY as it should. -/
theorem discoveryHandshake (H : SmHost) (n : Nat) (techs : UInt32) (laNfcid1 : NciNfcid1)
    (liAHb : NciAtsHb) (events : List SmEvent) :
  H.DiscoveryHandshake n (H.run n (SmWorld.new (nciSmNew techs laNfcid1 liAHb)) events)
  := by
  have hreaches : H.Reaches n (H.run n (SmWorld.new (nciSmNew techs laNfcid1 liAHb)) events) :=
    ⟨techs, laNfcid1, liAHb, events, rfl⟩
  have hhandshakes := hreaches.handshakes
  have haway := hreaches.leadsAway
  generalize H.run n (SmWorld.new (nciSmNew techs laNfcid1 liAHb)) events = w
    at hhandshakes haway
  constructor
  case ordered =>
    rw [SmHistory.commands]
    cases hlast : w.io.handshake.sent.getLast? with
    | none =>
        rw [List.getLast?_eq_none_iff.mp hlast]
        decide
    | some resp => exact ordered_sequences resp _ (hhandshakes.position resp hlast)
  case continues => exact hhandshakes.entries
  case finishes =>
    intro hactive e hdiscovery
    obtain ⟨payload, rfl, hok, houtstanding⟩ :=
      H.step_discovery hactive (haway _ hactive).symm hdiscovery
    have hlast := hhandshakes.outstanding _ houtstanding rfl
    exact ⟨hhandshakes.acknowledged (List.mem_of_getLast? hlast), houtstanding, payload, rfl, hok⟩
  case timeout =>
    intro _ houtstanding
    have hwaiting : (w.note (.arrived .commandTimeout)).io.outstanding = w.io.outstanding :=
      SmHistory.outstanding_append ..
    unfold SmHost.step SmHost.handle
    dsimp only
    rw [hwaiting, if_pos houtstanding]
    exact stalls_nciSmError n _
  case transitionTimeout =>
    intro t htimer
    unfold SmHost.step SmHost.handle
    have htimer' : (w.note (.arrived (.transitionTimeout t))).sm.timeoutId t = true := htimer
    dsimp only
    rw [if_pos htimer']
    exact stalls_nciSmError n _
  case refused =>
    intro hactive resp houtstanding hresp payload hrefused
    have hrefused' : ¬startsWithOk payload = true := Bool.eq_false_iff.mp hrefused
    obtain rfl | rfl := hresp
    · have hfail : NciSmResponseFunc.idleToDiscoverMapRsp.outcome payload w.sm = .fail w.sm :=
        if_neg hrefused'
      rw [H.step_response houtstanding rfl hactive, hfail]
      exact stalls_nciSmError n _
    · have hfail : NciSmResponseFunc.idleToDiscoveryDiscoverRsp.outcome payload w.sm
          = .fail w.sm := if_neg hrefused'
      rw [H.step_response houtstanding rfl hactive, hfail]
      exact stalls_nciSmError n _
  case ignores =>
    intro hactive resp hresp status payload w' hsm
    apply NciSmResponseFunc.call_inactive
    intro t ht
    cases hresp.symm.trans ht
    rw [hsm]
    exact hactive

end Nci
