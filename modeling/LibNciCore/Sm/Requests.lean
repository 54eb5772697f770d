import LibNciCore.Sm.Control

/-!
# The last request

While a transition is active, other states may be requested. The machine is to go to the one
that is requested last: it should be the next state at once, and once the transition is over and
the one that was queued behind it, the machine should rest there. This is so unless the state
the transition leads to is requested while another one is next.
-/

namespace Nci

/-! ### Requests during a transition -/

/-- The destination of a transition may be requested, and any state it has a transition to. -/
def NciTransition.Reaches (t : NciTransition) (state : NciState) : Prop :=
  state = t.dest ∨ (nciStateGetTransition t.dest state).isSome

instance (t : NciTransition) (state : NciState) : Decidable (t.Reaches state) :=
  inferInstanceAs (Decidable (_ ∨ _))

/-- A transition leads to the state for which it has been looked up. -/
theorem dest_of_nciStateGetTransition {state dest : NciState} {t : NciTransition}
    (h : nciStateGetTransition state dest = some t) :
  t.dest = dest
  := by
  have hfound := List.find?_some h
  exact beq_iff_eq.mp hfound

namespace SmControl

/-- A request, when all commands are accepted. -/
def request (c : SmControl) (state : NciState) : SmControl :=
  if c.nextState ≠ state then { c with pendingSwitch := none }.switch state true
  else { c with pendingSwitch := none }

/-- A transition is over, if it is active, and the next one is started. -/
def complete (t : NciTransition) (c : SmControl) : SmControl :=
  if c.activeTransition = some t then c.enter t.dest none true else c

/-- The active transition is over. -/
def completeActive (c : SmControl) : SmControl :=
  match c.activeTransition with
  | some t => c.complete t
  | none => c

/-- Where the machine will rest: in the destination of the transition, or of the next one if
that leads elsewhere. -/
def bound (t : NciTransition) (c : SmControl) : NciState :=
  ((c.nextTransition.filter fun u => u.dest != t.dest).map NciTransition.dest).getD t.dest

variable {t : NciTransition} {c : SmControl} {state : NciState}

theorem switch_of_active (ht : c.activeTransition = some t) (next : NciState) (ok : Bool) :
  c.switch next ok = c.forget.switchActive t.dest next ok
  := by
  unfold switch
  rw [ht]

/-- A request during a transition decides what comes after it. -/
theorem request_eq (ht : c.activeTransition = some t) (h : t.Reaches state) :
  c.request state
    = if c.nextState = state then { c with pendingSwitch := none }
      else if state = t.dest then { c with pendingSwitch := none, nextTransition := none }
      else
        { c with
          pendingSwitch := none
          nextTransition := nciStateGetTransition t.dest state
          nextState := state }
  := by
  rw [request]
  by_cases hnext : c.nextState = state
  · rw [if_neg (not_not.mpr hnext), if_pos hnext]
  · rw [if_pos hnext, if_neg hnext]
    rw [switch_of_active (c := { c with pendingSwitch := none }) ht, switchActive]
    by_cases hdest : state = t.dest
    · rw [if_neg (not_not.mpr hdest.symm), if_pos hdest]
      rfl
    · obtain ⟨u, hu⟩ := Option.isSome_iff_exists.mp (h.resolve_left hdest)
      rw [if_pos (Ne.symm hdest), if_neg hdest, hu]
      rfl

theorem activeTransition_request (ht : c.activeTransition = some t) (h : t.Reaches state) :
  (c.request state).activeTransition = some t
  := by
  rw [request_eq ht h]
  split_ifs <;> exact ht

/-- The destination of the transition does not become the next state. -/
theorem nextState_request (ht : c.activeTransition = some t) (h : t.Reaches state) :
  (c.request state).nextState = if state = t.dest then c.nextState else state
  := by
  rw [request_eq ht h]
  split_ifs with hnext hdest
  · rfl
  · exact hnext
  · rfl
  · rfl

/-- The machine is bound for a state that is requested, unless it is the next one already. -/
theorem bound_request (ht : c.activeTransition = some t) (h : t.Reaches state) :
  (c.request state).bound t = if c.nextState = state then c.bound t else state
  := by
  rw [request_eq ht h]
  split_ifs with hnext hdest
  · rfl
  · exact hdest.symm
  · obtain ⟨u, hu⟩ := Option.isSome_iff_exists.mp (h.resolve_left hdest)
    have hu' := dest_of_nciStateGetTransition hu
    have hne : (u.dest != t.dest) = true := by
      rw [hu']
      exact bne_iff_ne.mpr hdest
    rw [bound]
    dsimp only
    rw [hu, Option.filter_some, if_pos hne]
    exact hu'

/-! ### Sequences of requests -/

/-- The transition leads to the second state only if that is also the first one: another state
that is next stays so when the destination of the transition is requested. -/
def Heeded (t : NciTransition) (next state : NciState) : Prop :=
  state = t.dest → next = t.dest

instance (t : NciTransition) : DecidableRel (Heeded t) :=
  fun _ _ => inferInstanceAs (Decidable (_ → _))

theorem nextState_request_eq_iff (ht : c.activeTransition = some t) (h : t.Reaches state) :
  (c.request state).nextState = state ↔ Heeded t c.nextState state
  := by
  rw [nextState_request ht h, Heeded]
  split_ifs with hdest
  · rw [hdest]
    exact ⟨fun h _ => h, fun h => h rfl⟩
  · exact ⟨fun _ h => absurd h hdest, fun _ => rfl⟩

theorem activeTransition_requests {requests : List NciState}
    (h : ∀ state ∈ requests, t.Reaches state) (ht : c.activeTransition = some t) :
  (requests.foldl request c).activeTransition = some t
  := by
  induction requests generalizing c with
  | nil => exact ht
  | cons state requests ih =>
      apply ih
      · intro r hr
        exact h r (List.mem_cons_of_mem _ hr)
      · exact activeTransition_request ht (h state List.mem_cons_self)

/-- Each request decides what the next state is as long as each one is heeded. -/
theorem nextState_requests_iff {requests : List NciState}
    (h : ∀ state ∈ requests, t.Reaches state) (ht : c.activeTransition = some t) :
  (∀ earlier state, earlier ++ [state] <+: requests →
      ((earlier ++ [state]).foldl request c).nextState = state)
    ↔ (c.nextState :: requests).IsChain (Heeded t)
  := by
  induction requests generalizing c with
  | nil =>
      constructor
      · exact fun _ => List.IsChain.singleton _
      · intro _ earlier state hpre
        have hnil := List.prefix_nil.mp hpre
        simp at hnil
  | cons r requests ih =>
      have hr := h r List.mem_cons_self
      have ih' := ih (fun state hstate => h state (List.mem_cons_of_mem _ hstate))
        (activeTransition_request ht hr)
      rw [List.isChain_cons_cons, ← nextState_request_eq_iff ht hr]
      constructor
      · intro hall
        have hfirst : (c.request r).nextState = r := hall [] r (by simp)
        refine ⟨hfirst, ?_⟩
        rw [← congrArg (· :: requests) hfirst]
        apply ih'.mp
        intro earlier state hpre
        exact hall (r :: earlier) state ((List.prefix_cons_inj r).mpr hpre)
      · rintro ⟨hfirst, hchain⟩ earlier state hpre
        rw [← congrArg (· :: requests) hfirst] at hchain
        obtain _ | ⟨e, earlier⟩ := earlier
        · have hstate : state = r := by simpa using hpre
          rw [hstate]
          exact hfirst
        · rw [List.cons_append, List.cons_prefix_cons] at hpre
          rw [hpre.1]
          exact ih'.mpr hchain earlier state hpre.2

/-- If the requests are heeded, then the machine is bound for the next state, if it was before or
if the next state is another one than before. -/
theorem bound_requests {requests : List NciState} (h : ∀ state ∈ requests, t.Reaches state)
    (ht : c.activeTransition = some t) (hchain : (c.nextState :: requests).IsChain (Heeded t))
    (hbound : c.bound t = c.nextState ∨ (requests.foldl request c).nextState ≠ c.nextState) :
  (requests.foldl request c).bound t = (requests.foldl request c).nextState
  := by
  induction requests generalizing c with
  | nil => exact hbound.resolve_right fun h => h rfl
  | cons r requests ih =>
      have hr := h r List.mem_cons_self
      obtain ⟨hheeded, hchain⟩ := List.isChain_cons_cons.mp hchain
      have hnext := (nextState_request_eq_iff ht hr).mpr hheeded
      apply ih (fun state hstate => h state (List.mem_cons_of_mem _ hstate))
        (activeTransition_request ht hr)
      · rw [hnext]
        exact hchain
      · rw [bound_request ht hr, hnext]
        split_ifs with hsame
        · rw [hsame] at hbound
          exact hbound
        · exact Or.inl rfl

/-! ### Coming to rest -/

/-- The machine rests in a state. -/
structure RestsIn (state : NciState) (c : SmControl) : Prop where
  activeTransition : c.activeTransition = none
  lastState : c.lastState = state
  nextState : c.nextState = state
  activeState : c.activeState = some state

theorem restsIn_enter {state : NciState} {c : SmControl}
    (h : c.nextTransition.filter (fun u => u.dest != state) = none) :
  RestsIn state (c.enter state none true)
  := by
  have hactivate := c.finish.activate_eq state
  rw [enter_rests h, hactivate]
  exact ⟨rfl, rfl, rfl, rfl⟩

/-- After the transition and the one behind it the machine rests where it was bound for. -/
theorem restsIn_complete (ht : c.activeTransition = some t) :
  RestsIn (c.bound t) (c.complete t).completeActive
  := by
  rw [complete, if_pos ht, bound]
  cases hnext : c.nextTransition.filter fun u => u.dest != t.dest with
  | none =>
      have hrests := restsIn_enter hnext
      rw [completeActive, hrests.activeTransition]
      exact hrests
  | some u =>
      have hfollows := enter_follows hnext none
      have hactive : (c.enter t.dest none true).activeTransition = some u := by rw [hfollows]
      have hforgotten : (c.enter t.dest none true).nextTransition = none := by rw [hfollows]
      rw [completeActive, hactive]
      dsimp only
      rw [complete, if_pos hactive]
      apply restsIn_enter
      rw [hforgotten]
      rfl

end SmControl

/-! ### Requests to the machine -/

variable {ι : Type} {E : NciSmIo ι} {w : SmWorld ι} {t : NciTransition}

theorem control_nciSmSwitchInternal (hsilent : E.Silent) (next : NciState) (w : SmWorld ι) :
  ∃ ok,
    (nciSmSwitchInternal E next w).sm.control
        = (if w.sm.nextState ≠ next then w.sm.control.switch next ok else w.sm.control)
      ∧ (E.Accepts → ok = true)
  := by
  obtain ⟨ok, hcontrol, hok⟩ := control_nciSmSwitchBegin (E := E) next w
  use ok
  refine ⟨?_, hok⟩
  rw [nciSmSwitchInternal]
  split_ifs
  · rw [hsilent.emit, hcontrol]
  · rfl

theorem control_nciSmSwitchTo (hsilent : E.Silent) (haccepts : E.Accepts)
    (h : w.sm.enteringState = 0) (state : NciState) :
  (nciSmSwitchTo E state w).sm.control = w.sm.control.request state
  := by
  obtain ⟨ok, hcontrol, hok⟩ := control_nciSmSwitchInternal hsilent state
    (w.map fun self => { self with pendingSwitch := none })
  rw [nciSmSwitchTo_outside E h, hcontrol, hok haccepts]
  rfl

theorem control_nciTransitionFinish (hsilent : E.Silent) (haccepts : E.Accepts) (t : NciTransition)
    (w : SmWorld ι) :
  (nciTransitionFinish E t w).sm.control = w.sm.control.complete t
  := by
  rw [nciTransitionFinish, SmControl.complete]
  by_cases hactive : w.sm.activeTransition = some t
  · rw [if_pos hactive, if_pos (show w.sm.control.activeTransition = some t from hactive),
      nciSmEnterState, hsilent.emit]
    obtain ⟨request, ok, hcontrol, hrequest, hok⟩ := control_nciSmEnterStateInternal (E := E)
      NciParam.continues_none t.dest w
    have hdest : t.dest ≠ .w4HostSelect := by cases t <;> decide
    rw [hcontrol, hok haccepts, hrequest hdest]
  · rw [if_neg hactive, if_neg (show w.sm.control.activeTransition ≠ some t from hactive)]

/-- States are requested one after another. -/
def nciSmSwitchToAll (E : NciSmIo ι) (requests : List NciState) (w : SmWorld ι) : SmWorld ι :=
  requests.foldl (fun w state => nciSmSwitchTo E state w) w

theorem enteringState_request {c : SmControl} (ht : c.activeTransition = some t) {state : NciState}
    (h : t.Reaches state) :
  (c.request state).enteringState = c.enteringState
  := by
  rw [SmControl.request_eq ht h]
  split_ifs <;> rfl

theorem control_nciSmSwitchToAll (hsilent : E.Silent) (haccepts : E.Accepts)
    {requests : List NciState} (h : ∀ state ∈ requests, t.Reaches state)
    (ht : w.sm.activeTransition = some t) (hentering : w.sm.enteringState = 0) :
  (nciSmSwitchToAll E requests w).sm.control = requests.foldl SmControl.request w.sm.control
  := by
  induction requests generalizing w with
  | nil => rfl
  | cons state requests ih =>
      have hstate := h state List.mem_cons_self
      have hcontrol := control_nciSmSwitchTo hsilent haccepts hentering state
      rw [nciSmSwitchToAll, List.foldl_cons, List.foldl_cons, ← hcontrol]
      apply ih
      · exact fun r hr => h r (List.mem_cons_of_mem _ hr)
      · exact (congrArg SmControl.activeTransition hcontrol).trans
          (SmControl.activeTransition_request ht hstate)
      · exact (congrArg SmControl.enteringState hcontrol).trans
          ((enteringState_request ht hstate).trans hentering)

/-- The transition finishes successfully, and so does the one that is started then, if any. -/
def nciTransitionFinishAll (E : NciSmIo ι) (t : NciTransition) (w : SmWorld ι) : SmWorld ι :=
  let w := nciTransitionFinish E t w
  match w.sm.activeTransition with
  | some next => nciTransitionFinish E next w
  | none => w

theorem control_nciTransitionFinishAll (hsilent : E.Silent) (haccepts : E.Accepts)
    (t : NciTransition) (w : SmWorld ι) :
  (nciTransitionFinishAll E t w).sm.control = (w.sm.control.complete t).completeActive
  := by
  rw [← control_nciTransitionFinish hsilent haccepts, nciTransitionFinishAll,
    SmControl.completeActive]
  rw [show (nciTransitionFinish E t w).sm.control.activeTransition
    = (nciTransitionFinish E t w).sm.activeTransition from rfl]
  cases (nciTransitionFinish E t w).sm.activeTransition with
  | some next => exact control_nciTransitionFinish hsilent haccepts next _
  | none => rfl

/-- The machine comes to rest where it is bound for after the requests. -/
theorem restsIn_nciTransitionFinishAll (hsilent : E.Silent) (haccepts : E.Accepts)
    {requests : List NciState} (h : ∀ state ∈ requests, t.Reaches state)
    (ht : w.sm.activeTransition = some t) (hentering : w.sm.enteringState = 0) :
  (nciTransitionFinishAll E t (nciSmSwitchToAll E requests w)).sm.control.RestsIn
    ((requests.foldl SmControl.request w.sm.control).bound t)
  := by
  rw [control_nciTransitionFinishAll hsilent haccepts,
    control_nciSmSwitchToAll hsilent haccepts h ht hentering]
  exact SmControl.restsIn_complete (SmControl.activeTransition_requests h ht)

/-! ### The last request wins -/

/-- Each request decides what the next state is, the machine rests in the state that was
requested last, and it would rest in the same state without the requests before the last one. -/
structure LastRequestWins (E : NciSmIo ι) (t : NciTransition) (requests : List NciState)
    (w : SmWorld ι) : Prop where
  nextState : ∀ earlier state, earlier ++ [state] <+: requests →
    (nciSmSwitchToAll E (earlier ++ [state]) w).sm.nextState = state
  restsIn : ∀ state, requests.getLast? = some state →
    (nciTransitionFinishAll E t (nciSmSwitchToAll E requests w)).sm.control.RestsIn state
  alone : ∀ state, requests.getLast? = some state →
    (nciTransitionFinishAll E t (nciSmSwitchToAll E [state] w)).sm.lastState
      = (nciTransitionFinishAll E t (nciSmSwitchToAll E requests w)).sm.lastState

/-- Each request decides what the next state is exactly if each one is heeded. -/
theorem nextState_nciSmSwitchToAll_iff (hsilent : E.Silent) (haccepts : E.Accepts)
    {requests : List NciState} (h : ∀ state ∈ requests, t.Reaches state)
    (ht : w.sm.activeTransition = some t) (hentering : w.sm.enteringState = 0) :
  (∀ earlier state, earlier ++ [state] <+: requests →
      (nciSmSwitchToAll E (earlier ++ [state]) w).sm.nextState = state)
    ↔ (w.sm.nextState :: requests).IsChain (SmControl.Heeded t)
  := by
  have hnext : ∀ earlier state, earlier ++ [state] <+: requests →
      (nciSmSwitchToAll E (earlier ++ [state]) w).sm.nextState
        = ((earlier ++ [state]).foldl SmControl.request w.sm.control).nextState := by
    intro earlier state hpre
    have hcontrol := control_nciSmSwitchToAll hsilent haccepts
      (fun r hr => h r (hpre.subset hr)) ht hentering
    exact congrArg SmControl.nextState hcontrol
  refine Iff.trans ?_ (SmControl.nextState_requests_iff (c := w.sm.control) h ht)
  constructor
  · intro hall earlier state hpre
    rw [← hnext earlier state hpre]
    exact hall earlier state hpre
  · intro hall earlier state hpre
    rw [hnext earlier state hpre]
    exact hall earlier state hpre

/-- The last of the requests made during a transition wins exactly if the destination of the
transition is never requested while another state is next, and the machine is bound for the
state that is next before the requests, or another one is requested last. -/
theorem lastRequestWins (hsilent : E.Silent) (haccepts : E.Accepts) {requests : List NciState}
    (h : ∀ state ∈ requests, t.Reaches state) (ht : w.sm.activeTransition = some t)
    (hentering : w.sm.enteringState = 0) :
  LastRequestWins E t requests w
    ↔ (w.sm.nextState :: requests).IsChain (SmControl.Heeded t)
      ∧ (w.sm.control.bound t = w.sm.nextState ∨ requests.getLast? ≠ some w.sm.nextState)
  := by
  have hiff := nextState_nciSmSwitchToAll_iff hsilent haccepts h ht hentering
  have hrests := restsIn_nciTransitionFinishAll hsilent haccepts h ht hentering
  have hreaches : ∀ state, requests.getLast? = some state → t.Reaches state :=
    fun state hlast => h state (List.mem_of_getLast? hlast)
  have halone : ∀ state, requests.getLast? = some state →
      (nciTransitionFinishAll E t (nciSmSwitchToAll E [state] w)).sm.lastState
        = if w.sm.nextState = state then w.sm.control.bound t else state := by
    intro state hlast
    have hsingle : ∀ r ∈ [state], t.Reaches r := by simpa using hreaches state hlast
    have hrests' := restsIn_nciTransitionFinishAll hsilent haccepts hsingle ht hentering
    rw [List.foldl_cons, List.foldl_nil,
      SmControl.bound_request ht (hreaches state hlast)] at hrests'
    exact hrests'.lastState
  constructor
  · intro hwins
    refine ⟨hiff.mp hwins.nextState, ?_⟩
    by_cases hlast : requests.getLast? = some w.sm.nextState
    · left
      have hsame := hwins.alone _ hlast
      rw [halone _ hlast, if_pos rfl] at hsame
      exact hsame.trans (hwins.restsIn _ hlast).lastState
    · exact Or.inr hlast
  · rintro ⟨hchain, hbound⟩
    have hnextState := hiff.mpr hchain
    have hfinal : ∀ state, requests.getLast? = some state →
        (nciTransitionFinishAll E t (nciSmSwitchToAll E requests w)).sm.control.RestsIn state := by
      intro state hlast
      obtain ⟨earlier, hrequests⟩ := List.getLast?_eq_some_iff.mp hlast
      have hnext : (requests.foldl SmControl.request w.sm.control).nextState = state := by
        have hcontrol := control_nciSmSwitchToAll hsilent haccepts h ht hentering
        rw [← hcontrol, hrequests]
        exact hnextState earlier state ⟨[], by rw [hrequests, List.append_nil]⟩
      have hbound' := SmControl.bound_requests h ht hchain
        (hbound.imp_right fun hne hsame =>
          hne (hlast.trans (congrArg some (hnext.symm.trans hsame))))
      rw [hbound', hnext] at hrests
      exact hrests
    refine ⟨hnextState, hfinal, ?_⟩
    intro state hlast
    rw [halone state hlast]
    split_ifs with hsame
    · rw [hbound.resolve_right (not_not.mpr (hlast.trans (congrArg some hsame.symm))), hsame]
      exact (hfinal state hlast).lastState.symm
    · exact (hfinal state hlast).lastState.symm

/-- A new machine of which RFST_IDLE has been requested. -/
def idleRequested : SmWorld SmHistory :=
  SmHost.quiet.run 0 (SmWorld.new nciSmDefault) [.request (.switchTo .idle)]

/-- RFST_IDLE is requested once more during the reset transition, and then RFST_DISCOVERY, twice. -/
theorem lastRequestWins_discovery :
  LastRequestWins (SmHost.quiet.io 0) .reset [.idle, .discovery, .discovery] idleRequested
  := by
  apply (lastRequestWins (SmHost.quiet_silent 0) (SmHost.quiet_accepts 0) _ rfl rfl).mpr
  · decide
  · decide

/-- RFST_DISCOVERY is requested during the reset transition, then RFST_IDLE and RFST_DISCOVERY
again. -/
theorem not_lastRequestWins :
  ¬LastRequestWins (SmHost.quiet.io 0) .reset [.discovery, .idle, .discovery] idleRequested
  := by
  intro h
  have hrests := (h.restsIn .discovery rfl).lastState
  exact absurd hrests (by decide)

end Nci
