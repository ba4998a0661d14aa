import HaiderAgent.Daemon.TurnRecovery.Ownership

/-!
# What a startup commits

Each step of a startup commits batches for one run at a time: the effect pass
for the runs of unexplained effects, the sweep for the abandoned run, a decision
for the run it decides. A batch uses the identifiers of its own run, so the other
runs are untouched by it.
-/

namespace HaiderAgent.TurnRecovery

open List Startup

open HaiderAgent.EffectRecovery ExceptFold

section Decisions

variable {argsDigest : RunId → Nat → String} {view : StoreView} {runId : RunId}
  {reduction : RunReduction} {decision : RunDecision} {turnOrdinal : Nat}

theorem decideDirectSpawn_payloads
    (decided : decideDirectSpawn view runId turnOrdinal reduction = .ok decision) :
    decision.payloads = [] := by
  obtain ⟨acceptedSeq, -, rest⟩ := bind_eq_ok.mp decided
  dsimp only at rest
  split at rest
  · cases rest
    rfl
  · obtain ⟨checkpoint, -, rest⟩ := bind_eq_ok.mp rest
    cases checkpoint <;> cases rest <;> rfl

/-- A decision commits nothing, the terminal of a run, or the card of an ambiguous admission. -/
inductive CommittedPayloads (argsDigest : RunId → Nat → String) (view : StoreView) (runId : RunId)
    (reduction : RunReduction) : List EventPayload → Prop
  | none : CommittedPayloads argsDigest view runId reduction []
  | terminal (cancelling : Bool) : CommittedPayloads argsDigest view runId reduction
      (terminalizeInterrupted view reduction cancelling)
  | parked (ordinal : Nat) : CommittedPayloads argsDigest view runId reduction
      (parkAmbiguousAdmissionRetry argsDigest runId ordinal)

variable {state : RunState}

theorem decideInterrupted_payloads
    (decided : decideInterrupted argsDigest view runId turnOrdinal state reduction = .ok decision) :
    CommittedPayloads argsDigest view runId reduction decision.payloads := by
  unfold decideInterrupted at decided
  split at decided
  · obtain ⟨acceptedSeq, -, rest⟩ := bind_eq_ok.mp decided
    split at rest
    · cases rest
      exact .none
    · cases rest
      exact .parked _
  · obtain ⟨resumable, -, rest⟩ := bind_eq_ok.mp decided
    cases resumable with
    | some work =>
      cases rest
      exact .none
    | none =>
      dsimp only at rest
      split at rest
      · cases rest
        exact .none
      · cases rest
        exact .terminal _

theorem decideRunnable_payloads
    (decided : decideRunnable argsDigest view runId state reduction = .ok decision) :
    CommittedPayloads argsDigest view runId reduction decision.payloads := by
  unfold decideRunnable at decided
  split at decided
  · cases decided
  · split at decided
    · cases decided
    · split at decided
      · cases decided
        exact .none
      · split at decided
        · rw [decideDirectSpawn_payloads decided]
          exact .none
        · split at decided
          · cases decided
            unfold decideQueued
            split <;> exact .none
          · exact decideInterrupted_payloads decided

theorem decideRun_payloads (decided : decideRun argsDigest view runId reduction = .ok decision) :
    CommittedPayloads argsDigest view runId reduction decision.payloads := by
  unfold decideRun at decided
  split at decided
  · cases decided
  · split at decided
    · cases decided
    · split at decided
      · cases decided
        exact .none
      · obtain ⟨mirrors, -, rest⟩ := bind_eq_ok.mp decided
        split at rest
        · cases rest
          exact .none
        · split at rest
          · cases rest
            exact .terminal _
          · split at rest
            · cases rest
              exact .terminal _
            · exact decideRunnable_payloads rest

end Decisions

section OpenMenu

variable (r : RunReduction) (e : RawEnvelope)

@[simp] theorem noteProviderResponse_frame (seen : Bool) :
    (noteProviderResponse r e seen).menu = r.menu ∧
      (noteProviderResponse r e seen).openItems = r.openItems := by
  cases seen <;> exact ⟨rfl, rfl⟩

variable (itemId : ItemId) (item : TurnItem)

theorem reduceItemStarted_menu : (reduceItemStarted r e itemId item).menu = r.menu := by
  cases item <;> exact (noteProviderResponse_frame r e _).1

theorem reduceItemDelta_menu (delta : ItemDelta) :
    (reduceItemDelta r e itemId delta).menu = r.menu := by
  unfold reduceItemDelta
  cases r.openItems.lookup itemId <;> cases delta <;> exact (noteProviderResponse_frame r e _).1

@[simp] theorem reduceProviderRequestAttempt_frame (ordinal : Nat)
    (correlation : Option ProviderRequestAttempt) (modelBoundary : Bool) :
    (reduceProviderRequestAttempt r e ordinal correlation modelBoundary).menu = r.menu ∧
      (reduceProviderRequestAttempt r e ordinal correlation modelBoundary).openItems =
        r.openItems := by
  unfold reduceProviderRequestAttempt
  split <;> exact ⟨rfl, rfl⟩

@[simp] theorem reduceRequestAttempts_frame :
    (reduceRequestAttempts r e item).menu = r.menu ∧
      (reduceRequestAttempts r e item).openItems = r.openItems := by
  unfold reduceRequestAttempts
  rcases providerRequestAttemptOf item with _ | _ | attempt <;>
    rcases cacheRequestAttemptOf item with _ | _ | cache <;> simp

@[simp] theorem reduceRouteReplay_frame :
    (reduceRouteReplay r item).menu = r.menu ∧
      (reduceRouteReplay r item).openItems = r.openItems := by
  unfold reduceRouteReplay
  split <;> (try split) <;> (try split) <;> (try split) <;> exact ⟨rfl, rfl⟩

theorem observeBranch_frame :
    (observeBranch r e).menu = r.menu ∧ (observeBranch r e).openItems = r.openItems := by
  unfold observeBranch
  split <;> (try split) <;> exact ⟨rfl, rfl⟩

theorem reduceItemCompleted_menu : (reduceItemCompleted r e itemId item).menu = r.menu := by
  have attempts : (reduceRequestAttempts
      (noteProviderResponse r e (providerResponseItem item)) e item).menu = r.menu := by simp
  unfold reduceItemCompleted
  cases delegationMirrorHandoffOf item with
  | some handoff => exact attempts
  | none =>
    have replayed := (reduceRouteReplay_frame _ item).1.trans attempts
    simp only
    generalize reduceRouteReplay _ item = s at replayed ⊢
    generalize ((s.openItems.lookup itemId).map (canonicalizeCompletedReply item)).getD item = i
    cases i <;> exact replayed

/-- The open menu of a reduction was opened by an envelope of the run. -/
theorem reduceEntry_menu {opened : OpenMenu} (shown : (reduceEntry r e).menu = some opened) :
    r.menu = some opened ∨ e.payload = .event (.menuOpened opened.menu) := by
  unfold reduceEntry at shown
  rw [← (observeBranch_frame r e).1]
  generalize observeBranch r e = s at shown
  cases payload : e.payload with
  | json | retry =>
    simp only [payload] at shown
    exact .inl shown
  | headless fact =>
    simp only [payload, reduceHeadless] at shown
    refine .inl ?_
    split at shown <;> (try split at shown) <;> exact shown
  | event fact =>
    simp only [payload] at shown
    cases fact with
    | item change =>
      refine .inl ?_
      cases change with
      | started itemId item => rwa [reduceEvent, reduceItemStarted_menu] at shown
      | delta itemId delta => rwa [reduceEvent, reduceItemDelta_menu] at shown
      | completed itemId item => rwa [reduceEvent, reduceItemCompleted_menu] at shown
    | menuOpened menu =>
      simp only [reduceEvent, Option.some.injEq] at shown
      subst shown
      exact .inr rfl
    | menuClosed menu reason =>
      simp only [reduceEvent] at shown
      split at shown
      · cases shown
      · exact .inl shown
    | _ => exact .inl shown

end OpenMenu

theorem foldl_reduceEntry_menu {envelopes : List RawEnvelope} {r : RunReduction}
    {opened : OpenMenu} (shown : (envelopes.foldl reduceEntry r).menu = some opened) :
    r.menu = some opened ∨ ∃ e ∈ envelopes, e.payload = .event (.menuOpened opened.menu) := by
  induction envelopes generalizing r with
  | nil => exact .inl shown
  | cons first rest ih =>
    rcases ih shown with held | ⟨e, mem, opens⟩
    · rcases reduceEntry_menu r first held with before | opens
      · exact .inl before
      · exact .inr ⟨first, mem_cons_self, opens⟩
    · exact .inr ⟨e, mem_cons_of_mem _ mem, opens⟩

variable {names : RecoveryNames} {ownership : Ownership names} {startup : Startup} {runId : RunId}

section OwnBatches

/-- The open menu of a reduction belongs to its run. -/
def OwnsMenu (ownership : Ownership names) (runId : RunId) (reduction : RunReduction) : Prop :=
  ∀ opened, reduction.menu = some opened → ownership.menuOwner opened.menu.id = some runId

variable {envelopes : List RawEnvelope} {argsDigest : RunId → Nat → String} {view : StoreView}
  {reduction : RunReduction}

theorem ownsMenu_runEnvelopes (owned : ∀ e ∈ envelopes, Owned ownership e) (runId : RunId) :
    OwnsMenu ownership runId ((runEnvelopes runId envelopes).foldl reduceEntry {}) := by
  intro opened shown
  rcases foldl_reduceEntry_menu shown with none | ⟨e, mem, opens⟩
  · cases none
  · obtain ⟨found, routed⟩ := mem_filter.mp mem
    have own : e.runId = some runId := by
      simp only [reduceKey] at routed
      split at routed
      · exact of_decide_eq_true routed
      · cases routed
    rw [← (owned e found _ opens).1, own]

theorem ownsMenu_reductionOf (owned : ∀ e ∈ envelopes, Owned ownership e)
    (known : reductionOf envelopes runId = some reduction) :
    OwnsMenu ownership runId reduction := by
  have same := getD_reductionOf envelopes runId
  rw [known] at same
  rw [show reduction = _ from same]
  exact ownsMenu_runEnvelopes owned runId

variable {cancelling : Bool} {code : ErrorCode} {message : String} {retryable : Bool}
  {payload : EventPayload}

/-- A terminal batch closes nothing but the run's own menu. -/
theorem ownedPayload_terminal (owns : OwnsMenu ownership runId reduction)
    (mem : payload ∈ interruptedTerminalPayloads view reduction cancelling code message retryable) :
    OwnedPayload ownership (some runId) payload := by
  unfold interruptedTerminalPayloads at mem
  simp only [mem_append, mem_map, mem_cons, not_mem_nil, or_false] at mem
  rcases mem with ((⟨⟨itemId, opened⟩, -, rfl⟩ | menu) | failed) | rfl | rfl
  · trivial
  · split at menu
    · rename_i opened shown
      cases mem_singleton.mp menu
      exact (owns opened shown).symm
    · exact absurd menu not_mem_nil
  · split at failed
    · exact absurd failed not_mem_nil
    · cases mem_singleton.mp failed
      trivial
  · trivial
  · trivial

/-- The card of an ambiguous admission is the run's own. -/
theorem ownedPayload_parked {ordinal : Nat}
    (mem : payload ∈ parkAmbiguousAdmissionRetry argsDigest runId ordinal) :
    OwnedPayload ownership (some runId) payload := by
  have effect := ownership.admissionEffect runId (saturatingAdd ordinal 1)
  have card := ownership.admissionCard runId (saturatingAdd ordinal 1)
  simp only [parkAmbiguousAdmissionRetry, mem_cons, not_mem_nil, or_false] at mem
  rcases mem with rfl | rfl | rfl | rfl | rfl | rfl
  · trivial
  · trivial
  · exact effect.symm
  · exact effect.symm
  · refine ⟨((ownership.card_owner card).trans effect).symm, fun about presentation actions kind => ?_⟩
    simp only [effectRecoveryMenu, MenuKind.recovery.injEq] at kind
    rw [← kind.1]
    exact card
  · trivial

variable {payloads : List EventPayload}

theorem CommittedPayloads.owned
    (committed : CommittedPayloads argsDigest view runId reduction payloads)
    (owns : OwnsMenu ownership runId reduction) :
    ∀ payload ∈ payloads, OwnedPayload ownership (some runId) payload := by
  intro payload mem
  cases committed with
  | none => exact absurd mem not_mem_nil
  | terminal cancelling => exact ownedPayload_terminal owns mem
  | parked ordinal => exact ownedPayload_parked mem

variable {branchId : Option BranchId}

theorem Startup.mem_recoveryEnvelopes {e : RawEnvelope}
    (mem : e ∈ startup.recoveryEnvelopes runId branchId payloads) :
    ∃ payload ∈ payloads, e.payload = .event payload ∧
      (e.runId = some runId ∨ e.runId = none ∧ ∃ state, payload = .sessionState state) := by
  obtain ⟨index, inside, rfl⟩ := mem_mapIdx.mp mem
  refine ⟨payloads.get ⟨index, inside⟩, get_mem .., rfl, ?_⟩
  simp only [envelope, get_eq_getElem]
  cases payloads[index] <;> simp

theorem Startup.recoveryEnvelopes_owned
    (owned : ∀ payload ∈ payloads, OwnedPayload ownership (some runId) payload) :
    ∀ e ∈ startup.recoveryEnvelopes runId branchId payloads, Owned ownership e := by
  intro e mem carried same
  obtain ⟨payload, found, content, own | ⟨-, state, rfl⟩⟩ := mem_recoveryEnvelopes mem
  · rw [content] at same
    cases same
    rw [own]
    exact owned _ found
  · rw [content] at same
    cases same
    trivial

theorem Startup.recoveryEnvelopes_foreign {other : RunId} (different : other ≠ runId) :
    ∀ e ∈ startup.recoveryEnvelopes other branchId payloads, e.runId ≠ some runId := by
  intro e mem own
  obtain ⟨payload, -, -, here | ⟨here, -⟩⟩ := mem_recoveryEnvelopes mem
  · rw [here] at own
    exact different (Option.some.inj own)
  · rw [here] at own
    cases own

theorem Startup.filterMap_recoveryEnvelopes {α : Type} {read : RawEnvelope → Option α}
    {readPayload : EventPayload → Option α} (reads : ∀ eventId payload,
      read (startup.envelope eventId (some runId) branchId payload) = readPayload payload)
    (payloads : List EventPayload) :
    (startup.recoveryEnvelopes runId branchId payloads).filterMap read =
      payloads.filterMap readPayload := by
  unfold recoveryEnvelopes
  rw [mapIdx_eq_zipIdx_map, filterMap_map]
  conv_rhs => rw [← zipIdx_map_fst 0 payloads, filterMap_map]
  exact filterMap_congr fun x _ => reads _ x.1

/-- The state an envelope commits for a run. -/
def stateOf (runId : RunId) (e : RawEnvelope) : Option RunState :=
  if e.runId = some runId then e.payload.runState else none

theorem latestRunState_eq_stateOf (runId : RunId) (envelopes : List RawEnvelope) :
    latestRunState runId envelopes = (envelopes.filterMap (stateOf runId)).getLast? := by
  unfold latestRunState stateOf
  rw [filterMap_filter]
  simp only [decide_eq_true_eq]

theorem Startup.latestRunState_recoveryEnvelopes {state : RunState}
    (ends : (payloads.filterMap fun payload => (RawPayload.event payload).runState).getLast? =
      some state) (journal : Journal) :
    latestRunState runId
      (journal.append (startup.recoveryEnvelopes runId branchId payloads)).envelopes =
      some state := by
  rw [latestRunState_eq_stateOf, Journal.getLast?_filterMap_append _ fun _ _ => rfl,
    filterMap_recoveryEnvelopes, ends]
  · rfl
  · intro eventId payload
    cases payload <;> simp [stateOf, envelope, RawPayload.runState]

theorem Startup.latestRunState_terminal (journal : Journal) :
    latestRunState runId (journal.append (startup.recoveryEnvelopes runId branchId
      (interruptedTerminalPayloads view reduction cancelling code message retryable))).envelopes =
      some (if cancelling then .cancelled else .errored) := by
  refine latestRunState_recoveryEnvelopes ?_ journal
  unfold interruptedTerminalPayloads
  rw [filterMap_append, getLast?_append]
  rfl

end OwnBatches

section EffectPass

variable {sessionId : SessionId}

/-- A journal a reconciliation could scan is a worker journal. -/
def scannedJournal (journal : Journal) (owned : AllOwned ownership journal)
    {ledger : EffectLedger} (scanned : reducePage journal.envelopes {} = .ok ledger) :
    WorkerJournal names sessionId where
  toJournal := journal
  decodable := decodable_of_reducePage scanned
  cardNamed := by
    intro e member menu effect presentation actions other opens kind same
    have card := (owned e member _ opens).2 effect presentation actions kind
    rw [same, ownership.recoveryCard sessionId other] at card
    exact (Option.some.inj card).symm

/-- The effect pass appends owned envelopes, for unexplained runs only, and explains them all. -/
theorem effectPass {journal : Journal} (owned : AllOwned ownership journal) {pass : RecoveryPass}
    {batch : List RawEnvelope} (passed : reconcileBatch names pass sessionId journal = .ok batch) :
    (∀ e ∈ batch, Owned ownership e) ∧
      (∀ runId, Explained runId journal.envelopes → ∀ e ∈ batch, e.runId ≠ some runId) ∧
      ∀ runId, Explained runId (journal.append batch).envelopes := by
  obtain ⟨ledger, scanned, rest⟩ := bind_eq_ok.mp passed
  let worker : WorkerJournal names sessionId := scannedJournal journal owned scanned
  have completed := worker.reconcileBatch_eq pass
  change reconcileBatch names pass sessionId journal = _ at completed
  rw [passed] at completed
  cases completed
  have recovered {e : RawEnvelope}
      (mem : e ∈ recoveryBatch names pass sessionId worker.ledger) :
      ∃ effect dispatch, lastDispatch effect journal.envelopes = some dispatch ∧
        Unexplained journal.envelopes effect ∧
        e ∈ recoverEffect names pass sessionId worker.ledger effect dispatch := by
    obtain ⟨effect, dispatch, pending, here⟩ := mem_recoveryBatch.mp mem
    obtain ⟨dispatched, unexplained, -⟩ := (worker.mem_pending_iff effect dispatch).mp pending
    exact ⟨effect, dispatch, dispatched, unexplained, here⟩
  refine ⟨?_, ?_, ?_⟩
  · intro e mem carried content
    obtain ⟨effect, dispatch, dispatched, -, here⟩ := recovered mem
    have owner := owner_of_lastDispatch owned dispatched
    have card := ownership.recoveryCard sessionId effect
    obtain ⟨run, payload | payload | payload⟩ := payload_of_mem_recoverEffect here <;>
      rw [payload] at content <;> cases content
    · exact run.trans owner
    · refine ⟨(run.trans owner).trans (ownership.card_owner card).symm, ?_⟩
      intro about presentation actions kind
      simp only [recoveryCard, effectRecoveryMenu, MenuKind.recovery.injEq] at kind
      rw [← kind.1]
      exact card
    · trivial
  · intro runId explained e mem own
    obtain ⟨effect, dispatch, dispatched, unexplained, here⟩ := recovered mem
    have run := (payload_of_mem_recoverEffect here).1
    exact explained effect dispatch dispatched (run ▸ own) unexplained
  · intro runId effect dispatch dispatched own unexplained
    have pending := ((worker.afterPass pass).mem_pending_iff effect dispatch).mpr
      ⟨dispatched, unexplained, fun ownerless => by rw [ownerless] at own; cases own⟩
    rw [worker.pending_afterPass pass] at pending
    exact absurd pending not_mem_nil

end EffectPass

theorem reduceRun_eq (runId : RunId) (envelopes : List RawEnvelope) :
    reduceRun runId envelopes = (runEnvelopes runId envelopes).foldl reduceEntry {} := by
  have here (value : RunReduction) :
      (AList.singleton runId value : HashMap RunId RunReduction).lookup runId = some value :=
    dlookup_cons_eq _ _ _
  have own (reduction : RunReduction) (e : RawEnvelope) :
      (if e.runId = some runId then
        ((reduce (AList.singleton runId reduction) e).lookup runId).getD {} else reduction) =
        if reduceKey e = some runId then reduceEntry reduction e else reduction := by
    unfold reduce reduceKey
    by_cases same : e.runId = some runId
    · rw [if_pos same, same]
      cases recoveryRelevant e.payload <;> simp [here]
    · rw [if_neg same]
      cases recoveryRelevant e.payload <;> simp [same]
  unfold reduceRun runEnvelopes
  simp only [own]
  rw [foldl_filter]
  simp

/-- How a live closure ends: nothing for a parked run, else a terminal batch. -/
theorem resumptionTerminalPayloads_cases {view : StoreView} {envelopes : List RawEnvelope}
    {error : Option HaiderError} {payloads : List EventPayload}
    (closed : resumptionTerminalPayloads view runId envelopes error = .ok payloads) :
    payloads = [] ∧ latestRunState runId envelopes = some .effectOutcomeUnknown ∨
      ∃ cancelling code message retryable, payloads = interruptedTerminalPayloads view
        ((runEnvelopes runId envelopes).foldl reduceEntry {}) cancelling code message retryable := by
  have state : ((runEnvelopes runId envelopes).foldl reduceEntry {}).state.map (·.1) =
      latestRunState runId envelopes := by
    rw [← coordinatesOf_state, coordinatesOf, getD_reductionOf]
    rfl
  unfold resumptionTerminalPayloads at closed
  simp only [reduceRun_eq] at closed
  split at closed
  · cases closed
  · split at closed
    · rename_i parked
      cases closed
      exact .inl ⟨rfl, state.symm.trans parked⟩
    · split at closed <;> cases closed <;> exact .inr ⟨_, _, _, _, rfl⟩

theorem Startup.cancelTurn_owned (record : DelegationRecord) (journal : Journal)
    (owned : AllOwned ownership journal) :
    AllOwned ownership (startup.cancelTurn record journal) := by
  unfold cancelTurn
  split
  · exact owned
  · split
    · exact owned
    · refine owned.append fun e mem carried content => ?_
      cases mem_singleton.mp mem
      cases content
      trivial

variable {record : DelegationRecord}

theorem Startup.cancelTurn_untouched (different : record.childRunId ≠ runId) (journal : Journal) :
    Untouched ownership runId journal (startup.cancelTurn record journal) := by
  unfold cancelTurn
  split
  · exact .refl _ _
  · split
    · exact .refl _ _
    · refine .append journal ?_ ?_
      · intro e mem carried content
        cases mem_singleton.mp mem
        cases content
        trivial
      · intro e mem own
        cases mem_singleton.mp mem
        exact different (Option.some.inj own)

variable {journal : Journal}

theorem Startup.closing_owned (owned : AllOwned ownership journal) {payloads : List EventPayload}
    (closed : resumptionTerminalPayloads startup.view record.childRunId journal.envelopes none =
      .ok payloads) :
    ∀ e ∈ startup.recoveryEnvelopes record.childRunId none payloads, Owned ownership e := by
  refine recoveryEnvelopes_owned fun payload mem => ?_
  rcases resumptionTerminalPayloads_cases closed with ⟨rfl, -⟩ | ⟨_, _, _, _, rfl⟩
  · exact absurd mem not_mem_nil
  · exact ownedPayload_terminal (ownsMenu_runEnvelopes owned record.childRunId) mem

theorem Startup.closeAbandonedRun_untouched (different : record.childRunId ≠ runId)
    {closed : Journal} (owned : AllOwned ownership journal)
    (closes : startup.closeAbandonedRun record journal = .ok closed) :
    Untouched ownership runId journal closed := by
  unfold closeAbandonedRun at closes
  split at closes
  · obtain ⟨payloads, terminal, rest⟩ := bind_eq_ok.mp closes
    cases rest
    refine (cancelTurn_untouched different journal).trans (.append _ ?_ ?_)
    · exact closing_owned (cancelTurn_owned record journal owned) terminal
    · exact recoveryEnvelopes_foreign different
  · cases closes
    exact .refl _ _

/-- The graph facts of a startup belong to no run. -/
def Startup.GraphOwned (ownership : Ownership names) (startup : Startup) : Prop :=
  ∀ payload ∈ startup.abandonedGraph, OwnedPayload ownership none payload

theorem Startup.graph_untouched (runId : RunId) (graph : startup.GraphOwned ownership)
    (journal : Journal) :
    Untouched ownership runId journal (journal.append (startup.abandonedGraph.map fun payload =>
      startup.envelope "graph-fact" none none payload)) := by
  have sessionScoped (payload : EventPayload) :
      (startup.envelope "graph-fact" none none payload).runId = none := by
    cases payload <;> rfl
  refine .append journal ?_ ?_
  · intro e mem carried content
    obtain ⟨payload, found, rfl⟩ := mem_map.mp mem
    cases content
    rw [sessionScoped]
    exact graph _ found
  · intro e mem own
    obtain ⟨payload, found, rfl⟩ := mem_map.mp mem
    rw [sessionScoped] at own
    cases own

theorem Startup.reconcileAbandonedPublicSpawns_untouched
    (spared : ∀ record, startup.abandonedSpawn = some record → record.childRunId ≠ runId)
    (graph : startup.GraphOwned ownership) {swept : Journal} (owned : AllOwned ownership journal)
    (sweeps : startup.reconcileAbandonedPublicSpawns journal = .ok swept) :
    Untouched ownership runId journal swept := by
  unfold reconcileAbandonedPublicSpawns at sweeps
  split at sweeps
  · cases sweeps
    exact .refl _ _
  · rename_i record found
    obtain ⟨closed, closes, rest⟩ := bind_eq_ok.mp sweeps
    have early := closeAbandonedRun_untouched (spared record found) owned closes
    split at rest
    · cases rest
      exact early.trans (graph_untouched runId graph closed)
    · cases rest
      exact early

end HaiderAgent.TurnRecovery
