import HaiderAgent.Protocol.GraphReduce
import HaiderAgent.Store.Turns.Append

/-!
# The fence of worker batches

`validate_worker_run_transitions` (`haider-store/src/event_store.rs`) with the graph guard on `Done`
and every supplemental fact it names, over what the transaction reads of the store.
-/

namespace HaiderAgent.WorkerFence

open List

open ExceptFold (ensure)

open Turns (HeadlessRunFacts WorkerStates compactionIntentExtensionKind)

/-- The codes the fence refuses with. -/
inductive FenceErrorCode where
  | graphNotActive | invalidArgument | runNotActive
  deriving DecidableEq, Repr

/-- A refusal with its text. -/
structure FenceError where
  code : FenceErrorCode
  message : String
  retryable : Bool
  deriving DecidableEq, Repr

/-- `ContextCompactionV1` (`context_compaction.rs`), without the units and the retained suffix. -/
structure ContextCompaction where
  turnOrdinal : Nat
  requestOrdinal : Nat
  operationId : String
  coversFrom : NodeId
  coversTo : NodeId
  droppedItemCount : Nat
  summaryArtifact : ArtifactRef
  manualIdle : Bool
  deriving DecidableEq, Repr

/-- The facts outside the event union that the validator names, each by the test it passes. -/
inductive SupplementalFact where
  | response
  | projectInstructions
  | workspaceUnavailable
  | computerPermission
  | runBudgetExhausted (exhausted : RunBudgetExhausted)
  | runDeadlineExceeded (deadlineUnixMs : Nat)
  | contextCompaction (fact : ContextCompaction)
  deriving DecidableEq, Repr

/-- A payload, by what decodes it. What is no core event keeps the error of its decoder. -/
inductive WorkerPayload where
  | event (payload : EventPayload)
  | supplemental (fact : SupplementalFact) (error : String)
  | other (error : String)
  deriving DecidableEq, Repr

/-- The columns of an envelope the fence reads. -/
structure WorkerEnvelope where
  branchId : Option BranchId
  runId : Option RunId
  agentId : Option AgentId
  render : RenderTargets
  payload : WorkerPayload
  deriving DecidableEq, Repr

/-- What the transaction reads: `latest_run_states_for`, the status of `load_graph_reduction` and
`durable_headless_run_facts`. -/
structure StoreView where
  states : WorkerStates
  graph : Option GraphStatus
  facts : RunId → HeadlessRunFacts

variable (store : StoreView) (batch : List WorkerEnvelope)

/-- The runs that were compacting and whose manual compaction the batch commits. -/
def manualCompactionRuns (states : WorkerStates) : List RunId :=
  batch.filterMap fun e =>
    match e.runId, e.payload with
    | some runId, .event (.nodeCommitted ⟨_, _, .compaction _ _ _ _ _ true⟩) =>
      if (states.lookup runId).any (·.1 = .compacting) then some runId else none
    | _, _ => none

/-- `budget_terminal_runs`: the failure and its state stand side by side. -/
def budgetTerminalRuns : List RunId :=
  (batch.zip batch.tail).filterMap fun window =>
    match window.1.runId, window.1.payload, window.2.payload with
    | some runId, .event (.runFailed .budgetExhausted ..), .event (.runState .errored) =>
      if window.2.runId = some runId then some runId else none
    | _, _, _ => none

/-- Whether the batch ends a run that is not a manual compaction. -/
def commitsGraphGuardedDone (states : WorkerStates) : Bool :=
  batch.any fun e => e.payload = .event (.runState .done) &&
    e.runId.all fun runId => !(manualCompactionRuns batch states).contains runId

/-- Whether an active graph has obligations left. -/
def unmetObligations (status : GraphStatus) : Bool :=
  status.phase = .active &&
    (status.runSet.any (!·.isComplete) || status.nodes.any (!·.satisfied))

/-- Whether a candidate commits the overlay that an envelope announces. -/
def matchesOverlay (e : WorkerEnvelope) (fact : ContextCompaction) (candidate : WorkerEnvelope) :
    Bool :=
  candidate.runId = e.runId && candidate.branchId = e.branchId && candidate.agentId = e.agentId &&
    match candidate.payload with
    | .event (.nodeCommitted ⟨_, _, .compaction coversFrom coversTo summary _ _ manualIdle⟩) =>
      coversFrom = fact.coversFrom && coversTo = fact.coversTo &&
        summary = fact.summaryArtifact && manualIdle = fact.manualIdle
    | _ => false

/-- The coordinates of an announced compaction. -/
def ContextCompaction.coordinatesValid (fact : ContextCompaction) : Bool :=
  fact.turnOrdinal ≠ 0 && fact.requestOrdinal ≠ 0 && fact.droppedItemCount ≠ 0 &&
    !fact.operationId.isEmpty

/-- The facts that pass although the event union does not decode them: all but a deadline. -/
def SupplementalFact.tolerated : SupplementalFact → Bool
  | .runDeadlineExceeded _ => false
  | _ => true

/-- What a fact of a run needs beside it. -/
def backed (e : WorkerEnvelope) (runId : RunId) : SupplementalFact → Except FenceError Unit
  | .contextCompaction fact =>
    ensure (fact.coordinatesValid && batch.any (matchesOverlay e fact))
      ⟨.invalidArgument, "compaction announcement requires valid request coordinates and its " ++
        "matching overlay in the same worker batch", false⟩
  | .runBudgetExhausted _ =>
    ensure (store.facts runId).configured
      ⟨.invalidArgument, s!"worker run {runId} has no durable headless configuration", false⟩
  | _ => .ok ()

/-- The checks on a payload before the state of its run; returns the core event it decodes to. -/
def admitPayload (e : WorkerEnvelope) (runId : RunId) :
    Except FenceError (Option EventPayload) :=
  let invalid (error : String) : FenceError :=
    ⟨.invalidArgument, s!"worker envelope payload is invalid: {error}", false⟩
  match e.payload with
  | .event payload => .ok (some payload)
  | .supplemental fact error => do
    ensure (e.render.durable && e.render.promptOmit)
      ⟨.invalidArgument,
        "supplemental worker fact must be durable and omitted from prompt replay", false⟩
    backed store batch e runId fact
    ensure fact.tolerated (invalid error)
    return none
  | .other error => .error (invalid error)

/-- Whether an event opens the internal job that compacts a session. -/
def opensCompaction : Option EventPayload → Bool
  | some (.item (.started _ (.extension kind _))) => kind = compactionIntentExtensionKind
  | _ => false

/-- The one event that may be on another branch. -/
def isSessionState : Option EventPayload → Bool
  | some (.sessionState _) => true
  | _ => false

/-- Whether a cancelling run may fail on its budget instead. -/
def budgetTerminalWins (runId : RunId) (next : RunState) : Bool :=
  next = .errored && (budgetTerminalRuns batch).contains runId &&
    (store.facts runId).configured && (store.facts runId).budgetExhausted

/-- The loop body of `validate_worker_run_transitions`. -/
def validateWorkerEnvelope (states : WorkerStates) (e : WorkerEnvelope) :
    Except FenceError WorkerStates := do
  match e.runId with
  | none =>
    ensure (match e.payload with | .supplemental .. => false | _ => true)
      ⟨.invalidArgument, "supplemental worker fact has no logical-turn run id", false⟩
    return states
  | some runId =>
    let payload ← admitPayload store batch e runId
    match states.lookup runId with
    | none =>
      ensure (opensCompaction payload)
        ⟨.runNotActive, s!"worker run {runId} has no durable accepted state", false⟩
      return states.insert runId (.compacting, e.branchId)
    | some (durable, acceptedBranch) =>
      ensure (e.branchId = acceptedBranch || isSessionState payload)
        ⟨.invalidArgument, s!"worker run {runId} emitted on a different branch", false⟩
      ensure (!durable.isTerminal)
        ⟨.runNotActive, s!"worker run {runId} is already terminal", false⟩
      match payload with
      | some (.runState next) =>
        ensure (durable ≠ .cancelling || next = .cancelled ||
            budgetTerminalWins store batch runId next)
          ⟨.runNotActive,
            s!"worker run {runId} is durably cancelling; only Cancelled may follow", false⟩
        return states.insert runId (next, acceptedBranch)
      | _ => return states

/-- `validate_worker_run_transitions`. -/
def validateWorkerRunTransitions : Except FenceError Unit := do
  ensure (!(commitsGraphGuardedDone batch store.states && store.graph.any unmetObligations))
    ⟨.graphNotActive,
      "cannot commit Done while the active Convergence Graph has unmet obligations", false⟩
  let _ ← batch.foldlM (validateWorkerEnvelope store batch) store.states
  return ()

/-! ## Well-formed batches -/

/-- An envelope of a live run on its branch, within the rules of the run's state. -/
structure Live (e : WorkerEnvelope) (runId : RunId) (durable : RunState)
    (accepted : Option BranchId) : Prop where
  live : durable.isTerminal = false
  branch : e.branchId = accepted ∨ ∃ state, e.payload = .event (.sessionState state)
  cancelling : durable = .cancelling → ∀ next, e.payload = .event (.runState next) →
    next = .cancelled ∨ budgetTerminalWins store batch runId next = true

/-- The node that commits the overlay of an announced compaction. -/
structure Overlays (e : WorkerEnvelope) (fact : ContextCompaction) (candidate : WorkerEnvelope) :
    Prop where
  runId : candidate.runId = e.runId
  branchId : candidate.branchId = e.branchId
  agentId : candidate.agentId = e.agentId
  node : ∃ id parent before after, candidate.payload = .event (.nodeCommitted ⟨id, parent,
    .compaction fact.coversFrom fact.coversTo fact.summaryArtifact before after fact.manualIdle⟩)

/-- A supplemental fact with all that it needs: a compaction its request coordinates and its overlay
in the batch, an exhausted budget the configuration of its run. -/
structure Announced (e : WorkerEnvelope) (runId : RunId) (fact : SupplementalFact) : Prop where
  durable : e.render.durable = true
  omitted : e.render.promptOmit = true
  overlay : ∀ compaction, fact = .contextCompaction compaction →
    compaction.turnOrdinal ≠ 0 ∧ compaction.requestOrdinal ≠ 0 ∧ compaction.droppedItemCount ≠ 0 ∧
      compaction.operationId ≠ "" ∧ ∃ candidate ∈ batch, Overlays e compaction candidate
  configured : ∀ exhausted, fact = .runBudgetExhausted exhausted →
    (store.facts runId).configured = true

/-- The states of the runs after an envelope of a run that was accepted on a branch. -/
def WorkerPayload.moved (states : WorkerStates) (runId : RunId) (accepted : Option BranchId) :
    WorkerPayload → WorkerStates
  | .event (.runState next) => states.insert runId (next, accepted)
  | _ => states

/-- A well-formed envelope, and how the runs stand before and after it. -/
inductive WellFormed (states : WorkerStates) (e : WorkerEnvelope) : WorkerStates → Prop
  | unscoped {payload : EventPayload} (scope : e.runId = none) (core : e.payload = .event payload) :
    WellFormed states e states
  | opening {runId : RunId} {payload : EventPayload} (scope : e.runId = some runId)
      (fresh : states.lookup runId = none) (core : e.payload = .event payload)
      (opens : opensCompaction (some payload) = true) :
    WellFormed states e (states.insert runId (.compacting, e.branchId))
  | accepted {runId : RunId} {durable : RunState} {accepted : Option BranchId}
      (scope : e.runId = some runId) (stands : states.lookup runId = some (durable, accepted))
      (live : Live store batch e runId durable accepted)
      (content : (∃ payload, e.payload = .event payload) ∨
        ∃ fact error, e.payload = .supplemental fact error ∧ Announced store batch e runId fact) :
    WellFormed states e (e.payload.moved states runId accepted)

/-- The envelopes of a batch, each well formed where the ones before it leave the runs. -/
inductive WellFormedFrom : WorkerStates → List WorkerEnvelope → Prop
  | nil {states : WorkerStates} : WellFormedFrom states []
  | cons {states after : WorkerStates} {e : WorkerEnvelope} {rest : List WorkerEnvelope}
      (first : WellFormed store batch states e after) (later : WellFormedFrom after rest) :
    WellFormedFrom states (e :: rest)

/-- A deadline fact. -/
def WorkerPayload.deadline : WorkerPayload → Bool
  | .supplemental (.runDeadlineExceeded _) _ => true
  | _ => false

variable {store batch} {states after : WorkerStates}

theorem Announced.backed {e : WorkerEnvelope} {runId : RunId} {fact : SupplementalFact}
    (announced : Announced store batch e runId fact) : backed store batch e runId fact = .ok () := by
  cases fact with
  | contextCompaction compaction =>
    obtain ⟨turn, request, dropped, operation, candidate, member, overlay⟩ :=
      announced.overlay compaction rfl
    obtain ⟨id, parent, before, after, committed⟩ := overlay.node
    have matched : matchesOverlay e compaction candidate = true := by
      simp [matchesOverlay, committed, overlay.runId, overlay.branchId, overlay.agentId]
    refine ExceptFold.ensure_eq_ok.mpr (Bool.and_eq_true_iff.mpr ⟨?_, ?_⟩)
    · simp [ContextCompaction.coordinatesValid, turn, request, dropped, operation]
    · exact any_eq_true.mpr ⟨candidate, member, matched⟩
  | runBudgetExhausted exhausted => exact ExceptFold.ensure_eq_ok.mpr (announced.configured _ rfl)
  | _ => rfl

/-- The step: a well-formed envelope passes, unless it is a deadline. -/
theorem validate_wellFormed {e : WorkerEnvelope} (formed : WellFormed store batch states e after)
    (result : WorkerStates) : validateWorkerEnvelope store batch states e = .ok result ↔
      e.payload.deadline = false ∧ after = result := by
  cases formed with
  | unscoped scope core => simp [validateWorkerEnvelope, scope, core, WorkerPayload.deadline, ensure]
  | opening scope fresh core opens =>
    simp [validateWorkerEnvelope, scope, core, admitPayload, fresh, opens, ensure,
      WorkerPayload.deadline, bind, Except.bind, pure, Except.pure]
  | @accepted runId durable accepted scope stands live content =>
    rcases content with ⟨payload, core⟩ | ⟨fact, error, supplemental, announced⟩
    · have onBranch : (e.branchId = accepted || isSessionState (some payload)) = true := by
        rcases live.branch with same | ⟨state, session⟩
        · simp [same]
        · cases core.symm.trans session
          simp [isSessionState]
      cases payload with
      | runState next =>
        have permitted : (durable ≠ .cancelling ∨ next = .cancelled) ∨
            budgetTerminalWins store batch runId next = true :=
          or_assoc.mpr (not_or_of_imp fun cancelling => live.cancelling cancelling next core)
        simp [validateWorkerEnvelope, scope, core, admitPayload, stands, onBranch, live.live,
          permitted, ensure, WorkerPayload.moved, WorkerPayload.deadline, bind, Except.bind,
          pure, Except.pure]
      | _ =>
        simp [validateWorkerEnvelope, scope, core, admitPayload, stands, onBranch, live.live, ensure,
          WorkerPayload.moved, WorkerPayload.deadline, bind, Except.bind, pure, Except.pure]
    · have branch : e.branchId = accepted := live.branch.resolve_right (by simp [supplemental])
      cases fact <;>
        simp [validateWorkerEnvelope, scope, supplemental, admitPayload, announced.durable,
          announced.omitted, announced.backed, SupplementalFact.tolerated, stands, branch,
          live.live, ensure, WorkerPayload.moved, WorkerPayload.deadline, bind, Except.bind, pure,
          Except.pure]

/-- The run: the loop passes exactly the batches without a deadline. -/
theorem foldlM_wellFormed {rest : List WorkerEnvelope}
    (formed : WellFormedFrom store batch states rest) :
    (∃ final, rest.foldlM (validateWorkerEnvelope store batch) states = .ok final) ↔
      ∀ e ∈ rest, e.payload.deadline = false := by
  induction formed with
  | nil => simp [pure, Except.pure]
  | cons first _ ih =>
    rw [forall_mem_cons, ← ih]
    simp only [foldlM_cons, ExceptFold.bind_eq_ok, validate_wellFormed first]
    constructor
    · rintro ⟨final, _, ⟨early, rfl⟩, later⟩
      exact ⟨early, final, later⟩
    · rintro ⟨early, final, later⟩
      exact ⟨final, _, ⟨early, rfl⟩, later⟩

/-- The fence takes every well-formed batch that carries no deadline, and no other. -/
theorem accepts_iff_without_deadline (store : StoreView) (batch : List WorkerEnvelope)
    (formed : WellFormedFrom store batch store.states batch)
    (obligations : commitsGraphGuardedDone batch store.states = true →
      store.graph.any unmetObligations = false) :
    validateWorkerRunTransitions store batch = .ok () ↔ ∀ e ∈ batch, e.payload.deadline = false := by
  have guarded : (!(commitsGraphGuardedDone batch store.states &&
      store.graph.any unmetObligations)) = true := by
    cases done : commitsGraphGuardedDone batch store.states with
    | false => rfl
    | true =>
      rw [obligations done]
      rfl
  rw [← foldlM_wellFormed formed, validateWorkerRunTransitions, ExceptFold.ensure_bind_eq_ok,
    ExceptFold.bind_eq_ok]
  simp [guarded, pure, Except.pure]

/-- A store with a running headless run. -/
def headlessView : StoreView where
  states := (∅ : WorkerStates).insert "run" (.thinking, none)
  graph := none
  facts := fun _ => ⟨true, false⟩

/-- A supplemental fact of the run `run`. -/
def runFact (fact : SupplementalFact) : WorkerEnvelope :=
  ⟨none, some "run", none, ⟨true, true⟩, .supplemental fact "unknown variant"⟩

/-- An event of the run `run`. -/
def runEvent (payload : EventPayload) : WorkerEnvelope :=
  ⟨none, some "run", none, ⟨true, true⟩, .event payload⟩

/-- A compaction with its announcement, then the run fails on its budget. -/
def compactedBatch : List WorkerEnvelope :=
  [runEvent (.nodeCommitted ⟨"node", none, .compaction "a" "b" "summary" 9 3 false⟩),
    runFact (.contextCompaction ⟨1, 1, "operation", "a", "b", 2, "summary", false⟩),
    runFact (.runBudgetExhausted ⟨"steps"⟩), runEvent (.runState .errored)]

theorem accepts_iff_without_deadline_compaction :
    validateWorkerRunTransitions headlessView compactedBatch = .ok () := by
  have live (e) (member : e ∈ compactedBatch) :
      Live headlessView compactedBatch e "run" .thinking none :=
    ⟨rfl, .inl (by revert e; decide), nofun⟩
  refine (accepts_iff_without_deadline headlessView _ ?_ (by decide)).mpr (by decide)
  refine .cons (.accepted rfl rfl (live _ (by simp [compactedBatch])) (.inl ⟨_, rfl⟩)) ?_
  refine .cons (.accepted rfl rfl (live _ (by simp [compactedBatch])) (.inr ⟨_, _, rfl, ?_⟩)) ?_
  · refine ⟨rfl, rfl, ?_, nofun⟩
    rintro compaction ⟨⟩
    exact ⟨by decide, by decide, by decide, by decide, _, .head _, rfl, rfl, rfl, _, _, _, _, rfl⟩
  refine .cons (.accepted rfl rfl (live _ (by simp [compactedBatch])) (.inr ⟨_, _, rfl, ?_⟩)) ?_
  · exact ⟨rfl, rfl, nofun, fun _ _ => rfl⟩
  exact .cons (.accepted rfl rfl (live _ (by simp [compactedBatch])) (.inl ⟨_, rfl⟩)) .nil

/-- What `append_headless_deadline_fact` appends for a running run is refused as invalid. -/
theorem deadline_refused :
    let batch := [runFact (.runDeadlineExceeded 1700000000000)]
    WellFormedFrom headlessView batch headlessView.states batch ∧
      validateWorkerRunTransitions headlessView batch = .error
        ⟨.invalidArgument, "worker envelope payload is invalid: unknown variant", false⟩ :=
  ⟨.cons (.accepted rfl rfl ⟨rfl, .inl rfl, nofun⟩
    (.inr ⟨_, _, rfl, rfl, rfl, nofun, nofun⟩)) .nil, by decide +kernel⟩

end HaiderAgent.WorkerFence
