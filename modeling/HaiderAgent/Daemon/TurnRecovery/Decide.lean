import Mathlib.Data.List.Sort
import HaiderAgent.Daemon.TurnRecovery.Reduce

/-!
# What startup recovery does with one run

The per-run decision chain of `recover_interrupted_turns_report_with_visitor`
(`haider-daemon/src/turn_recovery.rs`) and its helpers. Everything the chain asks the store is a
field of `StoreView`.
-/

namespace HaiderAgent.TurnRecovery

/-- `DelegationState` (event_store.rs). -/
inductive DelegationState where
  | spawned | running | reported | collected
  deriving DecidableEq, Repr

/-- `DelegationRecord` (`haider-store`), with the two manifest facts recovery reads. -/
structure DelegationRecord where
  agentId : AgentId
  childSessionId : SessionId
  childRunId : RunId
  parentSessionId : SessionId
  parentRunId : RunId
  parentBranchId : Option BranchId
  callId : String
  toolItemId : ItemId
  publicOperatorSpawn : Bool
  fencingEpoch : Nat
  state : DelegationState
  report : Option ChildReport
  deriving DecidableEq, Repr

/-- The session's graph as recovery sees it: `graph_status` and its digest. -/
structure GraphView where
  graphId : GraphId
  phase : GraphPhase
  finalizationStateDigest : String
  deriving DecidableEq, Repr

/-- The store's answers while one session is recovered. -/
structure StoreView where
  sessionId : SessionId
  workerGeneration : Nat
  runnableMetadata : Bool
  turnOrdinal : RunId → Option Nat
  delegation : AgentId → Option DelegationRecord
  delegationForChildSession : Option DelegationRecord
  delegationsForParentRun : RunId → List DelegationRecord
  graphStatus : Option GraphView
  latestRunState : SessionId → RunId → Option BranchId → Option RunState
  parentHasMetadata : SessionId → Bool
  /-- `serde_json::from_str(text).unwrap_or(Value::String(text))`. -/
  argsValue : String → Json

/-- A session of its own: it has metadata and one turn, and no delegation or graph. -/
def plainSession (workerGeneration : Nat) : StoreView where
  sessionId := "s"
  workerGeneration := workerGeneration
  runnableMetadata := true
  turnOrdinal _ := some 1
  delegation _ := none
  delegationForChildSession := none
  delegationsForParentRun _ := []
  graphStatus := none
  latestRunState _ _ _ := none
  parentHasMetadata _ := true
  argsValue text := text

/-- `AcceptedTurn` as `recovered_acceptance` rebuilds it. -/
structure AcceptedTurn where
  sessionId : SessionId
  runId : RunId
  turnOrdinal : Nat
  acceptedSeq : Nat
  workerGeneration : Nat
  branchId : Option BranchId
  deriving DecidableEq, Repr

/-- `AcceptedRunRetry` (event_store.rs). -/
structure AcceptedRunRetry where
  sessionId : SessionId
  runId : RunId
  turnOrdinal : Nat
  failedRunId : RunId
  promptRunId : RunId
  userSeq : Nat
  acceptedSeq : Nat
  workerGeneration : Nat
  deriving DecidableEq, Repr

/-- A tool call waiting for the answer to its menu (actor.rs). -/
structure RequestInputCheckpoint where
  menu : Menu
  requestSeq : Nat
  openingGeneration : Nat
  toolItemId : ItemId
  callId : String
  toolName : String
  args : String
  deriving DecidableEq, Repr

/-- A cut-off message waiting for the answer to its card (actor.rs). -/
structure PartialStreamCheckpoint where
  menu : Menu
  requestSeq : Nat
  openingGeneration : Nat
  itemId : ItemId
  text : String
  deriving DecidableEq, Repr

/-- A tool call a route wait left open (actor.rs). -/
structure RouteWaitToolCheckpoint where
  itemId : ItemId
  callId : String
  name : String
  args : String
  deriving DecidableEq, Repr

/-- A tool call a route wait had completed (actor.rs). -/
structure RouteWaitCompletedToolCheckpoint where
  callId : String
  name : String
  args : Json
  result : Option BoundedResult
  deriving DecidableEq, Repr

/-- `RouteWaitCheckpoint` (`actor.rs`); a text checkpoint is an item and its text. -/
structure RouteWaitCheckpoint where
  message : Option (ItemId × String) := none
  reasoning : Option (ItemId × String) := none
  tools : List RouteWaitToolCheckpoint := []
  completedTools : List RouteWaitCompletedToolCheckpoint := []
  structuredEvents : List StreamEvent
  responseEpoch : Nat
  deriving DecidableEq, Repr

/-- A spawn call whose child has not been collected (actor.rs). -/
structure DeferredToolCheckpoint where
  ticketId : AgentId
  toolItemId : ItemId
  callId : String
  toolName : String
  args : String
  reportEmitted : Bool
  childResultEmitted : Bool
  toolResultEmitted : Bool
  itemCompleted : Bool
  deriving DecidableEq, Repr

/-- `RecoveredWork`: what startup hands back to the runtime. -/
inductive RecoveredWork where
  | queued (accepted : AcceptedTurn) (providerRequestOrdinal : Nat)
  | retry (accepted : AcceptedRunRetry) (providerRequestOrdinal : Nat)
  | checkpoint (accepted : AcceptedTurn) (checkpoint : RequestInputCheckpoint)
      (committedAnswer : Option RawEnvelope) (providerRequestOrdinal : Nat)
  | partialStream (accepted : AcceptedTurn) (checkpoint : PartialStreamCheckpoint)
      (committedAnswer : Option RawEnvelope) (providerRequestOrdinal : Nat)
  | routeWait (accepted : AcceptedTurn) (checkpoint : RouteWaitCheckpoint)
      (providerRequestsConsumed providerRequestOrdinal : Nat)
  | childWait (accepted : AcceptedTurn) (tools : List DeferredToolCheckpoint)
      (providerRequestOrdinal : Nat)
  | admissionRetry (accepted : AcceptedTurn)
      (providerRequestsConsumed providerRequestOrdinal : Nat)
  | workflowContinuation (accepted : AcceptedTurn)
      (providerRequestsConsumed providerRequestOrdinal : Nat)
  | delegationMirror (record : DelegationRecord) (handoff : DelegationMirrorHandoff)
  deriving DecidableEq, Repr

/-- Work handed back, payloads appended for the run, and whether `ActiveRun` is asked for. -/
structure RunDecision where
  work : List RecoveredWork := []
  payloads : List EventPayload := []
  activate : Bool := false
  deriving DecidableEq, Repr

/-- A `StoreCorrupt` error with its text. -/
def corrupt (message : String) : HaiderError := ⟨.storeCorrupt, message, false⟩

variable (argsDigest : RunId → Nat → String) (view : StoreView) (runId : RunId)

/-- `recovered_acceptance`. -/
def recoveredAcceptance (turnOrdinal acceptedSeq : Nat) (branchId : Option BranchId) :
    AcceptedTurn :=
  ⟨view.sessionId, runId, turnOrdinal, acceptedSeq, view.workerGeneration, branchId⟩

/-- `public_spawn_needs_establishment`. -/
def publicSpawnNeedsEstablishment (record : DelegationRecord) : Bool :=
  record.state == .spawned && record.publicOperatorSpawn

variable (turnOrdinal : Nat) (state : RunState) (reduction : RunReduction)

/-- `interrupted_restart_cause`: an exhausted budget outranks the restart. -/
def interruptedRestartCause (cancelling : Bool) : Bool × ErrorCode × String × Bool :=
  match reduction.budgetExhausted with
  | some exhausted => (false, .budgetExhausted, exhausted.summary, false)
  | none => (cancelling, .internal, "run was interrupted by daemon restart", true)

/-- The terminal form of an open item in `interrupted_terminal_payloads`. -/
def closeOpenItem (toolStatus : ToolStatus) (opened : OpenItem) : TurnItem :=
  match opened.item with
  | .agentMessage _ => .agentMessage opened.text
  | .reasoning _ => .reasoning opened.text
  | .toolCall callId name args _ =>
    .toolCall callId name (if opened.args = "" then args else view.argsValue opened.args) toolStatus
  | .commandExecution callId command _ exitCode =>
    .commandExecution callId command toolStatus exitCode
  | item => item

/-- The open items by the seq that started them. -/
def sortedOpenItems : List (ItemId × OpenItem) :=
  (reduction.openItems.entries.map fun entry => (entry.1, entry.2)).insertionSort
    fun a b => a.2.startedSeq ≤ b.2.startedSeq

/-- `interrupted_terminal_payloads`: the batch that closes an interrupted run. -/
def interruptedTerminalPayloads (cancelling : Bool) (failureCode : ErrorCode)
    (failureMessage : String) (retryable : Bool) : List EventPayload :=
  let toolStatus : ToolStatus := if cancelling then .cancelled else .failed
  let items := (sortedOpenItems reduction).map fun (itemId, opened) =>
    EventPayload.item (.completed itemId (closeOpenItem view toolStatus opened))
  let menu := match reduction.menu with
    | some opened =>
      [EventPayload.menuClosed opened.menu.id (if cancelling then .cancelled else .recoveryInterrupted)]
    | none => []
  let failed := if cancelling then [] else
    [EventPayload.runFailed failureCode failureMessage retryable
      (some
        { subcode := "run-recovery-interrupted"
          title := "Interrupted run could not resume"
          detail := "Haider recovered the journal but could not safely resume this run."
          scope := .turn
          allowedActions := [if retryable then .retryFresh else .none] })]
  items ++ menu ++ failed ++
    [.runState (if cancelling then .cancelled else .errored), .sessionState (.idle true)]

/-- `terminalize_interrupted`, the payloads it appends. -/
def terminalizeInterrupted (cancelling : Bool) : List EventPayload :=
  let (cancelling, code, message, retryable) := interruptedRestartCause reduction cancelling
  interruptedTerminalPayloads view reduction cancelling code message retryable

/-- The character loop of `sanitized_failure_message`: `used` bytes are taken. -/
def sanitizedFailureChars : Nat → List Char → List Char
  | _, [] => []
  | used, c :: rest =>
    if 512 ≤ used then []
    else
      let c := if isControl c && c != '\n' then ' ' else c
      c :: sanitizedFailureChars (used + c.utf8Size) rest

/-- `sanitized_failure_message` (actor.rs). -/
def sanitizedFailureMessage (message : String) : String :=
  String.ofList (sanitizedFailureChars 0 message.toList)

/-- The page loop of `resumption_terminal_payloads`: one run's envelopes in a map of its own. -/
def reduceRun (envelopes : List RawEnvelope) : RunReduction :=
  envelopes.foldl
    (fun reduction envelope =>
      if envelope.runId = some runId then
        ((reduce (AList.singleton runId reduction) envelope).lookup runId).getD {}
      else reduction)
    {}

/-- `resumption_terminal_payloads`: a live run failed with `error` or cancelled, unless parked. -/
def resumptionTerminalPayloads (envelopes : List RawEnvelope) (error : Option HaiderError) :
    Except HaiderError (List EventPayload) :=
  let reduction := reduceRun runId envelopes
  if reduction.branchMismatch then
    .error (corrupt ("run " ++ runId ++ " crosses branch scopes"))
  else if reduction.state.map (·.1) = some .effectOutcomeUnknown then .ok []
  else
    match reduction.budgetExhausted, error with
    | some exhausted, _ =>
      .ok (interruptedTerminalPayloads view reduction false .budgetExhausted exhausted.summary false)
    | none, some error =>
      .ok (interruptedTerminalPayloads view reduction false error.code
        (sanitizedFailureMessage error.message) error.retryable)
    | none, none =>
      .ok (interruptedTerminalPayloads view reduction true .internal "run was cancelled" false)

/-- `admitted_first_request_has_no_response`. -/
def admittedFirstRequestHasNoResponse : Bool :=
  match reduction.latestProviderRequestAttempt with
  | none => false
  | some (attemptSeq, _) =>
    let stateMatchesAttempt := match reduction.state with
      | some (.thinking, stateSeq) => state == .thinking && stateSeq < attemptSeq
      | some (.streaming, stateSeq) => state == .streaming && attemptSeq < stateSeq
      | _ => false
    reduction.providerModelRequestAttemptCount == 1 && reduction.workflowDeferral.isNone &&
      stateMatchesAttempt && reduction.headlessConfigured && reduction.budgetExhausted.isNone &&
      reduction.openItems.entries.isEmpty && reduction.incompleteItems.entries.isEmpty &&
      reduction.menu.isNone && reduction.delegationMirrorHandoffs.entries.isEmpty &&
      reduction.routeReplayEvents.isEmpty &&
      reduction.latestProviderResponseSeq.all (· < attemptSeq)

/-- `park_ambiguous_admission_retry`; the arguments digest is a hash, `argsDigest`. -/
def parkAmbiguousAdmissionRetry (providerRequestOrdinal : Nat) : List EventPayload :=
  let attempt := saturatingAdd providerRequestOrdinal 1
  let effectId := "provider-admission-" ++ runId ++ "-" ++ toString attempt
  let menuId := "provider-admission-recovery-" ++ runId ++ "-" ++ toString attempt
  let summary :=
    "provider request attempt " ++ toString attempt ++ " admitted before daemon restart"
  [.effect (.intent
      { effect := effectId, class_ := .network "provider-request", summary,
        argsDigest := argsDigest runId attempt, workspaceRevision := none }),
    .effect (.authorized effectId .allow),
    .effect (.dispatched effectId),
    .effect (.outcome effectId .unknown),
    .menuOpened (effectRecoveryMenu menuId effectId summary),
    .runState .effectOutcomeUnknown]

/-- `budgeted_workflow_admission_is_recoverable`. -/
def budgetedWorkflowAdmissionIsRecoverable (graphPhase : Option GraphPhase) : Bool :=
  reduction.headlessBudget.hasSharedLimits && graphPhase == some .active

/-- `workflow_continuation_shape_is_eligible`. -/
def workflowContinuationShapeIsEligible : Bool :=
  state == .streaming && reduction.headlessConfigured && reduction.budgetExhausted.isNone &&
    reduction.openItems.entries.isEmpty && reduction.incompleteItems.entries.isEmpty &&
    reduction.menu.isNone && reduction.delegationMirrorHandoffs.entries.isEmpty

/-- `pending_workflow_continuation`. The `usize` conversion cannot fail on 64-bit targets. -/
def pendingWorkflowContinuation : Except HaiderError (Option RecoveredWork) :=
  match reduction.workflowDeferral, view.graphStatus with
  | some (deferred, deferredSeq), some status =>
    if workflowContinuationShapeIsEligible state reduction &&
        reduction.latestProviderRequestAttempt.any (·.1 < deferredSeq) &&
        deferred.runId == runId && status.phase == .active &&
        status.graphId == deferred.graphId &&
        status.finalizationStateDigest == deferred.stateDigest then
      match reduction.userSeq with
      | none =>
        .error (corrupt ("workflow continuation run " ++ runId ++ " has no user message"))
      | some acceptedSeq =>
        .ok (some (.workflowContinuation
          (recoveredAcceptance view runId turnOrdinal acceptedSeq reduction.branchId)
          deferred.providerRequestsConsumed (recoveredProviderRequestOrdinal reduction)))
    else .ok none
  | _, _ => .ok none

/-- The tool call a permission or input menu belongs to, in `pending_checkpoint`. -/
def checkpointTool (kind : MenuKind) (name : String) : Bool :=
  match kind with
  | .permission _ => name != "request_input" && name != "plan"
  | _ => name == "request_input" || name == "plan"

/-- `pending_checkpoint`: the open call the open menu belongs to. -/
def pendingCheckpoint : Option RequestInputCheckpoint :=
  reduction.menu.bind fun opened =>
    reduction.openItems.entries.findSome? fun entry =>
      match entry.2.item with
      | .toolCall callId name _ _ =>
        if callId ∉ reduction.toolResults ∧ checkpointTool opened.menu.kind name then
          some
            { menu := opened.menu, requestSeq := opened.requestSeq,
              openingGeneration := opened.openingGeneration, toolItemId := entry.1, callId,
              toolName := name, args := entry.2.args }
        else none
      | _ => none

/-- `checkpoint_state_matches`. -/
def checkpointStateMatches (checkpoint : RequestInputCheckpoint) : Bool :=
  match state with
  | .streaming =>
    !checkpoint.menu.blocking && (checkpoint.toolName == "request_input" ||
      (checkpoint.toolName == "plan" && checkpoint.menu.origin == "plan"))
  | .inputRequired menu => menu == checkpoint.menu.id
  | .permissionRequired menu =>
    menu == checkpoint.menu.id &&
      match checkpoint.menu.kind with
      | .permission _ => true
      | _ => false
  | _ => false

/-- `pending_partial_stream_checkpoint`. -/
def pendingPartialStreamCheckpoint : Option PartialStreamCheckpoint :=
  reduction.menu.bind fun opened =>
    match opened.menu.kind with
    | .errorRecovery .partialStream _ (some itemId) =>
      (reduction.incompleteItems.lookup itemId).map fun text =>
        { menu := opened.menu, requestSeq := opened.requestSeq,
          openingGeneration := opened.openingGeneration, itemId, text }
    | _ => none

/-- `partial_stream_checkpoint_state_matches`. -/
def partialStreamCheckpointStateMatches (checkpoint : PartialStreamCheckpoint) : Bool :=
  match state with
  | .inputRequired menu => menu == checkpoint.menu.id
  | .streaming => !checkpoint.menu.blocking
  | _ => false

/-- One open item of a route-wait checkpoint; a second message or another kind gives up. -/
def routeWaitItem (checkpoint : RouteWaitCheckpoint × List (Nat × RouteWaitToolCheckpoint))
    (itemId : ItemId) (opened : OpenItem) :
    Option (RouteWaitCheckpoint × List (Nat × RouteWaitToolCheckpoint)) :=
  match opened.item with
  | .agentMessage _ =>
    if checkpoint.1.message.isNone then
      some ({ checkpoint.1 with message := some (itemId, opened.text) }, checkpoint.2)
    else none
  | .reasoning _ =>
    if checkpoint.1.reasoning.isNone then
      some ({ checkpoint.1 with reasoning := some (itemId, opened.text) }, checkpoint.2)
    else none
  | .toolCall callId name _ _ =>
    some (checkpoint.1,
      checkpoint.2 ++ [(opened.startedSeq, ⟨itemId, callId, name, opened.args⟩)])
  | _ => none

/-- `pending_route_wait_checkpoint`. -/
def pendingRouteWaitCheckpoint : Option RouteWaitCheckpoint := do
  let start : RouteWaitCheckpoint :=
    { structuredEvents := reduction.routeReplayEvents
      responseEpoch := reduction.routeReplayEpoch }
  let (checkpoint, tools) ← reduction.openItems.entries.foldlM
    (fun checkpoint entry => routeWaitItem checkpoint entry.1 entry.2) (start, [])
  let completedCallIds := checkpoint.structuredEvents.filterMap fun
    | .toolCallEnd callId => some callId
    | _ => none
  let completed := (reduction.toolCalls.entries.filter fun entry =>
    entry.2.completed && completedCallIds.contains entry.1).map fun entry =>
      (entry.2.startedSeq,
        ({ callId := entry.1, name := entry.2.name, args := view.argsValue entry.2.args,
           result := reduction.toolResultValues.lookup entry.1 } :
          RouteWaitCompletedToolCheckpoint))
  return { checkpoint with
    tools := (tools.insertionSort fun a b => a.1 ≤ b.1).map (·.2)
    completedTools := (completed.insertionSort fun a b => a.1 ≤ b.1).map (·.2) }

/-- One delegation of `pending_child_wait`. -/
def deferredToolCheckpoint (delegation : DelegationRecord) :
    Except HaiderError (Nat × DeferredToolCheckpoint) :=
  if delegation.parentBranchId ≠ reduction.branchId then
    .error (corrupt ("delegation " ++ delegation.agentId ++ " crosses parent branch scopes"))
  else
    match reduction.toolCalls.lookup delegation.callId with
    | some tool =>
      if tool.itemId = delegation.toolItemId then
        .ok (tool.startedSeq,
          { ticketId := delegation.agentId, toolItemId := tool.itemId,
            callId := delegation.callId, toolName := tool.name, args := tool.args,
            reportEmitted := delegation.agentId ∈ reduction.agentReports,
            childResultEmitted := delegation.agentId ∈ reduction.childResults,
            toolResultEmitted := delegation.callId ∈ reduction.toolResults,
            itemCompleted := tool.completed })
      else
        .error (corrupt
          ("delegation " ++ delegation.agentId ++ " has no matching parent spawn tool"))
    | none =>
      .error (corrupt ("delegation " ++ delegation.agentId ++ " has no matching parent spawn tool"))

/-- `pending_child_wait`: one checkpoint per delegation, by the start of its call. -/
def pendingChildWait : Except HaiderError (Option (List DeferredToolCheckpoint)) := do
  let delegations := view.delegationsForParentRun runId
  if delegations.isEmpty then return none
  let checkpoints ← delegations.mapM (deferredToolCheckpoint reduction)
  return some ((checkpoints.insertionSort fun a b => a.1 ≤ b.1).map (·.2))

/-- The pending cancellation mirrors of a run, by handoff id. -/
def mirrorHandoffs : List DelegationMirrorHandoff :=
  (reduction.delegationMirrorHandoffs.entries.map (·.2)).insertionSort
    fun a b => a.handoffId ≤ b.handoffId

/-- Validate one mirror handoff and turn it into work. -/
def mirrorWork (handoff : DelegationMirrorHandoff) : Except HaiderError RecoveredWork :=
  if handoff.childSessionId ≠ view.sessionId ∨ handoff.childRunId ≠ runId then
    .error (corrupt ("delegation mirror handoff " ++ handoff.handoffId ++
      " crosses child run coordinates"))
  else
    match view.delegation handoff.agent with
    | none =>
      .error (corrupt ("delegation mirror handoff " ++ handoff.handoffId ++
        " has no durable delegation"))
    | some record => .ok (.delegationMirror record handoff)

/-- An accepted public child stays fenced until its parent has established it. -/
def fencedPublicChild : Bool :=
  view.delegationForChildSession.any fun record =>
    record.childRunId == runId && publicSpawnNeedsEstablishment record

/-- `supervised_by_waiting_parent`, for a run that is not cancelling. -/
def supervisedByWaitingParent : Bool :=
  view.delegationForChildSession.any fun record =>
    record.childRunId == runId &&
      view.latestRunState record.parentSessionId record.parentRunId record.parentBranchId ==
        some (.waiting .localChild)

/-- The accepted user message of a run, or the error that names what needed it. -/
def acceptedUserSeq (message : String) : Except HaiderError Nat :=
  match reduction.userSeq with
  | some acceptedSeq => .ok acceptedSeq
  | none => .error (corrupt message)

/-- A pinned direct agent spawn: wait for its child, or queue the pinned tool again. -/
def decideDirectSpawn : Except HaiderError RunDecision := do
  let acceptedSeq ← acceptedUserSeq reduction "direct agent spawn has no accepted user message"
  let accepted := recoveredAcceptance view runId turnOrdinal acceptedSeq reduction.branchId
  let incomplete := (view.delegationsForParentRun runId).any publicSpawnNeedsEstablishment
  let checkpoint ← if incomplete then pure none else pendingChildWait view runId reduction
  match checkpoint with
  | some tools => return { work := [.childWait accepted tools 0] }
  | none => return { work := [.queued accepted 0] }

/-- A `Queued` run of an earlier generation. -/
def decideQueued : RunDecision :=
  let ordinal := recoveredProviderRequestOrdinal reduction
  match reduction.userSeq, reduction.retrySource with
  | some acceptedSeq, _ =>
    { work := [.queued
        (recoveredAcceptance view runId turnOrdinal acceptedSeq reduction.branchId) ordinal]
      activate := true }
  | none, some source =>
    { work := [.retry
        ⟨view.sessionId, runId, turnOrdinal, source.failedRunId, source.promptRunId,
          source.userSeq, source.acceptedSeq, view.workerGeneration⟩ ordinal]
      activate := true }
  | none, none => {}

/-- The resumable shapes, in the chain's order; `none` when no shape applies. -/
def decideResumable : Except HaiderError (Option RecoveredWork) := do
  let accepted (acceptedSeq : Nat) :=
    recoveredAcceptance view runId turnOrdinal acceptedSeq reduction.branchId
  let ordinal := recoveredProviderRequestOrdinal reduction
  if let some continuation ← pendingWorkflowContinuation view runId turnOrdinal state reduction then
    return some continuation
  if let some checkpoint := pendingCheckpoint reduction then
    if checkpointStateMatches state checkpoint then
      let acceptedSeq ← acceptedUserSeq reduction
        ("checkpoint run " ++ runId ++ " has no user message")
      return some (.checkpoint (accepted acceptedSeq) checkpoint
        (reduction.menuAnswers.lookup checkpoint.menu.id) ordinal)
  if let some checkpoint := pendingPartialStreamCheckpoint reduction then
    if partialStreamCheckpointStateMatches state checkpoint then
      let acceptedSeq ← acceptedUserSeq reduction
        ("partial-stream checkpoint run " ++ runId ++ " has no user message")
      return some (.partialStream (accepted acceptedSeq) checkpoint
        (reduction.menuAnswers.lookup checkpoint.menu.id) ordinal)
  if state = .waiting .networkUnavailable then
    if let some checkpoint := pendingRouteWaitCheckpoint view reduction then
      let acceptedSeq ← acceptedUserSeq reduction
        ("route-wait run " ++ runId ++ " has no user message")
      if ordinal = 0 then
        throw (corrupt ("route-wait run " ++ runId ++ " has no provider request attempt"))
      return some (.routeWait (accepted acceptedSeq) checkpoint
        (saturatingAdd checkpoint.responseEpoch 1) ordinal)
  if state = .waiting .localChild then
    if let some tools ← pendingChildWait view runId reduction then
      let acceptedSeq ← acceptedUserSeq reduction
        ("child-wait run " ++ runId ++ " has no user message")
      return some (.childWait (accepted acceptedSeq) tools ordinal)
  return none

/-- An interrupted run of an earlier generation that is neither fenced, pinned nor queued. -/
def decideInterrupted : Except HaiderError RunDecision := do
  if admittedFirstRequestHasNoResponse state reduction then
    let acceptedSeq ← acceptedUserSeq reduction
      ("admission-retry run " ++ runId ++ " has no user message")
    let ordinal := recoveredProviderRequestOrdinal reduction
    if budgetedWorkflowAdmissionIsRecoverable reduction (view.graphStatus.map (·.phase)) then
      return { work := [.admissionRetry
        (recoveredAcceptance view runId turnOrdinal acceptedSeq reduction.branchId) 0 ordinal] }
    else
      return { payloads := parkAmbiguousAdmissionRetry argsDigest runId ordinal }
  match ← decideResumable view runId turnOrdinal state reduction with
  | some work => return { work := [work] }
  | none =>
    if state ≠ .cancelling ∧ supervisedByWaitingParent view runId then
      return {}
    else
      return { payloads := terminalizeInterrupted view reduction (state == .cancelling) }

/-- A runnable nonterminal run of an earlier generation with no pending mirror. -/
def decideRunnable : Except HaiderError RunDecision :=
  match view.turnOrdinal runId with
  | none => .error (corrupt ("run " ++ runId ++ " has no durable turn ordinal"))
  | some turnOrdinal =>
    if reduction.providerRequestTurnOrdinal.any (· != turnOrdinal) then
      .error (corrupt
        ("run " ++ runId ++ " request-attempt turn ordinal disagrees with its durable run"))
    else if state ≠ .cancelling ∧ fencedPublicChild view runId then .ok {}
    else if reduction.directAgentSpawn ∧ state ≠ .cancelling then
      decideDirectSpawn view runId turnOrdinal reduction
    else if state = .queued then .ok (decideQueued view runId turnOrdinal reduction)
    else decideInterrupted argsDigest view runId turnOrdinal state reduction

/-- The body of the per-run loop of `recover_interrupted_turns_report_with_visitor`. -/
def decideRun : Except HaiderError RunDecision :=
  if reduction.branchMismatch then
    .error (corrupt ("run " ++ runId ++ " crosses branch scopes"))
  else if reduction.providerRequestAttemptCorrupt then
    .error (corrupt ("run " ++ runId ++ " has a malformed provider request-attempt marker"))
  else
    match reduction.state with
    | none => .ok {}
    | some (state, _) => do
      let mirrors ← (mirrorHandoffs reduction).mapM (mirrorWork view runId)
      if state.isTerminal ∨ reduction.stateGeneration = view.workerGeneration then
        return { work := mirrors }
      else if mirrors ≠ [] then
        return { work := mirrors, payloads := terminalizeInterrupted view reduction true }
      else if !view.runnableMetadata then
        return { payloads := terminalizeInterrupted view reduction (state == .cancelling) }
      else decideRunnable argsDigest view runId state reduction

end HaiderAgent.TurnRecovery
