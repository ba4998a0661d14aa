import Mathlib.Data.Finset.Insert
import HaiderAgent.Lib.Rows
import HaiderAgent.Protocol.Envelope

/-!
# The startup turn reducer

`reduce` of `haider-daemon/src/turn_recovery.rs`: the fold that startup recovery
runs over a session journal to learn, for each run, its latest state, its open
lifecycle objects and its provider-request coordinates.
-/

namespace HaiderAgent.TurnRecovery

/-- `STARTUP_HYDRATION_PAYLOAD_KINDS`. -/
def startupHydrationPayloadKinds : List String :=
  ["response_started", "agent_report", "effect", "graph_finalization_deferred",
    "headless_run_configured", "hook_run_trust", "item", "item_tool_call", "menu_answered",
    "menu_closed", "menu_opened", "node_committed", "run_budget_exhausted", "run_failed",
    "run_retried", "run_state", "tool_result", "usage", "user_message"]

/-- A tool call the run has started. -/
structure RecoveredToolCall where
  itemId : ItemId
  name : String
  args : String
  startedSeq : Nat
  completed : Bool
  deriving DecidableEq, Repr

/-- `OpenItem`; the reply arena is the text appended to it. -/
structure OpenItem where
  item : TurnItem
  startedSeq : Nat
  text : String
  args : String
  deriving DecidableEq, Repr

/-- A menu the run has opened and nobody has settled. -/
structure OpenMenu where
  menu : Menu
  requestSeq : Nat
  openingGeneration : Nat
  deriving DecidableEq, Repr

/-- The payload of `retry_source`: failed run, prompt run, user seq, accepting seq. -/
structure RetrySource where
  failedRunId : RunId
  promptRunId : RunId
  userSeq : Nat
  acceptedSeq : Nat
  deriving DecidableEq, Repr

/-- `RunReduction`: all that startup recovery knows of a run. -/
structure RunReduction where
  branchId : Option BranchId := none
  branchObserved : Bool := false
  branchMismatch : Bool := false
  state : Option (RunState × Nat) := none
  stateGeneration : Nat := 0
  userSeq : Option Nat := none
  retrySource : Option RetrySource := none
  openItems : HashMap ItemId OpenItem := ∅
  incompleteItems : HashMap ItemId String := ∅
  menu : Option OpenMenu := none
  menuAnswers : HashMap MenuId RawEnvelope := ∅
  toolResults : Finset String := ∅
  toolResultValues : HashMap String BoundedResult := ∅
  toolCalls : HashMap String RecoveredToolCall := ∅
  agentReports : Finset AgentId := ∅
  childResults : Finset AgentId := ∅
  headlessConfigured : Bool := false
  directAgentSpawn : Bool := false
  headlessBudget : RunBudget := default
  budgetExhausted : Option RunBudgetExhausted := none
  workflowDeferral : Option (GraphFinalizationDeferred × Nat) := none
  latestProviderRequestAttempt : Option (Nat × Nat) := none
  providerModelRequestAttemptCount : Nat := 0
  providerRequestOrdinalMax : Nat := 0
  providerRequestAttemptCorrupt : Bool := false
  providerRequestTurnOrdinal : Option Nat := none
  latestProviderResponseSeq : Option Nat := none
  delegationMirrorHandoffs : HashMap String DelegationMirrorHandoff := ∅
  routeReplayEpoch : Nat := 0
  routeReplayEvents : List StreamEvent := []
  deriving DecidableEq, Inhabited

/-- Extension kinds the reducer looks for. -/
def providerRequestAttemptExtensionKind := "provider_request_attempt_v1"
/-- The extension kinds recovery reads, as their crates declare them. -/
def cacheRequestAttemptExtensionKind := "cache_request_attempt_v1"
def delegationMirrorHandoffExtensionKind := "delegation_terminal_mirror_handoff_v1"
def routeReplayAttemptExtensionKind := "haider.route_replay_attempt.v1"
def routeReplayEventExtensionKind := "haider.route_replay_event.v1"
def providerOpaqueExtensionKind := "provider_opaque"

/-- `ProviderRequestAttemptV1::try_from_extension_item`; `none` is its error. -/
def providerRequestAttemptOf : TurnItem → Option (Option ProviderRequestAttempt)
  | .extension kind data =>
    if kind = providerRequestAttemptExtensionKind then
      match data with
      | .providerRequestAttempt attempt => some (some attempt)
      | _ => none
    else some none
  | _ => some none

/-- `CacheRequestAttemptV1::try_from_extension_item`; `none` is its error. -/
def cacheRequestAttemptOf : TurnItem → Option (Option CacheRequestAttempt)
  | .extension kind data =>
    if kind = cacheRequestAttemptExtensionKind then
      match data with
      | .cacheRequestAttempt attempt => some (some attempt)
      | _ => none
    else some none
  | _ => some none

/-- `DelegationMirrorHandoff::from_item`. -/
def delegationMirrorHandoffOf : TurnItem → Option DelegationMirrorHandoff
  | .extension kind (.delegationMirrorHandoff handoff) =>
    if kind = delegationMirrorHandoffExtensionKind then some handoff else none
  | _ => none

/-- `provider_response_item`. -/
def providerResponseItem : TurnItem → Bool
  | .agentMessage .. | .incompleteAgentMessage .. | .reasoning .. | .toolCall ..
  | .refusal .. => true
  | .extension kind _ => kind == providerOpaqueExtensionKind || kind == routeReplayEventExtensionKind
  | _ => false

variable (reduction : RunReduction)

/-- `recovered_provider_request_ordinal`. -/
def recoveredProviderRequestOrdinal : Nat :=
  max reduction.providerRequestOrdinalMax
    ((reduction.latestProviderRequestAttempt.map (·.2)).getD 0)

variable (envelope : RawEnvelope)

/-- The `invalid` test of `reduce_provider_request_attempt`, for the turn ordinal and the greatest
request ordinal recovered so far. -/
def requestAttemptInvalid (turnOrdinal : Option Nat) (recovered ordinal : Nat)
    (correlation : Option ProviderRequestAttempt) : Bool :=
  ordinal == 0 || correlation.any fun c =>
    c.requestOrdinal != ordinal || c.sessionId != envelope.sessionId ||
    envelope.runId != some c.runId || !c.coordinatesValid ||
    turnOrdinal.any (· != c.turnOrdinal) || ordinal ≤ recovered

/-- `reduce_provider_request_attempt`. -/
def reduceProviderRequestAttempt (ordinal : Nat) (correlation : Option ProviderRequestAttempt)
    (modelBoundary : Bool) : RunReduction :=
  if requestAttemptInvalid envelope reduction.providerRequestTurnOrdinal
      (recoveredProviderRequestOrdinal reduction) ordinal correlation then
    { reduction with providerRequestAttemptCorrupt := true }
  else
    { reduction with
      providerRequestOrdinalMax := max reduction.providerRequestOrdinalMax ordinal
      providerModelRequestAttemptCount :=
        if modelBoundary then saturatingAdd reduction.providerModelRequestAttemptCount 1
        else reduction.providerModelRequestAttemptCount
      latestProviderRequestAttempt :=
        if modelBoundary && reduction.latestProviderRequestAttempt.all (·.2 < ordinal) then
          some (envelope.seq, ordinal)
        else reduction.latestProviderRequestAttempt
      providerRequestTurnOrdinal :=
        match correlation with
        | some c => some c.turnOrdinal
        | none => reduction.providerRequestTurnOrdinal }

variable (itemId : ItemId) (item : TurnItem)

/-- `canonicalize_completed_reply`: swap in the arena text where it is equal. -/
def canonicalizeCompletedReply (opened : OpenItem) : TurnItem :=
  match item with
  | .agentMessage text => .agentMessage (if text = opened.text then opened.text else text)
  | .incompleteAgentMessage text interruption =>
    .incompleteAgentMessage (if text = opened.text then opened.text else text) interruption
  | .reasoning summary => .reasoning (if summary = opened.text then opened.text else summary)
  | item => item

/-- Mark a provider response when `seen` says the item is part of one. -/
def noteProviderResponse (seen : Bool) : RunReduction :=
  if seen then { reduction with latestProviderResponseSeq := some envelope.seq } else reduction

/-- The `ItemEvent::Started` arm. -/
def reduceItemStarted : RunReduction :=
  let reduction := noteProviderResponse reduction envelope (providerResponseItem item)
  let reduction :=
    match item with
    | .toolCall callId name args _ =>
      { reduction with
        toolCalls := reduction.toolCalls.insert callId
          { itemId, name, args := if args = emptyObject then "" else args,
            startedSeq := envelope.seq, completed := false } }
    | _ => reduction
  { reduction with
    openItems := reduction.openItems.insert itemId
      { item, startedSeq := envelope.seq, text := "", args := "" } }

/-- Append tool arguments to the first tracked call of `itemId`; the source takes the first in the
iteration order of a hash map. -/
def extendToolArgs (toolCalls : HashMap String RecoveredToolCall) (itemId : ItemId)
    (fragment : String) : HashMap String RecoveredToolCall :=
  match Rows.find (·.2.itemId) itemId toolCalls.entries with
  | some ⟨callId, tool⟩ => toolCalls.replace callId { tool with args := tool.args ++ fragment }
  | none => toolCalls

/-- Where no two tracked calls have one item, every order finds the same call. -/
theorem find_toolCall_of_perm {toolCalls : HashMap String RecoveredToolCall}
    {order : List (Sigma fun _ : String => RecoveredToolCall)}
    (perm : order.Perm toolCalls.entries)
    (distinct : (toolCalls.entries.map (·.2.itemId)).Nodup) :
    Rows.find (·.2.itemId) itemId order = Rows.find (·.2.itemId) itemId toolCalls.entries :=
  Rows.find_perm perm distinct

/-- The `ItemEvent::Delta` arm. -/
def reduceItemDelta (delta : ItemDelta) : RunReduction :=
  let opened := reduction.openItems.lookup itemId
  let reduction := noteProviderResponse reduction envelope
    (opened.any fun o => providerResponseItem o.item)
  let reduction :=
    match opened with
    | none => reduction
    | some o =>
      match delta with
      | .text text =>
        { reduction with
          openItems := reduction.openItems.replace itemId { o with text := o.text ++ text }
          routeReplayEvents := reduction.routeReplayEvents ++ [.textDelta text] }
      | .reasoning text =>
        { reduction with
          openItems := reduction.openItems.replace itemId { o with text := o.text ++ text }
          routeReplayEvents := reduction.routeReplayEvents ++ [.reasoningDelta text] }
      | .toolArgs fragment =>
        { reduction with
          openItems := reduction.openItems.replace itemId { o with args := o.args ++ fragment } }
      | .commandOutput _ => reduction
  match delta with
  | .toolArgs fragment =>
    { reduction with toolCalls := extendToolArgs reduction.toolCalls itemId fragment }
  | _ => reduction

/-- The two request-attempt decoders of the `ItemEvent::Completed` arm, in order. -/
def reduceRequestAttempts : RunReduction :=
  let reduction :=
    match providerRequestAttemptOf item with
    | some (some attempt) =>
      reduceProviderRequestAttempt reduction envelope attempt.requestOrdinal (some attempt) false
    | some none => reduction
    | none => { reduction with providerRequestAttemptCorrupt := true }
  match cacheRequestAttemptOf item with
  | some (some attempt) =>
    reduceProviderRequestAttempt reduction envelope attempt.ordinal attempt.correlation true
  | some none => reduction
  | none => { reduction with providerRequestAttemptCorrupt := true }

/-- The route-replay extension facts of the `ItemEvent::Completed` arm. -/
def reduceRouteReplay : RunReduction :=
  match item with
  | .extension kind (.routeReplay responseEpoch streamEvent) =>
    if kind = routeReplayAttemptExtensionKind then
      match responseEpoch with
      | some epoch =>
        if epoch ≠ reduction.routeReplayEpoch then
          { reduction with routeReplayEpoch := epoch, routeReplayEvents := [] }
        else reduction
      | none => reduction
    else if kind = routeReplayEventExtensionKind ∧
        responseEpoch = some reduction.routeReplayEpoch then
      match streamEvent with
      | some event =>
        { reduction with routeReplayEvents := reduction.routeReplayEvents ++ [event] }
      | none => reduction
    else reduction
  | _ => reduction

/-- A completed tool call: track it if new, mark it done, fill in its arguments. -/
def completeToolCall : RunReduction :=
  match item with
  | .toolCall callId name args _ =>
    let entry := (reduction.toolCalls.lookup callId).getD
      { itemId, name, args, startedSeq := envelope.seq, completed := true }
    { reduction with
      toolCalls := reduction.toolCalls.insert callId
        { entry with completed := true, args := if entry.args = "" then args else entry.args } }
  | _ => reduction

/-- The `ItemEvent::Completed` arm. -/
def reduceItemCompleted : RunReduction :=
  let reduction := noteProviderResponse reduction envelope (providerResponseItem item)
  let reduction := reduceRequestAttempts reduction envelope item
  match delegationMirrorHandoffOf item with
  | some handoff =>
    { reduction with
      delegationMirrorHandoffs :=
        match handoff.phase with
        | .pending => reduction.delegationMirrorHandoffs.insert handoff.handoffId handoff
        | .completed => reduction.delegationMirrorHandoffs.erase handoff.handoffId
      openItems := reduction.openItems.erase itemId }
  | none =>
    let reduction := reduceRouteReplay reduction item
    let item := ((reduction.openItems.lookup itemId).map
      (canonicalizeCompletedReply item)).getD item
    match item with
    | .incompleteAgentMessage text _ =>
      { reduction with
        openItems := reduction.openItems.erase itemId
        incompleteItems := reduction.incompleteItems.insert itemId text }
    | item =>
      let reduction := completeToolCall reduction envelope itemId item
      let reduction :=
        match item with
        | .childResult report =>
          { reduction with childResults := insert report.agent reduction.childResults }
        | _ => reduction
      { reduction with openItems := reduction.openItems.erase itemId }

/-- The final `match payload` of `reduce`. -/
def reduceEvent (payload : EventPayload) : RunReduction :=
  match payload with
  | .runState state =>
    { reduction with
      state := some (state, envelope.seq)
      stateGeneration := envelope.workerGeneration }
  | .userMessage .. | .peerMessage _ => { reduction with userSeq := some envelope.seq }
  | .item (.started itemId item) => reduceItemStarted reduction envelope itemId item
  | .item (.delta itemId delta) => reduceItemDelta reduction envelope itemId delta
  | .item (.completed itemId item) => reduceItemCompleted reduction envelope itemId item
  | .graphFinalizationDeferred deferred =>
    { reduction with workflowDeferral := some (deferred, envelope.seq) }
  | .menuOpened menu =>
    { reduction with
      menu := some
        { menu, requestSeq := envelope.seq, openingGeneration := envelope.workerGeneration } }
  | .menuAnswered answer =>
    { reduction with menuAnswers := reduction.menuAnswers.insert answer.menu envelope }
  | .menuClosed menu _ =>
    if reduction.menu.any (·.menu.id == menu) then { reduction with menu := none } else reduction
  | .toolResult callId result =>
    { reduction with
      toolResults := insert callId reduction.toolResults
      toolResultValues := reduction.toolResultValues.insert callId result }
  | .usage _ => { reduction with latestProviderResponseSeq := some envelope.seq }
  | .agentReport report =>
    { reduction with agentReports := insert report.agent reduction.agentReports }
  | _ => reduction

/-- The headless facts of `reduce`; a fact that is not durable changes nothing. -/
def reduceHeadless (payload : HeadlessRunEventPayload) : RunReduction :=
  match payload with
  | .headlessRunConfigured spec =>
    if envelope.render.durable then
      { reduction with
        headlessConfigured := true
        directAgentSpawn := spec.agentSpawn.isSome
        headlessBudget := spec.budget }
    else reduction
  | .runBudgetExhausted exhausted =>
    if envelope.render.durable && reduction.headlessConfigured then
      { reduction with budgetExhausted := some exhausted }
    else reduction
  | .runDeadlineExceeded _ => reduction

/-- The immutable branch coordinate of a run: fixed by its first relevant envelope. -/
def observeBranch : RunReduction :=
  if reduction.branchObserved && reduction.branchId != envelope.branchId then
    { reduction with branchMismatch := true }
  else if !reduction.branchObserved then
    { reduction with branchId := envelope.branchId, branchObserved := true }
  else reduction

/-- Which payloads reach a run's entry: `response_started`, and `recovery_relevant`. -/
def recoveryRelevant : RawPayload → Bool
  | .event payload =>
    match payload with
    | .runState _ | .userMessage .. | .peerMessage _ | .item _ | .menuOpened _ | .menuAnswered _
    | .menuClosed .. | .toolResult .. | .usage _ | .agentReport _
    | .graphFinalizationDeferred _ => true
    | _ => false
  | .retry _ | .headless _ => true
  | .json type _ => type == some "response_started"

/-- What a relevant envelope does to its run's entry. -/
def reduceEntry : RunReduction :=
  let reduction := observeBranch reduction envelope
  match envelope.payload with
  | .json .. => { reduction with latestProviderResponseSeq := some envelope.seq }
  | .retry retried =>
    { reduction with
      retrySource := some
        { failedRunId := retried.failedRunId, promptRunId := retried.promptRunId,
          userSeq := retried.userSeq, acceptedSeq := envelope.seq } }
  | .headless payload => reduceHeadless reduction envelope payload
  | .event payload => reduceEvent reduction envelope payload

/-- `reduce`: one envelope into the run it names. -/
def reduce (reductions : HashMap RunId RunReduction) (envelope : RawEnvelope) :
    HashMap RunId RunReduction :=
  match envelope.runId with
  | none => reductions
  | some runId =>
    if recoveryRelevant envelope.payload then
      reductions.insert runId (reduceEntry ((reductions.lookup runId).getD {}) envelope)
    else reductions

end HaiderAgent.TurnRecovery
