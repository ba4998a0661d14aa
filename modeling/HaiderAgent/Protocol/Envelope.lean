import HaiderAgent.Protocol.GraphPayload

/-!
# Journal envelopes

Turn items, history nodes, the event payload union and the envelope that every committed fact rides
(`item.rs`, `history.rs`, `lib.rs`, `envelope.rs`).

A raw payload is kept by what the code's decoders return for it: the unions `EventPayload`,
`RunRetryEventPayload` and `HeadlessRunEventPayload` share no `type` tag, and whatever none of them
accepts is `RawPayload.json` with the two strings the storage layer still looks at.
-/

namespace HaiderAgent

/-- `ToolStatus` (item.rs). -/
inductive ToolStatus where
  | pending | inProgress | completed | failed | cancelled | rejected | conflict | unknown
  deriving DecidableEq, Repr

/-- `ToolResultStatus` (tool.rs). -/
inductive ToolResultStatus where
  | completed | rejected | conflict | failed | cancelled | unknown
  deriving DecidableEq, Repr

/-- `BoundedResult` (`tool.rs`); typed details no modelled function opens stay JSON. -/
structure BoundedResult where
  preview : String
  truncated : Bool
  details : Json
  artifact : Option ArtifactRef
  images : List Json
  cursor : Option String
  status : ToolResultStatus
  reason : Option String
  deriving DecidableEq, Repr

/-- `ChildReport` (`agent.rs`); the verification label stays JSON. -/
structure ChildReport where
  agent : AgentId
  summary : String
  verified : Json
  deriving DecidableEq, Repr

/-- `PeerSender` (peer.rs). -/
structure PeerSender where
  id : String
  deviceId : String
  name : String
  mode : String
  deriving DecidableEq, Repr

/-- `PeerMessage` (peer.rs). -/
structure PeerMessage where
  msgId : String
  sender : PeerSender
  recipient : String
  message : String
  summary : Option String
  queuedAt : Nat
  expiresAt : Nat
  deriving DecidableEq, Repr

/-- `TodoState` (history.rs). -/
inductive TodoState where
  | listed | processing | completed
  deriving DecidableEq, Repr

/-- `TodoItem` (history.rs). -/
structure TodoItem where
  id : Nat
  text : String
  state : TodoState
  dep : Option Nat
  deriving DecidableEq, Repr

/-- `StreamEvent` (`provider.rs`); the events recovery opens. -/
inductive StreamEvent where
  | textDelta (text : String)
  | reasoningDelta (text : String)
  | toolCallEnd (callId : String)
  | other (event : Json)
  deriving DecidableEq, Repr

/-- `ProviderRequestAttemptV1` (`cache.rs`), without the request kind. -/
structure ProviderRequestAttempt where
  sessionId : SessionId
  runId : RunId
  turnOrdinal : Nat
  requestOrdinal : Nat
  deriving DecidableEq, Repr

/-- `component_is_header_safe` (`cache.rs`): 1 to 256 bytes, printable ASCII, no slash. -/
def componentIsHeaderSafe (value : String) : Bool :=
  !value.isEmpty && value.utf8ByteSize ≤ 256 &&
    value.toList.all fun c => '!'.toNat ≤ c.toNat && c.toNat ≤ '~'.toNat && c != '/'

/-- `coordinates_valid` (cache.rs). -/
def ProviderRequestAttempt.coordinatesValid (attempt : ProviderRequestAttempt) : Bool :=
  attempt.turnOrdinal != 0 && attempt.requestOrdinal != 0 &&
    componentIsHeaderSafe attempt.sessionId && componentIsHeaderSafe attempt.runId

/-- `CacheRequestAttemptV1` (`cache.rs`), without the diagnostic. -/
structure CacheRequestAttempt where
  ordinal : Nat
  correlation : Option ProviderRequestAttempt
  deriving DecidableEq, Repr

/-- The phase of a mirror handoff (delegation.rs). -/
inductive DelegationMirrorHandoffPhase where
  | pending | completed
  deriving DecidableEq, Repr

/-- The daemon's record of a child run it mirrors (delegation.rs). -/
structure DelegationMirrorHandoff where
  handoffId : String
  agent : AgentId
  childSessionId : SessionId
  childRunId : RunId
  deadlineAtMs : Nat
  cancelCause : String
  source : String
  phase : DelegationMirrorHandoffPhase
  deriving DecidableEq, Repr

/-- The `data` of an extension item, by the decoder that accepts it. -/
inductive ExtensionData where
  | providerRequestAttempt (attempt : ProviderRequestAttempt)
  | cacheRequestAttempt (attempt : CacheRequestAttempt)
  | delegationMirrorHandoff (handoff : DelegationMirrorHandoff)
  | routeReplay (responseEpoch : Option Nat) (streamEvent : Option StreamEvent)
  | json (value : Json)
  deriving DecidableEq, Repr

/-- `TurnItem` (item.rs): what a run shows of its work. -/
inductive TurnItem where
  | agentMessage (text : String)
  | incompleteAgentMessage (text : String) (interruption : ErrorPresentation)
  | reasoning (summary : String)
  | toolCall (callId name : String) (args : Json) (status : ToolStatus)
  | commandExecution (callId command : String) (status : ToolStatus) (exitCode : Option Int)
  | fileChange (path : String) (added removed : Nat)
  | childSpawn (agent : AgentId)
  | childResult (report : ChildReport)
  | plan (items : List TodoItem)
  | contextCompaction (summaryArtifact : ArtifactRef)
  | extension (kind : String) (data : ExtensionData)
  | refusal (reason : String)
  deriving DecidableEq, Repr

/-- `ItemDelta` (item.rs). -/
inductive ItemDelta where
  | text (text : String)
  | reasoning (text : String)
  | toolArgs (fragment : String)
  | commandOutput (chunk : Json)
  deriving DecidableEq, Repr

/-- `ItemEvent` (item.rs). -/
inductive ItemEvent where
  | started (itemId : ItemId) (item : TurnItem)
  | delta (itemId : ItemId) (delta : ItemDelta)
  | completed (itemId : ItemId) (item : TurnItem)
  deriving DecidableEq, Repr

/-- `NodeKind` (history.rs): what a node of the session tree records. -/
inductive NodeKind where
  | userTurn (text : String) (attachments : List Json)
  | peerTurn (message : PeerMessage)
  | agent (message : PeerMessage)
  | assistantCommit (text : String) (verdict : Json)
  | toolExchange (tool summary : String) (artifact : Option ArtifactRef)
  | childSpawn (agent : AgentId)
  | childResult (report : ChildReport)
  | compaction (coversFrom coversTo : NodeId) (summaryArtifact : ArtifactRef)
      (tokensBefore tokensAfter : Nat) (manualIdle : Bool)
  | resultImport (fromNode : NodeId) (summary : String)
  | annotation (kind data : Json)
  | todos (items : List TodoItem)
  deriving DecidableEq, Repr

/-- `TreeNode` (history.rs). -/
structure TreeNode where
  node : NodeId
  parent : Option NodeId
  kind : NodeKind
  deriving DecidableEq, Repr

/-- Event kinds that no modelled function opens. -/
inductive UnreadKind where
  | harnessStatus | clientDiagnostic | idleDecayed | peerOutbox | peerDelivery
  | queueChanged | agentSpawned | agentChipState | gateReport | processSignalRecorded
  | childGraphAttached | childTemplateObserved | childTemplatePromoted | rotation
  | checkpointRecorded | lockdownRefused | lockdownQuota | providerTrustChanged
  | providerAuthChanged
  deriving DecidableEq, Repr

/-- `EventPayload` (lib.rs), the kinds some modelled reader looks at. -/
inductive EventPayload where
  | sessionState (state : SessionState)
  | runState (state : RunState)
  | runFailed (code : ErrorCode) (message : String) (retryable : Bool)
      (presentation : Option ErrorPresentation)
  | menuOpened (menu : Menu)
  | menuAnswered (answer : MenuAnswer)
  | menuClosed (menu : MenuId) (reason : MenuCloseReason)
  | userMessage (text : String) (attachments : List Json) (mode : Json)
  | peerMessage (message : PeerMessage)
  | item (event : ItemEvent)
  | effect (phase : EffectPhase)
  | toolResult (callId : String) (result : BoundedResult)
  | nodeCommitted (node : TreeNode)
  | agentReport (report : ChildReport)
  | graphPinned (pinned : GraphPinned)
  | graphAttemptOpened (opened : GraphNodeAttempt)
  | evidenceRecorded (evidence : EvidenceRecorded)
  | graphGateSatisfied (satisfied : GraphNodeAttempt)
  | graphAdvanced (advanced : GraphAdvanced)
  | graphNodeReadied (readied : GraphNodeAttempt)
  | graphBlocked (blocked : GraphBlocked)
  | graphCompleted (graphId : GraphId)
  | graphAbandoned (abandoned : GraphAbandoned)
  | graphSuperseded (superseded : GraphSuperseded)
  | graphFinalizationDeferred (deferred : GraphFinalizationDeferred)
  | graphRunSetOpened (opened : GraphRunSetOpened)
  | todoGraphAttached (attached : TodoGraphAttached)
  | usage (usage : Json)
  | unread (kind : UnreadKind) (body : Json)
  deriving DecidableEq, Repr

/-- The payload that starts a retry of a failed run. -/
structure RunRetried where
  failedRunId : RunId
  promptRunId : RunId
  userSeq : Nat
  deriving DecidableEq, Repr

/-- `RunBudgetV1` (`headless.rs`); the per-request budget stays JSON. -/
structure RunBudget where
  requestBudget : Option Json
  maxTokens : Option Nat
  maxCostMicrousd : Option Nat
  maxTimeMs : Option Nat
  deriving DecidableEq, Repr, Inhabited

/-- `has_shared_limits`. -/
def RunBudget.hasSharedLimits (budget : RunBudget) : Bool :=
  budget.maxTokens.isSome || budget.maxCostMicrousd.isSome || budget.maxTimeMs.isSome

/-- `RunBudgetExhaustedV1` (`headless.rs`), by its rendered summary. -/
structure RunBudgetExhausted where
  summary : String
  deriving DecidableEq, Repr

/-- `HeadlessRunSpecV1` (`headless.rs`): the agent-spawn pin and the budget. -/
structure HeadlessRunSpec where
  agentSpawn : Option Json
  budget : RunBudget
  deriving DecidableEq, Repr

/-- The three events of a headless run (headless.rs). -/
inductive HeadlessRunEventPayload where
  | headlessRunConfigured (spec : HeadlessRunSpec)
  | runBudgetExhausted (exhausted : RunBudgetExhausted)
  | runDeadlineExceeded (deadlineUnixMs : Nat)
  deriving DecidableEq, Repr

/-- `RawPayload` (`envelope.rs`), by the union that decodes it. -/
inductive RawPayload where
  | event (payload : EventPayload)
  | retry (payload : RunRetried)
  | headless (payload : HeadlessRunEventPayload)
  | json (type : Option String) (itemTag : Option String)
  deriving DecidableEq, Repr

/-- `RenderTargets` (`envelope.rs`), without the UI bit. -/
structure RenderTargets where
  durable : Bool
  promptOmit : Bool
  deriving DecidableEq, Repr

/-- `RawEnvelope`: a committed event with its coordinates. -/
structure RawEnvelope where
  eventId : EventId
  seq : Nat
  sessionId : SessionId
  branchId : Option BranchId
  runId : Option RunId
  agentId : Option AgentId
  deviceId : DeviceId
  authorityEpoch : Nat
  workerGeneration : Nat
  causationId : Option EventId
  committedAtMs : Nat
  render : RenderTargets
  payload : RawPayload
  deriving DecidableEq, Repr

/-- The `item` tag of a turn item (`item.rs`). -/
def TurnItem.tag : TurnItem → String
  | .agentMessage .. => "agent_message"
  | .incompleteAgentMessage .. => "incomplete_agent_message"
  | .reasoning .. => "reasoning"
  | .toolCall .. => "tool_call"
  | .commandExecution .. => "command_execution"
  | .fileChange .. => "file_change"
  | .childSpawn .. => "child_spawn"
  | .childResult .. => "child_result"
  | .plan .. => "plan"
  | .contextCompaction .. => "context_compaction"
  | .extension .. => "extension"
  | .refusal .. => "refusal"

/-- The nested `item.item` string of an item event; a delta carries no item. -/
def ItemEvent.itemTag : ItemEvent → Option String
  | .started _ item | .completed _ item => some item.tag
  | .delta .. => none

/-- The `type` tag of an event kind nobody opens (`lib.rs`). -/
def UnreadKind.tag : UnreadKind → String
  | .harnessStatus => "harness_status"
  | .clientDiagnostic => "client_diagnostic"
  | .idleDecayed => "idle_decayed"
  | .peerOutbox => "peer.outbox"
  | .peerDelivery => "peer.delivery"
  | .queueChanged => "queue_changed"
  | .agentSpawned => "agent_spawned"
  | .agentChipState => "agent_chip_state"
  | .gateReport => "gate_report"
  | .processSignalRecorded => "process_signal_recorded"
  | .childGraphAttached => "child_graph_attached"
  | .childTemplateObserved => "child_template_observed"
  | .childTemplatePromoted => "child_template_promoted"
  | .rotation => "rotation"
  | .checkpointRecorded => "checkpoint_recorded"
  | .lockdownRefused => "lockdown.refused"
  | .lockdownQuota => "lockdown.quota"
  | .providerTrustChanged => "provider.trust_changed"
  | .providerAuthChanged => "provider.auth_changed"

/-- The `type` tag of an event payload (`lib.rs`). -/
def EventPayload.tag : EventPayload → String
  | .sessionState .. => "session_state"
  | .runState .. => "run_state"
  | .runFailed .. => "run_failed"
  | .menuOpened .. => "menu_opened"
  | .menuAnswered .. => "menu_answered"
  | .menuClosed .. => "menu_closed"
  | .userMessage .. => "user_message"
  | .peerMessage .. => "peer.message"
  | .item .. => "item"
  | .effect .. => "effect"
  | .toolResult .. => "tool_result"
  | .nodeCommitted .. => "node_committed"
  | .agentReport .. => "agent_report"
  | .graphPinned .. => "graph_pinned"
  | .graphAttemptOpened .. => "graph_attempt_opened"
  | .evidenceRecorded .. => "evidence_recorded"
  | .graphGateSatisfied .. => "graph_gate_satisfied"
  | .graphAdvanced .. => "graph_advanced"
  | .graphNodeReadied .. => "graph_node_readied"
  | .graphBlocked .. => "graph_blocked"
  | .graphCompleted .. => "graph_completed"
  | .graphAbandoned .. => "graph_abandoned"
  | .graphSuperseded .. => "graph_superseded"
  | .graphFinalizationDeferred .. => "graph_finalization_deferred"
  | .graphRunSetOpened .. => "graph_run_set_opened"
  | .todoGraphAttached .. => "todo_graph_attached"
  | .usage .. => "usage"
  | .unread kind _ => kind.tag

/-- The `type` tag of a headless fact (`headless.rs`). -/
def HeadlessRunEventPayload.tag : HeadlessRunEventPayload → String
  | .headlessRunConfigured .. => "headless_run_configured"
  | .runBudgetExhausted .. => "run_budget_exhausted"
  | .runDeadlineExceeded .. => "run_deadline_exceeded"

/-- `payload.get("type").as_str()`. -/
def RawPayload.type : RawPayload → Option String
  | .event payload => some payload.tag
  | .retry _ => some "run_retried"
  | .headless payload => some payload.tag
  | .json type _ => type

/-- `payload.get("item").get("item").as_str()`. -/
def RawPayload.itemTag : RawPayload → Option String
  | .event (.item change) => change.itemTag
  | .json _ itemTag => itemTag
  | _ => none

/-- `decode_event`: other payload families decode to nothing. -/
def RawPayload.decodeEvent : RawPayload → Option EventPayload
  | .event payload => some payload
  | _ => none

/-- `payload_kind` (`haider-store/src/event_store.rs`): the stored kind column. -/
def payloadKind (envelope : RawEnvelope) : String :=
  let kind := envelope.payload.type.getD ""
  if kind = "item" ∧ envelope.payload.itemTag = some "tool_call" then "item_tool_call" else kind

end HaiderAgent
