import HaiderAgent.Protocol.Envelope
import HaiderAgent.Tools.Policy

/-!
# The facts turn setup reads

What the turn-start reducers of `haider-daemon/src/worker.rs` see of a journal envelope. A payload
is kept by the decoder that accepts it, with the fields the reducers open; whatever no decoder
accepts is `undecoded` with the two strings the storage layer still looks at.
-/

namespace HaiderAgent.TurnSetup

/-- `WorkspaceEventPayload` (workspace.rs). -/
inductive WorkspaceEventPayload where
  | workspaceUnavailable (path reason detail : String)
  | workspaceSelected (path : String) (previousPath : Option String)
  deriving DecidableEq, Repr

/-- One instruction file (project_instructions.rs). -/
structure ProjectInstructionFileFact where
  path : String
  digest : String
  bytes : Nat
  truncated : Bool
  deriving DecidableEq, Repr

/-- The instruction files a run started with. -/
structure ProjectInstructionsLoaded where
  files : List ProjectInstructionFileFact
  deriving DecidableEq, Repr

/-- Whether a fork shares its parent's cache epoch (session_fork.rs). -/
inductive ForkContextEpoch where
  | fresh | inherited
  deriving DecidableEq, Repr

/-- `ForkCacheSegmentV1` (`session_fork.rs`). -/
structure ForkCacheSegment where
  provider : String
  model : String
  accountScope : String
  cacheRoute : String
  cacheEpoch : String
  prefixDigest : String
  stableHistoryEnd : Nat
  deriving DecidableEq, Repr

/-- `SessionForked` (`session_fork.rs`), by what the cache lane inherits. -/
structure SessionForked where
  contextEpoch : ForkContextEpoch
  inheritedCacheSegment : Option ForkCacheSegment
  deriving DecidableEq, Repr

/-- What a request was made for (provider.rs). -/
inductive UsageRequestKind where
  | mainTurn | compaction | delegatedAgent | unknown
  deriving DecidableEq, Repr

/-- `UsageScope` (`provider.rs`); the dimensions no reducer compares stay JSON. -/
structure UsageScope where
  provider : String
  model : String
  accountScope : Option CredentialAlias
  authScope : String
  cacheEpoch : String
  requestKind : UsageRequestKind
  run : Option RunId
  agent : Option AgentId
  dimensions : Json
  deriving DecidableEq, Repr

/-- `CacheRequestDiagnosticV1` (`provider.rs`), by what the next request is compared with. -/
structure CacheRequestDiagnostic where
  historyMessageCount : Nat
  breakpointHashes : Json
  cacheDomainHash : Option String
  deriving DecidableEq, Repr

/-- `Usage` (`provider.rs`): its scope, and its request with that request's cache evidence. -/
structure Usage where
  scope : Option UsageScope
  request : Option (Option CacheRequestDiagnostic)
  deriving DecidableEq, Repr

/-- `ProviderViewLedgerV1` (`cache.rs`); the byte addresses stay JSON. -/
structure ProviderViewLedger where
  provider : String
  model : String
  accountScope : Option String
  cacheEpoch : String
  stableHistoryEnd : Nat
  blocks : Json
  deriving DecidableEq, Repr

/-- Why a cache epoch ended (cache.rs). -/
inductive CacheEpochTransitionReason where
  | configurationChanged | instructionsChanged | toolPackChanged | systemVersionChanged
  | webToolDegradation | compaction
  deriving DecidableEq, Repr

/-- `CacheEpochTransitionV1` (`cache.rs`), by what the setup reducer keeps. -/
structure CacheEpochTransition where
  reason : CacheEpochTransitionReason
  planned : Bool
  transitionId : String
  deriving DecidableEq, Repr

/-- `TurnItem`, by what turn setup looks for; extensions keep what their decoder returns. -/
inductive SetupItem where
  | toolCall (callId name : String)
  | providerViewAttempt (view : Except String ProviderViewLedger)
  | cacheEpochTransition (transition : Option CacheEpochTransition)
  | other
  deriving DecidableEq, Repr

/-- What a tool last saw of a file (effect.rs). -/
structure FileFreshness where
  path : String
  digest : String
  deriving DecidableEq, Repr

/-- `EffectPhase` (`effect.rs`), with the freshness record of an outcome. -/
inductive EffectRecord where
  | intent (intent : EffectIntent)
  | authorized (effect : EffectId) (verdict : AuthorizationVerdict)
  | dispatched (effect : EffectId)
  | outcome (effect : EffectId) (outcome : EffectOutcome) (freshness : Option FileFreshness)
  deriving DecidableEq, Repr

/-- `EventPayload` (`lib.rs`), by what turn setup opens; any other kind keeps its tag. -/
inductive SetupEvent where
  | menuOpened (menu : DecisionMenu)
  | menuAnswered (answer : MenuAnswer)
  | userMessage (text : String)
  | itemStarted (item : SetupItem)
  | itemDelta
  | itemCompleted (item : SetupItem)
  | effect (phase : EffectRecord)
  | toolResult (callId : String) (status : ToolResultStatus) (discovered : Option (List String))
  | nodeCommitted (compaction : Bool)
  | usage (usage : Usage)
  | other (tag : String)
  deriving DecidableEq, Repr

/-- A raw payload, by the union that decodes it. -/
inductive SetupPayload where
  | workspace (payload : WorkspaceEventPayload)
  | instructions (fact : ProjectInstructionsLoaded)
  | forked (record : SessionForked)
  | event (payload : SetupEvent)
  | undecoded (type : Option String) (itemTag : Option String)
  deriving DecidableEq, Repr

/-- `RawEnvelope` (`envelope.rs`), as turn setup reads it. -/
structure SetupEnvelope where
  eventId : EventId
  seq : Nat
  branchId : Option BranchId
  runId : Option RunId
  agentId : Option AgentId
  committedAtMs : Nat
  payload : SetupPayload
  deriving DecidableEq, Repr

/-- The `type` tag of an event payload. -/
def SetupEvent.tag : SetupEvent → String
  | .menuOpened _ => "menu_opened"
  | .menuAnswered _ => "menu_answered"
  | .userMessage _ => "user_message"
  | .itemStarted _ | .itemDelta | .itemCompleted _ => "item"
  | .effect _ => "effect"
  | .toolResult .. => "tool_result"
  | .nodeCommitted _ => "node_committed"
  | .usage _ => "usage"
  | .other tag => tag

/-- `payload.get("type").as_str()`. -/
def SetupPayload.type : SetupPayload → Option String
  | .workspace (.workspaceUnavailable ..) => some "workspace_unavailable"
  | .workspace (.workspaceSelected ..) => some "workspace_selected"
  | .instructions _ => some "project_instructions_loaded"
  | .forked _ => some "session_forked"
  | .event payload => some payload.tag
  | .undecoded type _ => type

/-- Whether `payload.get("item").get("item")` is the string `tool_call`. -/
def SetupPayload.isToolCall : SetupPayload → Bool
  | .event (.itemStarted (.toolCall ..)) | .event (.itemCompleted (.toolCall ..)) => true
  | .undecoded _ itemTag => itemTag == some "tool_call"
  | _ => false

/-- `payload_kind` (`haider-store/src/event_store.rs`): the stored kind column. -/
def SetupPayload.storedKind (payload : SetupPayload) : String :=
  let kind := payload.type.getD ""
  if kind = "item" ∧ payload.isToolCall = true then "item_tool_call" else kind

/-- `WorkspaceEventPayload::from_payload_value`. -/
def SetupPayload.decodeWorkspace : SetupPayload → Option WorkspaceEventPayload
  | .workspace payload => some payload
  | _ => none

/-- `matches!(from_payload_value(..), Some(WorkspaceSelected(_)))`. -/
def SetupPayload.isWorkspaceSelected (payload : SetupPayload) : Bool :=
  match payload.decodeWorkspace with
  | some (.workspaceSelected ..) => true
  | _ => false

/-- `ProjectInstructionsLoaded::from_payload_value`. -/
def SetupPayload.decodeInstructions : SetupPayload → Option ProjectInstructionsLoaded
  | .instructions fact => some fact
  | _ => none

/-- `SessionForked::from_payload_value`. -/
def SetupPayload.decodeForked : SetupPayload → Option SessionForked
  | .forked record => some record
  | _ => none

/-- `decode_event` on the events set-up reads. -/
def SetupPayload.decodeEvent : SetupPayload → Option SetupEvent
  | .event payload => some payload
  | _ => none

/-- `ProviderViewAttemptV1::try_from_extension_item`, down to the view, with its error text. -/
def SetupItem.tryProviderView : SetupItem → Except String (Option ProviderViewLedger)
  | .providerViewAttempt view => view.map some
  | _ => .ok none

/-- `CacheEpochTransitionV1::from_extension_item`. -/
def SetupItem.cacheTransition : SetupItem → Option CacheEpochTransition
  | .cacheEpochTransition transition => transition
  | _ => none

end HaiderAgent.TurnSetup
