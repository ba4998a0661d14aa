import HaiderAgent.Store.Fork.Session

/-!
# The main timeline of a session

`main_timeline_run_prompt_source` and `latest_main_timeline_failed_turn`
(`haider-store/src/event_store.rs`), with the run heads the second one reads, over the payloads
that carry journal seqs: retraction facts with their `prompt_seq` and `run_retried` with its
`user_seq`. Rows without a payload kind are not modelled.
-/

namespace HaiderAgent.Fork

/-- The payloads of a session journal, as far as the fork reads or rewrites them. -/
inductive Payload where
  | raw (payload : RawPayload)
  | promptRetracted (promptSeq : Option Nat) (promptNodeId : Option NodeId) (body : Json)
  | responseDeltaDiscarded (promptSeq : Option Nat) (body : Json)
  | headlessCancelled
  | sessionForked (record : SessionForked)
  deriving DecidableEq, Repr

namespace Payload

/-- `payload_kind`. -/
def kind : Payload → String
  | .raw payload =>
    let kind := payload.type.getD ""
    if kind = "item" ∧ payload.itemTag = some "tool_call" then "item_tool_call" else kind
  | .promptRetracted .. => "prompt_retracted"
  | .responseDeltaDiscarded .. => "response_delta_discarded"
  | .headlessCancelled => "run_state"
  | .sessionForked _ => "session_forked"

/-- The prompt a retraction fact points at. -/
def promptSeq : Payload → Option Nat
  | .promptRetracted promptSeq _ _ | .responseDeltaDiscarded promptSeq _ => promptSeq
  | _ => none

/-- The fact pointing at another prompt. -/
def withPromptSeq (promptSeq : Nat) : Payload → Payload
  | .promptRetracted _ node body => .promptRetracted (some promptSeq) node body
  | .responseDeltaDiscarded _ body => .responseDeltaDiscarded (some promptSeq) body
  | payload => payload

/-- The tree node a row commits. -/
def node : Payload → Option TreeNode
  | .raw (.event (.nodeCommitted node)) => some node
  | _ => none

/-- `PromptRetractedV1::from_payload_value`, by the node it names. -/
def retractedNode : Payload → Option NodeId
  | .promptRetracted _ node _ => node
  | _ => none

/-- The run state a row carries. -/
def runState : Payload → Option RunState
  | .raw (.event (.runState state)) => some state
  | .headlessCancelled => some .cancelled
  | _ => none

/-- Whether a row configures a headless run. -/
def headlessConfigured : Payload → Bool
  | .raw (.headless (.headlessRunConfigured _)) => true
  | _ => false

/-- Whether a row is a user's or a peer's message. -/
def message : Payload → Bool
  | .raw (.event (.userMessage ..)) | .raw (.event (.peerMessage _)) => true
  | _ => false

/-- The retry a row accepts. -/
def retried : Payload → Option RunRetried
  | .raw (.retry retry) => some retry
  | _ => none

/-- Whether a row records a failure. -/
def runFailed : Payload → Bool
  | .raw (.event (.runFailed ..)) => true
  | _ => false

/-- `provider_operation_reserved`. -/
def reserved (payload : Payload) : Bool := payload.kind == "provider_operation_reserved"

end Payload

/-- What a fork reads and writes of these payloads. -/
def payloadView : PayloadView Payload where
  kind := Payload.kind
  promptSeq := Payload.promptSeq
  withPromptSeq := Payload.withPromptSeq
  node := Payload.node
  retractedNode := Payload.retractedNode
  runState := Payload.runState
  headlessConfigured := Payload.headlessConfigured
  cancelled := fun headless => if headless then .headlessCancelled else .raw (.event (.runState .cancelled))
  idle := .raw (.event (.sessionState (.idle false)))
  forked := .sessionForked

/-- A stored row. -/
abbrev JournalEnvelope := Envelope Payload

/-- A row of the root agent outside every branch. -/
def mainTimeline (envelope : JournalEnvelope) : Bool :=
  envelope.branchId.isNone && envelope.agentId.isNone

/-- One row of `main_timeline_run_prompt_source`. -/
def promptSourceStep (target : RunId) (source : Option (RunId × Nat))
    (envelope : JournalEnvelope) : Option (RunId × Nat) :=
  if envelope.runId = some target ∧ mainTimeline envelope then
    if envelope.payload.message then some (target, envelope.seq)
    else
      match envelope.payload.retried with
      | some retry => some (retry.promptRunId, retry.userSeq)
      | none => source
  else source

variable (envelopes : List JournalEnvelope)

/-- `main_timeline_run_prompt_source`: the run and the seq of the message a run answers. -/
def mainTimelineRunPromptSource (target : RunId) : Option (RunId × Nat) :=
  envelopes.foldl (promptSourceStep target) none

/-! ## Run heads -/

/-- `ProjectedRunHead`, without the accepted seq and the prompt run. -/
structure RunHead where
  state : RunState
  stateSeq : Option Nat
  branchId : Option BranchId
  deriving DecidableEq, Repr

variable (heads : HashMap RunId RunHead)

/-- A change to a run's head, which never leaves its branch. -/
def moveHead (runId : RunId) (branchId : Option BranchId) (fresh : RunState)
    (move : RunHead → RunHead) : Except ForkError (HashMap RunId RunHead) :=
  let head := (heads.lookup runId).getD { state := fresh, stateSeq := none, branchId := branchId }
  if head.branchId = branchId then .ok (heads.insert runId (move head))
  else .error (corrupt ("run " ++ runId ++ " crosses branch scopes in durable history"))

/-- `apply_run_head_envelope`, on the columns this reader needs. -/
def applyRunHeadEnvelope (envelope : JournalEnvelope) : Except ForkError (HashMap RunId RunHead) :=
  match envelope.runId with
  | none => .ok heads
  | some runId =>
    if envelope.payload.retried.isSome then
      moveHead heads runId envelope.branchId .queued id
    else if envelope.payload.reserved then
      moveHead heads runId envelope.branchId .done fun head =>
        { head with state := .done, stateSeq := some envelope.seq }
    else
      match envelope.payload.runState with
      | some state =>
        moveHead heads runId envelope.branchId state fun head =>
          { head with state := state, stateSeq := some envelope.seq }
      | none =>
        if envelope.payload.message then moveHead heads runId envelope.branchId .queued id
        else .ok heads

/-- `load_projected_run_heads`. -/
def runHeads : Except ForkError (HashMap RunId RunHead) :=
  envelopes.foldlM applyRunHeadEnvelope ∅

/-! ## The latest failed turn -/

/-- What the reducer of `latest_main_timeline_failed_turn` collects. -/
structure FailedTurnFacts where
  latestUser : Option (RunId × Nat)
  /-- The retrying run, its prompt run and the seq of the retried message, the newest first. -/
  retries : List (RunId × RunId × Nat)
  failed : List RunId
  deriving DecidableEq, Repr

/-- One row of `latest_main_timeline_failed_turn`. -/
def failedTurnStep (facts : FailedTurnFacts) (envelope : JournalEnvelope) : FailedTurnFacts :=
  match envelope.runId with
  | none => facts
  | some runId =>
    if mainTimeline envelope then
      if envelope.payload.message then { facts with latestUser := some (runId, envelope.seq) }
      else if envelope.payload.runFailed then { facts with failed := runId :: facts.failed }
      else
        match envelope.payload.retried with
        | some retry =>
          { facts with retries := (runId, retry.promptRunId, retry.userSeq) :: facts.retries }
        | none => facts
    else facts

/-- The rows reduced. -/
def failedTurnFacts : FailedTurnFacts :=
  envelopes.foldl failedTurnStep { latestUser := none, retries := [], failed := [] }

/-- The run that owns the latest message: its newest retry, or the message's own run. -/
def owningRun (retries : List (RunId × RunId × Nat)) (userRunId : RunId) (userSeq : Nat) :
    RunId × RunId :=
  match retries.find? (·.2.2 == userSeq) with
  | some retry => (retry.1, retry.2.1)
  | none => (userRunId, userRunId)

/-- Whether the run ended in an error on the main line. -/
def erroredOnMain (runId : RunId) : Bool :=
  (heads.lookup runId).any fun head =>
    head.stateSeq.isSome && head.state == .errored && head.branchId.isNone

/-- `latest_main_timeline_failed_turn`. -/
def latestMainTimelineFailedTurn : Except ForkError (Option (RunId × RunId × Nat)) := do
  let heads ← runHeads envelopes
  let facts := failedTurnFacts envelopes
  match facts.latestUser with
  | none => return none
  | some (userRunId, userSeq) =>
    let (runId, promptRunId) := owningRun facts.retries userRunId userSeq
    if erroredOnMain heads runId && facts.failed.contains runId then
      return some (runId, promptRunId, userSeq)
    else return none

end HaiderAgent.Fork
