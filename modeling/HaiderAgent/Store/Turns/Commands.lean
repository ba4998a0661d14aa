import Mathlib.Data.List.MinMax
import HaiderAgent.Lib.Machine
import HaiderAgent.Store.Turns.Queue

/-!
# Turn control: the commands

The turn commands of `haider-store/src/event_store.rs`, each one transaction: accepting a turn
or a peer message, removing, promoting and consuming a queued one, cancelling and retracting a
run, and a worker's append. A refused command leaves the store as it was.
-/

namespace HaiderAgent.Turns

open ExceptFold (ensure)

/-- A command's envelope on the main agent, as `unstamped_command_envelope` builds it. -/
def draft (eventId : EventId) (branchId : Option BranchId) (runId : RunId) (payload : Payload)
    (promptOmit : Bool) : Draft :=
  { eventId, branchId, runId := some runId, agentId := none, promptOmit, payload }

section Receipts

/-- The identity a command is deduplicated by. -/
structure CommandIdentity where
  commandId : String
  requestDigest : String
  requestJson : Json
  deriving DecidableEq, Repr

/-- `validate_command_identity`; the request is JSON already. -/
def validateCommandIdentity (identity : CommandIdentity) : Except StoreError Unit :=
  ensure
    (!(identity.commandId.isEmpty || identity.requestDigest.isEmpty ||
      identity.requestJson.isEmpty))
    ⟨.invalidArgument,
      "command id, request digest, and canonical request JSON must not be empty", false⟩

/-- `lookup_command_response`: whether the command is already committed. -/
def lookupReceipt (store : Store) (method : Method) (identity : CommandIdentity) :
    Except StoreError Bool :=
  match store.receipts.find? (·.commandId = identity.commandId) with
  | none => .ok false
  | some receipt =>
    if receipt.method = method && receipt.requestDigest = identity.requestDigest &&
        receipt.requestJson = identity.requestJson then .ok true
    else
      .error ⟨.invalidArgument,
        "command id was already used with a different method or semantic request body", false⟩

/-- `finalize_command_receipt`. -/
def Store.finalizeReceipt (store : Store) (method : Method) (identity : CommandIdentity)
    (runId : RunId) (acceptedSeq : Option Nat) : Store :=
  { store with
    receipts := store.receipts ++
      [⟨identity.commandId, method, identity.requestDigest, identity.requestJson, runId,
        acceptedSeq⟩] }

/-- `stale_generation`. -/
def staleGeneration (provided current : Nat) : StoreError :=
  ⟨.singleWriterViolation,
    s!"stale worker generation {provided}; current generation is {current}", false⟩

end Receipts

section Accept

/-- `TurnAcceptCommand`, with what its request JSON adds to the batch: hook trust, a headless
configuration, and the graph and title facts committed after the turn. -/
structure TurnAcceptCommand where
  identity : CommandIdentity
  workerGeneration : Nat
  runId : RunId
  agentId : Option AgentId
  branchId : Option BranchId
  text : String
  attachments : List AttachmentBlock
  mode : DeliveryMode
  queuedEventId : EventId
  userEventId : EventId
  activeEventId : EventId
  trustHooks : Bool
  headless : Option HeadlessRunSpec
  facts : List (EventId × String)
  deriving DecidableEq, Repr

/-- What becomes of an accepted turn. -/
inductive TurnAdmissionDisposition where
  | started | queued | steerPending | subturnPending
  deriving DecidableEq, Repr

variable (envelopes : List Envelope)

/-- `latest_tree_head`. -/
def latestTreeHead (branchId : Option BranchId) (agentId : Option AgentId) : Option NodeId :=
  envelopes.reverse.findSome? fun e =>
    match e.payload with
    | .nodeCommitted node =>
      if e.branchId = branchId ∧ e.agentId = agentId then some node.node else none
    | _ => none

/-- The states that neither take a delivery nor are over. -/
def inactive : RunState → Bool
  | .queued | .compacting | .cancelling | .effectOutcomeUnknown => true
  | _ => false

/-- The run among `states` whose state is the newest (`max_by_key`). -/
def newestRun (states : List (RunId × DurableRunHead)) : Option (RunId × DurableRunHead) :=
  states.argmax (·.2.seq)

variable (store : Store) (command : TurnAcceptCommand)

/-- The run a subturn without a run of its own joins. -/
def subturnTarget : RunId :=
  if command.mode = .subturn && (latestRunState envelopes command.runId).isNone then
    let active := (latestRunStates envelopes).filter fun entry =>
      entry.2.branchId = command.branchId && !entry.2.state.isTerminal &&
        !inactive entry.2.state
    ((newestRun active).map (·.1)).getD command.runId
  else command.runId

/-- Whether a message joins a run that is there. -/
def sameRunDelivery (runId : RunId) : Bool :=
  (latestRunState envelopes runId).any fun head =>
    command.mode ≠ .queue && !head.state.isTerminal && head.state ≠ .cancelling &&
      head.branchId = command.branchId

/-- How a turn is admitted, from the states before it. -/
def disposition (runId : RunId) : TurnAdmissionDisposition :=
  if sameRunDelivery envelopes command runId then
    match command.mode with
    | .subturn => .subturnPending
    | _ => .steerPending
  else if (latestRunStates envelopes).any fun entry => !entry.2.state.isTerminal then .queued
  else .started

/-- The message row: the user's, or a peer's. -/
def turnPayload : Option PeerMessage → Payload
  | some message => .peerMessage message
  | none => .userMessage command.text command.attachments command.mode

/-- The tree node of the message. -/
def turnNode (parent : Option NodeId) :
    Option PeerMessage → TreeNode
  | some message => ⟨"node-" ++ command.userEventId, parent, .agent message⟩
  | none => ⟨"node-" ++ command.userEventId, parent, .userTurn command.text command.attachments⟩

section Batch

variable (command : TurnAcceptCommand) (peer : Option PeerMessage) (runId : RunId)
  (agentId : Option AgentId)

/-- An envelope of a turn's batch, in the scope of the turn's agent. -/
def turnDraft (eventId : EventId) (payload : Payload) (promptOmit : Bool) : Draft :=
  { draft eventId command.branchId runId payload promptOmit with agentId := agentId }

/-- The state a new run starts with. -/
def queuedDraft : Draft :=
  turnDraft command runId agentId command.queuedEventId (.runState .queued none) true

/-- The message row's draft. -/
def messageDraft : Draft :=
  turnDraft command runId agentId command.userEventId (turnPayload command peer) false

/-- The tree node's draft. -/
def nodeDraft (parent : Option NodeId) : Draft :=
  turnDraft command runId agentId ("tree-" ++ command.userEventId)
    (.nodeCommitted (turnNode command parent peer)) true

/-- The session state of the first runnable turn; it is on no branch. -/
def activeDraft : Draft :=
  { turnDraft command runId agentId command.activeEventId (.sessionState .activeRun) true with
    branchId := none }

/-- The queue row of a turn that has to wait. -/
def turnRow (ordinal : Nat) : QueueRow :=
  ⟨command.userEventId, command.text, command.mode, ordinal, 0⟩

/-- The delta that shows it. -/
def enqueuedDraft (ordinal : Nat) : Draft :=
  turnDraft command runId agentId ("queue-enqueued-" ++ command.userEventId)
    (.queueChanged ⟨0, .enqueued (turnRow command ordinal)⟩) true

/-- The facts of a turn's batch after the turn itself. -/
def turnFacts : List Draft :=
  (if command.trustHooks then
    [turnDraft command runId agentId ("hook-trust-" ++ command.queuedEventId)
      (.fact "hook_run_trust") true]
  else []) ++
  (command.headless.map fun spec =>
    turnDraft command runId agentId ("headless-config-" ++ command.queuedEventId)
      (.headless (.headlessRunConfigured spec)) true).toList ++
  command.facts.map fun entry => draft entry.1 command.branchId runId (.fact entry.2) true

/-- The envelopes of an accepted turn in order; `ordinal` is its place if queued. -/
def turnBatch (parent : Option NodeId) (disposition : TurnAdmissionDisposition) (ordinal : Nat) :
    List Draft :=
  let message := messageDraft command peer runId agentId
  let node := nodeDraft command peer runId agentId parent
  let turn :=
    match disposition with
    | .started =>
      [queuedDraft command runId agentId, message, node, activeDraft command runId agentId]
    | .queued =>
      [queuedDraft command runId agentId, message, node,
        enqueuedDraft command runId agentId ordinal]
    | .steerPending | .subturnPending => [message, node]
  turn ++ turnFacts command runId agentId

end Batch

/-- The checks of a peer turn against its typed message. -/
def peerCoordinatesMatch (peer : Option PeerMessage) : Bool :=
  peer.all fun message =>
    command.text = message.renderForPrompt && command.attachments.isEmpty &&
      command.mode ≠ .subturn

/-- The agent a turn is scoped to: a delegated session has one. -/
def turnAgent : Except StoreError (Option AgentId) := do
  match store.delegatedAgent with
  | none => return command.agentId
  | some expected =>
    ensure (command.agentId.all (· = expected))
      ⟨.invalidArgument,
        "turn agent scope does not match the session's durable delegation", false⟩
    return some expected

/-- The node a turn follows. -/
def turnParent (agentId : Option AgentId) : Except StoreError (Option NodeId) := do
  let envelopes := store.journal.envelopes
  let named ←
    match command.branchId with
    | none => pure none
    | some branchId =>
      match store.branches.lookup branchId with
      | some descriptor => pure (some descriptor.headNodeId)
      | none => throw ⟨.invalidArgument, s!"branch {branchId} does not exist", false⟩
  match agentId with
  | none => return named.orElse fun _ => latestTreeHead envelopes none none
  | some _ => return latestTreeHead envelopes command.branchId agentId

/-- Whether a run of the branch is live. -/
def branchBusy (branchId : Option BranchId) : Bool :=
  branchId.isSome && (latestRunStates envelopes).any fun entry =>
    !entry.2.state.isTerminal && entry.2.branchId = branchId

/-- The place of the next queued row. -/
def nextOrdinal : TurnAdmissionDisposition → Except StoreError Nat
  | .queued => do
    let (_, entries) ← queueEntries envelopes
    ensure (decide (entries.length + 1 ≤ u32Max))
      ⟨.busy, "queue ordinal space is exhausted", true⟩
    return entries.length + 1
  | _ => .ok 0

/-- `accept_turn_in_transaction` of a turn that has no receipt yet. -/
def Store.admitTurn (now : Nat) (command : TurnAcceptCommand) (peer : Option PeerMessage) :
    Except StoreError Store := do
  ensure (command.workerGeneration = store.workerGeneration)
    (staleGeneration command.workerGeneration store.workerGeneration)
  let envelopes := store.journal.envelopes
  let agentId ← turnAgent store command
  let parent ← turnParent store command agentId
  let runId := subturnTarget envelopes command
  let sameRun := sameRunDelivery envelopes command runId
  ensure (sameRun || (latestRunState envelopes runId).isNone)
    (corrupt "daemon-minted turn run id already exists")
  ensure (sameRun || !branchBusy envelopes command.branchId)
    ⟨.busy, "branch already has a nonterminal run", true⟩
  let disposition := disposition envelopes command runId
  let ordinal ← nextOrdinal envelopes disposition
  let accepted ← store.append now (turnBatch command peer runId agentId parent disposition ordinal)
  let acceptedSeq := store.journal.headSeq + if sameRun then 1 else 2
  return accepted.finalizeReceipt .turnSubmit command.identity runId (some acceptedSeq)

/-- `accept_turn_in_transaction`. -/
def Store.acceptTurn (now : Nat) (command : TurnAcceptCommand) (peer : Option PeerMessage) :
    Except StoreError Store := do
  validateCommandIdentity command.identity
  ensure (!command.text.isEmpty) ⟨.invalidArgument, "turn text must not be empty", false⟩
  ensure (peerCoordinatesMatch command peer)
    ⟨.invalidArgument, "peer turn coordinates do not match the typed peer message", false⟩
  let replayed ← lookupReceipt store .turnSubmit command.identity
  if replayed then return store else store.admitTurn now command peer

end Accept

section Queue

/-- `queue_revision_conflict`. -/
def queueRevisionConflict (expected current : Nat) : StoreError :=
  ⟨.revisionConflict,
    s!"queue revision {expected} is stale; current revision is {current}", true⟩

/-- The held entry a fenced queue command names. -/
def fencedEntry (envelopes : List Envelope) (revision : Nat) (id : EventId) :
    Except StoreError QueuedEntry := do
  let (current, entries) ← queueEntries envelopes
  ensure (revision = current) (queueRevisionConflict revision current)
  match entries.find? (·.row.id = id) with
  | some entry => return entry
  | none => throw ⟨.invalidArgument, s!"queue item {id} is not held", false⟩

/-- `QueueRemoveCommand`. -/
structure QueueRemoveCommand where
  id : EventId
  revision : Nat
  cancellingEventId : EventId
  deltaEventId : EventId
  deriving DecidableEq, Repr

/-- The cancelling transition of a queued turn. -/
def cancellingDraft (eventId : EventId) (entry : QueuedEntry) : Draft :=
  draft eventId entry.branchId entry.runId (.runState .cancelling none) true

/-- The delta that takes an entry out of the queue. -/
def deltaDraft (eventId : EventId) (entry : QueuedEntry) (change : QueueChange) : Draft :=
  draft eventId entry.branchId entry.runId (.queueChanged ⟨0, change⟩) true

/-- `queue_remove`: the waiting run is cancelled and its row removed. -/
def Store.queueRemove (store : Store) (now : Nat) (command : QueueRemoveCommand) :
    Except StoreError Store := do
  let entry ← fencedEntry store.journal.envelopes command.revision command.id
  store.append now
    [cancellingDraft command.cancellingEventId entry,
      deltaDraft command.deltaEventId entry (.removed command.id)]

/-- `QueuePromoteCommand`. -/
structure QueuePromoteCommand where
  id : EventId
  revision : Nat
  expectedActiveRunId : Option RunId
  cancellingEventId : EventId
  deliveryEventId : EventId
  deltaEventId : EventId
  deriving DecidableEq, Repr

/-- `queue_promote_target`: the entry, and the run its message is steered into. -/
def queuePromoteTarget (envelopes : List Envelope) (command : QueuePromoteCommand) :
    Except StoreError (QueuedEntry × RunId × Option BranchId) := do
  let entry ← fencedEntry envelopes command.revision command.id
  let active := (latestRunStates envelopes).filter fun state =>
    state.1 ≠ entry.runId && !state.2.state.isTerminal && !inactive state.2.state
  match newestRun active with
  | none => throw ⟨.runNotActive, "queue promotion requires an active turn", false⟩
  | some (activeRunId, head) =>
    ensure (command.expectedActiveRunId.all (· = activeRunId))
      ⟨.runNotActive, "active turn changed before queue promotion committed", true⟩
    return (entry, activeRunId, head.branchId)

/-- The message a promoted entry is delivered as: a user's loses its attachments. -/
def promotedPayload (entry : QueuedEntry) : Payload :=
  match entry.peerMessage with
  | some message => .peerMessage message
  | none => .userMessage entry.row.text [] .steer

/-- `queue_promote_steer`: the waiting text is delivered to the live run. -/
def Store.queuePromoteSteer (store : Store) (now : Nat) (command : QueuePromoteCommand) :
    Except StoreError Store := do
  let (entry, activeRunId, activeBranchId) ← queuePromoteTarget store.journal.envelopes command
  store.append now
    [cancellingDraft command.cancellingEventId entry,
      draft command.deliveryEventId activeBranchId activeRunId (promotedPayload entry) false,
      deltaDraft command.deltaEventId entry (.promotedSteer command.id)]

/-- `QueueConsumeCommand`. -/
structure QueueConsumeCommand where
  runId : RunId
  deltaEventId : EventId
  deriving DecidableEq, Repr

/-- `queue_consume`: nothing happens when the run is not in the queue. -/
def Store.queueConsume (store : Store) (now : Nat) (command : QueueConsumeCommand) :
    Except StoreError Store := do
  let (_, entries) ← queueEntries store.journal.envelopes
  match entries.find? (·.runId = command.runId) with
  | none => return store
  | some entry => store.append now [deltaDraft command.deltaEventId entry (.consumed entry.row.id)]

end Queue

section Cancel

/-- `TurnCancelCommand`. -/
structure TurnCancelCommand where
  identity : CommandIdentity
  workerGeneration : Nat
  runId : RunId
  cancellingEventId : EventId
  deriving DecidableEq, Repr

variable (store : Store)

/-- `cancellation_intent_in_transaction`: no envelope for a run that is over or cancelling. -/
def Store.cancellationIntent (now : Nat) (command : TurnCancelCommand) (head : DurableRunHead) :
    Except StoreError Store :=
  if head.state.isTerminal || head.state = .cancelling then .ok store
  else
    store.append now
      [draft command.cancellingEventId head.branchId command.runId (.runState .cancelling none)
        true]

/-- `cancel_turn`: the fence stands before the receipt. -/
def Store.cancelTurn (now : Nat) (command : TurnCancelCommand) : Except StoreError Store := do
  validateCommandIdentity command.identity
  ensure (command.workerGeneration = store.workerGeneration)
    (staleGeneration command.workerGeneration store.workerGeneration)
  let replayed ← lookupReceipt store .turnCancel command.identity
  if replayed then return store
  else
    match latestRunState store.journal.envelopes command.runId with
    | none => throw ⟨.runNotActive, s!"run {command.runId} does not exist in session", false⟩
    | some head =>
      let cancelled ← store.cancellationIntent now command head
      let terminalSeq := if head.state.isTerminal then some head.seq else none
      return cancelled.finalizeReceipt .turnCancel command.identity command.runId terminalSeq

/-- `TurnRetractCommand`. -/
structure TurnRetractCommand where
  cancel : TurnCancelCommand
  retractedEventId : EventId
  deriving DecidableEq, Repr

/-- `retraction_run_envelopes`: what a run committed since its first accepted message. -/
def retractionRunEnvelopes (runId : RunId) : List Envelope :=
  let accepted := (store.receipts.filter fun receipt =>
    receipt.method = .turnSubmit && receipt.runId = runId).filterMap (·.acceptedSeq)
  let firstSeq := accepted.min?.getD 0
  store.journal.envelopes.filter fun e => firstSeq ≤ e.seq && e.runId = some runId

/-- `response_has_started`. -/
def responseHasStarted (envelope : Envelope) : Bool :=
  match envelope.payload with
  | .responseStarted _ => true
  | .item (.delta _ (.text _)) | .item (.delta _ (.reasoning _))
  | .item (.delta _ (.toolArgs _)) => true
  | _ => false

/-- Whether an envelope retracts a prompt. -/
def isRetraction (envelope : Envelope) : Bool :=
  match envelope.payload with
  | .promptRetracted _ => true
  | _ => false

/-- The prompt of a run's envelopes: its first user message. -/
def acceptedPrompt (envelopes : List Envelope) :
    Option (Envelope × String × List AttachmentBlock) :=
  envelopes.findSome? fun e =>
    match e.payload with
    | .userMessage text attachments _ => some (e, text, attachments)
    | _ => none

/-- The retraction of a prompt, with the text it gives back. -/
def retractionDraft (command : TurnRetractCommand) (prompt : Envelope) (text : String)
    (attachments : List AttachmentBlock) : Draft :=
  { draft command.retractedEventId prompt.branchId command.cancel.runId
      (.promptRetracted ⟨prompt.seq, "node-" ++ prompt.eventId, text, attachments⟩) true with
    agentId := prompt.agentId }

/-- `prompt_turn_acceptance`, and the check that it names this prompt. -/
def checkAcceptance (runId : RunId) (promptSeq : Nat) : Except StoreError Unit :=
  match store.receipts.find? fun receipt =>
      receipt.method = .turnSubmit && receipt.acceptedSeq = some promptSeq with
  | none => .error (corrupt "retract target has no durable acceptance receipt")
  | some receipt =>
    ensure (receipt.runId = runId) (corrupt "retract target disagrees with its acceptance receipt")

/-- `retract_turn`: the receipt stands before the fence. -/
def Store.retractTurn (now : Nat) (command : TurnRetractCommand) : Except StoreError Store := do
  let cancel := command.cancel
  validateCommandIdentity cancel.identity
  let replayed ← lookupReceipt store .turnRetract cancel.identity
  if replayed then return store
  else
    ensure (cancel.workerGeneration = store.workerGeneration)
      (staleGeneration cancel.workerGeneration store.workerGeneration)
    match latestRunState store.journal.envelopes cancel.runId with
    | none => throw ⟨.runNotActive, "run has no accepted turn", false⟩
    | some head =>
      ensure (!head.state.isTerminal) ⟨.runNotActive, "run is already terminal", false⟩
      let events := retractionRunEnvelopes store cancel.runId
      ensure (!events.any responseHasStarted)
        ⟨.tooLate,
          "the accepted turn has already produced a response; cancel it instead", false⟩
      ensure (!events.any isRetraction) ⟨.runNotActive, "prompt is already retracted", false⟩
      match acceptedPrompt events with
      | none => throw ⟨.runNotActive, "run has no accepted user prompt", false⟩
      | some (prompt, text, attachments) =>
        checkAcceptance store cancel.runId prompt.seq
        let cancelled ← store.cancellationIntent now cancel head
        let retracted ← cancelled.append now [retractionDraft command prompt text attachments]
        return retracted.finalizeReceipt .turnRetract cancel.identity cancel.runId
          (some (cancelled.journal.headSeq + 1))

end Cancel

section Steps

/-- The payloads only a command commits: messages, queue deltas and retractions. -/
def Payload.commandOwned : Payload → Bool
  | .userMessage .. | .peerMessage _ | .queueChanged _ | .promptRetracted _ => true
  | _ => false

/-- An envelope a worker appends. -/
structure WorkerDraft extends Draft where
  owned : payload.commandOwned = false

/-- The committed operations on one session. -/
inductive Action where
  | accept (now : Nat) (command : TurnAcceptCommand)
  | acceptPeer (now : Nat) (command : TurnAcceptCommand) (message : PeerMessage)
  | queueRemove (now : Nat) (command : QueueRemoveCommand)
  | queuePromoteSteer (now : Nat) (command : QueuePromoteCommand)
  | queueConsume (now : Nat) (command : QueueConsumeCommand)
  | cancelTurn (now : Nat) (command : TurnCancelCommand)
  | retractTurn (now : Nat) (command : TurnRetractCommand)
  | worker (now : Nat) (batch : List WorkerDraft)
  /-- The profile is opened with the next worker generation. What a starting daemon appends before
  it serves turns (effect reconciliation, turn recovery) is not part of it. -/
  | reopen

/-- One operation on the store. -/
def Store.perform (store : Store) : Action → Except StoreError Store
  | .accept now command => store.acceptTurn now command none
  | .acceptPeer now command message => store.acceptTurn now command (some message)
  | .queueRemove now command => store.queueRemove now command
  | .queuePromoteSteer now command => store.queuePromoteSteer now command
  | .queueConsume now command => store.queueConsume now command
  | .cancelTurn now command => store.cancelTurn now command
  | .retractTurn now command => store.retractTurn now command
  | .worker now batch => store.workerAppend now (batch.map (·.toDraft))
  | .reopen => .ok { store with workerGeneration := store.workerGeneration + 1 }

/-- The committed operations as a machine. -/
def Store.step (store : Store) (action : Action) : Option Store := (store.perform action).toOption

end Steps

end HaiderAgent.Turns
