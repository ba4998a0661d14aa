import Mathlib.Data.List.Forall2
import HaiderAgent.Lib.EntryMap
import HaiderAgent.Lib.ExceptFold
import HaiderAgent.Lib.KeyedFold
import HaiderAgent.Lib.Log
import HaiderAgent.Protocol.Envelope

/-!
# Forking a session

`fork_session_transaction` (`haider-store/src/event_store.rs`): the cut is checked, the envelopes of a
branch lineage up to it, without checkpoints and provider operations, are copied into a new session
under new event ids and consecutive seqs, and runs whose terminal state lies behind the cut are
closed as cancelled. It is written for any payload type with a view of what the fork looks at.
Hashes, the iteration order of run states and the checks of a prompt's cut are parameters; receipts,
metadata and size limits are left out.
-/

namespace HaiderAgent.Fork

open List ExceptFold

/-- `RawEnvelope` (`envelope.rs`) with the payloads of `P`. -/
structure Envelope (P : Type) where
  eventId : EventId
  seq : Nat
  sessionId : SessionId
  branchId : Option BranchId
  runId : Option RunId
  agentId : Option AgentId
  deviceId : DeviceId
  authorityEpoch : Nat
  workerGeneration : Nat
  causationId : Option EventId
  correlationId : Option EventId
  committedAtMs : Nat
  render : RenderTargets
  payload : P
  deriving DecidableEq, Repr

/-- An envelope at another position. -/
def Envelope.numbered {P : Type} (seq : Nat) (envelope : Envelope P) : Envelope P :=
  { envelope with seq := seq }

/-- `BranchDescriptor` (branch.rs). -/
structure BranchDescriptor where
  branchId : BranchId
  sourceBranchId : Option BranchId
  forkNodeId : NodeId
  forkSeq : Nat
  headNodeId : NodeId
  headSeq : Nat
  deriving DecidableEq, Repr

/-- The codes a fork is refused with. -/
inductive ForkErrorCode where
  | invalidArgument | storeCorrupt | storeError
  deriving DecidableEq, Repr

/-- A refusal with its text. -/
structure ForkError where
  code : ForkErrorCode
  message : String
  deriving DecidableEq, Repr

/-- A store whose rows contradict each other. -/
def corrupt (message : String) : ForkError := ⟨.storeCorrupt, message⟩

/-- A removal of an accepted metafork proposal. -/
structure Removal where
  fromSeq : Nat
  throughSeq : Nat
  reason : String
  deriving DecidableEq, Repr

/-- `SessionHistoryOmission` (`session_fork.rs`). -/
structure Omission where
  sourceSeq : Nat
  childSeq : Nat
  sourceEventId : EventId
  childEventId : EventId
  payloadKind : String
  reason : String
  deriving DecidableEq, Repr

/-- `SessionForked` (`session_fork.rs`), without the proposal's texts and the cache segment. -/
structure SessionForked where
  sourceSessionId : SessionId
  sourceBranchId : Option BranchId
  forkedFrom : Option Nat
  forkNodeId : NodeId
  forkSeq : Nat
  metafork : Bool
  omissions : List Omission
  deriving DecidableEq, Repr

/-- What the fork reads and writes of a payload. -/
structure PayloadView (P : Type) where
  /-- `payload_kind`. -/
  kind : P → String
  /-- `payload.get("prompt_seq").as_u64()`. -/
  promptSeq : P → Option Nat
  /-- `insert("prompt_seq", ..)`. -/
  withPromptSeq : Nat → P → P
  /-- The node of a payload that decodes as `NodeCommitted`. -/
  node : P → Option TreeNode
  /-- The prompt node of a payload that decodes as `PromptRetractedV1`. -/
  retractedNode : P → Option NodeId
  /-- The state of a payload that decodes as `RunState`. -/
  runState : P → Option RunState
  /-- Whether the payload decodes as `HeadlessRunConfigured`. -/
  headlessConfigured : P → Bool
  /-- `RunState::Cancelled`, of a headless run with its `terminal_kind`. -/
  cancelled : Bool → P
  /-- `SessionState::Idle`. -/
  idle : P
  forked : SessionForked → P

/-- A run in one agent lane. -/
abbrev Lane := RunId × Option AgentId

/-- The hashes behind new event ids, the order the run states are iterated in, and what
`resolve_prompt_fork_cut` and `validate_prompt_fork_tool_pairs` say of a prompt's seq: they read
receipts and texts. -/
structure Surroundings where
  validatePromptCut : Nat → Except ForkError Unit
  remappedForkEventId : SessionId → EventId → EventId
  forkRunBoundaryEventId : SessionId → RunId → Option AgentId → EventId
  forkBoundaryEventId : SessionId → String → EventId
  laneOrder : List Lane → List Lane
  laneOrder_perm : ∀ lanes, (laneOrder lanes).Perm lanes

/-- `SessionForkTransactionCommand` with its cut resolved: `forkedFrom` is the seq of a prompt, which
is cut two seqs before it, and `none` for an exact cut. -/
structure ForkCommand where
  sourceSessionId : SessionId
  sessionId : SessionId
  workerGeneration : Nat
  sourceBranchId : Option BranchId
  forkNodeId : NodeId
  forkSeq : Nat
  forkedFrom : Option Nat
  /-- The removals of a metafork. -/
  removals : Option (List Removal)
  auditEventId : EventId
  deviceId : DeviceId
  deriving DecidableEq, Repr

/-! ## The lineage -/

/-- The loop of `branch_lineage_descriptors`; it takes at most one turn per branch. -/
def lineageFrom (branches : List BranchDescriptor) :
    Nat → List BranchId → BranchId → Except ForkError (List BranchDescriptor)
  | 0, _, current => .error (corrupt ("branch registry contains a lineage cycle at " ++ current))
  | fuel + 1, seen, current =>
    if current ∈ seen then
      .error (corrupt ("branch registry contains a lineage cycle at " ++ current))
    else
      match branches.find? (·.branchId == current) with
      | none => .error ⟨.invalidArgument, "branch " ++ current ++ " does not exist in session"⟩
      | some descriptor =>
        match descriptor.sourceBranchId with
        | none => .ok [descriptor]
        | some source =>
          (lineageFrom branches fuel (current :: seen) source).map (descriptor :: ·)

/-- `branch_lineage_descriptors`, the branch first. -/
def branchLineageDescriptors (branches : List BranchDescriptor) :
    Option BranchId → Except ForkError (List BranchDescriptor)
  | none => .ok []
  | some branchId => lineageFrom branches (branches.length + 1) [] branchId

/-- The loop of `branch_lineage_scopes`: a branch's seqs end where the next was forked off. -/
def scopesBelow : Nat → List BranchDescriptor → List (Option BranchId × Nat)
  | ceiling, [] => [(none, ceiling)]
  | ceiling, descriptor :: rest =>
    (some descriptor.branchId, ceiling) :: scopesBelow (min ceiling descriptor.forkSeq) rest

/-- `branch_lineage_scopes`: each ancestor up to where the next one forked. -/
def branchLineageScopes (branches : List BranchDescriptor) (branchId : Option BranchId) :
    Except ForkError (List (Option BranchId × Nat)) :=
  (branchLineageDescriptors branches branchId).map (scopesBelow u64Max)

/-- Whether the scopes admit a seq of a branch. -/
def inScope (scopes : List (Option BranchId × Nat)) (branchId : Option BranchId) (seq : Nat) :
    Bool :=
  (scopes.find? (·.1 == branchId)).any fun scope => seq ≤ scope.2

section Fork

variable {P : Type} (view : PayloadView P) (around : Surroundings)

/-! ## The cut -/

/-- A history node with the coordinates of its row. -/
structure AdmittedNode where
  node : TreeNode
  seq : Nat
  runId : Option RunId

/-- One row of the scan in `validate_branch_fork`. -/
def admitNode (nodes : HashMap NodeId AdmittedNode) (envelope : Envelope P) :
    Except ForkError (HashMap NodeId AdmittedNode) :=
  match view.node envelope.payload with
  | none => .ok nodes
  | some node =>
    if (nodes.lookup node.node).isSome then
      .error (corrupt ("branch lineage contains duplicate node " ++ node.node))
    else .ok (nodes.insert node.node ⟨node, envelope.seq, envelope.runId⟩)

/-- The node a lineage ends at; rows are in the order of their seqs. -/
def lineageHead (branches : List BranchDescriptor) (nodes : HashMap NodeId AdmittedNode)
    (admitted : List (Envelope P)) : Option BranchId → Except ForkError NodeId
  | none =>
    let main := admitted.filterMap fun envelope =>
      if envelope.branchId.isNone then view.node envelope.payload else none
    match main.getLast? with
    | some node => .ok node.node
    | none => .error ⟨.invalidArgument, "legacy/main branch has no history node to fork"⟩
  | some branchId =>
    match branches.find? (·.branchId == branchId) with
    | none => .error ⟨.invalidArgument, "source branch does not exist"⟩
    | some descriptor =>
      match nodes.lookup descriptor.headNodeId with
      | none => .error (corrupt ("branch " ++ branchId ++ " head node " ++ descriptor.headNodeId ++
          " is outside its declared lineage"))
      | some head =>
        if head.seq = descriptor.headSeq then .ok descriptor.headNodeId
        else .error (corrupt ("branch " ++ branchId ++ " head node/sequence disagree"))

/-- The walk from the head to the cut; it takes at most one turn per node. -/
def onAncestry (nodes : HashMap NodeId AdmittedNode) (forkNodeId : NodeId) (forkSeq : Nat) :
    Nat → List NodeId → NodeId → Except ForkError Bool
  | 0, _, current => .error (corrupt ("history tree contains a cycle at " ++ current))
  | fuel + 1, seen, current =>
    if current ∈ seen then .error (corrupt ("history tree contains a cycle at " ++ current))
    else
      match nodes.lookup current with
      | none => .error (corrupt ("history tree references missing lineage node " ++ current))
      | some entry =>
        if entry.node.node = forkNodeId ∧ entry.seq = forkSeq then .ok true
        else
          match entry.node.parent with
          | none => .ok false
          | some parent => onAncestry nodes forkNodeId forkSeq fuel (current :: seen) parent

/-- A compaction the user asked for between turns. -/
def TreeNode.idleCompaction (node : TreeNode) : Bool :=
  match node.kind with
  | .compaction _ _ _ _ _ manualIdle => manualIdle
  | _ => false

/-- `retracted_prompt_for_run`, and the refusal of a cut at the prompt it names. -/
def refuseRetracted (forkNodeId : NodeId) (forkSeq : Nat) (source : List (Envelope P)) :
    Except ForkError Unit :=
  let cutRun := (source.find? (·.seq == forkSeq)).bind (·.runId)
  let facts := source.filter fun envelope =>
    view.kind envelope.payload == "prompt_retracted" && envelope.runId == cutRun
  match cutRun, facts.getLast? with
  | some _, some fact =>
    match view.retractedNode fact.payload with
    | none => .error (corrupt "invalid durable prompt retraction")
    | some node => ensure (node != forkNodeId)
        ⟨.invalidArgument, "a retracted prompt cannot be selected as a fork boundary"⟩
  | _, _ => .ok ()

/-- `load_fork_source_envelopes`: the lineage up to the cut. -/
def loadForkSourceEnvelopes (scopes : List (Option BranchId × Nat)) (forkSeq : Nat)
    (source : List (Envelope P)) : List (Envelope P) :=
  source.filter fun envelope =>
    decide (envelope.seq ≤ forkSeq) && inScope scopes envelope.branchId envelope.seq

/-- The runs that a `provider_operation_reserved` fact reserves. -/
def providerOperationRuns (envelopes : List (Envelope P)) : List RunId :=
  (envelopes.filter fun envelope => view.kind envelope.payload == "provider_operation_reserved").filterMap
    (·.runId)

/-- What the fork copies: the lineage up to the cut, but checkpoints and provider operations. -/
def forkSelection (scopes : List (Option BranchId × Nat)) (forkSeq : Nat)
    (source : List (Envelope P)) : List (Envelope P) :=
  let loaded := loadForkSourceEnvelopes scopes forkSeq source
  loaded.filter fun envelope =>
    view.kind envelope.payload != "checkpoint_recorded" &&
      envelope.runId.all fun runId => !(providerOperationRuns view loaded).contains runId

/-! ## The copies -/

/-- `event_ids.get`: the new id of a copied envelope. -/
def mappedEventId (sessionId : SessionId) (selected : List (Envelope P)) (eventId : EventId) :
    Option EventId :=
  if selected.any (·.eventId == eventId) then some (around.remappedForkEventId sessionId eventId)
  else none

/-- `child_seqs.get`: the new seq of a copied envelope. -/
def childSeqOf (selected : List (Envelope P)) (seq : Nat) : Option Nat :=
  Log.rank (·.seq) selected seq

/-- The retraction facts, whose prompt cursor is mapped. -/
def retractionKind (kind : String) : Bool :=
  kind == "prompt_retracted" || kind == "response_delta_discarded"

/-- A copied payload, its prompt cursor moved to the child's numbering. -/
def copyPayload (selected : List (Envelope P)) (payload : P) : Except ForkError P :=
  if retractionKind (view.kind payload) then
    match view.promptSeq payload with
    | none => .error (corrupt "fork retraction fact has no prompt cursor")
    | some promptSeq =>
      match childSeqOf selected promptSeq with
      | none => .error (corrupt "fork retraction target is outside the copied prefix")
      | some childSeq => .ok (view.withPromptSeq childSeq payload)
  else .ok payload

/-- The lane of a copy: the source's owner becomes the root lane. -/
def copyLane (owner agentId : Option AgentId) : Option AgentId :=
  if agentId = owner then none else agentId

/-- The first removal that covers a prompt-visible envelope of the root lane. -/
def removalOf (removals : List Removal) (owner : Option AgentId) (source : Envelope P) :
    Option Nat :=
  if source.render.promptOmit || (copyLane owner source.agentId).isSome then none
  else
    removals.findIdx? fun removal =>
      decide (removal.fromSeq ≤ source.seq) && decide (source.seq ≤ removal.throughSeq)

variable (command : ForkCommand) (owner : Option AgentId)

/-- One copied row. -/
def copyEnvelope (selected : List (Envelope P)) (childSeq : Nat) (source : Envelope P) :
    Except ForkError (Envelope P) := do
  let payload ← copyPayload view selected source.payload
  return {
    eventId := around.remappedForkEventId command.sessionId source.eventId
    seq := childSeq
    sessionId := command.sessionId
    branchId := none
    runId := source.runId
    agentId := copyLane owner source.agentId
    deviceId := command.deviceId
    authorityEpoch := 0
    workerGeneration := command.workerGeneration
    causationId := source.causationId.bind (mappedEventId around command.sessionId selected)
    correlationId := source.correlationId.bind (mappedEventId around command.sessionId selected)
    committedAtMs := source.committedAtMs
    render := if (removalOf (command.removals.getD []) owner source).isSome then
        { source.render with promptOmit := true } else source.render
    payload := payload }

/-- The copies of a list, numbered from `first`. -/
def copyFrom (command : ForkCommand) (owner : Option AgentId) (selected : List (Envelope P)) :
    Nat → List (Envelope P) → Except ForkError (List (Envelope P))
  | _, [] => .ok []
  | first, source :: rest => do
    let child ← copyEnvelope view around command owner selected first source
    let later ← copyFrom command owner selected (first + 1) rest
    return child :: later

/-- What a metafork left out, with the cursors on both sides. -/
def omissions (selected : List (Envelope P)) : List Omission :=
  let removals := command.removals.getD []
  (selected.zipIdx 1).filterMap fun (source, childSeq) =>
    (removalOf removals owner source).bind fun index => removals[index]?.map fun removal =>
      { sourceSeq := source.seq, childSeq := childSeq, sourceEventId := source.eventId
        childEventId := around.remappedForkEventId command.sessionId source.eventId
        payloadKind := view.kind source.payload, reason := removal.reason }

/-- Every removal of the proposal removes something. -/
def removalsMatched (selected : List (Envelope P)) : Bool :=
  (range (command.removals.getD []).length).all fun index =>
    selected.any fun source => removalOf (command.removals.getD []) owner source == some index

/-! ## The boundary -/

/-- The last run state of every lane, in the order the lanes appear. -/
def laneStates (envelopes : List (Envelope P)) : HashMap Lane RunState :=
  envelopes.foldl
    (fun states envelope =>
      match envelope.runId, view.runState envelope.payload with
      | some runId, some state => states.insert (runId, envelope.agentId) state
      | _, _ => states)
    ∅

/-- The lanes whose last state is not terminal. -/
def unfinishedLanes (envelopes : List (Envelope P)) : List Lane :=
  ((laneStates view envelopes).entries.filter fun entry => !entry.2.isTerminal).map (·.1)

/-- Whether a run is configured as headless in the copied prefix. -/
def headlessRun (envelopes : List (Envelope P)) (runId : RunId) : Bool :=
  envelopes.any fun envelope =>
    envelope.runId == some runId && view.headlessConfigured envelope.payload

/-- An envelope the fork adds behind the copies, not yet numbered. -/
def boundaryEnvelope (now : Nat) (eventId : EventId) (lane : Option Lane) (payload : P) :
    Envelope P where
  eventId := eventId
  seq := 0
  sessionId := command.sessionId
  branchId := none
  runId := lane.map (·.1)
  agentId := lane.bind (·.2)
  deviceId := command.deviceId
  authorityEpoch := 0
  workerGeneration := command.workerGeneration
  causationId := none
  correlationId := none
  committedAtMs := now
  render := { durable := true, promptOmit := true }
  payload := payload

/-- Every unfinished lane cancelled (`append_fork_boundary_closures`). -/
def laneClosures (now : Nat) (copies : List (Envelope P)) : List (Envelope P) :=
  (around.laneOrder (unfinishedLanes view copies)).map fun lane =>
    boundaryEnvelope command now
      (around.forkRunBoundaryEventId command.sessionId lane.1 lane.2) (some lane)
      (view.cancelled (headlessRun view copies lane.1))

/-- What ends the batch: the lanes closed, the session idle, the fork recorded. -/
def boundary (now : Nat) (audit : SessionForked) (copies : List (Envelope P)) : List (Envelope P) :=
  laneClosures view around command now copies ++
  [boundaryEnvelope command now (around.forkBoundaryEventId command.sessionId "session-idle") none
      view.idle,
    boundaryEnvelope command now command.auditEventId none (view.forked audit)]

/-- The `session_forked` fact that closes the copy. -/
def auditRecord (selected : List (Envelope P)) : SessionForked where
  sourceSessionId := command.sourceSessionId
  sourceBranchId := command.sourceBranchId
  forkedFrom := command.forkedFrom
  forkNodeId := command.forkNodeId
  forkSeq := command.forkSeq
  metafork := command.removals.isSome
  omissions := omissions view around command owner selected

/-- The child's rows: the copies, then what the fork itself adds. -/
def forkEnvelopes (now : Nat) (selected : List (Envelope P)) :
    Except ForkError (List (Envelope P)) := do
  let copies ← copyFrom view around command owner selected 1 selected
  ensure (removalsMatched command owner selected)
    ⟨.invalidArgument, "metafork proposal contains a range outside the copied source lineage"⟩
  let audit := auditRecord view around command owner selected
  return copies ++
    Log.number Envelope.numbered (copies.length + 1)
      (boundary view around command now audit copies)

/-- `validate_branch_fork`: an exact cut is a node on the ancestry of the lineage's head, of a
terminal turn or an idle compaction. -/
def validateBranchFork (branches : List BranchDescriptor) (command : ForkCommand)
    (owner : Option AgentId) (source : List (Envelope P)) : Except ForkError Unit := do
  let scopes ← branchLineageScopes branches command.sourceBranchId
  let admitted := source.filter fun envelope =>
    envelope.agentId == owner && inScope scopes envelope.branchId envelope.seq
  let nodes ← admitted.foldlM (admitNode view) ∅
  match (nodes.lookup command.forkNodeId).filter (·.seq == command.forkSeq) with
  | none => .error ⟨.invalidArgument,
      "fork node and sequence do not name one admitted source-lineage node"⟩
  | some candidate =>
    let head ← lineageHead view branches nodes admitted command.sourceBranchId
    let reached ← onAncestry nodes command.forkNodeId command.forkSeq (nodes.entries.length + 1) []
      head
    ensure reached
      ⟨.invalidArgument, "fork coordinate is not on the source branch's declared ancestry"⟩
    let turn := candidate.runId.bind fun runId => (laneStates view admitted).lookup (runId, owner)
    ensure (TreeNode.idleCompaction candidate.node || turn.any RunState.isTerminal)
      ⟨.invalidArgument, "branches may fork only from terminal turns or idle compaction nodes"⟩

/-- The cut of the command, exact or before a prompt. -/
def validateCut (branches : List BranchDescriptor) (command : ForkCommand)
    (owner : Option AgentId) (source : List (Envelope P)) : Except ForkError Unit :=
  match command.forkedFrom with
  | none => validateBranchFork view branches command owner source
  | some promptSeq => around.validatePromptCut promptSeq

/-- `fork_session_transaction`; `taken` are the store's event ids. -/
def forkSession (branches : List BranchDescriptor) (taken : List EventId) (command : ForkCommand)
    (owner : Option AgentId) (now : Nat) (source : List (Envelope P)) :
    Except ForkError (List (Envelope P)) := do
  validateCut view around branches command owner source
  refuseRetracted view command.forkNodeId command.forkSeq source
  let scopes ← branchLineageScopes branches command.sourceBranchId
  let selected := forkSelection view scopes command.forkSeq source
  ensure (selected.head?.any (·.seq == 1))
    (corrupt "fork source lineage does not contain its created envelope")
  let child ← forkEnvelopes view around command owner now selected
  ensure (decide ((child.map (·.eventId)).Nodup ∧ ∀ id ∈ child.map (·.eventId), id ∉ taken))
    ⟨.storeError, "UNIQUE constraint failed: events.event_id"⟩
  return child

/-! ## What a fork is made of -/

variable {view around} {command : ForkCommand} {owner : Option AgentId}
  {selected copies child : List (Envelope P)} {first : Nat} {sources : List (Envelope P)}

theorem copyFrom_getElem
    (copied : copyFrom view around command owner selected first sources = .ok copies) :
    copies.length = sources.length ∧ ∀ index source, sources[index]? = some source →
      ∃ copy, copies[index]? = some copy ∧
        copyEnvelope view around command owner selected (first + index) source = .ok copy := by
  induction sources generalizing first copies with
  | nil =>
    cases copied
    exact ⟨rfl, fun _ _ none => by simp at none⟩
  | cons source rest ih =>
    obtain ⟨here, copiedHere, copied⟩ := bind_eq_ok.mp copied
    obtain ⟨later, copiedLater, copied⟩ := bind_eq_ok.mp copied
    cases copied
    obtain ⟨length, each⟩ := ih copiedLater
    refine ⟨congrArg (· + 1) length, fun index other found => ?_⟩
    cases index with
    | zero =>
      cases found
      exact ⟨here, rfl, copiedHere⟩
    | succ index =>
      obtain ⟨copy, there, same⟩ := each index other found
      rw [show first + 1 + index = first + (index + 1) by omega] at same
      exact ⟨copy, there, same⟩

theorem copyPayload_ok {payload copy : P} (copied : copyPayload view selected payload = .ok copy) :
    copy = payload ∨ ∃ childSeq, copy = view.withPromptSeq childSeq payload := by
  unfold copyPayload at copied
  split at copied
  · split at copied
    · cases copied
    · split at copied
      · cases copied
      · cases copied
        exact .inr ⟨_, rfl⟩
  · cases copied
    exact .inl rfl

theorem copyEnvelope_ok {childSeq : Nat} {source copy : Envelope P}
    (copied : copyEnvelope view around command owner selected childSeq source = .ok copy) :
    copyPayload view selected source.payload = .ok copy.payload ∧
      copy.eventId = around.remappedForkEventId command.sessionId source.eventId ∧
      copy.seq = childSeq ∧ copy.branchId = none ∧ copy.runId = source.runId ∧
      copy.agentId = copyLane owner source.agentId ∧
      copy.causationId =
        source.causationId.bind (mappedEventId around command.sessionId selected) ∧
      copy.correlationId =
        source.correlationId.bind (mappedEventId around command.sessionId selected) := by
  obtain ⟨payload, same, copied⟩ := bind_eq_ok.mp copied
  cases copied
  exact ⟨same, rfl, rfl, rfl, rfl, rfl, rfl, rfl⟩

theorem copyFrom_forall₂
    (copied : copyFrom view around command owner selected first sources = .ok copies) :
    List.Forall₂ (fun copy source => ∃ childSeq,
      copyEnvelope view around command owner selected childSeq source = .ok copy) copies sources := by
  induction sources generalizing first copies with
  | nil =>
    cases copied
    exact .nil
  | cons source rest ih =>
    obtain ⟨here, copiedHere, copied⟩ := bind_eq_ok.mp copied
    obtain ⟨later, copiedLater, copied⟩ := bind_eq_ok.mp copied
    cases copied
    exact .cons ⟨first, copiedHere⟩ (ih copiedLater)

theorem copyFrom_seqs
    (copied : copyFrom view around command owner selected first sources = .ok copies) :
    copies.map (·.seq) = range' first copies.length := by
  obtain ⟨length, each⟩ := copyFrom_getElem copied
  refine ext_getElem (by simp) fun index inside _ => ?_
  rw [length_map] at inside
  obtain ⟨source, found⟩ : ∃ source, sources[index]? = some source :=
    ⟨_, getElem?_eq_getElem (length ▸ inside)⟩
  obtain ⟨copy, here, same⟩ := each index source found
  obtain ⟨_, rfl⟩ := List.getElem?_eq_some_iff.mp here
  simp [(copyEnvelope_ok same).2.2.1]

/-- The state a row gives a lane. -/
def laneState (view : PayloadView P) (lane : Lane) (envelope : Envelope P) : Option RunState :=
  if envelope.runId.map (·, envelope.agentId) = some lane then view.runState envelope.payload
  else none

/-- A lane's state is the last one its rows give. -/
theorem lookup_laneStates (envelopes : List (Envelope P)) (lane : Lane) :
    (laneStates view envelopes).lookup lane =
      (envelopes.filterMap (laneState view lane)).getLast? := by
  have one (states : HashMap Lane RunState) (envelope : Envelope P) :
      (match envelope.runId, view.runState envelope.payload with
        | some runId, some state => states.insert (runId, envelope.agentId) state
        | _, _ => states).lookup lane =
      ((laneState view lane envelope).map some).getD (states.lookup lane) := by
    unfold laneState
    cases envelope.runId with
    | none => simp
    | some runId =>
      cases view.runState envelope.payload with
      | none => simp
      | some state =>
        by_cases here : (runId, envelope.agentId) = lane
        · subst here
          simp
        · simp [here, AList.lookup_insert_ne (Ne.symm here)]
  have last := KeyedFold.foldl_last_write (fun states : HashMap Lane RunState => states.lookup lane)
    one envelopes ∅
  rw [laneStates, last]
  cases (envelopes.filterMap (laneState view lane)).getLast? <;> rfl

theorem mem_unfinishedLanes {envelopes : List (Envelope P)} {lane : Lane} :
    lane ∈ unfinishedLanes view envelopes ↔
      ∃ state, (envelopes.filterMap (laneState view lane)).getLast? = some state ∧
        state.isTerminal = false := by
  rw [← lookup_laneStates]
  simp [unfinishedLanes, EntryMap.mem_entries_iff, and_comm]

/-- Two envelopes that give the same lane the same state. -/
structure SameLane (view : PayloadView P) (copy original : Envelope P) : Prop where
  runId : copy.runId = original.runId
  agentId : copy.agentId = original.agentId
  runState : view.runState copy.payload = view.runState original.payload

theorem unfinishedLanes_congr {originals : List (Envelope P)}
    (lanes : List.Forall₂ (SameLane view) copies originals) :
    unfinishedLanes view copies = unfinishedLanes view originals := by
  have states : laneStates view copies = laneStates view originals := by
    refine rel_foldl (P := Eq) ?_ rfl lanes
    rintro states _ rfl copy original same
    simp only [same.runId, same.agentId, same.runState]
  rw [unfinishedLanes, unfinishedLanes, states]

/-- An accepted fork: the copies and the boundary behind them, under distinct event ids. -/
structure Forked (view : PayloadView P) (around : Surroundings) (command : ForkCommand)
    (owner : Option AgentId) (now : Nat) (selected copies child : List (Envelope P)) : Prop where
  copied : copyFrom view around command owner selected 1 selected = .ok copies
  whole : child = copies ++ Log.number Envelope.numbered (copies.length + 1)
    (boundary view around command now (auditRecord view around command owner selected) copies)
  distinct : (child.map (·.eventId)).Nodup

/-- The part of a source journal that a fork copies; nothing where the lineage is broken. -/
def forkedPrefix (view : PayloadView P) (branches : List BranchDescriptor) (command : ForkCommand)
    (source : List (Envelope P)) : List (Envelope P) :=
  match branchLineageScopes branches command.sourceBranchId with
  | .ok scopes => forkSelection view scopes command.forkSeq source
  | .error _ => []

variable {branches : List BranchDescriptor} {taken : List EventId} {source : List (Envelope P)}

theorem forkSession_ok {now : Nat}
    (forked : forkSession view around branches taken command owner now source = .ok child) :
    ∃ copies, Forked view around command owner now (forkedPrefix view branches command source)
      copies child ∧ ∀ id ∈ child.map (·.eventId), id ∉ taken := by
  obtain ⟨_, _, forked⟩ := bind_eq_ok.mp forked
  obtain ⟨_, _, forked⟩ := bind_eq_ok.mp forked
  obtain ⟨scopes, lineage, forked⟩ := bind_eq_ok.mp forked
  replace forked := ok_of_ensure forked
  obtain ⟨built, envelopes, forked⟩ := bind_eq_ok.mp forked
  obtain ⟨distinct, forked⟩ := ensure_bind_eq_ok.mp forked
  cases forked
  obtain ⟨copies, copied, envelopes⟩ := bind_eq_ok.mp envelopes
  replace envelopes := ok_of_ensure envelopes
  cases envelopes
  refine ⟨copies, ?_⟩
  rw [forkedPrefix, lineage]
  obtain ⟨distinct, fresh⟩ := of_decide_eq_true distinct
  exact ⟨⟨copied, rfl, distinct⟩, fresh⟩

theorem forkedPrefix_subset
    {envelope : Envelope P} (mem : envelope ∈ forkedPrefix view branches command source) :
    envelope ∈ source := by
  unfold forkedPrefix at mem
  split at mem
  · exact mem_of_mem_filter (mem_of_mem_filter mem)
  · cases mem

theorem forkedPrefix_increasing (ordered : Log.Increasing (·.seq) source) :
    Log.Increasing (·.seq) (forkedPrefix view branches command source) := by
  unfold forkedPrefix
  split
  · exact (ordered.filter _).filter _
  · exact .nil

section Accepted

variable {now : Nat} (forked : Forked view around command owner now selected copies child)

include forked

theorem Forked.length : copies.length = selected.length := (copyFrom_getElem forked.copied).1

theorem Forked.copy_at {index : Nat} {source : Envelope P} (here : selected[index]? = some source) :
    ∃ copy, copies[index]? = some copy ∧ child[index]? = some copy ∧
      copyEnvelope view around command owner selected (index + 1) source = .ok copy := by
  obtain ⟨copy, found, same⟩ := (copyFrom_getElem forked.copied).2 index source here
  refine ⟨copy, found, ?_, Nat.add_comm 1 index ▸ same⟩
  rw [forked.whole]
  exact getElem?_append_left (List.getElem?_eq_some_iff.mp found).1 ▸ found

theorem Forked.seqs : child.map (·.seq) = range' 1 child.length := by
  have numbered (first : Nat) (batch : List (Envelope P)) :
      (Log.number Envelope.numbered first batch).map (·.seq) =
        range' first (Log.number Envelope.numbered first batch).length := by
    induction batch generalizing first with
    | nil => rfl
    | cons envelope rest ih =>
      rw [Log.number_cons, map_cons, length_cons, range'_succ, ih]
      rfl
  rw [forked.whole, map_append, copyFrom_seqs forked.copied, numbered, length_append,
    Nat.add_comm copies.length 1, range'_append_1]

theorem Forked.mapped {eventId mapped : EventId}
    (found : mappedEventId around command.sessionId selected eventId = some mapped) :
    ∃ copy ∈ child, copy.eventId = mapped := by
  unfold mappedEventId at found
  split at found
  · rename_i known
    cases found
    obtain ⟨source, mem, same⟩ := any_eq_true.mp known
    obtain ⟨index, here⟩ := mem_iff_getElem?.mp mem
    obtain ⟨copy, _, there, copied⟩ := forked.copy_at here
    refine ⟨copy, mem_iff_getElem?.mpr ⟨index, there⟩, ?_⟩
    rw [(copyEnvelope_ok copied).2.1, beq_iff_eq.mp same]
  · cases found

variable {envelope : Envelope P}

/-- A child's row is a copy, or one of the rows the fork adds. -/
theorem Forked.mem_cases (mem : envelope ∈ child) :
    (∃ index source, selected[index]? = some source ∧
      copyEnvelope view around command owner selected (index + 1) source = .ok envelope) ∨
    (∃ seq eventId lane payload, (payload = view.idle ∨ (∃ headless, payload = view.cancelled headless) ∨
        ∃ record, payload = view.forked record) ∧
      envelope = (boundaryEnvelope command now eventId lane payload).numbered seq) := by
  rw [forked.whole] at mem
  rcases mem_append.mp mem with copy | added
  · obtain ⟨index, there⟩ := mem_iff_getElem?.mp copy
    have inside : index < selected.length :=
      forked.length ▸ (List.getElem?_eq_some_iff.mp there).1
    obtain ⟨_, found, _, copied⟩ := forked.copy_at (getElem?_eq_getElem inside)
    rw [there, Option.some_inj] at found
    exact .inl ⟨index, _, getElem?_eq_getElem inside, found ▸ copied⟩
  · obtain ⟨seq, _, bare, bareMember, rfl⟩ := Log.exists_of_mem_number added
    refine .inr ⟨seq, ?_⟩
    rcases mem_append.mp bareMember with closure | last
    · obtain ⟨lane, _, rfl⟩ := mem_map.mp closure
      exact ⟨_, _, _, .inr (.inl ⟨_, rfl⟩), rfl⟩
    · simp only [mem_cons, not_mem_nil, or_false] at last
      rcases last with rfl | rfl
      · exact ⟨_, _, _, .inl rfl, rfl⟩
      · exact ⟨_, _, _, .inr (.inr ⟨_, rfl⟩), rfl⟩

theorem Forked.sessionId (mem : envelope ∈ child) :
    envelope.sessionId = command.sessionId := by
  rcases forked.mem_cases mem with ⟨_, _, _, copied⟩ | ⟨_, _, _, _, _, rfl⟩
  · obtain ⟨_, _, copied⟩ := bind_eq_ok.mp copied
    cases copied
    rfl
  · rfl

end Accepted

theorem forkSession_seqs {now : Nat}
    (forked : forkSession view around branches taken command owner now source = .ok child) :
    child.map (·.seq) = range' 1 child.length := by
  obtain ⟨copies, accepted, -⟩ := forkSession_ok forked
  exact accepted.seqs

end Fork

end HaiderAgent.Fork
