import HaiderAgent.Lib.Machine
import HaiderAgent.Lib.Saturation
import HaiderAgent.Protocol.InstructEvidence
import HaiderAgent.Protocol.WorkflowAst

/-!
# The workflow activation state

`WorkflowGraphState` of `haider-protocol/src/graph.rs`, moved by activations, completions and
rejections of its nodes. `apply` changes the state in place, so its model returns the state it
leaves behind together with its answer: an error found after a write leaves that write behind.
-/

namespace HaiderAgent

open ExceptFold (ensure)

/-- `WORKFLOW_NODE_REJECT_MESSAGE_MAX_BYTES` (graph.rs). -/
def workflowNodeRejectMessageMaxBytes : Nat := 1024

/-- The start event: it pins the activation graph and may seed it. -/
structure WorkflowGraphStarted where
  graphId : GraphId
  ast : WorkflowActivationAst
  astDigest : String
  seed : Option InstructEvidenceRef
  deriving DecidableEq, Repr

/-- The evidence an activation takes over one edge. -/
structure WorkflowNodeInput where
  edgeId : Nat
  evidence : InstructEvidenceRef
  deriving DecidableEq, Repr

/-- What woke a node: its initial join, or a back edge after a rejection. -/
inductive WorkflowActivationCause where
  | forwardJoin | backEdge
  deriving DecidableEq, Repr

/-- The event that activates a node at one iteration. -/
structure WorkflowNodeActivated where
  graphId : GraphId
  node : GraphNodeName
  iteration : Nat
  activationOrder : Nat
  cause : WorkflowActivationCause
  inputs : List WorkflowNodeInput
  inputLedgerDigest : String
  deriving DecidableEq, Repr

/-- The convergence gate's verdict, by digest. -/
structure WorkflowConvergenceStamp where
  decisionDigest : String
  deriving DecidableEq, Repr

/-- The event that completes an activated node with its outputs. -/
structure WorkflowNodeCompleted where
  graphId : GraphId
  node : GraphNodeName
  iteration : Nat
  outputs : List InstructEvidenceRef
  outputLedgerDigest : String
  convergence : Option WorkflowConvergenceStamp
  deriving DecidableEq, Repr

/-- Why a node was rejected. -/
inductive WorkflowNodeRejectCode where
  | evidenceRejected | typedInputMissing | iterationGuard | convergenceRejected | abandoned
  | superseded | invariantViolation
  deriving DecidableEq, Repr

/-- The event that rejects a node and with it the run. -/
structure WorkflowNodeRejected where
  graphId : GraphId
  node : GraphNodeName
  iteration : Nat
  code : WorkflowNodeRejectCode
  message : String
  evidence : Option InstructEvidenceRef
  convergenceGate : Bool
  deriving DecidableEq, Repr

/-- The phase of one node. -/
inductive WorkflowNodePhase where
  | waiting | activated | completed | rejected
  deriving DecidableEq, Repr

/-- `WorkflowNodeState`: the projection of one node. -/
structure WorkflowNodeState where
  node : GraphNodeName
  phase : WorkflowNodePhase
  iteration : Nat
  activationOrder : Option Nat
  inputs : List WorkflowNodeInput
  outputs : List InstructEvidenceRef
  convergence : Option WorkflowConvergenceStamp
  rejection : Option WorkflowNodeRejected
  updatedCursor : Nat
  deriving DecidableEq, Repr

/-- The phase of the whole run. -/
inductive WorkflowGraphPhase where
  | active | completed | rejected
  deriving DecidableEq, Repr

/-- One entry of the run's activation ledger. -/
structure WorkflowActivationCoordinate where
  activationOrder : Nat
  node : GraphNodeName
  iteration : Nat
  cursor : Nat
  deriving DecidableEq, Repr

/-- `WorkflowGraphState`: the state the reducer keeps for one run. -/
structure WorkflowGraphState where
  graphId : GraphId
  ast : WorkflowActivationAst
  astDigest : String
  seed : Option InstructEvidenceRef
  phase : WorkflowGraphPhase
  throughCursor : Nat
  nextActivationOrder : Nat
  backEdgeActivations : Nat
  nodes : List WorkflowNodeState
  activationOrder : List WorkflowActivationCoordinate
  deriving DecidableEq, Repr

/-- The four events the reducer reads. -/
inductive WorkflowGraphJournalEvent where
  | workflowGraphStarted (started : WorkflowGraphStarted)
  | workflowNodeActivated (activated : WorkflowNodeActivated)
  | workflowNodeCompleted (completed : WorkflowNodeCompleted)
  | workflowNodeRejected (rejected : WorkflowNodeRejected)
  deriving DecidableEq, Repr

/-- The digests the reducer compares with: of the AST, inputs, outputs and evidence rows. -/
structure WorkflowDigests where
  activationAst : WorkflowActivationAst → String
  inputLedger : List WorkflowNodeInput → String
  evidenceLedger : List InstructEvidenceRef → String
  instructEvidence : EvidenceDigest

/-- `invalid_workflow_event`. -/
def invalidWorkflowEvent (message : String) : WorkflowGraphReductionError := .invalidEvent message

/-- The edges a list of inputs came over. -/
def edgeIds (inputs : List WorkflowNodeInput) : List Nat := inputs.map (·.edgeId)

/-- The reject codes that seal a graph: nothing but more of the same rejection follows. -/
def WorkflowNodeRejectCode.seals : WorkflowNodeRejectCode → Bool
  | .abandoned | .superseded => true
  | _ => false

/-- `validate` of an evidence row, with its error under a label. -/
def WorkflowDigests.checkEvidence (digests : WorkflowDigests) (label : String)
    (evidence : InstructEvidenceRef) : Except WorkflowGraphReductionError Unit :=
  match evidence.validate digests.instructEvidence with
  | .ok () => .ok ()
  | .error failure => .error (invalidWorkflowEvent (label ++ failure.display))

/-- `checkEvidence` of a row that may be absent. -/
def WorkflowDigests.checkGiven (digests : WorkflowDigests) (label : String) :
    Option InstructEvidenceRef → Except WorkflowGraphReductionError Unit
  | none => .ok ()
  | some evidence => digests.checkEvidence label evidence

namespace WorkflowNodeState

/-- The writes of `apply_activation` to the activated node. -/
def activate (cursor : Nat) (activated : WorkflowNodeActivated) (node : WorkflowNodeState) :
    WorkflowNodeState :=
  { node with
    phase := .activated
    iteration := activated.iteration
    activationOrder := some activated.activationOrder
    inputs := activated.inputs
    outputs := []
    convergence := none
    rejection := none
    updatedCursor := cursor }

/-- The writes of `apply_completion` to the completed node. -/
def complete (cursor : Nat) (completed : WorkflowNodeCompleted) (node : WorkflowNodeState) :
    WorkflowNodeState :=
  { node with
    phase := .completed
    outputs := completed.outputs
    convergence := completed.convergence
    rejection := none
    updatedCursor := cursor }

/-- The writes of `apply_rejection` to the rejected node. -/
def reject (cursor : Nat) (rejected : WorkflowNodeRejected) (node : WorkflowNodeState) :
    WorkflowNodeState :=
  { node with
    phase := .rejected
    iteration := rejected.iteration
    outputs := []
    convergence := none
    rejection := some rejected
    updatedCursor := cursor }

/-- The writes of `reset_descendants` to one node. -/
def reset (cursor : Nat) (node : WorkflowNodeState) : WorkflowNodeState :=
  { node with
    phase := .waiting
    activationOrder := none
    inputs := []
    outputs := []
    convergence := none
    rejection := none
    updatedCursor := cursor }

end WorkflowNodeState

namespace WorkflowGraphState

variable (digests : WorkflowDigests)

variable (state : WorkflowGraphState) (cursor : Nat)

/-- `WorkflowGraphState::from_started`, at the cursor of the start event. -/
def fromStarted (started : WorkflowGraphStarted) :
    Except WorkflowGraphReductionError WorkflowGraphState := do
  ensure (cursor != 0 && !started.graphId.isEmpty)
    (.invalidEvent "workflow graph start has invalid journal coordinates")
  started.ast.validate
  digests.checkGiven "workflow graph seed is invalid: " started.seed
  ensure (started.seed.all fun seed =>
      seed.evidenceType == started.ast.inputType && seed.parents.isEmpty)
    (.invalidEvent "workflow graph seed type or root lineage differs from the AST input")
  ensure (started.astDigest == digests.activationAst started.ast)
    (.invalidEvent "workflow activation AST digest does not match")
  .ok
    { graphId := started.graphId
      ast := started.ast
      astDigest := started.astDigest
      seed := started.seed
      phase := .active
      throughCursor := cursor
      nextActivationOrder := 1
      backEdgeActivations := 0
      nodes := started.ast.nodes.map fun node =>
        { node := node.node
          phase := .waiting
          iteration := 0
          activationOrder := none
          inputs := []
          outputs := []
          convergence := none
          rejection := none
          updatedCursor := cursor }
      activationOrder := [] }

/-- `WorkflowGraphState::node`. -/
def node (state : WorkflowGraphState) (name : GraphNodeName) : Option WorkflowNodeState :=
  Rows.find (·.node) name state.nodes

/-- `terminal_nodes_completed`. -/
def terminalNodesCompleted : Bool :=
  state.ast.terminals.all fun terminal => (state.node terminal.node).any (·.phase == .completed)

/-- `terminal_rejection_code`: the first rejection that seals the run. -/
def terminalRejectionCode : Option WorkflowNodeRejectCode :=
  state.nodes.findSome? fun node =>
    node.rejection.bind fun rejection =>
      if rejection.code.seals then some rejection.code else none

/-! ## The checks of a projection -/

/-- The loop of `validate_projection` over the activation order. -/
def checkCoordinates (state : WorkflowGraphState) :
    Nat → Nat → List WorkflowActivationCoordinate → Except WorkflowGraphReductionError Unit
  | _, _, [] => .ok ()
  | index, previousCursor, coordinate :: rest => do
    ensure (coordinate.activationOrder == index + 1 && coordinate.iteration != 0 &&
        decide (previousCursor < coordinate.cursor) &&
        decide (coordinate.cursor ≤ state.throughCursor) && (state.node coordinate.node).isSome)
      (invalidWorkflowEvent "workflow graph projection activation order is invalid")
    checkCoordinates state (index + 1) coordinate.cursor rest

/-- The node of a projection beside the node of the AST it stands for. -/
def nodeAligned (pair : WorkflowNodeState × WorkflowActivationNode) : Bool :=
  pair.1.node == pair.2.node && pair.1.updatedCursor != 0 &&
    decide (pair.1.updatedCursor ≤ state.throughCursor) &&
    (pair.1.phase == .waiting || pair.1.iteration != 0)

/-- `validate_projection`: what a stored state must satisfy to be trusted. -/
def validateProjection : Except WorkflowGraphReductionError Unit := do
  state.ast.validate
  digests.checkGiven "workflow graph seed is invalid: " state.seed
  ensure (!state.graphId.isEmpty && state.throughCursor != 0 &&
      state.astDigest == digests.activationAst state.ast &&
      state.seed.all (fun seed => seed.evidenceType == state.ast.inputType && seed.parents.isEmpty) &&
      (state.seed.isSome || (state.activationOrder.isEmpty &&
        state.nodes.all fun node => node.phase != .activated && node.phase != .completed)) &&
      state.nextActivationOrder == state.activationOrder.length + 1 &&
      decide (state.backEdgeActivations ≤ state.ast.maxBackEdgeActivations) &&
      state.nodes.length == state.ast.nodes.length &&
      (state.nodes.zip state.ast.nodes).all state.nodeAligned)
    (invalidWorkflowEvent "workflow graph projection identity, counters, or node index is invalid")
  state.checkCoordinates 0 0 state.activationOrder
  match state.phase with
  | .completed =>
    ensure state.terminalNodesCompleted
      (invalidWorkflowEvent "completed workflow graph projection has unfinished terminals")
  | .rejected =>
    ensure (state.nodes.any (·.rejection.isSome))
      (invalidWorkflowEvent "rejected workflow graph projection has no inspectable rejection")
  | .active =>
    ensure (!state.terminalNodesCompleted)
      (invalidWorkflowEvent "active workflow graph projection already completed every terminal")

/-! ## Activations -/

/-- The checks `apply_activation` makes of one input. -/
def checkActivationInput (name : GraphNodeName) (input : WorkflowNodeInput) :
    Except WorkflowGraphReductionError Unit := do
  digests.checkEvidence "workflow activation input is invalid: " input.evidence
  match state.ast.edges.find? fun edge => edge.id == input.edgeId && edge.toNode == name with
  | none => .error (invalidWorkflowEvent "activation names an unknown input edge")
  | some edge =>
    ensure (edge.evidenceType == input.evidence.evidenceType)
      (invalidWorkflowEvent "activation input evidence has the wrong edge type")

/-- Whether the evidence of one input exists on its edge. -/
def initialInputExists (edge : WorkflowActivationEdge) (input : WorkflowNodeInput) : Bool :=
  match edge.kind with
  | .graphInput =>
    edge.fromNode.isNone &&
      match state.seed with
      | none => input.evidence.evidenceType == state.ast.inputType && input.evidence.parents.isEmpty
      | some seed => input.evidence == seed
  | .forward =>
    edge.fromNode.any fun source =>
      (state.node source).any fun node =>
        node.phase == .completed && node.outputs.contains input.evidence
  | .back => false

/-- `initial_inputs_exist`, stopping at the first input without evidence. -/
def initialInputsExist (state : WorkflowGraphState) :
    List WorkflowNodeInput → Except WorkflowGraphReductionError Bool
  | [] => .ok true
  | input :: rest =>
    match state.ast.edges.find? (·.id == input.edgeId) with
    | none => .error (invalidWorkflowEvent "activation input edge disappeared")
    | some edge =>
      if state.initialInputExists edge input then state.initialInputsExist rest else .ok false

/-- `back_input_exists`: the edge's source was rejected with this evidence. -/
def backInputExists (input : WorkflowNodeInput) : Bool :=
  match state.ast.edges.find? fun edge => edge.id == input.edgeId && edge.kind == .back with
  | none => false
  | some edge =>
    edge.fromNode.any fun source =>
      ((((state.node source).bind (·.rejection)).filter (·.code == .evidenceRejected)).bind
        (·.evidence)).any (· == input.evidence)

/-- The arrows `reset_descendants` follows. -/
def forwardArrows (ast : WorkflowActivationAst) : List (GraphNodeName × GraphNodeName) :=
  ast.edges.filterMap fun edge =>
    if edge.kind == .forward then edge.fromNode.map fun source => (source, edge.toNode) else none

/-- The set `reset_descendants` collects; every round but the last inserts a target. -/
def descendants (ast : WorkflowActivationAst) (target : GraphNodeName) : List GraphNodeName :=
  Saturation.close (forwardArrows ast) (ast.edges.length + 1) [target]

/-- `reset_descendants`: what a back edge puts back to waiting. -/
def resetDescendants (target : GraphNodeName) (cursor : Nat) : WorkflowGraphState :=
  { state with
    nodes := state.nodes.map fun node =>
      if node.node ∈ descendants state.ast target then node.reset cursor else node }

variable (activated : WorkflowNodeActivated)

/-- What `apply_activation` tests before its first write. -/
def checkActivation : Except WorkflowGraphReductionError Unit := do
  ensure (activated.graphId == state.graphId &&
      activated.activationOrder == state.nextActivationOrder && state.phase != .completed &&
      state.terminalRejectionCode.isNone)
    (invalidWorkflowEvent
      "workflow node activation has wrong graph, total order, or terminal phase")
  match state.ast.nodes.find? (·.node == activated.node), state.node activated.node with
  | none, _ => .error (invalidWorkflowEvent "activated node is absent from the AST")
  | some _, none => .error (invalidWorkflowEvent "activated node has no projected state")
  | some spec, some node => do
    ensure (decide (node.iteration + 1 ≤ u32Max))
      (invalidWorkflowEvent "node activation iteration overflowed")
    ensure (activated.iteration == node.iteration + 1 &&
        activated.inputLedgerDigest == digests.inputLedger activated.inputs)
      (invalidWorkflowEvent "workflow activation iteration or input ledger is invalid")
    forM activated.inputs (state.checkActivationInput digests activated.node)
    match activated.cause with
    | .forwardJoin => do
      ensure (node.phase == .waiting && edgeIds activated.inputs == spec.join.initialAll)
        (invalidWorkflowEvent "node activated before every typed initial input existed")
      let exist ← state.initialInputsExist activated.inputs
      ensure exist (invalidWorkflowEvent "node activated before every typed initial input existed")
    | .backEdge => do
      ensure (state.seed.isSome && activated.iteration != 1 &&
          match activated.inputs with
          | [input] => spec.join.reactivateAny.contains input.edgeId && state.backInputExists input
          | _ => false)
        (invalidWorkflowEvent "node reactivation lacks a typed rejected back-edge input")
      ensure (decide (state.backEdgeActivations + 1 ≤ u32Max))
        (invalidWorkflowEvent "back-edge activation count overflowed")
      ensure (decide (state.backEdgeActivations + 1 ≤ state.ast.maxBackEdgeActivations))
        (invalidWorkflowEvent "back-edge activation exceeded the bounded iteration guard")

/-- The writes of the two causes: only a back edge counts and resets. -/
def reopen : WorkflowGraphState :=
  match activated.cause with
  | .forwardJoin => state
  | .backEdge =>
    ({ state with backEdgeActivations := state.backEdgeActivations + 1 }).resetDescendants
      activated.node cursor

/-- The seed is captured from the first graph input. -/
def captureSeed : WorkflowGraphState :=
  match state.seed with
  | some _ => state
  | none =>
    { state with
      seed := activated.inputs.findSome? fun input =>
        (state.ast.edges.find? fun edge =>
          edge.id == input.edgeId && edge.kind == .graphInput).map fun _ => input.evidence }

/-- The node and the activation order as an activation writes them. -/
def recordActivation : WorkflowGraphState :=
  { state with
    nodes := Rows.update (·.node) activated.node (·.activate cursor activated) state.nodes
    activationOrder := state.activationOrder ++
      [⟨activated.activationOrder, activated.node, activated.iteration, cursor⟩] }

/-- `apply_activation`. The last two errors come after writes. -/
def applyActivation : WorkflowGraphState × Except WorkflowGraphReductionError Unit :=
  match state.checkActivation digests activated with
  | .error failure => (state, .error failure)
  | .ok () =>
    let prepared := (state.reopen cursor activated).captureSeed activated
    match prepared.node activated.node with
    | none => (prepared, .error (invalidWorkflowEvent "activated node has no projected state"))
    | some node =>
      if node.phase ≠ .waiting then
        (prepared, .error (invalidWorkflowEvent "node activation requires a waiting projection"))
      else
        let recorded := prepared.recordActivation cursor activated
        if recorded.nextActivationOrder + 1 ≤ u64Max then
          ({ recorded with
              nextActivationOrder := recorded.nextActivationOrder + 1
              phase := .active }, .ok ())
        else (recorded, .error (invalidWorkflowEvent "activation total order overflowed"))

/-! ## Completions and rejections -/

/-- The addresses a node's evidence must be made from. -/
def expectedParents (node : WorkflowNodeState) : List ArtifactRef :=
  node.inputs.map (·.evidence.artifact)

/-- What `apply_completion` tests. -/
def checkCompletion (completed : WorkflowNodeCompleted) :
    Except WorkflowGraphReductionError Unit := do
  ensure (completed.graphId == state.graphId &&
      completed.outputLedgerDigest == digests.evidenceLedger completed.outputs &&
      state.terminalRejectionCode.isNone)
    (invalidWorkflowEvent "workflow node completion has wrong graph or output ledger")
  match state.ast.nodes.find? (·.node == completed.node), completed.outputs with
  | none, _ => .error (invalidWorkflowEvent "completed node is absent from the AST")
  | some spec, [output] => do
    ensure (output.evidenceType == spec.outputType)
      (invalidWorkflowEvent "completed node did not produce its exact typed output")
    digests.checkEvidence "workflow output evidence is invalid: " output
    match state.node completed.node with
    | none => .error (invalidWorkflowEvent "completed node has no projected state")
    | some node => do
      ensure (node.phase == .activated && node.iteration == completed.iteration)
        (invalidWorkflowEvent "only the current activated iteration may complete")
      ensure (output.parents == expectedParents node)
        (invalidWorkflowEvent "workflow output does not bind its ordered activation inputs")
      ensure (spec.convergenceGate == completed.convergence.isSome &&
          completed.convergence.all (·.decisionDigest == output.ledgerDigest))
        (invalidWorkflowEvent
          "convergence gate completion lacks its output-bound inspectable stamp")
  | some _, _ =>
    .error (invalidWorkflowEvent "completed node did not produce its exact typed output")

/-- `apply_completion`: it writes only after every check passed. -/
def applyCompletion (completed : WorkflowNodeCompleted) :
    WorkflowGraphState × Except WorkflowGraphReductionError Unit :=
  match state.checkCompletion digests completed with
  | .error failure => (state, .error failure)
  | .ok () =>
    let recorded := { state with
      nodes := Rows.update (·.node) completed.node (·.complete cursor completed) state.nodes }
    (if recorded.terminalNodesCompleted then { recorded with phase := .completed } else recorded,
      .ok ())

/-- Whether a rejection names an activation that never took place. -/
def rejectsMissingActivation (node : WorkflowNodeState) (rejected : WorkflowNodeRejected) : Bool :=
  decide (node.iteration + 1 ≤ u32Max) && rejected.iteration == node.iteration + 1 &&
    match rejected.code with
    | .typedInputMissing | .invariantViolation | .abandoned | .superseded => node.phase == .waiting
    | .iterationGuard => node.phase != .activated
    | _ => false

/-- What `apply_rejection` tests. -/
def checkRejection (rejected : WorkflowNodeRejected) : Except WorkflowGraphReductionError Unit := do
  ensure (rejected.graphId == state.graphId && !(Text.trim rejected.message.toList).isEmpty &&
      decide (rejected.message.utf8ByteSize ≤ workflowNodeRejectMessageMaxBytes) &&
      state.phase != .completed && state.terminalRejectionCode.all (· == rejected.code))
    (invalidWorkflowEvent
      "workflow node rejection has wrong graph, no detail, or a terminal phase")
  digests.checkGiven "workflow reject evidence is invalid: " rejected.evidence
  match state.ast.nodes.find? (·.node == rejected.node) with
  | none => .error (invalidWorkflowEvent "rejected node is absent from the AST")
  | some spec => do
    ensure (spec.convergenceGate == rejected.convergenceGate)
      (invalidWorkflowEvent "workflow rejection mislabels convergence authority")
    match state.node rejected.node with
    | none => .error (invalidWorkflowEvent "rejected node has no projected state")
    | some node => do
      ensure (rejected.evidence.all (·.parents == expectedParents node))
        (invalidWorkflowEvent "workflow rejection evidence does not bind its activation inputs")
      ensure (rejectsMissingActivation node rejected ||
          (node.phase == .activated && node.iteration == rejected.iteration))
        (invalidWorkflowEvent
          "rejection does not name the current activation or a missing-input attempt")

/-- `apply_rejection`. -/
def applyRejection (rejected : WorkflowNodeRejected) :
    WorkflowGraphState × Except WorkflowGraphReductionError Unit :=
  match state.checkRejection digests rejected with
  | .error failure => (state, .error failure)
  | .ok () =>
    ({ state with
        nodes := Rows.update (·.node) rejected.node (·.reject cursor rejected) state.nodes
        phase := .rejected }, .ok ())

/-! ## Runs -/

/-- The cursor advances when a handler succeeded. -/
def advance :
    WorkflowGraphState × Except WorkflowGraphReductionError Unit →
      WorkflowGraphState × Except WorkflowGraphReductionError Unit
  | (state, .ok ()) => ({ state with throughCursor := cursor }, .ok ())
  | (state, .error failure) => (state, .error failure)

/-- `WorkflowGraphState::apply`: one journal event at its cursor. -/
def apply (event : WorkflowGraphJournalEvent) :
    WorkflowGraphState × Except WorkflowGraphReductionError Unit :=
  if cursor ≤ state.throughCursor then
    (state, .error (invalidWorkflowEvent "workflow activation cursor did not advance"))
  else
    match event with
    | .workflowGraphStarted _ =>
      (state, .error (invalidWorkflowEvent "workflow graph was started more than once"))
    | .workflowNodeActivated activated =>
      advance cursor (state.applyActivation digests cursor activated)
    | .workflowNodeCompleted completed =>
      advance cursor (state.applyCompletion digests cursor completed)
    | .workflowNodeRejected rejected =>
      advance cursor (state.applyRejection digests cursor rejected)

/-- A successful `apply`. -/
def step (entry : Nat × WorkflowGraphJournalEvent) : Option WorkflowGraphState :=
  match state.apply digests entry.1 entry.2 with
  | (next, .ok ()) => some next
  | (_, .error _) => none

/-- The states `from_started` followed by successful calls of `apply` reaches. -/
def Reachable : Prop :=
  ∃ cursor started first entries, fromStarted digests cursor started = .ok first ∧
    Machine.run (step digests) first entries = some state

end WorkflowGraphState

end HaiderAgent
