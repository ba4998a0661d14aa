import HaiderAgent.Protocol.Loom.Compile

/-!
# The workflow activation AST

The runtime structure a registered workflow is frozen into
(`haider-protocol/src/graph.rs`): `workflow_activation_ast_from_loom` materialises a compiled
workflow as typed edges and joins, and `validate_workflow_activation_ast` checks the result with
type rules of its own.
-/

namespace HaiderAgent

open ExceptFold (ensure)

/-- `GRAPH_MAX_CONDITIONAL_HOPS` (graph.rs). -/
def graphMaxConditionalHops : Nat := 24

/-- Where an edge starts: the graph's input, an earlier node, or a later one. -/
inductive WorkflowEdgeKind where
  | graphInput | forward | back
  deriving DecidableEq, Repr

/-- `WorkflowActivationEdge`; `fromNode` and `toNode` are the source's `from` and `to`. -/
structure WorkflowActivationEdge where
  id : Nat
  kind : WorkflowEdgeKind
  fromNode : Option GraphNodeName
  toNode : GraphNodeName
  evidenceType : String
  deriving DecidableEq, Repr

/-- The edges a node waits for, and those that wake it again. -/
structure WorkflowJoinSemantics where
  initialAll : List Nat
  reactivateAny : List Nat
  deriving DecidableEq, Repr

/-- `WorkflowActivationNode`: a node with its types and its join. -/
structure WorkflowActivationNode where
  node : GraphNodeName
  inputType : String
  outputType : String
  join : WorkflowJoinSemantics
  convergenceGate : Bool
  deriving DecidableEq, Repr

/-- `WorkflowActivationAst`: the graph a workflow run is pinned to. -/
structure WorkflowActivationAst where
  workflowId : String
  workflowDigest : String
  inputType : String
  outputType : String
  nodes : List WorkflowActivationNode
  edges : List WorkflowActivationEdge
  maxBackEdgeActivations : Nat
  deriving DecidableEq, Repr

/-- `WorkflowGraphReductionError`. -/
inductive WorkflowGraphReductionError where
  | invalidAst (message : String)
  | invalidEvent (message : String)
  deriving DecidableEq, Repr

/-- `merge_workflow_types`: the operands of all inputs, each once. -/
def mergeWorkflowTypes (inputs : List String) : String :=
  match inputs with
  | [only] => only
  | _ =>
    " + ".intercalate (inputs.foldl
      (fun merged input =>
        ((typeOperands input).filter fun part => !part.isEmpty).foldl pushOperand merged) [])

/-- `workflow_type_operands`: the operands in order, each once. -/
def workflowTypeOperands (value : String) : List String :=
  (((typeOperands value).filter fun operand => !operand.isEmpty).insertionSort (· ≤ ·)).destutter
    (· ≠ ·)

/-- `workflow_node_accepts_inputs`: several inputs must cover the operands, one may be any. -/
def workflowNodeAcceptsInputs (expected : String) (inputs : List String) : Bool :=
  let carried := mergeWorkflowTypes inputs
  if inputs.length > 1 then workflowTypeOperands expected == workflowTypeOperands carried
  else expected == carried || (typeOperands expected).any (· == carried)

/-- `workflow_output_accepts`. -/
def workflowOutputAccepts (expected : String) (terminalTypes : List String) : Bool :=
  let produced := mergeWorkflowTypes terminalTypes
  if terminalTypes.length > 1 then workflowTypeOperands expected == workflowTypeOperands produced
  else workflowNodeAcceptsInputs expected terminalTypes

/-- `valid_workflow_evidence_type`. -/
def validWorkflowEvidenceType (value : String) : Bool := validTypeExpr value

namespace WorkflowActivationAst

variable (ast : WorkflowActivationAst)

/-- The node's place in the list, the order of the `validate` checks. -/
def position (name : GraphNodeName) : Option Nat :=
  ast.nodes.findIdx? (·.node == name)

/-- The nodes the forward edges of a node lead to. -/
def forwardTargets (source : GraphNodeName) : List GraphNodeName :=
  ast.edges.filterMap fun edge =>
    if edge.kind == .forward && edge.fromNode == some source then some edge.toNode else none

/-- `workflow_forward_reaches`; every pop but the first follows an insertion. -/
def forwardReaches (ancestor descendant : GraphNodeName) : Bool :=
  ancestor == descendant ||
    Worklist.search ast.forwardTargets descendant (ast.edges.length + 1) [ancestor] [ancestor]

/-- The source of an edge fits its kind. -/
def edgeSourceFits (edge : WorkflowActivationEdge) (target : WorkflowActivationNode) : Bool :=
  match edge.kind with
  | .graphInput => edge.fromNode.isNone && edge.evidenceType == ast.inputType
  | .forward =>
    edge.fromNode.any fun source =>
      match ast.position source, ast.position edge.toNode with
      | some sourceIndex, some targetIndex =>
        sourceIndex < targetIndex &&
          (ast.nodes[sourceIndex]?).any (·.outputType == edge.evidenceType)
      | _, _ => false
  | .back =>
    edge.fromNode.any (ast.forwardReaches edge.toNode) && edge.evidenceType == target.inputType

/-- The checks `validate_workflow_activation_ast` makes of one edge. -/
def checkEdge (edge : WorkflowActivationEdge) : Except WorkflowGraphReductionError Unit := do
  ensure ((ast.nodes.map (·.node)).contains edge.toNode && validWorkflowEvidenceType edge.evidenceType)
    (.invalidAst "workflow activation edge target or type is invalid")
  match ast.nodes.find? (·.node == edge.toNode) with
  | none => .error (.invalidAst "workflow activation edge lost its target")
  | some target =>
    ensure (ast.edgeSourceFits edge target)
      (.invalidAst "workflow activation edge has an invalid source")

/-- The edges that belong to a node's first activation. -/
def initialEdges (node : GraphNodeName) : List WorkflowActivationEdge :=
  ast.edges.filter fun edge => edge.toNode == node && edge.kind != .back

/-- The back edges into a node. -/
def backEdges (node : GraphNodeName) : List WorkflowActivationEdge :=
  ast.edges.filter fun edge => edge.toNode == node && edge.kind == .back

/-- The checks `validate_workflow_activation_ast` makes of one node. -/
def checkNode (node : WorkflowActivationNode) : Except WorkflowGraphReductionError Unit :=
  ensure (validWorkflowEvidenceType node.inputType && validWorkflowEvidenceType node.outputType &&
      !node.join.initialAll.isEmpty &&
      node.join.initialAll.dedup.length == node.join.initialAll.length &&
      node.join.reactivateAny.dedup.length == node.join.reactivateAny.length &&
      node.join.initialAll == (ast.initialEdges node.node).map (·.id) &&
      node.join.reactivateAny == (ast.backEdges node.node).map (·.id) &&
      workflowNodeAcceptsInputs node.inputType
        ((ast.initialEdges node.node).map (·.evidenceType)))
    (.invalidAst "workflow node join or typed signature is invalid")

/-- The nodes no forward edge leaves. -/
def terminals : List WorkflowActivationNode :=
  ast.nodes.filter fun node =>
    !ast.edges.any fun edge => edge.kind == .forward && edge.fromNode == some node.node

/-- `validate_workflow_activation_ast`, its checks in the source's order. -/
def validate : Except WorkflowGraphReductionError Unit := do
  ensure (!(ast.workflowId.isEmpty || ast.workflowDigest.isEmpty ||
      !validWorkflowEvidenceType ast.inputType || !validWorkflowEvidenceType ast.outputType ||
      ast.nodes.isEmpty || ast.nodes.length > graphMaxNodes || ast.edges.isEmpty ||
      ast.edges.length > graphMaxEdges || ast.maxBackEdgeActivations == 0 ||
      ast.maxBackEdgeActivations > graphMaxConditionalHops))
    (.invalidAst "workflow activation AST identity, bounds, or types are invalid")
  ensure ((ast.nodes.map (·.node)).dedup.length == ast.nodes.length)
    (.invalidAst "workflow activation AST contains duplicate nodes")
  ensure ((ast.edges.map (·.id)).dedup.length == ast.edges.length &&
      !(ast.edges.map (·.id)).contains 0 &&
      (ast.edges.filter (·.kind == .graphInput)).length == 1)
    (.invalidAst
      "workflow activation AST needs unique nonzero edges and exactly one graph input")
  forM ast.edges ast.checkEdge
  forM ast.nodes ast.checkNode
  ensure (!ast.terminals.isEmpty &&
      workflowOutputAccepts ast.outputType (ast.terminals.map (·.outputType)))
    (.invalidAst "workflow activation terminals do not produce the workflow output type")

end WorkflowActivationAst

/-- The locals of `workflow_activation_ast_from_loom`. -/
structure LoweringState where
  nextEdgeId : Nat := 1
  edges : List WorkflowActivationEdge := []
  nodes : List WorkflowActivationNode := []
  outputTypes : HashMap GraphNodeName String := ∅

namespace LoweringState

/-- The push of one edge under the next id, with the source's `checked_add`. -/
def pushEdge (state : LoweringState) (kind : WorkflowEdgeKind) (fromNode : Option GraphNodeName)
    (toNode : GraphNodeName) (evidenceType : String) :
    Except WorkflowGraphReductionError LoweringState := do
  ensure (state.nextEdgeId + 1 ≤ u32Max) (.invalidAst "workflow edge id space is exhausted")
  .ok { state with
    nextEdgeId := state.nextEdgeId + 1
    edges := state.edges ++ [⟨state.nextEdgeId, kind, fromNode, toNode, evidenceType⟩] }

/-- What a node's edges carry: the graph's input, or its dependencies' outputs. -/
def incoming (state : LoweringState) (inType : String) (spec : GraphNodeSpec) :
    Except WorkflowGraphReductionError (List (Option GraphNodeName × String)) :=
  if spec.dependsOn.isEmpty then .ok [(none, inType)]
  else
    spec.dependsOn.mapM fun dependency =>
      match state.outputTypes.lookup dependency with
      | some evidenceType => .ok (some dependency, evidenceType)
      | none =>
        .error (.invalidAst "compiled workflow dependency is not in topological order")

/-- One turn of the loop over a node's incoming edges. -/
def pushIncoming (toNode : GraphNodeName) (acc : LoweringState × List Nat)
    (edge : Option GraphNodeName × String) :
    Except WorkflowGraphReductionError (LoweringState × List Nat) := do
  let kind := if edge.1.isSome then WorkflowEdgeKind.forward else .graphInput
  let state ← acc.1.pushEdge kind edge.1 toNode edge.2
  .ok (state, acc.2 ++ [acc.1.nextEdgeId])

/-- The body of the first loop: a template node becomes an activation node with its edges. -/
def lowerNode (workflow : LoomWorkflow) (state : LoweringState) (spec : GraphNodeSpec) :
    Except WorkflowGraphReductionError LoweringState :=
  match workflow.nodeMeta.find? (·.node == spec.name) with
  | none => .error (.invalidAst "compiled workflow node metadata is missing")
  | some nodeMeta => do
    let incoming ← state.incoming workflow.inType spec
    let carried := mergeWorkflowTypes (incoming.map (·.2))
    let outputType := nodeMeta.outType.getD carried
    let (state, initialAll) ← incoming.foldlM (pushIncoming spec.name) (state, [])
    .ok { state with
      nodes := state.nodes ++ [
        { node := spec.name
          inputType := nodeMeta.inType.getD carried
          outputType := outputType
          join := ⟨initialAll, []⟩
          convergenceGate := spec.gate == .humanConfirm ||
            !workflow.template.nodes.any (·.dependsOn.contains spec.name) }]
      outputTypes := state.outputTypes.insert spec.name outputType }

/-- The body of the second loop: the back edge of a node that is not a human gate. -/
def lowerBackEdge (start : GraphNodeName) (state : LoweringState) (spec : GraphNodeSpec) :
    Except WorkflowGraphReductionError LoweringState :=
  let target := spec.redTarget.getD start
  match state.nodes.findIdx? (·.node == target) with
  | none => .error (.invalidAst "workflow back edge has no target node")
  | some targetIndex => do
    let evidenceType := (state.nodes[targetIndex]?).elim "" (·.inputType)
    let id := state.nextEdgeId
    let state ← state.pushEdge .back (some spec.name) target evidenceType
    .ok { state with
      nodes := state.nodes.modify targetIndex fun node =>
        { node with join := { node.join with reactivateAny := node.join.reactivateAny ++ [id] } } }

end LoweringState

/-- The AST `workflow_activation_ast_from_loom` hands to its validation. -/
def loweredAst (workflow : LoomWorkflow) : Except WorkflowGraphReductionError WorkflowActivationAst :=
  if workflow.template.nodes.length ≠ workflow.nodeMeta.length then
    .error (.invalidAst "compiled workflow metadata does not cover every template node")
  else
    match workflow.template.startNode with
    | none => .error (.invalidAst "compiled workflow has no activation start node")
    | some start => do
      let state ← workflow.template.nodes.foldlM (LoweringState.lowerNode workflow) {}
      let state ← (workflow.template.nodes.filter (·.gate != .humanConfirm)).foldlM
        (LoweringState.lowerBackEdge start) state
      .ok
        { workflowId := workflow.id
          workflowDigest := workflow.digest
          inputType := workflow.inType
          outputType := workflow.outType
          nodes := state.nodes
          edges := state.edges
          maxBackEdgeActivations := graphMaxConditionalHops }

/-- `workflow_activation_ast_from_loom`: the lowered graph is validated too. -/
def workflowActivationAstFromLoom (workflow : LoomWorkflow) :
    Except WorkflowGraphReductionError WorkflowActivationAst := do
  let ast ← loweredAst workflow
  ast.validate
  .ok ast

end HaiderAgent
