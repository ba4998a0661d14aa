import HaiderAgent.Protocol.Loom.Lowering

/-!
# Where the compiler and the runtime agree

`compile_pipe` and `validate_workflow_activation_ast` type a workflow with separately written rules:
the compiler compares merges as operand sets, the validation counts the edges that come in. A
compiled workflow lowers exactly when it is `Lowerable`.
-/

namespace HaiderAgent

open List ExceptFold

namespace LoomWorkflow

/-- When a compiled workflow has an activation AST. -/
structure Lowerable (workflow : LoomWorkflow) : Prop where
  /-- Forward edges, the graph input and the back edges fit the edge ceiling together. -/
  edges : (workflow.template.nodes.map (·.dependsOn.length)).sum + 1 + workflow.retriable.length ≤
    graphMaxEdges
  /-- What a control node carries is still a bounded type expression. -/
  control : ∀ node ∈ workflow.typedNodes, node.2.outType = none →
    validTypeExpr (workflow.carried node.1) = true
  /-- A declared input accepts what its only dependency hands over, as it is written. -/
  single : ∀ node ∈ workflow.typedNodes, node.1.dependsOn.length = 1 →
    ∀ expected ∈ node.2.inType, accepts expected (workflow.carried node.1) = true
  /-- The declared output accepts what the only terminal produces, as it is written. -/
  output : workflow.terminalTypes.length = 1 →
    accepts workflow.outType (mergeTypeExprs workflow.terminalTypes) = true

/-- The types of a compiled node pass the checks of the runtime. -/
def TypesFit (workflow : LoomWorkflow) (node : GraphNodeSpec × LoomNodeMeta) : Prop :=
  validTypeExpr (node.2.inType.getD (workflow.carried node.1)) = true ∧
    validTypeExpr (node.2.outType.getD (workflow.carried node.1)) = true ∧
    workflowNodeAcceptsInputs (node.2.inType.getD (workflow.carried node.1))
      (workflow.incoming node.1) = true

end LoomWorkflow

/-- The runtime's rule, in the compiler's words: it counts edges. -/
theorem workflowNodeAcceptsInputs_eq (expected : String) (inputs : List String) :
    workflowNodeAcceptsInputs expected inputs =
      acceptsCarried (decide (inputs.length > 1)) expected (mergeTypeExprs inputs) := by
  unfold workflowNodeAcceptsInputs acceptsCarried
  rw [mergeWorkflowTypes_eq]
  by_cases several : inputs.length > 1 <;> simp only [several] <;> rfl

theorem workflowOutputAccepts_eq (expected : String) (inputs : List String) :
    workflowOutputAccepts expected inputs = workflowNodeAcceptsInputs expected inputs := by
  unfold workflowOutputAccepts workflowNodeAcceptsInputs
  split <;> rfl

theorem acceptsCarried_self (carriesMerge : Bool) (carried : String) :
    acceptsCarried carriesMerge carried carried = true := by
  cases carriesMerge <;> simp [acceptsCarried, sameTypeOperands, accepts]

theorem mem_foldl_pushOperand {operand : String} (operands : List String) {union : List String}
    (mem : operand ∈ union ∨ operand ∈ operands) :
    operand ∈ operands.foldl pushOperand union := by
  induction operands generalizing union with
  | nil => simpa using mem
  | cons first rest ih =>
    have pushed (either : operand ∈ union ∨ operand = first) :
        operand ∈ pushOperand union first := by
      unfold pushOperand
      split <;> aesop
    rw [mem_cons, ← or_assoc] at mem
    exact ih (mem.imp_left pushed)

theorem exists_operand_of_valid {value : String} (valid : validTypeExpr value = true) :
    ∃ operand ∈ typeOperands value, operand ≠ "" := by
  have idents := (Bool.and_eq_true_iff.mp valid).2
  cases operands : typeOperands value with
  | nil =>
    exact absurd (map_eq_nil_iff.mp operands) (Text.splitWhere_ne_nil _ _)
  | cons operand rest =>
    refine ⟨operand, mem_cons_self, fun empty => ?_⟩
    rw [operands, all_cons, empty] at idents
    exact absurd (Bool.and_eq_true_iff.mp idents).1 (by decide)

theorem mergeTypeExprs_ne_empty {inputs : List String} (nonempty : inputs ≠ [])
    (valid : ∀ input ∈ inputs, validTypeExpr input = true) : mergeTypeExprs inputs ≠ "" := by
  match inputs, nonempty with
  | [only], _ => exact nonempty_of_validTypeExpr (valid only mem_cons_self)
  | first :: second :: rest, _ =>
    intro empty
    obtain ⟨operand, mem, named⟩ := exists_operand_of_valid (valid first mem_cons_self)
    refine named (Text.eq_empty_of_intercalate_eq_empty empty operand ?_)
    refine mem_foldl_pushOperand _ (.inr (mem_filter.mpr ⟨?_, ?_⟩))
    · exact mem_flatMap.mpr ⟨first, mem_cons_self, mem⟩
    · simpa using named

variable {workflow : LoomWorkflow} {start name : GraphNodeName} {spec : GraphNodeSpec}

namespace LoomWorkflow.WellTyped

variable {node : GraphNodeSpec × LoomNodeMeta} (typed : workflow.WellTyped start)

include typed

theorem artifact_eq (mem : node ∈ workflow.typedNodes) :
    workflow.artifact node.1.name = node.2.outType.getD (workflow.carried node.1) := by
  obtain ⟨done, rest, split⟩ := append_of_mem mem
  have split' : workflow.typedNodes = (done ++ [node]) ++ rest := by simpa using split
  have final := typed.lookup_prefix split' (by simp : node.1.name ∈ _)
  rw [artifactsOf_append] at final
  unfold artifactStep at final
  rw [AList.lookup_insert, typed.carried_prefix split] at final
  exact (Option.some.inj final).symm

theorem signed_typedNode (mem : node ∈ workflow.typedNodes) : node.2.Signed :=
  typed.signed node.2 (of_mem_zip mem).2

theorem exists_typedNode (declared : name ∈ workflow.template.nodes.map (·.name)) :
    ∃ node ∈ workflow.typedNodes, node.1.name = name := by
  rw [← typed.names_typedNodes] at declared
  exact mem_map.mp declared

theorem flatMap_forwardShapes :
    (workflow.typedNodes.flatMap fun node => workflow.forwardShapes node.1) =
      workflow.template.nodes.flatMap workflow.forwardShapes := by
  rw [← typed.map_fst_typedNodes, flatMap_map]

theorem length_incoming (declared : spec ∈ workflow.template.nodes) :
    (workflow.incoming spec).length = max 1 spec.dependsOn.length := by
  rw [← typed.map_snd_sources declared, length_map]
  unfold sources
  split
  · rename_i root
    rw [List.isEmpty_iff.mp root]
    rfl
  · rename_i joined
    have some : spec.dependsOn.length ≠ 0 := by simpa using joined
    rw [length_map]
    omega

theorem terminalSpecs_ne_nil : terminalSpecs workflow.template.nodes ≠ [] := by
  rcases eq_nil_or_concat workflow.template.nodes with none | ⟨init, last, split⟩
  · exact absurd none typed.template.nonempty
  · refine ne_nil_of_mem (mem_filter.mpr ⟨by rw [split]; simp, ?_⟩ : last ∈ _)
    rw [Bool.not_eq_true', ← Bool.not_eq_true, contains_iff_mem, mem_flatMap]
    rintro ⟨spec, declared, depends⟩
    obtain ⟨before, after, here⟩ := append_of_mem declared
    have early := typed.ordered before spec after here last.name depends
    have names := typed.template.distinct
    rw [here, map_append] at names
    -- The last node is at or after the node that would depend on it.
    have late : last ∈ spec :: after := by
      have tails := congrArg getLast? (here.symm.trans split)
      rw [concat_eq_append, getLast?_append_of_ne_nil _ (by simp)] at tails
      simp only [getLast?_append, getLast?_singleton, Option.some_or] at tails
      exact mem_of_getLast? tails
    exact (nodup_append.mp names).2.2 _ early _ (mem_map_of_mem late) rfl

variable (control : ∀ node ∈ workflow.typedNodes, node.2.outType = none →
  validTypeExpr (workflow.carried node.1) = true)

include control

theorem valid_types (mem : node ∈ workflow.typedNodes) :
    validTypeExpr (node.2.inType.getD (workflow.carried node.1)) = true ∧
      validTypeExpr (node.2.outType.getD (workflow.carried node.1)) = true := by
  rcases typed.signed_typedNode mem with ⟨noInput, noOutput⟩ |
    ⟨input, output, someInput, someOutput, validInput, validOutput⟩
  · rw [noInput, noOutput]
    exact ⟨control node mem noOutput, control node mem noOutput⟩
  · rw [someInput, someOutput]
    exact ⟨validInput, validOutput⟩

theorem valid_artifact (declared : name ∈ workflow.template.nodes.map (·.name)) :
    validTypeExpr (workflow.artifact name) = true := by
  obtain ⟨node, mem, rfl⟩ := typed.exists_typedNode declared
  rw [typed.artifact_eq mem]
  exact (typed.valid_types control mem).2

/-- The compiler's edge check is enough for the reducer's, merges included. -/
theorem acceptsInputs (listed : node ∈ workflow.typedNodes) (single : node.1.dependsOn.length = 1 →
      ∀ expected ∈ node.2.inType, accepts expected (workflow.carried node.1) = true) :
    workflowNodeAcceptsInputs (node.2.inType.getD (workflow.carried node.1))
      (workflow.incoming node.1) = true := by
  have declared : node.1 ∈ workflow.template.nodes := (of_mem_zip listed).1
  have merged : mergeTypeExprs (workflow.incoming node.1) = workflow.carried node.1 := rfl
  rw [workflowNodeAcceptsInputs_eq, merged, typed.length_incoming declared]
  cases signed : node.2.inType with
  | none => exact acceptsCarried_self _ _
  | some expected =>
    have nonempty : workflow.carried node.1 ≠ "" := by
      refine mergeTypeExprs_ne_empty ?_ ?_
      · intro none
        have length := typed.length_incoming declared
        rw [incoming, none, length_nil] at length
        omega
      · intro input arrives
        have arrives : input ∈ workflow.incoming node.1 := arrives
        rw [← typed.map_snd_sources declared] at arrives
        obtain ⟨source, sourced, rfl⟩ := mem_map.mp arrives
        unfold sources at sourced
        split at sourced
        · rw [mem_singleton.mp sourced]
          exact typed.inType
        · obtain ⟨dependency, depends, rfl⟩ := mem_map.mp sourced
          exact typed.valid_artifact control (typed.ordered.mem_names declared depends)
    obtain ⟨join, root⟩ := typed.edges node listed expected signed nonempty
    rcases Nat.lt_trichotomy node.1.dependsOn.length 1 with none | one | several
    · have empty : node.1.dependsOn = [] := eq_nil_of_length_eq_zero (by omega)
      have accepted : accepts expected (workflow.carried node.1) = true := root empty
      simpa [empty, acceptsCarried] using accepted
    · simpa [one, acceptsCarried] using single one expected signed
    · have many : max 1 node.1.dependsOn.length > 1 := by omega
      have accepted : sameTypeOperands expected (workflow.carried node.1) = true := join several
      simpa [many, acceptsCarried] using accepted

end LoomWorkflow.WellTyped

theorem length_graphInputs (workflow : LoomWorkflow) (specs : List GraphNodeSpec) :
    ((specs.flatMap workflow.forwardShapes).filter (·.kind == .graphInput)).length =
      (specs.filter (·.dependsOn.isEmpty)).length := by
  induction specs with
  | nil => rfl
  | cons spec rest ih =>
    rw [flatMap_cons, filter_append, length_append, ih, filter_cons]
    unfold LoomWorkflow.forwardShapes LoomWorkflow.sources
    split
    · simp only [map_cons, map_nil, LoomWorkflow.sourceShape, length_cons]
      exact Nat.add_comm _ _
    · rw [map_map, filter_eq_nil_iff.mpr, length_nil, Nat.zero_add]
      intro shape mem
      obtain ⟨dependency, _, rfl⟩ := mem_map.mp mem
      simp [LoomWorkflow.sourceShape]

theorem mem_forwardShapes_iff {shape : EdgeShape} : shape ∈ workflow.forwardShapes spec ↔
      (spec.dependsOn = [] ∧ shape = ⟨.graphInput, none, spec.name, workflow.inType⟩) ∨
        ∃ dependency ∈ spec.dependsOn,
          shape = ⟨.forward, some dependency, spec.name, workflow.artifact dependency⟩ := by
  unfold LoomWorkflow.forwardShapes LoomWorkflow.sources
  split
  · rename_i root
    rw [List.isEmpty_iff] at root
    simp [root, LoomWorkflow.sourceShape]
  · rename_i joined
    rw [List.isEmpty_iff] at joined
    simp [joined, LoomWorkflow.sourceShape, eq_comm]

variable {ast : WorkflowActivationAst} {edge : WorkflowActivationEdge}
  {node : WorkflowActivationNode} {source target : GraphNodeName}

theorem WorkflowActivationAst.mem_forwardTargets_iff :
    target ∈ ast.forwardTargets source ↔
      ∃ edge ∈ ast.edges, edge.kind = .forward ∧ edge.fromNode = some source ∧
        edge.toNode = target := by
  unfold WorkflowActivationAst.forwardTargets
  simp only [mem_filterMap, Option.ite_none_right_eq_some, Bool.and_eq_true, beq_iff_eq,
    Option.some.injEq, and_assoc]

namespace WorkflowActivationAst.Lowers

variable (lowers : ast.Lowers workflow start)

include lowers

theorem ids_nodup : (ast.edges.map (·.id)).Nodup := by
  rw [lowers.ids]
  exact nodup_range'

theorem exists_typedNode (mem : node ∈ ast.nodes) :
    ∃ compiled ∈ workflow.typedNodes, workflow.nodeShape compiled = node.shape := by
  have shaped : node.shape ∈ ast.nodes.map (·.shape) := mem_map_of_mem mem
  rw [lowers.nodes] at shaped
  exact mem_map.mp shaped

theorem exists_node {compiled : GraphNodeSpec × LoomNodeMeta} (mem : compiled ∈ workflow.typedNodes) :
    ∃ node ∈ ast.nodes, node.shape = workflow.nodeShape compiled := by
  have shaped : workflow.nodeShape compiled ∈ workflow.nodeShapes := mem_map_of_mem mem
  rw [← lowers.nodes] at shaped
  exact mem_map.mp shaped

variable (typed : workflow.WellTyped start)

include typed

/-- Every edge of the AST comes from a node of the workflow. -/
theorem edge_cases (mem : edge ∈ ast.edges) : ∃ spec ∈ workflow.template.nodes,
    (edge.kind = .graphInput ∧ edge.fromNode = none ∧ edge.toNode = spec.name ∧
      edge.evidenceType = workflow.inType) ∨
    (∃ dependency ∈ spec.dependsOn, edge.kind = .forward ∧ edge.fromNode = some dependency ∧
      edge.toNode = spec.name ∧ edge.evidenceType = workflow.artifact dependency) ∨
    (edge.kind = .back ∧ edge.fromNode = some spec.name ∧ edge.toNode = spec.redTarget.getD start ∧
      edge.evidenceType = workflow.inputOf (spec.redTarget.getD start)) := by
  have shaped : edge.shape ∈ ast.edges.map (·.shape) := mem_map_of_mem mem
  rw [lowers.shapes, typed.flatMap_forwardShapes] at shaped
  rcases mem_append.mp shaped with forward | back
  · obtain ⟨spec, declared, shape⟩ := mem_flatMap.mp forward
    refine ⟨spec, declared, ?_⟩
    rcases mem_forwardShapes_iff.mp shape with ⟨_, root⟩ | ⟨dependency, depends, joined⟩
    · exact .inl (EdgeShape.mk.inj root)
    · exact .inr (.inl ⟨dependency, depends, EdgeShape.mk.inj joined⟩)
  · obtain ⟨spec, retriable, same⟩ := mem_map.mp back
    exact ⟨spec, mem_of_mem_filter retriable, .inr (.inr (EdgeShape.mk.inj same.symm))⟩

theorem edges_length :
    ast.edges.length = (workflow.template.nodes.map (·.dependsOn.length)).sum + 1 +
      workflow.retriable.length := by
  obtain ⟨root, roots⟩ := typed.template.filter_roots
  have count := congrArg length lowers.shapes
  rw [typed.flatMap_forwardShapes, length_append, length_flatMap_forwardShapes, roots,
    length_map, length_map, length_singleton] at count
  exact count

theorem graphInputs : (ast.edges.filter (·.kind == .graphInput)).length = 1 := by
  obtain ⟨root, roots⟩ := typed.template.filter_roots
  have counted : (ast.edges.filter (·.kind == .graphInput)).length =
      ((ast.edges.map (·.shape)).filter (·.kind == .graphInput)).length := by
    rw [filter_map, length_map]
    rfl
  have noBack : (workflow.retriable.map (workflow.backShape start)).filter
      (·.kind == .graphInput) = [] := by
    refine filter_eq_nil_iff.mpr fun shape mem => ?_
    obtain ⟨spec, _, rfl⟩ := mem_map.mp mem
    simp [LoomWorkflow.backShape]
  rw [counted, lowers.shapes, typed.flatMap_forwardShapes, filter_append, length_append,
    length_graphInputs, roots, noBack]
  rfl

theorem names : ast.nodes.map (·.node) = workflow.template.nodes.map (·.name) := by
  rw [← typed.names_nodeShapes, ← lowers.nodes, map_map]
  rfl

theorem names_nodup : (ast.nodes.map (·.node)).Nodup := by
  rw [lowers.names typed]
  exact typed.template.distinct

/-- The forward edges of the AST are the dependencies of the template. -/
theorem forward_edge_iff :
    (∃ edge ∈ ast.edges, edge.kind = .forward ∧ edge.fromNode = some source ∧
      edge.toNode = target) ↔ FlowsTo workflow.template.nodes source target := by
  rw [flowsTo_iff]
  constructor
  · rintro ⟨edge, mem, kind, fromNode, toNode⟩
    obtain ⟨spec, declared, origin⟩ := lowers.edge_cases typed mem
    simp only [kind, fromNode, reduceCtorEq, false_and, false_or, or_false, true_and,
      Option.some.injEq] at origin
    obtain ⟨dependency, depends, rfl, name, _⟩ := origin
    exact ⟨spec, declared, name.symm.trans toNode, depends⟩
  · rintro ⟨spec, declared, rfl, depends⟩
    have shaped : (⟨.forward, some source, spec.name, workflow.artifact source⟩ : EdgeShape) ∈
        ast.edges.map (·.shape) := by
      rw [lowers.shapes, typed.flatMap_forwardShapes]
      refine mem_append_left _ (mem_flatMap.mpr ⟨spec, declared, ?_⟩)
      exact mem_forwardShapes_iff.mpr (.inr ⟨source, depends, rfl⟩)
    obtain ⟨edge, mem, shape⟩ := mem_map.mp shaped
    obtain ⟨kind, fromNode, toNode, _⟩ := EdgeShape.mk.inj shape
    exact ⟨edge, mem, kind, fromNode, toNode⟩

theorem forwardReaches {ancestor descendant : GraphNodeName}
    (path : Relation.ReflTransGen (FlowsTo workflow.template.nodes) ancestor descendant) :
    ast.forwardReaches ancestor descendant = true := by
  unfold WorkflowActivationAst.forwardReaches
  rcases Relation.reflTransGen_iff_eq_or_transGen.mp path with rfl | path
  · simp
  · refine Bool.or_eq_true_iff.mpr (.inr ?_)
    have bounded : ∀ source, ∀ target ∈ ast.forwardTargets source,
        target ∈ (ast.edges.map (·.toNode)).toFinset := by
      intro source target mem
      obtain ⟨edge, listed, _, _, rfl⟩ := mem_forwardTargets_iff.mp mem
      exact mem_toFinset.mpr (mem_map_of_mem listed)
    refine Worklist.search_of_path bounded ?_ ?_
    · have size := toFinset_card_le (ast.edges.map (·.toNode))
      rw [length_map] at size
      omega
    · refine Relation.TransGen.mono (fun source target flows => ?_) _ _ path
      exact mem_forwardTargets_iff.mpr ((lowers.forward_edge_iff typed).mpr flows)

theorem find_named (declared : name ∈ workflow.template.nodes.map (·.name)) :
    ∃ node, ast.nodes.find? (·.node == name) = some node ∧ node ∈ ast.nodes ∧ node.node = name ∧
      node.inputType = workflow.inputOf name := by
  rw [← lowers.names typed] at declared
  obtain ⟨node, mem, rfl⟩ := mem_map.mp declared
  have found : ast.nodes.find? (·.node == node.node) = some node :=
    (Rows.find_eq_some_iff (lowers.names_nodup typed)).mpr ⟨mem, rfl⟩
  refine ⟨node, found, mem, rfl, ?_⟩
  have shaped : ((·.node == node.node) ∘ WorkflowActivationNode.shape) =
      fun other : WorkflowActivationNode => other.node == node.node := rfl
  unfold LoomWorkflow.inputOf
  rw [← lowers.nodes, find?_map, shaped, found]
  rfl

theorem outputType_eq (mem : node ∈ ast.nodes) :
    node.outputType = workflow.artifact node.node := by
  obtain ⟨compiled, listed, shape⟩ := lowers.exists_typedNode mem
  have name : compiled.1.name = node.node := congrArg NodeShape.node shape
  have output : compiled.2.outType.getD (workflow.carried compiled.1) = node.outputType :=
    congrArg NodeShape.outputType shape
  rw [← output, ← name, typed.artifact_eq listed]

/-- Dependencies stand before their node. -/
theorem position_lt (declared : spec ∈ workflow.template.nodes) {dependency : GraphNodeName}
    (depends : dependency ∈ spec.dependsOn) :
    ∃ i j, ast.position dependency = some i ∧ ast.position spec.name = some j ∧ i < j := by
  obtain ⟨before, after, split⟩ := append_of_mem declared
  have early := typed.ordered before spec after split dependency depends
  have names : ast.nodes.map (·.node) = before.map (·.name) ++ spec.name :: after.map (·.name) := by
    rw [lowers.names typed, split, map_append, map_cons]
  have distinct := typed.template.distinct
  rw [← lowers.names typed, names] at distinct
  have position : ∀ name, ast.position name =
      (before.map (·.name) ++ spec.name :: after.map (·.name)).findIdx? (· == name) := by
    intro name
    rw [← names, findIdx?_map]
    rfl
  obtain ⟨i, found⟩ : ∃ i, (before.map (·.name)).findIdx? (· == dependency) = some i := by
    refine Option.isSome_iff_exists.mp ?_
    rw [findIdx?_isSome, any_eq_true]
    exact ⟨dependency, early, beq_self_eq_true dependency⟩
  have absent : (before.map (·.name)).findIdx? (· == spec.name) = none := by
    refine findIdx?_eq_none_iff.mpr fun name listed => ?_
    have apart := (nodup_append.mp distinct).2.2 name listed spec.name mem_cons_self
    exact beq_eq_false_iff_ne.mpr apart
  refine ⟨i, before.length, ?_, ?_, ?_⟩
  · rw [position, findIdx?_append, found]
    rfl
  · rw [position, findIdx?_append, absent, findIdx?_cons, beq_self_eq_true, if_pos rfl]
    simp
  · obtain ⟨inBounds, _⟩ := findIdx?_eq_some_iff_getElem.mp found
    simpa using inBounds

theorem edgeSourceFits (mem : edge ∈ ast.edges) {target : WorkflowActivationNode}
    (targeted : target.inputType = workflow.inputOf edge.toNode) :
    ast.edgeSourceFits edge target = true := by
  unfold WorkflowActivationAst.edgeSourceFits
  obtain ⟨spec, declared, ⟨kind, fromNode, _, evidence⟩ |
    ⟨dependency, depends, kind, fromNode, toNode, evidence⟩ |
    ⟨kind, fromNode, toNode, evidence⟩⟩ := lowers.edge_cases typed mem
  · simp [kind, fromNode, evidence, lowers.inputType]
  · obtain ⟨i, j, source, later, before⟩ := lowers.position_lt typed declared depends
    obtain ⟨inBounds, named, _⟩ := findIdx?_eq_some_iff_getElem.mp source
    have output : ast.nodes[i].outputType = workflow.artifact dependency := by
      rw [lowers.outputType_eq typed (getElem_mem inBounds), eq_of_beq named]
    simp [kind, fromNode, toNode, evidence, source, later, before, output,
      getElem?_eq_getElem inBounds]
  · have reaches := lowers.forwardReaches typed (typed.redTarget_path declared)
    simp [kind, fromNode, toNode, evidence, reaches, targeted]

section Control

variable (control : ∀ node ∈ workflow.typedNodes, node.2.outType = none →
  validTypeExpr (workflow.carried node.1) = true)

include control

theorem valid_inputOf (declared : name ∈ workflow.template.nodes.map (·.name)) :
    validTypeExpr (workflow.inputOf name) = true := by
  obtain ⟨node, _, mem, _, input⟩ := lowers.find_named typed declared
  obtain ⟨compiled, listed, shape⟩ := lowers.exists_typedNode mem
  have inputType : compiled.2.inType.getD (workflow.carried compiled.1) = node.inputType :=
    congrArg NodeShape.inputType shape
  rw [← input, ← inputType]
  exact (typed.valid_types control listed).1

/-- Every edge of the lowered graph passes its check. -/
theorem checkEdge (mem : edge ∈ ast.edges) : ast.checkEdge edge = .ok () := by
  have ends : edge.toNode ∈ workflow.template.nodes.map (·.name) ∧
      validTypeExpr edge.evidenceType = true := by
    obtain ⟨spec, declared, ⟨_, _, toNode, evidence⟩ |
      ⟨dependency, depends, _, _, toNode, evidence⟩ | ⟨_, _, toNode, evidence⟩⟩ :=
      lowers.edge_cases typed mem <;> rw [toNode, evidence]
    · exact ⟨mem_map_of_mem declared, typed.inType⟩
    · exact ⟨mem_map_of_mem declared,
        typed.valid_artifact control (typed.ordered.mem_names declared depends)⟩
    · exact ⟨typed.redTarget_mem declared,
        lowers.valid_inputOf typed control (typed.redTarget_mem declared)⟩
  obtain ⟨target, found, _, _, input⟩ := lowers.find_named typed ends.1
  refine ensure_bind_eq_ok.mpr ⟨?_, ?_⟩
  · rw [lowers.names typed]
    exact Bool.and_eq_true_iff.mpr ⟨contains_iff_mem.mpr ends.1, ends.2⟩
  · rw [found]
    exact ensure_eq_ok.mpr (lowers.edgeSourceFits typed mem input)

end Control

/-- The types on the edges of a node's first activation are what the workflow sends there. -/
theorem initialEdges_types (declared : spec ∈ workflow.template.nodes) :
    (ast.initialEdges spec.name).map (·.evidenceType) = workflow.incoming spec := by
  have shapes : (ast.initialEdges spec.name).map (·.shape) = workflow.forwardShapes spec := by
    have byShape : (ast.initialEdges spec.name).map (·.shape) = (ast.edges.map (·.shape)).filter
        fun shape => shape.toNode == spec.name && shape.kind != .back := by
      rw [filter_map]
      rfl
    have noBack : (workflow.retriable.map (workflow.backShape start)).filter
        (fun shape => shape.toNode == spec.name && shape.kind != .back) = [] := by
      refine filter_eq_nil_iff.mpr fun shape listed => ?_
      obtain ⟨other, _, rfl⟩ := mem_map.mp listed
      simp [LoomWorkflow.backShape]
    have allForward : (workflow.template.nodes.flatMap workflow.forwardShapes).filter
          (fun shape => shape.toNode == spec.name && shape.kind != .back) =
        (workflow.template.nodes.flatMap workflow.forwardShapes).filter
          (·.toNode == spec.name) := by
      refine filter_congr fun shape listed => ?_
      obtain ⟨other, _, shaped⟩ := mem_flatMap.mp listed
      simp [kind_of_mem_forwardShapes shaped]
    rw [byShape, lowers.shapes, typed.flatMap_forwardShapes, filter_append, noBack,
      allForward,
      Rows.filter_flatMap (fun _ _ => toNode_of_mem_forwardShapes) typed.template.distinct declared,
      append_nil]
  have types := congrArg (map EdgeShape.evidenceType) shapes
  rw [map_map] at types
  rw [← typed.map_snd_sources declared]
  refine Eq.trans types ?_
  unfold LoomWorkflow.forwardShapes
  rw [map_map]
  rfl

/-- The reducer checks of a node what `TypesFit` says. -/
theorem checkNode_iff (mem : node ∈ ast.nodes) {compiled : GraphNodeSpec × LoomNodeMeta}
    (listed : compiled ∈ workflow.typedNodes) (shape : workflow.nodeShape compiled = node.shape) :
    ast.checkNode node = .ok () ↔ workflow.TypesFit compiled := by
  have declared : compiled.1 ∈ workflow.template.nodes := (of_mem_zip listed).1
  have name : compiled.1.name = node.node := congrArg NodeShape.node shape
  have input : compiled.2.inType.getD (workflow.carried compiled.1) = node.inputType :=
    congrArg NodeShape.inputType shape
  have output : compiled.2.outType.getD (workflow.carried compiled.1) = node.outputType :=
    congrArg NodeShape.outputType shape
  have types := lowers.initialEdges_types typed declared
  rw [name] at types
  have initialNodup : node.join.initialAll.Nodup := by
    rw [lowers.initial node mem]
    exact lowers.ids_nodup.sublist (filter_sublist.map _)
  have backNodup : node.join.reactivateAny.Nodup := by
    rw [lowers.reactivate node mem]
    exact lowers.ids_nodup.sublist (filter_sublist.map _)
  have some : node.join.initialAll ≠ [] := by
    have length := congrArg length types
    rw [length_map, typed.length_incoming declared] at length
    intro none
    rw [lowers.initial node mem, map_eq_nil_iff] at none
    rw [none, length_nil] at length
    omega
  unfold WorkflowActivationAst.checkNode LoomWorkflow.TypesFit
  rw [ensure_eq_ok, input, output, types, initialNodup.dedup, backNodup.dedup]
  simp [some, ← lowers.initial node mem, ← lowers.reactivate node mem,
    validWorkflowEvidenceType, and_assoc]

/-- The terminals of the AST produce what the workflow's terminal nodes produce. -/
theorem terminalTypes : ast.terminals.map (·.outputType) = workflow.terminalTypes := by
  have terminal : ∀ name, (ast.edges.any fun edge =>
      edge.kind == .forward && edge.fromNode == some name) =
        (workflow.template.nodes.flatMap (·.dependsOn)).contains name := by
    intro name
    rw [Bool.eq_iff_iff, any_eq_true, contains_iff_mem, mem_flatMap]
    constructor
    · rintro ⟨edge, mem, leaves⟩
      simp only [Bool.and_eq_true, beq_iff_eq] at leaves
      have flows := (lowers.forward_edge_iff typed).mp
        ⟨edge, mem, leaves.1, leaves.2, rfl⟩
      obtain ⟨spec, declared, _, depends⟩ := flowsTo_iff.mp flows
      exact ⟨spec, declared, depends⟩
    · rintro ⟨spec, declared, depends⟩
      obtain ⟨edge, mem, kind, fromNode, _⟩ := (lowers.forward_edge_iff typed).mpr
        (flowsTo_iff.mpr ⟨spec, declared, rfl, depends⟩)
      exact ⟨edge, mem, by simp [kind, fromNode]⟩
  have byName : ast.terminals.map (·.outputType) = ((ast.nodes.map (·.node)).filter fun name =>
      !(workflow.template.nodes.flatMap (·.dependsOn)).contains name).map workflow.artifact := by
    unfold WorkflowActivationAst.terminals
    rw [filter_map, map_map]
    simp only [terminal]
    refine map_congr_left fun node mem => ?_
    exact lowers.outputType_eq typed (mem_of_mem_filter mem)
  have found : ∀ spec ∈ terminalSpecs workflow.template.nodes,
      workflow.artifacts.lookup spec.name = some (workflow.artifact spec.name) := fun spec mem =>
    typed.lookup_artifacts (mem_map_of_mem (mem_of_mem_filter mem))
  unfold LoomWorkflow.terminalTypes
  rw [byName, lowers.names typed, filter_map, map_map, filterMap_congr found,
    filterMap_eq_map']
  rfl

/-- A lowered graph that passes validation came from a lowerable workflow. -/
theorem lowerable (passed : ast.validate = .ok ()) : workflow.Lowerable := by
  obtain ⟨ceilings, passed⟩ := ensure_bind_eq_ok.mp passed
  replace passed := ok_of_ensure passed
  replace passed := ok_of_ensure passed
  obtain ⟨_, _, passed⟩ := bind_eq_ok.mp passed
  obtain ⟨_, nodes, passed⟩ := bind_eq_ok.mp passed
  obtain ⟨_, output⟩ := Bool.and_eq_true_iff.mp (ensure_eq_ok.mp passed)
  have checked : ∀ compiled ∈ workflow.typedNodes, workflow.TypesFit compiled := by
    intro compiled listed
    obtain ⟨node, mem, shape⟩ := lowers.exists_node listed
    exact (lowers.checkNode_iff typed mem listed shape.symm).mp
      (forM_eq_ok.mp nodes node mem)
  refine ⟨?_, ?_, ?_, ?_⟩
  · rw [← lowers.edges_length typed]
    simp only [Bool.not_eq_true', Bool.or_eq_false_iff, decide_eq_false_iff_not, not_lt] at ceilings
    exact ceilings.1.1.2
  · intro node listed controlNode
    have valid := (checked node listed).2.1
    rwa [controlNode] at valid
  · intro node listed one expected signed
    have accepted := (checked node listed).2.2
    have declared : node.1 ∈ workflow.template.nodes := (of_mem_zip listed).1
    rw [workflowNodeAcceptsInputs_eq, typed.length_incoming declared, one,
      Option.mem_def.mp signed] at accepted
    exact accepted
  · intro one
    rw [workflowOutputAccepts_eq, workflowNodeAcceptsInputs_eq, lowers.terminalTypes typed,
      lowers.outputType, one] at output
    exact output

variable (lowerable : workflow.Lowerable)

include lowerable

theorem ceilings : (!(ast.workflowId.isEmpty || ast.workflowDigest.isEmpty ||
      !validWorkflowEvidenceType ast.inputType || !validWorkflowEvidenceType ast.outputType ||
      ast.nodes.isEmpty || decide (ast.nodes.length > graphMaxNodes) || ast.edges.isEmpty ||
      decide (ast.edges.length > graphMaxEdges) || ast.maxBackEdgeActivations == 0 ||
      decide (ast.maxBackEdgeActivations > graphMaxConditionalHops))) = true := by
  have named : workflow.id ≠ "" := typed.identity ▸ typed.template.named
  have count : ast.nodes.length = workflow.template.nodes.length := by
    simpa using congrArg length (lowers.names typed)
  have nonempty : ast.nodes ≠ [] := by
    intro none
    rw [none, length_nil] at count
    exact typed.template.nonempty (eq_nil_of_length_eq_zero count.symm)
  have bounded : ast.nodes.length ≤ graphMaxNodes := count ▸ typed.template.bounded
  have fits : ast.edges.length ≤ graphMaxEdges := lowers.edges_length typed ▸ lowerable.edges
  have some : ast.edges ≠ [] := by
    intro none
    have length := lowers.edges_length typed
    rw [none, length_nil] at length
    omega
  simp [lowers.workflowId, lowers.workflowDigest, lowers.inputType, lowers.outputType, lowers.hops,
    named, typed.digest, validWorkflowEvidenceType, typed.inType, typed.outType, nonempty, some,
    graphMaxConditionalHops, bounded, fits]

/-- The lowered graph of a lowerable workflow passes every check. -/
theorem validate : ast.validate = .ok () := by
  refine ensure_bind_eq_ok.mpr ⟨lowers.ceilings typed lowerable, ?_⟩
  refine ensure_bind_eq_ok.mpr ⟨by simp [(lowers.names_nodup typed).dedup], ?_⟩
  refine ensure_bind_eq_ok.mpr ⟨?_, ?_⟩
  · have nonzero : 0 ∉ ast.edges.map (·.id) := by
      rw [lowers.ids]
      simp
    rw [lowers.ids_nodup.dedup, lowers.graphInputs typed]
    simp only [length_map, beq_self_eq_true, Bool.true_and, Bool.and_true, Bool.not_eq_true']
    exact Bool.eq_false_iff.mpr fun zero => nonzero (contains_iff_mem.mp zero)
  refine bind_eq_ok.mpr ⟨(), ?_, bind_eq_ok.mpr ⟨(), ?_, ?_⟩⟩
  · exact forM_eq_ok.mpr fun edge mem =>
      lowers.checkEdge typed lowerable.control mem
  · refine forM_eq_ok.mpr fun node mem => ?_
    obtain ⟨compiled, listed, shape⟩ := lowers.exists_typedNode mem
    refine (lowers.checkNode_iff typed mem listed shape).mpr ?_
    obtain ⟨input, output⟩ := typed.valid_types lowerable.control listed
    exact ⟨input, output,
      typed.acceptsInputs lowerable.control listed (lowerable.single compiled listed)⟩
  · have types := lowers.terminalTypes typed
    have produced : workflow.terminalTypes ≠ [] := by
      obtain ⟨spec, mem⟩ := exists_mem_of_ne_nil _ typed.terminalSpecs_ne_nil
      have found := typed.lookup_artifacts
        (mem_map_of_mem (mem_of_mem_filter mem) : spec.name ∈ _)
      exact ne_nil_of_mem (mem_filterMap.mpr ⟨spec, mem, found⟩)
    have some : ast.terminals ≠ [] := by
      intro none
      rw [none] at types
      exact produced types.symm
    rw [ensure_eq_ok, workflowOutputAccepts_eq, workflowNodeAcceptsInputs_eq, types,
      lowers.outputType]
    refine Bool.and_eq_true_iff.mpr ⟨by simp [some], ?_⟩
    rcases Nat.lt_or_ge 1 workflow.terminalTypes.length with several | few
    · simpa [several, acceptsCarried] using typed.output several
    · have one : workflow.terminalTypes.length = 1 := by
        have positive := length_pos_iff.mpr produced
        omega
      simpa [one, acceptsCarried] using lowerable.output one

end WorkflowActivationAst.Lowers

/-- A workflow that compiles from a pipe source has an activation AST exactly when it is
lowerable. -/
theorem compiled_workflow_lowers_iff (hash : WorkflowHash) (source : String)
    (lookup : String → Option LoomTypeSig)
    (registry : ∀ atype signature, lookup atype = some signature →
      validTypeExpr signature.inType ∧ validTypeExpr signature.outType) (workflow : LoomWorkflow)
    (compiled : compilePipe hash (parsePipe source) lookup = .ok workflow) :
    (∃ ast, workflowActivationAstFromLoom workflow = .ok ast) ↔ workflow.Lowerable := by
  obtain ⟨start, typed⟩ := wellTyped_of_compilePipe registry valid_types_of_parsePipe compiled
  obtain ⟨ast, lowered, lowers⟩ := typed.loweredAst
  constructor
  · rintro ⟨result, returned⟩
    obtain ⟨other, same, checked⟩ := bind_eq_ok.mp returned
    rw [lowered] at same
    cases same
    obtain ⟨_, passed, _⟩ := bind_eq_ok.mp checked
    exact lowers.lowerable typed passed
  · intro lowerable
    refine ⟨ast, bind_eq_ok.mpr ⟨ast, lowered, bind_eq_ok.mpr ⟨(), ?_, rfl⟩⟩⟩
    exact lowers.validate typed lowerable

/-- A registry of three agent types; the joined input is written in the other order. -/
def reorderedRegistry (atype : String) : Option LoomTypeSig :=
  if atype = "left" then some ⟨"I", "A"⟩
  else if atype = "right" then some ⟨"I", "B"⟩
  else if atype = "merge" then some ⟨"B+A", "O"⟩
  else none

/-- A fork whose branches meet in a control node, before one work node. -/
def reorderedPipe : String :=
  "demo: I -> O\nfork\na @left <-fork\nb @right <-fork\njoin <-a,b\nship @merge"

/-- A hash for tests. -/
def constantHash : WorkflowHash := ⟨fun _ => "0", fun _ => by decide⟩

theorem valid_of_reorderedRegistry (atype : String) (signature : LoomTypeSig)
    (found : reorderedRegistry atype = some signature) :
    validTypeExpr signature.inType ∧ validTypeExpr signature.outType := by
  unfold reorderedRegistry at found
  repeat' split at found
  all_goals cases found
  all_goals decide

/-- The theorem at a pipe that compiles. -/
theorem compiled_workflow_lowers_reordered :
    ∃ workflow, compilePipe constantHash (parsePipe reorderedPipe) reorderedRegistry =
        .ok workflow ∧
      ((∃ ast, workflowActivationAstFromLoom workflow = .ok ast) ↔ workflow.Lowerable) := by
  have compiles : (compilePipe constantHash (parsePipe reorderedPipe)
      reorderedRegistry).isOk = true := by decide +kernel
  cases compiled : compilePipe constantHash (parsePipe reorderedPipe) reorderedRegistry with
  | error failure => simp [compiled, Except.isOk, Except.toBool] at compiles
  | ok workflow =>
    exact ⟨workflow, rfl, compiled_workflow_lowers_iff constantHash reorderedPipe
      reorderedRegistry valid_of_reorderedRegistry workflow compiled⟩

/-- The compiler takes `B+A` for the merge `A + B`; the lowering of the same workflow does not. -/
theorem reorderedPipe_compiles_but_does_not_lower :
    (compilePipe constantHash (parsePipe reorderedPipe) reorderedRegistry).isOk = true ∧
      ((compilePipe constantHash (parsePipe reorderedPipe) reorderedRegistry).toOption.map
        workflowActivationAstFromLoom) =
        some (.error (.invalidAst "workflow node join or typed signature is invalid")) := by
  decide +kernel

end HaiderAgent
