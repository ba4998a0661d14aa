import HaiderAgent.Protocol.Loom.Typing
import HaiderAgent.Protocol.WorkflowAst

/-!
# What the lowering builds

`workflow_activation_ast_from_loom` on a compiled workflow: both loops run to their end, and the
AST they build has one node for each template node, the forward edges in declaration order under
consecutive ids, and after them one back edge for every node that is not a human gate.
-/

namespace HaiderAgent

open List LoweringState

theorem mergeWorkflowTypes_eq (inputs : List String) :
    mergeWorkflowTypes inputs = mergeTypeExprs inputs := by
  match inputs with
  | [] => rfl
  | [_] => rfl
  | first :: second :: rest =>
    unfold mergeWorkflowTypes mergeTypeExprs
    simp only
    rw [filter_flatMap, foldl_flatMap]

/-- What an edge says, without its id. -/
structure EdgeShape where
  kind : WorkflowEdgeKind
  fromNode : Option GraphNodeName
  toNode : GraphNodeName
  evidenceType : String

/-- What a node says, without its joins. -/
structure NodeShape where
  node : GraphNodeName
  inputType : String
  outputType : String

namespace WorkflowActivationEdge

/-- An edge without its id. -/
def shape (edge : WorkflowActivationEdge) : EdgeShape :=
  ⟨edge.kind, edge.fromNode, edge.toNode, edge.evidenceType⟩

end WorkflowActivationEdge

namespace WorkflowActivationNode

/-- A node without its join. -/
def shape (node : WorkflowActivationNode) : NodeShape :=
  ⟨node.node, node.inputType, node.outputType⟩

end WorkflowActivationNode

namespace LoomWorkflow

variable (workflow : LoomWorkflow)

/-- The type a node hands on. -/
def artifact (node : GraphNodeName) : String :=
  (workflow.artifacts.lookup node).getD ""

/-- What reaches a node, and from where. -/
def sources (spec : GraphNodeSpec) : List (Option GraphNodeName × String) :=
  if spec.dependsOn.isEmpty then [(none, workflow.inType)]
  else spec.dependsOn.map fun dependency => (some dependency, workflow.artifact dependency)

/-- The edge that carries one source to a node. -/
def sourceShape (toNode : GraphNodeName) (source : Option GraphNodeName × String) : EdgeShape :=
  ⟨if source.1.isSome then .forward else .graphInput, source.1, toNode, source.2⟩

/-- The edges into a node. -/
def forwardShapes (spec : GraphNodeSpec) : List EdgeShape :=
  (workflow.sources spec).map (sourceShape spec.name)

/-- A node with the types it takes and gives. -/
def nodeShape (node : GraphNodeSpec × LoomNodeMeta) : NodeShape :=
  ⟨node.1.name, node.2.inType.getD (workflow.carried node.1),
    node.2.outType.getD (workflow.carried node.1)⟩

/-- The nodes of the lowered graph. -/
def nodeShapes : List NodeShape :=
  workflow.typedNodes.map workflow.nodeShape

/-- The type a node takes. -/
def inputOf (name : GraphNodeName) : String :=
  (workflow.nodeShapes.find? (·.node == name)).elim "" (·.inputType)

/-- The edge a rejected node wakes its target over. -/
def backShape (start : GraphNodeName) (spec : GraphNodeSpec) : EdgeShape :=
  ⟨.back, some spec.name, spec.redTarget.getD start, workflow.inputOf (spec.redTarget.getD start)⟩

/-- The nodes with a back edge. -/
def retriable : List GraphNodeSpec :=
  workflow.template.nodes.filter (·.gate != .humanConfirm)

end LoomWorkflow

/-- The edges of a node under consecutive ids. -/
def numberedEdges (toNode : GraphNodeName) :
    Nat → List (Option GraphNodeName × String) → List WorkflowActivationEdge
  | _, [] => []
  | id, source :: rest =>
    ⟨id, if source.1.isSome then .forward else .graphInput, source.1, toNode, source.2⟩ ::
      numberedEdges toNode (id + 1) rest

section Numbered

variable (toNode : GraphNodeName) (id : Nat) (sources : List (Option GraphNodeName × String))

theorem numberedEdges_ids :
    (numberedEdges toNode id sources).map (·.id) = range' id sources.length := by
  induction sources generalizing id with
  | nil => rfl
  | cons source rest ih =>
    simp only [numberedEdges, map_cons, length_cons, range'_succ, ih]

theorem numberedEdges_shapes : (numberedEdges toNode id sources).map (·.shape) =
      sources.map (LoomWorkflow.sourceShape toNode) := by
  induction sources generalizing id with
  | nil => rfl
  | cons source rest ih =>
    simp only [numberedEdges, map_cons, ih]
    rfl

theorem length_numberedEdges : (numberedEdges toNode id sources).length = sources.length := by
  simpa using congrArg length (numberedEdges_shapes toNode id sources)

theorem foldlM_pushIncoming (state : LoweringState) (ids : List Nat)
    (room : state.nextEdgeId + sources.length ≤ u32Max) :
    sources.foldlM (pushIncoming toNode) (state, ids) =
      .ok ({ state with
        nextEdgeId := state.nextEdgeId + sources.length
        edges := state.edges ++ numberedEdges toNode state.nextEdgeId sources },
        ids ++ range' state.nextEdgeId sources.length) := by
  induction sources generalizing state ids with
  | nil => simp [numberedEdges, pure, Except.pure]
  | cons source rest ih =>
    rw [length_cons] at room
    have first : pushIncoming toNode (state, ids) source =
        .ok ({ state with
          nextEdgeId := state.nextEdgeId + 1
          edges := state.edges ++ numberedEdges toNode state.nextEdgeId [source] },
          ids ++ [state.nextEdgeId]) := by
      have space : state.nextEdgeId + 1 ≤ u32Max := by omega
      simp [LoweringState.pushIncoming, LoweringState.pushEdge, ExceptFold.ensure, space, bind,
        Except.bind, numberedEdges]
    rw [foldlM_cons, first]
    show rest.foldlM (pushIncoming toNode) _ = _
    rw [ih _ _ (by simp only; omega)]
    simp only [numberedEdges, length_cons, range'_succ, append_assoc,
      singleton_append]
    congr 3
    omega

end Numbered

variable {workflow : LoomWorkflow} {start : GraphNodeName} {node : GraphNodeSpec × LoomNodeMeta}
  {spec : GraphNodeSpec} {name : GraphNodeName} {done rest : List (GraphNodeSpec × LoomNodeMeta)}

theorem map_snd_sources {outputs : HashMap GraphNodeName String}
    (known : ∀ dependency ∈ spec.dependsOn,
      outputs.lookup dependency = some (workflow.artifact dependency)) :
    (workflow.sources spec).map (·.2) = incomingTypes workflow.inType outputs spec := by
  unfold LoomWorkflow.sources incomingTypes
  split
  · rfl
  · rw [filterMap_congr known, filterMap_eq_map', map_map]
    rfl

theorem length_flatMap_forwardShapes (workflow : LoomWorkflow) (specs : List GraphNodeSpec) :
    (specs.flatMap workflow.forwardShapes).length =
      (specs.map (·.dependsOn.length)).sum + (specs.filter (·.dependsOn.isEmpty)).length := by
  induction specs with
  | nil => rfl
  | cons spec rest ih =>
    rw [flatMap_cons, length_append, ih, map_cons, sum_cons, filter_cons]
    unfold LoomWorkflow.forwardShapes LoomWorkflow.sources
    split
    · rename_i root
      have none : spec.dependsOn.length = 0 := by rw [List.isEmpty_iff.mp root]; rfl
      simp only [length_map, length_cons, length_nil, none]
      omega
    · simp only [length_map]
      omega

theorem mem_names_of_path {specs : List GraphNodeSpec} (ordered : Topological specs)
    {source : GraphNodeName} (path : Relation.ReflTransGen (FlowsTo specs) source target)
    (declared : target ∈ specs.map (·.name)) : source ∈ specs.map (·.name) := by
  rcases path.cases_head with rfl | ⟨next, edge, _⟩
  · exact declared
  · obtain ⟨spec, mem, _, depends⟩ := flowsTo_iff.mp edge
    exact ordered.mem_names mem depends

namespace LoomWorkflow.WellTyped

variable (typed : workflow.WellTyped start)

include typed

theorem length_nodeMeta : workflow.template.nodes.length = workflow.nodeMeta.length := by
  simpa using (congrArg length typed.aligned).symm

theorem map_fst_typedNodes : workflow.typedNodes.map (·.1) = workflow.template.nodes :=
  map_fst_zip typed.length_nodeMeta.le

theorem names_typedNodes :
    workflow.typedNodes.map (·.1.name) = workflow.template.nodes.map (·.name) := by
  rw [← typed.map_fst_typedNodes, map_map]
  rfl

theorem find_nodeMeta (mem : node ∈ workflow.typedNodes) :
    workflow.nodeMeta.find? (·.node == node.1.name) = some node.2 := by
  have metaNames : (workflow.nodeMeta.map (·.node)).Nodup := by
    rw [typed.aligned]
    exact typed.template.distinct
  have named := Rows.key_eq_of_mem_zip typed.aligned.symm mem
  exact (Rows.find_eq_some_iff metaNames).mpr ⟨(of_mem_zip mem).2, named.symm⟩

theorem lookup_artifacts (declared : name ∈ workflow.template.nodes.map (·.name)) :
    workflow.artifacts.lookup name = some (workflow.artifact name) := by
  rw [← typed.names_typedNodes] at declared
  have present := lookup_artifactsOf_isSome workflow.inType declared
  exact (Option.getD_of_ne_none (Option.isSome_iff_ne_none.mp present) "").symm

theorem not_mem_rest (split : workflow.typedNodes = done ++ rest)
    (early : name ∈ done.map (·.1.name)) : name ∉ rest.map (·.1.name) := by
  have names := typed.template.distinct
  rw [← typed.names_typedNodes, split, map_append] at names
  exact fun late => (nodup_append.mp names).2.2 name early name late rfl

theorem lookup_prefix (split : workflow.typedNodes = done ++ rest)
    (early : name ∈ done.map (·.1.name)) :
    (artifactsOf workflow.inType done).lookup name = some (workflow.artifact name) := by
  rw [← lookup_artifactsOf_append done rest (typed.not_mem_rest split early), ← split]
  refine typed.lookup_artifacts ?_
  rw [← typed.names_typedNodes, split, map_append]
  exact mem_append_left _ early

theorem dependency_early (split : workflow.typedNodes = done ++ node :: rest) :
    ∀ dependency ∈ node.1.dependsOn, dependency ∈ done.map (·.1.name) := by
  have specs : workflow.template.nodes = done.map (·.1) ++ node.1 :: rest.map (·.1) := by
    rw [← typed.map_fst_typedNodes, split, map_append, map_cons]
  intro dependency depends
  have early := typed.ordered _ _ _ specs dependency depends
  rwa [map_map] at early

theorem map_snd_sources (mem : spec ∈ workflow.template.nodes) :
    (workflow.sources spec).map (·.2) = workflow.incoming spec :=
  HaiderAgent.map_snd_sources fun _ depends =>
    typed.lookup_artifacts (typed.ordered.mem_names mem depends)

theorem incoming_prefix (split : workflow.typedNodes = done ++ node :: rest) {state : LoweringState}
    (outputs : state.outputTypes = artifactsOf workflow.inType done) :
    state.incoming workflow.inType node.1 = .ok (workflow.sources node.1) := by
  unfold LoweringState.incoming sources
  split
  · rfl
  · refine ExceptFold.mapM_eq_ok_map fun dependency depends => ?_
    rw [outputs, typed.lookup_prefix split (typed.dependency_early split dependency depends)]

theorem carried_prefix (split : workflow.typedNodes = done ++ node :: rest) :
    carriedType workflow.inType (artifactsOf workflow.inType done) node.1 =
      workflow.carried node.1 := by
  have mem : node.1 ∈ workflow.template.nodes := by
    rw [← typed.map_fst_typedNodes, split]
    simp
  have early : ∀ dependency ∈ node.1.dependsOn,
      (artifactsOf workflow.inType done).lookup dependency =
        some (workflow.artifact dependency) := fun dependency depends =>
    typed.lookup_prefix split (typed.dependency_early split dependency depends)
  have types := HaiderAgent.map_snd_sources early
  unfold carried carriedType
  rw [← types, typed.map_snd_sources mem]
  rfl

/-- Edge ids last: a valid template has few dependencies. -/
theorem length_forward_le (split : workflow.typedNodes = done ++ rest) :
    (done.flatMap fun node => workflow.forwardShapes node.1).length ≤
      graphMaxEdges + graphMaxNodes := by
  have whole := length_flatMap_forwardShapes workflow workflow.template.nodes
  have roots := length_filter_le (·.dependsOn.isEmpty) workflow.template.nodes
  have edges := typed.template.edges
  have bounded := typed.template.bounded
  rw [← typed.map_fst_typedNodes, flatMap_map, split, flatMap_append, length_append,
    ← split, typed.map_fst_typedNodes] at whole
  omega

theorem redTarget_path (mem : spec ∈ workflow.template.nodes) :
    Relation.ReflTransGen (FlowsTo workflow.template.nodes) (spec.redTarget.getD start)
      spec.name := by
  cases red : spec.redTarget with
  | none => exact typed.template.reached spec mem
  | some target => exact typed.template.red spec mem target red

theorem redTarget_mem (mem : spec ∈ workflow.template.nodes) :
    spec.redTarget.getD start ∈ workflow.template.nodes.map (·.name) :=
  mem_names_of_path typed.ordered (typed.redTarget_path mem) (mem_map_of_mem mem)

theorem names_nodeShapes :
    workflow.nodeShapes.map (·.node) = workflow.template.nodes.map (·.name) := by
  rw [← typed.names_typedNodes]
  unfold nodeShapes
  rw [map_map]
  rfl

end LoomWorkflow.WellTyped

/-- What the first loop has built when it has done a part of the nodes. -/
structure LoweringState.Forward (workflow : LoomWorkflow)
    (done : List (GraphNodeSpec × LoomNodeMeta)) (state : LoweringState) : Prop where
  nextId : state.nextEdgeId = state.edges.length + 1
  ids : state.edges.map (·.id) = range' 1 state.edges.length
  shapes : state.edges.map (·.shape) = done.flatMap fun node => workflow.forwardShapes node.1
  nodes : state.nodes.map (·.shape) = done.map workflow.nodeShape
  initial : ∀ node ∈ state.nodes,
    node.join.initialAll = (state.edges.filter (·.toNode == node.node)).map (·.id)
  reactivate : ∀ node ∈ state.nodes, node.join.reactivateAny = []
  outputs : state.outputTypes = artifactsOf workflow.inType done

variable {shape : EdgeShape} {edge : WorkflowActivationEdge} {state : LoweringState} {i : Nat}

theorem toNode_of_mem_forwardShapes (mem : shape ∈ workflow.forwardShapes spec) :
    shape.toNode = spec.name := by
  obtain ⟨source, _, rfl⟩ := mem_map.mp mem
  rfl

theorem kind_of_mem_forwardShapes (mem : shape ∈ workflow.forwardShapes spec)
    : shape.kind ≠ .back := by
  obtain ⟨source, _, rfl⟩ := mem_map.mp mem
  unfold LoomWorkflow.sourceShape
  split <;> simp

theorem toNode_of_mem_numberedEdges {toNode : GraphNodeName} {id : Nat}
    {sources : List (Option GraphNodeName × String)}
    (mem : edge ∈ numberedEdges toNode id sources) : edge.toNode = toNode := by
  have shaped : edge.shape ∈ (numberedEdges toNode id sources).map (·.shape) :=
    mem_map_of_mem mem
  rw [numberedEdges_shapes] at shaped
  obtain ⟨source, _, same⟩ := mem_map.mp shaped
  exact (congrArg EdgeShape.toNode same).symm

namespace LoweringState.Forward

variable (forward : state.Forward workflow done)

include forward

theorem shape_mem (mem : edge ∈ state.edges) :
    ∃ node ∈ done, edge.shape ∈ workflow.forwardShapes node.1 := by
  rw [← mem_flatMap, ← forward.shapes]
  exact mem_map_of_mem mem

theorem toNode_mem (mem : edge ∈ state.edges) : edge.toNode ∈ done.map (·.1.name) := by
  obtain ⟨node, declared, shape⟩ := forward.shape_mem mem
  have target : edge.toNode = node.1.name := toNode_of_mem_forwardShapes shape
  rw [target]
  exact mem_map_of_mem declared

theorem node_mem {node : WorkflowActivationNode} (mem : node ∈ state.nodes)
    : node.node ∈ done.map (·.1.name) := by
  have shaped : node.shape ∈ state.nodes.map (·.shape) := mem_map_of_mem mem
  rw [forward.nodes] at shaped
  obtain ⟨declared, listed, same⟩ := mem_map.mp shaped
  have name : declared.1.name = node.node := congrArg NodeShape.node same
  rw [← name]
  exact mem_map_of_mem listed

theorem kind_ne_back (mem : edge ∈ state.edges) : edge.kind ≠ .back := by
  obtain ⟨node, _, shape⟩ := forward.shape_mem mem
  exact kind_of_mem_forwardShapes shape

/-- One turn of the node loop: the edges and the node the specification lists. -/
theorem lowerNode (typed : workflow.WellTyped start)
    (split : workflow.typedNodes = done ++ node :: rest) :
    ∃ next, lowerNode workflow state node.1 = .ok next ∧
      next.Forward workflow (done ++ [node]) := by
  have mem : node ∈ workflow.typedNodes := by
    rw [split]
    simp
  have declared : node.1 ∈ workflow.template.nodes := (of_mem_zip mem).1
  have isNew : node.1.name ∉ done.map (·.1.name) := fun early =>
    typed.not_mem_rest split early mem_cons_self
  have carried : mergeWorkflowTypes ((workflow.sources node.1).map (·.2)) =
      workflow.carried node.1 := by
    rw [mergeWorkflowTypes_eq, typed.map_snd_sources declared]
    rfl
  have count : state.edges.length =
      (done.flatMap fun node => workflow.forwardShapes node.1).length := by
    simpa using congrArg length forward.shapes
  have room : state.nextEdgeId + (workflow.sources node.1).length ≤ u32Max := by
    have split' : workflow.typedNodes = (done ++ [node]) ++ rest := by simpa using split
    have few := typed.length_forward_le split'
    rw [flatMap_append, length_append, ← count] at few
    simp only [flatMap_cons, flatMap_nil, append_nil, LoomWorkflow.forwardShapes,
      length_map] at few
    rw [forward.nextId]
    unfold graphMaxEdges graphMaxNodes at few
    unfold u32Max
    omega
  unfold LoweringState.lowerNode
  rw [typed.find_nodeMeta mem]
  simp only
  rw [typed.incoming_prefix split forward.outputs]
  simp only [bind, Except.bind]
  rw [foldlM_pushIncoming node.1.name (workflow.sources node.1) state [] room]
  simp only [carried]
  refine ⟨_, rfl, ?_, ?_, ?_, ?_, ?_, ?_, ?_⟩
  · simp only [length_append, length_numberedEdges, forward.nextId]
    omega
  · simp only [map_append, length_append, length_numberedEdges, numberedEdges_ids,
      forward.ids, forward.nextId]
    rw [Nat.add_comm state.edges.length 1, ← range'_append_1]
  · simp only [map_append, forward.shapes, numberedEdges_shapes, flatMap_append]
    simp [LoomWorkflow.forwardShapes]
  · simp only [map_append, forward.nodes]
    rfl
  · intro other listed
    simp only [filter_append, map_append]
    rcases mem_append.mp listed with old | new
    · have elsewhere : (numberedEdges node.1.name state.nextEdgeId
          (workflow.sources node.1)).filter (·.toNode == other.node) = [] := by
        refine filter_eq_nil_iff.mpr fun edge numbered same => isNew ?_
        rw [← toNode_of_mem_numberedEdges numbered, eq_of_beq same]
        exact forward.node_mem old
      rw [elsewhere, map_nil, append_nil]
      exact forward.initial other old
    · have name : other.node = node.1.name := by rw [mem_singleton.mp new]
      have elsewhere : state.edges.filter (·.toNode == node.1.name) = [] := by
        refine filter_eq_nil_iff.mpr fun edge earlier same => isNew ?_
        rw [← eq_of_beq same]
        exact forward.toNode_mem earlier
      have here : (numberedEdges node.1.name state.nextEdgeId
          (workflow.sources node.1)).filter (·.toNode == node.1.name) =
            numberedEdges node.1.name state.nextEdgeId (workflow.sources node.1) := by
        refine filter_eq_self.mpr fun edge numbered => ?_
        simp [toNode_of_mem_numberedEdges numbered]
      rw [name, elsewhere, here, numberedEdges_ids, mem_singleton.mp new]
      rfl
  · intro other listed
    rcases mem_append.mp listed with old | new
    · exact forward.reactivate other old
    · rw [mem_singleton.mp new]
  · simp only
    rw [artifactsOf_append, forward.outputs]
    unfold artifactStep
    rw [typed.carried_prefix split]

end LoweringState.Forward

theorem LoomWorkflow.WellTyped.foldlM_lowerNode (typed : workflow.WellTyped start) :
    ∃ state, workflow.template.nodes.foldlM (lowerNode workflow) {} = .ok state ∧
      state.Forward workflow workflow.typedNodes := by
  rw [← typed.map_fst_typedNodes, foldlM_map]
  refine ExceptFold.foldlM_prefix (P := Forward workflow)
    ⟨rfl, rfl, rfl, rfl, nofun, nofun, rfl⟩ ?_
  intro done node rest state split forward
  exact forward.lowerNode typed split

/-- With distinct keys, updating the first element of a key updates every one. -/
theorem modify_findIdx_eq_map {α κ : Type} [DecidableEq κ] {key : α → κ} {wanted : κ}
    {xs : List α} (update : α → α) (distinct : (xs.map key).Nodup)
    (found : xs.findIdx? (key · == wanted) = some i) :
    xs.modify i update = xs.map fun x => if key x = wanted then update x else x := by
  induction xs generalizing i with
  | nil => cases found
  | cons x xs ih =>
    rw [map_cons, nodup_cons] at distinct
    rw [findIdx?_cons] at found
    split at found
    · next here =>
      cases found
      have own : key x = wanted := eq_of_beq here
      rw [modify_zero_cons, map_cons, if_pos own, Rows.map_update_of_not_mem (own ▸ distinct.1)]
    · next other =>
      obtain ⟨j, later, rfl⟩ := Option.map_eq_some_iff.mp found
      rw [modify_succ_cons, map_cons, if_neg (mt beq_iff_eq.mpr other), ih distinct.2 later]

/-- What the second loop has built when it has done a part of the retriable nodes. -/
structure LoweringState.WithBack (workflow : LoomWorkflow) (start : GraphNodeName)
    (done : List GraphNodeSpec) (state : LoweringState) : Prop where
  nextId : state.nextEdgeId = state.edges.length + 1
  ids : state.edges.map (·.id) = range' 1 state.edges.length
  shapes : state.edges.map (·.shape) =
    (workflow.typedNodes.flatMap fun node => workflow.forwardShapes node.1) ++
      done.map (workflow.backShape start)
  nodes : state.nodes.map (·.shape) = workflow.nodeShapes
  initial : ∀ node ∈ state.nodes, node.join.initialAll =
    (state.edges.filter fun edge => edge.toNode == node.node && edge.kind != .back).map (·.id)
  reactivate : ∀ node ∈ state.nodes, node.join.reactivateAny =
    (state.edges.filter fun edge => edge.toNode == node.node && edge.kind == .back).map (·.id)

variable {done : List GraphNodeSpec}

theorem LoweringState.Forward.withBack (forward : state.Forward workflow workflow.typedNodes) :
    state.WithBack workflow start [] := by
  refine ⟨forward.nextId, forward.ids, ?_, forward.nodes, ?_, ?_⟩
  · rw [forward.shapes, map_nil, append_nil]
  · intro node mem
    rw [forward.initial node mem]
    refine congrArg (map _) (filter_congr fun edge listed => ?_)
    simp [forward.kind_ne_back listed]
  · intro node mem
    rw [forward.reactivate node mem, filter_eq_nil_iff.mpr, map_nil]
    intro edge listed
    simp [forward.kind_ne_back listed]

namespace LoweringState.WithBack

variable {target : GraphNodeName} (built : state.WithBack workflow start done)

include built

theorem inputType_at (found : state.nodes.findIdx? (·.node == target) = some i) :
    (state.nodes[i]?).elim "" (·.inputType) = workflow.inputOf target := by
  obtain ⟨inBounds, here, earlier⟩ := findIdx?_eq_some_iff_getElem.mp found
  have first : state.nodes.find? (·.node == target) = some state.nodes[i] :=
    find?_eq_some_iff_getElem.mpr
      ⟨here, i, inBounds, rfl, fun j before => by simpa using earlier j before⟩
  unfold LoomWorkflow.inputOf
  rw [← built.nodes, find?_map, getElem?_eq_getElem inBounds]
  have shaped : ((·.node == target) ∘ WorkflowActivationNode.shape) =
      fun node : WorkflowActivationNode => node.node == target := rfl
  rw [shaped, first]
  rfl

variable (typed : workflow.WellTyped start)

include typed

theorem names : state.nodes.map (·.node) = workflow.template.nodes.map (·.name) := by
  rw [← typed.names_nodeShapes, ← built.nodes, map_map]
  rfl

/-- One turn of the back-edge loop. -/
theorem lowerBackEdge (mem : spec ∈ workflow.template.nodes) (few : done.length ≤ graphMaxNodes)
    : ∃ next, lowerBackEdge start state spec = .ok next ∧
      next.WithBack workflow start (done ++ [spec]) := by
  have distinct : (state.nodes.map (·.node)).Nodup := by
    rw [built.names typed]
    exact typed.template.distinct
  obtain ⟨i, found⟩ : ∃ i, state.nodes.findIdx? (·.node == spec.redTarget.getD start) = some i := by
    refine Option.isSome_iff_exists.mp ?_
    rw [findIdx?_isSome, any_eq_true]
    have listed := typed.redTarget_mem mem
    rw [← built.names typed] at listed
    obtain ⟨node, inNodes, named⟩ := mem_map.mp listed
    exact ⟨node, inNodes, beq_iff_eq.mpr named⟩
  have room : state.nextEdgeId + 1 ≤ u32Max := by
    have count := congrArg length built.shapes
    simp only [length_map, length_append] at count
    have forward := typed.length_forward_le (append_nil workflow.typedNodes).symm
    rw [built.nextId]
    unfold graphMaxEdges graphMaxNodes at forward
    unfold graphMaxNodes at few
    unfold u32Max
    omega
  unfold LoweringState.lowerBackEdge
  simp only [found]
  rw [built.inputType_at found]
  simp only [LoweringState.pushEdge, ExceptFold.ensure, room, decide_true, if_true, bind,
    Except.bind]
  rw [modify_findIdx_eq_map _ distinct found]
  refine ⟨_, rfl, ?_, ?_, ?_, ?_, ?_, ?_⟩
  · simp [built.nextId]
  · simp only [map_append, built.ids, length_append, map_cons, map_nil,
      built.nextId, length_singleton, range'_1_concat, Nat.add_comm]
  · simp only [map_append, built.shapes, append_assoc]
    rfl
  · rw [← built.nodes, map_map]
    refine map_congr_left fun node _ => ?_
    simp only [Function.comp_apply]
    split <;> rfl
  · intro node listed
    obtain ⟨old, inNodes, rfl⟩ := mem_map.mp listed
    have kept := built.initial old inNodes
    split
    all_goals simp [kept]
  · intro node listed
    obtain ⟨old, inNodes, rfl⟩ := mem_map.mp listed
    have kept := built.reactivate old inNodes
    split
    · rename_i target
      simp [kept, target]
    · rename_i other
      have elsewhere : (spec.redTarget.getD start == old.node) = false := by
        simpa using fun same => other same.symm
      simp [kept, elsewhere]

end LoweringState.WithBack

theorem LoomWorkflow.WellTyped.foldlM_lowerBackEdge (typed : workflow.WellTyped start)
    (built : state.WithBack workflow start []) :
    ∃ next, workflow.retriable.foldlM (lowerBackEdge start) state = .ok next ∧
      next.WithBack workflow start workflow.retriable := by
  have bounded : workflow.retriable.length ≤ graphMaxNodes :=
    (length_filter_le _ _).trans typed.template.bounded
  refine ExceptFold.foldlM_prefix (P := WithBack workflow start) built ?_
  intro done spec rest middle split kept
  rw [split, length_append] at bounded
  have listed : spec ∈ workflow.retriable := by
    rw [split]
    simp
  exact kept.lowerBackEdge typed (mem_of_mem_filter listed) (by omega)

/-- The AST that a compiled workflow lowers to. -/
structure WorkflowActivationAst.Lowers (workflow : LoomWorkflow) (start : GraphNodeName)
    (ast : WorkflowActivationAst) : Prop where
  workflowId : ast.workflowId = workflow.id
  workflowDigest : ast.workflowDigest = workflow.digest
  inputType : ast.inputType = workflow.inType
  outputType : ast.outputType = workflow.outType
  hops : ast.maxBackEdgeActivations = graphMaxConditionalHops
  ids : ast.edges.map (·.id) = range' 1 ast.edges.length
  shapes : ast.edges.map (·.shape) =
    (workflow.typedNodes.flatMap fun node => workflow.forwardShapes node.1) ++
      workflow.retriable.map (workflow.backShape start)
  nodes : ast.nodes.map (·.shape) = workflow.nodeShapes
  initial : ∀ node ∈ ast.nodes,
    node.join.initialAll = (ast.initialEdges node.node).map (·.id)
  reactivate : ∀ node ∈ ast.nodes,
    node.join.reactivateAny = (ast.backEdges node.node).map (·.id)

/-- Both loops run to their end on a compiled workflow. -/
theorem LoomWorkflow.WellTyped.loweredAst (typed : workflow.WellTyped start) :
    ∃ ast, HaiderAgent.loweredAst workflow = .ok ast ∧ ast.Lowers workflow start := by
  obtain ⟨middle, firstLoop, forward⟩ := typed.foldlM_lowerNode
  obtain ⟨state, secondLoop, built⟩ := typed.foldlM_lowerBackEdge forward.withBack
  unfold HaiderAgent.loweredAst
  rw [if_neg (not_not.mpr typed.length_nodeMeta), typed.template.started]
  simp only [firstLoop, bind, Except.bind]
  unfold LoomWorkflow.retriable at secondLoop
  rw [secondLoop]
  exact ⟨_, rfl, rfl, rfl, rfl, rfl, rfl, built.ids, built.shapes, built.nodes, built.initial,
    built.reactivate⟩

end HaiderAgent
