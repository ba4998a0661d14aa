import HaiderAgent.Lib.ExceptFold
import HaiderAgent.Lib.Rows
import HaiderAgent.Lib.Text
import HaiderAgent.Lib.Worklist
import HaiderAgent.Protocol.GraphPayload

/-!
# Convergence Graph templates

`validate_graph_template` (`haider-protocol/src/graph.rs`): the bounds, the names, the gates and the
dependency structure every catalog entry passes before it may be pinned, and what a template that
passed is known to satisfy.
-/

namespace HaiderAgent

open List ExceptFold

open ExceptFold (ensure insertEach)

/-- Rust `u32::MAX`. -/
def u32Max : Nat := 2 ^ 32 - 1

/-- Rust `u32::saturating_add(1)`. -/
def u32Succ (n : Nat) : Nat := min (n + 1) u32Max

/-- `u32::try_from(n).unwrap_or(u32::MAX)`. -/
def u32Saturate (n : Nat) : Nat := min n u32Max

/-- `GRAPH_TEMPLATE_VERSION`; the ceilings below are graph.rs constants too. -/
def graphTemplateVersion : Nat := 1

def graphNodeNameMaxBytes : Nat := 64

def graphMaxNodes : Nat := 512

def graphMaxEdges : Nat := 4096

def graphMaxSlots : Nat := 4096

def graphMaxAttempts : Nat := 8

def graphMaxEvidencePerAttempt : Nat := 8

/-- Why a template is refused. -/
inductive GraphTemplateRejection where
  | overCeiling | noStart | duplicateNode | unknownDependency | invalidGate | cycle
  | unreachableNode
  deriving DecidableEq, Repr

/-- `GraphTemplateError`: the refusal with its text. -/
structure GraphTemplateError where
  kind : GraphTemplateRejection
  message : String
  deriving DecidableEq, Repr

variable (specs : List GraphNodeSpec) (node : GraphNodeName)

/-- The nodes that list `node` as a dependency, in declaration order. -/
def graphDependents : List GraphNodeName :=
  (specs.filter fun candidate => candidate.dependsOn.contains node).map (·.name)

/-- What the first declaration of `node` depends on. -/
def graphDependencies : List GraphNodeName :=
  match specs.find? (·.name == node) with
  | some spec => spec.dependsOn
  | none => []

/-- `graph_dependency_ancestors`; as many pops as there are dependencies suffice. -/
def graphDependencyAncestors : List GraphNodeName :=
  let queue := graphDependencies specs node
  Worklist.collect (graphDependencies specs)
    (queue.length + (specs.map (·.dependsOn.length)).sum + 1) [] queue

/-- One dependent of a popped node loses an incoming edge and is queued with its last one. -/
def releaseDependent (indegree : HashMap GraphNodeName Nat) (queue : List GraphNodeName)
    (dependent : GraphNodeName) : HashMap GraphNodeName Nat × List GraphNodeName :=
  match indegree.lookup dependent with
  | none => (indegree, queue)
  | some count =>
    (indegree.insert dependent (count - 1),
      if count - 1 = 0 then queue ++ [dependent] else queue)

/-- The queue of the cycle check. Every declaration is queued at most once. -/
def releaseLoop (specs : List GraphNodeSpec) :
    Nat → HashMap GraphNodeName Nat → List GraphNodeName → Nat → Nat
  | 0, _, _, visited => visited
  | _ + 1, _, [], visited => visited
  | fuel + 1, indegree, node :: queue, visited =>
    let (indegree, queue) := (graphDependents specs node).foldl
      (fun state dependent => releaseDependent state.1 state.2 dependent) (indegree, queue)
    releaseLoop specs fuel indegree queue (visited + 1)

/-- How many nodes the cycle check of `validate_graph_template` visits. -/
def releasedCount : Nat :=
  let indegree := specs.foldl
    (fun (acc : HashMap GraphNodeName Nat) node => acc.insert node.name node.dependsOn.length) ∅
  let queue := (specs.filter (·.dependsOn.isEmpty)).map (·.name)
  releaseLoop specs (specs.length + 1) indegree queue 0

/-- The nodes `validate_graph_template` reaches from the start node. -/
def graphReachable (start : GraphNodeName) : List GraphNodeName :=
  Worklist.explore (graphDependents specs) (specs.length + 1) [start] [start]

namespace GraphNodeSpec

/-- A red target is declared, not a human gate, and the node itself or an ancestor. -/
def checkRedTarget (specs : List GraphNodeSpec) (node : GraphNodeSpec) :
    Except GraphTemplateError Unit :=
  match node.redTarget with
  | none => .ok ()
  | some target => do
    ensure ((specs.map (·.name)).contains target)
      ⟨.unknownDependency, "graph node " ++ node.name ++ " has an unknown red target " ++ target⟩
    ensure (node.gate != .humanConfirm)
      ⟨.invalidGate, "human graph node " ++ node.name ++ " cannot declare a red target"⟩
    ensure (target == node.name || (graphDependencyAncestors specs node.name).contains target)
      ⟨.invalidGate,
        "graph node " ++ node.name ++ " red target " ++ target ++ " is not a dependency ancestor"⟩

/-- Every evidence slot has a bounded identifier of its own. -/
def checkSlots (node : GraphNodeSpec) : Except GraphTemplateError Unit :=
  let rejected : GraphTemplateError :=
    ⟨.invalidGate, "graph node " ++ node.name ++ " has an invalid or duplicate evidence slot"⟩
  insertEach (·.id)
    (fun slot => ensure (!slot.id.isEmpty && slot.id.utf8ByteSize ≤ 64 &&
      slot.id.toList.all Text.isIdentChar) rejected)
    (fun _ => rejected) [] node.verifySlots

/-- The gate fits the node's slots, executor and evidence bound. -/
def checkGate (node : GraphNodeSpec) : Except GraphTemplateError Unit :=
  match node.gate with
  | .allOfN n =>
    ensure (!(n == 0 || (!node.verifySlots.isEmpty && n != u32Saturate node.verifySlots.length)))
      ⟨.invalidGate, "graph node " ++ node.name ++ " has an incoherent all-of-n gate"⟩
  | .humanConfirm =>
    ensure (!(node.executor != .human || node.maxEvidencePerAttempt.isSome ||
      !node.verifySlots.isEmpty))
      ⟨.invalidGate, "graph node " ++ node.name ++ " has an incoherent human gate"⟩
  | .commandGreen => .ok ()

/-- The body of `validate_graph_template`'s loop over the nodes. -/
def check (specs : List GraphNodeSpec) (node : GraphNodeSpec) : Except GraphTemplateError Unit := do
  ensure (!(node.maxAttempts == 0 || node.maxAttempts > graphMaxAttempts))
    ⟨.overCeiling, "graph node " ++ node.name ++ " exceeds the attempt ceiling"⟩
  ensure (!node.maxEvidencePerAttempt.any fun limit =>
      limit == 0 || limit > graphMaxEvidencePerAttempt)
    ⟨.overCeiling, "graph node " ++ node.name ++ " exceeds the evidence ceiling"⟩
  insertEach id
    (fun dependency => ensure ((specs.map (·.name)).contains dependency)
      ⟨.unknownDependency,
        "graph node " ++ node.name ++ " depends on unknown node " ++ dependency⟩)
    (fun dependency =>
      ⟨.duplicateNode, "graph node " ++ node.name ++ " repeats dependency " ++ dependency⟩)
    [] node.dependsOn
  node.checkRedTarget specs
  node.checkSlots
  node.checkGate

end GraphNodeSpec

/-- `validate_graph_template`, its checks in the source's order. -/
def validateGraphTemplate (template : GraphTemplateSpec) : Except GraphTemplateError Unit := do
  ensure (!(template.name.isEmpty || template.name.utf8ByteSize > 64 || template.version == 0 ||
      template.nodes.isEmpty || template.nodes.length > graphMaxNodes))
    ⟨.overCeiling, "graph template name/version/node count is outside its bounded ceiling"⟩
  match template.startNode with
  | none => .error ⟨.noStart, "graph template does not declare a start node"⟩
  | some startNode => do
    insertEach (·.name) (fun _ => .ok ())
      (fun node => ⟨.duplicateNode, "graph template repeats node " ++ node.name⟩) [] template.nodes
    match template.nodes.find? (·.name == startNode) with
    | none =>
      .error ⟨.noStart,
        "declared start node " ++ startNode ++ " is absent from the graph template"⟩
    | some startSpec => do
      ensure startSpec.dependsOn.isEmpty
        ⟨.noStart, "declared start node " ++ startNode ++ " has incoming dependencies"⟩
      ensure (!((template.nodes.map (·.dependsOn.length)).sum > graphMaxEdges ||
          (template.nodes.map (·.verifySlots.length)).sum > graphMaxSlots))
        ⟨.overCeiling, "graph template exceeds its edge or evidence-slot ceiling"⟩
      forM template.nodes (GraphNodeSpec.check template.nodes)
      ensure (releasedCount template.nodes == template.nodes.length)
        ⟨.cycle, "graph template contains a dependency cycle"⟩
      match template.nodes.find? fun node =>
          !(graphReachable template.nodes startNode).contains node.name with
      | some node =>
        .error ⟨.unreachableNode,
          "graph node " ++ node.name ++ " is unreachable from " ++ startNode⟩
      | none => .ok ()

/-- A dependency edge of the template, in the direction readiness flows. -/
def FlowsTo (source target : GraphNodeName) : Prop :=
  target ∈ graphDependents specs source

variable {specs : List GraphNodeSpec}

theorem flowsTo_iff {source target : GraphNodeName} :
    FlowsTo specs source target ↔ ∃ spec ∈ specs, spec.name = target ∧ source ∈ spec.dependsOn := by
  unfold FlowsTo graphDependents
  simp only [mem_map, mem_filter, contains_eq_mem, decide_eq_true_eq]
  constructor
  · rintro ⟨spec, ⟨mem, depends⟩, named⟩
    exact ⟨spec, mem, named, depends⟩
  · rintro ⟨spec, mem, named, depends⟩
    exact ⟨spec, ⟨mem, depends⟩, named⟩

theorem flowsTo_of_mem_dependencies {node dependency : GraphNodeName}
    (depends : dependency ∈ graphDependencies specs node) : FlowsTo specs dependency node := by
  unfold graphDependencies at depends
  cases found : specs.find? (·.name == node) with
  | none =>
    rw [found] at depends
    cases depends
  | some spec =>
    rw [found] at depends
    have named : spec.name = node := by simpa using find?_some found
    exact flowsTo_iff.mpr ⟨spec, mem_of_find?_eq_some found, named, depends⟩

theorem path_of_mem_ancestors {node ancestor : GraphNodeName}
    (mem : ancestor ∈ graphDependencyAncestors specs node) :
    Relation.TransGen (FlowsTo specs) ancestor node := by
  refine Worklist.collect_invariant (graphDependencies specs)
    (fun v => Relation.TransGen (FlowsTo specs) v node) ?_ _ (by simp) ?_ _ mem
  · intro v path dependency depends
    exact Relation.TransGen.head (flowsTo_of_mem_dependencies depends) path
  · intro dependency depends
    exact Relation.TransGen.single (flowsTo_of_mem_dependencies depends)

variable {start : GraphNodeName}

theorem mem_names_of_flowsTo (source target : GraphNodeName) (flows : FlowsTo specs source target) :
    target ∈ (specs.map (·.name)).toFinset := by
  obtain ⟨spec, mem, named, _⟩ := flowsTo_iff.mp flows
  exact mem_toFinset.mpr (mem_map.mpr ⟨spec, mem, named⟩)

theorem card_names_le : (specs.map (·.name)).toFinset.card ≤ specs.length := by
  rw [← length_map (·.name)]
  exact toFinset_card_le _

/-- The nodes explored from the start node are those readiness flows to. -/
theorem mem_reachable_iff {node : GraphNodeName} :
    node ∈ graphReachable specs start ↔ Relation.ReflTransGen (FlowsTo specs) start node :=
  Worklist.mem_explore_iff mem_names_of_flowsTo (Nat.succ_le_succ card_names_le)

/-- The bounds, slots and gate of a node are coherent, and it names declared nodes. -/
structure GraphNodeSpec.Coherent (specs : List GraphNodeSpec) (node : GraphNodeSpec) : Prop where
  attempts : 0 < node.maxAttempts ∧ node.maxAttempts ≤ graphMaxAttempts
  evidence : ∀ limit, node.maxEvidencePerAttempt = some limit →
    0 < limit ∧ limit ≤ graphMaxEvidencePerAttempt
  dependencies : ∀ dependency ∈ node.dependsOn, dependency ∈ specs.map (·.name)
  red : ∀ target, node.redTarget = some target →
    target ∈ specs.map (·.name) ∧ node.gate ≠ .humanConfirm
  slots : node.checkSlots = .ok ()
  gate : node.checkGate = .ok ()

/-- The bounds of a template and of its nodes are coherent, and its names are unique. -/
structure GraphTemplateSpec.Coherent (template : GraphTemplateSpec) : Prop where
  named : template.name ≠ "" ∧ template.name.utf8ByteSize ≤ 64
  version : template.version ≠ 0
  size : template.nodes ≠ [] ∧ template.nodes.length ≤ graphMaxNodes
  edges : (template.nodes.map (·.dependsOn.length)).sum ≤ graphMaxEdges
  slots : (template.nodes.map (·.verifySlots.length)).sum ≤ graphMaxSlots
  distinct : (template.nodes.map (·.name)).Nodup
  nodes : ∀ node ∈ template.nodes, node.Coherent template.nodes

/-- What the checks of one node ask of it. -/
theorem GraphNodeSpec.check_eq_ok {node : GraphNodeSpec} :
    node.check specs = .ok () ↔ node.Coherent specs ∧ node.dependsOn.Nodup ∧
      ∀ target, node.redTarget = some target →
        target = node.name ∨ target ∈ graphDependencyAncestors specs node.name := by
  have red : node.checkRedTarget specs = .ok () ↔ ∀ target, node.redTarget = some target →
      (target ∈ specs.map (·.name) ∧ node.gate ≠ .humanConfirm) ∧
        (target = node.name ∨ target ∈ graphDependencyAncestors specs node.name) := by
    unfold checkRedTarget
    cases node.redTarget with
    | none => simp
    | some target => simp [ensure_bind_eq_ok, ensure_eq_ok, and_assoc]
  unfold check
  simp only [bind_eq_ok, Unique.exists_iff, PUnit.default_eq_unit, insertEach_eq_ok, ensure_eq_ok,
    red]
  constructor
  · rintro ⟨attempts, evidence, ⟨declared, distinct, _⟩, targets, slots, gate⟩
    refine ⟨⟨?_, ?_, by simpa using declared, fun target listed => (targets target listed).1,
      slots, gate⟩, by simpa using distinct, fun target listed => (targets target listed).2⟩
    · simp at attempts
      omega
    · intro limit bounded
      simp [bounded] at evidence
      omega
  · rintro ⟨coherent, distinct, targets⟩
    refine ⟨?_, ?_, ⟨by simpa using coherent.dependencies, by simpa using distinct, by simp⟩,
      fun target listed => ⟨coherent.red target listed, targets target listed⟩, coherent.slots,
      coherent.gate⟩
    · have := coherent.attempts
      simp
      omega
    · cases bounded : node.maxEvidencePerAttempt with
      | none => rfl
      | some limit =>
        have := coherent.evidence limit bounded
        simp
        omega

/-- What `validate_graph_template` accepts. -/
theorem validateGraphTemplate_eq_ok {template : GraphTemplateSpec} :
    validateGraphTemplate template = .ok () ↔ template.Coherent ∧
      (∀ node ∈ template.nodes, node.dependsOn.Nodup ∧ ∀ target, node.redTarget = some target →
        target = node.name ∨ target ∈ graphDependencyAncestors template.nodes node.name) ∧
      releasedCount template.nodes = template.nodes.length ∧
      ∃ start, template.startNode = some start ∧
        (∃ root ∈ template.nodes, root.name = start ∧ root.dependsOn = []) ∧
        ∀ node ∈ template.nodes, node.name ∈ graphReachable template.nodes start := by
  unfold validateGraphTemplate
  rw [ensure_bind_eq_ok]
  constructor
  · rintro ⟨ceilings, passed⟩
    simp only [Bool.not_eq_true', Bool.or_eq_false_iff, decide_eq_false_iff_not, not_lt,
      beq_eq_false_iff_ne] at ceilings
    obtain ⟨⟨⟨⟨unnamed, short⟩, version⟩, empty⟩, bounded⟩ := ceilings
    cases started : template.startNode with
    | none =>
      rw [started] at passed
      cases passed
    | some start =>
    rw [started] at passed
    obtain ⟨_, unique, passed⟩ := bind_eq_ok.mp passed
    obtain ⟨_, distinct, _⟩ := insertEach_eq_ok.mp unique
    cases found : template.nodes.find? (·.name == start) with
    | none =>
      rw [found] at passed
      cases passed
    | some root =>
    rw [found] at passed
    obtain ⟨rooted, passed⟩ := ensure_bind_eq_ok.mp passed
    obtain ⟨sums, passed⟩ := ensure_bind_eq_ok.mp passed
    obtain ⟨_, nodes, passed⟩ := bind_eq_ok.mp passed
    obtain ⟨released, passed⟩ := ensure_bind_eq_ok.mp passed
    simp only [Bool.not_eq_true', Bool.or_eq_false_iff, decide_eq_false_iff_not, not_lt] at sums
    have checked node mem := GraphNodeSpec.check_eq_ok.mp (forM_eq_ok.mp nodes node mem)
    refine ⟨⟨⟨by simpa using unnamed, short⟩, version, ⟨by simpa using empty, bounded⟩, sums.1,
      sums.2, distinct, fun node mem => (checked node mem).1⟩, fun node mem => (checked node mem).2,
      by simpa using released, start, rfl, ?_, ?_⟩
    · exact ⟨root, (Rows.mem_of_find found).1, (Rows.mem_of_find found).2, isEmpty_iff.mp rooted⟩
    · intro node mem
      split at passed
      · cases passed
      · next complete => simpa using find?_eq_none.mp complete node mem
  · rintro ⟨coherent, nodes, released, start, started, ⟨root, mem, named, rooted⟩, reached⟩
    have found : template.nodes.find? (·.name == start) = some root :=
      (Rows.find_eq_some_iff coherent.distinct).mpr ⟨mem, named⟩
    have complete : template.nodes.find?
        (fun node => !(graphReachable template.nodes start).contains node.name) = none := by
      simpa using reached
    rw [started]
    simp only [bind_eq_ok, Unique.exists_iff, PUnit.default_eq_unit, insertEach_eq_ok, found,
      ensure_eq_ok, forM_eq_ok, GraphNodeSpec.check_eq_ok, complete]
    obtain ⟨named, version, size, edges, slots, distinct, checked⟩ := coherent
    refine ⟨by simp [*], ⟨by simp, distinct, by simp⟩, by simp [rooted], by simp [*], ?_,
      by simpa using released, trivial⟩
    exact fun node mem => ⟨checked node mem, nodes node mem⟩

/-- What a template that `validate_graph_template` passes satisfies. -/
structure ValidTemplate (template : GraphTemplateSpec) (start : GraphNodeName) : Prop where
  named : template.name ≠ ""
  nonempty : template.nodes ≠ []
  bounded : template.nodes.length ≤ graphMaxNodes
  started : template.startNode = some start
  distinct : (template.nodes.map (·.name)).Nodup
  edges : (template.nodes.map (·.dependsOn.length)).sum ≤ graphMaxEdges
  declared : ∃ node ∈ template.nodes, node.name = start
  root : ∀ node ∈ template.nodes, node.name = start → node.dependsOn = []
  red : ∀ node ∈ template.nodes, ∀ target, node.redTarget = some target →
    Relation.ReflTransGen (FlowsTo template.nodes) target node.name
  reached : ∀ node ∈ template.nodes,
    Relation.ReflTransGen (FlowsTo template.nodes) start node.name

variable {node : GraphNodeSpec} {template : GraphTemplateSpec}

theorem validTemplate_of_ok
    (passed : validateGraphTemplate template = .ok ()) : ∃ start, ValidTemplate template start := by
  obtain ⟨coherent, nodes, _, start, started, ⟨root, listed, named, rooted⟩, reached⟩ :=
    validateGraphTemplate_eq_ok.mp passed
  refine ⟨start, coherent.named.1, coherent.size.1, coherent.size.2, started, coherent.distinct,
    coherent.edges, ⟨root, listed, named⟩, ?_, ?_, fun node mem =>
      mem_reachable_iff.mp (reached node mem)⟩
  · intro node mem same
    cases inj_on_of_nodup_map coherent.distinct mem listed (same.trans named.symm)
    exact rooted
  · intro node mem target declared
    rcases (nodes node mem).2 target declared with rfl | ancestor
    · exact .refl
    · exact (path_of_mem_ancestors ancestor).to_reflTransGen

/-- Only the start node of a valid template has no dependencies. -/
theorem ValidTemplate.name_of_root (valid : ValidTemplate template start)
    (mem : node ∈ template.nodes) (root : node.dependsOn = []) : node.name = start := by
  rcases (valid.reached node mem).cases_tail with same | ⟨source, _, edge⟩
  · exact same
  · obtain ⟨other, listed, named, depends⟩ := flowsTo_iff.mp edge
    have same : other = node := inj_on_of_nodup_map valid.distinct listed mem named
    rw [same, root] at depends
    cases depends

theorem ValidTemplate.filter_roots (valid : ValidTemplate template start) :
    ∃ root, template.nodes.filter (·.dependsOn.isEmpty) = [root] := by
  obtain ⟨root, mem, named⟩ := valid.declared
  refine ⟨root, ?_⟩
  rw [← Rows.filter_eq_singleton valid.distinct mem]
  refine filter_congr fun node listed => ?_
  -- A second root would carry the start node's name.
  rw [Bool.eq_iff_iff, List.isEmpty_iff, beq_iff_eq, named]
  exact ⟨valid.name_of_root listed, valid.root node listed⟩

end HaiderAgent
