import HaiderAgent.Lib.EntryMap
import HaiderAgent.Protocol.Loom.Compile
import Mathlib.Data.List.Induction

/-!
# Artifact types of a compiled workflow

What travels along the edges of a workflow: every node has one artifact type, the declared output
of its agent type or, at a control node, everything that arrived. `compile_pipe` types the pipe
this way, and a workflow it returns is `WellTyped`.
-/

namespace HaiderAgent

open List

/-- The types that arrive at a node, given the artifacts of the nodes before it. -/
def incomingTypes (inType : String) (outputs : HashMap GraphNodeName String)
    (spec : GraphNodeSpec) : List String :=
  if spec.dependsOn.isEmpty then [inType] else spec.dependsOn.filterMap outputs.lookup

/-- What a node carries: the merge of everything that arrives. -/
def carriedType (inType : String) (outputs : HashMap GraphNodeName String)
    (spec : GraphNodeSpec) : String :=
  mergeTypeExprs (incomingTypes inType outputs spec)

/-- One turn of the loop that records output types. -/
def artifactStep (inType : String) (outputs : HashMap GraphNodeName String)
    (node : GraphNodeSpec × LoomNodeMeta) : HashMap GraphNodeName String :=
  outputs.insert node.1.name (node.2.outType.getD (carriedType inType outputs node.1))

/-- The output types of a list of nodes. -/
def artifactsOf (inType : String) (nodes : List (GraphNodeSpec × LoomNodeMeta)) :
    HashMap GraphNodeName String :=
  nodes.foldl (artifactStep inType) ∅

/-- Every dependency is declared before the node that names it. -/
def Topological (specs : List GraphNodeSpec) : Prop :=
  ∀ before spec after, specs = before ++ spec :: after →
    ∀ dependency ∈ spec.dependsOn, dependency ∈ before.map (·.name)

namespace LoomWorkflow

variable (workflow : LoomWorkflow)

/-- The template's nodes, each with its metadata. -/
def typedNodes : List (GraphNodeSpec × LoomNodeMeta) :=
  workflow.template.nodes.zip workflow.nodeMeta

/-- The output type of every node. -/
def artifacts : HashMap GraphNodeName String :=
  artifactsOf workflow.inType workflow.typedNodes

/-- The types that reach a node. -/
def incoming (spec : GraphNodeSpec) : List String :=
  incomingTypes workflow.inType workflow.artifacts spec

/-- Their merge. -/
def carried (spec : GraphNodeSpec) : String :=
  carriedType workflow.inType workflow.artifacts spec

/-- The artifacts of the nodes nothing depends on. -/
def terminalTypes : List String :=
  (terminalSpecs workflow.template.nodes).filterMap fun spec => workflow.artifacts.lookup spec.name

end LoomWorkflow

/-- The signature of a node: none, or two valid expressions. -/
def LoomNodeMeta.Signed (node : LoomNodeMeta) : Prop :=
  (node.inType = none ∧ node.outType = none) ∨
    ∃ input output, node.inType = some input ∧ node.outType = some output ∧
      validTypeExpr input ∧ validTypeExpr output

/-- The typed-edge law at a node with an input: the join matches, the start takes the entry. -/
def EdgeTyped (inType : String) (outputs : HashMap GraphNodeName String)
    (node : GraphNodeSpec × LoomNodeMeta) : Prop :=
  ∀ expected, node.2.inType = some expected → carriedType inType outputs node.1 ≠ "" →
    (node.1.dependsOn.length > 1 →
      sameTypeOperands expected (carriedType inType outputs node.1) = true) ∧
    (node.1.dependsOn = [] → accepts expected (carriedType inType outputs node.1) = true)

variable {outputs : HashMap GraphNodeName String} {spec : GraphNodeSpec} {name : GraphNodeName}
  {inType : String}

theorem incomingTypes_insert (unrelated : name ∉ spec.dependsOn) (artifact : String) :
    incomingTypes inType (outputs.insert name artifact) spec =
      incomingTypes inType outputs spec := by
  unfold incomingTypes
  split
  · rfl
  · refine filterMap_congr fun dependency mem => ?_
    refine AList.lookup_insert_ne fun same => unrelated ?_
    rw [← same]
    exact mem

theorem EdgeTyped.insert {node : GraphNodeSpec × LoomNodeMeta}
    (typed : EdgeTyped inType outputs node) (unrelated : name ∉ node.1.dependsOn) (artifact : String) :
    EdgeTyped inType (outputs.insert name artifact) node := by
  unfold EdgeTyped carriedType at typed ⊢
  rw [incomingTypes_insert unrelated]
  exact typed

theorem artifactsOf_append (inType : String) (nodes : List (GraphNodeSpec × LoomNodeMeta))
    (node : GraphNodeSpec × LoomNodeMeta) :
    artifactsOf inType (nodes ++ [node]) = artifactStep inType (artifactsOf inType nodes) node := by
  simp [artifactsOf]

theorem lookup_artifactsOf_append (before after : List (GraphNodeSpec × LoomNodeMeta))
    (early : name ∉ after.map (·.1.name)) : (artifactsOf inType (before ++ after)).lookup name =
      (artifactsOf inType before).lookup name := by
  induction after using reverseRecOn with
  | nil => rw [append_nil]
  | append_singleton after node ih =>
    rw [map_append, mem_append, not_or] at early
    rw [← append_assoc, artifactsOf_append, ← ih early.1]
    refine AList.lookup_insert_ne fun same => early.2 ?_
    simp [same]

theorem lookup_artifactsOf_isSome (inType : String)
    {nodes : List (GraphNodeSpec × LoomNodeMeta)} (declared : name ∈ nodes.map (·.1.name)) :
    ((artifactsOf inType nodes).lookup name).isSome := by
  induction nodes using reverseRecOn with
  | nil => cases declared
  | append_singleton nodes node ih =>
    rw [artifactsOf_append]
    unfold artifactStep
    by_cases same : name = node.1.name
    · rw [same, AList.lookup_insert]
      rfl
    · rw [AList.lookup_insert_ne same]
      refine ih ?_
      simpa [same] using declared

variable {specs : List GraphNodeSpec}

theorem Topological.mem_names (ordered : Topological specs)
    (mem : spec ∈ specs) {dependency : GraphNodeName}
    (depends : dependency ∈ spec.dependsOn) : dependency ∈ specs.map (·.name) := by
  obtain ⟨before, after, rfl⟩ := append_of_mem mem
  rw [map_append]
  exact mem_append_left _ (ordered before spec after rfl dependency depends)

theorem Topological.append (ordered : Topological specs)
    (known : ∀ dependency ∈ spec.dependsOn, dependency ∈ specs.map (·.name)) :
    Topological (specs ++ [spec]) := by
  intro before inner after split
  rcases eq_nil_or_concat after with rfl | ⟨after, last, rfl⟩
  · obtain ⟨rfl, same⟩ := append_inj' split rfl
    cases same
    exact known
  · have shorter : specs = before ++ inner :: after := by
      have reassociated : specs ++ [spec] = (before ++ inner :: after) ++ [last] := by
        simpa using split
      exact (append_inj' reassociated rfl).1
    exact ordered before inner after shorter

/-- What the compiler's loop keeps true while no error was reported and no name repeats. -/
structure CompileState.Typed (inType : String) (state : CompileState) : Prop where
  aligned : state.nodeMeta.map (·.node) = state.specs.map (·.name)
  outputs : state.nodeOutputs = artifactsOf inType (state.specs.zip state.nodeMeta)
  sources : ∀ source name, state.sourceNodes.lookup source = some name →
    name ∈ state.specs.map (·.name)
  previous : ∀ name, state.previous = some name → name ∈ state.specs.map (·.name)
  ordered : Topological state.specs
  signed : ∀ node ∈ state.nodeMeta, node.Signed
  edges : ∀ node ∈ state.specs.zip state.nodeMeta, EdgeTyped inType state.nodeOutputs node

variable {lookup : String → Option LoomTypeSig} {state : CompileState} {node : LoomNodeAst}

theorem mem_resolved_of_foldl {authored : List String} {resolved : List String × List GraphNodeName}
    (mem : name ∈ (authored.foldl (state.resolveDependency node.name) resolved).2) :
    name ∈ resolved.2 ∨ ∃ source, state.sourceNodes.lookup source = some name := by
  induction authored generalizing resolved with
  | nil => exact .inl mem
  | cons dependency rest ih =>
    rcases ih mem with step | later
    · unfold CompileState.resolveDependency at step
      split at step
      · exact .inl step
      · rename_i found known
        split at step
        · exact .inl step
        · rcases mem_append.mp step with old | new
          · exact .inl old
          · rw [mem_singleton.mp new]
            exact .inr ⟨dependency, known⟩
    · exact .inr later

/-- Every dependency the compiler resolves is the graph name of an earlier source node. -/
theorem mem_dependencies (mem : name ∈ (state.dependencies node).2) :
    (∃ source, state.sourceNodes.lookup source = some name) ∨ state.previous = some name := by
  unfold CompileState.dependencies at mem
  split at mem
  · rcases mem_resolved_of_foldl mem with none | known
    · cases none
    · exact .inl known
  · exact .inr (by simpa using mem)

theorem edgeTyped_of_typeErrors {dependencies : List GraphNodeName} {signature : Option LoomTypeSig}
    (clean : typeErrors node signature (state.carriesMerge dependencies)
      (mergeTypeExprs (state.incoming inType dependencies)) = []) :
    EdgeTyped inType state.nodeOutputs
      (compiledSpec node name dependencies, compiledMeta node name signature) := by
  intro expected declared nonempty
  cases signature with
  | none => cases declared
  | some signature =>
    cases declared
    have carried : carriedType inType state.nodeOutputs (compiledSpec node name dependencies) =
        mergeTypeExprs (state.incoming inType dependencies) := rfl
    rw [carried] at nonempty ⊢
    have accepted : acceptsCarried (state.carriesMerge dependencies) signature.inType
        (mergeTypeExprs (state.incoming inType dependencies)) = true := by
      by_contra rejected
      simp [typeErrors, nonempty, rejected] at clean
    refine ⟨fun several => ?_, fun none => ?_⟩
    · have merges : state.carriesMerge dependencies = true := by
        have longer : dependencies.length > 1 := several
        simp [CompileState.carriesMerge, longer]
      simpa [acceptsCarried, merges] using accepted
    · have plain : state.carriesMerge dependencies = false := by
        have empty : dependencies = [] := none
        simp [CompileState.carriesMerge, empty]
      simpa [acceptsCarried, plain] using accepted

theorem clean_of_compileNode (clean : (compileNode inType lookup state node).errors = [])
    (distinct : ((compileNode inType lookup state node).specs.map (·.name)).Nodup) :
    state.errors = [] ∧ (state.specs.map (·.name)).Nodup := by
  unfold compileNode at clean distinct
  cases named : newGraphNodeName (toAsciiUppercase node.name) with
  | error error =>
    rw [named] at clean
    cases (append_eq_nil_iff.mp clean).2
  | ok name =>
    rw [named] at clean distinct
    simp only [append_eq_nil_iff] at clean
    simp only [map_append] at distinct
    exact ⟨clean.1.1.1.1, (nodup_append.mp distinct).1⟩

section Registry

variable (registry : ∀ atype signature, lookup atype = some signature →
  validTypeExpr signature.inType ∧ validTypeExpr signature.outType)

include registry

theorem signed_compiledMeta (name : GraphNodeName) :
    (compiledMeta node name (resolveSignature lookup node).2).Signed := by
  cases resolved : (resolveSignature lookup node).2 with
  | none => exact .inl ⟨rfl, rfl⟩
  | some signature =>
    refine .inr ⟨signature.inType, signature.outType, rfl, rfl, ?_⟩
    unfold resolveSignature at resolved
    split at resolved
    · cases resolved
    · split at resolved
      · rename_i found
        cases resolved
        exact registry _ _ found
      · cases resolved

/-- A node compiled without an error keeps every edge typed. -/
theorem CompileState.Typed.compileNode (typed : state.Typed inType) (node : LoomNodeAst)
    (clean : (compileNode inType lookup state node).errors = [])
    (distinct : ((compileNode inType lookup state node).specs.map (·.name)).Nodup) :
    (compileNode inType lookup state node).Typed inType := by
  unfold HaiderAgent.compileNode at clean distinct ⊢
  cases named : newGraphNodeName (toAsciiUppercase node.name) with
  | error error =>
    rw [named] at clean
    cases (append_eq_nil_iff.mp clean).2
  | ok name =>
  rw [named] at clean distinct
  simp only [append_eq_nil_iff] at clean
  obtain ⟨⟨_, types⟩, _⟩ := clean
  simp only [map_append, map_cons, map_nil] at distinct
  have isNew : name ∉ state.specs.map (·.name) := by
    intro old
    exact (nodup_append.mp distinct).2.2 name old name mem_cons_self rfl
  have known : ∀ dependency ∈ (state.dependencies node).2,
      dependency ∈ state.specs.map (·.name) := by
    intro dependency mem
    rcases mem_dependencies mem with ⟨source, found⟩ | last
    · exact typed.sources source dependency found
    · exact typed.previous dependency last
  have paired : state.specs.length = state.nodeMeta.length := by
    have lengths := congrArg length typed.aligned
    simpa using lengths.symm
  have grown : ∀ other ∈ state.specs.map (·.name), other ∈ (state.specs ++
      [compiledSpec node name (state.dependencies node).2]).map (·.name) := by
    intro other mem
    rw [map_append]
    exact mem_append_left _ mem
  refine ⟨?_, ?_, ?_, ?_, typed.ordered.append known, ?_, ?_⟩
  · rw [map_append, map_append, typed.aligned]
    rfl
  · simp only
    rw [zip_append paired, zip_cons_cons, zip_nil_right, artifactsOf_append,
      ← typed.outputs]
    cases (resolveSignature lookup node).2 <;> rfl
  · refine EntryMap.forall_lookup_insert (by simp [compiledSpec]) fun source other found => ?_
    exact grown other (typed.sources source other found)
  · intro other last
    cases last
    simp [compiledSpec]
  · intro other mem
    rcases mem_append.mp mem with old | new
    · exact typed.signed other old
    · rw [mem_singleton.mp new]
      exact signed_compiledMeta registry name
  · intro row mem
    rw [zip_append paired] at mem
    rcases mem_append.mp mem with old | new
    · refine (typed.edges row old).insert (fun depends => isNew ?_) _
      exact typed.ordered.mem_names (of_mem_zip old).1 depends
    · rw [mem_singleton.mp new]
      exact (edgeTyped_of_typeErrors types).insert (fun depends => isNew (known name depends)) _

variable {errors : List String}

/-- A pipe whose nodes all compile without a complaint. -/
theorem typed_foldl_compileNode (nodes : List LoomNodeAst)
    (clean : (nodes.foldl (compileNode inType lookup) { errors := errors }).errors = [])
    (distinct : ((nodes.foldl (compileNode inType lookup) { errors := errors }).specs.map
      (·.name)).Nodup) :
    (nodes.foldl (compileNode inType lookup) { errors := errors }).Typed inType ∧ errors = [] := by
  induction nodes using reverseRecOn with
  | nil =>
    refine ⟨⟨rfl, rfl, ?_, ?_, ?_, ?_, ?_⟩, clean⟩
    · intro source name found
      cases found
    · intro name last
      cases last
    · intro before spec after split
      simp at split
    · intro node mem
      cases mem
    · intro node mem
      cases mem
  | append_singleton nodes node ih =>
    rw [foldl_append] at clean distinct ⊢
    obtain ⟨earlierClean, earlierDistinct⟩ := clean_of_compileNode clean distinct
    obtain ⟨typed, parsed⟩ := ih earlierClean earlierDistinct
    exact ⟨typed.compileNode registry node clean distinct, parsed⟩

end Registry

/-- What every workflow that `compile_pipe` returns satisfies. -/
structure LoomWorkflow.WellTyped (workflow : LoomWorkflow) (start : GraphNodeName) : Prop where
  template : ValidTemplate workflow.template start
  identity : workflow.id = workflow.template.name
  digest : workflow.digest ≠ ""
  inType : validTypeExpr workflow.inType = true
  outType : validTypeExpr workflow.outType = true
  aligned : workflow.nodeMeta.map (·.node) = workflow.template.nodes.map (·.name)
  ordered : Topological workflow.template.nodes
  signed : ∀ node ∈ workflow.nodeMeta, node.Signed
  edges : ∀ node ∈ workflow.typedNodes, EdgeTyped workflow.inType workflow.artifacts node
  output : workflow.terminalTypes.length > 1 →
    sameTypeOperands workflow.outType (mergeTypeExprs workflow.terminalTypes) = true

theorem nonempty_of_validTypeExpr {value : String} (valid : validTypeExpr value = true) :
    value ≠ "" := by
  intro empty
  subst empty
  exact absurd valid (by decide)

theorem sameTypeOperands_of_outputErrors {outType : String}
    (clean : outputErrors outType state = [])
    (several : ((terminalSpecs state.specs).filterMap fun spec =>
      state.nodeOutputs.lookup spec.name).length > 1) :
    sameTypeOperands outType (mergeTypeExprs ((terminalSpecs state.specs).filterMap fun spec =>
      state.nodeOutputs.lookup spec.name)) = true := by
  by_contra rejected
  simp [outputErrors, acceptsCarried, several, rejected] at clean

theorem eq_nil_of_first_errors {errors later : List String}
    (clean : (if errors.isEmpty then later else errors) = []) : errors = [] ∧ later = [] := by
  cases errors with
  | nil => exact ⟨rfl, clean⟩
  | cons error rest => cases clean

theorem validate_of_templateErrors {template : GraphTemplateSpec}
    (clean : templateErrors template = []) : validateGraphTemplate template = .ok () := by
  unfold templateErrors at clean
  split at clean
  · assumption
  · cases clean

variable {ast : LoomAst}

theorem clean_of_compileErrors (clean : compileErrors ast state = []) :
    state.errors = [] ∧ (ast.outType ≠ "" → outputErrors ast.outType state = []) ∧
      validateGraphTemplate (compiledTemplate ast state) = .ok () := by
  obtain ⟨typed, template⟩ := eq_nil_of_first_errors clean
  have valid := validate_of_templateErrors template
  split at typed
  · rename_i checked
    obtain ⟨noErrors, _⟩ := Bool.and_eq_true_iff.mp checked
    exact ⟨List.isEmpty_iff.mp noErrors, fun _ => typed, valid⟩
  · rename_i unchecked
    refine ⟨typed, fun declared => absurd ?_ unchecked, valid⟩
    simp [typed, declared]

/-- The compiler's guarantee, for an AST whose header has valid types. -/
theorem wellTyped_of_compilePipe {hash : WorkflowHash}
    (registry : ∀ atype signature, lookup atype = some signature →
      validTypeExpr signature.inType ∧ validTypeExpr signature.outType)
    (header : ast.errors = [] → validTypeExpr ast.inType ∧ validTypeExpr ast.outType)
    {workflow : LoomWorkflow} (compiled : compilePipe hash ast lookup = .ok workflow) :
    ∃ start, workflow.WellTyped start := by
  unfold compilePipe at compiled
  simp only at compiled
  split at compiled
  · cases compiled
  rename_i clean
  rw [Bool.not_eq_true, Bool.not_eq_false', List.isEmpty_iff] at clean
  cases compiled
  obtain ⟨nodes, output, valid⟩ := clean_of_compileErrors clean
  obtain ⟨start, template⟩ := validTemplate_of_ok valid
  obtain ⟨typed, parsed⟩ := typed_foldl_compileNode registry ast.nodes nodes template.distinct
  obtain ⟨inType, outType⟩ := header parsed
  have artifacts := typed.outputs
  refine ⟨start, template, rfl, hash.nonempty _, inType, outType, typed.aligned, typed.ordered,
    typed.signed, ?_, ?_⟩
  · intro node mem
    have edge := typed.edges node mem
    rw [artifacts] at edge
    exact edge
  · intro several
    have same := sameTypeOperands_of_outputErrors (output (nonempty_of_validTypeExpr outType))
    rw [artifacts] at same
    exact same several

end HaiderAgent
