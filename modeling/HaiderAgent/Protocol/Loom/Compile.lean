import HaiderAgent.Protocol.Loom.Parse
import Mathlib.Data.List.Destutter
import Mathlib.Data.List.Sort

/-!
# The pipe compiler

`compile_pipe` (`haider-protocol/src/loom.rs`): a parsed pipe and the registry's type signatures
become a Convergence Graph template with the typed metadata beside it. Artifact types travel along
the dependency edges; every error is collected and any of them rejects the source.
-/

namespace HaiderAgent

/-- `LOOM_PIPE_VERSION` (loom.rs). -/
def loomPipeVersion : String := "pipe/v1"

/-- `LOOM_WORK_MAX_ATTEMPTS`. -/
def loomWorkMaxAttempts : Nat := 4

/-- `LOOM_FANOUT_MAX_ATTEMPTS`. -/
def loomFanoutMaxAttempts : Nat := 3

/-- What a compiled node keeps of its source line. -/
structure LoomNodeMeta where
  sourceName : String
  node : GraphNodeName
  agentType : Option String
  agentTypeRev : Option Nat
  agentTypeDigest : Option String
  task : String
  inType : Option String
  outType : Option String
  back : Option GraphNodeName
  deriving DecidableEq, Repr

/-- `LoomWorkflow`: the template with its types and its digest. -/
structure LoomWorkflow where
  id : String
  pipeVersion : String
  source : String
  inType : String
  outType : String
  template : GraphTemplateSpec
  nodeMeta : List LoomNodeMeta
  rev : Nat
  digest : String
  deriving DecidableEq, Repr

/-- The digest of `workflow_digest` as a function of the parts it hashes: 32 hex digits. -/
structure WorkflowHash where
  hex : List String → String
  nonempty : ∀ parts, hex parts ≠ ""

/-- `str::to_ascii_uppercase`. -/
def toAsciiUppercase (value : String) : String := String.ofList (value.toList.map Char.toUpper)

/-- The text of `GraphNodeName::new`'s refusal. -/
def graphNodeNameError : String :=
  "graph node name must match [A-Z][A-Z0-9_-]\x7b0," ++ toString (graphNodeNameMaxBytes - 1) ++
    "\x7d"

/-- `GraphNodeName::new`. -/
def newGraphNodeName (value : String) : Except String GraphNodeName :=
  match value.toList with
  | [] => .error graphNodeNameError
  | first :: rest =>
    if value.utf8ByteSize ≤ graphNodeNameMaxBytes && first.isUpper &&
        rest.all fun c => c.isUpper || c.isDigit || c == '_' || c == '-' then
      .ok value
    else .error graphNodeNameError

/-- `accepts`: the carried expression itself, or one operand of a composite. -/
def accepts (expected carried : String) : Bool :=
  expected == carried || (typeOperands expected).any (· == carried)

/-- Appends an operand that is not in the union yet. -/
def pushOperand (operands : List String) (operand : String) : List String :=
  if operands.contains operand then operands else operands ++ [operand]

/-- `merge_type_exprs`: one expression as written, several as their stable union. -/
def mergeTypeExprs (inputs : List String) : String :=
  match inputs with
  | [only] => only
  | _ =>
    " + ".intercalate
      (((inputs.flatMap typeOperands).filter fun operand => !operand.isEmpty).foldl pushOperand [])

/-- `normalized_type_operands`. -/
def normalizedTypeOperands (value : String) : List String :=
  (((typeOperands value).filter fun operand => !operand.isEmpty).insertionSort (· ≤ ·)).destutter
    (· ≠ ·)

/-- `same_type_operands`. -/
def sameTypeOperands (expected carried : String) : Bool :=
  normalizedTypeOperands expected == normalizedTypeOperands carried

/-- The gate, executor and attempt bound a source gate compiles to. -/
structure GateShape where
  gate : GraphGateKind
  executor : GraphExecutorShape
  maxAttempts : Nat

namespace LoomGate

/-- `compile_pipe`'s match on the source gate. -/
def shape : LoomGate → GateShape
  | .cmd | .ship => ⟨.commandGreen, .inline, loomWorkMaxAttempts⟩
  | .allOf n => ⟨.allOfN n, .fanOut, loomFanoutMaxAttempts⟩
  | .human => ⟨.humanConfirm, .human, graphMaxAttempts⟩

/-- The gate clause of a canonical node line. -/
def clause : LoomGate → String
  | .cmd => ""
  | .ship => " :ship"
  | .allOf n => " :all-of-" ++ toString n
  | .human => " :human"

end LoomGate

variable (node : LoomNodeAst)

/-- One node line of `rebuild_source`. -/
def LoomNodeAst.rebuild : String :=
  "\n" ++ node.name ++ node.agentType.elim "" (" @" ++ ·) ++
    (if node.task.isEmpty then "" else " \"" ++ node.task ++ "\"") ++ node.gate.clause ++
    node.dependsOn.elim "" (fun dependencies => " <-" ++ ",".intercalate dependencies) ++
    node.back.elim "" (fun back => if back == node.name then " ↻" else " ↺" ++ back)

variable (hash : WorkflowHash) (ast : LoomAst)

/-- `rebuild_source`: the canonical text the workflow keeps. -/
def rebuildSource : String :=
  ast.nodes.foldl (fun out node => out ++ node.rebuild)
    (ast.name.getD "" ++ ": " ++ ast.inType ++ " -> " ++ ast.outType)

/-- `workflow_digest`, over the length-prefixed parts the hasher is fed. -/
def workflowDigest (workflow : LoomWorkflow) : String :=
  hash.hex ([workflow.pipeVersion, workflow.source] ++ workflow.nodeMeta.flatMap fun node =>
    [node.node, node.inType.getD "", node.outType.getD ""] ++
      (node.agentTypeRev.map toString).toList ++ node.agentTypeDigest.toList)

/-- The locals of `compile_pipe`'s loop over the nodes. -/
structure CompileState where
  errors : List String
  nodeMeta : List LoomNodeMeta := []
  specs : List GraphNodeSpec := []
  previous : Option GraphNodeName := none
  sourceNodes : HashMap String GraphNodeName := ∅
  nodeOutputs : HashMap GraphNodeName String := ∅
  mergedOutputs : List GraphNodeName := []

namespace CompileState

variable (state : CompileState)

/-- One authored dependency: errors so far and the dependencies resolved. -/
def resolveDependency (node : String) (resolved : List String × List GraphNodeName)
    (dependency : String) : List String × List GraphNodeName :=
  match state.sourceNodes.lookup dependency with
  | none =>
    (resolved.1 ++ ["dependency " ++ dependency ++ " on " ++ node ++ " must target an earlier node"],
      resolved.2)
  | some name =>
    if resolved.2.contains name then
      (resolved.1 ++ ["duplicate dependency " ++ dependency ++ " on " ++ node], resolved.2)
    else (resolved.1, resolved.2 ++ [name])

/-- The dependencies of a node: the authored ones, or the previous node. -/
def dependencies (node : LoomNodeAst) : List String × List GraphNodeName :=
  match node.dependsOn with
  | some authored => authored.foldl (state.resolveDependency node.name) ([], [])
  | none => ([], state.previous.toList)

/-- The types that reach a node. -/
def incoming (inType : String) (dependencies : List GraphNodeName) : List String :=
  if dependencies.isEmpty then [inType] else dependencies.filterMap state.nodeOutputs.lookup

/-- Whether a merge reaches the node, directly or through a dependency. -/
def carriesMerge (dependencies : List GraphNodeName) : Bool :=
  dependencies.length > 1 || dependencies.any state.mergedOutputs.contains

end CompileState

/-- The signature of a node's agent type, and the error when it is not registered. -/
def resolveSignature (lookup : String → Option LoomTypeSig) (node : LoomNodeAst) :
    List String × Option LoomTypeSig :=
  match node.agentType with
  | none => ([], none)
  | some atype =>
    match lookup atype with
    | some signature => ([], some signature)
    | none =>
      (["node " ++ node.name ++ " references unregistered agent type @" ++ atype], none)

/-- The typed-edge law: one incoming edge may widen, a merge must match as a whole. -/
def acceptsCarried (carriesMerge : Bool) (expected carried : String) : Bool :=
  if carriesMerge then sameTypeOperands expected carried else accepts expected carried

/-- The mismatch error of one node, if any. -/
def typeErrors (signature : Option LoomTypeSig) (carriesMerge : Bool) (carried : String) :
    List String :=
  match signature with
  | none => []
  | some signature =>
    if carried.isEmpty || acceptsCarried carriesMerge signature.inType carried then []
    else
      ["type mismatch at " ++ node.name ++ ": " ++
        (if carriesMerge then "merged inputs" else "carries") ++ " `" ++ carried ++ "` but @" ++
        node.agentType.getD "?" ++ " accepts `" ++ signature.inType ++ "`"]

/-- The red target of a node, and the error when it is no legal graph name. -/
def resolveBack : List String × Option GraphNodeName :=
  match node.back with
  | none => ([], none)
  | some target =>
    match newGraphNodeName (toAsciiUppercase target) with
    | .ok name => ([], some name)
    | .error error => (["back target " ++ target ++ " on " ++ node.name ++ ": " ++ error], none)

/-- The template node of one source line. -/
def compiledSpec (name : GraphNodeName) (dependencies : List GraphNodeName) : GraphNodeSpec :=
  { name := name
    gate := node.gate.shape.gate
    executor := node.gate.shape.executor
    maxAttempts := node.gate.shape.maxAttempts
    maxEvidencePerAttempt :=
      if node.gate.shape.gate != .humanConfirm then some graphMaxEvidencePerAttempt else none
    dependsOn := dependencies
    redTarget := (resolveBack node).2
    verifySlots := [] }

/-- The metadata of one source line. -/
def compiledMeta (name : GraphNodeName) (signature : Option LoomTypeSig) : LoomNodeMeta :=
  { sourceName := node.name
    node := name
    agentType := node.agentType
    agentTypeRev := none
    agentTypeDigest := none
    task := node.task
    inType := signature.map (·.inType)
    outType := signature.map (·.outType)
    back := (resolveBack node).2 }

/-- The body of `compile_pipe`'s loop over the nodes. -/
def compileNode (inType : String) (lookup : String → Option LoomTypeSig) (state : CompileState)
    (node : LoomNodeAst) : CompileState :=
  match newGraphNodeName (toAsciiUppercase node.name) with
  | .error error =>
    { state with errors := state.errors ++ ["node " ++ node.name ++ ": " ++ error] }
  | .ok name =>
    let dependencies := (state.dependencies node).2
    let carried := mergeTypeExprs (state.incoming inType dependencies)
    let carriesMerge := state.carriesMerge dependencies
    let signature := (resolveSignature lookup node).2
    { errors := state.errors ++ (state.dependencies node).1 ++ (resolveSignature lookup node).1 ++
        typeErrors node signature carriesMerge carried ++ (resolveBack node).1
      specs := state.specs ++ [compiledSpec node name dependencies]
      nodeMeta := state.nodeMeta ++ [compiledMeta node name signature]
      mergedOutputs :=
        if signature.isNone && carriesMerge then state.mergedOutputs ++ [name]
        else state.mergedOutputs
      -- A control node is identity on its complete input; work nodes replace it.
      nodeOutputs := state.nodeOutputs.insert name (signature.elim carried (·.outType))
      sourceNodes := state.sourceNodes.insert node.name name
      previous := some name }

/-- The nodes nothing depends on. -/
def terminalSpecs (specs : List GraphNodeSpec) : List GraphNodeSpec :=
  specs.filter fun spec => !(specs.flatMap (·.dependsOn)).contains spec.name

/-- What the declared output reports: the strict merge of the terminals, or the single one. -/
def outputErrors (outType : String) (state : CompileState) : List String :=
  let terminals := terminalSpecs state.specs
  let outputs := terminals.filterMap fun spec => state.nodeOutputs.lookup spec.name
  let produced := mergeTypeExprs outputs
  let merged := outputs.length > 1 || terminals.any fun spec => state.mergedOutputs.contains spec.name
  if acceptsCarried merged outType produced then []
  else ["pipe declares output `" ++ outType ++ "` but its nodes produce `" ++ produced ++ "`"]

variable (state : CompileState)

/-- The template before its validation. -/
def compiledTemplate : GraphTemplateSpec :=
  { name := ast.name.getD ""
    version := graphTemplateVersion
    startNode := state.specs.head?.map (·.name)
    nodes := state.specs }

/-- What `validate_graph_template` reports on the compiled template. -/
def templateErrors (template : GraphTemplateSpec) : List String :=
  match validateGraphTemplate template with
  | .ok () => []
  | .error error => ["template rejected: " ++ error.message]

/-- The errors of a compilation: of the nodes, else the output, else the template. -/
def compileErrors : List String :=
  let errors :=
    if state.errors.isEmpty && !ast.outType.isEmpty then outputErrors ast.outType state
    else state.errors
  if errors.isEmpty then templateErrors (compiledTemplate ast state) else errors

/-- The workflow record of a compilation without errors. -/
def compiledWorkflow : LoomWorkflow :=
  let workflow : LoomWorkflow :=
    { id := ast.name.getD ""
      pipeVersion := loomPipeVersion
      source := rebuildSource ast
      inType := ast.inType
      outType := ast.outType
      template := compiledTemplate ast state
      nodeMeta := state.nodeMeta
      rev := 1
      digest := "" }
  { workflow with digest := workflowDigest hash workflow }

/-- `compile_pipe`: every error is collected before it refuses. -/
def compilePipe (lookup : String → Option LoomTypeSig) : Except (List String) LoomWorkflow :=
  let state := ast.nodes.foldl (compileNode ast.inType lookup) { errors := ast.errors }
  if !(compileErrors ast state).isEmpty then .error (compileErrors ast state)
  else .ok (compiledWorkflow hash ast state)

end HaiderAgent
