import HaiderAgent.Lib.Text
import HaiderAgent.Protocol.GraphTemplate

/-!
# Pipe source

`parse_pipe` and `parse_node_line` (`haider-protocol/src/loom.rs`): the line grammar of a Loom
workflow, total over every text, with every problem collected in the AST's error list.
-/

namespace HaiderAgent

/-- `LOOM_SOURCE_MAX_BYTES` (loom.rs). -/
def loomSourceMaxBytes : Nat := 16 * 1024

/-- `LOOM_TASK_MAX_BYTES`. -/
def loomTaskMaxBytes : Nat := 200

/-- The declared types of an agent type. -/
structure LoomTypeSig where
  inType : String
  outType : String
  deriving DecidableEq, Repr

/-- The gate a source line asks for. -/
inductive LoomGate where
  | cmd | ship
  | allOf (n : Nat)
  | human
  deriving DecidableEq, Repr

/-- One node line. -/
structure LoomNodeAst where
  name : String
  agentType : Option String
  task : String
  gate : LoomGate
  dependsOn : Option (List String)
  back : Option String
  deriving DecidableEq, Repr

/-- `LoomAst`: what was parsed, with every error met. -/
structure LoomAst where
  name : Option String
  inType : String
  outType : String
  nodes : List LoomNodeAst
  errors : List String
  deriving DecidableEq, Repr

/-- `is_ident_chars`. Every byte of a character outside ASCII fails the byte test. -/
def isIdentChars (value : String) : Bool := !value.isEmpty && value.toList.all Text.isIdentChar

/-- `is_ident`. -/
def isIdent (value : String) : Bool := isIdentChars value && value.utf8ByteSize ≤ 64

/-- `value.split('+').map(str::trim)`. -/
def typeOperands (value : String) : List String :=
  (Text.split '+' value.toList).map fun operand => String.ofList (Text.trim operand)

/-- `valid_type_expr`: at most eight names joined by `+`. -/
def validTypeExpr (value : String) : Bool :=
  !value.isEmpty && value.utf8ByteSize ≤ 256 && (typeOperands value).length ≤ 8 &&
    (typeOperands value).all isIdent

/-- The quoted task of a node line, and the line without it. -/
def takeTask (line : List Char) : Except String (String × List Char) :=
  match Text.splitOnce ['"'] line with
  | none => .ok ("", line)
  | some (before, after) =>
    match Text.splitOnce ['"'] after with
    | none => .error ("unterminated task quote: " ++ String.ofList line)
    | some (task, rest) =>
      let task := String.ofList task
      if task.utf8ByteSize > loomTaskMaxBytes then
        .error ("task on line `" ++ String.ofList line ++ "` exceeds " ++
          toString loomTaskMaxBytes ++ " bytes")
      else .ok (task, before ++ ' ' :: rest)

/-- A gate token without its colon. -/
def parseGate (name : String) (gate : List Char) : Except String LoomGate :=
  if gate = "cmd".toList then .ok .cmd
  else if gate = "ship".toList then .ok .ship
  else if gate = "human".toList then .ok .human
  else
    match Text.stripLead "all-of-".toList gate with
    | none => .error ("unknown gate :" ++ String.ofList gate ++ " on " ++ name)
    | some digits =>
      if !digits.isEmpty && digits.all Char.isDigit then
        let n := Text.decimal digits
        if 0 < n ∧ n ≤ graphMaxEvidencePerAttempt then .ok (.allOf n)
        else
          .error ("gate :all-of-" ++ String.ofList digits ++ " on " ++ name ++ " must be 1..=" ++
            toString graphMaxEvidencePerAttempt)
      else .error ("unknown gate :" ++ String.ofList gate ++ " on " ++ name)

/-- The comma-separated targets of a dependency clause. -/
def parseDependencies (name : String) :
    List String → List (List Char) → Except String (List String)
  | parsed, [] => .ok parsed
  | parsed, dependency :: rest =>
    let dependency := String.ofList dependency
    if !isIdent dependency then
      .error ("bad dependency target `" ++ dependency ++ "` on " ++ name)
    else if parsed.contains dependency then
      .error ("duplicate dependency " ++ dependency ++ " on " ++ name)
    else parseDependencies name (parsed ++ [dependency]) rest

/-- One token after the node's name; the flag is `saw_gate`. -/
def parseToken (state : LoomNodeAst × Bool) (token : List Char) :
    Except String (LoomNodeAst × Bool) :=
  let (node, sawGate) := state
  let name := node.name
  if let some atype := Text.stripLead ['@'] token then
    let atype := String.ofList atype
    if !isIdent atype then .error ("bad agent type `@" ++ atype ++ "` on " ++ name)
    else if node.agentType.isSome then .error ("duplicate agent type on " ++ name)
    else .ok ({ node with agentType := some atype }, sawGate)
  else if let some gate := Text.stripLead [':'] token then
    if sawGate then .error ("duplicate gate on " ++ name)
    else do
      let gate ← parseGate name gate
      .ok ({ node with gate := gate }, true)
  else if let some dependencies := Text.stripLead ['<', '-'] token then
    if node.dependsOn.isSome then .error ("duplicate dependency clause on " ++ name)
    else do
      let parsed ← parseDependencies name [] (Text.split ',' dependencies)
      .ok ({ node with dependsOn := some parsed }, sawGate)
  else if token = ['↻'] then
    if node.back.isSome then .error ("duplicate red traversal on " ++ name)
    else .ok ({ node with back := some name }, sawGate)
  else if let some back := (Text.stripLead ['↺'] token).or (Text.stripLead ['^'] token) then
    let back := String.ofList back
    if !isIdent back then .error ("bad back-edge target `" ++ back ++ "` on " ++ name)
    else if node.back.isSome then .error ("duplicate red traversal on " ++ name)
    else .ok ({ node with back := some back }, sawGate)
  else .error ("unexpected token `" ++ String.ofList token ++ "` on " ++ name)

/-- `parse_node_line`. -/
def parseNodeLine (line : List Char) : Except String LoomNodeAst := do
  let (task, rest) ← takeTask line
  match Text.splitWhitespace rest with
  | [] => .error ("unparsable line: " ++ String.ofList line)
  | name :: tokens =>
    let name := String.ofList name
    if !isIdent name then .error ("bad node name: " ++ name)
    else do
      let node : LoomNodeAst :=
        { name := name, agentType := none, task := task, gate := .cmd, dependsOn := none,
          back := none }
      let (node, _) ← tokens.foldlM parseToken (node, false)
      .ok node

/-- The three parts of a header line, `name: InType -> OutType`. -/
def headerParts (line : List Char) : Option (String × String × String) := do
  let (head, io) ← Text.splitOnce [':'] line
  let (input, output) ← Text.splitOnce ['-', '>'] io
  let head := String.ofList (Text.trim head)
  if isIdentChars head then
    some (head, String.ofList (Text.trim input), String.ofList (Text.trim output))
  else none

namespace LoomAst

/-- What a header line reports. -/
def headerErrors (head input output : String) : List String :=
  (if head.utf8ByteSize > 64 then ["workflow name `" ++ head ++ "` exceeds 64 bytes"] else []) ++
    (if (Text.splitOnce ['-', '>'] output.toList).isSome then
      ["header declares more than one `->`"]
    else if !validTypeExpr input || !validTypeExpr output then
      ["header types must be identifiers (optionally `A + B`): `" ++ input ++ "` -> `" ++ output ++
        "`"]
    else [])

/-- A header is read only before any node. -/
def header? (ast : LoomAst) (line : List Char) : Option (String × String × String) :=
  if ast.name.isNone && ast.nodes.isEmpty then headerParts line else none

/-- One raw line of `parse_pipe`. -/
def parseLine (ast : LoomAst) (raw : List Char) : LoomAst :=
  let line := Text.trim raw
  if line.isEmpty || line.head? == some '#' then ast
  else
    match ast.header? line with
    | some (head, input, output) =>
      { ast with
        name := some head
        inType := input
        outType := output
        errors := ast.errors ++ headerErrors head input output }
    | none =>
      match parseNodeLine line with
      | .ok node => { ast with nodes := ast.nodes ++ [node] }
      | .error error => { ast with errors := ast.errors ++ [error] }

variable (nodes : List LoomNodeAst)

/-- Where a declared dependency or red target stands. -/
def position (name : String) : Option Nat :=
  nodes.findIdx? (·.name == name)

/-- Green dependencies must target earlier nodes. -/
def dependencyErrors (index : Nat) (node : LoomNodeAst) : List String :=
  (node.dependsOn.getD []).flatMap fun dependency =>
    match position nodes dependency with
    | none => ["dependency " ++ dependency ++ " on " ++ node.name ++ " targets no node"]
    | some target =>
      if target ≥ index then
        ["dependency " ++ dependency ++ " on " ++ node.name ++ " must target an earlier node"]
      else []

/-- A red target is the node itself or an earlier one. -/
def backErrors (index : Nat) (node : LoomNodeAst) : List String :=
  match node.back with
  | none => []
  | some back =>
    match position nodes back with
    | none => ["↺" ++ back ++ " on " ++ node.name ++ " targets no node"]
    | some target =>
      if target > index then ["↺" ++ back ++ " on " ++ node.name ++ " must target an earlier node"]
      else []

end LoomAst

/-- `parse_pipe`: it never fails, the errors travel in the tree. -/
def parsePipe (source : String) : LoomAst :=
  let empty : LoomAst := { name := none, inType := "", outType := "", nodes := [], errors := [] }
  if source.utf8ByteSize > loomSourceMaxBytes then
    { empty with
      errors := ["pipe source exceeds " ++ toString loomSourceMaxBytes ++ " bytes"] }
  else
    let ast := (Text.lines source.toList).foldl LoomAst.parseLine empty
    { ast with
      errors := ast.errors ++
        (if ast.name.isNone then ["missing header line `name: InType -> OutType`"] else []) ++
        (if ast.nodes.isEmpty then ["pipe declares no nodes"] else []) ++
        ast.nodes.zipIdx.flatMap fun (node, index) =>
          LoomAst.dependencyErrors ast.nodes index node ++
            LoomAst.backErrors ast.nodes index node }

/-- A header that was read without a complaint declares valid types. -/
def LoomAst.Typed (ast : LoomAst) : Prop :=
  ast.errors = [] → ast.name.isSome → validTypeExpr ast.inType ∧ validTypeExpr ast.outType

theorem LoomAst.valid_of_headerErrors {head input output : String}
    (clean : headerErrors head input output = []) :
    validTypeExpr input ∧ validTypeExpr output := by
  have types := (List.append_eq_nil_iff.mp clean).2
  split at types
  · cases types
  · split at types
    · cases types
    · rename_i valid
      simpa using valid

variable {ast : LoomAst}

theorem LoomAst.Typed.parseLine (typed : ast.Typed) (raw : List Char) :
    (ast.parseLine raw).Typed := by
  unfold LoomAst.parseLine
  simp only
  split
  · exact typed
  · split
    · intro clean _
      exact valid_of_headerErrors (List.append_eq_nil_iff.mp clean).2
    · split
      · exact typed
      · intro clean
        cases (List.append_eq_nil_iff.mp clean).2

theorem LoomAst.Typed.foldl_parseLine (typed : ast.Typed)
    (lines : List (List Char)) : (lines.foldl LoomAst.parseLine ast).Typed := by
  induction lines generalizing ast with
  | nil => exact typed
  | cons line rest ih => exact ih (typed.parseLine line)

/-- The header of a pipe source that parses has valid types. -/
theorem valid_types_of_parsePipe {source : String} (clean : (parsePipe source).errors = []) :
    validTypeExpr (parsePipe source).inType ∧ validTypeExpr (parsePipe source).outType := by
  unfold parsePipe at clean ⊢
  split at clean
  · cases clean
  · rename_i inBounds
    rw [if_neg inBounds]
    have start : LoomAst.Typed ⟨none, "", "", [], []⟩ := by
      intro _ named
      cases named
    have typed := start.foldl_parseLine (Text.lines source.toList)
    simp only [List.append_eq_nil_iff] at clean
    obtain ⟨⟨⟨clean, named⟩, _⟩, _⟩ := clean
    refine typed clean ?_
    by_contra unnamed
    rw [if_pos (by simpa using unnamed)] at named
    cases named

end HaiderAgent
