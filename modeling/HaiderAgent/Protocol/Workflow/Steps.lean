import HaiderAgent.Protocol.Workflow.State

/-!
# What an accepted event does to a workflow state

`validate_workflow_activation_ast` and the handlers of `apply`, taken apart once: what an accepted
AST is like, and which change of the nodes each accepted event is. Everything later is proved about
these steps.
-/

namespace HaiderAgent

open List ExceptFold
open Bool (not_eq_true' and_eq_true)

namespace WorkflowActivationAst

/-- What `validate_workflow_activation_ast` has checked. -/
structure WellFormed (ast : WorkflowActivationAst) : Prop where
  nodeCount : ast.nodes.length ≤ graphMaxNodes
  hops : ast.maxBackEdgeActivations ≤ graphMaxConditionalHops
  names : (ast.nodes.map (·.node)).Nodup
  ids : (ast.edges.map (·.id)).Nodup
  edges : ∀ edge ∈ ast.edges, ast.checkEdge edge = .ok ()
  nodes : ∀ node ∈ ast.nodes, ast.checkNode node = .ok ()
  terminals : ast.terminals ≠ []

theorem nodup_of_dedup_length {α : Type} [DecidableEq α] {xs : List α}
    (same : xs.dedup.length = xs.length) : xs.Nodup :=
  dedup_eq_self.mp ((dedup_sublist xs).eq_of_length same)

theorem wellFormed_of_validate {ast : WorkflowActivationAst} (valid : ast.validate = .ok ()) :
    ast.WellFormed := by
  obtain ⟨bounds, valid⟩ := ensure_bind_eq_ok.mp valid
  obtain ⟨names, valid⟩ := ensure_bind_eq_ok.mp valid
  obtain ⟨ids, valid⟩ := ensure_bind_eq_ok.mp valid
  obtain ⟨_, edges, valid⟩ := bind_eq_ok.mp valid
  obtain ⟨_, nodes, valid⟩ := bind_eq_ok.mp valid
  have terminals := ensure_eq_ok.mp valid
  simp only [not_eq_true', Bool.or_eq_false_iff, decide_eq_false_iff_not, Nat.not_lt] at bounds
  simp only [and_eq_true, beq_iff_eq] at ids terminals
  refine ⟨?_, ?_, ?_, ?_, ?_, ?_, ?_⟩
  · exact bounds.1.1.1.1.2
  · exact bounds.2
  · refine nodup_of_dedup_length ?_
    rw [length_map]
    exact eq_of_beq names
  · refine nodup_of_dedup_length ?_
    rw [length_map]
    exact ids.1.1
  · exact forM_eq_ok.mp edges
  · exact forM_eq_ok.mp nodes
  · intro empty
    simp [empty] at terminals

/-! ## Forward edges -/

/-- A forward edge leads from one node to the other. -/
def Forward (ast : WorkflowActivationAst) (source target : GraphNodeName) : Prop :=
  ∃ edge ∈ ast.edges, edge.kind = .forward ∧ edge.fromNode = some source ∧ edge.toNode = target

/-- Where a node stands in the order of the AST. -/
def rank (ast : WorkflowActivationAst) (name : GraphNodeName) : Nat := (ast.position name).getD 0

theorem mem_forwardTargets {ast : WorkflowActivationAst} {source target : GraphNodeName} :
    target ∈ ast.forwardTargets source ↔ ast.Forward source target := by
  simp only [forwardTargets, mem_filterMap, Forward]
  constructor
  · rintro ⟨edge, mem, chosen⟩
    split at chosen
    · next fits =>
      simp only [and_eq_true, beq_iff_eq] at fits
      exact ⟨edge, mem, fits.1, fits.2, Option.some.inj chosen⟩
    · cases chosen
  · rintro ⟨edge, mem, kind, fromNode, rfl⟩
    exact ⟨edge, mem, by simp [kind, fromNode]⟩

theorem mem_names_of_position {ast : WorkflowActivationAst} {name : GraphNodeName} {i : Nat}
    (found : ast.position name = some i) : name ∈ ast.nodes.map (·.node) := by
  obtain ⟨inBounds, here, _⟩ := findIdx?_eq_some_iff_getElem.mp found
  exact mem_map.mpr ⟨_, getElem_mem inBounds, eq_of_beq here⟩

namespace WellFormed

variable {ast : WorkflowActivationAst} {edge : WorkflowActivationEdge}
  {source target name : GraphNodeName}

variable (formed : ast.WellFormed)
include formed

theorem edgeSource (mem : edge ∈ ast.edges) :
    ∃ spec, ast.edgeSourceFits edge spec = true := by
  have checked := formed.edges edge mem
  replace checked := ok_of_ensure checked
  split at checked
  · cases checked
  · next spec _ => exact ⟨spec, ensure_eq_ok.mp checked⟩

variable (forward : ast.Forward source target)
include forward

theorem forward_positions :
    ∃ i j, ast.position source = some i ∧ ast.position target = some j ∧ i < j := by
  obtain ⟨edge, mem, kind, fromNode, rfl⟩ := forward
  obtain ⟨spec, fits⟩ := formed.edgeSource mem
  simp only [edgeSourceFits, kind, fromNode, Option.any_some] at fits
  split at fits
  · next i j first second =>
    simp only [and_eq_true, decide_eq_true_eq] at fits
    exact ⟨i, j, first, second, fits.1⟩
  · cases fits

theorem rank_lt :
    ast.rank source < ast.rank target := by
  obtain ⟨i, j, first, second, less⟩ := formed.forward_positions forward
  simpa [rank, first, second] using less

theorem forward_source_mem :
    source ∈ ast.nodes.map (·.node) := by
  obtain ⟨i, _, first, _⟩ := formed.forward_positions forward
  exact mem_names_of_position first

theorem forward_target_mem :
    target ∈ ast.nodes.map (·.node) := by
  obtain ⟨_, j, _, second, _⟩ := formed.forward_positions forward
  exact mem_names_of_position second

omit forward

theorem back_reaches (mem : edge ∈ ast.edges) (kind : edge.kind = .back)
    (fromNode : edge.fromNode = some source) :
    Relation.ReflTransGen ast.Forward edge.toNode source := by
  obtain ⟨spec, fits⟩ := formed.edgeSource mem
  simp only [edgeSourceFits, kind, fromNode, Option.any_some, and_eq_true, forwardReaches,
    Bool.or_eq_true, beq_iff_eq] at fits
  rcases fits.1 with same | found
  · rw [same]
  · have path : Relation.TransGen ast.Forward edge.toNode source :=
      Relation.TransGen.mono (fun _ _ => mem_forwardTargets.mp) _ _
        (Worklist.path_of_search found)
    exact path.to_reflTransGen

/-- Forward edges lead from every node to a terminal. -/
theorem reaches_terminal (present : name ∈ ast.nodes.map (·.node)) :
    ∃ terminal ∈ ast.terminals, Relation.ReflTransGen ast.Forward name terminal.node := by
  -- by induction on how far the node stands from the end of the order
  induction distance : ast.nodes.length - ast.rank name using Nat.strong_induction_on
    generalizing name with
  | _ left ih =>
    obtain ⟨spec, mem, rfl⟩ := mem_map.mp present
    by_cases last : spec ∈ ast.terminals
    · exact ⟨spec, last, .refl⟩
    · have out : ∃ target, ast.Forward spec.node target := by
        simp only [WorkflowActivationAst.terminals, mem_filter, mem, true_and, not_eq_true',
          Bool.not_eq_false, any_eq_true, and_eq_true, beq_iff_eq] at last
        obtain ⟨edge, within, kind, fromNode⟩ := last
        exact ⟨edge.toNode, edge, within, kind, fromNode, rfl⟩
      obtain ⟨target, forward⟩ := out
      obtain ⟨i, j, first, second, less⟩ := formed.forward_positions forward
      obtain ⟨inBounds, _, _⟩ := findIdx?_eq_some_iff_getElem.mp second
      have closer : ast.nodes.length - ast.rank target < left := by
        have lower : ast.rank spec.node = i := by simp [rank, first]
        have upper : ast.rank target = j := by simp [rank, second]
        omega
      obtain ⟨terminal, ends, path⟩ := ih _ closer (formed.forward_target_mem forward) rfl
      exact ⟨terminal, ends, .head forward path⟩

theorem find_edge {id : Nat} :
    ast.edges.find? (·.id == id) = some edge ↔ edge ∈ ast.edges ∧ edge.id = id :=
  Rows.find_eq_some_iff formed.ids

/-- The initial join lists the incoming edges that are not back edges, and is not empty. -/
theorem initialAll {spec : WorkflowActivationNode} (mem : spec ∈ ast.nodes) :
    spec.join.initialAll = (ast.initialEdges spec.node).map (·.id) ∧ spec.join.initialAll ≠ [] := by
  have checked := ensure_eq_ok.mp (formed.nodes spec mem)
  simp only [and_eq_true, not_eq_true', beq_iff_eq, isEmpty_eq_false_iff] at checked
  exact ⟨checked.1.1.2, checked.1.1.1.1.1.2⟩

end WellFormed

end WorkflowActivationAst

namespace WorkflowNodeState

/-- A change to the node of one name. -/
def changeAt (name : GraphNodeName) (change : WorkflowNodeState → WorkflowNodeState)
    (node : WorkflowNodeState) : WorkflowNodeState :=
  if node.node = name then change node else node

/-- A reset of the nodes in a slice. -/
def resetAt (slice : List GraphNodeName) (cursor : Nat) (node : WorkflowNodeState) :
    WorkflowNodeState :=
  if node.node ∈ slice then node.reset cursor else node

/-- What an accepted event may do to a node. -/
inductive Move (cursor : Nat) (node : WorkflowNodeState) : WorkflowNodeState → Prop
  | keep : Move cursor node node
  | activate (activated : WorkflowNodeActivated)
      (iteration : activated.iteration = node.iteration + 1) :
      Move cursor node (node.activate cursor activated)
  | reset : Move cursor node (node.reset cursor)
  | complete (completed : WorkflowNodeCompleted) (active : node.phase = .activated) :
      Move cursor node (node.complete cursor completed)
  | reject (rejected : WorkflowNodeRejected)
      (names : WorkflowGraphState.rejectsMissingActivation node rejected = true ∨
        node.phase = .activated ∧ node.iteration = rejected.iteration) :
      Move cursor node (node.reject cursor rejected)

theorem Move.node_eq {cursor : Nat} {node next : WorkflowNodeState} (move : Move cursor node next) :
    next.node = node.node := by
  cases move <;> rfl

end WorkflowNodeState

namespace WorkflowGraphState

open WorkflowNodeState (changeAt resetAt Move)

variable (digests : WorkflowDigests)

/-- What every accepted activation has checked. -/
structure Activates (state : WorkflowGraphState) (activated : WorkflowNodeActivated)
    (spec : WorkflowActivationNode) (node : WorkflowNodeState) : Prop where
  order : activated.activationOrder = state.nextActivationOrder
  unfinished : state.phase ≠ .completed
  unsealed : state.terminalRejectionCode = none
  specified : spec ∈ state.ast.nodes ∧ spec.node = activated.node
  found : state.node activated.node = some node
  iteration : activated.iteration = node.iteration + 1
  inputs : ∀ input ∈ activated.inputs,
    state.checkActivationInput digests activated.node input = .ok ()

/-- The inputs of a join that is complete. -/
structure Joins (state : WorkflowGraphState) (activated : WorkflowNodeActivated)
    (spec : WorkflowActivationNode) (node : WorkflowNodeState) : Prop where
  waiting : node.phase = .waiting
  ids : edgeIds activated.inputs = spec.join.initialAll
  exist : ∀ input ∈ activated.inputs, ∃ edge,
    state.ast.edges.find? (·.id == input.edgeId) = some edge ∧
      state.initialInputExists edge input = true

/-- The state an accepted activation leaves behind, on nodes of which some may have been reset. -/
def activatedState (state : WorkflowGraphState) (cursor : Nat) (activated : WorkflowNodeActivated)
    (nodes : List WorkflowNodeState) : WorkflowGraphState :=
  { state with
    phase := .active
    throughCursor := cursor
    nextActivationOrder := state.nextActivationOrder + 1
    nodes := nodes.map (changeAt activated.node (·.activate cursor activated))
    activationOrder := state.activationOrder ++
      [⟨activated.activationOrder, activated.node, activated.iteration, cursor⟩] }

/-- The accepted events and the states they lead to. -/
inductive Step (state : WorkflowGraphState) (cursor : Nat) :
    WorkflowGraphJournalEvent → WorkflowGraphState → Prop
  | forwardJoin (activated : WorkflowNodeActivated) (spec : WorkflowActivationNode)
      (node : WorkflowNodeState) (checked : Activates digests state activated spec node)
      (joins : Joins state activated spec node) :
      Step state cursor (.workflowNodeActivated activated)
        (activatedState (state.captureSeed activated) cursor activated state.nodes)
  | backEdge (activated : WorkflowNodeActivated) (spec : WorkflowActivationNode)
      (node : WorkflowNodeState) (input : WorkflowNodeInput)
      (checked : Activates digests state activated spec node) (seeded : state.seed.isSome)
      (inputs : activated.inputs = [input]) (rejected : state.backInputExists input = true)
      (bounded : state.backEdgeActivations + 1 ≤ state.ast.maxBackEdgeActivations) :
      Step state cursor (.workflowNodeActivated activated)
        { activatedState state cursor activated
            (state.nodes.map (resetAt (descendants state.ast activated.node) cursor)) with
          backEdgeActivations := state.backEdgeActivations + 1 }
  | completed (completed : WorkflowNodeCompleted) (node : WorkflowNodeState)
      (unsealed : state.terminalRejectionCode = none)
      (found : state.node completed.node = some node) (activated : node.phase = .activated)
      (next : WorkflowGraphState)
      (changed : next = { state with
        throughCursor := cursor
        nodes := state.nodes.map (changeAt completed.node (·.complete cursor completed))
        phase := next.phase })
      (phase : next.phase = if next.terminalNodesCompleted then .completed else state.phase) :
      Step state cursor (.workflowNodeCompleted completed) next
  | rejected (rejected : WorkflowNodeRejected) (node : WorkflowNodeState)
      (unfinished : state.phase ≠ .completed)
      (sealed : ∀ code, state.terminalRejectionCode = some code → code = rejected.code)
      (found : state.node rejected.node = some node)
      (names : rejectsMissingActivation node rejected = true ∨
        node.phase = .activated ∧ node.iteration = rejected.iteration) :
      Step state cursor (.workflowNodeRejected rejected)
        { state with
          phase := .rejected
          throughCursor := cursor
          nodes := state.nodes.map (changeAt rejected.node (·.reject cursor rejected)) }

/-! ## Every accepted event is a step -/

section Sound

variable {digests} {state next : WorkflowGraphState} {cursor : Nat}
  {activated : WorkflowNodeActivated}

theorem node_eq_some_iff (unique : (state.nodes.map (·.node)).Nodup) {name : GraphNodeName}
    {node : WorkflowNodeState} :
    state.node name = some node ↔ node ∈ state.nodes ∧ node.node = name :=
  Rows.find_eq_some_iff unique

variable {change : WorkflowNodeState → WorkflowNodeState}

theorem map_node_map {nodes : List WorkflowNodeState}
    (named : ∀ node, (change node).node = node.node) :
    (nodes.map change).map (·.node) = nodes.map (·.node) := by
  rw [map_map]
  exact map_congr_left fun node _ => named node

theorem node_resetAt (slice : List GraphNodeName) (node : WorkflowNodeState) :
    (resetAt slice cursor node).node = node.node := by
  unfold resetAt
  split <;> rfl

theorem node_changeAt {name : GraphNodeName}
    (named : ∀ node, (change node).node = node.node) (node : WorkflowNodeState) :
    (changeAt name change node).node = node.node := by
  unfold changeAt
  split
  · exact named node
  · rfl

theorem initialInputsExist_eq_true {inputs : List WorkflowNodeInput}
    (exist : state.initialInputsExist inputs = .ok true) :
    ∀ input ∈ inputs, ∃ edge, state.ast.edges.find? (·.id == input.edgeId) = some edge ∧
      state.initialInputExists edge input = true := by
  induction inputs with
  | nil => exact nofun
  | cons input inputs ih =>
    unfold initialInputsExist at exist
    split at exist
    · cases exist
    · next edge found =>
      split at exist
      · next here =>
        exact forall_mem_cons.mpr ⟨⟨edge, found, here⟩, ih exist⟩
      · cases exist

/-- What `checkActivation` has established, by cause. -/
theorem checkActivation_eq_ok (checked : state.checkActivation digests activated = .ok ()) :
    ∃ spec node, Activates digests state activated spec node ∧
      match activated.cause with
      | .forwardJoin => Joins state activated spec node
      | .backEdge =>
        state.seed.isSome ∧ (∃ input, activated.inputs = [input] ∧
          state.backInputExists input = true) ∧
          state.backEdgeActivations + 1 ≤ state.ast.maxBackEdgeActivations := by
  obtain ⟨identity, checked⟩ := ensure_bind_eq_ok.mp checked
  simp only [and_eq_true, beq_iff_eq, bne_iff_ne, Option.isNone_iff_eq_none] at identity
  split at checked
  · cases checked
  · cases checked
  · next spec node listed found =>
    replace checked := ok_of_ensure checked
    obtain ⟨numbers, checked⟩ := ensure_bind_eq_ok.mp checked
    obtain ⟨_, inputs, checked⟩ := bind_eq_ok.mp checked
    simp only [and_eq_true, beq_iff_eq] at numbers
    refine ⟨spec, node, ⟨identity.1.1.2, identity.1.2, identity.2, Rows.mem_of_find listed, found,
      numbers.1, forM_eq_ok.mp inputs⟩, ?_⟩
    cases cause : activated.cause with
    | forwardJoin =>
      rw [cause] at checked
      obtain ⟨ready, checked⟩ := ensure_bind_eq_ok.mp checked
      obtain ⟨exist, found, checked⟩ := bind_eq_ok.mp checked
      rw [ensure_eq_ok.mp checked] at found
      simp only [and_eq_true, beq_iff_eq] at ready
      exact ⟨ready.1, ready.2, initialInputsExist_eq_true found⟩
    | backEdge =>
      rw [cause] at checked
      obtain ⟨ready, checked⟩ := ensure_bind_eq_ok.mp checked
      replace checked := ok_of_ensure checked
      have bounded := of_decide_eq_true (ensure_eq_ok.mp checked)
      simp only [and_eq_true] at ready
      refine ⟨ready.1.1, ?_, bounded⟩
      have single := ready.2
      split at single
      · next input given =>
        exact ⟨input, given, (Bool.and_eq_true_iff.mp single).2⟩
      · cases single

theorem captureSeed_eq_self (seeded : state.seed.isSome) :
    state.captureSeed activated = state := by
  obtain ⟨seed, given⟩ := Option.isSome_iff_exists.mp seeded
  unfold captureSeed
  rw [given]

theorem captureSeed_eq : state.captureSeed activated =
    { state with seed := (state.captureSeed activated).seed } := by
  unfold captureSeed
  split <;> rfl

theorem nextActivationOrder_prepared (state : WorkflowGraphState) (cursor : Nat)
    (activated : WorkflowNodeActivated) :
    ((state.reopen cursor activated).captureSeed activated).nextActivationOrder =
      state.nextActivationOrder := by
  rw [captureSeed_eq, reopen]
  split <;> rfl

/-- The state of an accepted activation, by cause. -/
theorem applyActivation_eq_ok (unique : (state.nodes.map (·.node)).Nodup)
    (applied : state.applyActivation digests cursor activated = (next, .ok ())) :
    Step digests state cursor (.workflowNodeActivated activated)
      { next with throughCursor := cursor } := by
  unfold applyActivation at applied
  split at applied
  · cases applied
  · next checked =>
    have result : next = { recordActivation
        ((state.reopen cursor activated).captureSeed activated) cursor activated with
          nextActivationOrder := state.nextActivationOrder + 1
          phase := .active } := by
      dsimp only at applied
      repeat' split at applied
      all_goals cases applied
      rw [← nextActivationOrder_prepared state cursor activated]
      rfl
    obtain ⟨spec, node, activates, byCause⟩ := checkActivation_eq_ok checked
    rw [result]
    cases cause : activated.cause with
    | forwardJoin =>
      rw [cause] at byCause
      have same : state.reopen cursor activated = state := by rw [reopen, cause]
      have step : Step digests state cursor (.workflowNodeActivated activated) _ :=
        .forwardJoin activated spec node activates byCause
      rw [captureSeed_eq] at step
      rw [same, captureSeed_eq, recordActivation, Rows.update_eq_map unique]
      exact step
    | backEdge =>
      rw [cause] at byCause
      obtain ⟨seeded, ⟨input, inputs, rejected⟩, bounded⟩ := byCause
      have reopened : (state.reopen cursor activated).captureSeed activated =
          ({ state with backEdgeActivations := state.backEdgeActivations + 1 }).resetDescendants
            activated.node cursor := by
        rw [reopen, cause]
        exact captureSeed_eq_self seeded
      have names : ((state.nodes.map (resetAt (descendants state.ast activated.node) cursor)).map
          (·.node)).Nodup := by
        rw [map_node_map (node_resetAt _)]
        exact unique
      rw [reopened, recordActivation]
      have update := Rows.update_eq_map (k := activated.node)
        (f := (WorkflowNodeState.activate cursor activated)) names
      have step : Step digests state cursor (.workflowNodeActivated activated) _ :=
        .backEdge activated spec node input activates seeded inputs rejected bounded
      unfold activatedState changeAt at step
      rw [← update] at step
      exact step

variable {completed : WorkflowNodeCompleted}

theorem checkCompletion_eq_ok (checked : state.checkCompletion digests completed = .ok ()) :
    state.terminalRejectionCode = none ∧
      ∃ node, state.node completed.node = some node ∧ node.phase = .activated := by
  obtain ⟨identity, checked⟩ := ensure_bind_eq_ok.mp checked
  simp only [and_eq_true, Option.isNone_iff_eq_none] at identity
  refine ⟨identity.2, ?_⟩
  split at checked
  · cases checked
  · replace checked := ok_of_ensure checked
    obtain ⟨_, _, checked⟩ := bind_eq_ok.mp checked
    split at checked
    · cases checked
    · next node found =>
      obtain ⟨current, _⟩ := ensure_bind_eq_ok.mp checked
      simp only [and_eq_true, beq_iff_eq] at current
      exact ⟨node, found, current.1⟩
  · cases checked

theorem applyCompletion_eq_ok (unique : (state.nodes.map (·.node)).Nodup)
    (applied : state.applyCompletion digests cursor completed = (next, .ok ())) :
    Step digests state cursor (.workflowNodeCompleted completed)
      { next with throughCursor := cursor } := by
  unfold applyCompletion at applied
  split at applied
  · cases applied
  · next checked =>
    obtain ⟨unsealed, node, found, activated⟩ := checkCompletion_eq_ok checked
    have result := (Prod.mk.inj applied).1
    rw [Rows.update_eq_map unique] at result
    refine .completed completed node unsealed found activated _ ?_ ?_
    · rw [← result]
      split <;> rfl
    · rw [← result]
      split
      · next done => exact (if_pos done).symm
      · next unfinished => exact (if_neg unfinished).symm

variable {rejected : WorkflowNodeRejected}

theorem checkRejection_eq_ok (checked : state.checkRejection digests rejected = .ok ()) :
    state.phase ≠ .completed ∧
      (∀ code, state.terminalRejectionCode = some code → code = rejected.code) ∧
      ∃ node, state.node rejected.node = some node ∧
        (rejectsMissingActivation node rejected = true ∨
          node.phase = .activated ∧ node.iteration = rejected.iteration) := by
  obtain ⟨identity, checked⟩ := ensure_bind_eq_ok.mp checked
  simp only [and_eq_true, bne_iff_ne, Option.all_eq_true, beq_iff_eq] at identity
  refine ⟨identity.1.2, identity.2, ?_⟩
  obtain ⟨_, _, checked⟩ := bind_eq_ok.mp checked
  split at checked
  · cases checked
  · replace checked := ok_of_ensure checked
    split at checked
    · cases checked
    · next node found =>
      replace checked := ok_of_ensure checked
      have named := ensure_eq_ok.mp checked
      simp only [Bool.or_eq_true, and_eq_true, beq_iff_eq] at named
      exact ⟨node, found, named⟩

theorem applyRejection_eq_ok (unique : (state.nodes.map (·.node)).Nodup)
    (applied : state.applyRejection digests cursor rejected = (next, .ok ())) :
    Step digests state cursor (.workflowNodeRejected rejected)
      { next with throughCursor := cursor } := by
  unfold applyRejection at applied
  split at applied
  · cases applied
  · next checked =>
    obtain ⟨unfinished, sealed, node, found, named⟩ := checkRejection_eq_ok checked
    rw [← (Prod.mk.inj applied).1, Rows.update_eq_map unique]
    exact .rejected rejected node unfinished sealed found named

theorem advance_eq_ok {outcome : WorkflowGraphState × Except WorkflowGraphReductionError Unit}
    (advanced : advance cursor outcome = (next, .ok ())) :
    ∃ handled, outcome = (handled, .ok ()) ∧ next = { handled with throughCursor := cursor } := by
  obtain ⟨handled, answer⟩ := outcome
  cases answer with
  | error failure => cases advanced
  | ok => exact ⟨handled, rfl, (Prod.mk.inj advanced).1.symm⟩

/-- An accepted event comes at a later cursor and is a step. -/
theorem step_sound (unique : (state.nodes.map (·.node)).Nodup) {event : WorkflowGraphJournalEvent}
    (stepped : step digests state (cursor, event) = some next) :
    state.throughCursor < cursor ∧ Step digests state cursor event next := by
  unfold step at stepped
  split at stepped
  · next applied =>
    cases stepped
    unfold apply at applied
    split at applied
    · cases applied
    · next later =>
      refine ⟨by omega, ?_⟩
      cases event with
      | workflowGraphStarted => cases applied
      | workflowNodeActivated activated =>
        obtain ⟨handled, outcome, rfl⟩ := advance_eq_ok applied
        exact applyActivation_eq_ok unique outcome
      | workflowNodeCompleted completed =>
        obtain ⟨handled, outcome, rfl⟩ := advance_eq_ok applied
        exact applyCompletion_eq_ok unique outcome
      | workflowNodeRejected rejected =>
        obtain ⟨handled, outcome, rfl⟩ := advance_eq_ok applied
        exact applyRejection_eq_ok unique outcome
  · cases stepped

end Sound

end WorkflowGraphState

end HaiderAgent
