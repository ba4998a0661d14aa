import HaiderAgent.Protocol.Workflow.Steps

/-!
# Reachable workflow states are valid projections

The invariants `validate_projection` tests, and those of the single nodes behind them, kept by
every accepted event and so true of every state that replaying a journal can build.
-/

namespace HaiderAgent

open List ExceptFold

namespace WorkflowNodeState

/-- What holds of a node of a state that was built up to a cursor. -/
structure Fits (through : Nat) (node : WorkflowNodeState) : Prop where
  updated : 0 < node.updatedCursor ∧ node.updatedCursor ≤ through
  iterated : node.phase ≠ .waiting → node.iteration ≠ 0
  waiting : node.phase = .waiting → node.activationOrder = none ∧ node.rejection = none
  running : node.phase = .activated ∨ node.phase = .completed →
    node.activationOrder.isSome ∧ node.rejection = none
  rejected : node.phase = .rejected → node.rejection.isSome
  /-- Only an activated node has evidence to reject. -/
  evidence : ∀ rejection, node.rejection = some rejection →
    rejection.code = .evidenceRejected → node.activationOrder.isSome

namespace Fits

variable {through cursor : Nat} {node next : WorkflowNodeState}

theorem rejected_of_rejection (fits : node.Fits through) (shown : node.rejection.isSome) :
    node.phase = .rejected := by
  cases phase : node.phase with
  | waiting => simp [(fits.waiting phase).2] at shown
  | activated => simp [(fits.running (.inl phase)).2] at shown
  | completed => simp [(fits.running (.inr phase)).2] at shown
  | rejected => rfl

theorem reject {rejected : WorkflowNodeRejected} (fits : node.Fits through) (positive : 0 < cursor)
    (names : WorkflowGraphState.rejectsMissingActivation node rejected = true ∨
      node.phase = .activated ∧ node.iteration = rejected.iteration) :
    (node.reject cursor rejected).Fits cursor := by
  refine ⟨⟨positive, Nat.le_refl _⟩, fun _ => ?_, nofun, nofun, fun _ => rfl, ?_⟩
  · rcases names with missing | ⟨activated, same⟩
    · simp only [WorkflowGraphState.rejectsMissingActivation, Bool.and_eq_true, beq_iff_eq]
        at missing
      exact fun zero => by simp [WorkflowNodeState.reject, missing] at zero
    · change rejected.iteration ≠ 0
      rw [← same]
      exact fits.iterated (by simp [activated])
  · intro rejection shown code
    cases shown
    rcases names with missing | ⟨activated, _⟩
    · simp [WorkflowGraphState.rejectsMissingActivation, code] at missing
    · exact (fits.running (.inl activated)).1

theorem move (fits : node.Fits through) (later : through < cursor)
    (move : Move cursor node next) : next.Fits cursor := by
  have positive : 0 < cursor := Nat.zero_lt_of_lt later
  cases move with
  | keep => exact { fits with updated := ⟨fits.updated.1, by have := fits.updated.2; omega⟩ }
  | activate activated iteration =>
    exact ⟨⟨positive, Nat.le_refl _⟩, fun _ => by simp [WorkflowNodeState.activate, iteration],
      nofun, fun _ => ⟨rfl, rfl⟩, nofun, nofun⟩
  | reset => exact ⟨⟨positive, Nat.le_refl _⟩, nofun, fun _ => ⟨rfl, rfl⟩, nofun, nofun, nofun⟩
  | complete completed active =>
    exact ⟨⟨positive, Nat.le_refl _⟩, fun _ => fits.iterated (by simp [active]), nofun,
      fun _ => ⟨(fits.running (.inl active)).1, rfl⟩, nofun, nofun⟩
  | reject rejected names => exact fits.reject positive names

end Fits

end WorkflowNodeState

namespace WorkflowGraphState

open WorkflowNodeState (changeAt resetAt Move)

variable {digests : WorkflowDigests} {state next first : WorkflowGraphState} {cursor : Nat}
  {event : WorkflowGraphJournalEvent} {started : WorkflowGraphStarted}
  {activated : WorkflowNodeActivated}

/-- The nodes of a state stand beside the nodes of a valid AST. -/
structure Indexed (state : WorkflowGraphState) : Prop where
  valid : state.ast.validate = .ok ()
  started : 0 < state.throughCursor
  aligned : state.nodes.map (·.node) = state.ast.nodes.map (·.node)
  fits : ∀ node ∈ state.nodes, node.Fits state.throughCursor

namespace Indexed

variable (indexed : state.Indexed)
include indexed

theorem formed : state.ast.WellFormed :=
  WorkflowActivationAst.wellFormed_of_validate indexed.valid

theorem unique : (state.nodes.map (·.node)).Nodup := by
  rw [indexed.aligned]
  exact indexed.formed.names

variable {name : GraphNodeName}

theorem eq_of_found {found node : WorkflowNodeState} (lookup : state.node name = some found)
    (mem : node ∈ state.nodes) (named : node.node = name) : node = found := by
  have same := (node_eq_some_iff indexed.unique).mpr ⟨mem, named⟩
  rw [lookup] at same
  exact (Option.some.inj same).symm

theorem exists_node (present : name ∈ state.ast.nodes.map (·.node)) :
    ∃ node ∈ state.nodes, node.node = name := by
  rw [← indexed.aligned] at present
  obtain ⟨node, mem, named⟩ := mem_map.mp present
  exact ⟨node, mem, named⟩

end Indexed

variable {change : WorkflowNodeState → WorkflowNodeState}

theorem move_changeAt (indexed : state.Indexed) {name : GraphNodeName} {found : WorkflowNodeState}
    (lookup : state.node name = some found) (moves : Move cursor found (change found)) :
    ∀ node ∈ state.nodes, Move cursor node (changeAt name change node) := by
  intro node mem
  unfold changeAt
  split
  · next named =>
    rw [indexed.eq_of_found lookup mem named]
    exact moves
  · exact .keep

/-- A step moves every node of the state and keeps the AST. -/
theorem Step.moves (step : Step digests state cursor event next) (indexed : state.Indexed) :
    next.ast = state.ast ∧ next.throughCursor = cursor ∧ ∃ change,
      next.nodes = state.nodes.map change ∧ ∀ node ∈ state.nodes, Move cursor node (change node) := by
  cases step with
  | forwardJoin activated spec node checked =>
    rw [captureSeed_eq]
    exact ⟨rfl, rfl, _, rfl, move_changeAt indexed checked.found (.activate _ checked.iteration)⟩
  | backEdge activated spec node input checked =>
    refine ⟨rfl, rfl, _, map_map, fun old mem => ?_⟩
    rw [Function.comp_apply, changeAt, node_resetAt]
    split
    · next named =>
      have again : (resetAt (descendants state.ast activated.node) cursor old).activate cursor
          activated = old.activate cursor activated := by
        unfold resetAt
        split <;> rfl
      rw [again]
      refine .activate activated ?_
      rw [indexed.eq_of_found checked.found mem named]
      exact checked.iteration
    · unfold resetAt
      split
      · exact .reset
      · exact .keep
  | completed completed node _ found activated _ changed =>
    rw [changed]
    exact ⟨rfl, rfl, _, rfl, move_changeAt indexed found (.complete completed activated)⟩
  | rejected rejected node _ _ found names =>
    exact ⟨rfl, rfl, _, rfl, move_changeAt indexed found (.reject rejected names)⟩

theorem Step.indexed (step : Step digests state cursor event next) (indexed : state.Indexed)
    (later : state.throughCursor < cursor) : next.Indexed := by
  obtain ⟨sameAst, through, change, nodes, moves⟩ := step.moves indexed
  refine ⟨sameAst ▸ indexed.valid, by omega, ?_, ?_⟩
  · rw [nodes, sameAst, ← indexed.aligned, map_map]
    exact map_congr_left fun node mem => (moves node mem).node_eq
  · rw [nodes, through]
    intro node mem
    obtain ⟨old, within, rfl⟩ := mem_map.mp mem
    exact (indexed.fits old within).move later (moves old within)

/-! ## Invariants of every reachable state -/

/-- What an accepted start event says about the first state. -/
theorem fromStarted_eq_ok (ran : fromStarted digests cursor started = .ok first) :
    cursor ≠ 0 ∧ started.graphId.isEmpty = false ∧ started.ast.validate = .ok () ∧
      digests.checkGiven "workflow graph seed is invalid: " started.seed = .ok () ∧
      (∀ seed, started.seed = some seed →
        seed.evidenceType = started.ast.inputType ∧ seed.parents = []) ∧
      started.astDigest = digests.activationAst started.ast ∧
      first =
        { graphId := started.graphId, ast := started.ast, astDigest := started.astDigest
          seed := started.seed, phase := .active, throughCursor := cursor
          nextActivationOrder := 1, backEdgeActivations := 0
          nodes := started.ast.nodes.map fun node =>
            { node := node.node, phase := .waiting, iteration := 0, activationOrder := none
              inputs := [], outputs := [], convergence := none, rejection := none
              updatedCursor := cursor }
          activationOrder := [] } := by
  obtain ⟨coordinates, ran⟩ := ensure_bind_eq_ok.mp ran
  obtain ⟨_, valid, ran⟩ := bind_eq_ok.mp ran
  obtain ⟨_, seed, ran⟩ := bind_eq_ok.mp ran
  obtain ⟨root, ran⟩ := ensure_bind_eq_ok.mp ran
  obtain ⟨digest, ran⟩ := ensure_bind_eq_ok.mp ran
  simp only [Bool.and_eq_true, bne_iff_ne, Bool.not_eq_true'] at coordinates
  simp only [Option.all_eq_true, Bool.and_eq_true, beq_iff_eq, List.isEmpty_iff] at root
  exact ⟨coordinates.1, coordinates.2, valid, seed, root, eq_of_beq digest,
    (Except.ok.inj ran).symm⟩

theorem indexed_of_fromStarted (ran : fromStarted digests cursor started = .ok first) :
    first.Indexed := by
  obtain ⟨positive, _, valid, _, _, _, rfl⟩ := fromStarted_eq_ok ran
  refine ⟨valid, Nat.pos_of_ne_zero positive, ?_, ?_⟩
  · rw [map_map]
    rfl
  · intro node mem
    obtain ⟨spec, _, rfl⟩ := mem_map.mp mem
    exact
      { updated := ⟨Nat.pos_of_ne_zero positive, Nat.le_refl _⟩
        iterated := fun phase => absurd rfl phase
        waiting := fun _ => ⟨rfl, rfl⟩
        running := nofun
        rejected := nofun
        evidence := nofun }

/-- An invariant of indexed states: true at the start and kept by every step. -/
theorem Reachable.invariant {P : WorkflowGraphState → Prop} (reachable : Reachable digests state)
    (initial : ∀ cursor started first, fromStarted digests cursor started = .ok first → P first)
    (keeps : ∀ s cursor event s', s.Indexed → s.throughCursor < cursor → P s →
      Step digests s cursor event s' → P s') :
    state.Indexed ∧ P state := by
  obtain ⟨cursor, started, first, entries, began, ran⟩ := reachable
  refine Machine.invariant (P := fun s => s.Indexed ∧ P s) ?_
    ⟨indexed_of_fromStarted began, initial cursor started first began⟩ ran
  rintro s ⟨cursor, event⟩ s' ⟨indexed, holds⟩ stepped
  obtain ⟨later, step⟩ := step_sound indexed.unique stepped
  exact ⟨step.indexed indexed later, keeps s cursor event s' indexed later holds step⟩

/-! ## The seed -/

/-- A valid row of the input type without parents. -/
def Root (digests : WorkflowDigests) (ast : WorkflowActivationAst) (seed : InstructEvidenceRef) :
    Prop :=
  seed.validate digests.instructEvidence = .ok () ∧ seed.evidenceType = ast.inputType ∧
    seed.parents = []

/-- The seed is a root, and without one nothing has run. -/
structure Seeded (digests : WorkflowDigests) (state : WorkflowGraphState) : Prop where
  root : ∀ seed, state.seed = some seed → Root digests state.ast seed
  unseeded : state.seed = none → state.activationOrder = [] ∧
    ∀ node ∈ state.nodes, node.phase ≠ .activated ∧ node.phase ≠ .completed

variable {label : String} {evidence : InstructEvidenceRef}

theorem checkEvidence_eq_ok : digests.checkEvidence label evidence = .ok () ↔
    evidence.validate digests.instructEvidence = .ok () := by
  unfold WorkflowDigests.checkEvidence
  split <;> simp [*]

theorem seeded_of_fromStarted (ran : fromStarted digests cursor started = .ok first) :
    first.Seeded digests := by
  obtain ⟨_, _, _, checked, root, _, rfl⟩ := fromStarted_eq_ok ran
  refine ⟨?_, ?_⟩
  · intro seed given
    change started.seed = some seed at given
    rw [given] at checked
    exact ⟨checkEvidence_eq_ok.mp checked, root seed given⟩
  · intro _
    refine ⟨rfl, fun node mem => ?_⟩
    obtain ⟨spec, _, rfl⟩ := mem_map.mp mem
    exact ⟨nofun, nofun⟩

/-- Before anything has run, an input can only come from outside. -/
theorem Seeded.graphInput (seeded : state.Seeded digests) (unset : state.seed = none)
    {edge : WorkflowActivationEdge} {input : WorkflowNodeInput}
    (exist : state.initialInputExists edge input = true) :
    edge.kind = .graphInput ∧ input.evidence.evidenceType = state.ast.inputType ∧
      input.evidence.parents = [] := by
  unfold initialInputExists at exist
  split at exist
  · next kind =>
    rw [unset] at exist
    simp only [Bool.and_eq_true, beq_iff_eq, List.isEmpty_iff] at exist
    exact ⟨kind, exist.2⟩
  · simp only [Option.any_eq_true, Bool.and_eq_true, beq_iff_eq] at exist
    obtain ⟨source, _, node, found, completed, _⟩ := exist
    have mem := (Rows.mem_of_find found).1
    exact absurd completed ((seeded.unseeded unset).2 node mem).2
  · cases exist

variable {spec : WorkflowActivationNode}

/-- The first join captures a root as the seed. -/
theorem Seeded.captureSeed (seeded : state.Seeded digests) (formed : state.ast.WellFormed)
    {node : WorkflowNodeState} (checked : Activates digests state activated spec node)
    (joins : Joins state activated spec node) :
    ∃ seed, (state.captureSeed activated).seed = some seed ∧ Root digests state.ast seed := by
  cases given : state.seed with
  | some seed =>
    refine ⟨seed, ?_, seeded.root seed given⟩
    rw [captureSeed_eq_self (by simp [given]), given]
  | none =>
    -- the join is not empty, and its first input already comes from outside
    obtain ⟨input, rest, inputs⟩ : ∃ input rest, activated.inputs = input :: rest := by
      refine exists_cons_of_ne_nil fun empty => ?_
      have ids := joins.ids
      rw [empty] at ids
      exact (formed.initialAll checked.specified.1).2 ids.symm
    have mem : input ∈ activated.inputs := by simp [inputs]
    obtain ⟨edge, found, here⟩ := joins.exist input mem
    obtain ⟨within, same⟩ := formed.find_edge.mp found
    obtain ⟨external, typed⟩ := seeded.graphInput given here
    have present : (state.ast.edges.find? fun edge =>
        edge.id == input.edgeId && edge.kind == .graphInput).isSome := by
      rw [find?_isSome]
      exact ⟨edge, within, by simp [same, external]⟩
    obtain ⟨other, captured⟩ := Option.isSome_iff_exists.mp present
    have valid := checked.inputs input mem
    obtain ⟨_, valid, _⟩ := bind_eq_ok.mp valid
    refine ⟨input.evidence, ?_, checkEvidence_eq_ok.mp valid, typed⟩
    simp [WorkflowGraphState.captureSeed, given, inputs, captured]

/-- Every accepted event keeps the seed a root, and nothing runs without one. -/
theorem Step.seeded (step : Step digests state cursor event next) (indexed : state.Indexed)
    (seeded : state.Seeded digests) : next.Seeded digests := by
  cases step with
  | forwardJoin activated spec node checked joins =>
    obtain ⟨seed, captured, root⟩ := seeded.captureSeed indexed.formed checked joins
    rw [captureSeed_eq, captured]
    refine ⟨fun other given => ?_, nofun⟩
    cases given
    exact root
  | backEdge activated spec node input checked isSeeded =>
    refine ⟨seeded.root, fun unset => ?_⟩
    change state.seed = none at unset
    simp [unset] at isSeeded
  | completed completed node _ found activated _ changed =>
    rw [changed]
    refine ⟨seeded.root, fun unset => ?_⟩
    exact absurd activated ((seeded.unseeded unset).2 node (Rows.mem_of_find found).1).1
  | rejected rejected =>
    refine ⟨seeded.root, fun unset => ⟨(seeded.unseeded unset).1, fun node mem => ?_⟩⟩
    obtain ⟨old, within, rfl⟩ := mem_map.mp mem
    unfold changeAt
    split
    · exact ⟨nofun, nofun⟩
    · exact (seeded.unseeded unset).2 old within

/-! ## The activation order -/

/-- The activations are numbered from one, at increasing cursors, and name nodes of the AST. -/
structure Ordered (state : WorkflowGraphState) : Prop where
  next : state.nextActivationOrder = state.activationOrder.length + 1
  numbered : ∀ i coordinate, state.activationOrder[i]? = some coordinate →
    coordinate.activationOrder = i + 1
  each : ∀ coordinate ∈ state.activationOrder, coordinate.iteration ≠ 0 ∧
    coordinate.cursor ≤ state.throughCursor ∧ coordinate.node ∈ state.ast.nodes.map (·.node)
  rising : (0 :: state.activationOrder.map (·.cursor)).Pairwise (· < ·)

theorem ordered_of_fromStarted (ran : fromStarted digests cursor started = .ok first) :
    first.Ordered := by
  obtain ⟨_, _, _, _, _, _, rfl⟩ := fromStarted_eq_ok ran
  exact ⟨rfl, nofun, nofun, pairwise_singleton _ _⟩

theorem Ordered.activate (ordered : state.Ordered) (later : state.throughCursor < cursor)
    {node : WorkflowNodeState} (checked : Activates digests state activated spec node)
    (order : next.activationOrder = state.activationOrder ++
      [⟨activated.activationOrder, activated.node, activated.iteration, cursor⟩])
    (count : next.nextActivationOrder = state.nextActivationOrder + 1)
    (sameAst : next.ast = state.ast) (through : next.throughCursor = cursor) : next.Ordered := by
  refine ⟨?_, ?_, ?_, ?_⟩
  · rw [count, order, ordered.next, length_append, length_singleton]
  · intro i coordinate found
    rw [order, getElem?_append] at found
    split at found
    · exact ordered.numbered i coordinate found
    · next beyond =>
      rw [getElem?_singleton] at found
      split at found
      · cases found
        change activated.activationOrder = i + 1
        rw [checked.order, ordered.next]
        omega
      · cases found
  · intro coordinate mem
    rw [order, mem_append, mem_singleton] at mem
    rw [sameAst, through]
    rcases mem with old | rfl
    · obtain ⟨iterated, before, named⟩ := ordered.each coordinate old
      exact ⟨iterated, Nat.le_trans before (Nat.le_of_lt later), named⟩
    · refine ⟨?_, Nat.le_refl _, ?_⟩
      · change activated.iteration ≠ 0
        rw [checked.iteration]
        omega
      · obtain ⟨listed, named⟩ := checked.specified
        exact mem_map.mpr ⟨spec, listed, named⟩
  · rw [order, map_append, ← cons_append]
    refine pairwise_append.mpr ⟨ordered.rising, pairwise_singleton _ _, ?_⟩
    intro earlier mem last isLast
    rw [map_singleton, mem_singleton] at isLast
    rw [isLast]
    rcases mem_cons.mp mem with rfl | old
    · exact Nat.zero_lt_of_lt later
    · obtain ⟨coordinate, within, rfl⟩ := mem_map.mp old
      exact Nat.lt_of_le_of_lt (ordered.each coordinate within).2.1 later

theorem Ordered.keep (ordered : state.Ordered) (later : state.throughCursor < cursor)
    (order : next.activationOrder = state.activationOrder)
    (count : next.nextActivationOrder = state.nextActivationOrder)
    (sameAst : next.ast = state.ast) (through : next.throughCursor = cursor) : next.Ordered := by
  refine ⟨?_, ?_, ?_, ?_⟩
  · rw [count, order, ordered.next]
  · rw [order]
    exact ordered.numbered
  · rw [order, sameAst, through]
    intro coordinate mem
    obtain ⟨iterated, before, named⟩ := ordered.each coordinate mem
    exact ⟨iterated, Nat.le_trans before (Nat.le_of_lt later), named⟩
  · rw [order]
    exact ordered.rising

theorem Step.ordered (step : Step digests state cursor event next) (ordered : state.Ordered)
    (later : state.throughCursor < cursor) : next.Ordered := by
  cases step with
  | forwardJoin activated spec node checked =>
    rw [captureSeed_eq]
    exact ordered.activate later checked rfl rfl rfl rfl
  | backEdge activated spec node input checked =>
    exact ordered.activate later checked rfl rfl rfl rfl
  | completed _ _ _ _ _ _ changed =>
    rw [changed]
    exact ordered.keep later rfl rfl rfl rfl
  | rejected => exact ordered.keep later rfl rfl rfl rfl

/-! ## The phase -/

/-- Completed exactly when every terminal node is; a rejected phase shows its rejection. -/
structure Phased (state : WorkflowGraphState) : Prop where
  finished : state.phase = .completed ↔ state.terminalNodesCompleted = true
  shown : state.phase = .rejected → ∃ node ∈ state.nodes, node.rejection.isSome

theorem Indexed.terminalNodesCompleted_iff (indexed : state.Indexed) :
    state.terminalNodesCompleted = true ↔ ∀ terminal ∈ state.ast.terminals,
      ∃ node ∈ state.nodes, node.node = terminal.node ∧ node.phase = .completed := by
  simp only [terminalNodesCompleted, all_eq_true, Option.any_eq_true, beq_iff_eq]
  refine forall₂_congr fun terminal _ => ?_
  simp only [node_eq_some_iff indexed.unique, and_assoc]

theorem Phased.unfinished_of_map (phased : state.Phased) (indexed : state.Indexed)
    (unfinished : state.phase ≠ .completed) (indexed' : next.Indexed)
    (sameAst : next.ast = state.ast) (nodes : next.nodes = state.nodes.map change)
    (kept : ∀ node, (change node).node = node.node ∧
      ((change node).phase = .completed → node.phase = .completed)) :
    next.terminalNodesCompleted ≠ true := by
  intro done
  rw [Ne, phased.finished, indexed.terminalNodesCompleted_iff] at unfinished
  rw [indexed'.terminalNodesCompleted_iff, sameAst, nodes] at done
  refine unfinished fun terminal mem => ?_
  obtain ⟨node, within, name, phase⟩ := done terminal mem
  obtain ⟨old, before, rfl⟩ := mem_map.mp within
  exact ⟨old, before, (kept old).1.symm.trans name, (kept old).2 phase⟩

theorem phased_of_fromStarted (ran : fromStarted digests cursor started = .ok first) :
    first.Phased := by
  have indexed := indexed_of_fromStarted ran
  obtain ⟨_, _, _, _, _, _, rfl⟩ := fromStarted_eq_ok ran
  refine ⟨⟨nofun, fun done => ?_⟩, nofun⟩
  obtain ⟨terminal, last⟩ := exists_mem_of_ne_nil _ indexed.formed.terminals
  obtain ⟨node, mem, _, phase⟩ := indexed.terminalNodesCompleted_iff.mp done terminal last
  obtain ⟨spec, _, rfl⟩ := mem_map.mp mem
  cases phase

theorem kept_changeAt (name : GraphNodeName) (change : WorkflowNodeState → WorkflowNodeState)
    (named : ∀ node, (change node).node = node.node)
    (never : ∀ node, (change node).phase ≠ .completed) (node : WorkflowNodeState) :
    (changeAt name change node).node = node.node ∧
      ((changeAt name change node).phase = .completed → node.phase = .completed) := by
  unfold changeAt
  split
  · exact ⟨named node, fun phase => absurd phase (never node)⟩
  · exact ⟨rfl, id⟩

/-- The run's phase follows its terminal nodes and its rejections. -/
theorem Step.phased (step : Step digests state cursor event next) (indexed : state.Indexed)
    (later : state.throughCursor < cursor) (phased : state.Phased) : next.Phased := by
  have indexed' := step.indexed indexed later
  obtain ⟨sameAst, _⟩ := step.moves indexed
  cases step with
  | forwardJoin activated spec node checked =>
    refine ⟨⟨nofun, fun done => absurd done ?_⟩, nofun⟩
    exact phased.unfinished_of_map indexed checked.unfinished indexed' sameAst rfl
      (kept_changeAt _ _ (fun _ => rfl) fun _ => nofun)
  | backEdge activated spec node input checked =>
    refine ⟨⟨nofun, fun done => absurd done ?_⟩, nofun⟩
    refine phased.unfinished_of_map indexed checked.unfinished indexed' sameAst map_map
      fun old => ?_
    have kept := kept_changeAt activated.node (·.activate cursor activated) (fun _ => rfl)
      (fun _ => nofun) (resetAt (descendants state.ast activated.node) cursor old)
    refine ⟨kept.1.trans (node_resetAt _ old), fun phase => ?_⟩
    have before := kept.2 phase
    unfold resetAt at before
    split at before
    · cases before
    · exact before
  | completed completed node _ found activated _ changed phase =>
    have nodes : next.nodes =
        state.nodes.map (changeAt completed.node (·.complete cursor completed)) := by rw [changed]
    by_cases done : next.terminalNodesCompleted = true
    · rw [if_pos done] at phase
      exact ⟨⟨fun _ => done, fun _ => phase⟩, fun rejected => by simp [phase] at rejected⟩
    · rw [if_neg done] at phase
      refine ⟨⟨fun completed => ?_, fun now => absurd now done⟩, fun rejected => ?_⟩
      · -- terminals that were completed stay completed
        refine absurd ?_ done
        rw [phase, phased.finished, indexed.terminalNodesCompleted_iff] at completed
        rw [indexed'.terminalNodesCompleted_iff, sameAst, nodes]
        intro terminal last
        obtain ⟨old, mem, name, before⟩ := completed terminal last
        refine ⟨_, mem_map_of_mem mem, ?_⟩
        unfold changeAt
        split
        · exact ⟨name, rfl⟩
        · exact ⟨name, before⟩
      · -- the node that completes showed no rejection
        rw [phase] at rejected
        obtain ⟨old, mem, shown⟩ := phased.shown rejected
        have untouched : changeAt completed.node (·.complete cursor completed) old = old := by
          refine if_neg fun named => ?_
          have isRejected := (indexed.fits old mem).rejected_of_rejection shown
          rw [indexed.eq_of_found found mem named, activated] at isRejected
          cases isRejected
        refine ⟨old, ?_, shown⟩
        rw [nodes, ← untouched]
        exact mem_map_of_mem mem
  | rejected rejected node unfinished _ found =>
    refine ⟨⟨nofun, fun done => absurd done ?_⟩, fun _ => ?_⟩
    · exact phased.unfinished_of_map indexed unfinished indexed' sameAst rfl
        (kept_changeAt _ _ (fun _ => rfl) fun _ => nofun)
    · obtain ⟨mem, named⟩ := Rows.mem_of_find found
      exact ⟨_, mem_map_of_mem mem, by rw [changeAt, if_pos named]; rfl⟩

/-! ## The whole predicate -/

/-- What names the graph, and the bound on its back edges. -/
structure Identified (digests : WorkflowDigests) (state : WorkflowGraphState) : Prop where
  named : state.graphId.isEmpty = false
  digest : state.astDigest = digests.activationAst state.ast
  bounded : state.backEdgeActivations ≤ state.ast.maxBackEdgeActivations

theorem Step.identified (step : Step digests state cursor event next)
    (identified : state.Identified digests) : next.Identified digests := by
  cases step with
  | forwardJoin activated =>
    rw [captureSeed_eq]
    exact ⟨identified.named, identified.digest, identified.bounded⟩
  | backEdge _ _ _ _ _ _ _ _ bounded => exact ⟨identified.named, identified.digest, bounded⟩
  | completed _ _ _ _ _ _ changed =>
    rw [changed]
    exact ⟨identified.named, identified.digest, identified.bounded⟩
  | rejected => exact ⟨identified.named, identified.digest, identified.bounded⟩

/-- The invariants of every reachable state. -/
structure Projected (digests : WorkflowDigests) (state : WorkflowGraphState) : Prop where
  identified : state.Identified digests
  seeded : state.Seeded digests
  ordered : state.Ordered
  phased : state.Phased

theorem Reachable.projected (reachable : Reachable digests state) :
    state.Indexed ∧ state.Projected digests := by
  refine reachable.invariant (P := Projected digests) ?_ ?_
  · intro cursor started first ran
    refine ⟨?_, seeded_of_fromStarted ran, ordered_of_fromStarted ran, phased_of_fromStarted ran⟩
    obtain ⟨_, named, _, _, _, digest, rfl⟩ := fromStarted_eq_ok ran
    exact ⟨named, digest, Nat.zero_le _⟩
  · intro s cursor event s' indexed later projected step
    exact
      { identified := step.identified projected.identified
        seeded := step.seeded indexed projected.seeded
        ordered := step.ordered projected.ordered later
        phased := step.phased indexed later projected.phased }

/-- The loop over the activation order passes on a part of an order. -/
theorem checkCoordinates_eq_ok (indexed : state.Indexed)
    {coordinates : List WorkflowActivationCoordinate} {index previous : Nat}
    (numbered : ∀ i coordinate, coordinates[i]? = some coordinate →
      coordinate.activationOrder = index + i + 1)
    (each : ∀ coordinate ∈ coordinates, coordinate.iteration ≠ 0 ∧
      coordinate.cursor ≤ state.throughCursor ∧ coordinate.node ∈ state.ast.nodes.map (·.node))
    (rising : (previous :: coordinates.map (·.cursor)).Pairwise (· < ·)) :
    state.checkCoordinates index previous coordinates = .ok () := by
  induction coordinates generalizing index previous with
  | nil => rfl
  | cons coordinate rest ih =>
    obtain ⟨iterated, before, named⟩ := each coordinate mem_cons_self
    have first : coordinate.activationOrder = index + 1 := numbered 0 coordinate rfl
    have next : previous < coordinate.cursor :=
      rel_of_pairwise_cons rising mem_cons_self
    have present : (state.node coordinate.node).isSome := by
      rw [← indexed.aligned] at named
      obtain ⟨row, found⟩ := Rows.exists_find named
      exact Option.isSome_iff_exists.mpr ⟨row, found⟩
    refine ensure_bind_eq_ok.mpr ⟨by simp [first, iterated, next, before, present], ?_⟩
    refine ih ?_ ?_ (List.Pairwise.of_cons rising)
    · intro i later found
      have shifted := numbered (i + 1) later found
      omega
    · exact fun later mem => each later (mem_cons_of_mem _ mem)

/-- Every node stands beside the node of the AST it stands for. -/
theorem Indexed.nodesAligned (indexed : state.Indexed) :
    (state.nodes.zip state.ast.nodes).all state.nodeAligned = true := by
  refine all_eq_true.mpr fun pair mem => ?_
  have named : pair.1.node = pair.2.node := Rows.key_eq_of_mem_zip indexed.aligned mem
  have fits := indexed.fits pair.1 (of_mem_zip mem).1
  have updated : pair.1.updatedCursor ≠ 0 := Nat.ne_of_gt fits.updated.1
  have iterated : pair.1.phase = .waiting ∨ pair.1.iteration ≠ 0 :=
    or_iff_not_imp_left.mpr fits.iterated
  simp [nodeAligned, named, updated, fits.updated.2, iterated]

/-- Every reachable state passes `validate_projection`, and its phase is completed exactly when
every terminal node is. -/
theorem reachable_validateProjection (reachable : Reachable digests state) :
    state.validateProjection digests = .ok () ∧
      (state.phase = .completed ↔ state.terminalNodesCompleted = true) := by
  obtain ⟨indexed, identified, seeded, ordered, phased⟩ := reachable.projected
  refine ⟨?_, phased.finished⟩
  refine bind_eq_ok.mpr ⟨(), indexed.valid, ?_⟩
  refine bind_eq_ok.mpr ⟨(), ?_, ?_⟩
  · cases given : state.seed with
    | none => rfl
    | some seed => exact checkEvidence_eq_ok.mpr (seeded.root seed given).1
  refine ensure_bind_eq_ok.mpr ⟨?_, ?_⟩
  · have sameLength : state.nodes.length = state.ast.nodes.length := by
      have := congrArg length indexed.aligned
      simpa using this
    have seedRoot : (state.seed.all fun seed =>
        seed.evidenceType == state.ast.inputType && seed.parents.isEmpty) = true := by
      refine Option.all_eq_true _ _ |>.mpr fun seed given => ?_
      obtain ⟨_, typed, parents⟩ := seeded.root seed given
      simp [typed, parents]
    have nothing : (state.seed.isSome || (state.activationOrder.isEmpty &&
        state.nodes.all fun node => node.phase != .activated && node.phase != .completed)) =
        true := by
      cases given : state.seed with
      | some seed => rfl
      | none =>
        obtain ⟨empty, idle⟩ := seeded.unseeded given
        simp only [Option.isSome_none, empty, isEmpty_nil, Bool.false_or, Bool.true_and,
          all_eq_true, Bool.and_eq_true, bne_iff_ne]
        exact idle
    have begun : (state.throughCursor != 0) = true := bne_iff_ne.mpr (Nat.ne_of_gt indexed.started)
    simp only [identified.named, begun, identified.digest, seedRoot, nothing, ordered.next,
      identified.bounded, sameLength, indexed.nodesAligned, Bool.not_false, Bool.and_true,
      beq_self_eq_true, decide_true]
  refine bind_eq_ok.mpr ⟨(), ?_, ?_⟩
  · refine checkCoordinates_eq_ok indexed ?_ ordered.each ordered.rising
    intro i coordinate found
    rw [Nat.zero_add]
    exact ordered.numbered i coordinate found
  · cases phase : state.phase with
    | completed => exact ensure_eq_ok.mpr (phased.finished.mp phase)
    | rejected =>
      obtain ⟨node, member, shown⟩ := phased.shown phase
      exact ensure_eq_ok.mpr (any_eq_true.mpr ⟨node, member, shown⟩)
    | active =>
      refine ensure_eq_ok.mpr ?_
      rw [Bool.not_eq_true']
      refine Bool.eq_false_iff.mpr fun done => ?_
      rw [phased.finished.mpr done] at phase
      cases phase

/-! ## A run of a small workflow -/

/-- A draft and a check that can send the draft back. -/
def reviewAst : WorkflowActivationAst :=
  { workflowId := "review"
    workflowDigest := "review-1"
    inputType := "Brief"
    outputType := "Verdict"
    nodes := [
      ⟨"DRAFT", "Brief", "Doc", ⟨[1], [3]⟩, false⟩,
      ⟨"CHECK", "Doc", "Verdict", ⟨[2], []⟩, false⟩]
    edges := [
      ⟨1, .graphInput, none, "DRAFT", "Brief"⟩,
      ⟨2, .forward, some "DRAFT", "CHECK", "Doc"⟩,
      ⟨3, .back, some "CHECK", "DRAFT", "Brief"⟩]
    maxBackEdgeActivations := 24 }

/-- Digests that can be read off. -/
def reviewDigests : WorkflowDigests where
  activationAst := fun ast => ast.workflowDigest
  inputLedger := fun inputs => ",".intercalate (inputs.map (·.evidence.ledgerDigest))
  evidenceLedger := fun outputs => ",".intercalate (outputs.map (·.ledgerDigest))
  instructEvidence := fun artifact evidenceType _ _ => evidenceType ++ "@" ++ artifact

/-- Evidence whose artifact is one digit repeated. -/
def reviewEvidence (digit : Char) (evidenceType : String) (parents : List ArtifactRef) :
    InstructEvidenceRef :=
  .new reviewDigests.instructEvidence ("blake3:" ++ String.ofList (replicate 64 digit))
    evidenceType 7 parents

/-- The seed. -/
def reviewBrief : InstructEvidenceRef := reviewEvidence 'a' "Brief" []

/-- The first draft. -/
def reviewDoc : InstructEvidenceRef := reviewEvidence 'b' "Doc" [reviewBrief.artifact]

/-- What the check sends back. -/
def reviewNote : InstructEvidenceRef := reviewEvidence 'c' "Brief" [reviewDoc.artifact]

/-- The second draft. -/
def reviewSecondDoc : InstructEvidenceRef := reviewEvidence 'd' "Doc" [reviewNote.artifact]

/-- What the check decides. -/
def reviewVerdict : InstructEvidenceRef := reviewEvidence 'e' "Verdict" [reviewSecondDoc.artifact]

/-- An activation over one edge. -/
def reviewActivated (node : GraphNodeName) (iteration order : Nat)
    (cause : WorkflowActivationCause) (edge : Nat) (evidence : InstructEvidenceRef) :
    WorkflowGraphJournalEvent :=
  .workflowNodeActivated ⟨"graph", node, iteration, order, cause, [⟨edge, evidence⟩],
    reviewDigests.inputLedger [⟨edge, evidence⟩]⟩

/-- A completion with one output. -/
def reviewCompleted (node : GraphNodeName) (iteration : Nat) (output : InstructEvidenceRef) :
    WorkflowGraphJournalEvent :=
  .workflowNodeCompleted
    ⟨"graph", node, iteration, [output], reviewDigests.evidenceLedger [output], none⟩

/-- The check sends the first draft back and takes the second. -/
def reviewEntries : List (Nat × WorkflowGraphJournalEvent) := [
  (2, reviewActivated "DRAFT" 1 1 .forwardJoin 1 reviewBrief),
  (3, reviewCompleted "DRAFT" 1 reviewDoc),
  (4, reviewActivated "CHECK" 1 2 .forwardJoin 2 reviewDoc),
  (5, .workflowNodeRejected
    ⟨"graph", "CHECK", 1, .evidenceRejected, "one source is missing", some reviewNote, false⟩),
  (6, reviewActivated "DRAFT" 2 3 .backEdge 3 reviewNote),
  (7, reviewCompleted "DRAFT" 2 reviewSecondDoc),
  (8, reviewActivated "CHECK" 2 4 .forwardJoin 2 reviewSecondDoc),
  (9, reviewCompleted "CHECK" 2 reviewVerdict)]

/-- The state of the review when some entries of its journal and then others were applied. -/
def reviewAfter (count : Nat) (more : List (Nat × WorkflowGraphJournalEvent)) :
    Option WorkflowGraphState :=
  (fromStarted reviewDigests 1 ⟨"graph", reviewAst, "review-1", none⟩).toOption.bind
    (Machine.run (step reviewDigests) · (reviewEntries.take count ++ more))

theorem reachable_reviewAfter {count : Nat} {more : List (Nat × WorkflowGraphJournalEvent)}
    {state : WorkflowGraphState} (ran : reviewAfter count more = some state) :
    Reachable reviewDigests state := by
  obtain ⟨first, began, ran⟩ := Option.bind_eq_some_iff.mp ran
  exact ⟨1, _, first, _, ok_of_toOption began, ran⟩

theorem reachable_validateProjection_review :
    ∃ state, Reachable reviewDigests state ∧ state.phase = .completed ∧
      state.backEdgeActivations = 1 ∧ state.validateProjection reviewDigests = .ok () := by
  have ran : (reviewAfter 8 []).map (fun state => (state.phase, state.backEdgeActivations)) =
      some (.completed, 1) := by decide +kernel
  obtain ⟨state, reached, shape⟩ := Option.map_eq_some_iff.mp ran
  have reachable := reachable_reviewAfter reached
  exact ⟨state, reachable, (Prod.mk.inj shape).1, (Prod.mk.inj shape).2,
    (reachable_validateProjection reachable).1⟩

end WorkflowGraphState

end HaiderAgent
