import HaiderAgent.Protocol.Workflow.Projection

/-!
# Causality of workflow activations

Along every forward edge into a node that has been activated since its last reset, the source was
activated too and has completed, or was rejected by the iteration guard after it had. Joins
establish this, resets take whole forward-closed slices away, and so a completed graph has nothing
left to run.
-/

namespace HaiderAgent

open List

namespace WorkflowNodeState

/-- Activated since its last reset and completed, or rejected by the iteration guard. -/
def Settled (node : WorkflowNodeState) : Prop :=
  node.activationOrder.isSome ∧ (node.phase = .completed ∨
    node.phase = .rejected ∧ ∃ rejection, node.rejection = some rejection ∧
      rejection.code = .iterationGuard)

theorem Settled.not_waiting {node : WorkflowNodeState} (settled : node.Settled) :
    node.phase ≠ .waiting ∧ node.phase ≠ .activated := by
  rcases settled.2 with completed | ⟨rejected, _⟩
  · rw [completed]
    decide
  · rw [rejected]
    decide

end WorkflowNodeState

namespace WorkflowGraphState

open WorkflowNodeState (changeAt resetAt)

variable {digests : WorkflowDigests} {state next : WorkflowGraphState} {cursor : Nat}
  {event : WorkflowGraphJournalEvent}

/-- Along a forward edge into an activated node the source is settled. -/
def Causal (state : WorkflowGraphState) : Prop :=
  ∀ source ∈ state.nodes, ∀ target ∈ state.nodes, state.ast.Forward source.node target.node →
    target.activationOrder.isSome → source.Settled

/-! ## Descendants -/

variable {ast : WorkflowActivationAst} {target : GraphNodeName}

theorem mem_forwardArrows {source : GraphNodeName} :
    (source, target) ∈ forwardArrows ast ↔ ast.Forward source target := by
  simp only [forwardArrows, mem_filterMap, WorkflowActivationAst.Forward]
  constructor
  · rintro ⟨edge, mem, chosen⟩
    split at chosen
    · next kind =>
      simp only [Option.map_eq_some_iff, Prod.mk.injEq] at chosen
      obtain ⟨_, fromNode, rfl, toNode⟩ := chosen
      exact ⟨edge, mem, eq_of_beq kind, fromNode, toNode⟩
    · cases chosen
  · rintro ⟨edge, mem, kind, fromNode, rfl⟩
    exact ⟨edge, mem, by simp [kind, fromNode]⟩

theorem mem_descendants_self :
    target ∈ descendants ast target :=
  Saturation.subset_close mem_cons_self

variable {root : GraphNodeName}

theorem mem_descendants_forward {source : GraphNodeName}
    (forward : ast.Forward source target) (inside : source ∈ descendants ast root) :
    target ∈ descendants ast root := by
  have few : (forwardArrows ast).length < ast.edges.length + 1 :=
    Nat.lt_succ_of_le (length_filterMap_le _ _)
  have path := (Saturation.mem_close_iff few).mp inside
  exact (Saturation.mem_close_iff few).mpr (path.tail (mem_forwardArrows.mpr forward))

variable {name : GraphNodeName}

theorem descendants_rank (formed : ast.WellFormed) (inside : name ∈ descendants ast root) :
    name = root ∨ ast.rank root < ast.rank name := by
  refine Saturation.close_invariant (P := fun name => name = root ∨ ast.rank root < ast.rank name)
    ?_ ?_ name inside
  · rintro ⟨source, target⟩ arrow below
    have up := formed.rank_lt (mem_forwardArrows.mp arrow)
    rcases below with rfl | less
    · exact .inr up
    · exact .inr (Nat.lt_trans less up)
  · intro seed mem
    exact .inl (mem_singleton.mp mem)

theorem not_mem_descendants (formed : ast.WellFormed)
    {source : GraphNodeName} (forward : ast.Forward source root) :
    source ∉ descendants ast root := by
  intro inside
  have up := formed.rank_lt forward
  rcases descendants_rank formed inside with rfl | less <;> omega

/-! ## Causality is kept -/

variable {source : WorkflowNodeState}

/-- A settled node at the end of a path makes every node of the path settled. -/
theorem Causal.settled_of_reaches (causal : state.Causal) (indexed : state.Indexed)
    {target : WorkflowNodeState} (begins : source ∈ state.nodes) (ends : target ∈ state.nodes)
    (path : Relation.ReflTransGen state.ast.Forward source.node target.node)
    (settled : target.Settled) : source.Settled := by
  -- from the end of the path backwards
  generalize named : source.node = name at path
  induction path using Relation.ReflTransGen.head_induction_on generalizing source with
  | refl =>
    rw [indexed.eq_of_found ((node_eq_some_iff indexed.unique).mpr ⟨ends, rfl⟩) begins named]
    exact settled
  | head edge _ ih =>
    obtain ⟨middle, mem, here⟩ := indexed.exists_node (indexed.formed.forward_target_mem edge)
    refine causal source begins middle mem ?_ (ih mem here).1
    rw [named, here]
    exact edge

/-- An activated node at the end of a path makes its start activated. -/
theorem Causal.activated_of_reaches (causal : state.Causal) (indexed : state.Indexed)
    {target : WorkflowNodeState} (begins : source ∈ state.nodes) (ends : target ∈ state.nodes)
    (path : Relation.ReflTransGen state.ast.Forward source.node target.node)
    (activated : target.activationOrder.isSome) : source.activationOrder.isSome := by
  rcases path.cases_tail with same | ⟨last, path, edge⟩
  · rw [indexed.eq_of_found ((node_eq_some_iff indexed.unique).mpr ⟨ends, rfl⟩) begins same.symm]
    exact activated
  · obtain ⟨middle, mem, rfl⟩ := indexed.exists_node (indexed.formed.forward_source_mem edge)
    have settled := causal middle mem target ends edge activated
    exact (causal.settled_of_reaches indexed begins mem path settled).1

variable {activated : WorkflowNodeActivated} {spec : WorkflowActivationNode}
  {node : WorkflowNodeState}

/-- A back edge into the activated node comes from a node whose evidence was rejected. -/
theorem backInput_source (formed : state.ast.WellFormed) {input : WorkflowNodeInput}
    (checked : Activates digests state activated spec node) (inputs : activated.inputs = [input])
    (rejected : state.backInputExists input = true) :
    ∃ source ∈ state.nodes, Relation.ReflTransGen state.ast.Forward activated.node source.node ∧
      ∃ rejection, source.rejection = some rejection ∧ rejection.code = .evidenceRejected := by
  have arrives := checked.inputs input (by rw [inputs]; exact mem_cons_self)
  obtain ⟨_, _, arrives⟩ := ExceptFold.bind_eq_ok.mp arrives
  split at arrives
  · cases arrives
  · next into found =>
    have into_mem := mem_of_find?_eq_some found
    have into_fits := find?_some found
    simp only [Bool.and_eq_true, beq_iff_eq] at into_fits
    unfold backInputExists at rejected
    split at rejected
    · cases rejected
    · next edge chosen =>
      have edge_mem := mem_of_find?_eq_some chosen
      have edge_fits := find?_some chosen
      simp only [Bool.and_eq_true, beq_iff_eq] at edge_fits
      have same : into = edge :=
        inj_on_of_nodup_map formed.ids into_mem edge_mem (into_fits.1.trans edge_fits.1.symm)
      simp only [Option.any_eq_true, Option.bind_eq_some_iff, Option.filter_eq_some_iff,
        beq_iff_eq] at rejected
      obtain ⟨name, fromNode, _, ⟨rejection, ⟨⟨source, lookup, shown⟩, code⟩, _⟩, _⟩ := rejected
      obtain ⟨mem, named⟩ := Rows.mem_of_find lookup
      refine ⟨source, mem, ?_, rejection, shown, code⟩
      rw [named, ← into_fits.2, same]
      exact formed.back_reaches edge_mem edge_fits.2 fromNode

/-- A node joins only when the sources of its edges are complete. -/
theorem join_source_completed (indexed : state.Indexed)
    (checked : Activates digests state activated spec node)
    (joins : Joins state activated spec node)
    (mem : source ∈ state.nodes) (forward : state.ast.Forward source.node activated.node) :
    source.phase = .completed := by
  obtain ⟨edge, within, kind, fromNode, toNode⟩ := forward
  obtain ⟨listed, named⟩ := checked.specified
  have joined : edge.id ∈ edgeIds activated.inputs := by
    rw [joins.ids, (indexed.formed.initialAll listed).1, named]
    refine mem_map_of_mem (mem_filter.mpr ⟨within, ?_⟩)
    simp [toNode, kind]
  obtain ⟨input, given, carries⟩ := mem_map.mp joined
  obtain ⟨other, found, here⟩ := joins.exist input given
  have same : edge = other := by
    rw [carries] at found
    obtain ⟨otherMember, otherId⟩ := indexed.formed.find_edge.mp found
    exact inj_on_of_nodup_map indexed.formed.ids within otherMember otherId.symm
  rw [← same] at here
  simp only [initialInputExists, kind, fromNode, Option.any_some, Option.any_eq_true,
    Bool.and_eq_true, beq_iff_eq] at here
  obtain ⟨row, lookup, completed, _⟩ := here
  rw [indexed.eq_of_found lookup mem rfl]
  exact completed

variable {change : WorkflowNodeState → WorkflowNodeState}

theorem causal_of_map (state : WorkflowGraphState) (sameAst : next.ast = state.ast)
    (nodes : next.nodes = state.nodes.map change) (named : ∀ node, (change node).node = node.node)
    (kept : ∀ source ∈ state.nodes, ∀ target ∈ state.nodes,
      state.ast.Forward source.node target.node → (change target).activationOrder.isSome →
        (change source).Settled) : next.Causal := by
  intro source inSource target inTarget forward active
  rw [nodes] at inSource inTarget
  obtain ⟨source, begins, rfl⟩ := mem_map.mp inSource
  obtain ⟨target, ends, rfl⟩ := mem_map.mp inTarget
  rw [sameAst, named, named] at forward
  exact kept source begins target ends forward active

/-- Ending a node takes no activation back. -/
theorem activated_of_changeAt (active : (changeAt name change node).activationOrder.isSome)
    (same : (change node).activationOrder = node.activationOrder) :
    node.activationOrder.isSome := by
  unfold changeAt at active
  split at active
  · rwa [same] at active
  · exact active

/-- Every accepted event leaves the sources of an activated node settled. -/
theorem Step.causal (step : Step digests state cursor event next) (indexed : state.Indexed)
    (causal : state.Causal) : next.Causal := by
  have formed := indexed.formed
  cases step with
  | forwardJoin activated spec node checked joins =>
    rw [captureSeed_eq]
    refine causal_of_map state rfl rfl (node_changeAt fun _ => rfl) ?_
    intro source begins target ends forward active
    have settled : source.Settled := by
      by_cases joined : target.node = activated.node
      · rw [joined] at forward
        have completed := join_source_completed indexed checked joins begins forward
        exact ⟨((indexed.fits source begins).running (.inr completed)).1, .inl completed⟩
      · rw [changeAt, if_neg joined] at active
        exact causal source begins target ends forward active
    have other : source.node ≠ activated.node := by
      intro named
      rw [indexed.eq_of_found checked.found begins named] at settled
      exact settled.not_waiting.1 joins.waiting
    rw [changeAt, if_neg other]
    exact settled
  | backEdge activated spec node input checked _ inputs rejected =>
    refine causal_of_map state rfl map_map (fun old => ?_) ?_
    · rw [Function.comp_apply, node_changeAt fun _ => by rfl, node_resetAt]
    intro source begins target ends forward active
    -- the source is outside of the slice that is reset
    have settled : source.Settled ∧ source.node ∉ descendants state.ast activated.node := by
      by_cases again : target.node = activated.node
      · refine ⟨causal source begins target ends forward ?_, ?_⟩
        · obtain ⟨guilty, mem, path, rejection, shown, code⟩ :=
            backInput_source formed checked inputs rejected
          have ran := (indexed.fits guilty mem).evidence rejection shown code
          rw [← again] at path
          exact causal.activated_of_reaches indexed ends mem path ran
        · rw [again] at forward
          exact not_mem_descendants formed forward
      · rw [Function.comp_apply, changeAt, node_resetAt, if_neg again, resetAt] at active
        split at active
        · cases active
        · next outside =>
          exact ⟨causal source begins target ends forward active,
            fun inside => outside (mem_descendants_forward forward inside)⟩
    have other : source.node ≠ activated.node := by
      intro named
      rw [named] at settled
      exact settled.2 mem_descendants_self
    rw [Function.comp_apply, changeAt, node_resetAt, if_neg other, resetAt, if_neg settled.2]
    exact settled.1
  | completed completed node _ found activated _ changed =>
    rw [changed]
    refine causal_of_map state rfl rfl (node_changeAt fun _ => rfl) ?_
    intro source begins target ends forward active
    have settled := causal source begins target ends forward (activated_of_changeAt active rfl)
    have other : source.node ≠ completed.node := by
      intro named
      rw [indexed.eq_of_found found begins named] at settled
      exact settled.not_waiting.2 activated
    rw [changeAt, if_neg other]
    exact settled
  | rejected rejected node _ _ found names =>
    refine causal_of_map state rfl rfl (node_changeAt fun _ => rfl) ?_
    intro source begins target ends forward active
    have settled := causal source begins target ends forward (activated_of_changeAt active rfl)
    unfold changeAt
    split
    · next named =>
      -- a settled node can only be rejected by the iteration guard
      rw [indexed.eq_of_found found begins named] at settled ⊢
      rcases names with missing | ⟨activated, _⟩
      · refine ⟨settled.1, .inr ⟨rfl, rejected, rfl, ?_⟩⟩
        simp only [rejectsMissingActivation, Bool.and_eq_true] at missing
        have notWaiting := settled.not_waiting.1
        cases code : rejected.code <;> simp_all
      · exact absurd activated settled.not_waiting.2
    · exact settled

theorem Reachable.causal (reachable : Reachable digests state) : state.Indexed ∧ state.Causal := by
  refine reachable.invariant (P := Causal) ?_ ?_
  · intro cursor started first ran source _ target mem _ active
    obtain ⟨_, _, _, _, _, _, rfl⟩ := fromStarted_eq_ok ran
    obtain ⟨spec, _, rfl⟩ := mem_map.mp mem
    cases active
  · intro s cursor event s' indexed _ causal step
    exact step.causal indexed causal

/-! ## Completed graphs -/

theorem settled_of_completed (indexed : state.Indexed) (phased : state.Phased)
    (causal : state.Causal) (completed : state.phase = .completed) :
    ∀ node ∈ state.nodes, node.Settled := by
  intro node mem
  have present : node.node ∈ state.ast.nodes.map (·.node) := by
    rw [← indexed.aligned]
    exact mem_map_of_mem mem
  obtain ⟨terminal, last, path⟩ := indexed.formed.reaches_terminal present
  obtain ⟨final, ends, named, phase⟩ :=
    indexed.terminalNodesCompleted_iff.mp (phased.finished.mp completed) terminal last
  rw [← named] at path
  refine causal.settled_of_reaches indexed mem ends path ⟨?_, .inl phase⟩
  exact ((indexed.fits final ends).running (.inr phase)).1

theorem not_step_of_completed (settled : ∀ node ∈ state.nodes, node.Settled)
    (completed : state.phase = .completed) : ¬ Step digests state cursor event next := by
  intro step
  cases step with
  | forwardJoin _ _ _ checked => exact checked.unfinished completed
  | backEdge _ _ _ _ checked => exact checked.unfinished completed
  | completed _ node _ found activated =>
    exact (settled node (Rows.mem_of_find found).1).not_waiting.2 activated
  | rejected _ _ unfinished => exact unfinished completed

theorem apply_error_of_step_none (none : ∀ next, step digests state (cursor, event) ≠ some next) :
    ∃ failure, (state.apply digests cursor event).2 = .error failure := by
  cases outcome : state.apply digests cursor event with
  | mk next answer =>
    cases answer with
    | error failure => exact ⟨failure, rfl⟩
    | ok =>
      refine absurd ?_ (none next)
      simp only [step, outcome]

/-- Along every forward edge into a node that was activated since its last reset, the source was
activated too and is completed or rejected by the iteration guard; so a completed graph has no node
left to run and refuses every event. -/
theorem reachable_causality (reachable : Reachable digests state) :
    (∀ edge ∈ state.ast.edges, edge.kind = .forward → ∀ name, edge.fromNode = some name →
      ∀ target, state.node edge.toNode = some target → target.activationOrder.isSome →
        ∃ source, state.node name = some source ∧ source.activationOrder.isSome ∧
          (source.phase = .completed ∨ source.phase = .rejected ∧
            ∃ rejection, source.rejection = some rejection ∧ rejection.code = .iterationGuard)) ∧
      (∀ node ∈ state.nodes, node.phase = .activated ∨ node.phase = .completed →
        node.activationOrder.isSome) ∧
      (state.phase = .completed →
        (∀ node ∈ state.nodes, node.phase ≠ .waiting ∧ node.phase ≠ .activated) ∧
          ∀ cursor event, ∃ failure, (state.apply digests cursor event).2 = .error failure) := by
  obtain ⟨indexed, causal⟩ := reachable.causal
  refine ⟨?_, fun node member running => ((indexed.fits node member).running running).1, ?_⟩
  · intro edge member kind name fromNode target found active
    obtain ⟨ends, named⟩ := Rows.mem_of_find found
    have forward : state.ast.Forward name target.node :=
      ⟨edge, member, kind, fromNode, named.symm⟩
    obtain ⟨source, begins, rfl⟩ := indexed.exists_node (indexed.formed.forward_source_mem forward)
    exact ⟨source, (node_eq_some_iff indexed.unique).mpr ⟨begins, rfl⟩,
      causal source begins target ends forward active⟩
  · intro completed
    have settled := settled_of_completed indexed reachable.projected.2.phased causal completed
    refine ⟨fun node member => (settled node member).not_waiting, fun cursor event => ?_⟩
    refine apply_error_of_step_none fun next stepped => ?_
    exact not_step_of_completed settled completed (step_sound indexed.unique stepped).2

theorem reachable_causality_review :
    ∃ state, Reachable reviewDigests state ∧ state.phase = .completed ∧
      (∀ node ∈ state.nodes, node.phase ≠ .waiting ∧ node.phase ≠ .activated) ∧
      ∃ failure, (state.apply reviewDigests 10 (reviewCompleted "CHECK" 2 reviewVerdict)).2 =
        .error failure := by
  have ran : (reviewAfter 8 []).map (·.phase) = some .completed := by decide +kernel
  obtain ⟨state, reached, completed⟩ := Option.map_eq_some_iff.mp ran
  have reachable := reachable_reviewAfter reached
  obtain ⟨_, _, final⟩ := reachable_causality reachable
  exact ⟨state, reachable, completed, (final completed).1, (final completed).2 10 _⟩

end WorkflowGraphState

end HaiderAgent
