import HaiderAgent.Protocol.Loom.Agreement
import HaiderAgent.Protocol.Workflow.Causality

/-!
# Runs of a compiled pipe

The two ends of a pipe meet: what `compile_pipe` orders by dependency, the runtime state of its
lowered AST executes in that order.
-/

namespace HaiderAgent

open List WorkflowGraphState
open Relation (TransGen ReflTransGen)

/-- In every run of a pipe that was compiled and lowered, a node is activated only after everything
it depends on, directly or through others, has run; and a completed run has run every node of the
template. -/
theorem compiled_pipe_runs_in_order (hash : WorkflowHash) (source : String)
    (lookup : String → Option LoomTypeSig)
    (registry : ∀ atype signature, lookup atype = some signature →
      validTypeExpr signature.inType ∧ validTypeExpr signature.outType) (workflow : LoomWorkflow)
    (compiled : compilePipe hash (parsePipe source) lookup = .ok workflow)
    {digests : WorkflowDigests} {state : WorkflowGraphState}
    (lowered : workflowActivationAstFromLoom workflow = .ok state.ast)
    (reachable : Reachable digests state) :
    state.nodes.map (·.node) = workflow.template.nodes.map (·.name) ∧
      (∀ node ∈ state.nodes, node.activationOrder.isSome → ∀ ancestor,
        TransGen (FlowsTo workflow.template.nodes) ancestor node.node →
          ∃ earlier ∈ state.nodes, earlier.node = ancestor ∧ earlier.Settled) ∧
      (state.phase = .completed → ∀ node ∈ state.nodes, node.Settled) := by
  obtain ⟨start, typed⟩ := wellTyped_of_compilePipe registry valid_types_of_parsePipe compiled
  obtain ⟨ast, built, lowers⟩ := typed.loweredAst
  obtain ⟨_, same, checked⟩ := ExceptFold.bind_eq_ok.mp lowered
  rw [built] at same
  cases same
  obtain ⟨_, -, same⟩ := ExceptFold.bind_eq_ok.mp checked
  obtain rfl : ast = state.ast := Except.ok.inj same
  obtain ⟨indexed, causal⟩ := reachable.causal
  have forward {first second : GraphNodeName} : state.ast.Forward first second ↔
      FlowsTo workflow.template.nodes first second := lowers.forward_edge_iff typed
  refine ⟨indexed.aligned.trans (lowers.names typed), ?_,
    settled_of_completed indexed reachable.projected.2.phased causal⟩
  intro node ends active ancestor path
  obtain ⟨last, early, flows⟩ := Relation.TransGen.tail'_iff.mp path
  -- the direct dependency has run because the node was activated, and so has what it depends on
  obtain ⟨direct, listed, rfl⟩ :=
    indexed.exists_node (indexed.formed.forward_source_mem (forward.mpr flows))
  have settled := causal direct listed node ends (forward.mpr flows) active
  have walk : ReflTransGen state.ast.Forward ancestor direct.node :=
    early.lift id fun _ _ => forward.mpr
  obtain ⟨earlier, begins, rfl⟩ : ∃ earlier ∈ state.nodes, earlier.node = ancestor := by
    rcases walk.cases_head with rfl | ⟨_, step, -⟩
    · exact ⟨direct, listed, rfl⟩
    · exact indexed.exists_node (indexed.formed.forward_source_mem step)
  exact ⟨earlier, begins, rfl, causal.settled_of_reaches indexed begins listed walk settled⟩

/-- Two control nodes before one work node. -/
def straightPipe : String := "demo: I -> A\nfork\njoin\na @left"

/-- The seed of the run. -/
def straightInput : InstructEvidenceRef := reviewEvidence 'a' "I" []

/-- The first node's output. -/
def straightForked : InstructEvidenceRef := reviewEvidence 'b' "I" [straightInput.artifact]

/-- The second node's output. -/
def straightJoined : InstructEvidenceRef := reviewEvidence 'c' "I" [straightForked.artifact]

/-- The last node's output. -/
def straightOutput : InstructEvidenceRef := reviewEvidence 'd' "A" [straightJoined.artifact]

/-- Every node runs once; the last one is the convergence gate. -/
def straightEntries : List (Nat × WorkflowGraphJournalEvent) := [
  (2, reviewActivated "FORK" 1 1 .forwardJoin 1 straightInput),
  (3, reviewCompleted "FORK" 1 straightForked),
  (4, reviewActivated "JOIN" 1 2 .forwardJoin 2 straightForked),
  (5, reviewCompleted "JOIN" 1 straightJoined),
  (6, reviewActivated "A" 1 3 .forwardJoin 3 straightJoined),
  (7, .workflowNodeCompleted ⟨"graph", "A", 1, [straightOutput],
    reviewDigests.evidenceLedger [straightOutput], some ⟨straightOutput.ledgerDigest⟩⟩)]

/-- The run of the three nodes over a given graph. -/
def straightRun (ast : WorkflowActivationAst) : Option WorkflowGraphState :=
  (fromStarted reviewDigests 1 ⟨"graph", ast, reviewDigests.activationAst ast, none⟩).toOption.bind
    (Machine.run (step reviewDigests) · straightEntries)

/-- Three nodes in a row, compiled and run to the end. -/
theorem compiled_pipe_runs_in_order_straight :
    ∃ workflow state, compilePipe constantHash (parsePipe straightPipe) reorderedRegistry =
        .ok workflow ∧ Reachable reviewDigests state ∧ state.phase = .completed ∧
      state.nodes.map (·.node) = workflow.template.nodes.map (·.name) ∧
      (∃ earlier ∈ state.nodes, earlier.node = "FORK" ∧ earlier.Settled) ∧
      ∀ node ∈ state.nodes, node.Settled := by
  have runs : ((compilePipe constantHash (parsePipe straightPipe) reorderedRegistry).toOption.any
      fun workflow => decide ("JOIN" ∈ graphDependents workflow.template.nodes "FORK" ∧
          "A" ∈ graphDependents workflow.template.nodes "JOIN") &&
        (workflowActivationAstFromLoom workflow).toOption.any fun ast =>
          (straightRun ast).any fun state => state.ast == ast && state.phase == .completed &&
            state.nodes.any fun node => node.node == "A" && node.activationOrder.isSome) = true := by
    decide +kernel
  obtain ⟨workflow, compiled, runs⟩ := (Option.any_eq_true _ _).mp runs
  obtain ⟨flows, runs⟩ := Bool.and_eq_true_iff.mp runs
  obtain ⟨forked, joined⟩ := of_decide_eq_true flows
  obtain ⟨ast, lowered, runs⟩ := (Option.any_eq_true _ _).mp runs
  obtain ⟨state, ran, ends⟩ := (Option.any_eq_true _ _).mp runs
  simp only [Bool.and_eq_true, beq_iff_eq, any_eq_true] at ends
  obtain ⟨⟨rfl, completed⟩, node, member, named, active⟩ := ends
  obtain ⟨first, began, ran⟩ := Option.bind_eq_some_iff.mp ran
  have reachable : Reachable reviewDigests state :=
    ⟨1, _, first, _, ExceptFold.ok_of_toOption began, ran⟩
  have compiled := ExceptFold.ok_of_toOption compiled
  obtain ⟨names, ordered, settled⟩ := compiled_pipe_runs_in_order constantHash straightPipe
    reorderedRegistry valid_of_reorderedRegistry workflow compiled
    (ExceptFold.ok_of_toOption lowered) reachable
  have path : TransGen (FlowsTo workflow.template.nodes) "FORK" node.node :=
    named ▸ .tail (.single forked) joined
  exact ⟨workflow, state, compiled, reachable, completed, names,
    ordered node member active "FORK" path, settled completed⟩

end HaiderAgent
