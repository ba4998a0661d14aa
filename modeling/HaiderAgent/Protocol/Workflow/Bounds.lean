import HaiderAgent.Protocol.Workflow.Causality

/-!
# Workflow runs are bounded, and errors leave no trace

Every activation uses up a waiting node, and only a back edge makes nodes wait again, so activations
are bounded by the nodes and the back edges taken, far below the last activation number: the errors
`apply` could find after its first write never occur.
-/

namespace HaiderAgent

open List

namespace WorkflowGraphState

open WorkflowNodeState (changeAt resetAt)

variable {digests : WorkflowDigests} {state next : WorkflowGraphState} {cursor : Nat}
  {event : WorkflowGraphJournalEvent}

/-! ## The number of activations -/

/-- The nodes still waiting. -/
def waitingCount (state : WorkflowGraphState) : Nat :=
  state.nodes.countP (·.phase == .waiting)

/-- What was activated and what still waits fits into the rounds that were opened. -/
def Bounded (state : WorkflowGraphState) : Prop :=
  state.activationOrder.length + state.waitingCount ≤
    state.ast.nodes.length * (1 + state.backEdgeActivations)

theorem Indexed.length_nodes (indexed : state.Indexed) :
    state.nodes.length = state.ast.nodes.length := by
  have same := congrArg length indexed.aligned
  simpa using same

variable {name : GraphNodeName} {f : WorkflowNodeState → WorkflowNodeState}

theorem countP_changeAt (indexed : state.Indexed) {node : WorkflowNodeState}
    (found : state.node name = some node) (p : WorkflowNodeState → Bool) :
    (state.nodes.map (changeAt name f)).countP p + (if p node then 1 else 0) =
      state.nodes.countP p + if p (f node) then 1 else 0 := by
  rw [← Rows.countP_update (f := f) indexed.unique found p]
  rfl

theorem waiting_changeAt (indexed : state.Indexed) {node : WorkflowNodeState}
    (found : state.node name = some node) (runs : (f node).phase ≠ .waiting) :
    (state.nodes.map (changeAt name f)).countP (·.phase == .waiting) +
      (if node.phase == .waiting then 1 else 0) = state.nodes.countP (·.phase == .waiting) := by
  rw [countP_changeAt indexed found, if_neg (by simpa using runs)]
  rfl

/-- Every accepted event respects the activation bounds. -/
theorem Step.bounded (step : Step digests state cursor event next) (indexed : state.Indexed)
    (bounded : state.Bounded) : next.Bounded := by
  unfold Bounded waitingCount at bounded ⊢
  cases step with
  | forwardJoin activated spec node checked joins =>
    have counted := waiting_changeAt (f := (·.activate cursor activated)) indexed checked.found
      (by rintro ⟨⟩)
    rw [joins.waiting, if_pos (beq_self_eq_true _)] at counted
    rw [captureSeed_eq]
    simp only [activatedState, length_append, length_singleton]
    omega
  | backEdge activated spec node input checked =>
    obtain ⟨mem, named⟩ := Rows.mem_of_find checked.found
    simp only [activatedState, length_append, length_singleton]
    set rows := (state.nodes.map _).map _ with reset
    have length : rows.length = state.ast.nodes.length := by
      rw [reset, length_map, length_map, indexed.length_nodes]
    have runs : rows.countP (·.phase == .waiting) < rows.length := by
      refine countP_lt_length_iff.mpr
        ⟨_, mem_map_of_mem (mem_map_of_mem mem), ?_⟩
      rw [changeAt, node_resetAt, if_pos named]
      rfl
    have round : state.ast.nodes.length * (1 + (state.backEdgeActivations + 1)) =
        state.ast.nodes.length * (1 + state.backEdgeActivations) + state.ast.nodes.length :=
      Nat.mul_succ _ _
    omega
  | completed completed node _ found activated _ changed =>
    have counted := waiting_changeAt (f := (·.complete cursor completed)) indexed found
      (by rintro ⟨⟩)
    rw [changed]
    dsimp only
    omega
  | rejected rejected node _ _ found =>
    have counted := waiting_changeAt (f := (·.reject cursor rejected)) indexed found
      (by rintro ⟨⟩)
    dsimp only
    omega

theorem Reachable.bounded (reachable : Reachable digests state) : state.Bounded := by
  refine (reachable.invariant (P := Bounded) ?_ ?_).2
  · intro cursor started first ran
    obtain ⟨_, _, _, _, _, _, rfl⟩ := fromStarted_eq_ok ran
    have waiting := countP_le_length (p := fun node : WorkflowNodeState =>
      node.phase == .waiting) (l := started.ast.nodes.map fun node =>
        { node := node.node, phase := .waiting, iteration := 0, activationOrder := none
          inputs := [], outputs := [], convergence := none, rejection := none
          updatedCursor := cursor })
    rw [length_map] at waiting
    simpa [Bounded, waitingCount] using waiting
  · intro s cursor event s' indexed _ bounded step
    exact step.bounded indexed bounded

/-- The number of activations, with the constants of an accepted AST. -/
theorem activations_le (indexed : state.Indexed) (identified : state.Identified digests)
    (bounded : state.Bounded) : state.activationOrder.length ≤ graphMaxNodes * 25 := by
  have nodes := indexed.formed.nodeCount
  have rounds : 1 + state.backEdgeActivations ≤ 25 := by
    have back := identified.bounded
    have hops : state.ast.maxBackEdgeActivations ≤ 24 := indexed.formed.hops
    omega
  calc state.activationOrder.length
      ≤ state.activationOrder.length + state.waitingCount := Nat.le_add_right _ _
    _ ≤ state.ast.nodes.length * (1 + state.backEdgeActivations) := bounded
    _ ≤ graphMaxNodes * 25 := Nat.mul_le_mul nodes rounds

/-! ## Errors leave the state alone -/

variable {node : WorkflowNodeState} {activated : WorkflowNodeActivated}

theorem prepared_waiting (indexed : state.Indexed) (cursor : Nat)
    {spec : WorkflowActivationNode} (checked : Activates digests state activated spec node)
    (joined : activated.cause = .forwardJoin → node.phase = .waiting) :
    ∃ row, ((state.reopen cursor activated).captureSeed activated).node activated.node = some row ∧
      row.phase = .waiting := by
  obtain ⟨mem, named⟩ := Rows.mem_of_find checked.found
  unfold WorkflowGraphState.node
  rw [captureSeed_eq]
  cases cause : activated.cause with
  | forwardJoin =>
    refine ⟨node, ?_, joined cause⟩
    rw [reopen, cause]
    exact checked.found
  | backEdge =>
    have nodes : (state.reopen cursor activated).nodes =
        state.nodes.map (resetAt (descendants state.ast activated.node) cursor) := by
      rw [reopen, cause]
      rfl
    refine ⟨node.reset cursor, ?_, rfl⟩
    rw [nodes, Rows.find_eq_some_iff]
    · refine ⟨mem_map.mpr ⟨node, mem, ?_⟩, named⟩
      rw [resetAt, named]
      exact if_pos mem_descendants_self
    · rw [map_node_map (node_resetAt _)]
      exact indexed.unique

variable {failure : WorkflowGraphReductionError}

/-- A failed activation wrote nothing: what it could find after its first write does not occur. -/
theorem applyActivation_error (indexed : state.Indexed)
    (counted : state.nextActivationOrder + 1 ≤ u64Max)
    (failed : (state.applyActivation digests cursor activated).2 = .error failure) :
    (state.applyActivation digests cursor activated).1 = state := by
  cases checks : state.checkActivation digests activated with
  | error failure => simp only [applyActivation, checks]
  | ok =>
    exfalso
    obtain ⟨spec, node, checked, byCause⟩ := checkActivation_eq_ok checks
    have joined : activated.cause = .forwardJoin → node.phase = .waiting := by
      intro cause
      rw [cause] at byCause
      exact byCause.waiting
    obtain ⟨row, found, waiting⟩ := prepared_waiting indexed cursor checked joined
    have count : ((state.reopen cursor activated).captureSeed activated).nextActivationOrder + 1 ≤
        u64Max := by
      rw [nextActivationOrder_prepared]
      exact counted
    simp only [applyActivation, checks, found, waiting, ne_eq, not_true_eq_false, if_false,
      recordActivation, count, if_true] at failed
    cases failed

theorem applyCompletion_error {completed : WorkflowNodeCompleted}
    (failed : (state.applyCompletion digests cursor completed).2 = .error failure) :
    (state.applyCompletion digests cursor completed).1 = state := by
  unfold applyCompletion at failed ⊢
  split
  · rfl
  · next checks =>
    rw [checks] at failed
    cases failed

variable {rejected : WorkflowNodeRejected}

theorem applyRejection_error
    (failed : (state.applyRejection digests cursor rejected).2 = .error failure) :
    (state.applyRejection digests cursor rejected).1 = state := by
  unfold applyRejection at failed ⊢
  split
  · rfl
  · next checks =>
    rw [checks] at failed
    cases failed

theorem advance_error {outcome : WorkflowGraphState × Except WorkflowGraphReductionError Unit}
    (failed : (advance cursor outcome).2 = .error failure) :
    outcome.2 = .error failure ∧ (advance cursor outcome).1 = outcome.1 := by
  obtain ⟨handled, answer⟩ := outcome
  cases answer with
  | error other => exact ⟨failed, rfl⟩
  | ok => cases failed

/-- An event that `apply` refuses in a reachable state leaves the whole state as it was. -/
theorem reachable_apply_atomic (reachable : Reachable digests state) (cursor : Nat)
    (event : WorkflowGraphJournalEvent) :
    ∀ failure, (state.apply digests cursor event).2 = .error failure →
      (state.apply digests cursor event).1 = state := by
  intro failure failed
  obtain ⟨indexed, projected⟩ := reachable.projected
  have counted : state.nextActivationOrder + 1 ≤ u64Max := by
    have few := activations_le indexed projected.identified reachable.bounded
    rw [projected.ordered.next]
    have room : graphMaxNodes * 25 + 2 ≤ u64Max := by decide
    omega
  unfold apply at failed ⊢
  split
  · rfl
  · next late =>
    rw [if_neg late] at failed
    cases event with
    | workflowGraphStarted => rfl
    | workflowNodeActivated activated =>
      obtain ⟨refused, kept⟩ := advance_error failed
      exact kept.trans (applyActivation_error indexed counted refused)
    | workflowNodeCompleted completed =>
      obtain ⟨refused, kept⟩ := advance_error failed
      exact kept.trans (applyCompletion_error refused)
    | workflowNodeRejected rejected =>
      obtain ⟨refused, kept⟩ := advance_error failed
      exact kept.trans (applyRejection_error refused)

/-- A back edge whose evidence is not the rejected one is refused after the check rejected. -/
theorem reachable_apply_atomic_review :
    ∃ state, Reachable reviewDigests state ∧ state.throughCursor = 5 ∧
      (state.apply reviewDigests 6 (reviewActivated "DRAFT" 2 3 .backEdge 3 reviewBrief)).1 =
        state := by
  have ran : (reviewAfter 4 []).map (fun state => (state.throughCursor,
      (state.apply reviewDigests 6 (reviewActivated "DRAFT" 2 3 .backEdge 3 reviewBrief)).2.toOption))
      = some (5, none) := by decide +kernel
  obtain ⟨state, reached, shape⟩ := Option.map_eq_some_iff.mp ran
  have reachable := reachable_reviewAfter reached
  obtain ⟨through, refused⟩ := Prod.mk.inj shape
  refine ⟨state, reachable, through, ?_⟩
  cases answer : (state.apply reviewDigests 6
      (reviewActivated "DRAFT" 2 3 .backEdge 3 reviewBrief)).2 with
  | error failure => exact reachable_apply_atomic reachable 6 _ failure answer
  | ok =>
    rw [answer] at refused
    cases refused

/-! ## Sealed graphs -/

/-- The node was rejected with a code that seals the graph. -/
def sealing (node : WorkflowNodeState) : Bool := node.rejection.any (·.code.seals)

/-- The event rejects a node with a code that seals the graph. -/
def seals : WorkflowGraphJournalEvent → Bool
  | .workflowNodeRejected rejected => rejected.code.seals
  | _ => false

/-- All rejections that seal the graph are of one code, and the phase shows them. -/
def Sealed (state : WorkflowGraphState) : Prop :=
  ∀ node ∈ state.nodes, ∀ rejection, node.rejection = some rejection →
    rejection.code.seals = true →
      state.terminalRejectionCode = some rejection.code ∧ state.phase = .rejected

theorem terminalRejectionCode_eq_none :
    state.terminalRejectionCode = none ↔ ∀ node ∈ state.nodes, sealing node = false := by
  simp only [terminalRejectionCode, findSome?_eq_none_iff, sealing]
  refine forall₂_congr fun node _ => ?_
  cases node.rejection with
  | none => simp
  | some rejection => cases seals : rejection.code.seals <;> simp [seals]

variable {code : WorkflowNodeRejectCode}

/-- The code of a sealed graph is that of a rejection, and seals. -/
theorem rejection_of_terminalRejectionCode (sealed : state.terminalRejectionCode = some code) :
    ∃ node ∈ state.nodes, ∃ rejection, node.rejection = some rejection ∧
      rejection.code = code ∧ code.seals = true := by
  obtain ⟨row, within, shown⟩ := exists_of_findSome?_eq_some sealed
  obtain ⟨rejection, given, chosen⟩ := Option.bind_eq_some_iff.mp shown
  split at chosen
  · next seals =>
    cases chosen
    exact ⟨row, within, rejection, given, rfl, seals⟩
  · cases chosen

/-- The code of a sealed graph is the one code all its sealing rejections have. -/
theorem terminalRejectionCode_eq_some (mem : node ∈ state.nodes) (sealed : sealing node = true)
    (same : ∀ node ∈ state.nodes, ∀ rejection, node.rejection = some rejection →
      rejection.code.seals = true → rejection.code = code) :
    state.terminalRejectionCode = some code := by
  cases first : state.terminalRejectionCode with
  | none =>
    have unsealed := terminalRejectionCode_eq_none.mp first node mem
    rw [sealed] at unsealed
    cases unsealed
  | some other =>
    obtain ⟨row, within, rejection, given, rfl, seals⟩ := rejection_of_terminalRejectionCode first
    rw [same row within rejection given seals]

theorem sealing_eq_true :
    sealing node = true ↔ ∃ rejection, node.rejection = some rejection ∧
      rejection.code.seals = true := by
  simp [sealing, Option.any_eq_true]

/-- A node that a rejection may name was not yet rejected with that code, if it seals. -/
theorem not_sealing_of_rejected (indexed : state.Indexed)
    (found : state.node rejected.node = some node)
    (names : rejectsMissingActivation node rejected = true ∨
      node.phase = .activated ∧ node.iteration = rejected.iteration)
    (seals : rejected.code.seals = true) : sealing node = false := by
  refine Bool.eq_false_iff.mpr fun before => ?_
  obtain ⟨rejection, shown, _⟩ := sealing_eq_true.mp before
  have phase := (indexed.fits node (Rows.mem_of_find found).1).rejected_of_rejection
    (Option.isSome_iff_exists.mpr ⟨rejection, shown⟩)
  rcases names with missing | ⟨activated, _⟩
  · simp only [rejectsMissingActivation, Bool.and_eq_true] at missing
    cases code : rejected.code <;> simp_all [WorkflowNodeRejectCode.seals]
  · rw [activated] at phase
    cases phase

/-- The nodes rejected with a sealing code. -/
def sealedCount (state : WorkflowGraphState) : Nat := state.nodes.countP sealing

theorem sealedCount_eq_zero (unsealed : state.terminalRejectionCode = none) :
    state.sealedCount = 0 := by
  refine countP_eq_zero.mpr fun node mem => ?_
  rw [terminalRejectionCode_eq_none.mp unsealed node mem]
  exact Bool.false_ne_true

theorem sealed_of_none (unsealed : state.terminalRejectionCode = none) : state.Sealed := by
  intro node mem rejection shown seals
  have free := terminalRejectionCode_eq_none.mp unsealed node mem
  rw [sealing_eq_true.mpr ⟨rejection, shown, seals⟩] at free
  cases free

variable {change : WorkflowNodeState → WorkflowNodeState}

theorem terminalRejectionCode_map (unsealed : state.terminalRejectionCode = none)
    (nodes : next.nodes = state.nodes.map change)
    (kept : ∀ node, sealing node = false → sealing (change node) = false) :
    next.terminalRejectionCode = none := by
  refine terminalRejectionCode_eq_none.mpr fun node mem => ?_
  rw [nodes] at mem
  obtain ⟨old, before, rfl⟩ := mem_map.mp mem
  exact kept old (terminalRejectionCode_eq_none.mp unsealed old before)

theorem sealing_changeAt
    (clears : ∀ node, sealing (change node) = false) (unsealed : sealing node = false) :
    sealing (changeAt name change node) = false := by
  unfold changeAt
  split
  · exact clears node
  · exact unsealed

/-- Only a rejection is accepted in a sealed graph, and only it seals one. -/
theorem Step.unsealed (step : Step digests state cursor event next)
    (other : ∀ rejected, event ≠ .workflowNodeRejected rejected) :
    state.terminalRejectionCode = none ∧ next.terminalRejectionCode = none := by
  cases step with
  | forwardJoin activated spec node checked =>
    exact ⟨checked.unsealed, terminalRejectionCode_map checked.unsealed rfl
      fun _ => sealing_changeAt fun _ => rfl⟩
  | backEdge activated spec node input checked =>
    refine ⟨checked.unsealed, terminalRejectionCode_map checked.unsealed map_map ?_⟩
    refine fun old free => sealing_changeAt (fun _ => rfl) ?_
    unfold resetAt
    split
    · rfl
    · exact free
  | completed completed _ unsealed _ _ _ changed =>
    refine ⟨unsealed, ?_⟩
    rw [changed]
    exact terminalRejectionCode_map unsealed rfl fun _ => sealing_changeAt fun _ => rfl
  | rejected rejected => exact absurd rfl (other rejected)

/-- A sealing rejection is never followed by one with another code. -/
theorem Step.sealed_rejected
    (step : Step digests state cursor (.workflowNodeRejected rejected) next)
    (indexed : state.Indexed) (sealed : state.Sealed) :
    next.Sealed ∧ (∀ code, state.terminalRejectionCode = some code →
        code = rejected.code ∧ next.terminalRejectionCode = some code) ∧
      next.sealedCount = state.sealedCount + if rejected.code.seals then 1 else 0 := by
  cases step with
  | rejected _ node _ same found names =>
    have counted := countP_changeAt (f := (·.reject cursor rejected)) indexed found sealing
    have after : sealing (node.reject cursor rejected) = rejected.code.seals := rfl
    -- every sealing rejection afterwards has the code of this one
    have one : ∀ row ∈ state.nodes.map (changeAt rejected.node (·.reject cursor rejected)),
        ∀ rejection, row.rejection = some rejection → rejection.code.seals = true →
          rejection.code = rejected.code := by
      intro row mem rejection shown seals
      obtain ⟨old, before, rfl⟩ := mem_map.mp mem
      unfold changeAt at shown
      split at shown
      · cases shown
        rfl
      · exact same _ (sealed old before rejection shown seals).1
    refine ⟨?_, ?_, ?_⟩
    · intro row mem rejection shown seals
      refine ⟨?_, rfl⟩
      have shows : sealing row = true := sealing_eq_true.mpr ⟨rejection, shown, seals⟩
      rw [one row mem rejection shown seals]
      exact terminalRejectionCode_eq_some mem shows one
    · intro code shown
      refine ⟨same code shown, ?_⟩
      obtain ⟨mem, named⟩ := Rows.mem_of_find found
      have now : sealing (changeAt rejected.node (·.reject cursor rejected) node) = true := by
        rw [changeAt, if_pos named, after, ← same code shown]
        obtain ⟨_, _, _, _, _, seals⟩ := rejection_of_terminalRejectionCode shown
        exact seals
      rw [same code shown]
      exact terminalRejectionCode_eq_some (mem_map_of_mem mem) now one
    · unfold sealedCount
      have free : sealing node = false := by
        by_cases seals : rejected.code.seals = true
        · exact not_sealing_of_rejected indexed found names seals
        · refine terminalRejectionCode_eq_none.mp ?_ node (Rows.mem_of_find found).1
          refine Option.eq_none_iff_forall_ne_some.mpr fun code shown => seals ?_
          obtain ⟨_, _, _, _, _, sealed⟩ := rejection_of_terminalRejectionCode shown
          exact same code shown ▸ sealed
      rw [free, after] at counted
      simpa using counted

/-- One step: sealing is kept, and counted by the events that seal. -/
theorem Step.sealed (step : Step digests state cursor event next) (indexed : state.Indexed)
    (sealed : state.Sealed) :
    next.Sealed ∧ next.sealedCount = state.sealedCount + if seals event then 1 else 0 := by
  cases event with
  | workflowNodeRejected rejected =>
    obtain ⟨kept, _, counted⟩ := step.sealed_rejected indexed sealed
    exact ⟨kept, counted⟩
  | workflowGraphStarted => cases step
  | workflowNodeActivated | workflowNodeCompleted =>
    obtain ⟨before, after⟩ := step.unsealed nofun
    exact ⟨sealed_of_none after, by rw [sealedCount_eq_zero before, sealedCount_eq_zero after]; rfl⟩

/-! ## Whole runs -/

section Runs

variable {last : WorkflowGraphState} {entries : List (Nat × WorkflowGraphJournalEvent)}

/-- A run keeps the seal, and the sealed nodes count its sealing events. -/
theorem run_sealedCount (indexed : state.Indexed) (sealed : state.Sealed)
    (ran : Machine.run (step digests) state entries = some last) :
    last.Sealed ∧
      last.sealedCount = state.sealedCount + (entries.filter fun entry => seals entry.2).length := by
  induction entries generalizing state with
  | nil =>
    rw [Machine.run_nil, Option.some_inj] at ran
    subst ran
    exact ⟨sealed, rfl⟩
  | cons entry entries ih =>
    rw [Machine.run_cons, Option.bind_eq_some_iff] at ran
    obtain ⟨middle, first, rest⟩ := ran
    obtain ⟨later, step⟩ := step_sound indexed.unique first
    obtain ⟨kept, counted⟩ := step.sealed indexed sealed
    obtain ⟨sealed, total⟩ := ih (step.indexed indexed later) kept rest
    refine ⟨sealed, ?_⟩
    rw [total, counted, filter_cons]
    split
    · rw [length_cons]
      omega
    · omega

/-- From a sealed graph on, a run consists of rejections with the code of the seal. -/
theorem run_from_sealed (indexed : state.Indexed) (sealed : state.Sealed)
    {code : WorkflowNodeRejectCode} (shown : state.terminalRejectionCode = some code)
    (ran : Machine.run (step digests) state entries = some last) :
    last.phase = .rejected ∧ ∀ entry ∈ entries, ∃ rejected,
      entry.2 = .workflowNodeRejected rejected ∧ rejected.code = code := by
  induction entries generalizing state with
  | nil =>
    rw [Machine.run_nil, Option.some_inj] at ran
    subst ran
    obtain ⟨node, mem, rejection, given, rfl, seals⟩ := rejection_of_terminalRejectionCode shown
    exact ⟨(sealed node mem rejection given seals).2, nofun⟩
  | cons entry entries ih =>
    rw [Machine.run_cons, Option.bind_eq_some_iff] at ran
    obtain ⟨middle, first, rest⟩ := ran
    obtain ⟨cursor, event⟩ := entry
    obtain ⟨later, step⟩ := step_sound indexed.unique first
    have isRejection : ∃ rejected, event = .workflowNodeRejected rejected := by
      by_contra other
      push Not at other
      rw [(step.unsealed other).1] at shown
      cases shown
    obtain ⟨rejected, rfl⟩ := isRejection
    obtain ⟨kept, same, _⟩ := step.sealed_rejected indexed sealed
    obtain ⟨hasCode, still⟩ := same code shown
    obtain ⟨phase, each⟩ := ih (step.indexed indexed later) kept still rest
    refine ⟨phase, fun other mem => ?_⟩
    rcases mem_cons.mp mem with rfl | tail
    · exact ⟨rejected, rfl, hasCode.symm⟩
    · exact each other tail

/-- The activations of a run are bounded by the nodes and the back edges taken, and a node rejected
as abandoned or superseded ends it: only rejections with that code follow, the phase stays rejected,
and no more of them are accepted than there are nodes. -/
theorem run_bounded {started : WorkflowGraphStarted} {first : WorkflowGraphState}
    (began : fromStarted digests cursor started = .ok first)
    (ran : Machine.run (step digests) first entries = some state) :
    state.activationOrder.length ≤ state.ast.nodes.length * (1 + state.backEdgeActivations) ∧
      state.activationOrder.length ≤ 512 * 25 ∧
      (entries.filter fun entry => seals entry.2).length ≤ state.ast.nodes.length ∧
      ∀ node ∈ state.nodes, ∀ rejection, node.rejection = some rejection →
        rejection.code = .abandoned ∨ rejection.code = .superseded →
        ∀ more last, Machine.run (step digests) state more = some last →
          last.phase = .rejected ∧ ∀ entry ∈ more, ∃ rejected,
            entry.2 = .workflowNodeRejected rejected ∧ rejected.code = rejection.code := by
  have reachable : Reachable digests state := ⟨cursor, started, first, entries, began, ran⟩
  obtain ⟨indexed, projected⟩ := reachable.projected
  have bounded := reachable.bounded
  have fresh : first.terminalRejectionCode = none := by
    obtain ⟨_, _, _, _, _, _, rfl⟩ := fromStarted_eq_ok began
    refine terminalRejectionCode_eq_none.mpr fun node member => ?_
    obtain ⟨spec, _, rfl⟩ := mem_map.mp member
    rfl
  obtain ⟨sealed, counted⟩ :=
    run_sealedCount (indexed_of_fromStarted began) (sealed_of_none fresh) ran
  refine ⟨Nat.le_trans (Nat.le_add_right _ _) bounded,
    activations_le indexed projected.identified bounded, ?_, ?_⟩
  · rw [sealedCount_eq_zero fresh, Nat.zero_add] at counted
    rw [← counted, ← indexed.length_nodes]
    exact countP_le_length
  · intro node member rejection shown code more last later
    have seals : rejection.code.seals = true := by
      rcases code with abandoned | superseded
      · rw [abandoned]
        rfl
      · rw [superseded]
        rfl
    exact run_from_sealed indexed sealed (sealed node member rejection shown seals).1 later

/-- The draft is abandoned while the check waits; the check can only be abandoned with it. -/
theorem run_bounded_review :
    ∃ state, Reachable reviewDigests state ∧ state.phase = .rejected ∧
      state.activationOrder.length ≤ 512 * 25 ∧
      (∃ last, Machine.run (step reviewDigests) state [(4, .workflowNodeRejected
        ⟨"graph", "CHECK", 1, .abandoned, "the draft is gone", none, false⟩)] = some last) ∧
      ∀ more last, Machine.run (step reviewDigests) state more = some last →
        last.phase = .rejected ∧ ∀ entry ∈ more, ∃ rejected,
          entry.2 = .workflowNodeRejected rejected ∧ rejected.code = .abandoned := by
  have ran : ((reviewAfter 1 [(3, .workflowNodeRejected
      ⟨"graph", "DRAFT", 1, .abandoned, "the task is gone", none, false⟩)]).any fun state =>
      state.phase == .rejected && (state.nodes.any fun node =>
        node.rejection.any (·.code == .abandoned)) &&
      (Machine.run (step reviewDigests) state [(4, .workflowNodeRejected
        ⟨"graph", "CHECK", 1, .abandoned, "the draft is gone", none, false⟩)]).isSome) = true := by
    decide +kernel
  obtain ⟨state, reached, shape⟩ := (Option.any_eq_true _ _).mp ran
  simp only [Bool.and_eq_true, beq_iff_eq, any_eq_true, Option.any_eq_true] at shape
  obtain ⟨⟨phase, node, member, rejection, has, code⟩, further⟩ := shape
  obtain ⟨first, began, steps⟩ := Option.bind_eq_some_iff.mp reached
  obtain ⟨_, few, _, sealed⟩ := run_bounded (ExceptFold.ok_of_toOption began) steps
  have final := sealed node member rejection has (.inl code)
  rw [code] at final
  exact ⟨state, reachable_reviewAfter reached, phase, few, Option.isSome_iff_exists.mp further, final⟩

end Runs

end WorkflowGraphState

end HaiderAgent
