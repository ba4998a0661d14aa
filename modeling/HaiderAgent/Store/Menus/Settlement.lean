import HaiderAgent.Protocol.GraphReduce

/-!
# What a graph confirmation settles

The graph part of `resolve_menu_transaction` (`haider-store/src/event_store.rs`): a gate answered
with the nodes it unlocks, the todo children that wait for a completed graph, and an abandoned
workflow. The facts are committed behind the answer; none of them answers a menu.
-/

namespace HaiderAgent.Menus

open ExceptFold

/-- The error codes of menu resolution (`error.rs`). -/
inductive MenuErrorCode where
  | invalidArgument | menuNotFound | singleWriterViolation | graphNotActive | graphWrongNode
  | storeCorrupt | storeError
  deriving DecidableEq, Repr

/-- A refusal with its text. -/
structure MenuError where
  code : MenuErrorCode
  message : String
  deriving DecidableEq, Repr

/-- `SHIP_LOOP_TEMPLATE`. -/
def shipLoopTemplate : String := "ship-loop"

/-- `graph_confirm_menu_for`. -/
def graphConfirmMenuFor (graphId : GraphId) (template : String) (node : GraphNodeName)
    (attempt : Nat) : Menu where
  id :=
    if template = shipLoopTemplate ∧ node = "SHIP" then
      "graph-confirm-" ++ graphId ++ "-" ++ toString attempt
    else "graph-confirm-" ++ graphId ++ "-" ++ node ++ "-" ++ toString attempt
  kind := .graphHumanConfirm graphId node attempt
  title := "Confirm " ++ node ++ "?"
  body := ["All dependencies for " ++ node ++ " are green in attempt " ++ toString attempt ++ "."]
  options :=
    [⟨"confirm", "Confirm", some ("Satisfy the " ++ node ++ " gate.")⟩,
      ⟨"hold", "Hold", some "Park the graph for explicit re-pin or abandon."⟩]
  blocking := false
  scope := .session
  origin := "convergence-graph"
  ttlMs := none
  timeoutOption := none

variable (reduction : GraphReduction) (status : GraphStatus)

/-- `graph_confirm_menu`. -/
def graphConfirmMenu (node : GraphNodeName) (attempt : Nat) : Menu :=
  graphConfirmMenuFor status.graphId status.template node attempt

/-- `graph_pending_menus`. -/
def graphPendingMenus : List MenuId :=
  if status.pendingMenus.isEmpty then status.pendingMenu.toList else status.pendingMenus

/-- `linear_template`: each node depends on the one before it. -/
def linearTemplate : Bool :=
  match reduction.templateNodes with
  | [] => false
  | first :: rest =>
    first.name == status.startNode.getD first.name && first.dependsOn.isEmpty &&
      ((first :: rest).zip rest).all fun (before, after) => after.dependsOn == [before.name]

/-- What one newly ready node adds to the batch. -/
def readiedPayloads (linear : Bool) (status : GraphStatus) (satisfiedNode : GraphNodeName)
    (openingAttempt : Nat) (spec : GraphNodeSpec) : List EventPayload :=
  (if linear then [.graphAdvanced ⟨status.graphId, satisfiedNode, spec.name⟩]
    else [.graphNodeReadied ⟨status.graphId, spec.name, openingAttempt⟩]) ++
  [.graphAttemptOpened ⟨status.graphId, spec.name, openingAttempt⟩] ++
  (if spec.gate = .humanConfirm then
    [.menuOpened (graphConfirmMenu status spec.name openingAttempt)] else [])

/-- `dependency_followups`. Newly unlocked nodes join the latest traversal epoch. -/
def dependencyFollowups (satisfiedNode : GraphNodeName) (attempt : Nat) : List EventPayload :=
  let satisfied := fun name : GraphNodeName =>
    name == satisfiedNode || (status.nodes.find? (·.node == name)).any (·.satisfied)
  let unsatisfied := reduction.templateNodes.filter fun spec => !satisfied spec.name
  if unsatisfied.isEmpty then [.graphCompleted status.graphId]
  else
    let ready := unsatisfied.filter fun spec =>
      spec.dependsOn.all satisfied && !status.nodeIsReady spec.name
    ready.flatMap
      (readiedPayloads (linearTemplate reduction status) status satisfiedNode
        (max status.attempt attempt))

/-- What a dependent todo child adds when the child it waits for completed. -/
def dependentFollowups (reductions : GraphReductions) (dependent : TodoGraphStatus) :
    Except MenuError (List EventPayload) := do
  let some reduction := reductions.graph dependent.graphId
    | .error ⟨.storeCorrupt,
        "todo child graph " ++ dependent.graphId ++ " is absent from its run-set"⟩
  let some status := reduction.status
    | .error ⟨.storeCorrupt, "todo child graph " ++ dependent.graphId ++ " has no reduced status"⟩
  if status.phase ≠ .active ∨ status.attempt ≠ 0 then return []
  let some startNode := status.startNode
    | .error ⟨.storeCorrupt,
        "todo child graph " ++ dependent.graphId ++ " has no declared start node"⟩
  let humanStart := reduction.templateNodes.any fun spec =>
    spec.name == startNode && spec.gate == .humanConfirm
  return .graphAttemptOpened ⟨dependent.graphId, startNode, 1⟩ ::
    (if humanStart then [.menuOpened (graphConfirmMenu status startNode 1)] else [])

/-- The follow-ups of each dependent in turn. -/
def dependentsFollowups (reductions : GraphReductions) :
    List TodoGraphStatus → Except MenuError (List EventPayload)
  | [] => .ok []
  | dependent :: rest => do
    let first ← dependentFollowups reductions dependent
    let later ← dependentsFollowups reductions rest
    return first ++ later

/-- `todo_child_completed_followups`. -/
def todoChildCompletedFollowups (reductions : GraphReductions) (completed : GraphId) :
    Except MenuError (List EventPayload) :=
  match reductions.activeRunSet.bind reductions.runSets.lookup with
  | none => .ok []
  | some runSet =>
    match runSet.children.find? (·.graphId == completed) with
    | none => .ok []
    | some child => do
      let dependents := (runSet.children.filter (·.dependsOnTodoId == some child.todoId)).insertionSort
        fun a b => a.ordinal < b.ordinal ∨ a.ordinal = b.ordinal ∧ a.todoId ≤ b.todoId
      let followups ← dependentsFollowups reductions dependents
      let completesAggregate :=
        runSet.requiredChildren ≤ runSet.children.countP (·.phase.isTerminal) + 1
      return followups ++
        (if completesAggregate then [.graphCompleted runSet.rootGraphId] else [])

/-- The pending menus beside an answered one, dismissed with it. -/
def dismissOthers (answered : MenuId) : List EventPayload :=
  ((graphPendingMenus status).filter (· != answered)).map (.menuClosed · .dismissed)

/-- The answer to a `GraphHumanConfirm` menu: refused where the obligation moved on. -/
def settleHumanConfirm (envelopes : List RawEnvelope) (menu : Menu) (optionKey : Option String)
    (graphId : GraphId) (node : GraphNodeName) (attempt : Nat) :
    Except MenuError (List EventPayload) := do
  let reductions := reduceGraphs envelopes
  let some reduction := reductions.graph graphId
    | .error ⟨.graphNotActive, "graph confirmation has no graph instance"⟩
  let some status := reduction.status
    | .error ⟨.graphNotActive, "graph confirmation has no graph instance"⟩
  ensure
    (status.graphId == graphId && status.phase == .active && status.nodeIsReady node &&
      (status.nodes.find? (·.node == node)).any (·.currentAttempt == some attempt) &&
      (graphPendingMenus status).contains menu.id &&
      reduction.templateNodes.any fun spec => spec.name == node && spec.gate == .humanConfirm)
    ⟨.graphWrongNode, "graph confirmation is stale for the current obligation"⟩
  let some key := optionKey | .error ⟨.invalidArgument, "missing answer key"⟩
  if key = "confirm" then
    let followups := dependencyFollowups reduction status node attempt
    let settled := .graphGateSatisfied ⟨graphId, node, attempt⟩ :: followups
    if followups.any (· == .graphCompleted graphId) then
      let children ← todoChildCompletedFollowups reductions graphId
      return settled ++ children
    else return settled
  else if key = "hold" then
    return .graphBlocked ⟨graphId, node, .humanHold⟩ :: dismissOthers status menu.id
  else .error ⟨.invalidArgument, "unsupported graph confirmation answer"⟩

/-- `graph_finalization_state_digest`: pending menus are no progress. -/
def graphFinalizationStateDigest (hash : GraphStatus → String) (status : GraphStatus) : String :=
  hash { status with pendingMenu := none, pendingMenus := [] }

/-- The answer to a `GraphAbandonConfirm` menu, on the active root graph. -/
def settleAbandonConfirm (hash : GraphStatus → String) (envelopes : List RawEnvelope)
    (openingRun : Option RunId) (menu : Menu) (optionKey : Option String) (graphId : GraphId)
    (runId : RunId) (stateDigest : String) : Except MenuError (List EventPayload) := do
  let reductions := reduceGraphs envelopes
  let some status := (reductions.activeRoot.bind reductions.graph).bind (·.status)
    | .error ⟨.graphNotActive, "graph finalization confirmation has no graph instance"⟩
  ensure
    (status.graphId == graphId && status.phase == .active && openingRun == some runId &&
      graphFinalizationStateDigest hash status == stateDigest &&
      (graphPendingMenus status).contains menu.id)
    ⟨.graphWrongNode, "graph finalization confirmation is stale for the current obligation"⟩
  let some key := optionKey | .error ⟨.invalidArgument, "missing answer key"⟩
  if key = "continue-work" then return []
  else if key = "abandon-and-finish" then
    return .graphAbandoned ⟨graphId, "explicit finalization override"⟩ ::
      dismissOthers status menu.id
  else .error ⟨.invalidArgument, "unsupported graph finalization answer"⟩

/-! ## No settlement answers a menu -/

/-- The menu a payload answers. -/
def answeredMenu : EventPayload → Option MenuId
  | .menuAnswered answer => some answer.menu
  | _ => none

/-- Payloads that answer no menu. -/
def AnswerFree (payloads : List EventPayload) : Prop :=
  ∀ payload ∈ payloads, answeredMenu payload = none

theorem AnswerFree.nil : AnswerFree [] := List.forall_mem_nil _

variable {rest : List EventPayload}

theorem AnswerFree.cons {payload : EventPayload}
    (first : answeredMenu payload = none) (later : AnswerFree rest) :
    AnswerFree (payload :: rest) :=
  List.forall_mem_cons.mpr ⟨first, later⟩

theorem AnswerFree.append {first : List EventPayload} (early : AnswerFree first)
    (later : AnswerFree rest) : AnswerFree (first ++ rest) :=
  List.forall_mem_append.mpr ⟨early, later⟩

theorem readiedPayloads_answerFree (linear : Bool) (status : GraphStatus)
    (satisfiedNode : GraphNodeName) (openingAttempt : Nat) (spec : GraphNodeSpec) :
    AnswerFree (readiedPayloads linear status satisfiedNode openingAttempt spec) := by
  refine .append (.append ?_ (.cons rfl .nil)) ?_
  · cases linear <;> exact .cons rfl .nil
  · split
    · exact .cons rfl .nil
    · exact .nil

theorem dependencyFollowups_answerFree (satisfiedNode : GraphNodeName) (attempt : Nat) :
    AnswerFree (dependencyFollowups reduction status satisfiedNode attempt) := by
  unfold dependencyFollowups
  simp only
  split
  · exact .cons rfl .nil
  · intro payload mem
    obtain ⟨spec, _, found⟩ := List.mem_flatMap.mp mem
    exact readiedPayloads_answerFree _ _ _ _ _ payload found

variable {reductions : GraphReductions} {payloads : List EventPayload}

theorem dependentFollowups_answerFree {dependent : TodoGraphStatus}
    (planned : dependentFollowups reductions dependent = .ok payloads) :
    AnswerFree payloads := by
  unfold dependentFollowups at planned
  repeat' split at planned
  all_goals cases planned
  · exact .nil
  · refine .cons rfl ?_
    split
    · exact .cons rfl .nil
    · exact .nil

theorem dependentsFollowups_answerFree {dependents : List TodoGraphStatus}
    (planned : dependentsFollowups reductions dependents = .ok payloads) : AnswerFree payloads := by
  induction dependents generalizing payloads with
  | nil =>
    cases planned
    exact .nil
  | cons dependent rest ih =>
    obtain ⟨first, here, planned⟩ := bind_eq_ok.mp planned
    obtain ⟨later, there, planned⟩ := bind_eq_ok.mp planned
    cases planned
    exact .append (dependentFollowups_answerFree here) (ih there)

theorem todoChildCompletedFollowups_answerFree {completed : GraphId}
    (planned : todoChildCompletedFollowups reductions completed = .ok payloads) :
    AnswerFree payloads := by
  unfold todoChildCompletedFollowups at planned
  split at planned
  · cases planned
    exact .nil
  · split at planned
    · cases planned
      exact .nil
    · obtain ⟨followups, waiting, planned⟩ := bind_eq_ok.mp planned
      cases planned
      refine .append (dependentsFollowups_answerFree waiting) ?_
      split
      · exact .cons rfl .nil
      · exact .nil

theorem dismissOthers_answerFree (answered : MenuId) :
    AnswerFree (dismissOthers status answered) := by
  intro payload mem
  obtain ⟨menu, _, rfl⟩ := List.mem_map.mp mem
  rfl

variable {envelopes : List RawEnvelope} {menu : Menu} {optionKey : Option String}
  {graphId : GraphId}

theorem settleHumanConfirm_answerFree {node : GraphNodeName} {attempt : Nat}
    (settled : settleHumanConfirm envelopes menu optionKey graphId node attempt = .ok payloads) :
    AnswerFree payloads := by
  unfold settleHumanConfirm at settled
  simp only at settled
  split at settled
  · rename_i reduction _
    split at settled
    · rename_i status _
      replace settled := ok_of_ensure settled
      split at settled
      · split at settled
        · have followups := dependencyFollowups_answerFree reduction status node attempt
          split at settled
          · obtain ⟨children, waiting, settled⟩ := bind_eq_ok.mp settled
            cases settled
            exact .append (.cons rfl followups) (todoChildCompletedFollowups_answerFree waiting)
          · cases settled
            exact .cons rfl followups
        · split at settled
          · cases settled
            exact .cons rfl (dismissOthers_answerFree _ _)
          · cases settled
      · cases settled
    · cases settled
  · cases settled

theorem settleAbandonConfirm_answerFree {hash : GraphStatus → String} {openingRun : Option RunId}
    {runId : RunId} {stateDigest : String}
    (settled : settleAbandonConfirm hash envelopes openingRun menu optionKey graphId runId
      stateDigest = .ok payloads) : AnswerFree payloads := by
  unfold settleAbandonConfirm at settled
  simp only at settled
  split at settled
  · replace settled := ok_of_ensure settled
    split at settled
    · split at settled
      · cases settled
        exact .nil
      · split at settled
        · cases settled
          exact .cons rfl (dismissOthers_answerFree _ _)
        · cases settled
    · cases settled
  · cases settled

end HaiderAgent.Menus
