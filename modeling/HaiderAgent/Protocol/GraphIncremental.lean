import HaiderAgent.Protocol.GraphProjection

/-!
# Incremental graph reduction, event by event

Which events keep a plain and a projected state the same up to the projection.
Most always do. An attempt, evidence or a gate on the owned root does if its guard
does not tell the two states apart; abandoning the root if its current node is the
same in both; and a run set of another root if the old root is.
-/

namespace HaiderAgent

open EntryMap GraphReduction GraphStatus

namespace GraphReductions

section Updates

variable {plain projected : GraphReductions} (same : plain.bare = projected.bare)
include same

/-- A change to every graph is told apart at the owned root alone. -/
theorem bare_mapEntries_iff {f : GraphId → GraphReduction → GraphReduction}
    (keeps : ∀ graphId reduction, (f graphId reduction).status.isSome = reduction.status.isSome) :
    bare { plain with byGraph := mapEntries f plain.byGraph } =
        bare { projected with byGraph := mapEntries f projected.byGraph } ↔
      ∀ graphId reduction reduction', plain.ownedRoot = some graphId →
        plain.graph graphId = some reduction → projected.graph graphId = some reduction' →
        (f graphId reduction).bare = (f graphId reduction').bare := by
  have root : ownedRoot { plain with byGraph := mapEntries f plain.byGraph } = plain.ownedRoot := rfl
  have root' : ownedRoot { projected with byGraph := mapEntries f projected.byGraph } =
      plain.ownedRoot := (ownedRoot_of_same same).symm
  have known : pinned { plain with byGraph := mapEntries f plain.byGraph } = plain.pinned :=
    funext (plain.pinned_mapEntries keeps)
  have known' : pinned { projected with byGraph := mapEntries f projected.byGraph } =
      plain.pinned := by
    rw [pinned_of_same same]
    exact funext (projected.pinned_mapEntries keeps)
  constructor
  · intro after graphId reduction reduction' owned found found'
    have roots := root_of_same after (root.trans owned)
    unfold graph at found found' roots
    simp only [lookup_mapEntries, found, found', Option.map_some, Option.some.injEq] at roots
    exact roots
  · intro condition
    have roots := activeRoot_of_same same
    have active := activeRunSet_of_same same
    have sets := runSets_of_same same
    refine bare_eq_of_parts roots active (root.trans root'.symm) (known.trans known'.symm)
      (by rw [known]; exact sets) ?_
    rw [root, bareGraphs, mapEntries_mapEntries, bareGraphs, mapEntries_mapEntries]
    refine mapEntries_eq_mapEntries (byGraph_of_same same) ?_
    intro graphId reduction reduction' found found' bareSame
    by_cases owned : plain.ownedRoot = some graphId
    · rw [if_pos owned, if_pos owned]
      exact condition graphId reduction reduction' owned found found'
    · rw [if_neg owned, if_neg owned] at bareSame ⊢
      rw [bareSame]

variable {graphId : GraphId}

theorem bare_of_root {reduction reduction' : GraphReduction}
    (owned : plain.ownedRoot = some graphId) (found : plain.graph graphId = some reduction)
    (found' : projected.graph graphId = some reduction') : reduction.bare = reduction'.bare := by
  have roots := root_of_same same owned
  rw [found, found'] at roots
  exact Option.some.inj roots

variable {f : GraphReduction → GraphReduction}

theorem bare_updateGraph_iff
    (keeps : ∀ reduction, (f reduction).status.isSome = reduction.status.isSome) :
    (plain.updateGraph graphId f).bare = (projected.updateGraph graphId f).bare ↔
      (plain.ownedRoot = some graphId → ∀ reduction reduction', plain.graph graphId = some reduction →
        projected.graph graphId = some reduction' → (f reduction).bare = (f reduction').bare) := by
  unfold updateGraph EntryMap.modify
  rw [bare_mapEntries_iff same]
  · constructor
    · intro condition owned reduction reduction' found found'
      simpa using condition graphId reduction reduction' owned found found'
    · intro condition other reduction reduction' owned found found'
      by_cases here : other = graphId
      · subst here
        simpa using condition owned reduction reduction' found found'
      · simpa [here] using bare_of_root same owned found found'
  · intro other reduction
    split
    · exact keeps reduction
    · rfl

theorem bare_updateGraph
    (keeps : ∀ reduction, (f reduction).status.isSome = reduction.status.isSome)
    (blind : ∀ reduction reduction', reduction.bare = reduction'.bare →
      (f reduction).bare = (f reduction').bare) :
    (plain.updateGraph graphId f).bare = (projected.updateGraph graphId f).bare := by
  refine (bare_updateGraph_iff same keeps).mpr ?_
  intro owned reduction reduction' found found'
  exact blind _ _ (bare_of_root same owned found found')

end Updates

end GraphReductions

namespace GraphReduction

theorem isSome_updateStatus (graphId : GraphId) (f : GraphStatus → GraphStatus)
    (reduction : GraphReduction) :
    (reduction.updateStatus graphId f).status.isSome = reduction.status.isSome := by
  simp [updateStatus]

theorem isSome_evidenceRecorded (recorded : EvidenceRecorded) (reduction : GraphReduction) :
    (reduction.evidenceRecorded recorded).status.isSome = reduction.status.isSome := by
  unfold evidenceRecorded
  split
  · rfl
  · rename_i status found
    split
    · rw [found]
      rfl
    · rfl

theorem isSome_menuOpened (menu : Menu) (reduction : GraphReduction) :
    (reduction.menuOpened menu).status.isSome = reduction.status.isSome := by
  unfold menuOpened
  split
  · exact isSome_updateStatus ..
  · exact isSome_updateStatus ..
  · rfl

section Bare

variable {reduction reduction' : GraphReduction} (same : reduction.bare = reduction'.bare)
include same

theorem templateNodes_of_same : reduction.templateNodes = reduction'.templateNodes := by
  have nodes := congrArg templateNodes same
  exact nodes

theorem status_of_same :
    (reduction.status = none ∧ reduction'.status = none) ∨
      ∃ status status', reduction.status = some status ∧ reduction'.status = some status' ∧
        status.bare = status'.bare := by
  have statuses := congrArg status same
  cases found : reduction.status with
  | none =>
    simp only [bare, found, Option.map_none] at statuses
    exact .inl ⟨rfl, Option.map_eq_none_iff.mp statuses.symm⟩
  | some status =>
    simp only [bare, found, Option.map_some] at statuses
    obtain ⟨status', found', statusSame⟩ := Option.map_eq_some_iff.mp statuses.symm
    exact .inr ⟨status, status', rfl, found', statusSame.symm⟩

variable {f f' : GraphStatus → GraphStatus}

theorem bare_updateStatus_iff {graphId : GraphId} {condition : GraphStatus → GraphStatus → Prop}
    (decided : ∀ status status', status.bare = status'.bare →
      ((f status).bare = (f' status').bare ↔ condition status status')) :
    (reduction.updateStatus graphId f).bare = (reduction'.updateStatus graphId f').bare ↔
      ∀ status status', reduction.status = some status → reduction'.status = some status' →
        status.graphId = graphId → condition status status' := by
  have fields := same
  simp only [bare, mk.injEq] at fields
  obtain ⟨-, evidence, deferrals, menus, nodes⟩ := fields
  rcases status_of_same same with ⟨none, none'⟩ | ⟨status, status', found, found', statusSame⟩
  · simp [updateStatus, bare, none, none', evidence, deferrals, menus, nodes]
  · have key : status.graphId = status'.graphId := by
      rw [← status.bare_graphId, statusSame, GraphStatus.bare_graphId]
    by_cases own : status.graphId = graphId
    · have own' : status'.graphId = graphId := key ▸ own
      simp [updateStatus, bare, found, found', evidence, deferrals, menus, nodes, own, own',
        decided _ _ statusSame]
    · have own' : ¬ status'.graphId = graphId := key ▸ own
      simp [updateStatus, bare, found, found', evidence, deferrals, menus, nodes, own, own',
        statusSame]

theorem bare_updateStatus {graphId : GraphId}
    (blind : ∀ status status' : GraphStatus, status.bare = status'.bare →
      (f status).bare = (f' status').bare) :
    (reduction.updateStatus graphId f).bare = (reduction'.updateStatus graphId f').bare := by
  refine (bare_updateStatus_iff same fun _ _ statusSame =>
    iff_of_true (blind _ _ statusSame) trivial).mpr ?_
  exact fun _ _ _ _ _ => trivial

end Bare

end GraphReduction

section Blind

variable {status status' : GraphStatus}

variable (templateNodes : List GraphNodeSpec) (opened : GraphNodeAttempt)

/-- The nodes after an attempt opened: what it invalidates, then its own node. -/
def GraphStatus.openedNodes (status : GraphStatus) : List GraphNodeStatus :=
  let invalidated := graphDescendantsInclusive templateNodes opened.node
  Rows.update (·.node) opened.node
    (fun node => { node.clearEvidenceFrontier with
      attemptsOpened := u32Succ node.attemptsOpened
      currentAttempt := some opened.attempt
      satisfied := false })
    (if opened.node = status.startNode.getD buildNode then status.nodes.map (·.invalidate)
    else if (status.nodes.find? fun node => node.node == opened.node).any
        fun node => 0 < node.attemptsOpened then
      status.nodes.map fun node => if invalidated.contains node.node then node.invalidate else node
    else status.nodes)

/-- Opening the attempt changes nothing outside the projection. -/
def GraphStatus.opensNothing (status : GraphStatus) : Prop :=
  opened.attempt ≤ status.attempt ∧ status.openedNodes templateNodes opened = status.nodes

/-- Opening an attempt writes the attempt, the nodes, and what a projection overwrites. -/
theorem GraphStatus.openAttempt_eq (status : GraphStatus) :
    ∃ currentNode readyNodes, status.openAttempt templateNodes opened =
      { status with
        attempt := max status.attempt opened.attempt
        nodes := status.openedNodes templateNodes opened
        currentNode, readyNodes } := by
  unfold openAttempt openedNodes
  dsimp only
  repeat' split
  all_goals exact ⟨_, _, rfl⟩

theorem GraphStatus.bare_openAttempt {status : GraphStatus} (active : status.phase.isClosed = false) :
    (status.openAttempt templateNodes opened).bare =
      { status.bare with
        attempt := max status.attempt opened.attempt
        nodes := status.openedNodes templateNodes opened } := by
  obtain ⟨currentNode, readyNodes, written⟩ := status.openAttempt_eq templateNodes opened
  rw [written]
  simp [bare, active]

variable {attempt : Nat}

/-- Guarded writes separate two statuses when only one guard holds. -/
theorem GraphStatus.bare_guarded_iff (same : status.bare = status'.bare) (guard guard' : Bool)
    (opens : guard = true → status.phase.isClosed = false)
    (opens' : guard' = true → status'.phase.isClosed = false) {write write' : GraphStatus}
    {nodes : List GraphNodeStatus}
    (written : status.phase.isClosed = false → write.bare = { status.bare with attempt, nodes })
    (written' : status'.phase.isClosed = false → write'.bare = { status'.bare with attempt, nodes }) :
    (if guard then write else status).bare = (if guard' then write' else status').bare ↔
      guard = guard' ∨ attempt = status.attempt ∧ nodes = status.nodes := by
  have unwritten : { status.bare with attempt, nodes } = status.bare ↔
      attempt = status.attempt ∧ nodes = status.nodes := by
    unfold bare
    split <;> simp
  cases guard <;> cases guard'
  · simpa using same
  · simp only [Bool.false_eq_true, if_false, if_true, written' (opens' rfl), ← same, false_or]
    rw [eq_comm, unwritten]
  · simp only [Bool.false_eq_true, if_false, if_true, written (opens rfl), false_or,
      reduceCtorEq, ← same]
    exact unwritten
  · simp only [if_true, written (opens rfl), written' (opens' rfl), same, true_or]

theorem GraphStatus.fields_of_same (same : status.bare = status'.bare) :
    status.attempt = status'.attempt ∧ status.nodes = status'.nodes ∧
      status.startNode = status'.startNode ∧ status.templateVersion = status'.templateVersion := by
  rcases bare_eq_iff.mp same with ⟨-, _, rfl⟩ | ⟨-, _, _, _, _, _, _, -, rfl⟩
  · exact ⟨rfl, rfl, rfl, rfl⟩
  · exact ⟨rfl, rfl, rfl, rfl⟩

theorem GraphStatus.isClosed_of_active {status : GraphStatus} (active : status.phase = .active) :
    status.phase.isClosed = false := by
  rw [active]
  rfl

variable {templateNodes : List GraphNodeSpec}

theorem GraphStatus.bare_openAttempt_iff (same : status.bare = status'.bare)
    {opened : GraphNodeAttempt} :
    (if status.phase = .active then status.openAttempt templateNodes opened else status).bare =
        (if status'.phase = .active then status'.openAttempt templateNodes opened
          else status').bare ↔
      (status.phase = .active ↔ status'.phase = .active) ∨
        status.opensNothing templateNodes opened := by
  obtain ⟨attempts, nodes, starts, -⟩ := fields_of_same same
  have write' : status'.phase.isClosed = false → _ := bare_openAttempt templateNodes opened
  have sameNodes : status'.openedNodes templateNodes opened =
      status.openedNodes templateNodes opened := by
    unfold openedNodes
    rw [nodes, starts]
  rw [sameNodes, ← attempts] at write'
  have guarded := bare_guarded_iff same (decide (status.phase = .active))
    (decide (status'.phase = .active))
    (fun active => isClosed_of_active (of_decide_eq_true active))
    (fun active => isClosed_of_active (of_decide_eq_true active))
    (bare_openAttempt templateNodes opened) write'
  have later : max status.attempt opened.attempt = status.attempt ↔
      opened.attempt ≤ status.attempt := by omega
  simp only [decide_eq_true_eq, decide_eq_decide, later] at guarded
  exact guarded

theorem GraphStatus.isClosed_of_admits {status : GraphStatus} {node : GraphNodeName}
    (admitted : status.admits node attempt = true) :
    status.phase.isClosed = false := by
  simp only [admits, Bool.and_eq_true, beq_iff_eq] at admitted
  exact isClosed_of_active admitted.1.1

theorem GraphStatus.bare_satisfyGate (templateNodes : List GraphNodeSpec) (node : GraphNodeName)
    {status : GraphStatus} (opened : status.phase.isClosed = false) :
    (status.satisfyGate templateNodes node).bare =
      { status.bare with
        attempt := status.attempt
        nodes := Rows.update (·.node) node ({ · with satisfied := true }) status.nodes } := by
  unfold satisfyGate
  dsimp only
  split <;> simp [bare, refreshCurrentNode, opened]

theorem GraphStatus.bare_satisfyGate_iff (same : status.bare = status'.bare)
    {satisfied : GraphNodeAttempt} :
    (if status.admits satisfied.node satisfied.attempt then
          status.satisfyGate templateNodes satisfied.node else status).bare =
        (if status'.admits satisfied.node satisfied.attempt then
          status'.satisfyGate templateNodes satisfied.node else status').bare ↔
      status.admits satisfied.node satisfied.attempt =
          status'.admits satisfied.node satisfied.attempt ∨
        Rows.update (·.node) satisfied.node ({ · with satisfied := true }) status.nodes = status.nodes := by
  obtain ⟨attempts, nodes, -, -⟩ := fields_of_same same
  have write' : status'.phase.isClosed = false → _ := bare_satisfyGate templateNodes satisfied.node
  rw [← nodes, ← attempts] at write'
  have guarded := bare_guarded_iff same (status.admits satisfied.node satisfied.attempt)
    (status'.admits satisfied.node satisfied.attempt) isClosed_of_admits isClosed_of_admits
    (bare_satisfyGate templateNodes satisfied.node) write'
  simpa using guarded

end Blind

namespace GraphReduction

variable {reduction reduction' : GraphReduction} (same : reduction.bare = reduction'.bare)
include same

theorem bare_advanced (advanced : GraphAdvanced) :
    (reduction.advanced advanced).bare = (reduction'.advanced advanced).bare := by
  refine bare_updateStatus same fun status status' statusSame => ?_
  rcases bare_eq_iff.mp statusSame with
    ⟨closed, _, rfl⟩ | ⟨opened, _, _, _, _, _, _, opened', rfl⟩
  · dsimp only
    split <;> simp [GraphStatus.bare, closed]
  · dsimp only
    split <;> simp [GraphStatus.bare, opened, opened']

theorem bare_overwritten {graphId : GraphId} {f : GraphStatus → GraphStatus}
    (overwrites : ∀ status phase currentNode readyNodes pendingMenu pendingMenus runSet,
      (f { status with phase, currentNode, readyNodes, pendingMenu, pendingMenus, runSet }).bare =
        (f status).bare) :
    (reduction.updateStatus graphId f).bare = (reduction'.updateStatus graphId f).bare := by
  refine bare_updateStatus same fun status status' statusSame => ?_
  rcases bare_eq_iff.mp statusSame with ⟨-, _, rfl⟩ | ⟨-, _, _, _, _, _, _, -, rfl⟩
  · exact (overwrites status ..).symm
  · exact (overwrites status ..).symm

theorem bare_nodeReadied (readied : GraphNodeAttempt) :
    (reduction.nodeReadied readied).bare = (reduction'.nodeReadied readied).bare := by
  have nodes := templateNodes_of_same same
  unfold nodeReadied
  refine bare_updateStatus same fun status status' statusSame => ?_
  rcases bare_eq_iff.mp statusSame with
    ⟨closed, _, rfl⟩ | ⟨opened, _, _, _, _, _, _, opened', rfl⟩
  · have inactive : status.phase ≠ .active := by
      intro active
      rw [active] at closed
      cases closed
    simp [GraphStatus.bare, inactive]
  · dsimp only
    split <;> split <;>
      simp [GraphStatus.bare, opened, opened', GraphStatus.pushReadyInTemplateOrder,
        refreshCurrentNode]

theorem bare_menuShown (menu : MenuId) (graphId : GraphId) (finalizationMenu : Bool) :
    (reduction.menuShown menu graphId finalizationMenu).bare =
      (reduction'.menuShown menu graphId finalizationMenu).bare := by
  refine bare_updateStatus same fun status status' statusSame => ?_
  rcases bare_eq_iff.mp statusSame with
    ⟨closed, _, rfl⟩ | ⟨opened, _, _, _, _, _, _, opened', rfl⟩
  · simp [GraphStatus.bare, closed]
  · simp [GraphStatus.bare, opened, opened']

theorem bare_menuOpened (menu : Menu) :
    (reduction.menuOpened menu).bare = (reduction'.menuOpened menu).bare := by
  unfold menuOpened
  split
  · exact bare_menuShown same _ _ _
  · rename_i graphId runId stateDigest _
    exact congrArg
      (fun shown : GraphReduction => { shown with
        finalizationMenus := shown.finalizationMenus ++ [GraphFinalizationMenu.mk menu.id runId stateDigest] })
      (bare_menuShown same menu.id graphId true)
  · exact same

theorem bare_menuResolved (menu : MenuId) :
    (reduction.menuResolved menu).bare = (reduction'.menuResolved menu).bare := by
  have fields := same
  simp only [bare, mk.injEq] at fields
  obtain ⟨-, evidence, deferrals, menus, nodes⟩ := fields
  rcases status_of_same same with ⟨none, none'⟩ | ⟨status, status', found, found', statusSame⟩
  · simp [menuResolved, bare, none, none', evidence, deferrals, menus, nodes]
  · simp only [menuResolved, bare, found, found', evidence, deferrals, menus, nodes,
      Option.map_some, mk.injEq, Option.some.injEq, and_self, and_true]
    rcases bare_eq_iff.mp statusSame with
      ⟨closed, _, rfl⟩ | ⟨opened, _, _, _, _, _, _, opened', rfl⟩
    · simp [GraphStatus.bare, closed]
    · simp [GraphStatus.bare, opened, opened']

theorem bare_finalizationDeferred (deferred : GraphFinalizationDeferred) :
    (reduction.finalizationDeferred deferred).bare =
      (reduction'.finalizationDeferred deferred).bare := by
  have deferrals : reduction.finalizationDeferrals = reduction'.finalizationDeferrals := by
    have fields := congrArg finalizationDeferrals same
    exact fields
  unfold finalizationDeferred
  rw [deferrals]
  split
  · exact same
  · exact congrArg (fun r : GraphReduction => { r with
      finalizationDeferrals := reduction'.finalizationDeferrals ++ [deferred] }) same

/-- Evidence separates the two folds when only one of them admits it. -/
theorem bare_evidenceRecorded_iff (recorded : EvidenceRecorded) :
    (reduction.evidenceRecorded recorded).bare = (reduction'.evidenceRecorded recorded).bare ↔
      ∀ status status', reduction.status = some status → reduction'.status = some status' →
        status.admits recorded.node recorded.attempt =
          status'.admits recorded.node recorded.attempt := by
  have evidence : reduction.evidence = reduction'.evidence := by
    have fields := congrArg evidence same
    exact fields
  rcases status_of_same same with ⟨none, none'⟩ | ⟨status, status', found, found', statusSame⟩
  · simp only [evidenceRecorded, none, none', reduceCtorEq, false_implies, implies_true, iff_true]
    exact same
  · have condition : (∀ status₁ status₂, reduction.status = some status₁ →
        reduction'.status = some status₂ → status₁.admits recorded.node recorded.attempt =
          status₂.admits recorded.node recorded.attempt) ↔
        status.admits recorded.node recorded.attempt =
          status'.admits recorded.node recorded.attempt := by
      rw [found, found']
      simp
    rw [condition]
    unfold evidenceRecorded
    simp only [found, found']
    -- Refused in both: nothing changes. Admitted in one: its evidence is one longer.
    cases admitted : status.admits recorded.node recorded.attempt <;>
      cases admitted' : status'.admits recorded.node recorded.attempt <;>
      simp only [if_true, if_false, Bool.false_eq_true, reduceCtorEq, iff_true, iff_false]
    · exact same
    · intro after
      have lengths := congrArg (fun r : GraphReduction => r.evidence.length) after
      simp [bare, evidence] at lengths
    · intro after
      have lengths := congrArg (fun r : GraphReduction => r.evidence.length) after
      simp [bare, evidence] at lengths
    · have opened := isClosed_of_admits admitted
      have opened' := isClosed_of_admits admitted'
      obtain ⟨-, nodes, -, -⟩ := fields_of_same statusSame
      have fields := same
      simp only [bare, mk.injEq, Option.map_some, Option.some.injEq] at fields ⊢
      obtain ⟨-, -, deferrals, menus, templates⟩ := fields
      refine ⟨?_, congrArg (· ++ [recorded]) evidence, deferrals, menus, templates⟩
      split
      · have write := congrArg (fun bare : GraphStatus => { bare with
          nodes := Rows.update (·.node) recorded.node (·.record recorded) status.nodes })
          statusSame
        simpa [GraphStatus.bare, opened, opened', nodes] using write
      · exact statusSame

end GraphReduction

/-- Joining a run set reads nothing the projection writes. -/
theorem GraphRunSetStatus.bare_join {pinned : GraphId → Bool} {runSet runSet' : GraphRunSetStatus}
    (same : runSet.bare pinned = runSet'.bare pinned) (attached : TodoGraphAttached) :
    (if runSet.joins attached then runSet.attach attached else runSet).bare pinned =
      (if runSet'.joins attached then runSet'.attach attached else runSet').bare pinned := by
  have kept (child : TodoGraphStatus) : (child.bare pinned).todoId = child.todoId ∧
      (child.bare pinned).ordinal = child.ordinal := by
    unfold TodoGraphStatus.bare
    split <;> exact ⟨rfl, rfl⟩
  have joins (set : GraphRunSetStatus) : (set.bare pinned).joins attached = set.joins attached := by
    simp [GraphRunSetStatus.joins, GraphRunSetStatus.bare, List.any_map, Function.comp_def,
      (kept _).1]
  have attach (set : GraphRunSetStatus) :
      (set.attach attached).bare pinned = (set.bare pinned).attach attached := by
    unfold GraphRunSetStatus.attach GraphRunSetStatus.bare
    have sorted := List.map_insertionSort
      (r := fun a b : TodoGraphStatus =>
        a.ordinal < b.ordinal ∨ a.ordinal = b.ordinal ∧ a.todoId ≤ b.todoId)
      (s := fun a b : TodoGraphStatus =>
        a.ordinal < b.ordinal ∨ a.ordinal = b.ordinal ∧ a.todoId ≤ b.todoId)
      (TodoGraphStatus.bare pinned)
    rw [sorted, List.map_append]
    · congr 3
      simp [TodoGraphStatus.bare]
    · intro a _ b _
      rw [(kept a).1, (kept b).1, (kept a).2, (kept b).2]
  rw [← joins runSet, ← joins runSet', same]
  split
  · rw [attach, attach, same]
  · exact same

namespace GraphReductions

/-- A condition on the statuses of a graph in both states, where it is the owned root. -/
def OnRoot (plain projected : GraphReductions) (graphId : GraphId)
    (condition : GraphReduction → GraphStatus → GraphStatus → Prop) : Prop :=
  plain.ownedRoot = some graphId → ∀ reduction reduction' status status',
    plain.graph graphId = some reduction → projected.graph graphId = some reduction' →
    reduction.status = some status → reduction'.status = some status' →
    condition reduction status status'

/-- The guards of an event on the owned root do not tell the plain and the projected state apart,
or the event writes nothing outside the projection; the root is abandoned with the same current
node; and a run set of another root finds the old root the same. -/
def ProjectionSafe (plain projected : GraphReductions) : EventPayload → Prop
  | .graphAttemptOpened opened =>
    OnRoot plain projected opened.graphId fun reduction status status' =>
      status.graphId = opened.graphId → (status.phase = .active ↔ status'.phase = .active) ∨
        status.opensNothing reduction.templateNodes opened
  | .evidenceRecorded recorded =>
    OnRoot plain projected recorded.graphId fun _ status status' =>
      status.admits recorded.node recorded.attempt = status'.admits recorded.node recorded.attempt
  | .graphGateSatisfied satisfied =>
    OnRoot plain projected satisfied.graphId fun _ status status' =>
      status.graphId = satisfied.graphId → status.admits satisfied.node satisfied.attempt =
          status'.admits satisfied.node satisfied.attempt ∨
        Rows.update (·.node) satisfied.node ({ · with satisfied := true }) status.nodes =
          status.nodes
  | .graphAbandoned abandoned =>
    OnRoot plain projected abandoned.graphId fun _ status status' =>
      status.graphId = abandoned.graphId → status.currentNode = status'.currentNode
  | .graphRunSetOpened opened =>
    plain.runSets.lookup opened.runSetId = none → (plain.graph opened.rootGraphId).isSome = true →
      ∀ root, plain.ownedRoot = some root → root ≠ opened.rootGraphId →
        plain.graph root = projected.graph root
  | _ => True

section Payloads

variable {plain projected : GraphReductions} (same : plain.bare = projected.bare)
include same

/-- An update whose effect on the owned root is decided by the two statuses. -/
theorem bare_updateGraph_iff_status {graphId : GraphId} {f : GraphReduction → GraphReduction}
    {condition : GraphReduction → GraphStatus → GraphStatus → Prop}
    (keeps : ∀ reduction, (f reduction).status.isSome = reduction.status.isSome)
    (decided : ∀ reduction reduction', reduction.bare = reduction'.bare →
      ((f reduction).bare = (f reduction').bare ↔
        ∀ status status', reduction.status = some status → reduction'.status = some status' →
          condition reduction status status')) :
    (plain.updateGraph graphId f).bare = (projected.updateGraph graphId f).bare ↔
      OnRoot plain projected graphId condition := by
  rw [bare_updateGraph_iff same keeps]
  refine forall_congr' fun owned => forall_congr' fun reduction => forall_congr' fun reduction' => ?_
  constructor
  · intro kept status status' found found'
    exact (decided _ _ (bare_of_root same owned found found')).mp (kept found found') status status'
  · intro held found found'
    refine (decided _ _ (bare_of_root same owned found found')).mpr fun status status' => ?_
    exact held status status' found found'

theorem isSome_graph_of_same (graphId : GraphId) :
    (plain.graph graphId).isSome = (projected.graph graphId).isSome := by
  have found := congrArg (fun m => (AList.lookup graphId m).isSome) (byGraph_of_same same)
  simpa [graph] using found

theorem isSome_runSet_of_same (runSetId : GraphRunSetId) :
    (plain.runSets.lookup runSetId).isSome = (projected.runSets.lookup runSetId).isSome := by
  have found := congrArg (fun m => (AList.lookup runSetId m).isSome) (runSets_of_same same)
  simpa using found

/-- The reductions with a new active run set. -/
abbrev activate (reductions : GraphReductions) (opened : GraphRunSetOpened) : GraphReductions :=
  { reductions with
    activeRunSet := some opened.runSetId
    runSets := reductions.runSets.insert opened.runSetId (.open opened) }

/-- Opening a run set releases the root of the one before it. -/
theorem bare_activate_iff (opened : GraphRunSetOpened) :
    (plain.activate opened).bare = (projected.activate opened).bare ↔
      ∀ root, plain.ownedRoot = some root → root ≠ opened.rootGraphId →
        plain.graph root = projected.graph root := by
  have root (reductions : GraphReductions) :
      (reductions.activate opened).ownedRoot = some opened.rootGraphId := by
    simp [ownedRoot, ownedSet, GraphRunSetStatus.open]
  constructor
  · intro after other owned different
    have elsewhere : (plain.activate opened).ownedRoot ≠ some other := by
      rw [root plain]
      exact fun here => different (Option.some.inj here).symm
    exact graph_of_same after elsewhere
  · intro condition
    have roots := activeRoot_of_same same
    have known := pinned_of_same same
    have graphs := byGraph_of_same same
    refine bare_eq_of_parts roots rfl ((root plain).trans (root projected).symm) known ?_ ?_
    · rw [mapEntries_insert, mapEntries_insert]
      exact congrArg _ (runSets_of_same same)
    · rw [root plain]
      refine mapEntries_eq_mapEntries graphs ?_
      intro graphId reduction reduction' found found' bareSame
      by_cases here : opened.rootGraphId = graphId
      · subst here
        simp only [if_true]
        split at bareSame
        · exact bareSame
        · rw [bareSame]
      · have elsewhere : ¬ (some opened.rootGraphId = some graphId) := fun equal =>
          here (Option.some.inj equal)
        rw [if_neg elsewhere, if_neg elsewhere]
        by_cases owned : plain.ownedRoot = some graphId
        · have equal := condition graphId owned (Ne.symm here)
          unfold graph at equal
          rw [found, found'] at equal
          exact Option.some.inj equal
        · simpa [owned] using bareSame

/-- Opening a run set: the root it releases must be the same in both folds. -/
theorem bare_openRunSet_iff (opened : GraphRunSetOpened) :
    (plain.applyPayload (.graphRunSetOpened opened)).bare =
        (projected.applyPayload (.graphRunSetOpened opened)).bare ↔
      ProjectionSafe plain projected (.graphRunSetOpened opened) := by
  have sets := isSome_runSet_of_same same opened.runSetId
  have graphs := isSome_graph_of_same same opened.rootGraphId
  simp only [applyPayload, ProjectionSafe]
  rw [← sets, ← Option.not_isSome (projected.graph _), ← graphs, Option.not_isSome]
  by_cases refused : (plain.runSets.lookup opened.runSetId).isSome = true ∨
      (plain.graph opened.rootGraphId).isNone = true
  · rw [if_pos refused, if_pos refused]
    refine iff_of_true same ?_
    intro fresh present
    rcases refused with known | missing
    · rw [fresh] at known
      cases known
    · rw [Option.isNone_iff_eq_none.mp missing] at present
      cases present
  · rw [if_neg refused, if_neg refused]
    rw [not_or, Option.not_isSome_iff_eq_none, Bool.not_eq_true, Option.isNone_eq_false_iff] at refused
    refine (bare_activate_iff same opened).trans ?_
    exact ⟨fun condition _ _ => condition, fun condition => condition refused.1 refused.2⟩

/-- Attaching a child never separates the folds. -/
theorem bare_attachTodo (attached : TodoGraphAttached) :
    (plain.applyPayload (.todoGraphAttached attached)).bare =
      (projected.applyPayload (.todoGraphAttached attached)).bare := by
  simp only [applyPayload]
  rw [← attachedChild_of_same same]
  split
  · exact same
  · have root (reductions : GraphReductions) :
        ownedRoot { reductions with
          runSets := EntryMap.modify attached.runSetId
            (fun runSet => if runSet.joins attached then runSet.attach attached else runSet)
            reductions.runSets } = reductions.ownedRoot := by
      refine reductions.ownedRoot_mapEntries fun _ _ => ?_
      dsimp only
      split
      · split <;> rfl
      · rfl
    have roots := activeRoot_of_same same
    have active := activeRunSet_of_same same
    have known := pinned_of_same same
    have graphs := byGraph_of_same same
    refine bare_eq_of_parts roots active ?_ known ?_ ?_
    · rw [root plain, root projected, ownedRoot_of_same same]
    · change mapEntries (fun _ runSet => runSet.bare plain.pinned) (mapEntries _ plain.runSets) =
        mapEntries (fun _ runSet => runSet.bare plain.pinned) (mapEntries _ projected.runSets)
      rw [mapEntries_mapEntries, mapEntries_mapEntries]
      refine mapEntries_eq_mapEntries (runSets_of_same same) ?_
      intro id runSet runSet' _ _ bareSame
      by_cases here : id = attached.runSetId
      · simp only [here, if_true]
        exact GraphRunSetStatus.bare_join bareSame attached
      · simp only [here, if_false]
        exact bareSame
    · rw [root plain]
      exact graphs

/-- Nor does pinning a graph. -/
theorem bare_pin (pinned : GraphPinned) :
    (plain.applyPayload (.graphPinned pinned)).bare =
      (projected.applyPayload (.graphPinned pinned)).bare := by
  simp only [applyPayload]
  rw [← attachedChild_of_same same, ← activeRoot_of_same same]
  have known (reductions : GraphReductions) (root : Option GraphId) :
      GraphReductions.pinned { reductions with
        byGraph := reductions.byGraph.insert pinned.graphId (.pin pinned), activeRoot := root } =
        fun graphId => decide (graphId = pinned.graphId) || reductions.pinned graphId := by
    funext graphId
    unfold GraphReductions.pinned
    by_cases here : graphId = pinned.graphId
    · subst here
      simp [pin]
    · simp [here, AList.lookup_insert_ne here]
  have active := activeRunSet_of_same same
  have owned := ownedRoot_of_same same
  have sets := runSets_of_same same
  refine bare_eq_of_parts rfl active owned ?_ ?_ ?_
  · rw [known plain, known projected, pinned_of_same same]
  · rw [known plain]
    refine mapEntries_eq_mapEntries sets ?_
    intro id runSet runSet' _ _ bareSame
    have grown (graphId : GraphId) (held : plain.pinned graphId = true) :
        (decide (graphId = pinned.graphId) || plain.pinned graphId) = true := by simp [held]
    rw [← GraphRunSetStatus.bare_bare grown, bareSame, GraphRunSetStatus.bare_bare grown]
  · dsimp only
    rw [bareGraphs, mapEntries_insert, bareGraphs, mapEntries_insert]
    exact congrArg _ (byGraph_of_same same)

/-- An event keeps a plain and a projected state the same exactly if it is safe for them. -/
theorem bare_applyPayload_iff (payload : EventPayload) :
    (plain.applyPayload payload).bare = (projected.applyPayload payload).bare ↔
      ProjectionSafe plain projected payload := by
  cases payload with
  | graphPinned pinned => exact iff_of_true (bare_pin same pinned) trivial
  | graphRunSetOpened opened => exact bare_openRunSet_iff same opened
  | todoGraphAttached attached => exact iff_of_true (bare_attachTodo same attached) trivial
  | graphAttemptOpened opened =>
    refine bare_updateGraph_iff_status same (fun _ => isSome_updateStatus ..) fun _ _ bareSame => ?_
    unfold attemptOpened
    rw [← templateNodes_of_same bareSame]
    exact bare_updateStatus_iff bareSame fun _ _ statusSame => bare_openAttempt_iff statusSame
  | evidenceRecorded recorded =>
    exact bare_updateGraph_iff_status same (isSome_evidenceRecorded recorded)
      fun _ _ bareSame => bare_evidenceRecorded_iff bareSame recorded
  | graphGateSatisfied satisfied =>
    refine bare_updateGraph_iff_status same (fun _ => isSome_updateStatus ..) fun _ _ bareSame => ?_
    unfold gateSatisfied
    rw [← templateNodes_of_same bareSame]
    exact bare_updateStatus_iff bareSame fun _ _ statusSame => bare_satisfyGate_iff statusSame
  | graphAbandoned abandoned =>
    refine bare_updateGraph_iff_status same (fun _ => isSome_updateStatus ..) fun _ _ bareSame => ?_
    refine bare_updateStatus_iff bareSame fun status status' statusSame => ?_
    rcases bare_eq_iff.mp statusSame with ⟨-, _, rfl⟩ | ⟨-, _, _, _, _, _, _, -, rfl⟩
    · simp [GraphStatus.bare, GraphPhase.isClosed]
    · simp [GraphStatus.bare, GraphPhase.isClosed]
  | graphAdvanced advanced =>
    refine iff_of_true (bare_updateGraph same (fun _ => isSome_updateStatus ..) ?_) trivial
    exact fun _ _ bareSame => bare_advanced bareSame advanced
  | graphNodeReadied readied =>
    refine iff_of_true (bare_updateGraph same (fun _ => isSome_updateStatus ..) ?_) trivial
    exact fun _ _ bareSame => bare_nodeReadied bareSame readied
  | graphBlocked | graphCompleted =>
    refine iff_of_true (bare_updateGraph same (fun _ => isSome_updateStatus ..) ?_) trivial
    exact fun _ _ bareSame => bare_overwritten bareSame fun _ _ _ _ _ _ _ => rfl
  | graphFinalizationDeferred deferred =>
    refine iff_of_true (bare_updateGraph same ?_ ?_) trivial
    · intro reduction
      unfold finalizationDeferred
      split <;> rfl
    · exact fun _ _ bareSame => bare_finalizationDeferred bareSame deferred
  | graphSuperseded superseded =>
    refine iff_of_true ?_ trivial
    have updated : (plain.updateGraph superseded.old (·.superseded superseded.old)).bare =
        (projected.updateGraph superseded.old (·.superseded superseded.old)).bare := by
      refine bare_updateGraph same (fun _ => isSome_updateStatus ..) ?_
      exact fun _ _ bareSame => bare_overwritten bareSame fun _ _ _ _ _ _ _ => rfl
    have attached := attachedChild_of_same same superseded.old
    have root := activeRoot_of_same same
    simp only [applyPayload]
    rw [← attached, ← root]
    exact congrArg (fun bare : GraphReductions => { bare with
      activeRoot := if plain.attachedChild superseded.old then plain.activeRoot
        else some superseded.new }) updated
  | menuOpened menu =>
    refine iff_of_true ?_ trivial
    have blind (graphId : GraphId) : (plain.updateGraph graphId (·.menuOpened menu)).bare =
        (projected.updateGraph graphId (·.menuOpened menu)).bare := by
      refine bare_updateGraph same (isSome_menuOpened menu) ?_
      exact fun _ _ bareSame => bare_menuOpened bareSame menu
    simp only [applyPayload]
    split
    · exact blind _
    · exact blind _
    · exact same
  | menuAnswered | menuClosed =>
    refine iff_of_true ((bare_mapEntries_iff same ?_).mpr ?_) trivial
    · intro _ reduction
      simp [menuResolved]
    · intro _ _ _ owned found found'
      exact bare_menuResolved (bare_of_root same owned found found') _
  | _ => exact iff_of_true same trivial

end Payloads

end GraphReductions

namespace GraphReductions

/-- Batch by batch or envelope by envelope, the fold leaves the reductions of the whole. -/
def CutsAgree (journal : List RawEnvelope) : Prop :=
  (∀ batches : List (List RawEnvelope), batches.flatten <+: journal →
      batches.foldl applyEnvelopes {} = reduceGraphs batches.flatten) ∧
    ∀ envelopes, envelopes <+: journal → envelopes.foldl applyEnvelope {} = reduceGraphs envelopes

/-- The event an envelope carries, if any, is safe. -/
def EnvelopeSafe (plain projected : GraphReductions) (envelope : RawEnvelope) : Prop :=
  ∀ payload, graphReductionPayload envelope.payload = some payload →
    ProjectionSafe plain projected payload

theorem bare_applyEnvelope_iff {plain projected : GraphReductions}
    (same : plain.bare = projected.bare) (envelope : RawEnvelope) :
    (plain.applyEnvelopeUnprojected envelope).bare =
        (projected.applyEnvelopeUnprojected envelope).bare ↔
      EnvelopeSafe plain projected envelope := by
  unfold applyEnvelopeUnprojected EnvelopeSafe
  cases graphReductionPayload envelope.payload with
  | none => simpa using same
  | some payload => simpa using bare_applyPayload_iff same payload

theorem applyEnvelopeUnprojected_still (reductions : GraphReductions) (envelope : RawEnvelope)
    (unchanged : changes envelope = false) :
    reductions.applyEnvelopeUnprojected envelope = reductions := by
  unfold applyEnvelopeUnprojected
  unfold changes at unchanged
  cases found : graphReductionPayload envelope.payload with
  | none => rfl
  | some payload =>
    rw [found] at unchanged
    cases unchanged

theorem foldl_applyEnvelope (envelopes : List RawEnvelope) (reductions : GraphReductions) :
    envelopes.foldl applyEnvelope reductions =
      (envelopes.map fun envelope => [envelope]).foldl applyEnvelopes reductions := by
  rw [List.foldl_map]
  congr 1
  funext reductions envelope
  simp [applyEnvelope, applyEnvelopes]

theorem cutsAgree_iff_batchesAgree (journal : List RawEnvelope) :
    CutsAgree journal ↔ ProjectedFold.BatchesAgree applyEnvelopeUnprojected refreshRunSetProjections
      changes {} journal := by
  constructor
  · intro agree
    exact agree.1
  · intro agree
    refine ⟨agree, ?_⟩
    intro envelopes inside
    have flat : (envelopes.map fun envelope => [envelope]).flatten = envelopes := by
      simp [← List.flatMap_def]
    have singly := agree (envelopes.map fun envelope => [envelope]) (by rwa [flat])
    rw [flat] at singly
    rw [foldl_applyEnvelope]
    exact singly

end GraphReductions

open GraphReductions in
/-- Incremental reduction is whole-journal reduction under every cut exactly if, wherever the
reductions of a part are folded on, each event of the owned root is safe and the root, if it is
attached as a child, is seen the same. -/
theorem cuts_agree_iff (journal : List RawEnvelope) :
    CutsAgree journal ↔
      ∀ before between, before ++ between <+: journal →
        (between.any changes = true →
          Coherent ((before ++ between).foldl applyEnvelopeUnprojected {})
            (between.foldl applyEnvelopeUnprojected (reduceGraphs before))) ∧
        ∀ envelope, before ++ between ++ [envelope] <+: journal →
          EnvelopeSafe ((before ++ between).foldl applyEnvelopeUnprojected {})
            (between.foldl applyEnvelopeUnprojected (reduceGraphs before)) envelope := by
  have fixed : refreshRunSetProjections {} = {} := by
    rfl
  rw [cutsAgree_iff_batchesAgree,
    ProjectedFold.batchesAgree_iff applyEnvelopeUnprojected_still fixed]
  refine ProjectedFold.oneProjectionAgrees_iff (fun plain projected => plain.bare = projected.bare)
    {} journal applyEnvelopeUnprojected_still ?_ ?_ ?_ ?_
  · intro reductions
    exact reductions.bare_refreshRunSetProjections.symm
  · intro plain projected refreshed
    rw [← plain.bare_refreshRunSetProjections, refreshed, bare_refreshRunSetProjections]
  · intro plain projected envelope same
    exact bare_applyEnvelope_iff same envelope
  · intro plain projected same
    exact refresh_eq_iff same

/-- A session fact as the journal holds it. -/
def sessionFact (seq : Nat) (payload : EventPayload) : RawEnvelope where
  eventId := payload.tag
  seq := seq
  sessionId := "s"
  branchId := none
  runId := none
  agentId := none
  deviceId := "device"
  authorityEpoch := 0
  workerGeneration := 1
  causationId := none
  committedAtMs := 0
  render := { durable := true, promptOmit := true }
  payload := .event payload

/-- A graph whose first node is open owns a run set, and evidence for the node comes in. -/
def ownedRootEvidence : List RawEnvelope :=
  [sessionFact 1 (.graphPinned
      { graphId := "g", template := "t", digest := "d", templateVersion := 1
        startNode := some "BUILD"
        nodes := [{ name := "BUILD", gate := .commandGreen, executor := .inline, maxAttempts := 3
                    maxEvidencePerAttempt := none, dependsOn := [], redTarget := none
                    verifySlots := [] }] }),
    sessionFact 2 (.graphAttemptOpened ⟨"g", "BUILD", 1⟩),
    sessionFact 3 (.graphRunSetOpened
      { runSetId := "rs", rootGraphId := "g", planItemId := "plan", planEventId := "e"
        requiredChildren := 1 }),
    sessionFact 4 (.evidenceRecorded
      { graphId := "g", node := "BUILD", attempt := 1, verdict := .green, detail := ""
        fingerprint := "f", slot := none, subjectDigest := none, source := .model "r" "c" })]

/-- Cut before the evidence, the projection has emptied the root's ready nodes and the evidence is
dropped; the whole journal keeps it. -/
theorem ownedRootEvidence_cut : ¬ GraphReductions.CutsAgree ownedRootEvidence := by
  intro agree
  have cut := agree.1 [ownedRootEvidence.take 3, ownedRootEvidence.drop 3] (by decide)
  have evidence := congrArg
    (fun reductions => (reductions.graph "g").map fun reduction => reduction.evidence.length) cut
  exact absurd evidence (by decide)

end HaiderAgent
