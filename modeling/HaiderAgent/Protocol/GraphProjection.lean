import HaiderAgent.Lib.ProjectedFold
import HaiderAgent.Protocol.GraphReduce

/-!
# When incremental graph reduction is whole-journal reduction

`refresh_run_set_projections` writes the phase, the ready nodes and the menus of the active run
set's root back into the status later events are folded against. The projected data is erased from
a state, states are compared up to it, and each event either keeps the comparison or reads a guard
the projection has changed.
-/

namespace HaiderAgent

open List

open EntryMap

/-- A status no projection touches but for its run set. -/
def GraphPhase.isClosed : GraphPhase → Bool
  | .abandoned | .superseded => true
  | _ => false

/-- Erase what a refresh writes to a child whose graph is pinned. -/
def TodoGraphStatus.bare (pinned : GraphId → Bool) (child : TodoGraphStatus) : TodoGraphStatus :=
  if pinned child.graphId then { child with phase := .active, currentNode := none, attempt := 0 }
  else child

/-- A run set without the copies its projection writes. -/
def GraphRunSetStatus.bare (pinned : GraphId → Bool) (runSet : GraphRunSetStatus) :
    GraphRunSetStatus :=
  { runSet with children := runSet.children.map (·.bare pinned), terminalChildren := 0 }

/-- Erase what a refresh writes to the root of the active run set. -/
def GraphStatus.bare (root : GraphStatus) : GraphStatus :=
  if root.phase.isClosed then { root with runSet := none }
  else
    { root with
      runSet := none, phase := .active, currentNode := none, readyNodes := []
      pendingMenu := none, pendingMenus := [] }

/-- A graph without what the projection writes to its status. -/
def GraphReduction.bare (reduction : GraphReduction) : GraphReduction :=
  { reduction with status := reduction.status.map (·.bare) }

namespace GraphReductions

variable (reductions : GraphReductions)

/-- Whether the graph has a status for a child to copy. -/
def pinned (graphId : GraphId) : Bool :=
  ((reductions.byGraph.lookup graphId).bind (·.status)).isSome

/-- The active run set. -/
def ownedSet : Option GraphRunSetStatus := reductions.activeRunSet.bind reductions.runSets.lookup

/-- The graph the projection is written to. -/
def ownedRoot : Option GraphId := reductions.ownedSet.map (·.rootGraphId)

/-- Erase everything a refresh writes. -/
def bare : GraphReductions :=
  { reductions with
    runSets := mapEntries (fun _ runSet => runSet.bare reductions.pinned) reductions.runSets
    byGraph := mapEntries
      (fun graphId reduction =>
        if reductions.ownedRoot = some graphId then reduction.bare else reduction)
      reductions.byGraph }

/-- What the projection does to one graph of the map. -/
def project (graphId : GraphId) (reduction : GraphReduction) : GraphReduction :=
  match reductions.ownedSet with
  | some runSet =>
    if graphId = runSet.rootGraphId then
      { reduction with
        status := reduction.status.map (·.own (runSet.refresh reductions.byGraph)) }
    else reduction
  | none => reduction

theorem refreshRunSetProjections_eq :
    reductions.refreshRunSetProjections =
      { reductions with
        runSets := mapEntries (fun _ runSet => runSet.refresh reductions.byGraph)
          reductions.runSets
        byGraph := mapEntries reductions.project reductions.byGraph } := by
  have found : reductions.activeRunSet.bind (mapEntries
      (fun _ runSet => runSet.refresh reductions.byGraph) reductions.runSets).lookup =
      reductions.ownedSet.map (·.refresh reductions.byGraph) := by
    unfold ownedSet
    cases reductions.activeRunSet with
    | none => rfl
    | some active => simp
  unfold refreshRunSetProjections project
  dsimp only
  rw [found]
  cases reductions.ownedSet with
  | none => simp
  | some runSet => rfl

end GraphReductions

section Bare

@[simp] theorem GraphStatus.bare_graphId (status : GraphStatus) :
    status.bare.graphId = status.graphId := by
  unfold GraphStatus.bare
  split <;> rfl

theorem GraphStatus.bare_own (runSet : GraphRunSetStatus) (status : GraphStatus) :
    (status.own runSet).bare = status.bare := by
  obtain ⟨graphId, template, digest, version, start, phase, _⟩ := status
  cases complete : runSet.isComplete <;> cases phase <;>
    simp [own, bare, GraphPhase.isClosed, complete]

theorem GraphStatus.own_bare (runSet : GraphRunSetStatus) (status : GraphStatus) :
    status.bare.own runSet = status.own runSet := by
  obtain ⟨graphId, template, digest, version, start, phase, _⟩ := status
  cases phase <;> simp [own, bare, GraphPhase.isClosed]

variable {pinned more : GraphId → Bool}

theorem TodoGraphStatus.bare_bare
    (grown : ∀ graphId, pinned graphId = true → more graphId = true) (child : TodoGraphStatus) :
    (child.bare pinned).bare more = child.bare more := by
  unfold TodoGraphStatus.bare
  by_cases known : pinned child.graphId = true
  · simp [known, grown _ known]
  · simp [known]

theorem GraphRunSetStatus.bare_bare
    (grown : ∀ graphId, pinned graphId = true → more graphId = true) (runSet : GraphRunSetStatus) :
    (runSet.bare pinned).bare more = runSet.bare more := by
  unfold GraphRunSetStatus.bare
  simp only [map_map, mk.injEq, true_and]
  refine map_congr_left fun child _ => ?_
  exact TodoGraphStatus.bare_bare grown child

variable {status : GraphStatus}

theorem GraphStatus.bare_of_closed (closed : status.phase.isClosed = true) :
    status.bare = { status with runSet := none } := if_pos closed

theorem GraphStatus.bare_of_open (opened : status.phase.isClosed = false) :
    status.bare =
      { status with
        runSet := none, phase := .active, currentNode := none, readyNodes := []
        pendingMenu := none, pendingMenus := [] } :=
  if_neg (by rw [opened]; exact Bool.false_ne_true)

theorem GraphStatus.isClosed_of_same {status' : GraphStatus}
    (same : status.bare = status'.bare) : status.phase.isClosed = status'.phase.isClosed := by
  have kept (status : GraphStatus) : status.bare.phase.isClosed = status.phase.isClosed := by
    cases closed : status.phase.isClosed with
    | true => rw [bare_of_closed closed, closed]
    | false => rw [bare_of_open closed]; rfl
  rw [← kept status, same, kept]

/-- Erasure keeps a closed status but for its run set, an open one but for the projection. -/
theorem GraphStatus.bare_eq_iff {plain projected : GraphStatus} :
    plain.bare = projected.bare ↔
      (plain.phase.isClosed = true ∧ ∃ runSet, projected = { plain with runSet }) ∨
        plain.phase.isClosed = false ∧
          ∃ phase currentNode readyNodes pendingMenu pendingMenus runSet,
            GraphPhase.isClosed phase = false ∧
              projected = { plain with
                phase, currentNode, readyNodes, pendingMenu, pendingMenus, runSet } := by
  constructor
  · intro same
    cases closed : plain.phase.isClosed with
    | true =>
      have closed' : projected.phase.isClosed = true := by rw [← isClosed_of_same same, closed]
      rw [bare_of_closed closed, bare_of_closed closed'] at same
      refine .inl ⟨rfl, projected.runSet, ?_⟩
      have written := congrArg (fun status : GraphStatus => { status with
        runSet := projected.runSet }) same
      exact written.symm
    | false =>
      have opened' : projected.phase.isClosed = false := by rw [← isClosed_of_same same, closed]
      rw [bare_of_open closed, bare_of_open opened'] at same
      refine .inr ⟨rfl, projected.phase, projected.currentNode, projected.readyNodes,
        projected.pendingMenu, projected.pendingMenus, projected.runSet, opened', ?_⟩
      have written := congrArg (fun status : GraphStatus => { status with
        phase := projected.phase, currentNode := projected.currentNode
        readyNodes := projected.readyNodes, pendingMenu := projected.pendingMenu
        pendingMenus := projected.pendingMenus, runSet := projected.runSet }) same
      exact written.symm
  · rintro (⟨closed, runSet, rfl⟩ | ⟨opened, phase, _, _, _, _, _, opened', rfl⟩)
    · rw [bare_of_closed closed]
      exact (bare_of_closed closed).symm
    · rw [bare_of_open opened]
      symm
      exact bare_of_open opened'

end Bare

namespace GraphReductions

section Erased

variable (reductions : GraphReductions)

theorem ownedRoot_mapEntries {f : String → GraphRunSetStatus → GraphRunSetStatus}
    (roots : ∀ id runSet, (f id runSet).rootGraphId = runSet.rootGraphId) :
    (reductions.activeRunSet.bind (mapEntries f reductions.runSets).lookup).map (·.rootGraphId) =
      reductions.ownedRoot := by
  unfold ownedRoot ownedSet
  cases reductions.activeRunSet <;> simp [Function.comp_def, roots]

@[simp] theorem ownedRoot_bare : reductions.bare.ownedRoot = reductions.ownedRoot :=
  reductions.ownedRoot_mapEntries fun _ _ => rfl

theorem pinned_mapEntries {f : GraphId → GraphReduction → GraphReduction}
    (keeps : ∀ graphId reduction, (f graphId reduction).status.isSome = reduction.status.isSome)
    (graphId : GraphId) :
    (((mapEntries f reductions.byGraph).lookup graphId).bind (·.status)).isSome =
      reductions.pinned graphId := by
  rw [lookup_mapEntries, pinned]
  cases reductions.byGraph.lookup graphId with
  | none => rfl
  | some reduction => exact keeps graphId reduction

@[simp] theorem pinned_bare : reductions.bare.pinned = reductions.pinned := by
  funext graphId
  refine reductions.pinned_mapEntries (fun graphId reduction => ?_) graphId
  split
  · simp [GraphReduction.bare]
  · rfl

theorem attachedChild_bare (graphId : GraphId) :
    reductions.bare.attachedChild graphId = reductions.attachedChild graphId := by
  refine (any_mapEntries _ _ fun runSet : GraphRunSetStatus =>
    runSet.children.any fun child => child.graphId == graphId).trans ?_
  congr 1
  funext entry
  have kept (child : TodoGraphStatus) : (child.bare reductions.pinned).graphId = child.graphId := by
    unfold TodoGraphStatus.bare
    split <;> rfl
  simp [GraphRunSetStatus.bare, any_map, Function.comp_def, kept]

end Erased

section Refresh

variable (reductions : GraphReductions)

theorem isSome_status_project (graphId : GraphId) (reduction : GraphReduction) :
    (reductions.project graphId reduction).status.isSome = reduction.status.isSome := by
  unfold project
  cases reductions.ownedSet with
  | none => rfl
  | some runSet =>
    dsimp only
    split
    · simp
    · rfl

variable {graphId : GraphId}

theorem project_of_ne (other : reductions.ownedRoot ≠ some graphId)
    (reduction : GraphReduction) : reductions.project graphId reduction = reduction := by
  unfold project
  unfold ownedRoot at other
  cases found : reductions.ownedSet with
  | none => rfl
  | some runSet =>
    rw [found] at other
    have different : graphId ≠ runSet.rootGraphId := fun same => other (by rw [same]; rfl)
    dsimp only
    rw [if_neg different]

theorem project_of_eq (owned : reductions.ownedRoot = some graphId) (reduction : GraphReduction) :
    some (reductions.project graphId reduction) =
      (reductions.ownedSet.map (·.refresh reductions.byGraph)).map fun runSet =>
        { reduction.bare with status := reduction.bare.status.map (·.own runSet) } := by
  unfold project
  unfold ownedRoot at owned
  cases found : reductions.ownedSet with
  | none =>
    rw [found] at owned
    cases owned
  | some runSet =>
    rw [found] at owned
    have here : graphId = runSet.rootGraphId := (Option.some.inj owned).symm
    simp [here, GraphReduction.bare, Function.comp_def, GraphStatus.own_bare]

theorem bare_project (graphId : GraphId) (reduction : GraphReduction) :
    (reductions.project graphId reduction).bare = reduction.bare := by
  unfold project
  cases reductions.ownedSet with
  | none => rfl
  | some runSet =>
    dsimp only
    split
    · simp only [GraphReduction.bare, Option.map_map, Function.comp_def, GraphStatus.bare_own]
    · rfl

@[simp] theorem ownedRoot_refresh :
    reductions.refreshRunSetProjections.ownedRoot = reductions.ownedRoot := by
  rw [refreshRunSetProjections_eq]
  exact reductions.ownedRoot_mapEntries fun _ _ => rfl

@[simp] theorem pinned_refresh : reductions.refreshRunSetProjections.pinned = reductions.pinned := by
  rw [refreshRunSetProjections_eq]
  funext graphId
  exact reductions.pinned_mapEntries reductions.isSome_status_project graphId

variable {child : TodoGraphStatus}

theorem refresh_of_not_pinned (unknown : reductions.pinned child.graphId = false) :
    child.refresh reductions.byGraph = child := by
  unfold TodoGraphStatus.refresh
  unfold pinned at unknown
  cases found : (reductions.byGraph.lookup child.graphId).bind (·.status) with
  | none => rfl
  | some status =>
    rw [found] at unknown
    cases unknown

theorem refresh_of_status {status : GraphStatus}
    (found : (reductions.graph child.graphId).bind (·.status) = some status) :
    child.refresh reductions.byGraph =
      { child with
        phase := status.phase, currentNode := status.currentNode, attempt := status.attempt } := by
  unfold TodoGraphStatus.refresh
  unfold graph at found
  rw [found]

theorem bare_refresh_child (child : TodoGraphStatus) :
    (child.refresh reductions.byGraph).bare reductions.pinned = child.bare reductions.pinned := by
  by_cases known : reductions.pinned child.graphId = true
  · unfold TodoGraphStatus.refresh TodoGraphStatus.bare
    split <;> simp [known]
  · rw [reductions.refresh_of_not_pinned (by simpa using known)]

theorem bare_refreshRunSetProjections : reductions.refreshRunSetProjections.bare = reductions.bare := by
  have root := reductions.ownedRoot_refresh
  have known := reductions.pinned_refresh
  unfold bare
  rw [root, known, refreshRunSetProjections_eq]
  rw [mapEntries_mapEntries, mapEntries_mapEntries]
  congr 1
  · refine mapEntries_congr fun graphId reduction _ => ?_
    by_cases owned : reductions.ownedRoot = some graphId
    · rw [if_pos owned, if_pos owned, bare_project]
    · rw [if_neg owned, if_neg owned, project_of_ne _ owned]
  · refine mapEntries_congr fun _ runSet _ => ?_
    simp only [GraphRunSetStatus.bare, GraphRunSetStatus.refresh, map_map,
      GraphRunSetStatus.mk.injEq, true_and]
    exact map_congr_left fun child _ => reductions.bare_refresh_child child

end Refresh

section Same

variable {plain projected : GraphReductions} (same : plain.bare = projected.bare)
include same

theorem activeRunSet_of_same : plain.activeRunSet = projected.activeRunSet := by
  injection same

theorem activeRoot_of_same : plain.activeRoot = projected.activeRoot := by
  injection same

theorem ownedRoot_of_same : plain.ownedRoot = projected.ownedRoot := by
  rw [← plain.ownedRoot_bare, same, ownedRoot_bare]

theorem pinned_of_same : plain.pinned = projected.pinned := by
  rw [← plain.pinned_bare, same, pinned_bare]

theorem attachedChild_of_same (graphId : GraphId) :
    plain.attachedChild graphId = projected.attachedChild graphId := by
  rw [← plain.attachedChild_bare, same, attachedChild_bare]

theorem runSets_of_same :
    mapEntries (fun _ runSet => runSet.bare plain.pinned) plain.runSets =
      mapEntries (fun _ runSet => runSet.bare plain.pinned) projected.runSets := by
  have sets := congrArg runSets same
  rwa [bare, bare, ← pinned_of_same same] at sets

/-- The graphs with only the root bare. -/
abbrev bareGraphs (root : Option GraphId) (graphs : HashMap GraphId GraphReduction) :
    HashMap GraphId GraphReduction :=
  mapEntries (fun graphId reduction =>
    if root = some graphId then reduction.bare else reduction) graphs

theorem byGraph_of_same :
    bareGraphs plain.ownedRoot plain.byGraph = bareGraphs plain.ownedRoot projected.byGraph := by
  have graphs := congrArg byGraph same
  rwa [bare, bare, ← ownedRoot_of_same same] at graphs

omit same in
theorem bare_eq_of_parts (roots : plain.activeRoot = projected.activeRoot)
    (active : plain.activeRunSet = projected.activeRunSet)
    (owned : plain.ownedRoot = projected.ownedRoot) (known : plain.pinned = projected.pinned)
    (sets : mapEntries (fun _ runSet => runSet.bare plain.pinned) plain.runSets =
      mapEntries (fun _ runSet => runSet.bare plain.pinned) projected.runSets)
    (graphs : bareGraphs plain.ownedRoot plain.byGraph =
      bareGraphs plain.ownedRoot projected.byGraph) : plain.bare = projected.bare := by
  unfold bare
  rw [← owned, ← known]
  exact GraphReductions.ext roots graphs active sets

variable {graphId : GraphId}

theorem graph_of_same (other : plain.ownedRoot ≠ some graphId) :
    plain.graph graphId = projected.graph graphId := by
  have found := congrArg (AList.lookup graphId) (byGraph_of_same same)
  unfold graph
  simpa [other] using found

theorem root_of_same (owned : plain.ownedRoot = some graphId) :
    (plain.graph graphId).map GraphReduction.bare =
      (projected.graph graphId).map GraphReduction.bare := by
  have found := congrArg (AList.lookup graphId) (byGraph_of_same same)
  unfold graph
  simpa [owned] using found

end Same

/-- The root's view of itself as an attached child is the same in both. -/
def Coherent (plain projected : GraphReductions) : Prop :=
  ∀ graphId status status', plain.ownedRoot = some graphId →
    plain.attachedChild graphId = true →
    (plain.graph graphId).bind (·.status) = some status →
    (projected.graph graphId).bind (·.status) = some status' →
    status.phase = status'.phase ∧ status.currentNode = status'.currentNode

section Coherence

variable {plain projected : GraphReductions} (same : plain.bare = projected.bare)
include same

variable (coherent : Coherent plain projected)
include coherent

/-- The statuses of an attached child agree in all that a refresh reads. -/
theorem Coherent.view {graphId : GraphId} (attached : plain.attachedChild graphId = true)
    {status status' : GraphStatus} (found : (plain.graph graphId).bind (·.status) = some status)
    (found' : (projected.graph graphId).bind (·.status) = some status') :
    status.phase = status'.phase ∧ status.currentNode = status'.currentNode ∧
      status.attempt = status'.attempt := by
  by_cases owned : plain.ownedRoot = some graphId
  · obtain ⟨phase, current⟩ := coherent graphId status status' owned attached found found'
    refine ⟨phase, current, ?_⟩
    obtain ⟨reduction, one, found⟩ := Option.bind_eq_some_iff.mp found
    obtain ⟨reduction', other, found'⟩ := Option.bind_eq_some_iff.mp found'
    have roots := root_of_same same owned
    rw [one, other] at roots
    have statuses := congrArg GraphReduction.status (Option.some.inj roots)
    simp only [GraphReduction.bare, found, found', Option.map_some, Option.some.injEq] at statuses
    rcases GraphStatus.bare_eq_iff.mp statuses with
      ⟨-, _, rfl⟩ | ⟨-, _, _, _, _, _, _, -, rfl⟩ <;> rfl
  · rw [graph_of_same same owned, found'] at found
    cases found
    exact ⟨rfl, rfl, rfl⟩

/-- Children that agree up to their copies are refreshed to the same. -/
theorem Coherent.refresh_child {child child' : TodoGraphStatus}
    (attached : plain.attachedChild child.graphId = true)
    (bareSame : child.bare plain.pinned = child'.bare plain.pinned) :
    child.refresh plain.byGraph = child'.refresh projected.byGraph := by
  have key : child.graphId = child'.graphId := by
    have ids := congrArg TodoGraphStatus.graphId bareSame
    unfold TodoGraphStatus.bare at ids
    split at ids <;> split at ids <;> exact ids
  by_cases known : plain.pinned child.graphId = true
  · have known' : projected.pinned child.graphId = true := by rw [← pinned_of_same same, known]
    obtain ⟨status, found⟩ := Option.isSome_iff_exists.mp known
    obtain ⟨status', found'⟩ := Option.isSome_iff_exists.mp known'
    obtain ⟨phase, current, attempt⟩ := coherent.view same attached found found'
    simp only [TodoGraphStatus.bare, ← key, known, if_true] at bareSame
    rw [key] at found'
    rw [plain.refresh_of_status found, projected.refresh_of_status found', phase, current, attempt]
    simp only [TodoGraphStatus.mk.injEq, true_and, and_true] at bareSame ⊢
    exact ⟨bareSame.1, bareSame.2.1, key, bareSame.2.2⟩
  · have unknown : plain.pinned child.graphId = false := by simpa using known
    have unknown' : projected.pinned child'.graphId = false := by
      rw [← pinned_of_same same, ← key, unknown]
    simp only [TodoGraphStatus.bare, ← key, unknown, Bool.false_eq_true, if_false] at bareSame
    rw [plain.refresh_of_not_pinned unknown, projected.refresh_of_not_pinned unknown', bareSame]

theorem Coherent.refresh_runSets :
    mapEntries (fun _ runSet => runSet.refresh plain.byGraph) plain.runSets =
      mapEntries (fun _ runSet => runSet.refresh projected.byGraph) projected.runSets := by
  refine mapEntries_eq_mapEntries (runSets_of_same same) ?_
  intro id runSet runSet' found found' bareSame
  have children : runSet.children.map (·.refresh plain.byGraph) =
      runSet'.children.map (·.refresh projected.byGraph) := by
    refine map_eq_map_of_map_eq (congrArg GraphRunSetStatus.children bareSame) ?_
    intro child mem child' _ childSame
    refine coherent.refresh_child same ?_ childSame
    refine any_eq_true.mpr ⟨⟨id, runSet⟩, mem_entries_iff.mpr found, ?_⟩
    exact any_eq_true.mpr ⟨child, mem, beq_self_eq_true _⟩
  simp only [GraphRunSetStatus.bare, GraphRunSetStatus.mk.injEq] at bareSame
  obtain ⟨setId, root, item, event, required, -, -⟩ := bareSame
  simp only [GraphRunSetStatus.refresh, children, setId, root, item, event, required]

omit coherent

/-- Two states with the same plain data refresh to the same state exactly if they are coherent. -/
theorem refresh_eq_iff :
    plain.refreshRunSetProjections = projected.refreshRunSetProjections ↔
      Coherent plain projected := by
  constructor
  · intro refreshed graphId status status' owned attached found found'
    rw [refreshRunSetProjections_eq, refreshRunSetProjections_eq] at refreshed
    have sets := congrArg runSets refreshed
    obtain ⟨⟨id, runSet⟩, mem, here⟩ := any_eq_true.mp attached
    obtain ⟨child, listed, isChild⟩ := any_eq_true.mp here
    have isRoot : child.graphId = graphId := by simpa using isChild
    -- The same run set of the other state lists a child with the same refreshed view.
    have sameSet := congrArg (AList.lookup id) sets
    rw [lookup_mapEntries, lookup_mapEntries, mem_entries_iff.mp mem] at sameSet
    obtain ⟨runSet', -, sameRefresh⟩ := Option.map_eq_some_iff.mp sameSet.symm
    have children := congrArg GraphRunSetStatus.children sameRefresh
    have listed' : child.refresh plain.byGraph ∈
        runSet'.children.map (·.refresh projected.byGraph) := by
      rw [show runSet'.children.map (·.refresh projected.byGraph) = _ from children]
      exact mem_map_of_mem listed
    obtain ⟨child', -, view⟩ := mem_map.mp listed'
    rw [plain.refresh_of_status (by rw [isRoot, found])] at view
    have key : child'.graphId = graphId := by
      have ids := congrArg TodoGraphStatus.graphId view
      unfold TodoGraphStatus.refresh at ids
      split at ids <;> exact ids.trans isRoot
    rw [projected.refresh_of_status (by rw [key, found'])] at view
    exact ⟨(congrArg TodoGraphStatus.phase view).symm, (congrArg TodoGraphStatus.currentNode view).symm⟩
  · intro coherent
    have sets := coherent.refresh_runSets same
    rw [refreshRunSetProjections_eq, refreshRunSetProjections_eq]
    have active := activeRunSet_of_same same
    have root := activeRoot_of_same same
    refine GraphReductions.ext root ?_ active sets
    refine mapEntries_eq_mapEntries (byGraph_of_same same) ?_
    intro graphId reduction reduction' found found' bareSame
    by_cases owned : plain.ownedRoot = some graphId
    · rw [if_pos owned, if_pos owned] at bareSame
      have owned' : projected.ownedRoot = some graphId := by rw [← ownedRoot_of_same same, owned]
      have set : plain.ownedSet.map (·.refresh plain.byGraph) =
          projected.ownedSet.map (·.refresh projected.byGraph) := by
        unfold ownedSet
        rw [← active]
        cases plain.activeRunSet with
        | none => rfl
        | some id =>
          have here := congrArg (AList.lookup id) sets
          rwa [lookup_mapEntries, lookup_mapEntries] at here
      refine Option.some.inj ?_
      rw [plain.project_of_eq owned, projected.project_of_eq owned', set, bareSame]
    · rw [if_neg owned, if_neg owned] at bareSame
      rw [plain.project_of_ne owned, projected.project_of_ne (by rwa [← ownedRoot_of_same same]),
        bareSame]

end Coherence

end GraphReductions

end HaiderAgent
