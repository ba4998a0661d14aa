import HaiderAgent.Lib.Saturation
import HaiderAgent.Store.Menus.Settlement

/-!
# The menus a retry closes

`graph_retry_menus` (`haider-store/src/event_store.rs`) closes the confirmations below the node to
retry. It walks the template with passes of its own, where the reducer searches breadth-first; the
two sets are one.
-/

namespace HaiderAgent.Menus

open List
open Relation (TransGen ReflTransGen reflTransGen_iff_eq_or_transGen)

variable (specs : List GraphNodeSpec)

/-- One `for` pass of `graph_descendants_inclusive`. -/
def descendantsPass (descendants : List GraphNodeName) : List GraphNodeName :=
  specs.foldl (fun descendants spec =>
    if spec.dependsOn.any (descendants.contains ·) then descendants.insert spec.name
    else descendants) descendants

/-- Its `loop`; `none` is out of fuel. -/
def descendantsLoop : Nat → List GraphNodeName → Option (List GraphNodeName)
  | 0, _ => none
  | fuel + 1, before =>
    let descendants := descendantsPass specs before
    if descendants.length = before.length then some descendants
    else descendantsLoop fuel descendants

/-- The dependencies, from the node depended on to the one that declares it. -/
def dependencyArrows : List (GraphNodeName × GraphNodeName) :=
  specs.flatMap fun spec => spec.dependsOn.map (·, spec.name)

/-- The store's `graph_descendants_inclusive`, with a pass per dependency and one more. -/
def graphDescendantsInclusive (target : GraphNodeName) : Option (List GraphNodeName) :=
  descendantsLoop specs ((dependencyArrows specs).length + 1) [target]

/-- The pending confirmations of the invalidated nodes. -/
def invalidatedMenus (status : GraphStatus) (invalidated : List GraphNodeName) : List MenuId :=
  let confirming := specs.filter fun spec =>
    invalidated.contains spec.name && spec.gate == .humanConfirm
  let invalidatedMenuIds := confirming.filterMap fun spec =>
    ((status.nodes.find? (·.node == spec.name)).bind (·.currentAttempt)).map fun attempt =>
      (graphConfirmMenu status spec.name attempt).id
  (graphPendingMenus status).filter (invalidatedMenuIds.contains ·)

/-- `graph_retry_menus`: the confirmations a retry invalidates. -/
def graphRetryMenus (status : GraphStatus) (target : GraphNodeName) : Option (List MenuId) :=
  (graphDescendantsInclusive specs target).map (invalidatedMenus specs status)

variable {specs} {before : List GraphNodeName}

theorem round_dependsOn (name : GraphNodeName) (dependsOn : List GraphNodeName) :
    Saturation.round (dependsOn.map (·, name)) before =
      if dependsOn.any (before.contains ·) then before.insert name else before := by
  induction dependsOn generalizing before with
  | nil => rfl
  | cons first dependsOn ih =>
    have again : (before.insert name).insert name = before.insert name :=
      insert_of_mem mem_insert_self
    rw [map_cons, Saturation.round_cons, ih]
    by_cases inside : first ∈ before
    · rw [if_pos inside, again, ite_self, any_cons, contains_iff_mem.mpr inside, Bool.true_or,
        if_pos rfl]
    · simp [inside]

theorem descendantsPass_eq_round :
    descendantsPass specs before = Saturation.round (dependencyArrows specs) before := by
  induction specs generalizing before with
  | nil => rfl
  | cons spec specs ih =>
    rw [dependencyArrows, flatMap_cons, Saturation.round, foldl_append]
    refine ih.trans (congrArg _ (round_dependsOn spec.name spec.dependsOn).symm)

/-- Every pass but the last brings in a node that was out, so the loop ends. -/
theorem descendantsLoop_eq_some {fuel : Nat}
    (enough : (Saturation.missing (dependencyArrows specs) before).length < fuel) :
    descendantsLoop specs fuel before =
      some (Saturation.close (dependencyArrows specs) fuel before) := by
  induction fuel generalizing before with
  | zero => omega
  | succ fuel ih =>
    rw [descendantsLoop, Saturation.close, descendantsPass_eq_round]
    split
    · rfl
    · next grew =>
      have fewer := Saturation.missing_round_lt grew
      exact ih (by omega)

theorem mem_dependencyArrows {source target : GraphNodeName} :
    (source, target) ∈ dependencyArrows specs ↔ FlowsTo specs source target := by
  simp [dependencyArrows, flowsTo_iff, and_comm]

/-- The store's set is the target and what depends on it. -/
theorem graphDescendantsInclusive_eq_some (specs : List GraphNodeSpec) (target : GraphNodeName) :
    ∃ descendants, graphDescendantsInclusive specs target = some descendants ∧
      ∀ name, name ∈ descendants ↔ ReflTransGen (FlowsTo specs) target name := by
  have enough := Nat.lt_succ_self (dependencyArrows specs).length
  refine ⟨_, descendantsLoop_eq_some ((length_filter_le _ _).trans_lt enough), fun name => ?_⟩
  simp only [Saturation.mem_close_iff enough, mem_dependencyArrows]

/-- On every template a retry closes exactly the pending confirmations of its target and of what
depends on it: of each confirming node the menu of its current attempt, and no other menu. -/
theorem graphRetryMenus_closes (specs : List GraphNodeSpec) (status : GraphStatus)
    (target : GraphNodeName) :
    ∃ menus, graphRetryMenus specs status target = some menus ∧
      ∀ id, id ∈ menus ↔ id ∈ graphPendingMenus status ∧ ∃ spec ∈ specs,
        ReflTransGen (FlowsTo specs) target spec.name ∧ spec.gate = .humanConfirm ∧
          ∃ node attempt, status.nodes.find? (·.node == spec.name) = some node ∧
            node.currentAttempt = some attempt ∧
            id = (graphConfirmMenu status spec.name attempt).id := by
  obtain ⟨descendants, returned, members⟩ := graphDescendantsInclusive_eq_some specs target
  refine ⟨_, by rw [graphRetryMenus, returned, Option.map_some], fun id => ?_⟩
  simp only [invalidatedMenus, mem_filter, contains_iff_mem, mem_filterMap, Option.map_eq_some_iff,
    Option.bind_eq_some_iff, Bool.and_eq_true, beq_iff_eq, members, and_congr_right_iff]
  intro _
  constructor
  · rintro ⟨spec, ⟨listed, path, gate⟩, attempt, ⟨node, found, current⟩, rfl⟩
    exact ⟨spec, listed, path, gate, node, attempt, found, current, rfl⟩
  · rintro ⟨spec, listed, path, gate, node, attempt, found, current, rfl⟩
    exact ⟨spec, ⟨listed, path, gate⟩, attempt, ⟨node, found, current⟩, rfl⟩

/-- Both walks end, on cyclic templates and repeated names too, with the same set: the target and
the nodes that depend on it, directly or through others. -/
theorem graphDescendantsInclusive_agree (specs : List GraphNodeSpec) (target : GraphNodeName) :
    Worklist.Explores (graphDependents specs) [target] [target]
        (HaiderAgent.graphDescendantsInclusive specs target) ∧
      ∃ descendants, graphDescendantsInclusive specs target = some descendants ∧
        ∀ name, (name ∈ descendants ↔ name ∈ HaiderAgent.graphDescendantsInclusive specs target) ∧
          (name ∈ descendants ↔ name = target ∨ TransGen (FlowsTo specs) target name) := by
  constructor
  · refine Worklist.explores_explore mem_names_of_flowsTo (Nat.succ_le_succ ?_)
    exact (Finset.card_le_card Finset.sdiff_subset).trans card_names_le
  · obtain ⟨descendants, returned, members⟩ := graphDescendantsInclusive_eq_some specs target
    refine ⟨descendants, returned, fun name => ⟨(members name).trans mem_reachable_iff.symm, ?_⟩⟩
    rw [members, reflTransGen_iff_eq_or_transGen]

end HaiderAgent.Menus
