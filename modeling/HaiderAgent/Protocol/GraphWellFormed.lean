import HaiderAgent.Protocol.GraphReduce
import Mathlib.Data.Set.Finite.List
import Mathlib.Order.WellFoundedSet

/-!
# Well-formed graph templates

The cycle check of `validate_graph_template` (`haider-protocol/src/graph.rs`) releases every node
exactly when the dependencies are acyclic, so that the function accepts exactly the well-formed
templates.
-/

namespace HaiderAgent

open List
open Relation.TransGen (tail'_iff head'_iff)
open Relation (TransGen)

variable {specs : List GraphNodeSpec}

/-- No node depends on itself through other nodes. -/
def Acyclic (specs : List GraphNodeSpec) : Prop :=
  ∀ name, ¬ TransGen (FlowsTo specs) name name

section Release

variable {indegree : HashMap GraphNodeName Nat} {popped queue names : List GraphNodeName}
  {node name : GraphNodeName}

theorem foldl_releaseDependent {count : GraphNodeName → Nat} (queue : List GraphNodeName)
    (distinct : names.Nodup)
    (known : ∀ name ∈ names, indegree.lookup name = some (count name)) :
    ∃ released, names.foldl (fun state name => releaseDependent state.1 state.2 name)
        (indegree, queue) = (released, queue ++ names.filter (count · - 1 = 0)) ∧
      ∀ name, released.lookup name =
        if name ∈ names then some (count name - 1) else indegree.lookup name := by
  induction names generalizing indegree queue with
  | nil => exact ⟨indegree, by simp⟩
  | cons first names ih =>
    obtain ⟨absent, distinct⟩ := nodup_cons.mp distinct
    obtain ⟨here, known⟩ := forall_mem_cons.mp known
    have kept : ∀ name ∈ names,
        (indegree.insert first (count first - 1)).lookup name = some (count name) := by
      intro name mem
      rw [AList.lookup_insert_ne (ne_of_mem_of_not_mem mem absent), known name mem]
    obtain ⟨released, folded, found⟩ :=
      ih (if count first - 1 = 0 then queue ++ [first] else queue) distinct kept
    refine ⟨released, ?_, fun name => ?_⟩
    · rw [foldl_cons, releaseDependent, here, folded, filter_cons]
      split <;> simp_all
    · rw [found]
      by_cases same : name = first
      · subst same
        rw [if_neg absent, if_pos mem_cons_self, AList.lookup_insert]
      · simp [same, AList.lookup_insert_ne same]

/-- The dependencies of a node that the loop has not popped. -/
def waiting (specs : List GraphNodeSpec) (popped : List GraphNodeName) (name : GraphNodeName) :
    List GraphNodeName :=
  (graphDependencies specs name).filter (· ∉ popped)

theorem waiting_eq_nil : waiting specs popped name = [] ↔
    ∀ dependency ∈ graphDependencies specs name, dependency ∈ popped := by
  simp [waiting]

/-- The state of the cycle check: a declared node is queued or popped once all its dependencies
are popped, and nothing that was queued depends on itself. -/
structure Released (specs : List GraphNodeSpec) (indegree : HashMap GraphNodeName Nat)
    (popped queue : List GraphNodeName) : Prop where
  distinct : (popped ++ queue).Nodup
  declared : ∀ name ∈ popped ++ queue, name ∈ specs.map (·.name)
  degrees : ∀ name ∈ specs.map (·.name),
    indegree.lookup name = some (waiting specs popped name).length
  ready : ∀ name ∈ specs.map (·.name), name ∈ popped ++ queue ↔ waiting specs popped name = []
  founded : ∀ name ∈ popped ++ queue, Acc (FlowsTo specs) name

/-- Names and dependencies without repetition. -/
structure Simple (specs : List GraphNodeSpec) : Prop where
  distinct : (specs.map (·.name)).Nodup
  repeats : ∀ spec ∈ specs, spec.dependsOn.Nodup

variable (simple : Simple specs)
include simple

theorem Simple.dependencies {spec : GraphNodeSpec} (mem : spec ∈ specs) :
    graphDependencies specs spec.name = spec.dependsOn := by
  have found : specs.find? (·.name == spec.name) = some spec :=
    (Rows.find_eq_some_iff simple.distinct).mpr ⟨mem, rfl⟩
  rw [graphDependencies, found]

theorem Simple.flowsTo_iff {source target : GraphNodeName} : FlowsTo specs source target ↔
    target ∈ specs.map (·.name) ∧ source ∈ graphDependencies specs target := by
  rw [HaiderAgent.flowsTo_iff, mem_map]
  constructor
  · rintro ⟨spec, mem, rfl, depends⟩
    exact ⟨⟨spec, mem, rfl⟩, by rwa [simple.dependencies mem]⟩
  · rintro ⟨⟨spec, mem, rfl⟩, depends⟩
    exact ⟨spec, mem, rfl, by rwa [simple.dependencies mem] at depends⟩

theorem Simple.waiting_popped (mem : name ∈ specs.map (·.name)) :
    waiting specs (popped ++ [node]) name = (waiting specs popped name).erase node := by
  obtain ⟨spec, listed, rfl⟩ := mem_map.mp mem
  have once : (waiting specs popped spec.name).Nodup := by
    rw [waiting, simple.dependencies listed]
    exact (simple.repeats spec listed).filter _
  rw [once.erase_eq_filter, waiting, waiting, filter_filter]
  refine filter_congr fun dependency _ => ?_
  simp [bne, Bool.beq_eq_decide_eq, and_comm]

theorem Simple.acc (founded : ∀ name ∈ popped, Acc (FlowsTo specs) name)
    (done : waiting specs popped name = []) : Acc (FlowsTo specs) name := by
  refine Acc.intro name fun dependency flows => founded dependency ?_
  exact waiting_eq_nil.mp done dependency (simple.flowsTo_iff.mp flows).2

/-- Popping a node releases each dependent it was the last to hold. -/
theorem Released.pop (released : Released specs indegree popped (node :: queue)) :
    ∃ indegree' queue', (graphDependents specs node).foldl
        (fun state name => releaseDependent state.1 state.2 name) (indegree, queue) =
          (indegree', queue') ∧ Released specs indegree' (popped ++ [node]) queue' := by
  obtain ⟨distinct, declared, degrees, ready, founded⟩ := released
  have isNew : node ∉ popped := fun old =>
    (nodup_append.mp distinct).2.2 node old node mem_cons_self rfl
  have dependent name : name ∈ graphDependents specs node ↔
      name ∈ specs.map (·.name) ∧ node ∈ waiting specs popped name := by
    rw [waiting, mem_filter, decide_eq_true_eq, and_iff_left isNew]
    exact simple.flowsTo_iff
  have once : (graphDependents specs node).Nodup :=
    simple.distinct.sublist (filter_sublist.map _)
  obtain ⟨indegree', folded, found⟩ := foldl_releaseDependent queue once
    fun name mem => degrees name ((dependent name).mp mem).1
  refine ⟨indegree', _, folded, ?_⟩
  generalize added : filter _ _ = inserted
  have mem_inserted name : name ∈ inserted ↔ name ∈ specs.map (·.name) ∧
      node ∈ waiting specs popped name ∧ waiting specs (popped ++ [node]) name = [] := by
    rw [← added, mem_filter, dependent, and_assoc, decide_eq_true_eq]
    refine and_congr_right fun mem => and_congr_right fun waits => ?_
    rw [simple.waiting_popped mem, ← length_erase_of_mem waits, length_eq_zero_iff]
  have members name : name ∈ popped ++ [node] ++ (queue ++ inserted) ↔
      name ∈ popped ++ node :: queue ∨ name ∈ inserted := by
    simp [or_assoc]
  refine ⟨?_, ?_, ?_, ?_, ?_⟩
  · rw [append_assoc, singleton_append, ← cons_append, ← append_assoc, ← added]
    refine distinct.append (once.filter _) fun name old new => ?_
    obtain ⟨mem, waits, _⟩ := (mem_inserted name).mp (added ▸ new)
    rw [(ready name mem).mp old] at waits
    cases waits
  · intro name mem
    exact ((members name).mp mem).elim (declared name) fun new => ((mem_inserted name).mp new).1
  · intro name mem
    simp only [found, dependent, simple.waiting_popped mem, degrees name mem, length_erase]
    grind
  · intro name mem
    rw [members, mem_inserted, ready name mem, simple.waiting_popped mem]
    by_cases waits : node ∈ waiting specs popped name
    · simp [mem, waits, ne_nil_of_mem waits]
    · simp [waits, erase_of_not_mem waits]
  · intro name mem
    rcases (members name).mp mem with old | new
    · exact founded name old
    · obtain ⟨_, _, done⟩ := (mem_inserted name).mp new
      exact simple.acc (fun name old => founded name (by grind)) done

theorem Released.loop {fuel : Nat} (popped : List GraphNodeName)
    (released : Released specs indegree popped queue) (enough : specs.length ≤ popped.length + fuel) :
    ∃ last indegree', Released specs indegree' last [] ∧
      releaseLoop specs fuel indegree queue popped.length = last.length := by
  induction fuel generalizing indegree popped queue with
  | zero =>
    have size := (released.distinct.subperm released.declared).length_le
    rw [length_append, length_map] at size
    obtain rfl : queue = [] := eq_nil_of_length_eq_zero (by omega)
    exact ⟨popped, indegree, released, rfl⟩
  | succ fuel ih =>
    cases queue with
    | nil => exact ⟨popped, indegree, released, rfl⟩
    | cons node queue =>
      obtain ⟨indegree', queue', folded, next⟩ := released.pop simple
      obtain ⟨last, final, done, count⟩ := ih _ next (by simp; omega)
      refine ⟨last, final, done, ?_⟩
      rw [releaseLoop, folded, ← count, length_append, length_singleton]

/-- What the loop of the cycle check starts with and what it ends with. -/
theorem Simple.released : ∃ last indegree, Released specs indegree last [] ∧
    releasedCount specs = last.length := by
  have inserted (early : List GraphNodeSpec) (distinct : (early.map (·.name)).Nodup) :
      ∀ spec ∈ early, (early.foldl (fun (acc : HashMap GraphNodeName Nat) node =>
        acc.insert node.name node.dependsOn.length) ∅).lookup spec.name =
          some spec.dependsOn.length := by
    induction early using reverseRecOn with
    | nil => simp
    | append_singleton early last ih =>
      intro spec mem
      rw [foldl_append, foldl_cons, foldl_nil]
      by_cases same : spec.name = last.name
      · cases inj_on_of_nodup_map distinct mem (by simp) same
        exact AList.lookup_insert _
      · rw [AList.lookup_insert_ne same]
        refine ih (distinct.sublist ((sublist_append_left ..).map _)) spec ?_
        grind
  have dependencies spec (mem : spec ∈ specs) : waiting specs [] spec.name = spec.dependsOn := by
    simp [waiting, simple.dependencies mem]
  have roots name (mem : name ∈ specs.map (·.name)) :
      name ∈ (specs.filter (·.dependsOn.isEmpty)).map (·.name) ↔ waiting specs [] name = [] := by
    obtain ⟨spec, listed, rfl⟩ := mem_map.mp mem
    rw [dependencies spec listed, ← List.isEmpty_iff]
    refine ⟨fun root => ?_, fun rooted => mem_map_of_mem (mem_filter.mpr ⟨listed, rooted⟩)⟩
    obtain ⟨other, rooted, same⟩ := mem_map.mp root
    cases inj_on_of_nodup_map simple.distinct (mem_of_mem_filter rooted) listed same
    exact (mem_filter.mp rooted).2
  have within := (filter_sublist (p := (·.dependsOn.isEmpty)) (l := specs)).map (·.name)
  refine Released.loop simple [] ⟨simple.distinct.sublist within, within.subset, ?_, roots,
    fun name mem => simple.acc (by simp) ((roots name (within.subset mem)).mp mem)⟩ (by simp)
  intro name mem
  obtain ⟨spec, listed, rfl⟩ := mem_map.mp mem
  rw [inserted specs simple.distinct spec listed, dependencies spec listed]

/-- The cycle check visits every node exactly when no node depends on itself. -/
theorem Simple.releasedCount_iff (declared : ∀ spec ∈ specs, ∀ dependency ∈ spec.dependsOn,
      dependency ∈ specs.map (·.name)) :
    releasedCount specs = specs.length ↔ Acyclic specs := by
  obtain ⟨last, _, released, count⟩ := simple.released
  have within : last ⊆ specs.map (·.name) := fun name mem => released.declared name (by simpa)
  have distinct : last.Nodup := by simpa using released.distinct
  have size : (specs.map (·.name)).length = specs.length := length_map ..
  rw [count, ← size]
  constructor
  · intro all name cycle
    have member : name ∈ last := by
      obtain ⟨_, _, flows⟩ := tail'_iff.mp cycle
      have every := ((distinct.subperm within).perm_of_length_le all.ge).mem_iff (a := name)
      exact every.mpr (simple.flowsTo_iff.mp flows).1
    have founded := released.founded name (by simpa)
    clear member
    induction founded with
    | intro name _ ih =>
      obtain ⟨source, walk, flows⟩ := tail'_iff.mp cycle
      exact ih source flows (.head' flows walk)
  · intro acyclic
    have : IsStrictOrder GraphNodeName (TransGen (FlowsTo specs)) :=
      { irrefl := acyclic, trans := fun _ _ _ => TransGen.trans }
    have every : ∀ name ∈ specs.map (·.name), name ∈ last := by
      intro name mem
      have finite := (specs.map (·.name)).finite_toSet
      refine finite.wellFoundedOn (r := TransGen (FlowsTo specs)) |>.induction mem ?_
      intro name mem earlier
      have settled := released.ready name mem
      rw [append_nil, waiting_eq_nil] at settled
      refine settled.mpr fun dependency depends => ?_
      obtain ⟨spec, listed, rfl⟩ := mem_map.mp mem
      refine earlier dependency (declared spec listed dependency ?_) (.single ?_)
      · rwa [← simple.dependencies listed]
      · exact simple.flowsTo_iff.mpr ⟨mem, depends⟩
    exact (distinct.subperm within).length_le.antisymm (simple.distinct.subperm every).length_le

/-- The ancestor search finds what the dependency relation reaches. -/
theorem Simple.mem_ancestors_iff {target : GraphNodeName} :
    target ∈ graphDependencyAncestors specs name ↔
      TransGen (FlowsTo specs) target name := by
  refine ⟨path_of_mem_ancestors, fun path => ?_⟩
  have bounded : ∀ node ∉ (specs.map (·.name)).toFinset, graphDependencies specs node = [] := by
    intro node unknown
    have absent := Rows.find_eq_none_iff.mpr fun mem => unknown (mem_toFinset.mpr mem)
    rw [graphDependencies, show specs.find? (·.name == node) = none from absent]
  have total : ∑ node ∈ (specs.map (·.name)).toFinset, (graphDependencies specs node).length =
      (specs.map (·.dependsOn.length)).sum := by
    rw [sum_toFinset _ simple.distinct, map_map]
    refine congrArg sum (map_congr_left fun spec mem => ?_)
    rw [Function.comp_apply, simple.dependencies mem]
  have enough : (graphDependencies specs name).length +
      ∑ node ∈ (specs.map (·.name)).toFinset \ toFinset [], (graphDependencies specs node).length ≤
        (graphDependencies specs name).length + (specs.map (·.dependsOn.length)).sum + 1 := by
    simp [total]
  obtain ⟨queued, closed⟩ := Worklist.collect_closed bounded enough (by simp)
  induction path using TransGen.head_induction_on with
  | single flows => exact queued _ (simple.flowsTo_iff.mp flows).2
  | head flows _ ih => exact closed _ ih _ (simple.flowsTo_iff.mp flows).2

end Release

/-- The template is a graph of one root from which readiness flows to every node. -/
def GraphTemplateSpec.WellFormed (template : GraphTemplateSpec) : Prop :=
  ∃ start, template.startNode = some start ∧ Acyclic template.nodes ∧
    (∃ root ∈ template.nodes, root.name = start) ∧
    (∀ node ∈ template.nodes, node.dependsOn = [] ↔ node.name = start) ∧
    (∀ node ∈ template.nodes, Relation.ReflTransGen (FlowsTo template.nodes) start node.name) ∧
    ∀ node ∈ template.nodes, ∀ target, node.redTarget = some target →
      target = node.name ∨ TransGen (FlowsTo template.nodes) target node.name

/-- Among the coherent templates whose nodes repeat no dependency, the accepted ones are the
well-formed ones, and readiness flows from the start node of an accepted one to every node. -/
theorem validateGraphTemplate_iff_wellFormed {template : GraphTemplateSpec}
    (coherent : template.Coherent) (repeats : ∀ node ∈ template.nodes, node.dependsOn.Nodup) :
    (validateGraphTemplate template = .ok () ↔ template.WellFormed) ∧
      (validateGraphTemplate template = .ok () → ∀ start, template.startNode = some start →
        ∀ name, name ∈ graphDescendantsInclusive template.nodes start ↔
          name ∈ template.nodes.map (·.name)) := by
  have simple : Simple template.nodes := ⟨coherent.distinct, repeats⟩
  have cycles := simple.releasedCount_iff fun node mem => (coherent.nodes node mem).dependencies
  refine ⟨⟨fun passed => ?_, ?_⟩, fun passed start started name => ?_⟩
  · obtain ⟨start, valid⟩ := validTemplate_of_ok passed
    obtain ⟨_, nodes, released, _⟩ := validateGraphTemplate_eq_ok.mp passed
    refine ⟨start, valid.started, cycles.mp released, valid.declared,
      fun node mem => ⟨valid.name_of_root mem, valid.root node mem⟩, valid.reached, ?_⟩
    intro node mem target listed
    exact ((nodes node mem).2 target listed).imp_right simple.mem_ancestors_iff.mp
  · rintro ⟨start, started, acyclic, ⟨root, mem, named⟩, only, reached, red⟩
    refine validateGraphTemplate_eq_ok.mpr ⟨coherent, fun node mem => ⟨repeats node mem, ?_⟩,
      cycles.mpr acyclic, start, started, ⟨root, mem, named, (only root mem).mpr named⟩,
      fun node mem => mem_reachable_iff.mpr (reached node mem)⟩
    exact fun target listed => (red node mem target listed).imp_right simple.mem_ancestors_iff.mpr
  · obtain ⟨_, valid⟩ := validTemplate_of_ok passed
    cases valid.started.symm.trans started
    rw [mem_map]
    refine mem_reachable_iff.trans ⟨fun path => ?_, ?_⟩
    · rcases path.cases_tail with rfl | ⟨_, _, flows⟩
      · exact valid.declared
      · exact mem_map.mp (simple.flowsTo_iff.mp flows).1
    · rintro ⟨node, mem, rfl⟩
      exact valid.reached node mem

/-- Two nodes, the second with the given dependencies. -/
def pairTemplate (dependsOn : List GraphNodeName) : GraphTemplateSpec where
  name := "pair"
  version := 1
  startNode := some "A"
  nodes := [⟨"A", .commandGreen, .inline, 1, none, [], none, []⟩,
    ⟨"B", .commandGreen, .inline, 1, none, dependsOn, none, []⟩]

theorem pairTemplate_wellFormed : (pairTemplate ["A"]).WellFormed := by
  have passed : validateGraphTemplate (pairTemplate ["A"]) = .ok () := by decide +kernel
  have coherent := (validateGraphTemplate_eq_ok.mp passed).1
  exact (validateGraphTemplate_iff_wellFormed coherent (by decide)).1.mp passed

/-- A node that lists its dependency twice is refused. -/
theorem repeated_dependency_refused : (pairTemplate ["A", "A"]).Coherent ∧
    (pairTemplate ["A", "A"]).WellFormed ∧ validateGraphTemplate (pairTemplate ["A", "A"]) =
      .error ⟨.duplicateNode, "graph node B repeats dependency A"⟩ := by
  have flows source target : FlowsTo (pairTemplate ["A", "A"]).nodes source target ↔
      source = "A" ∧ target = "B" := by
    simp [flowsTo_iff, pairTemplate]
    grind
  refine ⟨⟨by decide, by decide, by decide, by decide, by decide, by decide, ?_⟩, ⟨"A", rfl, ?_,
    by simp [pairTemplate], by simp [pairTemplate], ?_, by simp [pairTemplate]⟩, by decide +kernel⟩
  · refine forall_mem_cons.mpr ⟨?_, forall_mem_singleton.mpr ?_⟩ <;>
      exact ⟨by decide, nofun, by decide, nofun, rfl, rfl⟩
  · intro name cycle
    obtain ⟨_, first, _⟩ := head'_iff.mp cycle
    obtain ⟨_, _, last⟩ := tail'_iff.mp cycle
    rw [flows] at first last
    exact absurd (first.1.symm.trans last.2) (by decide)
  · exact forall_mem_cons.mpr ⟨.refl,
      forall_mem_singleton.mpr (.single ((flows _ _).mpr ⟨rfl, rfl⟩))⟩

end HaiderAgent
