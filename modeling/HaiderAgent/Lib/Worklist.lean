import Mathlib.Logic.Relation
import Mathlib.Algebra.BigOperators.Group.Finset.Basic
import Mathlib.Data.Finset.Card
import Mathlib.Data.Finset.SDiff
import Mathlib.Data.Finset.Dedup

/-!
# Worklist search over a successor function

Three queue-driven traversals of a graph given by its successor lists: one that marks a node when
it is queued (`explore`), the same one stopped at a goal (`search`), and one that marks a node when
it is taken from the queue (`collect`). The fuel counts queue pops.
-/

namespace HaiderAgent.Worklist

open List

variable {α : Type*} [DecidableEq α]

/-- The candidates a set grows by when they are inserted one after the other. -/
def fresh : List α → List α → List α
  | _, [] => []
  | visited, candidate :: rest =>
    if candidate ∈ visited then fresh visited rest
    else candidate :: fresh (visited ++ [candidate]) rest

/-- Breadth-first closure: pop a node, insert and queue its new successors. -/
def explore (next : α → List α) : Nat → List α → List α → List α
  | 0, visited, _ => visited
  | _ + 1, visited, [] => visited
  | fuel + 1, visited, node :: queue =>
    let inserted := fresh visited (next node)
    explore next fuel (visited ++ inserted) (queue ++ inserted)

/-- Breadth-first search, stopped when a popped node has the goal among its successors. -/
def search (next : α → List α) (goal : α) : Nat → List α → List α → Bool
  | 0, _, _ => false
  | _ + 1, _, [] => false
  | fuel + 1, visited, node :: queue =>
    if goal ∈ next node then true
    else
      let inserted := fresh visited (next node)
      search next goal fuel (visited ++ inserted) (queue ++ inserted)

/-- Closure that inserts a node when it is popped and skips one that is already in. -/
def collect (next : α → List α) : Nat → List α → List α → List α
  | 0, seen, _ => seen
  | _ + 1, seen, [] => seen
  | fuel + 1, seen, node :: queue =>
    if node ∈ seen then collect next fuel seen queue
    else collect next fuel (seen ++ [node]) (queue ++ next node)

/-- The closure run until the queue is empty. -/
inductive Explores (next : α → List α) : List α → List α → List α → Prop
  | done (visited : List α) : Explores next visited [] visited
  | pop {visited queue result : List α} {node : α}
      (rest : Explores next (visited ++ fresh visited (next node))
        (queue ++ fresh visited (next node)) result) :
    Explores next visited (node :: queue) result

variable {visited : List α} {candidates : List α} {x : α}

theorem mem_of_mem_fresh
    (inserted : x ∈ fresh visited candidates) : x ∈ candidates ∧ x ∉ visited := by
  induction candidates generalizing visited with
  | nil => simp [fresh] at inserted
  | cons candidate rest ih =>
    unfold fresh at inserted
    split at inserted
    · rcases ih inserted with ⟨mem, isNew⟩
      exact ⟨mem_cons_of_mem _ mem, isNew⟩
    · rename_i isNew
      rcases mem_cons.mp inserted with rfl | later
      · exact ⟨mem_cons_self, isNew⟩
      · rcases ih later with ⟨mem, absent⟩
        exact ⟨mem_cons_of_mem _ mem, fun seen => absent (mem_append_left _ seen)⟩

theorem mem_append_fresh (mem : x ∈ candidates) :
    x ∈ visited ++ fresh visited candidates := by
  induction candidates generalizing visited with
  | nil => cases mem
  | cons candidate rest ih =>
    unfold fresh
    split
    · rename_i seen
      rcases mem_cons.mp mem with rfl | later
      · exact mem_append_left _ seen
      · exact ih later
    · rcases mem_cons.mp mem with rfl | later
      · simp
      · have inserted : x ∈ (visited ++ [candidate]) ++ fresh (visited ++ [candidate]) rest :=
          ih later
        simpa [append_assoc] using inserted

theorem nodup_fresh (visited candidates : List α) : (fresh visited candidates).Nodup := by
  induction candidates generalizing visited with
  | nil => simp [fresh]
  | cons candidate rest ih =>
    unfold fresh
    split
    · exact ih visited
    · refine nodup_cons.mpr ⟨fun again => ?_, ih _⟩
      exact (mem_of_mem_fresh again).2 (by simp)

section Invariant

variable (next : α → List α) (holds : α → Prop) {queue : List α}

theorem collect_invariant (step : ∀ node, holds node → ∀ target ∈ next node, holds target)
    (fuel : Nat) {seen : List α} (seeds : ∀ node ∈ seen, holds node)
    (queued : ∀ node ∈ queue, holds node) :
    ∀ node ∈ collect next fuel seen queue, holds node := by
  induction fuel generalizing seen queue with
  | zero => exact seeds
  | succ fuel ih =>
    cases queue with
    | nil => exact seeds
    | cons node queue =>
      obtain ⟨popped, waiting⟩ := forall_mem_cons.mp queued
      unfold collect
      split
      · exact ih seeds waiting
      · exact ih (forall_mem_append.mpr ⟨seeds, forall_mem_singleton.mpr popped⟩)
          (forall_mem_append.mpr ⟨waiting, step node popped⟩)

end Invariant

section Completeness

variable {next : α → List α} {nodes : Finset α}

variable (bounded : ∀ node, ∀ target ∈ next node, target ∈ nodes)
include bounded

theorem enough_after_pop {fuel : Nat} {visited queue : List α} {node : α}
    (enough : (nodes \ visited.toFinset).card + (node :: queue).length ≤ fuel + 1) :
    (nodes \ (visited ++ fresh visited (next node)).toFinset).card +
      (queue ++ fresh visited (next node)).length ≤ fuel := by
  have inserted : (fresh visited (next node)).toFinset ⊆ nodes \ visited.toFinset := by
    intro target mem
    rcases mem_of_mem_fresh (mem_toFinset.mp mem) with ⟨successor, isNew⟩
    simp [bounded node target successor, isNew]
  have size : (fresh visited (next node)).toFinset.card = (fresh visited (next node)).length :=
    toFinset_card_of_nodup (nodup_fresh _ _)
  have paid := Finset.card_sdiff_add_card_eq_card inserted
  rw [sdiff_sdiff, Finset.sup_eq_union, ← toFinset_append, size] at paid
  simp only [length_append, length_cons] at enough ⊢
  omega

theorem explores_explore {fuel : Nat} {visited queue : List α}
    (enough : (nodes \ visited.toFinset).card + queue.length ≤ fuel) :
    Explores next visited queue (explore next fuel visited queue) := by
  induction fuel generalizing visited queue with
  | zero =>
    obtain rfl : queue = [] := eq_nil_of_length_eq_zero (by omega)
    exact .done visited
  | succ fuel ih =>
    cases queue with
    | nil => exact .done visited
    | cons node queue => exact .pop (ih (enough_after_pop bounded enough))

/-- A search that fails with enough fuel leaves a closed set without the goal. -/
theorem closed_of_search_false (goal : α) (fuel : Nat) {visited queue : List α}
    (enough : (nodes \ visited.toFinset).card + queue.length ≤ fuel)
    (done : ∀ node ∈ visited, node ∈ queue ∨ ∀ target ∈ next node, target ∈ visited ∧ target ≠ goal)
    (failed : search next goal fuel visited queue = false) :
    ∃ closed : α → Prop, (∀ node ∈ visited, closed node) ∧
      ∀ node, closed node → ∀ target ∈ next node, closed target ∧ target ≠ goal := by
  induction fuel generalizing visited queue with
  | zero =>
    have empty : queue = [] := eq_nil_of_length_eq_zero (by omega)
    subst empty
    refine ⟨(· ∈ visited), fun _ mem => mem, fun node mem => ?_⟩
    exact (done node mem).resolve_left not_mem_nil
  | succ fuel ih =>
    cases queue with
    | nil =>
      refine ⟨(· ∈ visited), fun _ mem => mem, fun node mem => ?_⟩
      exact (done node mem).resolve_left not_mem_nil
    | cons node queue =>
      unfold search at failed
      split at failed
      · cases failed
      rename_i elsewhere
      have settled : ∀ target ∈ next node,
          target ∈ visited ++ fresh visited (next node) ∧ target ≠ goal := by
        intro target mem
        refine ⟨mem_append_fresh mem, fun same => elsewhere (same ▸ mem)⟩
      have doneLeft : ∀ v ∈ visited ++ fresh visited (next node),
          v ∈ queue ++ fresh visited (next node) ∨ ∀ target ∈ next v,
            target ∈ visited ++ fresh visited (next node) ∧ target ≠ goal := by
        intro v mem
        rcases mem_append.mp mem with old | new
        · rcases done v old with waiting | processed
          · rcases mem_cons.mp waiting with rfl | later
            · exact .inr settled
            · exact .inl (mem_append_left _ later)
          · exact .inr fun target successor =>
              ⟨mem_append_left _ (processed target successor).1,
                (processed target successor).2⟩
        · exact .inl (mem_append_right _ new)
      rcases ih (enough_after_pop bounded enough) doneLeft failed with ⟨closed, seeds, step⟩
      exact ⟨closed, fun v mem => seeds v (mem_append_left _ mem), step⟩

/-- With fuel for every node the search finds what a path reaches. -/
theorem search_of_path {root goal : α} {fuel : Nat} (enough : nodes.card + 1 ≤ fuel)
    (path : Relation.TransGen (fun source target => target ∈ next source) root goal) :
    search next goal fuel [root] [root] = true := by
  by_contra failed
  have size : (nodes \ [root].toFinset).card ≤ nodes.card :=
    Finset.card_le_card Finset.sdiff_subset
  have paid : (nodes \ [root].toFinset).card + [root].length ≤ fuel := by
    rw [length_singleton]
    omega
  rcases closed_of_search_false bounded goal fuel paid (fun _ mem => .inl mem)
    (Bool.eq_false_iff.mpr failed) with ⟨closed, seeds, step⟩
  have reached : closed goal ∧ goal ≠ goal := by
    have start : closed root := seeds root mem_cons_self
    suffices ∀ node, Relation.TransGen (fun source target => target ∈ next source) root node →
        closed node ∧ node ≠ goal from this goal path
    intro node walk
    induction walk with
    | single edge => exact step root start _ edge
    | tail _ edge ih => exact step _ ih.1 _ edge
  exact reached.2 rfl

omit bounded

end Completeness

variable {goal : α} {fuel : Nat}

theorem exists_path_of_search {next : α → List α} {queue : List α}
    (found : search next goal fuel visited queue = true) :
    ∃ root ∈ queue, Relation.TransGen (fun source target => target ∈ next source) root goal := by
  induction fuel generalizing visited queue with
  | zero => cases found
  | succ fuel ih =>
    cases queue with
    | nil => cases found
    | cons node queue =>
      unfold search at found
      split at found
      · next edge => exact ⟨node, mem_cons_self, .single edge⟩
      · obtain ⟨root, queued, path⟩ := ih found
        rcases mem_append.mp queued with old | new
        · exact ⟨root, mem_cons_of_mem _ old, path⟩
        · exact ⟨node, mem_cons_self, .head (mem_of_mem_fresh new).1 path⟩

theorem path_of_search {next : α → List α} {root : α}
    (found : search next goal fuel visited [root] = true) :
    Relation.TransGen (fun source target => target ∈ next source) root goal := by
  obtain ⟨start, queued, path⟩ := exists_path_of_search found
  rwa [mem_singleton.mp queued] at path

section Closure

variable {next : α → List α} {nodes : Finset α} {queue : List α}

theorem mem_explore_iff_search :
    x ∈ explore next fuel visited queue ↔
      x ∈ visited ∨ search next x fuel visited queue = true := by
  induction fuel generalizing visited queue with
  | zero => simp [explore, search]
  | succ fuel ih =>
    cases queue with
    | nil => simp [explore, search]
    | cons node queue =>
      rw [explore, search, ih]
      by_cases edge : x ∈ next node
      · simp [edge, mem_append_fresh edge]
      · have absent : x ∉ fresh visited (next node) := fun new => edge (mem_of_mem_fresh new).1
        simp [edge, absent]

/-- With fuel for every node the closure of one root is what paths from it reach. -/
theorem mem_explore_iff {root : α}
    (bounded : ∀ node, ∀ target ∈ next node, target ∈ nodes) (enough : nodes.card + 1 ≤ fuel) :
    x ∈ explore next fuel [root] [root] ↔
      Relation.ReflTransGen (fun source target => target ∈ next source) root x := by
  rw [mem_explore_iff_search, mem_singleton, Relation.reflTransGen_iff_eq_or_transGen]
  exact or_congr_right ⟨path_of_search, search_of_path bounded enough⟩

/-- With fuel for the queue and for the successors of every node that is still out, the
closure holds the queue and is closed. -/
theorem collect_closed (bounded : ∀ node ∉ nodes, next node = []) {seen : List α}
    (enough : queue.length + ∑ node ∈ nodes \ seen.toFinset, (next node).length ≤ fuel)
    (done : ∀ node ∈ seen, ∀ target ∈ next node, target ∈ seen ++ queue) :
    (∀ node ∈ seen ++ queue, node ∈ collect next fuel seen queue) ∧
      ∀ node ∈ collect next fuel seen queue, ∀ target ∈ next node,
        target ∈ collect next fuel seen queue := by
  induction fuel generalizing seen queue with
  | zero =>
    obtain rfl : queue = [] := eq_nil_of_length_eq_zero (by omega)
    rw [append_nil] at done ⊢
    exact ⟨fun _ mem => mem, done⟩
  | succ fuel ih =>
    cases queue with
    | nil =>
      rw [append_nil] at done ⊢
      exact ⟨fun _ mem => mem, done⟩
    | cons node queue =>
      rw [length_cons] at enough
      unfold collect
      split
      · next old =>
        have kept : ∀ v, v ∈ seen ++ node :: queue → v ∈ seen ++ queue := by grind
        have closed := ih (by omega) fun v mem target edge => kept _ (done v mem target edge)
        exact ⟨fun v mem => closed.1 v (kept v mem), closed.2⟩
      · next isNew =>
        have paid : (next node).length +
            ∑ v ∈ nodes \ (seen ++ [node]).toFinset, (next v).length ≤
              ∑ v ∈ nodes \ seen.toFinset, (next v).length := by
          have rest : nodes \ (seen ++ [node]).toFinset = (nodes \ seen.toFinset).erase node := by
            ext v
            simp
            tauto
          rw [rest]
          by_cases known : node ∈ nodes
          · have out : node ∈ nodes \ seen.toFinset := by simp [known, isNew]
            exact (Finset.add_sum_erase _ (fun v => (next v).length) out).le
          · rw [bounded node known, Finset.erase_eq_of_notMem fun mem => known (Finset.mem_sdiff.mp mem).1]
            simp
        have settled : ∀ v ∈ seen ++ [node], ∀ target ∈ next v,
            target ∈ seen ++ [node] ++ (queue ++ next node) := by grind
        have closed := ih (by rw [length_append]; omega) settled
        exact ⟨fun v mem => closed.1 v (by grind), closed.2⟩

end Closure

end HaiderAgent.Worklist
