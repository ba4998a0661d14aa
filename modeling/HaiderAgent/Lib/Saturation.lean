import Mathlib.Data.List.Basic
import Mathlib.Data.List.Count
import Mathlib.Logic.Relation

/-!
# Closing a set along arrows, round by round

A round walks over the arrows in order and inserts the target of every arrow whose source is in;
rounds are repeated until one leaves the size alone. A set that kept its size is closed, and as
many rounds as there are arrows are enough to get there.
-/

namespace Saturation

variable {α : Type*} [DecidableEq α]

/-- One pass over the arrows, each adding its target once its source is in. -/
def round (arrows : List (α × α)) (set : List α) : List α :=
  arrows.foldl (fun set arrow => if arrow.1 ∈ set then set.insert arrow.2 else set) set

/-- Passes until one adds nothing. -/
def close (arrows : List (α × α)) : Nat → List α → List α
  | 0, set => set
  | fuel + 1, set =>
    let grown := round arrows set
    if grown.length = set.length then grown else close arrows fuel grown

/-- The arrows whose targets are still out. -/
def missing (arrows : List (α × α)) (set : List α) : List (α × α) :=
  arrows.filter fun arrow => arrow.2 ∉ set

section Round

variable {arrows : List (α × α)} {set : List α}

theorem round_cons (arrow : α × α) :
    round (arrow :: arrows) set =
      round arrows (if arrow.1 ∈ set then set.insert arrow.2 else set) := rfl

theorem subset_round : set ⊆ round arrows set := by
  induction arrows generalizing set with
  | nil => exact List.Subset.refl _
  | cons arrow arrows ih =>
    rw [round_cons]
    refine List.Subset.trans ?_ ih
    split
    · exact fun _ mem => List.mem_insert_of_mem mem
    · exact List.Subset.refl _

theorem mem_round {x : α} (mem : x ∈ round arrows set) :
    x ∈ set ∨ ∃ arrow ∈ arrows, arrow.2 = x := by
  induction arrows generalizing set with
  | nil => exact .inl mem
  | cons arrow arrows ih =>
    rw [round_cons] at mem
    rcases ih mem with earlier | ⟨later, within, target⟩
    · split at earlier
      · rcases List.mem_insert_iff.mp earlier with rfl | old
        · exact .inr ⟨arrow, List.mem_cons_self, rfl⟩
        · exact .inl old
      · exact .inl earlier
    · exact .inr ⟨later, List.mem_cons_of_mem _ within, target⟩

theorem length_le_round : set.length ≤ (round arrows set).length := by
  induction arrows generalizing set with
  | nil => exact Nat.le_refl _
  | cons arrow arrows ih =>
    rw [round_cons]
    refine Nat.le_trans ?_ ih
    split
    · rw [List.length_insert]
      split <;> omega
    · exact Nat.le_refl _

theorem closed_of_length_eq (same : (round arrows set).length = set.length) :
    round arrows set = set ∧ ∀ arrow ∈ arrows, arrow.1 ∈ set → arrow.2 ∈ set := by
  induction arrows with
  | nil => exact ⟨rfl, nofun⟩
  | cons arrow arrows ih =>
    rw [round_cons] at same ⊢
    have settled : arrow.1 ∈ set → arrow.2 ∈ set := by
      intro source
      by_contra out
      rw [if_pos source] at same
      have grows : (set.insert arrow.2).length ≤ (round arrows (set.insert arrow.2)).length :=
        length_le_round
      rw [List.length_insert_of_not_mem out] at grows
      omega
    have step : (if arrow.1 ∈ set then set.insert arrow.2 else set) = set := by
      split
      · next source => exact List.insert_of_mem (settled source)
      · rfl
    rw [step] at same ⊢
    obtain ⟨unchanged, rest⟩ := ih same
    refine ⟨unchanged, fun other mem source => ?_⟩
    rcases List.mem_cons.mp mem with rfl | later
    · exact settled source
    · exact rest other later source

theorem length_round_of_subset (nothing : round arrows set ⊆ set) :
    (round arrows set).length = set.length := by
  induction arrows generalizing set with
  | nil => rfl
  | cons arrow arrows ih =>
    rw [round_cons] at nothing ⊢
    have step : (if arrow.1 ∈ set then set.insert arrow.2 else set) = set := by
      split
      · next source =>
        rw [if_pos source] at nothing
        exact List.insert_of_mem (nothing (subset_round List.mem_insert_self))
      · rfl
    rw [step] at nothing ⊢
    exact ih nothing

theorem missing_round_lt (changed : (round arrows set).length ≠ set.length) :
    (missing arrows (round arrows set)).length < (missing arrows set).length := by
  have grown : ∃ x ∈ round arrows set, x ∉ set := by
    by_contra none
    push Not at none
    exact changed (length_round_of_subset none)
  obtain ⟨x, inside, out⟩ := grown
  rcases mem_round inside with old | ⟨arrow, mem, rfl⟩
  · exact absurd old out
  · have fewer : (missing arrows (round arrows set)).Sublist (missing arrows set) := by
      refine List.monotone_filter_right _ fun other absent => ?_
      simp only [decide_eq_true_eq] at absent ⊢
      exact fun old => absent (subset_round old)
    refine Nat.lt_of_le_of_ne fewer.length_le fun same => ?_
    have still : arrow ∈ missing arrows (round arrows set) := by
      rw [fewer.eq_of_length same]
      exact List.mem_filter.mpr ⟨mem, by simpa using out⟩
    exact absurd inside (by simpa using (List.mem_filter.mp still).2)

end Round

section Close

variable {arrows : List (α × α)} {fuel : Nat} {set : List α}

theorem subset_close : set ⊆ close arrows fuel set := by
  induction fuel generalizing set with
  | zero => exact List.Subset.refl _
  | succ fuel ih =>
    unfold close
    dsimp only
    split
    · exact subset_round
    · exact List.Subset.trans subset_round ih

/-- A property of the seeds that passes along every arrow holds of everything in the closure. -/
theorem close_invariant {P : α → Prop} (passes : ∀ arrow ∈ arrows, P arrow.1 → P arrow.2)
    (seeds : ∀ x ∈ set, P x) : ∀ x ∈ close arrows fuel set, P x := by
  have one : ∀ set : List α, (∀ x ∈ set, P x) → ∀ x ∈ round arrows set, P x := by
    induction arrows with
    | nil => exact fun _ seeds => seeds
    | cons arrow arrows ih =>
      intro set seeds
      rw [round_cons]
      refine ih (fun other mem => passes other (List.mem_cons_of_mem _ mem)) _ ?_
      split
      · next source =>
        intro x mem
        rcases List.mem_insert_iff.mp mem with rfl | old
        · exact passes arrow List.mem_cons_self (seeds _ source)
        · exact seeds x old
      · exact seeds
  induction fuel generalizing set with
  | zero => exact seeds
  | succ fuel ih =>
    unfold close
    dsimp only
    split
    · exact one set seeds
    · exact ih (one set seeds)

theorem close_closed (enough : (missing arrows set).length < fuel) :
    ∀ arrow ∈ arrows, arrow.1 ∈ close arrows fuel set → arrow.2 ∈ close arrows fuel set := by
  induction fuel generalizing set with
  | zero => omega
  | succ fuel ih =>
    unfold close
    dsimp only
    split
    · next same =>
      obtain ⟨unchanged, closed⟩ := closed_of_length_eq same
      rw [unchanged]
      exact closed
    · next changed =>
      have fewer := missing_round_lt changed
      exact ih (by omega)

/-- With a round for every arrow the closure of one seed is what paths from it reach. -/
theorem mem_close_iff {root x : α} (enough : arrows.length < fuel) :
    x ∈ close arrows fuel [root] ↔
      Relation.ReflTransGen (fun source target => (source, target) ∈ arrows) root x := by
  constructor
  · refine fun inside => close_invariant (fun arrow mem path => path.tail mem) ?_ x inside
    exact List.forall_mem_singleton.mpr .refl
  · intro path
    have few : (missing arrows [root]).length < fuel :=
      Nat.lt_of_le_of_lt (List.length_filter_le _ _) enough
    induction path with
    | refl => exact subset_close List.mem_cons_self
    | tail _ arrow ih => exact close_closed few _ arrow ih

end Close

end Saturation
