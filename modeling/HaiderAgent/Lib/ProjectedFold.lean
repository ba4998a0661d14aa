import Mathlib.Data.List.Induction

/-!
# Folds that write a projection back

A reducer folds events into a state and, at the end of a batch, writes derived data back into it.
Cutting the events into batches does not matter exactly when no single projection in the middle can
be told from none; that is decided one event at a time, on a relation between the plain and the
projected fold that ignores what the projection overwrites.
-/

namespace ProjectedFold

open List

variable {S E : Type} (step : S → E → S) (project : S → S) (changes : E → Bool)

/-- Fold a batch, and project if some event of it counts. -/
def applyBatch (s : S) (batch : List E) : S :=
  if batch.any changes then project (batch.foldl step s) else batch.foldl step s

/-- However events are cut into batches, every state is the one a single batch leaves. -/
def BatchesAgree (start : S) (events : List E) : Prop :=
  ∀ batches : List (List E), batches.flatten <+: events →
    batches.foldl (applyBatch step project changes) start =
      project (batches.flatten.foldl step start)

/-- One projection in the middle makes no difference. -/
def OneProjectionAgrees (start : S) (events : List E) : Prop :=
  ∀ before between, before ++ between <+: events → between.any changes = true →
    project (between.foldl step (project (before.foldl step start))) =
      project ((before ++ between).foldl step start)

section Batches

variable {step project changes}
  (still : ∀ s e, changes e = false → step s e = s)
include still

theorem foldl_still {batch : List E} (unchanged : batch.any changes = false) (s : S) :
    batch.foldl step s = s := by
  induction batch generalizing s with
  | nil => rfl
  | cons e rest ih =>
    rw [any_cons, Bool.or_eq_false_iff] at unchanged
    rw [foldl_cons, still s e unchanged.1]
    exact ih unchanged.2 s

variable {start : S}

theorem applyBatch_start (fixed : project start = start) (batch : List E) :
    applyBatch step project changes start batch = project (batch.foldl step start) := by
  unfold applyBatch
  by_cases changed : batch.any changes = true
  · rw [if_pos changed]
  · have unchanged : batch.any changes = false := by simpa using changed
    rw [if_neg changed, foldl_still still unchanged, fixed]

/-- Cuts agree exactly if one projection never matters, so only the last cut is compared. -/
theorem batchesAgree_iff (fixed : project start = start) (events : List E) :
    BatchesAgree step project changes start events ↔
      OneProjectionAgrees step project changes start events := by
  constructor
  · intro agree before between inside changed
    have both := agree [before, between] (by simpa using inside)
    simp only [foldl_cons, foldl_nil, flatten_cons, flatten_nil,
      append_nil] at both
    rw [applyBatch_start still fixed, applyBatch, if_pos changed] at both
    exact both
  · intro agree batches
    induction batches using reverseRecOn with
    | nil =>
      intro _
      simp [fixed]
    | append_singleton batches batch ih =>
      intro inside
      rw [flatten_append, flatten_singleton] at inside ⊢
      have earlier := ih ((prefix_append _ _).trans inside)
      rw [foldl_append, foldl_cons, foldl_nil, earlier, applyBatch]
      by_cases changed : batch.any changes = true
      · rw [if_pos changed]
        exact agree _ _ inside changed
      · have unchanged : batch.any changes = false := by simpa using changed
        rw [if_neg changed, foldl_append, foldl_still still unchanged,
          foldl_still still unchanged]

end Batches

section Steps

variable {step project changes} (same : S → S → Prop) {safe : S → S → E → Prop}
  {coherent : S → S → Prop}

/-- Deciding it one event at a time: `same` relates a plain and a projected state up to what the
projection overwrites, `safe` says when an event keeps it, and `coherent` when two such states
have the same projection. -/
theorem oneProjectionAgrees_iff (start : S) (events : List E)
    (still : ∀ s e, changes e = false → step s e = s) (same_project : ∀ s, same s (project s))
    (same_of_eq : ∀ s t, project s = project t → same s t)
    (step_iff : ∀ s t e, same s t → (same (step s e) (step t e) ↔ safe s t e))
    (project_iff : ∀ s t, same s t → (project s = project t ↔ coherent s t)) :
    OneProjectionAgrees step project changes start events ↔
      ∀ before between, before ++ between <+: events →
        (between.any changes = true →
          coherent ((before ++ between).foldl step start)
            (between.foldl step (project (before.foldl step start)))) ∧
        ∀ e, before ++ between ++ [e] <+: events →
          safe ((before ++ between).foldl step start)
            (between.foldl step (project (before.foldl step start))) e := by
  constructor
  · intro agree
    have related (before between : List E) (inside : before ++ between <+: events) :
        same ((before ++ between).foldl step start)
          (between.foldl step (project (before.foldl step start))) := by
      by_cases changed : between.any changes = true
      · exact same_of_eq _ _ (agree before between inside changed).symm
      · have unchanged : between.any changes = false := by simpa using changed
        rw [foldl_append, foldl_still still unchanged, foldl_still still unchanged]
        exact same_project _
    intro before between inside
    refine ⟨?_, ?_⟩
    · intro changed
      exact (project_iff _ _ (related before between inside)).mp
        (agree before between inside changed).symm
    · intro e next
      have after := related before (between ++ [e]) (by rwa [← append_assoc])
      rw [← append_assoc, foldl_append (l := before ++ between),
        foldl_append (l := between)] at after
      exact (step_iff _ _ e (related before between inside)).mp after
  · intro condition before between inside changed
    have related : ∀ between, before ++ between <+: events →
        same ((before ++ between).foldl step start)
          (between.foldl step (project (before.foldl step start))) := by
      intro between
      induction between using reverseRecOn with
      | nil =>
        intro _
        rw [append_nil]
        exact same_project _
      | append_singleton between e ih =>
        intro next
        rw [← append_assoc] at next ⊢
        have inside : before ++ between <+: events := (prefix_append _ _).trans next
        rw [foldl_append (l := before ++ between), foldl_append (l := between)]
        exact (step_iff _ _ e (ih inside)).mpr ((condition before between inside).2 e next)
    exact ((project_iff _ _ (related between inside)).mpr
      ((condition before between inside).1 changed)).symm

end Steps

end ProjectedFold
