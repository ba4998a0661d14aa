import Mathlib.Data.List.Perm.Basic
import Mathlib.Data.List.Nodup
import Mathlib.Logic.Function.Basic

/-!
# Guarded updates of many keys

A plan names, for each of its keys, the tag the key must show before the update and the value it
holds afterwards. Running a plan checks every tag first and then writes every value. A plan into
which a later write was merged does what running the plan and then that write would do, and writing
the old values back is again such a plan.
-/

namespace GuardedUpdate

open List

variable {K T V : Type} [DecidableEq K] [DecidableEq T]

/-- The tag one key must show, and the value it then gets. -/
structure Target (K T V : Type) where
  key : K
  expected : T
  restore : V

variable (tag : V → T) (key : K) (value : V) (plan : List (Target K T V))

/-- No key has two targets. -/
def Distinct : Prop := (plan.map (·.key)).Nodup

variable (s : K → V)

/-- Every key of the plan shows its expected tag. -/
def Fits : Prop :=
  ∀ t ∈ plan, tag (s t.key) = t.expected

instance (tag : V → T) (plan : List (Target K T V)) (s : K → V) : Decidable (Fits tag plan s) :=
  inferInstanceAs (Decidable (∀ t ∈ plan, tag (s t.key) = t.expected))

/-- The whole plan written without looking. -/
def put : K → V :=
  plan.foldl (fun s t => Function.update s t.key t.restore) s

/-- One target, written only over the expected tag. -/
def write (t : Target K T V) : Option (K → V) :=
  if tag (s t.key) = t.expected then some (Function.update s t.key t.restore) else none

/-- All of the plan, or none of it. -/
def attempt : Option (K → V) :=
  if Fits tag plan s then some (put plan s) else none

/-! ## What a plan writes -/

section Put

omit [DecidableEq T]

@[simp] theorem put_nil (s : K → V) : put ([] : List (Target K T V)) s = s := rfl

@[simp] theorem put_cons (t : Target K T V) (plan : List (Target K T V)) (s : K → V) :
    put (t :: plan) s = put plan (Function.update s t.key t.restore) := rfl

theorem put_append (before rest : List (Target K T V)) (s : K → V) :
    put (before ++ rest) s = put rest (put before s) := foldl_append ..

variable {key plan} {t : Target K T V}

theorem put_of_not_mem (untouched : key ∉ plan.map (·.key)) (s : K → V) :
    put plan s key = s key := by
  induction plan generalizing s with
  | nil => rfl
  | cons t plan ih =>
    rw [map_cons, mem_cons, not_or] at untouched
    rw [put_cons, ih untouched.2, Function.update_of_ne untouched.1]

theorem put_of_mem (distinct : Distinct plan) (mem : t ∈ plan) (s : K → V) :
    put plan s t.key = t.restore := by
  induction plan generalizing s with
  | nil => cases mem
  | cons u plan ih =>
    obtain ⟨first, rest⟩ := nodup_cons.mp distinct
    rcases mem_cons.mp mem with rfl | mem
    · rw [put_cons, put_of_not_mem first, Function.update_self]
    · rw [put_cons, ih rest mem]

/-- What a plan leaves at a key depends on the targets only, not on their order. -/
theorem put_perm {other : List (Target K T V)} (same : plan.Perm other)
    (distinct : Distinct plan) (s : K → V) : put plan s = put other s := by
  have distinctOther : Distinct other := (same.map _).nodup_iff.mp distinct
  funext key
  by_cases touched : key ∈ plan.map (·.key)
  · obtain ⟨t, mem, rfl⟩ := mem_map.mp touched
    rw [put_of_mem distinct mem, put_of_mem distinctOther (same.mem_iff.mp mem)]
  · have untouched : key ∉ other.map (·.key) := fun found =>
      touched ((same.map (·.key)).mem_iff.mpr found)
    rw [put_of_not_mem touched, put_of_not_mem untouched]

end Put

/-! ## Merging a further write into a plan -/

omit [DecidableEq K] [DecidableEq T] in
theorem fits_perm {tag : V → T} {plan other : List (Target K T V)} (same : plan.Perm other)
    (s : K → V) : Fits tag plan s ↔ Fits tag other s :=
  ⟨fun fits t mem => fits t (same.mem_iff.mpr mem),
    fun fits t mem => fits t (same.mem_iff.mp mem)⟩

theorem attempt_perm {tag : V → T} {plan other : List (Target K T V)} (same : plan.Perm other)
    (distinct : Distinct plan) (s : K → V) : attempt tag plan s = attempt tag other s := by
  unfold attempt
  rw [put_perm same distinct]
  exact if_congr (fits_perm same s) rfl rfl

/-- The value of one key replaced, its guard kept. -/
def replace : List (Target K T V) :=
  plan.map fun t => if t.key = key then { t with restore := value } else t

omit [DecidableEq T] in
@[simp] theorem replace_keys : (replace key value plan).map (·.key) = plan.map (·.key) := by
  unfold replace
  rw [map_map]
  refine map_congr_left fun t _ => ?_
  simp only [Function.comp]
  split <;> rfl

omit [DecidableEq T] in
theorem fits_replace : Fits tag (replace key value plan) s ↔ Fits tag plan s := by
  unfold Fits replace
  rw [forall_mem_map]
  refine forall₂_congr fun t _ => ?_
  split <;> rfl

variable {plan} {t : Target K T V}

omit [DecidableEq T] in
theorem put_replace (distinct : Distinct plan) (mem : t ∈ plan) (value : V) (s : K → V) :
    put (replace t.key value plan) s = Function.update (put plan s) t.key value := by
  have kept : Distinct (replace t.key value plan) := by
    unfold Distinct
    rw [replace_keys]
    exact distinct
  funext key
  by_cases touched : key ∈ plan.map (·.key)
  · obtain ⟨u, found, rfl⟩ := mem_map.mp touched
    by_cases same : u.key = t.key
    · have written : { u with restore := value } ∈ replace t.key value plan :=
        mem_map.mpr ⟨u, found, if_pos same⟩
      have here : put (replace t.key value plan) s u.key = value := put_of_mem kept written s
      rw [here, same, Function.update_self]
    · have written : u ∈ replace t.key value plan := mem_map.mpr ⟨u, found, if_neg same⟩
      rw [Function.update_of_ne same, put_of_mem kept written, put_of_mem distinct found]
  · have untouched : key ∉ (replace t.key value plan).map (·.key) := by
      rw [replace_keys]
      exact touched
    have other : key ≠ t.key := fun same => touched (same ▸ mem_map_of_mem mem)
    rw [put_of_not_mem untouched, Function.update_of_ne other, put_of_not_mem touched]

/-- A target added to a plan is one more guarded write. -/
theorem attempt_insert {tag : V → T} {merged : List (Target K T V)}
    (new : t.key ∉ plan.map (·.key)) (same : merged.Perm (t :: plan)) (distinct : Distinct plan)
    (s : K → V) : attempt tag merged s = (attempt tag plan s).bind (write tag · t) := by
  have distinctAll : Distinct (t :: plan) := nodup_cons.mpr ⟨new, distinct⟩
  have distinctMerged : Distinct merged := (same.map _).nodup_iff.mpr distinctAll
  have last : put (t :: plan) s = Function.update (put plan s) t.key t.restore := by
    rw [put_perm (perm_append_singleton t plan).symm distinctAll, put_append]
    rfl
  rw [attempt_perm same distinctMerged]
  by_cases fits : Fits tag plan s
  · by_cases first : tag (s t.key) = t.expected
    · have all : Fits tag (t :: plan) s := forall_mem_cons.mpr ⟨first, fits⟩
      have shown : tag (put plan s t.key) = t.expected := by
        rw [put_of_not_mem new]
        exact first
      simp [attempt, write, fits, all, shown, last]
    · have refused : ¬ Fits tag (t :: plan) s := fun all => first (forall_mem_cons.mp all).1
      have hidden : ¬ tag (put plan s t.key) = t.expected := by
        rw [put_of_not_mem new]
        exact first
      simp [attempt, write, fits, refused, hidden]
  · have refused : ¬ Fits tag (t :: plan) s := fun all => fits (forall_mem_cons.mp all).2
    simp [attempt, fits, refused]

theorem attempt_replace (distinct : Distinct plan) {found : Target K T V} (mem : found ∈ plan)
    (sameKey : found.key = t.key) (s : K → V) :
    (if tag found.restore = t.expected then attempt tag (replace t.key t.restore plan) s
      else none) = (attempt tag plan s).bind (write tag · t) := by
  have left : put plan s t.key = found.restore := by
    rw [← sameKey]
    exact put_of_mem distinct mem s
  have wrote : put (replace t.key t.restore plan) s =
      Function.update (put plan s) t.key t.restore := by
    rw [← sameKey]
    exact put_replace distinct mem _ s
  have guard := fits_replace tag t.key t.restore plan s
  by_cases contiguous : tag found.restore = t.expected
  · by_cases fits : Fits tag plan s
    · simp [attempt, write, contiguous, fits, guard, left, wrote]
    · simp [attempt, contiguous, fits, guard]
  · by_cases fits : Fits tag plan s
    · simp [attempt, write, contiguous, fits, left]
    · simp [attempt, contiguous, fits]

/-! ## Taking a plan back -/

section Inverse

omit [DecidableEq T]

/-- The plan that writes back what the state held, expecting what the plan wrote. -/
def inverse (tag : V → T) (plan : List (Target K T V)) (s : K → V) : List (Target K T V) :=
  plan.map fun t => { key := t.key, expected := tag t.restore, restore := s t.key }

omit [DecidableEq K] in
@[simp] theorem inverse_keys (tag : V → T) (plan : List (Target K T V)) (s : K → V) :
    (inverse tag plan s).map (·.key) = plan.map (·.key) := by
  simp [inverse, Function.comp_def]

variable {tag} (distinct : Distinct plan)
include distinct

theorem inverse_fits (s : K → V) : Fits tag (inverse tag plan s) (put plan s) := by
  intro t mem
  obtain ⟨u, found, rfl⟩ := mem_map.mp mem
  rw [put_of_mem distinct found]

/-- Whatever the keys of the plan hold by now, they are given back what the state held. -/
theorem put_inverse_of_agree {s now : K → V}
    (agree : ∀ key, key ∉ plan.map (·.key) → now key = s key) :
    put (inverse tag plan s) now = s := by
  have kept : Distinct (inverse tag plan s) := by
    unfold Distinct
    rw [inverse_keys]
    exact distinct
  funext key
  by_cases touched : key ∈ plan.map (·.key)
  · obtain ⟨t, mem, rfl⟩ := mem_map.mp touched
    exact put_of_mem kept (mem_map_of_mem mem) _
  · have untouched : key ∉ (inverse tag plan s).map (·.key) := by
      rw [inverse_keys]
      exact touched
    rw [put_of_not_mem untouched, agree key touched]

theorem put_inverse (s : K → V) : put (inverse tag plan s) (put plan s) = s :=
  put_inverse_of_agree distinct fun _ untouched => put_of_not_mem untouched s

end Inverse

end GuardedUpdate
