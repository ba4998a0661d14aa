import Mathlib.Data.List.Forall2
import Mathlib.Data.List.Nodup

/-!
# Rows with a key

A list of rows read and changed by key: the first row with a key is found, or rewritten in place.
Where no two rows share their key, finding is membership and rewriting is mapping.
-/

namespace Rows

open List

variable {ρ κ : Type*} [DecidableEq κ] (key : ρ → κ)

/-- The first row of a key. -/
def find (k : κ) (rows : List ρ) : Option ρ := rows.find? (key · == k)

/-- A change to the first row of a key. -/
def update (k : κ) (f : ρ → ρ) : List ρ → List ρ
  | [] => []
  | row :: rows => if key row = k then f row :: rows else row :: update k f rows

variable {key} {rows : List ρ} {row : ρ} {k : κ} {f : ρ → ρ}

theorem find_eq_none_iff : find key k rows = none ↔ k ∉ rows.map key := by
  simp [find]

theorem mem_of_find (found : find key k rows = some row) : row ∈ rows ∧ key row = k :=
  ⟨mem_of_find?_eq_some found, by simpa using find?_some found⟩

/-- A row is found under its own key when no other row has it. -/
theorem find_eq_some_iff (unique : (rows.map key).Nodup) :
    find key k rows = some row ↔ row ∈ rows ∧ key row = k := by
  refine ⟨mem_of_find, fun ⟨mem, named⟩ => ?_⟩
  cases found : find key k rows with
  | none => exact absurd (named ▸ mem_map_of_mem mem) (find_eq_none_iff.mp found)
  | some other =>
    obtain ⟨within, same⟩ := mem_of_find found
    rw [inj_on_of_nodup_map unique within mem (same.trans named.symm)]

theorem find_perm {others : List ρ} (perm : others.Perm rows) (unique : (rows.map key).Nodup) :
    find key k others = find key k rows := by
  have distinct : (others.map key).Nodup := (perm.map key).nodup_iff.mpr unique
  ext row
  rw [find_eq_some_iff unique, find_eq_some_iff distinct, perm.mem_iff]

theorem exists_find (present : k ∈ rows.map key) : ∃ row, find key k rows = some row := by
  cases found : find key k rows with
  | none => exact absurd present (find_eq_none_iff.mp found)
  | some row => exact ⟨row, rfl⟩

omit [DecidableEq κ] in
theorem key_eq_of_mem_zip {σ : Type*} {name : σ → κ} {others : List σ} {other : σ}
    (same : rows.map key = others.map name) (mem : (row, other) ∈ rows.zip others) :
    key row = name other := by
  have pairs : List.Forall₂ Eq (rows.map key) (others.map name) := by
    rw [forall₂_eq_eq_eq, same]
  rw [forall₂_map_left_iff, forall₂_map_right_iff] at pairs
  exact (forall₂_iff_zip.mp pairs).2 mem

theorem filter_flatMap {β : Type*} {give : ρ → List β} {tag : β → κ}
    (tagged : ∀ row, ∀ x ∈ give row, tag x = key row) (unique : (rows.map key).Nodup)
    (mem : row ∈ rows) : (rows.flatMap give).filter (tag · == key row) = give row := by
  induction rows with
  | nil => cases mem
  | cons first rows ih =>
    obtain ⟨fresh, unique⟩ := nodup_cons.mp unique
    rw [flatMap_cons, filter_append]
    rcases mem_cons.mp mem with rfl | later
    · rw [filter_eq_self.mpr fun x own => by simp [tagged row x own],
        filter_eq_nil_iff.mpr, append_nil]
      intro x listed same
      obtain ⟨other, within, own⟩ := mem_flatMap.mp listed
      rw [← eq_of_beq same, tagged other x own] at fresh
      exact fresh (mem_map_of_mem within)
    · rw [ih unique later, filter_eq_nil_iff.mpr, nil_append]
      intro x own same
      rw [← tagged first x own, eq_of_beq same] at fresh
      exact fresh (mem_map_of_mem later)

theorem filter_eq_singleton (unique : (rows.map key).Nodup) (mem : row ∈ rows) :
    rows.filter (key · == key row) = [row] := by
  have own := filter_flatMap (fun row x (within : x ∈ [row]) => by rw [mem_singleton.mp within])
    unique mem
  rwa [flatMap_singleton'] at own

theorem map_update_of_not_mem (absent : k ∉ rows.map key) :
    rows.map (fun row => if key row = k then f row else row) = rows := by
  refine (map_congr_left fun row mem => ?_).trans (map_id rows)
  exact if_neg fun same => absent (mem_map.mpr ⟨row, mem, same⟩)

/-- Rewriting the first row with a key is mapping when the key occurs once. -/
theorem update_eq_map (unique : (rows.map key).Nodup) :
    update key k f rows = rows.map fun row => if key row = k then f row else row := by
  induction rows with
  | nil => rfl
  | cons row rows ih =>
    rw [map_cons, nodup_cons] at unique
    rw [update, map_cons]
    split
    · next here =>
      rw [map_update_of_not_mem (here ▸ unique.1)]
    · rw [ih unique.2]

theorem countP_update (unique : (rows.map key).Nodup) (found : find key k rows = some row)
    (p : ρ → Bool) :
    (rows.map fun row => if key row = k then f row else row).countP p + (if p row then 1 else 0) =
      rows.countP p + if p (f row) then 1 else 0 := by
  induction rows with
  | nil => cases found
  | cons first rows ih =>
    rw [map_cons, nodup_cons] at unique
    rw [map_cons, countP_cons, countP_cons]
    by_cases here : key first = k
    · have same : first = row := by
        have := found
        rw [find, find?_cons_of_pos (by simpa using here)] at this
        exact Option.some.inj this
      rw [if_pos here, map_update_of_not_mem (here ▸ unique.1), same]
      omega
    · have later : find key k rows = some row := by
        have := found
        rwa [find, find?_cons_of_neg (by simpa using here)] at this
      have rest := ih unique.2 later
      rw [if_neg here]
      omega

end Rows
