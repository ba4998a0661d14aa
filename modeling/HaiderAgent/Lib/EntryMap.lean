import Mathlib.Data.List.AList

/-!
# Updating the values of a finite map in place

Updates that leave the keys of a finite map alone: a function of key and value
mapped over every entry, and the update of one entry. Both compose, commute with
insertion, and are read off one key at a time.
-/

namespace EntryMap

open List

variable {K V : Type}

variable (f : K → V → V) (m : AList fun _ : K => V)

/-- Every value changed in place. -/
def mapEntries : AList fun _ : K => V where
  entries := m.entries.map fun e => ⟨e.1, f e.1 e.2⟩
  nodupKeys := by
    have keys : (m.entries.map fun e => (⟨e.1, f e.1 e.2⟩ : Sigma fun _ : K => V)).keys =
        m.entries.keys := by
      rw [keys, map_map]
      rfl
    rw [List.NodupKeys, keys]
    exact m.nodupKeys

theorem mapEntries_mapEntries (f g : K → V → V) (m : AList fun _ : K => V) :
    mapEntries f (mapEntries g m) = mapEntries (fun k v => f k (g k v)) m := by
  refine AList.ext ?_
  simp only [mapEntries, map_map]
  rfl

@[simp] theorem mapEntries_id : mapEntries (fun _ v => v) m = m := by
  refine AList.ext ?_
  simp [mapEntries]

theorem any_mapEntries (p : V → Bool) :
    (mapEntries f m).entries.any (fun e => p e.2) = m.entries.any fun e => p (f e.1 e.2) := by
  simp only [mapEntries, any_map]
  rfl

variable [DecidableEq K]

@[simp] theorem lookup_mapEntries (k : K) : (mapEntries f m).lookup k = (m.lookup k).map (f k) := by
  obtain ⟨entries, nodup⟩ := m
  simp only [mapEntries, AList.lookup]
  clear nodup
  induction entries with
  | nil => rfl
  | cons e rest ih =>
    obtain ⟨k', v⟩ := e
    rw [map_cons]
    by_cases same : k = k'
    · subst same
      rw [dlookup_cons_eq, dlookup_cons_eq]
      rfl
    · rw [dlookup_cons_ne _ _ same, dlookup_cons_ne _ _ same]
      exact ih

theorem mem_entries_iff {m : AList fun _ : K => V} {e : Sigma fun _ : K => V} :
    e ∈ m.entries ↔ m.lookup e.1 = some e.2 := by
  obtain ⟨k, v⟩ := e
  exact AList.mem_lookup_iff.symm

theorem forall_lookup_insert {m : AList fun _ : K => V} {P : K → V → Prop} {k : K} {v : V}
    (here : P k v) (others : ∀ k' w, m.lookup k' = some w → P k' w) :
    ∀ k' w, (m.insert k v).lookup k' = some w → P k' w := by
  intro k' w found
  by_cases same : k' = k
  · rw [same, AList.lookup_insert, Option.some_inj] at found
    rwa [same, ← found]
  · rw [AList.lookup_insert_ne same] at found
    exact others k' w found

theorem mapEntries_congr {f g : K → V → V} {m : AList fun _ : K => V}
    (same : ∀ k v, m.lookup k = some v → f k v = g k v) : mapEntries f m = mapEntries g m := by
  refine AList.ext ?_
  refine map_congr_left fun e mem => ?_
  rw [same e.1 e.2 (mem_entries_iff.mp mem)]

theorem map_eq_map_of_map_eq {α β γ : Type} {f g : α → β} {f' g' : α → γ} {xs ys : List α}
    (same : xs.map f = ys.map g)
    (agree : ∀ x ∈ xs, ∀ y ∈ ys, f x = g y → f' x = g' y) : xs.map f' = ys.map g' := by
  induction xs generalizing ys with
  | nil =>
    cases ys with
    | nil => rfl
    | cons y ys => cases same
  | cons x xs ih =>
    cases ys with
    | nil => cases same
    | cons y ys =>
      simp only [map_cons, cons.injEq] at same
      rw [map_cons, map_cons, agree x mem_cons_self y mem_cons_self same.1]
      rw [ih same.2 fun x mem y member' =>
        agree x (mem_cons_of_mem _ mem) y (mem_cons_of_mem _ member')]

theorem mapEntries_eq_mapEntries {f g f' g' : K → V → V} {m n : AList fun _ : K => V}
    (same : mapEntries f m = mapEntries g n)
    (agree : ∀ k v w, m.lookup k = some v → n.lookup k = some w → f k v = g k w → f' k v = g' k w) :
    mapEntries f' m = mapEntries g' n := by
  refine AList.ext (map_eq_map_of_map_eq (congrArg AList.entries same) ?_)
  rintro ⟨k, v⟩ mem ⟨k', w⟩ member' equal
  simp only [Sigma.mk.injEq] at equal ⊢
  obtain ⟨rfl, value⟩ := equal
  refine ⟨rfl, heq_of_eq ?_⟩
  exact agree k v w (mem_entries_iff.mp mem) (mem_entries_iff.mp member') (eq_of_heq value)

theorem mapEntries_insert (k : K) (v : V) :
    mapEntries f (m.insert k v) = (mapEntries f m).insert k (f k v) := by
  have erased (entries : List (Sigma fun _ : K => V)) :
      (kerase k entries).map (fun e => (⟨e.1, f e.1 e.2⟩ : Sigma fun _ : K => V)) =
        kerase k (entries.map fun e => ⟨e.1, f e.1 e.2⟩) := by
    induction entries with
    | nil => rfl
    | cons e rest ih =>
      obtain ⟨k', w⟩ := e
      by_cases same : k = k'
      · simp [kerase, same]
      · simp only [kerase] at ih
        simp [kerase, same, ih]
  refine AList.ext ?_
  simp only [mapEntries, AList.entries_insert, map_cons, erased]

/-- Update the value under one key, if there is one (`get_mut`). -/
def modify (k : K) (f : V → V) (m : AList fun _ : K => V) : AList fun _ : K => V :=
  mapEntries (fun k' v => if k' = k then f v else v) m

theorem lookup_modify (k k' : K) (f : V → V) (m : AList fun _ : K => V) :
    (modify k f m).lookup k' = (m.lookup k').map fun v => if k' = k then f v else v :=
  lookup_mapEntries _ m k'

section Keys

variable (p : K → Bool)

/-- The entries with a key that satisfies `p`. -/
def filterKeys (m : AList fun _ : K => V) : AList fun _ : K => V :=
  ⟨m.entries.filter fun e => p e.1, m.nodupKeys.sublist filter_sublist⟩

theorem lookup_filterKeys (m : AList fun _ : K => V) (k : K) :
    (filterKeys p m).lookup k = if p k then m.lookup k else none := by
  ext v
  have mem (l : AList fun _ : K => V) : l.lookup k = some v ↔ ⟨k, v⟩ ∈ l.entries :=
    AList.mem_lookup_iff
  by_cases kept : p k <;> simp [filterKeys, kept, mem]

omit [DecidableEq K] in
theorem filterKeys_mapEntries (f : K → V → V) (m : AList fun _ : K => V) :
    filterKeys p (mapEntries f m) = mapEntries f (filterKeys p m) := by
  refine AList.ext ?_
  simp only [filterKeys, mapEntries, filter_map]
  rfl

variable {k : K} {m : AList fun _ : K => V}

theorem filterKeys_insert_absent (absent : m.lookup k = none) (v : V) :
    filterKeys p (m.insert k v) =
      if p k then (filterKeys p m).insert k v else filterKeys p m := by
  have gone : (filterKeys p m).lookup k = none := by simp [lookup_filterKeys, absent]
  have added := AList.entries_insert_of_notMem (b := v) (AList.lookup_eq_none.mp absent)
  refine AList.ext ?_
  by_cases kept : p k
  · rw [if_pos kept, AList.entries_insert_of_notMem (AList.lookup_eq_none.mp gone)]
    simp only [filterKeys, added, filter_cons, kept, if_true]
  · rw [if_neg kept]
    simp only [filterKeys, added, filter_cons, kept, Bool.false_eq_true, if_false]

/-- The values, in entry order. -/
def values (m : AList fun _ : K => V) : List V := m.entries.map (·.2)

theorem values_insert_absent (absent : m.lookup k = none) (v : V) :
    values (m.insert k v) = v :: values m := by
  simp only [values, AList.entries_insert_of_notMem (AList.lookup_eq_none.mp absent),
    map_cons]

omit [DecidableEq K] in
theorem values_mapEntries (f : V → V) (m : AList fun _ : K => V) :
    values (mapEntries (fun _ v => f v) m) = (values m).map f := by
  simp only [values, mapEntries, map_map]
  rfl

end Keys

section Counting

/-- Maps that read alike have the same entries, up to their order. -/
theorem perm_of_lookup_eq {m n : AList fun _ : K => V} (same : ∀ k, m.lookup k = n.lookup k) :
    m.entries.Perm n.entries := by
  refine lookup_ext m.nodupKeys n.nodupKeys fun k v => ?_
  exact iff_of_eq (congrArg (v ∈ ·) (same k))

theorem countP_insert (p : V → Bool) (m : AList fun _ : K => V) (k : K) (v : V) :
    (m.insert k v).entries.countP (p ·.2) = (m.erase k).entries.countP (p ·.2) + (p v).toNat := by
  rw [AList.entries_insert, countP_cons]
  cases p v <;> rfl

theorem countP_eq_erase (p : V → Bool) (m : AList fun _ : K => V) (k : K) :
    m.entries.countP (p ·.2) =
      (m.erase k).entries.countP (p ·.2) + ((m.lookup k).any p).toNat := by
  cases read : m.lookup k with
  | none =>
    have kept : (m.erase k).entries = m.entries :=
      kerase_of_notMem_keys (AList.lookup_eq_none.mp read)
    rw [kept]
    rfl
  | some w =>
    rw [Option.any_some, ← countP_insert]
    refine (perm_of_lookup_eq fun k' => ?_).countP_eq _
    by_cases same : k' = k
    · rw [same, read, AList.lookup_insert]
    · rw [AList.lookup_insert_ne same]

end Counting

end EntryMap
