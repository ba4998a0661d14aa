import Mathlib.Data.List.AList

/-!
# Folds that keep one entry per key

A reducer that routes each event to the entry of its key, creating the entry
from a default on first use. Reading one key out of the final map is a fold over
that key's own events, whatever the other keys did; so facts about the map are
facts about one entry at a time.
-/

namespace KeyedFold

open List

variable {K V E : Type} [DecidableEq K]

section Route

variable (key : E → Option K) (step : V → E → V) (init : V)

variable (m : AList fun _ : K => V)

/-- Route one event to the entry of its key. -/
def route (e : E) : AList fun _ : K => V :=
  match key e with
  | none => m
  | some k => m.insert k (step ((m.lookup k).getD init) e)

variable (v : Option V)

/-- What one entry becomes when its own events are folded into it. -/
def entry (es : List E) : Option V :=
  es.foldl (fun v e => some (step (v.getD init) e)) v

@[simp] theorem entry_nil : entry step init v [] = v := rfl

@[simp] theorem entry_cons (e : E) (es : List E) :
    entry step init v (e :: es) = entry step init (some (step (v.getD init) e)) es := rfl

theorem entry_append (es fs : List E) :
    entry step init v (es ++ fs) = entry step init (entry step init v es) fs := by
  simp [entry, foldl_append]

theorem entry_some (v : V) (es : List E) :
    entry step init (some v) es = some (es.foldl step v) := by
  induction es generalizing v with
  | nil => rfl
  | cons e es ih => simpa using ih (step v e)

theorem entry_none (es : List E) :
    entry step init none es = if es = [] then none else some (es.foldl step init) := by
  cases es with
  | nil => rfl
  | cons e es => simp [entry_some]

theorem lookup_route (e : E) (k : K) :
    (route key step init m e).lookup k =
      if key e = some k then some (step ((m.lookup k).getD init) e) else m.lookup k := by
  unfold route
  cases routed : key e with
  | none => simp
  | some k' =>
    by_cases same : k' = k
    · subst same
      simp
    · simp [same, AList.lookup_insert_ne (Ne.symm same)]

/-- The entry of `k` after a run is the fold of `k`'s own events into it. -/
theorem lookup_foldl_route (es : List E) (k : K) :
    (es.foldl (route key step init) m).lookup k =
      entry step init (m.lookup k) (es.filter fun e => key e = some k) := by
  induction es generalizing m with
  | nil => rfl
  | cons e es ih =>
    rw [foldl_cons, ih, lookup_route]
    by_cases routed : key e = some k
    · simp [routed]
    · simp [routed]

end Route

/-- A value that steps write or leave is, after a run, the last write or the old value. -/
theorem foldl_last_write {S T W : Type} {step : S → E → S} (read : S → T) {write : E → Option W}
    {value : W → T} (one : ∀ s e, read (step s e) = ((write e).map value).getD (read s))
    (es : List E) (s : S) :
    read (es.foldl step s) = ((es.filterMap write).getLast?.map value).getD (read s) := by
  induction es generalizing s with
  | nil => rfl
  | cons e es ih =>
    rw [foldl_cons, ih, one]
    cases written : write e with
    | none => rw [filterMap_cons_none written]; rfl
    | some last =>
      rw [filterMap_cons_some written, getLast?_cons]
      cases (es.filterMap write).getLast? <;> rfl

section LastMark

variable {T : Type}

variable (mark : E → Option T)

/-- The last mark the elements of a list leave, or the one before them. -/
def lastMark (before : T) (es : List E) : T :=
  es.foldl (fun last e => (mark e).getD last) before

theorem lastMark_append (before : T) (es more : List E) :
    lastMark mark before (es ++ more) = lastMark mark (lastMark mark before es) more :=
  foldl_append

@[simp] theorem lastMark_singleton (before : T) (e : E) :
    lastMark mark before [e] = (mark e).getD before := rfl

variable {mark : E → Option T}

theorem lastMark_of_unmarked (before : T) {es : List E}
    (unmarked : ∀ e ∈ es, mark e = none) : lastMark mark before es = before := by
  induction es with
  | nil => rfl
  | cons e es ih =>
    unfold lastMark
    rw [foldl_cons, unmarked e mem_cons_self]
    exact ih fun e' mem => unmarked e' (mem_cons_of_mem _ mem)

theorem lastMark_filterMap {F : Type} (part : F → Option E) (mark : E → Option T) (before : T)
    (fs : List F) :
    lastMark mark before (fs.filterMap part) = lastMark (fun f => (part f).bind mark) before fs := by
  unfold lastMark
  rw [foldl_filterMap]
  congr 1
  funext last f
  cases kept : part f <;> simp [kept]

theorem lastMark_filter {p : E → Bool}
    (unmarked : ∀ e, p e = false → mark e = none) (before : T) (es : List E) :
    lastMark mark before (es.filter p) = lastMark mark before es := by
  unfold lastMark
  rw [foldl_filter]
  congr 1
  funext last e
  cases kept : p e with
  | true => rfl
  | false => simp [unmarked e kept]

/-- A value that every step marks or leaves is the last mark of the run. -/
theorem foldl_lastMark {S : Type} {step : S → E → S} (read : S → T)
    (one : ∀ s e, read (step s e) = (mark e).getD (read s)) (es : List E) (s : S) :
    read (es.foldl step s) = lastMark mark (read s) es := by
  induction es generalizing s with
  | nil => rfl
  | cons e es ih =>
    rw [foldl_cons, ih, one]
    rfl

end LastMark

section Retain

/-- Keep the entries whose value passes `p` (Rust `HashMap::retain`). -/
def retain (p : V → Bool) (m : AList fun _ : K => V) : AList fun _ : K => V :=
  ⟨m.entries.filter fun e => p e.2, m.nodupKeys.sublist filter_sublist⟩

theorem lookup_retain (p : V → Bool) (m : AList fun _ : K => V) (k : K) :
    (retain p m).lookup k = (m.lookup k).filter p := by
  have mem (l : AList fun _ : K => V) (v : V) : l.lookup k = some v ↔ ⟨k, v⟩ ∈ l.entries :=
    AList.mem_lookup_iff
  ext v
  simp [mem, retain, Option.filter_eq_some_iff]

end Retain

section Part

/-- A part of a state that evolves on its own: `get` reads it, `set` replaces it. -/
structure Part (S T E : Type) (step : S → E → S) where
  get : S → T
  set : S → T → S
  move : T → E → T
  get_set : ∀ s t, get (set s t) = t
  set_get : ∀ s, set s (get s) = s
  set_set : ∀ s t u, set (set s t) u = set s u
  step_set : ∀ s t e, step (set s t) e = set (step s e) (move t e)

variable {S T : Type} {step : S → E → S} (part : Part S T E step)

theorem Part.get_step (s : S) (e : E) : part.get (step s e) = part.move (part.get s) e := by
  conv_lhs => rw [← part.set_get s, part.step_set, part.get_set]

theorem Part.get_foldl (es : List E) (s : S) :
    part.get (es.foldl step s) = es.foldl part.move (part.get s) := by
  induction es generalizing s with
  | nil => rfl
  | cons e es ih => simp only [foldl_cons, ih, part.get_step]

theorem Part.foldl_set (es : List E) (s : S) (t : T) :
    es.foldl step (part.set s t) = part.set (es.foldl step s) (es.foldl part.move t) := by
  induction es generalizing s t with
  | nil => rfl
  | cons e es ih => simp only [foldl_cons, part.step_set, ih]

theorem Part.foldl_filter (keep : E → Bool) (es : List E) (s : S)
    (dropped : ∀ e ∈ es, keep e = false → ∀ s, step s e = part.set s (part.move (part.get s) e)) :
    es.foldl step s =
      part.set ((es.filter keep).foldl step s) (es.foldl part.move (part.get s)) := by
  induction es generalizing s with
  | nil => exact (part.set_get s).symm
  | cons e es ih =>
    have later := ih (step s e) fun e' mem => dropped e' (mem_cons_of_mem _ mem)
    rw [foldl_cons, later]
    cases kept : keep e with
    | true => simp [kept, part.get_step]
    | false =>
      rw [foldl_cons, ← part.get_step, dropped e mem_cons_self kept s]
      simp [kept, part.foldl_set, part.set_set, part.get_set]

end Part

end KeyedFold
