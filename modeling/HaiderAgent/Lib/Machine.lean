import Mathlib.Data.List.Basic

/-!
# Partial machines

A machine is a partial step function on states. Its runs, the invariants of its runs,
also of the runs whose every step meets a condition, and the machine as the grammar of
a log whose entries belong to many keys.
-/

namespace Machine

variable {σ α κ : Type}

/-- Take the steps one after the other; `none` where one cannot be taken. -/
def run (step : σ → α → Option σ) (start : σ) (actions : List α) : Option σ :=
  actions.foldlM step start

section Runs

variable {step : σ → α → Option σ} {start last : σ} {action : α} {actions : List α}

@[simp] theorem run_nil : run step start [] = some start := rfl

@[simp] theorem run_cons :
    run step start (action :: actions) = (step start action).bind (run step · actions) := by
  rfl

theorem run_singleton : run step start [action] = step start action := by
  rw [run_cons]
  cases step start action <;> rfl

theorem run_append (first second : List α) :
    run step start (first ++ second) = (run step start first).bind (run step · second) := by
  simp only [run, List.foldlM_append]
  rfl

variable {P : σ → Prop}

/-- A property every step keeps holds at the end of every run. -/
theorem invariant (keeps : ∀ s a s', P s → step s a = some s' → P s')
    (initial : P start) (ran : run step start actions = some last) : P last := by
  induction actions generalizing start with
  | nil =>
    rw [run_nil, Option.some_inj] at ran
    rwa [← ran]
  | cons action actions ih =>
    rw [run_cons, Option.bind_eq_some_iff] at ran
    obtain ⟨middle, first, rest⟩ := ran
    exact ih (keeps start action middle initial first) rest

/-- Every step of the run meets the condition in the state it is taken from. -/
def Guarded (step : σ → α → Option σ) (allowed : σ → α → Prop) : σ → List α → Prop
  | _, [] => True
  | s, a :: rest => allowed s a ∧ ∀ s', step s a = some s' → Guarded step allowed s' rest

variable {allowed : σ → α → Prop}

/-- A property kept by every step that meets the condition holds after every such run. -/
theorem guarded_invariant (keeps : ∀ s a s', allowed s a → P s → step s a = some s' → P s')
    (guarded : Guarded step allowed start actions) (initial : P start)
    (ran : run step start actions = some last) : P last := by
  induction actions generalizing start with
  | nil =>
    rw [run_nil, Option.some_inj] at ran
    rwa [← ran]
  | cons action actions ih =>
    rw [run_cons, Option.bind_eq_some_iff] at ran
    obtain ⟨middle, first, rest⟩ := ran
    obtain ⟨here, later⟩ := guarded
    exact ih (later middle first) (keeps start action middle here initial first) rest

/-- Whether every step of the run meets a condition that can be computed. -/
def guards (step : σ → α → Option σ) (allowed : σ → α → Bool) : σ → List α → Bool
  | _, [] => true
  | s, a :: rest => allowed s a && (step s a).all (guards step allowed · rest)

theorem guarded_iff {allowed : σ → α → Bool} :
    Guarded step (fun s a => allowed s a = true) start actions ↔
      guards step allowed start actions = true := by
  induction actions generalizing start with
  | nil => simp [Guarded, guards]
  | cons action actions ih => simp [Guarded, guards, ih, Option.all_eq_true]

/-- A guarded run is guarded up to every point of it, and from there on. -/
theorem guarded_append {middle : σ} {first second : List α}
    (ran : run step start first = some middle) :
    Guarded step allowed start (first ++ second) ↔
      Guarded step allowed start first ∧ Guarded step allowed middle second := by
  induction first generalizing start with
  | nil =>
    rw [run_nil, Option.some_inj] at ran
    subst ran
    exact ⟨fun guarded => ⟨trivial, guarded⟩, And.right⟩
  | cons action first ih =>
    rw [run_cons, Option.bind_eq_some_iff] at ran
    obtain ⟨next, taken, rest⟩ := ran
    have here (P : σ → Prop) : (∀ s', step start action = some s' → P s') ↔ P next := by
      rw [taken]
      exact ⟨fun all => all next rfl, fun holds s' same => Option.some.inj same ▸ holds⟩
    have whole := here fun s' => Guarded step allowed s' (first ++ second)
    have early := here fun s' => Guarded step allowed s' first
    rw [List.cons_append, Guarded, Guarded, whole, early, ih rest, and_assoc]

end Runs

section Keyed

variable [DecidableEq κ]

/-- The entries of one key. -/
def entriesOf (key : α → κ) (log : List α) (k : κ) : List α := log.filter (key · = k)

/-- Where the machine is after the entries of a key; `none` where it refuses one. -/
def stateAt (step : σ → α → Option σ) (start : σ) (key : α → κ) (log : List α) (k : κ) :
    Option σ :=
  run step start (entriesOf key log k)

variable {step : σ → α → Option σ} {start : σ} {key : α → κ} {log : List α} {entry : α} {k : κ}

theorem entriesOf_append_same (same : key entry = k) :
    entriesOf key (log ++ [entry]) k = entriesOf key log k ++ [entry] := by
  simp [entriesOf, same]

theorem entriesOf_append_other (other : key entry ≠ k) :
    entriesOf key (log ++ [entry]) k = entriesOf key log k := by
  simp [entriesOf, other]

theorem stateAt_append_same (same : key entry = k) :
    stateAt step start key (log ++ [entry]) k =
      (stateAt step start key log k).bind (step · entry) := by
  rw [stateAt, entriesOf_append_same same, run_append]
  simp only [run_singleton, stateAt]

theorem stateAt_append_other (other : key entry ≠ k) :
    stateAt step start key (log ++ [entry]) k = stateAt step start key log k := by
  rw [stateAt, entriesOf_append_other other, stateAt]

end Keyed

end Machine
