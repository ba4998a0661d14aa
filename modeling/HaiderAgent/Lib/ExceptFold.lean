import Mathlib.Data.List.Basic

/-!
# Runs that may fail

Taking a computation in `Except` apart where it succeeded: a bind that returned,
a check that passed, a check of every element, and a fold whose every step returned.
-/

namespace ExceptFold

open List

variable {ε α β : Type} {b : β}

theorem bind_eq_ok {x : Except ε α} {f : α → Except ε β} :
    x >>= f = .ok b ↔ ∃ a, x = .ok a ∧ f a = .ok b := by
  constructor
  · intro returned
    cases x with
    | error failure => cases returned
    | ok a => exact ⟨a, rfl, returned⟩
  · rintro ⟨a, rfl, returned⟩
    exact returned

theorem ok_of_toOption {outcome : Except ε α} {value : α}
    (returned : outcome.toOption = some value) : outcome = .ok value := by
  cases outcome with
  | error failure => cases returned
  | ok found =>
    cases returned
    rfl

/-- Fails with `failure` unless the condition holds. -/
def ensure (holds : Bool) (failure : ε) : Except ε Unit :=
  if holds then .ok () else .error failure

variable {failure : ε} {holds : Bool}

theorem ensure_eq_ok :
    ensure holds failure = .ok () ↔ holds = true := by
  cases holds <;> simp [ensure]

theorem ensure_bind_eq_ok {rest : Unit → Except ε β} :
    ensure holds failure >>= rest = .ok b ↔ holds = true ∧ rest () = .ok b := by
  cases holds <;> simp [ensure, bind, Except.bind]

theorem ok_of_ensure {rest : Unit → Except ε β} (returned : ensure holds failure >>= rest = .ok b) :
    rest () = .ok b :=
  (ensure_bind_eq_ok.mp returned).2

variable {xs : List α}

theorem forM_eq_ok {check : α → Except ε PUnit} :
    forM xs check = .ok () ↔ ∀ x ∈ xs, check x = .ok () := by
  induction xs with
  | nil => simp [pure, Except.pure]
  | cons x xs ih =>
    rw [forM_cons, forall_mem_cons, ← ih, bind_eq_ok]
    constructor
    · rintro ⟨_, first, rest⟩
      exact ⟨first, rest⟩
    · rintro ⟨first, rest⟩
      exact ⟨(), first, rest⟩

theorem mapM_eq_ok_map {f : α → Except ε β} {g : α → β}
    (each : ∀ x ∈ xs, f x = .ok (g x)) : xs.mapM f = .ok (xs.map g) := by
  induction xs with
  | nil => rfl
  | cons x xs ih =>
    rw [mapM_cons, each x mem_cons_self,
      ih fun y mem => each y (mem_cons_of_mem _ mem)]
    rfl

/-- Inserts the keys of a list one by one; a failed check or a known key fails. -/
def insertEach {κ : Type} [DecidableEq κ] (key : α → κ) (accept : α → Except ε Unit)
    (repeated : α → ε) : List κ → List α → Except ε Unit
  | _, [] => .ok ()
  | seen, x :: xs => do
    accept x
    ensure (!seen.contains (key x)) (repeated x)
    insertEach key accept repeated (seen ++ [key x]) xs

theorem insertEach_eq_ok {κ : Type} [DecidableEq κ] {key : α → κ} {accept : α → Except ε Unit}
    {repeated : α → ε} {seen : List κ} : insertEach key accept repeated seen xs = .ok () ↔
      (∀ x ∈ xs, accept x = .ok ()) ∧ (xs.map key).Nodup ∧ ∀ x ∈ xs, key x ∉ seen := by
  induction xs generalizing seen with
  | nil => simp [insertEach]
  | cons x xs ih =>
    have apart : (∀ y ∈ xs, key y ∉ seen ++ [key x]) ↔
        key x ∉ xs.map key ∧ ∀ y ∈ xs, key y ∉ seen := by
      simp only [mem_append, mem_singleton, mem_map]
      grind
    rw [insertEach, bind_eq_ok, forall_mem_cons, map_cons, nodup_cons,
      forall_mem_cons]
    simp only [ensure_bind_eq_ok, ih, apart, Bool.not_eq_true', contains_eq_mem,
      decide_eq_false_iff_not]
    tauto

variable {f : β → α → Except ε β} {s t : β}

theorem foldlM_rel (rel : β → β → Prop) (refl : ∀ s, rel s s)
    (trans : ∀ s t u, rel s t → rel t u → rel s u) (step : ∀ x ∈ xs, ∀ s t, f s x = .ok t → rel s t)
    (completed : xs.foldlM f s = .ok t) : rel s t := by
  induction xs generalizing s with
  | nil =>
    cases completed
    exact refl _
  | cons x xs ih =>
    obtain ⟨next, first, rest⟩ := bind_eq_ok.mp completed
    have later := ih (fun x' mem => step x' (mem_cons_of_mem _ mem)) rest
    exact trans _ _ _ (step x mem_cons_self _ next first) later

/-- A fold runs to its end when every step that finds the invariant succeeds and keeps it. -/
theorem foldlM_prefix {P : List α → β → Prop} (start : P [] s)
    (step : ∀ done x rest t, xs = done ++ x :: rest → P done t →
      ∃ u, f t x = .ok u ∧ P (done ++ [x]) u) : ∃ t, xs.foldlM f s = .ok t ∧ P xs t := by
  suffices ∀ rest done t, xs = done ++ rest → P done t →
      ∃ u, rest.foldlM f t = .ok u ∧ P xs u from this xs [] s rfl start
  intro rest
  induction rest with
  | nil =>
    intro done t whole kept
    rw [append_nil] at whole
    exact ⟨t, rfl, whole ▸ kept⟩
  | cons x rest ih =>
    intro done t whole kept
    obtain ⟨u, stepped, next⟩ := step done x rest t whole kept
    obtain ⟨last, ran, final⟩ := ih (done ++ [x]) u (by simp [whole]) next
    exact ⟨last, by rw [foldlM_cons, stepped]; exact ran, final⟩

theorem foldlM_at {before after : List α} {x : α}
    (completed : (before ++ x :: after).foldlM f s = .ok t) :
    ∃ u v, before.foldlM f s = .ok u ∧ f u x = .ok v ∧ after.foldlM f v = .ok t := by
  rw [foldlM_append] at completed
  obtain ⟨u, early, rest⟩ := bind_eq_ok.mp completed
  obtain ⟨v, here, late⟩ := bind_eq_ok.mp rest
  exact ⟨u, v, early, here, late⟩

theorem foldlM_error (failed : xs.foldlM f s = .error failure) :
    ∃ before x after t, xs = before ++ x :: after ∧ before.foldlM f s = .ok t ∧
      f t x = .error failure := by
  induction xs generalizing s with
  | nil => cases failed
  | cons x xs ih =>
    rw [foldlM_cons] at failed
    cases first : f s x with
    | error stopped =>
      rw [first] at failed
      cases failed
      exact ⟨[], x, xs, s, rfl, rfl, first⟩
    | ok next =>
      rw [first] at failed
      obtain ⟨before, y, after, t, rfl, read, refused⟩ := ih failed
      refine ⟨x :: before, y, after, t, rfl, ?_, refused⟩
      rw [foldlM_cons, first]
      exact read

/-- What a fold builds means what its steps do one after the other. -/
theorem foldlM_meaning {P S : Type} {build : P → α → Except ε P} {step : S → α → Option S}
    {meaning : P → S → Option S} {G : P → Prop} (keeps : ∀ p x q, G p → build p x = .ok q → G q)
    (adds : ∀ p x s, G p → (build p x).toOption.bind (meaning · s) = (meaning p s).bind (step · x))
    (xs : List α) {p : P} (good : G p) (s : S) :
    (xs.foldlM build p).toOption.bind (meaning · s) =
      (meaning p s).bind fun s => xs.foldlM step s := by
  induction xs generalizing p s with
  | nil =>
    cases meant : meaning p s <;> simp [pure, Except.pure, Except.toOption, meant]
  | cons x xs ih =>
    have first := adds p x s good
    rw [foldlM_cons]
    cases built : build p x with
    | error failure =>
      rw [built] at first
      have nothing : (meaning p s).bind (step · x) = none := first.symm
      cases meant : meaning p s with
      | none => rfl
      | some t =>
        rw [meant] at nothing
        simp only [Option.bind_some] at nothing ⊢
        simp [bind, Except.bind, Except.toOption, nothing]
    | ok q =>
      rw [built] at first
      have whole := ih (keeps p x q good built) s
      simp only [Except.toOption, Option.bind_some] at first
      rw [first] at whole
      show (xs.foldlM build q).toOption.bind (meaning · s) = _
      rw [whole]
      cases meaning p s <;> rfl

/-- Two computations that fail alike or end in related states. -/
def Related (S : β → β → Prop) : Except ε β → Except ε β → Prop
  | .ok s, .ok t => S s t
  | .error failure, .error other => failure = other
  | _, _ => False

variable {S : β → β → Prop} {first second : Except ε β}

theorem Related.bind {γ : Type} {T : γ → γ → Prop}
    {f g : β → Except ε γ} (related : Related S first second)
    (next : ∀ s t, S s t → Related T (f s) (g t)) : Related T (first >>= f) (second >>= g) := by
  cases first with
  | error failure =>
    cases second with
    | error other => exact related
    | ok t => exact related.elim
  | ok s =>
    cases second with
    | error other => exact related.elim
    | ok t => exact next s t related

theorem Related.map_eq {γ : Type} {f g : β → γ}
    (related : Related S first second) (same : ∀ s t, S s t → f s = g t) :
    first.map f = second.map g := by
  cases first with
  | error failure =>
    cases second with
    | error other => exact congrArg Except.error related
    | ok t => exact related.elim
  | ok s =>
    cases second with
    | error other => exact related.elim
    | ok t => exact congrArg Except.ok (same s t related)

theorem foldlM_related {R : α → α → Prop}
    (step : ∀ x y s t, R x y → S s t → Related S (f s x) (f t y)) {ys : List α}
    (corresponding : List.Forall₂ R xs ys) (related : S s t) :
    Related S (xs.foldlM f s) (ys.foldlM f t) := by
  induction corresponding generalizing s t with
  | nil => exact related
  | @cons x y xs ys here _ ih =>
    exact (step x y s t here related).bind fun _ _ next => ih next

end ExceptFold
