import Mathlib.Data.List.Forall2
import HaiderAgent.Lib.KeyedFold

/-!
# Keyed folds that forget finished entries

A reducer that runs over its events in batches and drops, between batches, the entries that look
finished; a dropped key starts from the default at its next event. Whatever the batches, the entry
of a key is the fold over a suffix of the events, one that starts at the beginning or right after a
point where the fold of an earlier such suffix looked finished.
-/

namespace KeyedFold

open List

variable {K V E : Type} [DecidableEq K]
variable (key : E → Option K) (step : V → E → V) (init : V) (keep : V → Bool)

/-- The entry of a key after folding the events into an empty map. -/
def final (k : K) (es : List E) : Option V :=
  entry step init none (es.filter fun e => key e = some k)

theorem lookup_foldl_empty (es : List E) (k : K) :
    (es.foldl (route key step init) ∅).lookup k = final key step init k es := by
  rw [lookup_foldl_route, AList.lookup_empty]
  rfl

variable {m : AList fun _ : K => V} {k : K} {rest : List E}

theorem lookup_foldl_of_final (known : m.lookup k = final key step init k rest) (more : List E) :
    (more.foldl (route key step init) m).lookup k = final key step init k (rest ++ more) := by
  rw [lookup_foldl_route, known]
  unfold final
  rw [filter_append, entry_append]

/-- The suffixes of the events that the entry of a key may be folded from. -/
inductive Remembered (k : K) (es : List E) : List E → Prop
  | all : Remembered k es es
  | forgotten {before after : List E} {v : V} : Remembered k es (before ++ after) →
      final key step init k before = some v → keep v = false → Remembered k es after

variable {key step init keep} {es : List E}

theorem Remembered.append (remembered : Remembered key step init keep k es rest) (more : List E) :
    Remembered key step init keep k (es ++ more) (rest ++ more) := by
  induction remembered with
  | all => exact .all
  | forgotten earlier finished dropped ih =>
    rw [append_assoc] at ih
    exact .forgotten ih finished dropped

theorem Remembered.suffix (remembered : Remembered key step init keep k es rest) : rest <:+ es := by
  induction remembered with
  | all => exact suffix_rfl
  | forgotten _ _ _ ih => exact (suffix_append _ _).trans ih

theorem Remembered.eq_or_forgotten (remembered : Remembered key step init keep k es rest) :
    rest = es ∨ ∃ before after v, es = before ++ after ∧
      final key step init k before = some v ∧ keep v = false := by
  induction remembered with
  | all => exact .inl rfl
  | @forgotten before after v _ finished dropped ih =>
    rcases ih with whole | earlier
    · exact .inr ⟨before, after, v, whole.symm, finished, dropped⟩
    · exact .inr earlier

theorem Remembered.of_append {new : List E} (foreign : ∀ e ∈ new, key e ≠ some k)
    (remembered : Remembered key step init keep k (es ++ new) rest) :
    ∃ own, Remembered key step init keep k es own ∧
      (own.filter fun e => key e = some k) = rest.filter fun e => key e = some k := by
  induction remembered with
  | all =>
    have none : (new.filter fun e => key e = some k) = [] :=
      filter_eq_nil_iff.mpr fun e mem => by simpa using foreign e mem
    exact ⟨es, .all, by rw [filter_append, none, append_nil]⟩
  | @forgotten before after v _ finished dropped ih =>
    obtain ⟨own, known, same⟩ := ih
    rw [filter_append] at same
    obtain ⟨first, last, rfl, firsts, lasts⟩ := filter_eq_append_iff.mp same
    refine ⟨last, .forgotten known ?_ dropped, lasts⟩
    rw [← finished]
    unfold final
    rw [firsts]

theorem Remembered.suffix_filter (remembered : Remembered key step init keep k es rest) :
    (rest.filter fun e => key e = some k) <:+ es.filter fun e => key e = some k :=
  remembered.suffix.filter _

/-- What a key may remember can be remembered: some batches drop everything before it. -/
theorem Remembered.exists_batches (remembered : Remembered key step init keep k es rest) :
    ∃ batches : List (List E), (∀ batch ∈ batches, batch ≠ []) ∧ es = batches.flatten ++ rest ∧
      (batches.foldl (fun m batch => retain keep (batch.foldl (route key step init) m)) ∅).lookup k =
        none := by
  induction remembered with
  | all => exact ⟨[], by simp, rfl, AList.lookup_empty k⟩
  | @forgotten before after v _ finished dropped ih =>
    obtain ⟨batches, full, split, unknown⟩ := ih
    have nonempty : before ≠ [] := by
      rintro rfl
      cases finished
    refine ⟨batches ++ [before], ?_, by simp [split], ?_⟩
    · intro batch mem
      rcases mem_append.mp mem with earlier | last
      · exact full batch earlier
      · rw [mem_singleton.mp last]
        exact nonempty
    · rw [foldl_append, foldl_cons, foldl_nil, lookup_retain,
        lookup_foldl_of_final _ _ _ (unknown.trans rfl : _ = final key step init k []),
        nil_append, finished]
      simp [dropped]

section Related

variable {R : E → E → Prop} {S : V → V → Prop} (keys : ∀ a b, R a b → key a = key b)
  (start : S init init) (steps : ∀ v w a b, S v w → R a b → S (step v a) (step w b))

include keys start steps

theorem final_related (k : K) {es fs : List E} (rows : List.Forall₂ R es fs) :
    Option.Rel S (final key step init k es) (final key step init k fs) := by
  have own : List.Forall₂ R (es.filter fun e => key e = some k) (fs.filter fun e => key e = some k) :=
    rel_filter (fun a b same => by simp [keys a b same]) rows
  have stepped : ∀ v w, Option.Rel S v w → ∀ a b, R a b →
      Option.Rel S (some (step (v.getD init) a)) (some (step (w.getD init) b)) := by
    intro v w same a b row
    refine .some (steps _ _ _ _ ?_ row)
    cases same with
    | some related => exact related
    | none => exact start
  exact rel_foldl (fun v w same a b row => stepped v w same a b row) Option.Rel.none own

/-- Corresponding logs are remembered from corresponding places on. -/
theorem Remembered.related (keeps : ∀ v w, S v w → keep v = keep w) {k : K} {es fs rest : List E}
    (rows : List.Forall₂ R es fs) (remembered : Remembered key step init keep k es rest) :
    ∃ own, Remembered key step init keep k fs own ∧ List.Forall₂ R rest own := by
  induction remembered with
  | all => exact ⟨fs, .all, rows⟩
  | @forgotten before after v _ finished dropped ih =>
    obtain ⟨own, known, same⟩ := ih
    have first : List.Forall₂ R before (own.take before.length) := by
      simpa using forall₂_take before.length same
    have last : List.Forall₂ R after (own.drop before.length) := by
      simpa using forall₂_drop before.length same
    have entries := final_related keys start steps k first
    rw [finished] at entries
    cases reached : final key step init k (own.take before.length) with
    | none =>
      rw [reached] at entries
      cases entries
    | some w =>
      rw [reached] at entries
      cases entries with
      | some related =>
        refine ⟨own.drop before.length, .forgotten ?_ reached ?_, last⟩
        · rw [take_append_drop]
          exact known
        · rw [← keeps v w related, dropped]

end Related

variable (key step init keep)

/-- Every entry of the map is folded from a suffix its key may remember. -/
def Tracks (m : AList fun _ : K => V) (es : List E) : Prop :=
  ∀ k, ∃ rest, Remembered key step init keep k es rest ∧ m.lookup k = final key step init k rest

variable {key step init keep}

theorem tracks_empty : Tracks key step init keep ∅ [] := by
  intro k
  exact ⟨[], .all, AList.lookup_empty k⟩

theorem Tracks.foldl (tracks : Tracks key step init keep m es) (more : List E) :
    Tracks key step init keep (more.foldl (route key step init) m) (es ++ more) := by
  intro k
  obtain ⟨rest, remembered, known⟩ := tracks k
  exact ⟨rest ++ more, remembered.append more, lookup_foldl_of_final _ _ _ known more⟩

theorem Tracks.retain (tracks : Tracks key step init keep m es) :
    Tracks key step init keep (retain keep m) es := by
  intro k
  obtain ⟨rest, remembered, known⟩ := tracks k
  have looked := lookup_retain keep m k
  cases entry : final key step init k rest with
  | none =>
    rw [known, entry] at looked
    exact ⟨rest, remembered, by rw [looked, entry]; rfl⟩
  | some v =>
    rw [known, entry] at looked
    cases kept : keep v with
    | true => exact ⟨rest, remembered, by rw [looked, entry]; simp [kept]⟩
    | false =>
      have whole : Remembered key step init keep k es (rest ++ []) := by
        rw [append_nil]
        exact remembered
      refine ⟨[], .forgotten whole entry kept, ?_⟩
      rw [looked]
      simp [kept, final]

end KeyedFold
