import HaiderAgent.Daemon.TurnRecovery.Startup

/-!
# Who owns an effect and a menu

Effect and menu identifiers are handed out by one run and used in that run's envelopes only, so the
envelopes a startup appends for other runs touch neither its state nor its effects nor their cards.
-/

namespace HaiderAgent.TurnRecovery

open List

open HaiderAgent.EffectRecovery

/-- Which run an effect or a menu belongs to, and which effect a recovery card is about. -/
structure Ownership (names : RecoveryNames) where
  effectOwner : EffectId → Option RunId
  menuOwner : MenuId → Option RunId
  cardEffect : MenuId → Option EffectId
  card_owner : ∀ {id effect}, cardEffect id = some effect → menuOwner id = effectOwner effect
  recoveryCard : ∀ sessionId effect,
    cardEffect (names.recoveryMenuId sessionId effect) = some effect
  admissionEffect : ∀ (runId : RunId) (attempt : Nat),
    effectOwner ("provider-admission-" ++ runId ++ "-" ++ toString attempt) = some runId
  admissionCard : ∀ (runId : RunId) (attempt : Nat),
    cardEffect ("provider-admission-recovery-" ++ runId ++ "-" ++ toString attempt) =
      some ("provider-admission-" ++ runId ++ "-" ++ toString attempt)

variable {names : RecoveryNames} (ownership : Ownership names)

/-- A payload on a run's envelope uses the run's own identifiers. -/
def OwnedPayload (runId : Option RunId) : EventPayload → Prop
  | .effect (.dispatched effect) | .effect (.outcome effect _) =>
    runId = ownership.effectOwner effect
  | .menuOpened menu =>
    runId = ownership.menuOwner menu.id ∧
      ∀ effect presentation actions, menu.kind = .recovery effect presentation actions →
        ownership.cardEffect menu.id = some effect
  | .menuAnswered answer => runId = ownership.menuOwner answer.menu
  | .menuClosed menu _ => runId = ownership.menuOwner menu
  | _ => True

/-- An envelope keeps to the identifiers of its run. -/
def Owned (e : RawEnvelope) : Prop :=
  ∀ payload, e.payload = .event payload → OwnedPayload ownership e.runId payload

variable (runId : RunId) (journal : Journal)

/-- A journal keeps to the identifiers of its runs. -/
abbrev AllOwned : Prop := ∀ e ∈ journal.envelopes, Owned ownership e

variable {ownership}

theorem AllOwned.append {journal : Journal} (owned : AllOwned ownership journal)
    {batch : List RawEnvelope} (batchOwned : ∀ e ∈ batch, Owned ownership e) :
    AllOwned ownership (journal.append batch) := by
  refine forall_mem_append.mpr ⟨owned, fun e new => ?_⟩
  obtain ⟨source, found, seq, rfl⟩ := Journal.mem_stamp new
  exact batchOwned source found

variable {e : RawEnvelope} {effect : EffectId}

theorem Owned.dispatch (owned : Owned ownership e)
    {dispatch : RecoveryDispatch} (found : dispatchOf effect e = some dispatch) :
    e.runId = ownership.effectOwner effect ∧ dispatch.runId = e.runId := by
  unfold dispatchOf at found
  split at found
  · rename_i payload
    cases found
    exact ⟨owned _ payload, rfl⟩
  · cases found

theorem Owned.outcome (owned : Owned ownership e)
    {outcome : EffectOutcome} (found : outcomeOf effect e = some outcome) :
    e.runId = ownership.effectOwner effect := by
  unfold outcomeOf at found
  split at found
  · rename_i other result payload
    split at found
    · rename_i same
      subst same
      exact owned _ payload
    · cases found
  · cases found

variable {id : MenuId}

theorem Owned.card (owned : Owned ownership e)
    {card : Option EffectId} (found : cardOf id e = some card) :
    e.runId = ownership.menuOwner id ∧
      ∀ effect, card = some effect → ownership.cardEffect id = some effect := by
  unfold cardOf at found
  split at found
  · rename_i menu payload
    have own := owned _ payload
    split at found
    · rename_i effect presentation actions kind
      split at found
      · rename_i same
        subst same
        cases found
        refine ⟨own.1, fun other about => ?_⟩
        cases about
        exact own.2 effect presentation actions kind
      · cases found
    · cases found
  rotate_right
  · cases found
  all_goals
    rename_i payload
    split at found
    · rename_i same
      subst same
      cases found
      exact ⟨owned _ payload, nofun⟩
    · cases found

variable {envelopes : List RawEnvelope}

theorem owner_of_lastDispatch (owned : ∀ e ∈ envelopes, Owned ownership e)
    {dispatch : RecoveryDispatch} (last : lastDispatch effect envelopes = some dispatch) :
    dispatch.runId = ownership.effectOwner effect := by
  obtain ⟨e, mem, found⟩ := mem_filterMap.mp (mem_of_getLast? last)
  obtain ⟨owner, same⟩ := (owned e mem).dispatch found
  rw [same, owner]

theorem owner_of_openCard (owned : ∀ e ∈ envelopes, Owned ownership e)
    (opened : openCard id envelopes = some effect) : ownership.cardEffect id = some effect := by
  unfold openCard at opened
  cases last : (envelopes.filterMap (cardOf id)).getLast? with
  | none =>
    rw [last] at opened
    cases opened
  | some card =>
    rw [last] at opened
    obtain ⟨e, mem, found⟩ := mem_filterMap.mp (mem_of_getLast? last)
    exact ((owned e mem).card found).2 effect opened

variable (ownership)

/-- One journal grew into another without an envelope of the run, by owned envelopes. -/
def Untouched (before after : Journal) : Prop :=
  ∃ new, after.envelopes = before.envelopes ++ new ∧ (∀ e ∈ new, Owned ownership e) ∧
    ∀ e ∈ new, e.runId ≠ some runId

/-- Every effect of the run is explained: it has a known outcome or an open recovery card. -/
def Explained (envelopes : List RawEnvelope) : Prop :=
  ∀ effect dispatch, lastDispatch effect envelopes = some dispatch →
    dispatch.runId = some runId → ¬ Unexplained envelopes effect

variable {ownership}

theorem Untouched.refl : Untouched ownership runId journal journal :=
  ⟨[], by simp, by simp, by simp⟩

variable {runId : RunId}

theorem Untouched.trans {first second third : Journal}
    (early : Untouched ownership runId first second)
    (late : Untouched ownership runId second third) : Untouched ownership runId first third := by
  obtain ⟨new, split, owned, foreign⟩ := early
  obtain ⟨more, split', owned', foreign'⟩ := late
  refine ⟨new ++ more, by rw [split', split, append_assoc], ?_, ?_⟩
  · exact forall_mem_append.mpr ⟨owned, owned'⟩
  · exact forall_mem_append.mpr ⟨foreign, foreign'⟩

theorem Untouched.append {batch : List RawEnvelope} (owned : ∀ e ∈ batch, Owned ownership e)
    (foreign : ∀ e ∈ batch, e.runId ≠ some runId) :
    Untouched ownership runId journal (journal.append batch) := by
  refine ⟨_, rfl, ?_, ?_⟩
  · intro e mem
    obtain ⟨source, found, seq, rfl⟩ := Journal.mem_stamp mem
    exact owned source found
  · intro e mem
    obtain ⟨source, found, seq, rfl⟩ := Journal.mem_stamp mem
    exact foreign source found

namespace Untouched

variable {before after : Journal} (untouched : Untouched ownership runId before after)
include untouched

theorem grown : before.envelopes <+: after.envelopes := by
  obtain ⟨new, split, -⟩ := untouched
  exact ⟨new, split.symm⟩

theorem filter_eq : (after.envelopes.filter fun e => e.runId = some runId) =
    before.envelopes.filter fun e => e.runId = some runId := by
  obtain ⟨new, split, -, foreign⟩ := untouched
  have none : (new.filter fun e => e.runId = some runId) = [] :=
    filter_eq_nil_iff.mpr fun e mem => by simpa using foreign e mem
  rw [split, filter_append, none, append_nil]

theorem latestRunState_eq :
    latestRunState runId after.envelopes = latestRunState runId before.envelopes := by
  unfold latestRunState
  rw [untouched.filter_eq]

theorem filterMap_eq {α : Type} {read : RawEnvelope → Option α}
    (own : ∀ e value, Owned ownership e → read e = some value → e.runId = some runId) :
    after.envelopes.filterMap read = before.envelopes.filterMap read := by
  obtain ⟨new, split, owned, foreign⟩ := untouched
  have none : new.filterMap read = [] := by
    refine filterMap_eq_nil_iff.mpr fun e mem => ?_
    cases found : read e with
    | none => rfl
    | some value => exact absurd (own e value (owned e mem) found) (foreign e mem)
  rw [split, filterMap_append, none, append_nil]

theorem openCard_eq (own : ownership.menuOwner id = some runId) :
    openCard id after.envelopes = openCard id before.envelopes := by
  unfold openCard
  rw [untouched.filterMap_eq fun _ _ owned found => (owned.card found).1.trans own]

variable (earlier : AllOwned ownership before)
include earlier

theorem owned : AllOwned ownership after := by
  obtain ⟨new, split, owned', -⟩ := untouched
  rw [AllOwned, split]
  exact forall_mem_append.mpr ⟨earlier, owned'⟩

theorem explained (explained : Explained runId before.envelopes) :
    Explained runId after.envelopes := by
  intro effect dispatch dispatched own
  have owner : ownership.effectOwner effect = some runId :=
    (owner_of_lastDispatch (untouched.owned earlier) dispatched).symm.trans own
  have sameDispatch : lastDispatch effect after.envelopes = lastDispatch effect before.envelopes :=
    congrArg getLast? (untouched.filterMap_eq fun _ _ owned found =>
      (owned.dispatch found).1.trans owner)
  have sameOutcome : lastOutcome effect after.envelopes = lastOutcome effect before.envelopes :=
    congrArg getLast? (untouched.filterMap_eq fun _ _ owned found =>
      (owned.outcome found).trans owner)
  rintro (unknown | ⟨unknown, hidden⟩)
  · exact explained effect dispatch (sameDispatch ▸ dispatched) own (.inl (sameOutcome ▸ unknown))
  · refine explained effect dispatch (sameDispatch ▸ dispatched) own
      (.inr ⟨sameOutcome ▸ unknown, fun id shown => hidden id ?_⟩)
    have about := owner_of_openCard earlier shown
    rw [untouched.openCard_eq ((ownership.card_owner about).trans owner), shown]

end Untouched

end HaiderAgent.TurnRecovery
