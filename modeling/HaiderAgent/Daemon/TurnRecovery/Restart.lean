import HaiderAgent.Daemon.TurnRecovery.Commits

/-!
# Restarting over a run parked behind a recovery card

The first startup that finds an unexplained effect parks its run in
`EffectOutcomeUnknown` behind a card. The decision chain has no case for that
state: a startup of a later generation closes the card and fails the run unless
the run is fenced, pinned or supervised by another session.
-/

namespace HaiderAgent.TurnRecovery

open List Startup

open HaiderAgent.EffectRecovery ExceptFold

theorem decideResumable_parked (view : StoreView) (runId : RunId) (turnOrdinal : Nat)
    (reduction : RunReduction) :
    decideResumable view runId turnOrdinal .effectOutcomeUnknown reduction = .ok none := by
  have continuation : pendingWorkflowContinuation view runId turnOrdinal .effectOutcomeUnknown
      reduction = .ok none := by
    unfold pendingWorkflowContinuation workflowContinuationShapeIsEligible
    split <;> rfl
  unfold decideResumable
  rw [continuation]
  cases pendingCheckpoint reduction <;> cases pendingPartialStreamCheckpoint reduction <;> rfl

theorem decideInterrupted_parked (argsDigest : RunId → Nat → String) (view : StoreView)
    (runId : RunId) (turnOrdinal : Nat) (reduction : RunReduction) :
    decideInterrupted argsDigest view runId turnOrdinal .effectOutcomeUnknown reduction =
      .ok (if supervisedByWaitingParent view runId = true then {}
        else { payloads := terminalizeInterrupted view reduction false }) := by
  have admitted : admittedFirstRequestHasNoResponse .effectOutcomeUnknown reduction = false := by
    unfold admittedFirstRequestHasNoResponse
    split
    · rfl
    · split <;> simp
  unfold decideInterrupted
  rw [admitted, decideResumable_parked]
  by_cases supervised : supervisedByWaitingParent view runId = true
  · simp [supervised, bind, Except.bind, pure, Except.pure]
  · have ongoing : (RunState.effectOutcomeUnknown == RunState.cancelling) = false := rfl
    simp [supervised, ongoing, bind, Except.bind, pure, Except.pure]

/-- A parked run is ended, unless this generation parked it or another party answers for it. -/
theorem decideRun_parked {argsDigest : RunId → Nat → String} {view : StoreView} {runId : RunId}
    {reduction : RunReduction} {decision : RunDecision} {seq : Nat}
    (parked : reduction.state = some (.effectOutcomeUnknown, seq))
    (mirrors : reduction.delegationMirrorHandoffs = ∅) (metadata : view.runnableMetadata = true)
    (decided : decideRun argsDigest view runId reduction = .ok decision) :
    decision.payloads =
      if reduction.stateGeneration = view.workerGeneration ∨ fencedPublicChild view runId = true ∨
        reduction.directAgentSpawn = true ∨ supervisedByWaitingParent view runId = true then []
      else terminalizeInterrupted view reduction false := by
  have noMirrors : mirrorHandoffs reduction = [] := by
    rw [mirrorHandoffs, mirrors]
    rfl
  unfold decideRun at decided
  split at decided
  · cases decided
  · split at decided
    · cases decided
    · simp only [parked, noMirrors, mapM_nil, pure_bind, metadata] at decided
      by_cases current : reduction.stateGeneration = view.workerGeneration
      · simp only [current, or_true, if_true] at decided
        cases decided
        simp [current]
      · simp only [current, RunState.isTerminal, Bool.false_eq_true, or_false, if_false, ne_eq,
          not_true_eq_false, Bool.not_true] at decided
        unfold decideRunnable at decided
        split at decided
        · cases decided
        · split at decided
          · cases decided
          · by_cases fenced : fencedPublicChild view runId = true
            · simp only [fenced, ne_eq, reduceCtorEq, not_false_eq_true, and_self,
                if_true] at decided
              cases decided
              simp [fenced]
            · by_cases pinned : reduction.directAgentSpawn = true
              · simp only [fenced, pinned, ne_eq, reduceCtorEq, not_false_eq_true, and_false,
                  Bool.false_eq_true, and_self, if_true, if_false] at decided
                simp [pinned, decideDirectSpawn_payloads decided]
              · simp only [fenced, pinned, ne_eq, reduceCtorEq, and_false, Bool.false_eq_true,
                  false_and, if_false, decideInterrupted_parked, Except.ok.injEq] at decided
                subst decided
                by_cases supervised : supervisedByWaitingParent view runId = true
                · simp [supervised]
                · simp [supervised, current, fenced, pinned]

variable {names : RecoveryNames} {ownership : Ownership names} {startup : Startup} {runId : RunId}
  {argsDigest : RunId → Nat → String} {reductions : HashMap RunId RunReduction}

theorem Startup.mem_runs {entry : RunId × RunReduction} :
    entry ∈ runs reductions ↔ reductions.lookup entry.1 = some entry.2 := by
  simp [runs, EntryMap.mem_entries_iff, Prod.ext_iff]

theorem Startup.runs_nodup (reductions : HashMap RunId RunReduction) :
    ((runs reductions).map (·.1)).Nodup := by
  have keys : ((reductions.entries.map fun entry => (entry.1, entry.2)).map (·.1)).Nodup := by
    rw [map_map]
    exact reductions.keys_nodup
  have sorted := (perm_insertionSort
    (fun a b : RunId × RunReduction => acceptanceKey a.2 ≤ acceptanceKey b.2)
    (reductions.entries.map fun entry => (entry.1, entry.2))).map (·.1)
  exact sorted.nodup_iff.mpr keys

theorem Startup.announce_untouched (ownership : Ownership names) (startup : Startup)
    (runId decided : RunId) (announce : Bool) (journal : Journal) :
    Untouched ownership runId journal
      (if announce then
        journal.append (startup.recoveryEnvelopes decided none [.sessionState .activeRun])
      else journal) := by
  split
  · refine .append _ ?_ ?_
    · intro e mem carried content
      cases mem_singleton.mp mem
      cases content
      trivial
    · intro e mem own
      cases mem_singleton.mp mem
      cases own
  · exact .refl _ _

variable {progress : Progress}

/-- One turn of the loop touches no other run, nor its own when it commits nothing. -/
theorem Startup.recoverRun_untouched {entry : RunId × RunReduction}
    (owns : OwnsMenu ownership entry.1 entry.2) (quiet : entry.1 = runId → ∀ decision,
      decideRun argsDigest startup.view entry.1 entry.2 = .ok decision → decision.payloads = [])
    {next : Progress} (decides : startup.recoverRun argsDigest progress entry = .ok next) :
    Untouched ownership runId progress.journal next.journal := by
  obtain ⟨decision, decided, rest⟩ := bind_eq_ok.mp decides
  cases rest
  refine (startup.announce_untouched ownership runId entry.1
    (decision.activate && !progress.activated) progress.journal).trans ?_
  by_cases same : entry.1 = runId
  · rw [quiet same decision decided]
    simp only [recoveryEnvelopes, mapIdx_nil, Journal.append_nil]
    exact .refl _ _
  · refine .append _ ?_ (recoveryEnvelopes_foreign same)
    exact recoveryEnvelopes_owned ((decideRun_payloads decided).owned owns)

theorem Startup.recoverRuns_untouched {entries : List (RunId × RunReduction)}
    (owns : ∀ entry ∈ entries, OwnsMenu ownership entry.1 entry.2)
    (quiet : ∀ entry ∈ entries, entry.1 = runId → ∀ decision,
      decideRun argsDigest startup.view entry.1 entry.2 = .ok decision → decision.payloads = [])
    {last : Progress}
    (recovers : entries.foldlM (startup.recoverRun argsDigest) progress = .ok last) :
    Untouched ownership runId progress.journal last.journal := by
  refine foldlM_rel (fun early late : Progress =>
    Untouched ownership runId early.journal late.journal) ?_ ?_ ?_ recovers
  · intro progress
    exact .refl _ _
  · intro first second third early late
    exact early.trans late
  · intro entry mem before after decides
    exact recoverRun_untouched (owns entry mem) (quiet entry mem) decides

/-- What the page loop knows of a run comes from envelopes of the journal. -/
theorem Knows.entry {envelopes : List RawEnvelope} (knows : Knows reductions envelopes)
    {other : RunId} {reduction : RunReduction} (known : reductions.lookup other = some reduction) :
    ∃ rest, RememberedTail other envelopes rest ∧ reductionOf rest other = some reduction := by
  obtain ⟨rest, remembered, same⟩ := knows other
  refine ⟨rest, remembered, ?_⟩
  rw [reductionOf_eq_final, ← same, known]

theorem Knows.ownsMenu {journal : Journal} (knows : Knows reductions (hydrated journal.envelopes))
    (owned : AllOwned ownership journal) {entry : RunId × RunReduction}
    (mem : entry ∈ runs reductions) : OwnsMenu ownership entry.1 entry.2 := by
  obtain ⟨rest, remembered, known⟩ := knows.entry (mem_runs.mp mem)
  refine ownsMenu_reductionOf (fun e found => owned e ?_) known
  exact (mem_filter.mp (remembered.suffix.subset found)).1

variable (ownership)

/-- A run parked in `EffectOutcomeUnknown` with a recovery card of its own open. -/
structure Parked (runId : RunId) (card : MenuId) (effect : EffectId) (journal : Journal) :
    Prop where
  state : latestRunState runId journal.envelopes = some .effectOutcomeUnknown
  shown : openCard card journal.envelopes = some effect
  own : ownership.menuOwner card = some runId

/-- When a startup leaves a parked run to others: the session has metadata, the run owes no
cancellation mirror, it is not the run of an abandoned spawn, and it is a fenced child, a child
of a waiting parent, or a pinned spawn as far as recovery can remember it. -/
structure Startup.Spares (startup : Startup) (runId : RunId) (journal : Journal) : Prop where
  graph : startup.GraphOwned ownership
  spawn : ∀ record, startup.abandonedSpawn = some record → record.childRunId ≠ runId
  metadata : startup.view.runnableMetadata = true
  mirrors : (coordinatesOf (hydrated journal.envelopes) runId).delegationMirrorHandoffs = ∅
  guarded : fencedPublicChild startup.view runId = true ∨
    supervisedByWaitingParent startup.view runId = true ∨
    ∀ rest reduction, RememberedTail runId (hydrated journal.envelopes) rest →
      reductionOf rest runId = some reduction → reduction.directAgentSpawn = true

variable {ownership}

theorem reduceKey_of_runId_ne {e : RawEnvelope} (foreign : e.runId ≠ some runId) :
    reduceKey e ≠ some runId := by
  unfold reduceKey
  split
  · exact foreign
  · simp

/-- What recovery may remember of an untouched run is what it might have remembered before. -/
theorem Untouched.remembered {before after : Journal}
    (untouched : Untouched ownership runId before after) {rest : List RawEnvelope}
    (remembered : RememberedTail runId (hydrated after.envelopes) rest) :
    ∃ own, RememberedTail runId (hydrated before.envelopes) own ∧
      reductionOf own runId = reductionOf rest runId := by
  obtain ⟨new, split, -, foreign⟩ := untouched
  rw [split, hydrated, filter_append] at remembered
  obtain ⟨own, known, same⟩ := KeyedFold.Remembered.of_append
    (fun e mem => reduceKey_of_runId_ne (foreign e (mem_filter.mp mem).1)) remembered
  refine ⟨own, known, ?_⟩
  rw [reductionOf_eq_final, reductionOf_eq_final, KeyedFold.final, KeyedFold.final, same]

variable {journal : Journal} {own : List RawEnvelope} {reduction : RunReduction}

/-- Recovery remembers the handoffs of a run, and its latest state or, of one that ended, none. -/
theorem state_remembered (remembered : RememberedTail runId (hydrated journal.envelopes) own)
    (known : reductionOf own runId = some reduction) :
    reduction.delegationMirrorHandoffs =
        (coordinatesOf (hydrated journal.envelopes) runId).delegationMirrorHandoffs ∧
      (reduction.state.map (·.1) = latestRunState runId journal.envelopes ∨
        reduction.state = none ∧
          (latestRunState runId journal.envelopes).any RunState.isTerminal = true) := by
  have coordinates : coordinatesOf own runId = reduction.coordinates := by
    rw [coordinatesOf, known]
    rfl
  have state := coordinatesOf_state (hydrated journal.envelopes) runId
  rw [latestRunState_hydrated] at state
  obtain ⟨handoffs, states⟩ := sameActivity_remembered remembered
  rw [coordinates] at handoffs states
  refine ⟨handoffs.symm, ?_⟩
  rw [← state]
  rcases states with same | ⟨forgotten, ended⟩
  · exact .inl (congrArg (Option.map (·.1)) same.symm)
  · refine .inr ⟨forgotten, ?_⟩
    rw [Option.any_map]
    exact ended

/-- The decision for a spared run commits nothing. -/
theorem Startup.Spares.quiet (spares : startup.Spares ownership runId journal)
    (parked : latestRunState runId journal.envelopes = some .effectOutcomeUnknown)
    (remembered : RememberedTail runId (hydrated journal.envelopes) own)
    (known : reductionOf own runId = some reduction) {decision : RunDecision}
    (decided : decideRun argsDigest startup.view runId reduction = .ok decision) :
    decision.payloads = [] := by
  obtain ⟨handoffs, states⟩ := state_remembered remembered known
  rw [parked, Option.map_eq_some_iff] at states
  rcases states with ⟨⟨_, seq⟩, state, rfl⟩ | ⟨_, ⟨⟩⟩
  rw [decideRun_parked state (handoffs.trans spares.mirrors) spares.metadata decided, if_pos]
  rcases spares.guarded with fenced | supervised | pinned
  · exact .inr (.inl fenced)
  · exact .inr (.inr (.inr supervised))
  · exact .inr (.inr (.inl (pinned own reduction remembered known)))

variable {before after : SessionStore} {swept : Journal}

variable (performs : startup.Performs names argsDigest before after swept)
include performs

theorem Startup.Performs.knows (grown : before.journal.envelopes <+: swept.envelopes) :
    Knows (before.checkpoint.hydrate startup.pages).reductions (hydrated swept.envelopes) :=
  (before.sound.grow grown).hydrate performs.reads

/-- A spared run that is parked and explained is untouched by the startup. -/
theorem Startup.Performs.untouched (owned : AllOwned ownership before.journal)
    (parked : latestRunState runId before.journal.envelopes = some .effectOutcomeUnknown)
    (explained : Explained runId before.journal.envelopes)
    (spares : startup.Spares ownership runId before.journal) :
    Untouched ownership runId before.journal after.journal := by
  obtain ⟨batch, passed, sweeps⟩ := bind_eq_ok.mp performs.sweeps
  obtain ⟨batchOwned, batchForeign, -⟩ := effectPass owned passed
  have passedBy : Untouched ownership runId before.journal (before.journal.append batch) :=
    .append _ batchOwned (batchForeign runId explained)
  have sweptBy : Untouched ownership runId before.journal swept :=
    passedBy.trans (reconcileAbandonedPublicSpawns_untouched spares.spawn
      spares.graph (passedBy.owned owned) sweeps)
  obtain ⟨progress, recovers, final⟩ := performs.recovers
  have knows := performs.knows sweptBy.grown
  rw [final]
  refine sweptBy.trans (recoverRuns_untouched ?_ ?_ recovers)
  · intro entry mem
    exact knows.ownsMenu (sweptBy.owned owned) mem
  · intro entry mem same decision decided
    obtain ⟨rest, remembered, known⟩ := knows.entry (mem_runs.mp mem)
    rw [same] at remembered known decided
    obtain ⟨own, ownRemembered, sameReduction⟩ := sweptBy.remembered remembered
    exact spares.quiet parked ownRemembered (sameReduction.trans known) decided

omit performs

/-- Where the passes of a startup leave a run: its effects explained, or the run ended. -/
def Settled (runId : RunId) (journal : Journal) : Prop :=
  Explained runId journal.envelopes ∨
    (latestRunState runId journal.envelopes).any RunState.isTerminal = true

theorem Untouched.settled {before after : Journal}
    (untouched : Untouched ownership runId before after) (owned : AllOwned ownership before)
    (settled : Settled runId before) : Settled runId after := by
  rcases settled with explained | ended
  · exact .inl (untouched.explained owned explained)
  · refine .inr ?_
    rw [untouched.latestRunState_eq]
    exact ended

theorem Settled.explained (settled : Settled runId journal)
    (parked : latestRunState runId journal.envelopes = some .effectOutcomeUnknown) :
    Explained runId journal.envelopes := by
  rcases settled with explained | ended
  · exact explained
  · rw [parked] at ended
    cases ended

variable {branchId : Option BranchId} {ordinal : Nat}

/-- The effect id of the next provider admission of a run. -/
abbrev admission (runId : RunId) (ordinal : Nat) : EffectId :=
  "provider-admission-" ++ runId ++ "-" ++ toString (saturatingAdd ordinal 1)

/-- The menu id of its recovery card. -/
abbrev admissionCard (runId : RunId) (ordinal : Nat) : MenuId :=
  "provider-admission-recovery-" ++ runId ++ "-" ++ toString (saturatingAdd ordinal 1)

theorem outcomeOf_park (effect : EffectId) :
    (startup.recoveryEnvelopes runId branchId
      (parkAmbiguousAdmissionRetry argsDigest runId ordinal)).filterMap (outcomeOf effect) =
      if admission runId ordinal = effect then [.unknown] else [] := by
  simp only [recoveryEnvelopes, parkAmbiguousAdmissionRetry, mapIdx_cons, mapIdx_nil, envelope,
    outcomeOf, filterMap_cons, filterMap_nil, admission]
  split <;> rename_i found <;> split at found <;> simp_all

theorem cardOf_park (id : MenuId) :
    (startup.recoveryEnvelopes runId branchId
      (parkAmbiguousAdmissionRetry argsDigest runId ordinal)).filterMap (cardOf id) =
      if admissionCard runId ordinal = id then [some (admission runId ordinal)] else [] := by
  simp only [recoveryEnvelopes, parkAmbiguousAdmissionRetry, mapIdx_cons, mapIdx_nil,
    effectRecoveryMenu, envelope, cardOf, filterMap_cons, filterMap_nil, admission, admissionCard]
  split <;> rename_i found <;> split at found <;> simp_all

theorem dispatchOf_park {effect : EffectId} (other : admission runId ordinal ≠ effect) :
    (startup.recoveryEnvelopes runId branchId
      (parkAmbiguousAdmissionRetry argsDigest runId ordinal)).filterMap (dispatchOf effect) =
      [] := by
  refine filterMap_eq_nil_iff.mpr fun e mem => ?_
  obtain ⟨payload, found, content, -⟩ := mem_recoveryEnvelopes mem
  unfold dispatchOf
  rw [content, if_neg]
  intro dispatched
  simp only [parkAmbiguousAdmissionRetry, mem_cons, not_mem_nil, or_false] at found
  rcases found with rfl | rfl | rfl | rfl | rfl | rfl <;> cases dispatched
  exact other rfl

/-- Parking an ambiguous admission explains it, and the card of no other effect is touched. -/
theorem explained_park (owned : AllOwned ownership journal)
    (explained : Explained runId journal.envelopes) :
    Explained runId (journal.append (startup.recoveryEnvelopes runId branchId
      (parkAmbiguousAdmissionRetry argsDigest runId ordinal))).envelopes := by
  have about := ownership.admissionCard runId (saturatingAdd ordinal 1)
  intro effect dispatch dispatched own
  unfold Unexplained lastOutcome openCard
  rw [lastDispatch, Journal.getLast?_filterMap_append _ fun _ _ => rfl] at dispatched
  simp only [Journal.getLast?_filterMap_append (outcomeOf effect) fun _ _ => rfl, outcomeOf_park,
    Journal.getLast?_filterMap_append (cardOf _) fun _ _ => rfl, cardOf_park]
  by_cases same : admission runId ordinal = effect
  · rw [if_pos same]
    rintro (unknown | ⟨-, hidden⟩)
    · cases unknown
    · refine hidden (admissionCard runId ordinal) ?_
      rw [if_pos rfl, same]
      rfl
  · rw [dispatchOf_park same] at dispatched
    rw [if_neg same]
    rintro (unknown | ⟨unknown, hidden⟩)
    · exact explained effect dispatch dispatched own (.inl unknown)
    · refine explained effect dispatch dispatched own (.inr ⟨unknown, fun id shown => ?_⟩)
      refine hidden id ?_
      -- The new card is about the admission, so a card about another effect is not that one.
      have different : admissionCard runId ordinal ≠ id := by
        rintro rfl
        rw [owner_of_openCard owned shown] at about
        exact same (Option.some.inj about).symm
      rw [if_neg different]
      exact shown

variable {progress next : Progress}

theorem Startup.recoverRun_owned {entry : RunId × RunReduction}
    (owns : OwnsMenu ownership entry.1 entry.2) (owned : AllOwned ownership progress.journal)
    (decides : startup.recoverRun argsDigest progress entry = .ok next) :
    AllOwned ownership next.journal := by
  obtain ⟨decision, decided, rest⟩ := bind_eq_ok.mp decides
  cases rest
  refine AllOwned.append ?_
    (recoveryEnvelopes_owned ((decideRun_payloads decided).owned owns))
  exact (startup.announce_untouched ownership entry.1 entry.1
    (decision.activate && !progress.activated) progress.journal).owned owned

/-- The decision for a run that ended, if recovery remembers it at all, commits nothing. -/
theorem decideRun_ended
    (ended : (latestRunState runId journal.envelopes).any RunState.isTerminal = true)
    (remembered : RememberedTail runId (hydrated journal.envelopes) own)
    (known : reductionOf own runId = some reduction) {view : StoreView} {decision : RunDecision}
    (decided : decideRun argsDigest view runId reduction = .ok decision) :
    decision.payloads = [] := by
  have states := (state_remembered remembered known).2
  unfold decideRun at decided
  split at decided
  · cases decided
  · split at decided
    · cases decided
    · split at decided
      · cases decided
        rfl
      · rename_i latest seq found
        rcases states with same | ⟨none, -⟩
        · rw [← same, found] at ended
          have terminal : latest.isTerminal = true := ended
          obtain ⟨mirrors, -, rest⟩ := bind_eq_ok.mp decided
          rw [if_pos (.inl terminal)] at rest
          cases rest
          rfl
        · rw [none] at found
          cases found

theorem Startup.recoverRun_settled (owned : AllOwned ownership progress.journal)
    (explained : Explained runId progress.journal.envelopes)
    (decides : startup.recoverRun argsDigest progress (runId, reduction) = .ok next) :
    Settled runId next.journal := by
  obtain ⟨decision, decided, rest⟩ := bind_eq_ok.mp decides
  cases rest
  have announced := startup.announce_untouched ownership runId runId
    (decision.activate && !progress.activated) progress.journal
  have committed := decideRun_payloads decided
  generalize decision.payloads = payloads at committed ⊢
  cases committed with
  | none =>
    refine .inl ?_
    simp only [recoveryEnvelopes, mapIdx_nil, Journal.append_nil]
    exact announced.explained owned explained
  | terminal cancelling =>
    refine .inr ?_
    unfold terminalizeInterrupted
    rw [latestRunState_terminal]
    split <;> rfl
  | parked ordinal =>
    exact .inl (explained_park (announced.owned owned) (announced.explained owned explained))

variable {entries : List (RunId × RunReduction)} {last : Progress}

theorem Startup.recoverRuns_owned (owns : ∀ entry ∈ entries, OwnsMenu ownership entry.1 entry.2)
    (owned : AllOwned ownership progress.journal)
    (recovers : entries.foldlM (startup.recoverRun argsDigest) progress = .ok last) :
    AllOwned ownership last.journal := by
  refine foldlM_rel (fun early late : Progress =>
    AllOwned ownership early.journal →
      AllOwned ownership late.journal) ?_ ?_ ?_ recovers owned
  · intro progress held
    exact held
  · intro first second third early late held
    exact late (early held)
  · intro entry mem before after decides held
    exact recoverRun_owned (owns entry mem) held decides

/-- The loop leaves an explained run settled: it has one turn, the others do not touch it. -/
theorem Startup.recoverRuns_settled (once : (entries.map (·.1)).Nodup)
    (owns : ∀ entry ∈ entries, OwnsMenu ownership entry.1 entry.2)
    (owned : AllOwned ownership progress.journal)
    (explained : Explained runId progress.journal.envelopes)
    (recovers : entries.foldlM (startup.recoverRun argsDigest) progress = .ok last) :
    Settled runId last.journal := by
  by_cases listed : ∃ reduction, (runId, reduction) ∈ entries
  · obtain ⟨reduction, mem⟩ := listed
    obtain ⟨first, others, rfl⟩ := append_of_mem mem
    rw [map_append, map_cons, nodup_append, nodup_cons] at once
    obtain ⟨-, ⟨notLater, -⟩, apart⟩ := once
    obtain ⟨reached, decided, early, turn, late⟩ := foldlM_at recovers
    have firstOwns (entry : RunId × RunReduction) (here : entry ∈ first) :=
      owns entry (mem_append_left _ here)
    have before : Untouched ownership runId progress.journal reached.journal := by
      refine recoverRuns_untouched firstOwns ?_ early
      intro entry here same
      exact absurd same (apart _ (mem_map_of_mem here) _ mem_cons_self)
    have reachedOwned := before.owned owned
    have settled := recoverRun_settled reachedOwned
      (before.explained owned explained) turn
    have decidedOwned := recoverRun_owned (owns _ mem) reachedOwned turn
    have after : Untouched ownership runId decided.journal last.journal := by
      refine recoverRuns_untouched ?_ ?_ late
      · intro entry here
        exact owns entry (mem_append_right _ (mem_cons_of_mem _ here))
      · intro entry here same
        exact absurd (mem_map_of_mem here) (same ▸ notLater)
    exact after.settled decidedOwned settled
  · have untouched : Untouched ownership runId progress.journal last.journal := by
      refine recoverRuns_untouched owns ?_ recovers
      rintro ⟨other, reduction⟩ here rfl
      exact absurd ⟨reduction, here⟩ listed
    exact untouched.settled owned (.inl explained)

theorem Startup.cancelTurn_cases (record : DelegationRecord) (journal : Journal) :
    startup.cancelTurn record journal = journal ∨
      journal.envelopes <+: (startup.cancelTurn record journal).envelopes ∧
        latestRunState record.childRunId (startup.cancelTurn record journal).envelopes =
          some .cancelling := by
  unfold cancelTurn
  split
  · exact .inl rfl
  · split
    · exact .inl rfl
    · refine .inr ⟨prefix_append _ _, ?_⟩
      rw [latestRunState_eq_stateOf, Journal.getLast?_filterMap_append _ fun _ _ => rfl]
      simp [stateOf, envelope, RawPayload.runState]

/-- The sweep only appends. -/
theorem Startup.sweep_grown (sweeps : startup.sweep names journal = .ok swept) :
    journal.envelopes <+: swept.envelopes := by
  obtain ⟨batch, -, rest⟩ := bind_eq_ok.mp sweeps
  have passed : journal.envelopes <+: (journal.append batch).envelopes := prefix_append _ _
  unfold reconcileAbandonedPublicSpawns at rest
  split at rest
  · cases rest
    exact passed
  · rename_i record _
    obtain ⟨closed, closes, rest⟩ := bind_eq_ok.mp rest
    have closedGrown : (journal.append batch).envelopes <+: closed.envelopes := by
      unfold closeAbandonedRun at closes
      split at closes
      · obtain ⟨payloads, -, rest⟩ := bind_eq_ok.mp closes
        cases rest
        refine IsPrefix.trans ?_ (prefix_append _ _)
        rcases startup.cancelTurn_cases record (journal.append batch) with kept | ⟨grown, -⟩
        · rw [kept]
        · exact grown
      · cases closes
        exact prefix_rfl
    split at rest
    · cases rest
      exact passed.trans (closedGrown.trans (prefix_append _ _))
    · cases rest
      exact passed.trans closedGrown

theorem Startup.closeAbandonedRun_settled {record : DelegationRecord} {closed : Journal}
    (owned : AllOwned ownership journal) (explained : Explained runId journal.envelopes)
    (closes : startup.closeAbandonedRun record journal = .ok closed) :
    AllOwned ownership closed ∧ Settled runId closed := by
  by_cases different : record.childRunId ≠ runId
  · have untouched := closeAbandonedRun_untouched different owned closes
    exact ⟨untouched.owned owned, untouched.settled owned (.inl explained)⟩
  · have same : record.childRunId = runId := not_not.mp different
    subst same
    unfold closeAbandonedRun at closes
    split at closes
    · obtain ⟨payloads, terminal, rest⟩ := bind_eq_ok.mp closes
      cases rest
      have cancelled := startup.cancelTurn_owned record journal owned
      refine ⟨cancelled.append (closing_owned cancelled terminal), ?_⟩
      rcases resumptionTerminalPayloads_cases terminal with ⟨rfl, parked⟩ | ⟨_, _, _, _, rfl⟩
      · refine .inl ?_
        simp only [recoveryEnvelopes, mapIdx_nil, Journal.append_nil]
        rcases startup.cancelTurn_cases record journal with kept | ⟨-, cancelling⟩
        · rw [kept]
          exact explained
        · rw [cancelling] at parked
          cases parked
      · refine .inr ?_
        rw [latestRunState_terminal]
        split <;> rfl
    · cases closes
      exact ⟨owned, .inl explained⟩

theorem Startup.sweep_settled (runId : RunId) (graph : startup.GraphOwned ownership)
    (owned : AllOwned ownership journal) (sweeps : startup.sweep names journal = .ok swept) :
    AllOwned ownership swept ∧ Settled runId swept := by
  obtain ⟨batch, passed, rest⟩ := bind_eq_ok.mp sweeps
  obtain ⟨batchOwned, -, explained⟩ := effectPass owned passed
  have passedOwned := owned.append batchOwned
  unfold reconcileAbandonedPublicSpawns at rest
  split at rest
  · cases rest
    exact ⟨passedOwned, .inl (explained runId)⟩
  · obtain ⟨closed, closes, rest⟩ := bind_eq_ok.mp rest
    obtain ⟨closedOwned, settled⟩ :=
      closeAbandonedRun_settled passedOwned (explained runId) closes
    split at rest
    · cases rest
      have untouched := graph_untouched runId graph closed
      exact ⟨untouched.owned closedOwned, untouched.settled closedOwned settled⟩
    · cases rest
      exact ⟨closedOwned, settled⟩

/-- A startup leaves every run settled. -/
theorem Startup.Performs.settled (runId : RunId)
    (performs : startup.Performs names argsDigest before after swept)
    (owned : AllOwned ownership before.journal) (graph : startup.GraphOwned ownership) :
    AllOwned ownership after.journal ∧ Settled runId after.journal := by
  obtain ⟨sweptOwned, settled⟩ := sweep_settled runId graph owned performs.sweeps
  obtain ⟨progress, recovers, final⟩ := performs.recovers
  have knows := performs.knows (sweep_grown performs.sweeps)
  have owns (entry : RunId × RunReduction) (mem : entry ∈ runs _) :=
    knows.ownsMenu sweptOwned mem
  rw [final]
  refine ⟨recoverRuns_owned owns sweptOwned recovers, ?_⟩
  rcases settled with explained | ended
  · exact recoverRuns_settled (runs_nodup _) owns sweptOwned explained recovers
  · have untouched : Untouched ownership runId swept progress.journal := by
      refine recoverRuns_untouched owns ?_ recovers
      intro entry mem same decision decided
      obtain ⟨rest, remembered, known⟩ := knows.entry (mem_runs.mp mem)
      rw [same] at remembered known decided
      exact decideRun_ended ended remembered known decided
    exact untouched.settled sweptOwned (.inr ended)

end HaiderAgent.TurnRecovery
