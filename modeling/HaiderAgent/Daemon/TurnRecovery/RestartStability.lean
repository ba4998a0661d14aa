import HaiderAgent.Daemon.TurnRecovery.Restart

/-!
# Restart stability of recovery cards

Any number of startups after the one that parked a run behind its recovery card. As long as each of
them spares the run, the card stays open; a session of its own is not spared.
-/

namespace HaiderAgent.TurnRecovery

open List Startup

open HaiderAgent.EffectRecovery ExceptFold

section Stability

variable {names : RecoveryNames} {argsDigest : RunId → Nat → String}

/-- What further startups reach when nothing else commits and each meets a condition. -/
inductive Restarts (names : RecoveryNames) (argsDigest : RunId → Nat → String)
    (meets : Startup → Journal → Prop) (first : SessionStore) : SessionStore → Prop
  | none : Restarts names argsDigest meets first first
  | again {reached after : SessionStore} {startup : Startup} {swept : Journal} :
      Restarts names argsDigest meets first reached →
      startup.Performs names argsDigest reached after swept → meets startup reached.journal →
      Restarts names argsDigest meets first after

/-- Further startups that all spare a parked and explained run do not touch it. -/
theorem Restarts.untouched {ownership : Ownership names} {runId : RunId}
    {first later : SessionStore} (owned : AllOwned ownership first.journal)
    (parked : latestRunState runId first.journal.envelopes = some .effectOutcomeUnknown)
    (explained : Explained runId first.journal.envelopes) (restarts : Restarts names argsDigest
      (fun startup journal => startup.Spares ownership runId journal) first later) :
    Untouched ownership runId first.journal later.journal := by
  induction restarts with
  | none => exact .refl _ _
  | again _ performs spares ih =>
    refine ih.trans (performs.untouched (ih.owned owned) ?_ (ih.explained owned explained) spares)
    rw [ih.latestRunState_eq]
    exact parked

end Stability

section OnePageStartups

variable (names : RecoveryNames) (argsDigest : RunId → Nat → String) {startup : Startup}

theorem Startup.recoverRuns_grown {argsDigest : RunId → Nat → String}
    {reductions : HashMap RunId RunReduction} {journal : Journal} {last : Progress}
    (recovers : startup.recoverRuns argsDigest reductions journal = .ok last) :
    journal.envelopes <+: last.journal.envelopes := by
  refine foldlM_rel (fun early late : Progress =>
    early.journal.envelopes <+: late.journal.envelopes) ?_ ?_ ?_ recovers
  · intro progress
    exact prefix_rfl
  · intro first second third early late
    exact early.trans late
  · intro entry mem before after decides
    obtain ⟨decision, -, rest⟩ := bind_eq_ok.mp decides
    cases rest
    refine List.IsPrefix.trans ?_ (prefix_append _ _)
    split
    · exact prefix_append _ _
    · exact prefix_rfl

/-- The journal after the sweep, or unchanged when the sweep fails. -/
def Startup.swept (startup : Startup) (before : SessionStore) : Journal :=
  (startup.sweep names before.journal).toOption.getD before.journal

/-- The startup reading its tail as one page. -/
def Startup.inOnePage (startup : Startup) (before : SessionStore) : Startup :=
  { startup with
    pages := onePage (startup.swept names before)
      (min before.checkpoint.throughSeq startup.visitorCursor) }

/-- The journal after recovery, or the swept one when recovery fails. -/
def Startup.recovered (startup : Startup) (before : SessionStore) : Journal :=
  ((startup.recoverRuns argsDigest
    (before.checkpoint.hydrate (startup.inOnePage names before).pages).reductions
    (startup.swept names before)).toOption.map (·.journal)).getD (startup.swept names before)

theorem Startup.swept_grown (startup : Startup) (before : SessionStore) :
    before.journal.envelopes <+: (startup.swept names before).envelopes := by
  unfold swept
  cases sweeps : startup.sweep names before.journal with
  | error failure => exact prefix_rfl
  | ok swept => exact sweep_grown sweeps

theorem Startup.recovered_grown (startup : Startup) (before : SessionStore) :
    (startup.swept names before).envelopes <+:
      (startup.recovered names argsDigest before).envelopes := by
  unfold recovered
  cases recovers : startup.recoverRuns argsDigest _ _ with
  | error failure => exact prefix_rfl
  | ok progress => exact recoverRuns_grown recovers

/-- The session a startup leaves to the next. -/
def Startup.restarted (startup : Startup) (before : SessionStore) : SessionStore where
  journal := startup.recovered names argsDigest before
  checkpoint := before.checkpoint.store
    (before.checkpoint.hydrate (startup.inOnePage names before).pages)
  sound :=
    ((before.sound.grow (startup.swept_grown names before)).store
      (readsPages_onePage _ _)).grow (startup.recovered_grown names argsDigest before)

/-- A startup none of whose passes fails completes. -/
theorem Startup.performs_restarted {before : SessionStore}
    (sweeps : (startup.sweep names before.journal).isOk = true)
    (recovers : (startup.recoverRuns argsDigest
      (before.checkpoint.hydrate (startup.inOnePage names before).pages).reductions
      (startup.swept names before)).isOk = true) :
    (startup.inOnePage names before).Performs names argsDigest before
      (startup.restarted names argsDigest before) (startup.swept names before) := by
  refine ⟨?_, readsPages_onePage _ _, ?_, rfl⟩
  · unfold swept
    change startup.sweep names before.journal = _
    cases swept : startup.sweep names before.journal with
    | error failure =>
      rw [swept] at sweeps
      cases sweeps
    | ok journal => rfl
  · change ∃ progress, startup.recoverRuns argsDigest _ _ = _ ∧ recovered .. = _
    unfold recovered
    cases recovered : startup.recoverRuns argsDigest _ _ with
    | error failure =>
      rw [recovered] at recovers
      cases recovers
    | ok progress => exact ⟨progress, rfl, rfl⟩

end OnePageStartups

section Ids

/-- The identifiers of the sessions below: a card is named after its effect. -/
def cardNames : RecoveryNames where
  recoveryEventId _ _ effect := effect
  recoveryEventIdFor _ _ effect part := effect ++ part
  recoveryMenuId _ effect := "effect-recovery-" ++ effect
  recoveryMenuId_injective _ _ _ same := (String.append_right_inj _).mp same

/-- What follows a lead in a text. -/
def afterLead (lead text : String) : Option String :=
  if lead.toList <+: text.toList then some (String.ofList (text.toList.drop lead.toList.length))
  else none

theorem afterLead_append (lead rest : String) : afterLead lead (lead ++ rest) = some rest := by
  unfold afterLead
  rw [String.toList_append, if_pos (prefix_append _ _), drop_left, String.ofList_toList]

/-- A text without the number at its end and the hyphen before it. -/
def beforeNumber (text : String) : String :=
  String.ofList ((text.toList.reverse.dropWhile (· ≠ '-')).drop 1).reverse

theorem beforeNumber_append (text : String) (n : Nat) :
    beforeNumber (text ++ "-" ++ toString n) = text := by
  have digits : ∀ c ∈ (toString n).toList.reverse, c ≠ '-' := by
    intro c mem hyphen
    subst hyphen
    have shown : (toString n).toList = Nat.toDigits 10 n :=
      String.toList_ofList
    rw [mem_reverse, shown] at mem
    exact absurd (Nat.isDigit_of_mem_toDigits (by decide) (by decide) mem) (by decide)
  have reversed : (text ++ "-" ++ toString n).toList.reverse =
      (toString n).toList.reverse ++ '-' :: text.toList.reverse := by
    simp
  unfold beforeNumber
  rw [reversed, dropWhile_append_of_pos (by simpa using digits), dropWhile_cons_of_neg]
  · simp
  · simp

/-- The session's one run owns everything but the admissions of other runs. -/
def cardOwnership : Ownership cardNames where
  effectOwner effect := some (((afterLead "provider-admission-" effect).map beforeNumber).getD "r")
  menuOwner id :=
    (match afterLead "effect-recovery-" id with
    | some effect => some effect
    | none => (afterLead "provider-admission-recovery-" id).map ("provider-admission-" ++ ·)).bind
      fun effect => some (((afterLead "provider-admission-" effect).map beforeNumber).getD "r")
  cardEffect id :=
    match afterLead "effect-recovery-" id with
    | some effect => some effect
    | none => (afterLead "provider-admission-recovery-" id).map ("provider-admission-" ++ ·)
  card_owner about := by
    rw [about]
    rfl
  recoveryCard _ effect := by
    change (match afterLead "effect-recovery-" ("effect-recovery-" ++ effect) with
      | some effect => some effect
      | none => _) = _
    rw [afterLead_append]
  admissionEffect runId attempt := by
    rw [String.append_assoc, String.append_assoc, afterLead_append, ← String.append_assoc,
      Option.map_some, beforeNumber_append]
    rfl
  admissionCard runId attempt := by
    have other : afterLead "effect-recovery-"
        ("provider-admission-recovery-" ++ runId ++ "-" ++ toString attempt) = none := by
      simp [afterLead]
    rw [other]
    simp only [String.append_assoc, afterLead_append, Option.map_some]

end Ids

section Sessions

/-- A startup of a plain session in a generation. -/
def plainStartup (workerGeneration : Nat) : Startup where
  view := plainSession workerGeneration
  deviceId := "device"
  evidence _ := none
  cancelRecorded := false
  abandonedGraph := []
  visitorCursor := 0
  pages := []

/-- A session whose daemon died while its run had an effect out. -/
def interruptedSession : SessionStore where
  journal := Journal.empty.append
    [EventPayload.unstamped (.runState .runningTool) "s" "r" 1,
      EventPayload.unstamped (.effect (.dispatched "e")) "s" "r" 1]
  checkpoint := {}
  sound := (Recovered.fresh _).sound

/-- A startup of the session as the child of a waiting parent. -/
def supervisedStartup (workerGeneration : Nat) : Startup :=
  { plainStartup workerGeneration with
    view := { plainSession workerGeneration with
      delegationForChildSession := some
        { agentId := "a", childSessionId := "s", childRunId := "r", parentSessionId := "p"
          parentRunId := "pr", parentBranchId := none, callId := "c", toolItemId := "i"
          publicOperatorSpawn := false, fencingEpoch := 0, state := .spawned, report := none }
      latestRunState := fun _ _ _ => some (.waiting .localChild) } }

/-- The session after the first startup, in generation 2. -/
def parkedSession (startup : Nat → Startup) : SessionStore :=
  (startup 2).restarted cardNames (fun _ _ => "") interruptedSession

/-- The parked session after one more startup, in generation 3. -/
def restartedSession (startup : Nat → Startup) : SessionStore :=
  (startup 3).restarted cardNames (fun _ _ => "") (parkedSession startup)

theorem supervisedStartup_spares :
    ((supervisedStartup 3).inOnePage cardNames (parkedSession supervisedStartup)).Spares
      cardOwnership "r" (parkedSession supervisedStartup).journal where
  graph := fun _ impossible => absurd impossible not_mem_nil
  spawn := nofun
  metadata := rfl
  mirrors := AList.ext (by decide)
  guarded := .inr (.inl (by decide))

end Sessions

/-- A run that a startup leaves parked behind a recovery card stays parked behind it, with no
envelope appended for it, through any number of further startups that each spare it. -/
theorem parked_run_survives_restarts {names : RecoveryNames}
    {argsDigest : RunId → Nat → String} (ownership : Ownership names) {startup : Startup}
    {initial first : SessionStore} {swept : Journal} {runId : RunId} {card : MenuId}
    {effect : EffectId} (owned : ∀ e ∈ initial.journal.envelopes, Owned ownership e)
    (graph : startup.GraphOwned ownership)
    (performs : startup.Performs names argsDigest initial first swept)
    (parked : Parked ownership runId card effect first.journal) (later : SessionStore)
    (restarts : Restarts names argsDigest
      (fun startup journal => startup.Spares ownership runId journal) first later) :
    Parked ownership runId card effect later.journal ∧
      (later.journal.envelopes.filter fun e => e.runId = some runId) =
        first.journal.envelopes.filter fun e => e.runId = some runId := by
  obtain ⟨firstOwned, settled⟩ := performs.settled runId owned graph
  have untouched := Restarts.untouched firstOwned parked.state (settled.explained parked.state)
    restarts
  refine ⟨⟨?_, ?_, parked.own⟩, untouched.filter_eq⟩
  · rw [untouched.latestRunState_eq]
    exact parked.state
  · rw [untouched.openCard_eq parked.own]
    exact parked.shown

/-- The run of a child session, supervised at both startups. -/
theorem parked_run_survives_restarts_supervised :
    Parked cardOwnership "r" "effect-recovery-e" "e"
        (restartedSession supervisedStartup).journal ∧
      ((restartedSession supervisedStartup).journal.envelopes.filter
          fun e => e.runId = some "r") =
        (parkedSession supervisedStartup).journal.envelopes.filter
          fun e => e.runId = some "r" := by
  have owned : ∀ e ∈ interruptedSession.journal.envelopes, Owned cardOwnership e := by
    intro e member carried content
    simp only [interruptedSession, Journal.append_envelopes, Journal.stamp, Journal.empty,
      EventPayload.unstamped, nil_append, mem_cons, not_mem_nil, or_false] at member
    rcases member with rfl | rfl <;> cases content
    · trivial
    · exact (by decide : some "r" = cardOwnership.effectOwner "e")
  have parks : ((supervisedStartup 2).inOnePage cardNames interruptedSession).Performs cardNames
      (fun _ _ => "") interruptedSession (parkedSession supervisedStartup)
      ((supervisedStartup 2).swept cardNames interruptedSession) :=
    Startup.performs_restarted _ _ (by decide) (by decide)
  have again : ((supervisedStartup 3).inOnePage cardNames
      (parkedSession supervisedStartup)).Performs cardNames (fun _ _ => "")
      (parkedSession supervisedStartup) (restartedSession supervisedStartup)
      ((supervisedStartup 3).swept cardNames (parkedSession supervisedStartup)) :=
    Startup.performs_restarted _ _ (by decide) (by decide)
  exact parked_run_survives_restarts cardOwnership owned
    (fun _ impossible => absurd impossible not_mem_nil) parks ⟨by decide, by decide, by decide⟩
    (restartedSession supervisedStartup) (.again .none again supervisedStartup_spares)

/-- In a session of its own, the startup after the one that parked the run closes the card and
fails the run. -/
theorem plainSession_card_closed :
    ((plainStartup 2).inOnePage cardNames interruptedSession).Performs cardNames (fun _ _ => "")
        interruptedSession (parkedSession plainStartup)
        ((plainStartup 2).swept cardNames interruptedSession) ∧
      Parked cardOwnership "r" "effect-recovery-e" "e" (parkedSession plainStartup).journal ∧
      ((plainStartup 3).inOnePage cardNames (parkedSession plainStartup)).Performs cardNames
        (fun _ _ => "") (parkedSession plainStartup) (restartedSession plainStartup)
        ((plainStartup 3).swept cardNames (parkedSession plainStartup)) ∧
      latestRunState "r" (restartedSession plainStartup).journal.envelopes = some .errored ∧
      openCard "effect-recovery-e" (restartedSession plainStartup).journal.envelopes = none := by
  refine ⟨?_, ⟨by decide, by decide, by decide⟩, ?_, by decide, by decide⟩
  · exact Startup.performs_restarted _ _ (by decide) (by decide)
  · exact Startup.performs_restarted _ _ (by decide) (by decide)

end HaiderAgent.TurnRecovery
