import HaiderAgent.Daemon.TurnRecovery.ForkedRows
import HaiderAgent.Daemon.TurnRecovery.RestartStability
import HaiderAgent.Store.Fork.Cursors

/-!
# Startup recovery of a forked session

A fork closes the runs it cut in the middle (`append_fork_boundary_closures`,
`haider-store/src/event_store.rs`) by their states only. Beside them recovery finds what the copied
prefix leaves in flight: an effect dispatched before the cut whose outcome lies behind it, a
cancellation mirror still owed to a parent, a request-attempt marker of a run without a state.
-/

namespace HaiderAgent.Fork

open List ExceptFold

open TurnRecovery EffectRecovery Startup

/-- The checkpoints that startups leave while nothing is committed to the session. -/
inductive Restarted (journal : Journal) : RecoveryCheckpoint → Prop
  | fresh : Restarted journal {}
  | startup {checkpoint : RecoveryCheckpoint} {pages : List ReducerPage} (visitorCursor : Nat) :
      Restarted journal checkpoint →
      ReadsPages journal (min checkpoint.throughSeq visitorCursor) pages →
      Restarted journal (checkpoint.store (checkpoint.hydrate pages))

/-- A startup that finds the child, in the fork's generation or later, without a delegation. -/
structure ChildStartup (command : ForkCommand) (startup : Startup) : Prop where
  session : startup.view.sessionId = command.sessionId
  generation : command.workerGeneration ≤ startup.view.workerGeneration
  undelegated : startup.view.delegationForChildSession = none

/-- Whatever startups came before, the next commits nothing, hands back nothing, and passes. -/
def NoLiveWork (names : RecoveryNames) (argsDigest : RunId → Nat → String) (command : ForkCommand)
    (journal : Journal) : Prop :=
  ∀ startup checkpoint, ChildStartup command startup → Restarted journal checkpoint →
    ReadsPages journal (min checkpoint.throughSeq startup.visitorCursor) startup.pages →
    startup.sweep names journal = .ok journal ∧
      ∃ progress : Progress,
        startup.recoverRuns argsDigest (checkpoint.hydrate startup.pages).reductions journal =
          .ok progress ∧ progress.journal = journal ∧ progress.work = []

/-- The copied prefix leaves nothing in flight. -/
structure NothingInFlight (command : ForkCommand) (owner : Option AgentId)
    (selected : List JournalEnvelope) : Prop where
  /-- Its effects are decodable, have an outcome, and a card if the outcome is unknown. -/
  effects : NothingPending (movedRows command owner selected)
  /-- A run with a state owes no cancellation mirror. -/
  mirrors : ∀ runId, (latestRunState runId (movedRows command owner selected)).isSome →
    (coordinatesOf (hydrated (movedRows command owner selected)) runId).delegationMirrorHandoffs = ∅
  /-- A run that the fork does not close has no bad request-attempt marker where recovery knows
  no state of it. -/
  markers : ∀ runId,
    (∀ agentId, (runId, agentId) ∉ unfinishedLanes payloadView (selected.map (moved command owner))) →
    ∀ rest, RememberedTail runId (hydrated (movedRows command owner selected)) rest →
    ∀ reduction, reductionOf rest runId = some reduction → reduction.state = none →
      reduction.providerRequestAttemptCorrupt = false

/-! ## What a startup leaves alone -/

variable {startup : Startup}

/-- The passes leave a child's journal as it is exactly where nothing is pending in it. -/
theorem ChildStartup.sweep_eq_iff {command : ForkCommand}
    (starts : ChildStartup command startup) (names : RecoveryNames) (journal : Journal) :
    startup.sweep names journal = .ok journal ↔ NothingPending journal.envelopes := by
  have spawned : startup.abandonedSpawn = none := by
    rw [abandonedSpawn, starts.undelegated]
    rfl
  have swept (batch : List RawEnvelope) :
      startup.reconcileAbandonedPublicSpawns (journal.append batch) = .ok (journal.append batch) := by
    rw [reconcileAbandonedPublicSpawns, spawned]
  rw [← reconcileBatch_eq_nil_iff names startup.pass startup.view.sessionId]
  constructor
  · intro unchanged
    obtain ⟨batch, reconciled, unchanged⟩ := bind_eq_ok.mp unchanged
    rw [swept] at unchanged
    have rows := congrArg Journal.envelopes (Except.ok.inj unchanged)
    rw [Journal.append_envelopes, append_right_eq_self] at rows
    cases batch with
    | nil => exact reconciled
    | cons first rest => cases rows
  · intro reconciled
    rw [sweep, reconciled]
    exact (swept []).trans (by rw [Journal.append_nil])

/-- Every run the page loop knows has passed its `retain` test. -/
def Retained (reductions : HashMap RunId RunReduction) : Prop :=
  ∀ runId reduction, reductions.lookup runId = some reduction → retainedAcrossPages reduction = true

theorem Retained.page {loop : HydrationLoop} (retained : Retained loop.reductions)
    (turnCursor : Nat) (page : ReducerPage) : Retained (loop.page turnCursor page).reductions := by
  unfold HydrationLoop.page
  split
  · exact retained
  · intro runId reduction known
    rw [KeyedFold.lookup_retain, Option.filter_eq_some_iff] at known
    exact known.2

variable {checkpoint : RecoveryCheckpoint}

theorem Retained.hydrate (retained : Retained checkpoint.reductions)
    (pages : List ReducerPage) : Retained (checkpoint.hydrate pages).reductions := by
  unfold RecoveryCheckpoint.hydrate
  have start : Retained (HydrationLoop.mk checkpoint.reductions none).reductions := retained
  generalize HydrationLoop.mk checkpoint.reductions none = loop at start ⊢
  induction pages generalizing loop with
  | nil => exact start
  | cons page rest ih => exact ih _ (start.page checkpoint.throughSeq page)

theorem Restarted.retained {journal : Journal}
    (restarted : Restarted journal checkpoint) : Retained checkpoint.reductions := by
  induction restarted with
  | fresh => exact fun runId _ known => by simp at known
  | startup _ _ _ ih =>
    unfold RecoveryCheckpoint.store
    split
    · exact ih.hydrate _
    · exact ih

theorem Restarted.recovered {journal : Journal}
    (restarted : Restarted journal checkpoint) : Recovered journal checkpoint := by
  induction restarted with
  | fresh => exact .fresh journal
  | startup visitorCursor _ reads ih => exact ih.startup visitorCursor reads

theorem branchMismatch_of_main {es : List RawEnvelope} (main : ∀ e ∈ es, e.branchId = none)
    {runId : RunId} {reduction : RunReduction} (known : reductionOf es runId = some reduction) :
    reduction.branchMismatch = false := by
  have step (standing : RunStanding) (e : RawEnvelope) (here : e.branchId = none)
      (before : standing.branchMismatch = false ∧ standing.branchId = none) :
      (standing.step e).branchMismatch = false ∧ (standing.step e).branchId = none := by
    have observed : (standing.observe e).branchMismatch = false ∧
        (standing.observe e).branchId = none := by
      simp only [RunStanding.observe, before.2, here, bne_self_eq_false, Bool.and_false,
        Bool.false_eq_true, if_false]
      split <;> simp [before]
    unfold RunStanding.step
    split <;> exact observed
  rw [reductionOf_eq] at known
  split at known
  · cases known
  · cases known
    have own (e : RawEnvelope) (mem : e ∈ runEnvelopes runId es) : e.branchId = none :=
      main e (mem_of_mem_filter mem)
    generalize runEnvelopes runId es = rows at own ⊢
    have run (before : RunReduction) (start : before.branchMismatch = false ∧ before.branchId = none) :
        (rows.foldl reduceEntry before).branchMismatch = false := by
      induction rows generalizing before with
      | nil => exact start.1
      | cons e rest ih =>
        refine ih (fun e' mem => own e' (mem_cons_of_mem _ mem)) _ ?_
        have stepped := step before.standing e (own e mem_cons_self) start
        rw [← reduceEntry_standing] at stepped
        exact stepped
    exact run {} ⟨rfl, rfl⟩

theorem recoverRuns_idle {argsDigest : RunId → Nat → String}
    {reductions : HashMap RunId RunReduction} (journal : Journal)
    (idle : ∀ runId reduction, reductions.lookup runId = some reduction →
      decideRun argsDigest startup.view runId reduction = .ok {}) :
    startup.recoverRuns argsDigest reductions journal = .ok { journal } := by
  have left (entry : RunId × RunReduction) (mem : entry ∈ runs reductions) :
      decideRun argsDigest startup.view entry.1 entry.2 = .ok {} :=
    idle _ _ (mem_runs.mp mem)
  unfold recoverRuns
  generalize runs reductions = entries at left
  induction entries with
  | nil => rfl
  | cons entry rest ih =>
    have turn : startup.recoverRun argsDigest { journal } entry = .ok { journal } := by
      simp [recoverRun, left entry mem_cons_self, recoveryEnvelopes, bind,
        Except.bind, pure, Except.pure]
    rw [foldlM_cons, turn]
    exact ih fun entry' mem => left entry' (mem_cons_of_mem _ mem)

section Child

variable {command : ForkCommand} {owner : Option AgentId} {selected : List JournalEnvelope}
  {journal : Journal} {copied closed : List RawEnvelope} {names : RecoveryNames}
  {argsDigest : RunId → Nat → String} {runId : RunId} {reduction : RunReduction}
  {rest : List RawEnvelope}

variable (child : ChildRows command owner selected journal.envelopes copied closed)
include child

/-- Recovery knows no state of a child's run: all have ended, and ended ones are dropped. -/
theorem ChildRows.stateless (settled : NothingInFlight command owner selected)
    (remembered : RememberedTail runId (hydrated journal.envelopes) rest)
    (known : reductionOf rest runId = some reduction) (kept : retainedAcrossPages reduction = true)
    (main : reduction.branchMismatch = false) :
    reduction.state = none := by
  obtain ⟨handoffs, states⟩ := state_remembered remembered known
  cases state : reduction.state with
  | none => rfl
  | some found =>
    rw [state] at states
    rcases states with latest | ⟨⟨⟩, -⟩
    have ended := child.latest_terminal latest.symm
    have begun : (latestRunState runId (movedRows command owner selected)).isSome :=
      child.latest_isSome (by rw [← latest]; rfl)
    have owed : reduction.delegationMirrorHandoffs = ∅ := by
      rw [handoffs, child.handoffs, settled.mirrors runId begun]
    rw [retainedAcrossPages, main, owed, state] at kept
    simp [ended] at kept

/-- And a prefix with nothing in flight gives a child without live work. -/
theorem ChildRows.noLiveWork (settled : NothingInFlight command owner selected) :
    NoLiveWork names argsDigest command journal := by
  intro startup checkpoint starts restarted reads
  have back : List.Forall₂ SameRow (movedRows command owner selected) copied :=
    (child.sameRows.imp fun _ _ row => SameRow.symm row).flip
  refine ⟨?_, { journal }, recoverRuns_idle journal fun runId reduction known => ?_, rfl, rfl⟩
  · rw [starts.sweep_eq_iff, child.effects]
    exact nothingPending_of_sameRows back settled.effects
  · obtain ⟨rest, remembered, entry⟩ := (restarted.recovered.sound.hydrate reads).entry known
    have kept := restarted.retained.hydrate startup.pages runId reduction known
    have main : reduction.branchMismatch = false :=
      branchMismatch_of_main (fun e mem => child.branch e
        (mem_of_mem_filter (remembered.suffix.subset mem))) entry
    have stateless := child.stateless settled remembered entry kept main
    suffices sound : reduction.providerRequestAttemptCorrupt = false by
      simp [decideRun, main, sound, stateless]
    by_cases finished : ∀ agentId,
        (runId, agentId) ∉ unfinishedLanes payloadView (selected.map (moved command owner))
    · obtain ⟨own, moved, same⟩ := child.remembered_moved finished remembered
      rw [entry, Option.map_some] at same
      obtain ⟨other, ownEntry, standing⟩ := Option.map_eq_some_iff.mp same.symm
      have ownState : other.state = none := by
        have states := congrArg RunStanding.state standing
        simp only [RunReduction.standing, stateless, Option.map_none] at states
        exact Option.map_eq_none_iff.mp states
      have sound := settled.markers runId finished own moved other ownEntry ownState
      have corrupts := congrArg (fun standing : RunStanding => standing.requests.corrupt) standing
      exact corrupts.symm.trans sound
    · obtain ⟨agentId, unfinished⟩ := not_forall_not.mp finished
      exact absurd stateless (child.state_of_closed unfinished remembered entry)

omit child

/-! ## What a startup finds -/

/-- A startup in the generation of the fork that reads the given pages. -/
def firstStartup (command : ForkCommand) (pages : List ReducerPage) : Startup where
  view := { plainSession command.workerGeneration with sessionId := command.sessionId }
  deviceId := command.deviceId
  evidence _ := none
  cancelRecorded := false
  abandonedGraph := []
  visitorCursor := 0
  pages := pages

theorem firstStartup_starts (command : ForkCommand) (pages : List ReducerPage) :
    ChildStartup command (firstStartup command pages) := ⟨rfl, le_rfl, rfl⟩

/-- A loop that hands back no work decided every run without an error and without work. -/
theorem decideRun_of_recoverRuns {startup : Startup} {reductions : HashMap RunId RunReduction}
    {progress : Progress}
    (recovered : startup.recoverRuns argsDigest reductions journal = .ok progress)
    (workless : progress.work = []) (known : reductions.lookup runId = some reduction) :
    ∃ decision, decideRun argsDigest startup.view runId reduction = .ok decision ∧
      decision.work = [] := by
  obtain ⟨before, after, split⟩ := append_of_mem
    (mem_runs.mpr (show reductions.lookup (runId, reduction).1 = some _ from known))
  rw [recoverRuns, split] at recovered
  obtain ⟨early, late, -, turn, rest⟩ := foldlM_at recovered
  have grows : late.work <+: progress.work := by
    refine foldlM_rel (fun s t : Progress => s.work <+: t.work)
      (fun _ => prefix_rfl) (fun _ _ _ first second => first.trans second) ?_ rest
    intro entry _ s t decided
    obtain ⟨decision, -, decided⟩ := bind_eq_ok.mp decided
    cases decided
    exact prefix_append _ _
  rw [workless, prefix_nil] at grows
  obtain ⟨decision, decided, turn⟩ := bind_eq_ok.mp turn
  cases turn
  exact ⟨decision, decided, (append_eq_nil_iff.mp grows).2⟩

/-- What a first startup knows of a run, whatever the page ends. -/
theorem NoLiveWork.decides (live : NoLiveWork names argsDigest command journal)
    {batches : List (List RawEnvelope)} (full : ∀ batch ∈ batches, batch ≠ [])
    (cut : batches.flatten = hydrated journal.envelopes) (known : (batches.foldl (fun m batch =>
      KeyedFold.retain retainedAcrossPages (batch.foldl reduce m)) ∅).lookup runId = some reduction) :
    ∃ view decision, decideRun argsDigest view runId reduction = .ok decision ∧
      decision.work = [] := by
  have listed : listedAfter journal 0 = hydrated journal.envelopes := by
    rw [listedAfter, filter_eq_self.mpr fun e mem => decide_eq_true (journal.positive e mem)]
  have reads : ReadsPages journal (min 0 0) (pagesOf journal batches) :=
    readsPages_pagesOf full (cut.trans listed.symm)
  have positive (batch : List RawEnvelope) (mem : batch ∈ batches) (e : RawEnvelope)
      (inside : e ∈ batch) : 0 < e.seq := by
    have here : e ∈ hydrated journal.envelopes := cut ▸ mem_flatten.mpr ⟨batch, mem, inside⟩
    exact journal.positive e (mem_of_mem_filter here)
  obtain ⟨-, progress, recovered, -, workless⟩ :=
    live (firstStartup command (pagesOf journal batches)) {} (firstStartup_starts command _)
      .fresh reads
  have entry : (RecoveryCheckpoint.hydrate {} (pagesOf journal batches)).reductions.lookup runId =
      some reduction := by
    rw [reductions_pagesOf full positive]
    exact known
  obtain ⟨decision, decided, quiet⟩ := decideRun_of_recoverRuns recovered workless entry
  exact ⟨_, decision, decided, quiet⟩

/-- Some page ends make a first startup know what it may remember of a run. -/
theorem NoLiveWork.decides_remembered (live : NoLiveWork names argsDigest command journal)
    (remembered : RememberedTail runId (hydrated journal.envelopes) rest)
    (known : reductionOf rest runId = some reduction) (kept : retainedAcrossPages reduction = true) :
    ∃ view decision, decideRun argsDigest view runId reduction = .ok decision ∧
      decision.work = [] := by
  obtain ⟨batches, full, split, unknown⟩ := remembered.exists_batches
  have nonempty : rest ≠ [] := by
    rintro rfl
    cases known
  have whole : (batches ++ [rest]).flatten = hydrated journal.envelopes := by simp [split]
  refine live.decides ?_ whole ?_
  · intro batch mem
    rcases mem_append.mp mem with earlier | last
    · exact full batch earlier
    · rw [mem_singleton.mp last]
      exact nonempty
  · rw [reductionOf_eq_final] at known
    rw [reduce_eq_route, foldl_append, foldl_cons, foldl_nil, KeyedFold.lookup_retain,
      KeyedFold.lookup_foldl_of_final _ _ _
        (unknown.trans rfl : _ = KeyedFold.final reduceKey reduceEntry {} runId []),
      nil_append, known, Option.filter_some, if_pos kept]

/-- An ended run that owes a mirror is work, or an error. -/
theorem decideRun_owing {view : StoreView}
    {state : RunState} {seq : Nat} (latest : reduction.state = some (state, seq))
    (ended : state.isTerminal = true) (owing : reduction.delegationMirrorHandoffs ≠ ∅)
    {decision : RunDecision} (decided : decideRun argsDigest view runId reduction = .ok decision) :
    decision.work ≠ [] := by
  have handoffs : mirrorHandoffs reduction ≠ [] := by
    intro none
    have entries := (perm_insertionSort (fun a b : DelegationMirrorHandoff =>
      a.handoffId ≤ b.handoffId) _).symm.trans (List.Perm.of_eq none)
    exact owing (AList.ext (map_eq_nil_iff.mp entries.eq_nil))
  unfold decideRun at decided
  split at decided
  · cases decided
  · split at decided
    · cases decided
    · rw [latest] at decided
      obtain ⟨mirrors, mapped, decided⟩ := bind_eq_ok.mp decided
      rw [if_pos (.inl ended)] at decided
      cases decided
      intro (none : mirrors = [])
      obtain ⟨first, later, split⟩ := exists_cons_of_ne_nil handoffs
      rw [split, none, mapM_cons] at mapped
      obtain ⟨work, -, mapped⟩ := bind_eq_ok.mp mapped
      obtain ⟨works, -, mapped⟩ := bind_eq_ok.mp mapped
      cases mapped

/-- A child without live work comes from a prefix with nothing in flight. -/
theorem ChildRows.nothingInFlight
    (child : ChildRows command owner selected journal.envelopes copied closed)
    (live : NoLiveWork names argsDigest command journal) :
    NothingInFlight command owner selected := by
  refine ⟨?_, fun runId begun => ?_, fun runId finished rest remembered reduction known stateless => ?_⟩
  · obtain ⟨swept, -⟩ := live (firstStartup command (onePage journal 0)) {}
      (firstStartup_starts command _) .fresh (readsPages_onePage journal 0)
    rw [(firstStartup_starts command _).sweep_eq_iff, child.effects] at swept
    exact nothingPending_of_sameRows child.sameRows swept
  · by_contra owing
    rw [← child.handoffs] at owing
    obtain ⟨state, latest⟩ := Option.isSome_iff_exists.mp (child.isSome_of_moved begun)
    have ended := child.latest_terminal latest
    rw [← latestRunState_hydrated, ← coordinatesOf_state] at latest
    obtain ⟨⟨_, seq⟩, found, rfl⟩ := Option.map_eq_some_iff.mp latest
    unfold coordinatesOf at owing found
    cases known : reductionOf (hydrated journal.envelopes) runId with
    | none =>
      rw [known] at found
      cases found
    | some reduction =>
      rw [known] at owing found
      have kept : retainedAcrossPages reduction = true := by
        have some : reduction.delegationMirrorHandoffs.entries ≠ [] :=
          fun none => owing (AList.ext none)
        simp [retainedAcrossPages, some]
      obtain ⟨view, decision, decided, workless⟩ := live.decides_remembered .all known kept
      exact decideRun_owing found ended owing decided workless
  · by_contra corrupts
    obtain ⟨own, ownTail, same⟩ := child.remembered_child finished remembered
    rw [known, Option.map_some] at same
    obtain ⟨other, ownEntry, standing⟩ := Option.map_eq_some_iff.mp same
    have ownState : other.state = none := by
      have states := congrArg RunStanding.state standing
      simp only [RunReduction.standing, stateless, Option.map_none] at states
      exact Option.map_eq_none_iff.mp states
    have ownCorrupt : other.providerRequestAttemptCorrupt = true := by
      have same := congrArg (fun standing : RunStanding => standing.requests.corrupt) standing
      change other.providerRequestAttemptCorrupt = reduction.providerRequestAttemptCorrupt at same
      rw [same]
      simpa using corrupts
    have kept : retainedAcrossPages other = true := by simp [retainedAcrossPages, ownState]
    obtain ⟨view, decision, decided, -⟩ := live.decides_remembered ownTail ownEntry kept
    rw [decideRun, ownCorrupt] at decided
    split at decided <;> cases decided

end Child

/-- A forked session has no live work if and only if the copied prefix leaves nothing in flight. -/
theorem fork_no_live_work_iff (names : RecoveryNames) (argsDigest : RunId → Nat → String)
    (around : Surroundings) (branches : List BranchDescriptor) (taken : List EventId)
    (command : ForkCommand) (owner : Option AgentId) (now : Nat) (source child : List JournalEnvelope)
    (forked : forkSession payloadView around branches taken command owner now source = .ok child) :
    NoLiveWork names argsDigest command (sessionJournal child (forkSession_seqs forked)) ↔
      NothingInFlight command owner (forkedPrefix payloadView branches command source) := by
  obtain ⟨copies, accepted, -⟩ := forkSession_ok forked
  obtain ⟨copied, closed, rows⟩ := accepted.childRows
  exact ⟨fun live => rows.nothingInFlight live, fun settled => rows.noLiveWork settled⟩

/-- A turn that starts a server; the outcome comes behind the node that settled the tool call,
or before it. -/
def servingSession (outcomeLate : Bool) : List JournalEnvelope :=
  let node : RawPayload :=
    .event (.nodeCommitted ⟨"node", none, .toolExchange "process_exec" "settled" none⟩)
  let outcome : RawPayload := .event (.effect (.outcome "serve" .ok))
  [mainEntry 1 none (.event (.sessionState .created)),
    mainEntry 2 (some "r1") (.event (.runState .queued)),
    mainEntry 3 (some "r1") (.event (.userMessage "start the server" [] emptyObject)),
    mainEntry 4 (some "r1") (.event (.effect (.dispatched "serve"))),
    mainEntry 5 (some "r1") (if outcomeLate then node else outcome),
    mainEntry 6 (some "r1") (if outcomeLate then outcome else node),
    mainEntry 7 (some "r1") (.event (.runState .done))]

/-- The fork at the node. -/
def servingFork (outcomeLate : Bool) : ForkCommand := mainFork (if outcomeLate then 5 else 6)

/-- The child of the fork, its outcome copied or left behind. -/
def servingChild (outcomeLate : Bool) : List JournalEnvelope :=
  (forkSession payloadView prefixedIds [] [] (servingFork outcomeLate) none 100
    (servingSession outcomeLate)).toOption.getD []

theorem servingSession_forks (outcomeLate : Bool) :
    forkSession payloadView prefixedIds [] [] (servingFork outcomeLate) none 100
      (servingSession outcomeLate) = .ok (servingChild outcomeLate) := by
  cases outcomeLate <;> decide +kernel

/-- The child's rows as a journal. -/
def servingJournal (outcomeLate : Bool) : Journal :=
  sessionJournal (servingChild outcomeLate) (forkSession_seqs (servingSession_forks outcomeLate))

/-- Cut behind the outcome, the session has nothing in flight: the only run is closed. -/
theorem servingSession_settled :
    NothingInFlight (servingFork false) none
      (forkedPrefix payloadView [] (servingFork false) (servingSession false)) := by
  have cut : forkedPrefix payloadView [] (servingFork false) (servingSession false) =
      (servingSession false).take 6 := by
    decide +kernel
  have lane : ("r1", none) ∈ unfinishedLanes payloadView
      (((servingSession false).take 6).map (moved (servingFork false) none)) := by decide +kernel
  have rows (runId : RunId) (other : runId ≠ "r1") : runEnvelopes runId
      (hydrated (movedRows (servingFork false) none ((servingSession false).take 6))) = [] := by
    refine filter_eq_nil_iff.mpr fun e mem => ?_
    have owned : ∀ e ∈ hydrated (movedRows (servingFork false) none
        ((servingSession false).take 6)), e.runId = some "r1" := by decide +kernel
    unfold reduceKey
    split
    · simpa [owned e mem] using Ne.symm other
    · simp
  rw [cut]
  refine ⟨?_, fun runId _ => ?_, fun runId finished rest remembered reduction known => ?_⟩
  · exact (reconcileBatch_eq_nil_iff cardNames (firstStartup (servingFork false) []).pass "child"
      ⟨movedRows (servingFork false) none ((servingSession false).take 6),
        by decide +kernel, by decide +kernel⟩).mp (by decide +kernel)
  · by_cases own : runId = "r1"
    · subst own
      refine AList.ext ?_
      decide +kernel
    · rw [coordinatesOf, getD_reductionOf, rows runId own]
      rfl
  · by_cases own : runId = "r1"
    · exact absurd lane (own ▸ finished none)
    · have none := remembered.suffix_filter
      change runEnvelopes runId rest <:+ runEnvelopes runId _ at none
      rw [rows runId own, suffix_nil] at none
      rw [reductionOf_eq, if_pos none] at known
      cases known

theorem fork_no_live_work_servingSession :
    NoLiveWork cardNames (fun _ _ => "digest") (servingFork false) (servingJournal false) :=
  (fork_no_live_work_iff cardNames (fun _ _ => "digest") prefixedIds [] [] (servingFork false) none
    100 (servingSession false) (servingChild false) (servingSession_forks false)).mpr
      servingSession_settled

/-- The first startup of the child explains the effect that was running at the cut: an unknown
outcome, a recovery card, and the closed run is parked behind it. -/
theorem fork_revives_dispatched_effect :
    ((firstStartup (servingFork true) []).sweep cardNames (servingJournal true)).toOption.map
        (fun swept => (swept.envelopes.drop 8).map (·.payload.type)) =
        some [some "effect", some "menu_opened", some "run_state"] ∧
      ¬ NoLiveWork cardNames (fun _ _ => "digest") (servingFork true) (servingJournal true) := by
  have swept : ((firstStartup (servingFork true) []).sweep cardNames
      (servingJournal true)).toOption.map
      (fun swept => (swept.envelopes.drop 8).map (·.payload.type)) =
        some [some "effect", some "menu_opened", some "run_state"] := by
    decide +kernel
  refine ⟨swept, fun live => ?_⟩
  obtain ⟨unchanged, -⟩ := live
    (firstStartup (servingFork true) (onePage (servingJournal true) 0)) {}
    (firstStartup_starts _ _) .fresh (readsPages_onePage (servingJournal true) 0)
  change (firstStartup (servingFork true) []).sweep cardNames _ = .ok _ at unchanged
  rw [unchanged] at swept
  revert swept
  decide +kernel

end HaiderAgent.Fork
