import HaiderAgent.Daemon.Worker.SetupCache

/-!
# Requests against the turn-setup cache

A run of the daemon as the cache sees it: journals grow, entries are evicted,
sessions are removed, and turn setup requests reductions for arbitrary selectors.
-/

namespace HaiderAgent.TurnSetup

open List

open TurnSetupReduction (new noticed announces)

/-- The journals of all sessions and the daemon's cache. -/
structure World where
  journals : SessionId → SetupJournal
  cache : Cache

/-- A request that returned, with the journal of its last page read. -/
structure Returned where
  session : SessionId
  selector : Selector
  journal : SetupJournal
  result : Except HaiderError TurnSetupReduction

/-- What a request adds to the returned ones; a caller that went away adds nothing. -/
def returnedOf (session : SessionId) (selector : Selector) :
    Option (SetupJournal × Except HaiderError TurnSetupReduction) → List Returned
  | none => []
  | some (journal, result) => [⟨session, selector, journal, result⟩]

/-- The runs from an empty cache whose requests are all `allowed`, with what they returned. -/
inductive Trace (registered : String → Bool) (allowed : World → SessionId → Selector → Prop) :
    World → List Returned → Prop
  | start (journals : SessionId → SetupJournal) : Trace registered allowed ⟨journals, {}⟩ []
  | append {world : World} {returned : List Returned} (journals : SessionId → SetupJournal) :
      Trace registered allowed world returned →
      (∀ session, (world.journals session).Grows (journals session)) →
      Trace registered allowed ⟨journals, world.cache⟩ returned
  | evict {world : World} {returned : List Returned} (slot : SessionId × Key) :
      Trace registered allowed world returned →
      Trace registered allowed ⟨world.journals, world.cache.remove slot⟩ returned
  | removeSession {world : World} {returned : List Returned} (session : SessionId) :
      Trace registered allowed world returned →
      Trace registered allowed ⟨world.journals, world.cache.removeSession session⟩ returned
  | request {world : World} {returned : List Returned} (session : SessionId)
      (selector : Selector) (reads : List SetupJournal) (journals : SessionId → SetupJournal) :
      Trace registered allowed world returned → allowed world session selector →
      PageLoop.Growing (world.journals session) reads →
      (∀ other, (world.journals other).Grows (journals other)) →
      (∀ journal ∈ reads, journal.Grows (journals session)) →
      Trace registered allowed
        ⟨journals,
          (reduceTurnSetupJournalCached registered world.cache session selector reads).2⟩
        (returned ++ returnedOf session selector
          (reduceTurnSetupJournalCached registered world.cache session selector reads).1)

/-- A reused prefix is for a run that agrees on having a workspace notice in it. -/
def NoticesAgree (world : World) (session : SessionId) (selector : Selector) : Prop :=
  ∀ cached revision, world.cache.reductions.lookup (session, selector.key) = some cached →
    cached.revision = some revision →
    noticed cached.reduction.selector.runId
        (Log.upTo (·.seq) revision.headSeq (world.journals session).envelopes) =
      noticed selector.runId
        (Log.upTo (·.seq) revision.headSeq (world.journals session).envelopes)

theorem noticed_listed (runId : RunId) (journal : SetupJournal) (cursor : Nat) :
    noticed runId (Log.upTo (·.seq) cursor journal.listed) =
      noticed runId (Log.upTo (·.seq) cursor journal.envelopes) := by
  unfold SetupJournal.listed
  rw [Log.upTo_filter, TurnSetupReduction.noticed_filter_isListed]

section Request

variable {registered : String → Bool} {world : World} {session : SessionId} {selector : Selector}
  {reads : List SetupJournal}

/-- A sound cache and an agreeing run start the loop where a fold from nothing would be. -/
theorem startLoop_synced (sound : world.cache.Sound registered world.journals)
    (agree : NoticesAgree world session selector) :
    (startLoop (world.cache.reductions.lookup (session, selector.key)) selector).Synced registered
      selector (world.journals session) := by
  cases found : world.cache.reductions.lookup (session, selector.key) with
  | none => exact PageLoop.synced_new registered selector _
  | some cached =>
    obtain ⟨lastTouched, revision, reduction⟩ := cached
    cases revision with
    | none => exact PageLoop.synced_new registered selector _
    | some revision =>
      have entry := sound session selector.key _ revision found rfl
      have notices := agree _ revision found rfl
      rw [← noticed_listed, ← noticed_listed] at notices
      refine ⟨entry.old, ?_⟩
      exact (TurnSetupReduction.observeAll_retarget_iff entry.folded entry.sameKey.symm).mpr notices

/-- A request leaves a sound cache and returns what the journal of its last read reduces to. -/
theorem request_sound (sound : world.cache.Sound registered world.journals)
    (agree : NoticesAgree world session selector)
    (growing : PageLoop.Growing (world.journals session) reads)
    {journals : SessionId → SetupJournal}
    (grows : ∀ other, (world.journals other).Grows (journals other))
    (covers : ∀ journal ∈ reads, journal.Grows (journals session)) :
    (reduceTurnSetupJournalCached registered world.cache session selector reads).2.Sound registered
        journals ∧
      ∀ journal result,
        (reduceTurnSetupJournalCached registered world.cache session selector reads).1 =
          some (journal, result) → result = reduceWhole registered selector journal := by
  have rest : (world.cache.remove (session, selector.key)).Sound registered journals :=
    (sound.of_subset fun _ _ found => Cache.lookup_of_lookup_erase found).grow grows
  unfold reduceTurnSetupJournalCached
  simp only
  cases ended : (startLoop (world.cache.reductions.lookup (session, selector.key))
      selector).run registered reads with
  | none =>
    refine ⟨rest, ?_⟩
    intro journal result impossible
    cases impossible
  | some outcome =>
    obtain ⟨last, result⟩ := outcome
    obtain ⟨further, mem, whole, anchored⟩ :=
      PageLoop.run_synced growing (startLoop_synced sound agree) ended
    cases result with
    | error error =>
      refine ⟨rest, ?_⟩
      intro journal result same
      cases same
      exact whole.symm
    | ok pair =>
      obtain ⟨reduction, revision⟩ := pair
      refine ⟨?_, ?_⟩
      · apply rest.install
        intro anchor sameRevision
        subst sameRevision
        have bound := anchored reduction anchor rfl
        have fold : reduceWhole registered selector last = .ok reduction := whole
        have kept : reduction.selector = selector := TurnSetupReduction.selector_of_observeAll fold
        have covered := covers last mem
        have atHead := SetupJournal.head_of_boundary bound
        refine ⟨congrArg Selector.key kept, ?_, ?_⟩
        · rw [atHead]
          exact covered.head_le
        · rw [covered.upTo_listed (by rw [atHead]), atHead, SetupJournal.upTo_head_listed]
          rw [kept]
          exact fold
      · intro journal result same
        cases same
        exact whole.symm

end Request

/-- Along a run every answer is the reduction of the journal it was asked for. -/
theorem Trace.sound {registered : String → Bool} {world : World} {returned : List Returned}
    (trace : Trace registered NoticesAgree world returned) :
    world.cache.Sound registered world.journals ∧
      ∀ entry ∈ returned, entry.result = reduceWhole registered entry.selector entry.journal := by
  induction trace with
  | start journals =>
    refine ⟨Cache.sound_empty registered journals, ?_⟩
    intro entry impossible
    cases impossible
  | append journals _ grows ih => exact ⟨ih.1.grow grows, ih.2⟩
  | evict slot _ ih =>
    exact ⟨ih.1.of_subset fun _ _ found => Cache.lookup_of_lookup_erase found, ih.2⟩
  | removeSession session _ ih =>
    exact ⟨ih.1.of_subset fun _ _ found => Cache.lookup_of_lookup_removeSession found, ih.2⟩
  | request session selector reads journals _ agree growing grows covers ih =>
    obtain ⟨sound, returns⟩ := request_sound ih.1 agree growing grows covers
    refine ⟨sound, ?_⟩
    intro entry mem
    rcases mem_append.mp mem with earlier | here
    · exact ih.2 entry earlier
    · unfold returnedOf at here
      split at here
      · cases here
      · rename_i journal result same
        rw [mem_singleton] at here
        subst here
        exact returns journal result same

/-- With an empty cache and a journal at rest, one read more than there are envelopes. -/
theorem reduce_empty (registered : String → Bool) (session : SessionId) (selector : Selector)
    (journal : SetupJournal) :
    (reduceTurnSetupJournalCached registered {} session selector
      (replicate (journal.listed.length + 1) journal)).1 =
      some (journal, reduceWhole registered selector journal) := by
  let start : PageLoop := { reduction := new selector, cursor := 0, expected := none }
  have ends : (start.run registered
      (replicate (journal.listed.length + 1) journal)).isSome = true := by
    apply PageLoop.run_ends
    · rfl
    · exact (length_filter_le _ _)
  obtain ⟨⟨last, result⟩, ended⟩ := Option.isSome_iff_exists.mp ends
  obtain ⟨-, mem, whole, -⟩ :=
    PageLoop.run_synced (PageLoop.growing_replicate journal _) (PageLoop.synced_new registered selector journal) ended
  have same : last = journal := eq_of_mem_replicate mem
  subst same
  have run : (startLoop ((∅ : HashMap (SessionId × Key) CachedReduction).lookup
      (session, selector.key)) selector).run registered
      (replicate (last.listed.length + 1) last) = some (last, result) := ended
  unfold reduceTurnSetupJournalCached
  simp only [run]
  cases result with
  | error error => rw [whole]; rfl
  | ok pair => rw [whole]; rfl

/-- The fold of the listed envelopes is the fold of all of them up to the last sequence. -/
theorem reduceWhole_eq_all (registered : String → Bool) (selector : Selector)
    (journal : SetupJournal) :
    (new selector).observeAll registered journal.envelopes =
      (reduceWhole registered selector journal).map fun reduction =>
        { reduction with latestSeq := TurnSetupReduction.lastSeq 0 journal.envelopes } := by
  have every := TurnSetupReduction.observeAll_listed registered (new selector) selector.runId false
    0 journal.envelopes
  have same : (new selector).forRun selector.runId false 0 = new selector := rfl
  rw [same, Bool.false_or] at every
  rw [every]
  unfold reduceWhole SetupJournal.listed
  cases folded : (new selector).observeAll registered
      (journal.envelopes.filter SetupEnvelope.isListed) with
  | error error => rfl
  | ok reduction =>
    have fixed := TurnSetupReduction.forRun_of_observeAll folded
    rw [TurnSetupReduction.noticed_filter_isListed] at fixed
    refine congrArg Except.ok ?_
    conv_rhs => rw [fixed]
    rfl

/-- Turn setup over the cache: in every run whose requests reuse a prefix only for a run that
agrees with the prefix's own on workspace notices, each returned reduction is the one an empty
cache returns on the same journal, the fold of all its envelopes up to the last sequence. -/
theorem setup_requests_transparent {registered : String → Bool} {world : World}
    {returned : List Returned} (trace : Trace registered NoticesAgree world returned) :
    ∀ entry ∈ returned,
      (reduceTurnSetupJournalCached registered {} entry.session entry.selector
          (replicate (entry.journal.listed.length + 1) entry.journal)).1 =
        some (entry.journal, entry.result) ∧
      (new entry.selector).observeAll registered entry.journal.envelopes =
        entry.result.map fun reduction =>
          { reduction with latestSeq := TurnSetupReduction.lastSeq 0 entry.journal.envelopes } := by
  intro entry member
  rw [trace.sound.2 entry member]
  exact ⟨reduce_empty registered entry.session entry.selector entry.journal,
    reduceWhole_eq_all registered entry.selector entry.journal⟩

/-- The selector of the main lane for a run. -/
def mainLane (runId : RunId) : Selector where
  runId := runId
  branchId := none
  agentId := none
  provider := "p"
  model := "m"
  accountScope := none
  authScope := "api_key"

/-- A journal of one envelope. -/
def oneEnvelope (payload : SetupPayload) : SetupJournal where
  envelopes :=
    [{ eventId := "e", seq := 1, branchId := none, runId := some "a", agentId := none,
       committedAtMs := 5, payload := payload }]
  increasing := pairwise_singleton _ _
  positive := by
    intro e member
    rw [mem_singleton] at member
    subst member
    exact Nat.one_pos

/-- Run `a` asks for its reduction, and then run `b` of the same lane asks for its own. -/
def firstRequest (journal : SetupJournal) :
    Option (SetupJournal × Except HaiderError TurnSetupReduction) × Cache :=
  reduceTurnSetupJournalCached (fun _ => false) {} "s" (mainLane "a") [journal, journal]

/-- The second run's request, on the cache the first left. -/
def secondRequest (journal : SetupJournal) :
    Option (SetupJournal × Except HaiderError TurnSetupReduction) × Cache :=
  reduceTurnSetupJournalCached (fun _ => false) (firstRequest journal).2 "s" (mainLane "b")
    [journal]

/-- Two runs without a workspace notice share the prefix of a user message. -/
theorem setup_requests_transparent_twoRuns :
    (secondRequest (oneEnvelope (.event (.userMessage "hi")))).1.isSome = true ∧
    ∀ entry ∈ returnedOf "s" (mainLane "b")
        (secondRequest (oneEnvelope (.event (.userMessage "hi")))).1,
      (reduceTurnSetupJournalCached (fun _ => false) {} entry.session entry.selector
          (replicate (entry.journal.listed.length + 1) entry.journal)).1 =
        some (entry.journal, entry.result) ∧
      (new entry.selector).observeAll (fun _ => false) entry.journal.envelopes =
        entry.result.map fun reduction =>
          { reduction with latestSeq := TurnSetupReduction.lastSeq 0 entry.journal.envelopes } := by
  let journal := oneEnvelope (.event (.userMessage "hi"))
  have quiet : ∀ runId cursor,
      noticed runId (Log.upTo (·.seq) cursor journal.envelopes) = false := by
    intro runId cursor
    apply any_eq_false.mpr
    intro e member
    have only := (Log.mem_upTo.mp member).1
    rw [show journal.envelopes = [_] from rfl, mem_singleton] at only
    subst only
    exact Bool.false_ne_true
  have agree : ∀ cache selector, NoticesAgree ⟨fun _ => journal, cache⟩ "s" selector := by
    intro cache selector cached revision _ _
    exact (quiet _ _).trans (quiet _ _).symm
  have covered : ∀ n, ∀ held ∈ replicate n journal, held.Grows journal := by
    intro n held member
    rw [eq_of_mem_replicate member]
    exact SetupJournal.Grows.refl journal
  have start : Trace (fun _ => false) NoticesAgree ⟨fun _ => journal, {}⟩ [] := Trace.start _
  have first := Trace.request "s" (mainLane "a") (replicate 2 journal) (fun _ => journal)
    start (agree _ _) (PageLoop.growing_replicate journal 2)
    (fun _ => SetupJournal.Grows.refl journal) (covered 2)
  have second := Trace.request "s" (mainLane "b") (replicate 1 journal) (fun _ => journal)
    first (agree _ _) (PageLoop.growing_replicate journal 1)
    (fun _ => SetupJournal.Grows.refl journal) (covered 1)
  refine ⟨by decide +kernel, fun entry member => ?_⟩
  exact setup_requests_transparent second entry (mem_append_right _ member)

/-- The workspace of run `a` was unavailable: the reused prefix says so to run `b`, and a fold
for run `b` does not. -/
theorem notice_carried_to_next_run :
    (secondRequest (oneEnvelope (.workspace
        (.workspaceUnavailable "/w" "missing" "gone")))).1.map
          (fun returned => returned.2.toOption.map (·.sameRunWorkspaceUnavailable)) =
      some (some true) ∧
    (reduceWhole (fun _ => false) (mainLane "b") (oneEnvelope (.workspace
        (.workspaceUnavailable "/w" "missing" "gone")))).toOption.map
          (·.sameRunWorkspaceUnavailable) = some false := by
  decide +kernel

end HaiderAgent.TurnSetup
