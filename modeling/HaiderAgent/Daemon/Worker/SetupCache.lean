import HaiderAgent.Daemon.Worker.TurnSetup
import HaiderAgent.Lib.Log

/-!
# The turn-setup cache

`TurnSetupReductionCache` and `reduce_turn_setup_journal_cached`
(`haider-daemon/src/worker.rs`). An entry is a reduction of a journal prefix,
anchored to the head it was read at and kept under a key without the run; a later
request for the same key retargets it and reads only the suffix.
-/

namespace HaiderAgent.TurnSetup

open List

open TurnSetupReduction (new noticed)

/-- The committed envelopes of one session, by increasing `seq`. -/
structure SetupJournal where
  envelopes : List SetupEnvelope
  increasing : Log.Increasing (·.seq) envelopes
  positive : ∀ e ∈ envelopes, 0 < e.seq

/-- `TurnSetupJournalRevision` (`worker.rs`). -/
structure Revision where
  headSeq : Nat
  headEventId : EventId
  deriving DecidableEq, Repr

namespace SetupJournal

variable (journal : SetupJournal)

/-- `journal_boundary_with_connection` (`haider-store/src/event_store.rs`). -/
def boundary : Option Revision :=
  journal.envelopes.getLast?.map fun e => ⟨e.seq, e.eventId⟩

/-- The rows of the listed kinds. -/
def listed : List SetupEnvelope :=
  journal.envelopes.filter SetupEnvelope.isListed

/-- The envelopes of `read_reducer_page_with_boundary` for the setup kinds, 256 at a time. -/
def page (cursor : Nat) : List SetupEnvelope :=
  (Log.after (·.seq) cursor journal.listed).take 256

/-- The newest sequence number. -/
def head (journal : SetupJournal) : Nat := Log.head (·.seq) journal.envelopes

/-- A journal is extended at its head. -/
def Grows (journal later : SetupJournal) : Prop := journal.envelopes <+: later.envelopes

end SetupJournal

/-- `CachedTurnSetupReduction` (`worker.rs`). -/
structure CachedReduction where
  lastTouched : Nat
  revision : Option Revision
  reduction : TurnSetupReduction

/-- `TurnSetupReductionCacheEntries` (`worker.rs`). -/
structure Cache where
  touchClock : Nat := 0
  reductions : HashMap (SessionId × Key) CachedReduction := ∅

/-- `TURN_SETUP_REDUCTION_CACHE_LIMIT`. -/
def turnSetupReductionCacheLimit : Nat := 16

namespace Cache

/-- `remove_session`. -/
def removeSession (cache : Cache) (session : SessionId) : Cache :=
  { cache with
    reductions :=
      ⟨cache.reductions.entries.filter fun entry => entry.1.1 ≠ session,
        cache.reductions.nodupKeys.sublist filter_sublist⟩ }

/-- A slot is dropped. -/
def remove (cache : Cache) (slot : SessionId × Key) : Cache :=
  { cache with reductions := cache.reductions.erase slot }

/-- `min_by_key` on the touch clock: the first of the smallest. -/
def leastTouched (entries : HashMap (SessionId × Key) CachedReduction) :
    Option (SessionId × Key) :=
  (entries.entries.foldl
    (fun (best : Option ((SessionId × Key) × Nat)) entry =>
      match best with
      | none => some (entry.1, entry.2.lastTouched)
      | some held =>
        if entry.2.lastTouched < held.2 then some (entry.1, entry.2.lastTouched) else some held)
    none).map (·.1)

/-- The eviction loop of `install`; each turn drops one entry. -/
def evict : Nat → HashMap (SessionId × Key) CachedReduction →
    HashMap (SessionId × Key) CachedReduction
  | 0, entries => entries
  | turns + 1, entries =>
    if turnSetupReductionCacheLimit < entries.entries.length then
      match leastTouched entries with
      | none => entries
      | some slot => evict turns (entries.erase slot)
    else entries

/-- The `replace` test of `install`. -/
def replaces (candidate current : Option Revision) : Bool :=
  match candidate, current with
  | some candidate, some current => current.headSeq < candidate.headSeq || candidate == current
  | some _, none | none, none => true
  | none, some _ => false

/-- `install`: an older candidate never replaces a newer one. -/
def install (cache : Cache) (slot : SessionId × Key) (candidate : CachedReduction) : Cache :=
  let touchClock := saturatingAdd cache.touchClock 1
  let candidate := { candidate with lastTouched := touchClock }
  let replace := (cache.reductions.lookup slot).all fun current =>
    replaces candidate.revision current.revision
  let reductions :=
    if replace then cache.reductions.insert slot candidate else cache.reductions
  { touchClock := touchClock, reductions := evict reductions.entries.length reductions }

end Cache

/-- The variables of the page loop of `reduce_turn_setup_journal_cached`. -/
structure PageLoop where
  reduction : TurnSetupReduction
  cursor : Nat
  expected : Option Revision
  final : Option Revision := none
  exactBoundary : Bool := true

/-- What one page read leads to. -/
inductive PageRead where
  | again (loop : PageLoop)
  | failed (error : HaiderError)
  | returned (reduction : TurnSetupReduction) (revision : Option Revision)

namespace PageLoop

/-- The suffix of an anchored prefix: the head moved on, or is the same row and nothing follows. -/
def validSuffix (expected : Revision) (observed : Option Revision) (page : List SetupEnvelope) :
    Bool :=
  (observed.any fun observed => expected.headSeq < observed.headSeq || observed == expected) &&
    !(observed == some expected && !page.isEmpty)

section Registry

variable (registered : String → Bool)

/-- One page of the loop, starting over when the boundary moved. -/
def read (loop : PageLoop) (journal : SetupJournal) : PageRead :=
  let page := journal.page loop.cursor
  let observed := journal.boundary
  if loop.expected.any fun expected => !validSuffix expected observed page then
    .again { reduction := new loop.reduction.selector, cursor := 0, expected := none }
  else
    let exactBoundary := loop.exactBoundary && observed.isSome
    let final := observed <|> loop.final
    match page.getLast? with
    | none => .returned loop.reduction (if exactBoundary then final else none)
    | some last =>
      match loop.reduction.observeAll registered page with
      | .error error => .failed error
      | .ok reduction =>
        .again
          { reduction := reduction
            cursor := last.seq
            expected := none
            final := final
            exactBoundary := exactBoundary }

/-- The loop over a journal that may grow between reads; the last journal is returned too. -/
def run (loop : PageLoop) : List SetupJournal →
    Option (SetupJournal × Except HaiderError (TurnSetupReduction × Option Revision))
  | [] => none
  | journal :: later =>
    match loop.read registered journal with
    | .again next => next.run later
    | .failed error => some (journal, .error error)
    | .returned reduction revision => some (journal, .ok (reduction, revision))

end Registry

end PageLoop

/-- How a request starts: a taken entry with a revision is retargeted, anything else starts anew. -/
def startLoop (taken : Option CachedReduction) (selector : Selector) : PageLoop :=
  match taken with
  | some { revision := some revision, reduction, .. } =>
    { reduction := reduction.retarget selector
      cursor := revision.headSeq
      expected := some revision }
  | _ => { reduction := new selector, cursor := 0, expected := none }

/-- `reduce_turn_setup_journal_cached`: the entry goes back only when the loop returned. -/
def reduceTurnSetupJournalCached (registered : String → Bool) (cache : Cache)
    (session : SessionId) (selector : Selector) (reads : List SetupJournal) :
    Option (SetupJournal × Except HaiderError TurnSetupReduction) × Cache :=
  let slot := (session, selector.key)
  let rest := cache.remove slot
  match (startLoop (cache.reductions.lookup slot) selector).run registered reads with
  | none => (none, rest)
  | some (journal, .error error) => (some (journal, .error error), rest)
  | some (journal, .ok (reduction, revision)) =>
    (some (journal, .ok reduction), rest.install slot ⟨0, revision, reduction⟩)

/-- The reduction computed from nothing: the fold of the listed envelopes. -/
def reduceWhole (registered : String → Bool) (selector : Selector) (journal : SetupJournal) :
    Except HaiderError TurnSetupReduction :=
  (new selector).observeAll registered journal.listed

/-! ### Journals and cursors -/

namespace SetupJournal

variable (journal : SetupJournal)

theorem listed_increasing : Log.Increasing (·.seq) journal.listed :=
  List.Pairwise.sublist filter_sublist journal.increasing

theorem Grows.refl : journal.Grows journal := prefix_refl _

theorem Grows.trans {first second third : SetupJournal} (early : first.Grows second)
    (late : second.Grows third) : first.Grows third := List.IsPrefix.trans early late

theorem Grows.head_le {journal later : SetupJournal} (grows : journal.Grows later) :
    journal.head ≤ later.head := by
  obtain ⟨gained, split⟩ := grows
  rcases journal.envelopes.eq_nil_or_concat' with none | ⟨init, last, same⟩
  · simp [head, Log.head, none]
  · have mem : last ∈ later.envelopes := by simp [← split, same]
    have bound : last.seq ≤ later.head := Log.le_head later.increasing mem
    simpa [head, Log.head, same] using bound

theorem Grows.upTo_listed {journal later : SetupJournal} (grows : journal.Grows later)
    {cursor : Nat} (old : cursor ≤ journal.head) :
    Log.upTo (·.seq) cursor later.listed = Log.upTo (·.seq) cursor journal.listed := by
  obtain ⟨gained, split⟩ := grows
  have increasing := later.increasing
  rw [← split] at increasing
  have positive : ∀ e ∈ gained, 0 < e.seq := by
    intro e mem
    apply later.positive
    rw [← split]
    exact mem_append_right _ mem
  have late : ∀ e ∈ gained, cursor < e.seq := by
    intro e mem
    have := Log.head_lt increasing positive mem
    exact Nat.lt_of_le_of_lt old this
  unfold listed
  rw [Log.upTo_filter, Log.upTo_filter, ← split, Log.upTo_append late]

theorem head_of_boundary {journal : SetupJournal} {revision : Revision}
    (bound : journal.boundary = some revision) : revision.headSeq = journal.head := by
  obtain ⟨last, found, rfl⟩ := Option.map_eq_some_iff.mp bound
  simp [head, Log.head, found]

theorem upTo_head_listed : Log.upTo (·.seq) journal.head journal.listed = journal.listed := by
  apply filter_eq_self.mpr
  intro e mem
  have bound : e.seq ≤ journal.head :=
    Log.le_head journal.increasing (mem_of_mem_filter mem)
  simpa using bound

end SetupJournal

/-! ### The page loop -/

/-- The loop holds the reduction of the listed envelopes up to its cursor. -/
structure PageLoop.Synced (registered : String → Bool) (selector : Selector)
    (journal : SetupJournal) (loop : PageLoop) : Prop where
  read : loop.cursor ≤ journal.head
  folded : (new selector).observeAll registered (Log.upTo (·.seq) loop.cursor journal.listed) =
    .ok loop.reduction

namespace PageLoop

variable {registered : String → Bool} {selector : Selector} {journal later : SetupJournal}
  {loop next : PageLoop}

theorem Synced.grow (synced : loop.Synced registered selector journal)
    (grows : journal.Grows later) : loop.Synced registered selector later := by
  refine ⟨synced.read.trans grows.head_le, ?_⟩
  rw [grows.upTo_listed synced.read]
  exact synced.folded

theorem synced_new (registered : String → Bool) (selector : Selector) (journal : SetupJournal) :
    Synced registered selector journal
      { reduction := new selector, cursor := 0, expected := none } := by
  refine ⟨Nat.zero_le _, ?_⟩
  rw [Log.upTo_eq_nil]
  · rfl
  · intro e mem
    exact journal.positive e (mem_of_mem_filter mem)

theorem after_eq_page_append (journal : SetupJournal) (cursor : Nat) :
    ∃ rest, Log.after (·.seq) cursor journal.listed = journal.page cursor ++ rest :=
  ⟨_, (take_append_drop 256 _).symm⟩

variable (synced : loop.Synced registered selector journal)
include synced

theorem listed_of_page_nil (finished : journal.page loop.cursor = []) :
    reduceWhole registered selector journal = .ok loop.reduction := by
  have nothing : Log.after (·.seq) loop.cursor journal.listed = [] := by
    rcases take_eq_nil_iff.mp finished with zero | empty
    · cases zero
    · exact empty
  have split := Log.upTo_append_after journal.listed_increasing loop.cursor
  rw [nothing, append_nil] at split
  unfold reduceWhole
  rw [← split]
  exact synced.folded

theorem Synced.page {init : List SetupEnvelope} {last : SetupEnvelope}
    (split : journal.page loop.cursor = init ++ [last]) {reduction : TurnSetupReduction}
    (reduced : loop.reduction.observeAll registered (journal.page loop.cursor) = .ok reduction)
    {final : Option Revision} {exactBoundary : Bool} :
    Synced registered selector journal
      { reduction := reduction, cursor := last.seq, expected := none, final := final,
        exactBoundary := exactBoundary } := by
  obtain ⟨rest, cut⟩ := after_eq_page_append journal loop.cursor
  rw [split] at cut
  have mem : last ∈ journal.listed := by
    have unread : last ∈ Log.after (·.seq) loop.cursor journal.listed := by simp [cut]
    exact (Log.mem_after.mp unread).1
  refine ⟨Log.le_head journal.increasing (mem_of_mem_filter mem), ?_⟩
  rw [Log.upTo_page journal.listed_increasing cut, TurnSetupReduction.observeAll_append,
    synced.folded, ← split]
  exact reduced

theorem reduceWhole_of_failed {error : HaiderError}
    (failed : loop.reduction.observeAll registered (journal.page loop.cursor) = .error error) :
    reduceWhole registered selector journal = .error error := by
  obtain ⟨rest, cut⟩ := after_eq_page_append journal loop.cursor
  have whole := Log.upTo_append_after journal.listed_increasing loop.cursor
  unfold reduceWhole
  rw [← whole, cut, TurnSetupReduction.observeAll_append, synced.folded]
  change loop.reduction.observeAll registered (journal.page loop.cursor ++ rest) = _
  rw [TurnSetupReduction.observeAll_append, failed]
  rfl

/-- A page read returns the reduction of the whole journal or stays on the way to it. -/
theorem read_synced :
    match loop.read registered journal with
    | .again next => next.Synced registered selector journal
    | .failed error => reduceWhole registered selector journal = .error error
    | .returned reduction revision => reduceWhole registered selector journal = .ok reduction ∧
        ∀ anchor, revision = some anchor → journal.boundary = some anchor := by
  unfold read
  simp only
  by_cases stale : (loop.expected.any fun expected =>
      !validSuffix expected journal.boundary (journal.page loop.cursor)) = true
  · rw [if_pos stale]
    have kept : loop.reduction.selector = selector :=
      TurnSetupReduction.selector_of_observeAll synced.folded
    rw [kept]
    exact synced_new registered selector journal
  · rw [if_neg stale]
    rcases (journal.page loop.cursor).eq_nil_or_concat' with finished | ⟨init, last, split⟩
    · have ended : (journal.page loop.cursor).getLast? = none := by rw [finished]; rfl
      rw [ended]
      refine ⟨listed_of_page_nil synced finished, ?_⟩
      intro anchor anchored
      cases bound : journal.boundary with
      | none => simp [bound] at anchored
      | some revision =>
        rw [bound] at anchored
        split at anchored
        · simpa using anchored
        · cases anchored
    · have ended : (journal.page loop.cursor).getLast? = some last := by simp [split]
      rw [ended]
      cases reduced : loop.reduction.observeAll registered (journal.page loop.cursor) with
      | error error => exact reduceWhole_of_failed synced reduced
      | ok reduction => exact synced.page split reduced

omit synced

/-- The journals of successive reads, each an extension of the one before. -/
def Growing (journal : SetupJournal) : List SetupJournal → Prop
  | [] => True
  | next :: later => journal.Grows next ∧ Growing next later

theorem growing_replicate (journal : SetupJournal) (n : Nat) :
    Growing journal (replicate n journal) := by
  induction n with
  | zero => trivial
  | succ n ih => exact ⟨SetupJournal.Grows.refl journal, ih⟩

/-- Whatever is read, a loop that ends ends with what the journal of its last read reduces to. -/
theorem run_synced {reads : List SetupJournal} (growing : Growing journal reads)
    (synced : loop.Synced registered selector journal) {last : SetupJournal}
    {result : Except HaiderError (TurnSetupReduction × Option Revision)}
    (ended : loop.run registered reads = some (last, result)) :
    journal.Grows last ∧ last ∈ reads ∧
      reduceWhole registered selector last = result.map (·.1) ∧
      ∀ reduction anchor, result = .ok (reduction, some anchor) →
        last.boundary = some anchor := by
  induction reads generalizing journal loop with
  | nil => cases ended
  | cons next later ih =>
    obtain ⟨grows, rest⟩ := growing
    have step := read_synced (synced.grow grows)
    unfold run at ended
    cases seen : loop.read registered next with
    | again moved =>
      rw [seen] at step ended
      obtain ⟨further, mem, whole, anchored⟩ := ih rest step ended
      exact ⟨grows.trans further, mem_cons_of_mem _ mem, whole, anchored⟩
    | failed error =>
      rw [seen] at step ended
      cases ended
      refine ⟨grows, mem_cons_self, step, ?_⟩
      intro reduction anchor impossible
      cases impossible
    | returned reduction revision =>
      rw [seen] at step ended
      cases ended
      refine ⟨grows, mem_cons_self, step.1, ?_⟩
      intro reduction' anchor same
      cases same
      exact step.2 anchor rfl

/-- A loop without an anchor ends when it is given one read more than it has envelopes left. -/
theorem run_ends {unread : Nat} (unanchored : loop.expected = none)
    (left : (Log.after (·.seq) loop.cursor journal.listed).length ≤ unread) :
    (loop.run registered (replicate (unread + 1) journal)).isSome = true := by
  induction unread generalizing loop with
  | zero =>
    have finished : journal.page loop.cursor = [] := by
      unfold SetupJournal.page
      rw [length_eq_zero_iff.mp (Nat.le_zero.mp left), take_nil]
    simp [run, read, unanchored, finished]
  | succ unread ih =>
    rw [replicate_succ]
    unfold run read
    simp only [unanchored, Option.any_none, Bool.false_eq_true, if_false]
    rcases (journal.page loop.cursor).eq_nil_or_concat' with finished | ⟨init, last, split⟩
    · simp [finished]
    · have ended : (journal.page loop.cursor).getLast? = some last := by simp [split]
      rw [ended]
      cases loop.reduction.observeAll registered (journal.page loop.cursor) with
      | error error => rfl
      | ok reduction =>
        apply ih
        · rfl
        · obtain ⟨rest, cut⟩ := after_eq_page_append journal loop.cursor
          rw [cut, split] at left
          rw [split] at cut
          rw [Log.after_page journal.listed_increasing cut]
          simp only [length_append, length_singleton] at left
          omega

end PageLoop

/-! ### What the cache holds -/

/-- The entry of a key is the reduction of the prefix it is anchored to, for its own selector. -/
structure CachedReduction.Sound (registered : String → Bool) (journal : SetupJournal) (key : Key)
    (cached : CachedReduction) (revision : Revision) : Prop where
  sameKey : cached.reduction.selector.key = key
  old : revision.headSeq ≤ journal.head
  folded : (new cached.reduction.selector).observeAll registered
    (Log.upTo (·.seq) revision.headSeq journal.listed) = .ok cached.reduction

/-- Every anchored entry of the cache is sound for its session's journal. -/
def Cache.Sound (registered : String → Bool) (journals : SessionId → SetupJournal)
    (cache : Cache) : Prop :=
  ∀ session key cached revision, cache.reductions.lookup (session, key) = some cached →
    cached.revision = some revision → cached.Sound registered (journals session) key revision

namespace Cache

variable {registered : String → Bool} {journals : SessionId → SetupJournal} {cache : Cache}

theorem sound_empty (registered : String → Bool) (journals : SessionId → SetupJournal) :
    Sound registered journals {} := by
  intro session key cached revision found
  cases found

theorem Sound.grow (sound : cache.Sound registered journals)
    {later : SessionId → SetupJournal} (grows : ∀ session, (journals session).Grows (later session)) :
    cache.Sound registered later := by
  intro session key cached revision found anchored
  have entry := sound session key cached revision found anchored
  refine ⟨entry.sameKey, entry.old.trans (grows session).head_le, ?_⟩
  rw [(grows session).upTo_listed entry.old]
  exact entry.folded

theorem Sound.of_subset (sound : cache.Sound registered journals) {fewer : Cache}
    (subset : ∀ slot cached, fewer.reductions.lookup slot = some cached →
      cache.reductions.lookup slot = some cached) : fewer.Sound registered journals := by
  intro session key cached revision found anchored
  exact sound session key cached revision (subset _ _ found) anchored

variable {slot : SessionId × Key} {cached : CachedReduction}
  {entries : HashMap (SessionId × Key) CachedReduction}

theorem lookup_of_lookup_erase
    {dropped : SessionId × Key} (found : (entries.erase dropped).lookup slot = some cached) :
    entries.lookup slot = some cached := by
  by_cases same : slot = dropped
  · rw [same, AList.lookup_erase] at found
    cases found
  · rwa [AList.lookup_erase_ne same] at found

theorem lookup_of_lookup_evict {turns : Nat}
    (found : (evict turns entries).lookup slot = some cached) :
    entries.lookup slot = some cached := by
  induction turns generalizing entries with
  | zero => exact found
  | succ turns ih =>
    unfold evict at found
    split at found
    · split at found
      · exact found
      · exact lookup_of_lookup_erase (ih found)
    · exact found

variable {session : SessionId}

theorem lookup_of_lookup_removeSession
    (found : (cache.removeSession session).reductions.lookup slot = some cached) :
    cache.reductions.lookup slot = some cached := by
  have mem := AList.mem_lookup_iff.mp found
  exact AList.mem_lookup_iff.mpr (mem_of_mem_filter mem)

theorem Sound.install (sound : cache.Sound registered journals) {key : Key}
    {candidate : CachedReduction} (entry : ∀ revision, candidate.revision = some revision →
      candidate.Sound registered (journals session) key revision) :
    (cache.install (session, key) candidate).Sound registered journals := by
  intro session' key' cached revision found anchored
  have held := lookup_of_lookup_evict found
  split at held
  · by_cases same : (session', key') = (session, key)
    · rw [same, AList.lookup_insert, Option.some.injEq] at held
      cases same
      subst held
      have inner := entry revision anchored
      exact ⟨inner.sameKey, inner.old, inner.folded⟩
    · rw [AList.lookup_insert_ne same] at held
      exact sound session' key' cached revision held anchored
  · exact sound session' key' cached revision held anchored

end Cache

end HaiderAgent.TurnSetup
