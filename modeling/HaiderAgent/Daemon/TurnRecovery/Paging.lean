import HaiderAgent.Daemon.TurnRecovery.Hydration
import HaiderAgent.Lib.ForgetfulFold

/-!
# Startup hydration by pages and checkpoints

The page loop of `recover_interrupted_turns_report_with_visitor` and its checkpoint
(`haider-daemon/src/turn_recovery.rs`). After each page the loop forgets the runs that look
finished, and what it still knows is what the next page, or the next startup, starts from.
-/

namespace HaiderAgent.TurnRecovery

open List

open KeyedFold (Remembered Tracks)

/-- One page of the visitor, with the journal head it saw. -/
structure ReducerPage where
  envelopes : List RawEnvelope
  observedHead : Option (Nat × EventId)

variable (journal : Journal)

/-- The listed envelopes after a cursor, by `seq`: the rows the page query selects. -/
def listedAfter (cursor : Nat) : List RawEnvelope :=
  hydrated (journal.envelopes.filter fun e => cursor < e.seq)

/-- What `read_reducer_page_with_boundary` may return: the row and byte limits cut the selected
rows anywhere but before the first, and the head is the session's last row. -/
structure ReadsPage (journal : Journal) (cursor : Nat) (page : ReducerPage) : Prop where
  cut : page.envelopes <+: listedAfter journal cursor
  exhausted : page.envelopes = [] → listedAfter journal cursor = []
  head : page.observedHead = journal.envelopes.getLast?.map fun e => (e.seq, e.eventId)

/-- The pages of one loop: each after the last envelope of the one before, to the first empty. -/
inductive ReadsPages (journal : Journal) : Nat → List ReducerPage → Prop
  | last {cursor : Nat} {page : ReducerPage} : ReadsPage journal cursor page →
      page.envelopes = [] → ReadsPages journal cursor [page]
  | next {cursor : Nat} {page : ReducerPage} {init : List RawEnvelope} {final : RawEnvelope}
      {rest : List ReducerPage} : ReadsPage journal cursor page →
      page.envelopes = init ++ [final] → ReadsPages journal final.seq rest →
      ReadsPages journal cursor (page :: rest)

/-- The `retain` test after a page: a run that is neither finished nor inconsistent stays. -/
def retainedAcrossPages (reduction : RunReduction) : Bool :=
  reduction.branchMismatch || !reduction.delegationMirrorHandoffs.entries.isEmpty ||
    !reduction.state.any fun state => state.1.isTerminal

/-- The variables of the page loop. -/
structure HydrationLoop where
  reductions : HashMap RunId RunReduction
  boundary : Option (Nat × EventId) := none

/-- One page of the loop. Envelopes at or before the turn cursor are read for the visitor only. -/
def HydrationLoop.page (turnCursor : Nat) (loop : HydrationLoop) (page : ReducerPage) :
    HydrationLoop :=
  match page.envelopes.getLast? with
  | none =>
    { loop with boundary := (page.observedHead.filter fun head => turnCursor < head.1) <|> loop.boundary }
  | some last =>
    { reductions := KeyedFold.retain retainedAcrossPages
        ((page.envelopes.filter fun e => turnCursor < e.seq).foldl reduce loop.reductions)
      boundary := if turnCursor < last.seq then some (last.seq, last.eventId) else loop.boundary }

/-- `DurableTurnRecoveryCheckpoint`; a session without one starts from the defaults. -/
structure RecoveryCheckpoint where
  throughSeq : Nat := 0
  boundaryEventId : EventId := ""
  reductions : HashMap RunId RunReduction := ∅

namespace RecoveryCheckpoint

/-- The reducer over the pages, from what a checkpoint remembers. -/
def hydrate (checkpoint : RecoveryCheckpoint) (pages : List ReducerPage) : HydrationLoop :=
  pages.foldl (HydrationLoop.page checkpoint.throughSeq) { reductions := checkpoint.reductions }

/-- `put_recovery_checkpoint`, when the loop moved the boundary. -/
def store (checkpoint : RecoveryCheckpoint) (loop : HydrationLoop) : RecoveryCheckpoint :=
  match loop.boundary with
  | some (throughSeq, boundaryEventId) => ⟨throughSeq, boundaryEventId, loop.reductions⟩
  | none => checkpoint

end RecoveryCheckpoint

/-- The checkpoints startups over a growing journal may have left; unloadable ones are none. -/
inductive Recovered : Journal → RecoveryCheckpoint → Prop
  | fresh (journal : Journal) : Recovered journal {}
  | grow {journal later : Journal} {checkpoint : RecoveryCheckpoint} :
      Recovered journal checkpoint → journal.envelopes <+: later.envelopes →
      Recovered later checkpoint
  | startup {journal : Journal} {checkpoint : RecoveryCheckpoint} {pages : List ReducerPage}
      (visitorCursor : Nat) : Recovered journal checkpoint →
      ReadsPages journal (min checkpoint.throughSeq visitorCursor) pages →
      Recovered journal (checkpoint.store (checkpoint.hydrate pages))

/-- The runs startup recovery acts on. -/
def actedOn (reduction : RunReduction) : Bool :=
  (reduction.state.any fun state => !state.1.isTerminal) ||
    !reduction.delegationMirrorHandoffs.entries.isEmpty

/-- Whatever the pages and earlier startups, the runs acted on are those of one fold. -/
def StartupsAgree : Prop :=
  ∀ checkpoint visitorCursor pages, Recovered journal checkpoint →
    ReadsPages journal (min checkpoint.throughSeq visitorCursor) pages → ∀ runId,
    ((checkpoint.hydrate pages).reductions.lookup runId).filter actedOn =
      (reductionOf (hydrated journal.envelopes) runId).filter actedOn

section Pages

variable {journal : Journal}

theorem listedAfter_eq_after (journal : Journal) (cursor : Nat) :
    listedAfter journal cursor = Log.after (·.seq) cursor (hydrated journal.envelopes) := by
  simp only [listedAfter, hydrated, Log.after, filter_filter, Bool.and_comm]

theorem listedAfter_listedAfter {cursor turnCursor : Nat} (after : cursor ≤ turnCursor) :
    (listedAfter journal cursor).filter (fun e => turnCursor < e.seq) =
      listedAfter journal turnCursor := by
  rw [listedAfter_eq_after, listedAfter_eq_after, Log.after, Log.after, filter_filter]
  refine filter_congr fun e _ => ?_
  simp only [Bool.and_eq_left_iff_imp, decide_eq_true_eq]
  omega

theorem listedAfter_last {cursor : Nat} {init tail : List RawEnvelope} {last : RawEnvelope}
    (cut : listedAfter journal cursor = (init ++ [last]) ++ tail) :
    listedAfter journal last.seq = tail := by
  rw [listedAfter_eq_after] at cut ⊢
  exact Log.after_page (journal.increasing.filter _) cut

theorem ReadsPages.flatMap_envelopes {cursor : Nat} {pages : List ReducerPage}
    (reads : ReadsPages journal cursor pages) :
    pages.flatMap (·.envelopes) = listedAfter journal cursor := by
  induction reads with
  | last read empty => simp [empty, read.exhausted empty]
  | next read split _ ih =>
    obtain ⟨tail, cut⟩ := read.cut
    rw [split] at cut
    rw [flatMap_cons, ih, listedAfter_last cut.symm, split, cut]

end Pages

/-- What the page loop knows after some envelopes: each run's entry comes from a tail of them. -/
abbrev Knows (reductions : HashMap RunId RunReduction) (envelopes : List RawEnvelope) : Prop :=
  Tracks reduceKey reduceEntry {} retainedAcrossPages reductions envelopes

/-- What a run's entry may come from: all envelopes, or those after it looked finished. -/
abbrev RememberedTail (runId : RunId) (envelopes rest : List RawEnvelope) : Prop :=
  Remembered reduceKey reduceEntry {} retainedAcrossPages runId envelopes rest

theorem reductionOf_eq_final (envelopes : List RawEnvelope) (runId : RunId) :
    reductionOf envelopes runId = KeyedFold.final reduceKey reduceEntry {} runId envelopes := by
  rw [reductionOf, reduce_eq_route, KeyedFold.lookup_foldl_empty]

variable {loop : HydrationLoop} {done : List RawEnvelope}

theorem Knows.page (knows : Knows loop.reductions done) (turnCursor : Nat) (page : ReducerPage) :
    Knows (loop.page turnCursor page).reductions
      (done ++ page.envelopes.filter fun e => turnCursor < e.seq) := by
  unfold HydrationLoop.page
  cases last : page.envelopes.getLast? with
  | none =>
    rw [getLast?_eq_none_iff.mp last, filter_nil, append_nil]
    exact knows
  | some final =>
    have folded := Tracks.foldl knows (page.envelopes.filter fun e => turnCursor < e.seq)
    rw [← reduce_eq_route] at folded
    exact folded.retain

theorem Knows.pages
    (knows : Knows loop.reductions done) (turnCursor : Nat) (pages : List ReducerPage) :
    Knows (pages.foldl (HydrationLoop.page turnCursor) loop).reductions
      (done ++ (pages.flatMap (·.envelopes)).filter fun e => turnCursor < e.seq) := by
  induction pages generalizing loop done with
  | nil => simpa using knows
  | cons page rest ih =>
    have later := ih (knows.page turnCursor page)
    rw [flatMap_cons, filter_append, ← append_assoc]
    exact later

/-- Where the boundary stands inside the loop: past the turn cursor, at most at the head. -/
def BoundaryWithin (turnCursor : Nat) (loop : HydrationLoop) : Prop :=
  ∀ through id, loop.boundary = some (through, id) → turnCursor < through ∧ through ≤ journal.headSeq

theorem boundary_of_empty {journal : Journal} {cursor : Nat} {page : ReducerPage}
    (read : ReadsPage journal cursor page) (empty : page.envelopes = []) (turnCursor : Nat)
    (loop : HydrationLoop) :
    (∃ id, (loop.page turnCursor page).boundary = some (journal.headSeq, id)) ∨
      journal.headSeq ≤ turnCursor ∧ (loop.page turnCursor page).boundary = loop.boundary := by
  have moved : (loop.page turnCursor page).boundary =
      ((page.observedHead.filter fun head => turnCursor < head.1) <|> loop.boundary) := by
    simp [HydrationLoop.page, empty]
  rw [moved, read.head]
  rcases journal.headSeq_eq with ⟨zero, none⟩ | ⟨init, final, split, head⟩
  · exact .inr ⟨by omega, by simp [none]⟩
  · have top : journal.envelopes.getLast? = some final := by simp [split]
    by_cases ahead : turnCursor < final.seq
    · exact .inl ⟨final.eventId, by simp [top, Option.filter, ahead, head]⟩
    · exact .inr ⟨by omega, by simp [top, Option.filter, ahead]⟩

variable {pages : List ReducerPage}

/-- A finished loop moved the boundary to the head, unless the head had been reached before. -/
theorem ReadsPages.boundary {journal : Journal} {cursor : Nat}
    (reads : ReadsPages journal cursor pages) (turnCursor : Nat) (loop : HydrationLoop)
    (within : BoundaryWithin journal turnCursor loop) :
    (∃ id, (pages.foldl (HydrationLoop.page turnCursor) loop).boundary =
        some (journal.headSeq, id)) ∨
      journal.headSeq ≤ turnCursor ∧
        (pages.foldl (HydrationLoop.page turnCursor) loop).boundary = none := by
  induction reads generalizing loop with
  | @last cursor page read empty =>
    rw [foldl_cons, foldl_nil]
    rcases boundary_of_empty read empty turnCursor loop with moved | ⟨reached, held⟩
    · exact .inl moved
    · refine .inr ⟨reached, ?_⟩
      rw [held]
      refine Option.eq_none_iff_forall_not_mem.mpr fun boundary found => ?_
      have := within boundary.1 boundary.2 found
      omega
  | @next cursor page init final rest read split _ ih =>
    refine ih _ fun through id moved => ?_
    have last : page.envelopes.getLast? = some final := by simp [split]
    have found : final ∈ journal.envelopes := by
      have here : final ∈ listedAfter journal cursor := read.cut.subset (by simp [split])
      exact (mem_filter.mp (mem_filter.mp here).1).1
    have top := journal.seq_le_headSeq found
    simp only [HydrationLoop.page, last] at moved
    split at moved
    · cases moved
      exact ⟨by assumption, top⟩
    · exact within through id moved

/-- A checkpoint knows the listed envelopes up to its boundary. -/
structure CheckpointSound (journal : Journal) (checkpoint : RecoveryCheckpoint) : Prop where
  reached : checkpoint.throughSeq ≤ journal.headSeq
  knows : Knows checkpoint.reductions
    (hydrated (journal.envelopes.filter fun e => e.seq ≤ checkpoint.throughSeq))

variable {envelopes : List RawEnvelope}

variable {checkpoint : RecoveryCheckpoint} {visitorCursor : Nat}

/-- A startup knows every listed envelope of the journal. -/
theorem CheckpointSound.hydrate {journal : Journal} (sound : CheckpointSound journal checkpoint)
    (reads : ReadsPages journal (min checkpoint.throughSeq visitorCursor) pages) :
    Knows (checkpoint.hydrate pages).reductions (hydrated journal.envelopes) := by
  have known : Knows (checkpoint.hydrate pages).reductions _ :=
    Knows.pages sound.knows checkpoint.throughSeq pages
  rw [reads.flatMap_envelopes, listedAfter_listedAfter (Nat.min_le_left _ _)] at known
  have whole := Log.upTo_append_after journal.increasing checkpoint.throughSeq
  have joined : hydrated (journal.envelopes.filter fun e => e.seq ≤ checkpoint.throughSeq) ++
      listedAfter journal checkpoint.throughSeq = hydrated journal.envelopes := by
    conv_rhs => rw [← whole]
    exact (filter_append ..).symm
  rw [joined] at known
  exact known

theorem CheckpointSound.grow {journal later : Journal} (sound : CheckpointSound journal checkpoint)
    (grown : journal.envelopes <+: later.envelopes) : CheckpointSound later checkpoint := by
  obtain ⟨gained, split⟩ := grown
  refine ⟨sound.reached.trans (Journal.headSeq_mono split.symm), ?_⟩
  have unread : gained.filter (fun e => e.seq ≤ checkpoint.throughSeq) = [] :=
    Log.upTo_eq_nil fun e mem => sound.reached.trans_lt (Journal.headSeq_lt split.symm mem)
  rw [← split, filter_append, unread, append_nil]
  exact sound.knows

theorem CheckpointSound.store {journal : Journal} (sound : CheckpointSound journal checkpoint)
    (reads : ReadsPages journal (min checkpoint.throughSeq visitorCursor) pages) :
    CheckpointSound journal (checkpoint.store (checkpoint.hydrate pages)) := by
  have known := sound.hydrate reads
  have moved := reads.boundary checkpoint.throughSeq { reductions := checkpoint.reductions }
    nofun
  unfold RecoveryCheckpoint.store
  rcases moved with ⟨id, boundary⟩ | ⟨-, boundary⟩
  · rw [show (checkpoint.hydrate pages).boundary = some (journal.headSeq, id) from boundary]
    refine ⟨le_rfl, ?_⟩
    have all : journal.envelopes.filter (fun e => e.seq ≤ journal.headSeq) = journal.envelopes :=
      filter_eq_self.mpr fun e mem => by simpa using journal.seq_le_headSeq mem
    rw [all]
    exact known
  · rw [show (checkpoint.hydrate pages).boundary = none from boundary]
    exact sound

theorem Recovered.sound {journal : Journal}
    (recovered : Recovered journal checkpoint) : CheckpointSound journal checkpoint := by
  induction recovered with
  | fresh journal =>
    refine ⟨Nat.zero_le _, ?_⟩
    have none : journal.envelopes.filter (fun e => e.seq ≤ 0) = [] :=
      Log.upTo_eq_nil journal.positive
    rw [none]
    exact KeyedFold.tracks_empty
  | grow _ grown ih => exact ih.grow grown
  | startup visitorCursor _ reads ih => exact ih.store reads

/-- How the coordinates of a forgotten run compare with those it would have had: the same
handoffs, and the same state once a state follows the point where it was forgotten. -/
def SameActivity (known fresh : RunCoordinates) : Prop :=
  known.delegationMirrorHandoffs = fresh.delegationMirrorHandoffs ∧
    (known.state = fresh.state ∨
      fresh.state = none ∧ known.state.any (fun state => state.1.isTerminal) = true)

variable {known fresh : RunCoordinates}

theorem SameActivity.step (same : SameActivity known fresh)
    (e : RawEnvelope) : SameActivity (known.step e) (fresh.step e) := by
  constructor
  · simp only [RunCoordinates.step_delegationMirrorHandoffs, RunCoordinates.settleHandoff, same.1]
  rw [RunCoordinates.step_state, RunCoordinates.step_state]
  cases e.payload.runState with
  | none => exact same.2
  | some state => exact .inl rfl

theorem SameActivity.foldl (same : SameActivity known fresh) (envelopes : List RawEnvelope) :
    SameActivity (envelopes.foldl RunCoordinates.step known)
      (envelopes.foldl RunCoordinates.step fresh) := by
  induction envelopes generalizing known fresh with
  | nil => exact same
  | cons e rest ih => exact ih (same.step e)

theorem SameActivity.actedOn_eq {known fresh : RunReduction}
    (same : SameActivity known.coordinates fresh.coordinates) : actedOn known = actedOn fresh := by
  obtain ⟨handoffs, states⟩ := same
  change known.delegationMirrorHandoffs = fresh.delegationMirrorHandoffs at handoffs
  change known.state = fresh.state ∨
    fresh.state = none ∧ known.state.any (fun state => state.1.isTerminal) = true at states
  unfold actedOn
  rw [handoffs]
  rcases states with states | ⟨unknown, terminal⟩
  · rw [states]
  · rw [unknown]
    cases state : known.state with
    | none => rfl
    | some latest =>
      rw [state] at terminal
      have ended : latest.1.isTerminal = true := terminal
      simp [ended]

/-- A run is forgotten only where a fresh reduction is acted on alike. -/
theorem sameActivity_of_finished {reduction : RunReduction}
    (finished : retainedAcrossPages reduction = false) :
    SameActivity reduction.coordinates (RunReduction.coordinates {}) := by
  simp only [retainedAcrossPages, Bool.or_eq_false_iff, Bool.not_eq_false'] at finished
  obtain ⟨⟨-, settled⟩, terminal⟩ := finished
  refine ⟨?_, .inr ⟨rfl, terminal⟩⟩
  exact AList.ext (isEmpty_iff.mp settled)

theorem SameActivity.refl (coordinates : RunCoordinates) : SameActivity coordinates coordinates :=
  ⟨rfl, .inl rfl⟩

theorem SameActivity.trans {between : RunCoordinates}
    (first : SameActivity known between) (second : SameActivity between fresh) :
    SameActivity known fresh := by
  refine ⟨first.1.trans second.1, ?_⟩
  rcases second.2 with same | ⟨unknown, terminal⟩
  · rw [← same]
    exact first.2
  · rcases first.2 with same | ⟨_, ended⟩
    · rw [same]
      exact .inr ⟨unknown, terminal⟩
    · exact .inr ⟨unknown, ended⟩

/-- The coordinates of a run, of an empty reduction when it has no entry. -/
def coordinatesOf (envelopes : List RawEnvelope) (runId : RunId) : RunCoordinates :=
  ((reductionOf envelopes runId).getD {}).coordinates

section LatestState

variable (envelopes : List RawEnvelope) (runId : RunId)

theorem getD_reductionOf :
    (reductionOf envelopes runId).getD {} = (runEnvelopes runId envelopes).foldl reduceEntry {} := by
  rw [reductionOf_eq]
  split
  · rename_i none
    rw [none]
    rfl
  · rfl

theorem filterMap_runState_runEnvelopes :
    (runEnvelopes runId envelopes).filterMap (·.payload.runState) =
      (envelopes.filter fun e => e.runId = some runId).filterMap (·.payload.runState) := by
  unfold runEnvelopes reduceKey
  rw [filterMap_filter, filterMap_filter]
  refine filterMap_congr fun e _ => ?_
  cases relevant : recoveryRelevant e.payload with
  | true => simp
  | false =>
    have stateless : e.payload.runState = none := by
      cases payload : e.payload with
      | event fact =>
        rw [payload] at relevant
        cases fact <;> first | rfl | cases relevant
      | _ => rfl
    simp [stateless]

theorem coordinatesOf_state :
    (coordinatesOf envelopes runId).state.map (·.1) = latestRunState runId envelopes := by
  unfold coordinatesOf latestRunState
  rw [getD_reductionOf, foldl_coordinates, ← filterMap_runState_runEnvelopes]
  have last := KeyedFold.foldl_last_write (fun c : RunCoordinates => c.state.map (·.1))
    (fun c e => show ((c.step e).state.map (·.1)) =
        ((e.payload.runState).map some).getD (c.state.map (·.1)) by
      rw [RunCoordinates.step_state]
      cases e.payload.runState <;> rfl)
    (runEnvelopes runId envelopes) (RunReduction.coordinates {})
  rw [last]
  cases ((runEnvelopes runId envelopes).filterMap (·.payload.runState)).getLast? <;> rfl

theorem latestRunState_hydrated :
    latestRunState runId (hydrated envelopes) = latestRunState runId envelopes := by
  unfold latestRunState hydrated
  rw [filterMap_filter, filterMap_filter, filterMap_filter]
  congr 1
  refine filterMap_congr fun e _ => ?_
  cases state : e.payload.runState with
  | none => simp
  | some latest =>
    have listed : payloadKind e ∈ startupHydrationPayloadKinds := by
      unfold RawPayload.runState at state
      split at state
      · rename_i s payload
        simp [payloadKind, payload, RawPayload.type, EventPayload.tag, startupHydrationPayloadKinds]
      · cases state
    simp [listed]

end LatestState

variable {runId : RunId} {rest : List RawEnvelope}

theorem sameActivity_remembered (remembered : RememberedTail runId envelopes rest) :
    SameActivity (coordinatesOf envelopes runId) (coordinatesOf rest runId) := by
  induction remembered with
  | all => exact .refl _
  | @forgotten before after reduction _ known finished ih =>
    refine ih.trans ?_
    simp only [coordinatesOf, reductionOf_eq_final, KeyedFold.final] at known ⊢
    rw [filter_append, KeyedFold.entry_append, known, KeyedFold.entry_some,
      KeyedFold.entry_none]
    generalize after.filter _ = tail
    have forgotten := (sameActivity_of_finished finished).foldl tail
    rw [← foldl_coordinates, ← foldl_coordinates] at forgotten
    split
    · rename_i none
      subst none
      exact forgotten
    · exact forgotten

/-- Forgetting never changes whether a run is acted on. -/
theorem actedOn_remembered (remembered : RememberedTail runId envelopes rest) :
    (reductionOf rest runId).any actedOn = (reductionOf envelopes runId).any actedOn := by
  have idle (entry : Option RunReduction) : entry.any actedOn = actedOn (entry.getD {}) := by
    cases entry <;> rfl
  rw [idle, idle]
  exact (sameActivity_remembered remembered).actedOn_eq.symm

section Batches

/-- The pages a run of batches makes, closed by an empty one. -/
def pagesOf (journal : Journal) (batches : List (List RawEnvelope)) : List ReducerPage :=
  let head := journal.envelopes.getLast?.map fun e => (e.seq, e.eventId)
  batches.map (⟨·, head⟩) ++ [⟨[], head⟩]

variable {batches : List (List RawEnvelope)}

theorem readsPages_pagesOf {journal : Journal} {cursor : Nat}
    (full : ∀ batch ∈ batches, batch ≠ []) (cut : batches.flatten = listedAfter journal cursor) :
    ReadsPages journal cursor (pagesOf journal batches) := by
  induction batches generalizing cursor with
  | nil => exact .last ⟨ nil_prefix, fun _ => cut.symm, rfl⟩ rfl
  | cons batch rest ih =>
    obtain ⟨nonempty, later⟩ := forall_mem_cons.mp full
    obtain ⟨init, last, split⟩ := (eq_nil_or_concat' batch).resolve_left nonempty
    refine .next ⟨⟨rest.flatten, cut⟩, fun none => absurd none nonempty, rfl⟩ split (ih later ?_)
    exact (listedAfter_last (split ▸ cut.symm)).symm

/-- Page by page the reducer folds, and between pages it forgets. -/
theorem reductions_pagesOf {journal : Journal}
    (full : ∀ batch ∈ batches, batch ≠ []) (positive : ∀ batch ∈ batches, ∀ e ∈ batch, 0 < e.seq) :
    (RecoveryCheckpoint.hydrate {} (pagesOf journal batches)).reductions =
      batches.foldl (fun m batch => KeyedFold.retain retainedAcrossPages (batch.foldl reduce m)) ∅ := by
  unfold RecoveryCheckpoint.hydrate pagesOf
  rw [foldl_append, foldl_cons, foldl_nil, HydrationLoop.page, getLast?_nil]
  dsimp only
  generalize start : HydrationLoop.mk ∅ none = loop
  rw [show (∅ : HashMap RunId RunReduction) = loop.reductions by rw [← start]]
  clear start
  induction batches generalizing loop with
  | nil => rfl
  | cons batch rest ih =>
    obtain ⟨nonempty, full⟩ := forall_mem_cons.mp full
    obtain ⟨first, positive⟩ := forall_mem_cons.mp positive
    have new : batch.filter (fun e => 0 < e.seq) = batch :=
      filter_eq_self.mpr fun e mem => decide_eq_true (first e mem)
    have page : (loop.page 0 ⟨batch, journal.envelopes.getLast?.map fun e => (e.seq, e.eventId)⟩).reductions =
        KeyedFold.retain retainedAcrossPages (batch.foldl reduce loop.reductions) := by
      rw [HydrationLoop.page, getLast?_eq_some_getLast nonempty]
      rw [new]
    rw [map_cons, foldl_cons, foldl_cons, ← page]
    exact ih full positive _

end Batches

section OnePage

variable (journal : Journal) (cursor : Nat)

/-- The unread tail as one page. -/
def onePage : List ReducerPage :=
  let head := journal.envelopes.getLast?.map fun e => (e.seq, e.eventId)
  if listedAfter journal cursor = [] then [⟨[], head⟩]
  else [⟨listedAfter journal cursor, head⟩, ⟨[], head⟩]

theorem readsPages_onePage : ReadsPages journal cursor (onePage journal cursor) := by
  unfold onePage
  split
  · rename_i none
    have pages : ReadsPages journal cursor (pagesOf journal []) :=
      readsPages_pagesOf (by simp) none.symm
    exact pages
  · rename_i some
    have pages : ReadsPages journal cursor (pagesOf journal [listedAfter journal cursor]) :=
      readsPages_pagesOf (by simpa using some) (append_nil _)
    exact pages

end OnePage

/-! ## Runs that come back -/

section Finished

/-- The mirror handoff an envelope reports for a run. -/
def handoffFor (runId : RunId) (e : RawEnvelope) : Option DelegationMirrorHandoff :=
  if e.runId = some runId then reportedHandoff e.payload else none

/-- A run is finished: its latest state is terminal, and every pending mirror handoff of it was
completed. -/
structure Finished (runId : RunId) (envelopes : List RawEnvelope) : Prop where
  ended : (latestRunState runId envelopes).any RunState.isTerminal = true
  completed : ∀ before e after handoff, envelopes = before ++ e :: after →
    handoffFor runId e = some handoff → handoff.phase = .pending →
    ∃ later ∈ after, ∃ done, handoffFor runId later = some done ∧ done.phase = .completed ∧
      done.handoffId = handoff.handoffId

/-- An envelope that brings a finished run back: a live state, or a pending handoff. -/
def bringsBack (runId : RunId) (e : RawEnvelope) : Bool :=
  (e.runId == some runId && e.payload.runState.any fun state => !state.isTerminal) ||
    (handoffFor runId e).any (·.phase == .pending)

variable {known : RunCoordinates} {runId : RunId} {own : List RawEnvelope}

/-- A pending handoff stays until it is completed. -/
theorem handoff_pending {id : String} (pending : (known.delegationMirrorHandoffs.lookup id).isSome)
    (uncompleted : ∀ e ∈ own, ∀ done, reportedHandoff e.payload = some done →
      done.phase = .completed → done.handoffId ≠ id) :
    ((own.foldl RunCoordinates.step known).delegationMirrorHandoffs.lookup id).isSome := by
  induction own generalizing known with
  | nil => exact pending
  | cons e own ih =>
    obtain ⟨here, later⟩ := forall_mem_cons.mp uncompleted
    refine ih ?_ later
    rw [RunCoordinates.step_delegationMirrorHandoffs]
    cases reported : reportedHandoff e.payload with
    | none => exact pending
    | some handoff =>
      have differs := here handoff reported
      simp only [RunCoordinates.settleHandoff]
      cases phase : handoff.phase with
      | pending =>
        by_cases same : id = handoff.handoffId
        · subst same
          simp
        · rwa [AList.lookup_insert_ne same]
      | completed => rwa [AList.lookup_erase_ne (differs phase).symm]

theorem runId_of_reduceKey {e : RawEnvelope} (routed : reduceKey e = some runId) :
    e.runId = some runId := by
  unfold reduceKey at routed
  split at routed
  · exact routed
  · cases routed

/-- A handoff reported for a run reaches its entry, in the hydrated journal too. -/
theorem handoffFor_routed {e : RawEnvelope} {handoff : DelegationMirrorHandoff}
    (reported : handoffFor runId e = some handoff) :
    reportedHandoff e.payload = some handoff ∧ reduceKey e = some runId ∧
      payloadKind e ∈ startupHydrationPayloadKinds := by
  unfold handoffFor at reported
  split at reported
  · rename_i here
    have relevant : recoveryRelevant e.payload = true ∧ unlisted e.payload = false := by
      unfold reportedHandoff at reported
      split at reported
      · rename_i payload
        rw [payload]
        exact ⟨rfl, rfl⟩
      · cases reported
    refine ⟨reported, ?_, (mem_startupHydrationPayloadKinds relevant.1).mpr relevant.2⟩
    rw [reduceKey, if_pos relevant.1, here]
  · cases reported

/-- A run that a page end forgets is finished. -/
theorem finished_of_forgotten {before : List RawEnvelope} {reduction : RunReduction}
    (known : reductionOf (hydrated before) runId = some reduction)
    (forgotten : retainedAcrossPages reduction = false) : Finished runId before := by
  simp only [retainedAcrossPages, Bool.or_eq_false_iff, Bool.not_eq_false'] at forgotten
  obtain ⟨⟨-, settled⟩, terminal⟩ := forgotten
  have coordinates : coordinatesOf (hydrated before) runId = reduction.coordinates := by
    rw [coordinatesOf, known]
    rfl
  constructor
  · rw [← latestRunState_hydrated, ← coordinatesOf_state, coordinates, Option.any_map]
    exact terminal
  · intro first e after handoff split reported pending
    by_contra uncompleted
    obtain ⟨reports, routed, listed⟩ := handoffFor_routed reported
    have kept : (reduction.delegationMirrorHandoffs.lookup handoff.handoffId).isSome := by
      change (reduction.coordinates.delegationMirrorHandoffs.lookup _).isSome
      have own : runEnvelopes runId (hydrated before) =
          runEnvelopes runId (hydrated first) ++ e :: runEnvelopes runId (hydrated after) := by
        simp [split, runEnvelopes, hydrated, listed, routed]
      rw [← coordinates, coordinatesOf, getD_reductionOf, foldl_coordinates, own, foldl_append,
        foldl_cons]
      refine handoff_pending ?_ ?_
      · rw [RunCoordinates.step_delegationMirrorHandoffs, reports]
        simp [RunCoordinates.settleHandoff, pending]
      · intro later mem done completes phase same
        obtain ⟨inside, key⟩ := mem_filter.mp mem
        refine uncompleted ⟨later, mem_of_mem_filter inside, done, ?_, phase, same⟩
        rw [handoffFor, if_pos (runId_of_reduceKey (of_decide_eq_true key)), completes]
    rw [show reduction.delegationMirrorHandoffs = ∅ from AList.ext (isEmpty_iff.mp settled)] at kept
    simp at kept

/-- Neither a live state nor a pending handoff. -/
def RunCoordinates.Idle (known : RunCoordinates) : Prop :=
  known.state.any (fun state => !state.1.isTerminal) = false ∧ known.delegationMirrorHandoffs = ∅

/-- A run stays idle until an envelope brings it back. -/
theorem RunCoordinates.Idle.foldl (idle : known.Idle)
    (quiet : ∀ e ∈ own, e.runId = some runId ∧ bringsBack runId e = false) :
    (own.foldl RunCoordinates.step known).Idle := by
  induction own generalizing known with
  | nil => exact idle
  | cons e own ih =>
    obtain ⟨⟨here, still⟩, later⟩ := forall_mem_cons.mp quiet
    refine ih ⟨?_, ?_⟩ later
    · rw [RunCoordinates.step_state]
      cases moved : e.payload.runState with
      | none => exact idle.1
      | some state =>
        simp only [bringsBack, here, moved, beq_self_eq_true, Bool.true_and, Option.any_some,
          Bool.or_eq_false_iff] at still
        exact still.1
    · simp only [RunCoordinates.step_delegationMirrorHandoffs, RunCoordinates.settleHandoff, idle.2]
      cases reported : reportedHandoff e.payload with
      | none => rfl
      | some handoff =>
        cases phase : handoff.phase with
        | pending => simp [bringsBack, handoffFor, here, reported, phase] at still
        | completed =>
          simp only [phase]
          rfl

theorem actedOn_eq_false_iff {reduction : RunReduction} :
    actedOn reduction = false ↔ reduction.coordinates.Idle := by
  have none : reduction.delegationMirrorHandoffs.entries = [] ↔
      reduction.delegationMirrorHandoffs = ∅ := ⟨fun none => AList.ext none, congrArg _⟩
  unfold actedOn
  rw [Bool.or_eq_false_iff, Bool.not_eq_false', List.isEmpty_iff, none]
  rfl

/-- A finished run that nothing brings back is not acted on. -/
theorem not_actedOn_of_finished {before after : List RawEnvelope} {forgotten : RunReduction}
    (known : reductionOf (hydrated before) runId = some forgotten)
    (finished : retainedAcrossPages forgotten = false)
    (stays : ∀ e ∈ after, bringsBack runId e = false) :
    (reductionOf (hydrated (before ++ after)) runId).any actedOn = false := by
  have start : forgotten.coordinates.Idle :=
    actedOn_eq_false_iff.mp (sameActivity_of_finished finished).actedOn_eq
  have last : RunCoordinates.Idle ((runEnvelopes runId (hydrated after)).foldl _ _) :=
    start.foldl fun e mem => by
      obtain ⟨inside, routed⟩ := mem_filter.mp mem
      exact ⟨runId_of_reduceKey (of_decide_eq_true routed), stays e (mem_of_mem_filter inside)⟩
  have first := getD_reductionOf (hydrated before) runId
  have whole : (reductionOf (hydrated (before ++ after)) runId).getD {} =
      (runEnvelopes runId (hydrated after)).foldl reduceEntry
        ((runEnvelopes runId (hydrated before)).foldl reduceEntry {}) := by
    rw [getD_reductionOf, hydrated, filter_append, runEnvelopes, filter_append, foldl_append]
    rfl
  rw [known, Option.getD_some] at first
  rw [first, ← foldl_coordinates, ← whole, ← actedOn_eq_false_iff] at last
  cases entry : reductionOf (hydrated (before ++ after)) runId with
  | none => rfl
  | some reduction =>
    rw [entry] at last
    exact last

end Finished

/-- Hydration is independent of page ends and earlier startups where nothing brings a finished run
back. -/
theorem startups_agree (journal : Journal)
    (stays : ∀ runId before after, journal.envelopes = before ++ after → Finished runId before →
      ∀ e ∈ after, bringsBack runId e = false) : StartupsAgree journal := by
  intro checkpoint visitorCursor pages recovered reads runId
  obtain ⟨rest, remembered, entry⟩ := recovered.sound.hydrate reads runId
  rw [entry, ← reductionOf_eq_final]
  rcases remembered.eq_or_forgotten with rfl | ⟨front, back, forgotten, split, known, finished⟩
  · rfl
  -- the run was finished where it was forgotten, so it is acted on in neither fold
  obtain ⟨before, after, parts, rfl, rfl⟩ := filter_eq_append_iff.mp split
  rw [← reductionOf_eq_final] at known
  have idle : (reductionOf (hydrated journal.envelopes) runId).any actedOn = false := by
    rw [parts]
    exact not_actedOn_of_finished known finished
      (stays runId before after parts (finished_of_forgotten known finished))
  have quiet (entry : Option RunReduction) (idle : entry.any actedOn = false) :
      entry.filter actedOn = none := by
    cases entry with
    | none => rfl
    | some reduction => simpa using idle
  rw [quiet _ idle, quiet _ ((actedOn_remembered remembered).trans idle)]

/-- A run that failed, and then a run that is thinking. -/
def failureThenWork : Journal :=
  Journal.empty.append
    [EventPayload.unstamped (.userMessage "prompt" [] emptyObject) "s" "r" 1,
      EventPayload.unstamped (.runState .errored) "s" "r" 1,
      EventPayload.unstamped (.userMessage "again" [] emptyObject) "s" "q" 1,
      EventPayload.unstamped (.runState .thinking) "s" "q" 1]

theorem startups_agree_failureThenWork :
    StartupsAgree failureThenWork ∧
      ((reductionOf (hydrated failureThenWork.envelopes) "q").filter actedOn).isSome = true := by
  refine ⟨startups_agree _ fun runId before after split finished e mem => ?_, by decide⟩
  by_cases own : e.runId = some runId
  · have checked : ∀ cut < 5, ∀ e ∈ failureThenWork.envelopes.drop cut, e.runId.all (fun runId =>
        (latestRunState runId (failureThenWork.envelopes.take cut)).any RunState.isTerminal →
          bringsBack runId e = false) = true := by decide
    have short : before.length < 5 := by
      have whole : before.length + after.length = 4 := by rw [← length_append, ← split]; rfl
      omega
    have here := checked before.length short e (by rw [split, drop_left]; exact mem)
    rw [own, split, take_left] at here
    exact of_decide_eq_true here finished.ended
  · simp [bringsBack, handoffFor, own]

/-- A failed run that a later startup parked behind a recovery card. -/
def parkedAfterFailure : Journal :=
  Journal.empty.append
    [EventPayload.unstamped (.userMessage "prompt" [] emptyObject) "s" "r" 1,
      EventPayload.unstamped (.runState .errored) "s" "r" 1,
      EventPayload.unstamped (.runState .effectOutcomeUnknown) "s" "r" 2]

/-- The journal in two pages, the first of which ends at the `Errored` terminal. -/
def pagesAfterFailure : List ReducerPage :=
  [⟨parkedAfterFailure.envelopes.take 2, some (3, "run_state")⟩,
    ⟨parkedAfterFailure.envelopes.drop 2, some (3, "run_state")⟩,
    ⟨[], some (3, "run_state")⟩]

/-- The page end forgets which message accepted the run; one fold does not. -/
theorem parkedAfterFailure_disagrees : ¬ StartupsAgree parkedAfterFailure := by
  intro agree
  have reads : ReadsPages parkedAfterFailure 0 pagesAfterFailure := by
    have ends {envelopes : List RawEnvelope} (some : envelopes ≠ []) :=
      (dropLast_append_getLast some).symm
    refine .next ⟨by decide, by decide, by decide⟩ (ends (by decide)) ?_
    refine .next ⟨by decide, by decide, by decide⟩ (ends (by decide)) ?_
    exact .last ⟨by decide, by decide, by decide⟩ rfl
  have same := agree {} 0 pagesAfterFailure (.fresh _) reads "r"
  exact absurd same (by decide)

end HaiderAgent.TurnRecovery
