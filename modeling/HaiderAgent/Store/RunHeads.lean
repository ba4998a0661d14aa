import HaiderAgent.Lib.EntryMap
import HaiderAgent.Lib.ExceptFold
import HaiderAgent.Protocol.Envelope

/-!
# The run-head projection

One row per run and three counters per session, which `haider-store/src/event_store.rs` folds from
the whole journal (`rebuild_run_head_projection`) or moves on by a batch
(`update_run_head_projection_after_append`). Corrupt rows and numbers beyond SQLite's integers are
left out.
-/

namespace HaiderAgent.RunHeads

open List ExceptFold

/-- `ProjectedRunHead`: one row of the projection. -/
structure ProjectedRunHead where
  state : RunState
  stateSeq : Option Nat
  acceptedSeq : Option Nat
  branchId : Option BranchId
  promptRunId : Option RunId
  deriving DecidableEq, Repr

/-- What `nonterminal_count` counts. -/
def ProjectedRunHead.live (head : ProjectedRunHead) : Bool :=
  head.stateSeq.isSome && !head.state.isTerminal

/-- The rows by run. -/
abbrev Heads := HashMap RunId ProjectedRunHead

/-- A stored payload; a `provider_operation_reserved` that does not decode is raw. -/
inductive Payload where
  | raw (payload : RawPayload)
  | providerOperationReserved
  deriving DecidableEq, Repr

/-- The columns of an envelope the projection reads. -/
structure Envelope where
  seq : Nat
  runId : Option RunId
  branchId : Option BranchId
  payload : Payload
  deriving DecidableEq, Repr

namespace Envelope

variable (envelope : Envelope)

/-- The payload's type tag. -/
def kind : Option String :=
  match envelope.payload with
  | .raw payload => payload.type
  | .providerOperationReserved => some "provider_operation_reserved"

/-- What an envelope does to the head of its run: the state of a new head, and the update. -/
structure Move where
  subject : String
  fresh : RunState
  update : ProjectedRunHead → ProjectedRunHead

/-- The arms of `apply_run_head_envelope`. -/
def move : Option Move :=
  match envelope.payload with
  | .raw (.retry retry) =>
    some ⟨"run", .queued, fun head =>
      { head with acceptedSeq := some envelope.seq, promptRunId := some retry.promptRunId }⟩
  | .providerOperationReserved =>
    some ⟨"provider operation", .done, fun head =>
      { head with
        state := .done, stateSeq := some envelope.seq, acceptedSeq := some envelope.seq }⟩
  | .raw (.event (.runState state)) =>
    some ⟨"run", state, fun head => { head with state := state, stateSeq := some envelope.seq }⟩
  | .raw (.event (.userMessage ..)) | .raw (.event (.peerMessage _)) =>
    some ⟨"run", .queued, fun head => { head with acceptedSeq := some envelope.seq }⟩
  | _ => none

/-- The head `entry(..).or_insert_with(..)` finds. -/
def headIn (move : Move) (head : Option ProjectedRunHead) : ProjectedRunHead :=
  head.getD ⟨move.fresh, none, none, envelope.branchId, none⟩

/-- `changes_projection` of the incremental update. -/
def changesProjection : Bool :=
  envelope.kind.any (["run_retried", "run_state", "user_message", "peer.message",
    "provider_operation_reserved"].contains ·)

end Envelope

/-- `apply_run_head_envelope`; every error is `corrupt`. -/
def applyRunHeadEnvelope (heads : Heads) (envelope : Envelope) : Except String Heads :=
  match envelope.runId, envelope.move with
  | some runId, some move => do
    let head := envelope.headIn move (heads.lookup runId)
    ensure (head.branchId = envelope.branchId)
      s!"{move.subject} {runId} crosses branch scopes in durable history"
    return heads.insert runId (move.update head)
  | _, _ => .ok heads

/-- `RunHeadProjectionMeta`. -/
structure Metadata where
  throughSeq : Nat
  runCount : Nat
  nonterminalCount : Nat
  deriving DecidableEq, Repr

/-- The rows with the metadata row, if it was ever written. -/
structure Projection where
  rows : Heads
  metadata : Option Metadata

/-- `projected_run_head_counts`, with the watermark. -/
def metadataOf (throughSeq : Nat) (heads : Heads) : Metadata :=
  ⟨throughSeq, heads.entries.length, heads.entries.countP (·.2.live)⟩

/-- The position the projection is written for. -/
def throughSeq (envelopes : List Envelope) : Nat := (envelopes.getLast?.map (·.seq)).getD 0

variable (iteration : Iteration) (journal : List Envelope)

/-- `rebuild_run_head_projection`: from the whole journal. -/
def rebuildRunHeadProjection : Except String Projection := do
  let heads ← journal.foldlM applyRunHeadEnvelope ∅
  return ⟨heads, some (metadataOf (throughSeq journal) heads)⟩

/-- The two maps of the first loop: the stored heads of the runs met, and the moved ones. -/
structure Touched where
  original : HashMap RunId (Option ProjectedRunHead)
  changed : Heads

/-- A row is read the first time its run is touched. -/
def Touched.load (rows : Heads) (touched : Touched) (runId : RunId) : Touched :=
  match touched.original.lookup runId, rows.lookup runId with
  | some _, _ => touched
  | none, none => { touched with original := touched.original.insert runId none }
  | none, some head =>
    ⟨touched.original.insert runId (some head), touched.changed.insert runId head⟩

/-- One envelope of the batch. -/
def Touched.step (rows : Heads) (touched : Touched) (envelope : Envelope) :
    Except String Touched :=
  match envelope.runId, envelope.changesProjection with
  | some runId, true => do
    let touched := touched.load rows runId
    let changed ← applyRunHeadEnvelope touched.changed envelope
    return { touched with changed }
  | _, _ => .ok touched

/-- What the second loop writes: rows and counters. -/
structure Stored where
  rows : Heads
  runCount : Nat
  nonterminalCount : Nat

/-- The second loop: the counters move by the difference to the stored head. -/
def writeChanged (original : HashMap RunId (Option ProjectedRunHead)) (stored : Stored)
    (entry : Sigma fun _ : RunId => ProjectedRunHead) : Except String Stored := do
  let previous := (original.lookup entry.1).join
  ensure (!previous.any (·.live) || 0 < stored.nonterminalCount)
    "run-head live count is inconsistent"
  return {
    rows := stored.rows.insert entry.1 entry.2
    runCount := stored.runCount + previous.isNone.toNat
    nonterminalCount :=
      stored.nonterminalCount - (previous.any (·.live)).toNat + entry.2.live.toNat }

/-- The order in which a hash map is iterated. -/
structure Iteration where
  entries : Heads → List (Sigma fun _ : RunId => ProjectedRunHead)
  perm : ∀ heads, (entries heads).Perm heads.entries

/-- `update_run_head_projection_after_append`; the journal already holds the batch. -/
def updateAfterAppend (projection : Projection) (batch : List Envelope) :
    Except String Projection :=
  match batch with
  | [] => .ok projection
  | first :: _ =>
    match projection.metadata.filter (·.throughSeq + 1 = first.seq) with
    | none => rebuildRunHeadProjection journal
    | some metadata => do
      let touched ← batch.foldlM (Touched.step projection.rows) ⟨∅, ∅⟩
      let stored ← (iteration.entries touched.changed).foldlM (writeChanged touched.original)
        ⟨projection.rows, metadata.runCount, metadata.nonterminalCount⟩
      return ⟨stored.rows, some ⟨throughSeq batch, stored.runCount, stored.nonterminalCount⟩⟩

/-- A batch appended to the journal, with the projection moved on. -/
def appendBatch (stored : List Envelope × Projection) (batch : List Envelope) :
    Except String (List Envelope × Projection) := do
  let projection ← updateAfterAppend iteration (stored.1 ++ batch) stored.2 batch
  return (stored.1 ++ batch, projection)

/-- Batch after batch. -/
def maintain (start : Projection) (batches : List (List Envelope)) :
    Except String (List Envelope × Projection) :=
  batches.foldlM (appendBatch iteration) ([], start)

theorem Envelope.branchId_update {envelope : Envelope} {move : Move}
    (moves : envelope.move = some move) (head : ProjectedRunHead) :
    (move.update head).branchId = head.branchId := by
  unfold Envelope.move at moves
  split at moves <;> cases moves <;> rfl

theorem Envelope.changesProjection_of_move {envelope : Envelope} {move : Move}
    (moves : envelope.move = some move) : envelope.changesProjection = true := by
  unfold Envelope.move at moves
  unfold Envelope.changesProjection Envelope.kind
  split at moves <;> cases moves <;> simp_all [RawPayload.type, EventPayload.tag]

/-- The envelopes that move the head of one run are all on one branch. -/
def OneBranch : Prop :=
  ∀ a ∈ journal, ∀ b ∈ journal, ∀ runId, a.runId = some runId → b.runId = some runId →
    a.move.isSome → b.move.isSome → a.branchId = b.branchId

/-- Runs that keep to one branch always fold. -/
theorem OneBranch.heads {journal : List Envelope} (oneBranch : OneBranch journal) :
    ∃ heads, journal.foldlM applyRunHeadEnvelope ∅ = .ok heads := by
  -- a head shows the branch of an envelope that moved it
  let Shown (done : List Envelope) (heads : Heads) : Prop :=
    ∀ runId head, heads.lookup runId = some head →
      ∃ a ∈ done, a.runId = some runId ∧ a.move.isSome ∧ head.branchId = a.branchId
  suffices ∃ heads, journal.foldlM applyRunHeadEnvelope ∅ = .ok heads ∧ Shown journal heads from
    this.imp fun heads folded => folded.1
  refine foldlM_prefix (by simp [Shown]) ?_
  rintro done envelope rest heads rfl shown
  have kept : Shown (done ++ [envelope]) heads := by
    intro runId head found
    obtain ⟨a, mem, facts⟩ := shown runId head found
    exact ⟨a, mem_append_left _ mem, facts⟩
  unfold applyRunHeadEnvelope
  split
  · rename_i runId move run moves
    have fits : (envelope.headIn move (heads.lookup runId)).branchId = envelope.branchId := by
      cases found : heads.lookup runId with
      | none => rfl
      | some head =>
        obtain ⟨a, mem, sameRun, aMoves, branch⟩ := shown runId head found
        refine branch.trans (oneBranch a (by simp [mem]) envelope (by simp) runId sameRun run
          aMoves (by simp [moves]))
    refine ⟨_, by simp [ensure, fits]; rfl, EntryMap.forall_lookup_insert ?_ kept⟩
    exact ⟨envelope, by simp, run, by simp [moves], (Envelope.branchId_update moves _).trans fits⟩
  · exact ⟨heads, rfl, kept⟩

/-- The loop follows the fold of all heads: it has the heads of the runs it has loaded. -/
def Touched.Follows (rows heads : Heads) (touched : Touched) : Prop :=
  ∀ runId, match touched.original.lookup runId with
  | none => touched.changed.lookup runId = none ∧ heads.lookup runId = rows.lookup runId
  | some stored => stored = rows.lookup runId ∧
      touched.changed.lookup runId = heads.lookup runId ∧
      (heads.lookup runId = none → stored = none)

namespace Touched.Follows

variable {rows heads moved : Heads} {touched : Touched} {envelope : Envelope}

variable (follows : touched.Follows rows heads)
include follows

theorem load (runId : RunId) :
    (touched.load rows runId).Follows rows heads ∧
      ((touched.load rows runId).original.lookup runId).isSome := by
  have here := follows runId
  unfold Touched.load
  cases known : touched.original.lookup runId with
  | some stored => exact ⟨follows, by rw [known]; rfl⟩
  | none =>
    rw [known] at here
    cases found : rows.lookup runId <;>
    · refine ⟨fun other => ?_, by simp⟩
      by_cases same : other = runId
      · subst same
        simp [here, found]
      · simpa [AList.lookup_insert_ne same] using follows other

/-- One envelope: the loop moves the head of its run as the fold over all heads does. -/
theorem step (applied : applyRunHeadEnvelope heads envelope = .ok moved) :
    ∃ next, touched.step rows envelope = .ok next ∧ next.Follows rows moved := by
  unfold Touched.step
  unfold applyRunHeadEnvelope at applied
  cases run : envelope.runId with
  | none =>
    rw [run] at applied
    cases applied
    exact ⟨touched, rfl, follows⟩
  | some runId =>
    rw [run] at applied
    obtain ⟨loaded, known⟩ := follows.load runId
    obtain ⟨stored, known⟩ := Option.isSome_iff_exists.mp known
    have here := loaded runId
    rw [known] at here
    cases moves : envelope.move with
    | none =>
      rw [moves] at applied
      cases applied
      cases envelope.changesProjection
      · exact ⟨touched, rfl, follows⟩
      · exact ⟨touched.load rows runId, by simp [applyRunHeadEnvelope, run, moves], loaded⟩
    | some move =>
      rw [moves] at applied
      obtain ⟨fits, inserted⟩ := ensure_bind_eq_ok.mp applied
      cases inserted
      let head := move.update (envelope.headIn move (heads.lookup runId))
      refine ⟨⟨(touched.load rows runId).original,
        (touched.load rows runId).changed.insert runId head⟩, ?_, fun other => ?_⟩
      · simp only [Envelope.changesProjection_of_move moves, applyRunHeadEnvelope, run, moves,
          here.2.1, ensure, fits, if_true]
        rfl
      · by_cases same : other = runId
        · subst same
          simp [known, here, head]
        · simpa [AList.lookup_insert_ne same] using loaded other

theorem foldlM {batch : List Envelope}
    (folded : batch.foldlM applyRunHeadEnvelope heads = .ok moved) :
    ∃ last, batch.foldlM (Touched.step rows) touched = .ok last ∧ last.Follows rows moved := by
  induction batch generalizing heads touched with
  | nil =>
    cases folded
    exact ⟨touched, rfl, follows⟩
  | cons envelope batch ih =>
    obtain ⟨between, applied, rest⟩ := bind_eq_ok.mp folded
    obtain ⟨next, stepped, follows⟩ := follows.step applied
    obtain ⟨last, later, follows⟩ := ih follows rest
    exact ⟨last, by rw [foldlM_cons, stepped]; exact later, follows⟩

omit follows

end Touched.Follows

/-- The counters are those of the rows. -/
def Stored.Counted (stored : Stored) : Prop :=
  stored.runCount = stored.rows.entries.length ∧
    stored.nonterminalCount = stored.rows.entries.countP (·.2.live)

/-- The second loop, over rows that are still the ones loaded: no counter underflows. -/
theorem foldlM_writeChanged {original : HashMap RunId (Option ProjectedRunHead)}
    {entries : List (Sigma fun _ : RunId => ProjectedRunHead)} {stored : Stored}
    (nodup : entries.NodupKeys) (counted : stored.Counted)
    (loaded : ∀ entry ∈ entries, original.lookup entry.1 = some (stored.rows.lookup entry.1)) :
    ∃ last, entries.foldlM (writeChanged original) stored = .ok last ∧ last.Counted ∧
      ∀ runId, last.rows.lookup runId = (entries.dlookup runId).or (stored.rows.lookup runId) := by
  induction entries generalizing stored with
  | nil => exact ⟨stored, rfl, counted, fun runId => rfl⟩
  | cons entry entries ih =>
    obtain ⟨runId, head⟩ := entry
    obtain ⟨fresh, nodup⟩ := nodupKeys_cons.mp nodup
    have known := loaded ⟨runId, head⟩ mem_cons_self
    have live := EntryMap.countP_eq_erase ProjectedRunHead.live stored.rows runId
    have live' := EntryMap.countP_insert ProjectedRunHead.live stored.rows runId head
    have all := EntryMap.countP_eq_erase (fun _ => true) stored.rows runId
    have all' := EntryMap.countP_insert (fun _ => true) stored.rows runId head
    simp only [countP_true] at all all'
    obtain ⟨runs, nonterminal⟩ := counted
    let next : Stored := {
      rows := stored.rows.insert runId head
      runCount := stored.runCount + (stored.rows.lookup runId).isNone.toNat
      nonterminalCount := stored.nonterminalCount -
        ((stored.rows.lookup runId).any (·.live)).toNat + head.live.toNat }
    have written : writeChanged original stored ⟨runId, head⟩ = .ok next := by
      unfold writeChanged
      rw [known, Option.join_some]
      refine ensure_bind_eq_ok.mpr ⟨?_, rfl⟩
      cases counts : (stored.rows.lookup runId).any (·.live) with
      | false => rfl
      | true =>
        rw [counts, Bool.toNat_true] at live
        simp [nonterminal, live]
    have counted : next.Counted := by
      constructor
      · show stored.runCount + _ = _
        rw [all', runs, all]
        cases stored.rows.lookup runId <;> rfl
      · show stored.nonterminalCount - _ + _ = _
        rw [live', nonterminal, live, Nat.add_sub_cancel]
    have other (entry) (mem : entry ∈ entries) : entry.1 ≠ runId := by
      rintro rfl
      exact fresh (mem_map.mpr ⟨entry, mem, rfl⟩)
    obtain ⟨last, later, counted, read⟩ := ih nodup counted fun entry mem => by
      rw [loaded entry (mem_cons_of_mem _ mem), AList.lookup_insert_ne (other entry mem)]
    refine ⟨last, by rw [foldlM_cons, written]; exact later, counted, fun key => ?_⟩
    rw [read key]
    by_cases same : key = runId
    · subst same
      simp [dlookup_cons_eq, dlookup_eq_none.mpr fresh, next]
    · rw [dlookup_cons_ne _ _ same, AList.lookup_insert_ne same]

/-- The projection is the one of the journal. -/
def Current (projection : Projection) : Prop :=
  ∃ heads, journal.foldlM applyRunHeadEnvelope ∅ = .ok heads ∧
    (∀ runId, projection.rows.lookup runId = heads.lookup runId) ∧
    projection.metadata = some (metadataOf (throughSeq journal) heads)

theorem Stored.Counted.metadata {stored : Stored} (counted : stored.Counted) {heads : Heads}
    (same : ∀ runId, stored.rows.lookup runId = heads.lookup runId) (seq : Nat) :
    (⟨seq, stored.runCount, stored.nonterminalCount⟩ : Metadata) = metadataOf seq heads := by
  have perm := EntryMap.perm_of_lookup_eq same
  rw [metadataOf, counted.1, counted.2, perm.length_eq, perm.countP_eq]

/-- The incremental update gives the rows, counters and mark of a rebuild. -/
theorem updateAfterAppend_current {before batch : List Envelope} {projection : Projection}
    {moved : Heads} (current : projection.metadata = none ∨ Current before projection)
    (nonempty : batch ≠ []) (folded : (before ++ batch).foldlM applyRunHeadEnvelope ∅ = .ok moved) :
    ∃ next, updateAfterAppend iteration (before ++ batch) projection batch = .ok next ∧
      Current (before ++ batch) next := by
  unfold updateAfterAppend
  cases batch with
  | nil => exact absurd rfl nonempty
  | cons first batch =>
    dsimp only
    cases continues : projection.metadata.filter (·.throughSeq + 1 = first.seq) with
    | none =>
      refine ⟨⟨moved, some (metadataOf _ moved)⟩, ?_, moved, folded, fun _ => rfl, rfl⟩
      rw [rebuildRunHeadProjection, folded]
      rfl
    | some metadata =>
      obtain ⟨present, -⟩ := Option.filter_eq_some_iff.mp continues
      obtain unset | ⟨heads, already, rows, counts⟩ := current
      · rw [unset] at present
        cases present
      rw [present] at counts
      cases counts
      rw [foldlM_append, already] at folded
      have fresh : Touched.Follows projection.rows heads ⟨∅, ∅⟩ :=
        fun runId => ⟨rfl, (rows runId).symm⟩
      obtain ⟨touched, looped, follows⟩ := fresh.foldlM folded
      have listed := iteration.perm touched.changed
      have nodup := (perm_nodupKeys listed).mpr touched.changed.nodupKeys
      have counted : Stored.Counted ⟨projection.rows, heads.entries.length,
          heads.entries.countP (·.2.live)⟩ := by
        have perm := EntryMap.perm_of_lookup_eq rows
        exact ⟨perm.symm.length_eq, perm.symm.countP_eq _⟩
      have loaded : ∀ entry ∈ iteration.entries touched.changed,
          touched.original.lookup entry.1 = some (projection.rows.lookup entry.1) := by
        intro entry mem
        have moved := EntryMap.mem_entries_iff.mp (listed.mem_iff.mp mem)
        have here := follows entry.1
        split at here
        · rw [here.1] at moved
          cases moved
        · rename_i known
          rw [known, here.1]
      obtain ⟨stored, written, counted, read⟩ := foldlM_writeChanged nodup counted loaded
      have same (runId : RunId) : stored.rows.lookup runId = moved.lookup runId := by
        have here := follows runId
        have changed : (iteration.entries touched.changed).dlookup runId =
          touched.changed.lookup runId := perm_dlookup runId nodup listed
        rw [read, changed]
        split at here
        · rw [here.1, here.2]
          rfl
        · obtain ⟨rfl, loaded, absent⟩ := here
          rw [loaded]
          cases head : moved.lookup runId with
          | none => exact absent head
          | some head => rfl
      refine ⟨⟨stored.rows, some (metadataOf (throughSeq (first :: batch)) moved)⟩, ?_, moved, ?_,
        same, ?_⟩
      · refine bind_eq_ok.mpr ⟨touched, looped, bind_eq_ok.mpr ⟨stored, written, ?_⟩⟩
        rw [counted.metadata same]
        rfl
      · rw [foldlM_append, already]
        exact folded
      · simp [throughSeq, getLast?_append, getLast?_cons]

/-- The same watermark and counters, and the same row for every run. -/
def Projection.Agrees (maintained rebuilt : Projection) : Prop :=
  maintained.metadata = rebuilt.metadata ∧
    ∀ runId, maintained.rows.lookup runId = rebuilt.rows.lookup runId

/-- At every batch boundary the projection kept batch by batch is the one rebuilt from the whole
journal: rows, counters and watermark. A session starts without a projection or with an empty
one. -/
theorem maintained_agrees_with_rebuilt (iteration : Iteration) (start : Projection)
    (unused : start.metadata = none ∨ start = ⟨∅, some ⟨0, 0, 0⟩⟩) (batches : List (List Envelope))
    (nonempty : ∀ batch ∈ batches, batch ≠ []) (oneBranch : OneBranch batches.flatten)
    (done : List (List Envelope)) (boundary : done <+: batches) (begun : done ≠ []) :
    ∃ maintained rebuilt, maintain iteration start done = .ok (done.flatten, maintained) ∧
      rebuildRunHeadProjection done.flatten = .ok rebuilt ∧ maintained.Agrees rebuilt := by
  obtain ⟨later, rfl⟩ := boundary
  let Kept (seen : List (List Envelope)) (stored : List Envelope × Projection) : Prop :=
    stored.1 = seen.flatten ∧
      (seen = [] ∧ stored.2.metadata = none ∨ Current stored.1 stored.2)
  have start : Kept [] ([], start) := by
    refine ⟨rfl, unused.imp (⟨rfl, ·⟩) ?_⟩
    rintro rfl
    exact ⟨∅, rfl, fun _ => rfl, rfl⟩
  have step (seen : List (List Envelope)) (batch) (rest : List (List Envelope)) (stored)
      (split : done = seen ++ batch :: rest) (kept : Kept seen stored) :
      ∃ next, appendBatch iteration stored batch = .ok next ∧ Kept (seen ++ [batch]) next := by
    obtain ⟨journal, projection⟩ := stored
    obtain ⟨rfl, kept⟩ := kept
    have inside (e : Envelope) (member : e ∈ seen.flatten ++ batch) :
        e ∈ (done ++ later).flatten := by
      rw [split]
      simp only [flatten_append, flatten_cons, mem_append] at member ⊢
      tauto
    have prior : OneBranch (seen.flatten ++ batch) := fun a first b second =>
      oneBranch a (inside a first) b (inside b second)
    obtain ⟨heads, folded⟩ := prior.heads
    obtain ⟨next, updated, current⟩ := updateAfterAppend_current iteration
      (kept.imp (·.2) id) (nonempty batch (by simp [split])) folded
    exact ⟨(seen.flatten ++ batch, next), bind_eq_ok.mpr ⟨next, updated, rfl⟩, by simp,
      .inr current⟩
  obtain ⟨⟨journal, maintained⟩, ran, whole, kept⟩ := foldlM_prefix start step
  obtain rfl : journal = done.flatten := whole
  obtain ⟨none, -⟩ | ⟨heads, folded, rows, metadata⟩ := kept
  · exact absurd none begun
  exact ⟨maintained, _, ran, by rw [rebuildRunHeadProjection, folded]; rfl, metadata, rows⟩

/-- A message, its run and its end in two batches. -/
theorem maintained_agrees_with_rebuilt_two_batches :
    let message : Envelope := ⟨1, some "run", none, .raw (.event (.userMessage "" [] "null"))⟩
    let batches := [[message, ⟨2, some "run", none, .raw (.event (.runState .streaming))⟩],
      [⟨3, some "run", none, .raw (.event (.runState .done))⟩]]
    let iteration : Iteration := ⟨AList.entries, fun _ => .refl _⟩
    ∃ maintained rebuilt, maintain iteration ⟨∅, none⟩ batches = .ok (batches.flatten, maintained) ∧
      rebuildRunHeadProjection batches.flatten = .ok rebuilt ∧ maintained.Agrees rebuilt := by
  intro message batches iteration
  have main : ∀ e ∈ batches.flatten, e.branchId = none := by decide
  exact maintained_agrees_with_rebuilt iteration ⟨∅, none⟩ (.inl rfl) batches (by decide)
    (fun a first b second _ _ _ _ _ => (main a first).trans (main b second).symm) batches
    (prefix_refl _) (by decide)

end HaiderAgent.RunHeads
