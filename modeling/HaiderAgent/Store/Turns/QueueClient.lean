import HaiderAgent.Store.Turns.QueueKept

/-!
# A client of the queue

A client that lists the queue once and applies the deltas committed after the revision it has seen
holds the queue the store would list, along every run in which a held message leaves the queue by a
delta only.
-/

namespace HaiderAgent.Turns

open List ExceptFold
open QueuePanelState (applyList)
open QueueRow (content)

section Revision

variable {e : Envelope} {scan : QueueScan} {delta : QueueDelta}

theorem payload_of_delta (carried : e.delta? = some delta) : e.payload = .queueChanged delta := by
  unfold Envelope.delta? at carried
  split at carried
  · rwa [← Option.some.inj carried]
  · cases carried

theorem revision_step_of_delta (carried : e.delta? = some delta) :
    (scan.step (fun _ => true) e).revision = max scan.revision (max delta.revision e.seq) := by
  unfold QueueScan.step QueueScan.change
  rw [payload_of_delta carried]
  dsimp only
  split <;> rfl

theorem revision_message (scan : QueueScan) (e : Envelope) :
    (scan.message (fun _ => true) e).revision = scan.revision := by
  unfold QueueScan.message
  split
  · rfl
  · split
    · rfl
    · split <;> rfl

theorem revision_step_of_bare (bare : e.delta? = none) :
    (scan.step (fun _ => true) e).revision = scan.revision := by
  unfold QueueScan.step
  split
  · rename_i delta carried
    simp [Envelope.delta?, carried] at bare
  · exact revision_message scan e

theorem revision_le_iff {envelopes : List Envelope} {bound : Nat} :
    (scanAll envelopes).revision ≤ bound ↔
      ∀ e ∈ envelopes, ∀ delta, e.delta? = some delta → delta.revision ≤ bound ∧ e.seq ≤ bound := by
  induction envelopes using reverseRecOn with
  | nil => exact ⟨fun _ e mem => absurd mem not_mem_nil, fun _ => Nat.zero_le _⟩
  | append_singleton envelopes e ih =>
    have stepped : scanAll (envelopes ++ [e]) = (scanAll envelopes).step (fun _ => true) e :=
      scanAll_append envelopes [e]
    rw [stepped, forall_mem_append, forall_mem_singleton, ← ih]
    cases carried : e.delta? with
    | none =>
      rw [revision_step_of_bare carried]
      simp
    | some delta =>
      rw [revision_step_of_delta carried]
      simp

variable {store later : Store} {gained : List Envelope}

variable (grown : later.journal.envelopes = store.journal.envelopes ++ gained)
include grown

theorem revision_lt (mem : e ∈ gained) (carried : e.delta? = some delta) :
    (scanAll store.journal.envelopes).revision < delta.revision := by
  have inside (x : Envelope) (mem : x ∈ gained) : x ∈ later.journal.envelopes :=
    grown ▸ mem_append_right _ mem
  have late : store.journal.headSeq < e.seq := by
    refine Log.head_lt (grown ▸ later.journal.increasing) ?_ mem
    exact fun x found => later.journal.positive x (inside x found)
  have early : (scanAll store.journal.envelopes).revision ≤ store.journal.headSeq := by
    rw [revision_le_iff]
    intro old found older is
    have below : old.seq ≤ store.journal.headSeq := Log.le_head store.journal.increasing found
    rw [store.journal.dated old found older (payload_of_delta is)]
    exact ⟨below, below⟩
  rw [later.journal.dated e (inside e mem) delta (payload_of_delta carried)]
  exact Nat.lt_of_le_of_lt early late

theorem deltasAfter_revision :
    deltasAfter (scanAll store.journal.envelopes).revision later.journal.envelopes =
      gained.filterMap Envelope.delta? := by
  have old : (store.journal.envelopes.filterMap Envelope.delta?).filter (fun delta =>
      decide ((scanAll store.journal.envelopes).revision < delta.revision)) = [] := by
    refine filter_eq_nil_iff.mpr fun delta mem => ?_
    obtain ⟨e, found, carried⟩ := mem_filterMap.mp mem
    have seen := (revision_le_iff.mp le_rfl e found delta carried).1
    simpa using seen
  have new : (gained.filterMap Envelope.delta?).filter (fun delta =>
      decide ((scanAll store.journal.envelopes).revision < delta.revision)) =
        gained.filterMap Envelope.delta? := by
    refine filter_eq_self.mpr fun delta mem => ?_
    obtain ⟨e, found, carried⟩ := mem_filterMap.mp mem
    exact decide_eq_true (revision_lt grown found carried)
  unfold deltasAfter
  rw [grown, filterMap_append, filter_append, old, new, nil_append]

/-- A queue that has gained a delta has a new revision. -/
theorem bare_of_revision
    (same : (scanAll store.journal.envelopes).revision = (scanAll later.journal.envelopes).revision) :
    gained.filterMap Envelope.delta? = [] := by
  refine filterMap_eq_nil_iff.mpr fun e mem => ?_
  cases carried : e.delta? with
  | none => rfl
  | some delta =>
    have there : e ∈ later.journal.envelopes := grown ▸ mem_append_right _ mem
    have early := revision_lt grown mem carried
    have late := (revision_le_iff.mp le_rfl e there delta carried).1
    omega

omit grown

end Revision

section Runs

/-- No held message's run is cancelled, retracted or moved from `Queued` by a worker. -/
def sparesHeld (store : Store) : Action → Bool
  | .cancelTurn _ command => !heldBack store.journal.envelopes command.runId
  | .retractTurn _ command => !heldBack store.journal.envelopes command.cancel.runId
  | .worker _ batch =>
    (batch.filterMap (·.runId)).all fun runId =>
      !heldBack store.journal.envelopes runId ||
        ((batch.map (·.toDraft)).filterMap (Draft.stateMark runId)).getLast?.all (· = .queued)
  | _ => true

theorem queued_of_sparesHeld {store : Store} {now : Nat} {batch : List WorkerDraft}
    (spares : sparesHeld store (.worker now batch) = true) (runId : RunId)
    (back : heldBack store.journal.envelopes runId = true) (state : RunState)
    (last : ((batch.map (·.toDraft)).filterMap (Draft.stateMark runId)).getLast? = some state) :
    state = .queued := by
  -- the last state of the run is one of the batch, so the batch names the run
  have named : runId ∈ batch.filterMap (·.runId) := by
    obtain ⟨draft, found, mark⟩ := mem_filterMap.mp (mem_of_getLast? last)
    obtain ⟨source, mem, rfl⟩ := mem_map.mp found
    refine mem_filterMap.mpr ⟨source, mem, ?_⟩
    unfold Draft.stateMark at mark
    split at mark
    · assumption
    · cases mark
  have spared := all_eq_true.mp spares runId named
  rw [back, last] at spared
  simpa using spared

/-- Every operation that spares the held messages keeps the queue to its deltas. -/
theorem Kept.of_step {store later : Store} {action : Action}
    (tended : Tended store.journal.envelopes) (spares : sparesHeld store action = true)
    (stepped : store.step action = some later) : Kept store later := by
  have performed : store.perform action = .ok later := ok_of_toOption stepped
  cases action with
  | accept | acceptPeer => exact Kept.of_acceptTurn tended performed
  | queueRemove now command => exact Kept.of_queueRemove tended performed
  | queuePromoteSteer now command => exact Kept.of_queuePromoteSteer tended performed
  | queueConsume now command => exact Kept.of_queueConsume tended performed
  | cancelTurn now command =>
    exact Kept.of_cancelTurn tended (Bool.not_eq_true' _ ▸ spares) performed
  | retractTurn now command =>
    exact Kept.of_retractTurn tended (Bool.not_eq_true' _ ▸ spares) performed
  | worker now batch => exact Kept.of_worker tended (queued_of_sparesHeld spares) performed
  | reopen =>
    cases performed
    exact Kept.of_tended tended

theorem tended_new (branches : HashMap BranchId BranchDescriptor)
    (delegatedAgent : Option AgentId) (workerGeneration : Nat) :
    Tended (Store.new branches delegatedAgent workerGeneration).journal.envelopes where
  known := fun id mem => absurd mem (Finset.notMem_empty id)
  queued := nofun
  started := fun _ known => absurd rfl known
  few := Nat.zero_le _

/-- A run whose operations spare the held messages keeps the queue to its deltas. -/
theorem Kept.of_run {start last : Store} {actions : List Action}
    (tended : Tended start.journal.envelopes)
    (guarded : Machine.Guarded Store.step (fun s a => sparesHeld s a = true) start actions)
    (ran : Machine.run Store.step start actions = some last) : Kept start last := by
  refine Machine.guarded_invariant (P := Kept start) ?_ guarded (Kept.of_tended tended) ran
  intro store action later spares kept stepped
  exact kept.trans (Kept.of_step kept.tended spares stepped)

theorem Tended.queueSnapshot_eq {store : Store} (tended : Tended store.journal.envelopes) :
    queueSnapshot store = .ok
      { revision := (scanAll store.journal.envelopes).revision
        rows := (numbered 0 (scanAll store.journal.envelopes).held.reverse).map (·.row) } := by
  have few : 0 + (queueOf store.journal.envelopes).length ≤ u32Max := by
    rw [tended.queueOf_eq store.journal.increasing, length_reverse, Nat.zero_add]
    exact tended.few
  have entries : queueEntries store.journal.envelopes =
      .ok ((scanAll store.journal.envelopes).revision,
        numbered 0 (scanAll store.journal.envelopes).held.reverse) := by
    refine bind_eq_ok.mpr
      ⟨numbered 0 (queueOf store.journal.envelopes), numberEntries_ok few, ?_⟩
    rw [tended.queueOf_eq store.journal.increasing, queueScan_eq_restrict]
    rfl
  unfold queueSnapshot
  rw [entries]
  rfl

/-- At any two points of a run whose operations leave the held messages to the deltas, the
earlier list and the deltas after its revision give the rows of the later list; lists with the
same revision have the same rows. -/
theorem snapshot_and_deltas_give_snapshot {branches : HashMap BranchId BranchDescriptor}
    {delegatedAgent : Option AgentId} {workerGeneration : Nat} {before between : List Action}
    {middle last : Store} (guarded : Machine.Guarded Store.step (fun s a => sparesHeld s a = true)
      (Store.new branches delegatedAgent workerGeneration) (before ++ between))
    (reached : Machine.run Store.step (Store.new branches delegatedAgent workerGeneration) before =
      some middle) (ran : Machine.run Store.step middle between = some last) :
    ∃ seen listed, queueSnapshot middle = .ok seen ∧ queueSnapshot last = .ok listed ∧
      ((applyList seen).applyDeltas
          (deltasAfter seen.revision last.journal.envelopes)).rows.map content =
        listed.rows.map content ∧
      (seen.revision = listed.revision → seen.rows = listed.rows) := by
  obtain ⟨early, late⟩ := (Machine.guarded_append reached).mp guarded
  have tended := (Kept.of_run (tended_new branches delegatedAgent workerGeneration) early
    reached).tended
  have kept := Kept.of_run tended late ran
  have tended' := kept.tended
  obtain ⟨gained, grown, follows⟩ := kept
  have contents := follows.contents
  rw [← grown] at contents
  refine ⟨_, _, tended.queueSnapshot_eq, tended'.queueSnapshot_eq, ?_, ?_⟩
  · rw [contents_applyDeltas]
    rw [deltasAfter_revision grown]
    simp only [applyList, map_map]
    have shown (entries : List QueuedEntry) :
        (numbered 0 entries).map (content ∘ (·.row)) = entries.map (·.row.content) :=
      contents_numbered 0 entries
    rw [shown, shown, contents]
  · intro same
    refine rows_numbered ?_
    rw [contents, bare_of_revision grown same]
    rfl

/-- A queued submission of a text. -/
def submission (runId : RunId) (text : String) : TurnAcceptCommand where
  identity := ⟨"accept-" ++ runId, "blake3:00", "null"⟩
  workerGeneration := 1
  runId := runId
  agentId := none
  branchId := none
  text := text
  attachments := []
  mode := .queue
  queuedEventId := "queued-" ++ runId
  userEventId := "user-" ++ runId
  activeEventId := "active-" ++ runId
  trustHooks := false
  headless := none
  facts := []

/-- One message runs and another waits behind it. -/
def oneWaiting : List Action :=
  [.accept 10 (submission "a" "first"), .accept 20 (submission "b" "second")]

/-- A third message is enqueued, the second removed, and the third consumed and started. -/
def thirdStarted : List Action :=
  [.accept 30 (submission "c" "third"),
    .queueRemove 40 ⟨"user-b", 12, "cancelling-b", "removed-b"⟩,
    .queueConsume 50 ⟨"c", "consumed-c"⟩,
    .worker 60 [{ draft "streaming-c" none "c" (.runState .streaming none) true with
      owned := rfl }]]

theorem snapshot_and_deltas_give_snapshot_thirdStarted :
    ∃ middle last seen listed,
      Machine.run Store.step (Store.new ∅ none 1) oneWaiting = some middle ∧
      Machine.run Store.step middle thirdStarted = some last ∧
      queueSnapshot middle = .ok seen ∧ queueSnapshot last = .ok listed ∧
      ((applyList seen).applyDeltas
          (deltasAfter seen.revision last.journal.envelopes)).rows.map content =
        listed.rows.map content := by
  have runs : (Machine.run Store.step (Store.new ∅ none 1) oneWaiting).any (fun middle =>
      (Machine.run Store.step middle thirdStarted).isSome) = true := by
    decide +kernel
  have spares : Machine.guards Store.step sparesHeld (Store.new ∅ none 1)
      (oneWaiting ++ thirdStarted) = true := by
    decide +kernel
  obtain ⟨middle, reached, rest⟩ := (Option.any_eq_true _ _).mp runs
  obtain ⟨last, ran⟩ := Option.isSome_iff_exists.mp rest
  obtain ⟨seen, listed, early, late, same, -⟩ :=
    snapshot_and_deltas_give_snapshot (Machine.guarded_iff.mpr spares) reached ran
  exact ⟨middle, last, seen, listed, reached, ran, early, late, same⟩

/-- The cancellation of the waiting run. -/
def waitingCancelled : List Action :=
  [.cancelTurn 30 ⟨⟨"cancel-b", "blake3:01", "null"⟩, 1, "b", "cancelling-b"⟩]

/-- Cancelling a waiting run drops its row and leaves the revision: the client that applies every
later delta keeps the row. -/
theorem waitingCancelled_row_kept :
    ∃ middle last seen listed,
      Machine.run Store.step (Store.new ∅ none 1) oneWaiting = some middle ∧
      Machine.run Store.step middle waitingCancelled = some last ∧
      queueSnapshot middle = .ok seen ∧ queueSnapshot last = .ok listed ∧
      ((applyList seen).applyDeltas
          (deltasAfter seen.revision last.journal.envelopes)).rows.map content =
        [("user-b", "second", .queue, 20)] ∧
      listed.rows = [] ∧ seen.revision = listed.revision ∧ seen.rows ≠ listed.rows := by
  have runs : (Machine.run Store.step (Store.new ∅ none 1) oneWaiting).any (fun middle =>
      (Machine.run Store.step middle waitingCancelled).any fun last =>
        (queueSnapshot middle).toOption.any fun seen =>
          (queueSnapshot last).toOption.any fun listed =>
            ((applyList seen).applyDeltas
                (deltasAfter seen.revision last.journal.envelopes)).rows.map content =
              [("user-b", "second", .queue, 20)] ∧
            listed.rows = [] ∧ seen.revision = listed.revision ∧ seen.rows ≠ listed.rows) =
      true := by
    decide +kernel
  obtain ⟨middle, reached, rest⟩ := (Option.any_eq_true _ _).mp runs
  obtain ⟨last, ran, rest⟩ := (Option.any_eq_true _ _).mp rest
  obtain ⟨seen, early, rest⟩ := (Option.any_eq_true _ _).mp rest
  obtain ⟨listed, late, state⟩ := (Option.any_eq_true _ _).mp rest
  exact ⟨middle, last, seen, listed, reached, ran, ok_of_toOption early, ok_of_toOption late,
    of_decide_eq_true state⟩

end Runs

end HaiderAgent.Turns
