import HaiderAgent.Store.Turns.QueueDeltas

/-!
# The commands and the queue

What each committed operation does to the queue: after it the held messages are those the
deltas it committed lead to. A cancellation, a retraction and a worker's append commit no delta,
so they do only where they meet no held message.
-/

namespace HaiderAgent.Turns

open List ExceptFold
open Draft (stateMark stamp)

/-- An operation after which the queue has followed the deltas it committed. -/
def Kept (store later : Store) : Prop :=
  ∃ gained, later.journal.envelopes = store.journal.envelopes ++ gained ∧
    Follows store.journal.envelopes gained

variable {store later : Store} {now : Nat} {envelopes : List Envelope} {runId : RunId}
  {entry : QueuedEntry} {batch : List Draft}

theorem Kept.tended (kept : Kept store later) : Tended later.journal.envelopes := by
  obtain ⟨gained, grown, follows⟩ := kept
  rw [grown]
  exact follows.tended

theorem Kept.trans {last : Store} (early : Kept store later) (late : Kept later last) :
    Kept store last := by
  obtain ⟨first, grown, follows⟩ := early
  obtain ⟨second, grown', follows'⟩ := late
  rw [grown] at grown' follows'
  exact ⟨first ++ second, by rw [grown', append_assoc], follows.append follows'⟩

section Batches

variable {journal : Journal}

theorem new_of_fresh (now : Nat) (fresh : journal.Fresh batch) :
    ∀ e ∈ journal.stampBatch now batch, ∀ old ∈ journal.envelopes, old.eventId ≠ e.eventId := by
  intro e mem old there same
  have apart := (nodup_append.mp fresh).2.2
  rw [← Journal.eventIds_stampBatch journal now batch] at apart
  exact apart _ (mem_map.mpr ⟨old, there, rfl⟩) _ (mem_map.mpr ⟨e, mem, rfl⟩) same

theorem isQueued_of_unmarked (unmarked : batch.filterMap (stateMark runId) = []) :
    isQueued (journal.envelopes ++ journal.stampBatch now batch) runId =
      isQueued journal.envelopes runId := by
  have same : lastState (journal.envelopes ++ journal.stampBatch now batch) runId =
      lastState journal.envelopes runId := by
    rw [lastState_append, unmarked]
    rfl
  rw [Bool.eq_iff_iff, isQueued_iff, isQueued_iff, same]

end Batches

theorem lookup_of_mem_held (increasing : Log.Increasing (·.seq) envelopes)
    (mem : entry ∈ (scanAll envelopes).held) :
    (scanAll envelopes).messages.lookup entry.runId = some entry := by
  obtain ⟨item, found, rfl⟩ := mem_map.mp (QueueScan.mem_held.mp mem).1
  rw [((orderly_scanAll increasing).traced item found).1]
  exact EntryMap.mem_entries_iff.mp found

theorem Tended.absent (tended : Tended envelopes) (stateless : lastState envelopes runId = none) :
    (scanAll envelopes).messages.lookup runId = none := by
  by_contra present
  exact tended.started runId present stateless

theorem Tended.runId_ne (tended : Tended envelopes) (increasing : Log.Increasing (·.seq) envelopes)
    (stateless : lastState envelopes runId = none) (mem : entry ∈ (scanAll envelopes).held) :
    entry.runId ≠ runId := by
  intro same
  have here := lookup_of_mem_held increasing mem
  rw [same, tended.absent stateless] at here
  cases here

variable {sent : Draft}

/-- A single draft with a state for its own run, and none for another. -/
theorem stateMark_of_ne {owner : RunId} (owned : sent.runId = some owner)
    (other : runId ≠ owner) : sent.stateMark runId = none := by
  simp [stateMark, owned, Ne.symm other]

/-- Whether a payload is a queue delta. -/
def Payload.isDelta : Payload → Bool
  | .queueChanged _ => true
  | _ => false

theorem delta?_stamp (bare : sent.payload.isDelta = false) (seq : Nat) :
    (sent.stamp now seq).delta? = none := by
  unfold Envelope.delta? stamp
  cases payload : sent.payload <;> simp_all [Payload.stamped, Payload.isDelta]

theorem queueSilent_arbitrated (promptSeq : Nat) (payload : Payload) :
    (payload.arbitrated promptSeq).queueSilent = payload.queueSilent := by
  unfold Payload.arbitrated
  split <;> rfl

theorem queueSilent_of_owned {payload : Payload} (owned : payload.commandOwned = false) :
    payload.queueSilent = true := by
  cases payload <;> simp_all [Payload.commandOwned, Payload.queueSilent]

theorem fencedEntry_eq_ok {revision : Nat} {id : EventId}
    (found : fencedEntry envelopes revision id = .ok entry) :
    ∃ entries, queueEntries envelopes = .ok (revision, entries) ∧ entry ∈ entries ∧
      entry.row.id = id := by
  obtain ⟨⟨current, entries⟩, queue, fenced⟩ := bind_eq_ok.mp found
  obtain ⟨fence, named⟩ := ensure_bind_eq_ok.mp fenced
  rw [of_decide_eq_true fence]
  split at named
  · rename_i located
    cases named
    exact ⟨entries, queue, mem_of_find?_eq_some located,
      by simpa using find?_some located⟩
  · cases named

theorem lastState_of_mem {entry : RunId × DurableRunHead}
    (mem : entry ∈ latestRunStates envelopes) : lastState envelopes entry.1 ≠ none := by
  obtain ⟨item, found, same⟩ := mem_filterMap.mp mem
  obtain ⟨head, durable, rfl⟩ := Option.map_eq_some_iff.mp same
  unfold lastState latestRunState
  rw [EntryMap.mem_entries_iff.mp found]
  simp [durable]

theorem queuePromoteTarget_eq_ok {command : QueuePromoteCommand} {activeRunId : RunId}
    {activeBranchId : Option BranchId}
    (found : queuePromoteTarget envelopes command = .ok (entry, activeRunId, activeBranchId)) :
    fencedEntry envelopes command.revision command.id = .ok entry ∧
      ∃ head, (activeRunId, head) ∈ latestRunStates envelopes ∧ activeRunId ≠ entry.runId ∧
        head.state.isTerminal = false ∧ inactive head.state = false ∧
        activeBranchId = head.branchId := by
  obtain ⟨entry', fenced, found⟩ := bind_eq_ok.mp found
  dsimp only at found
  split at found
  · cases found
  · rename_i run head newest
    replace found := ok_of_ensure found
    cases found
    have mem := argmax_mem newest
    simp only [mem_filter, Bool.and_eq_true, decide_eq_true_eq, Bool.not_eq_true'] at mem
    obtain ⟨there, ⟨other, running⟩, taking⟩ := mem
    exact ⟨fenced, head, there, other, running, taking, rfl⟩

theorem insert_of_append (uncontested : ∀ draft ∈ batch, draft.payload.contested = false)
    (appended : store.append now batch = .ok later) : store.insert now batch = .ok later := by
  unfold Store.append at appended
  rwa [arbitrate_of_uncontested uncontested] at appended

section Commands

variable (tended : Tended store.journal.envelopes)

include tended

theorem Kept.of_tended : Kept store store :=
  ⟨[], (append_nil _).symm, tended.follows_nil⟩

/-- A batch that touches no waiting run leaves the queue alone. -/
theorem Kept.of_insert (inserted : store.insert now batch = .ok later)
    (silent : ∀ draft ∈ batch, draft.payload.queueSilent = true)
    (spared : ∀ runId, heldBack store.journal.envelopes runId = true →
      ∀ state, (batch.filterMap (stateMark runId)).getLast? = some state → state = .queued) :
    Kept store later := by
  obtain ⟨fresh, branches, rfl⟩ := insert_eq_ok inserted
  have quiet : ∀ e ∈ store.journal.stampBatch now batch, e.payload.queueSilent = true :=
    silent_stampBatch silent
  refine ⟨store.journal.stampBatch now batch, rfl, ?_⟩
  refine tended.quiet (fun e mem => delta?_of_silent (quiet e mem)) (new_of_fresh now fresh)
    ?_ ?_
  · intro entry mem
    obtain ⟨queued, back⟩ := tended.queued entry mem
    rw [isQueued_iff, lastState_append]
    cases last : (batch.filterMap (stateMark entry.runId)).getLast? with
    | none => exact isQueued_iff.mp queued
    | some state => rw [spared entry.runId back state last, Option.some_or]
  · intro e mem loud
    rw [quiet e mem] at loud
    cases loud

/-- A cancellation of a run whose message is not held back. -/
theorem Kept.of_cancellationIntent {command : TurnCancelCommand} {head : DurableRunHead}
    (spared : heldBack store.journal.envelopes command.runId = false)
    (returned : store.cancellationIntent now command head = .ok later) : Kept store later := by
  unfold Store.cancellationIntent at returned
  split at returned
  · cases returned
    exact Kept.of_tended tended
  · have inserted := insert_of_append (by simp [draft, Payload.contested]) returned
    refine Kept.of_insert tended inserted (by simp [draft, Payload.queueSilent]) ?_
    intro runId back state last
    have other : runId ≠ command.runId := by
      intro same
      rw [same, spared] at back
      cases back
    rw [filterMap_cons_none (stateMark_of_ne rfl other)] at last
    cases last

theorem Kept.of_cancelTurn {command : TurnCancelCommand}
    (spared : heldBack store.journal.envelopes command.runId = false)
    (returned : store.cancelTurn now command = .ok later) : Kept store later := by
  obtain ⟨_, -, returned⟩ := bind_eq_ok.mp returned
  replace returned := ok_of_ensure returned
  obtain ⟨replayed, -, returned⟩ := bind_eq_ok.mp returned
  split at returned
  · cases returned
    exact Kept.of_tended tended
  · split at returned
    · cases returned
    · obtain ⟨cancelled, intent, same⟩ := bind_eq_ok.mp returned
      cases same
      exact (Kept.of_cancellationIntent tended spared intent :)

/-- A retraction of a run that is not waiting leaves the queue alone. -/
theorem Kept.of_retractTurn {command : TurnRetractCommand}
    (spared : heldBack store.journal.envelopes command.cancel.runId = false)
    (returned : store.retractTurn now command = .ok later) : Kept store later := by
  obtain ⟨_, -, returned⟩ := bind_eq_ok.mp returned
  obtain ⟨replayed, -, returned⟩ := bind_eq_ok.mp returned
  split at returned
  · cases returned
    exact Kept.of_tended tended
  · replace returned := ok_of_ensure returned
    split at returned
    · cases returned
    · replace returned := ok_of_ensure returned
      replace returned := ok_of_ensure returned
      replace returned := ok_of_ensure returned
      split at returned
      · cases returned
      · obtain ⟨_, -, returned⟩ := bind_eq_ok.mp returned
        obtain ⟨cancelled, intent, returned⟩ := bind_eq_ok.mp returned
        obtain ⟨retracted, appended, same⟩ := bind_eq_ok.mp returned
        cases same
        have early := Kept.of_cancellationIntent tended spared intent
        have inserted := insert_of_append (by simp [retractionDraft, draft, Payload.contested]) appended
        have late : Kept cancelled retracted := by
          refine Kept.of_insert early.tended inserted
            (by simp [retractionDraft, draft, Payload.queueSilent]) ?_
          intro runId back state last
          rw [filterMap_cons_none] at last
          · cases last
          · simp [stateMark, retractionDraft, draft, Payload.nextState]
        exact (early.trans late :)

theorem Kept.of_worker {batch : List WorkerDraft}
    (spared : ∀ runId, heldBack store.journal.envelopes runId = true → ∀ state,
      ((batch.map (·.toDraft)).filterMap (stateMark runId)).getLast? = some state →
        state = .queued) (returned : store.workerAppend now (batch.map (·.toDraft)) = .ok later) :
    Kept store later := by
  replace returned := ok_of_ensure returned
  obtain ⟨_, -, inserted⟩ := bind_eq_ok.mp returned
  refine Kept.of_insert tended inserted ?_ ?_
  · intro draft mem
    obtain ⟨source, found, arbitrated⟩ := exists_of_mem_arbitrate mem
    obtain ⟨owner, -, rfl⟩ := mem_map.mp found
    rcases arbitrated with rfl | ⟨promptSeq, rfl⟩
    · exact queueSilent_of_owned owner.owned
    · exact (queueSilent_arbitrated promptSeq _).trans (queueSilent_of_owned owner.owned)
  · intro runId back state last
    rw [filterMap_stateMark_arbitrate] at last
    exact spared runId back state last

theorem mem_held_of_queue {revision : Nat} {entries : List QueuedEntry}
    (returned : queueEntries store.journal.envelopes = .ok (revision, entries))
    (mem : entry ∈ entries) : ∃ held ∈ (scanAll store.journal.envelopes).held, ∃ ordinal,
      entry = held.withOrdinal ordinal := by
  rw [(queueEntries_of_ok returned).2, tended.queueOf_eq store.journal.increasing] at mem
  obtain ⟨held, there, ordinal, same⟩ := mem_numbered mem
  exact ⟨held, mem_reverse.mp there, ordinal, same⟩

/-- Taking a held message out: the last draft is its delta, the others move its run alone. -/
theorem Kept.of_takeOut {held : QueuedEntry}
    (mem : held ∈ (scanAll store.journal.envelopes).held) {last : Draft} {change : QueueChange}
    (out : change.takesOut = some held.row.id) (ends : batch.getLast? = some last)
    (uncontested : ∀ draft ∈ batch.dropLast, draft.payload.contested = false)
    (bare : ∀ draft ∈ batch.dropLast, draft.payload.isDelta = false)
    (marks : ∀ runId, runId ≠ held.runId → batch.dropLast.filterMap (stateMark runId) = [])
    (joined : ∀ draft ∈ batch.dropLast, draft.payload.queueSilent = false → ∀ runId,
      draft.runId = some runId → lastState store.journal.envelopes runId ≠ none)
    (owner : last.runId = some held.runId) (carries : last.payload = .queueChanged ⟨0, change⟩)
    (appended : store.append now batch = .ok later) : Kept store later := by
  rw [← dropLast_append_getLast? last ends] at appended
  generalize batch.dropLast = before at uncontested bare marks joined appended
  have settled : ∀ draft ∈ before ++ [last], draft.payload.contested = false := by
    refine forall_mem_append.mpr ⟨uncontested, forall_mem_singleton.mpr ?_⟩
    rw [carries]
    rfl
  obtain ⟨fresh, branches, rfl⟩ := insert_eq_ok (insert_of_append settled appended)
  have new := new_of_fresh now fresh
  have others (runId : RunId) (other : runId ≠ held.runId) :
      (before ++ [last]).filterMap (stateMark runId) = [] := by
    rw [filterMap_append, marks runId other, filterMap_cons_none]
    · rfl
    · exact stateMark_of_ne owner other
  have split : store.journal.stampBatch now (before ++ [last]) =
      Log.number (stamp now) (store.journal.headSeq + 1) before ++
        [last.stamp now (store.journal.headSeq + 1 + before.length)] := by
    unfold Journal.stampBatch
    rw [Log.number_append]
    rfl
  refine ⟨_, rfl, ?_⟩
  have delta : (last.stamp now (store.journal.headSeq + 1 + before.length)).delta? =
      some ⟨store.journal.headSeq + 1 + before.length, change⟩ := by
    have kept : change.stamped now = change := by
      cases change <;> first | rfl | cases out
    simp [Envelope.delta?, stamp, carries, Payload.stamped, kept]
  have noDelta : ∀ e ∈ Log.number (stamp now) (store.journal.headSeq + 1) before,
      e.delta? = none := by
    intro e there
    obtain ⟨seq, -, draft, found, rfl⟩ := Log.exists_of_mem_number there
    exact delta?_stamp (bare draft found) seq
  rw [split] at new ⊢
  refine tended.takeOut noDelta (fun e there => new e (mem_append_left _ there)) delta out
    (fun entry there apart => ?_) ?_
  · have other : entry.runId ≠ held.runId := by
      intro same
      have found := lookup_of_mem_held store.journal.increasing there
      rw [same, lookup_of_mem_held store.journal.increasing mem] at found
      exact apart (congrArg (·.row.id) (Option.some.inj found).symm)
    obtain ⟨queued, back⟩ := tended.queued entry there
    refine ⟨?_, ?_⟩
    · rw [← split]
      exact (isQueued_of_unmarked (others _ other)).trans queued
    rw [heldBack_of_unmarked, back]
    intro e found
    rcases mem_append.mp found with early | here
    · simp [Envelope.changeMark, noDelta e early]
    · rw [mem_singleton.mp here]
      simp [Envelope.changeMark, stamp, owner, Ne.symm other]
  · intro e there loud runId run
    obtain ⟨seq, -, draft, found, rfl⟩ := Log.exists_of_mem_number there
    have silence : draft.payload.queueSilent = false :=
      (queueSilent_stamped now seq draft.payload).symm.trans loud
    exact lastState_grow (joined draft found silence runId run)

theorem Kept.of_queueRemove {command : QueueRemoveCommand}
    (returned : store.queueRemove now command = .ok later) : Kept store later := by
  obtain ⟨entry, found, appended⟩ := bind_eq_ok.mp returned
  obtain ⟨entries, queue, mem, named⟩ := fencedEntry_eq_ok found
  obtain ⟨held, there, ordinal, rfl⟩ := mem_held_of_queue tended queue mem
  have out : (QueueChange.removed command.id).takesOut = some held.row.id :=
    congrArg some named.symm
  refine Kept.of_takeOut tended there out rfl ?_ ?_ ?_ ?_ rfl rfl appended
  · simp [cancellingDraft, draft, Payload.contested]
  · simp [cancellingDraft, draft, Payload.isDelta]
  · intro runId other
    exact filterMap_cons_none (stateMark_of_ne rfl other)
  · simp [cancellingDraft, draft, Payload.queueSilent]

theorem Kept.of_queuePromoteSteer {command : QueuePromoteCommand}
    (returned : store.queuePromoteSteer now command = .ok later) : Kept store later := by
  obtain ⟨⟨entry, activeRunId, activeBranchId⟩, target, appended⟩ := bind_eq_ok.mp returned
  obtain ⟨found, head, active, -, -, -, -⟩ := queuePromoteTarget_eq_ok target
  obtain ⟨entries, queue, mem, named⟩ := fencedEntry_eq_ok found
  obtain ⟨held, there, ordinal, rfl⟩ := mem_held_of_queue tended queue mem
  have delivery : (promotedPayload (held.withOrdinal ordinal)).contested = false ∧
      (promotedPayload (held.withOrdinal ordinal)).isDelta = false ∧
      (promotedPayload (held.withOrdinal ordinal)).nextState = none := by
    unfold promotedPayload
    split <;> exact ⟨rfl, rfl, rfl⟩
  have out : (QueueChange.promotedSteer command.id).takesOut = some held.row.id :=
    congrArg some named.symm
  refine Kept.of_takeOut tended there out rfl ?_ ?_ ?_ ?_ rfl rfl appended
  · exact forall_mem_cons.mpr ⟨rfl, forall_mem_singleton.mpr delivery.1⟩
  · exact forall_mem_cons.mpr ⟨rfl, forall_mem_singleton.mpr delivery.2.1⟩
  · intro runId other
    refine (filterMap_cons_none (stateMark_of_ne rfl other)).trans (filterMap_cons_none ?_)
    simp [stateMark, draft, delivery.2.2]
  · intro sent member' loud runId owner
    rcases mem_cons.mp member' with rfl | later'
    · simp [cancellingDraft, draft, Payload.queueSilent] at loud
    · rw [mem_singleton.mp later'] at owner
      rw [← Option.some.inj owner]
      exact lastState_of_mem active

theorem Kept.of_queueConsume {command : QueueConsumeCommand}
    (returned : store.queueConsume now command = .ok later) : Kept store later := by
  obtain ⟨⟨revision, entries⟩, queue, returned⟩ := bind_eq_ok.mp returned
  dsimp only at returned
  split at returned
  · cases returned
    exact Kept.of_tended tended
  · rename_i entry located
    obtain ⟨held, there, ordinal, rfl⟩ :=
      mem_held_of_queue tended queue (mem_of_find?_eq_some located)
    refine Kept.of_takeOut tended there rfl rfl ?_ ?_ (fun _ _ => rfl) ?_ rfl rfl returned
    all_goals simp

end Commands

section Accept

variable {command : TurnAcceptCommand} {peer : Option PeerMessage}

/-- What an admitted turn was admitted with, and the batch it committed. -/
theorem admitTurn_eq_ok (returned : store.admitTurn now command peer = .ok later) :
    ∃ agentId parent ordinal grown,
      (sameRunDelivery store.journal.envelopes command
          (subturnTarget store.journal.envelopes command) = true ∨
        latestRunState store.journal.envelopes
          (subturnTarget store.journal.envelopes command) = none) ∧
      nextOrdinal store.journal.envelopes (disposition store.journal.envelopes command
          (subturnTarget store.journal.envelopes command)) = .ok ordinal ∧
      store.append now (turnBatch command peer (subturnTarget store.journal.envelopes command)
          agentId parent (disposition store.journal.envelopes command
            (subturnTarget store.journal.envelopes command)) ordinal) = .ok grown ∧
      later.journal = grown.journal := by
  replace returned := ok_of_ensure returned
  obtain ⟨agentId, -, returned⟩ := bind_eq_ok.mp returned
  obtain ⟨parent, -, returned⟩ := bind_eq_ok.mp returned
  obtain ⟨fresh, returned⟩ := ensure_bind_eq_ok.mp returned
  replace returned := ok_of_ensure returned
  obtain ⟨ordinal, place, returned⟩ := bind_eq_ok.mp returned
  obtain ⟨grown, appended, same⟩ := bind_eq_ok.mp returned
  cases same
  refine ⟨agentId, parent, ordinal, grown, ?_, place, appended, rfl⟩
  simpa [Bool.or_eq_true] using fresh

/-- How a turn is admitted: into a run that is there, or as a run of its own. -/
theorem disposition_cases (admitted : sameRunDelivery envelopes command runId = true ∨
      latestRunState envelopes runId = none) :
    disposition envelopes command runId = .queued ∧ lastState envelopes runId = none ∨
      disposition envelopes command runId ≠ .queued ∧
        (disposition envelopes command runId = .started ∧ lastState envelopes runId = none ∨
          disposition envelopes command runId ≠ .started ∧ lastState envelopes runId ≠ none) := by
  unfold disposition
  cases joins : sameRunDelivery envelopes command runId with
  | true =>
    have known : lastState envelopes runId ≠ none := by
      obtain ⟨head, found, -⟩ := (Option.any_eq_true _ _).mp joins
      simp [lastState, found]
    right
    cases command.mode <;> simp [known]
  | false =>
    have absent : lastState envelopes runId = none := by
      rcases admitted with same | absent
      · rw [joins] at same
        cases same
      · simp [lastState, absent]
    rw [if_neg Bool.false_ne_true]
    split <;> simp [absent]

variable {agentId : Option AgentId} {parent : Option NodeId} {ordinal : Nat}
  {disposition : TurnAdmissionDisposition}

/-- The facts after a turn belong to its run and bring no message, no state and no delta. -/
theorem turnFacts_silent (mem : sent ∈ turnFacts command runId agentId) :
    sent.runId = some runId ∧ sent.payload.queueSilent = true ∧ sent.payload.nextState = none ∧
      sent.payload.contested = false := by
  rcases mem_append.mp mem with early | late
  · rcases mem_append.mp early with trust | headless
    · split at trust
      · rw [mem_singleton.mp trust]
        exact ⟨rfl, rfl, rfl, rfl⟩
      · cases trust
    · obtain ⟨spec, -, rfl⟩ := Option.map_eq_some_iff.mp (Option.mem_toList.mp headless)
      exact ⟨rfl, rfl, rfl, rfl⟩
  · obtain ⟨source, -, rfl⟩ := mem_map.mp late
    exact ⟨rfl, rfl, rfl, rfl⟩

theorem turnPayload_facts (command : TurnAcceptCommand) (peer : Option PeerMessage) :
    (turnPayload command peer).contested = false ∧ (turnPayload command peer).isDelta = false ∧
      (turnPayload command peer).nextState = none := by
  cases peer <;> exact ⟨rfl, rfl, rfl⟩

/-- What a turn's batch consists of. -/
theorem mem_turnBatch (mem : sent ∈ turnBatch command peer runId agentId parent disposition ordinal) :
    (sent = queuedDraft command runId agentId ∧
        (disposition = .started ∨ disposition = .queued)) ∨
      sent = messageDraft command peer runId agentId ∨
      sent = nodeDraft command peer runId agentId parent ∨
      sent = activeDraft command runId agentId ∨
      (sent = enqueuedDraft command runId agentId ordinal ∧ disposition = .queued) ∨
      sent ∈ turnFacts command runId agentId := by
  rcases mem_append.mp mem with turn | facts
  · cases disposition <;>
      simp only [mem_cons, not_mem_nil, or_false] at turn <;> simp <;> tauto
  · simp [facts]

/-- Every envelope of a turn's batch belongs to its run, and none is arbitrated. Only an enqueued
turn commits a delta, and a turn that joins a run moves no state. -/
theorem turnBatch_facts
    (mem : sent ∈ turnBatch command peer runId agentId parent disposition ordinal) :
    sent.runId = some runId ∧ sent.payload.contested = false ∧
      (disposition ≠ .queued → sent.payload.isDelta = false) ∧
      (disposition ≠ .started → disposition ≠ .queued → sent.payload.nextState = none) := by
  obtain ⟨uncontested, bare, still⟩ := turnPayload_facts command peer
  rcases mem_turnBatch mem with ⟨rfl, new⟩ | rfl | rfl | rfl | ⟨rfl, queued⟩ | facts
  · exact ⟨rfl, rfl, fun _ => rfl, fun older unheld => absurd new (not_or.mpr ⟨older, unheld⟩)⟩
  · exact ⟨rfl, uncontested, fun _ => bare, fun _ _ => still⟩
  · exact ⟨rfl, rfl, fun _ => rfl, fun _ _ => rfl⟩
  · exact ⟨rfl, rfl, fun _ => rfl, fun _ _ => rfl⟩
  · exact ⟨rfl, rfl, fun unheld => absurd queued unheld, fun _ _ => rfl⟩
  · obtain ⟨mine, silent, still, uncontested⟩ := turnFacts_silent facts
    refine ⟨mine, uncontested, fun _ => ?_, fun _ _ => still⟩
    cases payload : sent.payload <;> simp_all [Payload.queueSilent, Payload.isDelta]

variable {grown : Store}

/-- A turn that is not enqueued: its message is new, and no delta names it. -/
theorem Kept.of_unheld (tended : Tended store.journal.envelopes) (unheld : disposition ≠ .queued)
    (admitted : disposition = .started ∧ lastState store.journal.envelopes runId = none ∨
      disposition ≠ .started ∧ lastState store.journal.envelopes runId ≠ none)
    (appended : store.append now
      (turnBatch command peer runId agentId parent disposition ordinal) = .ok grown) :
    Kept store grown := by
  obtain ⟨fresh, branches, rfl⟩ :=
    insert_eq_ok (insert_of_append (fun _ mem => (turnBatch_facts mem).2.1) appended)
  refine ⟨_, rfl, ?_⟩
  refine tended.quiet ?_ (new_of_fresh now fresh) ?_ ?_
  · intro e mem
    obtain ⟨seq, -, sent, found, rfl⟩ := Log.exists_of_mem_number mem
    exact delta?_stamp ((turnBatch_facts found).2.2.1 unheld) seq
  · intro entry mem
    rw [isQueued_of_unmarked]
    · exact (tended.queued entry mem).1
    · refine filterMap_eq_nil_iff.mpr fun sent found => ?_
      rcases admitted with ⟨-, stateless⟩ | ⟨joins, -⟩
      · have other := tended.runId_ne store.journal.increasing stateless mem
        exact stateMark_of_ne (turnBatch_facts found).1 other
      · simp [stateMark, (turnBatch_facts found).2.2.2 joins unheld]
  · intro e mem _ run owner
    obtain ⟨seq, -, sent, found, rfl⟩ := Log.exists_of_mem_number mem
    have same : runId = run := Option.some.inj ((turnBatch_facts found).1.symm.trans owner)
    subst same
    rcases admitted with ⟨rfl, -⟩ | ⟨-, known⟩
    · rw [lastState_append]
      intro gone
      have none := (Option.or_eq_none_iff.mp gone).1
      rw [getLast?_eq_none_iff, filterMap_eq_nil_iff] at none
      have first := none (queuedDraft command runId agentId) (by simp [turnBatch])
      simp [stateMark, queuedDraft, turnDraft, draft, Payload.nextState] at first
    · exact lastState_grow known

/-- The message of a turn as the queue shows it: the row its delta carries. -/
theorem entryOf_message (now : Nat) (runId : RunId) (agentId : Option AgentId) (ordinal : Nat)
    (shown : peerCoordinatesMatch command peer = true) (seq : Nat) :
    ∃ entry, QueueScan.entryOf ((messageDraft command peer runId agentId).stamp now seq) runId =
        some entry ∧
      (QueueScan.setMode { turnRow command ordinal with createdAtMs := now } entry).row.content =
        QueueRow.content { turnRow command ordinal with createdAtMs := now } := by
  cases peer with
  | none =>
    refine ⟨_, rfl, ?_⟩
    simp [QueueScan.setMode, turnRow, messageDraft, turnDraft, draft, stamp,
      QueueRow.content]
  | some message =>
    have rendered : command.text = message.renderForPrompt := by
      simp only [peerCoordinatesMatch, Option.all_some, Bool.and_eq_true,
        decide_eq_true_eq] at shown
      exact shown.1.1
    refine ⟨_, rfl, ?_⟩
    simp [QueueScan.setMode, turnRow, messageDraft, turnDraft, draft, stamp,
      QueueRow.content, rendered]

variable (tended : Tended store.journal.envelopes)
include tended

/-- An enqueued turn: its message starts the run, and its delta carries its row. -/
theorem Kept.of_queued (shown : peerCoordinatesMatch command peer = true)
    (stateless : lastState store.journal.envelopes runId = none)
    (room : (scanAll store.journal.envelopes).held.length + 1 ≤ u32Max)
    (appended : store.append now (turnBatch command peer runId agentId parent .queued ordinal) =
      .ok grown) :
    Kept store grown := by
  obtain ⟨fresh, branches, rfl⟩ :=
    insert_eq_ok (insert_of_append (fun _ mem => (turnBatch_facts mem).2.1) appended)
  let first := store.journal.headSeq + 1
  let opening := (queuedDraft command runId agentId).stamp now first
  let message := (messageDraft command peer runId agentId).stamp now (first + 1)
  let node := (nodeDraft command peer runId agentId parent).stamp now (first + 1 + 1)
  let delta := (enqueuedDraft command runId agentId ordinal).stamp now (first + 1 + 1 + 1)
  let facts := Log.number (stamp now) (first + 1 + 1 + 1 + 1)
    (turnFacts command runId agentId)
  obtain ⟨gained, stamped⟩ : ∃ gained, store.journal.stampBatch now
      (turnBatch command peer runId agentId parent .queued ordinal) = gained := ⟨_, rfl⟩
  have split : gained = [opening] ++ message :: ([node] ++ delta :: facts) := stamped.symm
  obtain ⟨entry, made, content⟩ := entryOf_message now runId agentId ordinal shown (first + 1)
  have factsSilent : ∀ e ∈ facts, e.payload.queueSilent = true := by
    intro e mem
    obtain ⟨seq, -, sent, found, rfl⟩ := Log.exists_of_mem_number mem
    exact (queueSilent_stamped now seq sent.payload).trans
      (turnFacts_silent found).2.1
  have new : ∀ old ∈ store.journal.envelopes, old.eventId ≠ message.eventId := by
    apply new_of_fresh now fresh message
    rw [stamped, split]
    simp
  have bare : message.delta? = none := delta?_stamp (turnPayload_facts command peer).2.1 _
  refine ⟨_, rfl, ?_⟩
  have queued : isQueued (store.journal.envelopes ++ gained) runId = true := by
    have tail : (turnFacts command runId agentId).filterMap (stateMark runId) = [] := by
      refine filterMap_eq_nil_iff.mpr fun sent found => ?_
      simp [stateMark, (turnFacts_silent found).2.2.1]
    have marks : (turnBatch command peer runId agentId parent .queued ordinal).filterMap
        (stateMark runId) = [.queued] := by
      unfold turnBatch
      rw [filterMap_append, tail]
      cases peer <;>
        simp [stateMark, queuedDraft, messageDraft, nodeDraft, enqueuedDraft, turnDraft,
          draft, turnPayload, Payload.nextState]
    rw [isQueued_iff, ← stamped, lastState_append, marks]
    rfl
  have back : heldBack (store.journal.envelopes ++ gained) runId = true := by
    have tail : facts.filterMap (Envelope.changeMark runId) = [] := by
      refine filterMap_eq_nil_iff.mpr fun e mem => ?_
      simp [Envelope.changeMark, delta?_of_silent (factsSilent e mem)]
    have changes : ([opening] ++ message :: ([node] ++ delta :: facts)).filterMap
        (Envelope.changeMark runId) =
          [.enqueued { turnRow command ordinal with createdAtMs := now }] := by
      have silence (e : Envelope) (quiet : e.delta? = none) : e.changeMark runId = none := by
        simp [Envelope.changeMark, quiet]
      have carried : delta.changeMark runId =
          some (.enqueued { turnRow command ordinal with createdAtMs := now }) := if_pos rfl
      simp only [cons_append, nil_append]
      rw [filterMap_cons_none (silence opening rfl),
        filterMap_cons_none (silence message bare),
        filterMap_cons_none (silence node rfl), filterMap_cons_some carried, tail]
    unfold heldBack
    rw [lastChange_append, split, changes]
    rfl
  have waits (other : QueuedEntry) (mem : other ∈ (scanAll store.journal.envelopes).held) :
      isQueued (store.journal.envelopes ++ gained) other.runId = true ∧
        heldBack (store.journal.envelopes ++ gained) other.runId = true := by
    have apart := tended.runId_ne store.journal.increasing stateless mem
    obtain ⟨queued, back⟩ := tended.queued other mem
    rw [← stamped]
    refine ⟨(isQueued_of_unmarked ?_).trans queued, ?_⟩
    · exact filterMap_eq_nil_iff.mpr fun sent found =>
        stateMark_of_ne (turnBatch_facts found).1 apart
    · rw [heldBack_of_unmarked, back]
      intro e stamped
      obtain ⟨seq, -, sent, found, rfl⟩ := Log.exists_of_mem_number stamped
      simp [Envelope.changeMark, stamp, (turnBatch_facts found).1, Ne.symm apart]
  rw [stamped]
  exact tended.enqueue store.journal.increasing (by simp [opening, queuedDraft, turnDraft, draft,
      stamp, Payload.stamped, Payload.queueSilent])
    (by simp [node, nodeDraft, turnDraft, draft, stamp, Payload.stamped,
      Payload.queueSilent])
    factsSilent rfl bare made (tended.absent stateless) new rfl rfl content waits ⟨queued, back⟩
    room split

theorem room_of_nextOrdinal (place : nextOrdinal store.journal.envelopes .queued = .ok ordinal) :
    (scanAll store.journal.envelopes).held.length + 1 ≤ u32Max := by
  obtain ⟨⟨revision, entries⟩, queue, place⟩ := bind_eq_ok.mp place
  obtain ⟨room, -⟩ := ensure_bind_eq_ok.mp place
  rw [(queueEntries_of_ok queue).2, length_numbered,
    tended.queueOf_eq store.journal.increasing, length_reverse] at room
  exact of_decide_eq_true room

theorem Kept.of_admitTurn (shown : peerCoordinatesMatch command peer = true)
    (returned : store.admitTurn now command peer = .ok later) : Kept store later := by
  obtain ⟨agentId, parent, ordinal, grown, admitted, place, appended, same⟩ :=
    admitTurn_eq_ok returned
  have kept : Kept store grown := by
    rcases disposition_cases admitted with ⟨queued, absent⟩ | ⟨unheld, joins⟩
    · rw [queued] at place appended
      exact Kept.of_queued tended shown absent (room_of_nextOrdinal tended place) appended
    · exact Kept.of_unheld tended unheld joins appended
  unfold Kept
  rw [same]
  exact kept

theorem Kept.of_acceptTurn (returned : store.acceptTurn now command peer = .ok later) :
    Kept store later := by
  obtain ⟨_, -, returned⟩ := bind_eq_ok.mp returned
  replace returned := ok_of_ensure returned
  obtain ⟨shown, returned⟩ := ensure_bind_eq_ok.mp returned
  obtain ⟨replayed, -, returned⟩ := bind_eq_ok.mp returned
  split at returned
  · cases returned
    exact Kept.of_tended tended
  · exact Kept.of_admitTurn tended shown returned

omit tended

end Accept

end HaiderAgent.Turns
