import HaiderAgent.Store.Turns.QueueClient

/-!
# Turn control: what is over and what is known

Two things the operations of a session never take back (`haider-store/src/event_store.rs`). A run
with a terminal state commits nothing more, whoever asks; and a command that has its receipt
commits nothing when it is sent again.
-/

namespace HaiderAgent.Turns

open List ExceptFold

/-- Whether the last state of a run is a terminal one. -/
def isOver (envelopes : List Envelope) (runId : RunId) : Bool :=
  (lastState envelopes runId).any RunState.isTerminal

/-- The later store has the rows of the earlier one and those receipts more; what its journal has
more is of no run that was over. -/
structure Extends (filed : List Receipt) (store later : Store) : Prop where
  receipts : later.receipts = store.receipts ++ filed
  journal : ∃ gained, later.journal.envelopes = store.journal.envelopes ++ gained ∧
    ∀ runId, isOver store.journal.envelopes runId → ∀ e ∈ gained, e.runId ≠ some runId

variable {store later last : Store} {now : Nat} {batch : List Draft} {envelopes : List Envelope}
  {runId : RunId} {head : DurableRunHead} {filed more : List Receipt}

theorem Extends.of_journal (receipts : later.receipts = store.receipts ++ filed)
    (same : later.journal = store.journal) : Extends filed store later :=
  ⟨receipts, [], by rw [same, append_nil], by simp⟩

theorem Extends.refl (store : Store) : Extends [] store store :=
  .of_journal (append_nil _).symm rfl

theorem lastState_append_silent {gained : List Envelope}
    (silent : ∀ e ∈ gained, e.runId ≠ some runId) :
    lastState (envelopes ++ gained) runId = lastState envelopes runId := by
  have unmarked : gained.filterMap (fun e => e.toDraft.stateMark runId) = [] :=
    filterMap_eq_nil_iff.mpr fun e mem => if_neg (silent e mem)
  rw [lastState_eq, lastState_eq, filterMap_append, unmarked, append_nil]

theorem Extends.trans (early : Extends filed store later) (late : Extends more later last) :
    Extends (filed ++ more) store last := by
  obtain ⟨first, whole, silent⟩ := early.journal
  obtain ⟨second, rest, quiet⟩ := late.journal
  refine ⟨by rw [late.receipts, early.receipts, append_assoc], first ++ second, ?_, ?_⟩
  · rw [rest, whole, append_assoc]
  · intro runId ended
    refine forall_mem_append.mpr ⟨silent runId ended, quiet runId ?_⟩
    -- a run that was over at first is still over in between
    rwa [isOver, whole, lastState_append_silent (silent runId ended)]

theorem Extends.of_insert (inserted : store.insert now batch = .ok later)
    (silent : ∀ runId, isOver store.journal.envelopes runId →
      ∀ sent ∈ batch, sent.runId ≠ some runId) :
    Extends [] store later := by
  obtain ⟨fresh, branches, rfl⟩ := insert_eq_ok inserted
  refine ⟨(append_nil _).symm, _, rfl, fun runId ended e mem => ?_⟩
  obtain ⟨seq, -, sent, found, rfl⟩ := Log.exists_of_mem_number mem
  exact silent runId ended sent found

theorem Extends.of_append (appended : store.append now batch = .ok later)
    (alive : ∀ sent ∈ batch, sent.runId.any (isOver store.journal.envelopes) = false) :
    Extends [] store later := by
  refine Extends.of_insert appended fun runId ended sent mem owner => ?_
  have going : sent.runId.any (isOver store.journal.envelopes) = false := by
    obtain ⟨source, found, rfl | ⟨_, rfl⟩⟩ := exists_of_mem_arbitrate mem
    · exact alive _ found
    · exact alive source found
  rw [owner, Option.any_some, ended] at going
  cases going

/-! ## The runs the operations write to -/

theorem isOver_of_latest (found : latestRunState envelopes runId = some head) :
    isOver envelopes runId = head.state.isTerminal := by
  simp [isOver, lastState, found]

theorem mem_latestRunStates :
    (runId, head) ∈ latestRunStates envelopes ↔ latestRunState envelopes runId = some head := by
  unfold latestRunStates latestRunState
  rw [mem_filterMap, Option.bind_eq_some_iff]
  constructor
  · rintro ⟨item, found, same⟩
    obtain ⟨_, durable, same⟩ := Option.map_eq_some_iff.mp same
    cases same
    exact ⟨item.2, EntryMap.mem_entries_iff.mp found, durable⟩
  · rintro ⟨projected, found, durable⟩
    exact ⟨⟨runId, projected⟩, EntryMap.mem_entries_iff.mpr found, by rw [durable]; rfl⟩

theorem isOver_of_queue (increasing : Log.Increasing (·.seq) envelopes) {revision : Nat}
    {entry : QueuedEntry} {entries : List QueuedEntry}
    (returned : queueEntries envelopes = .ok (revision, entries)) (mem : entry ∈ entries) :
    isOver envelopes entry.runId = false := by
  rw [(queueEntries_of_ok returned).2, queueOf_eq increasing] at mem
  obtain ⟨held, there, ordinal, rfl⟩ := mem_numbered mem
  have waits := (Bool.and_eq_true_iff.mp (mem_filter.mp (mem_reverse.mp there)).2).1
  simp only [isOver, QueuedEntry.withOrdinal, isQueued_iff.mp waits]
  rfl

theorem lookup_workerStates (found : latestRunState envelopes runId = some head) :
    (workerStates envelopes).lookup runId = some (head.state, head.branchId) := by
  have unique : ∀ item ∈ latestRunStates envelopes, item.1 = runId → item.2 = head := by
    rintro ⟨_, _⟩ mem rfl
    exact Option.some.inj ((mem_latestRunStates.mp mem).symm.trans found)
  have listed := mem_latestRunStates.mpr found
  unfold workerStates
  generalize latestRunStates envelopes = items at unique listed ⊢
  induction items using reverseRecOn with
  | nil => cases listed
  | append_singleton items item ih =>
    rw [foldl_append, foldl_cons, foldl_nil]
    by_cases same : item.1 = runId
    · rw [same, AList.lookup_insert, unique item (by simp) same]
    · rw [AList.lookup_insert_ne (Ne.symm same)]
      refine ih (fun item mem => unique item (mem_append_left _ mem)) ?_
      rcases mem_append.mp listed with here | there
      · exact here
      · exact absurd (congrArg Prod.fst (mem_singleton.mp there)).symm same

/-- A worker's batch is refused where it speaks for a run that is over. -/
theorem silent_of_validate {states final : WorkerStates} {state : RunState}
    {branchId : Option BranchId} {whole : List Draft} (ended : state.isTerminal = true)
    (known : states.lookup runId = some (state, branchId))
    (passed : batch.foldlM (validateWorkerEnvelope envelopes whole) states = .ok final) :
    ∀ sent ∈ batch, sent.runId ≠ some runId := by
  induction batch generalizing states with
  | nil => simp
  | cons sent rest ih =>
    obtain ⟨next, first, later⟩ := bind_eq_ok.mp passed
    unfold validateWorkerEnvelope at first
    cases owner : sent.runId with
    | none =>
      rw [owner] at first
      cases ok_of_ensure first
      exact forall_mem_cons.mpr ⟨by simp [owner], ih known later⟩
    | some other =>
      rw [owner] at first
      replace first := ok_of_ensure (ok_of_ensure (ok_of_ensure first))
      by_cases same : other = runId
      · subst same
        rw [known] at first
        have running := (ensure_bind_eq_ok.mp (ok_of_ensure first)).1
        rw [ended] at running
        cases running
      · have kept : next.lookup runId = some (state, branchId) := by
          split at first
          · cases ok_of_ensure first
            rwa [AList.lookup_insert_ne (Ne.symm same)]
          · replace first := ok_of_ensure (ok_of_ensure first)
            split at first
            · cases first
              exact known
            · cases ok_of_ensure first
              rwa [AList.lookup_insert_ne (Ne.symm same)]
        exact forall_mem_cons.mpr ⟨by simpa [owner] using same, ih kept later⟩

theorem Extends.of_worker (returned : store.workerAppend now batch = .ok later) :
    Extends [] store later := by
  obtain ⟨_, validated, inserted⟩ := bind_eq_ok.mp (ok_of_ensure returned)
  obtain ⟨_, passed, -⟩ := bind_eq_ok.mp validated
  refine Extends.of_insert inserted fun runId ended => ?_
  cases found : latestRunState store.journal.envelopes runId with
  | none => simp [isOver, lastState, found] at ended
  | some head =>
    rw [isOver_of_latest found] at ended
    exact silent_of_validate ended (lookup_workerStates found) passed

/-! ## The commands -/

theorem Extends.of_cancellationIntent {command : TurnCancelCommand}
    (found : latestRunState store.journal.envelopes command.runId = some head)
    (returned : store.cancellationIntent now command head = .ok later) :
    Extends [] store later ∧ (head.state.isTerminal = false →
      isOver later.journal.envelopes command.runId = false) := by
  have ended := isOver_of_latest found
  unfold Store.cancellationIntent at returned
  split at returned
  · cases returned
    exact ⟨Extends.refl store, ended.trans⟩
  · next going =>
    rw [Bool.not_eq_true, Bool.or_eq_false_iff] at going
    refine ⟨Extends.of_append returned (by simp [draft, ended, going]), fun _ => ?_⟩
    obtain ⟨fresh, branches, rfl⟩ := insert_eq_ok
      (insert_of_append (by simp [draft, Payload.contested]) returned)
    simp [isOver, Journal.extend, lastState_append, Draft.stateMark, draft, Payload.nextState,
      RunState.isTerminal]

variable {method : Method} {identity : CommandIdentity}

/-- The store is extended by the receipt of a command, and by no other. -/
def Filed (method : Method) (identity : CommandIdentity) (store later : Store) : Prop :=
  ∃ runId acceptedSeq, Extends [⟨identity.commandId, method, identity.requestDigest,
    identity.requestJson, runId, acceptedSeq⟩] store later

/-- A command with a receipt changes nothing; one without commits and files its receipt. -/
def Answered (method : Method) (identity : CommandIdentity) (store later : Store) : Prop :=
  lookupReceipt store method identity = .ok true ∧ later = store ∨
    lookupReceipt store method identity = .ok false ∧ Filed method identity store later

theorem Extends.finalizeReceipt (extended : Extends [] store later) (acceptedSeq : Option Nat) :
    Filed method identity store (later.finalizeReceipt method identity runId acceptedSeq) :=
  ⟨runId, acceptedSeq, extended.trans (.of_journal rfl rfl)⟩

theorem Answered.of_commit {commit : Except StoreError Store}
    (returned : (do if ← lookupReceipt store method identity then return store else commit) =
      .ok later) (files : commit = .ok later → Filed method identity store later) :
    Answered method identity store later := by
  obtain ⟨replayed, known, returned⟩ := bind_eq_ok.mp returned
  cases replayed with
  | true =>
    cases returned
    exact .inl ⟨known, rfl⟩
  | false => exact .inr ⟨known, files returned⟩

theorem answered_cancelTurn {command : TurnCancelCommand}
    (returned : store.cancelTurn now command = .ok later) :
    Answered .turnCancel command.identity store later := by
  obtain ⟨_, -, returned⟩ := bind_eq_ok.mp returned
  refine Answered.of_commit (ok_of_ensure returned) fun returned => ?_
  split at returned
  · cases returned
  · next found =>
    obtain ⟨cancelled, intent, same⟩ := bind_eq_ok.mp returned
    cases same
    exact (Extends.of_cancellationIntent found intent).1.finalizeReceipt _

theorem answered_retractTurn {command : TurnRetractCommand}
    (returned : store.retractTurn now command = .ok later) :
    Answered .turnRetract command.cancel.identity store later := by
  obtain ⟨_, -, returned⟩ := bind_eq_ok.mp returned
  refine Answered.of_commit returned fun returned => ?_
  replace returned := ok_of_ensure returned
  split at returned
  · cases returned
  · next head found =>
    obtain ⟨going, returned⟩ := ensure_bind_eq_ok.mp returned
    replace returned := ok_of_ensure (ok_of_ensure returned)
    split at returned
    · cases returned
    · obtain ⟨_, -, returned⟩ := bind_eq_ok.mp returned
      obtain ⟨cancelled, intent, returned⟩ := bind_eq_ok.mp returned
      obtain ⟨retracted, appended, same⟩ := bind_eq_ok.mp returned
      cases same
      obtain ⟨early, alive⟩ := Extends.of_cancellationIntent found intent
      have late := Extends.of_append appended
        (forall_mem_singleton.mpr (alive (by simpa using going)))
      exact (early.trans late).finalizeReceipt _

theorem answered_acceptTurn {command : TurnAcceptCommand} {peer : Option PeerMessage}
    (returned : store.acceptTurn now command peer = .ok later) :
    Answered .turnSubmit command.identity store later := by
  obtain ⟨_, -, returned⟩ := bind_eq_ok.mp returned
  refine Answered.of_commit (ok_of_ensure (ok_of_ensure returned)) fun returned => ?_
  obtain ⟨agentId, -, returned⟩ := bind_eq_ok.mp (ok_of_ensure returned)
  obtain ⟨parent, -, returned⟩ := bind_eq_ok.mp returned
  obtain ⟨admitted, returned⟩ := ensure_bind_eq_ok.mp returned
  obtain ⟨ordinal, -, returned⟩ := bind_eq_ok.mp (ok_of_ensure returned)
  obtain ⟨grown, appended, same⟩ := bind_eq_ok.mp returned
  cases same
  refine (Extends.of_append appended fun sent mem => ?_).finalizeReceipt _
  -- the turn joins a run that goes on, or its run is new
  rw [(turnBatch_facts mem).1, Option.any_some]
  cases found : latestRunState store.journal.envelopes
      (subturnTarget store.journal.envelopes command) with
  | none => simp [isOver, lastState, found]
  | some head =>
    rw [isOver_of_latest found]
    simp_all [sameRunDelivery]

theorem Answered.extends (answered : Answered method identity store later) :
    ∃ filed, Extends filed store later := by
  rcases answered with ⟨-, rfl⟩ | ⟨-, _, _, extended⟩
  · exact ⟨[], Extends.refl _⟩
  · exact ⟨_, extended⟩

/-- Every operation only appends, and never to a run that was over. -/
theorem Extends.of_step {action : Action} (stepped : store.step action = some later) :
    ∃ filed, Extends filed store later := by
  have returned := ok_of_toOption stepped
  cases action with
  | accept now command => exact (answered_acceptTurn returned).extends
  | acceptPeer now command message => exact (answered_acceptTurn returned).extends
  | cancelTurn now command => exact (answered_cancelTurn returned).extends
  | retractTurn now command => exact (answered_retractTurn returned).extends
  | worker now batch => exact ⟨[], Extends.of_worker returned⟩
  | reopen =>
    cases returned
    exact ⟨[], .of_journal (append_nil _).symm rfl⟩
  | queueRemove now command =>
    obtain ⟨entry, found, appended⟩ := bind_eq_ok.mp returned
    obtain ⟨entries, queue, mem, -⟩ := fencedEntry_eq_ok found
    have alive := isOver_of_queue store.journal.increasing queue mem
    exact ⟨[], Extends.of_append appended (by simp [cancellingDraft, deltaDraft, draft, alive])⟩
  | queuePromoteSteer now command =>
    obtain ⟨⟨entry, activeRunId, activeBranchId⟩, target, appended⟩ := bind_eq_ok.mp returned
    obtain ⟨found, head, active, -, going, -, -⟩ := queuePromoteTarget_eq_ok target
    obtain ⟨entries, queue, mem, -⟩ := fencedEntry_eq_ok found
    have alive := isOver_of_queue store.journal.increasing queue mem
    have other := (isOver_of_latest (mem_latestRunStates.mp active)).trans going
    exact ⟨[], Extends.of_append appended
      (by simp [cancellingDraft, deltaDraft, draft, alive, other])⟩
  | queueConsume now command =>
    obtain ⟨⟨revision, entries⟩, queue, returned⟩ := bind_eq_ok.mp returned
    dsimp only at returned
    split at returned
    · cases returned
      exact ⟨[], Extends.refl store⟩
    · next entry located =>
      have alive := isOver_of_queue store.journal.increasing queue (mem_of_find?_eq_some located)
      exact ⟨[], Extends.of_append returned (by simp [deltaDraft, draft, alive])⟩

theorem Extends.of_run {actions : List Action}
    (ran : Machine.run Store.step store actions = some later) :
    ∃ filed, Extends filed store later := by
  refine Machine.invariant (P := fun s => ∃ filed, Extends filed store s) ?_
    ⟨[], Extends.refl store⟩ ran
  rintro s action s' ⟨filed, early⟩ stepped
  obtain ⟨more, late⟩ := Extends.of_step stepped
  exact ⟨_, early.trans late⟩

/-- An operation of a running daemon, which does not open the store again. -/
abbrev Operation := { action : Action // action ≠ .reopen }

/-- Whatever a session does after a run has come to a terminal state, while its daemon runs, nothing
is committed for the run any more and its state stays. -/
theorem terminal_run_is_final {operations : List Operation} {state : RunState}
    (ran : Machine.run Store.step store (operations.map (·.1)) = some later)
    (final : lastState store.journal.envelopes runId = some state)
    (terminal : state.isTerminal = true) :
    ∃ gained, later.journal.envelopes = store.journal.envelopes ++ gained ∧
      (∀ e ∈ gained, e.runId ≠ some runId) ∧
      lastState later.journal.envelopes runId = some state := by
  obtain ⟨filed, extended⟩ := Extends.of_run ran
  obtain ⟨gained, whole, quiet⟩ := extended.journal
  have silent := quiet runId (by rwa [isOver, final, Option.any_some])
  exact ⟨gained, whole, silent, by rw [whole, lastState_append_silent silent, final]⟩

/-- A turn that is accepted and comes to its end. -/
def firstDone : List Action :=
  [.accept 10 (submission "a" "first"),
    .worker 20 [{ draft "streams" none "a" (.runState .streaming none) true with owned := rfl }],
    .worker 30 [{ draft "done" none "a" (.runState .done none) true with owned := rfl }]]

/-- A second turn is accepted. -/
def secondAccepted : List Operation := [⟨.accept 40 (submission "b" "second"), nofun⟩]

theorem terminal_run_is_final_firstDone :
    ∃ store later, Machine.run Store.step (Store.new ∅ none 1) firstDone = some store ∧
      Machine.run Store.step store (secondAccepted.map (·.1)) = some later ∧
      lastState later.journal.envelopes "a" = some .done := by
  have runs : (Machine.run Store.step (Store.new ∅ none 1) firstDone).any (fun store =>
      (Machine.run Store.step store (secondAccepted.map (·.1))).isSome ∧
        lastState store.journal.envelopes "a" = some .done) = true := by
    decide +kernel
  obtain ⟨store, reached, facts⟩ := (Option.any_eq_true _ _).mp runs
  obtain ⟨goes, final⟩ := of_decide_eq_true facts
  obtain ⟨later, ran⟩ := Option.isSome_iff_exists.mp goes
  obtain ⟨_, -, -, still⟩ := terminal_run_is_final ran final rfl
  exact ⟨store, later, reached, ran, still⟩

/-! ## Repeated commands -/

theorem Answered.known (answered : Answered method identity store later)
    (grown : last.receipts = later.receipts ++ filed) :
    lookupReceipt last method identity = .ok true := by
  unfold Answered lookupReceipt at answered
  unfold lookupReceipt
  rw [grown, find?_append]
  rcases answered with ⟨known, rfl⟩ | ⟨unknown, runId, acceptedSeq, extended⟩
  · split at known
    · cases known
    · next found => rwa [found, Option.some_or]
  · rw [extended.receipts, find?_append]
    split at unknown
    · next absent => simp [absent]
    · split at unknown <;> cases unknown

/-- After a command was accepted, and whatever the session did since, sending it again commits
nothing. A cancellation is fenced first: in a reopened store it is refused as stale. Automatic titles,
which a replayed first turn may still commit, are not modelled. -/
theorem repeated_command_commits_nothing {actions : List Action} {again : Nat}
    (ran : Machine.run Store.step later actions = some last) :
    (∀ command peer, store.acceptTurn now command peer = .ok later →
      last.acceptTurn again command peer = .ok last) ∧
    (∀ command, store.retractTurn now command = .ok later →
      last.retractTurn again command = .ok last) ∧
    ∀ command, store.cancelTurn now command = .ok later →
      last.cancelTurn again command =
        if command.workerGeneration = last.workerGeneration then .ok last
        else .error (staleGeneration command.workerGeneration last.workerGeneration) := by
  obtain ⟨filed, extended⟩ := Extends.of_run ran
  refine ⟨fun command peer returned => ?_, fun command returned => ?_, fun command returned => ?_⟩
  · have known := (answered_acceptTurn returned).known extended.receipts
    obtain ⟨_, valid, rest⟩ := bind_eq_ok.mp returned
    obtain ⟨filled, rest⟩ := ensure_bind_eq_ok.mp rest
    obtain ⟨matching, -⟩ := ensure_bind_eq_ok.mp rest
    exact bind_eq_ok.mpr ⟨_, valid, ensure_bind_eq_ok.mpr ⟨filled, ensure_bind_eq_ok.mpr
      ⟨matching, bind_eq_ok.mpr ⟨true, known, rfl⟩⟩⟩⟩
  · have known := (answered_retractTurn returned).known extended.receipts
    obtain ⟨_, valid, -⟩ := bind_eq_ok.mp returned
    exact bind_eq_ok.mpr ⟨_, valid, bind_eq_ok.mpr ⟨true, known, rfl⟩⟩
  · have known := (answered_cancelTurn returned).known extended.receipts
    obtain ⟨_, valid, -⟩ := bind_eq_ok.mp returned
    split
    · next current =>
      exact bind_eq_ok.mpr ⟨_, valid, ensure_bind_eq_ok.mpr
        ⟨decide_eq_true current, bind_eq_ok.mpr ⟨true, known, rfl⟩⟩⟩
    · next stale =>
      rw [Store.cancelTurn, valid, decide_eq_false stale]
      rfl

theorem repeated_command_commits_nothing_first :
    ∃ later last, (Store.new ∅ none 1).acceptTurn 10 (submission "a" "first") none = .ok later ∧
      Machine.run Store.step later [.accept 20 (submission "b" "second"), .reopen] = some last ∧
      last.acceptTurn 30 (submission "a" "first") none = .ok last := by
  have runs : ((Store.new ∅ none 1).acceptTurn 10 (submission "a" "first") none).toOption.any
      (fun later => (Machine.run Store.step later
        [.accept 20 (submission "b" "second"), .reopen]).isSome) = true := by
    decide +kernel
  obtain ⟨later, accepted, goes⟩ := (Option.any_eq_true _ _).mp runs
  obtain ⟨last, ran⟩ := Option.isSome_iff_exists.mp goes
  have returned := ok_of_toOption accepted
  exact ⟨later, last, returned, ran, (repeated_command_commits_nothing ran).1 _ _ returned⟩

end HaiderAgent.Turns
