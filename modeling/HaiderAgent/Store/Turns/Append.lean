import HaiderAgent.Lib.ExceptFold
import HaiderAgent.Lib.KeyedFold
import HaiderAgent.Store.Turns.Events

/-!
# Turn control: appending to the journal

What every command of the store shares (`haider-store/src/event_store.rs`): the run-head
projection, the arbitration between a first response and a retraction, the transaction that
stamps and inserts a batch, and the checks a worker's batch passes before it.
-/

namespace HaiderAgent.Turns

open List

open ExceptFold (ensure)

/-- The error codes of the turn commands. -/
inductive StoreErrorCode where
  | revisionConflict | invalidArgument | runNotActive | busy | tooLate | storeCorrupt
  | singleWriterViolation | storeUnavailable
  deriving DecidableEq, Repr

/-- A refusal with its text. -/
structure StoreError where
  code : StoreErrorCode
  message : String
  retryable : Bool
  deriving DecidableEq, Repr

/-- A store whose rows contradict each other. -/
def corrupt (message : String) : StoreError := ⟨.storeCorrupt, message, false⟩

section Heads

/-- `ProjectedRunHead`, without the accepted sequence and the prompt run. -/
structure RunHead where
  state : RunState
  stateSeq : Option Nat
  branchId : Option BranchId
  deriving DecidableEq, Repr

/-- `apply_run_head_envelope`. The head of a run keeps the branch of its first envelope. -/
def applyRunHeadEnvelope (heads : HashMap RunId RunHead) (envelope : Envelope) :
    HashMap RunId RunHead :=
  match envelope.runId, envelope.payload with
  | some runId, .runState state _ =>
    let branchId := ((heads.lookup runId).map (·.branchId)).getD envelope.branchId
    heads.insert runId { state := state, stateSeq := some envelope.seq, branchId := branchId }
  | some runId, .userMessage .. | some runId, .peerMessage _ =>
    if (heads.lookup runId).isSome then heads
    else heads.insert runId { state := .queued, stateSeq := none, branchId := envelope.branchId }
  | _, _ => heads

/-- Whether an envelope that moves a head is on another branch than the head. -/
def crossesBranch (heads : HashMap RunId RunHead) (envelope : Envelope) : Bool :=
  match envelope.runId, envelope.payload with
  | some runId, .runState .. | some runId, .userMessage .. | some runId, .peerMessage _ =>
    (heads.lookup runId).any (·.branchId != envelope.branchId)
  | _, _ => false

variable (envelopes : List Envelope)

/-- `load_projected_run_heads`. -/
def runHeads : HashMap RunId RunHead :=
  envelopes.foldl applyRunHeadEnvelope ∅

/-- Whether some envelope of a batch crosses branches. -/
def crossesBranches : HashMap RunId RunHead → List Envelope → Bool
  | _, [] => false
  | heads, envelope :: rest =>
    crossesBranch heads envelope || crossesBranches (applyRunHeadEnvelope heads envelope) rest

/-- `DurableRunHead`: the state of a run, where it was committed, and its branch. -/
structure DurableRunHead where
  state : RunState
  seq : Nat
  branchId : Option BranchId
  deriving DecidableEq, Repr

/-- The head of a run that committed a state. -/
def RunHead.durable (head : RunHead) : Option DurableRunHead :=
  head.stateSeq.map fun seq => { state := head.state, seq := seq, branchId := head.branchId }

/-- `latest_run_states`. -/
def latestRunStates : List (RunId × DurableRunHead) :=
  (runHeads envelopes).entries.filterMap fun entry => entry.2.durable.map (entry.1, ·)

/-- `latest_run_state`. -/
def latestRunState (runId : RunId) : Option DurableRunHead :=
  ((runHeads envelopes).lookup runId).bind RunHead.durable

end Heads

section Arbitration

/-- `retracted_prompt_for_run`: the prompt of the latest retraction of a run. -/
def retractedPromptForRun (envelopes : List Envelope) (runId : RunId) : Option Nat :=
  (envelopes.reverse.findSome? fun e =>
    match e.payload with
    | .promptRetracted fact => if e.runId = some runId then some fact.promptSeq else none
    | _ => none)

/-- What arbitration makes of a payload of a retracted run. -/
def Payload.arbitrated (promptSeq : Nat) : Payload → Payload
  | .responseStarted delta => .responseDeltaDiscarded delta promptSeq
  | .runState .cancelled _ => .runState .cancelled (some "retracted")
  | payload => payload

/-- The payloads arbitration looks at: a first response and a cancelled run. -/
def Payload.contested : Payload → Bool
  | .responseStarted _ | .runState .cancelled _ => true
  | _ => false

/-- The loop of `arbitrate_prompt_retraction`; `retracted` are the retractions it has met. -/
def arbitrateFrom (envelopes : List Envelope) : HashMap RunId Nat → List Draft → List Draft
  | _, [] => []
  | retracted, draft :: rest =>
    match draft.runId with
    | none => draft :: arbitrateFrom envelopes retracted rest
    | some runId =>
      match draft.payload with
      | .promptRetracted fact =>
        draft :: arbitrateFrom envelopes (retracted.insert runId fact.promptSeq) rest
      | payload =>
        if payload.contested then
          match (retracted.lookup runId).orElse fun _ => retractedPromptForRun envelopes runId with
          | some promptSeq =>
            { draft with payload := payload.arbitrated promptSeq } ::
              arbitrateFrom envelopes (retracted.insert runId promptSeq) rest
          | none => draft :: arbitrateFrom envelopes retracted rest
        else draft :: arbitrateFrom envelopes retracted rest

/-- `arbitrate_prompt_retraction`. -/
def arbitratePromptRetraction (envelopes : List Envelope) (batch : List Draft) : List Draft :=
  arbitrateFrom envelopes ∅ batch

end Arbitration

/-- The methods of the command receipts. -/
inductive Method where
  | turnSubmit | turnCancel | turnRetract
  deriving DecidableEq, Repr

/-- A committed row of `command_receipts`. -/
structure Receipt where
  commandId : String
  method : Method
  requestDigest : String
  requestJson : Json
  runId : RunId
  acceptedSeq : Option Nat
  deriving DecidableEq, Repr

/-- `BranchDescriptor` (`branch.rs`), without its name. -/
structure BranchDescriptor where
  sourceBranchId : Option BranchId
  forkNodeId : NodeId
  forkSeq : Nat
  createdSeq : Nat
  headNodeId : NodeId
  headSeq : Nat
  deriving DecidableEq, Repr

/-- What the store holds of one session, and the worker generation it was opened with. -/
structure Store where
  journal : Journal
  receipts : List Receipt
  branches : HashMap BranchId BranchDescriptor
  delegatedAgent : Option AgentId
  workerGeneration : Nat

variable (branches : HashMap BranchId BranchDescriptor)

/-- A session without events, with the branches registered in it. -/
def Store.new (delegatedAgent : Option AgentId) (workerGeneration : Nat) : Store :=
  { journal := .empty, receipts := [], branches, delegatedAgent, workerGeneration }

/-- The loop body of `update_branch_heads`; `none` where the branch is not registered. -/
def updateBranchHead (envelope : Envelope) :
    Except StoreError (HashMap BranchId BranchDescriptor) :=
  match envelope.branchId, envelope.agentId, envelope.payload with
  | some branchId, none, .nodeCommitted node =>
    match branches.lookup branchId with
    | some descriptor =>
      .ok (branches.insert branchId
        { descriptor with headNodeId := node.node, headSeq := envelope.seq })
    | none =>
      .error ⟨.invalidArgument, s!"branch {branchId} is not registered for node commit", false⟩
  | _, _, _ => .ok branches

/-- `update_branch_heads`. -/
def updateBranchHeads (batch : List Envelope) :
    Except StoreError (HashMap BranchId BranchDescriptor) :=
  batch.foldlM updateBranchHead branches

/-- The inserts of `append_transaction_envelopes`, after arbitration. -/
def Store.insert (store : Store) (now : Nat) (batch : List Draft) : Except StoreError Store :=
  if fresh : store.journal.Fresh batch then do
    let stamped := store.journal.stampBatch now batch
    ensure (!crossesBranches (runHeads store.journal.envelopes) stamped)
      (corrupt "run crosses branch scopes in durable history")
    let branches ← updateBranchHeads store.branches stamped
    return { store with journal := store.journal.extend now batch fresh, branches := branches }
  else .error ⟨.storeUnavailable, "UNIQUE constraint failed: events.event_id", false⟩

/-- `append_transaction_envelopes`. -/
def Store.append (store : Store) (now : Nat) (batch : List Draft) : Except StoreError Store :=
  store.insert now (arbitratePromptRetraction store.journal.envelopes batch)

section Worker

/-- `COMPACTION_INTENT_EXTENSION_KIND` (history.rs). -/
def compactionIntentExtensionKind : String := "context_compaction_intent_v1"

/-- `DurableHeadlessRunFacts`, the two facts the transition check reads. -/
structure HeadlessRunFacts where
  configured : Bool
  budgetExhausted : Bool
  deriving DecidableEq, Repr

variable (envelopes : List Envelope) (batch : List Draft) (runId : RunId)

/-- One row of `durable_headless_run_facts`. -/
def HeadlessRunFacts.record (facts : HeadlessRunFacts) (envelope : Envelope) : HeadlessRunFacts :=
  if envelope.runId = some runId then
    match envelope.payload with
    | .headless (.headlessRunConfigured _) => { facts with configured := true }
    | .headless (.runBudgetExhausted _) =>
      { facts with budgetExhausted := facts.budgetExhausted || facts.configured }
    | _ => facts
  else facts

/-- `durable_headless_run_facts`. -/
def durableHeadlessRunFacts : HeadlessRunFacts :=
  envelopes.foldl (HeadlessRunFacts.record runId) ⟨false, false⟩

/-- `budget_terminal_runs`: the runs whose budget failure `Errored` follows at once. -/
def budgetTerminalRuns : List Draft → List RunId
  | first :: second :: rest =>
    let later := budgetTerminalRuns (second :: rest)
    match first.runId, first.payload, second.payload with
    | some runId, .runFailed .budgetExhausted, .runState .errored _ =>
      if second.runId = some runId then runId :: later else later
    | _, _, _ => later
  | _ => []

/-- The facts outside the event union that a worker may add to a run. -/
def Payload.supplemental : Payload → Bool
  | .responseStarted _ | .responseDeltaDiscarded .. | .headless (.runBudgetExhausted _) => true
  | _ => false

/-- A deadline fact is checked as a supplemental fact, and then refused as a payload. -/
def Payload.deadline : Payload → Bool
  | .headless (.runDeadlineExceeded _) => true
  | _ => false

/-- Whether `EventPayload` decodes the payload. -/
def Payload.isEvent : Payload → Bool
  | .headless _ | .promptRetracted _ | .responseStarted _ | .responseDeltaDiscarded .. => false
  | _ => true

/-- Whether a worker's item opens a compaction, the one run without an accepted turn. -/
def Payload.opensCompaction : Payload → Bool
  | .item (.started _ (.extension kind _)) => kind = compactionIntentExtensionKind
  | _ => false

/-- The state a worker's payload moves its run to. -/
def Payload.nextState : Payload → Option RunState
  | .runState next _ => some next
  | _ => none

/-- A cancelling run may only become `Cancelled`, or fail on an exhausted budget. -/
def transitionAllowed (durable next : RunState) : Bool :=
  let facts := durableHeadlessRunFacts envelopes runId
  let budgetTerminalWins :=
    next = .errored && (budgetTerminalRuns batch).contains runId &&
      facts.configured && facts.budgetExhausted
  durable ≠ .cancelling || next = .cancelled || budgetTerminalWins

/-- The states `validate_worker_run_transitions` carries through a batch. -/
abbrev WorkerStates := HashMap RunId (RunState × Option BranchId)

/-- The loop body of `validate_worker_run_transitions`. -/
def validateWorkerEnvelope (states : WorkerStates) (draft : Draft) :
    Except StoreError WorkerStates := do
  let supplemental := draft.payload.supplemental || draft.payload.deadline
  match draft.runId with
  | none =>
    ensure (!supplemental)
      ⟨.invalidArgument, "supplemental worker fact has no logical-turn run id", false⟩
    return states
  | some runId =>
    ensure (!supplemental || draft.promptOmit)
      ⟨.invalidArgument,
        "supplemental worker fact must be durable and omitted from prompt replay", false⟩
    ensure (match draft.payload with
        | .headless (.runBudgetExhausted _) => (durableHeadlessRunFacts envelopes runId).configured
        | _ => true)
      ⟨.invalidArgument, s!"worker run {runId} has no durable headless configuration", false⟩
    ensure (draft.payload.isEvent || draft.payload.supplemental)
      ⟨.invalidArgument, "worker envelope payload is invalid", false⟩
    match states.lookup runId with
    | none =>
      ensure draft.payload.opensCompaction
        ⟨.runNotActive, s!"worker run {runId} has no durable accepted state", false⟩
      return states.insert runId (.compacting, draft.branchId)
    | some (durable, acceptedBranch) =>
      ensure (draft.branchId = acceptedBranch ||
          match draft.payload with | .sessionState _ => true | _ => false)
        ⟨.invalidArgument, s!"worker run {runId} emitted on a different branch", false⟩
      ensure (!durable.isTerminal)
        ⟨.runNotActive, s!"worker run {runId} is already terminal", false⟩
      match draft.payload.nextState with
      | none => return states
      | some next =>
        ensure (transitionAllowed envelopes batch runId durable next)
          ⟨.runNotActive,
            s!"worker run {runId} is durably cancelling; only Cancelled may follow", false⟩
        return states.insert runId (next, acceptedBranch)

/-- The states of the runs of a batch, as `latest_run_states_for` loads them. -/
def workerStates : WorkerStates :=
  (latestRunStates envelopes).foldl
    (fun states entry => states.insert entry.1 (entry.2.state, entry.2.branchId)) ∅

/-- `validate_worker_run_transitions`, without the graph guard on `Done`. -/
def validateWorkerRunTransitions : Except StoreError Unit := do
  let _ ← batch.foldlM (validateWorkerEnvelope envelopes batch) (workerStates envelopes)
  return ()

/-- `append_envelopes_in_transaction` of a worker's batch. -/
def Store.workerAppend (store : Store) (now : Nat) (batch : List Draft) :
    Except StoreError Store := do
  ensure (!batch.isEmpty) ⟨.invalidArgument, "cannot append an empty envelope batch", false⟩
  let batch := arbitratePromptRetraction store.journal.envelopes batch
  validateWorkerRunTransitions store.journal.envelopes batch
  store.insert now batch

end Worker

section States

/-- The state a draft gives the run. -/
def Draft.stateMark (runId : RunId) (draft : Draft) : Option RunState :=
  if draft.runId = some runId then draft.payload.nextState else none

/-- The state the journal leaves the run in. -/
def lastState (envelopes : List Envelope) (runId : RunId) : Option RunState :=
  (latestRunState envelopes runId).map (·.state)

theorem nextState_stamped (now seq : Nat) (payload : Payload) :
    (payload.stamped now seq).nextState = payload.nextState := by
  cases payload <;> rfl

/-- The state of a run is the last one committed for it. -/
theorem lastState_eq (envelopes : List Envelope) (runId : RunId) :
    lastState envelopes runId =
      (envelopes.filterMap fun e => e.toDraft.stateMark runId).getLast? := by
  let read (heads : HashMap RunId RunHead) : Option RunState :=
    ((heads.lookup runId).bind RunHead.durable).map (·.state)
  have one (heads : HashMap RunId RunHead) (e : Envelope) :
      read (applyRunHeadEnvelope heads e) =
        ((e.toDraft.stateMark runId).map some).getD (read heads) := by
    have inserted (key : RunId) (head : RunHead) : read (heads.insert key head) =
        if key = runId then head.durable.map (·.state) else read heads := by
      by_cases same : key = runId
      · subst same
        simp [read]
      · simp [read, same, AList.lookup_insert_ne (Ne.symm same)]
    unfold applyRunHeadEnvelope Draft.stateMark
    cases run : e.runId with
    | none => cases e.payload <;> rfl
    | some key =>
      cases e.payload with
      | runState state reason =>
        simp only [inserted, Option.some.injEq, Payload.nextState, RunHead.durable]
        split <;> rfl
      | userMessage | peerMessage =>
        simp only [Payload.nextState, ite_self, Option.map_none, Option.getD_none]
        split
        · rfl
        · rename_i absent
          rw [inserted]
          split
          · rename_i same
            subst same
            simp only [Option.not_isSome_iff_eq_none] at absent
            simp [read, absent, RunHead.durable]
          · rfl
      | _ => simp only [Payload.nextState, ite_self, Option.map_none, Option.getD_none]
  have folded := KeyedFold.foldl_last_write read one envelopes ∅
  have nothing : read ∅ = none := rfl
  show read (envelopes.foldl applyRunHeadEnvelope ∅) = _
  rw [folded]
  cases (envelopes.filterMap fun e => e.toDraft.stateMark runId).getLast? <;> rfl

theorem filterMap_stateMark_stampBatch (journal : Journal) (now : Nat) (batch : List Draft)
    (runId : RunId) :
    (journal.stampBatch now batch).filterMap (fun e => e.toDraft.stateMark runId) =
      batch.filterMap (Draft.stateMark runId) := by
  apply Log.filterMap_number
  intro seq draft
  simp only [Draft.stateMark, Draft.stamp, nextState_stamped]

/-- A run's state after a batch is the last the batch commits, or the one before. -/
theorem lastState_append (journal : Journal) (now : Nat) (batch : List Draft) (runId : RunId) :
    lastState (journal.envelopes ++ journal.stampBatch now batch) runId =
      (batch.filterMap (Draft.stateMark runId)).getLast?.or
        (lastState journal.envelopes runId) := by
  rw [lastState_eq, lastState_eq, filterMap_append, filterMap_stateMark_stampBatch,
    getLast?_append]

end States

section Specs

variable {batch : List Draft}

theorem insert_eq_ok {store grown : Store} {now : Nat}
    (inserted : store.insert now batch = .ok grown) :
    ∃ fresh : store.journal.Fresh batch, ∃ branches,
      grown = { store with
        journal := store.journal.extend now batch fresh, branches := branches } := by
  unfold Store.insert at inserted
  split at inserted
  · rename_i fresh
    have rest := ExceptFold.ok_of_ensure inserted
    obtain ⟨branches, -, returned⟩ := ExceptFold.bind_eq_ok.mp rest
    exact ⟨fresh, branches, (Except.ok.inj returned).symm⟩
  · cases inserted

variable {envelopes : List Envelope}

/-- A batch without a first response or a cancelled run is not arbitrated. -/
theorem arbitrate_of_uncontested (uncontested : ∀ draft ∈ batch, draft.payload.contested = false) :
    arbitratePromptRetraction envelopes batch = batch := by
  unfold arbitratePromptRetraction
  generalize (∅ : HashMap RunId Nat) = retracted
  induction batch generalizing retracted with
  | nil => rfl
  | cons draft rest ih =>
    obtain ⟨here, later⟩ := forall_mem_cons.mp uncontested
    unfold arbitrateFrom
    split
    · rw [ih later]
    · split
      · rw [ih later]
      · rw [here, if_neg Bool.false_ne_true, ih later]

/-- What arbitration may do to one draft. -/
def Arbitrated (before after : Draft) : Prop :=
  after = before ∨ ∃ promptSeq,
    after = { before with payload := before.payload.arbitrated promptSeq }

theorem forall₂_arbitrate (envelopes : List Envelope) (batch : List Draft) :
    List.Forall₂ Arbitrated batch (arbitratePromptRetraction envelopes batch) := by
  unfold arbitratePromptRetraction
  generalize (∅ : HashMap RunId Nat) = retracted
  induction batch generalizing retracted with
  | nil => exact List.Forall₂.nil
  | cons draft rest ih =>
    unfold arbitrateFrom
    split
    · exact List.Forall₂.cons (.inl rfl) (ih _)
    · split
      · exact List.Forall₂.cons (.inl rfl) (ih _)
      · split
        · split
          · exact List.Forall₂.cons (.inr ⟨_, rfl⟩) (ih _)
          · exact List.Forall₂.cons (.inl rfl) (ih _)
        · exact List.Forall₂.cons (.inl rfl) (ih _)

theorem exists_of_mem_arbitrate {draft : Draft}
    (mem : draft ∈ arbitratePromptRetraction envelopes batch) :
    ∃ source ∈ batch, Arbitrated source draft := by
  have pointwise := forall₂_arbitrate envelopes batch
  generalize arbitratePromptRetraction envelopes batch = arbitrated at pointwise mem
  induction pointwise with
  | nil => cases mem
  | @cons first _ _ _ here _ ih =>
    rcases mem_cons.mp mem with rfl | later
    · exact ⟨first, mem_cons_self, here⟩
    · obtain ⟨source, found, same⟩ := ih later
      exact ⟨source, mem_cons_of_mem _ found, same⟩

theorem nextState_arbitrated (promptSeq : Nat) (payload : Payload) :
    (payload.arbitrated promptSeq).nextState = payload.nextState := by
  unfold Payload.arbitrated
  split <;> rfl

/-- Arbitration leaves alone what reads no more of a payload than the state it commits. -/
theorem map_arbitrate {α : Type} {read : Draft → α} (blind : ∀ draft promptSeq,
      read { draft with payload := draft.payload.arbitrated promptSeq } = read draft)
    (envelopes : List Envelope) (batch : List Draft) :
    (arbitratePromptRetraction envelopes batch).map read = batch.map read := by
  have pointwise := forall₂_arbitrate envelopes batch
  generalize arbitratePromptRetraction envelopes batch = arbitrated at pointwise ⊢
  induction pointwise with
  | nil => rfl
  | cons here _ ih =>
    rw [map_cons, map_cons, ih]
    rcases here with rfl | ⟨promptSeq, rfl⟩
    · rfl
    · rw [blind]

theorem filterMap_stateMark_arbitrate (envelopes : List Envelope) (batch : List Draft)
    (runId : RunId) :
    (arbitratePromptRetraction envelopes batch).filterMap (Draft.stateMark runId) =
      batch.filterMap (Draft.stateMark runId) := by
  have blind (draft : Draft) (promptSeq : Nat) :
      Draft.stateMark runId { draft with payload := draft.payload.arbitrated promptSeq } =
        Draft.stateMark runId draft := by
    simp only [Draft.stateMark, nextState_arbitrated]
  have marks := map_arbitrate blind envelopes batch
  simpa [filterMap_map] using congrArg (filterMap id) marks

end Specs

end HaiderAgent.Turns
