import HaiderAgent.Lib.Log
import HaiderAgent.Store.Journal
import HaiderAgent.Store.Menus.Settlement

/-!
# Answering a menu

`resolve_menu` (`haider-store/src/event_store.rs`): one transaction that finds the command's own
earlier answer, checks the opening and its generation, finds an answer by the index or by a scan
behind the opening, and else commits the answer with what it settles. What a workflow graph makes of
a batch and the hashes are parameters.
-/

namespace HaiderAgent.Menus

open ExceptFold (ensure)

/-- `AnswerVia` (menu.rs). -/
inductive AnswerVia where
  | tui | gui | rpc | hook | voice | timeout
  deriving DecidableEq, Repr

/-- `MenuResolutionCommand`; the surface of the answer is a field of its own. -/
structure MenuResolutionCommand where
  commandId : String
  sessionId : SessionId
  requestSeq : Nat
  workerGeneration : Nat
  allowPriorGeneration : Bool
  answer : MenuAnswer
  via : AnswerVia
  deviceId : DeviceId
  inputIsSecretReference : Bool
  deriving DecidableEq, Repr

/-- A row of `menu_resolutions`; `answer_json` by the answer and the surface it encodes. -/
structure ResolutionRow where
  sessionId : SessionId
  menuId : MenuId
  requestSeq : Nat
  workerGeneration : Nat
  commandId : String
  answer : MenuAnswer
  via : AnswerVia
  inputIsSecretReference : Bool
  resolutionSeq : Nat
  deriving DecidableEq, Repr

/-- The tables resolution reads: the journals, the unique index of their event ids, the
resolutions, the command receipts, and the generation of the store handle. -/
structure MenuStore where
  journals : SessionId → Journal
  eventIds : List EventId
  resolutions : List ResolutionRow
  receipts : List String
  workerGeneration : Nat

/-- The store before the first session. -/
def MenuStore.empty : MenuStore :=
  { journals := fun _ => .empty, eventIds := [], resolutions := [], receipts := [],
    workerGeneration := 1 }

/-- `MenuResolutionOutcome`. -/
inductive MenuResolutionOutcome where
  | committed (envelope : RawEnvelope) (followUp : List RawEnvelope) (menu : Menu)
  | idempotentReplay (resolutionSeq : Nat)
  | alreadyResolved (resolutionSeq : Nat)
  deriving DecidableEq, Repr

/-- A fact `augment_workflow_graph_envelopes` plans; its kind is no `EventPayload`. -/
structure WorkflowFact where
  eventId : EventId
  kind : String
  causationId : EventId
  deriving DecidableEq, Repr

/-- The resolution event id, the hash of a graph status, and the planned workflow facts. -/
structure Surroundings where
  menuResolutionEventId : MenuResolutionCommand → EventId
  statusHash : GraphStatus → String
  workflowFacts : List RawEnvelope → List RawEnvelope → Except MenuError (List WorkflowFact)

/-! ## The lookups -/

variable (outside : Surroundings) (store : MenuStore)

/-- `resolution_by_command`. -/
def resolutionByCommand (commandId : String) : Option ResolutionRow :=
  store.resolutions.find? (·.commandId == commandId)

/-- `resolution_by_menu`. -/
def resolutionByMenu (sessionId : SessionId) (menuId : MenuId) : Option Nat :=
  (store.resolutions.find? fun row => row.sessionId == sessionId && row.menuId == menuId).map
    (·.resolutionSeq)

/-- Whether a command repeats the one that wrote the row. -/
def sameCommand (row : ResolutionRow) (command : MenuResolutionCommand) : Bool :=
  row.sessionId == command.sessionId && row.menuId == command.answer.menu &&
    row.requestSeq == command.requestSeq && row.workerGeneration == command.workerGeneration &&
    row.answer == command.answer && row.via == command.via &&
    row.inputIsSecretReference == command.inputIsSecretReference

/-- The reply to a command id that has committed an answer. -/
def replayOutcome (row : ResolutionRow) (command : MenuResolutionCommand) :
    Except MenuError MenuResolutionOutcome :=
  if sameCommand row command then .ok (.idempotentReplay row.resolutionSeq)
  else
    .error ⟨.invalidArgument,
      "menu command id was already used with different coordinates or answer"⟩

/-- `opened_menu`: the row must open the menu the command names. -/
def openedMenu (opening : RawEnvelope) (menuId : MenuId) : Except MenuError Menu :=
  match opening.payload.decodeEvent with
  | none =>
    .error ⟨.menuNotFound,
      "event " ++ toString opening.seq ++ " is not a recognized menu request"⟩
  | some (.menuOpened menu) =>
    if menu.id = menuId then .ok menu
    else .error ⟨.menuNotFound, "event " ++ toString opening.seq ++ " does not open menu " ++ menuId⟩
  | some _ =>
    .error ⟨.menuNotFound, "event " ++ toString opening.seq ++ " does not open menu " ++ menuId⟩

/-- `stale_generation`. -/
def staleGeneration (provided current : Nat) : MenuError :=
  ⟨.singleWriterViolation,
    "stale worker generation " ++ toString provided ++ "; current generation is " ++
      toString current⟩

/-- The menus the graph authority consumes. -/
def graphMenu (menu : Menu) : Bool :=
  match menu.kind with
  | .graphHumanConfirm .. | .graphAbandonConfirm .. => true
  | _ => false

/-- `validate_answer`. -/
def validateAnswer (menu : Menu) (answer : MenuAnswer) (inputIsSecretReference : Bool) :
    Except MenuError Unit := do
  if menu.kind = .secret then
    ensure (inputIsSecretReference && answer.value.any (· != ""))
      ⟨.invalidArgument, "secret menus require a non-empty vault reference"⟩
  else
    ensure (!inputIsSecretReference)
      ⟨.invalidArgument, "vault references are accepted only by secret menus"⟩
  if menu.options.isEmpty then
    ensure
      ((menu.kind == .question || menu.kind == .secret || menu.kind == .file) &&
        answer.optionIndex == 0 && answer.optionKey.all (· == ""))
      ⟨.invalidArgument, "menu answer does not match the committed option version"⟩
  else
    match menu.options[answer.optionIndex]? with
    | none =>
      .error ⟨.invalidArgument, "menu answer option index is outside the committed menu"⟩
    | some option =>
      ensure (answer.optionKey == some option.key)
        ⟨.invalidArgument, "menu answer key and index do not match the committed menu version"⟩

variable (command : MenuResolutionCommand)

/-- The checks before the lookup of a winner: the opening and the menu it opened. -/
def pendingMenu : Except MenuError (RawEnvelope × Menu) := do
  ensure (!store.receipts.contains command.commandId)
    ⟨.invalidArgument, "command id was already used by another durable command"⟩
  let some opening :=
      (store.journals command.sessionId).envelopes.find? (·.seq == command.requestSeq)
    | .error ⟨.menuNotFound,
        "menu request event " ++ toString command.requestSeq ++ " does not exist in session " ++
          command.sessionId⟩
  let menu ← openedMenu opening command.answer.menu
  ensure
    (command.workerGeneration == store.workerGeneration || command.allowPriorGeneration ||
      graphMenu menu)
    (staleGeneration command.workerGeneration store.workerGeneration)
  ensure (opening.workerGeneration == command.workerGeneration)
    ⟨.singleWriterViolation,
      "menu " ++ command.answer.menu ++ " belongs to worker generation " ++
        toString opening.workerGeneration ++ ", not " ++ toString command.workerGeneration⟩
  validateAnswer menu command.answer command.inputIsSecretReference
  return (opening, menu)

/-- The scan of `historical_resolution`. -/
def scanResolution (menuId : MenuId) : List RawEnvelope → Except MenuError (Option Nat)
  | [] => .ok none
  | envelope :: rest =>
    match envelope.payload.decodeEvent with
    | some (.menuAnswered answer) =>
      if answer.menu = menuId then .ok (some envelope.seq) else scanResolution menuId rest
    | some (.menuClosed menu _) =>
      if menu = menuId then
        .error ⟨.menuNotFound, "menu " ++ menuId ++ " is no longer pending"⟩
      else scanResolution menuId rest
    | _ => scanResolution menuId rest

/-- `historical_resolution`: an answer journaled before the table existed. -/
def historicalResolution (journal : Journal) (command : MenuResolutionCommand) :
    Except MenuError (Option Nat) :=
  scanResolution command.answer.menu (Log.after (·.seq) command.requestSeq journal.envelopes)

/-- The answer that already won, by the index or in the journal. -/
def existingResolution : Except MenuError (Option Nat) :=
  match resolutionByMenu store command.sessionId command.answer.menu with
  | some resolutionSeq => .ok (some resolutionSeq)
  | none => historicalResolution (store.journals command.sessionId) command

/-! ## The commit -/

/-- `append_transaction_envelopes`, on the journal and the unique event ids. -/
def MenuStore.append (store : MenuStore) (sessionId : SessionId) (batch : List RawEnvelope) :
    Except MenuError MenuStore :=
  let ids := batch.map (·.eventId)
  if ids.Nodup ∧ ∀ id ∈ ids, id ∉ store.eventIds then
    .ok { store with
      journals := Function.update store.journals sessionId
        ((store.journals sessionId).append batch)
      eventIds := store.eventIds ++ ids }
  else .error ⟨.storeError, "UNIQUE constraint failed: events.event_id"⟩

/-- The envelope of the answer: current-generation work, whatever opened the menu. -/
def answerEnvelope (opening : RawEnvelope) (eventId : EventId)
    (workerGeneration committedAtMs : Nat) : RawEnvelope where
  eventId := eventId
  seq := 0
  sessionId := command.sessionId
  branchId := opening.branchId
  runId := opening.runId
  agentId := opening.agentId
  deviceId := command.deviceId
  authorityEpoch := opening.authorityEpoch
  workerGeneration := workerGeneration
  causationId := some opening.eventId
  committedAtMs := committedAtMs
  render := { durable := true, promptOmit := true }
  payload := .event (.menuAnswered command.answer)

/-- The facts a confirmed gate commits behind its answer, on no branch and no run. -/
def gateEnvelopes (answer opening : RawEnvelope) (payloads : List EventPayload) :
    List RawEnvelope :=
  payloads.mapIdx fun index payload =>
    { answer with
      eventId := "graph-menu-settle-" ++ answer.eventId ++ "-" ++ toString (index + 1)
      branchId := none, runId := none, agentId := none
      authorityEpoch := opening.authorityEpoch
      causationId := some answer.eventId
      payload := .event payload }

/-- The facts of a finalization override, on the branch and run of its opening. -/
def finalizationEnvelopes (answer : RawEnvelope) (payloads : List EventPayload) :
    List RawEnvelope :=
  payloads.mapIdx fun index payload =>
    { answer with
      eventId := "graph-finalization-settle-" ++ answer.eventId ++ "-" ++ toString (index + 1)
      causationId := some answer.eventId
      payload := .event payload }

/-- What the answer settles: nothing for an ordinary menu. -/
def settlement (envelopes : List RawEnvelope) (opening : RawEnvelope) (menu : Menu)
    (command : MenuResolutionCommand) (answer : RawEnvelope) :
    Except MenuError (List RawEnvelope) :=
  match menu.kind with
  | .graphHumanConfirm graphId node attempt => do
    let payloads ← settleHumanConfirm envelopes menu command.answer.optionKey graphId node attempt
    return gateEnvelopes answer opening payloads
  | .graphAbandonConfirm graphId runId stateDigest => do
    let payloads ← settleAbandonConfirm outside.statusHash envelopes opening.runId menu
      command.answer.optionKey graphId runId stateDigest
    return finalizationEnvelopes answer payloads
  | _ => .ok []

/-- The envelope of a workflow fact, from the first envelope of its batch. -/
def workflowEnvelope (first : RawEnvelope) (fact : WorkflowFact) : RawEnvelope :=
  { first with
    eventId := fact.eventId, branchId := none, causationId := some fact.causationId
    payload := .json (some fact.kind) none }

/-- The row a resolution inserts. -/
def resolutionRow (resolutionSeq : Nat) : ResolutionRow where
  sessionId := command.sessionId
  menuId := command.answer.menu
  requestSeq := command.requestSeq
  workerGeneration := command.workerGeneration
  commandId := command.commandId
  answer := command.answer
  via := command.via
  inputIsSecretReference := command.inputIsSecretReference
  resolutionSeq := resolutionSeq

/-- The rest of `resolve_menu_transaction` once no winner was found; the row's keys are new. -/
def commitAnswer (now : Nat) (command : MenuResolutionCommand) (opening : RawEnvelope)
    (menu : Menu) : Except MenuError (MenuStore × MenuResolutionOutcome) := do
  let journal := store.journals command.sessionId
  let answer := answerEnvelope command opening (outside.menuResolutionEventId command)
    store.workerGeneration now
  let settled ← settlement outside journal.envelopes opening menu command answer
  let facts ← outside.workflowFacts journal.envelopes (answer :: settled)
  let followUp := settled ++ facts.map (workflowEnvelope answer)
  let appended ← store.append command.sessionId (answer :: followUp)
  let resolutionSeq := journal.headSeq + 1
  return ({ appended with
      resolutions := appended.resolutions ++ [resolutionRow command resolutionSeq] },
    .committed { answer with seq := resolutionSeq } (Journal.stamp (resolutionSeq + 1) followUp)
      menu)

/-- `resolve_menu_transaction`. -/
def resolveMenuTransaction (now : Nat) (command : MenuResolutionCommand) :
    Except MenuError (MenuStore × MenuResolutionOutcome) :=
  match resolutionByCommand store command.commandId with
  | some existing => do
    let outcome ← replayOutcome existing command
    return (store, outcome)
  | none => do
    let (opening, menu) ← pendingMenu store command
    match ← existingResolution store command with
    | some resolutionSeq => return (store, .alreadyResolved resolutionSeq)
    | none => commitAnswer outside store now command opening menu

/-- `resolve_menu`. -/
def resolveMenu (now : Nat) (command : MenuResolutionCommand) :
    Except MenuError (MenuStore × MenuResolutionOutcome) := do
  ensure (command.commandId != "") ⟨.invalidArgument, "menu command id must not be empty"⟩
  resolveMenuTransaction outside store now command

/-! ## Everything else that commits -/

/-- The first step of every other receipt-backed command (`claim_pending_receipt`). -/
def claimPendingReceipt (commandId : String) : Except MenuError MenuStore := do
  ensure (resolutionByCommand store commandId).isNone
    ⟨.invalidArgument, "command id was already used by a menu answer"⟩
  return { store with
    receipts := if store.receipts.contains commandId then store.receipts
      else store.receipts ++ [commandId] }

/-- Another durable command: its receipt and its batches, in one transaction. -/
def durableCommand (commandId : String) (batches : List (SessionId × List RawEnvelope)) :
    Except MenuError MenuStore := do
  let claimed ← claimPendingReceipt store commandId
  batches.foldlM (fun store (sessionId, batch) => store.append sessionId batch) claimed

/-- An answer, a worker's batch, another command with any batches, a restart. -/
inductive MenuAction where
  | resolve (now : Nat) (command : MenuResolutionCommand)
  | append (sessionId : SessionId) (batch : List RawEnvelope)
  | command (commandId : String) (batches : List (SessionId × List RawEnvelope))
  | restart

/-- The store, with every call of `resolve_menu` and its reply in order. -/
structure MenuRun where
  store : MenuStore
  replies : List (MenuResolutionCommand × Except MenuError MenuResolutionOutcome)

/-- Nothing has happened. -/
def MenuRun.start : MenuRun := { store := .empty, replies := [] }

/-- A transaction that fails leaves the store as it was. -/
def MenuRun.commit (run : MenuRun) (transaction : Except MenuError MenuStore) : MenuRun :=
  match transaction with
  | .ok store => { run with store := store }
  | .error _ => run

/-- One action on the store, its reply kept. -/
def MenuRun.step (run : MenuRun) : MenuAction → MenuRun
  | .resolve now command =>
    match resolveMenu outside run.store now command with
    | .ok (store, outcome) => { store := store, replies := run.replies ++ [(command, .ok outcome)] }
    | .error failure => { run with replies := run.replies ++ [(command, .error failure)] }
  | .append sessionId batch => run.commit (run.store.append sessionId batch)
  | .command commandId batches => run.commit (durableCommand run.store commandId batches)
  | .restart =>
    { run with store := { run.store with workerGeneration := run.store.workerGeneration + 1 } }

/-- The run of a list of actions. -/
def MenuRun.after (actions : List MenuAction) : MenuRun :=
  actions.foldl (MenuRun.step outside) .start

end HaiderAgent.Menus
