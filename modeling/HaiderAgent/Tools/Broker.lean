import Mathlib.Data.List.Sort
import HaiderAgent.Lib.EntryMap
import HaiderAgent.Lib.ExceptFold
import HaiderAgent.Lib.Machine
import HaiderAgent.Tools.Policy

/-!
# The effect broker

`EffectBroker` and its shared `BrokerJournal` (`haider-tools/src/broker.rs`). Every call that
journals a phase waits for the sink and may be dropped there, and the finalizer tasks run beside it.
A step is what happens between two such waits; a failed or dropped append committed nothing.
-/

namespace HaiderAgent.Broker

open ExceptFold

/-- `LifecycleState`: how far an effect has come. -/
inductive LifecycleState where
  | intent | authorizedAllow | authorizedBlocked | dispatched | terminalizing
  | terminalJournalFailed | outcome
  deriving DecidableEq, Repr

/-- The `Debug` text of a lifecycle state. -/
def LifecycleState.debug : LifecycleState → String
  | .intent => "Intent"
  | .authorizedAllow => "AuthorizedAllow"
  | .authorizedBlocked => "AuthorizedBlocked"
  | .dispatched => "Dispatched"
  | .terminalizing => "Terminalizing"
  | .terminalJournalFailed => "TerminalJournalFailed"
  | .outcome => "Outcome"

/-- `LifecycleRecord`. -/
structure LifecycleRecord where
  intent : EffectIntent
  state : LifecycleState
  deriving DecidableEq, Repr

/-- `ToolError`, by the variants the broker builds. -/
inductive ToolError where
  | lifecycle (message : String)
  | invalidArgument (message : String)
  | invalidMenuAnswer (menu : MenuId) (message : String)
  | runtime (message : String)
  | other (text : String)
  deriving DecidableEq, Repr

/-- The `Display` text of an error. -/
def ToolError.text : ToolError → String
  | .lifecycle message => "invalid effect lifecycle: " ++ message
  | .invalidArgument message => message
  | .invalidMenuAnswer menu message => "invalid answer for menu " ++ menu ++ ": " ++ message
  | .runtime message => "tool runtime failed: " ++ message
  | .other text => text

/-- A decision that holds for one use. -/
structure OneShotRule where
  class_ : EffectClass
  argsDigest : String
  decision : PolicyDecision
  deriving DecidableEq, Repr

/-- A permission menu waiting for its answer. -/
structure PendingPermission where
  menu : DecisionMenu
  class_ : EffectClass
  argsDigest : String
  deriving DecidableEq, Repr

/-- The verdicts that let an effect be dispatched. -/
def allows : AuthorizationVerdict → Bool
  | .allow | .preAuthorized => true
  | .ask _ | .deny _ => false

/-- What a broker call waiting for the sink does once its append has returned. -/
inductive Continuation where
  /-- `normalize`; a user-typed call goes on to authorize and dispatch. -/
  | insertIntent (intent : EffectIntent) (userTyped : Bool)
  /-- `authorize`, with the one-shot rule its decision was taken from. -/
  | setVerdict (intent : EffectIntent) (verdict : AuthorizationVerdict)
      (pending : Option PendingPermission) (taken : Option OneShotRule)
  /-- `begin_user_typed` after its pre-authorization. -/
  | setPreAuthorized (intent : EffectIntent)
  /-- `journal_dispatched`. -/
  | setDispatched (intent : EffectIntent)
  deriving DecidableEq, Repr

/-- The phase the pending append writes. -/
def Continuation.phase : Continuation → EffectPhase
  | .insertIntent intent _ => .intent intent
  | .setVerdict intent verdict _ _ => .authorized intent.effect verdict
  | .setPreAuthorized intent => .authorized intent.effect .preAuthorized
  | .setDispatched intent => .dispatched intent.effect

/-- `EffectBrokerCloseReport` (`broker.rs`). -/
structure CloseReport where
  reconciledEffects : List EffectId
  leakedProcesses : List String
  deriving DecidableEq, Repr

/-- `EffectBrokerCloseError` (`broker.rs`). -/
structure CloseError where
  report : CloseReport
  errors : List ToolError
  deriving DecidableEq, Repr

/-- Where the owner of the broker is. -/
inductive Owner where
  | idle
  /-- A call waits for the sink. -/
  | appending (rest : Continuation)
  /-- The sink has taken the phase. -/
  | appended (rest : Continuation)
  /-- `close` or `cancel`, in the first drain. -/
  | draining (cancelled : Bool)
  /-- The sweep, with the candidates left. -/
  | sweeping (cancelled : Bool) (candidates : List EffectIntent) (reconciled : List EffectId)
  /-- The sweep waits for the terminal append of one candidate. -/
  | awaiting (cancelled : Bool) (effect : EffectId) (candidates : List EffectIntent)
      (reconciled : List EffectId)
  | closed (result : Except CloseError CloseReport)
  deriving DecidableEq

/-- A task of the finalizer set. -/
inductive Finalizer where
  /-- Supervises a tool and holds its `EffectFinish`. -/
  | working (intent : EffectIntent)
  /-- Holds a `TerminalClaim` and waits for the sink. -/
  | claimed (effect : EffectId) (outcome : EffectOutcome)
  /-- The sink has taken the outcome. -/
  | committed (effect : EffectId)
  /-- The sink has refused it. -/
  | refused (effect : EffectId) (error : ToolError)
  deriving DecidableEq, Repr

/-- `EffectBroker` with its shared journal state. `journal` is what the sink holds. -/
structure EffectBroker where
  sessionId : SessionId
  workerGeneration : Nat
  startedAtMs : Nat
  nextEffect : Nat := 0
  nextMenu : Nat := 0
  pendingPermissions : HashMap MenuId PendingPermission := ∅
  oneShotRules : List OneShotRule := []
  lifecycles : HashMap EffectId LifecycleRecord := ∅
  terminalErrors : HashMap EffectId ToolError := ∅
  journal : List EffectPhase := []
  finalizers : List Finalizer := []
  /-- The tasks lost since the last drain, each with the text of its `JoinError`. -/
  failed : List (Finalizer × String) := []
  owner : Owner := .idle

namespace EffectBroker

variable (broker : EffectBroker)

/-- The identity part shared by effect and menu ids. -/
def identity : String :=
  broker.sessionId ++ "-" ++ toString broker.workerGeneration ++ "-" ++
    toString broker.startedAtMs ++ "-"

/-- The id `normalize` gives to its `n`-th effect. -/
def effectId (n : Nat) : EffectId := "effect-" ++ broker.identity ++ Nat.repr n

variable (effect : EffectId)

/-- How far the effect has come, if it is known. -/
def stateOf : Option LifecycleState :=
  (broker.lifecycles.lookup effect).map (·.state)

/-- `format!("{actual:?}")` of an optional state. -/
def debugState : Option LifecycleState → String
  | none => "None"
  | some state => "Some(" ++ state.debug ++ ")"

/-- `require_state`. -/
def requireState (expected : LifecycleState) : Except ToolError Unit :=
  ensure (broker.stateOf effect == some expected)
    (.lifecycle ("effect " ++ effect ++ " is " ++ debugState (broker.stateOf effect) ++
      ", expected " ++ expected.debug))

/-- The refusal of an effect that was never recorded. -/
def noJournaledIntent : ToolError :=
  .lifecycle ("effect " ++ effect ++ " has no journaled intent")

/-- The refusal of an intent other than the recorded one. -/
def intentMismatch (recorded received : EffectIntent) : ToolError :=
  .lifecycle ("effect " ++ received.effect ++
    " does not match its journaled intent (expected digest " ++ recorded.argsDigest ++
    ", received " ++ received.argsDigest ++ ")")

variable (intent : EffectIntent)

/-- `require_recorded_intent`. -/
def requireRecordedIntent : Except ToolError EffectIntent :=
  match broker.lifecycles.lookup intent.effect with
  | none => .error (noJournaledIntent intent.effect)
  | some record =>
    if record.intent ≠ intent then .error (intentMismatch record.intent intent)
    else .ok record.intent

/-- The effect's record in another state. -/
def putState (state : LifecycleState) : EffectBroker :=
  { broker with
    lifecycles :=
      EntryMap.modify effect (fun record => { record with state := state }) broker.lifecycles }

/-- `set_state`. -/
def setState (state : LifecycleState) : Except ToolError EffectBroker :=
  if (broker.lifecycles.lookup effect).isNone then .error (noJournaledIntent effect)
  else .ok (broker.putState effect state)

/-- `BrokerJournal::claim_terminal`: `some` is the broker with the claim taken. -/
def claimTerminal : Except ToolError (Option EffectBroker) :=
  match broker.lifecycles.lookup intent.effect with
  | none => .error (noJournaledIntent intent.effect)
  | some record =>
    if record.intent ≠ intent then .error (intentMismatch record.intent intent)
    else
      match record.state with
      | .dispatched => .ok (some (broker.putState intent.effect .terminalizing))
      | .terminalizing | .terminalJournalFailed | .outcome => .ok none
      | state =>
        .error (.lifecycle ("effect " ++ intent.effect ++ " is " ++ state.debug ++
          ", expected " ++ LifecycleState.dispatched.debug))

/-- `abandon_terminal`. -/
def abandonTerminal : EffectBroker :=
  if broker.stateOf effect = some .terminalizing then broker.putState effect .dispatched
  else broker

/-- `mark_outcome`. -/
def markOutcome : EffectBroker := broker.putState effect .outcome

/-- `mark_terminal_journal_failed`. -/
def markTerminalJournalFailed (error : ToolError) : EffectBroker :=
  { broker.putState effect .terminalJournalFailed with
    terminalErrors :=
      if (broker.lifecycles.lookup effect).isSome then broker.terminalErrors.insert effect error
      else broker.terminalErrors }

/-- `BrokerJournal::close_sweep_candidates`: claims still marked are taken back. -/
def closeSweepCandidates : EffectBroker × List EffectIntent :=
  let lifecycles := EntryMap.mapEntries
    (fun _ record =>
      if record.state = .terminalizing then { record with state := .dispatched } else record)
    broker.lifecycles
  ({ broker with lifecycles := lifecycles },
    ((lifecycles.entries.filter (·.2.state = .dispatched)).map (·.2.intent)).insertionSort
      (·.effect ≤ ·.effect))

/-! ## Calls -/

variable (menu : DecisionMenu) (answer : MenuAnswer) (class_ : EffectClass)

/-- `EffectBroker::normalize` up to its append, and the same part of `begin_user_typed`. -/
def normalize (summary argsDigest : String) (workspaceRevision : Option WorkspaceRevision)
    (userTyped : Bool) : EffectBroker :=
  let nextEffect := broker.nextEffect + 1
  let intent := ⟨broker.effectId nextEffect, class_, summary, argsDigest, workspaceRevision⟩
  { broker with
    nextEffect := nextEffect
    owner := .appending (.insertIntent intent userTyped) }

/-- `take_one_shot_decision`: the first rule for this class and digest, and the rest. -/
def takeOneShotDecision (intent : EffectIntent) :
    List OneShotRule → Option (OneShotRule × List OneShotRule)
  | [] => none
  | rule :: rules =>
    if rule.class_ = intent.class_ ∧ rule.argsDigest = intent.argsDigest then some (rule, rules)
    else (takeOneShotDecision intent rules).map fun (found, rest) => (found, rule :: rest)

/-- `permission_menu_for`, with the counter it advances. -/
def permissionMenuFor : EffectBroker × DecisionMenu :=
  let nextMenu := broker.nextMenu + 1
  ({ broker with nextMenu := nextMenu },
    { id := "permission-" ++ broker.identity ++ Nat.repr nextMenu
      kind := .permission intent.summary
      options := [⟨"approve_once", some .allowOnce⟩, ⟨"approve_for_session", some .allowAlways⟩,
        ⟨"deny", some .rejectOnce⟩] })

/-- The verdict of a decision, with the menu an open question registers. -/
def verdictFor :
    PolicyDecision → EffectBroker × AuthorizationVerdict × Option PendingPermission
  | .allow => (broker, .allow, none)
  | .ask =>
    let (broker, menu) := broker.permissionMenuFor intent
    (broker, .ask menu.id, some ⟨menu, intent.class_, intent.argsDigest⟩)
  | .deny reason => (broker, .deny reason, none)

/-- The decision of `authorize`, the one-shot rule it is taken from, and the rules left. A policy
deny comes first, then a stored answer, then the policy. -/
def decisionFor (rules : List OneShotRule) (intent : EffectIntent) (policy : PermissionPolicy) :
    PolicyDecision × Option OneShotRule × List OneShotRule :=
  match policy.decision intent with
  | .deny reason => (.deny reason, none, rules)
  | decision =>
    match takeOneShotDecision intent rules with
    | none => (decision, none, rules)
    | some (rule, rest) => (rule.decision, some rule, rest)

/-- `EffectBroker::authorize` up to its append. -/
def authorize (policy : PermissionPolicy) : Except ToolError EffectBroker := do
  broker.requireState intent.effect .intent
  let recorded ← broker.requireRecordedIntent intent
  let (decision, taken, rules) := decisionFor broker.oneShotRules recorded policy
  let (broker, verdict, pending) :=
    verdictFor { broker with oneShotRules := rules } recorded decision
  .ok { broker with owner := .appending (.setVerdict intent verdict pending taken) }

/-- `EffectBroker::journal_dispatched` up to its append. -/
def journalDispatched : Except ToolError EffectBroker := do
  let _ ← broker.requireRecordedIntent intent
  broker.requireState intent.effect .authorizedAllow
  .ok { broker with owner := .appending (.setDispatched intent) }

/-- The broker after a call that may have failed without a change. -/
def orElse : Except ToolError EffectBroker → EffectBroker
  | .ok next => next
  | .error _ => broker

/-- What a call does after its append, up to its next append. -/
def resume (rest : Continuation) : EffectBroker :=
  let broker := { broker with owner := .idle }
  match rest with
  | .insertIntent intent userTyped =>
    let broker :=
      { broker with lifecycles := broker.lifecycles.insert intent.effect ⟨intent, .intent⟩ }
    if userTyped then { broker with owner := .appending (.setPreAuthorized intent) } else broker
  | .setVerdict intent verdict pending _ =>
    let broker :=
      match pending with
      | none => broker
      | some pending =>
        { broker with
          pendingPermissions := broker.pendingPermissions.insert pending.menu.id pending }
    let state := if allows verdict then .authorizedAllow else .authorizedBlocked
    broker.orElse (broker.setState intent.effect state)
  | .setPreAuthorized intent =>
    broker.orElse do
      let broker ← broker.setState intent.effect .authorizedAllow
      .ok (broker.orElse (broker.journalDispatched intent))
  | .setDispatched intent => broker.orElse (broker.setState intent.effect .dispatched)

/-- `selected_decision`: by key, or by index when no key is given. -/
def selectedDecision : Except ToolError DecisionKind := do
  let option ←
    match answer.optionKey with
    | some key =>
      match menu.options.find? (·.key == key) with
      | some option => .ok option
      | none => .error (.invalidMenuAnswer menu.id ("unknown option key `" ++ key ++ "`"))
    | none =>
      match menu.options[answer.optionIndex]? with
      | some option => .ok option
      | none =>
        .error (.invalidMenuAnswer menu.id
          ("option index " ++ toString answer.optionIndex ++ " is out of range"))
  match option.decision with
  | some decision => .ok decision
  | none => .error (.invalidMenuAnswer menu.id ("option `" ++ option.key ++ "` has no decision"))

/-- The rule an answer stores, if it is a one-time answer. -/
def oneShotRuleFor (argsDigest : String) :
    DecisionKind → Option OneShotRule
  | .allowOnce => some ⟨class_, argsDigest, .allow⟩
  | .rejectOnce => some ⟨class_, argsDigest, .deny "rejected once by user"⟩
  | .allowAlways | .rejectAlways => none

/-- The policy after an answer; a one-time answer leaves it alone. -/
def policyAfter (argsDigest : String) (policy : PermissionPolicy) :
    DecisionKind → Except ToolError PermissionPolicy
  | .allowOnce | .rejectOnce => .ok policy
  | .allowAlways =>
    match policy.allowSessionGrant (.forEffect class_ argsDigest) with
    | some policy => .ok policy
    | none =>
      .error (.invalidArgument "class-wide local or remote execution session grants are forbidden")
  | .rejectAlways => .ok (policy.deny class_ "rejected always by user")

/-- `apply_permission_decision`: the broker keeps one-time answers, the policy the others. -/
def applyPermissionDecision (argsDigest : String) (decision : DecisionKind) : EffectBroker :=
  { broker with
    oneShotRules := broker.oneShotRules ++ (oneShotRuleFor class_ argsDigest decision).toList }

/-- The menu, class, digest and decision of an answer to `resolve_permission`. -/
def resolvedDecision : Except ToolError (PendingPermission × DecisionKind) := do
  let pending ←
    match broker.pendingPermissions.lookup answer.menu with
    | some pending => .ok pending
    | none => .error (.invalidArgument ("unknown permission menu " ++ answer.menu))
  let decision ← selectedDecision pending.menu answer
  .ok (pending, decision)

/-- `resolve_permission`. -/
def resolvePermission (policy : PermissionPolicy) :
    EffectBroker × Except ToolError PermissionPolicy :=
  match broker.resolvedDecision answer with
  | .error error => (broker, .error error)
  | .ok (pending, decision) =>
    ({ broker with pendingPermissions := broker.pendingPermissions.erase answer.menu }
      |>.applyPermissionDecision pending.class_ pending.argsDigest decision,
      policyAfter pending.class_ pending.argsDigest policy decision)

/-- The decision of a durable menu's committed answer. -/
def restoredDecision : Except ToolError DecisionKind := do
  ensure (answer.menu == menu.id) (.invalidMenuAnswer answer.menu
    ("answer targets " ++ answer.menu ++ ", but durable permission menu is " ++ menu.id))
  ensure menu.isPermission
    (.invalidArgument ("menu " ++ menu.id ++ " is not a permission menu"))
  selectedDecision menu answer

/-- `restore_permission`. -/
def restorePermission (argsDigest : String) (policy : PermissionPolicy) :
    EffectBroker × Except ToolError PermissionPolicy :=
  match restoredDecision menu answer with
  | .error error => (broker, .error error)
  | .ok decision =>
    (broker.applyPermissionDecision class_ argsDigest decision,
      policyAfter class_ argsDigest policy decision)

/-! ## Finalizers -/

/-- Claims an effect's terminal phase for a finalizer task. -/
def spawnTerminal (outcome : EffectOutcome) : EffectBroker :=
  match broker.claimTerminal intent with
  | .error _ | .ok none => broker
  | .ok (some broker) =>
    { broker with finalizers := broker.finalizers ++ [.claimed intent.effect outcome] }

/-- A finalizer task ends. -/
def dropFinalizer (task : Finalizer) : EffectBroker :=
  { broker with finalizers := broker.finalizers.erase task }

/-- A finalizer task goes on as another. -/
def advanceFinalizer (task next : Finalizer) : EffectBroker :=
  { broker with finalizers := next :: broker.finalizers.erase task }

/-- A phase reaches the journal. -/
def record (phase : EffectPhase) : EffectBroker :=
  { broker with journal := broker.journal ++ [phase] }

/-- `TerminalClaim::append` after the sink has returned. -/
def settle : Finalizer → Option EffectBroker
  | .committed effect => some (broker.markOutcome effect)
  | .refused effect error => some (broker.markTerminalJournalFailed effect error)
  | .working _ | .claimed _ _ => none

/-- A task that has no answer of the sink yet is gone. A claim that was never polled is re-armed
(`Drop for TerminalClaim`); an unwound append leaves it marked. -/
def lose (polled : Bool) : Finalizer → Option EffectBroker
  | .working _ => some broker
  | .claimed effect _ => some (if polled then broker else broker.abandonTerminal effect)
  | .committed _ | .refused _ _ => none

/-- The task set keeps the failure of a lost task for `drain_finalizers`. -/
def keepFailure (task : Finalizer) (cause : String) : EffectBroker :=
  { broker with failed := broker.failed ++ [(task, cause)] }

/-! ## Close -/

/-- What `drain_finalizers` makes of a lost task; it names no effect. -/
def taskFailure (cause : String) : ToolError :=
  .runtime ("effect finalizer task failed: " ++ cause)

/-- The `Runtime` error that names an effect whose terminal append failed. -/
def terminalError (error : ToolError) : ToolError :=
  .runtime ("effect " ++ effect ++ " terminal journal append failed: " ++ error.text)

/-- `take_terminal_errors`, in the order of the effects. -/
def takeTerminalErrors : List (EffectId × ToolError) :=
  (broker.terminalErrors.entries.map fun entry => (entry.1, entry.2)).insertionSort (·.1 ≤ ·.1)

/-- Errors are told apart by their text. -/
def pushUnique (unique : List ToolError) (error : ToolError) : List ToolError :=
  if unique.any (·.text == error.text) then unique else unique ++ [error]

/-- `finish_close`. -/
def finishClose (report : CloseReport) (errors : List ToolError)
    (terminalErrors : List (EffectId × ToolError)) : Except CloseError CloseReport :=
  let errors := errors ++ terminalErrors.map fun (effect, error) => terminalError effect error
  match errors.foldl pushUnique [] with
  | [] => .ok report
  | unique => .error ⟨report, unique⟩

/-- The end of `close_with_fallback`, after both drains collected `errors`. -/
def closeResult (reconciled : List EffectId) (errors : List ToolError) (leaked : List String) :
    Except CloseError CloseReport :=
  let terminalErrors := broker.takeTerminalErrors
  let errors := errors.filter fun error => !terminalErrors.any (·.2 == error)
  let errors := errors ++ leaked.map fun callId =>
    .runtime ("process `" ++ callId ++ "` leaked after process-group termination escalation")
  finishClose ⟨reconciled, leaked⟩ errors terminalErrors

/-- One candidate of the close sweep; `tokenCancelled` is the state of its cancel token. -/
def sweepCandidate (cancelled tokenCancelled : Bool) (intent : EffectIntent)
    (candidates : List EffectIntent) (reconciled : List EffectId) : EffectBroker :=
  match broker.claimTerminal intent with
  | .error _ | .ok none =>
    { broker with owner := .sweeping cancelled candidates reconciled }
  | .ok (some broker) =>
    let outcome := if cancelled || tokenCancelled then .cancelled else .unknown
    { broker with
      finalizers := broker.finalizers ++ [.claimed intent.effect outcome]
      owner := .awaiting cancelled intent.effect candidates reconciled }

end EffectBroker

/-! ## Steps -/

/-- What can happen to a broker. -/
inductive Action where
  | normalize (class_ : EffectClass) (summary argsDigest : String)
      (workspaceRevision : Option WorkspaceRevision) (userTyped : Bool)
  | authorize (intent : EffectIntent) (policy : PermissionPolicy)
  | journalDispatched (intent : EffectIntent)
  | journalOutcome (intent : EffectIntent) (outcome : EffectOutcome)
  | resolvePermission (answer : MenuAnswer) (policy : PermissionPolicy)
  | restorePermission (menu : DecisionMenu) (answer : MenuAnswer) (class_ : EffectClass)
      (argsDigest : String) (policy : PermissionPolicy)
  | registerFinalizer (intent : EffectIntent)
  /-- The sink takes the phase the caller waits with. -/
  | sinkCommits
  /-- The sink refuses it. -/
  | sinkFails
  /-- The caller's future is dropped. -/
  | dropCaller
  /-- The caller goes on after its append. -/
  | resume
  /-- A working finalizer finishes its effect. -/
  | finish (intent : EffectIntent) (outcome : EffectOutcome)
  /-- The sink takes, or refuses, the outcome of a claimed effect. -/
  | taskCommits (effect : EffectId) (outcome : EffectOutcome)
  | taskFails (effect : EffectId) (outcome : EffectOutcome) (error : ToolError)
  /-- A task with an answer from the sink settles its claim. -/
  | taskSettles (task : Finalizer)
  /-- A task is dropped before its first poll, or unwound. -/
  | taskLost (task : Finalizer) (polled : Bool) (cause : String)
  | close (cancelled : Bool)
  /-- The first drain ends. -/
  | sweep
  | sweepNext (tokenCancelled : Bool)
  | sweepSettled
  /-- The second drain ends; `errors` is what both drains collected besides the failures of the
  tasks lost in the sweep. -/
  | closed (errors : List ToolError) (leaked : List String)

namespace EffectBroker

/-- A call needs the broker for itself. -/
def call (broker next : EffectBroker) : Option EffectBroker :=
  match broker.owner with
  | .idle => some next
  | _ => none

/-- A step only a live finalizer task can take. -/
def byTask (broker : EffectBroker) (task : Finalizer) (next : Option EffectBroker) :
    Option EffectBroker :=
  if task ∈ broker.finalizers then next else none

/-- One step; `none` where the action cannot happen. -/
def step (broker : EffectBroker) : Action → Option EffectBroker
  | .normalize class_ summary argsDigest revision userTyped =>
    broker.call (broker.normalize class_ summary argsDigest revision userTyped)
  | .authorize intent policy => broker.call (broker.orElse (broker.authorize intent policy))
  | .journalDispatched intent => broker.call (broker.orElse (broker.journalDispatched intent))
  | .journalOutcome intent outcome => broker.call (broker.spawnTerminal intent outcome)
  | .resolvePermission answer policy => broker.call (broker.resolvePermission answer policy).1
  | .restorePermission menu answer class_ argsDigest policy =>
    broker.call (broker.restorePermission menu answer class_ argsDigest policy).1
  | .registerFinalizer intent =>
    broker.call { broker with finalizers := broker.finalizers ++ [.working intent] }
  | .sinkCommits =>
    match broker.owner with
    | .appending rest => some { broker.record rest.phase with owner := .appended rest }
    | _ => none
  | .sinkFails | .dropCaller =>
    match broker.owner with
    | .appending _ => some { broker with owner := .idle }
    | _ => none
  | .resume =>
    match broker.owner with
    | .appended rest => some (broker.resume rest)
    | _ => none
  | .finish intent outcome =>
    broker.byTask (.working intent)
      (some ((broker.dropFinalizer (.working intent)).spawnTerminal intent outcome))
  | .taskCommits effect outcome =>
    broker.byTask (.claimed effect outcome)
      (some ((broker.record (.outcome effect outcome)).advanceFinalizer
        (.claimed effect outcome) (.committed effect)))
  | .taskFails effect outcome error =>
    broker.byTask (.claimed effect outcome)
      (some (broker.advanceFinalizer (.claimed effect outcome) (.refused effect error)))
  | .taskSettles task => broker.byTask task ((broker.dropFinalizer task).settle task)
  | .taskLost task polled cause =>
    broker.byTask task (((broker.dropFinalizer task).keepFailure task cause).lose polled task)
  | .close cancelled => broker.call { broker with owner := .draining cancelled }
  | .sweep =>
    match broker.owner, broker.finalizers with
    | .draining cancelled, [] =>
      let (broker, candidates) := broker.closeSweepCandidates
      some { broker with owner := .sweeping cancelled candidates [], failed := [] }
    | _, _ => none
  | .sweepNext tokenCancelled =>
    match broker.owner with
    | .sweeping cancelled (intent :: candidates) reconciled =>
      some (broker.sweepCandidate cancelled tokenCancelled intent candidates reconciled)
    | _ => none
  | .sweepSettled =>
    match broker.owner, broker.finalizers with
    | .awaiting cancelled effect candidates reconciled, [] =>
      let settled := if broker.stateOf effect = some .outcome then [effect] else []
      some { broker with owner := .sweeping cancelled candidates (reconciled ++ settled) }
    | _, _ => none
  | .closed errors leaked =>
    match broker.owner, broker.finalizers with
    | .sweeping _ [] reconciled, [] =>
      let errors := errors ++ broker.failed.map fun lost => taskFailure lost.2
      some { broker with owner := .closed (broker.closeResult reconciled errors leaked) }
    | _, _ => none

/-- Step after step. -/
def run (broker : EffectBroker) (actions : List Action) : Option EffectBroker :=
  Machine.run step broker actions

/-- `EffectBroker::new_at`, by what the calls read. -/
def newAt (sessionId : SessionId) (workerGeneration startedAtMs : Nat) : EffectBroker :=
  { sessionId, workerGeneration, startedAtMs }

/-! ## What the calls check -/

variable {broker next : EffectBroker} {effect : EffectId} {intent : EffectIntent}

theorem requireState_eq_ok {expected : LifecycleState} :
    broker.requireState effect expected = .ok () ↔ broker.stateOf effect = some expected := by
  rw [requireState, ensure_eq_ok, beq_iff_eq]

theorem requireRecordedIntent_eq_ok {recorded : EffectIntent}
    (returned : broker.requireRecordedIntent intent = .ok recorded) :
    recorded = intent ∧ ∃ record, broker.lifecycles.lookup intent.effect = some record ∧
      record.intent = intent := by
  unfold requireRecordedIntent at returned
  cases found : broker.lifecycles.lookup intent.effect with
  | none => simp [found] at returned
  | some record =>
    simp only [found] at returned
    split at returned
    · cases returned
    · next same =>
      cases returned
      exact ⟨not_not.mp same, record, rfl, not_not.mp same⟩

/-- A verdict carries a decision. -/
inductive Carries : PolicyDecision → AuthorizationVerdict → Prop where
  | allow : Carries .allow .allow
  | ask (menu : MenuId) : Carries .ask (.ask menu)
  | deny (reason : String) : Carries (.deny reason) (.deny reason)

theorem verdictFor_spec (decision : PolicyDecision) :
    ∃ nextMenu verdict pending, broker.verdictFor intent decision =
      ({ broker with nextMenu := nextMenu }, verdict, pending) ∧ Carries decision verdict := by
  cases decision with
  | allow => exact ⟨_, _, _, rfl, .allow⟩
  | ask => exact ⟨_, _, _, rfl, .ask _⟩
  | deny reason => exact ⟨_, _, _, rfl, .deny reason⟩

/-- An `authorize` that appends has found its intent, decided, and taken the rule it used. -/
theorem authorize_eq_ok {policy : PermissionPolicy}
    (returned : broker.authorize intent policy = .ok next) :
    broker.stateOf intent.effect = some .intent ∧
    (∃ record, broker.lifecycles.lookup intent.effect = some record ∧ record.intent = intent) ∧
    ∃ nextMenu verdict pending,
      Carries (decisionFor broker.oneShotRules intent policy).1 verdict ∧
      next = { broker with
        oneShotRules := (decisionFor broker.oneShotRules intent policy).2.2
        nextMenu := nextMenu
        owner := .appending (.setVerdict intent verdict pending
          (decisionFor broker.oneShotRules intent policy).2.1) } := by
  obtain ⟨_, found, returned⟩ := bind_eq_ok.mp returned
  obtain ⟨recorded, checked, returned⟩ := bind_eq_ok.mp returned
  obtain ⟨rfl, record⟩ := requireRecordedIntent_eq_ok checked
  refine ⟨requireState_eq_ok.mp found, record, ?_⟩
  generalize decisionFor broker.oneShotRules recorded policy = decided at returned ⊢
  obtain ⟨decision, taken, rules⟩ := decided
  have spec : ∃ nextMenu verdict pending,
      verdictFor { broker with oneShotRules := rules } recorded decision =
        ({ broker with oneShotRules := rules, nextMenu := nextMenu }, verdict, pending) ∧
      Carries decision verdict := verdictFor_spec decision
  obtain ⟨nextMenu, verdict, pending, built, carries⟩ := spec
  simp only [built, Except.ok.injEq] at returned
  exact ⟨nextMenu, verdict, pending, carries, returned.symm⟩

end EffectBroker

end HaiderAgent.Broker
