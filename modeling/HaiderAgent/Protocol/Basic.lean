import Mathlib.Algebra.Order.Ring.Nat
import Mathlib.Data.List.AList

/-!
# Shared protocol vocabulary

Identifiers, lifecycle states, error presentations, menus and effects of the
`haider-protocol` crate. Only the fields that some modelled function reads or
writes are kept.
-/

namespace HaiderAgent

/-- The string newtypes of ids.rs, compared as strings. -/
abbrev SessionId := String
abbrev RunId := String
abbrev BranchId := String
abbrev AgentId := String
abbrev EventId := String
abbrev ItemId := String
abbrev MenuId := String
abbrev EffectId := String
abbrev NodeId := String
abbrev DeviceId := String
abbrev ArtifactRef := String
abbrev GraphId := String
abbrev GraphRunSetId := String
abbrev WorkspaceRevision := String
abbrev CredentialAlias := String

/-- A `serde_json::Value` that is only compared and printed, as its compact rendering. -/
abbrev Json := String

/-- `serde_json::json!({})`, an open and a close brace. -/
def emptyObject : Json := "\x7b\x7d"

/-- Rust `u64::MAX`, where `saturating_add` stops. -/
def u64Max : Nat := 2 ^ 64 - 1

/-- `u64::saturating_add`. -/
def saturatingAdd (a b : Nat) : Nat := min (a + b) u64Max

/-- A Rust `HashMap`: finite, one value per key. -/
abbrev HashMap (K V : Type) := AList (fun _ : K => V)

/-- `WaitReason` (state.rs). -/
inductive WaitReason where
  | networkUnavailable | providerBackoff | rateLimit | remoteChild | localChild
  | deviceUnreachable | blockingHook | dependency | verifyHold | verifyQueue
  | workspaceSettlement | workspaceVerify
  | other (tag : String)
  deriving DecidableEq, Repr

/-- `VerifyStep` (state.rs). -/
inductive VerifyStep where
  | check | format | test
  deriving DecidableEq, Repr

/-- `RunState` (state.rs): the lifecycle of a run. -/
inductive RunState where
  | queued | thinking | streaming | runningTool
  | waiting (reason : WaitReason)
  | retrying (attempt max delayMs : Nat) (reason : WaitReason)
  | inputRequired (menu : MenuId)
  | permissionRequired (menu : MenuId)
  | compacting
  | verifying (step : VerifyStep)
  | concluding | effectOutcomeUnknown | cancelling
  | done | errored | cancelled
  deriving DecidableEq, Repr

/-- `RunState::is_terminal`. -/
def RunState.isTerminal : RunState → Bool
  | .done | .errored | .cancelled => true
  | _ => false

/-- `SessionState` (state.rs). -/
inductive SessionState where
  | created | restoring
  | idle (interrupted : Bool)
  | activeRun | pausing | paused | closing | closed
  deriving DecidableEq, Repr

/-- `ErrorScope` (error.rs). -/
inductive ErrorScope where
  | turn | session | profile | account | tool
  deriving DecidableEq, Repr

/-- `ErrorAction` (error.rs): what an error card offers. -/
inductive ErrorAction where
  | retry | relogin | reimport | editKey | switchAccount | topUp | wait | chooseModel
  | contactAdmin | continuePartial | retryFresh | reconnect | none
  deriving DecidableEq, Repr

/-- `ErrorPresentation` (`error.rs`), without the provider timing fields. -/
structure ErrorPresentation where
  subcode : String
  title : String
  detail : String
  scope : ErrorScope
  allowedActions : List ErrorAction
  deriving DecidableEq, Repr

/-- The error codes the modelled functions return. -/
inductive ErrorCode where
  | invalidArgument | storeCorrupt | storeError | conflict | notFound
  | providerError | budgetExhausted | internal
  deriving DecidableEq, Repr

/-- `HaiderError` (`error.rs`): a code and its text. -/
structure HaiderError where
  code : ErrorCode
  message : String
  retryable : Bool
  deriving DecidableEq, Repr

/-- The answers to an effect whose outcome is unknown (menu.rs). -/
inductive EffectRecoveryAction where
  | probe | markDone | retry | abandon
  deriving DecidableEq, Repr

/-- `ErrorRecoveryCardKind` (menu.rs). -/
inductive ErrorRecoveryCardKind where
  | oauthExpired | invalidApiKey | accountRevoked | accountDeleted | rateLimit
  | quotaExhausted | partialStream | keychainRelink | storeUnwritable | generic
  deriving DecidableEq, Repr

/-- `MenuKind` (`menu.rs`). The error-recovery card keeps its card and source item. -/
inductive MenuKind where
  | permission (effectSummary : String)
  | recovery (effect : EffectId) (presentation : Option ErrorPresentation)
      (optionActions : List EffectRecoveryAction)
  | errorRecovery (card : ErrorRecoveryCardKind) (presentation : ErrorPresentation)
      (sourceItem : Option ItemId)
  | exhausted | trustHook | update | question | choice | secret | file | conflict
  | graphHumanConfirm (graphId : GraphId) (node : String) (attempt : Nat)
  | graphAbandonConfirm (graphId : GraphId) (runId : RunId) (stateDigest : String)
  deriving DecidableEq, Repr

/-- `MenuOption` (`menu.rs`), without the permission decision. -/
structure MenuOption where
  key : String
  label : String
  detail : Option String
  deriving DecidableEq, Repr

/-- `MenuScope` (menu.rs). -/
inductive MenuScope where
  | session
  | subagent (agent : AgentId)
  | harness
  deriving DecidableEq, Repr

/-- `Menu` (menu.rs): a question with its options and its deadline. -/
structure Menu where
  id : MenuId
  kind : MenuKind
  title : String
  body : List String
  options : List MenuOption
  blocking : Bool
  scope : MenuScope
  origin : String
  ttlMs : Option Nat
  timeoutOption : Option Nat
  deriving DecidableEq, Repr

/-- `MenuAnswer` (`menu.rs`), without the answering surface. -/
structure MenuAnswer where
  menu : MenuId
  optionKey : Option String
  optionIndex : Nat
  value : Option String
  deriving DecidableEq, Repr

/-- `MenuCloseReason` (menu.rs). -/
inductive MenuCloseReason where
  | cancelled | dismissed | recoveryInterrupted
  deriving DecidableEq, Repr

/-- `char::is_control`. -/
def isControl (c : Char) : Bool := c.toNat < 0x20 || (0x7f ≤ c.toNat && c.toNat < 0xa0)

/-- The character loop of `bounded_public_text` (`error.rs`): `used` bytes are taken. -/
def boundedPublicChars (limit : Nat) : Nat → List Char → List Char
  | _, [] => []
  | used, c :: rest =>
    let c := if isControl c && c != '\n' then ' ' else c
    if limit < used + c.utf8Size then [] else c :: boundedPublicChars limit (used + c.utf8Size) rest

/-- `bounded_public_text` (`error.rs`): control characters blanked, cut at `limit` bytes. -/
def boundedPublicText (value : String) (limit : Nat) : String :=
  String.ofList (boundedPublicChars limit 0 value.toList)

/-- `effect_recovery_menu` (`menu.rs`), the four-choice card of an unknown effect. Its
presentation is `ErrorPresentation::new`, which drops `None` beside another action. -/
def effectRecoveryMenu (id : MenuId) (effect : EffectId) (summary : String) : Menu where
  id := id
  kind := .recovery effect
    (some
      { subcode := "effect-outcome-unknown"
        title := "Effect outcome unknown"
        detail := boundedPublicText
          ("Haider lost contact after dispatching " ++ summary ++
            ". Reconcile it before continuing.") 512
        scope := .tool
        allowedActions := [.retry] })
    [.probe, .markDone, .retry, .abandon]
  title := "Effect outcome unknown"
  body := ["Dispatched effect: " ++ summary]
  options :=
    [⟨"probe", "Probe", some "Re-check whether the effect completed."⟩,
      ⟨"mark_done", "Mark done", some "Record that it completed."⟩,
      ⟨"retry", "Retry", some "Settle this attempt and retry once."⟩,
      ⟨"abandon", "Abandon", some "Record it abandoned and close the run."⟩]
  blocking := true
  scope := .session
  origin := "effect-recovery"
  ttlMs := none
  timeoutOption := none

/-- `EffectClass` (effect.rs): what a tool call may touch. -/
inductive EffectClass where
  | fsRead | fsWrite | processExec | remoteExecution
  | network (host : String)
  | gitOp | agentSpawn | peerMessage | credentialAccess | guiAct | screenObserve
  | screenControl | mobileObserve | mobileControl | readSms
  deriving DecidableEq, Repr

/-- `EffectIntent` (effect.rs). -/
structure EffectIntent where
  effect : EffectId
  class_ : EffectClass
  summary : String
  argsDigest : String
  workspaceRevision : Option WorkspaceRevision
  deriving DecidableEq, Repr

/-- `AuthorizationVerdict` (effect.rs). -/
inductive AuthorizationVerdict where
  | allow
  | preAuthorized
  | ask (menu : MenuId)
  | deny (reason : String)
  deriving DecidableEq, Repr

/-- `EffectOutcome` (effect.rs). -/
inductive EffectOutcome where
  | ok | cancelled
  | cancelledEscalated (note : String)
  | failed (error : String)
  | unknown
  deriving DecidableEq, Repr

/-- `EffectPhase` (`effect.rs`); freshness and mutation records are not read. -/
inductive EffectPhase where
  | intent (intent : EffectIntent)
  | authorized (effect : EffectId) (verdict : AuthorizationVerdict)
  | dispatched (effect : EffectId)
  | outcome (effect : EffectId) (outcome : EffectOutcome)
  deriving DecidableEq, Repr

end HaiderAgent
