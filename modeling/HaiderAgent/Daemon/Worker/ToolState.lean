import HaiderAgent.Daemon.Worker.SetupEvents
import HaiderAgent.Lib.Text
import Mathlib.Data.Finset.Sort
import Mathlib.Data.String.Basic

/-!
# Durable tool state

`DurableToolStateReduction` (`haider-daemon/src/worker.rs`): session grants,
permission bindings, file freshness and tool promotion, reduced from a session
journal. A fork record and a workspace selection are consent boundaries.
-/

namespace HaiderAgent.TurnSetup

/-- `DurableToolStateReduction`: consent and tools as the journal has them. -/
structure DurableToolStateReduction where
  intents : HashMap EffectId EffectIntent := ∅
  opened : HashMap MenuId DecisionMenu := ∅
  grants : List SessionGrant := []
  bindings : HashMap MenuId (EffectClass × String) := ∅
  freshness : HashMap String FileFreshness := ∅
  explicitComputerIntent : Bool := false
  mobileUseActive : Bool := false
  discoveryCalls : Finset String := ∅
  promotedTools : Finset String := ∅

/-- What the reduction hands to the broker. -/
structure DurableToolState where
  grants : List SessionGrant
  bindings : HashMap MenuId (EffectClass × String)
  freshness : HashMap String FileFreshness
  mobileUseActive : Bool
  promotedTools : List String

/-- `str::to_ascii_lowercase`. -/
def toAsciiLowercase (text : List Char) : List Char :=
  text.map fun c => if 'A' ≤ c ∧ c ≤ 'Z' then Char.ofNat (c.toNat + 32) else c

/-- The shape of the two activation classifiers: a slash, the marker, nothing or white space. -/
def explicitUseIntent (marker text : String) : Bool :=
  let normalized := toAsciiLowercase (Text.trim text.toList)
  if normalized.isEmpty then false
  else
    let command := (Text.stripLead ['/'] normalized).getD normalized
    match Text.stripLead marker.toList command with
    | none => false
    | some tail => tail.isEmpty || (tail.head?.any Text.isWhitespace)

/-- `explicit_computer_use_intent`. -/
def explicitComputerUseIntent (text : String) : Bool := explicitUseIntent "computer-use" text

/-- `explicit_mobile_use_intent`. -/
def explicitMobileUseIntent (text : String) : Bool := explicitUseIntent "mobile-use" text

/-- `explicit_computer_auto_grant_value`: the environment may switch the grant off. -/
def explicitComputerAutoGrantValue (value : Option String) : Bool :=
  match value with
  | none => true
  | some value =>
    !(["0", "false", "no", "off"].map String.toList).contains
      (toAsciiLowercase (Text.trim value.toList))

/-- A grant is added once. -/
def pushGrant (grants : List SessionGrant) (grant : SessionGrant) : List SessionGrant :=
  if grant ∈ grants then grants else grants ++ [grant]

/-- The two grants of an explicit computer-use message. -/
def screenGrants : List SessionGrant :=
  [.forEffect .screenObserve "explicit-user-computer-use",
    .forEffect .screenControl "explicit-user-computer-use"]

/-- `add_explicit_computer_session_grants`. -/
def addExplicitComputerSessionGrants (grants : List SessionGrant) : List SessionGrant :=
  screenGrants.foldl pushGrant grants

namespace DurableToolStateReduction

variable (state : DurableToolStateReduction)

/-- `reset_workspace_consent`. -/
def resetWorkspaceConsent : DurableToolStateReduction :=
  { state with
    intents := ∅
    opened := ∅
    grants := []
    bindings := ∅
    explicitComputerIntent := false
    mobileUseActive := false
    discoveryCalls := ∅ }

/-- `reset_at_session_fork`. -/
def resetAtSessionFork : DurableToolStateReduction :=
  { state.resetWorkspaceConsent with promotedTools := ∅ }

/-- `reset_at_workspace_selection`. -/
def resetAtWorkspaceSelection : DurableToolStateReduction :=
  { state.resetWorkspaceConsent with freshness := ∅ }

/-- The `MenuAnswered` arm of `observe`. -/
def observeAnswer (answer : MenuAnswer) : DurableToolStateReduction :=
  match state.opened.lookup answer.menu with
  | none => state
  | some menu =>
    match selectedMenuOption menu answer with
    | none => state
    | some option =>
      if option.decision ≠ some .allowAlways then state
      else
        match state.bindings.lookup menu.id with
        | none => state
        | some (class_, argsDigest) =>
          { state with grants := pushGrant state.grants (.forEffect class_ argsDigest) }

/-- The `Effect` arms of `observe`. -/
def observeEffect : EffectRecord → DurableToolStateReduction
  | .intent intent => { state with intents := state.intents.insert intent.effect intent }
  | .authorized effect (.ask menu) =>
    match state.intents.lookup effect with
    | none => state
    | some intent =>
      { state with bindings := state.bindings.insert menu (intent.class_, intent.argsDigest) }
  | .outcome _ _ (some record) =>
    { state with freshness := state.freshness.insert record.path record }
  | _ => state

section Registry

variable (registered : String → Bool)

/-- The `ToolResult` arm of `observe`; `registered` is `registered_tool_by_name(..).is_some()`. -/
def observeToolResult (state : DurableToolStateReduction) (callId : String)
    (status : ToolResultStatus) (discovered : Option (List String)) : DurableToolStateReduction :=
  let removed := { state with discoveryCalls := state.discoveryCalls.erase callId }
  if callId ∈ state.discoveryCalls ∧ status = .completed then
    match discovered with
    | some promoted =>
      { removed with
        promotedTools := state.promotedTools ∪ (promoted.filter registered).toFinset }
    | none => removed
  else removed

/-- `observe`: one event of the branch, with the agent it came from. -/
def observe (state : DurableToolStateReduction) (agentId : Option AgentId) :
    SetupEvent → DurableToolStateReduction
  | .itemStarted (.toolCall callId name) =>
    if name = "list_tools" then
      { state with discoveryCalls := insert callId state.discoveryCalls }
    else state
  | .toolResult callId status discovered =>
    state.observeToolResult registered callId status discovered
  | .itemCompleted (.toolCall callId _) =>
    { state with discoveryCalls := state.discoveryCalls.erase callId }
  | .effect phase => state.observeEffect phase
  | .menuOpened menu =>
    if menu.isPermission then { state with opened := state.opened.insert menu.id menu } else state
  | .menuAnswered answer => state.observeAnswer answer
  | .userMessage text =>
    -- a computer-use message never also activates mobile use: the arms are tried in order
    if agentId.isNone ∧ explicitComputerUseIntent text then
      { state with explicitComputerIntent := true }
    else if agentId.isNone ∧ explicitMobileUseIntent text then
      { state with mobileUseActive := true }
    else state
  | _ => state

end Registry

/-- `DurableToolStateReduction::snapshot`, for the value of the auto-grant variable. -/
def snapshot (autoGrant : Option String) : DurableToolState where
  grants :=
    if state.explicitComputerIntent ∧ explicitComputerAutoGrantValue autoGrant then
      addExplicitComputerSessionGrants state.grants
    else state.grants
  bindings := state.bindings
  freshness := state.freshness
  mobileUseActive := state.mobileUseActive
  promotedTools :=
    let promoted := if state.explicitComputerIntent then insert "computer" state.promotedTools
      else state.promotedTools
    let promoted := if state.mobileUseActive then insert "mobile" promoted else promoted
    promoted.sort (· ≤ ·)

end DurableToolStateReduction

section Registry

variable (registered : String → Bool)

/-- One envelope of the `durable_session_tool_state` scan. -/
def scanEnvelope (state : DurableToolStateReduction) (envelope : SetupEnvelope) :
    DurableToolStateReduction :=
  if envelope.payload.type = some "workspace_selected" ∧
      envelope.payload.isWorkspaceSelected = true then
    state.resetAtWorkspaceSelection
  else if envelope.payload.type = some "session_forked" then state.resetAtSessionFork
  else
    match envelope.payload.decodeEvent with
    | none => state
    | some payload => state.observe registered envelope.agentId payload

/-- `durable_session_tool_state` before the snapshot: the pages of `read` are the journal. -/
def durableSessionToolState (envelopes : List SetupEnvelope) : DurableToolStateReduction :=
  envelopes.foldl (scanEnvelope registered) {}

end Registry

end HaiderAgent.TurnSetup
