import HaiderAgent.Daemon.Worker.ToolState
import HaiderAgent.Lib.ExceptFold

/-!
# The turn-setup reduction

`TurnSetupReduction` (`haider-daemon/src/worker.rs`): the journal heads a turn
needs before it starts, for one selector, folded over one filtered pass.
-/

namespace HaiderAgent.TurnSetup

open List

/-- `TurnSetupReductionSelector` (`worker.rs`). -/
structure Selector where
  runId : RunId
  branchId : Option BranchId
  agentId : Option AgentId
  provider : String
  model : String
  accountScope : Option CredentialAlias
  authScope : String
  deriving DecidableEq, Repr

/-- `TurnSetupReductionKey` (`worker.rs`): the selector without its run. -/
structure Key where
  branchId : Option BranchId
  agentId : Option AgentId
  provider : String
  model : String
  accountScope : Option CredentialAlias
  authScope : String
  deriving DecidableEq, Repr

/-- `TurnSetupReductionKey::from`. -/
def Selector.key (selector : Selector) : Key where
  branchId := selector.branchId
  agentId := selector.agentId
  provider := selector.provider
  model := selector.model
  accountScope := selector.accountScope
  authScope := selector.authScope

theorem Selector.eq_of_key_eq {selector other : Selector} (sameKey : other.key = selector.key) :
    other = { selector with runId := other.runId } := by
  simp only [Selector.key, Key.mk.injEq] at sameKey
  obtain ⟨branch, agent, provider, model, account, auth⟩ := sameKey
  simp only [← branch, ← agent, ← provider, ← model, ← account, ← auth]

/-- An instruction fact with its position. -/
structure SequencedInstructionFact where
  seq : Nat
  fact : ProjectInstructionsLoaded
  deriving DecidableEq, Repr

/-- The last request of one run in the cache domain. -/
structure CacheDomainRequestHead where
  runId : Option RunId
  committedAtMs : Nat
  deriving DecidableEq, Repr

/-- `CacheRewarmReasonV1` (`provider.rs`), by the reasons the reducer gives. -/
inductive CacheRewarmReason where
  | plannedCompaction | configurationChange
  deriving DecidableEq, Repr

/-- `PreviousCacheRequest` (actor.rs). -/
structure PreviousCacheRequest where
  historyMessageCount : Nat
  breakpointHashes : Json
  cacheDomainHash : Option String
  deriving DecidableEq, Repr

/-- `TurnSetupReduction`: what a turn needs of the journal before it starts. -/
structure TurnSetupReduction where
  selector : Selector
  latestInstructionFact : Option ProjectInstructionsLoaded := none
  sameRunInstructionFact : Option ProjectInstructionsLoaded := none
  sameRunWorkspaceUnavailable : Bool := false
  instructionFacts : HashMap (Option RunId × Option BranchId) SequencedInstructionFact := ∅
  durableTools : DurableToolStateReduction := {}
  latestMainUsageScope : Option UsageScope := none
  latestLaneUsageSeq : Nat := 0
  previousCacheRequest : Option PreviousCacheRequest := none
  previousProviderView : Option ProviderViewLedger := none
  latestDeliberateBoundary : Option (Nat × CacheRewarmReason) := none
  latestCacheDomainRequestMs : Option Nat := none
  cacheDomainRequestHeads : List CacheDomainRequestHead := []
  inheritedCacheSegment : Option ForkCacheSegment := none
  forkCacheBoundarySeq : Option Nat := none
  previousProviderViewSeq : Option Nat := none
  emittedCacheTransitions : Finset (CacheEpochTransitionReason × String) := ∅
  latestSeq : Nat := 0

/-- `TURN_SETUP_REDUCTION_PAYLOAD_KINDS`. -/
def turnSetupReductionPayloadKinds : List String :=
  ["project_instructions_loaded", "workspace_unavailable", "workspace_selected", "effect",
    "menu_opened", "menu_answered", "user_message", "usage", "node_committed", "item",
    "item_tool_call", "tool_result", "session_forked"]

/-- The stored kind of the envelope is one turn setup asks for. -/
def SetupEnvelope.isListed (envelope : SetupEnvelope) : Bool :=
  turnSetupReductionPayloadKinds.contains envelope.payload.storedKind

/-- The kinds `observe_envelope` decodes as an event payload. -/
def decodedKinds : List String :=
  ["effect", "menu_opened", "menu_answered", "user_message", "usage", "node_committed", "item",
    "tool_result"]

/-- `Iterator::max_by_key` on the sequence: the last of the largest. -/
def latestFact (facts : List SequencedInstructionFact) : Option SequencedInstructionFact :=
  facts.foldl
    (fun best fact =>
      match best with
      | none => some fact
      | some held => if held.seq ≤ fact.seq then some fact else some held) none

/-- `inherited_fork_cache_segment`. -/
def inheritedForkCacheSegment (record : SessionForked) : Option ForkCacheSegment :=
  if record.contextEpoch ≠ .inherited then none
  else record.inheritedCacheSegment.filter fun segment => !segment.cacheRoute.isEmpty

/-- The head of one run is raised in place, or the run is pushed. -/
def raiseHead (heads : List CacheDomainRequestHead) (runId : Option RunId) (committedAtMs : Nat) :
    List CacheDomainRequestHead :=
  match heads with
  | [] => [⟨runId, committedAtMs⟩]
  | head :: rest =>
    if head.runId = runId then ⟨runId, max head.committedAtMs committedAtMs⟩ :: rest
    else head :: raiseHead rest runId committedAtMs

namespace TurnSetupReduction

variable (registered : String → Bool) (reduction : TurnSetupReduction) (selector : Selector)

/-- `TurnSetupReduction::new`. -/
def new : TurnSetupReduction := { selector := selector }

/-- `refresh_instruction_facts`: the two views of the recorded facts. -/
def refreshInstructionFacts : TurnSetupReduction :=
  let selector := reduction.selector
  { reduction with
    sameRunInstructionFact :=
      (reduction.instructionFacts.lookup (some selector.runId, selector.branchId)).map (·.fact)
    latestInstructionFact :=
      (latestFact ((reduction.instructionFacts.entries.filter fun entry =>
        entry.1.1 ≠ some selector.runId ∨ entry.1.2 = selector.branchId).map (·.2))).map (·.fact) }

/-- `refresh_cache_domain_request`: the newest request of another run. -/
def refreshCacheDomainRequest : TurnSetupReduction :=
  { reduction with
    latestCacheDomainRequestMs :=
      ((reduction.cacheDomainRequestHeads.filter fun head =>
        head.runId ≠ some reduction.selector.runId).map (·.committedAtMs)).max? }

/-- `retarget`: the same lane for another run. -/
def retarget : TurnSetupReduction :=
  ({ reduction with selector := selector }.refreshInstructionFacts).refreshCacheDomainRequest

/-- `observe_instruction_fact`. -/
def observeInstructionFact (seq : Nat) (runId : Option RunId) (branchId : Option BranchId)
    (fact : ProjectInstructionsLoaded) : TurnSetupReduction :=
  { reduction with
    instructionFacts :=
      reduction.instructionFacts.insert (runId, branchId) ⟨seq, fact⟩ }.refreshInstructionFacts

/-- `record_cache_domain_request`: the two newest runs are kept. -/
def recordCacheDomainRequest (runId : Option RunId) (committedAtMs : Nat) : TurnSetupReduction :=
  { reduction with
    cacheDomainRequestHeads :=
      ((raiseHead reduction.cacheDomainRequestHeads runId committedAtMs).insertionSort
        fun (left right : CacheDomainRequestHead) =>
          right.committedAtMs ≤ left.committedAtMs).take 2 }.refreshCacheDomainRequest

/-- `scope_matches_lane`. -/
def scopeMatchesLane (scope : UsageScope) : Bool :=
  scope.provider == reduction.selector.provider && scope.model == reduction.selector.model &&
    scope.accountScope == reduction.selector.accountScope &&
    scope.authScope == reduction.selector.authScope

/-- The main-turn head of `observe_usage`. -/
def noteMainUsage (scope : UsageScope) : TurnSetupReduction :=
  if scope.requestKind = .mainTurn ∧ scope.agent = none then
    { reduction with latestMainUsageScope := some scope }
  else reduction

/-- The usage scope of the selected branch, agent and lane. -/
def inLane (branchId : Option BranchId) (scope : UsageScope) : Bool :=
  let selectedRequestKind :=
    if reduction.selector.agentId.isSome then UsageRequestKind.delegatedAgent else .mainTurn
  branchId == reduction.selector.branchId && scope.requestKind == selectedRequestKind &&
    scope.agent == reduction.selector.agentId && reduction.scopeMatchesLane scope

/-- The lane head of `observe_usage`; a message count fits `usize`. -/
def noteLaneUsage (seq : Nat) (branchId : Option BranchId) (scope : UsageScope)
    (request : Option (Option CacheRequestDiagnostic)) : TurnSetupReduction :=
  if reduction.inLane branchId scope then
    { reduction with
      latestLaneUsageSeq := seq
      previousCacheRequest := request.bind fun request => request.map fun cache =>
        { historyMessageCount := cache.historyMessageCount
          breakpointHashes := cache.breakpointHashes
          cacheDomainHash := cache.cacheDomainHash } }
  else reduction

/-- The cache-domain head of `observe_usage`. -/
def noteDomainUsage (runId : Option RunId) (committedAtMs : Nat) (scope : UsageScope) :
    TurnSetupReduction :=
  if scope.requestKind == .mainTurn && reduction.scopeMatchesLane scope then
    reduction.recordCacheDomainRequest runId committedAtMs
  else reduction

variable (runId : RunId) (envelope : SetupEnvelope)

/-- `observe_usage`. -/
def observeUsage (usage : Usage) : TurnSetupReduction :=
  match usage.scope with
  | none => reduction
  | some scope =>
    ((reduction.noteMainUsage scope).noteLaneUsage envelope.seq envelope.branchId scope
      usage.request).noteDomainUsage envelope.runId envelope.committedAtMs scope

/-- `observe_provider_view`; the flag says that the view was taken. -/
def observeProviderView (branchId : Option BranchId) (agentId : Option AgentId) (item : SetupItem) :
    Except HaiderError (TurnSetupReduction × Bool) :=
  if branchId ≠ reduction.selector.branchId ∨ agentId ≠ reduction.selector.agentId then
    .ok (reduction, false)
  else
    match item.tryProviderView with
    | .ok (some view) =>
      if view.provider = reduction.selector.provider ∧ view.model = reduction.selector.model ∧
          view.accountScope = reduction.selector.accountScope then
        .ok ({ reduction with previousProviderView := some view }, true)
      else .ok (reduction, false)
    | .ok none => .ok (reduction, false)
    | .error error =>
      .error ⟨.internal, "durable provider-view ledger is malformed: " ++ error, false⟩

/-- `observe_cache_transition`. -/
def observeCacheTransition (seq : Nat) (transition : CacheEpochTransition) : TurnSetupReduction :=
  { reduction with
    emittedCacheTransitions :=
      insert (transition.reason, transition.transitionId) reduction.emittedCacheTransitions
    latestDeliberateBoundary :=
      some (seq,
        if transition.reason = .compaction ∨ transition.planned then .plannedCompaction
        else .configurationChange) }

/-- The `Item::Completed` arm of `observe_envelope`. -/
def observeCompletedItem (item : SetupItem) : Except HaiderError TurnSetupReduction := do
  let (reduction, taken) ← reduction.observeProviderView envelope.branchId envelope.agentId item
  let reduction :=
    if taken then { reduction with previousProviderViewSeq := some envelope.seq } else reduction
  match item.cacheTransition with
  | none => pure reduction
  | some transition => pure (reduction.observeCacheTransition envelope.seq transition)

/-- The two workspace arms of `observe_envelope`. -/
def observeWorkspace : TurnSetupReduction :=
  match envelope.payload.decodeWorkspace with
  | some (.workspaceUnavailable ..) =>
    if envelope.runId = some reduction.selector.runId then
      { reduction with sameRunWorkspaceUnavailable := true }
    else reduction
  | some (.workspaceSelected ..) =>
    -- re-rooting changes the identity behind every path
    let reduction := { reduction with instructionFacts := ∅ }.refreshInstructionFacts
    { reduction with durableTools := reduction.durableTools.resetAtWorkspaceSelection }
  | none => reduction

/-- What `observe_envelope` does with a decoded event. -/
def observeEvent (envelope : SetupEnvelope) (payload : SetupEvent) :
    Except HaiderError TurnSetupReduction :=
  let reduction :=
    { reduction with
      durableTools := reduction.durableTools.observe registered envelope.agentId payload }
  match payload with
  | .usage usage =>
    .ok (reduction.observeUsage envelope usage)
  | .nodeCommitted true =>
    .ok { reduction with latestDeliberateBoundary := some (envelope.seq, .plannedCompaction) }
  | .itemCompleted item => reduction.observeCompletedItem envelope item
  | _ => .ok reduction

/-- `observe_envelope`. -/
def observeEnvelope (envelope : SetupEnvelope) : Except HaiderError TurnSetupReduction :=
  let reduction := { reduction with latestSeq := max reduction.latestSeq envelope.seq }
  let kind := envelope.payload.type
  if kind = some "workspace_unavailable" ∨ kind = some "workspace_selected" then
    .ok (reduction.observeWorkspace envelope)
  else if kind = some "project_instructions_loaded" then
    match envelope.payload.decodeInstructions with
    | some fact =>
      .ok (reduction.observeInstructionFact envelope.seq envelope.runId envelope.branchId fact)
    | none => .ok reduction
  else if kind = some "session_forked" then
    .ok { reduction with
      forkCacheBoundarySeq := some envelope.seq
      inheritedCacheSegment := envelope.payload.decodeForked.bind inheritedForkCacheSegment
      durableTools := reduction.durableTools.resetAtSessionFork }
  else if kind.any decodedKinds.contains then
    match envelope.payload.decodeEvent with
    | none => .ok reduction
    | some payload => reduction.observeEvent registered envelope payload
  else .ok reduction

/-- The fold over a page. -/
def observeAll (envelopes : List SetupEnvelope) : Except HaiderError TurnSetupReduction :=
  envelopes.foldlM (observeEnvelope registered) reduction

/-! ### Retargeting -/

/-- The reduction as `retarget` leaves it for another run, with its notice and last seq. -/
def forRun (noticed : Bool) (latestSeq : Nat) : TurnSetupReduction :=
  { reduction.retarget { reduction.selector with runId := runId } with
    sameRunWorkspaceUnavailable := noticed
    latestSeq := latestSeq }

theorem retarget_eq_forRun (sameKey : selector.key = reduction.selector.key) :
    reduction.retarget selector =
      reduction.forRun selector.runId reduction.sameRunWorkspaceUnavailable
        reduction.latestSeq := by
  unfold forRun
  rw [← Selector.eq_of_key_eq sameKey]
  rfl

theorem forRun_new :
    (new selector).forRun runId false 0 = new { selector with runId := runId } := rfl

/-- Whether the envelope says the run's workspace is unavailable. -/
def announces : Bool :=
  match envelope.payload.decodeWorkspace with
  | some (.workspaceUnavailable ..) => envelope.runId = some runId
  | _ => false

section Lane

variable (reduction : TurnSetupReduction) (runId : RunId) (noticed : Bool) (latestSeq : Nat)

variable (registered : String → Bool) (envelope : SetupEnvelope)

theorem observeWorkspace_forRun :
    (reduction.forRun runId noticed latestSeq).observeWorkspace envelope =
      (reduction.observeWorkspace envelope).forRun runId
        (noticed || announces runId envelope) latestSeq := by
  unfold observeWorkspace announces
  cases decoded : envelope.payload.decodeWorkspace with
  | none => simp only [Bool.or_false]
  | some payload =>
    cases payload with
    | workspaceSelected path previousPath =>
      simp only [Bool.or_false]
      rfl
    | workspaceUnavailable path reason detail =>
      have sameRun : (reduction.forRun runId noticed latestSeq).selector.runId = runId := rfl
      by_cases mine : envelope.runId = some runId
      · simp only [sameRun, mine, if_true, decide_true, Bool.or_true]
        split <;> rfl
      · simp only [sameRun, mine, if_false, decide_false, Bool.or_false]
        split <;> rfl

-- the lane is part of the key, so every test of a usage falls the same way for both runs
theorem noteMainUsage_forRun (scope : UsageScope) :
    (reduction.forRun runId noticed latestSeq).noteMainUsage scope =
      (reduction.noteMainUsage scope).forRun runId noticed latestSeq := by
  unfold noteMainUsage
  split <;> rfl

theorem noteLaneUsage_forRun (seq : Nat) (branchId : Option BranchId) (scope : UsageScope)
    (request : Option (Option CacheRequestDiagnostic)) :
    (reduction.forRun runId noticed latestSeq).noteLaneUsage seq branchId scope request =
      (reduction.noteLaneUsage seq branchId scope request).forRun runId noticed latestSeq := by
  unfold noteLaneUsage
  change (if reduction.inLane branchId scope then _ else _) = _
  split <;> rfl

theorem noteDomainUsage_forRun (usageRun : Option RunId) (committedAtMs : Nat) (scope : UsageScope) :
    (reduction.forRun runId noticed latestSeq).noteDomainUsage usageRun committedAtMs scope =
      (reduction.noteDomainUsage usageRun committedAtMs scope).forRun runId noticed
        latestSeq := by
  unfold noteDomainUsage
  change (if scope.requestKind == .mainTurn && reduction.scopeMatchesLane scope then _ else _) = _
  split <;> rfl

theorem observeUsage_forRun (usage : Usage) :
    (reduction.forRun runId noticed latestSeq).observeUsage envelope usage =
      (reduction.observeUsage envelope usage).forRun runId noticed latestSeq := by
  unfold observeUsage
  cases usage.scope with
  | none => rfl
  | some scope => simp only [noteMainUsage_forRun, noteLaneUsage_forRun, noteDomainUsage_forRun]

theorem observeProviderView_forRun (branchId : Option BranchId) (agentId : Option AgentId)
    (item : SetupItem) :
    (reduction.forRun runId noticed latestSeq).observeProviderView branchId agentId item =
      (reduction.observeProviderView branchId agentId item).map fun result =>
        (result.1.forRun runId noticed latestSeq, result.2) := by
  unfold observeProviderView
  change (if branchId ≠ reduction.selector.branchId ∨ agentId ≠ reduction.selector.agentId
    then _ else _) = _
  split
  · rfl
  · cases item.tryProviderView with
    | error error => rfl
    | ok view =>
      cases view with
      | none => rfl
      | some view =>
        change (if view.provider = reduction.selector.provider ∧
          view.model = reduction.selector.model ∧
          view.accountScope = reduction.selector.accountScope then _ else _) = _
        dsimp only
        split <;> rfl

theorem observeCompletedItem_forRun (item : SetupItem) :
    (reduction.forRun runId noticed latestSeq).observeCompletedItem envelope item =
      (reduction.observeCompletedItem envelope item).map
        (·.forRun runId noticed latestSeq) := by
  unfold observeCompletedItem
  rw [observeProviderView_forRun]
  cases reduction.observeProviderView envelope.branchId envelope.agentId item with
  | error error => rfl
  | ok result =>
    obtain ⟨held, taken⟩ := result
    cases item.cacheTransition <;> cases taken <;> rfl

theorem observeEvent_forRun (payload : SetupEvent) :
    (reduction.forRun runId noticed latestSeq).observeEvent registered envelope payload =
      (reduction.observeEvent registered envelope payload).map
        (·.forRun runId noticed latestSeq) := by
  cases payload with
  | usage usage =>
    exact congrArg Except.ok (observeUsage_forRun { reduction with
      durableTools := reduction.durableTools.observe registered envelope.agentId (.usage usage) }
      runId noticed latestSeq envelope usage)
  | itemCompleted item =>
    exact observeCompletedItem_forRun { reduction with
      durableTools := reduction.durableTools.observe registered envelope.agentId
        (.itemCompleted item) } runId noticed latestSeq envelope item
  | nodeCommitted compaction => cases compaction <;> rfl
  | _ => rfl

theorem announces_of_type (elsewhere : ¬(envelope.payload.type = some "workspace_unavailable" ∨
      envelope.payload.type = some "workspace_selected")) : announces runId envelope = false := by
  unfold announces
  cases payload : envelope.payload with
  | workspace fact => cases fact <;> simp [payload, SetupPayload.type] at elsewhere
  | _ => rfl

theorem observeEnvelope_forRun :
    (reduction.forRun runId noticed latestSeq).observeEnvelope registered envelope =
      (reduction.observeEnvelope registered envelope).map
        (·.forRun runId (noticed || announces runId envelope) (max latestSeq envelope.seq)) := by
  let held := { reduction with latestSeq := max reduction.latestSeq envelope.seq }
  unfold observeEnvelope
  simp only
  split
  · exact congrArg Except.ok (observeWorkspace_forRun held runId noticed
      (max latestSeq envelope.seq) envelope)
  · rename_i elsewhere
    rw [announces_of_type runId envelope elsewhere, Bool.or_false]
    split
    · cases envelope.payload.decodeInstructions <;> rfl
    · split
      · rfl
      · split
        · cases envelope.payload.decodeEvent with
          | none => rfl
          | some payload =>
            exact observeEvent_forRun held runId noticed (max latestSeq envelope.seq) registered
              envelope payload
        · rfl

theorem type_ne_of_unlisted {envelope : SetupEnvelope} (unlisted : envelope.isListed = false)
    {kind : String} (listed : kind ∈ turnSetupReductionPayloadKinds) :
    envelope.payload.type ≠ some kind := by
  intro same
  unfold SetupEnvelope.isListed SetupPayload.storedKind at unlisted
  simp only [same, Option.getD_some] at unlisted
  split at unlisted
  · exact absurd unlisted (by decide)
  · rw [contains_eq_mem, decide_eq_false_iff_not] at unlisted
    exact unlisted listed

theorem announces_of_unlisted {envelope : SetupEnvelope} (unlisted : envelope.isListed = false) :
    announces runId envelope = false := by
  apply announces_of_type
  rintro (notice | selected)
  · exact type_ne_of_unlisted unlisted (by decide) notice
  · exact type_ne_of_unlisted unlisted (by decide) selected

theorem observeEnvelope_unlisted (unlisted : envelope.isListed = false) :
    reduction.observeEnvelope registered envelope =
      .ok { reduction with latestSeq := max reduction.latestSeq envelope.seq } := by
  have away : ∀ kind ∈ turnSetupReductionPayloadKinds, envelope.payload.type ≠ some kind :=
    fun _ listed => type_ne_of_unlisted unlisted listed
  have undecoded : envelope.payload.type.any decodedKinds.contains = false := by
    cases type : envelope.payload.type with
    | none => rfl
    | some kind =>
      rw [Option.any_some, contains_eq_mem, decide_eq_false_iff_not]
      intro decoded
      have subset : decodedKinds ⊆ turnSetupReductionPayloadKinds := by decide
      exact away kind (subset decoded) type
  unfold observeEnvelope
  simp only [away "workspace_unavailable" (by decide), away "workspace_selected" (by decide),
    away "project_instructions_loaded" (by decide), away "session_forked" (by decide), undecoded,
    or_self, if_false, Bool.false_eq_true]

end Lane

variable {registered reduction} {next : TurnSetupReduction} {envelope : SetupEnvelope}

theorem frame_of_observeCompletedItem {item : SetupItem}
    (returned : reduction.observeCompletedItem envelope item = .ok next) :
    next.selector = reduction.selector ∧ next.durableTools = reduction.durableTools := by
  obtain ⟨⟨held, taken⟩, viewed, rest⟩ := ExceptFold.bind_eq_ok.mp returned
  have kept : held.selector = reduction.selector ∧
      held.durableTools = reduction.durableTools := by
    unfold observeProviderView at viewed
    grind
  cases transition : item.cacheTransition <;> cases taken <;> simp only [transition] at rest <;>
    cases rest <;> exact kept

theorem frame_observeUsage (usage : Usage) :
    (reduction.observeUsage envelope usage).selector = reduction.selector ∧
      (reduction.observeUsage envelope usage).durableTools = reduction.durableTools := by
  unfold observeUsage noteDomainUsage noteLaneUsage noteMainUsage
  split
  · exact ⟨rfl, rfl⟩
  · split <;> split <;> split <;> exact ⟨rfl, rfl⟩

theorem selector_of_observeEvent {payload : SetupEvent}
    (returned : reduction.observeEvent registered envelope payload = .ok next) :
    next.selector = reduction.selector := by
  cases payload with
  | usage fact =>
    cases returned
    exact (frame_observeUsage fact).1
  | itemCompleted item =>
    have completed : observeCompletedItem { reduction with
        durableTools := reduction.durableTools.observe registered envelope.agentId
          (.itemCompleted item) } envelope item = .ok next := returned
    exact (frame_of_observeCompletedItem completed).1
  | nodeCommitted compaction => cases compaction <;> cases returned <;> rfl
  | _ =>
    cases returned
    rfl

theorem selector_of_observeEnvelope
    (returned : reduction.observeEnvelope registered envelope = .ok next) :
    next.selector = reduction.selector := by
  have workspace : ∀ held : TurnSetupReduction,
      (held.observeWorkspace envelope).selector = held.selector := by
    intro held
    unfold observeWorkspace
    split
    · split <;> rfl
    · rfl
    · rfl
  unfold observeEnvelope at returned
  simp only at returned
  split at returned
  · cases returned
    exact workspace _
  · split at returned
    · split at returned <;> cases returned <;> rfl
    · split at returned
      · cases returned
        rfl
      · split at returned
        · split at returned
          · cases returned
            rfl
          · have kept := selector_of_observeEvent returned
            exact kept
        · cases returned
          rfl

variable {envelopes : List SetupEnvelope}

theorem selector_of_observeAll {final : TurnSetupReduction}
    (folded : reduction.observeAll registered envelopes = .ok final) :
    final.selector = reduction.selector := by
  refine ExceptFold.foldlM_rel
    (fun before after : TurnSetupReduction => after.selector = before.selector) ?_ ?_ ?_ folded
  · intro held
    rfl
  · intro before between after first second
    exact second.trans first
  · intro envelope _ before after returned
    exact selector_of_observeEnvelope returned

/-- Whether some envelope does. -/
def noticed (envelopes : List SetupEnvelope) : Bool :=
  envelopes.any (announces runId)

/-- The newest position seen. -/
def lastSeq (latestSeq : Nat) (envelopes : List SetupEnvelope) : Nat :=
  envelopes.foldl (fun latest e => max latest e.seq) latestSeq

variable (registered reduction)

theorem observeAll_append (first rest : List SetupEnvelope) :
    reduction.observeAll registered (first ++ rest) =
      reduction.observeAll registered first >>= (·.observeAll registered rest) :=
  foldlM_append

/-- Folding every envelope instead of the listed ones moves the last sequence and nothing else. -/
theorem observeAll_listed (already : Bool) (latestSeq : Nat) (envelopes : List SetupEnvelope) :
    (reduction.forRun runId already latestSeq).observeAll registered envelopes =
      (reduction.observeAll registered (envelopes.filter SetupEnvelope.isListed)).map
        (·.forRun runId (already || noticed runId envelopes) (lastSeq latestSeq envelopes)) := by
  unfold observeAll
  induction envelopes generalizing reduction already latestSeq with
  | nil =>
    rw [noticed, any_nil, Bool.or_false]
    rfl
  | cons envelope rest ih =>
    rw [foldlM_cons]
    by_cases listed : envelope.isListed = true
    · rw [filter_cons_of_pos listed, foldlM_cons, observeEnvelope_forRun]
      cases reduction.observeEnvelope registered envelope with
      | error error => rfl
      | ok next =>
        have tail := ih next (already || announces runId envelope) (max latestSeq envelope.seq)
        rw [Bool.or_assoc] at tail
        exact tail
    · have unlisted := Bool.eq_false_iff.mpr listed
      have quiet := announces_of_unlisted runId unlisted
      have tail := ih reduction already (max latestSeq envelope.seq)
      rw [filter_cons_of_neg listed, observeEnvelope_unlisted _ _ _ unlisted]
      rw [noticed, any_cons, quiet, Bool.false_or]
      exact tail

theorem observeAll_new (envelopes : List SetupEnvelope) :
    (new { selector with runId := runId }).observeAll registered envelopes =
      ((new selector).observeAll registered envelopes).map
        (·.forRun runId (noticed runId envelopes) (lastSeq 0 envelopes)) := by
  have own := observeAll_listed registered (new selector) selector.runId false 0 envelopes
  rw [forRun_new] at own
  rw [← forRun_new, observeAll_listed, own, Bool.false_or]
  cases (new selector).observeAll registered (envelopes.filter SetupEnvelope.isListed) <;> rfl

variable {registered reduction selector}

/-- A fold from `new` is refreshed for its own run, with its notice and the last seq. -/
theorem forRun_of_observeAll
    (folded : (new selector).observeAll registered envelopes = .ok reduction) :
    reduction = reduction.forRun selector.runId (noticed selector.runId envelopes)
      (lastSeq 0 envelopes) := by
  have again := observeAll_new registered selector selector.runId envelopes
  have same : (new { selector with runId := selector.runId }) = new selector := rfl
  rw [same, folded] at again
  exact Except.ok.inj again

theorem noticed_filter_isListed (envelopes : List SetupEnvelope) :
    noticed runId (envelopes.filter SetupEnvelope.isListed) = noticed runId envelopes := by
  unfold noticed
  rw [any_filter]
  congr 1
  funext e
  by_cases listed : e.isListed = true
  · rw [listed, Bool.true_and]
  · have unlisted := Bool.eq_false_iff.mpr listed
    rw [unlisted, Bool.false_and, announces_of_unlisted runId unlisted]

/-- A reused fold is the run's own exactly when both runs agree on having a notice. -/
theorem observeAll_retarget_iff {other : Selector}
    (folded : (new selector).observeAll registered envelopes = .ok reduction)
    (sameKey : other.key = selector.key) :
    (new other).observeAll registered envelopes = .ok (reduction.retarget other) ↔
      noticed selector.runId envelopes = noticed other.runId envelopes := by
  have kept : reduction.selector = selector := selector_of_observeAll folded
  have whole := observeAll_new registered selector other.runId envelopes
  rw [← Selector.eq_of_key_eq sameKey, folded] at whole
  have fixed := forRun_of_observeAll folded
  have notice : reduction.sameRunWorkspaceUnavailable = noticed selector.runId envelopes :=
    congrArg sameRunWorkspaceUnavailable fixed
  have last : reduction.latestSeq = lastSeq 0 envelopes := congrArg latestSeq fixed
  rw [whole, retarget_eq_forRun reduction other (by rw [kept]; exact sameKey), notice, last]
  constructor
  · intro equal
    have flags := congrArg sameRunWorkspaceUnavailable (Except.ok.inj equal)
    exact flags.symm
  · intro agree
    rw [agree]
    rfl

end TurnSetupReduction

end HaiderAgent.TurnSetup
