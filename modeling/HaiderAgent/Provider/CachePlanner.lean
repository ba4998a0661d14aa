import Mathlib.Data.List.Sort
import Mathlib.Data.List.Destutter

/-!
# Inline cache breakpoints

`plan_inline_breakpoints` (`haider-provider/src/cachemaxxing/planner.rs`). The row of
`cache_placement_capabilities` for the provider and the model is a parameter; of a message only the
role and the blocks that the planner tells apart are kept.
-/

namespace HaiderAgent.CachePlanner

open List

/-- `MessageRole` (lib.rs). -/
inductive MessageRole where
  | user | assistant | tool
  deriving DecidableEq

/-- `Block` (provider.rs), with the call ids the planner compares. -/
inductive Block where
  | text
  | reasoning
  | toolCall (callId : String)
  | toolResult (callId : String)
  | attachment
  | providerOpaque
  deriving DecidableEq

/-- `Message` (lib.rs). -/
structure Message where
  role : MessageRole
  blocks : List Block

/-- `CacheMarkerMode` (planner.rs). -/
inductive CacheMarkerMode where
  | automatic | anthropicExplicit | openAiExplicit | explicitResource | unsupported
  deriving DecidableEq

/-- What a provider's row allows (planner.rs). -/
structure CachePlacementCapabilities where
  markerMode : CacheMarkerMode
  markerBudget : Nat
  minimumTokensPerBreakpoint : Option Nat

/-- What is asked for besides the messages. -/
structure BreakpointRequest where
  capabilities : CachePlacementCapabilities
  stableHistoryEnd : Nat
  previousHistoryEnd : Option Nat
  latestCompactionSummaryEnd : Option Nat
  hasSystem : Bool
  hasTools : Bool
  stablePrefixTokens : Nat

/-- Where the markers go (planner.rs). -/
structure InlineBreakpointPlan where
  markSystem : Bool
  markFinalTool : Bool
  historyEnds : List Nat

variable (messages : List Message)

/-- `annotatable`: the message before the boundary can carry a marker. -/
def annotatable (boundary : Nat) : Bool :=
  (messages[boundary - 1]?.bind (·.blocks.getLast?)).any (· ≠ .providerOpaque)

/-- `splits_tool_pair`: the boundary parts a call from its result. -/
def splitsToolPair (boundary : Nat) : Bool :=
  match messages[boundary - 1]?, messages[boundary]? with
  | some before, some after =>
    before.role = .assistant && after.role = .tool && before.blocks.any fun block =>
      match block with
      | .toolCall callId => after.blocks.contains (.toolResult callId)
      | _ => false
  | _, _ => false

/-- Where a marker may stand. -/
def atomic (candidate : Nat) : Bool :=
  !splitsToolPair messages candidate && annotatable messages candidate

/-- The candidates from the boundary down to one. -/
def atomicBoundaryAtOrBefore (boundary : Nat) : Option Nat :=
  (range' 1 (min boundary messages.length)).reverse.find? (atomic messages)

/-- The candidates from the boundary up to the ceiling. -/
def atomicBoundaryAtOrAfter (boundary ceiling : Nat) : Option Nat :=
  let first := max boundary 1
  (range' first (min ceiling messages.length + 1 - first)).find? (atomic messages)

/-- `plan_inline_breakpoints`. -/
def planInlineBreakpoints (request : BreakpointRequest) : InlineBreakpointPlan :=
  let capabilities := request.capabilities
  let stableHistoryEnd := min request.stableHistoryEnd messages.length
  if !(capabilities.markerMode = .anthropicExplicit || capabilities.markerMode = .openAiExplicit) ||
      capabilities.minimumTokensPerBreakpoint.any (request.stablePrefixTokens < ·) then
    ⟨false, false, []⟩
  else
    let anthropic : Bool := capabilities.markerMode = .anthropicExplicit
    let budget := capabilities.markerBudget
    let markSystem := anthropic && request.hasSystem && 0 < budget
    let budget := budget - markSystem.toNat
    let markFinalTool := anthropic && request.hasTools && 0 < budget
    let budget := budget - markFinalTool.toNat
    let newest := atomicBoundaryAtOrBefore messages stableHistoryEnd
    let preferredOldest := request.previousHistoryEnd.filter (· ≤ stableHistoryEnd) <|>
      request.latestCompactionSummaryEnd.filter (· ≤ stableHistoryEnd) <|>
      if 0 < stableHistoryEnd then some 1 else none
    let oldest := preferredOldest.bind (atomicBoundaryAtOrAfter messages · stableHistoryEnd)
    let older := if 1 < budget ∧ oldest ≠ newest then oldest.toList else []
    let newer := if 0 < budget then newest.toList else []
    ⟨markSystem, markFinalTool,
      (((older ++ newer).insertionSort (· ≤ ·)).destutter (· ≠ ·)).take budget⟩

/-! ## Where markers stand -/

section Boundaries

variable {messages} {boundary ceiling found : Nat}

theorem atomic_of_before (search : atomicBoundaryAtOrBefore messages boundary = some found) :
    atomic messages found ∧ 1 ≤ found ∧ found ≤ min boundary messages.length := by
  obtain ⟨holds, mem⟩ := And.intro (find?_some search) (mem_of_find?_eq_some search)
  rw [mem_reverse, mem_range'_1] at mem
  exact ⟨holds, mem.1, by omega⟩

theorem atomic_of_after (search : atomicBoundaryAtOrAfter messages boundary ceiling = some found) :
    atomic messages found ∧ 1 ≤ found ∧ found ≤ min ceiling messages.length := by
  obtain ⟨holds, mem⟩ := And.intro (find?_some search) (mem_of_find?_eq_some search)
  rw [mem_range'_1] at mem
  exact ⟨holds, by omega, by omega⟩

theorem before_of_atomic (holds : atomic messages boundary) (positive : 1 ≤ boundary)
    (within : boundary ≤ messages.length) :
    atomicBoundaryAtOrBefore messages boundary = some boundary := by
  obtain ⟨rest, rfl⟩ : ∃ rest, boundary = rest + 1 := ⟨boundary - 1, by omega⟩
  rw [atomicBoundaryAtOrBefore, Nat.min_eq_left within, range'_1_concat, reverse_concat,
    Nat.add_comm 1 rest]
  exact find?_cons_of_pos holds

end Boundaries

theorem nodup_ends (oldest newest : Option Nat) (one two : Prop) [Decidable one] [Decidable two] :
    ((if one ∧ oldest ≠ newest then oldest.toList else []) ++
      if two then newest.toList else []).Nodup := by
  cases oldest <;> cases newest <;> split_ifs <;> simp_all

/-- A marker set only where one is left takes one that is left. -/
theorem toNat_le (wanted : Bool) (left : Nat) : (wanted && 0 < left).toNat ≤ left := by
  cases wanted <;> cases left <;> simp

/-- The budget holds, and the history ends rise among the atomic boundaries of stable history. -/
structure InlineBreakpointPlan.Sound (request : BreakpointRequest) (plan : InlineBreakpointPlan) :
    Prop where
  budget : plan.markSystem.toNat + plan.markFinalTool.toNat + plan.historyEnds.length ≤
    request.capabilities.markerBudget
  rising : plan.historyEnds.Pairwise (· < ·)
  stable : ∀ boundary ∈ plan.historyEnds, 1 ≤ boundary ∧ boundary ≤ request.stableHistoryEnd
  atomic : ∀ boundary ∈ plan.historyEnds, atomic messages boundary

/-- The plan keeps its budget, its order and its range. -/
theorem planInlineBreakpoints_sound (request : BreakpointRequest) :
    (planInlineBreakpoints messages request).Sound messages request := by
  unfold planInlineBreakpoints
  extract_lets capabilities stable anthropic budget markSystem left markFinalTool remaining newest
    preferred oldest older newer
  split
  · exact ⟨Nat.zero_le _, .nil, nofun, nofun⟩
  have sub : (((older ++ newer).insertionSort (· ≤ ·)).destutter (· ≠ ·)).take remaining <+
      (older ++ newer).insertionSort (· ≤ ·) :=
    (take_sublist _ _).trans (destutter_sublist _ _)
  have each : ∀ boundary ∈ older ++ newer,
      (1 ≤ boundary ∧ boundary ≤ request.stableHistoryEnd) ∧
        CachePlanner.atomic messages boundary := by
    intro boundary mem
    obtain older | newer := mem_append.mp mem
    · obtain ⟨_, found⟩ := mem_ite_nil_right.mp older
      obtain ⟨_, _, search⟩ := Option.bind_eq_some_iff.mp (Option.mem_toList.mp found)
      obtain ⟨holds, positive, within⟩ := atomic_of_after search
      exact ⟨⟨positive, by omega⟩, holds⟩
    · obtain ⟨_, found⟩ := mem_ite_nil_right.mp newer
      obtain ⟨holds, positive, within⟩ := atomic_of_before (Option.mem_toList.mp found)
      exact ⟨⟨positive, by omega⟩, holds⟩
  generalize ((older ++ newer).insertionSort (· ≤ ·)).destutter (· ≠ ·) = kept at sub ⊢
  have ends := fun boundary mem => each boundary ((mem_insertionSort _).mp (sub.mem mem))
  refine ⟨?_, ?_, fun boundary mem => (ends boundary mem).1, fun boundary mem => (ends boundary mem).2⟩
  · have first : markSystem.toNat ≤ budget := toNat_le _ _
    have second : markFinalTool.toNat ≤ left := toNat_le _ _
    have short := length_take_le remaining kept
    change markSystem.toNat + markFinalTool.toNat + (kept.take remaining).length ≤ budget
    omega
  · have distinct := (perm_insertionSort (· ≤ ·) (older ++ newer)).nodup_iff.mpr (nodup_ends _ _ _ _)
    refine Pairwise.sublist sub ?_
    exact ((pairwise_insertionSort (· ≤ ·) _).and distinct).imp fun both =>
      Nat.lt_of_le_of_ne both.1 both.2

/-! ## Calls and their results -/

/-- A call stands before the boundary and its result behind it. -/
def Separates (boundary : Nat) : Prop :=
  ∃ callId, (∃ message ∈ messages.take boundary, .toolCall callId ∈ message.blocks) ∧
    ∃ message ∈ messages.drop boundary, .toolResult callId ∈ message.blocks

/-- Every plan keeps to its budget, and its history ends rise within stable history. All plans for
the messages keep calls and results together exactly when every boundary between a call and its
result that a marker could close lies right between two such messages. -/
theorem plans_sound_and_atomic_iff :
    (∀ request, (planInlineBreakpoints messages request).Sound messages request) ∧
    ((∀ request, ∀ boundary ∈ (planInlineBreakpoints messages request).historyEnds,
        ¬Separates messages boundary) ↔
      ∀ boundary, annotatable messages boundary → Separates messages boundary →
        splitsToolPair messages boundary) := by
  refine ⟨planInlineBreakpoints_sound messages, ?_, ?_⟩
  · intro safe boundary closes separates
    by_contra apart
    have holds : atomic messages boundary := by simpa [atomic, closes] using apart
    obtain ⟨_, ⟨_, before, _⟩, _, behind, _⟩ := id separates
    have positive : 1 ≤ boundary := by
      by_contra none
      simp [Nat.lt_one_iff.mp (Nat.not_le.mp none)] at before
    have within : boundary ≤ messages.length := by
      by_contra beyond
      simp [drop_of_length_le (Nat.le_of_not_le beyond)] at behind
    -- the Anthropic row, asked again for the history that ends there
    refine safe ⟨⟨.anthropicExplicit, 4, some 1024⟩, boundary, some boundary, none, true, true,
      8192⟩ boundary ?_ separates
    have again : atomicBoundaryAtOrAfter messages boundary boundary = some boundary := by
      simp [atomicBoundaryAtOrAfter, Nat.max_eq_left positive, Nat.min_eq_left within, holds]
    simp [planInlineBreakpoints, Nat.min_eq_left within, Option.filter, again,
      before_of_atomic holds positive within]
  · intro adjacent request boundary mem separates
    have holds := (planInlineBreakpoints_sound messages request).atomic boundary mem
    rw [atomic, Bool.and_eq_true] at holds
    simp [adjacent boundary holds.2 separates] at holds

/-- Two calls of one message, answered by two messages. -/
theorem plan_separates_parallel_calls :
    let messages : List Message :=
      [⟨.assistant, [.toolCall "a", .toolCall "b"]⟩, ⟨.tool, [.toolResult "a"]⟩,
        ⟨.tool, [.toolResult "b"]⟩, ⟨.user, [.text]⟩]
    (planInlineBreakpoints messages
      ⟨⟨.anthropicExplicit, 4, some 1024⟩, 2, none, none, true, true, 8192⟩).historyEnds = [2] ∧
        Separates messages 2 := by
  exact ⟨by decide, "b", ⟨_, mem_cons_self, by decide⟩, _, mem_cons_self, by decide⟩

end HaiderAgent.CachePlanner
