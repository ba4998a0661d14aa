import HaiderAgent.Lib.KeyedFold
import HaiderAgent.Daemon.TurnRecovery.Reduce
import HaiderAgent.Store.Journal

/-!
# The coordinates of a run

The fields of a `RunReduction` that decide what startup recovery does with the
run: its branch, its latest state, what accepted it and the cancellation mirrors
it still owes. They evolve on their own: no other field of the reduction is ever
read to change them, and they are never read to change another field.
-/

namespace HaiderAgent.TurnRecovery

/-- The coordinate fields of `RunReduction`. -/
structure RunCoordinates where
  branchId : Option BranchId := none
  branchObserved : Bool := false
  branchMismatch : Bool := false
  state : Option (RunState × Nat) := none
  stateGeneration : Nat := 0
  userSeq : Option Nat := none
  retrySource : Option RetrySource := none
  delegationMirrorHandoffs : HashMap String DelegationMirrorHandoff := ∅
  deriving DecidableEq, Inhabited

/-- The fields of a reduction that say where its run stands. -/
def RunReduction.coordinates (r : RunReduction) : RunCoordinates where
  branchId := r.branchId
  branchObserved := r.branchObserved
  branchMismatch := r.branchMismatch
  state := r.state
  stateGeneration := r.stateGeneration
  userSeq := r.userSeq
  retrySource := r.retrySource
  delegationMirrorHandoffs := r.delegationMirrorHandoffs

/-- A reduction with these fields replaced. -/
def RunReduction.withCoordinates (r : RunReduction) (c : RunCoordinates) : RunReduction :=
  { r with
    branchId := c.branchId
    branchObserved := c.branchObserved
    branchMismatch := c.branchMismatch
    state := c.state
    stateGeneration := c.stateGeneration
    userSeq := c.userSeq
    retrySource := c.retrySource
    delegationMirrorHandoffs := c.delegationMirrorHandoffs }

namespace RunCoordinates

/-- The branch coordinate: fixed by the first envelope, flagged by a later disagreement. -/
def observe (c : RunCoordinates) (envelope : RawEnvelope) : RunCoordinates :=
  if c.branchObserved && c.branchId != envelope.branchId then
    { c with branchMismatch := true }
  else if !c.branchObserved then
    { c with branchId := envelope.branchId, branchObserved := true }
  else c

/-- A delegation-mirror fact opens or settles one handoff. -/
def settleHandoff (c : RunCoordinates) (handoff : DelegationMirrorHandoff) : RunCoordinates :=
  { c with
    delegationMirrorHandoffs :=
      match handoff.phase with
      | .pending => c.delegationMirrorHandoffs.insert handoff.handoffId handoff
      | .completed => c.delegationMirrorHandoffs.erase handoff.handoffId }

/-- What one relevant envelope does to the coordinates of its run. -/
def step (c : RunCoordinates) (envelope : RawEnvelope) : RunCoordinates :=
  let c := c.observe envelope
  match envelope.payload with
  | .retry retried =>
    { c with
      retrySource := some
        { failedRunId := retried.failedRunId, promptRunId := retried.promptRunId,
          userSeq := retried.userSeq, acceptedSeq := envelope.seq } }
  | .event (.runState state) =>
    { c with state := some (state, envelope.seq), stateGeneration := envelope.workerGeneration }
  | .event (.userMessage ..) | .event (.peerMessage _) => { c with userSeq := some envelope.seq }
  | .event (.item (.completed _ item)) =>
    match delegationMirrorHandoffOf item with
    | some handoff => c.settleHandoff handoff
    | none => c
  | _ => c

end RunCoordinates

section Commute

variable (r : RunReduction) (c : RunCoordinates) (e : RawEnvelope)

theorem observeBranch_withCoordinates :
    observeBranch (r.withCoordinates c) e =
      (observeBranch r e).withCoordinates (c.observe e) := by
  unfold observeBranch RunCoordinates.observe RunReduction.withCoordinates
  split <;> split <;> (try split) <;> (try split) <;> simp_all

theorem noteProviderResponse_withCoordinates (seen : Bool) :
    noteProviderResponse (r.withCoordinates c) e seen =
      (noteProviderResponse r e seen).withCoordinates c := by
  cases seen <;> rfl

variable (itemId : ItemId) (item : TurnItem)

theorem reduceItemStarted_withCoordinates :
    reduceItemStarted (r.withCoordinates c) e itemId item =
      (reduceItemStarted r e itemId item).withCoordinates c := by
  unfold reduceItemStarted
  rw [noteProviderResponse_withCoordinates]
  cases item <;> rfl

theorem reduceItemDelta_withCoordinates (delta : ItemDelta) :
    reduceItemDelta (r.withCoordinates c) e itemId delta =
      (reduceItemDelta r e itemId delta).withCoordinates c := by
  unfold reduceItemDelta
  simp only [noteProviderResponse_withCoordinates]
  have opened : (r.withCoordinates c).openItems = r.openItems := rfl
  rw [opened]
  cases r.openItems.lookup itemId <;> cases delta <;> rfl

theorem reduceProviderRequestAttempt_withCoordinates (ordinal : Nat)
    (correlation : Option ProviderRequestAttempt) (modelBoundary : Bool) :
    reduceProviderRequestAttempt (r.withCoordinates c) e ordinal correlation modelBoundary =
      (reduceProviderRequestAttempt r e ordinal correlation modelBoundary).withCoordinates c := by
  have turn : (r.withCoordinates c).providerRequestTurnOrdinal = r.providerRequestTurnOrdinal := rfl
  have recovered : recoveredProviderRequestOrdinal (r.withCoordinates c) =
      recoveredProviderRequestOrdinal r := rfl
  unfold reduceProviderRequestAttempt
  rw [turn, recovered]
  split <;> rfl

theorem reduceRequestAttempts_withCoordinates :
    reduceRequestAttempts (r.withCoordinates c) e item =
      (reduceRequestAttempts r e item).withCoordinates c := by
  unfold reduceRequestAttempts
  rcases providerRequestAttemptOf item with _ | _ | attempt <;>
    rcases cacheRequestAttemptOf item with _ | _ | cache <;>
    simp only [reduceProviderRequestAttempt_withCoordinates] <;> try rfl
  exact reduceProviderRequestAttempt_withCoordinates
    { r with providerRequestAttemptCorrupt := true } c e cache.ordinal cache.correlation true

theorem reduceRouteReplay_withCoordinates :
    reduceRouteReplay (r.withCoordinates c) item =
      (reduceRouteReplay r item).withCoordinates c := by
  have epoch : (r.withCoordinates c).routeReplayEpoch = r.routeReplayEpoch := rfl
  unfold reduceRouteReplay
  rw [epoch]
  split
  · split
    · split
      · split <;> rfl
      · rfl
    · split
      · split <;> rfl
      · rfl
  · rfl

theorem reduceItemCompleted_withCoordinates :
    reduceItemCompleted (r.withCoordinates c) e itemId item =
      (reduceItemCompleted r e itemId item).withCoordinates
        (match delegationMirrorHandoffOf item with
          | some handoff => c.settleHandoff handoff
          | none => c) := by
  unfold reduceItemCompleted
  simp only [noteProviderResponse_withCoordinates, reduceRequestAttempts_withCoordinates]
  cases delegationMirrorHandoffOf item with
  | some handoff => rfl
  | none =>
    simp only [reduceRouteReplay_withCoordinates]
    generalize reduceRouteReplay _ item = s
    have opened : (s.withCoordinates c).openItems = s.openItems := rfl
    rw [opened]
    generalize ((s.openItems.lookup itemId).map (canonicalizeCompletedReply item)).getD item = i
    cases i <;> rfl

theorem reduceHeadless_withCoordinates (payload : HeadlessRunEventPayload) :
    reduceHeadless (r.withCoordinates c) e payload =
      (reduceHeadless r e payload).withCoordinates c := by
  have configured : (r.withCoordinates c).headlessConfigured = r.headlessConfigured := rfl
  unfold reduceHeadless
  rw [configured]
  cases payload <;> simp only <;> (try split) <;> rfl

theorem reduceEntry_withCoordinates :
    reduceEntry (r.withCoordinates c) e = (reduceEntry r e).withCoordinates (c.step e) := by
  unfold reduceEntry RunCoordinates.step
  rw [observeBranch_withCoordinates]
  generalize observeBranch r e = s
  generalize c.observe e = d
  cases e.payload with
  | json | retry => rfl
  | headless payload => exact reduceHeadless_withCoordinates s d e payload
  | event payload =>
    cases payload with
    | item change =>
      cases change with
      | started itemId item => exact reduceItemStarted_withCoordinates s d e itemId item
      | delta itemId delta => exact reduceItemDelta_withCoordinates s d e itemId delta
      | completed itemId item => exact reduceItemCompleted_withCoordinates s d e itemId item
    | menuClosed menu reason =>
      have opened : (s.withCoordinates d).menu = s.menu := rfl
      simp only [reduceEvent, opened]
      split <;> rfl
    | _ => rfl

end Commute

/-- The coordinates as a part of the reduction that steps on its own. -/
def coordinatesPart : KeyedFold.Part RunReduction RunCoordinates RawEnvelope reduceEntry where
  get := RunReduction.coordinates
  set := RunReduction.withCoordinates
  move := RunCoordinates.step
  get_set _ _ := rfl
  set_get _ := rfl
  set_set _ _ _ := rfl
  step_set := reduceEntry_withCoordinates

theorem foldl_coordinates (es : List RawEnvelope) (r : RunReduction) :
    (es.foldl reduceEntry r).coordinates = es.foldl RunCoordinates.step r.coordinates :=
  coordinatesPart.get_foldl es r

theorem coordinates_foldl (es : List RawEnvelope) :
    (es.foldl reduceEntry {}).coordinates = es.foldl RunCoordinates.step {} :=
  foldl_coordinates es {}

/-- The mirror handoff a payload reports. -/
def reportedHandoff : RawPayload → Option DelegationMirrorHandoff
  | .event (.item (.completed _ item)) => delegationMirrorHandoffOf item
  | _ => none

namespace RunCoordinates

/-- Whether a payload accepts its run: a user message or a peer message. -/
def accepts : RawPayload → Bool
  | .event (.userMessage ..) | .event (.peerMessage _) => true
  | _ => false

variable (c : RunCoordinates) (e : RawEnvelope)

@[simp] theorem observe_frame :
    (c.observe e).state = c.state ∧ (c.observe e).stateGeneration = c.stateGeneration ∧
      (c.observe e).userSeq = c.userSeq ∧ (c.observe e).retrySource = c.retrySource ∧
      (c.observe e).delegationMirrorHandoffs = c.delegationMirrorHandoffs := by
  unfold observe
  split <;> (try split) <;> simp

theorem step_retrySource_isSome (held : c.retrySource.isSome) : (c.step e).retrySource.isSome := by
  unfold step
  split <;> (try split) <;> simp_all [settleHandoff]

theorem foldl_retrySource_isSome (es : List RawEnvelope) (held : c.retrySource.isSome) :
    (es.foldl step c).retrySource.isSome := by
  induction es generalizing c with
  | nil => exact held
  | cons e es ih => exact ih _ (c.step_retrySource_isSome e held)

theorem step_state :
    (c.step e).state =
      match e.payload.runState with
      | some state => some (state, e.seq)
      | none => c.state := by
  unfold step RawPayload.runState
  split <;> (try split) <;> simp_all [settleHandoff]

theorem step_delegationMirrorHandoffs :
    (c.step e).delegationMirrorHandoffs =
      match reportedHandoff e.payload with
      | some handoff => (c.settleHandoff handoff).delegationMirrorHandoffs
      | none => c.delegationMirrorHandoffs := by
  unfold step reportedHandoff
  split <;> (try split) <;> simp_all [settleHandoff]

end RunCoordinates

end HaiderAgent.TurnRecovery
