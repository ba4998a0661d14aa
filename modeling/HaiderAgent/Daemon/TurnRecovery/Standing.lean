import HaiderAgent.Daemon.TurnRecovery.Paging

/-!
# The standing of a run

What startup recovery looks at before it leaves a run alone: its branch coordinate, its latest
state, the cancellation mirrors it owes and the request-attempt markers. Of an envelope these
read the branch, the session, the run and the payload, so two journals whose envelopes agree in
those leave every run in the same standing.
-/

namespace HaiderAgent.TurnRecovery

open RunReduction

/-- What the checks of `reduce_provider_request_attempt` read and write. -/
@[ext] structure RequestTrail where
  latestOrdinal : Option Nat := none
  ordinalMax : Nat := 0
  turnOrdinal : Option Nat := none
  corrupt : Bool := false
  deriving DecidableEq

/-- The fields of `RunReduction` that startup looks at before it leaves a run alone. -/
structure RunStanding where
  branchId : Option BranchId := none
  branchObserved : Bool := false
  branchMismatch : Bool := false
  state : Option RunState := none
  handoffs : HashMap String DelegationMirrorHandoff := ∅
  requests : RequestTrail := {}
  deriving DecidableEq

/-- The request fields of a reduction, without sequence numbers. -/
def RunReduction.requestTrail (r : RunReduction) : RequestTrail where
  latestOrdinal := r.latestProviderRequestAttempt.map (·.2)
  ordinalMax := r.providerRequestOrdinalMax
  turnOrdinal := r.providerRequestTurnOrdinal
  corrupt := r.providerRequestAttemptCorrupt

/-- The part of a reduction no renumbering changes. -/
def RunReduction.standing (r : RunReduction) : RunStanding where
  branchId := r.branchId
  branchObserved := r.branchObserved
  branchMismatch := r.branchMismatch
  state := r.state.map (·.1)
  handoffs := r.delegationMirrorHandoffs
  requests := r.requestTrail

/-- Two envelopes that say the same about the standing of their run. -/
structure SameRow (a b : RawEnvelope) : Prop where
  branchId : a.branchId = b.branchId
  sessionId : a.sessionId = b.sessionId
  runId : a.runId = b.runId
  payload : a.payload = b.payload

variable {a b : RawEnvelope}

theorem SameRow.reduceKey (row : SameRow a b) : reduceKey a = reduceKey b := by
  unfold TurnRecovery.reduceKey
  rw [row.payload, row.runId]

theorem SameRow.payloadKind (row : SameRow a b) :
    payloadKind a = payloadKind b := by
  unfold HaiderAgent.payloadKind
  rw [row.payload]

/-! ## What moves the standing -/

namespace RequestTrail

variable (trail : RequestTrail) (e : RawEnvelope)

/-- `reduce_provider_request_attempt` on these fields. -/
def attempt (ordinal : Nat) (correlation : Option ProviderRequestAttempt) (modelBoundary : Bool) :
    RequestTrail :=
  if requestAttemptInvalid e trail.turnOrdinal (max trail.ordinalMax (trail.latestOrdinal.getD 0))
      ordinal correlation then { trail with corrupt := true }
  else
    { trail with
      ordinalMax := max trail.ordinalMax ordinal
      latestOrdinal :=
        if modelBoundary && trail.latestOrdinal.all (· < ordinal) then some ordinal
        else trail.latestOrdinal
      turnOrdinal :=
        match correlation with
        | some c => some c.turnOrdinal
        | none => trail.turnOrdinal }

/-- A completed item, which may record one attempt or two. -/
def completed (item : TurnItem) : RequestTrail :=
  let trail :=
    match providerRequestAttemptOf item with
    | some (some attempt) => trail.attempt e attempt.requestOrdinal (some attempt) false
    | some none => trail
    | none => { trail with corrupt := true }
  match cacheRequestAttemptOf item with
  | some (some attempt) => trail.attempt e attempt.ordinal attempt.correlation true
  | some none => trail
  | none => { trail with corrupt := true }

end RequestTrail

namespace RunStanding

variable (standing : RunStanding) (e : RawEnvelope)

/-- The branch check every envelope passes through. -/
def observe : RunStanding :=
  if standing.branchObserved && standing.branchId != e.branchId then
    { standing with branchMismatch := true }
  else if !standing.branchObserved then
    { standing with branchId := e.branchId, branchObserved := true }
  else standing

/-- A completed item: its attempts, and its mirror handoff. -/
def completed (item : TurnItem) : RunStanding :=
  { standing with
    requests := standing.requests.completed e item
    handoffs :=
      match delegationMirrorHandoffOf item with
      | some handoff =>
        match handoff.phase with
        | .pending => standing.handoffs.insert handoff.handoffId handoff
        | .completed => standing.handoffs.erase handoff.handoffId
      | none => standing.handoffs }

/-- What one envelope does to the standing. -/
def step : RunStanding :=
  let standing := standing.observe e
  match e.payload with
  | .event (.runState state) => { standing with state := some state }
  | .event (.item (.completed _ item)) => standing.completed e item
  | _ => standing

/-- The `retain` test after a page. -/
def kept : Bool :=
  standing.branchMismatch || !standing.handoffs.entries.isEmpty ||
    !standing.state.any fun state => state.isTerminal

end RunStanding

section Requests

variable (r : RunReduction) (e : RawEnvelope)

theorem noteProviderResponse_requestTrail (seen : Bool) :
    (noteProviderResponse r e seen).requestTrail = r.requestTrail := by
  cases seen <;> rfl

theorem reduceItemDelta_requestTrail (itemId : ItemId) (delta : ItemDelta) :
    (reduceItemDelta r e itemId delta).requestTrail = r.requestTrail := by
  unfold reduceItemDelta
  cases r.openItems.lookup itemId <;> cases delta <;>
    exact noteProviderResponse_requestTrail r e _

theorem reduceRouteReplay_requestTrail (item : TurnItem) :
    (reduceRouteReplay r item).requestTrail = r.requestTrail := by
  unfold reduceRouteReplay
  split <;> (try split) <;> (try split) <;> (try split) <;> rfl

theorem reduceProviderRequestAttempt_requestTrail (ordinal : Nat)
    (correlation : Option ProviderRequestAttempt) (modelBoundary : Bool) :
    (reduceProviderRequestAttempt r e ordinal correlation modelBoundary).requestTrail =
      r.requestTrail.attempt e ordinal correlation modelBoundary := by
  have earlier : r.latestProviderRequestAttempt.all (·.2 < ordinal) =
      r.requestTrail.latestOrdinal.all (· < ordinal) := by
    simp only [requestTrail, Option.all_map]
  have recovered : max r.requestTrail.ordinalMax (r.requestTrail.latestOrdinal.getD 0) =
      recoveredProviderRequestOrdinal r := rfl
  unfold reduceProviderRequestAttempt RequestTrail.attempt
  rw [recovered, show r.requestTrail.turnOrdinal = r.providerRequestTurnOrdinal from rfl]
  split
  · rfl
  · refine RequestTrail.ext ?_ rfl ?_ rfl
    · change Option.map _ (if modelBoundary && r.latestProviderRequestAttempt.all _ then _ else _) = _
      rw [earlier, apply_ite (Option.map _)]
      rfl
    · cases correlation <;> rfl

theorem reduceRequestAttempts_requestTrail (item : TurnItem) :
    (reduceRequestAttempts r e item).requestTrail = r.requestTrail.completed e item := by
  unfold reduceRequestAttempts RequestTrail.completed
  rcases providerRequestAttemptOf item with _ | _ | attempt <;>
    rcases cacheRequestAttemptOf item with _ | _ | cache <;>
    simp only [reduceProviderRequestAttempt_requestTrail] <;> try rfl
  rw [← reduceProviderRequestAttempt_requestTrail]
  rfl

theorem reduceItemCompleted_requestTrail (itemId : ItemId) (item : TurnItem) :
    (reduceItemCompleted r e itemId item).requestTrail = r.requestTrail.completed e item := by
  have noted : (reduceRequestAttempts (noteProviderResponse r e (providerResponseItem item)) e
      item).requestTrail = r.requestTrail.completed e item := by
    rw [reduceRequestAttempts_requestTrail, noteProviderResponse_requestTrail]
  unfold reduceItemCompleted
  dsimp only
  generalize reduceRequestAttempts _ e item = s at noted ⊢
  cases delegationMirrorHandoffOf item with
  | some handoff => exact noted
  | none =>
    rw [← reduceRouteReplay_requestTrail s item] at noted
    generalize reduceRouteReplay s item = t at noted ⊢
    generalize ((t.openItems.lookup itemId).map (canonicalizeCompletedReply item)).getD item = i
    cases i <;> exact noted

/-- Only a completed item moves the request trail. -/
theorem reduceEntry_requestTrail :
    (reduceEntry r e).requestTrail =
      match e.payload with
      | .event (.item (.completed _ item)) => r.requestTrail.completed e item
      | _ => r.requestTrail := by
  have observed : (observeBranch r e).requestTrail = r.requestTrail := by
    unfold observeBranch
    split <;> (try split) <;> rfl
  unfold reduceEntry
  rw [← observed]
  generalize observeBranch r e = s
  cases e.payload with
  | json | retry => rfl
  | headless payload =>
    simp only [reduceHeadless]
    cases payload <;> simp only <;> (try split) <;> rfl
  | event payload =>
    cases payload with
    | item change =>
      cases change with
      | started itemId item =>
        cases item <;> exact noteProviderResponse_requestTrail s e _
      | delta itemId delta => exact reduceItemDelta_requestTrail s e itemId delta
      | completed itemId item => exact reduceItemCompleted_requestTrail s e itemId item
    | menuClosed menu reason =>
      simp only [reduceEvent]
      split <;> rfl
    | _ => rfl

/-- The standing that coordinates and a request trail make. -/
def RunCoordinates.standing (c : RunCoordinates) (requests : RequestTrail) : RunStanding where
  branchId := c.branchId
  branchObserved := c.branchObserved
  branchMismatch := c.branchMismatch
  state := c.state.map (·.1)
  handoffs := c.delegationMirrorHandoffs
  requests := requests

theorem RunCoordinates.standing_observe (c : RunCoordinates) (requests : RequestTrail) :
    (c.observe e).standing requests = (c.standing requests).observe e := by
  change (if c.branchObserved && c.branchId != e.branchId then _ else _ : RunCoordinates).standing _ =
    if c.branchObserved && c.branchId != e.branchId then _ else if !c.branchObserved then _ else _
  split <;> (try split) <;> rfl

/-- The standing steps on its own. -/
theorem reduceEntry_standing : (reduceEntry r e).standing = r.standing.step e := by
  have coordinates : (reduceEntry r e).coordinates = r.coordinates.step e :=
    foldl_coordinates [e] r
  change (reduceEntry r e).coordinates.standing (reduceEntry r e).requestTrail = _
  have observed := RunCoordinates.standing_observe e r.coordinates r.requestTrail
  rw [coordinates, reduceEntry_requestTrail]
  unfold RunCoordinates.step RunStanding.step
  rw [show r.standing.observe e = _ from observed.symm]
  generalize r.coordinates.observe e = c
  cases e.payload with
  | json | headless | retry => rfl
  | event payload =>
    cases payload with
    | item change =>
      cases change with
      | completed itemId item =>
        simp only [RunStanding.completed]
        cases delegationMirrorHandoffOf item <;> rfl
      | _ => rfl
    | _ => rfl

theorem retainedAcrossPages_eq : retainedAcrossPages r = r.standing.kept := by
  unfold retainedAcrossPages RunStanding.kept
  simp only [standing, Option.any_map]

end Requests

theorem RunStanding.step_congr (standing : RunStanding) (row : SameRow a b) :
    standing.step a = standing.step b := by
  have observed : standing.observe a = standing.observe b := by
    unfold RunStanding.observe
    rw [row.branchId]
  have invalid : requestAttemptInvalid a = requestAttemptInvalid b := by
    unfold requestAttemptInvalid
    rw [row.sessionId, row.runId]
  have attempt (trail : RequestTrail) : trail.attempt a = trail.attempt b := by
    unfold RequestTrail.attempt
    rw [invalid]
  have completed (trail : RequestTrail) : trail.completed a = trail.completed b := by
    unfold RequestTrail.completed
    rw [attempt]
    simp only [attempt]
  unfold RunStanding.step RunStanding.completed
  rw [observed, row.payload]
  simp only [completed]

/-! ## Corresponding journals -/

theorem reduceEntry_sameRow (v w : RunReduction) (a b : RawEnvelope)
    (same : v.standing = w.standing) (row : SameRow a b) :
    (reduceEntry v a).standing = (reduceEntry w b).standing := by
  rw [reduceEntry_standing, reduceEntry_standing, same, RunStanding.step_congr _ row]

section Rows

variable {es fs : List RawEnvelope} (rows : List.Forall₂ SameRow es fs) (runId : RunId)

include rows

theorem hydrated_sameRows : List.Forall₂ SameRow (hydrated es) (hydrated fs) :=
  List.rel_filter (fun _ _ row => by simp [row.payloadKind]) rows

theorem reductionOf_sameRows :
    (reductionOf es runId).map standing =
      (reductionOf fs runId).map standing := by
  have start : standing {} = standing {} := rfl
  rw [reductionOf_eq_final, reductionOf_eq_final]
  have related := KeyedFold.final_related (S := fun v w : RunReduction => v.standing = w.standing)
    (fun _ _ row => row.reduceKey) start reduceEntry_sameRow runId rows
  generalize KeyedFold.final reduceKey reduceEntry {} runId es = one at related ⊢
  generalize KeyedFold.final reduceKey reduceEntry {} runId fs = other at related ⊢
  cases related with
  | some same => exact congrArg some same
  | none => rfl

theorem rememberedTail_sameRows {rest : List RawEnvelope}
    (remembered : RememberedTail runId es rest) :
    ∃ own, RememberedTail runId fs own ∧ List.Forall₂ SameRow rest own := by
  have start : standing {} = standing {} := rfl
  refine KeyedFold.Remembered.related (S := fun v w : RunReduction => v.standing = w.standing)
    (fun _ _ row => row.reduceKey) start reduceEntry_sameRow ?_ rows remembered
  intro v w same
  rw [retainedAcrossPages_eq, retainedAcrossPages_eq, same]

end Rows

end HaiderAgent.TurnRecovery
