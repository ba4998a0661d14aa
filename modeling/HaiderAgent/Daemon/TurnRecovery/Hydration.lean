import HaiderAgent.Daemon.TurnRecovery.Coordinates
import HaiderAgent.Daemon.TurnRecovery.Decide

/-!
# What the startup hydration filter loses

Startup recovery folds `reduce` only over the envelopes whose stored kind is in
`STARTUP_HYDRATION_PAYLOAD_KINDS`, which leaves out two kinds the reducer reads, `peer.message` and
`run_deadline_exceeded`. Both move only the run's coordinates, so the filtered fold differs exactly
when the branch or the accepting message of a run is known from such an envelope alone.
-/

namespace HaiderAgent.TurnRecovery

open List RunCoordinates

/-- The run whose entry an envelope reaches. -/
def reduceKey (envelope : RawEnvelope) : Option RunId :=
  if recoveryRelevant envelope.payload then envelope.runId else none

theorem reduce_eq_route : reduce = KeyedFold.route reduceKey reduceEntry {} := by
  funext reductions envelope
  unfold reduce KeyedFold.route reduceKey
  cases relevant : recoveryRelevant envelope.payload <;> cases envelope.runId <;> simp

variable (envelopes : List RawEnvelope) (runId : RunId)

/-- The envelopes of one run that reach its entry. -/
def runEnvelopes (envelopes : List RawEnvelope) : List RawEnvelope :=
  envelopes.filter fun envelope => reduceKey envelope = some runId

/-- The `RunReduction` of one run after folding `reduce` over the envelopes. -/
def reductionOf : Option RunReduction :=
  (envelopes.foldl reduce ∅).lookup runId

theorem reductionOf_eq :
    reductionOf envelopes runId =
      if runEnvelopes runId envelopes = [] then none
      else some ((runEnvelopes runId envelopes).foldl reduceEntry {}) := by
  rw [reductionOf, reduce_eq_route, KeyedFold.lookup_foldl_route, AList.lookup_empty,
    KeyedFold.entry_none]
  rfl

/-- The envelopes the startup query selects. -/
def hydrated : List RawEnvelope :=
  envelopes.filter fun envelope => payloadKind envelope ∈ startupHydrationPayloadKinds

/-- Whether a payload is a peer message. -/
def isPeerMessage : RawPayload → Bool
  | .event (.peerMessage _) => true
  | _ => false

/-- The two relevant kinds the hydration list leaves out. -/
def unlisted : RawPayload → Bool
  | .event (.peerMessage _) | .headless (.runDeadlineExceeded _) => true
  | _ => false

theorem mem_startupHydrationPayloadKinds {envelope : RawEnvelope}
    (relevant : recoveryRelevant envelope.payload = true) :
    payloadKind envelope ∈ startupHydrationPayloadKinds ↔ unlisted envelope.payload = false := by
  unfold payloadKind
  cases payload : envelope.payload with
  | json type itemTag =>
    simp only [payload, recoveryRelevant, beq_iff_eq] at relevant
    subst relevant
    simp [RawPayload.type, startupHydrationPayloadKinds, unlisted]
  | retry retried =>
    simp [RawPayload.type, startupHydrationPayloadKinds, unlisted]
  | headless fact =>
    cases fact <;>
      simp [RawPayload.type, HeadlessRunEventPayload.tag, startupHydrationPayloadKinds, unlisted]
  | event fact =>
    cases fact with
    | item change =>
      simp only [RawPayload.type, EventPayload.tag, Option.getD_some, true_and, unlisted]
      split <;> simp [startupHydrationPayloadKinds]
    | _ =>
      simp_all [RawPayload.type, EventPayload.tag, startupHydrationPayloadKinds, unlisted,
        recoveryRelevant]

variable {runId : RunId} {e : RawEnvelope} {envelopes : List RawEnvelope}

theorem runEnvelopes_relevant
    (mem : e ∈ runEnvelopes runId envelopes) : recoveryRelevant e.payload = true := by
  have routed := (mem_filter.mp mem).2
  simp only [reduceKey] at routed
  split at routed
  · assumption
  · simp at routed

theorem runEnvelopes_hydrated (runId : RunId) (envelopes : List RawEnvelope) :
    runEnvelopes runId (hydrated envelopes) =
      (runEnvelopes runId envelopes).filter fun e => !unlisted e.payload := by
  unfold runEnvelopes hydrated
  rw [filter_comm]
  refine filter_congr fun e mem => ?_
  have listed := mem_startupHydrationPayloadKinds (runEnvelopes_relevant mem)
  cases hidden : unlisted e.payload <;> simp_all

theorem observeBranch_eq (r : RunReduction) (e : RawEnvelope) :
    observeBranch r e = r.withCoordinates (r.coordinates.observe e) := by
  unfold observeBranch observe RunReduction.coordinates
  split <;> (try split) <;> rfl

theorem reduceEntry_unlisted (hidden : unlisted e.payload = true) (r : RunReduction) :
    reduceEntry r e = r.withCoordinates (r.coordinates.step e) := by
  unfold reduceEntry step
  rw [observeBranch_eq]
  unfold unlisted at hidden
  split at hidden
  · rename_i payload
    rw [payload]
    rfl
  · rename_i payload
    rw [payload]
    rfl
  · exact absurd hidden Bool.false_ne_true

/-- The whole fold is the hydrated fold with the run's own coordinates. -/
theorem foldl_runEnvelopes (runId : RunId) (envelopes : List RawEnvelope) (r : RunReduction) :
    (runEnvelopes runId envelopes).foldl reduceEntry r =
      ((runEnvelopes runId (hydrated envelopes)).foldl reduceEntry r).withCoordinates
        ((runEnvelopes runId envelopes).foldl step r.coordinates) := by
  rw [runEnvelopes_hydrated]
  refine coordinatesPart.foldl_filter _ _ r fun e _ dropped s => ?_
  exact reduceEntry_unlisted (by simpa using dropped) s

/-- The coordinates an unlisted envelope can move: the branch and the acceptance. -/
structure RunScope where
  branchId : Option BranchId := none
  branchObserved : Bool := false
  branchMismatch : Bool := false
  userSeq : Option Nat := none
  deriving DecidableEq

namespace RunScope

/-- What one envelope does to the scope. -/
def step (s : RunScope) (e : RawEnvelope) : RunScope where
  branchId := if s.branchObserved then s.branchId else e.branchId
  branchObserved := true
  branchMismatch := s.branchMismatch || (s.branchObserved && s.branchId != e.branchId)
  userSeq := if RunCoordinates.accepts e.payload then some e.seq else s.userSeq

end RunScope

variable (c : RunCoordinates)

/-- The scope part of the coordinates. -/
def RunCoordinates.scope : RunScope :=
  ⟨c.branchId, c.branchObserved, c.branchMismatch, c.userSeq⟩

/-- Coordinates with another scope. -/
def RunCoordinates.withScope (s : RunScope) : RunCoordinates :=
  { c with
    branchId := s.branchId
    branchObserved := s.branchObserved
    branchMismatch := s.branchMismatch
    userSeq := s.userSeq }

theorem RunCoordinates.observe_withScope (s : RunScope) (e : RawEnvelope) :
    (c.withScope s).observe e = c.withScope { s.step e with userSeq := s.userSeq } := by
  unfold observe withScope RunScope.step
  split <;> (try split) <;> simp_all

theorem RunCoordinates.step_withScope (s : RunScope) (e : RawEnvelope) :
    (c.withScope s).step e = (c.step e).withScope (s.step e) := by
  unfold step
  rw [observe_withScope]
  split <;> (try split) <;> simp_all [withScope, RunScope.step, accepts, settleHandoff]

/-- The scope moves on its own under the fold of the coordinates. -/
def scopePart : KeyedFold.Part RunCoordinates RunScope RawEnvelope step where
  get := scope
  set := withScope
  move := RunScope.step
  get_set _ _ := rfl
  set_get _ := rfl
  set_set _ _ _ := rfl
  step_set := step_withScope

theorem RunCoordinates.step_unlisted (hidden : unlisted e.payload = true)
    (c : RunCoordinates) : c.step e = c.withScope (c.scope.step e) := by
  have observed : c.observe e = c.withScope { c.scope.step e with userSeq := c.userSeq } :=
    c.observe_withScope c.scope e
  unfold step
  unfold unlisted at hidden
  split at hidden <;> simp_all [withScope, RunScope.step, accepts, scope]

/-- The scope a run's envelopes leave. -/
def scopeOf (envelopes : List RawEnvelope) : RunScope := envelopes.foldl RunScope.step {}

theorem scope_foldl (envelopes : List RawEnvelope) :
    (envelopes.foldl step {}).scope = scopeOf envelopes :=
  scopePart.get_foldl envelopes {}

/-- The last message that accepted the run. -/
def lastAcceptance (envelopes : List RawEnvelope) : Option RawEnvelope :=
  (envelopes.filter fun e => RunCoordinates.accepts e.payload).getLast?

/-- Whether the envelopes disagree with the branch of the first of them. -/
def crossesBranches (envelopes : List RawEnvelope) : Bool :=
  envelopes.any fun e => e.branchId != envelopes.head?.bind (·.branchId)

theorem scopeOf_eq (envelopes : List RawEnvelope) :
    scopeOf envelopes =
      { branchId := envelopes.head?.bind (·.branchId)
        branchObserved := !envelopes.isEmpty
        branchMismatch := crossesBranches envelopes
        userSeq := (lastAcceptance envelopes).map (·.seq) } := by
  induction envelopes using reverseRecOn with
  | nil => rfl
  | append_singleton init e ih =>
    have unrolled : scopeOf (init ++ [e]) = (scopeOf init).step e := by
      simp [scopeOf, foldl_append]
    rw [unrolled, ih]
    unfold RunScope.step crossesBranches lastAcceptance
    cases init with
    | nil => cases accepted : RunCoordinates.accepts e.payload <;> simp [accepted]
    | cons first rest =>
      cases accepted : RunCoordinates.accepts e.payload <;>
        simp [accepted, bne_comm (a := first.branchId)]

/-- Filtering keeps the last `seq` exactly when it keeps the last envelope. -/
theorem getLast?_filter_seq {l : List RawEnvelope} (increasing : l.Pairwise fun a b => a.seq < b.seq)
    (keep : RawEnvelope → Bool) :
    (l.filter keep).getLast?.map (·.seq) = l.getLast?.map (·.seq) ↔
      ∀ e ∈ l.getLast?, keep e = true := by
  induction l using reverseRecOn with
  | nil => simp
  | append_singleton init last _ =>
    cases kept : keep last with
    | true => simp [kept, filter_append]
    | false =>
      have below := (pairwise_append.mp increasing).2.2
      simp only [filter_append, kept, filter_cons_of_neg, Bool.false_eq_true,
        not_false_eq_true, filter_nil, append_nil, getLast?_append,
        getLast?_singleton, Option.some_or, Option.map_some, Option.mem_def,
        Option.some.injEq, forall_eq', iff_false]
      intro same
      obtain ⟨e, found, seqs⟩ := Option.map_eq_some_iff.mp same
      have mem := mem_of_mem_filter (mem_of_getLast? found)
      have := below e mem last (by simp)
      omega

/-- What the hydration filter needs of one run: the listed envelopes show the same branch and
the same branch disagreement, and no peer message is the run's last acceptance. -/
structure HydrationComplete (envelopes : List RawEnvelope) (runId : RunId) : Prop where
  branch :
    ((runEnvelopes runId envelopes).filter fun e => !unlisted e.payload).head?.map (·.branchId) =
      (runEnvelopes runId envelopes).head?.map (·.branchId)
  crossing :
    crossesBranches ((runEnvelopes runId envelopes).filter fun e => !unlisted e.payload) =
      crossesBranches (runEnvelopes runId envelopes)
  acceptance :
    ∀ e ∈ lastAcceptance (runEnvelopes runId envelopes), isPeerMessage e.payload = false

variable (journal : Journal)

theorem runEnvelopes_increasing (runId : RunId) :
    (runEnvelopes runId journal.envelopes).Pairwise fun a b => a.seq < b.seq :=
  journal.increasing.filter _

/-- The scope survives hydration exactly when hydration is complete for the run. -/
theorem scopeOf_hydrated (runId : RunId) :
    scopeOf (runEnvelopes runId (hydrated journal.envelopes)) =
        scopeOf (runEnvelopes runId journal.envelopes) ↔
      HydrationComplete journal.envelopes runId := by
  have increasing := (runEnvelopes_increasing journal runId).filter
    fun e => RunCoordinates.accepts e.payload
  have accepting (e : RawEnvelope) (mem : e ∈ lastAcceptance (runEnvelopes runId journal.envelopes)) :
      (!unlisted e.payload) = true ↔ isPeerMessage e.payload = false := by
    have accepted := (mem_filter.mp (mem_of_getLast? mem)).2
    unfold RunCoordinates.accepts at accepted
    split at accepted <;> simp_all [unlisted, isPeerMessage]
  have last := getLast?_filter_seq increasing fun e => !unlisted e.payload
  rw [filter_comm] at last
  have heads (kept own : List RawEnvelope) :
      kept.head?.bind (·.branchId) = own.head?.bind (·.branchId) ∧ (!kept.isEmpty) = !own.isEmpty ↔
        kept.head?.map (·.branchId) = own.head?.map (·.branchId) := by
    cases kept <;> cases own <;> simp
  rw [runEnvelopes_hydrated, scopeOf_eq, scopeOf_eq, RunScope.mk.injEq, ← and_assoc, heads]
  constructor
  · rintro ⟨branch, crossing, accepted⟩
    exact ⟨branch, crossing, fun e mem => (accepting e mem).mp (last.mp accepted e mem)⟩
  · rintro ⟨branch, crossing, acceptance⟩
    exact ⟨branch, crossing,
      last.mpr fun e mem => (accepting e mem).mpr (acceptance e mem)⟩

/-- One run's reduction survives hydration exactly when hydration is complete for it. -/
theorem reductionOf_hydrated_iff (runId : RunId) :
    reductionOf (hydrated journal.envelopes) runId = reductionOf journal.envelopes runId ↔
      HydrationComplete journal.envelopes runId := by
  have coordinates := scopePart.foldl_filter (fun e => !unlisted e.payload)
    (runEnvelopes runId journal.envelopes) {} fun e _ dropped c =>
      step_unlisted (by simpa using dropped) c
  rw [← runEnvelopes_hydrated] at coordinates
  have emptied (none : runEnvelopes runId journal.envelopes = []) :
      runEnvelopes runId (hydrated journal.envelopes) = [] := by
    rw [runEnvelopes_hydrated, none]
    rfl
  rw [← scopeOf_hydrated, reductionOf_eq, reductionOf_eq, foldl_runEnvelopes runId journal.envelopes]
  generalize runEnvelopes runId (hydrated journal.envelopes) = kept at *
  generalize runEnvelopes runId journal.envelopes = own at *
  have rebuilt : own.foldl step {} =
      (kept.foldl reduceEntry {}).coordinates.withScope (scopeOf own) := by
    rw [coordinates_foldl]
    exact coordinates
  -- an empty kept list leaves no entry, and its scope has observed no branch
  by_cases noOwn : own = []
  · simp [noOwn, emptied noOwn]
  by_cases noKept : kept = []
  · have observed : (scopeOf own).branchObserved = true := by
      rw [scopeOf_eq]
      simpa using noOwn
    have unobserved : (scopeOf ([] : List RawEnvelope)).branchObserved = false := rfl
    simp only [noKept, noOwn, if_true, if_false, reduceCtorEq, false_iff]
    intro same
    rw [same, observed] at unobserved
    exact Bool.noConfusion unobserved
  · simp only [noKept, noOwn, if_false, Option.some.injEq]
    change _ = RunReduction.withCoordinates _ (own.foldl step {}) ↔ _
    rw [rebuilt, ← scope_foldl kept, ← coordinates_foldl]
    constructor
    · intro same
      exact congrArg (fun r : RunReduction => r.coordinates.scope) same
    · intro same
      rw [← same]
      rfl

/-- Work that puts the run itself back to work. -/
def RecoveredWork.resumes (runId : RunId) : RecoveredWork → Bool
  | .queued accepted _ | .checkpoint accepted .. | .partialStream accepted ..
  | .routeWait accepted .. | .childWait accepted .. | .admissionRetry accepted ..
  | .workflowContinuation accepted .. => accepted.runId == runId
  | .retry accepted _ => accepted.runId == runId
  | .delegationMirror .. => false

/-- Startup recovery hands the run back as runnable work. -/
def HandsBack (argsDigest : RunId → Nat → String) (view : StoreView) (runId : RunId)
    (entry : Option RunReduction) : Prop :=
  ∃ reduction decision, entry = some reduction ∧
    decideRun argsDigest view runId reduction = .ok decision ∧
    ∃ work ∈ decision.work, work.resumes runId = true

/-- No guard that recovery puts before the queue claims the run: it is on one branch with sound
markers, owes no cancellation mirror, has metadata and a turn ordinal, is not a fenced child,
and a pinned spawn finds its accepted message and its delegations. -/
structure StartupAdmits (view : StoreView) (runId : RunId) (reduction : RunReduction) : Prop where
  oneBranch : reduction.branchMismatch = false
  soundMarkers : reduction.providerRequestAttemptCorrupt = false
  noMirror : reduction.delegationMirrorHandoffs = ∅
  metadata : view.runnableMetadata = true
  ordinal : ∃ ordinal, view.turnOrdinal runId = some ordinal ∧
    reduction.providerRequestTurnOrdinal.any (· != ordinal) = false
  unfenced : fencedPublicChild view runId = false
  spawn : reduction.directAgentSpawn = true → reduction.userSeq.isSome ∧
    ∀ delegation ∈ view.delegationsForParentRun runId,
      ∃ tool, deferredToolCheckpoint reduction delegation = .ok tool

theorem mapM_ok {α β ε : Type} (f : α → Except ε β) (l : List α)
    (total : ∀ a ∈ l, ∃ b, f a = .ok b) : ∃ bs, l.mapM f = .ok bs := by
  induction l with
  | nil => exact ⟨[], rfl⟩
  | cons a l ih =>
    obtain ⟨b, first⟩ := total a mem_cons_self
    obtain ⟨bs, rest⟩ := ih fun a' mem => total a' (mem_cons_of_mem _ mem)
    exact ⟨b :: bs, by rw [mapM_cons, first, rest]; rfl⟩

variable {reduction : RunReduction} {view : StoreView}

/-- A direct spawn is handed back once its tool calls are found. -/
theorem decideDirectSpawn_resumes (turnOrdinal : Nat) (accepted : reduction.userSeq.isSome)
    (tools : ∀ delegation ∈ view.delegationsForParentRun runId,
      ∃ tool, deferredToolCheckpoint reduction delegation = .ok tool) :
    ∃ decision, decideDirectSpawn view runId turnOrdinal reduction = .ok decision ∧
      ∃ work ∈ decision.work, work.resumes runId = true := by
  obtain ⟨acceptedSeq, user⟩ := Option.isSome_iff_exists.mp accepted
  obtain ⟨checkpoints, mapped⟩ := mapM_ok (deferredToolCheckpoint reduction) _ tools
  have waits : ∃ found, pendingChildWait view runId reduction = .ok found := by
    simp only [pendingChildWait, mapped]
    split <;> exact ⟨_, rfl⟩
  obtain ⟨found, waits⟩ := waits
  have seq (message : String) : acceptedUserSeq reduction message = .ok acceptedSeq := by
    rw [acceptedUserSeq, user]
  unfold decideDirectSpawn
  rw [seq, waits]
  cases (view.delegationsForParentRun runId).any publicSpawnNeedsEstablishment with
  | true =>
    exact ⟨_, rfl, _, mem_singleton.mpr rfl,
      by simp [RecoveredWork.resumes, recoveredAcceptance]⟩
  | false =>
    cases found with
    | none | some =>
      exact ⟨_, rfl, _, mem_singleton.mpr rfl,
        by simp [RecoveredWork.resumes, recoveredAcceptance]⟩

/-- An admitted `Queued` run of an earlier generation with an acceptance is handed back. -/
theorem decideRun_queued {argsDigest : RunId → Nat → String} {seq : Nat}
    (admits : StartupAdmits view runId reduction) (queued : reduction.state = some (.queued, seq))
    (earlier : reduction.stateGeneration < view.workerGeneration)
    (accepted : reduction.userSeq.isSome ∨ reduction.retrySource.isSome) :
    HandsBack argsDigest view runId (some reduction) := by
  obtain ⟨ordinal, durable, agrees⟩ := admits.ordinal
  have noMirrors : mirrorHandoffs reduction = [] := by
    rw [mirrorHandoffs, admits.noMirror]
    rfl
  have runnable : decideRun argsDigest view runId reduction =
      decideRunnable argsDigest view runId .queued reduction := by
    simp [decideRun, admits.oneBranch, admits.soundMarkers, queued, noMirrors, admits.metadata,
      RunState.isTerminal, Nat.ne_of_lt earlier]
  refine ⟨reduction, ?_⟩
  rw [runnable, decideRunnable, durable]
  simp only [agrees, Bool.false_eq_true, if_false, admits.unfenced, and_false, true_and]
  by_cases spawn : reduction.directAgentSpawn = true
  · obtain ⟨user, tools⟩ := admits.spawn spawn
    simpa [spawn] using decideDirectSpawn_resumes ordinal user tools
  · refine ⟨decideQueued view runId ordinal reduction, ?_⟩
    simp only [spawn, Bool.false_eq_true, false_and, if_false, if_true, true_and]
    unfold decideQueued
    rcases user : reduction.userSeq with _ | userSeq
    · rcases retry : reduction.retrySource with _ | source
      · simp [user, retry] at accepted
      · exact ⟨_, mem_singleton.mpr rfl, by simp [RecoveredWork.resumes]⟩
    · exact ⟨_, mem_singleton.mpr rfl,
        by simp [RecoveredWork.resumes, recoveredAcceptance]⟩

/-- The run was accepted by a user message, a peer message or a retry. -/
def AcceptedBy (envelopes : List RawEnvelope) (runId : RunId) : Prop :=
  ∃ e ∈ envelopes, e.runId = some runId ∧
    (RunCoordinates.accepts e.payload = true ∨ ∃ retried, e.payload = .retry retried)

/-- The whole fold of an accepted run knows what accepted it. -/
theorem AcceptedBy.acceptance (accepted : AcceptedBy envelopes runId)
    (folded : reductionOf envelopes runId = some reduction) :
    reduction.userSeq.isSome ∨ reduction.retrySource.isSome := by
  obtain ⟨e, mem, own, kind⟩ := accepted
  rw [reductionOf_eq] at folded
  split at folded
  · cases folded
  cases folded
  have coordinates := coordinates_foldl (runEnvelopes runId envelopes)
  rcases kind with message | ⟨retried, payload⟩
  · left
    have reached : e ∈ runEnvelopes runId envelopes := by
      refine mem_filter.mpr ⟨mem, ?_⟩
      have relevant : recoveryRelevant e.payload = true := by
        unfold RunCoordinates.accepts at message
        split at message <;> simp_all [recoveryRelevant]
      simp [reduceKey, relevant, own]
    have last : lastAcceptance (runEnvelopes runId envelopes) ≠ none := by
      rw [lastAcceptance, Ne, getLast?_eq_none_iff]
      exact ne_nil_of_mem (mem_filter.mpr ⟨reached, message⟩)
    change (RunReduction.coordinates _).scope.userSeq.isSome = true
    rw [coordinates, scope_foldl, scopeOf_eq]
    simpa [Option.isSome_iff_ne_none] using last
  · right
    have reached : e ∈ runEnvelopes runId envelopes :=
      mem_filter.mpr ⟨mem, by simp [reduceKey, payload, recoveryRelevant, own]⟩
    obtain ⟨before, after, split⟩ := append_of_mem reached
    change (RunReduction.coordinates _).retrySource.isSome = true
    rw [coordinates, split, foldl_append, foldl_cons]
    refine foldl_retrySource_isSome _ _ ?_
    simp [step, payload]

/-- The hydration filter loses nothing, and hands every admitted accepted queued run back,
exactly when it is complete for every run. -/
theorem hydration_loses_nothing_iff (argsDigest : RunId → Nat → String) (journal : Journal) :
    ((∀ runId, reductionOf (hydrated journal.envelopes) runId =
        reductionOf journal.envelopes runId) ∧
      ∀ view runId reduction seq, reductionOf journal.envelopes runId = some reduction →
        StartupAdmits view runId reduction → reduction.state = some (.queued, seq) →
        reduction.stateGeneration < view.workerGeneration →
        AcceptedBy journal.envelopes runId →
        HandsBack argsDigest view runId (reductionOf (hydrated journal.envelopes) runId)) ↔
      ∀ runId, HydrationComplete journal.envelopes runId := by
  constructor
  · rintro ⟨same, -⟩ runId
    exact (reductionOf_hydrated_iff journal runId).mp (same runId)
  · intro complete
    have same (runId : RunId) := (reductionOf_hydrated_iff journal runId).mpr (complete runId)
    refine ⟨same, ?_⟩
    intro view runId reduction seq folded admits queued earlier accepted
    rw [same, folded]
    exact decideRun_queued admits queued earlier (accepted.acceptance folded)

/-- A turn a peer session started: the run is queued, then accepted by the peer's message. -/
def peerAcceptedJournal : Journal :=
  let message : PeerMessage :=
    { msgId := "m", sender := ⟨"peer", "", "peer", "prompting"⟩, recipient := "s",
      message := "hello", summary := none, queuedAt := 0, expiresAt := 1 }
  Journal.empty.append
    [EventPayload.unstamped (.runState .queued) "s" "r" 1,
      EventPayload.unstamped (.peerMessage message) "s" "r" 1,
      EventPayload.unstamped (.nodeCommitted ⟨"node-e", none, .agent message⟩) "s" "r" 1]

/-- Hydration forgets the acceptance of the peer's run, and startup leaves the run behind. -/
theorem peerAcceptedJournal_lost :
    reductionOf (hydrated peerAcceptedJournal.envelopes) "r" ≠
        reductionOf peerAcceptedJournal.envelopes "r" ∧
      AcceptedBy peerAcceptedJournal.envelopes "r" ∧
      ((reductionOf (hydrated peerAcceptedJournal.envelopes) "r").map fun reduction =>
        (reduction.state, (decideRun (fun _ _ => "") (plainSession 2) "r" reduction).toOption)) =
        some (some (.queued, 1), some {}) := by
  refine ⟨by decide, ⟨_, mem_cons_of_mem _ mem_cons_self, rfl, Or.inl rfl⟩, by decide⟩

end HaiderAgent.TurnRecovery
