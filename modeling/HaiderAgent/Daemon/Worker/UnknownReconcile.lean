import HaiderAgent.Core.EffectReconcile
import HaiderAgent.Daemon.TurnRecovery.Decide

/-!
# How the live worker settles dispatched effects

`UnknownReconcile`, `scan_unknown_effects`, `append_unknown_effect_scan` and `fail_shell_exec` of
`haider-daemon/src/worker.rs`. Of the three ways to settle a run whose effects have no outcome, one,
evidence only, leaves `Unknown` outcomes with no card before the run's `Errored`, which the next
startup pass takes for an effect nobody has explained.
-/

namespace HaiderAgent.Worker

open HaiderAgent.EffectRecovery

/-- What is done about an unknown outcome. -/
inductive UnknownReconcile where
  | park | evidenceOnly | cancel
  deriving DecidableEq, Repr

/-- `UnknownEffectScan`. An outcome is `true` when it is `Unknown`. -/
structure UnknownEffectScan where
  dispatched : List EffectId := []
  summaries : HashMap EffectId String := ∅
  outcomes : HashMap EffectId Bool := ∅
  openRecovery : HashMap MenuId EffectId := ∅
  durableState : Option RunState := none
  durableStateBranch : Option BranchId := none
  durableStateSeen : Bool := false
  durableStateCorrupt : Bool := false

/-- The run it is done in. -/
structure UnknownReconcileTarget where
  runId : RunId
  branchId : Option BranchId

namespace UnknownEffectScan

variable (scan : UnknownEffectScan)

/-- `observe_durable_state`. -/
def observeDurableState (branchId : Option BranchId) (state : Option RunState) :
    UnknownEffectScan :=
  if scan.durableStateSeen && scan.durableStateBranch != branchId then
    { scan with durableStateCorrupt := true }
  else
    { scan with
      durableStateSeen := true
      durableStateBranch := branchId
      durableState := state <|> scan.durableState <|> some .queued }

/-- The effect and menu cases of `scan_unknown_effects`. -/
def observeEffect : EventPayload → UnknownEffectScan
  | .effect (.intent intent) =>
    { scan with summaries := scan.summaries.insert intent.effect intent.summary }
  | .effect (.dispatched effect) => { scan with dispatched := scan.dispatched.insert effect }
  | .effect (.outcome effect outcome) =>
    { scan with outcomes := scan.outcomes.insert effect (outcome == .unknown) }
  | .menuOpened menu =>
    match menu.kind with
    | .recovery effect _ _ => { scan with openRecovery := scan.openRecovery.insert menu.id effect }
    | _ => scan
  | .menuAnswered answer => { scan with openRecovery := scan.openRecovery.erase answer.menu }
  | .menuClosed menu _ => { scan with openRecovery := scan.openRecovery.erase menu }
  | _ => scan

/-- One envelope of `scan_unknown_effects`, for one target. -/
def observe (target : UnknownReconcileTarget) (scan : UnknownEffectScan) (envelope : RawEnvelope) :
    Except HaiderError UnknownEffectScan :=
  if envelope.runId ≠ some target.runId then .ok scan
  else if envelope.payload.type = some "user_message" then
    .ok (scan.observeDurableState envelope.branchId none)
  else if envelope.payload.type = some "run_state" then
    match envelope.payload.runState with
    | some state => .ok (scan.observeDurableState envelope.branchId (some state))
    | none => .ok scan
  else if envelope.branchId = target.branchId ∧
      envelope.payload.type.any (· ∈ recoveryReducerPayloadKinds) then
    match envelope.payload.decodeEvent with
    | some payload => .ok (scan.observeEffect payload)
    | none =>
      .error ⟨.storeCorrupt, "invalid effect payload in session " ++ envelope.sessionId ++
        ", seq " ++ toString envelope.seq, false⟩
  else .ok scan

/-- The effects `append_unknown_effect_scan` settles, by effect id. -/
def pending : List EffectId :=
  (scan.dispatched.filter fun effect =>
    (scan.outcomes.lookup effect).all id &&
      !scan.openRecovery.entries.any fun entry => entry.2 == effect).insertionSort (· ≤ ·)

/-- The payloads `append_unknown_effect_scan` appends for one pending effect. -/
def settle (mode : UnknownReconcile) (runId : RunId) (evidence : EffectId → Option String)
    (scan : UnknownEffectScan) (effect : EffectId) : List EventPayload :=
  let outcome : List EventPayload :=
    if (scan.outcomes.lookup effect).isNone then
      [.effect (.outcome effect (if mode = .cancel then .cancelled else .unknown))]
    else []
  if mode = .park then
    let menu := effectRecoveryMenu ("effect-recovery-" ++ runId ++ "-" ++ effect) effect
      ((scan.summaries.lookup effect).getD "unknown dispatched effect")
    outcome ++
      [.menuOpened { menu with
        body := menu.body ++ [(evidence effect).getD "probe: evidence unavailable"] },
      .runState .effectOutcomeUnknown]
  else outcome

/-- `append_unknown_effect_scan`: the payloads it appends and the durable state it reports. -/
def settlement (mode : UnknownReconcile) (runId : RunId) (evidence : EffectId → Option String)
    (scan : UnknownEffectScan) : List EventPayload × Option RunState :=
  let state := if scan.durableStateCorrupt then none else scan.durableState
  (scan.pending.flatMap (settle mode runId evidence scan),
    if mode = .park ∧ scan.pending ≠ [] then some .effectOutcomeUnknown else state)

end UnknownEffectScan

variable (view : TurnRecovery.StoreView) (deviceId : DeviceId) (eventIds : Nat → EventId)
  (target : UnknownReconcileTarget)

/-- `supervisor_envelope`: a session state belongs to no run and no branch. -/
def supervisorEnvelope (eventId : EventId) (payload : EventPayload) : RawEnvelope :=
  let ofRun := match payload with
    | .sessionState _ => false
    | _ => true
  { eventId := eventId, seq := 0, sessionId := view.sessionId
    branchId := if ofRun then target.branchId else none
    runId := if ofRun then some target.runId else none
    agentId := none, deviceId := deviceId, authorityEpoch := 0
    workerGeneration := view.workerGeneration, causationId := none, committedAtMs := 0
    render := { durable := true, promptOmit := true }, payload := .event payload }

/-- `append_payloads`, with the identifiers the generator hands out by position. -/
def appendPayloads (payloads : List EventPayload) (journal : Journal) : Journal :=
  journal.append (payloads.mapIdx fun index payload =>
    supervisorEnvelope view deviceId target (eventIds (journal.headSeq + 1 + index)) payload)

/-- `reconcile_unknown_effects`: the journal after a settlement. -/
def reconcileUnknownEffects (evidence : EffectId → Option String) (mode : UnknownReconcile)
    (journal : Journal) : Except HaiderError Journal := do
  let scan ← journal.envelopes.foldlM (UnknownEffectScan.observe target) {}
  let (payloads, _) := scan.settlement mode target.runId evidence
  return appendPayloads view deviceId eventIds target payloads journal

/-- `payloads.retain(|payload| !matches!(payload, EventPayload::SessionState(_)))`. -/
def withoutSessionState (payloads : List EventPayload) : List EventPayload :=
  payloads.filter fun payload => match payload with
    | .sessionState _ => false
    | _ => true

/-- `fail_shell_exec` and `cancel_shell_exec`: settle the effects, close the run, report idle. -/
def failShellExec (error : HaiderError) (journal : Journal) : Except HaiderError Journal := do
  let cancelling := latestRunState target.runId journal.envelopes == some .cancelling
  let settled ← reconcileUnknownEffects view deviceId eventIds target (fun _ => none)
    (if cancelling then .cancel else .evidenceOnly) journal
  let payloads ← TurnRecovery.resumptionTerminalPayloads view target.runId settled.envelopes
    (if cancelling then none else some error)
  let closed := appendPayloads view deviceId eventIds target (withoutSessionState payloads) settled
  return appendPayloads view deviceId eventIds target [.sessionState (.idle cancelling)] closed

/-- Any number of passes respect run ends, and commit `Unknown` once for exactly the dispatches
without an outcome, if and only if no effect that needs recovery belongs to a run that has ended
or is cancelling. -/
theorem reconcile_respects_run_ends_iff {names : RecoveryNames} {sessionId : SessionId}
    (journal : WorkerJournal names sessionId) (first : RecoveryPass) (later : List RecoveryPass) :
    (∃ history, reconcilePasses names sessionId (first :: later) journal.toJournal = .ok history ∧
      (∀ record ∈ history, record.RespectsRunEnds) ∧
      ∀ effect,
        (DispatchedWithoutOutcome journal.envelopes effect →
          unknownOutcomes effect (history.flatMap (·.batch)) = 1) ∧
        (¬ DispatchedWithoutOutcome journal.envelopes effect →
          unknownOutcomes effect (history.flatMap (·.batch)) = 0)) ↔
      ∀ effect dispatch runId state, lastDispatch effect journal.envelopes = some dispatch →
        Unexplained journal.envelopes effect → dispatch.runId = some runId →
        latestRunState runId journal.envelopes = some state → settling state = false := by
  have ran := journal.reconcilePasses_eq first later
  have pendingIff := respectsRunEnds_iff names first sessionId journal.ledger journal.toJournal
  constructor
  · rintro ⟨history, completed, respects, -⟩ effect dispatch runId state dispatched unexplained own
    rw [ran] at completed
    cases completed
    refine pendingIff.mp (respects _ List.mem_cons_self) effect dispatch runId state ?_ own
    exact (journal.mem_pending_iff effect dispatch).mpr
      ⟨dispatched, unexplained, fun ownerless => by simp [ownerless] at own⟩
  · intro clear
    refine ⟨_, ran, ?_, ?_⟩
    · intro record member
      rcases List.mem_cons.mp member with rfl | idle
      · refine pendingIff.mpr fun effect dispatch runId state pending => ?_
        obtain ⟨dispatched, unexplained, -⟩ := (journal.mem_pending_iff effect dispatch).mp pending
        exact clear effect dispatch runId state dispatched unexplained
      · obtain ⟨_, -, rfl⟩ := List.mem_map.mp idle
        exact ⟨fun e impossible => absurd impossible List.not_mem_nil,
          fun e impossible => absurd impossible List.not_mem_nil⟩
    · intro effect
      have total := journal.unknownOutcomes_recoveryBatch first effect
      have committed : ((⟨journal.toJournal, recoveryBatch names first sessionId journal.ledger⟩ ::
          later.map fun _ => (⟨(journal.afterPass first).toJournal, []⟩ : PassRecord)).flatMap
            (·.batch)) = recoveryBatch names first sessionId journal.ledger := by
        simp
      rw [committed, total]
      exact ⟨fun lost => if_pos lost, fun kept => if_neg kept⟩

/-- A direct shell run with one dispatched effect, as it stands when the shell fails. -/
def dispatchedShell : Journal :=
  Journal.empty.append
    [EventPayload.unstamped (.runState .runningTool) "s" "r" 1,
      EventPayload.unstamped (.effect (.dispatched "e")) "s" "r" 1]

/-- Names for tests. -/
def plainNames : RecoveryNames where
  recoveryEventId _ _ effect := effect
  recoveryEventIdFor _ _ effect part := effect ++ part
  recoveryMenuId _ effect := effect
  recoveryMenuId_injective _ _ _ same := same

/-- The failed shell run: `Unknown` evidence without a card, then the `Errored` terminal. -/
def failedShell : WorkerJournal plainNames "s" where
  toJournal := ((failShellExec (TurnRecovery.plainSession 1) "device" toString ⟨"r", none⟩
    ⟨.internal, "shell failed", false⟩ dispatchedShell).toOption).getD Journal.empty
  decodable := by decide
  cardNamed := fun e member => cardNamed_of_not_opensCard
    ((by decide : ∀ e ∈ ((failShellExec (TurnRecovery.plainSession 1) "device" toString ⟨"r", none⟩
      ⟨.internal, "shell failed", false⟩ dispatchedShell).toOption.getD Journal.empty).envelopes,
      opensCard e = false) e member)

/-- The next startup takes the failed run out of `Errored` and opens a card for it. -/
theorem failedShell_revived :
    latestRunState "r" failedShell.envelopes = some .errored ∧
      ¬ ∃ history, reconcilePasses plainNames "s" [⟨2, "device", fun _ => none⟩]
          failedShell.toJournal = .ok history ∧
        ∀ record ∈ history, record.RespectsRunEnds := by
  refine ⟨by decide, ?_⟩
  rintro ⟨history, completed, respects⟩
  cases completed
  have clear := (respectsRunEnds_iff _ _ _ _ _).mp (respects _ List.mem_cons_self)
  have settled := clear "e" ⟨"effect", "s", none, some "r", none, 0⟩ "r" .errored
    (by decide) rfl (by decide)
  exact absurd settled (by decide)

end HaiderAgent.Worker
