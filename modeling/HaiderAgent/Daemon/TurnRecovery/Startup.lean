import HaiderAgent.Core.EffectReconcile
import HaiderAgent.Daemon.TurnRecovery.Paging

/-!
# One startup of a session

A daemon start runs `reconcile_dispatched_effects` and then
`recover_interrupted_turns_report_with_visitor` over every session (`haider-daemon/src/runtime.rs`):
the effect pass, the sweep of abandoned public spawns, the page loop with its checkpoint, and the
per-run decisions in order.
-/

namespace HaiderAgent.TurnRecovery

open HaiderAgent.EffectRecovery (RecoveryNames RecoveryPass reconcileBatch)

/-- What one startup finds in the store and reads of the session. -/
structure Startup where
  view : StoreView
  deviceId : DeviceId
  evidence : EffectId → Option String
  /-- Whether an earlier startup left the receipt of the spawn's `cancel_turn`. -/
  cancelRecorded : Bool
  /-- What `abandon_graph` commits for the session's unfinished graph. -/
  abandonedGraph : List EventPayload
  visitorCursor : Nat
  pages : List ReducerPage

namespace Startup

variable (startup : Startup)

/-- The reconciliation pass of the startup. -/
def pass : RecoveryPass := ⟨startup.view.workerGeneration, startup.deviceId, startup.evidence⟩

/-- An envelope of a recovery command: a session state belongs to no run and no branch. -/
def envelope (eventId : EventId) (runId : Option RunId) (branchId : Option BranchId)
    (payload : EventPayload) : RawEnvelope :=
  let ofRun := match payload with
    | .sessionState _ => false
    | _ => true
  { eventId := eventId, seq := 0, sessionId := startup.view.sessionId
    branchId := if ofRun then branchId else none
    runId := if ofRun then runId else none
    agentId := none, deviceId := startup.deviceId, authorityEpoch := 0
    workerGeneration := startup.view.workerGeneration, causationId := none, committedAtMs := 0
    render := { durable := true, promptOmit := true }, payload := .event payload }

/-- `recovery_envelopes`: ids by generation, session, run and position. -/
def recoveryEnvelopes (runId : RunId) (branchId : Option BranchId) (payloads : List EventPayload) :
    List RawEnvelope :=
  payloads.mapIdx fun index payload =>
    startup.envelope
      ("turn-recovery-" ++ toString startup.view.workerGeneration ++ "-" ++
        startup.view.sessionId ++ "-" ++ runId ++ "-" ++ toString (index + 1))
      (some runId) branchId payload

/-- The public spawn whose parent can no longer resume it. -/
def abandonedSpawn : Option DelegationRecord :=
  startup.view.delegationForChildSession.filter fun record =>
    record.publicOperatorSpawn && record.fencingEpoch != startup.view.workerGeneration &&
      (record.state == .spawned || record.state == .reported) &&
      !((startup.view.latestRunState record.parentSessionId record.parentRunId
          record.parentBranchId).any (fun state => !state.isTerminal && state != .cancelling) &&
        startup.view.parentHasMetadata record.parentSessionId)

/-- The run's states, as the startup reads them back. -/
def stateEnvelopes (runId : RunId) (envelopes : List RawEnvelope) : List RawEnvelope :=
  envelopes.filter fun e => e.runId = some runId && e.payload.runState.isSome

/-- `latest_run_state` of the main branch. -/
def latestMainState (runId : RunId) (envelopes : List RawEnvelope) : Option RunState :=
  ((stateEnvelopes runId envelopes).filter (·.branchId.isNone)).getLast?.bind (·.payload.runState)

/-- `cancel_turn` on the spawned run, unless it has ended, is cancelling or was cancelled. -/
def cancelTurn (record : DelegationRecord) (journal : Journal) : Journal :=
  match (stateEnvelopes record.childRunId journal.envelopes).getLast? with
  | none => journal
  | some latest =>
    if startup.cancelRecorded ||
        latest.payload.runState.any fun state => state.isTerminal || state == .cancelling then
      journal
    else
      journal.append [startup.envelope ("public-spawn-recovery-cancelling-" ++ record.agentId)
        (some record.childRunId) latest.branchId (.runState .cancelling)]

/-- The child run of an abandoned spawn is cancelled and closed. -/
def closeAbandonedRun (record : DelegationRecord) (journal : Journal) :
    Except HaiderError Journal := do
  if (latestMainState record.childRunId journal.envelopes).any fun state => !state.isTerminal then
    let cancelled := startup.cancelTurn record journal
    let payloads ← resumptionTerminalPayloads startup.view record.childRunId cancelled.envelopes none
    return cancelled.append (startup.recoveryEnvelopes record.childRunId none payloads)
  else return journal

/-- `reconcile_abandoned_public_spawns`, for the session. -/
def reconcileAbandonedPublicSpawns (journal : Journal) : Except HaiderError Journal :=
  match startup.abandonedSpawn with
  | none => .ok journal
  | some record => do
    let closed ← startup.closeAbandonedRun record journal
    if startup.view.graphStatus.any fun graph => graph.phase == .active || graph.phase == .blocked then
      return closed.append (startup.abandonedGraph.map fun payload =>
        startup.envelope "graph-fact" none none payload)
    else return closed

/-- The passes over the journal that come before any run is recovered. -/
def sweep (names : RecoveryNames) (journal : Journal) : Except HaiderError Journal := do
  let batch ← reconcileBatch names startup.pass startup.view.sessionId journal
  startup.reconcileAbandonedPublicSpawns (journal.append batch)

/-- What the recovery loop carries from run to run. -/
structure Progress where
  journal : Journal
  work : List RecoveredWork := []
  activated : Bool := false

variable (argsDigest : RunId → Nat → String)

/-- One turn of the decision loop: decide, announce the first requeued run, commit. -/
def recoverRun (progress : Progress) (entry : RunId × RunReduction) :
    Except HaiderError Progress := do
  let decision ← decideRun argsDigest startup.view entry.1 entry.2
  let journal :=
    if decision.activate && !progress.activated then
      progress.journal.append (startup.recoveryEnvelopes entry.1 none [.sessionState .activeRun])
    else progress.journal
  return {
    journal := journal.append
      (startup.recoveryEnvelopes entry.1 entry.2.branchId decision.payloads)
    work := progress.work ++ decision.work
    activated := progress.activated || decision.activate }

/-- The order of the decision loop: by acceptance, runs without one last. -/
def acceptanceKey (reduction : RunReduction) : Nat :=
  (reduction.userSeq <|> reduction.retrySource.map (·.userSeq)).getD u64Max

/-- The runs in the order of their acceptance. -/
def runs (reductions : HashMap RunId RunReduction) : List (RunId × RunReduction) :=
  (reductions.entries.map fun entry => (entry.1, entry.2)).insertionSort fun a b =>
    acceptanceKey a.2 ≤ acceptanceKey b.2

/-- The loop of the recovery over the runs. -/
def recoverRuns (reductions : HashMap RunId RunReduction) (journal : Journal) :
    Except HaiderError Progress :=
  (runs reductions).foldlM (startup.recoverRun argsDigest) { journal }

end Startup

/-- A session between startups: its journal and the checkpoint of the last one. -/
structure SessionStore where
  journal : Journal
  checkpoint : RecoveryCheckpoint
  sound : CheckpointSound journal checkpoint

/-- A startup that completes takes the session from one state to the next. -/
structure Startup.Performs (names : RecoveryNames) (argsDigest : RunId → Nat → String)
    (startup : Startup) (before after : SessionStore) (swept : Journal) : Prop where
  sweeps : startup.sweep names before.journal = .ok swept
  reads : ReadsPages swept (min before.checkpoint.throughSeq startup.visitorCursor) startup.pages
  recovers : ∃ progress,
    startup.recoverRuns argsDigest (before.checkpoint.hydrate startup.pages).reductions swept =
        .ok progress ∧
      after.journal = progress.journal
  stores : after.checkpoint = before.checkpoint.store (before.checkpoint.hydrate startup.pages)

end HaiderAgent.TurnRecovery
