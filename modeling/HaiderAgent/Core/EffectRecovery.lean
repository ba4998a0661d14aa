import HaiderAgent.Lib.EntryMap
import HaiderAgent.Lib.ExceptFold
import HaiderAgent.Store.Journal

/-!
# Startup reconciliation of dispatched effects

`reconcile_dispatched_effects` and `reduce_page` of `haider-core/src/recovery.rs`, and the
settlement the live worker performs on one run (`append_unknown_effect_scan`,
`haider-daemon/src/worker.rs`). The startup pass never reads a run state.
-/

namespace HaiderAgent.EffectRecovery

open List

/-- `RecoveryDispatch`: the coordinates of a dispatched effect. -/
structure RecoveryDispatch where
  eventId : EventId
  sessionId : SessionId
  branchId : Option BranchId
  runId : Option RunId
  agentId : Option AgentId
  authorityEpoch : Nat
  deriving DecidableEq, Repr

/-- The three maps of a session scan. An outcome is `true` when it is `Unknown`. -/
structure EffectLedger where
  dispatched : HashMap EffectId RecoveryDispatch := ∅
  outcomes : HashMap EffectId Bool := ∅
  recoveryMenus : HashMap MenuId EffectId := ∅
  deriving DecidableEq

/-- The payload types `reduce_page` opens (`RECOVERY_REDUCER_PAYLOAD_KINDS`). -/
def recoveryReducerPayloadKinds : List String :=
  ["effect", "menu_opened", "menu_answered", "menu_closed"]

variable (names : RecoveryNames) (pass : RecoveryPass) (sessionId : SessionId)
  (ledger : EffectLedger) (envelope : RawEnvelope)

/-- What one decoded event does to the scan. -/
def EffectLedger.observe (payload : EventPayload) : EffectLedger :=
  match payload with
  | .effect (.dispatched effect) =>
    { ledger with
      dispatched := ledger.dispatched.insert effect
        { eventId := envelope.eventId, sessionId := envelope.sessionId,
          branchId := envelope.branchId, runId := envelope.runId, agentId := envelope.agentId,
          authorityEpoch := envelope.authorityEpoch } }
  | .effect (.outcome effect outcome) =>
    { ledger with outcomes := ledger.outcomes.insert effect (outcome == .unknown) }
  | .menuOpened menu =>
    match menu.kind with
    | .recovery effect _ _ =>
      { ledger with recoveryMenus := ledger.recoveryMenus.insert menu.id effect }
    | _ => ledger
  | .menuAnswered answer => { ledger with recoveryMenus := ledger.recoveryMenus.erase answer.menu }
  | .menuClosed menu _ => { ledger with recoveryMenus := ledger.recoveryMenus.erase menu }
  | _ => ledger

/-- One envelope of `reduce_page`: other types are skipped, an undecodable one is corrupt. -/
def EffectLedger.reduceEnvelope : Except HaiderError EffectLedger :=
  if envelope.payload.type.any (· ∈ recoveryReducerPayloadKinds) then
    match envelope.payload.decodeEvent with
    | some payload => .ok (ledger.observe envelope payload)
    | none =>
      .error ⟨.storeCorrupt, "invalid effect payload in session " ++ envelope.sessionId ++
        ", seq " ++ toString envelope.seq, false⟩
  else .ok ledger

/-- `reduce_page`, over the pages of a session in order. -/
def reducePage (envelopes : List RawEnvelope) (ledger : EffectLedger) :
    Except HaiderError EffectLedger :=
  envelopes.foldlM EffectLedger.reduceEnvelope ledger

variable (effect : EffectId)

/-- Whether some open recovery card is about the effect. -/
def EffectLedger.cardOpen : Bool :=
  ledger.recoveryMenus.entries.any fun entry => entry.2 == effect

variable (dispatch : RecoveryDispatch)

/-- The `pending` test: no outcome, or an `Unknown` one of a run with no open card. -/
def EffectLedger.needsRecovery : Bool :=
  match ledger.outcomes.lookup effect with
  | none => true
  | some true => dispatch.runId.isSome && !ledger.cardOpen effect
  | some false => false

/-- The pending effects of a session, by effect id. -/
def EffectLedger.pending : List (EffectId × RecoveryDispatch) :=
  ((ledger.dispatched.entries.map fun entry => (entry.1, entry.2)).filter fun entry =>
    ledger.needsRecovery entry.1 entry.2).insertionSort fun a b => a.1 ≤ b.1

/-- The identifiers the pass derives by hashing; two effects never share a card identifier. -/
structure RecoveryNames where
  recoveryEventId : SessionId → Nat → EffectId → EventId
  recoveryEventIdFor : SessionId → Nat → EffectId → String → EventId
  recoveryMenuId : SessionId → EffectId → MenuId
  recoveryMenuId_injective : ∀ sessionId, Function.Injective (recoveryMenuId sessionId)

/-- One startup pass: its generation, its device and the probe evidence it gathers. -/
structure RecoveryPass where
  workerGeneration : Nat
  deviceId : DeviceId
  evidence : EffectId → Option String

/-- `recovery_envelope`, caused by the dispatch and in its run. -/
def recoveryEnvelope (eventId : EventId) (payload : EventPayload) : RawEnvelope where
  eventId := eventId
  seq := 0
  sessionId := dispatch.sessionId
  branchId := dispatch.branchId
  runId := dispatch.runId
  agentId := dispatch.agentId
  deviceId := pass.deviceId
  authorityEpoch := dispatch.authorityEpoch
  workerGeneration := pass.workerGeneration
  causationId := some dispatch.eventId
  committedAtMs := 0
  render := { durable := true, promptOmit := false }
  payload := .event payload

/-- The recovery card of an effect with its probe evidence. -/
def recoveryCard : Menu :=
  let menu := effectRecoveryMenu (names.recoveryMenuId sessionId effect) effect ("effect " ++ effect)
  { menu with
    body := menu.body ++ [(pass.evidence effect).getD "probe: evidence unavailable"] }

/-- The envelopes the pass appends for one pending effect. -/
def recoverEffect : List RawEnvelope :=
  let outcome :=
    if (ledger.outcomes.lookup effect).isNone then
      [recoveryEnvelope pass dispatch
        (names.recoveryEventId sessionId pass.workerGeneration effect)
        (.effect (.outcome effect .unknown))]
    else []
  -- an effect without a run has no owner to show a card to
  if dispatch.runId.isNone then outcome
  else
    outcome ++
      [recoveryEnvelope pass dispatch
          (names.recoveryEventIdFor sessionId pass.workerGeneration effect "menu")
          (.menuOpened (recoveryCard names pass sessionId effect)),
        recoveryEnvelope pass dispatch
          (names.recoveryEventIdFor sessionId pass.workerGeneration effect "state")
          (.runState .effectOutcomeUnknown)]

/-- The batch a pass appends to a session. -/
def recoveryBatch : List RawEnvelope :=
  ledger.pending.flatMap fun entry =>
    recoverEffect names pass sessionId ledger entry.1 entry.2

/-- `reconcile_dispatched_effects` on one session: the batch it appends. -/
def reconcileBatch (journal : Journal) : Except HaiderError (List RawEnvelope) := do
  let ledger ← reducePage journal.envelopes {}
  return recoveryBatch names pass sessionId ledger

/-- What one envelope does to the scan when nothing is corrupt. -/
def EffectLedger.step : EffectLedger :=
  match envelope.payload.decodeEvent with
  | some payload => ledger.observe envelope payload
  | none => ledger

/-- The payloads `reduce_page` opens all decode. -/
def Decodable : Prop :=
  envelope.payload.type.any (· ∈ recoveryReducerPayloadKinds) = true →
    envelope.payload.decodeEvent.isSome

instance : DecidablePred Decodable := fun _ => inferInstanceAs (Decidable (_ → _))

theorem reduceEnvelope_eq {envelope : RawEnvelope} (decodable : Decodable envelope)
    (ledger : EffectLedger) : ledger.reduceEnvelope envelope = .ok (ledger.step envelope) := by
  unfold EffectLedger.reduceEnvelope EffectLedger.step
  cases opened : envelope.payload.type.any (· ∈ recoveryReducerPayloadKinds) with
  | true =>
    obtain ⟨payload, decoded⟩ := Option.isSome_iff_exists.mp (decodable opened)
    simp [decoded]
  | false =>
    cases payload : envelope.payload with
    | event fact =>
      cases fact <;>
        simp_all [RawPayload.decodeEvent, EffectLedger.observe, RawPayload.type, EventPayload.tag,
          recoveryReducerPayloadKinds]
    | _ => simp [RawPayload.decodeEvent]

variable {envelopes : List RawEnvelope}

theorem reducePage_eq (decodable : ∀ e ∈ envelopes, Decodable e) (ledger : EffectLedger) :
    reducePage envelopes ledger = .ok (envelopes.foldl EffectLedger.step ledger) := by
  induction envelopes generalizing ledger with
  | nil => rfl
  | cons e rest ih =>
    have later := ih (fun e' mem => decodable e' (mem_cons_of_mem _ mem))
    unfold reducePage at later ⊢
    rw [foldlM_cons, reduceEnvelope_eq (decodable e mem_cons_self)]
    exact later (ledger.step e)

theorem decodable_of_reducePage {ledger scanned : EffectLedger}
    (completed : reducePage envelopes ledger = .ok scanned) : ∀ e ∈ envelopes, Decodable e := by
  induction envelopes generalizing ledger with
  | nil => simp
  | cons first rest ih =>
    obtain ⟨next, reduced, completed⟩ := ExceptFold.bind_eq_ok.mp completed
    refine forall_mem_cons.mpr ⟨fun opened => ?_, ih completed⟩
    unfold EffectLedger.reduceEnvelope at reduced
    rw [if_pos opened] at reduced
    cases decoded : first.payload.decodeEvent with
    | none =>
      rw [decoded] at reduced
      cases reduced
    | some payload => rfl

theorem foldl_step_stamp (first : Nat) (batch : List RawEnvelope) (ledger : EffectLedger) :
    (Journal.stamp first batch).foldl EffectLedger.step ledger =
      batch.foldl EffectLedger.step ledger := by
  induction batch generalizing first ledger with
  | nil => rfl
  | cons e rest ih => exact ih (first + 1) (ledger.step e)

theorem cardOpen_iff :
    ledger.cardOpen effect = true ↔ ∃ menu, ledger.recoveryMenus.lookup menu = some effect := by
  simp [EffectLedger.cardOpen, EntryMap.mem_entries_iff]

theorem mem_pending :
    (effect, dispatch) ∈ ledger.pending ↔
      ledger.dispatched.lookup effect = some dispatch ∧
        ledger.needsRecovery effect dispatch = true := by
  simp [EffectLedger.pending, EntryMap.mem_entries_iff]

theorem pending_nodup : (ledger.pending.map (·.1)).Nodup := by
  have keys : ((ledger.dispatched.entries.map fun entry => (entry.1, entry.2)).map (·.1)).Nodup := by
    rw [map_map]
    exact ledger.dispatched.keys_nodup
  have sorted := (perm_insertionSort (fun a b : EffectId × RecoveryDispatch => a.1 ≤ b.1)
    ((ledger.dispatched.entries.map fun entry => (entry.1, entry.2)).filter fun entry =>
      ledger.needsRecovery entry.1 entry.2)).map (·.1)
  exact sorted.nodup_iff.mpr (keys.sublist (filter_sublist.map _))

end HaiderAgent.EffectRecovery
