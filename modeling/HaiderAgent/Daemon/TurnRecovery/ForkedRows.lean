import HaiderAgent.Daemon.TurnRecovery.Commits
import HaiderAgent.Daemon.TurnRecovery.Standing
import HaiderAgent.Store.Fork.Timeline

/-!
# The rows of a forked session

What the reducers of startup recovery find in the journal of a child: the rows of the copied prefix
under the child's coordinates, in the standing they had, and behind them the closures of the lanes
that the fork cut in the middle.
-/

namespace HaiderAgent.Fork

open List

open TurnRecovery EffectRecovery
open Option (some_inj some_or none_or)

/-- What the reducers see of a payload. -/
def Payload.recorded : Payload → RawPayload
  | .raw payload => payload
  | .promptRetracted .. => .json (some "prompt_retracted") none
  | .responseDeltaDiscarded .. => .json (some "response_delta_discarded") none
  | .headlessCancelled => .event (.runState .cancelled)
  | .sessionForked _ => .json (some "session_forked") none

/-- A stored row as the envelope recovery reads. -/
def recorded (envelope : JournalEnvelope) : RawEnvelope where
  eventId := envelope.eventId
  seq := envelope.seq
  sessionId := envelope.sessionId
  branchId := envelope.branchId
  runId := envelope.runId
  agentId := envelope.agentId
  deviceId := envelope.deviceId
  authorityEpoch := envelope.authorityEpoch
  workerGeneration := envelope.workerGeneration
  causationId := envelope.causationId
  committedAtMs := envelope.committedAtMs
  render := envelope.render
  payload := envelope.payload.recorded

/-- Rows numbered from one as a journal. -/
def sessionJournal (rows : List JournalEnvelope)
    (numbered : rows.map (·.seq) = range' 1 rows.length) : Journal where
  envelopes := rows.map recorded
  increasing := by
    have ordered : (rows.map (·.seq)).Pairwise (· < ·) := numbered ▸ pairwise_lt_range'
    exact pairwise_map.mpr (pairwise_map.mp ordered)
  positive := by
    intro e member
    obtain ⟨row, here, rfl⟩ := mem_map.mp member
    have listed : row.seq ∈ range' 1 rows.length := numbered ▸ mem_map_of_mem here
    exact (mem_range'_1.mp listed).1

/-- An envelope of the copied prefix under the coordinates of the child. -/
def moved (command : ForkCommand) (owner : Option AgentId) (source : JournalEnvelope) :
    JournalEnvelope :=
  { source with
    sessionId := command.sessionId, branchId := none, agentId := copyLane owner source.agentId }

/-- The copied prefix as the reducers read it in the child. -/
def movedRows (command : ForkCommand) (owner : Option AgentId) (selected : List JournalEnvelope) :
    List RawEnvelope :=
  selected.map fun source => recorded (moved command owner source)

/-! ## The rows of the child -/

theorem copyPayload_recorded {selected : List JournalEnvelope} {payload copy : Payload}
    (copied : copyPayload payloadView selected payload = .ok copy) :
    copy.recorded = payload.recorded ∧ copy.runState = payload.runState := by
  obtain rfl | ⟨childSeq, rfl⟩ := copyPayload_ok copied
  · exact ⟨rfl, rfl⟩
  · cases payload <;> exact ⟨rfl, rfl⟩

theorem Payload.recorded_runState (payload : Payload) :
    payload.recorded.runState = payload.runState := by
  cases payload with
  | raw payload =>
    unfold Payload.recorded Payload.runState RawPayload.runState
    split <;> simp_all
  | _ => rfl

section Accepted

variable {around : Surroundings} {command : ForkCommand} {owner : Option AgentId} {now : Nat}
  {selected copies child : List JournalEnvelope}

theorem copyFrom_sameRows
    (copied : copyFrom payloadView around command owner selected 1 selected = .ok copies) :
    List.Forall₂ SameRow (copies.map recorded) (movedRows command owner selected) := by
  rw [movedRows, forall₂_map_left_iff, forall₂_map_right_iff]
  refine (copyFrom_forall₂ copied).imp ?_
  rintro copy source ⟨childSeq, same⟩
  obtain ⟨payload, kept, same⟩ := ExceptFold.bind_eq_ok.mp same
  cases same
  exact ⟨rfl, rfl, rfl, (copyPayload_recorded kept).1⟩

theorem copyFrom_unfinishedLanes
    (copied : copyFrom payloadView around command owner selected 1 selected = .ok copies) :
    unfinishedLanes payloadView copies =
      unfinishedLanes payloadView (selected.map (moved command owner)) := by
  refine unfinishedLanes_congr ?_
  rw [forall₂_map_right_iff]
  refine (copyFrom_forall₂ copied).imp ?_
  rintro copy source ⟨childSeq, same⟩
  obtain ⟨payload, kept, same⟩ := ExceptFold.bind_eq_ok.mp same
  cases same
  exact ⟨rfl, rfl, (copyPayload_recorded kept).2⟩

/-- The rows that close lanes. -/
structure Closes (lanes : List Lane) (closed : List RawEnvelope) : Prop where
  branch : ∀ e ∈ closed, e.branchId = none
  cancelled : ∀ e ∈ closed, e.payload = .event (.runState .cancelled)
  ofLane : ∀ e ∈ closed, ∃ lane ∈ lanes, e.runId = some lane.1
  every : ∀ lane ∈ lanes, ∃ e ∈ closed, e.runId = some lane.1

/-- A row of no run: the idle state of the session, or the audit fact. -/
structure Bystander (e : RawEnvelope) : Prop where
  branch : e.branchId = none
  runId : e.runId = none
  payload : e.payload = .event (.sessionState (.idle false)) ∨
    e.payload = .json (some "session_forked") none

/-- The cancellations the fork adds are those of the unfinished lanes. -/
theorem laneClosures_close (first : Nat) (copies : List JournalEnvelope) :
    Closes (unfinishedLanes payloadView copies)
      ((Log.number Envelope.numbered first
        (laneClosures payloadView around command now copies)).map recorded) := by
  have closing (e : RawEnvelope) (mem : e ∈ (Log.number Envelope.numbered first
      (laneClosures payloadView around command now copies)).map recorded) :
      e.branchId = none ∧ e.payload = .event (.runState .cancelled) ∧
        ∃ lane ∈ unfinishedLanes payloadView copies, e.runId = some lane.1 := by
    obtain ⟨row, numbered, rfl⟩ := mem_map.mp mem
    obtain ⟨seq, _, bare, closure, rfl⟩ := Log.exists_of_mem_number numbered
    obtain ⟨lane, listed, rfl⟩ := mem_map.mp closure
    refine ⟨rfl, ?_, lane, (around.laneOrder_perm _).mem_iff.mp listed, rfl⟩
    cases headlessRun payloadView copies lane.1 <;> rfl
  refine ⟨fun e mem => (closing e mem).1, fun e mem => (closing e mem).2.1,
    fun e mem => (closing e mem).2.2, fun lane unfinished => ?_⟩
  have runs : ((Log.number Envelope.numbered first
      (laneClosures payloadView around command now copies)).map recorded).map (·.runId) =
      (laneClosures payloadView around command now copies).map (·.runId) := by
    have kept (seq : Nat) (e : JournalEnvelope) :
        ((fun row : RawEnvelope => row.runId) ∘ recorded) (Envelope.numbered seq e) = e.runId := rfl
    rw [map_map]
    exact Log.map_number kept _ _
  have listed : some lane.1 ∈ (laneClosures payloadView around command now copies).map (·.runId) := by
    rw [laneClosures, map_map]
    exact mem_map.mpr ⟨lane, (around.laneOrder_perm _).mem_iff.mpr unfinished, rfl⟩
  rw [← runs] at listed
  exact mem_map.mp listed

theorem Forked.rows (forked : Forked payloadView around command owner now selected copies child) :
    ∃ closed idle audit, child.map recorded = copies.map recorded ++ closed ++ [idle, audit] ∧
      Closes (unfinishedLanes payloadView (selected.map (moved command owner))) closed ∧
      Bystander idle ∧ Bystander audit := by
  have whole := forked.whole
  rw [boundary, Log.number_append, ← append_assoc] at whole
  refine ⟨_, _, _, by rw [whole, map_append, map_append]; rfl, ?_, ?_, ?_⟩
  · rw [← copyFrom_unfinishedLanes forked.copied]
    exact laneClosures_close _ _
  · exact ⟨rfl, rfl, .inl rfl⟩
  · exact ⟨rfl, rfl, .inr rfl⟩

end Accepted

/-! ## Effects -/

/-- A row that the effect pass skips. -/
structure Effectless (e : RawEnvelope) : Prop where
  decodable : Decodable e
  dispatch : ∀ effect, dispatchOf effect e = none
  outcome : ∀ effect, outcomeOf effect e = none
  card : ∀ menu, cardOf menu e = none

variable {lanes : List Lane} {e : RawEnvelope}

theorem effectless_of_payload (plain : e.payload = .event (.runState .cancelled) ∨
    e.payload = .event (.sessionState (.idle false)) ∨
    e.payload = .json (some "session_forked") none) : Effectless e := by
  rcases plain with payload | payload | payload <;> constructor <;>
    simp [Decodable, dispatchOf, outcomeOf, cardOf, payload, RawPayload.type,
      RawPayload.decodeEvent, recoveryReducerPayloadKinds]

variable {es fs : List RawEnvelope}

/-- What is pending depends on last dispatches' owners, last outcomes and open cards. -/
theorem nothingPending_of_views (nothing : NothingPending es) (decodable : ∀ e ∈ fs, Decodable e)
    (owners : ∀ effect,
      (lastDispatch effect es).map (·.runId) = (lastDispatch effect fs).map (·.runId))
    (outcomes : ∀ effect, lastOutcome effect es = lastOutcome effect fs)
    (cards : ∀ menu, openCard menu es = openCard menu fs) : NothingPending fs := by
  refine ⟨decodable, fun effect dispatch dispatched unexplained => ?_⟩
  have owner := owners effect
  rw [dispatched] at owner
  obtain ⟨source, found, same⟩ := Option.map_eq_some_iff.mp owner
  have explained := nothing.explained effect source found
  simp only [Unexplained, outcomes, cards] at explained
  change source.runId = dispatch.runId at same
  rw [← same]
  exact explained unexplained

theorem nothingPending_append {more : List RawEnvelope}
    (skipped : ∀ e ∈ more, Effectless e) : NothingPending (es ++ more) ↔ NothingPending es := by
  have none {β : Type} {f : RawEnvelope → Option β} (blind : ∀ e ∈ more, f e = none) :
      (es ++ more).filterMap f = es.filterMap f := by
    rw [filterMap_append, filterMap_eq_nil_iff.mpr blind, append_nil]
  have dispatches (effect : EffectId) : lastDispatch effect (es ++ more) = lastDispatch effect es := by
    rw [lastDispatch, none fun e mem => (skipped e mem).dispatch effect, lastDispatch]
  have outcomes (effect : EffectId) : lastOutcome effect (es ++ more) = lastOutcome effect es := by
    rw [lastOutcome, none fun e mem => (skipped e mem).outcome effect, lastOutcome]
  have cards (menu : MenuId) : openCard menu (es ++ more) = openCard menu es := by
    rw [openCard, none fun e mem => (skipped e mem).card menu, openCard]
  constructor
  · intro nothing
    exact nothingPending_of_views nothing
      (fun e mem => nothing.decodable e (mem_append_left _ mem))
      (fun effect => by rw [dispatches]) outcomes cards
  · intro nothing
    exact nothingPending_of_views nothing
      (forall_mem_append.mpr ⟨nothing.decodable, fun e new => (skipped e new).decodable⟩)
      (fun effect => by rw [dispatches]) (fun effect => (outcomes effect).symm)
      fun menu => (cards menu).symm

theorem filterMap_sameRows (rows : List.Forall₂ SameRow es fs)
    {β : Type} {f : RawEnvelope → Option β} (blind : ∀ a b, SameRow a b → f a = f b) :
    es.filterMap f = fs.filterMap f := by
  induction rows with
  | nil => rfl
  | cons row _ ih => rw [filterMap_cons, filterMap_cons, blind _ _ row, ih]

theorem nothingPending_of_sameRows (rows : List.Forall₂ SameRow es fs)
    (nothing : NothingPending es) : NothingPending fs := by
  have owners (effect : EffectId) :
      (lastDispatch effect es).map (·.runId) = (lastDispatch effect fs).map (·.runId) := by
    have same := filterMap_sameRows rows
      (f := fun e => (dispatchOf effect e).map (·.runId)) fun a b row => by
        simp only [dispatchOf, row.payload]
        split
        · simp [row.runId]
        · rfl
    rw [← map_filterMap, ← map_filterMap] at same
    rw [lastDispatch, lastDispatch, ← getLast?_map, ← getLast?_map, same]
  have outcomes (effect : EffectId) : lastOutcome effect es = lastOutcome effect fs := by
    rw [lastOutcome, lastOutcome, filterMap_sameRows rows fun a b row => by
      simp only [outcomeOf, row.payload]]
  have cards (menu : MenuId) : openCard menu es = openCard menu fs := by
    rw [openCard, openCard, filterMap_sameRows rows fun a b row => by
      simp only [cardOf, row.payload]]
  refine nothingPending_of_views nothing (fun e mem => ?_) owners outcomes cards
  obtain ⟨index, inside, rfl⟩ := mem_iff_getElem.mp mem
  have source := forall₂_iff_get.mp rows
  have row := source.2 index (source.1 ▸ inside) inside
  have decodable := nothing.decodable _ (get_mem es ⟨index, source.1 ▸ inside⟩)
  unfold Decodable at decodable ⊢
  rw [row.payload] at decodable
  exact decodable

/-! ## Run states -/

theorem latestRunState_append (runId : RunId) (es more : List RawEnvelope) :
    latestRunState runId (es ++ more) =
      (latestRunState runId more).or (latestRunState runId es) := by
  rw [latestRunState_eq_stateOf, latestRunState_eq_stateOf, latestRunState_eq_stateOf,
    filterMap_append, getLast?_append]

/-- A closed lane is cancelled, any other is not mentioned. -/
theorem Closes.latestRunState {closed : List RawEnvelope}
    (closes : Closes lanes closed) (runId : RunId) :
    latestRunState runId closed = some .cancelled ∧ (∃ agentId, (runId, agentId) ∈ lanes) ∨
      latestRunState runId closed = none ∧ ∀ agentId, (runId, agentId) ∉ lanes := by
  rw [latestRunState_eq_stateOf]
  cases last : (closed.filterMap (stateOf runId)).getLast? with
  | some state =>
    obtain ⟨e, mem, gives⟩ := mem_filterMap.mp (mem_of_getLast? last)
    obtain ⟨lane, unfinished, ofRun⟩ := closes.ofLane e mem
    unfold stateOf at gives
    split at gives
    · rename_i own
      rw [closes.cancelled e mem] at gives
      cases gives
      rw [own, some_inj] at ofRun
      exact .inl ⟨rfl, lane.2, ofRun ▸ unfinished⟩
    · cases gives
  | none =>
    refine .inr ⟨rfl, fun agentId unfinished => ?_⟩
    obtain ⟨e, mem, own⟩ := closes.every _ unfinished
    have silent := filterMap_eq_nil_iff.mp (getLast?_eq_none_iff.mp last) e mem
    rw [stateOf, if_pos own, closes.cancelled e mem] at silent
    cases silent

theorem laneState_eq (runId : RunId) (agentId : Option AgentId) (row : JournalEnvelope) :
    laneState payloadView (runId, agentId) row =
      if row.agentId = agentId then stateOf runId (recorded row) else none := by
  have states : payloadView.runState row.payload = (recorded row).payload.runState :=
    (Payload.recorded_runState _).symm
  rw [laneState, stateOf, states]
  cases scope : row.runId with
  | none => simp [recorded, scope]
  | some run =>
    simp only [recorded, scope, Option.map_some, Option.some.injEq, Prod.mk.injEq]
    by_cases lane : row.agentId = agentId <;> simp [lane]

/-- The last state of a run is the last state of one of its lanes. -/
theorem exists_lane_of_latestRunState {copies : List JournalEnvelope} {runId : RunId}
    {state : RunState} (last : latestRunState runId (copies.map recorded) = some state) :
    ∃ agentId, (copies.filterMap (laneState payloadView (runId, agentId))).getLast? = some state := by
  rw [latestRunState_eq_stateOf, filterMap_map] at last
  induction copies using reverseRecOn with
  | nil => cases last
  | append_singleton init final ih =>
    rw [filterMap_append, getLast?_append] at last
    cases gives : stateOf runId (recorded final) with
    | some latest =>
      simp only [filterMap_cons, Function.comp_apply, gives, filterMap_nil,
        getLast?_singleton, some_or] at last
      exact ⟨final.agentId, by simp [filterMap_append, laneState_eq, gives, last]⟩
    | none =>
      simp only [filterMap_cons, Function.comp_apply, gives, filterMap_nil,
        getLast?_nil, none_or] at last
      obtain ⟨agentId, found⟩ := ih last
      exact ⟨agentId, by simp [filterMap_append, laneState_eq _ _ final, gives, found]⟩

section Child

variable {around : Surroundings} {command : ForkCommand} {owner : Option AgentId} {now : Nat}
  {selected copies child : List JournalEnvelope}

/-- What the reducers find in a child: the moved rows and the closures of its unfinished lanes. -/
structure ChildRows (command : ForkCommand) (owner : Option AgentId)
    (selected : List JournalEnvelope) (rows copied closed : List RawEnvelope) : Prop where
  sameRows : List.Forall₂ SameRow copied (movedRows command owner selected)
  closes : Closes (unfinishedLanes payloadView (selected.map (moved command owner))) closed
  listed : hydrated rows = hydrated copied ++ closed
  effects : NothingPending rows ↔ NothingPending copied
  states : ∀ runId, latestRunState runId rows =
    (latestRunState runId closed).or (latestRunState runId copied)
  branch : ∀ e ∈ rows, e.branchId = none

/-- A fork's rows: the renumbered prefix, the closed lanes, and the audit. -/
theorem Forked.childRows (forked : Forked payloadView around command owner now selected copies child) :
    ∃ copied closed, ChildRows command owner selected (child.map recorded) copied closed := by
  obtain ⟨closed, idle, audit, whole, closes, idling, audited⟩ := forked.rows
  have bystanders : ∀ e ∈ [idle, audit], Bystander e := by simp [idling, audited]
  have unlisted (e : RawEnvelope) (mem : e ∈ [idle, audit]) :
      payloadKind e ∉ startupHydrationPayloadKinds := by
    rcases (bystanders e mem).payload with payload | payload <;>
      simp [payloadKind, payload, RawPayload.type, EventPayload.tag, startupHydrationPayloadKinds]
  have listed (e : RawEnvelope) (mem : e ∈ closed) :
      payloadKind e ∈ startupHydrationPayloadKinds := by
    simp [payloadKind, closes.cancelled e mem, RawPayload.type, EventPayload.tag,
      startupHydrationPayloadKinds]
  refine ⟨copies.map recorded, closed, copyFrom_sameRows forked.copied, closes, ?_, ?_, ?_, ?_⟩
  · have read : closed.filter (fun e => payloadKind e ∈ startupHydrationPayloadKinds) = closed :=
      filter_eq_self.mpr fun e mem => decide_eq_true (listed e mem)
    have unread : [idle, audit].filter (fun e => payloadKind e ∈ startupHydrationPayloadKinds) = [] :=
      filter_eq_nil_iff.mpr fun e mem => by simpa using unlisted e mem
    rw [whole, hydrated, filter_append, filter_append, read, unread, append_nil,
      hydrated]
  · rw [whole, append_assoc]
    refine nothingPending_append (forall_mem_append.mpr ⟨fun e mem => ?_, fun e mem => ?_⟩)
    · exact effectless_of_payload (.inl (closes.cancelled e mem))
    · exact effectless_of_payload (.inr (bystanders e mem).payload)
  · intro runId
    have silent : latestRunState runId [idle, audit] = none := by
      rw [latestRunState_eq_stateOf, getLast?_eq_none_iff, filterMap_eq_nil_iff]
      intro e mem
      rw [stateOf, (bystanders e mem).runId]
      rfl
    rw [whole, latestRunState_append, latestRunState_append, silent, none_or]
  · rw [whole]
    refine forall_mem_append.mpr ⟨forall_mem_append.mpr ⟨fun e copy => ?_, closes.branch⟩,
      fun e last => (bystanders e last).branch⟩
    obtain ⟨row, copied, rfl⟩ := mem_map.mp copy
    rcases forked.mem_cases (forked.whole ▸ mem_append_left _ copied) with
      ⟨_, _, _, same⟩ | ⟨_, _, _, _, _, rfl⟩
    · exact (copyEnvelope_ok same).2.2.2.1
    · rfl

end Child

theorem SameRow.symm {a b : RawEnvelope} (row : SameRow a b) : SameRow b a :=
  ⟨row.branchId.symm, row.sessionId.symm, row.runId.symm, row.payload.symm⟩

theorem latestRunState_sameRows (rows : List.Forall₂ SameRow es fs)
    (runId : RunId) : latestRunState runId es = latestRunState runId fs := by
  rw [latestRunState_eq_stateOf, latestRunState_eq_stateOf, filterMap_sameRows rows]
  intro a b row
  rw [stateOf, stateOf, row.runId, row.payload]

theorem reductionOf_congr {runId : RunId} (own : runEnvelopes runId es = runEnvelopes runId fs) :
    reductionOf es runId = reductionOf fs runId := by
  rw [reductionOf_eq, reductionOf_eq, own]

theorem runEnvelopes_append (runId : RunId) (es more : List RawEnvelope) :
    runEnvelopes runId (es ++ more) = runEnvelopes runId es ++ runEnvelopes runId more :=
  filter_append ..

theorem Closes.handoffs {closed : List RawEnvelope}
    (closes : Closes lanes closed) (es : List RawEnvelope) (runId : RunId) :
    (coordinatesOf (es ++ closed) runId).delegationMirrorHandoffs =
      (coordinatesOf es runId).delegationMirrorHandoffs := by
  have closing (e : RawEnvelope) (mem : e ∈ runEnvelopes runId closed) :
      e.payload = .event (.runState .cancelled) :=
    closes.cancelled e (mem_of_mem_filter mem)
  unfold coordinatesOf
  rw [getD_reductionOf, getD_reductionOf, runEnvelopes_append, foldl_append, foldl_coordinates]
  generalize runEnvelopes runId closed = later at closing ⊢
  generalize ((runEnvelopes runId es).foldl reduceEntry {}).coordinates = before
  induction later generalizing before with
  | nil => rfl
  | cons e rest ih =>
    rw [foldl_cons, ih fun e' mem => closing e' (mem_cons_of_mem _ mem)]
    simp [RunCoordinates.step, closing e mem_cons_self]

namespace ChildRows

variable {command : ForkCommand} {owner : Option AgentId} {selected : List JournalEnvelope}
  {rows copied closed : List RawEnvelope}
  (child : ChildRows command owner selected rows copied closed) {runId : RunId}

include child

theorem latest_terminal {state : RunState} (last : latestRunState runId rows = some state) :
    state.isTerminal = true := by
  rw [child.states, latestRunState_sameRows child.sameRows] at last
  rcases child.closes.latestRunState runId with ⟨cancelled, -⟩ | ⟨untouched, finished⟩
  · rw [cancelled, some_or, some_inj] at last
    subst last
    rfl
  · rw [untouched, none_or, movedRows, ← Function.comp_def, ← map_map] at last
    obtain ⟨agentId, lane⟩ := exists_lane_of_latestRunState last
    cases ended : state.isTerminal with
    | true => rfl
    | false => exact absurd (mem_unfinishedLanes.mpr ⟨state, lane, ended⟩) (finished agentId)

theorem latest_isSome (has : (latestRunState runId rows).isSome) :
    (latestRunState runId (movedRows command owner selected)).isSome := by
  rw [child.states, latestRunState_sameRows child.sameRows] at has
  rcases child.closes.latestRunState runId with ⟨-, agentId, unfinished⟩ | ⟨untouched, -⟩
  · obtain ⟨state, lane, -⟩ := mem_unfinishedLanes.mp unfinished
    obtain ⟨row, mem, gives⟩ := mem_filterMap.mp (mem_of_getLast? lane)
    rw [latestRunState_eq_stateOf, getLast?_isSome]
    refine ne_nil_of_mem (a := state) (mem_filterMap.mpr ⟨recorded row, ?_, ?_⟩)
    · rw [movedRows, ← Function.comp_def, ← map_map]
      exact mem_map_of_mem mem
    · rw [laneState_eq] at gives
      split at gives
      · exact gives
      · cases gives
  · rw [untouched, none_or] at has
    exact has

theorem isSome_of_moved (has : (latestRunState runId (movedRows command owner selected)).isSome) :
    (latestRunState runId rows).isSome := by
  rw [child.states, latestRunState_sameRows child.sameRows]
  cases latestRunState runId closed with
  | none => exact has
  | some state => rfl

theorem handoffs :
    (coordinatesOf (hydrated rows) runId).delegationMirrorHandoffs =
      (coordinatesOf (hydrated (movedRows command owner selected)) runId).delegationMirrorHandoffs := by
  have standing := reductionOf_sameRows (hydrated_sameRows child.sameRows) runId
  rw [child.listed, child.closes.handoffs, coordinatesOf, coordinatesOf]
  cases one : reductionOf (hydrated copied) runId with
  | none =>
    rw [one] at standing
    rw [Option.map_eq_none_iff.mp standing.symm]
  | some reduction =>
    rw [one] at standing
    obtain ⟨other, known, same⟩ := Option.map_eq_some_iff.mp standing.symm
    rw [known]
    exact (congrArg RunStanding.handoffs same).symm

variable {rest : List RawEnvelope}

section Finished

variable (finished : ∀ agentId,
  (runId, agentId) ∉ unfinishedLanes payloadView (selected.map (moved command owner)))

include finished

theorem reduceKey_closed {e : RawEnvelope} (mem : e ∈ closed) : reduceKey e ≠ some runId := by
  obtain ⟨lane, unfinished, ofRun⟩ := child.closes.ofLane e mem
  simp only [reduceKey, child.closes.cancelled e mem, recoveryRelevant, if_true, ofRun, ne_eq,
    some_inj]
  intro same
  exact finished lane.2 (same ▸ unfinished)

theorem remembered_moved (remembered : RememberedTail runId (hydrated rows) rest) :
    ∃ own, RememberedTail runId (hydrated (movedRows command owner selected)) own ∧
      (reductionOf rest runId).map RunReduction.standing =
        (reductionOf own runId).map RunReduction.standing := by
  rw [child.listed] at remembered
  obtain ⟨own, known, same⟩ := remembered.of_append fun _ mem => child.reduceKey_closed finished mem
  obtain ⟨other, moved, corresponding⟩ :=
    rememberedTail_sameRows (hydrated_sameRows child.sameRows) runId known
  refine ⟨other, moved, ?_⟩
  rw [← reductionOf_sameRows corresponding runId, ← reductionOf_congr same]

theorem remembered_child {own : List RawEnvelope}
    (remembered : RememberedTail runId (hydrated (movedRows command owner selected)) own) :
    ∃ rest, RememberedTail runId (hydrated rows) rest ∧
      (reductionOf rest runId).map RunReduction.standing =
        (reductionOf own runId).map RunReduction.standing := by
  have back : List.Forall₂ SameRow (movedRows command owner selected) copied :=
    (child.sameRows.imp fun _ _ row => SameRow.symm row).flip
  obtain ⟨other, known, corresponding⟩ :=
    rememberedTail_sameRows (hydrated_sameRows back) runId remembered
  refine ⟨other ++ closed, child.listed ▸ known.append closed, ?_⟩
  have foreign : runEnvelopes runId closed = [] :=
    filter_eq_nil_iff.mpr fun e mem => by simpa using child.reduceKey_closed finished mem
  rw [reductionOf_sameRows corresponding runId]
  refine congrArg _ (reductionOf_congr ?_)
  rw [runEnvelopes_append, foreign, append_nil]

end Finished

/-- The closure of a run is its last row, so recovery never knows the run without a state. -/
theorem state_of_closed {agentId : Option AgentId} (unfinished :
      (runId, agentId) ∈ unfinishedLanes payloadView (selected.map (moved command owner)))
    (remembered : RememberedTail runId (hydrated rows) rest)
    {reduction : RunReduction} (known : reductionOf rest runId = some reduction) :
    reduction.state ≠ none := by
  obtain ⟨closure, mem, own⟩ := child.closes.every _ unfinished
  have routed : closure ∈ runEnvelopes runId closed := by
    refine mem_filter.mpr ⟨mem, ?_⟩
    simp [reduceKey, child.closes.cancelled closure mem, recoveryRelevant, own]
  obtain ⟨last, final⟩ : ∃ last, (runEnvelopes runId closed).getLast? = some last :=
    Option.isSome_iff_exists.mp (getLast?_isSome.mpr (ne_nil_of_mem routed))
  obtain ⟨before, whole⟩ := remembered.suffix_filter
  change before ++ runEnvelopes runId rest = runEnvelopes runId (hydrated rows) at whole
  have ends : (before ++ runEnvelopes runId rest).getLast? = some last := by
    rw [whole, child.listed, runEnvelopes_append, getLast?_append, final, some_or]
  rw [reductionOf_eq] at known
  split at known
  · cases known
  · rename_i some
    obtain ⟨init, top, split⟩ := (eq_nil_or_concat' (runEnvelopes runId rest)).resolve_left some
    rw [split, getLast?_append, getLast?_append, getLast?_singleton,
      some_or, some_or, some_inj] at ends
    subst ends
    have payload : top.payload = .event (.runState .cancelled) :=
      child.closes.cancelled top (mem_of_mem_filter (mem_of_getLast? final))
    cases known
    rw [split, foldl_append, foldl_cons, foldl_nil]
    intro stateless
    have standing := reduceEntry_standing (init.foldl reduceEntry {}) top
    have state := congrArg RunStanding.state standing
    simp only [RunReduction.standing, stateless, RunStanding.step, payload] at state
    cases state

end ChildRows

end HaiderAgent.Fork
