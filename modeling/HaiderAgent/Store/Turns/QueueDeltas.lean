import HaiderAgent.Store.Turns.Commands

/-!
# A queue kept by its deltas

The store recomputes the queue from messages, deltas and run states; a client keeps it by the deltas
alone. A cancellation, a retraction and a worker's own transition commit no delta, so each of them
parts the two when it meets a run whose message is still held.
-/

namespace HaiderAgent.Turns

open List ExceptFold QueueScan

open EntryMap (values)

section Contents

/-- What a row shows, without its place. -/
abbrev RowContent := EventId × String × DeliveryMode × Nat

/-- A row without its ordinal. -/
def QueueRow.content (row : QueueRow) : RowContent :=
  (row.id, row.text, row.mode, row.createdAtMs)

/-- `apply_delta` on the contents of the rows. -/
def applyContent (rows : List RowContent) : QueueChange → List RowContent
  | .enqueued row => rows.filter (·.1 ≠ row.id) ++ [row.content]
  | .removed id | .promotedSteer id | .consumed id => rows.filter (·.1 ≠ id)
  | .unknown => rows

theorem map_content_filter (rows : List QueueRow) (id : EventId) :
    (rows.filter fun held => held.id ≠ id).map QueueRow.content =
      (rows.map QueueRow.content).filter (·.1 ≠ id) := by
  rw [filter_map]
  rfl

theorem map_content_applyChange (rows : List QueueRow) (change : QueueChange) :
    (QueuePanelState.applyChange rows change).map QueueRow.content =
      applyContent (rows.map QueueRow.content) change := by
  cases change with
  | enqueued row =>
    simp only [QueuePanelState.applyChange, applyContent, map_append, map_content_filter,
      map_cons, map_nil]
  | removed id | promotedSteer id | consumed id => exact map_content_filter rows id
  | unknown => rfl

/-- A client's rows after a stream of deltas. -/
theorem contents_applyDeltas (panel : QueuePanelState) (deltas : List QueueDelta) :
    (panel.applyDeltas deltas).rows.map QueueRow.content =
      deltas.foldl (fun rows delta => applyContent rows delta.change)
        (panel.rows.map QueueRow.content) := by
  unfold QueuePanelState.applyDeltas
  induction deltas generalizing panel with
  | nil => rfl
  | cons delta rest ih =>
    rw [foldl_cons, foldl_cons, ih, ← map_content_applyChange]
    rfl

end Contents

section Numbering

/-- An entry with another ordinal. -/
def QueuedEntry.withOrdinal (entry : QueuedEntry) (ordinal : Nat) : QueuedEntry :=
  { entry with row := { entry.row with ordinal := ordinal } }

/-- The entries numbered on from an index. -/
def numbered : Nat → List QueuedEntry → List QueuedEntry
  | _, [] => []
  | index, entry :: rest => entry.withOrdinal (index + 1) :: numbered (index + 1) rest

variable {index : Nat} {entries : List QueuedEntry}

theorem numbered_of_ok {placed : List QueuedEntry}
    (returned : numberEntries index entries = .ok placed) : placed = numbered index entries := by
  induction entries generalizing index placed with
  | nil =>
    cases returned
    rfl
  | cons entry rest ih =>
    obtain ⟨-, rest'⟩ := ensure_bind_eq_ok.mp returned
    obtain ⟨later, placedRest, same⟩ := bind_eq_ok.mp rest'
    cases same
    rw [ih placedRest]
    rfl

theorem numberEntries_ok (few : index + entries.length ≤ u32Max) :
    numberEntries index entries = .ok (numbered index entries) := by
  induction entries generalizing index with
  | nil => rfl
  | cons entry rest ih =>
    rw [length_cons] at few
    have here : decide (index + 1 ≤ u32Max) = true := by
      rw [decide_eq_true_eq]
      omega
    refine ensure_bind_eq_ok.mpr ⟨here, ?_⟩
    rw [ih (by omega)]
    rfl

theorem contents_numbered (index : Nat) (entries : List QueuedEntry) :
    (numbered index entries).map (·.row.content) = entries.map (·.row.content) := by
  induction entries generalizing index with
  | nil => rfl
  | cons entry rest ih =>
    rw [numbered, map_cons, map_cons, ih]
    rfl

theorem rows_numbered {others : List QueuedEntry}
    (same : entries.map (·.row.content) = others.map (·.row.content)) :
    (numbered index entries).map (·.row) = (numbered index others).map (·.row) := by
  induction entries generalizing index others with
  | nil =>
    cases others with
    | nil => rfl
    | cons other rest => cases same
  | cons entry rest ih =>
    cases others with
    | nil => cases same
    | cons other others =>
      simp only [map_cons, cons.injEq, QueueRow.content, Prod.mk.injEq] at same
      obtain ⟨⟨id, text, mode, created⟩, later⟩ := same
      rw [numbered, numbered, map_cons, map_cons, ih later]
      simp only [QueuedEntry.withOrdinal, id, text, mode, created]

theorem mem_numbered {placed : QueuedEntry} (mem : placed ∈ numbered index entries) :
    ∃ entry ∈ entries, ∃ ordinal, placed = entry.withOrdinal ordinal := by
  induction entries generalizing index with
  | nil => simp [numbered] at mem
  | cons entry rest ih =>
    rcases mem_cons.mp mem with here | later
    · exact ⟨entry, mem_cons_self, index + 1, here⟩
    · obtain ⟨found, member', ordinal, same⟩ := ih later
      exact ⟨found, mem_cons_of_mem _ member', ordinal, same⟩

theorem length_numbered (index : Nat) (entries : List QueuedEntry) :
    (numbered index entries).length = entries.length := by
  simpa using congrArg length (contents_numbered index entries)

end Numbering

section Held

/-- The queue before its rows are numbered. -/
def queueOf (envelopes : List Envelope) : List QueuedEntry :=
  (queueScan (isQueued envelopes) envelopes).entries

variable {envelopes : List Envelope}

theorem queueEntries_of_ok {revision : Nat}
    {entries : List QueuedEntry} (returned : queueEntries envelopes = .ok (revision, entries)) :
    revision = (scanAll envelopes).revision ∧ entries = numbered 0 (queueOf envelopes) := by
  obtain ⟨placed, places, same⟩ := bind_eq_ok.mp returned
  cases same
  rw [queueScan_eq_restrict]
  exact ⟨rfl, numbered_of_ok places⟩

/-- The queue is what is held of the queued runs, the oldest message first. -/
theorem queueOf_eq (increasing : Log.Increasing (·.seq) envelopes) :
    queueOf envelopes =
      ((values (scanAll envelopes).messages).filter fun entry =>
        isQueued envelopes entry.runId &&
          decide (entry.row.id ∈ (scanAll envelopes).heldIds)).reverse := by
  have orderly := orderly_scanAll increasing
  have kept : ((EntryMap.filterKeys (isQueued envelopes) (scanAll envelopes).messages).entries.map
      (·.2)) = (values (scanAll envelopes).messages).filter fun entry =>
        isQueued envelopes entry.runId := by
    unfold values
    rw [filter_map]
    refine congrArg _ (filter_congr ?_)
    intro item mem
    simp only [Function.comp_apply, (orderly.traced item mem).1]
  unfold queueOf QueueScan.entries
  rw [queueScan_eq_restrict]
  show ((((EntryMap.filterKeys (isQueued envelopes) (scanAll envelopes).messages).entries.map
    (·.2)).filter fun entry => decide (entry.row.id ∈ (scanAll envelopes).heldIds)).insertionSort
      _) = _
  rw [kept, filter_filter, Log.insertionSort_newestFirst]
  · congr 2
    funext entry
    exact Bool.and_comm _ _
  · exact orderly.newestFirst.sublist filter_sublist

/-- The change of a delta, if it is about a run. -/
def Envelope.changeMark (runId : RunId) (envelope : Envelope) : Option QueueChange :=
  if envelope.runId = some runId then envelope.delta?.map (·.change) else none

/-- The last change of a run's row. -/
def lastChange (envelopes : List Envelope) (runId : RunId) : Option QueueChange :=
  (envelopes.filterMap (Envelope.changeMark runId)).getLast?

/-- Whether a run's message was enqueued and no delta has taken it out since. -/
def heldBack (envelopes : List Envelope) (runId : RunId) : Bool :=
  match lastChange envelopes runId with
  | some (.enqueued _) => true
  | _ => false

/-- The entries a scan holds, the newest first. -/
def QueueScan.held (scan : QueueScan) : List QueuedEntry :=
  (values scan.messages).filter fun entry => decide (entry.row.id ∈ scan.heldIds)

theorem QueueScan.mem_held {scan : QueueScan} {entry : QueuedEntry} :
    entry ∈ scan.held ↔ entry ∈ values scan.messages ∧ entry.row.id ∈ scan.heldIds := by
  simp [QueueScan.held]

/-- A held message waits in a queued run, and what is held was enqueued for it. -/
structure Tended (envelopes : List Envelope) : Prop where
  known : ∀ id ∈ (scanAll envelopes).heldIds, ∃ e ∈ envelopes, e.eventId = id
  queued : ∀ entry ∈ (scanAll envelopes).held,
    isQueued envelopes entry.runId = true ∧ heldBack envelopes entry.runId = true
  started : ∀ runId, (scanAll envelopes).messages.lookup runId ≠ none →
    lastState envelopes runId ≠ none
  few : (scanAll envelopes).held.length ≤ u32Max

theorem Tended.queueOf_eq (tended : Tended envelopes)
    (increasing : Log.Increasing (·.seq) envelopes) :
    queueOf envelopes = (scanAll envelopes).held.reverse := by
  rw [Turns.queueOf_eq increasing]
  refine congrArg _ (filter_congr ?_)
  intro entry mem
  by_cases held : entry.row.id ∈ (scanAll envelopes).heldIds
  · simp [held, (tended.queued entry (QueueScan.mem_held.mpr ⟨mem, held⟩)).1]
  · simp [held]

end Held

section Batches

/-- Payloads that neither bring a message nor change the queue. -/
def Payload.queueSilent : Payload → Bool
  | .userMessage .. | .peerMessage _ | .queueChanged _ => false
  | _ => true

theorem queueSilent_stamped (now seq : Nat) (payload : Payload) :
    (payload.stamped now seq).queueSilent = payload.queueSilent := by
  cases payload <;> rfl

variable {e : Envelope}

theorem entryOf_of_silent (silent : e.payload.queueSilent = true) (runId : RunId) :
    entryOf e runId = none := by
  unfold QueueScan.entryOf
  cases payload : e.payload <;> simp_all [Payload.queueSilent]

theorem step_of_silent (silent : e.payload.queueSilent = true)
    (scan : QueueScan) : scan.step (fun _ => true) e = scan := by
  unfold QueueScan.step
  split
  · simp_all [Payload.queueSilent]
  · unfold QueueScan.message
    split
    · rfl
    · rw [entryOf_of_silent silent]

variable {gained : List Envelope}

theorem foldl_step_of_silent
    (silent : ∀ e ∈ gained, e.payload.queueSilent = true) (scan : QueueScan) :
    gained.foldl (step fun _ => true) scan = scan := by
  induction gained with
  | nil => rfl
  | cons e rest ih =>
    obtain ⟨here, later⟩ := forall_mem_cons.mp silent
    rw [foldl_cons, step_of_silent here, ih later]

theorem delta?_of_silent (silent : e.payload.queueSilent = true) :
    e.delta? = none := by
  unfold Envelope.delta?
  cases payload : e.payload <;> simp_all [Payload.queueSilent]

theorem filterMap_delta?_of_silent (silent : ∀ e ∈ gained, e.payload.queueSilent = true) :
    gained.filterMap Envelope.delta? = [] :=
  filterMap_eq_nil_iff.mpr fun e mem => delta?_of_silent (silent e mem)

theorem silent_stampBatch {journal : Journal} {now : Nat} {batch : List Draft}
    (silent : ∀ draft ∈ batch, draft.payload.queueSilent = true) :
    ∀ e ∈ journal.stampBatch now batch, e.payload.queueSilent = true := by
  intro e mem
  obtain ⟨seq, -, draft, found, rfl⟩ := Log.exists_of_mem_number mem
  exact (queueSilent_stamped now seq draft.payload).trans (silent draft found)

theorem scanAll_append (envelopes gained : List Envelope) :
    scanAll (envelopes ++ gained) =
      gained.foldl (step fun _ => true) (scanAll envelopes) := by
  unfold scanAll queueScan
  rw [foldl_append]

theorem lastChange_append (envelopes gained : List Envelope) (runId : RunId) :
    lastChange (envelopes ++ gained) runId =
      (gained.filterMap (Envelope.changeMark runId)).getLast?.or (lastChange envelopes runId) := by
  unfold lastChange
  rw [filterMap_append, getLast?_append]

variable {envelopes : List Envelope} {runId : RunId}

theorem heldBack_of_unmarked (unmarked : ∀ e ∈ gained, e.changeMark runId = none) :
    heldBack (envelopes ++ gained) runId = heldBack envelopes runId := by
  unfold heldBack
  rw [lastChange_append, filterMap_eq_nil_iff.mpr unmarked]
  rfl

/-- How the store's queue follows the deltas of what a journal gained. -/
structure Follows (envelopes gained : List Envelope) : Prop where
  tended : Tended (envelopes ++ gained)
  contents : (scanAll (envelopes ++ gained)).held.reverse.map (·.row.content) =
    (gained.filterMap Envelope.delta?).foldl (fun rows delta => applyContent rows delta.change)
      ((scanAll envelopes).held.reverse.map (·.row.content))

theorem lastState_grow (known : lastState envelopes runId ≠ none) :
    lastState (envelopes ++ gained) runId ≠ none := by
  rw [lastState_eq] at known ⊢
  rw [filterMap_append, getLast?_append]
  intro gone
  exact known (Option.or_eq_none_iff.mp gone).2

variable {scan : QueueScan}

/-- A message whose id is not held joins the scan without being held. -/
theorem held_message (new : e.eventId ∉ scan.heldIds) :
    (scan.message (fun _ => true) e).held = scan.held ∧
      (scan.message (fun _ => true) e).heldIds = scan.heldIds ∧
      ∀ runId, (scan.message (fun _ => true) e).messages.lookup runId ≠ none →
        scan.messages.lookup runId ≠ none ∨
          e.payload.queueSilent = false ∧ e.runId = some runId := by
  unfold QueueScan.message
  split
  · exact ⟨rfl, rfl, fun runId present => .inl present⟩
  · rename_i owner run
    split
    · exact ⟨rfl, rfl, fun runId present => .inl present⟩
    · rename_i entry made
      split
      · rename_i fresh
        simp only [Bool.true_and, Option.isNone_iff_eq_none] at fresh
        refine ⟨?_, rfl, ?_⟩
        · unfold QueueScan.held
          rw [EntryMap.values_insert_absent fresh, filter_cons_of_neg]
          simpa [(fields_of_entryOf made).2.1] using new
        · intro runId present
          by_cases same : owner = runId
          · refine .inr ⟨Bool.eq_false_iff.mpr fun silent => ?_, same ▸ run⟩
            rw [entryOf_of_silent silent] at made
            cases made
          · rw [AList.lookup_insert_ne (Ne.symm same)] at present
            exact .inl present
      · exact ⟨rfl, rfl, fun runId present => .inl present⟩

theorem step_of_bare {e : Envelope} (bare : e.delta? = none) :
    scan.step (fun _ => true) e = scan.message (fun _ => true) e := by
  unfold QueueScan.step
  split
  · simp_all [Envelope.delta?]
  · rfl

/-- Envelopes without a delta and with new ids leave what is held. -/
theorem held_of_quiet
    (noDelta : ∀ e ∈ gained, e.delta? = none) (new : ∀ e ∈ gained, e.eventId ∉ scan.heldIds) :
    (gained.foldl (step fun _ => true) scan).held = scan.held ∧
      (gained.foldl (step fun _ => true) scan).heldIds = scan.heldIds ∧
      ∀ runId,
        (gained.foldl (step fun _ => true) scan).messages.lookup runId ≠ none →
          scan.messages.lookup runId ≠ none ∨
            ∃ e ∈ gained, e.payload.queueSilent = false ∧ e.runId = some runId := by
  induction gained generalizing scan with
  | nil => exact ⟨rfl, rfl, fun runId present => .inl present⟩
  | cons e rest ih =>
    obtain ⟨bare, restBare⟩ := forall_mem_cons.mp noDelta
    obtain ⟨here, restNew⟩ := forall_mem_cons.mp new
    obtain ⟨heldHere, idsHere, keysHere⟩ := held_message here
    rw [foldl_cons, step_of_bare bare]
    obtain ⟨held, ids, keys⟩ := ih restBare (by rw [idsHere]; exact restNew)
    refine ⟨held.trans heldHere, ids.trans idsHere, fun runId present => ?_⟩
    rcases keys runId present with old | ⟨e', mem, found⟩
    · rcases keysHere runId old with older | found
      · exact .inl older
      · exact .inr ⟨e, mem_cons_self, found⟩
    · exact .inr ⟨e', mem_cons_of_mem _ mem, found⟩

theorem Tended.unheld (tended : Tended envelopes)
    (new : ∀ e ∈ gained, ∀ old ∈ envelopes, old.eventId ≠ e.eventId) :
    ∀ e ∈ gained, e.eventId ∉ (scanAll envelopes).heldIds := by
  intro e mem held
  obtain ⟨old, there, same⟩ := tended.known _ held
  exact new e mem old there same

/-- Envelopes that commit no delta, whose messages are new and whose held runs stay queued. -/
theorem Tended.quiet (tended : Tended envelopes) (noDelta : ∀ e ∈ gained, e.delta? = none)
    (new : ∀ e ∈ gained, ∀ old ∈ envelopes, old.eventId ≠ e.eventId)
    (waits : ∀ entry ∈ (scanAll envelopes).held, isQueued (envelopes ++ gained) entry.runId = true)
    (joined : ∀ e ∈ gained, e.payload.queueSilent = false → ∀ runId, e.runId = some runId →
      lastState (envelopes ++ gained) runId ≠ none) :
    Follows envelopes gained := by
  obtain ⟨held, ids, keys⟩ := held_of_quiet noDelta (tended.unheld new)
  rw [← scanAll_append] at held ids keys
  refine ⟨⟨?_, ?_, ?_, ?_⟩, ?_⟩
  · intro id mem
    rw [ids] at mem
    obtain ⟨e, there, found⟩ := tended.known id mem
    exact ⟨e, mem_append_left _ there, found⟩
  · intro entry mem
    rw [held] at mem
    refine ⟨waits entry mem, ?_⟩
    rw [heldBack_of_unmarked fun e there => by simp [Envelope.changeMark, noDelta e there]]
    exact (tended.queued entry mem).2
  · intro runId present
    rcases keys runId present with old | ⟨e, mem, loud, owner⟩
    · exact lastState_grow (tended.started runId old)
    · exact joined e mem loud runId owner
  · rw [held]
    exact tended.few
  · rw [held, filterMap_eq_nil_iff.mpr noDelta]
    rfl

/-- The row a change takes out of the queue. -/
def QueueChange.takesOut : QueueChange → Option EventId
  | .removed id | .promotedSteer id | .consumed id => some id
  | .enqueued _ | .unknown => none

variable {id : EventId}

theorem applyContent_takesOut {change : QueueChange}
    (out : change.takesOut = some id) (rows : List RowContent) :
    applyContent rows change = rows.filter (·.1 ≠ id) := by
  cases change <;> cases out <;> rfl

variable {delta : QueueDelta}

theorem change_takesOut (out : delta.change.takesOut = some id) (scan : QueueScan) (seq : Nat) :
    (scan.change seq delta).messages = scan.messages ∧
      (scan.change seq delta).heldIds = scan.heldIds.erase id := by
  unfold QueueScan.change
  cases change : delta.change <;> rw [change] at out <;> cases out <;> exact ⟨rfl, rfl⟩

theorem held_takesOut (out : delta.change.takesOut = some id) (scan : QueueScan) (seq : Nat) :
    (scan.change seq delta).held = scan.held.filter fun entry => entry.row.id ≠ id := by
  obtain ⟨messages, ids⟩ := change_takesOut out scan seq
  unfold QueueScan.held
  rw [messages, ids, filter_filter]
  refine filter_congr fun entry _ => ?_
  simp [Finset.mem_erase]

theorem contents_filter (entries : List QueuedEntry) (id : EventId) :
    (entries.filter fun entry => entry.row.id ≠ id).reverse.map (·.row.content) =
      (entries.reverse.map (·.row.content)).filter (·.1 ≠ id) := by
  rw [filter_map, filter_reverse]
  rfl

variable {before : List Envelope} {last : Envelope}

theorem step_of_delta (carries : last.delta? = some delta) :
    scan.step (fun _ => true) last = scan.change last.seq delta := by
  unfold Envelope.delta? at carries
  unfold QueueScan.step
  split <;> simp_all

/-- A delta takes a message out, after envelopes without one. -/
theorem Tended.takeOut (tended : Tended envelopes) (noDelta : ∀ e ∈ before, e.delta? = none)
    (new : ∀ e ∈ before, ∀ old ∈ envelopes, old.eventId ≠ e.eventId)
    (carries : last.delta? = some delta) (out : delta.change.takesOut = some id)
    (waits : ∀ entry ∈ (scanAll envelopes).held, entry.row.id ≠ id →
      isQueued (envelopes ++ (before ++ [last])) entry.runId = true ∧
        heldBack (envelopes ++ (before ++ [last])) entry.runId = true)
    (joined : ∀ e ∈ before, e.payload.queueSilent = false → ∀ runId, e.runId = some runId →
      lastState (envelopes ++ (before ++ [last])) runId ≠ none) :
    Follows envelopes (before ++ [last]) := by
  obtain ⟨held, ids, keys⟩ := held_of_quiet noDelta (tended.unheld new)
  have scanned : scanAll (envelopes ++ (before ++ [last])) =
      (before.foldl (step fun _ => true) (scanAll envelopes)).change last.seq delta := by
    rw [scanAll_append, foldl_append, foldl_cons, foldl_nil, step_of_delta carries]
  have heldAfter : (scanAll (envelopes ++ (before ++ [last]))).held =
      (scanAll envelopes).held.filter fun entry => entry.row.id ≠ id := by
    rw [scanned, held_takesOut out, held]
  obtain ⟨messages, erased⟩ := change_takesOut out
    (before.foldl (step fun _ => true) (scanAll envelopes)) last.seq
  rw [← scanned] at messages erased
  refine ⟨⟨?_, ?_, ?_, ?_⟩, ?_⟩
  · intro held' mem
    rw [erased, ids] at mem
    obtain ⟨e, there, found⟩ := tended.known held' (Finset.mem_of_mem_erase mem)
    exact ⟨e, mem_append_left _ there, found⟩
  · intro entry mem
    rw [heldAfter] at mem
    obtain ⟨there, kept⟩ := mem_filter.mp mem
    exact waits entry there (of_decide_eq_true kept)
  · intro runId present
    rw [messages] at present
    rcases keys runId present with old | ⟨e, mem, loud, owner⟩
    · exact lastState_grow (tended.started runId old)
    · exact joined e mem loud runId owner
  · rw [heldAfter]
    exact (length_filter_le _ _).trans tended.few
  · rw [heldAfter, contents_filter, filterMap_append,
      filterMap_eq_nil_iff.mpr noDelta, filterMap_cons_some carries]
    exact (applyContent_takesOut out _).symm

variable {entry : QueuedEntry} {row : QueueRow}

/-- What the delta of a new message does to the scan that has just taken it. -/
theorem held_enqueued (absent : scan.messages.lookup runId = none) (named : row.id = entry.row.id)
    (new : ∀ other ∈ values scan.messages, other.row.id ≠ row.id) (seq revision : Nat) :
    (change { scan with messages := scan.messages.insert runId entry } seq
        ⟨revision, .enqueued row⟩).held =
      setMode row entry :: scan.held := by
  have others : (values scan.messages).map (setMode row) = values scan.messages := by
    conv_rhs => rw [← map_id (values scan.messages)]
    refine map_congr_left fun other mem => ?_
    exact if_neg (new other mem)
  unfold QueueScan.held QueueScan.change
  rw [EntryMap.values_mapEntries, EntryMap.values_insert_absent absent, map_cons, others,
    filter_cons_of_pos]
  · refine congrArg _ (filter_congr fun other mem => ?_)
    simp [new other mem]
  · simp [(fields_setMode row entry).2.1, named]

/-- A new message of a run without one, and its delta, among envelopes that touch nothing. -/
theorem Tended.enqueue {before between after : List Envelope} {message last : Envelope}
    {revision : Nat} (tended : Tended envelopes) (increasing : Log.Increasing (·.seq) envelopes)
    (beforeSilent : ∀ e ∈ before, e.payload.queueSilent = true)
    (betweenSilent : ∀ e ∈ between, e.payload.queueSilent = true)
    (afterSilent : ∀ e ∈ after, e.payload.queueSilent = true)
    (owner : message.runId = some runId) (bare : message.delta? = none)
    (made : entryOf message runId = some entry)
    (absent : (scanAll envelopes).messages.lookup runId = none)
    (new : ∀ old ∈ envelopes, old.eventId ≠ message.eventId)
    (carries : last.delta? = some ⟨revision, .enqueued row⟩) (named : row.id = message.eventId)
    (shown : (setMode row entry).row.content = row.content)
    (waits : ∀ other ∈ (scanAll envelopes).held,
      isQueued (envelopes ++ gained) other.runId = true ∧
        heldBack (envelopes ++ gained) other.runId = true)
    (opens : isQueued (envelopes ++ gained) runId = true ∧
      heldBack (envelopes ++ gained) runId = true)
    (room : (scanAll envelopes).held.length + 1 ≤ u32Max)
    (split : gained = before ++ message :: (between ++ last :: after)) : Follows envelopes gained := by
  obtain ⟨-, sameId, sameRun⟩ := fields_of_entryOf made
  have taken : (scanAll envelopes).step (fun _ => true) message =
      { scanAll envelopes with messages := (scanAll envelopes).messages.insert runId entry } := by
    rw [step_of_bare bare]
    simp [QueueScan.message, owner, made, absent]
  have scanned : scanAll (envelopes ++ gained) =
      change
        { scanAll envelopes with messages := (scanAll envelopes).messages.insert runId entry }
        last.seq ⟨revision, .enqueued row⟩ := by
    rw [split, scanAll_append, foldl_append, foldl_step_of_silent beforeSilent, foldl_cons,
      taken, foldl_append, foldl_step_of_silent betweenSilent, foldl_cons, step_of_delta carries,
      foldl_step_of_silent afterSilent]
  have others : ∀ other ∈ values (scanAll envelopes).messages, other.row.id ≠ row.id := by
    intro other mem
    obtain ⟨item, found, rfl⟩ := mem_map.mp mem
    obtain ⟨-, e, there, -, id, -⟩ := (orderly_scanAll increasing).traced item found
    rw [named, ← id]
    exact new e there
  have heldAfter := held_enqueued absent (named.trans sameId.symm) others last.seq revision
  rw [← scanned] at heldAfter
  refine ⟨⟨?_, ?_, ?_, ?_⟩, ?_⟩
  · intro id mem
    rw [scanned] at mem
    rcases Finset.mem_insert.mp mem with rfl | old
    · exact ⟨message, by simp [split], named.symm⟩
    · obtain ⟨e, there, found⟩ := tended.known id old
      exact ⟨e, mem_append_left _ there, found⟩
  · intro held mem
    rw [heldAfter] at mem
    rcases mem_cons.mp mem with rfl | old
    · rw [(fields_setMode row entry).2.2, sameRun]
      exact opens
    · exact waits held old
  · intro run present
    by_cases same : run = runId
    · subst same
      have queued := isQueued_iff.mp opens.1
      rw [queued]
      exact Option.some_ne_none _
    · rw [scanned] at present
      refine lastState_grow (tended.started run ?_)
      intro gone
      apply present
      show (EntryMap.mapEntries _ ((scanAll envelopes).messages.insert runId entry)).lookup run = none
      rw [EntryMap.lookup_mapEntries, AList.lookup_insert_ne same, gone, Option.map_none]
  · rw [heldAfter, length_cons]
    exact room
  · have fresh : ∀ content ∈ (scanAll envelopes).held.reverse.map (·.row.content),
        content.1 ≠ row.id := by
      intro content mem
      obtain ⟨other, there, rfl⟩ := mem_map.mp mem
      exact others other (mem_held.mp (mem_reverse.mp there)).1
    have unfiltered := filter_eq_self.mpr fun content mem =>
      decide_eq_true (fresh content mem)
    rw [heldAfter, split, reverse_cons, map_append, filterMap_append,
      filterMap_delta?_of_silent beforeSilent, nil_append, filterMap_cons_none bare,
      filterMap_append, filterMap_delta?_of_silent betweenSilent, nil_append,
      filterMap_cons_some carries, filterMap_delta?_of_silent afterSilent]
    show _ = (filter _ _) ++ [row.content]
    rw [unfiltered, map_cons, map_nil, shown]

theorem Tended.follows_nil (tended : Tended envelopes) :
    Follows envelopes [] := by
  refine ⟨?_, ?_⟩
  · rw [append_nil]
    exact tended
  · rw [append_nil]
    rfl

theorem Follows.append {first second : List Envelope} (early : Follows envelopes first)
    (late : Follows (envelopes ++ first) second) : Follows envelopes (first ++ second) := by
  refine ⟨?_, ?_⟩
  · rw [← append_assoc]
    exact late.tended
  · rw [← append_assoc, late.contents, early.contents, filterMap_append,
      foldl_append]

end Batches

end HaiderAgent.Turns
