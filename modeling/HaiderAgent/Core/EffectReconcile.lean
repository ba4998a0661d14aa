import Mathlib.Data.List.Induction
import HaiderAgent.Core.EffectRecovery
import HaiderAgent.Lib.KeyedFold

/-!
# Repeated startup reconciliation

A startup pass leaves nothing pending, so any number of passes append what the first one does: one
`Unknown` outcome for each dispatch without an outcome, and a card with an `EffectOutcomeUnknown`
state for each pending effect of a run, whatever state that run is in.
-/

namespace HaiderAgent.EffectRecovery

open List EffectLedger RawPayload

section Batch

variable (names : RecoveryNames) (pass : RecoveryPass) (sessionId : SessionId)
  (ledger scan : EffectLedger)

/-- What a scan of the journal finds after one effect was reconciled. -/
def EffectLedger.recover (scan : EffectLedger) (effect : EffectId)
    (dispatch : RecoveryDispatch) : EffectLedger :=
  { scan with
    outcomes :=
      if (ledger.outcomes.lookup effect).isNone then scan.outcomes.insert effect true
      else scan.outcomes
    recoveryMenus :=
      if dispatch.runId.isNone then scan.recoveryMenus
      else scan.recoveryMenus.insert (names.recoveryMenuId sessionId effect) effect }

theorem foldl_recoverEffect (effect : EffectId) (dispatch : RecoveryDispatch) :
    (recoverEffect names pass sessionId ledger effect dispatch).foldl step scan =
      recover names sessionId ledger scan effect dispatch := by
  unfold recoverEffect recover
  cases (ledger.outcomes.lookup effect).isNone <;> cases dispatch.runId <;> rfl

theorem foldl_recoveryBatch (entries : List (EffectId × RecoveryDispatch)) :
    (entries.flatMap fun entry => recoverEffect names pass sessionId ledger entry.1 entry.2).foldl
        step scan =
      entries.foldl
        (fun scan entry => recover names sessionId ledger scan entry.1 entry.2) scan := by
  induction entries generalizing scan with
  | nil => rfl
  | cons entry rest ih =>
    rw [flatMap_cons, foldl_append, foldl_recoverEffect, ih, foldl_cons]

variable (entries : List (EffectId × RecoveryDispatch))

/-- The same for every effect of the loop. -/
def EffectLedger.recoverAll : EffectLedger :=
  entries.foldl
    (fun scan entry => recover names sessionId ledger scan entry.1 entry.2) scan

theorem recoverAll_dispatched :
    (recoverAll names sessionId ledger scan entries).dispatched = scan.dispatched := by
  induction entries generalizing scan with
  | nil => rfl
  | cons entry rest ih => exact ih (recover names sessionId ledger scan entry.1 entry.2)

theorem recoverAll_outcomes (effect : EffectId) :
    (recoverAll names sessionId ledger scan entries).outcomes.lookup effect =
      if effect ∈ entries.map (·.1) ∧ ledger.outcomes.lookup effect = none then some true
      else scan.outcomes.lookup effect := by
  induction entries generalizing scan with
  | nil => simp [recoverAll]
  | cons entry rest ih =>
    have later := ih (recover names sessionId ledger scan entry.1 entry.2)
    unfold recoverAll at later ⊢
    rw [foldl_cons, later]
    by_cases same : effect = entry.1
    · subst same
      cases known : ledger.outcomes.lookup entry.1 <;>
        simp [recover, known]
    · have kept : (recover names sessionId ledger scan entry.1 entry.2).outcomes.lookup
          effect = scan.outcomes.lookup effect := by
        unfold recover
        split
        · exact AList.lookup_insert_ne same
        · rfl
      simp only [kept, map_cons, mem_cons, same, false_or]

variable {effect : EffectId}

/-- A card identifier of a recovered run effect is open for that effect afterwards. -/
theorem recoverAll_card_of_mem {dispatch : RecoveryDispatch}
    (mem : (effect, dispatch) ∈ entries) (owned : dispatch.runId.isSome) :
    (recoverAll names sessionId ledger scan entries).recoveryMenus.lookup
      (names.recoveryMenuId sessionId effect) = some effect := by
  induction entries using reverseRecOn generalizing scan with
  | nil => simp at mem
  | append_singleton init last ih =>
    have unrolled : recoverAll names sessionId ledger scan (init ++ [last]) =
        recover names sessionId ledger
          (recoverAll names sessionId ledger scan init) last.1 last.2 := by
      simp [recoverAll, foldl_append]
    rw [unrolled]
    unfold recover
    dsimp only
    rcases mem_append.mp mem with earlier | here
    · split
      · exact ih scan earlier
      · by_cases same : names.recoveryMenuId sessionId effect =
            names.recoveryMenuId sessionId last.1
        · rw [same, AList.lookup_insert, names.recoveryMenuId_injective sessionId same]
        · rw [AList.lookup_insert_ne same]
          exact ih scan earlier
    · cases mem_singleton.mp here
      have shown : dispatch.runId.isNone = false := by simpa [Option.isSome_iff_ne_none] using owned
      simp [shown]

/-- An open card stays open when card identifiers of the session name their effect. -/
theorem recoverAll_card_of_open {menu : MenuId}
    (opened : scan.recoveryMenus.lookup menu = some effect)
    (named : ∀ other, menu = names.recoveryMenuId sessionId other → effect = other) :
    (recoverAll names sessionId ledger scan entries).recoveryMenus.lookup menu =
      some effect := by
  induction entries generalizing scan with
  | nil => exact opened
  | cons entry rest ih =>
    refine ih (recover names sessionId ledger scan entry.1 entry.2) ?_
    unfold recover
    dsimp only
    split
    · exact opened
    · by_cases same : menu = names.recoveryMenuId sessionId entry.1
      · rw [← same, AList.lookup_insert, named entry.1 same]
      · rw [AList.lookup_insert_ne same]
        exact opened

end Batch

variable (names : RecoveryNames) (sessionId : SessionId)

/-- Card identifiers the pass derives are open for their own effect only. -/
def CardsNamed (ledger : EffectLedger) : Prop :=
  ∀ menu effect other, ledger.recoveryMenus.lookup menu = some effect →
    menu = names.recoveryMenuId sessionId other → effect = other

/-- After a pass nothing is pending: each card it opened finds its own effect. -/
theorem pending_recoverAll (ledger : EffectLedger) (named : CardsNamed names sessionId ledger) :
    (recoverAll names sessionId ledger ledger ledger.pending).pending = [] := by
  refine eq_nil_iff_forall_not_mem.mpr ?_
  rintro ⟨effect, dispatch⟩ mem
  obtain ⟨dispatched, needs⟩ := (mem_pending _ _ _).mp mem
  rw [recoverAll_dispatched] at dispatched
  have settled := recoverAll_outcomes names sessionId ledger ledger ledger.pending effect
  unfold needsRecovery at needs
  cases was : ledger.needsRecovery effect dispatch with
  | true =>
    have pending := (mem_pending ledger effect dispatch).mpr ⟨dispatched, was⟩
    have listed : effect ∈ ledger.pending.map (·.1) := mem_map.mpr ⟨_, pending, rfl⟩
    have unknown : (recoverAll names sessionId ledger ledger
        ledger.pending).outcomes.lookup effect = some true := by
      unfold needsRecovery at was
      split at was <;> simp_all
    rw [unknown] at needs
    simp only [Bool.and_eq_true, Bool.not_eq_true'] at needs
    have shown := recoverAll_card_of_mem names sessionId ledger ledger ledger.pending pending needs.1
    have opened := (cardOpen_iff _ effect).mpr ⟨_, shown⟩
    rw [opened] at needs
    exact Bool.noConfusion needs.2
  | false =>
    have unlisted : effect ∉ ledger.pending.map (·.1) := by
      intro listed
      obtain ⟨⟨e, d⟩, pending, rfl⟩ := mem_map.mp listed
      obtain ⟨again, yes⟩ := (mem_pending _ _ _).mp pending
      rw [dispatched] at again
      cases again
      rw [was] at yes
      exact Bool.noConfusion yes
    rw [settled] at needs
    simp only [unlisted, false_and, if_false] at needs
    unfold needsRecovery at was
    cases outcome : ledger.outcomes.lookup effect with
    | none => simp [outcome] at was
    | some unknown =>
      cases unknown with
      | false => simp [outcome] at needs
      | true =>
        simp only [outcome, Bool.and_eq_true, Bool.not_eq_true'] at needs was
        rw [needs.1, Bool.true_and, Bool.not_eq_false'] at was
        obtain ⟨menu, shown⟩ := (cardOpen_iff ledger effect).mp was
        have kept := recoverAll_card_of_open names sessionId ledger ledger ledger.pending shown
          fun other same => named menu effect other shown same
        rw [(cardOpen_iff _ effect).mpr ⟨menu, kept⟩] at needs
        exact Bool.noConfusion needs.2

/-- A recovery card under a derived identifier is about the effect the identifier names. -/
def CardNamed (envelope : RawEnvelope) : Prop :=
  ∀ menu effect presentation actions other, envelope.payload = .event (.menuOpened menu) →
    menu.kind = .recovery effect presentation actions →
    menu.id = names.recoveryMenuId sessionId other → effect = other

/-- Whether the envelope opens a recovery card. -/
def opensCard (e : RawEnvelope) : Bool :=
  match e.payload with
  | .event (.menuOpened menu) =>
    match menu.kind with
    | .recovery .. => true
    | _ => false
  | _ => false

variable {e : RawEnvelope} {names : RecoveryNames} {pass : RecoveryPass} {sessionId : SessionId}
  {effect : EffectId} {dispatch : RecoveryDispatch}

theorem cardNamed_of_not_opensCard (none : opensCard e = false) : CardNamed names sessionId e := by
  intro menu effect presentation actions other opens kind
  simp [opensCard, opens, kind] at none

/-- A live worker's journal: payloads decode, derived card ids stand for their own effect only. -/
structure WorkerJournal (names : RecoveryNames) (sessionId : SessionId) extends Journal where
  decodable : ∀ e ∈ envelopes, Decodable e
  cardNamed : ∀ e ∈ envelopes, CardNamed names sessionId e

section

variable {ledger : EffectLedger}

/-- The envelopes of a batch: one of three payloads, for a pending effect, on its run. -/
theorem mem_recoveryBatch : e ∈ recoveryBatch names pass sessionId ledger ↔
      ∃ effect dispatch, (effect, dispatch) ∈ ledger.pending ∧
        e ∈ recoverEffect names pass sessionId ledger effect dispatch := by
  simp only [recoveryBatch, mem_flatMap, Prod.exists]

theorem payload_of_mem_recoverEffect
    (mem : e ∈ recoverEffect names pass sessionId ledger effect dispatch) :
    e.runId = dispatch.runId ∧
      (e.payload = .event (.effect (.outcome effect .unknown)) ∨
        e.payload = .event (.menuOpened (recoveryCard names pass sessionId effect)) ∨
        e.payload = .event (.runState .effectOutcomeUnknown)) := by
  unfold recoverEffect at mem
  split at mem <;> split at mem <;>
    simp only [mem_append, mem_cons, not_mem_nil, or_false, false_or] at mem
  · subst mem
    exact ⟨rfl, .inl rfl⟩
  · rcases mem with rfl | rfl | rfl
    · exact ⟨rfl, .inl rfl⟩
    · exact ⟨rfl, .inr (.inl rfl)⟩
    · exact ⟨rfl, .inr (.inr rfl)⟩
  · rcases mem with rfl | rfl
    · exact ⟨rfl, .inr (.inl rfl)⟩
    · exact ⟨rfl, .inr (.inr rfl)⟩

end

namespace WorkerJournal

variable (journal : WorkerJournal names sessionId)

/-- The scan of a worker journal. -/
def ledger : EffectLedger :=
  journal.envelopes.foldl step {}

theorem reconcileBatch_eq (pass : RecoveryPass) :
    reconcileBatch names pass sessionId journal.toJournal =
      .ok (recoveryBatch names pass sessionId journal.ledger) := by
  rw [reconcileBatch, reducePage_eq journal.decodable]
  rfl

/-- A pass leaves a worker journal. -/
def afterPass (pass : RecoveryPass) : WorkerJournal names sessionId where
  toJournal := journal.toJournal.append (recoveryBatch names pass sessionId journal.ledger)
  decodable := by
    intro e member
    rcases mem_append.mp member with old | new
    · exact journal.decodable e old
    · obtain ⟨source, found, seq, rfl⟩ := Journal.mem_stamp new
      obtain ⟨effect, dispatch, -, recovered⟩ := mem_recoveryBatch.mp found
      obtain ⟨-, payload | payload | payload⟩ := payload_of_mem_recoverEffect recovered <;>
        simp [Decodable, payload, decodeEvent]
  cardNamed := by
    intro e member
    rcases mem_append.mp member with old | new
    · exact journal.cardNamed e old
    · obtain ⟨source, found, seq, rfl⟩ := Journal.mem_stamp new
      obtain ⟨effect, dispatch, -, recovered⟩ := mem_recoveryBatch.mp found
      obtain ⟨-, payload | payload | payload⟩ := payload_of_mem_recoverEffect recovered <;>
        intro menu about presentation actions other opens kind same <;>
        simp only [payload, event.injEq, EventPayload.menuOpened.injEq, reduceCtorEq]
          at opens
      subst opens
      cases kind
      exact names.recoveryMenuId_injective sessionId same

theorem ledger_afterPass (pass : RecoveryPass) :
    (journal.afterPass pass).ledger =
      recoverAll names sessionId journal.ledger journal.ledger
        journal.ledger.pending := by
  change (journal.envelopes ++ Journal.stamp _ _).foldl step {} = _
  rw [foldl_append, foldl_step_stamp]
  exact foldl_recoveryBatch names pass sessionId journal.ledger journal.ledger _

end WorkerJournal

/-- The dispatch of the effect an envelope records. -/
def dispatchOf (effect : EffectId) (e : RawEnvelope) : Option RecoveryDispatch :=
  if e.payload = .event (.effect (.dispatched effect)) then
    some ⟨e.eventId, e.sessionId, e.branchId, e.runId, e.agentId, e.authorityEpoch⟩
  else none

/-- The outcome of the effect an envelope records. -/
def outcomeOf (effect : EffectId) (e : RawEnvelope) : Option EffectOutcome :=
  match e.payload with
  | .event (.effect (.outcome other outcome)) => if other = effect then some outcome else none
  | _ => none

/-- What an envelope makes of a recovery card: its effect once opened, nothing once closed. -/
def cardOf (id : MenuId) (e : RawEnvelope) : Option (Option EffectId) :=
  match e.payload with
  | .event (.menuOpened menu) =>
    match menu.kind with
    | .recovery effect _ _ => if menu.id = id then some (some effect) else none
    | _ => none
  | .event (.menuAnswered answer) => if answer.menu = id then some none else none
  | .event (.menuClosed menu _) => if menu = id then some none else none
  | _ => none

/-- The dispatch the ledger keeps for an effect. -/
def lastDispatch (effect : EffectId) (envelopes : List RawEnvelope) : Option RecoveryDispatch :=
  (envelopes.filterMap (dispatchOf effect)).getLast?

/-- The outcome that stands for an effect. -/
def lastOutcome (effect : EffectId) (envelopes : List RawEnvelope) : Option EffectOutcome :=
  (envelopes.filterMap (outcomeOf effect)).getLast?

/-- The effect of the recovery card a journal leaves open under a menu identifier. -/
def openCard (id : MenuId) (envelopes : List RawEnvelope) : Option EffectId :=
  (envelopes.filterMap (cardOf id)).getLast?.join

/-- An effect without an outcome, or with an `Unknown` one and no open recovery card. -/
def Unexplained (envelopes : List RawEnvelope) (effect : EffectId) : Prop :=
  lastOutcome effect envelopes = none ∨
    lastOutcome effect envelopes = some .unknown ∧ ∀ id, openCard id envelopes ≠ some effect

/-- The effect was dispatched and never got an outcome. -/
def DispatchedWithoutOutcome (envelopes : List RawEnvelope) (effect : EffectId) : Prop :=
  (lastDispatch effect envelopes).isSome ∧ lastOutcome effect envelopes = none

/-- What one envelope writes into the three maps of the ledger. -/
theorem step_lookup (ledger : EffectLedger) (e : RawEnvelope) (effect : EffectId) (id : MenuId) :
    (ledger.step e).dispatched.lookup effect =
        ((dispatchOf effect e).map some).getD (ledger.dispatched.lookup effect) ∧
      (ledger.step e).outcomes.lookup effect =
        ((outcomeOf effect e).map fun outcome => some (outcome == .unknown)).getD
          (ledger.outcomes.lookup effect) ∧
      (ledger.step e).recoveryMenus.lookup id =
        ((cardOf id e).map fun card => card).getD (ledger.recoveryMenus.lookup id) := by
  have erased (menu : MenuId) : (ledger.recoveryMenus.erase menu).lookup id =
      ((if menu = id then some none else none : Option (Option EffectId)).map fun card => card).getD
        (ledger.recoveryMenus.lookup id) := by
    by_cases same : id = menu
    · subst same
      simp
    · simp [AList.lookup_erase_ne same, Ne.symm same]
  unfold step dispatchOf outcomeOf cardOf
  cases e.payload with
  | event fact =>
    cases fact with
    | effect phase =>
      cases phase with
      | dispatched other | outcome other result =>
        by_cases same : effect = other
        · subst same
          simp [decodeEvent, observe]
        · simp [decodeEvent, observe, AList.lookup_insert_ne same,
            Ne.symm same]
      | _ => simp [decodeEvent, observe]
    | menuOpened menu =>
      simp only [decodeEvent, observe]
      cases menu.kind with
      | recovery effect presentation actions =>
        by_cases same : id = menu.id
        · subst same
          simp
        · simp [AList.lookup_insert_ne same, Ne.symm same]
      | _ => simp
    | menuAnswered answer =>
      simpa [decodeEvent, observe] using erased answer.menu
    | menuClosed menu reason =>
      simpa [decodeEvent, observe] using erased menu
    | _ => simp [decodeEvent, observe]
  | _ => simp [decodeEvent]

section Scan

variable (envelopes : List RawEnvelope)

theorem foldl_step_dispatched (effect : EffectId) :
    (envelopes.foldl step {}).dispatched.lookup effect =
      lastDispatch effect envelopes := by
  have last := KeyedFold.foldl_last_write (fun ledger : EffectLedger => ledger.dispatched.lookup effect)
    (fun ledger e => (step_lookup ledger e effect "").1) envelopes {}
  unfold lastDispatch
  rw [last]
  cases (envelopes.filterMap (dispatchOf effect)).getLast? <;> rfl

theorem foldl_step_outcomes (effect : EffectId) :
    (envelopes.foldl step {}).outcomes.lookup effect =
      (lastOutcome effect envelopes).map (· == .unknown) := by
  have last := KeyedFold.foldl_last_write (fun ledger : EffectLedger => ledger.outcomes.lookup effect)
    (fun ledger e => (step_lookup ledger e effect "").2.1) envelopes {}
  unfold lastOutcome
  rw [last]
  cases (envelopes.filterMap (outcomeOf effect)).getLast? <;> rfl

theorem foldl_step_recoveryMenus (id : MenuId) :
    (envelopes.foldl step {}).recoveryMenus.lookup id = openCard id envelopes := by
  have last := KeyedFold.foldl_last_write (fun ledger : EffectLedger => ledger.recoveryMenus.lookup id)
    (fun ledger e => (step_lookup ledger e "" id).2.2) envelopes {}
  unfold openCard
  rw [last]
  cases (envelopes.filterMap (cardOf id)).getLast? <;> rfl

/-- A scan leaves the unexplained effects pending, but for runless ones already `Unknown`. -/
theorem mem_pending_foldl_step (effect : EffectId) (dispatch : RecoveryDispatch) :
    (effect, dispatch) ∈ (envelopes.foldl step {}).pending ↔
      lastDispatch effect envelopes = some dispatch ∧ Unexplained envelopes effect ∧
        (dispatch.runId = none → lastOutcome effect envelopes = none) := by
  have shown : (envelopes.foldl step {}).cardOpen effect = false ↔
      ∀ id, openCard id envelopes ≠ some effect := by
    rw [← Bool.not_eq_true, cardOpen_iff, not_exists]
    exact forall_congr' fun id => by rw [foldl_step_recoveryMenus]
  rw [mem_pending, foldl_step_dispatched]
  unfold needsRecovery Unexplained
  rw [foldl_step_outcomes]
  refine and_congr_right fun _ => ?_
  cases outcome : lastOutcome effect envelopes with
  | none => simp
  | some result =>
    by_cases unknown : result = .unknown
    · subst unknown
      cases dispatch.runId with
      | none => simp
      | some runId => simp [shown]
    · have settled : (result == .unknown) = false := by simpa using unknown
      simp [settled, unknown]

end Scan

namespace WorkerJournal

variable (journal : WorkerJournal names sessionId)

theorem cardsNamed : CardsNamed names sessionId journal.ledger := by
  intro id effect other shown same
  rw [ledger, foldl_step_recoveryMenus] at shown
  obtain ⟨e, mem, card⟩ := mem_filterMap.mp (mem_of_getLast? (Option.join_eq_some_iff.mp shown))
  unfold cardOf at card
  split at card
  · rename_i menu payload
    split at card
    · rename_i kind
      split at card
      · rename_i named
        cases card
        exact journal.cardNamed e mem menu _ _ _ other payload kind (named.trans same)
      · cases card
    · cases card
  all_goals simp at card

theorem pending_afterPass (pass : RecoveryPass) : (journal.afterPass pass).ledger.pending = [] := by
  rw [ledger_afterPass, pending_recoverAll _ _ _ journal.cardsNamed]

/-- After one pass the next has nothing to append. -/
theorem recoveryBatch_afterPass (pass next : RecoveryPass) :
    recoveryBatch names next sessionId (journal.afterPass pass).ledger = [] := by
  rw [recoveryBatch, pending_afterPass]
  rfl

end WorkerJournal

/-- Everything the pass opens decodes, and no effect is left for it. -/
structure NothingPending (envelopes : List RawEnvelope) : Prop where
  decodable : ∀ e ∈ envelopes, Decodable e
  explained : ∀ effect dispatch, lastDispatch effect envelopes = some dispatch →
    Unexplained envelopes effect → dispatch.runId = none ∧ lastOutcome effect envelopes ≠ none

variable {ledger : EffectLedger}

theorem recoverEffect_ne_nil (needed : ledger.needsRecovery effect dispatch = true) :
    recoverEffect names pass sessionId ledger effect dispatch ≠ [] := by
  unfold recoverEffect
  cases owner : dispatch.runId with
  | some runId => simp
  | none =>
    cases outcome : ledger.outcomes.lookup effect with
    | none => simp
    | some unknown =>
      cases unknown <;> simp [needsRecovery, outcome, owner] at needed

/-- A startup appends nothing exactly when nothing is pending. -/
theorem reconcileBatch_eq_nil_iff (names : RecoveryNames) (pass : RecoveryPass)
    (sessionId : SessionId) (journal : Journal) :
    reconcileBatch names pass sessionId journal = .ok [] ↔ NothingPending journal.envelopes := by
  constructor
  · intro nothing
    obtain ⟨ledger, scanned, batch⟩ := ExceptFold.bind_eq_ok.mp nothing
    have decodable := decodable_of_reducePage scanned
    rw [reducePage_eq decodable] at scanned
    cases scanned
    have empty := flatMap_eq_nil_iff.mp (Except.ok.inj batch)
    refine ⟨decodable, fun effect dispatch dispatched unexplained => ?_⟩
    have quiet : ¬ (effect, dispatch) ∈ (journal.envelopes.foldl step {}).pending :=
      fun pending => recoverEffect_ne_nil ((mem_pending _ _ _).mp pending).2 (empty _ pending)
    rw [mem_pending_foldl_step] at quiet
    by_contra pending
    refine quiet ⟨dispatched, unexplained, fun unowned => ?_⟩
    by_contra settled
    exact pending ⟨unowned, settled⟩
  · intro nothing
    rw [reconcileBatch, reducePage_eq nothing.decodable]
    refine congrArg Except.ok (flatMap_eq_nil_iff.mpr fun entry pending => ?_)
    obtain ⟨dispatched, unexplained, lost⟩ := (mem_pending_foldl_step _ _ _).mp pending
    obtain ⟨unowned, settled⟩ := nothing.explained entry.1 entry.2 dispatched unexplained
    exact absurd (lost unowned) settled

variable (journal : WorkerJournal names sessionId)

/-- The pass recovers the unexplained effects, but for runless ones already `Unknown`. -/
theorem WorkerJournal.mem_pending_iff (effect : EffectId) (dispatch : RecoveryDispatch) :
    (effect, dispatch) ∈ journal.ledger.pending ↔
      lastDispatch effect journal.envelopes = some dispatch ∧
        Unexplained journal.envelopes effect ∧
        (dispatch.runId = none → lastOutcome effect journal.envelopes = none) :=
  mem_pending_foldl_step journal.envelopes effect dispatch

/-- The `Unknown` outcomes a batch commits for one effect. -/
def unknownOutcomes (effect : EffectId) (batch : List RawEnvelope) : Nat :=
  batch.countP fun e => e.payload = .event (.effect (.outcome effect .unknown))

theorem unknownOutcomes_recoverEffect (effect other : EffectId) (dispatch : RecoveryDispatch) :
    unknownOutcomes effect (recoverEffect names pass sessionId ledger other dispatch) =
      if other = effect ∧ ledger.outcomes.lookup effect = none then 1 else 0 := by
  unfold unknownOutcomes recoverEffect
  by_cases same : other = effect
  · subst same
    cases ledger.outcomes.lookup other <;> cases dispatch.runId <;>
      simp [recoveryEnvelope]
  · cases ledger.outcomes.lookup other <;> cases dispatch.runId <;>
      simp [recoveryEnvelope, same]

/-- A batch commits one `Unknown` outcome for each listed effect without an outcome. -/
theorem unknownOutcomes_flatMap {entries : List (EffectId × RecoveryDispatch)}
    (distinct : (entries.map (·.1)).Nodup) :
    unknownOutcomes effect (entries.flatMap fun entry =>
        recoverEffect names pass sessionId ledger entry.1 entry.2) =
      if effect ∈ entries.map (·.1) ∧ ledger.outcomes.lookup effect = none then 1 else 0 := by
  induction entries with
  | nil => simp [unknownOutcomes]
  | cons entry rest ih =>
    rw [map_cons, nodup_cons] at distinct
    have tail := ih distinct.2
    unfold unknownOutcomes at tail ⊢
    rw [flatMap_cons, countP_append, tail]
    rw [← unknownOutcomes, unknownOutcomes_recoverEffect]
    by_cases same : entry.1 = effect
    · subst same
      by_cases known : ledger.outcomes.lookup entry.1 = none
      · have absent := distinct.1
        simp only [known, and_true, if_true, absent, if_false, map_cons, mem_cons, true_or]
      · simp [known]
    · simp only [same, Ne.symm same, false_and, if_false, Nat.zero_add, map_cons, mem_cons, false_or]

open Classical in
/-- A pass commits one `Unknown` outcome for each dispatch without an outcome, and no other. -/
theorem WorkerJournal.unknownOutcomes_recoveryBatch (pass : RecoveryPass) (effect : EffectId) :
    unknownOutcomes effect (recoveryBatch names pass sessionId journal.ledger) =
      if DispatchedWithoutOutcome journal.envelopes effect then 1 else 0 := by
  rw [recoveryBatch, unknownOutcomes_flatMap (pending_nodup _),
    WorkerJournal.ledger,
    foldl_step_outcomes]
  refine if_congr ?_ rfl rfl
  rw [Option.map_eq_none_iff]
  constructor
  · rintro ⟨listed, lost⟩
    obtain ⟨⟨listed, dispatch⟩, pending, rfl⟩ := mem_map.mp listed
    have dispatched := ((journal.mem_pending_iff _ _).mp pending).1
    exact ⟨by rw [dispatched]; rfl, lost⟩
  · rintro ⟨dispatched, lost⟩
    obtain ⟨dispatch, known⟩ := Option.isSome_iff_exists.mp dispatched
    exact ⟨mem_map.mpr ⟨_, (journal.mem_pending_iff effect dispatch).mpr
      ⟨known, .inl lost, fun _ => lost⟩, rfl⟩, lost⟩

/-- One pass of a sequence: the journal it started from and the batch it appended. -/
structure PassRecord where
  before : Journal
  batch : List RawEnvelope

/-- Startups in a row: what each found and appended. -/
def reconcilePasses (names : RecoveryNames) (sessionId : SessionId) :
    List RecoveryPass → Journal → Except HaiderError (List PassRecord)
  | [], _ => .ok []
  | pass :: later, journal => do
    let batch ← reconcileBatch names pass sessionId journal
    let rest ← reconcilePasses names sessionId later (journal.append batch)
    return ⟨journal, batch⟩ :: rest

/-- No state and no card for a run that is terminal, no state for one that is cancelling. -/
structure PassRecord.RespectsRunEnds (record : PassRecord) : Prop where
  terminal : ∀ e ∈ record.batch, ∀ runId state, e.runId = some runId →
    e.payload.runState.isSome ∨ opensCard e = true →
    latestRunState runId record.before.envelopes = some state → state.isTerminal = false
  cancelling : ∀ e ∈ record.batch, ∀ runId, e.runId = some runId → e.payload.runState.isSome →
    latestRunState runId record.before.envelopes ≠ some .cancelling

/-- A run that has ended or is being cancelled. -/
def settling (state : RunState) : Bool := state.isTerminal || state == .cancelling

/-- A pass respects run ends exactly when no pending effect is of an ended or cancelling run. -/
theorem respectsRunEnds_iff (names : RecoveryNames) (pass : RecoveryPass) (sessionId : SessionId)
    (ledger : EffectLedger) (before : Journal) :
    PassRecord.RespectsRunEnds ⟨before, recoveryBatch names pass sessionId ledger⟩ ↔
      ∀ effect dispatch runId state, (effect, dispatch) ∈ ledger.pending →
        dispatch.runId = some runId → latestRunState runId before.envelopes = some state →
        settling state = false := by
  constructor
  · intro respects effect dispatch runId state pending owned latest
    let parked := recoveryEnvelope pass dispatch
      (names.recoveryEventIdFor sessionId pass.workerGeneration effect "state")
      (.runState .effectOutcomeUnknown)
    have parks : parked ∈ recoveryBatch names pass sessionId ledger := by
      refine mem_recoveryBatch.mpr ⟨effect, dispatch, pending, ?_⟩
      simp [recoverEffect, owned, parked]
    have ended := respects.terminal parked parks runId state owned (.inl rfl) latest
    have cancelled := respects.cancelling parked parks runId owned rfl
    rw [latest] at cancelled
    simpa [settling, ended] using cancelled
  · intro clear
    have live (e : RawEnvelope) (mem : e ∈ recoveryBatch names pass sessionId ledger)
        (runId : RunId) (state : RunState) (own : e.runId = some runId)
        (latest : latestRunState runId before.envelopes = some state) : settling state = false := by
      obtain ⟨effect, dispatch, pending, recovered⟩ := mem_recoveryBatch.mp mem
      have run := (payload_of_mem_recoverEffect recovered).1
      exact clear effect dispatch runId state pending (run ▸ own) latest
    refine ⟨fun e mem runId state own _ latest => ?_, fun e mem runId own _ latest => ?_⟩
    · have := live e mem runId state own latest
      simp only [settling, Bool.or_eq_false_iff] at this
      exact this.1
    · exact absurd (live e mem runId .cancelling own latest) (by decide)

theorem WorkerJournal.reconcilePasses_eq (first : RecoveryPass) (later : List RecoveryPass) :
    reconcilePasses names sessionId (first :: later) journal.toJournal =
      .ok (⟨journal.toJournal, recoveryBatch names first sessionId journal.ledger⟩ ::
        later.map fun _ => ⟨(journal.afterPass first).toJournal, []⟩) := by
  have idle : reconcilePasses names sessionId later (journal.afterPass first).toJournal =
      .ok (later.map fun _ => ⟨(journal.afterPass first).toJournal, []⟩) := by
    induction later with
    | nil => rfl
    | cons pass rest ih =>
      rw [reconcilePasses, reconcileBatch_eq, recoveryBatch_afterPass]
      simp only [bind, Except.bind, Journal.append_nil, ih, map_cons]
      rfl
  rw [reconcilePasses, reconcileBatch_eq]
  change (reconcilePasses names sessionId later (journal.afterPass first).toJournal >>= _) = _
  rw [idle]
  rfl

end HaiderAgent.EffectRecovery
