import Mathlib.Data.List.Induction
import HaiderAgent.Tools.Broker

/-!
# The lifecycle grammar of an effect

The durable phases of every effect run through `Intent`, `Authorized`, `Dispatched` and `Outcome`.
The journal may be one phase ahead of the lifecycle record, between a commit and the write that
follows it; everywhere else the two agree. The right to append an outcome is a claim, and a marked
record stands for at most one of them.
-/

namespace HaiderAgent.Broker

open List

/-- The effect a phase is about. -/
def effectOf : EffectPhase → EffectId
  | .intent intent => intent.effect
  | .authorized effect _ | .dispatched effect | .outcome effect _ => effect

/-- How far the phases of an effect have come. -/
inductive Stage where
  | absent | intent | blocked | allowed | dispatched | outcome
  deriving DecidableEq, Repr

namespace Stage

/-- The grammar, one phase at a time. -/
def next : Stage → EffectPhase → Option Stage
  | .absent, .intent _ => some .intent
  | .intent, .authorized _ verdict => some (if allows verdict then .allowed else .blocked)
  | .allowed, .dispatched _ => some .dispatched
  | .dispatched, .outcome _ _ => some .outcome
  | _, _ => none

/-- The stage a lifecycle record stands for. -/
def of : Option LifecycleState → Stage
  | none => .absent
  | some .intent => .intent
  | some .authorizedAllow => .allowed
  | some .authorizedBlocked => .blocked
  | some .dispatched | some .terminalizing | some .terminalJournalFailed => .dispatched
  | some .outcome => .outcome

end Stage

/-- The stage of the durable phases of an effect. -/
def durableStage (journal : List EffectPhase) (effect : EffectId) : Option Stage :=
  Machine.stateAt Stage.next .absent effectOf journal effect

variable {journal : List EffectPhase}

theorem durableStage_append_same {phase : EffectPhase}
    {effect : EffectId} (own : effectOf phase = effect) :
    durableStage (journal ++ [phase]) effect =
      (durableStage journal effect).bind (Stage.next · phase) :=
  Machine.stateAt_append_same own

theorem durableStage_append_other {phase : EffectPhase}
    {effect : EffectId} (other : effectOf phase ≠ effect) :
    durableStage (journal ++ [phase]) effect = durableStage journal effect :=
  Machine.stateAt_append_other other

/-- A beginning of one effect's four phases, dispatched only with an allowing verdict. -/
def Grammatical (effect : EffectId) (phases : List EffectPhase) : Prop :=
  ∃ intent verdict outcome, intent.effect = effect ∧
    phases <+: [.intent intent, .authorized effect verdict, .dispatched effect,
      .outcome effect outcome] ∧
    (.dispatched effect ∈ phases → allows verdict = true)

/-- What the phases of an effect are at each stage. -/
inductive Stage.Spells (effect : EffectId) : Stage → List EffectPhase → Prop where
  | absent : Spells effect .absent []
  | intent {intent} (own : intent.effect = effect) : Spells effect .intent [.intent intent]
  | blocked {intent verdict} (own : intent.effect = effect) (blocks : allows verdict = false) :
      Spells effect .blocked [.intent intent, .authorized effect verdict]
  | allowed {intent verdict} (own : intent.effect = effect) (allowing : allows verdict = true) :
      Spells effect .allowed [.intent intent, .authorized effect verdict]
  | dispatched {intent verdict} (own : intent.effect = effect)
      (allowing : allows verdict = true) :
      Spells effect .dispatched
        [.intent intent, .authorized effect verdict, .dispatched effect]
  | outcome {intent verdict outcome} (own : intent.effect = effect)
      (allowing : allows verdict = true) :
      Spells effect .outcome
        [.intent intent, .authorized effect verdict, .dispatched effect,
          .outcome effect outcome]

namespace Stage

variable {effect : EffectId} {stage after : Stage} {phases : List EffectPhase}
  {phase : EffectPhase}

/-- One more phase of the effect spells the next stage. -/
theorem Spells.snoc (spelt : Spells effect stage phases) (own : effectOf phase = effect)
    (stepped : next stage phase = some after) : Spells effect after (phases ++ [phase]) := by
  cases spelt <;> cases phase <;> simp only [next, reduceCtorEq, Option.some.injEq] at stepped
  case absent.intent =>
    subst stepped
    exact .intent own
  case intent.authorized own' _ verdict =>
    cases own
    cases verdicted : allows verdict with
    | true =>
      rw [verdicted, if_pos rfl] at stepped
      subst stepped
      exact .allowed own' verdicted
    | false =>
      rw [verdicted, if_neg Bool.false_ne_true] at stepped
      subst stepped
      exact .blocked own' verdicted
  case allowed.dispatched own' allowing _ =>
    cases own
    subst stepped
    exact .dispatched own' allowing
  case dispatched.outcome own' allowing _ _ =>
    cases own
    subst stepped
    exact .outcome own' allowing

theorem Spells.grammatical (spelt : Spells effect stage phases) : Grammatical effect phases := by
  cases spelt with
  | absent => exact ⟨⟨effect, .fsRead, "", "", none⟩, .allow, .ok, rfl, ⟨_, rfl⟩, by simp⟩
  | intent own => exact ⟨_, .allow, .ok, own, ⟨_, rfl⟩, by simp⟩
  | blocked own _ => exact ⟨_, _, .ok, own, ⟨_, rfl⟩, by simp⟩
  | allowed own allowing | dispatched own allowing =>
    exact ⟨_, _, .ok, own, ⟨_, rfl⟩, fun _ => allowing⟩
  | outcome own allowing => exact ⟨_, _, _, own, ⟨_, rfl⟩, fun _ => allowing⟩

end Stage

/-- The phases of an effect spell the stage the journal is at. -/
theorem durableStage_spells {effect : EffectId} {stage : Stage}
    (durable : durableStage journal effect = some stage) :
    stage.Spells effect (Machine.entriesOf effectOf journal effect) := by
  induction journal using reverseRecOn generalizing stage with
  | nil =>
    cases durable
    exact .absent
  | append_singleton journal phase ih =>
    by_cases own : effectOf phase = effect
    · rw [durableStage_append_same own, Option.bind_eq_some_iff] at durable
      obtain ⟨before, earlier, stepped⟩ := durable
      have spelt := (ih earlier).snoc own stepped
      rwa [Machine.entriesOf_append_same own]
    · rw [durableStage_append_other own] at durable
      rw [Machine.entriesOf_append_other own]
      exact ih durable

/-! ## Calls in flight and claims -/

namespace Continuation

/-- The intent a pending append is about. -/
def about : Continuation → EffectIntent
  | .insertIntent intent _ | .setVerdict intent _ _ _ | .setPreAuthorized intent
  | .setDispatched intent => intent

/-- Its effect. -/
def effect (rest : Continuation) : EffectId := rest.about.effect

/-- The lifecycle state a call has found. -/
def before : Continuation → Option LifecycleState
  | .insertIntent _ _ => none
  | .setVerdict _ _ _ _ | .setPreAuthorized _ => some .intent
  | .setDispatched _ => some .authorizedAllow

/-- The lifecycle state it writes. -/
def after : Continuation → LifecycleState
  | .insertIntent _ _ => .intent
  | .setVerdict _ verdict _ _ => if allows verdict then .authorizedAllow else .authorizedBlocked
  | .setPreAuthorized _ => .authorizedAllow
  | .setDispatched _ => .dispatched

variable (rest : Continuation)

theorem effectOf_phase : effectOf rest.phase = rest.effect := by
  cases rest <;> rfl

/-- The phase a call appends takes the record's stage to the one the call writes. -/
theorem next_phase : Stage.next (.of rest.before) rest.phase = some (.of (some rest.after)) := by
  cases rest with
  | setVerdict intent verdict _ _ =>
    simp only [before, after, phase, Stage.of, Stage.next]
    cases allows verdict <;> rfl
  | _ => rfl

theorem after_ne_failed : rest.after ≠ .terminalJournalFailed := by
  cases rest with
  | setVerdict intent verdict _ _ =>
    simp only [after]
    cases allows verdict <;> rintro ⟨⟩
  | _ => rintro ⟨⟩

/-- No call is in flight for an effect that was dispatched. -/
theorem before_not_dispatched : Stage.of rest.before ≠ .dispatched := by
  cases rest <;> simp [before, Stage.of]

end Continuation

/-- The effect whose outcome a task holds the claim to. -/
def Finalizer.claim : Finalizer → Option EffectId
  | .working _ => none
  | .claimed effect _ | .committed effect | .refused effect _ => some effect

/-- The call that waits for the sink or has just been answered. -/
def Owner.inFlight : Owner → Option Continuation
  | .appending rest | .appended rest => some rest
  | _ => none

namespace EffectBroker

variable {broker : EffectBroker} {effect other : EffectId} {state : LifecycleState}
  {task : Finalizer} {tasks : List Finalizer}

/-- The lifecycle state of an effect once the writes that follow a commit are done. -/
def settledState (broker : EffectBroker) (effect : EffectId) : Option LifecycleState :=
  if .committed effect ∈ broker.finalizers then some .outcome
  else
    match broker.owner with
    | .appended rest => if rest.effect = effect then some rest.after else broker.stateOf effect
    | _ => broker.stateOf effect

/-- No task holds the claim to an effect. -/
def Unclaimed (broker : EffectBroker) (effect : EffectId) : Prop :=
  ∀ task ∈ broker.finalizers, task.claim ≠ some effect

/-- The invariant of the broker before, during and after its close. -/
structure Lawful (broker : EffectBroker) : Prop where
  /-- The journal and the lifecycle records agree. -/
  durable : ∀ effect, durableStage broker.journal effect = some (.of (broker.settledState effect))
  /-- A call in flight finds the record it has checked. -/
  ready : ∀ rest, broker.owner.inFlight = some rest → broker.stateOf rest.effect = rest.before
  /-- A claim is marked in its record. -/
  marked : ∀ task ∈ broker.finalizers, ∀ effect, task.claim = some effect →
    broker.stateOf effect = some .terminalizing
  /-- No two tasks hold one claim. -/
  exclusive : (broker.finalizers.filterMap Finalizer.claim).Nodup
  /-- Every recorded effect was numbered by this broker. -/
  numbered : ∀ effect, broker.stateOf effect ≠ none →
    ∃ n, n ≤ broker.nextEffect ∧ effect = broker.effectId n
  /-- The intent in flight has the newest number. -/
  newest : ∀ intent userTyped, broker.owner.inFlight = some (.insertIntent intent userTyped) →
    intent.effect = broker.effectId broker.nextEffect
  /-- A failed terminal append is remembered. -/
  remembered : ∀ effect, broker.stateOf effect = some .terminalJournalFailed →
    (broker.terminalErrors.lookup effect).isSome = true
  /-- A record is filed under its own effect. -/
  filed : ∀ effect record, broker.lifecycles.lookup effect = some record →
    record.intent.effect = effect

theorem lookup_putState :
    (broker.putState effect state).lifecycles.lookup other =
      (broker.lifecycles.lookup other).map fun record =>
        if other = effect then { record with state := state } else record :=
  EntryMap.lookup_modify _ _ _ _

variable {before : LifecycleState}

theorem stateOf_putState_same (recorded : broker.stateOf effect = some before) :
    (broker.putState effect state).stateOf effect = some state := by
  simp only [stateOf, Option.map_eq_some_iff] at recorded
  obtain ⟨record, found, _⟩ := recorded
  simp only [stateOf, lookup_putState, found, Option.map_some, if_pos]

theorem lookup_putState_other (differs : other ≠ effect) :
    (broker.putState effect state).lifecycles.lookup other = broker.lifecycles.lookup other := by
  simp only [lookup_putState, if_neg differs, Option.map_id']

theorem stateOf_putState_other (differs : other ≠ effect) :
    (broker.putState effect state).stateOf other = broker.stateOf other := by
  simp only [stateOf, lookup_putState_other differs]

theorem filed_putState (filed : ∀ effect record, broker.lifecycles.lookup effect = some record →
      record.intent.effect = effect) :
    ∀ other record, (broker.putState effect state).lifecycles.lookup other = some record →
      record.intent.effect = other := by
  intro other record found
  rw [lookup_putState, Option.map_eq_some_iff] at found
  obtain ⟨earlier, foundEarlier, rfl⟩ := found
  have own := filed other earlier foundEarlier
  split <;> exact own

theorem setState_of_recorded (recorded : broker.stateOf effect = some before) :
    broker.setState effect state = .ok (broker.putState effect state) := by
  simp only [stateOf, Option.map_eq_some_iff] at recorded
  obtain ⟨record, found, _⟩ := recorded
  rw [setState, found]
  rfl

/-- No call has an answer it has not written yet. -/
theorem settledState_unanswered (unanswered : ∀ rest, broker.owner ≠ .appended rest) :
    broker.settledState effect =
      if .committed effect ∈ broker.finalizers then some .outcome else broker.stateOf effect := by
  rw [settledState]
  cases owner : broker.owner with
  | appended rest => exact absurd owner (unanswered rest)
  | _ => rfl

/-- An effect no commit is ahead for is settled where its record says. -/
theorem settledState_of_apart (uncommitted : .committed effect ∉ broker.finalizers)
    (apart : ∀ rest, broker.owner.inFlight = some rest → rest.effect ≠ effect) :
    broker.settledState effect = broker.stateOf effect := by
  simp only [settledState, if_neg uncommitted]
  cases flying : broker.owner with
  | appended rest =>
    have inFlight := congrArg Owner.inFlight flying
    simp only [if_neg (apart rest inFlight)]
  | _ => rfl

variable {next : EffectBroker}

theorem claimTerminal_eq_ok {intent : EffectIntent}
    (claimed : broker.claimTerminal intent = .ok (some next)) :
    broker.stateOf intent.effect = some .dispatched ∧
      next = broker.putState intent.effect .terminalizing := by
  unfold claimTerminal at claimed
  cases found : broker.lifecycles.lookup intent.effect with
  | none => simp [found] at claimed
  | some record =>
    simp only [found] at claimed
    split at claimed
    · cases claimed
    · cases recorded : record.state <;> simp only [recorded, reduceCtorEq, Except.ok.injEq,
        Option.some_inj] at claimed
      refine ⟨?_, claimed.symm⟩
      simp [stateOf, found, recorded]

/-- Effects are told apart by their number. -/
theorem effectId_injective {m n : Nat} (same : broker.effectId m = broker.effectId n) : m = n := by
  have digits := congrArg String.toList ((String.append_right_inj _).mp same)
  rw [Nat.repr_eq_ofList_toDigits, Nat.repr_eq_ofList_toDigits, String.toList_ofList,
    String.toList_ofList] at digits
  have read := congrArg (Nat.ofDigitChars 10 · 0) digits
  simpa only [Nat.ofDigitChars_ten_toDigits] using read

theorem stateOf_closeSweepCandidates :
    broker.closeSweepCandidates.1.stateOf effect =
      (broker.stateOf effect).map fun state =>
        if state = .terminalizing then .dispatched else state := by
  simp only [closeSweepCandidates, stateOf, EntryMap.lookup_mapEntries, Option.map_map]
  congr 1
  funext record
  simp only [Function.comp]
  split <;> rfl

theorem call_eq_some {made : EffectBroker} (called : broker.call made = some next) :
    broker.owner = .idle ∧ made = next := by
  unfold call at called
  cases owner : broker.owner <;> simp only [owner, reduceCtorEq, Option.some_inj] at called
  exact ⟨rfl, called⟩

namespace Lawful

variable (lawful : broker.Lawful)
include lawful

/-- A call in flight is not about an effect that was dispatched. -/
theorem not_inFlight (dispatched : Stage.of (broker.stateOf effect) = .dispatched)
    {rest : Continuation} (flying : broker.owner.inFlight = some rest) :
    rest.effect ≠ effect := by
  intro same
  rw [← same, lawful.ready rest flying] at dispatched
  exact rest.before_not_dispatched dispatched

theorem dispatched_of_claim (mem : task ∈ broker.finalizers)
    (claims : task.claim = some effect) : Stage.of (broker.stateOf effect) = .dispatched := by
  rw [lawful.marked task mem effect claims]
  rfl

/-- A call in flight is about an effect without a claim. -/
theorem unclaimed_inFlight {rest : Continuation} (flying : broker.owner.inFlight = some rest) :
    broker.Unclaimed rest.effect := fun _ mem claims =>
  lawful.not_inFlight (lawful.dispatched_of_claim mem claims) flying rfl

/-- Another finalizer set with the same commits and with marked, exclusive claims. -/
theorem retask
    (committed : ∀ effect, .committed effect ∈ tasks ↔ .committed effect ∈ broker.finalizers)
    (marked : ∀ task ∈ tasks, ∀ effect, task.claim = some effect →
      broker.stateOf effect = some .terminalizing)
    (exclusive : (tasks.filterMap Finalizer.claim).Nodup) :
    Lawful { broker with finalizers := tasks } := by
  refine { lawful with durable := fun effect => ?_, marked, exclusive }
  have settled : settledState { broker with finalizers := tasks } effect =
      broker.settledState effect := by
    simp only [settledState, committed]
    rfl
  rw [settled]
  exact lawful.durable effect

theorem perm (same : broker.finalizers.Perm tasks) :
    Lawful { broker with finalizers := tasks } := by
  apply lawful.retask
  · intro effect
    exact same.mem_iff.symm
  · intro task mem
    exact lawful.marked task (same.mem_iff.mpr mem)
  · exact (same.filterMap _).nodup_iff.mp lawful.exclusive

/-- A task without a commit joins; a claim it brings is marked and nobody else's. -/
theorem enlist (uncommitted : ∀ effect, .committed effect ≠ task)
    (claims : ∀ effect, task.claim = some effect →
      broker.Unclaimed effect ∧ broker.stateOf effect = some .terminalizing) :
    Lawful { broker with finalizers := task :: broker.finalizers } := by
  apply lawful.retask
  · intro effect
    exact mem_cons.trans (or_iff_right (uncommitted effect))
  · intro other mem effect claimed
    rcases mem_cons.mp mem with rfl | mem
    · exact (claims effect claimed).2
    · exact lawful.marked other mem effect claimed
  · cases claim : task.claim with
    | none => rw [filterMap_cons_none claim]; exact lawful.exclusive
    | some effect =>
      rw [filterMap_cons_some claim, nodup_cons]
      refine ⟨fun held => ?_, lawful.exclusive⟩
      obtain ⟨other, mem, claimed⟩ := mem_filterMap.mp held
      exact (claims effect claim).1 other mem claimed

/-- One record is written, at no other stage, with no claim and no call in flight left for it. -/
theorem rewrite (same : next.journal = broker.journal ∧
      next.nextEffect = broker.nextEffect ∧ next.effectId = broker.effectId ∧
      next.terminalErrors = broker.terminalErrors)
    (tasked : next.finalizers.Sublist broker.finalizers) (unclaimed : next.Unclaimed effect)
    (flies : ∀ rest, next.owner.inFlight = some rest →
      broker.owner.inFlight = some rest ∧ rest.effect ≠ effect)
    (settled : Stage.of (next.settledState effect) = Stage.of (broker.settledState effect))
    (settledOther : ∀ other, other ≠ effect → next.settledState other = broker.settledState other)
    (written : next.stateOf effect = some state) (others : ∀ other, other ≠ effect →
      next.lifecycles.lookup other = broker.lifecycles.lookup other)
    (numbered : ∃ n, n ≤ broker.nextEffect ∧ effect = broker.effectId n)
    (named : state = .terminalJournalFailed → (broker.terminalErrors.lookup effect).isSome = true)
    (filed : ∀ record, next.lifecycles.lookup effect = some record → record.intent.effect = effect) :
    next.Lawful := by
  obtain ⟨journal, counted, ids, errors⟩ := same
  have stateOf_other : ∀ other, other ≠ effect → next.stateOf other = broker.stateOf other := by
    intro other differs
    simp only [stateOf, others other differs]
  refine ⟨?_, ?_, ?_, ?_, ?_, ?_, ?_, ?_⟩
  · intro other
    rw [journal, lawful.durable other]
    by_cases own : other = effect
    · rw [own, settled]
    · rw [settledOther other own]
  · intro rest flying
    rw [stateOf_other _ (flies rest flying).2]
    exact lawful.ready rest (flies rest flying).1
  · intro task mem other claims
    have differs : other ≠ effect := by
      rintro rfl
      exact unclaimed task mem claims
    rw [stateOf_other other differs]
    exact lawful.marked task (tasked.subset mem) other claims
  · exact lawful.exclusive.sublist (tasked.filterMap _)
  · intro other recorded
    rw [counted, ids]
    by_cases own : other = effect
    · rw [own]
      exact numbered
    · rw [stateOf_other other own] at recorded
      exact lawful.numbered other recorded
  · intro intent userTyped flying
    rw [counted, ids]
    exact lawful.newest intent userTyped (flies _ flying).1
  · intro other failed
    rw [errors]
    by_cases own : other = effect
    · rw [own, written, Option.some_inj] at failed
      rw [own]
      exact named failed
    · rw [stateOf_other other own] at failed
      exact lawful.remembered other failed
  · intro other record found
    by_cases own : other = effect
    · rw [own] at found ⊢
      exact filed record found
    · rw [others other own] at found
      exact lawful.filed other record found

/-- The record of a dispatched effect without a claim may go between the states of that stage. -/
theorem remark (unclaimed : broker.Unclaimed effect)
    (before : Stage.of (broker.stateOf effect) = .dispatched)
    (after : Stage.of (some state) = .dispatched)
    (named : state = .terminalJournalFailed → (broker.terminalErrors.lookup effect).isSome = true) :
    Lawful (broker.putState effect state) := by
  obtain ⟨earlier, recorded⟩ : ∃ earlier, broker.stateOf effect = some earlier := by
    cases recorded : broker.stateOf effect with
    | none =>
      rw [recorded] at before
      cases before
    | some earlier => exact ⟨earlier, rfl⟩
  have written : (broker.putState effect state).stateOf effect = some state :=
    stateOf_putState_same recorded
  have uncommitted : .committed effect ∉ broker.finalizers := fun mem => unclaimed _ mem rfl
  have apart : ∀ rest, broker.owner.inFlight = some rest → rest.effect ≠ effect :=
    fun rest => lawful.not_inFlight before
  refine lawful.rewrite ⟨rfl, rfl, rfl, rfl⟩ (Sublist.refl _) unclaimed
    (fun rest flying => ⟨flying, apart rest flying⟩) ?_ (fun other differs => ?_) written
    (fun other => lookup_putState_other) (lawful.numbered effect (by simp [recorded])) named
    (filed_putState lawful.filed effect)
  · rw [settledState_of_apart uncommitted apart, before]
    have settled : (broker.putState effect state).settledState effect = _ :=
      settledState_of_apart uncommitted apart
    rw [settled, written, after]
  · simp only [settledState, stateOf_putState_other differs]
    rfl

theorem unclaimed_of_dispatched (dispatched : broker.stateOf effect = some .dispatched)
    : broker.Unclaimed effect := by
  intro task mem claims
  rw [lawful.marked task mem effect claims] at dispatched
  cases dispatched

/-- Taking a claim for a task keeps the invariant. -/
theorem take (dispatched : broker.stateOf effect = some .dispatched) (outcome : EffectOutcome) :
    Lawful { broker.putState effect .terminalizing with
      finalizers := broker.finalizers ++ [.claimed effect outcome] } := by
  have unclaimed := lawful.unclaimed_of_dispatched dispatched
  have before : Stage.of (broker.stateOf effect) = .dispatched := by
    rw [dispatched]
    rfl
  have remarked : Lawful (broker.putState effect .terminalizing) :=
    lawful.remark unclaimed before rfl nofun
  have claimed : Lawful { broker.putState effect .terminalizing with
      finalizers := .claimed effect outcome :: broker.finalizers } := by
    refine remarked.enlist nofun ?_
    rintro _ ⟨⟩
    exact ⟨unclaimed, stateOf_putState_same dispatched⟩
  exact claimed.perm (perm_append_singleton _ _).symm

theorem spawnTerminal (intent : EffectIntent) (outcome : EffectOutcome)
    : Lawful (broker.spawnTerminal intent outcome) := by
  unfold EffectBroker.spawnTerminal
  split
  · exact lawful
  · exact lawful
  · next claimed =>
    obtain ⟨dispatched, rfl⟩ := claimTerminal_eq_ok claimed
    exact lawful.take dispatched outcome

/-! ## Calls -/

theorem filed_closeSweepCandidates (effect : EffectId) (record : LifecycleRecord)
    (found : broker.closeSweepCandidates.1.lifecycles.lookup effect = some record) :
    record.intent.effect = effect := by
  simp only [EffectBroker.closeSweepCandidates, EntryMap.lookup_mapEntries,
    Option.map_eq_some_iff] at found
  obtain ⟨earlier, foundEarlier, rfl⟩ := found
  have own := lawful.filed effect earlier foundEarlier
  split <;> exact own

section Unanswered

variable (unanswered : ∀ rest, broker.owner ≠ .appended rest) {owner : Owner}
include unanswered

/-- The owner goes to a point where nothing is in flight or the call in flight is checked. -/
theorem reown (waiting : ∀ rest, owner ≠ .appended rest)
    (ready : ∀ rest, owner.inFlight = some rest → broker.stateOf rest.effect = rest.before)
    (newest : ∀ intent userTyped, owner.inFlight = some (.insertIntent intent userTyped) →
      intent.effect = broker.effectId broker.nextEffect) :
    Lawful { broker with owner := owner } := by
  refine { lawful with durable := fun effect => ?_, ready, newest }
  have settled : settledState { broker with owner := owner } effect =
      broker.settledState effect := by
    rw [settledState_unanswered unanswered, settledState_unanswered waiting]
    rfl
  rw [settled]
  exact lawful.durable effect

/-- An owner at a point of the close. -/
theorem reown_closing (unbegun : owner.inFlight = none) :
    Lawful { broker with owner := owner } := by
  apply lawful.reown unanswered
  · rintro rest rfl
    cases unbegun
  · simp [unbegun]
  · simp [unbegun]

/-- Without a task there is no claim, so the marks may be taken back. -/
theorem closeSweepCandidates (drained : broker.finalizers = [])
    (unbegun : broker.owner.inFlight = none) : broker.closeSweepCandidates.1.Lawful := by
  have fields : broker.closeSweepCandidates.1.finalizers = [] := drained
  refine ⟨?_, ?_, ?_, ?_, ?_, lawful.newest, ?_, ?_⟩
  · intro effect
    have durable := lawful.durable effect
    have waiting : ∀ rest, broker.closeSweepCandidates.1.owner ≠ .appended rest := unanswered
    have open_ : broker.closeSweepCandidates.1.settledState effect =
        broker.closeSweepCandidates.1.stateOf effect := by
      rw [settledState_unanswered waiting, fields]
      rfl
    rw [settledState_unanswered unanswered, drained, if_neg not_mem_nil] at durable
    rw [open_, stateOf_closeSweepCandidates]
    refine Eq.trans durable ?_
    cases broker.stateOf effect with
    | none => rfl
    | some state => cases state <;> rfl
  · intro rest flying
    cases unbegun.symm.trans flying
  · rw [fields]
    rintro task ⟨⟩
  · rw [fields]
    exact nodup_nil
  · intro effect recorded
    refine lawful.numbered effect ?_
    intro absent
    rw [stateOf_closeSweepCandidates, absent] at recorded
    exact recorded rfl
  · intro effect failed
    refine lawful.remembered effect ?_
    rw [stateOf_closeSweepCandidates, Option.map_eq_some_iff] at failed
    obtain ⟨state, found, failed⟩ := failed
    rw [found]
    split at failed
    · cases failed
    · rw [failed]
  · exact lawful.filed_closeSweepCandidates

theorem sweepCandidate (cancelled tokenCancelled : Bool) (intent : EffectIntent)
    (candidates : List EffectIntent) (reconciled : List EffectId) :
    (broker.sweepCandidate cancelled tokenCancelled intent candidates reconciled).Lawful := by
  unfold EffectBroker.sweepCandidate
  split
  · exact lawful.reown_closing unanswered rfl
  · exact lawful.reown_closing unanswered rfl
  · next claimed =>
    obtain ⟨dispatched, rfl⟩ := claimTerminal_eq_ok claimed
    exact (lawful.take dispatched _).reown_closing unanswered rfl

end Unanswered

variable {rest : Continuation}

theorem begin (idle : broker.owner = .idle) (ready : broker.stateOf rest.effect = rest.before)
    (newest : ∀ intent userTyped, rest = .insertIntent intent userTyped →
      intent.effect = broker.effectId broker.nextEffect) :
    Lawful { broker with owner := .appending rest } := by
  apply lawful.reown
  · simp [idle]
  · simp
  · rintro _ ⟨⟩
    exact ready
  · rintro intent userTyped ⟨⟩
    exact newest intent userTyped rfl

/-- The sink takes the phase of the call in flight. -/
theorem answer (waiting : broker.owner = .appending rest) :
    Lawful { broker.record rest.phase with owner := .appended rest } := by
  have flying := congrArg Owner.inFlight waiting
  have unanswered : ∀ rest, broker.owner ≠ .appended rest := by simp [waiting]
  have uncommitted : .committed rest.effect ∉ broker.finalizers := fun mem =>
    lawful.unclaimed_inFlight flying _ mem rfl
  refine { lawful with durable := ?_, ready := ?_, newest := ?_ }
  · intro effect
    have durable := lawful.durable effect
    rw [settledState_unanswered unanswered] at durable
    show durableStage (broker.journal ++ [rest.phase]) effect = _
    by_cases own : rest.effect = effect
    · subst own
      have settled : settledState { broker.record rest.phase with owner := .appended rest }
          rest.effect = some rest.after := by
        have apart : .committed rest.effect ∉ (broker.record rest.phase).finalizers := uncommitted
        simp only [settledState, if_neg apart, if_true]
      rw [if_neg uncommitted, lawful.ready rest flying] at durable
      rw [durableStage_append_same rest.effectOf_phase, durable, settled]
      exact rest.next_phase
    · have settled : settledState { broker.record rest.phase with owner := .appended rest } effect =
          if .committed effect ∈ broker.finalizers then some .outcome
          else broker.stateOf effect := by
        simp only [settledState, if_neg own]
        rfl
      rw [durableStage_append_other (by rwa [rest.effectOf_phase]), durable, settled]
  · rintro _ ⟨⟩
    exact lawful.ready rest flying
  · rintro intent userTyped ⟨⟩
    exact lawful.newest intent userTyped flying

theorem abort (waiting : broker.owner = .appending rest)
    : Lawful { broker with owner := .idle } := by
  exact lawful.reown_closing (by simp [waiting]) rfl

/-- The call that was answered writes its record and gives the broker back. -/
theorem write (answered : broker.owner = .appended rest)
    {lifecycles : HashMap EffectId LifecycleRecord}
    (own : (lifecycles.lookup rest.effect).map (·.state) = some rest.after)
    (others : ∀ effect, effect ≠ rest.effect →
      lifecycles.lookup effect = broker.lifecycles.lookup effect)
    (filed : ∀ effect record, lifecycles.lookup effect = some record →
      record.intent.effect = effect) :
    Lawful { broker with lifecycles := lifecycles, owner := .idle } := by
  have flying := congrArg Owner.inFlight answered
  have written : stateOf { broker with lifecycles := lifecycles, owner := .idle } rest.effect =
      some rest.after := own
  have unclaimed := lawful.unclaimed_inFlight flying
  have apart : .committed rest.effect ∉ broker.finalizers := fun mem => unclaimed _ mem rfl
  refine lawful.rewrite ⟨rfl, rfl, rfl, rfl⟩ (Sublist.refl _) unclaimed (by rintro _ ⟨⟩) ?_
    (fun other differs => ?_) written others ?_ (fun failed => absurd failed rest.after_ne_failed)
    (filed rest.effect)
  · simp only [settledState, answered, if_neg apart, if_true, written]
  · simp only [settledState, answered, if_neg (Ne.symm differs), stateOf, others other differs]
  · -- only the newest intent is written where nothing was recorded
    cases before : broker.stateOf rest.effect with
    | some state => exact lawful.numbered rest.effect (by rw [before]; rintro ⟨⟩)
    | none =>
      rw [lawful.ready rest flying] at before
      cases rest with
      | insertIntent intent userTyped =>
        exact ⟨broker.nextEffect, Nat.le_refl _, lawful.newest intent userTyped flying⟩
      | _ => cases before

/-- The call that was answered changes the state of its record. -/
theorem write_putState (answered : broker.owner = .appended rest) (recorded : rest.before ≠ none) :
    Lawful { broker.putState rest.effect rest.after with owner := .idle } := by
  apply lawful.write answered
  · cases before : broker.stateOf rest.effect with
    | none =>
      rw [lawful.ready rest (congrArg Owner.inFlight answered)] at before
      exact absurd before recorded
    | some state => exact stateOf_putState_same before
  · intro effect apart
    exact lookup_putState_other apart
  · exact filed_putState lawful.filed

theorem journalDispatched (idle : broker.owner = .idle) (intent : EffectIntent)
    : (broker.orElse (broker.journalDispatched intent)).Lawful := by
  cases returned : broker.journalDispatched intent with
  | error failure => exact lawful
  | ok next =>
    obtain ⟨_, _, returned⟩ := ExceptFold.bind_eq_ok.mp returned
    obtain ⟨_, allowed, returned⟩ := ExceptFold.bind_eq_ok.mp returned
    cases returned
    apply lawful.begin idle
    · exact requireState_eq_ok.mp allowed
    · rintro _ _ ⟨⟩

/-- What follows an append keeps the records and the journal in step. -/
theorem resume (answered : broker.owner = .appended rest) : (broker.resume rest).Lawful := by
  have ready := lawful.ready rest (congrArg Owner.inFlight answered)
  cases rest with
  | insertIntent intent userTyped =>
    have looked : ((broker.lifecycles.insert intent.effect ⟨intent, .intent⟩).lookup
        intent.effect).map (·.state) = some .intent := by
      rw [AList.lookup_insert]
      rfl
    have inserted : Lawful { broker with
        lifecycles := broker.lifecycles.insert intent.effect ⟨intent, .intent⟩
        owner := .idle } := by
      apply lawful.write answered
      · exact looked
      · intro effect apart
        exact AList.lookup_insert_ne apart
      · exact EntryMap.forall_lookup_insert rfl lawful.filed
    cases userTyped with
    | false => exact inserted
    | true =>
      apply inserted.begin rfl
      · exact looked
      · rintro _ _ ⟨⟩
  | setVerdict intent verdict pending taken =>
    have written := lawful.write_putState answered nofun
    cases pending with
    | none =>
      have recorded : stateOf { broker with owner := .idle } intent.effect = some .intent := ready
      simp only [EffectBroker.resume]
      rw [setState_of_recorded recorded]
      exact written
    | some pending =>
      have recorded : stateOf { broker with
          owner := .idle
          pendingPermissions := broker.pendingPermissions.insert pending.menu.id pending }
          intent.effect = some .intent := ready
      simp only [EffectBroker.resume]
      rw [setState_of_recorded recorded]
      exact { written with }
  | setPreAuthorized intent =>
    have written := lawful.write_putState answered nofun
    have recorded : stateOf { broker with owner := .idle } intent.effect = some .intent := ready
    simp only [EffectBroker.resume]
    rw [setState_of_recorded recorded]
    exact written.journalDispatched rfl intent
  | setDispatched intent =>
    have written := lawful.write_putState answered nofun
    have recorded : stateOf { broker with owner := .idle } intent.effect =
        some .authorizedAllow := ready
    simp only [EffectBroker.resume]
    rw [setState_of_recorded recorded]
    exact written

theorem normalize (idle : broker.owner = .idle) (class_ : EffectClass) (summary argsDigest : String)
    (revision : Option WorkspaceRevision) (userTyped : Bool) :
    (broker.normalize class_ summary argsDigest revision userTyped).Lawful := by
  have counted : Lawful { broker with nextEffect := broker.nextEffect + 1 } := by
    refine { lawful with numbered := ?_, newest := ?_ }
    · intro effect recorded
      obtain ⟨n, bound, named⟩ := lawful.numbered effect recorded
      exact ⟨n, Nat.le_succ_of_le bound, named⟩
    · rw [idle]
      rintro _ _ ⟨⟩
  apply counted.begin idle
  · -- The new number is above every recorded one.
    cases recorded : broker.stateOf (broker.effectId (broker.nextEffect + 1)) with
    | none => exact recorded
    | some state =>
      obtain ⟨n, bound, same⟩ :=
        lawful.numbered (broker.effectId (broker.nextEffect + 1)) (by rw [recorded]; rintro ⟨⟩)
      have equal := effectId_injective same
      omega
  · rintro _ _ ⟨⟩
    rfl

theorem authorize (idle : broker.owner = .idle) (intent : EffectIntent) (policy : PermissionPolicy)
    : (broker.orElse (broker.authorize intent policy)).Lawful := by
  cases returned : broker.authorize intent policy with
  | error failure => exact lawful
  | ok next =>
    obtain ⟨found, _, nextMenu, verdict, pending, _, rfl⟩ := authorize_eq_ok returned
    have begun : Lawful { broker with
        owner := .appending (.setVerdict intent verdict pending
          (decisionFor broker.oneShotRules intent policy).2.1) } :=
      lawful.begin idle found nofun
    exact { begun with }

theorem applyPermissionDecision (class_ : EffectClass) (argsDigest : String)
    (decision : DecisionKind) :
    (broker.applyPermissionDecision class_ argsDigest decision).Lawful :=
  { lawful with }

theorem resolvePermission (answer : MenuAnswer) (policy : PermissionPolicy)
    : (broker.resolvePermission answer policy).1.Lawful := by
  unfold EffectBroker.resolvePermission
  split
  · exact lawful
  · have removed : Lawful { broker with
        pendingPermissions := broker.pendingPermissions.erase answer.menu } := { lawful with }
    exact removed.applyPermissionDecision _ _ _

theorem restorePermission (menu : DecisionMenu) (answer : MenuAnswer) (class_ : EffectClass)
    (argsDigest : String) (policy : PermissionPolicy) :
    (broker.restorePermission menu answer class_ argsDigest policy).1.Lawful := by
  unfold EffectBroker.restorePermission
  split
  · exact lawful
  · exact lawful.applyPermissionDecision _ _ _

end Lawful

/-! ## Tasks -/

theorem Lawful.unclaimed_rest (lawful : Lawful { broker with finalizers := task :: tasks })
    (claims : task.claim = some effect) : Unclaimed { broker with finalizers := tasks } effect := by
  intro other mem claimed
  have exclusive := lawful.exclusive
  simp only [filterMap_cons, claims, nodup_cons] at exclusive
  exact exclusive.1 (mem_filterMap.mpr ⟨other, mem, claimed⟩)

theorem Lawful.forget (lawful : Lawful { broker with finalizers := task :: tasks })
    (uncommitted : ∀ effect, .committed effect ≠ task) :
    Lawful { broker with finalizers := tasks } := by
  apply Lawful.retask lawful
  · intro effect
    exact (or_iff_right (uncommitted effect)).symm.trans mem_cons.symm
  · intro other mem
    exact lawful.marked other (mem_cons_of_mem _ mem)
  · exact lawful.exclusive.sublist ((sublist_cons_self task tasks).filterMap _)

variable {outcome : EffectOutcome}

/-- The sink takes the outcome of the first task's effect. -/
theorem Lawful.commit
    (lawful : Lawful { broker with finalizers := .claimed effect outcome :: tasks }) :
    Lawful { broker.record (.outcome effect outcome) with
      finalizers := .committed effect :: tasks } := by
  have before : Stage.of (broker.stateOf effect) = .dispatched :=
    lawful.dispatched_of_claim mem_cons_self rfl
  refine { lawful with durable := ?_, marked := ?_ }
  · intro other
    have durable := lawful.durable other
    by_cases same : effect = other
    · subst same
      have uncommitted : .committed effect ∉ Finalizer.claimed effect outcome :: tasks := by
        intro mem
        rcases mem_cons.mp mem with same | mem
        · cases same
        · exact lawful.unclaimed_rest rfl _ mem rfl
      have settled := settledState_of_apart uncommitted fun _ => lawful.not_inFlight before
      rw [settled] at durable
      have stage : durableStage broker.journal effect = some .dispatched := by
        rw [← before]
        exact durable
      have committed : settledState { broker.record (.outcome effect outcome) with
          finalizers := .committed effect :: tasks } effect = some .outcome := by
        simp only [settledState, mem_cons_self, if_pos]
      rw [committed]
      show durableStage (broker.journal ++ [.outcome effect outcome]) effect = _
      have own : effectOf (.outcome effect outcome) = effect := rfl
      rw [durableStage_append_same own, stage]
      rfl
    · have settled : settledState { broker.record (.outcome effect outcome) with
          finalizers := .committed effect :: tasks } other =
          settledState { broker with finalizers := .claimed effect outcome :: tasks } other := by
        have differs : Finalizer.committed other ≠ .committed effect := by
          rintro ⟨⟩
          exact same rfl
        simp only [settledState, mem_cons, differs, reduceCtorEq, false_or]
        rfl
      rw [settled, ← durable]
      exact durableStage_append_other same
  · intro task mem other claims
    rcases mem_cons.mp mem with rfl | mem
    · cases claims
      exact lawful.marked _ mem_cons_self effect rfl
    · exact lawful.marked task (mem_cons_of_mem _ mem) other claims

variable {error : ToolError}

/-- The sink refuses the outcome of the first task's effect. -/
theorem Lawful.refuse
    (lawful : Lawful { broker with finalizers := .claimed effect outcome :: tasks }) :
    Lawful { broker with finalizers := .refused effect error :: tasks } := by
  have left : Lawful { broker with finalizers := tasks } := lawful.forget nofun
  refine left.enlist nofun ?_
  rintro _ ⟨⟩
  exact ⟨lawful.unclaimed_rest rfl, lawful.marked _ mem_cons_self effect rfl⟩

/-- The first task writes the outcome it has committed. -/
theorem Lawful.settle_committed
    (lawful : Lawful { broker with finalizers := .committed effect :: tasks }) :
    Lawful (markOutcome { broker with finalizers := tasks } effect) := by
  have marked : broker.stateOf effect = some .terminalizing :=
    lawful.marked _ mem_cons_self effect rfl
  have unclaimed : Unclaimed { broker with finalizers := tasks } effect :=
    lawful.unclaimed_rest rfl
  have written : (markOutcome { broker with finalizers := tasks } effect).stateOf effect =
      some .outcome := stateOf_putState_same marked
  have apart : ∀ rest, broker.owner.inFlight = some rest → rest.effect ≠ effect :=
    fun rest => lawful.not_inFlight (lawful.dispatched_of_claim mem_cons_self rfl)
  refine lawful.rewrite ⟨rfl, rfl, rfl, rfl⟩ (sublist_cons_self _ tasks) unclaimed
    (fun rest flying => ⟨flying, apart rest flying⟩) ?_ (fun other differs => ?_) written
    (fun other => lookup_putState_other)
    (lawful.numbered effect fun absent => by cases marked.symm.trans absent) nofun
    (filed_putState lawful.filed effect)
  · have settled : (markOutcome { broker with finalizers := tasks } effect).settledState effect =
        _ := settledState_of_apart (fun mem => unclaimed _ mem rfl) apart
    rw [settled, written]
    simp only [settledState, mem_cons_self, if_pos]
  · have other_ne : Finalizer.committed other ≠ .committed effect := by
      rintro ⟨⟩
      exact differs rfl
    simp only [settledState, markOutcome, stateOf_putState_other differs, mem_cons, other_ne,
      false_or]
    rfl

/-- The first task remembers the error of its append. -/
theorem Lawful.settle_refused
    (lawful : Lawful { broker with finalizers := .refused effect error :: tasks }) :
    Lawful (markTerminalJournalFailed { broker with finalizers := tasks } effect error) := by
  have before : Stage.of (broker.stateOf effect) = .dispatched :=
    lawful.dispatched_of_claim mem_cons_self rfl
  have recorded : (broker.lifecycles.lookup effect).isSome = true := by
    rw [← Option.isSome_map]
    exact Option.isSome_of_eq_some (lawful.marked _ mem_cons_self effect rfl)
  have unclaimed : Unclaimed { broker with finalizers := tasks } effect :=
    lawful.unclaimed_rest rfl
  have left : Lawful { broker with finalizers := tasks } :=
    lawful.forget nofun
  have named : Lawful { broker with
      finalizers := tasks
      terminalErrors := broker.terminalErrors.insert effect error } := by
    refine { left with remembered := fun other failed => ?_ }
    by_cases same : other = effect
    · rw [same, AList.lookup_insert]
      rfl
    · rw [AList.lookup_insert_ne same]
      exact left.remembered other failed
  have present : ((broker.terminalErrors.insert effect error).lookup effect).isSome = true := by
    rw [AList.lookup_insert]
    rfl
  simp only [markTerminalJournalFailed, recorded, if_true]
  exact named.remark unclaimed before rfl fun _ => present

/-- The first task is lost before the sink has answered it. -/
theorem Lawful.lose {polled : Bool} (lawful : Lawful { broker with finalizers := task :: tasks })
    (lost : EffectBroker.lose { broker with finalizers := tasks } polled task = some next) :
    next.Lawful := by
  cases task with
  | working intent =>
    cases lost
    exact lawful.forget nofun
  | claimed effect outcome =>
    have left : Lawful { broker with finalizers := tasks } :=
      lawful.forget nofun
    cases polled with
    | true =>
      cases lost
      exact left
    | false =>
      have marked : stateOf { broker with finalizers := tasks } effect = some .terminalizing :=
        lawful.marked _ mem_cons_self effect rfl
      cases lost
      simp only [Bool.false_eq_true, if_false, abandonTerminal, marked, if_true]
      refine left.remark (lawful.unclaimed_rest rfl) ?_ rfl nofun
      rw [marked]
      rfl
  | committed | refused => cases lost

/-- The first task settles its claim. -/
theorem Lawful.settle (lawful : Lawful { broker with finalizers := task :: tasks })
    (settled : EffectBroker.settle { broker with finalizers := tasks } task = some next) :
    next.Lawful := by
  cases task with
  | working | claimed => cases settled
  | committed effect =>
    cases settled
    exact lawful.settle_committed
  | refused effect error =>
    cases settled
    exact lawful.settle_refused

/-! ## The steps -/

theorem byTask_eq_some {made : Option EffectBroker}
    (stepped : broker.byTask task made = some next) : task ∈ broker.finalizers ∧ made = some next := by
  unfold byTask at stepped
  split at stepped
  · next mem => exact ⟨mem, stepped⟩
  · cases stepped

/-- A task that steps is in the finalizer set, where it may as well be the first. -/
theorem Lawful.byTask (lawful : broker.Lawful) {made : Option EffectBroker}
    (stepped : broker.byTask task made = some next) :
    Lawful { broker with finalizers := task :: broker.finalizers.erase task } ∧
      made = some next := by
  obtain ⟨mem, made⟩ := byTask_eq_some stepped
  exact ⟨lawful.perm (perm_cons_erase mem), made⟩

/-- Every step keeps the records and the journal in step. -/
theorem Lawful.step (lawful : broker.Lawful) {action : Action}
    (stepped : broker.step action = some next) : next.Lawful := by
  cases action with
  | normalize class_ summary argsDigest revision userTyped =>
    obtain ⟨idle, rfl⟩ := call_eq_some stepped
    exact lawful.normalize idle _ _ _ _ _
  | authorize intent policy =>
    obtain ⟨idle, rfl⟩ := call_eq_some stepped
    exact lawful.authorize idle intent policy
  | journalDispatched intent =>
    obtain ⟨idle, rfl⟩ := call_eq_some stepped
    exact lawful.journalDispatched idle intent
  | journalOutcome intent outcome =>
    obtain ⟨_, rfl⟩ := call_eq_some stepped
    exact lawful.spawnTerminal intent outcome
  | resolvePermission answer policy =>
    obtain ⟨_, rfl⟩ := call_eq_some stepped
    exact lawful.resolvePermission answer policy
  | restorePermission menu answer class_ argsDigest policy =>
    obtain ⟨_, rfl⟩ := call_eq_some stepped
    exact lawful.restorePermission menu answer class_ argsDigest policy
  | registerFinalizer intent =>
    obtain ⟨_, rfl⟩ := call_eq_some stepped
    have joined : Lawful { broker with finalizers := .working intent :: broker.finalizers } :=
      lawful.enlist nofun nofun
    exact joined.perm (perm_append_singleton _ _).symm
  | sinkCommits =>
    simp only [EffectBroker.step] at stepped
    split at stepped
    · next waiting =>
      cases stepped
      exact lawful.answer waiting
    · cases stepped
  | sinkFails | dropCaller =>
    simp only [EffectBroker.step] at stepped
    split at stepped
    · next waiting =>
      cases stepped
      exact lawful.abort waiting
    · cases stepped
  | resume =>
    simp only [EffectBroker.step] at stepped
    split at stepped
    · next answered =>
      cases stepped
      exact lawful.resume answered
    · cases stepped
  | finish intent outcome =>
    obtain ⟨first, made⟩ := lawful.byTask stepped
    cases made
    have left : Lawful { broker with
        finalizers := broker.finalizers.erase (.working intent) } :=
      first.forget nofun
    exact left.spawnTerminal intent outcome
  | taskCommits effect outcome =>
    obtain ⟨first, made⟩ := lawful.byTask stepped
    cases made
    exact first.commit
  | taskFails effect outcome error =>
    obtain ⟨first, made⟩ := lawful.byTask stepped
    cases made
    exact first.refuse
  | taskSettles task =>
    obtain ⟨first, made⟩ := lawful.byTask stepped
    exact first.settle made
  | taskLost task polled cause =>
    obtain ⟨first, made⟩ := lawful.byTask stepped
    have kept : Lawful { broker.keepFailure task cause with
        finalizers := task :: broker.finalizers.erase task } := { first with }
    exact kept.lose made
  | close cancelled =>
    obtain ⟨idle, rfl⟩ := call_eq_some stepped
    exact lawful.reown_closing (by simp [idle]) rfl
  | sweep =>
    simp only [EffectBroker.step] at stepped
    split at stepped
    · next draining drained =>
      cases stepped
      have unanswered : ∀ rest, broker.owner ≠ .appended rest := by simp [draining]
      have swept := lawful.closeSweepCandidates unanswered drained (by rw [draining]; rfl)
      have drained : Lawful { broker.closeSweepCandidates.1 with failed := [] } := { swept with }
      exact drained.reown_closing unanswered rfl
    · cases stepped
  | sweepNext tokenCancelled =>
    simp only [EffectBroker.step] at stepped
    split at stepped
    · next sweeping =>
      cases stepped
      exact lawful.sweepCandidate (by simp [sweeping]) _ _ _ _ _
    · cases stepped
  | sweepSettled | closed =>
    simp only [EffectBroker.step] at stepped
    split at stepped
    · next closing _ =>
      cases stepped
      exact lawful.reown_closing (by simp [closing]) rfl
    · cases stepped

theorem lawful_newAt (sessionId : SessionId) (workerGeneration startedAtMs : Nat) :
    (newAt sessionId workerGeneration startedAtMs).Lawful where
  durable := fun _ => rfl
  ready := by rintro _ ⟨⟩
  marked := nofun
  exclusive := nodup_nil
  numbered := fun _ recorded => absurd rfl recorded
  newest := nofun
  remembered := nofun
  filed := nofun

end EffectBroker

end HaiderAgent.Broker
