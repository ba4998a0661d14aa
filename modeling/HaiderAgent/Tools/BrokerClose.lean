import HaiderAgent.Tools.BrokerLifecycle

/-!
# What a close leaves behind

The sweep starts when no task is left, so every effect without an outcome is a candidate
or was refused by the sink, and it ends with none. Together with the lifecycle invariant:
when `close` or `cancel` has returned, each dispatched effect has its outcome or is named
by a terminal append error, unless the terminal append of the sweep itself was unwound: the
task set then keeps a failure that names no effect, and the effect stays open.
-/

namespace HaiderAgent.Broker

open List

/-- The owner has not begun the close sweep. -/
def Owner.beforeSweep : Owner → Bool
  | .idle | .appending _ | .appended _ | .draining _ => true
  | .sweeping .. | .awaiting .. | .closed _ => false

/-- The candidates the sweep has not come to. -/
def Owner.candidates : Owner → Option (List EffectIntent)
  | .sweeping _ candidates _ | .awaiting _ _ candidates _ => some candidates
  | .closed _ => some []
  | .idle | .appending _ | .appended _ | .draining _ => none

/-- The sweep waits for no task. -/
def Owner.quiet : Owner → Bool
  | .sweeping .. | .closed _ => true
  | _ => false

namespace EffectBroker

variable {broker next : EffectBroker} {effect other : EffectId} {task : Finalizer}
  {candidates : List EffectIntent}

/-- A task that held the claim to an effect was lost after the first drain. -/
def Lost (broker : EffectBroker) (effect : EffectId) : Prop :=
  ∃ outcome cause, (.claimed effect outcome, cause) ∈ broker.failed

/-- The sweep has overlooked no effect. -/
structure Swept (broker : EffectBroker) (candidates : List EffectIntent) : Prop where
  /-- An effect without an outcome is a candidate, -/
  listed : ∀ effect, broker.stateOf effect = some .dispatched →
    (∃ intent ∈ candidates, intent.effect = effect) ∨ broker.Lost effect
  /-- or a task has its claim; or the task with its claim was lost. -/
  held : ∀ effect, broker.stateOf effect = some .terminalizing →
    (∃ task ∈ broker.finalizers, task.claim = some effect) ∨ broker.Lost effect
  /-- The candidates are recorded intents. -/
  recorded : ∀ intent ∈ candidates, ∃ record,
    broker.lifecycles.lookup intent.effect = some record ∧ record.intent = intent
  /-- Every task has a claim. -/
  claiming : ∀ task ∈ broker.finalizers, task.claim ≠ none

/-- The invariant of the close. -/
structure Closing (broker : EffectBroker) : Prop where
  swept : ∀ candidates, broker.owner.candidates = some candidates → broker.Swept candidates
  quiet : broker.owner.quiet = true → broker.finalizers = []
  returned : ∀ result, broker.owner = .closed result →
    ∃ reconciled errors leaked, result = broker.closeResult reconciled errors leaked ∧
      ∀ lost ∈ broker.failed, taskFailure lost.2 ∈ errors

theorem closing_of_beforeSweep (early : broker.owner.beforeSweep = true) : broker.Closing := by
  cases owner : broker.owner with
  | sweeping | awaiting | closed =>
    rw [owner] at early
    cases early
  | idle | appending | appended | draining =>
    constructor <;> rw [owner] <;> nofun

/-! ## Where the calls leave the owner -/

theorem owner_spawnTerminal (intent : EffectIntent) (outcome : EffectOutcome) :
    (broker.spawnTerminal intent outcome).owner = broker.owner := by
  unfold spawnTerminal
  split
  · rfl
  · rfl
  · next claimed =>
    obtain ⟨_, rfl⟩ := claimTerminal_eq_ok claimed
    rfl

theorem owner_resolvePermission (answer : MenuAnswer) (policy : PermissionPolicy) :
    (broker.resolvePermission answer policy).1.owner = broker.owner := by
  unfold resolvePermission
  split <;> rfl

theorem owner_restorePermission (menu : DecisionMenu) (answer : MenuAnswer)
    (class_ : EffectClass) (argsDigest : String) (policy : PermissionPolicy) :
    (broker.restorePermission menu answer class_ argsDigest policy).1.owner = broker.owner := by
  unfold restorePermission
  split <;> rfl

theorem owner_lose {polled : Bool} (lost : broker.lose polled task = some next) :
    next.owner = broker.owner := by
  cases task with
  | working =>
    cases lost
    rfl
  | claimed =>
    cases lost
    split
    · rfl
    · unfold abandonTerminal
      split <;> rfl
  | committed | refused => cases lost

variable (early : broker.owner.beforeSweep = true)
include early

theorem beforeSweep_authorize (intent : EffectIntent) (policy : PermissionPolicy) :
    (broker.orElse (broker.authorize intent policy)).owner.beforeSweep = true := by
  cases returned : broker.authorize intent policy with
  | error failure => exact early
  | ok next =>
    obtain ⟨_, _, _, _, _, _, rfl⟩ := authorize_eq_ok returned
    rfl

theorem beforeSweep_journalDispatched (intent : EffectIntent) :
    (broker.orElse (broker.journalDispatched intent)).owner.beforeSweep = true := by
  cases returned : broker.journalDispatched intent with
  | error failure => exact early
  | ok next =>
    obtain ⟨_, _, returned⟩ := ExceptFold.bind_eq_ok.mp returned
    obtain ⟨_, _, returned⟩ := ExceptFold.bind_eq_ok.mp returned
    cases returned
    rfl

theorem beforeSweep_setState (effect : EffectId) (state : LifecycleState) :
    (broker.orElse (broker.setState effect state)).owner.beforeSweep = true := by
  unfold setState
  split <;> exact early

omit early

theorem beforeSweep_resume (rest : Continuation) :
    (broker.resume rest).owner.beforeSweep = true := by
  cases rest with
  | insertIntent intent userTyped => cases userTyped <;> rfl
  | setVerdict intent verdict pending taken =>
    cases pending <;> exact beforeSweep_setState rfl _ _
  | setPreAuthorized intent =>
    simp only [resume, setState]
    split
    · rfl
    · exact beforeSweep_journalDispatched rfl intent
  | setDispatched intent => exact beforeSweep_setState rfl _ _

/-! ## Tasks during the sweep -/

variable {state : LifecycleState}

/-- A state that was not put was there before, for another effect. -/
theorem stateOf_of_putState {found : LifecycleState}
    (holds : (broker.putState effect state).stateOf other = some found) (differs : state ≠ found) :
    other ≠ effect ∧ broker.stateOf other = some found := by
  have apart : other ≠ effect := by
    rintro rfl
    simp only [stateOf, lookup_putState, if_true, Option.map_map, Option.map_eq_some_iff] at holds
    obtain ⟨_, _, same⟩ := holds
    exact differs same
  exact ⟨apart, stateOf_putState_other apart ▸ holds⟩

variable {intent : EffectIntent}

theorem recorded_putState : (∃ record,
      broker.lifecycles.lookup intent.effect = some record ∧ record.intent = intent) →
    ∃ record, (broker.putState effect state).lifecycles.lookup intent.effect = some record ∧
      record.intent = intent := by
  rintro ⟨record, found, own⟩
  refine ⟨_, lookup_putState.trans (congrArg _ found), ?_⟩
  split <;> exact own

/-- The holder of another claim stays when a task leaves. -/
theorem held_dropFinalizer (claims : task.claim = some effect) (apart : other ≠ effect) :
    (∃ holder ∈ broker.finalizers, holder.claim = some other) →
      ∃ holder ∈ (broker.dropFinalizer task).finalizers, holder.claim = some other := by
  rintro ⟨holder, mem, holds⟩
  refine ⟨holder, (mem_erase_of_ne ?_).mpr mem, holds⟩
  rintro rfl
  rw [claims, Option.some_inj] at holds
  exact apart holds.symm

namespace Swept

variable (swept : broker.Swept candidates)
include swept

/-- An effect that is settled leaves the sweep with its task. -/
theorem settle (claims : task.claim = some effect)
    (settled : state ≠ .dispatched ∧ state ≠ .terminalizing) :
    Swept ((broker.dropFinalizer task).putState effect state) candidates := by
  refine ⟨?_, ?_, ?_, ?_⟩
  · intro other dispatched
    exact swept.listed other (stateOf_of_putState dispatched settled.1).2
  · intro other terminalizing
    obtain ⟨apart, before⟩ := stateOf_of_putState terminalizing settled.2
    exact (swept.held other before).imp_left (held_dropFinalizer claims apart)
  · intro intent listed
    exact recorded_putState (swept.recorded intent listed)
  · intro other mem
    exact swept.claiming other (mem_of_mem_erase mem)

theorem advance {following : Finalizer} (same : following.claim = task.claim)
    (mem : task ∈ broker.finalizers) :
    Swept (broker.advanceFinalizer task following) candidates := by
  refine ⟨swept.listed, ?_, swept.recorded, ?_⟩
  · intro effect terminalizing
    refine (swept.held effect terminalizing).imp_left ?_
    rintro ⟨holder, holderMember, holds⟩
    by_cases first : holder = task
    · subst first
      exact ⟨following, mem_cons_self, same.trans holds⟩
    · exact ⟨holder, mem_cons_of_mem _ ((mem_erase_of_ne first).mpr holderMember), holds⟩
  · intro other otherMember
    rcases mem_cons.mp otherMember with rfl | otherMember
    · rw [same]
      exact swept.claiming task mem
    · exact swept.claiming other (mem_of_mem_erase otherMember)

theorem abandonTerminal (lost : broker.Lost effect) :
    Swept (broker.abandonTerminal effect) candidates := by
  unfold EffectBroker.abandonTerminal
  split
  · refine ⟨?_, ?_, ?_, swept.claiming⟩
    · intro other dispatched
      by_cases same : other = effect
      · exact .inr (same ▸ lost)
      · exact swept.listed other ((stateOf_putState_other same).symm.trans dispatched)
    · intro other terminalizing
      exact swept.held other (stateOf_of_putState terminalizing nofun).2
    · intro intent listed
      exact recorded_putState (swept.recorded intent listed)
  · exact swept

/-- A claim that leaves with its task is lost. -/
theorem keepFailure {outcome : EffectOutcome} (cause : String) :
    Swept ((broker.dropFinalizer (.claimed effect outcome)).keepFailure
      (.claimed effect outcome) cause) candidates := by
  have kept {other : EffectId} : broker.Lost other → Lost ((broker.dropFinalizer
      (.claimed effect outcome)).keepFailure (.claimed effect outcome) cause) other := by
    rintro ⟨outcome, cause, mem⟩
    exact ⟨outcome, cause, mem_append_left _ mem⟩
  refine ⟨?_, ?_, swept.recorded, ?_⟩
  · intro other dispatched
    exact (swept.listed other dispatched).imp_right kept
  · intro other terminalizing
    by_cases same : other = effect
    · subst same
      exact .inr ⟨outcome, cause, mem_append_right _ mem_cons_self⟩
    · exact (swept.held other terminalizing).imp (held_dropFinalizer rfl same) kept
  · intro other mem
    exact swept.claiming other (mem_of_mem_erase mem)

theorem lose {polled : Bool} {cause : String} (mem : task ∈ broker.finalizers)
    (lost : ((broker.dropFinalizer task).keepFailure task cause).lose polled task = some next) :
    next.Swept candidates := by
  cases task with
  | working intent => exact absurd rfl (swept.claiming _ mem)
  | committed | refused => cases lost
  | claimed effect outcome =>
    have left := @keepFailure _ effect _ swept outcome cause
    cases lost
    split
    · exact left
    · exact left.abandonTerminal ⟨outcome, cause, mem_append_right _ mem_cons_self⟩

end Swept

/-- A step of a task, which a quiet sweep does not have. -/
theorem Closing.of_task (closing : broker.Closing) (mem : task ∈ broker.finalizers)
    (same : next.owner = broker.owner)
    (keeps : ∀ candidates, broker.Swept candidates → next.Swept candidates) : next.Closing := by
  have loud : broker.owner.quiet = false := by
    cases quiet : broker.owner.quiet with
    | false => rfl
    | true =>
      rw [closing.quiet quiet] at mem
      cases mem
  refine ⟨?_, ?_, ?_⟩
  · intro candidates left
    rw [same] at left
    exact keeps candidates (closing.swept candidates left)
  · rw [same, loud]
    rintro ⟨⟩
  · intro result closed
    rw [same] at closed
    rw [closed] at loud
    cases loud

theorem Closing.settle (closing : broker.Closing) (mem : task ∈ broker.finalizers)
    (settled : (broker.dropFinalizer task).settle task = some next) : next.Closing := by
  cases task with
  | working | claimed => cases settled
  | committed effect =>
    cases settled
    refine closing.of_task mem rfl fun candidates swept => ?_
    exact swept.settle rfl ⟨nofun, nofun⟩
  | refused effect error =>
    cases settled
    refine closing.of_task mem rfl fun candidates swept => ?_
    have kept : Swept ((broker.dropFinalizer (.refused effect error)).putState effect
        .terminalJournalFailed) candidates := swept.settle rfl ⟨nofun, nofun⟩
    exact { kept with }

/-! ## The sweep -/

/-- With no finalizer left the sweep covers every open effect. -/
theorem swept_closeSweepCandidates (lawful : broker.Lawful) (drained : broker.finalizers = [])
    (owner : Owner) : Swept { broker.closeSweepCandidates.1 with owner, failed := [] }
      broker.closeSweepCandidates.2 := by
  have listed (intent : EffectIntent) : intent ∈ broker.closeSweepCandidates.2 ↔
      ∃ entry ∈ broker.closeSweepCandidates.1.lifecycles.entries,
        entry.2.state = .dispatched ∧ entry.2.intent = intent := by
    simp only [closeSweepCandidates, (perm_insertionSort _ _).mem_iff, mem_map,
      mem_filter, decide_eq_true_eq, and_assoc]
  refine ⟨?_, ?_, ?_, ?_⟩
  · intro effect dispatched
    simp only [stateOf, Option.map_eq_some_iff] at dispatched
    obtain ⟨record, found, dispatched⟩ := dispatched
    refine .inl ⟨record.intent, (listed _).mpr ⟨⟨effect, record⟩, ?_, dispatched, rfl⟩, ?_⟩
    · exact EntryMap.mem_entries_iff.mpr found
    · exact lawful.filed_closeSweepCandidates effect record found
  · intro effect terminalizing
    change broker.closeSweepCandidates.1.stateOf effect = _ at terminalizing
    rw [stateOf_closeSweepCandidates, Option.map_eq_some_iff] at terminalizing
    obtain ⟨state, _, terminalizing⟩ := terminalizing
    split at terminalizing
    · cases terminalizing
    · next unmarked => exact absurd terminalizing unmarked
  · intro intent mem
    obtain ⟨⟨effect, record⟩, entry, _, rfl⟩ := (listed intent).mp mem
    have found := EntryMap.mem_entries_iff.mp entry
    rw [lawful.filed_closeSweepCandidates effect record found]
    exact ⟨record, found, rfl⟩
  · intro task mem
    cases drained ▸ (mem : task ∈ broker.finalizers)

theorem claimTerminal_of_dispatched {record : LifecycleRecord}
    (found : broker.lifecycles.lookup intent.effect = some record) (own : record.intent = intent)
    (dispatched : broker.stateOf intent.effect = some .dispatched) :
    broker.claimTerminal intent = .ok (some (broker.putState intent.effect .terminalizing)) := by
  have state : record.state = .dispatched := by
    simpa only [stateOf, found, Option.map_some, Option.some_inj] using dispatched
  simp only [claimTerminal, found, own, ne_eq, not_true_eq_false, if_false, state]

variable (swept : broker.Swept (intent :: candidates))
include swept

theorem Swept.skip (settled : broker.stateOf intent.effect ≠ some .dispatched) :
    broker.Swept candidates := by
  refine ⟨?_, swept.held, ?_, swept.claiming⟩
  · intro effect dispatched
    refine (swept.listed effect dispatched).imp_left ?_
    rintro ⟨candidate, mem, rfl⟩
    rcases mem_cons.mp mem with rfl | mem
    · exact absurd dispatched settled
    · exact ⟨candidate, mem, rfl⟩
  · intro candidate mem
    exact swept.recorded candidate (mem_cons_of_mem _ mem)

/-- A claimed candidate is still accounted for. -/
theorem Swept.claim (outcome : EffectOutcome) :
    Swept { broker.putState intent.effect .terminalizing with
      finalizers := broker.finalizers ++ [.claimed intent.effect outcome] } candidates := by
  refine ⟨?_, ?_, ?_, ?_⟩
  · intro effect dispatched
    change (broker.putState _ _).stateOf effect = _ at dispatched
    obtain ⟨apart, before⟩ := stateOf_of_putState dispatched nofun
    refine (swept.listed effect before).imp_left ?_
    rintro ⟨candidate, mem, rfl⟩
    rcases mem_cons.mp mem with rfl | mem
    · exact absurd rfl apart
    · exact ⟨candidate, mem, rfl⟩
  · intro effect terminalizing
    by_cases same : effect = intent.effect
    · exact .inl ⟨_, mem_append_right _ mem_cons_self, congrArg some same.symm⟩
    · refine (swept.held effect ((stateOf_putState_other same).symm.trans terminalizing)).imp_left ?_
      rintro ⟨holder, mem, holds⟩
      exact ⟨holder, mem_append_left _ mem, holds⟩
  · intro candidate mem
    exact recorded_putState (swept.recorded candidate (mem_cons_of_mem _ mem))
  · exact forall_mem_append.mpr ⟨swept.claiming, forall_mem_singleton.mpr nofun⟩

theorem Closing.sweepCandidate (drained : broker.finalizers = []) (cancelled tokenCancelled : Bool)
    (reconciled : List EffectId) :
    (broker.sweepCandidate cancelled tokenCancelled intent candidates reconciled).Closing := by
  obtain ⟨record, found, own⟩ := swept.recorded intent mem_cons_self
  by_cases dispatched : broker.stateOf intent.effect = some .dispatched
  · have claimed := claimTerminal_of_dispatched found own dispatched
    simp only [EffectBroker.sweepCandidate, claimed]
    refine ⟨?_, nofun, nofun⟩
    rintro _ ⟨⟩
    exact { swept.claim
      (if cancelled || tokenCancelled then .cancelled else .unknown) with }
  · have passed : broker.sweepCandidate cancelled tokenCancelled intent candidates reconciled =
        { broker with owner := .sweeping cancelled candidates reconciled } := by
      unfold EffectBroker.sweepCandidate
      split
      · rfl
      · rfl
      · next claimed => exact absurd (claimTerminal_eq_ok claimed).1 dispatched
    rw [passed]
    refine ⟨?_, fun _ => drained, nofun⟩
    rintro _ ⟨⟩
    exact { swept.skip dispatched with }

omit swept

/-- Every step of the close keeps what is still owed accounted for. -/
theorem Closing.step (closing : broker.Closing) (lawful : broker.Lawful) {action : Action}
    (stepped : broker.step action = some next) : next.Closing := by
  have early (idle : broker.owner = .idle) : broker.owner.beforeSweep = true :=
    congrArg Owner.beforeSweep idle
  cases action with
  | normalize =>
    obtain ⟨_, rfl⟩ := call_eq_some stepped
    exact closing_of_beforeSweep rfl
  | authorize intent policy =>
    obtain ⟨idle, rfl⟩ := call_eq_some stepped
    exact closing_of_beforeSweep (beforeSweep_authorize (early idle) intent policy)
  | journalDispatched intent =>
    obtain ⟨idle, rfl⟩ := call_eq_some stepped
    exact closing_of_beforeSweep (beforeSweep_journalDispatched (early idle) intent)
  | journalOutcome intent outcome =>
    obtain ⟨idle, rfl⟩ := call_eq_some stepped
    exact closing_of_beforeSweep (by rw [owner_spawnTerminal, early idle])
  | resolvePermission answer policy =>
    obtain ⟨idle, rfl⟩ := call_eq_some stepped
    exact closing_of_beforeSweep (by rw [owner_resolvePermission, early idle])
  | restorePermission menu answer class_ argsDigest policy =>
    obtain ⟨idle, rfl⟩ := call_eq_some stepped
    exact closing_of_beforeSweep (by rw [owner_restorePermission, early idle])
  | registerFinalizer intent =>
    obtain ⟨idle, rfl⟩ := call_eq_some stepped
    exact closing_of_beforeSweep (early idle)
  | sinkCommits | sinkFails | dropCaller | resume =>
    simp only [EffectBroker.step] at stepped
    split at stepped
    · cases stepped
      first
        | exact closing_of_beforeSweep rfl
        | exact closing_of_beforeSweep (beforeSweep_resume _)
    · cases stepped
  | finish intent outcome =>
    obtain ⟨mem, made⟩ := byTask_eq_some stepped
    cases made
    refine closing.of_task mem (owner_spawnTerminal _ _) fun candidates swept => ?_
    exact absurd rfl (swept.claiming _ mem)
  | taskCommits effect outcome =>
    obtain ⟨mem, made⟩ := byTask_eq_some stepped
    cases made
    refine closing.of_task mem rfl fun candidates swept => ?_
    have kept : Swept (broker.advanceFinalizer (.claimed effect outcome) (.committed effect))
        candidates := swept.advance rfl mem
    exact { kept with }
  | taskFails effect outcome error =>
    obtain ⟨mem, made⟩ := byTask_eq_some stepped
    cases made
    exact closing.of_task mem rfl fun candidates swept => swept.advance rfl mem
  | taskSettles task =>
    obtain ⟨mem, made⟩ := byTask_eq_some stepped
    exact closing.settle mem made
  | taskLost task polled cause =>
    obtain ⟨mem, made⟩ := byTask_eq_some stepped
    exact closing.of_task mem (owner_lose made :) fun candidates swept => swept.lose mem made
  | close cancelled =>
    obtain ⟨_, rfl⟩ := call_eq_some stepped
    exact closing_of_beforeSweep rfl
  | sweep =>
    simp only [EffectBroker.step] at stepped
    split at stepped
    · next draining drained =>
      cases stepped
      refine ⟨?_, fun _ => drained, ?_⟩
      · rintro _ ⟨⟩
        exact swept_closeSweepCandidates lawful drained _
      · rintro _ ⟨⟩
    · cases stepped
  | sweepNext tokenCancelled =>
    simp only [EffectBroker.step] at stepped
    split at stepped
    · next sweeping =>
      cases stepped
      exact Closing.sweepCandidate (closing.swept _ (congrArg Owner.candidates sweeping))
        (closing.quiet (congrArg Owner.quiet sweeping)) _ _ _
    · cases stepped
  | sweepSettled =>
    simp only [EffectBroker.step] at stepped
    split at stepped
    · next awaiting drained =>
      cases stepped
      refine ⟨?_, fun _ => drained, ?_⟩
      · rintro _ ⟨⟩
        exact { closing.swept _ (congrArg Owner.candidates awaiting) with }
      · rintro _ ⟨⟩
    · cases stepped
  | closed errors leaked =>
    simp only [EffectBroker.step] at stepped
    split at stepped
    · next reconciled sweeping drained =>
      cases stepped
      refine ⟨?_, fun _ => drained, ?_⟩
      · rintro _ ⟨⟩
        exact { closing.swept _ (congrArg Owner.candidates sweeping) with }
      · rintro _ ⟨⟩
        refine ⟨reconciled, _, leaked, rfl, ?_⟩
        intro lost mem
        exact mem_append_right _ (mem_map.mpr ⟨lost, mem, rfl⟩)
    · cases stepped

/-! ## The result of a close -/

/-- Each error keeps its text through the removal of duplicates. -/
theorem mem_text_pushUnique (errors unique : List ToolError) (error : ToolError)
    (pushed : error ∈ errors ∨ ∃ kept ∈ unique, kept.text = error.text) :
    ∃ kept ∈ errors.foldl pushUnique unique, kept.text = error.text := by
  induction errors generalizing unique with
  | nil => exact pushed.resolve_left not_mem_nil
  | cons first errors ih =>
    apply ih
    have firstKept : ∃ kept ∈ pushUnique unique first, kept.text = first.text := by
      unfold pushUnique
      split
      · next duplicate =>
        obtain ⟨kept, mem, same⟩ := any_eq_true.mp duplicate
        exact ⟨kept, mem, beq_iff_eq.mp same⟩
      · exact ⟨first, mem_append_right _ mem_cons_self, rfl⟩
    have grows : ∀ kept ∈ unique, kept ∈ pushUnique unique first := by
      intro kept mem
      unfold pushUnique
      split
      · exact mem
      · exact mem_append_left _ mem
    rcases pushed with mem | ⟨kept, mem, same⟩
    · rcases mem_cons.mp mem with rfl | mem
      · exact .inr firstKept
      · exact .inl mem
    · exact .inr ⟨kept, grows kept mem, same⟩

/-- The result of the close names an effect. -/
def Names (result : Except CloseError CloseReport) (effect : EffectId) : Prop :=
  ∃ failure cause, result = .error failure ∧
    ∃ error ∈ failure.errors, error.text = (terminalError effect cause).text

variable {reconciled : List EffectId} {errors : List ToolError} {leaked : List String}

/-- A text that reaches the end of the close is in its error. -/
theorem finishClose_error {report : CloseReport} {terminalErrors : List (EffectId × ToolError)}
    {error : ToolError} (reported : error ∈ errors ++
      terminalErrors.map fun entry => terminalError entry.1 entry.2) :
    ∃ failure, finishClose report errors terminalErrors = .error failure ∧
      ∃ kept ∈ failure.errors, kept.text = error.text := by
  obtain ⟨kept, mem, same⟩ := mem_text_pushUnique _ [] error (.inl reported)
  unfold finishClose
  simp only
  generalize foldl pushUnique [] _ = unique at mem
  cases unique with
  | nil => cases mem
  | cons first unique => exact ⟨_, rfl, kept, mem, same⟩

theorem names_closeResult (remembered : (broker.terminalErrors.lookup effect).isSome = true) :
    Names (broker.closeResult reconciled errors leaked) effect := by
  obtain ⟨cause, found⟩ := Option.isSome_iff_exists.mp remembered
  have taken : (effect, cause) ∈ broker.takeTerminalErrors := by
    rw [takeTerminalErrors, (perm_insertionSort _ _).mem_iff]
    exact mem_map.mpr ⟨⟨effect, cause⟩, EntryMap.mem_entries_iff.mpr found, rfl⟩
  obtain ⟨failure, failed, named⟩ := finishClose_error
    (mem_append_right _ (mem_map.mpr ⟨_, taken, rfl⟩))
  exact ⟨failure, cause, failed, named⟩

/-- An error of the drains fails the close, also where a terminal append error stands for it. -/
theorem closeResult_error {error : ToolError} (collected : error ∈ errors) :
    ∃ failure, broker.closeResult reconciled errors leaked = .error failure := by
  cases known : broker.takeTerminalErrors.any (·.2 == error) with
  | true =>
    obtain ⟨entry, taken, _⟩ := any_eq_true.mp known
    obtain ⟨failure, failed, _⟩ := finishClose_error
      (mem_append_right _ (mem_map.mpr ⟨entry, taken, rfl⟩))
    exact ⟨failure, failed⟩
  | false =>
    have kept : error ∈ errors.filter fun error =>
        !broker.takeTerminalErrors.any (·.2 == error) :=
      mem_filter.mpr ⟨collected, by rw [known]; rfl⟩
    obtain ⟨failure, failed, _⟩ := finishClose_error
      (mem_append_left _ (mem_append_left _ kept))
    exact ⟨failure, failed⟩

/-- What a returned close says of a dispatched effect. -/
def Accounted (broker : EffectBroker) (result : Except CloseError CloseReport)
    (effect : EffectId) : Prop :=
  (∃ outcome, .outcome effect outcome ∈ broker.journal) ∨ Names result effect ∨
    broker.Lost effect ∧ ∃ failure, result = .error failure

/-- Where a close has returned, only an effect whose terminal append was unwound is open. -/
theorem Closing.settled (closing : broker.Closing) (lawful : broker.Lawful)
    {result : Except CloseError CloseReport} (closed : broker.owner = .closed result)
    (dispatched : .dispatched effect ∈ broker.journal) : broker.Accounted result effect := by
  have swept := closing.swept [] (by rw [closed]; rfl)
  have drained := closing.quiet (by rw [closed]; rfl)
  have durable := lawful.durable effect
  have unanswered : ∀ rest, broker.owner ≠ .appended rest := by simp [closed]
  rw [settledState_unanswered unanswered, drained, if_neg not_mem_nil] at durable
  have spelt := durableStage_spells durable
  have own : .dispatched effect ∈ Machine.entriesOf effectOf broker.journal effect :=
    mem_filter.mpr ⟨dispatched, decide_eq_true rfl⟩
  have outcome (ended : Stage.of (broker.stateOf effect) = .outcome) :
      ∃ outcome, .outcome effect outcome ∈ broker.journal := by
    rw [ended] at spelt
    generalize phases : Machine.entriesOf effectOf broker.journal effect = spelling at spelt
    cases spelt with
    | @outcome _ _ outcome _ _ =>
      have mem : .outcome effect outcome ∈ Machine.entriesOf effectOf broker.journal effect := by
        rw [phases]
        simp
      exact ⟨outcome, mem_of_mem_filter mem⟩
  have lost (lost : broker.Lost effect) : broker.Accounted result effect := by
    obtain ⟨reconciled, errors, leaked, rfl, kept⟩ := closing.returned result closed
    have ⟨_, _, mem⟩ := lost
    exact .inr (.inr ⟨lost, closeResult_error (kept _ mem)⟩)
  generalize Machine.entriesOf effectOf broker.journal effect = spelling at spelt own
  cases recorded : broker.stateOf effect with
  | none =>
    rw [recorded] at spelt
    cases spelt
    simp at own
  | some state =>
    rw [recorded] at spelt
    cases state with
    | intent | authorizedBlocked | authorizedAllow =>
      cases spelt
      simp at own
    | dispatched =>
      exact lost ((swept.listed effect recorded).resolve_left (by simp))
    | terminalizing =>
      exact lost ((swept.held effect recorded).resolve_left (by simp [drained]))
    | terminalJournalFailed =>
      obtain ⟨reconciled, errors, leaked, rfl, _⟩ := closing.returned result closed
      exact .inr (.inl (names_closeResult (lawful.remembered effect recorded)))
    | outcome => exact .inl (outcome (by rw [recorded]; rfl))

theorem run_lawful_closing {sessionId : SessionId} {workerGeneration startedAtMs : Nat}
    {actions : List Action}
    (ran : (newAt sessionId workerGeneration startedAtMs).run actions = some broker) :
    broker.Lawful ∧ broker.Closing := by
  refine Machine.invariant (P := fun broker => broker.Lawful ∧ broker.Closing) ?_
    ⟨lawful_newAt _ _ _, closing_of_beforeSweep rfl⟩ ran
  rintro before action after ⟨lawful, closing⟩ stepped
  exact ⟨lawful.step stepped, closing.step lawful stepped⟩

/-- In every run of a broker, whatever its callers, its tasks and the sink do, the durable phases
of each effect follow the grammar, and when a close has returned each dispatched effect has its
outcome, is named by a terminal append error, or lost the terminal append of the sweep, which
fails the close. -/
theorem effect_lifecycle (sessionId : SessionId) (workerGeneration startedAtMs : Nat)
    (actions : List Action) (broker : EffectBroker)
    (ran : (newAt sessionId workerGeneration startedAtMs).run actions = some broker)
    (effect : EffectId) :
    Grammatical effect (Machine.entriesOf effectOf broker.journal effect) ∧
    ∀ result, broker.owner = .closed result → .dispatched effect ∈ broker.journal →
      broker.Accounted result effect := by
  obtain ⟨lawful, closing⟩ := run_lawful_closing ran
  refine ⟨(durableStage_spells (lawful.durable effect)).grammatical, ?_⟩
  intro result closed dispatched
  exact closing.settled lawful closed dispatched

/-- An intent for tests. -/
def writeIntent : EffectIntent := ⟨"effect-s-1-5-1", .fsWrite, "write", "blake3:00", none⟩

/-- An effect is dispatched. -/
def dispatchedRun : List Action :=
  [.normalize .fsWrite "write" "blake3:00" none false, .sinkCommits, .resume,
    .authorize writeIntent { allowlist := [.fsWrite] }, .sinkCommits, .resume,
    .journalDispatched writeIntent, .sinkCommits, .resume]

/-- The sink refuses the outcome of the effect, and the broker is closed. -/
def refusedOutcomeRun : List Action :=
  dispatchedRun ++ [.journalOutcome writeIntent .ok, .close false,
    .taskFails writeIntent.effect .ok (.other "disk full"),
    .taskSettles (.refused writeIntent.effect (.other "disk full")),
    .sweep, .closed [.other "disk full"] []]

theorem effect_lifecycle_refusedOutcome :
    ∃ broker result, (newAt "s" 1 5).run refusedOutcomeRun = some broker ∧
      broker.owner = .closed result ∧ .dispatched "effect-s-1-5-1" ∈ broker.journal ∧
      ((∃ outcome, .outcome "effect-s-1-5-1" outcome ∈ broker.journal) ∨
        Names result "effect-s-1-5-1") := by
  have reached : ((newAt "s" 1 5).run refusedOutcomeRun).any (fun broker =>
      broker.owner = .closed (.error ⟨⟨[], []⟩, [.runtime ("effect effect-s-1-5-1 " ++
        "terminal journal append failed: disk full")]⟩) ∧
      .dispatched "effect-s-1-5-1" ∈ broker.journal ∧ broker.failed = []) = true := by
    decide +kernel
  obtain ⟨broker, ran, reached⟩ := (Option.any_eq_true _ _).mp reached
  obtain ⟨closed, dispatched, none⟩ := of_decide_eq_true reached
  refine ⟨broker, _, ran, closed, dispatched, ?_⟩
  refine ((effect_lifecycle "s" 1 5 refusedOutcomeRun broker ran _).2 _ closed dispatched).imp_right
    fun named => named.resolve_right ?_
  rintro ⟨⟨_, _, mem⟩, _⟩
  rw [none] at mem
  cases mem

/-- The close sweep appends the outcome `Unknown` of the effect, and the append is unwound. -/
def unwoundSweepRun : List Action :=
  dispatchedRun ++ [.close false, .sweep, .sweepNext false,
    .taskLost (.claimed writeIntent.effect .unknown) true "task 7 panicked",
    .sweepSettled, .closed [] []]

/-- The text of a lost task parts from every text that names an effect after "effect ". -/
theorem text_taskFailure_ne (cause : String) (error : ToolError) :
    (taskFailure cause).text ≠ (terminalError "effect-s-1-5-1" error).text := by
  intro same
  change "tool runtime failed: " ++ ("effect finalizer task failed: " ++ cause) =
    "tool runtime failed: " ++ ("effect " ++ "effect-s-1-5-1" ++
      " terminal journal append failed: " ++ error.text) at same
  have letters := congrArg String.toList same
  simp only [String.toList_append, List.append_cancel_left_eq] at letters
  cases congrArg (·[7]?) letters

/-- The close returns, the effect has no outcome, and no error of the close names it. -/
theorem unwound_sweep_names_no_effect :
    ∃ broker result, (newAt "s" 1 5).run unwoundSweepRun = some broker ∧
      broker.owner = .closed result ∧ .dispatched "effect-s-1-5-1" ∈ broker.journal ∧
      (∀ outcome, .outcome "effect-s-1-5-1" outcome ∉ broker.journal) ∧
      ¬ Names result "effect-s-1-5-1" := by
  have reached : ((newAt "s" 1 5).run unwoundSweepRun).any (fun broker =>
      broker.owner = .closed (.error ⟨⟨[], []⟩, [taskFailure "task 7 panicked"]⟩) ∧
      broker.journal = [.intent writeIntent, .authorized "effect-s-1-5-1" .allow,
        .dispatched "effect-s-1-5-1"]) = true := by
    decide +kernel
  obtain ⟨broker, ran, reached⟩ := (Option.any_eq_true _ _).mp reached
  obtain ⟨closed, journal⟩ := of_decide_eq_true reached
  refine ⟨broker, _, ran, closed, by simp [journal], by simp [journal], ?_⟩
  rintro ⟨failure, cause, failed, error, mem, named⟩
  rw [← Except.error.inj failed, mem_singleton] at mem
  rw [mem] at named
  exact text_taskFailure_ne _ _ named

end EffectBroker

end HaiderAgent.Broker
