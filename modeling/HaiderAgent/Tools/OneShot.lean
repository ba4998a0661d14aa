import HaiderAgent.Tools.BrokerClose

/-!
# One-time answers

A one-time answer is stored as a one-shot rule and taken by the next `authorize` of its class and
argument digest, before its append: an append that fails, or a caller dropped in it, loses the
answer. In every run where that does not happen each answer is spent exactly once, in order.
-/

namespace HaiderAgent.Broker

open List OneShotRule EffectBroker

/-- A broker with the history of its one-time answers. -/
structure Audit where
  broker : EffectBroker
  /-- The one-time answers stored by `resolve_permission` and `restore_permission`. -/
  stored : List OneShotRule := []
  /-- The answers whose verdict is journaled, with the effect it is for. -/
  spent : List (EffectId × OneShotRule) := []

/-- A rule is for a class and an argument digest. -/
def OneShotRule.isFor (class_ : EffectClass) (argsDigest : String) (rule : OneShotRule) : Bool :=
  rule.class_ = class_ ∧ rule.argsDigest = argsDigest

/-- The rule in the hands of the `authorize` that waits for the sink. -/
def Owner.held : Owner → List OneShotRule
  | .appending (.setVerdict _ _ _ (some rule)) => [rule]
  | _ => []

/-- An owner without a rule in hand and without an intent to record. -/
def Owner.plain : Owner → Bool
  | .appending (.setVerdict ..) | .appended (.insertIntent ..) => false
  | _ => true

variable (broker : EffectBroker)

/-- The one-time answers an action stores. -/
def storedBy : Action → List OneShotRule
  | .resolvePermission answer _ =>
    match broker.resolvedDecision answer with
    | .ok (pending, decision) =>
      (oneShotRuleFor pending.class_ pending.argsDigest decision).toList
    | .error _ => []
  | .restorePermission menu answer class_ argsDigest _ =>
    match restoredDecision menu answer with
    | .ok decision => (oneShotRuleFor class_ argsDigest decision).toList
    | .error _ => []
  | _ => []

/-- The answers whose verdict an action makes durable. -/
def spentBy : Action → List (EffectId × OneShotRule)
  | .sinkCommits =>
    match broker.owner with
    | .appending (.setVerdict intent _ _ (some rule)) => [(intent.effect, rule)]
    | _ => []
  | _ => []

namespace Audit

/-- A broker step, with the one-shot rules it stored and spent. -/
def step (audit : Audit) (action : Action) : Option Audit :=
  (audit.broker.step action).map fun next =>
    { broker := next
      stored := audit.stored ++ storedBy audit.broker action
      spent := audit.spent ++ spentBy audit.broker action }

/-- A new broker, nothing stored. -/
def newAt (sessionId : SessionId) (workerGeneration startedAtMs : Nat) : Audit :=
  { broker := .newAt sessionId workerGeneration startedAtMs }

/-- The answers for a class and digest that no journaled verdict carries, oldest first. -/
def outstanding (audit : Audit) (class_ : EffectClass) (argsDigest : String) :
    List OneShotRule :=
  (audit.stored.filter (isFor class_ argsDigest)).drop
    ((audit.spent.map (·.2)).filter (isFor class_ argsDigest)).length

/-- A journaled verdict carries the answer, for an effect of its class and digest. -/
def CarriedBy (journal : List EffectPhase) (effect : EffectId) (rule : OneShotRule) : Prop :=
  ∃ intent verdict, .intent intent ∈ journal ∧ intent.effect = effect ∧
    rule.isFor intent.class_ intent.argsDigest = true ∧
    .authorized effect verdict ∈ journal ∧ Carries rule.decision verdict

/-- Every one-time answer is spent exactly once. -/
structure SpentOnce (audit : Audit) : Prop where
  /-- A spent answer is one of those stored, each once and the oldest first, -/
  once : ∀ class_ argsDigest,
    (audit.spent.map (·.2)).filter (isFor class_ argsDigest) <+:
      audit.stored.filter (isFor class_ argsDigest)
  /-- and carried by the durable verdict of an effect of its own. -/
  carried : ∀ entry ∈ audit.spent, CarriedBy audit.broker.journal entry.1 entry.2
  distinct : (audit.spent.map (·.1)).Nodup
  /-- An answer that is not spent is available. -/
  available : ∀ class_ argsDigest, audit.outstanding class_ argsDigest =
    (audit.broker.owner.held ++ audit.broker.oneShotRules).filter
      (isFor class_ argsDigest)
  /-- An effect is authorized by the oldest answer that is not spent, or denied by the policy. -/
  obeyed : ∀ intent verdict pending taken,
    audit.broker.owner = .appending (.setVerdict intent verdict pending taken) →
    ∀ rule, (audit.outstanding intent.class_ intent.argsDigest).head? = some rule →
      (taken = some rule ∧ Carries rule.decision verdict) ∨
        ∃ reason, verdict = .deny reason

end Audit

/-! ## Taking a rule -/

namespace EffectBroker

variable {broker next : EffectBroker} {intent : EffectIntent} {rule : OneShotRule}
  {rules rest : List OneShotRule}

theorem takeOneShotDecision_eq_none (missed : takeOneShotDecision intent rules = none) :
    rules.filter (isFor intent.class_ intent.argsDigest) = [] := by
  induction rules with
  | nil => rfl
  | cons first rules ih =>
    simp only [takeOneShotDecision] at missed
    split at missed
    · cases missed
    · next other =>
      rw [Option.map_eq_none_iff] at missed
      rw [filter_cons_of_neg (by simpa [isFor] using other), ih missed]

/-- The rule taken is for the effect, the first among those for any class and digest. -/
theorem takeOneShotDecision_eq_some (taken : takeOneShotDecision intent rules = some (rule, rest)) :
    rule.isFor intent.class_ intent.argsDigest = true ∧
    ∀ class_ argsDigest, rules.filter (isFor class_ argsDigest) =
      (rule :: rest).filter (isFor class_ argsDigest) := by
  induction rules generalizing rest with
  | nil => cases taken
  | cons first rules ih =>
    simp only [takeOneShotDecision] at taken
    split at taken
    · next own =>
      cases taken
      exact ⟨decide_eq_true own, fun _ _ => rfl⟩
    · next other =>
      rw [Option.map_eq_some_iff] at taken
      obtain ⟨⟨oldest, left⟩, earlier, same⟩ := taken
      cases same
      obtain ⟨own, filtered⟩ := ih earlier
      refine ⟨own, ?_⟩
      intro class_ argsDigest
      have key := of_decide_eq_true own
      by_cases ruleFor : oldest.isFor class_ argsDigest = true
      · -- The rule passed over is for another class or digest.
        have firstFor : ¬ first.isFor class_ argsDigest = true := by
          intro firstFor
          have ruleKey := of_decide_eq_true ruleFor
          have firstKey := of_decide_eq_true firstFor
          exact other ⟨firstKey.1.trans (ruleKey.1.symm.trans key.1),
            firstKey.2.trans (ruleKey.2.symm.trans key.2)⟩
        have restFiltered := filtered class_ argsDigest
        rw [filter_cons_of_pos ruleFor] at restFiltered ⊢
        rw [filter_cons_of_neg firstFor, filter_cons_of_neg firstFor, restFiltered]
      · have restFiltered := filtered class_ argsDigest
        rw [filter_cons_of_neg ruleFor] at restFiltered ⊢
        rw [filter_cons, filter_cons, restFiltered]

/-- What `authorize` decides by: the oldest rule for the effect, or the policy where it denies or
there is none. -/
theorem decisionFor_spec (rules : List OneShotRule) (intent : EffectIntent)
    (policy : PermissionPolicy) :
    (∃ rule rest, takeOneShotDecision intent rules = some (rule, rest) ∧
      decisionFor rules intent policy = (rule.decision, some rule, rest)) ∨
    ∃ decision, decisionFor rules intent policy = (decision, none, rules) ∧
      ((∃ reason, decision = .deny reason) ∨ takeOneShotDecision intent rules = none) := by
  unfold decisionFor
  split
  · next reason _ => exact .inr ⟨_, rfl, .inl ⟨reason, rfl⟩⟩
  · cases takeOneShotDecision intent rules with
    | none => exact .inr ⟨_, rfl, .inr rfl⟩
    | some found => exact .inl ⟨found.1, found.2, rfl, rfl⟩

end EffectBroker

/-! ## The ledger -/

namespace Audit

variable {audit : Audit} {broker next : EffectBroker} {stored : List OneShotRule}
  {spent : List (EffectId × OneShotRule)}

/-- What the history, the rules and the journal of a broker have to do with each other. -/
structure Ledger (broker : EffectBroker) (stored : List OneShotRule)
    (spent : List (EffectId × OneShotRule)) : Prop where
  /-- The answers stored are those spent, the one in flight and those left. -/
  balance : ∀ class_ argsDigest, stored.filter (isFor class_ argsDigest) =
    (spent.map (·.2) ++ (broker.owner.held ++ broker.oneShotRules)).filter
      (isFor class_ argsDigest)
  carried : ∀ entry ∈ spent, CarriedBy broker.journal entry.1 entry.2
  distinct : (spent.map (·.1)).Nodup
  /-- A recorded intent is journaled. -/
  recorded : ∀ effect record, broker.lifecycles.lookup effect = some record →
    .intent record.intent ∈ broker.journal
  inserting : ∀ intent userTyped, broker.owner = .appended (.insertIntent intent userTyped) →
    .intent intent ∈ broker.journal
  /-- The verdict in flight carries the rule it was taken from; without one it is a policy deny
  or there was none to take. -/
  deciding : ∀ intent verdict pending taken,
    broker.owner = .appending (.setVerdict intent verdict pending taken) →
    .intent intent ∈ broker.journal ∧
    match taken with
    | some rule => rule.isFor intent.class_ intent.argsDigest = true ∧
        Carries rule.decision verdict
    | none => (∃ reason, verdict = .deny reason) ∨
        broker.oneShotRules.filter (isFor intent.class_ intent.argsDigest) = []

theorem CarriedBy.grow {journal later : List EffectPhase} {effect : EffectId}
    {rule : OneShotRule} (grows : ∀ phase ∈ journal, phase ∈ later)
    (carried : CarriedBy journal effect rule) : CarriedBy later effect rule := by
  obtain ⟨intent, verdict, journaled, own, isFor, authorized, carries⟩ := carried
  exact ⟨intent, verdict, grows _ journaled, own, isFor, grows _ authorized, carries⟩

/-- The records of `next` have the intents of records of `broker`. -/
def KeepsIntents (broker next : EffectBroker) : Prop :=
  ∀ effect record, next.lifecycles.lookup effect = some record →
    ∃ earlier, broker.lifecycles.lookup effect = some earlier ∧ earlier.intent = record.intent

theorem keepsIntents_putState (broker : EffectBroker) (effect : EffectId)
    (state : LifecycleState) : KeepsIntents broker (broker.putState effect state) := by
  intro other record found
  rw [EffectBroker.lookup_putState, Option.map_eq_some_iff] at found
  obtain ⟨earlier, foundEarlier, rfl⟩ := found
  refine ⟨earlier, foundEarlier, ?_⟩
  split <;> rfl

theorem keepsIntents_closeSweepCandidates (broker : EffectBroker) :
    KeepsIntents broker broker.closeSweepCandidates.1 := by
  intro effect record found
  simp only [EffectBroker.closeSweepCandidates, EntryMap.lookup_mapEntries,
    Option.map_eq_some_iff] at found
  obtain ⟨earlier, foundEarlier, rfl⟩ := found
  refine ⟨earlier, foundEarlier, ?_⟩
  split <;> rfl

variable {task : Finalizer} {verdict : AuthorizationVerdict} {pending : Option PendingPermission}
  {rest : Continuation}

/-- The effect of a call in flight has no verdict yet. -/
theorem not_authorized (lawful : broker.Lawful) {intent : EffectIntent} {taken : Option OneShotRule}
    (waiting : broker.owner = .appending (.setVerdict intent verdict pending taken))
    (earlier : AuthorizationVerdict) : .authorized intent.effect earlier ∉ broker.journal := by
  intro authorized
  have recorded : broker.stateOf intent.effect = some .intent :=
    lawful.ready (.setVerdict intent verdict pending taken) (by rw [waiting]; rfl)
  have durable := lawful.durable intent.effect
  have uncommitted : .committed intent.effect ∉ broker.finalizers := by
    intro mem
    rw [lawful.marked _ mem intent.effect rfl] at recorded
    cases recorded
  have unanswered : ∀ rest, broker.owner ≠ .appended rest := by simp [waiting]
  rw [EffectBroker.settledState_unanswered unanswered, if_neg uncommitted, recorded] at durable
  have mem : .authorized intent.effect earlier ∈
      Machine.entriesOf effectOf broker.journal intent.effect :=
    mem_filter.mpr ⟨authorized, decide_eq_true rfl⟩
  have spelt := durableStage_spells durable
  generalize Machine.entriesOf effectOf broker.journal intent.effect = phases at spelt mem
  cases spelt
  simp at mem

namespace Ledger

variable (ledger : Ledger broker stored spent)

include ledger

theorem relabel {lifecycles : HashMap EffectId LifecycleRecord}
    (keeps : KeepsIntents broker { broker with lifecycles := lifecycles }) :
    Ledger { broker with lifecycles := lifecycles } stored spent where
  __ := ledger
  recorded := by
    intro effect record found
    obtain ⟨earlier, foundEarlier, same⟩ := keeps effect record found
    rw [← same]
    exact ledger.recorded effect earlier foundEarlier

theorem record (phase : EffectPhase) : Ledger (broker.record phase) stored spent := by
  have grows : ∀ old ∈ broker.journal, old ∈ (broker.record phase).journal :=
    fun _ mem => mem_append_left _ mem
  refine ⟨ledger.balance, fun entry mem => (ledger.carried entry mem).grow grows,
    ledger.distinct, fun effect record found => grows _ (ledger.recorded effect record found),
    fun intent userTyped answered => grows _ (ledger.inserting intent userTyped answered), ?_⟩
  intro intent verdict pending taken waiting
  obtain ⟨journaled, decided⟩ := ledger.deciding intent verdict pending taken waiting
  exact ⟨grows _ journaled, decided⟩

/-- The owner goes from a point without a rule in hand to another. -/
theorem reown {owner : Owner} (before : broker.owner.held = []) (plain : owner.plain = true) :
    Ledger { broker with owner := owner } stored spent := by
  have after : owner.held = [] := by
    unfold Owner.held
    split
    · cases plain
    · rfl
  refine { ledger with balance := ?_, inserting := ?_, deciding := ?_ }
  · intro class_ argsDigest
    rw [ledger.balance class_ argsDigest, before, after]
  · rintro intent userTyped ⟨⟩
    cases plain
  · rintro intent verdict pending taken ⟨⟩
    cases plain

theorem putState (effect : EffectId) (state : LifecycleState) :
    Ledger (broker.putState effect state) stored spent :=
  ledger.relabel (keepsIntents_putState _ _ _)

theorem spawnTerminal (intent : EffectIntent) (outcome : EffectOutcome)
    : Ledger (broker.spawnTerminal intent outcome) stored spent := by
  unfold EffectBroker.spawnTerminal
  split
  · exact ledger
  · exact ledger
  · next claimed =>
    obtain ⟨_, rfl⟩ := claimTerminal_eq_ok claimed
    exact { ledger.putState _ _ with }

/-- A task with an answer settles beside the rules. -/
theorem settle (settled : broker.settle task = some next) : Ledger next stored spent := by
  cases task with
  | working | claimed => cases settled
  | committed effect =>
    cases settled
    exact ledger.putState effect .outcome
  | refused effect error =>
    cases settled
    exact { ledger.putState _ _ with }

theorem lose {polled : Bool} (lost : broker.lose polled task = some next)
    : Ledger next stored spent := by
  cases task with
  | working =>
    cases lost
    exact ledger
  | claimed effect outcome =>
    cases lost
    split
    · exact ledger
    · unfold EffectBroker.abandonTerminal
      split
      · exact ledger.putState effect .dispatched
      · exact ledger
  | committed | refused => cases lost

theorem applyPermissionDecision (idle : broker.owner = .idle) (class_ : EffectClass)
    (argsDigest : String) (decision : DecisionKind) :
    Ledger (broker.applyPermissionDecision class_ argsDigest decision)
      (stored ++ (oneShotRuleFor class_ argsDigest decision).toList) spent := by
  refine ⟨?_, ledger.carried, ledger.distinct, ledger.recorded, ledger.inserting, ?_⟩
  · intro other otherDigest
    rw [filter_append, ledger.balance other otherDigest, ← filter_append]
    simp only [EffectBroker.applyPermissionDecision, append_assoc]
  · intro intent verdict pending taken waiting
    cases idle.symm.trans waiting

/-- An `authorize` takes the rule it decides by. -/
theorem authorize (idle : broker.owner = .idle) (intent : EffectIntent) (policy : PermissionPolicy)
    : Ledger (broker.orElse (broker.authorize intent policy)) stored spent := by
  cases returned : broker.authorize intent policy with
  | error failure => exact ledger
  | ok next =>
    obtain ⟨_, ⟨record, found, own⟩, nextMenu, verdict, pending, carries, rfl⟩ :=
      authorize_eq_ok returned
    have journaled := ledger.recorded intent.effect record found
    rw [own] at journaled
    have balance := ledger.balance
    rw [idle] at balance
    rcases decisionFor_spec broker.oneShotRules intent policy with
      ⟨rule, rest, taken, decided⟩ | ⟨decision, decided, free⟩
    · obtain ⟨isFor, first⟩ := takeOneShotDecision_eq_some taken
      rw [decided] at carries
      refine ⟨?_, ledger.carried, ledger.distinct, ledger.recorded, nofun, ?_⟩
      · rw [decided]
        intro class_ argsDigest
        rw [balance class_ argsDigest]
        show (spent.map (·.2) ++ broker.oneShotRules).filter _ =
          (spent.map (·.2) ++ rule :: rest).filter _
        rw [filter_append, filter_append, first class_ argsDigest]
      · rintro _ _ _ _ ⟨⟩
        rw [decided]
        exact ⟨journaled, isFor, carries⟩
    · rw [decided] at carries
      refine ⟨?_, ledger.carried, ledger.distinct, ledger.recorded, nofun, ?_⟩
      · rw [decided]
        exact balance
      · rintro _ _ _ _ ⟨⟩
        rw [decided]
        refine ⟨journaled, free.imp ?_ takeOneShotDecision_eq_none⟩
        rintro ⟨reason, rfl⟩
        cases carries
        exact ⟨reason, rfl⟩

/-- The sink takes a verdict that carries an answer. -/
theorem spend (lawful : broker.Lawful) {intent : EffectIntent} {rule : OneShotRule}
    (waiting : broker.owner = .appending (.setVerdict intent verdict pending (some rule))) :
    Ledger { broker.record (.authorized intent.effect verdict) with
        owner := .appended (.setVerdict intent verdict pending (some rule)) }
      stored (spent ++ [(intent.effect, rule)]) := by
  obtain ⟨journaled, isFor, carries⟩ := ledger.deciding intent verdict pending _ waiting
  have recorded := ledger.record (.authorized intent.effect verdict)
  refine ⟨?_, ?_, ?_, recorded.recorded, nofun, by rintro _ _ _ _ ⟨⟩⟩
  · intro class_ argsDigest
    rw [ledger.balance class_ argsDigest, waiting, map_append, append_assoc]
    rfl
  · intro entry mem
    rcases mem_append.mp mem with mem | mem
    · exact recorded.carried entry mem
    · rw [mem_singleton.mp mem]
      exact ⟨intent, verdict, mem_append_left _ journaled, rfl, isFor,
        mem_append_right _ mem_cons_self, carries⟩
  · rw [map_append, nodup_append]
    refine ⟨ledger.distinct, nodup_singleton _, ?_⟩
    intro effect earlier other newest same
    rw [mem_singleton.mp newest] at same
    obtain ⟨entry, mem, rfl⟩ := mem_map.mp earlier
    obtain ⟨_, first, _, _, _, authorized, _⟩ := ledger.carried entry mem
    rw [same] at authorized
    exact not_authorized lawful waiting first authorized

/-- The sink takes another phase. -/
theorem answer (free : broker.owner.held = []) :
    Ledger { broker.record rest.phase with owner := .appended rest } stored spent := by
  refine { ledger.record rest.phase with
    balance := ?_, inserting := ?_, deciding := by rintro _ _ _ _ ⟨⟩ }
  · intro class_ argsDigest
    have balance := ledger.balance class_ argsDigest
    rw [free] at balance
    exact balance
  · rintro intent userTyped ⟨⟩
    exact mem_append_right _ mem_cons_self

theorem setState (effect : EffectId) (state : LifecycleState) :
    Ledger (broker.orElse (broker.setState effect state)) stored spent := by
  unfold EffectBroker.setState
  split
  · exact ledger
  · exact ledger.putState effect state

theorem journalDispatched (idle : broker.owner = .idle) (intent : EffectIntent) :
    Ledger (broker.orElse (broker.journalDispatched intent)) stored spent := by
  cases returned : broker.journalDispatched intent with
  | error failure => exact ledger
  | ok next =>
    obtain ⟨_, _, returned⟩ := ExceptFold.bind_eq_ok.mp returned
    obtain ⟨_, _, returned⟩ := ExceptFold.bind_eq_ok.mp returned
    cases returned
    exact ledger.reown (congrArg Owner.held idle) rfl

/-- A call that was answered goes on beside the rules. -/
theorem resume {rest : Continuation} (answered : broker.owner = .appended rest)
    : Ledger (broker.resume rest) stored spent := by
  have idle : Ledger { broker with owner := .idle } stored spent :=
    ledger.reown (congrArg Owner.held answered) rfl
  cases rest with
  | insertIntent intent userTyped =>
    have inserted : Ledger { broker with
        lifecycles := broker.lifecycles.insert intent.effect ⟨intent, .intent⟩
        owner := .idle } stored spent := by
      refine { idle with recorded := EntryMap.forall_lookup_insert ?_ ledger.recorded }
      exact ledger.inserting intent userTyped answered
    cases userTyped with
    | false => exact inserted
    | true => exact inserted.reown rfl rfl
  | setVerdict intent verdict pending taken =>
    cases pending with
    | none => exact idle.setState _ _
    | some pending =>
      have registered : Ledger { broker with
          owner := .idle
          pendingPermissions := broker.pendingPermissions.insert pending.menu.id pending }
          stored spent := { idle with }
      exact registered.setState _ _
  | setPreAuthorized intent =>
    simp only [EffectBroker.resume, EffectBroker.setState]
    split
    · exact idle
    · exact (idle.putState intent.effect .authorizedAllow).journalDispatched rfl intent
  | setDispatched intent => exact idle.setState _ _

theorem sweepCandidate (free : broker.owner.held = []) (cancelled tokenCancelled : Bool)
    (intent : EffectIntent) (candidates : List EffectIntent) (reconciled : List EffectId) :
    Ledger (broker.sweepCandidate cancelled tokenCancelled intent candidates reconciled)
      stored spent := by
  unfold EffectBroker.sweepCandidate
  split
  · exact ledger.reown free rfl
  · exact ledger.reown free rfl
  · next claimed =>
    obtain ⟨_, rfl⟩ := claimTerminal_eq_ok claimed
    have kept : Ledger { broker.putState intent.effect .terminalizing with
        finalizers := broker.finalizers ++ [.claimed intent.effect
          (if cancelled || tokenCancelled then .cancelled else .unknown)] } stored spent :=
      { ledger.putState _ _ with }
    exact kept.reown free rfl

end Ledger

end Audit

/-- No refused or dropped append is of an `authorize` that took a one-shot rule. -/
def KeepsDecision : Action → Prop
  | .sinkFails | .dropCaller => broker.owner.held = []
  | _ => True

namespace Audit

variable {broker next : EffectBroker} {stored : List OneShotRule}
  {spent : List (EffectId × OneShotRule)} {action : Action}

theorem Ledger.beside (ledger : Ledger next stored spent)
    (stores : storedBy broker action = []) (spends : spentBy broker action = []) :
    Ledger next (stored ++ storedBy broker action) (spent ++ spentBy broker action) := by
  rw [stores, spends, append_nil, append_nil]
  exact ledger

/-- Every step that loses no answer keeps the ledger. -/
theorem Ledger.step (ledger : Ledger broker stored spent) (lawful : broker.Lawful)
    (kept : KeepsDecision broker action) (stepped : broker.step action = some next) :
    Ledger next (stored ++ storedBy broker action) (spent ++ spentBy broker action) := by
  cases action with
  | normalize class_ summary argsDigest revision userTyped =>
    obtain ⟨idle, rfl⟩ := call_eq_some stepped
    refine Ledger.beside ?_ rfl rfl
    have waiting : Ledger { broker with owner :=
        (broker.normalize class_ summary argsDigest revision userTyped).owner } stored spent :=
      ledger.reown (congrArg Owner.held idle) rfl
    exact { waiting with }
  | authorize intent policy =>
    obtain ⟨idle, rfl⟩ := call_eq_some stepped
    exact (ledger.authorize idle intent policy).beside rfl rfl
  | journalDispatched intent =>
    obtain ⟨idle, rfl⟩ := call_eq_some stepped
    exact (ledger.journalDispatched idle intent).beside rfl rfl
  | journalOutcome intent outcome =>
    obtain ⟨_, rfl⟩ := call_eq_some stepped
    exact (ledger.spawnTerminal intent outcome).beside rfl rfl
  | resolvePermission answer policy =>
    obtain ⟨idle, rfl⟩ := call_eq_some stepped
    simp only [EffectBroker.resolvePermission, storedBy, spentBy, append_nil]
    cases broker.resolvedDecision answer with
    | error failure =>
      rw [append_nil]
      exact ledger
    | ok resolved =>
      obtain ⟨pending, decision⟩ := resolved
      have removed : Ledger { broker with
          pendingPermissions := broker.pendingPermissions.erase answer.menu } stored spent :=
        { ledger with }
      exact removed.applyPermissionDecision idle _ _ _
  | restorePermission menu answer class_ argsDigest policy =>
    obtain ⟨idle, rfl⟩ := call_eq_some stepped
    simp only [EffectBroker.restorePermission, storedBy, spentBy, append_nil]
    cases restoredDecision menu answer with
    | error failure =>
      rw [append_nil]
      exact ledger
    | ok decision => exact ledger.applyPermissionDecision idle _ _ _
  | registerFinalizer intent =>
    obtain ⟨_, rfl⟩ := call_eq_some stepped
    exact Ledger.beside { ledger with } rfl rfl
  | sinkCommits =>
    simp only [EffectBroker.step] at stepped
    split at stepped
    · next rest waiting =>
      cases stepped
      cases held : broker.owner.held with
      | nil =>
        refine (ledger.answer held).beside rfl ?_
        simp only [spentBy]
        split
        · next other =>
          rw [other] at held
          cases held
        · rfl
      | cons rule _ =>
        obtain ⟨intent, verdict, pending, found⟩ : ∃ intent verdict pending,
            broker.owner = .appending (.setVerdict intent verdict pending (some rule)) := by
          unfold Owner.held at held
          split at held
          · next found =>
            cases held
            exact ⟨_, _, _, found⟩
          · cases held
        rw [found] at waiting
        cases waiting
        have spends : spentBy broker .sinkCommits = [(intent.effect, rule)] := by
          simp only [spentBy, found]
        rw [spends]
        show Ledger _ (stored ++ []) _
        rw [append_nil]
        exact ledger.spend lawful found
    · cases stepped
  | sinkFails | dropCaller =>
    simp only [EffectBroker.step] at stepped
    split at stepped
    · cases stepped
      exact (ledger.reown kept rfl).beside rfl rfl
    · cases stepped
  | resume =>
    simp only [EffectBroker.step] at stepped
    split at stepped
    · next answered =>
      cases stepped
      exact (ledger.resume answered).beside rfl rfl
    · cases stepped
  | finish intent outcome =>
    obtain ⟨_, made⟩ := byTask_eq_some stepped
    cases made
    have left : Ledger (broker.dropFinalizer (.working intent)) stored spent := { ledger with }
    exact (left.spawnTerminal intent outcome).beside rfl rfl
  | taskCommits effect outcome =>
    obtain ⟨_, made⟩ := byTask_eq_some stepped
    cases made
    exact Ledger.beside { ledger.record (.outcome effect outcome) with } rfl rfl
  | taskFails effect outcome error =>
    obtain ⟨_, made⟩ := byTask_eq_some stepped
    cases made
    exact Ledger.beside { ledger with } rfl rfl
  | taskSettles task =>
    obtain ⟨_, made⟩ := byTask_eq_some stepped
    have left : Ledger (broker.dropFinalizer task) stored spent := { ledger with }
    exact (left.settle made).beside rfl rfl
  | taskLost task polled cause =>
    obtain ⟨_, made⟩ := byTask_eq_some stepped
    have left : Ledger ((broker.dropFinalizer task).keepFailure task cause) stored spent :=
      { ledger with }
    exact (left.lose made).beside rfl rfl
  | close cancelled =>
    obtain ⟨idle, rfl⟩ := call_eq_some stepped
    exact (ledger.reown (congrArg Owner.held idle) rfl).beside rfl rfl
  | sweep =>
    simp only [EffectBroker.step] at stepped
    split at stepped
    · next draining _ =>
      cases stepped
      have swept : Ledger broker.closeSweepCandidates.1 stored spent :=
        ledger.relabel (keepsIntents_closeSweepCandidates _)
      have drained : Ledger { broker.closeSweepCandidates.1 with failed := [] } stored spent :=
        { swept with }
      exact (drained.reown (congrArg Owner.held draining) rfl).beside rfl rfl
    · cases stepped
  | sweepNext tokenCancelled =>
    simp only [EffectBroker.step] at stepped
    split at stepped
    · next sweeping =>
      cases stepped
      exact (ledger.sweepCandidate (congrArg Owner.held sweeping) _ _ _ _ _).beside rfl rfl
    · cases stepped
  | sweepSettled | closed =>
    simp only [EffectBroker.step] at stepped
    split at stepped
    · next closing _ =>
      cases stepped
      exact (ledger.reown (congrArg Owner.held closing) rfl).beside rfl rfl
    · cases stepped

/-- A balanced ledger says that every answer is spent once. -/
theorem Ledger.spentOnce {audit : Audit}
    (ledger : Ledger audit.broker audit.stored audit.spent) : audit.SpentOnce := by
  have available (class_ : EffectClass) (argsDigest : String) :
      audit.outstanding class_ argsDigest =
        (audit.broker.owner.held ++ audit.broker.oneShotRules).filter
          (isFor class_ argsDigest) := by
    rw [outstanding, ledger.balance class_ argsDigest, filter_append, drop_left]
  refine ⟨?_, ledger.carried, ledger.distinct, available, ?_⟩
  · intro class_ argsDigest
    rw [ledger.balance class_ argsDigest, filter_append]
    exact prefix_append _ _
  · intro intent verdict pending taken waiting rule oldest
    obtain ⟨_, decided⟩ := ledger.deciding intent verdict pending taken waiting
    rw [available, waiting] at oldest
    cases taken with
    | some held =>
      obtain ⟨isFor, carries⟩ := decided
      have first : held = rule := by
        simpa only [Owner.held, singleton_append, filter_cons_of_pos isFor,
          head?_cons, Option.some_inj] using oldest
      rw [← first]
      exact .inl ⟨rfl, carries⟩
    | none =>
      rcases decided with denied | missing
      · exact .inr denied
      · simp [Owner.held, missing] at oldest

theorem ledger_newAt (sessionId : SessionId) (workerGeneration startedAtMs : Nat) :
    Ledger (.newAt sessionId workerGeneration startedAtMs) [] [] where
  balance := fun _ _ => rfl
  carried := nofun
  distinct := nodup_nil
  recorded := nofun
  inserting := nofun
  deciding := by rintro _ _ _ _ ⟨⟩

/-- In every run of a broker in which no append of an `authorize` that has taken a one-shot rule
is refused or dropped, every one-time answer is spent exactly once. -/
theorem one_time_answers_spentOnce (sessionId : SessionId) (workerGeneration startedAtMs : Nat)
    (actions : List Action) (audit : Audit)
    (kept : Machine.Guarded step (fun audit action => KeepsDecision audit.broker action)
      (newAt sessionId workerGeneration startedAtMs) actions)
    (ran : Machine.run step (newAt sessionId workerGeneration startedAtMs) actions = some audit) :
    audit.SpentOnce := by
  have both : audit.broker.Lawful ∧ Ledger audit.broker audit.stored audit.spent := by
    refine Machine.guarded_invariant
      (P := fun audit => audit.broker.Lawful ∧ Ledger audit.broker audit.stored audit.spent)
      ?_ kept ⟨EffectBroker.lawful_newAt _ _ _, ledger_newAt _ _ _⟩ ran
    rintro before action after keeps ⟨lawful, ledger⟩ stepped
    rw [step, Option.map_eq_some_iff] at stepped
    obtain ⟨next, broker, rfl⟩ := stepped
    exact ⟨lawful.step broker, ledger.step lawful keeps broker⟩
  exact both.2.spentOnce

/-- An intent for tests. -/
def execIntent : EffectIntent := ⟨"effect-s-1-5-1", .processExec, "make", "blake3:00", none⟩

/-- A durable permission menu was answered with "deny", and its effect is tried again. -/
def rejectedOnce : List Action :=
  [.restorePermission ⟨"permission-0", .permission "make", [⟨"deny", some .rejectOnce⟩]⟩
      ⟨"permission-0", some "deny", 0, none⟩ .processExec "blake3:00" {},
    .normalize .processExec "make" "blake3:00" none false, .sinkCommits, .resume,
    .authorize execIntent { autoAllowAsks := true }]

/-- The rejection reaches the journal. -/
theorem one_time_answers_spentOnce_rejection :
    ∃ audit, Machine.run step (newAt "s" 1 5) (rejectedOnce ++ [.sinkCommits]) = some audit ∧
      audit.broker.journal.getLast? =
        some (.authorized "effect-s-1-5-1" (.deny "rejected once by user")) ∧
      audit.SpentOnce := by
  have reached : (Machine.run step (newAt "s" 1 5) (rejectedOnce ++ [.sinkCommits])).any
      (fun audit => audit.broker.journal.getLast? =
        some (.authorized "effect-s-1-5-1" (.deny "rejected once by user"))) = true := by
    decide +kernel
  obtain ⟨audit, ran, journal⟩ := (Option.any_eq_true _ _).mp reached
  refine ⟨audit, ran, of_decide_eq_true journal, ?_⟩
  refine one_time_answers_spentOnce "s" 1 5 (rejectedOnce ++ [.sinkCommits]) audit ?_ ran
  refine ⟨trivial, fun _ _ => ⟨trivial, fun _ _ => ⟨trivial, fun _ _ => ⟨trivial, fun _ _ =>
    ⟨trivial, fun _ _ => ⟨trivial, fun _ _ => trivial⟩⟩⟩⟩⟩⟩

/-- The sink refuses the rejection once, the effect is authorized again, and the autonomous
policy allows it: the answer was stored, no verdict carries it, and it is gone. -/
theorem rejection_lost_with_append :
    ∃ audit, Machine.run step (newAt "s" 1 5) (rejectedOnce ++ [.sinkFails,
        .authorize execIntent { autoAllowAsks := true }, .sinkCommits]) = some audit ∧
      audit.broker.journal.getLast? = some (.authorized "effect-s-1-5-1" .allow) ∧
      audit.outstanding .processExec "blake3:00" =
        [⟨.processExec, "blake3:00", .deny "rejected once by user"⟩] ∧
      ¬ audit.SpentOnce := by
  have reached : (Machine.run step (newAt "s" 1 5) (rejectedOnce ++ [.sinkFails,
        .authorize execIntent { autoAllowAsks := true }, .sinkCommits])).any (fun audit =>
      audit.broker.journal.getLast? = some (.authorized "effect-s-1-5-1" .allow) ∧
      audit.outstanding .processExec "blake3:00" =
        [⟨.processExec, "blake3:00", .deny "rejected once by user"⟩] ∧
      audit.broker.owner.held ++ audit.broker.oneShotRules = []) = true := by
    decide +kernel
  obtain ⟨audit, ran, state⟩ := (Option.any_eq_true _ _).mp reached
  obtain ⟨journal, outstanding, gone⟩ := of_decide_eq_true state
  refine ⟨audit, ran, journal, outstanding, ?_⟩
  intro spentOnce
  have available := spentOnce.available .processExec "blake3:00"
  rw [outstanding, gone] at available
  cases available

end Audit

end HaiderAgent.Broker
