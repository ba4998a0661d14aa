import HaiderAgent.Daemon.TurnRecovery.Commits

/-!
# Closing an interrupted run

`interrupted_terminal_payloads` (`haider-daemon/src/turn_recovery.rs`) closes what the reduction of
a run still holds open. It keeps every open item, but a single menu, so the closure is complete
exactly when no menu but the last one opened is open.
-/

namespace HaiderAgent.TurnRecovery

open List

open KeyedFold (lastMark)
open KeyedFold (foldl_lastMark lastMark_append lastMark_singleton lastMark_of_unmarked)

/-- Whether an event opens or completes the item. -/
def itemMark (itemId : ItemId) : EventPayload → Option Bool
  | .item (.started id _) => if id = itemId then some true else none
  | .item (.completed id _) => if id = itemId then some false else none
  | _ => none

/-- Whether an event opens or settles the menu. -/
def menuMark (menu : MenuId) : EventPayload → Option Bool
  | .menuOpened opened => if opened.id = menu then some true else none
  | .menuAnswered answer => if answer.menu = menu then some false else none
  | .menuClosed closed _ => if closed = menu then some false else none
  | _ => none

/-- The menu an event opens. -/
def openedMenu : EventPayload → Option MenuId
  | .menuOpened opened => some opened.id
  | _ => none

variable (events : List EventPayload)

/-- An item was started and has not been completed since. -/
def itemOpen (itemId : ItemId) : Bool :=
  lastMark (itemMark itemId) false events

/-- A menu was opened and has been neither answered nor closed since. -/
def menuOpen (menu : MenuId) : Bool :=
  lastMark (menuMark menu) false events

/-- The menu opened last. -/
def lastOpenedMenu : Option MenuId :=
  lastMark (fun event => (openedMenu event).map some) none events

/-- The envelope's payload, if it is a plain event. -/
def eventOf (envelope : RawEnvelope) : Option EventPayload :=
  match envelope.payload with
  | .event payload => some payload
  | _ => none

/-- The events of a run, in journal order. -/
def runEvents (runId : RunId) (envelopes : List RawEnvelope) : List EventPayload :=
  (envelopes.filter fun envelope => envelope.runId = some runId).filterMap eventOf

/-- Whether an event closes or opens a lifecycle object. -/
def isLifecycle : EventPayload → Bool
  | .item _ | .menuOpened _ | .menuAnswered _ | .menuClosed .. => true
  | _ => false

/-- Whether an event sets the run's state. -/
def isRunState : EventPayload → Bool
  | .runState _ => true
  | _ => false

/-- `closure`, appended to the events of a run, closes it completely. -/
structure ClosesCompletely (events closure : List EventPayload) : Prop where
  /-- No item is left started. -/
  items : ∀ itemId, itemOpen (events ++ closure) itemId = false
  /-- No menu is left open. -/
  menus : ∀ menu, menuOpen (events ++ closure) menu = false
  /-- Only items that are open are completed. -/
  once : ∀ before itemId item after, closure = before ++ .item (.completed itemId item) :: after →
    itemOpen (events ++ before) itemId = true
  /-- One run state, a terminal one, after every closure. -/
  terminal : ∃ before state after, closure = before ++ .runState state :: after ∧
    state.isTerminal = true ∧ (∀ event ∈ before, isRunState event = false) ∧
    ∀ event ∈ after, isRunState event = false ∧ isLifecycle event = false

section OpenItems

variable (r : RunReduction) (e : RawEnvelope)

variable (itemId : ItemId)

@[simp] theorem completeToolCall_openItems (item : TurnItem) :
    (completeToolCall r e itemId item).openItems = r.openItems := by
  cases item <;> rfl

theorem reduceItemStarted_openItems (item : TurnItem) :
    (reduceItemStarted r e itemId item).openItems = r.openItems.insert itemId
      { item, startedSeq := e.seq, text := "", args := "" } := by
  unfold reduceItemStarted
  cases item <;> simp

theorem reduceItemDelta_isSome (delta : ItemDelta) (other : ItemId) :
    ((reduceItemDelta r e itemId delta).openItems.lookup other).isSome =
      (r.openItems.lookup other).isSome := by
  have replaced (opened : OpenItem) : ((r.openItems.replace itemId opened).lookup other).isSome =
      (r.openItems.lookup other).isSome := by
    rw [Bool.eq_iff_iff, AList.lookup_isSome, AList.lookup_isSome, AList.mem_replace]
  unfold reduceItemDelta
  cases r.openItems.lookup itemId <;> cases delta <;> simp [replaced]

theorem reduceItemCompleted_openItems (item : TurnItem) :
    (reduceItemCompleted r e itemId item).openItems = r.openItems.erase itemId := by
  have attempts : (reduceRequestAttempts
      (noteProviderResponse r e (providerResponseItem item)) e item).openItems = r.openItems := by
    simp
  unfold reduceItemCompleted
  cases delegationMirrorHandoffOf item with
  | some handoff => exact congrArg (AList.erase itemId) attempts
  | none =>
    have replayed := (reduceRouteReplay_frame _ item).2.trans attempts
    simp only
    generalize reduceRouteReplay _ item = s at replayed ⊢
    generalize ((s.openItems.lookup itemId).map (canonicalizeCompletedReply item)).getD item = i
    cases i <;> simp [replayed]

/-- The reduction holds an item exactly as long as the journal does. -/
theorem reduceEntry_isSome :
    ((reduceEntry r e).openItems.lookup itemId).isSome =
      ((eventOf e).bind (itemMark itemId)).getD ((r.openItems.lookup itemId).isSome) := by
  rw [← (observeBranch_frame r e).2]
  unfold reduceEntry eventOf
  generalize observeBranch r e = s
  cases payload : e.payload with
  | json | retry => rfl
  | headless fact =>
    simp only [reduceHeadless]
    split <;> (try split) <;> rfl
  | event fact =>
    simp only
    cases fact with
    | item change =>
      cases change with
      | started id item =>
        simp only [reduceEvent, reduceItemStarted_openItems, Option.bind_some, itemMark]
        by_cases same : id = itemId
        · simp [same]
        · simp [same, AList.lookup_insert_ne (Ne.symm same)]
      | delta id delta => exact reduceItemDelta_isSome s e id delta itemId
      | completed id item =>
        simp only [reduceEvent, reduceItemCompleted_openItems, Option.bind_some, itemMark]
        by_cases same : id = itemId
        · simp [same]
        · simp [same, AList.lookup_erase_ne (Ne.symm same)]
    | menuClosed menu reason =>
      simp only [reduceEvent]
      split <;> rfl
    | _ => rfl

end OpenItems

section OpenMenuSlot

variable (r : RunReduction) (e : RawEnvelope)

/-- What an event says about a menu being the one the reduction holds. -/
def slotMark (menu : MenuId) : EventPayload → Option Bool
  | .menuOpened opened => some (decide (opened.id = menu))
  | .menuClosed closed _ => if closed = menu then some false else none
  | _ => none

/-- Whether the reduction holds the menu open. -/
def holdsMenu (menu : MenuId) : Bool := r.menu.any (·.menu.id == menu)

/-- Which menu is held open depends on the last event that marks it. -/
theorem reduceEntry_holdsMenu (menu : MenuId) :
    holdsMenu (reduceEntry r e) menu =
      ((eventOf e).bind (slotMark menu)).getD (holdsMenu r menu) := by
  have observed : holdsMenu (observeBranch r e) menu = holdsMenu r menu := by
    rw [holdsMenu, (observeBranch_frame r e).1, holdsMenu]
  rw [← observed]
  unfold reduceEntry eventOf
  generalize observeBranch r e = s
  cases payload : e.payload with
  | json | retry => rfl
  | headless fact =>
    simp only [reduceHeadless]
    split <;> (try split) <;> rfl
  | event fact =>
    simp only
    cases fact with
    | item change =>
      unfold holdsMenu
      cases change with
      | started id item =>
        rw [reduceEvent, reduceItemStarted_menu]
        rfl
      | delta id delta =>
        rw [reduceEvent, reduceItemDelta_menu]
        rfl
      | completed id item =>
        rw [reduceEvent, reduceItemCompleted_menu]
        rfl
    | menuOpened opened => simp [reduceEvent, holdsMenu, slotMark, Bool.beq_eq_decide_eq]
    | menuClosed closed reason =>
      simp only [reduceEvent, Option.bind_some, slotMark]
      by_cases same : closed = menu
      · subst same
        split
        · simp [holdsMenu]
        · rename_i other
          simpa [holdsMenu] using other
      · rw [if_neg same]
        split
        · rename_i held
          obtain ⟨opened, shown, named⟩ := Option.any_eq_true _ _ |>.mp held
          have apart : opened.menu.id ≠ menu := by
            rw [eq_of_beq named]
            exact same
          simp [holdsMenu, shown, apart]
        · rfl
    | _ => rfl

end OpenMenuSlot

section Run

variable (runId : RunId) (envelopes : List RawEnvelope)

/-- What a mark of relevant events sets reads the same from the reduction and the run's events. -/
theorem reduceRun_mark {mark : EventPayload → Option Bool} (read : RunReduction → Bool)
    (start : read {} = false)
    (marks : ∀ r e, read (reduceEntry r e) = ((eventOf e).bind mark).getD (read r))
    (relevant : ∀ event, (mark event).isSome → recoveryRelevant (.event event) = true) :
    read (reduceRun runId envelopes) = lastMark mark false (runEvents runId envelopes) := by
  rw [reduceRun_eq, foldl_lastMark read marks, start]
  have own : runEnvelopes runId envelopes =
      (envelopes.filter fun envelope => envelope.runId = some runId).filter
        fun envelope => recoveryRelevant envelope.payload := by
    unfold runEnvelopes reduceKey
    rw [filter_filter]
    refine filter_congr fun envelope _ => ?_
    cases recoveryRelevant envelope.payload <;> simp
  unfold runEvents
  rw [KeyedFold.lastMark_filterMap, own, KeyedFold.lastMark_filter]
  intro envelope irrelevant
  unfold eventOf
  cases payload : envelope.payload with
  | event event =>
    cases marked : mark event with
    | none => simp [marked]
    | some value =>
      have reaches := relevant event (by rw [marked]; rfl)
      rw [payload, reaches] at irrelevant
      cases irrelevant
  | _ => rfl

theorem reduceRun_isSome (itemId : ItemId) :
    ((reduceRun runId envelopes).openItems.lookup itemId).isSome =
      itemOpen (runEvents runId envelopes) itemId := by
  refine reduceRun_mark runId envelopes (fun r => (r.openItems.lookup itemId).isSome) rfl
    (fun r e => reduceEntry_isSome r e itemId) fun event marked => ?_
  cases event <;> first | rfl | cases marked

theorem reduceRun_holdsMenu (menu : MenuId) :
    holdsMenu (reduceRun runId envelopes) menu =
      lastMark (slotMark menu) false (runEvents runId envelopes) := by
  refine reduceRun_mark runId envelopes (holdsMenu · menu) rfl
    (fun r e => reduceEntry_holdsMenu r e menu) fun event marked => ?_
  cases event <;> first | rfl | cases marked

end Run

variable {events : List EventPayload} {menu : MenuId}

/-- The menu a run's reduction holds is the last one opened. -/
theorem lastOpenedMenu_of_slot
    (held : lastMark (slotMark menu) false events = true) : lastOpenedMenu events = some menu := by
  induction events using reverseRecOn with
  | nil => cases held
  | append_singleton events event ih =>
    unfold lastOpenedMenu at ih ⊢
    rw [lastMark_append, lastMark_singleton] at held ⊢
    cases event with
    | menuOpened opened =>
      simp only [slotMark, Option.getD_some, decide_eq_true_eq] at held
      simp [openedMenu, held]
    | menuClosed closed reason =>
      simp only [slotMark] at held
      split at held
      · cases held
      · exact ih held
    | _ => exact ih held

/-- The last menu opened is held as long as it is open. -/
theorem slot_of_lastOpenedMenu
    (shown : menuOpen events menu = true) (last : lastOpenedMenu events = some menu) :
    lastMark (slotMark menu) false events = true := by
  induction events using reverseRecOn with
  | nil => cases shown
  | append_singleton events event ih =>
    unfold lastOpenedMenu menuOpen at *
    rw [lastMark_append, lastMark_singleton] at shown last ⊢
    cases event with
    | menuOpened opened =>
      simp only [openedMenu, Option.map_some, Option.getD_some, Option.some.injEq] at last
      simp [slotMark, last]
    | menuAnswered answer =>
      simp only [menuMark] at shown
      split at shown
      · cases shown
      · exact ih shown last
    | menuClosed closed reason =>
      simp only [menuMark] at shown
      split at shown
      · cases shown
      · rename_i other
        simp only [slotMark, if_neg other, Option.getD_none]
        exact ih shown last
    | _ => exact ih shown last

section Batch

variable (view : StoreView) (reduction : RunReduction) (cancelling : Bool) (code : ErrorCode)
  (message : String) (retryable : Bool)

/-- The completions the closing batch starts with. -/
def itemClosures : List EventPayload :=
  (sortedOpenItems reduction).map fun entry =>
    .item (.completed entry.1
      (closeOpenItem view (if cancelling then .cancelled else .failed) entry.2))

/-- The close of the open menu, if there is one. -/
def menuClosures : List EventPayload :=
  (reduction.menu.map fun opened =>
    EventPayload.menuClosed opened.menu.id
      (if cancelling then .cancelled else .recoveryInterrupted)).toList

/-- The rest of a terminal batch: the failure, the terminal state and the idle session. -/
def terminalTail : List EventPayload :=
  (interruptedTerminalPayloads view {} cancelling code message retryable)

theorem interruptedTerminalPayloads_eq :
    interruptedTerminalPayloads view reduction cancelling code message retryable =
      itemClosures view reduction cancelling ++
        (menuClosures reduction cancelling ++
          terminalTail view cancelling code message retryable) := by
  unfold interruptedTerminalPayloads terminalTail itemClosures menuClosures
  cases reduction.menu <;> simp [interruptedTerminalPayloads, sortedOpenItems]

theorem isLifecycle_terminalTail :
    ∀ event ∈ terminalTail view cancelling code message retryable, isLifecycle event = false := by
  unfold terminalTail interruptedTerminalPayloads
  cases cancelling <;> simp [sortedOpenItems, isLifecycle]

theorem map_fst_sortedOpenItems :
    ((sortedOpenItems reduction).map (·.1)).Perm reduction.openItems.keys := by
  have sorted := (perm_insertionSort (fun a b : ItemId × OpenItem =>
    a.2.startedSeq ≤ b.2.startedSeq) (reduction.openItems.entries.map fun entry =>
      (entry.1, entry.2))).map Prod.fst
  rwa [map_map] at sorted

theorem mem_map_fst_sortedOpenItems (itemId : ItemId) :
    itemId ∈ (sortedOpenItems reduction).map (·.1) ↔
      (reduction.openItems.lookup itemId).isSome = true := by
  rw [AList.lookup_isSome, AList.mem_keys, (map_fst_sortedOpenItems reduction).mem_iff]

theorem lastMark_completions {entries : List (ItemId × OpenItem)}
    (complete : OpenItem → TurnItem) (itemId : ItemId) (wasOpen : Bool) :
    lastMark (itemMark itemId) wasOpen
        (entries.map fun entry => .item (.completed entry.1 (complete entry.2))) =
      if itemId ∈ entries.map (·.1) then false else wasOpen := by
  induction entries generalizing wasOpen with
  | nil => rfl
  | cons entry rest ih =>
    rw [map_cons, ← singleton_append, lastMark_append, ih]
    by_cases same : entry.1 = itemId
    · simp [itemMark, same]
    · simp only [map_cons, mem_cons, Ne.symm same, false_or]
      simp [itemMark, same]

theorem lastMark_menuClosures (menu : MenuId) (wasOpen : Bool) :
    lastMark (menuMark menu) wasOpen (menuClosures reduction cancelling) =
      if holdsMenu reduction menu then false else wasOpen := by
  unfold menuClosures holdsMenu
  cases reduction.menu with
  | none => rfl
  | some opened =>
    by_cases same : opened.menu.id = menu <;> simp [menuMark, same]

end Batch

section Complete

variable (view : StoreView) (runId : RunId) (envelopes : List RawEnvelope) (cancelling : Bool)
  (code : ErrorCode) (message : String) (retryable : Bool)

/-- The closing batch of a run whose journal is given. -/
def terminalBatch : List EventPayload :=
  interruptedTerminalPayloads view (reduceRun runId envelopes) cancelling code message retryable

variable {event : EventPayload}

theorem itemMark_of_not_lifecycle (plain : isLifecycle event = false)
    (itemId : ItemId) : itemMark itemId event = none := by
  cases event <;> first | rfl | cases plain

theorem menuMark_of_not_lifecycle (plain : isLifecycle event = false)
    (menu : MenuId) : menuMark menu event = none := by
  cases event <;> first | rfl | cases plain

theorem itemOpen_terminalBatch (itemId : ItemId) :
    itemOpen (runEvents runId envelopes ++
      terminalBatch view runId envelopes cancelling code message retryable) itemId = false := by
  unfold itemOpen terminalBatch
  rw [interruptedTerminalPayloads_eq, lastMark_append, lastMark_append]
  rw [lastMark_of_unmarked]
  · unfold itemClosures
    rw [lastMark_completions]
    split
    · rfl
    · rename_i closed
      rw [mem_map_fst_sortedOpenItems, reduceRun_isSome] at closed
      exact Bool.eq_false_iff.mpr closed
  · intro event mem
    rcases mem_append.mp mem with menu | rest
    · unfold menuClosures at menu
      obtain ⟨opened, _, rfl⟩ := Option.map_eq_some_iff.mp (Option.mem_toList.mp menu)
      rfl
    · exact itemMark_of_not_lifecycle
        (isLifecycle_terminalTail _ _ _ _ _ event rest) itemId

theorem menuOpen_terminalBatch (menu : MenuId) :
    menuOpen (runEvents runId envelopes ++
      terminalBatch view runId envelopes cancelling code message retryable) menu =
      if holdsMenu (reduceRun runId envelopes) menu then false
      else menuOpen (runEvents runId envelopes) menu := by
  unfold menuOpen terminalBatch
  rw [interruptedTerminalPayloads_eq, lastMark_append, lastMark_append,
    lastMark_append]
  rw [lastMark_of_unmarked _ fun event mem => menuMark_of_not_lifecycle
    (isLifecycle_terminalTail _ _ _ _ _ event mem) menu]
  rw [lastMark_menuClosures, lastMark_of_unmarked]
  intro event mem
  obtain ⟨entry, _, rfl⟩ := mem_map.mp mem
  rfl

theorem completed_not_mem_rest (reduction : RunReduction) (itemId : ItemId) (item : TurnItem) :
    EventPayload.item (.completed itemId item) ∉ menuClosures reduction cancelling ++
      terminalTail view cancelling code message retryable := by
  intro mem
  rcases mem_append.mp mem with menu | rest
  · unfold menuClosures at menu
    obtain ⟨opened, _, same⟩ := Option.map_eq_some_iff.mp (Option.mem_toList.mp menu)
    cases same
  · cases isLifecycle_terminalTail _ _ _ _ _ _ rest

/-- The batch completes only items that were open when it does. -/
theorem itemOpen_of_completed {before after : List EventPayload} {itemId : ItemId} {item : TurnItem}
    (split : terminalBatch view runId envelopes cancelling code message retryable =
      before ++ .item (.completed itemId item) :: after) :
    itemOpen (runEvents runId envelopes ++ before) itemId = true := by
  unfold terminalBatch at split
  rw [interruptedTerminalPayloads_eq] at split
  obtain ⟨later, inItems⟩ : ∃ later, itemClosures view (reduceRun runId envelopes) cancelling =
      before ++ .item (.completed itemId item) :: later := by
    have elsewhere := completed_not_mem_rest view cancelling code message retryable
      (reduceRun runId envelopes) itemId item
    rcases append_eq_append_iff.mp split with ⟨more, _, rest⟩ | ⟨more, items, rest⟩
    · rw [rest] at elsewhere
      exact absurd (mem_append_right _ mem_cons_self) elsewhere
    · cases more with
      | nil =>
        rw [nil_append] at rest
        rw [← rest] at elsewhere
        exact absurd mem_cons_self elsewhere
      | cons first more =>
        obtain ⟨rfl, _⟩ := cons.inj rest
        exact ⟨more, items⟩
  unfold itemClosures at inItems
  obtain ⟨closed, rest, entries, rfl, tail⟩ := map_eq_append_iff.mp inItems
  obtain ⟨entry, pending, rfl, same, _⟩ := map_eq_cons_iff.mp tail
  have named : entry.1 = itemId := by
    injection same with event
    injection event
  have names := (map_fst_sortedOpenItems (reduceRun runId envelopes)).nodup_iff.mpr
    (AList.keys_nodup _)
  rw [entries, map_append, map_cons, named] at names
  have fresh : itemId ∉ closed.map (·.1) := fun early =>
    (nodup_append.mp names).2.2 itemId early itemId mem_cons_self rfl
  have held : itemId ∈ (sortedOpenItems (reduceRun runId envelopes)).map (·.1) := by
    rw [entries, map_append, map_cons, named]
    simp
  rw [mem_map_fst_sortedOpenItems, reduceRun_isSome] at held
  unfold itemOpen at held ⊢
  rw [lastMark_append, lastMark_completions, if_neg fresh]
  exact held

theorem terminalBatch_terminal :
    ∃ before state after,
      terminalBatch view runId envelopes cancelling code message retryable =
        before ++ .runState state :: after ∧ state.isTerminal = true ∧
      (∀ event ∈ before, isRunState event = false) ∧
      ∀ event ∈ after, isRunState event = false ∧ isLifecycle event = false := by
  unfold terminalBatch interruptedTerminalPayloads
  refine ⟨_, _, [.sessionState (.idle true)], rfl, ?_, ?_, ?_⟩
  · cases cancelling <;> rfl
  · intro event mem
    simp only [mem_append, mem_map] at mem
    rcases mem with (⟨entry, _, rfl⟩ | menu) | failed
    · rfl
    · split at menu
      · rw [mem_singleton.mp menu]
        rfl
      · cases menu
    · split at failed
      · cases failed
      · rw [mem_singleton.mp failed]
        rfl
  · intro event mem
    rw [mem_singleton.mp mem]
    exact ⟨rfl, rfl⟩

/-- The terminal batch closes a run completely exactly when no menu but the last one opened is
open. -/
theorem terminal_batch_closes_iff :
    ClosesCompletely (runEvents runId envelopes)
        (terminalBatch view runId envelopes cancelling code message retryable) ↔
      ∀ menu, menuOpen (runEvents runId envelopes) menu = true →
        lastOpenedMenu (runEvents runId envelopes) = some menu := by
  constructor
  · intro closes menu shown
    have closed := closes.menus menu
    rw [menuOpen_terminalBatch] at closed
    split at closed
    · rename_i held
      rw [reduceRun_holdsMenu] at held
      exact lastOpenedMenu_of_slot held
    · rw [shown] at closed
      cases closed
  · intro sole
    refine ⟨fun _ => itemOpen_terminalBatch .., ?_, ?_, terminalBatch_terminal ..⟩
    · intro menu
      rw [menuOpen_terminalBatch]
      split
      · rfl
      · rename_i released
        refine Bool.eq_false_iff.mpr fun shown => released ?_
        rw [reduceRun_holdsMenu]
        exact slot_of_lastOpenedMenu shown (sole menu shown)
    · intro before itemId item after split
      exact itemOpen_of_completed _ _ _ _ _ _ _ split

end Complete

/-- A recovery card in the run `r`. -/
def cardEnvelope (seq : Nat) (menu : MenuId) (effect : EffectId) : RawEnvelope where
  eventId := effect
  seq := seq
  sessionId := "s"
  branchId := none
  runId := some "r"
  agentId := none
  deviceId := "device"
  authorityEpoch := 0
  workerGeneration := 1
  causationId := none
  committedAtMs := 0
  render := ⟨true, false⟩
  payload := .event (.menuOpened (effectRecoveryMenu menu effect "shell"))

/-- A run whose two dispatched effects lost their outcomes: startup shows a card for each. -/
def twoCards : List RawEnvelope :=
  [cardEnvelope 1 "card-a" "a", cardEnvelope 2 "card-b" "b"]

/-- Cancelling the run closes the second card and leaves the first one open. -/
theorem twoCards_first_left_open :
    menuOpen (runEvents "r" twoCards ++ terminalBatch (plainSession 1) "r" twoCards true
      .internal "run was cancelled" false) "card-a" = true ∧
    menuOpen (runEvents "r" twoCards ++ terminalBatch (plainSession 1) "r" twoCards true
      .internal "run was cancelled" false) "card-b" = false := by
  rw [menuOpen_terminalBatch, menuOpen_terminalBatch]
  decide

end HaiderAgent.TurnRecovery
