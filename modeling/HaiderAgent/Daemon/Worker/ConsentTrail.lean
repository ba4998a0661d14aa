import HaiderAgent.Daemon.Worker.SetupRequests
import HaiderAgent.Lib.EntryMap
import Mathlib.Data.List.DropRight

/-!
# The consent behind a session grant

Where the grants of `DurableToolStateReduction` (`haider-daemon/src/worker.rs`)
come from: an intent, the question asked about it, and an answer that allows it
always, all after the last consent boundary. The fused turn-setup fold carries the
same tool state as the standalone scan.
-/

namespace HaiderAgent.TurnSetup

open List TurnSetupReduction EntryMap

/-- A fork record or a workspace selection: the events that end all earlier consent. -/
def SetupEnvelope.isBoundary (envelope : SetupEnvelope) : Bool :=
  envelope.payload.isWorkspaceSelected || envelope.payload.type == some "session_forked"

variable (registered : String → Bool) (envelopes : List SetupEnvelope)

/-- The envelopes after the last fork or workspace choice. -/
def sinceBoundary : List SetupEnvelope :=
  envelopes.rtakeWhile fun e => !e.isBoundary

/-- Their events. -/
def eventsOf : List SetupEvent :=
  envelopes.filterMap (·.payload.decodeEvent)

/-- The grant of one effect: its intent, then the question that names a menu, then an answer to
that menu; the permission menu was opened before the answer, and the answer picks an option that
allows always. -/
def ConsentTrail (grant : SessionGrant) : Prop :=
  ∃ intent menu answer option,
    [.effect (.intent intent), .effect (.authorized intent.effect (.ask menu.id)),
      .menuAnswered answer].Sublist (eventsOf envelopes) ∧
    [.menuOpened menu, .menuAnswered answer].Sublist (eventsOf envelopes) ∧
    menu.isPermission = true ∧ answer.menu = menu.id ∧
    selectedMenuOption menu answer = some option ∧ option.decision = some .allowAlways ∧
    grant = .forEffect intent.class_ intent.argsDigest

/-- The root agent was told in words to use the computer. -/
def RootComputerUse : Prop :=
  ∃ e ∈ envelopes, ∃ text, e.payload.decodeEvent = some (.userMessage text) ∧ e.agentId = none ∧
    explicitComputerUseIntent text = true

/-- Where every entry of a reduction comes from, over the envelopes since the last boundary. -/
structure Consented (envelopes : List SetupEnvelope) (state : DurableToolStateReduction) :
    Prop where
  intents : ∀ effect intent, state.intents.lookup effect = some intent →
    intent.effect = effect ∧ [.effect (.intent intent)].Sublist (eventsOf envelopes)
  opened : ∀ id menu, state.opened.lookup id = some menu →
    menu.id = id ∧ menu.isPermission = true ∧ [.menuOpened menu].Sublist (eventsOf envelopes)
  bindings : ∀ menu class_ argsDigest, state.bindings.lookup menu = some (class_, argsDigest) →
    ∃ intent, intent.class_ = class_ ∧ intent.argsDigest = argsDigest ∧
      [.effect (.intent intent), .effect (.authorized intent.effect (.ask menu))].Sublist
        (eventsOf envelopes)
  grants : ∀ grant ∈ state.grants, ConsentTrail envelopes grant
  computer : state.explicitComputerIntent = true → RootComputerUse envelopes

theorem consented_reset (state : DurableToolStateReduction) :
    Consented [] state.resetWorkspaceConsent where
  intents := nofun
  opened := nofun
  bindings := nofun
  grants := nofun
  computer := nofun

theorem eventsOf_append (envelopes later : List SetupEnvelope) :
    eventsOf (envelopes ++ later) = eventsOf envelopes ++ eventsOf later :=
  filterMap_append

theorem sublist_eventsOf_append (envelopes later : List SetupEnvelope) :
    (eventsOf envelopes).Sublist (eventsOf (envelopes ++ later)) := by
  rw [eventsOf_append]
  exact sublist_append_left _ _

theorem ConsentTrail.append {envelopes : List SetupEnvelope} {grant : SessionGrant}
    (trail : ConsentTrail envelopes grant) (later : List SetupEnvelope) :
    ConsentTrail (envelopes ++ later) grant := by
  obtain ⟨intent, menu, answer, option, asked, shown, rest⟩ := trail
  have grows := sublist_eventsOf_append envelopes later
  exact ⟨intent, menu, answer, option, asked.trans grows, shown.trans grows, rest⟩

/-- Consent already given stays in a longer journal. -/
theorem Consented.append {envelopes : List SetupEnvelope} {state : DurableToolStateReduction}
    (consented : Consented envelopes state) (later : List SetupEnvelope) :
    Consented (envelopes ++ later) state where
  intents := by
    intro effect intent found
    obtain ⟨same, seen⟩ := consented.intents effect intent found
    exact ⟨same, seen.trans (sublist_eventsOf_append _ _)⟩
  opened := by
    intro id menu found
    obtain ⟨same, permission, seen⟩ := consented.opened id menu found
    exact ⟨same, permission, seen.trans (sublist_eventsOf_append _ _)⟩
  bindings := by
    intro menu class_ argsDigest found
    obtain ⟨intent, sameClass, sameDigest, seen⟩ := consented.bindings menu class_ argsDigest found
    exact ⟨intent, sameClass, sameDigest, seen.trans (sublist_eventsOf_append _ _)⟩
  grants := by
    intro grant mem
    exact (consented.grants grant mem).append later
  computer := by
    intro explicit
    obtain ⟨e, mem, found⟩ := consented.computer explicit
    exact ⟨e, mem_append_left _ mem, found⟩

section Step

variable {envelopes : List SetupEnvelope} {state : DurableToolStateReduction}
  {envelope : SetupEnvelope} {payload : SetupEvent}

theorem eventsOf_snoc (decoded : envelope.payload.decodeEvent = some payload) :
    eventsOf (envelopes ++ [envelope]) = eventsOf envelopes ++ [payload] := by
  rw [eventsOf_append]
  simp [eventsOf, decoded]

theorem Consented.observeEffect (consented : Consented envelopes state) {phase : EffectRecord}
    (decoded : envelope.payload.decodeEvent = some (.effect phase)) :
    Consented (envelopes ++ [envelope]) (state.observeEffect phase) := by
  have kept := consented.append [envelope]
  have events : eventsOf (envelopes ++ [envelope]) = eventsOf envelopes ++ _ :=
    eventsOf_snoc decoded
  unfold DurableToolStateReduction.observeEffect
  split
  · rename_i intent
    refine { kept with intents := forall_lookup_insert ⟨rfl, ?_⟩ kept.intents }
    rw [events]
    exact sublist_append_right _ _
  · rename_i effect menu
    split
    · exact kept
    · rename_i intent known
      refine { kept with bindings := ?_ }
      intro id class_ argsDigest found
      by_cases same : id = menu
      · subst same
        rw [AList.lookup_insert, Option.some.injEq, Prod.mk.injEq] at found
        obtain ⟨sameEffect, seen⟩ := consented.intents effect intent known
        refine ⟨intent, found.1, found.2, ?_⟩
        rw [events, sameEffect]
        exact seen.append (List.Sublist.refl _)
      · rw [AList.lookup_insert_ne same] at found
        exact kept.bindings id class_ argsDigest found
  · exact { kept with }
  · exact kept

/-- A grant an answer adds was asked for by the menu it answers. -/
theorem Consented.observeAnswer (consented : Consented envelopes state) {answer : MenuAnswer}
    (decoded : envelope.payload.decodeEvent = some (.menuAnswered answer)) :
    Consented (envelopes ++ [envelope]) (state.observeAnswer answer) := by
  have kept := consented.append [envelope]
  have events : eventsOf (envelopes ++ [envelope]) = eventsOf envelopes ++ _ :=
    eventsOf_snoc decoded
  unfold DurableToolStateReduction.observeAnswer
  split
  · exact kept
  · rename_i menu known
    split
    · exact kept
    · rename_i option selected
      split
      · exact kept
      · rename_i always
        split
        · exact kept
        · rename_i class_ argsDigest bound
          obtain ⟨sameMenu, permission, shown⟩ := consented.opened answer.menu menu known
          obtain ⟨intent, sameClass, sameDigest, asked⟩ :=
            consented.bindings menu.id class_ argsDigest bound
          have trail : ConsentTrail (envelopes ++ [envelope]) (.forEffect class_ argsDigest) := by
            refine ⟨intent, menu, answer, option, ?_, ?_, permission, sameMenu.symm, selected,
              not_not.mp always, by rw [sameClass, sameDigest]⟩ <;> rw [events]
            · exact asked.append (List.Sublist.refl _)
            · exact shown.append (List.Sublist.refl _)
          refine { kept with grants := ?_ }
          intro grant mem
          unfold pushGrant at mem
          split at mem
          · exact kept.grants grant mem
          · rcases mem_append.mp mem with old | new
            · exact kept.grants grant old
            · rw [mem_singleton.mp new]
              exact trail

/-- Every event keeps each grant backed by the journal. -/
theorem Consented.observe (registered : String → Bool) (consented : Consented envelopes state)
    (decoded : envelope.payload.decodeEvent = some payload) :
    Consented (envelopes ++ [envelope])
      (state.observe registered envelope.agentId payload) := by
  have kept := consented.append [envelope]
  cases payload with
  | effect phase => exact consented.observeEffect decoded
  | menuAnswered answer => exact consented.observeAnswer decoded
  | menuOpened menu =>
    simp only [DurableToolStateReduction.observe]
    split
    · rename_i permission
      refine { kept with opened := forall_lookup_insert ⟨rfl, permission, ?_⟩ kept.opened }
      rw [eventsOf_snoc decoded]
      exact sublist_append_right _ _
    · exact kept
  | userMessage text =>
    simp only [DurableToolStateReduction.observe]
    split
    · rename_i explicit
      refine { kept with computer := ?_ }
      intro _
      exact ⟨envelope, by simp, text, decoded, Option.isNone_iff_eq_none.mp explicit.1, explicit.2⟩
    · split
      · exact { kept with }
      · exact kept
  | toolResult callId status discovered =>
    simp only [DurableToolStateReduction.observe, DurableToolStateReduction.observeToolResult]
    split
    · split <;> exact { kept with }
    · exact { kept with }
  | itemStarted item =>
    cases item with
    | toolCall callId name =>
      simp only [DurableToolStateReduction.observe]
      split
      · exact { kept with }
      · exact kept
    | _ => exact kept
  | itemCompleted item =>
    cases item with
    | toolCall callId name => exact { kept with }
    | _ => exact kept
  | _ => exact kept

end Step

theorem type_of_isWorkspaceSelected {payload : SetupPayload}
    (selected : payload.isWorkspaceSelected = true) :
    payload.type = some "workspace_selected" := by
  cases payload with
  | workspace fact =>
    cases fact with
    | workspaceUnavailable path reason detail => cases selected
    | workspaceSelected path previousPath => rfl
  | _ => cases selected

section Scan

variable (registered : String → Bool) (state : DurableToolStateReduction)
  {envelope : SetupEnvelope}

theorem scanEnvelope_selected (selected : envelope.payload.isWorkspaceSelected = true) :
    scanEnvelope registered state envelope = state.resetAtWorkspaceSelection := by
  unfold scanEnvelope
  rw [if_pos ⟨type_of_isWorkspaceSelected selected, selected⟩]

theorem scanEnvelope_forked (forked : envelope.payload.type = some "session_forked") :
    scanEnvelope registered state envelope = state.resetAtSessionFork := by
  unfold scanEnvelope
  have unselected : ¬(envelope.payload.type = some "workspace_selected" ∧
      envelope.payload.isWorkspaceSelected = true) := by simp [forked]
  rw [if_neg unselected, if_pos forked]

theorem scanEnvelope_inside (unselected : ¬ envelope.payload.isWorkspaceSelected = true)
    (unforked : envelope.payload.type ≠ some "session_forked") :
    scanEnvelope registered state envelope =
      match envelope.payload.decodeEvent with
      | none => state
      | some payload => state.observe registered envelope.agentId payload := by
  have inside : ¬(envelope.payload.type = some "workspace_selected" ∧
      envelope.payload.isWorkspaceSelected = true) := fun both => unselected both.2
  refine (if_neg inside).trans ?_
  exact if_neg unforked

end Scan

/-- One envelope of the scan: a boundary forgets what stood before it. -/
theorem Consented.scan {envelopes : List SetupEnvelope} {state : DurableToolStateReduction}
    (consented : Consented envelopes state) (envelope : SetupEnvelope) :
    Consented (if envelope.isBoundary then [] else envelopes ++ [envelope])
      (scanEnvelope registered state envelope) := by
  by_cases selected : envelope.payload.isWorkspaceSelected = true
  · have crossed : envelope.isBoundary = true := by simp [SetupEnvelope.isBoundary, selected]
    rw [if_pos crossed, scanEnvelope_selected registered state selected]
    exact { consented_reset state with }
  · by_cases forked : envelope.payload.type = some "session_forked"
    · have crossed : envelope.isBoundary = true := by simp [SetupEnvelope.isBoundary, forked]
      rw [if_pos crossed, scanEnvelope_forked registered state forked]
      exact { consented_reset state with }
    · have inside : ¬ envelope.isBoundary = true := by
        simp [SetupEnvelope.isBoundary, selected, forked]
      rw [if_neg inside, scanEnvelope_inside registered state selected forked]
      cases decoded : envelope.payload.decodeEvent with
      | none => exact consented.append [envelope]
      | some payload => exact consented.observe registered decoded

theorem consented_scan :
    Consented (sinceBoundary envelopes) (durableSessionToolState registered envelopes) := by
  induction envelopes using reverseRecOn with
  | nil => exact { consented_reset {} with }
  | append_singleton earlier last ih =>
    have step := ih.scan registered last
    unfold durableSessionToolState sinceBoundary at *
    rw [foldl_append]
    by_cases crossed : last.isBoundary = true
    · rw [if_pos crossed] at step
      rw [rtakeWhile_concat_neg _ _ _ (by simp [crossed])]
      exact step
    · rw [if_neg crossed] at step
      rw [rtakeWhile_concat_pos _ _ _ (by simp [crossed])]
      exact step

/-! ### The fused fold -/

variable {registered envelopes} {envelope : SetupEnvelope} {reduction next : TurnSetupReduction}

theorem durableTools_of_observeEvent
    {payload : SetupEvent}
    (returned : reduction.observeEvent registered envelope payload = .ok next) :
    next.durableTools =
      reduction.durableTools.observe registered envelope.agentId payload := by
  cases payload with
  | usage fact =>
    cases returned
    exact (frame_observeUsage fact).2
  | itemCompleted item =>
    have completed : observeCompletedItem { reduction with
        durableTools := reduction.durableTools.observe registered envelope.agentId
          (.itemCompleted item) } envelope item = .ok next := returned
    exact (frame_of_observeCompletedItem completed).2
  | nodeCommitted compaction => cases compaction <;> cases returned <;> rfl
  | _ =>
    cases returned
    rfl

theorem scanEnvelope_undecoded (state : DurableToolStateReduction)
    (unselected : ¬ envelope.payload.isWorkspaceSelected = true)
    (unforked : envelope.payload.type ≠ some "session_forked")
    (undecoded : ¬ envelope.payload.type.any decodedKinds.contains = true) :
    scanEnvelope registered state envelope = state := by
  rw [scanEnvelope_inside registered state unselected unforked]
  cases payload : envelope.payload with
  | event event =>
    rw [payload] at undecoded
    cases event with
    | other tag => rfl
    | _ => exact absurd rfl undecoded
  | _ => rfl

theorem durableTools_observeWorkspace (reduction : TurnSetupReduction) (envelope : SetupEnvelope)
    (workspace : envelope.payload.type = some "workspace_unavailable" ∨
      envelope.payload.type = some "workspace_selected") :
    (reduction.observeWorkspace envelope).durableTools =
      scanEnvelope registered reduction.durableTools envelope := by
  by_cases selected : envelope.payload.isWorkspaceSelected = true
  · rw [scanEnvelope_selected registered _ selected]
    unfold SetupPayload.isWorkspaceSelected at selected
    unfold observeWorkspace
    split at selected
    · rename_i path previousPath decoded
      rw [decoded]
      rfl
    · cases selected
  · rw [scanEnvelope_undecoded _ selected]
    · unfold observeWorkspace
      split
      · split <;> rfl
      · rename_i path previousPath decoded
        exact absurd (by simp [SetupPayload.isWorkspaceSelected, decoded]) selected
      · rfl
    · rcases workspace with notice | selection
      · simp [notice]
      · simp [selection]
    · rcases workspace with notice | selection
      · rw [notice]
        decide
      · rw [selection]
        decide

/-- The tool state of the fused fold moves as the standalone scan does. -/
theorem durableTools_of_observeEnvelope
    (returned : reduction.observeEnvelope registered envelope = .ok next) :
    next.durableTools = scanEnvelope registered reduction.durableTools envelope := by
  unfold observeEnvelope at returned
  simp only at returned
  split at returned
  · rename_i workspace
    cases returned
    exact durableTools_observeWorkspace _ envelope workspace
  · rename_i elsewhere
    have unselected : ¬ envelope.payload.isWorkspaceSelected = true :=
      fun selected => elsewhere (.inr (type_of_isWorkspaceSelected selected))
    split at returned
    · rename_i instructions
      rw [scanEnvelope_undecoded _ unselected (by simp [instructions])
        (by rw [instructions]; decide)]
      split at returned <;> cases returned <;> rfl
    · split at returned
      · rename_i forked
        cases returned
        exact (scanEnvelope_forked registered _ forked).symm
      · rename_i unforked
        split at returned
        · rw [scanEnvelope_inside registered _ unselected unforked]
          cases decoded : envelope.payload.decodeEvent with
          | none =>
            rw [decoded] at returned
            cases returned
            rfl
          | some payload =>
            rw [decoded] at returned
            have moved := durableTools_of_observeEvent returned
            exact moved
        · rename_i undecoded
          cases returned
          exact (scanEnvelope_undecoded _ unselected unforked undecoded).symm

theorem durableTools_of_observeAll
    {final : TurnSetupReduction} (ended : reduction.observeAll registered envelopes = .ok final) :
    final.durableTools = envelopes.foldl (scanEnvelope registered) reduction.durableTools := by
  induction envelopes generalizing reduction with
  | nil =>
    cases ended
    rfl
  | cons envelope rest ih =>
    obtain ⟨next, first, later⟩ := ExceptFold.bind_eq_ok.mp (foldlM_cons.symm.trans ended)
    rw [foldl_cons, ← durableTools_of_observeEnvelope first]
    exact ih later

/-- The fused fold and the standalone scan end in the same tool state. -/
theorem durableTools_of_reduceWhole {selector : Selector}
    {journal : SetupJournal} (folded : reduceWhole registered selector journal = .ok reduction) :
    reduction.durableTools = durableSessionToolState registered journal.envelopes := by
  have all := reduceWhole_eq_all registered selector journal
  rw [folded] at all
  exact durableTools_of_observeAll all

/-- A completed item of the selector's branch and agent whose provider-view ledger does not
decode: the one failure of `observe_envelope`. -/
def Selector.MalformedView (selector : Selector) (envelope : SetupEnvelope) : Prop :=
  envelope.branchId = selector.branchId ∧ envelope.agentId = selector.agentId ∧
    ∃ error, envelope.payload = .event (.itemCompleted (.providerViewAttempt (.error error)))

theorem observeCompletedItem_ok_iff {item : SetupItem} :
    (∃ next, reduction.observeCompletedItem envelope item = .ok next) ↔
      ¬(envelope.branchId = reduction.selector.branchId ∧
        envelope.agentId = reduction.selector.agentId ∧
        ∃ error, item = .providerViewAttempt (.error error)) := by
  unfold observeCompletedItem observeProviderView
  by_cases lane : envelope.branchId ≠ reduction.selector.branchId ∨
    envelope.agentId ≠ reduction.selector.agentId
  · rw [if_pos lane]
    refine iff_of_true ?_ (by tauto)
    cases item.cacheTransition <;> exact ⟨_, rfl⟩
  · rw [if_neg lane]
    simp only [not_or, not_not] at lane
    simp only [lane, true_and]
    cases item with
    | providerViewAttempt view =>
      cases view with
      | error error => exact iff_of_false (by rintro ⟨_, ⟨⟩⟩) (not_not.mpr ⟨error, rfl⟩)
      | ok view =>
        refine iff_of_true ?_ (by rintro ⟨_, ⟨⟩⟩)
        dsimp only [SetupItem.tryProviderView, Except.map]
        split <;> exact ⟨_, rfl⟩
    | cacheEpochTransition transition =>
      refine iff_of_true ?_ (by rintro ⟨_, ⟨⟩⟩)
      cases transition <;> exact ⟨_, rfl⟩
    | _ => exact iff_of_true ⟨_, rfl⟩ (by rintro ⟨_, ⟨⟩⟩)

/-- Only a malformed provider view of its own lane stops the fused fold. -/
theorem observeEnvelope_ok_iff :
    (∃ next, reduction.observeEnvelope registered envelope = .ok next) ↔
      ¬ reduction.selector.MalformedView envelope := by
  by_cases completed : ∃ item, envelope.payload = .event (.itemCompleted item)
  · obtain ⟨item, payload⟩ := completed
    unfold observeEnvelope Selector.MalformedView
    simp only [payload, SetupPayload.event.injEq, SetupEvent.itemCompleted.injEq]
    exact observeCompletedItem_ok_iff
  · refine iff_of_true ?_ fun malformed => completed ⟨_, malformed.2.2.choose_spec⟩
    unfold observeEnvelope
    simp only
    split
    · exact ⟨_, rfl⟩
    · split
      · split <;> exact ⟨_, rfl⟩
      · split
        · exact ⟨_, rfl⟩
        · split
          · cases payload : envelope.payload with
            | event event =>
              cases event with
              | itemCompleted item => exact absurd ⟨item, payload⟩ completed
              | nodeCommitted compaction => cases compaction <;> exact ⟨_, rfl⟩
              | _ => exact ⟨_, rfl⟩
            | _ => exact ⟨_, rfl⟩
          · exact ⟨_, rfl⟩

theorem observeAll_ok_iff :
    (∃ final, reduction.observeAll registered envelopes = .ok final) ↔
      ∀ envelope ∈ envelopes, ¬ reduction.selector.MalformedView envelope := by
  induction envelopes generalizing reduction with
  | nil => exact iff_of_true ⟨reduction, rfl⟩ (by simp)
  | cons envelope rest ih =>
    rw [forall_mem_cons, ← @observeEnvelope_ok_iff registered]
    constructor
    · rintro ⟨final, folded⟩
      obtain ⟨next, first, later⟩ := ExceptFold.bind_eq_ok.mp (foldlM_cons.symm.trans folded)
      rw [← selector_of_observeEnvelope first]
      exact ⟨⟨next, first⟩, ih.mp ⟨final, later⟩⟩
    · rintro ⟨⟨next, first⟩, sound⟩
      rw [← selector_of_observeEnvelope first] at sound
      obtain ⟨final, later⟩ := ih.mpr sound
      exact ⟨final, foldlM_cons.trans (ExceptFold.bind_eq_ok.mpr ⟨next, first, later⟩)⟩

theorem reduceWhole_ok_iff {selector : Selector} {journal : SetupJournal} :
    (∃ reduction, reduceWhole registered selector journal = .ok reduction) ↔
      ∀ envelope ∈ journal.envelopes, ¬ selector.MalformedView envelope := by
  have all := @observeAll_ok_iff registered journal.envelopes (new selector)
  rw [reduceWhole_eq_all] at all
  refine Iff.trans ?_ all
  cases reduceWhole registered selector journal <;> simp [Except.map]

/-- Every session grant has a consent trail since the last boundary, or is one of the two screen
grants of a root computer-use message since then; the fused turn-setup fold of any selector
carries the tool state of the standalone scan; and it fails only on a malformed provider view
of its own branch and agent. -/
theorem session_grants_have_consent (registered : String → Bool) (autoGrant : Option String)
    (journal : SetupJournal) :
    (∀ grant ∈ ((durableSessionToolState registered journal.envelopes).snapshot autoGrant).grants,
      ConsentTrail (sinceBoundary journal.envelopes) grant ∨
        grant ∈ screenGrants ∧ RootComputerUse (sinceBoundary journal.envelopes)) ∧
    (∀ selector reduction, reduceWhole registered selector journal = .ok reduction →
      reduction.durableTools = durableSessionToolState registered journal.envelopes) ∧
    ∀ selector, (∃ reduction, reduceWhole registered selector journal = .ok reduction) ↔
      ∀ envelope ∈ journal.envelopes, ¬ selector.MalformedView envelope := by
  have consented := consented_scan registered journal.envelopes
  refine ⟨?_, fun _ _ folded => durableTools_of_reduceWhole folded, fun _ => reduceWhole_ok_iff⟩
  intro grant member
  unfold DurableToolStateReduction.snapshot at member
  split at member
  · rename_i explicit
    have pushed : ∀ (held : List SessionGrant) (added : SessionGrant),
        grant ∈ pushGrant held added → grant ∈ held ∨ grant = added := by
      intro held added inside
      unfold pushGrant at inside
      split at inside
      · exact .inl inside
      · simpa using inside
    rcases pushed _ _ member with inner | control
    · rcases pushed _ _ inner with asked | observe
      · exact .inl (consented.grants grant asked)
      · exact .inr ⟨by simp [screenGrants, observe], consented.computer explicit.1⟩
    · exact .inr ⟨by simp [screenGrants, control], consented.computer explicit.1⟩
  · exact .inl (consented.grants grant member)

/-- A write that was asked about and allowed for the session. -/
def allowedWrite : SetupJournal where
  envelopes :=
    let intent : EffectIntent := ⟨"e", .fsWrite, "write", "digest", none⟩
    let menu : DecisionMenu := ⟨"m", .permission "write", [⟨"always", some .allowAlways⟩]⟩
    let event (seq : Nat) (payload : SetupEvent) : SetupEnvelope :=
      ⟨"event", seq, none, some "run", none, 0, .event payload⟩
    [event 1 (.effect (.intent intent)), event 2 (.effect (.authorized "e" (.ask "m"))),
      event 3 (.menuOpened menu), event 4 (.menuAnswered ⟨"m", some "always", 0, none⟩)]
  increasing := by unfold Log.Increasing; decide
  positive := by decide

theorem session_grants_have_consent_allowedWrite :
    ConsentTrail (sinceBoundary allowedWrite.envelopes) (.forEffect .fsWrite "digest") ∧
      ∀ selector, ∃ reduction, reduceWhole (fun _ => false) selector allowedWrite = .ok reduction ∧
        reduction.durableTools.grants = [.forEffect .fsWrite "digest"] := by
  obtain ⟨consented, fused, folds⟩ :=
    session_grants_have_consent (fun _ => false) none allowedWrite
  have granted : (durableSessionToolState (fun _ => false) allowedWrite.envelopes).grants =
      [.forEffect .fsWrite "digest"] := by
    decide +kernel
  refine ⟨(consented _ ?_).resolve_right ?_, fun selector => ?_⟩
  · have asked : (durableSessionToolState (fun _ => false)
        allowedWrite.envelopes).explicitComputerIntent = false := by
      decide +kernel
    simp [DurableToolStateReduction.snapshot, asked, granted]
  · rintro ⟨screen, _⟩
    exact absurd screen (by decide)
  · have sound : ∀ envelope ∈ allowedWrite.envelopes, ¬ selector.MalformedView envelope := by
      simp [allowedWrite, Selector.MalformedView]
    obtain ⟨reduction, folded⟩ := (folds selector).mpr sound
    exact ⟨reduction, folded, by rw [fused selector reduction folded, granted]⟩

end HaiderAgent.TurnSetup
