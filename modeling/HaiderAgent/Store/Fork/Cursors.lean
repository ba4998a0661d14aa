import HaiderAgent.Store.Fork.Timeline

/-!
# The cursors of a forked journal

A fork numbers its copies consecutively and maps the prompt cursor of retraction facts through the
same selection. The `user_seq` of a `run_retried` fact is copied as it is: it names the copy of the
message exactly where the selection leaves that message at its seq.
-/

namespace HaiderAgent.Fork

open List

/-- A session journal, in the order of its seqs. -/
structure SourceJournal where
  envelopes : List JournalEnvelope
  increasing : Log.Increasing (·.seq) envelopes

/-- Every retried message keeps its seq in the copy. -/
def RetriesStay (selected : List JournalEnvelope) : Prop :=
  ∀ source ∈ selected, ∀ retry, source.payload.retried = some retry →
    childSeqOf selected retry.userSeq = some retry.userSeq

instance (selected : List JournalEnvelope) : Decidable (RetriesStay selected) :=
  inferInstanceAs (Decidable (∀ source ∈ selected, ∀ retry, source.payload.retried = some retry →
    childSeqOf selected retry.userSeq = some retry.userSeq))

/-- The copied lineage in its source's seqs, as the main branch and root lane it becomes. -/
def lineagePrefix (owner : Option AgentId) (selected : List JournalEnvelope) :
    List JournalEnvelope :=
  selected.map fun source =>
    { source with branchId := none, agentId := copyLane owner source.agentId }

/-- The copied lineage with its unfinished runs cancelled. -/
def cancelledPrefix (around : Surroundings) (command : ForkCommand) (owner : Option AgentId)
    (now : Nat) (selected : List JournalEnvelope) : List JournalEnvelope :=
  lineagePrefix owner selected ++
    Log.number Envelope.numbered (command.forkSeq + 1)
      (laneClosures payloadView around command now (lineagePrefix owner selected))

/-- The seqs, ids and cursors of a child are those of its source, renumbered. -/
structure CursorsPreserved (around : Surroundings) (command : ForkCommand)
    (owner : Option AgentId) (now : Nat) (selected child : List JournalEnvelope) : Prop where
  seqs : child.map (·.seq) = range' 1 child.length
  ids : (child.map (·.eventId)).Nodup
  /-- The cause and the correlation of a copy are in the child. -/
  causes : ∀ (index : Nat) (source copy : JournalEnvelope),
    selected[index]? = some source → child[index]? = some copy →
    ∀ eventId, copy.causationId = some eventId ∨ copy.correlationId = some eventId →
      ∃ other ∈ child, other.eventId = eventId
  /-- A retraction fact names the copy of its prompt. -/
  prompts : ∀ (index : Nat) (source copy : JournalEnvelope),
    selected[index]? = some source → child[index]? = some copy →
    ∀ promptSeq, source.payload.promptSeq = some promptSeq →
      ∃ childSeq, childSeqOf selected promptSeq = some childSeq ∧
        copy.payload.promptSeq = some childSeq
  /-- A retry names the copy of its message. -/
  retries : ∀ (index : Nat) (source copy : JournalEnvelope),
    selected[index]? = some source → child[index]? = some copy →
    ∀ retry : RunRetried, source.payload.retried = some retry →
      ∃ childRetry : RunRetried, copy.payload.retried = some childRetry ∧
        childSeqOf selected retry.userSeq = some childRetry.userSeq
  promptSource : ∀ runId,
    (mainTimelineRunPromptSource child runId).map (fun (run, seq) => (run, some seq)) =
      (mainTimelineRunPromptSource (cancelledPrefix around command owner now selected) runId).map
        fun (run, seq) => (run, childSeqOf selected seq)
  failedTurn : (latestMainTimelineFailedTurn child).map
      (·.map fun (run, promptRun, seq) => (run, promptRun, some seq)) =
    (latestMainTimelineFailedTurn (cancelledPrefix around command owner now selected)).map
      (·.map fun (run, promptRun, seq) => (run, promptRun, childSeqOf selected seq))

/-! ## The copies mirror the lineage -/

/-- The facts of a payload that the main timeline and the closures read. -/
structure SameFacts (copy original : Payload) : Prop where
  message : copy.message = original.message
  retried : copy.retried = original.retried
  runFailed : copy.runFailed = original.runFailed
  runState : copy.runState = original.runState
  reserved : copy.reserved = original.reserved
  headlessConfigured : copy.headlessConfigured = original.headlessConfigured

theorem SameFacts.refl (payload : Payload) : SameFacts payload payload :=
  ⟨rfl, rfl, rfl, rfl, rfl, rfl⟩

theorem sameFacts_withPromptSeq (promptSeq : Nat) (payload : Payload) :
    SameFacts (payload.withPromptSeq promptSeq) payload := by
  cases payload <;> exact ⟨rfl, rfl, rfl, rfl, rfl, rfl⟩

theorem copyPayload_sameFacts {selected : List JournalEnvelope} {payload copy : Payload}
    (copied : copyPayload payloadView selected payload = .ok copy) : SameFacts copy payload := by
  obtain rfl | ⟨childSeq, rfl⟩ := copyPayload_ok copied
  · exact SameFacts.refl _
  · exact sameFacts_withPromptSeq childSeq payload

/-- A copy and the envelope of the lineage it stands for. -/
structure Mirrors (selected : List JournalEnvelope) (copy original : JournalEnvelope) : Prop where
  runId : copy.runId = original.runId
  branchId : copy.branchId = none
  originalBranch : original.branchId = none
  agentId : copy.agentId = original.agentId
  facts : SameFacts copy.payload original.payload
  /-- A message has the place of its seq. -/
  seq : original.payload.message = true → childSeqOf selected original.seq = some copy.seq
  /-- A retried message keeps its seq. -/
  stays : ∀ retry, original.payload.retried = some retry →
    childSeqOf selected retry.userSeq = some retry.userSeq

theorem Mirrors.mainTimeline {selected : List JournalEnvelope} {copy original : JournalEnvelope}
    (mirrors : Mirrors selected copy original) : mainTimeline copy = mainTimeline original := by
  unfold Fork.mainTimeline
  rw [mirrors.branchId, mirrors.originalBranch, mirrors.agentId]

section Accepted

variable {around : Surroundings} {command : ForkCommand} {owner : Option AgentId} {now : Nat}
  {selected copies child : List JournalEnvelope}

/-- Each copy mirrors its original up to the renumbering. -/
theorem Forked.copies_mirror
    (forked : Forked payloadView around command owner now selected copies child)
    (ordered : Log.Increasing (·.seq) selected) (stay : RetriesStay selected) :
    List.Forall₂ (Mirrors selected) copies (lineagePrefix owner selected) := by
  refine forall₂_iff_get.mpr ⟨by rw [lineagePrefix, length_map, forked.length], ?_⟩
  intro index inside inside'
  obtain ⟨source, here⟩ : ∃ source, selected[index]? = some source :=
    ⟨_, getElem?_eq_getElem (forked.length ▸ inside)⟩
  obtain ⟨copy, found, _, copied⟩ := forked.copy_at here
  obtain ⟨payload, _, seq, branch, run, agent, _⟩ := copyEnvelope_ok copied
  have copyAt : copies.get ⟨index, inside⟩ = copy :=
    (List.getElem?_eq_some_iff.mp found).2
  have originalAt : (lineagePrefix owner selected).get ⟨index, inside'⟩ =
      { source with branchId := none, agentId := copyLane owner source.agentId } := by
    refine (List.getElem?_eq_some_iff.mp ?_).2
    rw [lineagePrefix, getElem?_map, here]
    rfl
  rw [copyAt, originalAt]
  refine ⟨run, branch, rfl, agent, copyPayload_sameFacts payload, fun _ => ?_,
    stay source (mem_of_getElem? here)⟩
  exact (Log.rank_getElem ordered here).trans (congrArg some seq.symm)

variable {originals : List JournalEnvelope}

variable (mirror : List.Forall₂ (Mirrors selected) copies originals)
include mirror

theorem unfinishedLanes_mirror :
    unfinishedLanes payloadView copies = unfinishedLanes payloadView originals :=
  unfinishedLanes_congr (mirror.imp fun _ _ same => ⟨same.runId, same.agentId, same.facts.runState⟩)

theorem headlessRun_mirror (runId : RunId) :
    headlessRun payloadView copies runId = headlessRun payloadView originals runId := by
  induction mirror with
  | nil => rfl
  | @cons copy original _ _ same _ ih =>
    have here : payloadView.headlessConfigured copy.payload =
        payloadView.headlessConfigured original.payload := same.facts.headlessConfigured
    simp only [headlessRun, any_cons, same.runId, here] at ih ⊢
    rw [ih]

theorem laneClosures_mirror :
    laneClosures payloadView around command now copies =
      laneClosures payloadView around command now originals := by
  unfold laneClosures
  rw [unfinishedLanes_mirror mirror]
  refine map_congr_left fun lane _ => ?_
  rw [headlessRun_mirror mirror]

omit mirror

/-- A closure mirrors itself under any two seqs: it is neither a message nor a retry. -/
theorem closures_mirror (first second : Nat) (originals : List JournalEnvelope) :
    List.Forall₂ (Mirrors selected)
      (Log.number Envelope.numbered first
        (laneClosures payloadView around command now originals))
      (Log.number Envelope.numbered second
        (laneClosures payloadView around command now originals)) := by
  have closure (lane : Lane) (headless : Bool) (eventId : EventId) (one other : Nat) :
      Mirrors selected
        (Envelope.numbered one
          (boundaryEnvelope command now eventId (some lane) (payloadView.cancelled headless)))
        (Envelope.numbered other
          (boundaryEnvelope command now eventId (some lane) (payloadView.cancelled headless))) := by
    cases headless <;>
      exact ⟨rfl, rfl, rfl, rfl, SameFacts.refl _, nofun,
        nofun⟩
  unfold laneClosures
  generalize around.laneOrder (unfinishedLanes payloadView originals) = lanes
  induction lanes generalizing first second with
  | nil => exact .nil
  | cons lane rest ih => exact .cons (closure lane _ _ first second) (ih _ _)

/-- The child is a mirror of the cancelled prefix, followed by two envelopes of no run. -/
theorem Forked.child_mirrors
    (forked : Forked payloadView around command owner now selected copies child)
    (ordered : Log.Increasing (·.seq) selected) (stay : RetriesStay selected) :
    ∃ timeline idle audit, child = timeline ++ [idle, audit] ∧
      idle.runId = none ∧ audit.runId = none ∧
      List.Forall₂ (Mirrors selected) timeline
        (cancelledPrefix around command owner now selected) := by
  have mirror := forked.copies_mirror ordered stay
  have whole := forked.whole
  rw [boundary, Log.number_append, ← append_assoc] at whole
  refine ⟨_, _, _, whole, rfl, rfl, ?_⟩
  rw [laneClosures_mirror mirror]
  exact rel_append mirror (closures_mirror _ _ _)

end Accepted

/-! ## The main timeline in lockstep -/

section Lockstep

variable {selected : List JournalEnvelope}

/-- A message found in a child and the one found in its source. -/
def SameMessage (selected : List JournalEnvelope) (copy original : Option (RunId × Nat)) : Prop :=
  copy.map (fun (run, seq) => (run, some seq)) =
    original.map fun (run, seq) => (run, childSeqOf selected seq)

variable {copy original : JournalEnvelope}

theorem promptSourceStep_mirrors {target : RunId} {found found' : Option (RunId × Nat)}
    (related : SameMessage selected found found') (same : Mirrors selected copy original) :
    SameMessage selected (promptSourceStep target found copy)
      (promptSourceStep target found' original) := by
  unfold promptSourceStep
  rw [same.runId, same.mainTimeline, same.facts.message, same.facts.retried]
  by_cases here : original.runId = some target ∧ mainTimeline original = true
  · rw [if_pos here, if_pos here]
    by_cases isMessage : original.payload.message = true
    · rw [if_pos isMessage, if_pos isMessage]
      simp [SameMessage, same.seq isMessage]
    · rw [if_neg isMessage, if_neg isMessage]
      cases retried : original.payload.retried with
      | none => exact related
      | some retry => simp [SameMessage, same.stays retry retried]
  · rw [if_neg here, if_neg here]
    exact related

/-- Two run heads, equal but for the seqs of their states. -/
structure SameHead (copy original : RunHead) : Prop where
  state : copy.state = original.state
  stateSeq : copy.stateSeq.isSome = original.stateSeq.isSome
  branchId : copy.branchId = original.branchId

/-- The heads of two timelines. -/
def SameHeads (copy original : HashMap RunId RunHead) : Prop :=
  ∀ runId, Option.Rel SameHead (copy.lookup runId) (original.lookup runId)

variable {heads heads' : HashMap RunId RunHead} (related : SameHeads heads heads') (runId : RunId)
include related

theorem SameHeads.getD (fresh : RunHead) :
    SameHead ((heads.lookup runId).getD fresh) ((heads'.lookup runId).getD fresh) := by
  have here := related runId
  generalize heads.lookup runId = head, heads'.lookup runId = head' at here ⊢
  cases here with
  | none => exact ⟨rfl, rfl, rfl⟩
  | some same => exact same

theorem SameHeads.insert {head head' : RunHead} (same : SameHead head head') :
    SameHeads (heads.insert runId head) (heads'.insert runId head') := by
  intro other
  by_cases this : other = runId
  · subst this
    rw [AList.lookup_insert, AList.lookup_insert]
    exact .some same
  · rw [AList.lookup_insert_ne this, AList.lookup_insert_ne this]
    exact related other

theorem SameHeads.erroredOnMain : erroredOnMain heads runId = erroredOnMain heads' runId := by
  have here := related runId
  unfold Fork.erroredOnMain
  generalize heads.lookup runId = head, heads'.lookup runId = head' at here ⊢
  cases here with
  | none => rfl
  | some same => simp only [Option.any_some, same.state, same.stateSeq, same.branchId]

theorem moveHead_sameHeads (branchId : Option BranchId) (fresh : RunState)
    {move move' : RunHead → RunHead}
    (moves : ∀ head head', SameHead head head' → SameHead (move head) (move' head')) :
    ExceptFold.Related SameHeads (moveHead heads runId branchId fresh move)
      (moveHead heads' runId branchId fresh move') := by
  have same := related.getD runId { state := fresh, stateSeq := none, branchId := branchId }
  unfold moveHead
  simp only [same.branchId]
  split
  · exact related.insert runId (moves _ _ same)
  · rfl

omit related

theorem applyRunHeadEnvelope_mirrors
    (same : Mirrors selected copy original) (related : SameHeads heads heads') :
    ExceptFold.Related SameHeads (applyRunHeadEnvelope heads copy)
      (applyRunHeadEnvelope heads' original) := by
  unfold applyRunHeadEnvelope
  rw [same.runId, same.branchId, same.originalBranch, same.facts.retried, same.facts.reserved,
    same.facts.runState, same.facts.message]
  cases original.runId with
  | none => exact related
  | some runId =>
    dsimp only
    split
    · exact moveHead_sameHeads related _ _ _ fun _ _ same => same
    split
    · exact moveHead_sameHeads related _ _ _ fun _ _ same => ⟨rfl, rfl, same.branchId⟩
    cases original.payload.runState with
    | some state =>
      exact moveHead_sameHeads related _ _ _ fun _ _ same => ⟨rfl, rfl, same.branchId⟩
    | none =>
      dsimp only
      split
      · exact moveHead_sameHeads related _ _ _ fun _ _ same => same
      · exact related

/-- What the failed-turn reducer collects in a child and in its source. -/
structure SameTurn (selected : List JournalEnvelope) (copy original : FailedTurnFacts) : Prop where
  latestUser : SameMessage selected copy.latestUser original.latestUser
  retries : copy.retries = original.retries
  stays : ∀ retry ∈ original.retries, childSeqOf selected retry.2.2 = some retry.2.2
  failed : copy.failed = original.failed

theorem failedTurnStep_mirrors {facts facts' : FailedTurnFacts}
    (related : SameTurn selected facts facts') (same : Mirrors selected copy original) :
    SameTurn selected (failedTurnStep facts copy) (failedTurnStep facts' original) := by
  unfold failedTurnStep
  rw [same.runId, same.mainTimeline, same.facts.message, same.facts.runFailed, same.facts.retried]
  cases original.runId with
  | none => exact related
  | some runId =>
    dsimp only
    split
    · by_cases isMessage : original.payload.message = true
      · rw [if_pos isMessage, if_pos isMessage]
        refine ⟨?_, related.retries, related.stays, related.failed⟩
        simp [SameMessage, same.seq isMessage]
      · rw [if_neg isMessage, if_neg isMessage]
        split
        · exact ⟨related.latestUser, related.retries, related.stays,
            congrArg (runId :: ·) related.failed⟩
        · cases retried : original.payload.retried with
          | none => exact related
          | some retry =>
            refine ⟨related.latestUser, congrArg (_ :: ·) related.retries, ?_, related.failed⟩
            exact forall_mem_cons.mpr ⟨same.stays retry retried, related.stays⟩
    · exact related

/-- A retry that keeps its seq owns the copy of a message exactly if it owns the message. -/
theorem owningRun_copy {retries : List (RunId × RunId × Nat)}
    (stays : ∀ retry ∈ retries, childSeqOf selected retry.2.2 = some retry.2.2) (runId : RunId)
    {seq childSeq : Nat} (copied : childSeqOf selected seq = some childSeq) :
    owningRun retries runId childSeq = owningRun retries runId seq := by
  have same : ∀ retry ∈ retries, (retry.2.2 == childSeq) = (retry.2.2 == seq) := by
    intro retry mem
    rw [Bool.eq_iff_iff, beq_iff_eq, beq_iff_eq]
    constructor
    · intro here
      exact Log.rank_injective (here ▸ stays retry mem) copied
    · intro here
      have itself := stays retry mem
      rw [here, copied, Option.some_inj] at itself
      exact here.trans itself.symm
  unfold owningRun
  rw [← head?_filter, ← head?_filter, filter_congr same]

/-- A failed turn found in a child and the one found in its source. -/
def SameFailure (selected : List JournalEnvelope)
    (copy original : Option (RunId × RunId × Nat)) : Prop :=
  copy.map (fun (run, promptRun, seq) => (run, promptRun, some seq)) =
    original.map fun (run, promptRun, seq) => (run, promptRun, childSeqOf selected seq)

variable {timeline originals : List JournalEnvelope}
  (mirror : List.Forall₂ (Mirrors selected) timeline originals)
include mirror

theorem promptSource_mirrors (target : RunId) :
    SameMessage selected (mainTimelineRunPromptSource timeline target)
      (mainTimelineRunPromptSource originals target) := by
  have start : SameMessage selected none none := rfl
  refine rel_foldl (P := SameMessage selected) ?_ start mirror
  exact fun _ _ related _ _ same => promptSourceStep_mirrors related same

theorem runHeads_mirrors :
    ExceptFold.Related SameHeads (runHeads timeline) (runHeads originals) := by
  have start : SameHeads ∅ ∅ := fun _ => .none
  refine ExceptFold.foldlM_related ?_ mirror start
  exact fun _ _ _ _ same related => applyRunHeadEnvelope_mirrors same related

theorem failedTurnFacts_mirrors :
    SameTurn selected (failedTurnFacts timeline) (failedTurnFacts originals) := by
  have start : SameTurn selected { latestUser := none, retries := [], failed := [] }
      { latestUser := none, retries := [], failed := [] } := ⟨rfl, rfl, by simp, rfl⟩
  refine rel_foldl (P := SameTurn selected) ?_ start mirror
  exact fun _ _ related _ _ same => failedTurnStep_mirrors related same

/-- The failed turn of the child is that of the source, renumbered. -/
theorem failedTurn_mirrors :
    ExceptFold.Related (SameFailure selected) (latestMainTimelineFailedTurn timeline)
      (latestMainTimelineFailedTurn originals) := by
  refine (runHeads_mirrors mirror).bind fun heads heads' related => ?_
  obtain ⟨latestUser, retries, stays, failed⟩ := failedTurnFacts_mirrors mirror
  dsimp only
  rw [retries, failed]
  unfold SameMessage at latestUser
  cases latest : (failedTurnFacts originals).latestUser with
  | none =>
    rw [latest, Option.map_none, Option.map_eq_none_iff] at latestUser
    rw [latestUser]
    exact (rfl : SameFailure selected none none)
  | some message =>
    obtain ⟨userRun, userSeq⟩ := message
    rw [latest, Option.map_some] at latestUser
    obtain ⟨⟨copyRun, copySeq⟩, found, same⟩ := Option.map_eq_some_iff.mp latestUser
    obtain ⟨rfl, copied⟩ := Prod.mk.inj same
    rw [found]
    dsimp only
    rw [owningRun_copy stays copyRun copied.symm, related.erroredOnMain]
    split
    · show SameFailure selected (some _) (some _)
      rw [SameFailure, Option.map_some, Option.map_some]
      dsimp only
      rw [← copied]
    · exact (rfl : SameFailure selected none none)

end Lockstep

/-! ## The child's cursors -/

section Child

variable {around : Surroundings} {command : ForkCommand} {owner : Option AgentId} {now : Nat}
  {selected copies child : List JournalEnvelope}

theorem timeline_append {timeline : List JournalEnvelope} {idle audit : JournalEnvelope}
    (idleRun : idle.runId = none) (auditRun : audit.runId = none) :
    (∀ target, mainTimelineRunPromptSource (timeline ++ [idle, audit]) target =
      mainTimelineRunPromptSource timeline target) ∧
    latestMainTimelineFailedTurn (timeline ++ [idle, audit]) =
      latestMainTimelineFailedTurn timeline := by
  have heads : runHeads (timeline ++ [idle, audit]) = runHeads timeline := by
    unfold runHeads
    rw [foldlM_append]
    cases timeline.foldlM applyRunHeadEnvelope ∅ with
    | error failure => rfl
    | ok heads =>
      show [idle, audit].foldlM applyRunHeadEnvelope heads = _
      simp [applyRunHeadEnvelope, idleRun, auditRun, bind, Except.bind, pure, Except.pure]
  have facts : failedTurnFacts (timeline ++ [idle, audit]) = failedTurnFacts timeline := by
    simp [failedTurnFacts, failedTurnStep, idleRun, auditRun]
  refine ⟨fun target => ?_, ?_⟩
  · simp [mainTimelineRunPromptSource, promptSourceStep, idleRun, auditRun]
  · rw [latestMainTimelineFailedTurn, heads, facts]
    rfl

variable {payload : Payload}

/-- A prompt cursor is mapped: only retraction facts have one. -/
theorem copyPayload_promptSeq {copy : Payload} {promptSeq : Nat}
    (copied : copyPayload payloadView selected payload = .ok copy)
    (cursor : payload.promptSeq = some promptSeq) :
    ∃ childSeq, childSeqOf selected promptSeq = some childSeq ∧
      copy.promptSeq = some childSeq := by
  have retraction : retractionKind (payloadView.kind payload) = true := by
    cases payload with
    | promptRetracted | responseDeltaDiscarded => rfl
    | raw | headlessCancelled | sessionForked => cases cursor
  have viewed : payloadView.promptSeq payload = some promptSeq := cursor
  rw [copyPayload, if_pos retraction, viewed] at copied
  dsimp only at copied
  cases mapped : childSeqOf selected promptSeq with
  | none =>
    rw [mapped] at copied
    cases copied
  | some childSeq =>
    rw [mapped] at copied
    cases copied
    refine ⟨childSeq, rfl, ?_⟩
    cases payload with
    | promptRetracted | responseDeltaDiscarded => rfl
    | raw | headlessCancelled | sessionForked => cases cursor

variable {index : Nat} {source : JournalEnvelope}

variable (forked : Forked payloadView around command owner now selected copies child)
include forked

theorem Forked.child_at {copy : JournalEnvelope} (here : selected[index]? = some source)
    (there : child[index]? = some copy) :
    copyEnvelope payloadView around command owner selected (index + 1) source = .ok copy := by
  obtain ⟨_, _, found, copied⟩ := forked.copy_at here
  rw [there, Option.some_inj] at found
  exact found ▸ copied

theorem Forked.causes {copy : JournalEnvelope} (here : selected[index]? = some source)
    (there : child[index]? = some copy) {eventId : EventId}
    (names : copy.causationId = some eventId ∨ copy.correlationId = some eventId) :
    ∃ other ∈ child, other.eventId = eventId := by
  obtain ⟨_, _, _, _, _, _, causation, correlation⟩ := copyEnvelope_ok (forked.child_at here there)
  rcases names with names | names
  · rw [causation] at names
    obtain ⟨_, _, mapped⟩ := Option.bind_eq_some_iff.mp names
    exact forked.mapped mapped
  · rw [correlation] at names
    obtain ⟨_, _, mapped⟩ := Option.bind_eq_some_iff.mp names
    exact forked.mapped mapped

omit forked

end Child

/-- An accepted fork preserves every cursor exactly if the retried messages it copies keep their
seqs: the cursor of a `run_retried` fact is the one that is not mapped. -/
theorem fork_preserves_cursors_iff (around : Surroundings) (branches : List BranchDescriptor)
    (taken : List EventId) (command : ForkCommand) (owner : Option AgentId) (now : Nat)
    (source : SourceJournal) (child : List JournalEnvelope)
    (accepted : forkSession payloadView around branches taken command owner now source.envelopes =
      .ok child) :
    CursorsPreserved around command owner now
        (forkedPrefix payloadView branches command source.envelopes) child ↔
      RetriesStay (forkedPrefix payloadView branches command source.envelopes) := by
  obtain ⟨copies, forked, -⟩ := forkSession_ok accepted
  have ordered : Log.Increasing (·.seq)
      (forkedPrefix payloadView branches command source.envelopes) :=
    forkedPrefix_increasing source.increasing
  generalize forkedPrefix payloadView branches command source.envelopes = selected at forked ordered
  constructor
  · intro preserved envelope member retry isRetry
    obtain ⟨index, here⟩ := mem_iff_getElem?.mp member
    obtain ⟨copy, _, there, copied⟩ := forked.copy_at here
    obtain ⟨childRetry, isChildRetry, named⟩ :=
      preserved.retries index envelope copy here there retry isRetry
    rw [(copyPayload_sameFacts (copyEnvelope_ok copied).1).retried, isRetry, Option.some_inj]
      at isChildRetry
    exact isChildRetry ▸ named
  · intro stay
    obtain ⟨timeline, idle, audit, rfl, idleRun, auditRun, mirror⟩ :=
      forked.child_mirrors ordered stay
    obtain ⟨sources, failure⟩ := timeline_append idleRun auditRun
    refine
      { seqs := forked.seqs
        ids := forked.distinct
        causes := fun _ _ _ here there _ names => forked.causes here there names
        prompts := fun _ _ _ here there _ cursor =>
          copyPayload_promptSeq (copyEnvelope_ok (forked.child_at here there)).1 cursor
        retries := fun _ envelope _ here there retry isRetry =>
          ⟨retry, (copyPayload_sameFacts
              (copyEnvelope_ok (forked.child_at here there)).1).retried.trans isRetry,
            stay envelope (mem_of_getElem? here) retry isRetry⟩
        promptSource := fun runId => ?_
        failedTurn := ?_ }
    · rw [sources]
      exact promptSource_mirrors mirror runId
    · rw [failure]
      exact (failedTurn_mirrors mirror).map_eq fun _ _ same => same

/-- Ids by prefix, where the source hashes. -/
def prefixedIds : Surroundings where
  validatePromptCut := fun _ => .ok ()
  remappedForkEventId := fun sessionId eventId => sessionId ++ "/" ++ eventId
  forkRunBoundaryEventId := fun sessionId runId _ => sessionId ++ "/cancelled/" ++ runId
  forkBoundaryEventId := fun sessionId kind => sessionId ++ "/" ++ kind
  laneOrder := id
  laneOrder_perm := fun lanes => .refl lanes

/-- An envelope of the main timeline of session `s`. -/
def mainEntry (seq : Nat) (runId : Option RunId) (payload : RawPayload) : JournalEnvelope where
  eventId := "e" ++ toString seq
  seq := seq
  sessionId := "s"
  branchId := none
  runId := runId
  agentId := none
  deviceId := "device"
  authorityEpoch := 0
  workerGeneration := 1
  causationId := none
  correlationId := none
  committedAtMs := seq
  render := { durable := true, promptOmit := false }
  payload := .raw payload

/-- A turn that fails, is retried and answered, from a seq on. -/
def retriedTurn (first : Nat) : List JournalEnvelope :=
  [mainEntry first (some "r1") (.event (.runState .queued)),
    mainEntry (first + 1) (some "r1") (.event (.userMessage "deploy" [] emptyObject)),
    mainEntry (first + 2) (some "r1") (.event (.runFailed .providerError "overloaded" true none)),
    mainEntry (first + 3) (some "r1") (.event (.runState .errored)),
    mainEntry (first + 4) (some "r2") (.event (.runState .queued)),
    mainEntry (first + 5) (some "r2")
      (.retry { failedRunId := "r1", promptRunId := "r1", userSeq := first + 1 }),
    mainEntry (first + 6) none (.event (.sessionState .activeRun)),
    mainEntry (first + 7) (some "r2")
      (.event (.nodeCommitted ⟨"node", none, .assistantCommit "deployed" emptyObject⟩)),
    mainEntry (first + 8) (some "r2") (.event (.runState .done))]

/-- A session whose first turn is retried. -/
def retriedSession : SourceJournal where
  envelopes := mainEntry 1 none (.event (.sessionState .created)) :: retriedTurn 2
  increasing := by unfold Log.Increasing; decide +kernel

/-- The same session with the workspace checkpointed first. -/
def checkpointedSession : SourceJournal where
  envelopes := [mainEntry 1 none (.event (.sessionState .created)),
    mainEntry 2 (some "r0") (.event (.effect (.dispatched "write"))),
    mainEntry 3 (some "r0") (.event (.effect (.outcome "write" .ok))),
    mainEntry 4 (some "r0") (.event (.unread .checkpointRecorded emptyObject))] ++ retriedTurn 5
  increasing := by unfold Log.Increasing; decide +kernel

/-- The main timeline forked into session `child` at a seq. -/
def mainFork (forkSeq : Nat) : ForkCommand where
  sourceSessionId := "s"
  sessionId := "child"
  workerGeneration := 2
  sourceBranchId := none
  forkNodeId := "node"
  forkSeq := forkSeq
  forkedFrom := none
  removals := none
  auditEventId := "audit"
  deviceId := "device"

/-- The child of a fork of the main line at a cursor. -/
def forkedChild (source : SourceJournal) (forkSeq : Nat) : List JournalEnvelope :=
  (forkSession payloadView prefixedIds [] [] (mainFork forkSeq) none 100
    source.envelopes).toOption.getD []

theorem fork_preserves_cursors_retriedSession :
    forkSession payloadView prefixedIds [] [] (mainFork 9) none 100 retriedSession.envelopes =
        .ok (forkedChild retriedSession 9) ∧
      CursorsPreserved prefixedIds (mainFork 9) none 100
        (forkedPrefix payloadView [] (mainFork 9) retriedSession.envelopes)
        (forkedChild retriedSession 9) :=
  ⟨by decide +kernel,
    (fork_preserves_cursors_iff prefixedIds [] [] (mainFork 9) none 100 retriedSession
      (forkedChild retriedSession 9) (by decide +kernel)).mpr (by decide +kernel)⟩

/-- With a checkpoint before the message, the retry of the child names the failure behind the
message, and the child offers the answered turn for another retry. -/
theorem fork_loses_retry_cursor :
    forkSession payloadView prefixedIds [] [] (mainFork 12) none 100
        checkpointedSession.envelopes = .ok (forkedChild checkpointedSession 12) ∧
      mainTimelineRunPromptSource (forkedChild checkpointedSession 12) "r2" = some ("r1", 6) ∧
      childSeqOf (forkedPrefix payloadView [] (mainFork 12) checkpointedSession.envelopes) 6 =
        some 5 ∧
      latestMainTimelineFailedTurn (forkedChild checkpointedSession 12) =
        .ok (some ("r1", "r1", 5)) ∧
      latestMainTimelineFailedTurn checkpointedSession.envelopes = .ok none ∧
      ¬ CursorsPreserved prefixedIds (mainFork 12) none 100
        (forkedPrefix payloadView [] (mainFork 12) checkpointedSession.envelopes)
        (forkedChild checkpointedSession 12) := by
  refine ⟨by decide +kernel, by decide +kernel, by decide +kernel, by decide +kernel,
    by decide +kernel, fun preserved => ?_⟩
  have source := preserved.promptSource "r2"
  revert source
  decide +kernel

end HaiderAgent.Fork
