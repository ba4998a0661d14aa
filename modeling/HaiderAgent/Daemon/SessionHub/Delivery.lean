import Mathlib.Algebra.BigOperators.Group.List.Basic
import Mathlib.Data.List.Infix
import HaiderAgent.Daemon.SessionHub.Attachment

/-!
# Gap-free delivery

Whatever the batches, the channel bounds, the page sizes and the sink do, the admitted events are
the committed envelopes after the client's cursor, one after the other, a head is announced after
everything up to it, and the ledger is the weight of what is queued. The store carries what the
channel drops: the channel starts no later than right after what the task replays or has sent.
-/

namespace HaiderAgent.Attach

open List

variable {i : Nat} {e : Envelope}

section Session

/-- The event a frame carries. -/
def Frame.event? : Frame → Option Envelope
  | .event envelope => some envelope
  | .caughtUp _ => none

/-- The events the client has been sent. -/
def State.sentEvents (s : State) : List Envelope := s.admitted.filterMap Frame.event?

/-- Envelopes are numbered from one; what is unpublished follows the actor's head. -/
structure Session (s : State) : Prop where
  numbered : ∀ i e, s.journal[i]? = some e → e.seq = i + 1
  published : s.head ≤ s.journal.length
  unpublished : s.journal.drop s.head = s.unpublished.flatten

variable {s : State}

theorem Session.latestSeq (session : Session s) : s.latestSeq = s.journal.length := by
  unfold State.latestSeq Log.head
  rw [getLast?_eq_getElem?]
  cases last : s.journal[s.journal.length - 1]? with
  | none =>
    have short := getElem?_eq_none_iff.mp last
    show 0 = s.journal.length
    omega
  | some e =>
    have inside := (List.getElem?_eq_some_iff.mp last).1
    have number := session.numbered _ e last
    show e.seq = s.journal.length
    omega

theorem getElem?_number {first : Nat} (drafts : List Draft) (i : Nat) :
    (Log.number Draft.stamp first drafts)[i]? = drafts[i]?.map (Draft.stamp (first + i)) := by
  induction drafts generalizing first i with
  | nil => simp
  | cons draft rest ih =>
    cases i with
    | zero => simp
    | succ i =>
      rw [Log.number_cons, getElem?_cons_succ, getElem?_cons_succ, ih,
        Nat.add_right_comm, Nat.add_assoc]

variable (session : Session s)
include session

theorem Session.commit (drafts : List Draft) :
    Session (s.commit drafts) where
  numbered := by
    intro i e found
    simp only [State.commit, session.latestSeq] at found
    rcases Nat.lt_or_ge i s.journal.length with old | new
    · rw [getElem?_append_left old] at found
      exact session.numbered i e found
    · rw [getElem?_append_right new, getElem?_number] at found
      obtain ⟨draft, -, rfl⟩ := Option.map_eq_some_iff.mp found
      show s.journal.length + 1 + (i - s.journal.length) = i + 1
      omega
  published := by
    have := session.published
    simp only [State.commit, length_append]
    omega
  unpublished := by
    simp only [State.commit]
    rw [drop_append_of_le_length session.published, session.unpublished,
      flatten_append, flatten_singleton]

variable {batch : List Envelope} {rest : List (List Envelope)}

theorem Session.getElem?_batch (next : s.unpublished = batch :: rest) (found : batch[i]? = some e) :
    s.journal[s.head + i]? = some e := by
  have inside := (List.getElem?_eq_some_iff.mp found).1
  rw [← getElem?_drop, session.unpublished, next, flatten_cons,
    getElem?_append_left inside, found]

theorem Session.head_batch (next : s.unpublished = batch :: rest) :
    (batch.getLast?.map (·.seq)).getD s.head = s.head + batch.length := by
  rw [getLast?_eq_getElem?]
  cases last : batch[batch.length - 1]? with
  | none =>
    have short := getElem?_eq_none_iff.mp last
    show s.head = _
    omega
  | some e =>
    have inside := (List.getElem?_eq_some_iff.mp last).1
    have number := session.numbered _ e (session.getElem?_batch next last)
    show e.seq = _
    omega

theorem Session.publish_head (next : s.unpublished = batch :: rest) :
    Session { s with unpublished := rest, head := s.head + batch.length } where
  numbered := session.numbered
  published := by
    have parts := congrArg length session.unpublished
    rw [next, flatten_cons, length_append, length_drop] at parts
    have := session.published
    show s.head + batch.length ≤ s.journal.length
    omega
  unpublished := by
    rw [← drop_drop, session.unpublished, next, flatten_cons, drop_left]

omit session

end Session

variable {queued : QueuedEnvelope}

section Channel

/-- The entries are the envelopes of the journal from a base on. -/
def Feeds (journal : List Envelope) (base : Nat) (events : List QueuedEnvelope) : Prop :=
  ∀ i queued, events[i]? = some queued →
    ∃ e, queued.envelope? = some e ∧ journal[base + i]? = some e

variable {journal gained : List Envelope} {base : Nat} {events : List QueuedEnvelope}

theorem getElem?_grow (found : journal[i]? = some e) :
    (journal ++ gained)[i]? = some e := by
  rw [getElem?_append_left (List.getElem?_eq_some_iff.mp found).1, found]

theorem Feeds.nil : Feeds journal base [] := by
  intro i queued found
  simp at found

theorem Feeds.grow (feeds : Feeds journal base events) :
    Feeds (journal ++ gained) base events := by
  intro i queued found
  obtain ⟨e, entry, there⟩ := feeds i queued found
  exact ⟨e, entry, getElem?_grow there⟩

theorem Feeds.tail (feeds : Feeds journal base (queued :: events)) :
    Feeds journal (base + 1) events := by
  intro i later found
  obtain ⟨e, entry, there⟩ := feeds (i + 1) later (by rwa [getElem?_cons_succ])
  refine ⟨e, entry, ?_⟩
  rwa [Nat.add_assoc, Nat.add_comm 1 i]

theorem Feeds.append {later : List QueuedEnvelope} (feeds : Feeds journal base events)
    (behind : Feeds journal (base + events.length) later) :
    Feeds journal base (events ++ later) := by
  intro i queued found
  rcases Nat.lt_or_ge i events.length with early | late
  · rw [getElem?_append_left early] at found
    exact feeds i queued found
  · rw [getElem?_append_right late] at found
    obtain ⟨e, entry, there⟩ := behind _ queued found
    refine ⟨e, entry, ?_⟩
    rwa [Nat.add_assoc, Nat.add_sub_cancel' late] at there

/-- A slice of a published batch, its weight on the last accepted entry. -/
def queuedBatch (batch : List Envelope) (batchWeight acceptedCount : Nat) (index count : Nat) :
    List QueuedEnvelope :=
  (range' index count).map fun i =>
    ⟨if i + 1 = acceptedCount then batchWeight else 0, batch, i⟩

variable {acceptedCount : Nat}

variable {batchWeight : Nat}

theorem trySendEach_eq {capacity index buffered : Nat} {batch rest : List Envelope}
    (room : events.length + rest.length ≤ capacity) :
    trySendEach capacity false batch batchWeight acceptedCount index rest events buffered =
      (events ++ queuedBatch batch batchWeight acceptedCount index rest.length,
        (rest.getLast?.map (·.seq)).getD buffered, none) := by
  induction rest generalizing index events buffered with
  | nil => simp [trySendEach, queuedBatch]
  | cons envelope rest ih =>
    rw [length_cons] at room
    have open' : (false || decide (capacity ≤ events.length)) = false := by
      rw [Bool.false_or, decide_eq_false_iff_not]
      omega
    unfold trySendEach
    rw [if_neg (by rw [open']; exact Bool.false_ne_true)]
    rw [ih (by rw [length_append, length_singleton]; omega)]
    refine Prod.ext ?_ (Prod.ext ?_ rfl)
    · simp [queuedBatch, range'_succ]
    · cases last : rest.getLast? with
      | none =>
        rw [getLast?_eq_none_iff] at last
        simp [last]
      | some e => simp [getLast?_cons, last]

theorem weight_queuedBatch (batch : List Envelope) (batchWeight : Nat) (some' : acceptedCount ≠ 0) :
    ((queuedBatch batch batchWeight acceptedCount 0 acceptedCount).map (·.weight)).sum =
      batchWeight := by
  obtain ⟨n, rfl⟩ := Nat.exists_eq_succ_of_ne_zero some'
  unfold queuedBatch
  rw [map_map, Nat.succ_eq_add_one, range'_concat, map_append, sum_append, sum_eq_zero]
  · simp
  · intro x mem
    obtain ⟨i, found, rfl⟩ := mem_map.mp mem
    have := (mem_range'_1.mp found).2
    exact if_neg (by omega)

theorem feeds_queuedBatch {batch : List Envelope} (short : acceptedCount ≤ batch.length)
    (next : ∀ i e, batch[i]? = some e → journal[base + i]? = some e) :
    Feeds journal base (queuedBatch batch batchWeight acceptedCount 0 acceptedCount) := by
  intro i queued found
  unfold queuedBatch at found
  rw [getElem?_map, Option.map_eq_some_iff] at found
  obtain ⟨index, place, rfl⟩ := found
  obtain ⟨inside, same⟩ := List.getElem?_eq_some_iff.mp place
  rw [length_range'] at inside
  rw [getElem_range', Nat.zero_add, Nat.one_mul] at same
  subst same
  have there : i < batch.length := Nat.lt_of_lt_of_le inside short
  refine ⟨batch[i], ?_, next i _ (getElem?_eq_getElem there)⟩
  exact getElem?_eq_getElem there

end Channel

section Invariant

/-- What `replay_range` goes to: the registered head, before which the channel starts. -/
def Replays (base highWater : Nat) (final : Bool) (target : Nat) : Prop :=
  final = true ∨ target = highWater ∧ base ≤ highWater

/-- Where a task may be when it has sent up to `sent` and its channel starts at `base`. -/
def Ready (journal : List Envelope) (base highWater : Nat) : Phase → Nat → Prop
  | .replay final target, _ => Replays base highWater final target
  | .reading final target, _ => Replays base highWater final target
  | .arrived final target page, sent =>
    Replays base highWater final target ∧ ∀ rows, page = some rows → rows <+: journal.drop sent
  | .page final target rest, sent =>
    Replays base highWater final target ∧ rest <+: journal.drop sent
  | .offering (.event e) next, sent
  | .ticketed (.event e) next, sent
  | .waiting (.event e) next _, sent =>
    journal[sent]? = some e ∧ Ready journal base highWater next (sent + 1)
  | .offering (.caughtUp through) next, sent
  | .ticketed (.caughtUp through) next, sent
  | .waiting (.caughtUp through) next _, sent =>
    through ≤ sent ∧ Ready journal base highWater next sent
  | .drain, sent => base ≤ sent ∧ highWater ≤ sent
  | .live, sent => base ≤ sent
  | .reregistered _ reply, _ => ∀ head, reply = some head → base ≤ head
  | .registering, _ | .reregistering _, _ | .finalSuffix, _ | .returning, _ | .ended, _ => True

theorem isPrefix_drop_grow {journal gained rest : List Envelope} {sent : Nat}
    (here : rest <+: journal.drop sent) : rest <+: (journal ++ gained).drop sent := by
  rw [drop_append]
  exact here.trans (prefix_append _ _)

theorem Ready.grow {journal gained : List Envelope} {base highWater sent : Nat} {phase : Phase}
    (ready : Ready journal base highWater phase sent) :
    Ready (journal ++ gained) base highWater phase sent := by
  induction phase generalizing sent with
  | registering | reregistering | finalSuffix | returning | ended => trivial
  | replay | reading | drain | live | reregistered => exact ready
  | arrived final target page =>
    exact ⟨ready.1, fun rows same => isPrefix_drop_grow (ready.2 rows same)⟩
  | page final target rest => exact ⟨ready.1, isPrefix_drop_grow ready.2⟩
  | offering frame next ih | ticketed frame next ih | waiting frame next lagOpen ih =>
    cases frame with
    | event e => exact ⟨getElem?_grow ready.1, ih ready.2⟩
    | caughtUp through => exact ⟨ready.1, ih ready.2⟩

/-- A running attachment: the ledger is the weight of the channel and within the budget, and the
channel continues what the task has sent or is about to replay. -/
structure Fed (config : HubConfig) (s : State) : Prop where
  weighed : s.queuedBytes = (s.events.map (·.weight)).sum
  within : s.queuedBytes ≤ config.catchUpByteBudget
  continues : ∃ base, Feeds s.journal base s.events ∧
    Ready s.journal base s.highWater s.phase s.lastSentSeq ∧
    ∀ attachment, s.attachment = some attachment →
      attachment.lastBufferedSeq = base + s.events.length ∧
        (attachment.active = true → attachment.lastBufferedSeq = s.head)

/-- What the sink has admitted: the committed envelopes after the cursor the attachment was
opened at, up to the task's own, and no head before everything up to it. -/
structure Delivered (afterSeq : Nat) (s : State) : Prop where
  unsealed : s.sealReplay = false
  opened : afterSeq ≤ s.lastSentSeq
  events : s.sentEvents <+: s.journal.drop afterSeq
  count : s.sentEvents.length = s.lastSentSeq - afterSeq
  announced : ∀ before through after, s.admitted = before ++ .caughtUp through :: after →
    through ≤ afterSeq + (before.filterMap Frame.event?).length

/-- What a step beside the journal and the sink leaves alone. -/
structure Beside (s t : State) : Prop where
  journal : t.journal = s.journal := by rfl
  unpublished : t.unpublished = s.unpublished := by rfl
  head : t.head = s.head := by rfl
  lastSentSeq : t.lastSentSeq = s.lastSentSeq := by rfl
  sealReplay : t.sealReplay = s.sealReplay := by rfl
  admitted : t.admitted = s.admitted := by rfl

theorem Session.of_beside {s t : State} (session : Session s) (beside : Beside s t) : Session t := by
  obtain ⟨journal, unpublished, head, -⟩ := beside
  refine ⟨?_, ?_, ?_⟩
  · rw [journal]
    exact session.numbered
  · rw [journal, head]
    exact session.published
  · rw [journal, head, unpublished]
    exact session.unpublished

theorem Delivered.of_beside {afterSeq : Nat} {s t : State} (delivered : Delivered afterSeq s)
    (beside : Beside s t) : Delivered afterSeq t := by
  obtain ⟨journal, -, -, sent, seals, admitted⟩ := beside
  have events : t.sentEvents = s.sentEvents := congrArg (filterMap Frame.event?) admitted
  refine ⟨?_, ?_, ?_, ?_, ?_⟩
  · rw [seals]
    exact delivered.unsealed
  · rw [sent]
    exact delivered.opened
  · rw [events, journal]
    exact delivered.events
  · rw [events, sent]
    exact delivered.count
  · rw [admitted]
    exact delivered.announced

end Invariant

section ActorSteps

variable {config : HubConfig} {s : State} {afterSeq : Nat} {attachment : ActorAttachment}

/-- The last `seq` of what is accepted of a batch. -/
def lastAccepted (buffered : Nat) (batch : List Envelope) (acceptedCount : Nat) : Nat :=
  ((batch.take acceptedCount).getLast?.map (·.seq)).getD buffered

/-- The attachment with the accepted part of a batch on its channel. -/
def State.buffering (s : State) (attachment : ActorAttachment) (batch : List Envelope)
    (acceptedCount : Nat) : State :=
  { s with
    events := s.events ++
      queuedBatch batch (batch.map (·.weight)).sum acceptedCount 0 acceptedCount
    attachment := some attachment
    queuedBytes := s.queuedBytes + (batch.map (·.weight)).sum }

/-- A batch is queued whole or in part, or the attachment overflows. -/
theorem publishSharedAttachments_active
    (running : s.phase ≠ .ended) (entry : s.attachment = some attachment)
    (active : attachment.active = true) (batch : List Envelope) :
    s.publishSharedAttachments config batch = s.overflow attachment ∨
      ∃ acceptedCount, acceptedCount ≠ 0 ∧ acceptedCount ≤ batch.length ∧
        s.queuedBytes + (batch.map (·.weight)).sum ≤ config.catchUpByteBudget ∧
        let last : ActorAttachment :=
          { attachment with
            lastBufferedSeq := lastAccepted attachment.lastBufferedSeq batch acceptedCount }
        s.publishSharedAttachments config batch =
          if acceptedCount < batch.length then
            (s.buffering last batch acceptedCount).overflow last
          else s.buffering last batch acceptedCount := by
  unfold State.publishSharedAttachments
  rw [entry]
  dsimp only
  rw [if_neg (by simp [active])]
  split
  · exact .inl rfl
  · rename_i fits
    split
    · exact .inl rfl
    · rename_i accepts
      right
      refine ⟨_, accepts, Nat.min_le_left _ _, Nat.le_of_not_lt fits, ?_⟩
      have taken : (batch.take (min batch.length (config.catchUpCapacity - s.events.length))).length
          = min batch.length (config.catchUpCapacity - s.events.length) := by
        rw [length_take]
        omega
      have closed : decide (s.phase = .ended) = false := decide_eq_false running
      rw [closed, trySendEach_eq (by omega), taken]
      rfl

variable {batch : List Envelope}

theorem lastAccepted_eq {buffered acceptedCount : Nat}
    (accepts : acceptedCount ≠ 0) (short : acceptedCount ≤ batch.length)
    (numbered : ∀ i e, batch[i]? = some e → e.seq = buffered + i + 1) :
    lastAccepted buffered batch acceptedCount = buffered + acceptedCount := by
  have inside : acceptedCount - 1 < batch.length := by omega
  have found : (batch.take acceptedCount).getLast? = some batch[acceptedCount - 1] := by
    rw [getLast?_take, if_neg accepts, getElem?_eq_getElem inside, Option.some_or]
  have number := numbered _ _ (getElem?_eq_getElem inside)
  unfold lastAccepted
  rw [found]
  show batch[acceptedCount - 1].seq = _
  omega

theorem publishSharedAttachments_idle
    (idle : ∀ attachment, s.attachment = some attachment → attachment.active = false) :
    s.publishSharedAttachments config batch = s := by
  unfold State.publishSharedAttachments
  cases entry : s.attachment with
  | none => rfl
  | some attachment => simp [idle attachment entry]

section Publish

variable {rest : List (List Envelope)} (fed : Fed config s) (session : Session s)
  (running : s.phase ≠ .ended) (next : s.unpublished = batch :: rest)
include fed session running next

/-- The next batch reaches the channel as far as there is room; cut short, it turns inactive. -/
theorem Fed.publishShared (entry : s.attachment = some attachment)
    (active : attachment.active = true) :
    Fed config ({ s with unpublished := rest, head := s.head + batch.length
      }.publishSharedAttachments config batch) := by
  obtain ⟨weighed, within, base, feeds, ready, buffered⟩ := fed
  obtain ⟨buffered, atHead⟩ := buffered attachment entry
  rcases publishSharedAttachments_active
      (s := { s with unpublished := rest, head := s.head + batch.length }) running entry active
      batch with full | ⟨acceptedCount, accepts, short, fits, sent⟩
  · rw [full, State.overflow, if_neg running]
    refine ⟨weighed, within, base, feeds, ready, ?_⟩
    rintro entry ⟨⟩
    exact ⟨buffered, nofun⟩
  · have follows (i e) (found : batch[i]? = some e) :
        s.journal[attachment.lastBufferedSeq + i]? = some e := by
      rw [atHead active]
      exact session.getElem?_batch next found
    rw [lastAccepted_eq accepts short fun i e found =>
      session.numbered _ e (follows i e found)] at sent
    have length : (queuedBatch batch (batch.map (·.weight)).sum acceptedCount 0
        acceptedCount).length = acceptedCount := by
      rw [queuedBatch, length_map, length_range']
    have weight := weight_queuedBatch batch (batch.map (·.weight)).sum accepts
    have behind : Feeds s.journal _ (queuedBatch batch (batch.map (·.weight)).sum acceptedCount 0
      acceptedCount) := feeds_queuedBatch short follows
    rw [sent, State.buffering]
    generalize queuedBatch _ _ _ _ _ = queued at *
    have bytes : s.queuedBytes + (batch.map (·.weight)).sum =
        ((s.events ++ queued).map (·.weight)).sum := by
      rw [map_append, sum_append, weight, weighed]
    have reaches : attachment.lastBufferedSeq + acceptedCount =
        base + (s.events ++ queued).length := by
      rw [length_append, length, buffered, Nat.add_assoc]
    rw [buffered] at behind
    split
    · rw [State.overflow, if_neg running]
      refine ⟨bytes, fits, base, feeds.append behind, ready, ?_⟩
      rintro entry ⟨⟩
      exact ⟨reaches, nofun⟩
    · refine ⟨bytes, fits, base, feeds.append behind, ready, ?_⟩
      rintro other ⟨⟩
      refine ⟨reaches, fun _ => ?_⟩
      show attachment.lastBufferedSeq + acceptedCount = s.head + batch.length
      rw [atHead active]
      omega

theorem Fed.publish : Fed config ({ s with unpublished := rest, head := s.head + batch.length
      }.publishSharedAttachments config batch) := by
  by_cases active : ∃ attachment, s.attachment = some attachment ∧ attachment.active = true
  · obtain ⟨attachment, entry, active⟩ := active
    exact fed.publishShared session running next entry active
  · have idle (attachment : ActorAttachment) (entry : s.attachment = some attachment) :
        attachment.active = false :=
      Bool.eq_false_iff.mpr fun now => active ⟨attachment, entry, now⟩
    rw [publishSharedAttachments_idle
      (s := { s with unpublished := rest, head := s.head + batch.length }) idle]
    obtain ⟨weighed, within, base, feeds, ready, buffered⟩ := fed
    refine ⟨weighed, within, base, feeds, ready, ?_⟩
    intro attachment entry
    refine ⟨(buffered attachment entry).1, fun now => ?_⟩
    rw [idle attachment entry] at now
    cases now

end Publish

theorem Beside.publishShared (config : HubConfig) (s : State) (batch : List Envelope) :
    Beside s (s.publishSharedAttachments config batch) ∧
      (s.publishSharedAttachments config batch).phase = s.phase := by
  unfold State.publishSharedAttachments State.overflow
  cases s.attachment with
  | none => exact ⟨{}, rfl⟩
  | some attachment =>
    dsimp only
    repeat' split
    all_goals exact ⟨{}, rfl⟩

/-- The session, what was delivered, and the attachment while its task runs. -/
structure Sound (config : HubConfig) (afterSeq : Nat) (s : State) : Prop where
  session : Session s
  delivered : Delivered afterSeq s
  fed : s.phase ≠ .ended → Fed config s

theorem Fed.atHead {t : State} (events : t.events = []) (bytes : t.queuedBytes = 0)
    (entry : t.attachment = some ⟨t.head, true⟩)
    (ready : Ready t.journal t.head t.highWater t.phase t.lastSentSeq) : Fed config t := by
  refine ⟨?_, ?_, t.head, ?_, ready, ?_⟩
  · rw [events, bytes]
    rfl
  · rw [bytes]
    exact Nat.zero_le _
  · rw [events]
    exact Feeds.nil
  · intro attachment same
    rw [entry] at same
    cases same
    rw [events]
    exact ⟨rfl, fun _ => rfl⟩

end ActorSteps

section TaskSteps

variable {config : HubConfig} {s t : State} {afterSeq highWater : Nat} {before next : Phase}
  {frame : Frame}

theorem concat_eq_split {admitted before after : List Frame} {other : Frame}
    (split : admitted ++ [frame] = before ++ other :: after) :
    after = [] ∧ admitted = before ∧ frame = other ∨
      ∃ rest, after = rest ++ [frame] ∧ admitted = before ++ other :: rest := by
  rcases after.eq_nil_or_concat' with rfl | ⟨rest, last, rfl⟩
  · obtain ⟨early, late⟩ := append_inj' split rfl
    exact .inl ⟨rfl, early, cons.inj late |>.1⟩
  · rw [← cons_append, ← append_assoc] at split
    obtain ⟨early, late⟩ := append_inj' split rfl
    cases late
    exact .inr ⟨rest, rfl, early⟩

theorem isPrefix_concat {sent all : List Envelope} (here : sent <+: all)
    (next : all[sent.length]? = some e) : sent ++ [e] <+: all := by
  obtain ⟨rest, rfl⟩ := here
  rw [getElem?_append_right (Nat.le_refl _), Nat.sub_self] at next
  cases rest with
  | nil => cases next
  | cons first rest =>
    cases next
    exact ⟨rest, by simp⟩

theorem Delivered.event (delivered : Delivered afterSeq s) (session : Session s)
    (next : s.journal[s.lastSentSeq]? = some e) (phase : Phase) :
    Delivered afterSeq (s.delivered (.event e) phase) := by
  obtain ⟨unsealed, opened, events, count, announced⟩ := delivered
  have number := session.numbered _ e next
  have sent : (s.delivered (.event e) phase).sentEvents = s.sentEvents ++ [e] := by
    simp [State.delivered, State.sentEvents, Frame.event?]
  refine ⟨unsealed, ?_, ?_, ?_, ?_⟩
  · show afterSeq ≤ e.seq
    omega
  · rw [sent]
    apply isPrefix_concat events
    rw [getElem?_drop, count, Nat.add_sub_cancel' opened]
    exact next
  · rw [sent, length_append, count]
    show _ = e.seq - afterSeq
    simp only [length_singleton]
    omega
  · intro before through after split
    rcases concat_eq_split split with ⟨-, -, same⟩ | ⟨rest, -, earlier⟩
    · cases same
    · exact announced before through rest earlier

theorem Delivered.caughtUp {through : Nat} (delivered : Delivered afterSeq s)
    (reached : through ≤ s.lastSentSeq) (phase : Phase) :
    Delivered afterSeq (s.delivered (.caughtUp through) phase) := by
  obtain ⟨-, opened, events, count, announced⟩ := delivered
  have sent : (s.delivered (.caughtUp through) phase).sentEvents = s.sentEvents := by
    simp [State.delivered, State.sentEvents, Frame.event?]
  refine ⟨rfl, opened, ?_, ?_, ?_⟩
  · rw [sent]
    exact events
  · rw [sent]
    exact count
  · intro before head after split
    rcases concat_eq_split split with ⟨-, earlier, same⟩ | ⟨rest, -, earlier⟩
    · cases same
      have total : (before.filterMap Frame.event?).length = s.lastSentSeq - afterSeq := by
        rw [← count, State.sentEvents, earlier]
      omega
    · exact announced before head rest earlier

section

variable {journal : List Envelope} {base sent : Nat}

theorem ready_ticketed : Ready journal base highWater (.ticketed frame next) sent ↔
      Ready journal base highWater (.offering frame next) sent := by
  cases frame <;> exact Iff.rfl

theorem ready_waiting {lagOpen : Bool} :
    Ready journal base highWater (.waiting frame next lagOpen) sent ↔
      Ready journal base highWater (.offering frame next) sent := by
  cases frame <;> exact Iff.rfl

end

theorem isPrefix_fillPage (byteBudget : Nat) (first : Bool) (spent : Nat)
    (rows : List Envelope) : fillPage byteBudget first spent rows <+: rows := by
  induction rows generalizing first spent with
  | nil => exact prefix_rfl
  | cons e rest ih =>
    rw [fillPage]
    split
    · exact nil_prefix
    · split
      · exact prefix_append [e] rest
      · exact (prefix_cons_inj e).mpr (ih false _)

theorem Session.filter_after (session : Session s) (sinceSeq : Nat) :
    s.journal.filter (fun e => sinceSeq < e.seq) = s.journal.drop sinceSeq := by
  have early : (s.journal.take sinceSeq).filter (fun e => decide (sinceSeq < e.seq)) = [] := by
    refine filter_eq_nil_iff.mpr fun e mem => ?_
    obtain ⟨i, found⟩ := mem_iff_getElem?.mp mem
    rw [getElem?_take] at found
    split at found
    · have := session.numbered i e found
      rw [decide_eq_true_eq]
      omega
    · cases found
  have late : (s.journal.drop sinceSeq).filter (fun e => decide (sinceSeq < e.seq)) =
      s.journal.drop sinceSeq := by
    refine filter_eq_self.mpr fun e mem => ?_
    obtain ⟨i, found⟩ := mem_iff_getElem?.mp mem
    rw [getElem?_drop] at found
    have := session.numbered _ e found
    rw [decide_eq_true_eq]
    omega
  calc s.journal.filter (fun e => sinceSeq < e.seq)
      = (s.journal.take sinceSeq ++ s.journal.drop sinceSeq).filter
          (fun e => decide (sinceSeq < e.seq)) := by rw [take_append_drop]
    _ = s.journal.drop sinceSeq := by rw [filter_append, early, late, nil_append]

theorem Feeds.first {journal : List Envelope} {base : Nat} {rest : List QueuedEnvelope}
    (feeds : Feeds journal base (queued :: rest)) :
    ∃ e, queued.envelope? = some e ∧ journal[base]? = some e := by
  exact feeds 0 queued rfl

namespace Sound

variable (sound : Sound config afterSeq s)

include sound

theorem of_beside (beside : Beside s t) (fed : t.phase ≠ .ended → Fed config t)
    : Sound config afterSeq t :=
  ⟨sound.session.of_beside beside, sound.delivered.of_beside beside, fed⟩

theorem finish : Sound config afterSeq s.finish :=
  sound.of_beside {} fun running => absurd rfl running

theorem commit (drafts : List Draft) : Sound config afterSeq (s.commit drafts) := by
  obtain ⟨unsealed, opened, events, count, announced⟩ := sound.delivered
  refine ⟨sound.session.commit drafts, ⟨unsealed, opened, ?_, count, announced⟩, ?_⟩
  · exact isPrefix_drop_grow events
  · intro running
    obtain ⟨weighed, within, base, feeds, ready, buffered⟩ := sound.fed running
    exact ⟨weighed, within, base, feeds.grow, ready.grow, buffered⟩

theorem publish (published : s.publish config = some t) : Sound config afterSeq t := by
  unfold State.publish at published
  split at published
  · cases published
  · rename_i batch rest next
    cases published
    rw [sound.session.head_batch next]
    let headed : State := { s with unpublished := rest, head := s.head + batch.length }
    obtain ⟨beside, phase⟩ := Beside.publishShared config headed batch
    have delivered : Delivered afterSeq headed := { sound.delivered with }
    refine ⟨(sound.session.publish_head next).of_beside beside, delivered.of_beside beside, ?_⟩
    intro running
    rw [phase] at running
    exact (sound.fed running).publish sound.session running next

theorem register (registered : s.register = some t) : Sound config afterSeq t := by
  unfold State.register at registered
  split at registered
  · split at registered
    · cases registered
      exact sound.finish
    · cases registered
      refine sound.of_beside {} fun _ => ?_
      exact Fed.atHead rfl rfl rfl (.inr ⟨rfl, Nat.le_refl _⟩)
  · cases registered

theorem reregister (registered : s.reregister = some t) : Sound config afterSeq t := by
  unfold State.reregister at registered
  split at registered
  · rename_i resume phase
    split at registered
    · cases registered
      refine sound.of_beside {} fun _ => ?_
      refine Fed.atHead rfl rfl rfl ?_
      intro head same
      exact Nat.le_of_eq (Option.some.inj same)
    · rename_i gone
      cases registered
      refine sound.of_beside {} fun _ => ?_
      obtain ⟨weighed, within, base, feeds, -, buffered⟩ :=
        sound.fed (by rw [phase]; exact Phase.noConfusion)
      refine ⟨weighed, within, base, feeds, ?_, buffered⟩
      intro head same
      cases same
  · cases registered

variable {after : Phase}

theorem moved {lagged : LagWatch} (phase : s.phase = before) (running : before ≠ .ended)
    (ready : ∀ base, Ready s.journal base s.highWater before s.lastSentSeq →
      Ready s.journal base highWater after s.lastSentSeq) :
    Sound config afterSeq
      { s with phase := after, highWater := highWater, lagged := lagged } := by
  subst phase
  refine sound.of_beside {} fun _ => ?_
  obtain ⟨weighed, within, base, feeds, here, buffered⟩ := sound.fed running
  exact ⟨weighed, within, base, feeds, ready base here, buffered⟩

theorem deliver (phase : s.phase = before) (running : before ≠ .ended)
    (ready : ∀ base, Ready s.journal base s.highWater before s.lastSentSeq →
      Ready s.journal base s.highWater (.offering frame next) s.lastSentSeq) :
    Sound config afterSeq (s.delivered frame next) := by
  subst phase
  obtain ⟨weighed, within, base, feeds, here, buffered⟩ := sound.fed running
  have offered := ready base here
  cases frame with
  | event e =>
    obtain ⟨found, after⟩ := offered
    have number := sound.session.numbered _ e found
    refine ⟨{ sound.session with }, sound.delivered.event sound.session found next, fun _ => ?_⟩
    refine ⟨weighed, within, base, feeds, ?_, buffered⟩
    show Ready s.journal base s.highWater next e.seq
    rw [number]
    exact after
  | caughtUp through =>
    obtain ⟨reached, after⟩ := offered
    exact ⟨{ sound.session with }, sound.delivered.caughtUp reached next,
      fun _ => ⟨weighed, within, base, feeds, after, buffered⟩⟩

theorem offer {answer : SendAdmission} (offered : s.offer answer = some t)
    : Sound config afterSeq t := by
  unfold State.offer at offered
  split at offered
  · rename_i frame next phase
    split at offered
    · cases offered
      exact sound.finish
    · cases answer with
      | sent =>
        cases offered
        exact sound.deliver phase nofun fun _ here => here
      | refused =>
        cases offered
        exact sound.finish
      | busy =>
        cases offered
        exact sound.moved phase nofun fun _ here => ready_ticketed.mpr here
  · rename_i frame next phase
    cases answer with
    | sent =>
      cases offered
      exact sound.deliver phase nofun fun _ here => ready_ticketed.mp here
    | refused =>
      cases offered
      exact sound.finish
    | busy =>
      cases offered
      exact sound.moved phase nofun fun _ here => ready_waiting.mpr (ready_ticketed.mp here)
  · cases offered

theorem wake (woken : s.wake = some t) : Sound config afterSeq t := by
  unfold State.wake at woken
  split at woken
  · rename_i frame next lagOpen phase
    have again (base : Nat)
        (here : Ready s.journal base s.highWater (.waiting frame next lagOpen) s.lastSentSeq) :
        Ready s.journal base s.highWater (.ticketed frame next) s.lastSentSeq :=
      ready_ticketed.mpr (ready_waiting.mp here)
    split at woken
    · cases woken
      exact sound.finish
    · split at woken
      · split at woken
        · cases woken
          exact sound.finish
        · cases woken
          exact sound.moved phase nofun again
      · cases woken
        exact sound.moved phase nofun again
  · cases woken

variable {final : Bool} {target : Nat}

theorem replayRange (phase : s.phase = .replay final target) :
    Sound config afterSeq (s.replayRange final target) := by
  unfold State.replayRange
  split
  · split
    · exact sound.finish
    · exact sound.moved phase nofun fun _ here => here
  · rename_i reached
    have reached : target ≤ s.lastSentSeq := Nat.le_of_not_lt reached
    refine sound.moved phase nofun fun base here => ?_
    refine ⟨reached, ?_⟩
    cases final with
    | true => trivial
    | false =>
      rcases here with final | ⟨same, before⟩
      · cases final
      · subst same
        exact ⟨Nat.le_trans before reached, reached⟩

theorem pageArrived {page : Option (List Envelope)} (phase : s.phase = .arrived final target page) :
    Sound config afterSeq (s.pageArrived final target page) := by
  unfold State.pageArrived
  split
  · exact sound.finish
  · split
    · split
      · exact sound.finish
      · exact sound.moved phase nofun fun _ _ => trivial
    · split
      · exact sound.finish
      · exact sound.finish
      · rename_i rows _
        exact sound.moved phase nofun fun _ here =>
          ⟨here.1, ( takeWhile_prefix _).trans (here.2 rows rfl)⟩

/-- Sending from a replayed page keeps the attachment sound. -/
theorem replayPage {rest : List Envelope} (phase : s.phase = .page final target rest) :
    Sound config afterSeq (s.replayPage final target rest) := by
  cases rest with
  | nil =>
    exact sound.moved phase nofun fun _ here => here.1
  | cons e rest =>
    rw [State.replayPage]
    -- the page starts right after the cursor
    have starts (base : Nat)
        (here : Ready s.journal base s.highWater (.page final target (e :: rest)) s.lastSentSeq) :
        Replays base s.highWater final target ∧ s.journal[s.lastSentSeq]? = some e ∧
          rest <+: s.journal.drop (s.lastSentSeq + 1) := by
      obtain ⟨replays, more, split⟩ := here
      have next : s.journal.drop s.lastSentSeq = e :: (rest ++ more) := split.symm
      refine ⟨replays, ?_, more, ?_⟩
      · have first := congrArg (fun all : List Envelope => all[0]?) next
        rwa [getElem?_drop, Nat.add_zero] at first
      · rw [← drop_drop, next]
        rfl
    split
    · exact sound.finish
    · split
      · rename_i sent
        obtain ⟨-, -, base, -, here, -⟩ := sound.fed (by simp [phase])
        rw [phase] at here
        have number := sound.session.numbered _ e (starts base here).2.1
        omega
      · split
        · rename_i seals
          rw [sound.delivered.unsealed, Bool.false_and] at seals
          cases seals
        · refine sound.moved phase nofun fun base here => ?_
          obtain ⟨replays, next, behind⟩ := starts base here
          exact ⟨next, replays, behind⟩

variable {answers : Bool}

theorem read (read : s.read config answers = some t) : Sound config afterSeq t := by
  unfold State.read at read
  split at read
  · rename_i final target phase
    cases read
    refine sound.moved phase nofun fun base here => ?_
    refine ⟨here, ?_⟩
    intro rows same
    split at same
    · cases same
      unfold readPage
      rw [sound.session.filter_after]
      exact (isPrefix_fillPage _ _ _ _).trans ( take_prefix _ _)
    · cases same
  · cases read

/-- While the channel starts by the cursor, an entry is known to the client or the next envelope. -/
theorem receive {rest : List QueuedEnvelope} (phase : s.phase = before) (running : before ≠ .ended)
    (entries : s.events = queued :: rest)
    (below : ∀ base, Ready s.journal base s.highWater before s.lastSentSeq → base ≤ s.lastSentSeq)
    (goes : ∀ base sent, base ≤ sent → s.lastSentSeq ≤ sent →
      Ready s.journal base s.highWater after sent) :
    Sound config afterSeq (s.receive queued rest s.lastSentSeq after) := by
  subst phase
  obtain ⟨weighed, within, base, feeds, here, buffered⟩ := sound.fed running
  rw [entries] at feeds weighed buffered
  obtain ⟨e, entry, found⟩ := feeds.first
  have number := sound.session.numbered _ e found
  have start := below base here
  have credit : s.queuedBytes - queued.weight = (rest.map (·.weight)).sum := by
    rw [weighed, map_cons, sum_cons, Nat.add_sub_cancel_left]
  have bytes : s.queuedBytes - queued.weight ≤ config.catchUpByteBudget :=
    Nat.le_trans (Nat.sub_le _ _) within
  have last (attachment : ActorAttachment) (same : s.attachment = some attachment) :
      attachment.lastBufferedSeq = base + 1 + rest.length ∧
        (attachment.active = true → attachment.lastBufferedSeq = s.head) := by
    obtain ⟨length, atHead⟩ := buffered attachment same
    rw [length_cons] at length
    exact ⟨by omega, atHead⟩
  unfold State.receive
  rw [entry]
  dsimp only
  split
  · rename_i old
    have kept : base + 1 ≤ s.lastSentSeq := by omega
    refine sound.of_beside {} fun _ => ?_
    exact ⟨credit, bytes, base + 1, feeds.tail, goes _ _ kept (Nat.le_refl _), last⟩
  · rename_i new
    have same : s.lastSentSeq = base := by omega
    refine sound.of_beside {} fun _ => ?_
    refine ⟨credit, bytes, base + 1, feeds.tail, ⟨?_, ?_⟩, last⟩
    · show s.journal[s.lastSentSeq]? = some e
      rw [same]
      exact found
    · show Ready s.journal (base + 1) s.highWater after (s.lastSentSeq + 1)
      exact goes _ _ (by omega) (Nat.le_succ _)

theorem drain (phase : s.phase = .drain) : Sound config afterSeq s.drain := by
  obtain ⟨-, -, base, -, here, -⟩ := sound.fed (by simp [phase])
  rw [phase] at here
  have reached : s.highWater ≤ s.lastSentSeq := here.2
  unfold State.drain
  split
  · exact sound.finish
  · split
    · rename_i queued rest entries
      rw [Nat.max_eq_left reached]
      refine sound.receive phase nofun entries (fun _ here => here.1) ?_
      intro base sent below above
      exact ⟨below, Nat.le_trans reached above⟩
    · split
      · unfold State.afterDrain
        rw [if_neg (Nat.not_lt.mpr reached)]
        exact sound.moved phase nofun fun _ here => here.1
      · split
        · exact sound.moved phase nofun fun _ _ => trivial
        · exact sound.finish

theorem live (phase : s.phase = .live) (moved : s.live = some t) : Sound config afterSeq t := by
  unfold State.live at moved
  split at moved
  · cases moved
    exact sound.finish
  · split at moved
    · rename_i queued rest entries
      cases moved
      exact sound.receive phase nofun entries (fun _ here => here) fun _ _ below _ => below
    · split at moved
      · cases moved
      · split at moved
        · cases moved
          exact sound.moved phase nofun fun _ _ => trivial
        · cases moved
          exact sound.finish

theorem lagArm (moved : s.lagArm = some t) : Sound config afterSeq t := by
  unfold State.lagArm at moved
  split at moved
  · rename_i phase
    split at moved
    · cases moved
      exact sound.finish
    · split at moved
      · dsimp only at moved
        split at moved
        · cases moved
          exact sound.moved phase nofun fun _ _ => trivial
        · cases moved
          exact sound.moved phase nofun fun _ here => by rwa [phase]
      · cases moved
  · cases moved

theorem reregistered {resume : Resume} {reply : Option Nat}
    (phase : s.phase = .reregistered resume reply) :
    Sound config afterSeq (s.reregistered resume reply) := by
  cases reply with
  | none => exact sound.moved phase nofun fun _ _ => trivial
  | some nextHead =>
    have starts (base : Nat) (here : ∀ head, some nextHead = some head → base ≤ head) :
        base ≤ nextHead := here nextHead rfl
    cases resume with
    | replay | live =>
      exact sound.moved phase nofun fun base here => .inr ⟨rfl, starts base here⟩
    | drain =>
      show Sound config afterSeq { s with highWater := nextHead }.afterDrain
      unfold State.afterDrain
      split
      · exact sound.moved phase nofun fun base here => .inr ⟨rfl, starts base here⟩
      · rename_i reached
        refine sound.moved phase nofun fun base here => ?_
        exact Nat.le_trans (starts base here) (Nat.le_of_not_lt reached)

theorem finalSuffix (moved : s.finalSuffix answers = some t) : Sound config afterSeq t := by
  unfold State.finalSuffix at moved
  split at moved
  · rename_i phase
    split at moved
    · cases moved
      exact sound.finish
    · cases moved
      refine sound.moved phase nofun fun _ _ => ?_
      exact .inl rfl
  · cases moved

theorem advance (moved : s.advance = some t) : Sound config afterSeq t := by
  unfold State.advance at moved
  split at moved
  · cases moved
    exact sound.replayRange (by assumption)
  · cases moved
    exact sound.pageArrived (by assumption)
  · cases moved
    exact sound.replayPage (by assumption)
  · cases moved
    exact sound.drain (by assumption)
  · exact sound.live (by assumption) moved
  · cases moved
    exact sound.reregistered (by assumption)
  · cases moved
    exact sound.finish
  · cases moved

/-- Every action keeps the attachment sound. -/
theorem step {action : Action} (stepped : s.step config action = some t)
    : Sound config afterSeq t := by
  cases action with
  | commit drafts =>
    cases stepped
    exact sound.commit drafts
  | publish => exact sound.publish stepped
  | register => exact sound.register stepped
  | reregister => exact sound.reregister stepped
  | remove =>
    cases stepped
    refine sound.of_beside {} fun running => ?_
    obtain ⟨weighed, within, base, feeds, ready, -⟩ := sound.fed running
    refine ⟨weighed, within, base, feeds, ready, ?_⟩
    intro attachment same
    cases same
  | cancel | dropCancel =>
    cases stepped
    exact sound.of_beside {} fun running =>
      { sound.fed running with }
  | advance => exact sound.advance stepped
  | read answers => exact sound.read stepped
  | latestSeq answers => exact sound.finalSuffix stepped
  | offer answer => exact sound.offer stepped
  | wake => exact sound.wake stepped
  | lag => exact sound.lagArm stepped
  | stop =>
    cases stepped
    exact sound.finish

end Sound

theorem sound_opening (config : HubConfig) (afterSeq : Nat) :
    Sound config afterSeq (.opening afterSeq false) := by
  refine ⟨⟨?_, Nat.le_refl _, rfl⟩, ⟨rfl, Nat.le_refl _, nil_prefix, ?_, ?_⟩, ?_⟩
  · intro i e found
    simp [State.opening] at found
  · show 0 = afterSeq - afterSeq
    omega
  · intro before through after split
    have nothing : ([] : List Frame) = before ++ .caughtUp through :: after := split
    simp at nothing
  · intro _
    refine ⟨rfl, Nat.zero_le _, 0, Feeds.nil, trivial, ?_⟩
    intro attachment same
    cases same

theorem sound_of_run {actions : List Action}
    (ran : Machine.run (State.step config) (.opening afterSeq false) actions = some s) :
    Sound config afterSeq s :=
  Machine.invariant (P := Sound config afterSeq) (fun _ _ _ sound stepped => sound.step stepped)
    (sound_opening config afterSeq) ran

theorem Session.map_seq {sent : List Envelope} (session : Session s)
    (here : sent <+: s.journal.drop afterSeq) :
    sent.map (·.seq) = range' (afterSeq + 1) sent.length := by
  obtain ⟨rest, split⟩ := here
  apply ext_getElem?
  intro i
  rw [getElem?_map]
  rcases Nat.lt_or_ge i sent.length with inside | outside
  · have found : s.journal[afterSeq + i]? = some sent[i] := by
      rw [← getElem?_drop, ← split, getElem?_append_left inside,
        getElem?_eq_getElem inside]
    have number := session.numbered _ _ found
    rw [getElem?_eq_getElem inside, getElem?_range' inside, Option.map_some, number]
    congr 1
    omega
  · rw [getElem?_eq_none outside, getElem?_eq_none, Option.map_none]
    rwa [length_range']

/-- In every run of a session and an unsealed attachment opened after `afterSeq`, the events the
sink admits are the committed envelopes `afterSeq + 1`, `afterSeq + 2` and so on; a head is
announced only after all of them up to it; and while the task runs the ledger is the weight of
the queued entries and within the budget. -/
theorem attachment_delivery_gap_free {actions : List Action}
    (ran : Machine.run (State.step config) (.opening afterSeq false) actions = some s) :
    s.sentEvents.map (·.seq) = range' (afterSeq + 1) s.sentEvents.length ∧
      s.sentEvents <+: s.journal.drop afterSeq ∧
      (∀ before through after, s.admitted = before ++ .caughtUp through :: after →
        ∀ seq, afterSeq < seq → seq ≤ through →
          seq ∈ (before.filterMap Frame.event?).map (·.seq)) ∧
      (s.phase ≠ .ended → s.queuedBytes = (s.events.map (·.weight)).sum ∧
        s.queuedBytes ≤ config.catchUpByteBudget) := by
  have sound := sound_of_run ran
  refine ⟨sound.session.map_seq sound.delivered.events, sound.delivered.events, ?_, ?_⟩
  · intro before through after split seq above below
    have reached := sound.delivered.announced before through after split
    have early : before.filterMap Frame.event? <+: s.journal.drop afterSeq := by
      refine List.IsPrefix.trans ?_ sound.delivered.events
      unfold State.sentEvents
      rw [split, filterMap_append]
      exact prefix_append _ _
    rw [sound.session.map_seq early, mem_range'_1]
    omega
  · intro running
    exact ⟨(sound.fed running).weighed, (sound.fed running).within⟩

/-- A batch of two overflows a channel of one; its second comes from the store later. -/
def overflowResumed : List Action :=
  [.commit [⟨5, false, "one"⟩], .publish, .register, .advance, .read true, .advance,
    .commit [⟨6, false, "two"⟩, ⟨7, false, "three"⟩], .publish,
    .advance, .offer .busy, .offer .sent, .advance, .advance, .offer .sent,
    .advance, .offer .sent, .advance, .lag, .reregister,
    .advance, .advance, .read true, .advance, .advance, .offer .sent]

theorem attachment_delivery_gap_free_overflowResumed :
    ∃ s, Machine.run (State.step ⟨1, 100, 10, 1000⟩) (.opening 0 false) overflowResumed = some s ∧
      s.sentEvents.length = 3 ∧ s.sentEvents.map (·.seq) = range' 1 3 := by
  have runs : (Machine.run (State.step ⟨1, 100, 10, 1000⟩) (.opening 0 false)
      overflowResumed).any (fun s => s.sentEvents.length = 3) = true := by
    decide +kernel
  obtain ⟨s, ran, sent⟩ := (Option.any_eq_true _ _).mp runs
  have count : s.sentEvents.length = 3 := of_decide_eq_true sent
  refine ⟨s, ran, count, ?_⟩
  have numbers := (attachment_delivery_gap_free ran).1
  rwa [count] at numbers

end TaskSteps

section Resume

variable {config : HubConfig} {s t : State} {afterSeq : Nat}

/-- The cursor a client resumes with: the number of the last event it got. -/
def State.resumeSeq (s : State) (afterSeq : Nat) : Nat :=
  (s.sentEvents.getLast?.map (·.seq)).getD afterSeq

theorem Sound.resumeSeq_eq (sound : Sound config afterSeq s) :
    s.resumeSeq afterSeq = afterSeq + s.sentEvents.length := by
  have numbers := sound.session.map_seq sound.delivered.events
  rw [State.resumeSeq, ← getLast?_map, numbers, getLast?_range']
  cases s.sentEvents <;> simp [Nat.add_comm, Nat.add_left_comm]

/-- A client that attaches again after the last event it got, to the same or a later journal and
under whatever settings, has in the end got what one attachment would have sent. -/
theorem resumed_attachment_gap_free {resettled : HubConfig} {before after : List Action}
    (ran : Machine.run (State.step config) (.opening afterSeq false) before = some s)
    (resumed : Machine.run (State.step resettled) (.opening (s.resumeSeq afterSeq) false) after =
      some t) (grown : s.journal <+: t.journal) :
    s.sentEvents ++ t.sentEvents <+: t.journal.drop afterSeq ∧
      (s.sentEvents ++ t.sentEvents).map (·.seq) =
        range' (afterSeq + 1) (s.sentEvents ++ t.sentEvents).length := by
  have early := sound_of_run ran
  have late := sound_of_run resumed
  rw [early.resumeSeq_eq] at late
  obtain ⟨rest, split⟩ := early.delivered.events.trans (IsPrefix.drop grown afterSeq)
  have tail := late.delivered.events
  rw [← drop_drop, ← split, drop_left] at tail
  have whole : s.sentEvents ++ t.sentEvents <+: t.journal.drop afterSeq := by
    rw [← split]
    exact (prefix_append_right_inj _).mpr tail
  exact ⟨whole, late.session.map_seq whole⟩

/-- A later journal, attached to after its third event. -/
def fourthReplayed : List Action :=
  [.commit [⟨5, false, "one"⟩, ⟨6, false, "two"⟩, ⟨7, false, "three"⟩, ⟨8, false, "four"⟩],
    .publish, .register, .advance, .read true, .advance, .advance, .offer .sent]

theorem resumed_attachment_gap_free_fourth :
    ∃ s t : State, s.sentEvents.length = 3 ∧ t.sentEvents.length = 1 ∧
      (s.sentEvents ++ t.sentEvents).map (·.seq) =
        range' 1 (s.sentEvents ++ t.sentEvents).length := by
  have runs : ((Machine.run (State.step ⟨1, 100, 10, 1000⟩) (.opening 0 false)
      overflowResumed).any fun s => (Machine.run (State.step ⟨1, 100, 10, 1000⟩)
        (.opening (s.resumeSeq 0) false) fourthReplayed).any fun t =>
          s.sentEvents.length = 3 ∧ t.sentEvents.length = 1 ∧ s.journal <+: t.journal) = true := by
    decide +kernel
  obtain ⟨s, ran, runs⟩ := (Option.any_eq_true _ _).mp runs
  obtain ⟨t, resumed, facts⟩ := (Option.any_eq_true _ _).mp runs
  obtain ⟨three, one, grown⟩ := of_decide_eq_true facts
  exact ⟨s, t, three, one, (resumed_attachment_gap_free ran resumed grown).2⟩

end Resume

end HaiderAgent.Attach
