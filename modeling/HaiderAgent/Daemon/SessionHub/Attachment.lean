import HaiderAgent.Lib.Log
import HaiderAgent.Lib.Machine
import HaiderAgent.Protocol.Basic

/-!
# One attachment of a session

How the committed envelopes of a session reach one attached client. The session actor
(`session_hub/actor.rs`) fans every committed batch out to the attachment's bounded channel; the
attachment's task (`run_replay`, `session_hub/replay.rs`) replays the store, announces the
high-water mark, drains the channel, goes live, and registers anew after an overflow. A step is what
one of the two does between awaits; what the store, the sink and the scheduler answer is its input.
-/

namespace HaiderAgent.Attach

section Data

/-- What is committed, as far as delivery reads it: its weight (`envelope_weight_bytes`) and
whether it is an item delta (`is_item_delta`). The weights estimate resident memory, so their
saturating sums are plain ones. -/
structure Draft where
  weight : Nat
  itemDelta : Bool
  payload : Json
  deriving DecidableEq, Repr

/-- `RawEnvelope`. -/
structure Envelope extends Draft where
  seq : Nat
  deriving DecidableEq, Repr

/-- A committed draft under its number. -/
def Draft.stamp (seq : Nat) (draft : Draft) : Envelope := { draft with seq := seq }

/-- `QueuedEnvelope`: one index of a shared batch; the last one carries the batch's weight. -/
structure QueuedEnvelope where
  weight : Nat
  envelopes : List Envelope
  index : Nat
  deriving DecidableEq, Repr

/-- The envelope a queue entry points at. -/
def QueuedEnvelope.envelope? (queued : QueuedEnvelope) : Option Envelope :=
  queued.envelopes[queued.index]?

/-- `ActorAttachment` without its channel ends. -/
structure ActorAttachment where
  lastBufferedSeq : Nat
  active : Bool
  deriving DecidableEq, Repr

/-- The lag channel: its value, and whether the task has not seen the last change of it. -/
structure LagWatch where
  value : Option Nat
  unseen : Bool
  deriving DecidableEq, Repr

/-- The settings of the hub that delivery depends on. -/
structure HubConfig where
  catchUpCapacity : Nat
  catchUpByteBudget : Nat
  replayPageSize : Nat
  replayPageByteBudget : Nat
  deriving DecidableEq, Repr

/-- `SendAdmission` (mod.rs): how a sink answered a frame. -/
inductive SendAdmission where
  | sent | busy | refused
  deriving DecidableEq, Repr

/-- The frames an attachment is paced with. -/
inductive Frame where
  | event (envelope : Envelope)
  | caughtUp (highWaterSeq : Nat)
  deriving DecidableEq, Repr

/-- Where `run_replay` asked for a new registration. -/
inductive Resume where
  | replay | drain | live
  deriving DecidableEq, Repr

/-- Where the task of an attachment is; `final` marks the replay of `final_suffix_resume`. -/
inductive Phase where
  | registering
  | replay (final : Bool) (target : Nat)
  | reading (final : Bool) (target : Nat)
  | arrived (final : Bool) (target : Nat) (page : Option (List Envelope))
  | page (final : Bool) (target : Nat) (rest : List Envelope)
  | offering (frame : Frame) (next : Phase)
  | ticketed (frame : Frame) (next : Phase)
  | waiting (frame : Frame) (next : Phase) (lagOpen : Bool)
  | drain
  | live
  | reregistering (resume : Resume)
  | reregistered (resume : Resume) (reply : Option Nat)
  | finalSuffix
  | returning
  | ended
  deriving DecidableEq, Repr

/-- The session and one attachment. `events`, `lagged` and `queuedBytes` are the channels and
the ledger the two parties share; the senders live as long as the actor's entry. -/
structure State where
  journal : List Envelope
  unpublished : List (List Envelope)
  head : Nat
  attachment : Option ActorAttachment
  events : List QueuedEnvelope
  lagged : LagWatch
  queuedBytes : Nat
  cancelRaised : Bool
  cancelClosed : Bool
  phase : Phase
  lastSentSeq : Nat
  highWater : Nat
  sealReplay : Bool
  admitted : List Frame
  deriving DecidableEq, Repr

/-- A session without envelopes, and an attachment about to be registered. -/
def State.opening (afterSeq : Nat) (sealedReplay : Bool) : State where
  journal := []
  unpublished := []
  head := 0
  attachment := none
  events := []
  lagged := ⟨none, false⟩
  queuedBytes := 0
  cancelRaised := false
  cancelClosed := false
  phase := .registering
  lastSentSeq := afterSeq
  highWater := 0
  sealReplay := sealedReplay
  admitted := []

/-- The end of an attachment. -/
def State.finish (s : State) : State := { s with phase := .ended, events := [] }

end Data

section Actor

variable (s : State)

/-- `SELECT MAX(seq)` of the session. -/
def State.latestSeq : Nat := Log.head (·.seq) s.journal

/-- The store commits a batch, which the actor has then to publish. -/
def State.commit (drafts : List Draft) : State :=
  let batch := Log.number Draft.stamp (s.latestSeq + 1) drafts
  { s with journal := s.journal ++ batch, unpublished := s.unpublished ++ [batch] }

/-- A full receiver: inactive, and the last buffered `seq` goes out; without one, orphaned. -/
def State.overflow (attachment : ActorAttachment) : State :=
  if s.phase = .ended then { s with attachment := none }
  else
    { s with
      attachment := some { attachment with active := false }
      lagged := ⟨some attachment.lastBufferedSeq, true⟩ }

/-- The send loop from an index on: the queue, the last buffered `seq`, and where it stopped. -/
def trySendEach (capacity : Nat) (closed : Bool) (batch : List Envelope)
    (batchWeight acceptedCount : Nat) :
    Nat → List Envelope → List QueuedEnvelope → Nat → List QueuedEnvelope × Nat × Option Nat
  | _, [], events, buffered => (events, buffered, none)
  | index, envelope :: rest, events, buffered =>
    if closed || decide (capacity ≤ events.length) then (events, buffered, some index)
    else
      let weight := if index + 1 = acceptedCount then batchWeight else 0
      trySendEach capacity closed batch batchWeight acceptedCount (index + 1) rest
        (events ++ [⟨weight, batch, index⟩]) envelope.seq

/-- `publish_shared_attachments` for this attachment. -/
def State.publishSharedAttachments (config : HubConfig) (s : State) (batch : List Envelope) :
    State :=
  match s.attachment with
  | none => s
  | some attachment =>
    if !attachment.active then s
    else
      let batchWeight := (batch.map (·.weight)).sum
      if config.catchUpByteBudget < s.queuedBytes + batchWeight then s.overflow attachment
      else
        let acceptedCount := min batch.length (config.catchUpCapacity - s.events.length)
        if acceptedCount = 0 then s.overflow attachment
        else
          let closed := decide (s.phase = .ended)
          let (events, buffered, failed) :=
            trySendEach config.catchUpCapacity closed batch batchWeight acceptedCount 0
              (batch.take acceptedCount) s.events attachment.lastBufferedSeq
          let attachment := { attachment with lastBufferedSeq := buffered }
          let charged :=
            { s with
              events := events
              attachment := some attachment
              queuedBytes := s.queuedBytes + batchWeight }
          match failed with
          | none => if acceptedCount < batch.length then charged.overflow attachment else charged
          | some index =>
            let refunded :=
              if index = 0 then { charged with queuedBytes := charged.queuedBytes - batchWeight }
              else charged
            if closed then { refunded with attachment := none } else refunded.overflow attachment

/-- The actor publishes the oldest batch it has not published, and moves its head past it. -/
def State.publish (config : HubConfig) (s : State) : Option State :=
  match s.unpublished with
  | [] => none
  | batch :: rest =>
    let head := (batch.getLast?.map (·.seq)).getD s.head
    some ({ s with unpublished := rest, head := head }.publishSharedAttachments config batch)

/-- A registration at the head: a fresh channel, a fresh lag channel and an empty ledger. -/
def State.atHead : State :=
  { s with
    attachment := some ⟨s.head, true⟩
    events := []
    lagged := ⟨none, false⟩
    queuedBytes := 0 }

/-- `ActorCommand::Register`; the task starts with what it answers. -/
def State.register : Option State :=
  match s.phase with
  | .registering =>
    if s.head < s.lastSentSeq then some s.finish
    else some { s.atHead with highWater := s.head, phase := .replay false s.head }
  | _ => none

/-- `ActorCommand::Reregister`; no entry, or no actor, answers nothing. -/
def State.reregister : Option State :=
  match s.phase with
  | .reregistering resume =>
    match s.attachment with
    | some _ => some { s.atHead with phase := .reregistered resume (some s.head) }
    | none => some { s with phase := .reregistered resume none }
  | _ => none

end Actor

section Task

/-- The row loop of `read_page`: the budget ends a page, but not before its first envelope. -/
def fillPage (byteBudget : Nat) : Bool → Nat → List Envelope → List Envelope
  | _, _, [] => []
  | first, spent, envelope :: rest =>
    if !first && decide (byteBudget < spent + envelope.weight) then []
    else if byteBudget ≤ spent + envelope.weight then [envelope]
    else envelope :: fillPage byteBudget false (spent + envelope.weight) rest

/-- `read_page`: at least one envelope, then as many as the budgets allow. -/
def readPage (journal : List Envelope) (sinceSeq maxEnvelopes byteBudget : Nat) : List Envelope :=
  fillPage byteBudget true 0 ((journal.filter fun e => sinceSeq < e.seq).take maxEnvelopes)

variable (s : State)

/-- The `while` of `replay_range`: read on, or announce the head it has reached. -/
def State.replayRange (final : Bool) (target : Nat) : State :=
  if s.lastSentSeq < target then
    if s.cancelRaised || s.cancelClosed then s.finish
    else { s with phase := .reading final target }
  else
    { s with
      phase := .offering (.caughtUp target) (if final then .returning else .drain) }

/-- A page has arrived. A closed lag channel is no lag. -/
def State.pageArrived (final : Bool) (target : Nat) (page : Option (List Envelope)) : State :=
  if s.cancelRaised || s.cancelClosed then s.finish
  else if s.attachment.isSome && s.lagged.value.isSome then
    if final then s.finish else { s with phase := .reregistering .replay }
  else
    match page with
    | none | some [] => s.finish
    | some page => { s with phase := .page final target (page.takeWhile (·.seq ≤ target)) }

/-- The `for` of `replay_range`. -/
def State.replayPage (final : Bool) (target : Nat) : List Envelope → State
  | [] => { s with phase := .replay final target }
  | envelope :: rest =>
    if s.cancelRaised then s.finish
    else if envelope.seq ≤ s.lastSentSeq then { s with phase := .page final target rest }
    else if s.sealReplay && envelope.itemDelta then
      { s with lastSentSeq := envelope.seq, phase := .page final target rest }
    else { s with phase := .offering (.event envelope) (.page final target rest) }

/-- The sink has admitted a frame: the cursor moves, the first head ends the sealed replay. -/
def State.delivered (frame : Frame) (next : Phase) : State :=
  match frame with
  | .event envelope =>
    { s with
      admitted := s.admitted ++ [frame]
      lastSentSeq := envelope.seq
      phase := next }
  | .caughtUp _ =>
    { s with admitted := s.admitted ++ [frame], sealReplay := false, phase := next }

/-- The offers of `deliver_prepared_frame`; a frame that is not delivered ends the task. -/
def State.offer (answer : SendAdmission) : Option State :=
  match s.phase with
  | .offering frame next =>
    if s.cancelRaised then some s.finish
    else
      match answer with
      | .sent => some (s.delivered frame next)
      | .refused => some s.finish
      | .busy => some { s with phase := .ticketed frame next }
  | .ticketed frame next =>
    match answer with
    | .sent => some (s.delivered frame next)
    | .refused => some s.finish
    | .busy => some { s with phase := .waiting frame next s.attachment.isSome }
  | _ => none

/-- The `select!` of `deliver_prepared_frame`: cancellation, lag behind a busy sink, the ticket. -/
def State.wake : Option State :=
  match s.phase with
  | .waiting frame next lagOpen =>
    if s.cancelRaised || s.cancelClosed then some s.finish
    else if lagOpen && s.lagged.unseen then
      if s.lagged.value.isSome then some s.finish
      else
        some
          { s with lagged := { s.lagged with unseen := false }, phase := .ticketed frame next }
    else some { s with phase := .ticketed frame next }
  | _ => none

/-- Take an entry off the channel and credit its weight (`credit_catch_up`). -/
def State.received (queued : QueuedEnvelope) (rest : List QueuedEnvelope) : State :=
  { s with events := rest, queuedBytes := s.queuedBytes - queued.weight }

/-- What is done with a received entry: an envelope the client has is dropped. -/
def State.receive (queued : QueuedEnvelope) (rest : List QueuedEnvelope) (known : Nat)
    (phase : Phase) : State :=
  match queued.envelope? with
  | none => (s.received queued rest).finish
  | some envelope =>
    if envelope.seq ≤ known then { s.received queued rest with phase := phase }
    else { s.received queued rest with phase := .offering (.event envelope) phase }

/-- After the buffered drain: a head raised meanwhile is replayed before going live. -/
def State.afterDrain : State :=
  if s.lastSentSeq < s.highWater then { s with phase := .replay false s.highWater }
  else { s with phase := .live }

/-- The buffered drain. -/
def State.drain (s : State) : State :=
  if s.cancelRaised then s.finish
  else
    match s.events with
    | queued :: rest => s.receive queued rest (max s.lastSentSeq s.highWater) .drain
    | [] =>
      if s.attachment.isSome then s.afterDrain
      else if s.lagged.value.isSome then { s with phase := .reregistering .drain }
      else s.finish

/-- The events arm of the live `select!`; it waits while the channel is open and empty. -/
def State.live (s : State) : Option State :=
  if s.cancelRaised || s.cancelClosed then some s.finish
  else
    match s.events with
    | queued :: rest => some (s.receive queued rest s.lastSentSeq .live)
    | [] =>
      if s.attachment.isSome then none
      else if s.lagged.value.isSome then some { s with phase := .finalSuffix }
      else some s.finish

/-- The lag arm of the live `select!`; it may win over the events arm. -/
def State.lagArm : Option State :=
  match s.phase with
  | .live =>
    if s.cancelRaised || s.cancelClosed then some s.finish
    else if s.lagged.unseen then
      let seen := { s with lagged := { s.lagged with unseen := false } }
      if s.lagged.value.isSome then some { seen with phase := .reregistering .live }
      else some seen
    else none
  | _ => none

/-- The answer of `reregister`. -/
def State.reregistered (resume : Resume) : Option Nat → State
  | none => { s with phase := .finalSuffix }
  | some nextHead =>
    match resume with
    | .drain => { s with highWater := nextHead }.afterDrain
    | .replay | .live => { s with highWater := nextHead, phase := .replay false nextHead }

/-- `final_suffix_resume` up to its replay: the durable head, if the store answers. -/
def State.finalSuffix (s : State) (answers : Bool) : Option State :=
  match s.phase with
  | .finalSuffix =>
    if !answers || decide (s.latestSeq ≤ s.lastSentSeq) then some s.finish
    else some { s with phase := .replay true s.latestSeq }
  | _ => none

/-- The store reads a page for the task, or fails. -/
def State.read (config : HubConfig) (s : State) (answers : Bool) : Option State :=
  match s.phase with
  | .reading final target =>
    let page := readPage s.journal s.lastSentSeq config.replayPageSize config.replayPageByteBudget
    some { s with phase := .arrived final target (if answers then some page else none) }
  | _ => none

/-- The steps of `run_replay` that need no answer. -/
def State.advance : Option State :=
  match s.phase with
  | .replay final target => some (s.replayRange final target)
  | .arrived final target page => some (s.pageArrived final target page)
  | .page final target rest => some (s.replayPage final target rest)
  | .drain => some s.drain
  | .live => s.live
  | .reregistered resume reply => some (s.reregistered resume reply)
  | .returning => some s.finish
  | _ => none

end Task

section Steps

/-- What happens to a session and one attachment. -/
inductive Action where
  | commit (drafts : List Draft)
  | publish
  | register
  | reregister
  | remove
  | cancel
  | dropCancel
  | advance
  | read (answers : Bool)
  | latestSeq (answers : Bool)
  | offer (answer : SendAdmission)
  | wake
  | lag
  | stop
  deriving DecidableEq, Repr

/-- One step; `remove` is a detach, a shutdown or the actor's end, `stop` drops the task. -/
def State.step (config : HubConfig) (s : State) : Action → Option State
  | .commit drafts => some (s.commit drafts)
  | .publish => s.publish config
  | .register => s.register
  | .reregister => s.reregister
  | .remove => some { s with attachment := none }
  | .cancel => some { s with cancelRaised := true }
  | .dropCancel => some { s with cancelClosed := true }
  | .advance => s.advance
  | .read answers => s.read config answers
  | .latestSeq answers => s.finalSuffix answers
  | .offer answer => s.offer answer
  | .wake => s.wake
  | .lag => s.lagArm
  | .stop => some s.finish

end Steps

end HaiderAgent.Attach
