import Mathlib.Data.List.Nodup
import HaiderAgent.Lib.Log
import HaiderAgent.Protocol.Envelope

/-!
# Turn control: the facts and the journal

The facts the turn commands of `haider-store/src/event_store.rs` commit and read. The journal stamps
a batch at its head and refuses an event id it already holds (`event_id TEXT NOT NULL UNIQUE`).
-/

namespace HaiderAgent.Turns

/-- `DeliveryMode` (lib.rs). -/
inductive DeliveryMode where
  | steer | queue | subturn
  deriving DecidableEq, Repr

/-- `AttachmentBlock` (`tool.rs`), only copied and compared. -/
abbrev AttachmentBlock := Json

/-- `QueueRow` (queue.rs). -/
structure QueueRow where
  id : EventId
  text : String
  mode : DeliveryMode
  ordinal : Nat
  createdAtMs : Nat
  deriving DecidableEq, Repr

/-- `QueueChange` (queue.rs). -/
inductive QueueChange where
  | enqueued (row : QueueRow)
  | removed (id : EventId)
  | promotedSteer (id : EventId)
  | consumed (id : EventId)
  | unknown
  deriving DecidableEq, Repr

/-- `QueueDelta` (queue.rs). -/
structure QueueDelta where
  revision : Nat
  change : QueueChange
  deriving DecidableEq, Repr

/-- `PromptRetractedV1` (`retraction.rs`). -/
structure PromptRetracted where
  promptSeq : Nat
  promptNodeId : NodeId
  text : String
  attachments : List AttachmentBlock
  deriving DecidableEq, Repr

/-- The payloads the turn commands and the prompt compiler open. `runState` carries the
`reason` key that arbitration adds; `fact` is any other payload, by its `type`. -/
inductive Payload where
  | runState (state : RunState) (reason : Option String)
  | sessionState (state : SessionState)
  | userMessage (text : String) (attachments : List AttachmentBlock) (mode : DeliveryMode)
  | peerMessage (message : PeerMessage)
  | queueChanged (delta : QueueDelta)
  | nodeCommitted (node : TreeNode)
  | item (event : ItemEvent)
  | toolResult (callId : String) (result : BoundedResult)
  | runFailed (code : ErrorCode)
  | headless (payload : HeadlessRunEventPayload)
  | promptRetracted (fact : PromptRetracted)
  | responseStarted (delta : Json)
  | responseDeltaDiscarded (delta : Json) (promptSeq : Nat)
  | fact (type : String)
  deriving DecidableEq, Repr

/-- An envelope before the store stamps it (`unstamped_command_envelope`). -/
structure Draft where
  eventId : EventId
  branchId : Option BranchId
  runId : Option RunId
  agentId : Option AgentId
  promptOmit : Bool
  payload : Payload
  deriving DecidableEq, Repr

/-- A draft with its position and date. -/
structure Envelope extends Draft where
  seq : Nat
  committedAtMs : Nat
  deriving DecidableEq, Repr

/-- The change `stamp_queue_delta` commits: an enqueued row is dated by the store. -/
def QueueChange.stamped (now : Nat) : QueueChange → QueueChange
  | .enqueued row => .enqueued { row with createdAtMs := now }
  | change => change

/-- `stamp_queue_delta`: a queue delta carries its own sequence number as its revision. -/
def Payload.stamped (now seq : Nat) : Payload → Payload
  | .queueChanged delta => .queueChanged { revision := seq, change := delta.change.stamped now }
  | payload => payload

/-- The loop body of `append_transaction_envelopes`. -/
def Draft.stamp (now seq : Nat) (draft : Draft) : Envelope :=
  { draft with payload := draft.payload.stamped now seq, seq := seq, committedAtMs := now }

theorem revision_stamped {now seq : Nat} {payload : Payload} {delta : QueueDelta}
    (carried : payload.stamped now seq = .queueChanged delta) : delta.revision = seq := by
  cases payload <;> cases carried
  rfl

/-- One session's envelopes by increasing `seq`, ids distinct, queue deltas dated by `seq`. -/
structure Journal where
  envelopes : List Envelope
  increasing : Log.Increasing (·.seq) envelopes
  positive : ∀ e ∈ envelopes, 0 < e.seq
  unique : (envelopes.map (·.eventId)).Nodup
  dated : ∀ e ∈ envelopes, ∀ delta, e.payload = .queueChanged delta → delta.revision = e.seq

namespace Journal

variable (journal : Journal)

/-- `SELECT COALESCE(MAX(seq), 0)`. -/
def headSeq : Nat := Log.head (·.seq) journal.envelopes

/-- The envelopes a batch is committed as. -/
def stampBatch (now : Nat) (batch : List Draft) : List Envelope :=
  Log.number (Draft.stamp now) (journal.headSeq + 1) batch

/-- The journal of a new session. -/
def empty : Journal where
  envelopes := []
  increasing := List.Pairwise.nil
  positive := by simp
  unique := List.nodup_nil
  dated := by simp

/-- Whether a batch brings only new event ids. -/
abbrev Fresh (batch : List Draft) : Prop :=
  (journal.envelopes.map (·.eventId) ++ batch.map (·.eventId)).Nodup

theorem seq_stamp (now seq : Nat) (draft : Draft) : (draft.stamp now seq).seq = seq := rfl

theorem eventIds_stampBatch (now : Nat) (batch : List Draft) :
    (journal.stampBatch now batch).map (·.eventId) = batch.map (·.eventId) := by
  apply Log.map_number
  intro seq draft
  rfl

/-- The journal after a batch of drafts with unused ids. -/
def extend (now : Nat) (batch : List Draft) (fresh : journal.Fresh batch) : Journal where
  envelopes := journal.envelopes ++ journal.stampBatch now batch
  increasing := Log.increasing_append_number (seq_stamp now) journal.increasing batch
  positive := by
    intro e member
    rcases List.mem_append.mp member with old | new
    · exact journal.positive e old
    · exact Nat.lt_of_lt_of_le (Nat.succ_pos _) (Log.le_pos_of_mem_number (seq_stamp now) new)
  unique := by
    rw [List.map_append, eventIds_stampBatch]
    exact fresh
  dated := by
    intro e member delta carried
    rcases List.mem_append.mp member with old | new
    · exact journal.dated e old delta carried
    · obtain ⟨seq, -, draft, -, rfl⟩ := Log.exists_of_mem_number new
      exact revision_stamped carried

end Journal

end HaiderAgent.Turns
