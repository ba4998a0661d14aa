import HaiderAgent.Lib.Log
import HaiderAgent.Protocol.Envelope

/-!
# A session journal

The `events` table of one session (`haider-store/src/event_store.rs`): envelopes
in strictly increasing `seq` order from 1, extended only at the head.
-/

namespace HaiderAgent

open List

/-- The committed envelopes of one session, by increasing `seq`. -/
structure Journal where
  envelopes : List RawEnvelope
  increasing : envelopes.Pairwise fun a b => a.seq < b.seq
  positive : ∀ e ∈ envelopes, 0 < e.seq

namespace Journal

/-- `SELECT COALESCE(MAX(seq), 0)`. -/
def headSeq (journal : Journal) : Nat := (journal.envelopes.getLast?.map (·.seq)).getD 0

/-- Number a batch from `first`, as `append_envelopes_in_transaction` does. -/
def stamp (first : Nat) : List RawEnvelope → List RawEnvelope
  | [] => []
  | envelope :: rest => { envelope with seq := first } :: stamp (first + 1) rest

variable {e : RawEnvelope} {first : Nat} {batch : List RawEnvelope}

theorem stamp_eq_number (first : Nat) (batch : List RawEnvelope) :
    stamp first batch = Log.number (fun n e => { e with seq := n }) first batch := by
  induction batch generalizing first with
  | nil => rfl
  | cons head rest ih => rw [stamp, ih, Log.number_cons]

theorem le_seq_of_mem_stamp (mem : e ∈ stamp first batch) : first ≤ e.seq :=
  Log.le_pos_of_mem_number (fun _ _ => rfl) (stamp_eq_number first batch ▸ mem)

theorem stamp_pairwise (first : Nat) (batch : List RawEnvelope) :
    (stamp first batch).Pairwise fun a b => a.seq < b.seq := by
  rw [stamp_eq_number]
  exact Log.increasing_number (fun _ _ => rfl) first batch

theorem seq_le_headSeq (journal : Journal) (mem : e ∈ journal.envelopes) :
    e.seq ≤ journal.headSeq :=
  Log.le_head journal.increasing mem

theorem headSeq_eq (journal : Journal) :
    journal.headSeq = 0 ∧ journal.envelopes = [] ∨
      ∃ init last, journal.envelopes = init ++ [last] ∧ journal.headSeq = last.seq := by
  rcases journal.envelopes.eq_nil_or_concat' with none | ⟨init, last, split⟩
  · exact .inl ⟨by simp [headSeq, none], none⟩
  · exact .inr ⟨init, last, split, by simp [headSeq, split]⟩

variable {journal later : Journal} {gained : List RawEnvelope}

theorem headSeq_lt (grown : later.envelopes = journal.envelopes ++ gained)
    (mem : e ∈ gained) : journal.headSeq < e.seq :=
  Log.head_lt (grown ▸ later.increasing)
    (fun e mem => later.positive e (grown ▸ mem_append_right _ mem)) mem

theorem headSeq_mono
    (grown : later.envelopes = journal.envelopes ++ gained) : journal.headSeq ≤ later.headSeq := by
  rcases journal.headSeq_eq with ⟨zero, -⟩ | ⟨init, last, split, head⟩
  · omega
  · rw [head]
    exact later.seq_le_headSeq (by simp [grown, split])

/-- A journal's first part. -/
def initial (journal : Journal) (first later : List RawEnvelope)
    (split : journal.envelopes = first ++ later) : Journal where
  envelopes := first
  increasing := (pairwise_append.mp (split ▸ journal.increasing)).1
  positive := fun e member => journal.positive e (split ▸ mem_append_left _ member)

/-- Commit a batch at the head (`append_envelopes_in_transaction`). -/
def append (journal : Journal) (batch : List RawEnvelope) : Journal where
  envelopes := journal.envelopes ++ stamp (journal.headSeq + 1) batch
  increasing := by
    refine pairwise_append.mpr ⟨journal.increasing, stamp_pairwise _ _, ?_⟩
    intro old oldMember new newMember
    have := journal.seq_le_headSeq oldMember
    have := le_seq_of_mem_stamp newMember
    omega
  positive := by
    intro e member
    rcases mem_append.mp member with old | new
    · exact journal.positive e old
    · have := le_seq_of_mem_stamp new
      omega

@[simp] theorem append_envelopes (journal : Journal) (batch : List RawEnvelope) :
    (journal.append batch).envelopes =
      journal.envelopes ++ stamp (journal.headSeq + 1) batch := rfl

@[simp] theorem append_nil (journal : Journal) : journal.append [] = journal := by
  obtain ⟨envelopes, increasing, positive⟩ := journal
  simp [append, stamp]

theorem mem_stamp
    (mem : e ∈ stamp first batch) : ∃ source ∈ batch, ∃ seq, e = { source with seq := seq } := by
  obtain ⟨seq, -, source, found, same⟩ := Log.exists_of_mem_number (stamp_eq_number first batch ▸ mem)
  exact ⟨source, found, seq, same⟩

theorem filterMap_stamp {α : Type} {read : RawEnvelope → Option α}
    (blind : ∀ e seq, read { e with seq := seq } = read e) (first : Nat)
    (batch : List RawEnvelope) : (stamp first batch).filterMap read = batch.filterMap read := by
  rw [stamp_eq_number, Log.filterMap_number fun n e => blind e n]

theorem getLast?_filterMap_append {α : Type} (read : RawEnvelope → Option α)
    (blind : ∀ e seq, read { e with seq := seq } = read e) (journal : Journal)
    (batch : List RawEnvelope) :
    ((journal.append batch).envelopes.filterMap read).getLast? =
      (batch.filterMap read).getLast?.or (journal.envelopes.filterMap read).getLast? := by
  rw [append_envelopes, filterMap_append, filterMap_stamp blind, getLast?_append]

/-- The journal of a new session. -/
def empty : Journal := ⟨[], List.Pairwise.nil, fun _ impossible => absurd impossible not_mem_nil⟩

end Journal

/-- The run state a payload commits. -/
def RawPayload.runState : RawPayload → Option RunState
  | .event (.runState state) => some state
  | _ => none

/-- The latest durable `RunState` of a run. -/
def latestRunState (runId : RunId) (envelopes : List RawEnvelope) : Option RunState :=
  ((envelopes.filter fun e => e.runId = some runId).filterMap (·.payload.runState)).getLast?

/-- A run-scoped main-branch envelope before it is stamped. -/
def EventPayload.unstamped (payload : EventPayload) (sessionId : SessionId) (runId : RunId)
    (workerGeneration : Nat) : RawEnvelope where
  eventId := payload.tag
  seq := 0
  sessionId := sessionId
  branchId := none
  runId := some runId
  agentId := none
  deviceId := "device"
  authorityEpoch := 0
  workerGeneration := workerGeneration
  causationId := none
  committedAtMs := 0
  render := { durable := true, promptOmit := true }
  payload := .event payload

end HaiderAgent
