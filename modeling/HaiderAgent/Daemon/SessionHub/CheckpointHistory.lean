import HaiderAgent.Daemon.SessionHub.CheckpointPlan

/-!
# Sequences of checkpoint commands

Undo, redo and rollback where nothing fails, over the checkpoint table as the commands keep it.
A command's effect on the workspace is that of the checkpoints it resolves to, taken back newest
first (`perform_spec`); it keeps the table, and leaves the ids of other commands unused.
-/

namespace HaiderAgent.Checkpoint

open List

open GuardedUpdate (Fits Distinct put inverse attempt write)

variable {D : Type}

/-! ## The checkpoint table -/

/-- Distinct contents have distinct digests, distinct effects distinct checkpoint ids. -/
structure Hashing.CollisionFree (hashing : Hashing D) : Prop where
  digest : Function.Injective hashing.digest
  idHash : ∀ {first second : FreezeInput} {post other : String},
    hashing.idHash first post = hashing.idHash second other → first.effectId = second.effectId

/-- The table as the store keeps it: hashed keys, newest first, no pre-image over the limit. -/
structure WellKept (hashing : Hashing D) (st : State D) : Prop where
  named : ∀ checkpoint ∈ st.checkpoints, ∃ input post,
    checkpoint.checkpointId = hashing.checkpointId input post ∧
      input.effectId = checkpoint.effectId
  distinct : (st.checkpoints.map (·.checkpointId)).Nodup
  dated : st.checkpoints.Pairwise fun newer older => older.seq < newer.seq
  past : ∀ checkpoint ∈ st.checkpoints, checkpoint.seq ≤ st.lastSeq
  bounded : ∀ checkpoint ∈ st.checkpoints, ∀ recorded ∈ checkpoint.paths, ∀ bytes,
    recorded.preArtifact = some bytes → bytes.length ≤ preimageMaxBytes

/-- No checkpoint was recorded under this command id. -/
def Unused (st : State D) (command : CommandId) : Prop :=
  ∀ checkpoint ∈ st.checkpoints, checkpoint.effectId ≠ "checkpoint-effect:" ++ command

theorem Hashing.checkpointId_ne_last (hashing : Hashing D) (input : FreezeInput) (post : String) :
    hashing.checkpointId input post ≠ "last" := by
  intro same
  have lengths := congrArg String.length same
  rw [Hashing.checkpointId, String.length_append] at lengths
  have long : "checkpoint:".length = 11 := rfl
  have short : "last".length = 4 := rfl
  omega

theorem effectId_inj {first second : CommandId}
    (same : "checkpoint-effect:" ++ first = "checkpoint-effect:" ++ second) : first = second := by
  have lists := congrArg String.toList same
  rw [String.toList_append, String.toList_append] at lists
  exact String.toList_inj.mp (append_cancel_left lists)

section Rows

variable {checkpoints : List (CheckpointRecorded D)}

theorem checkpointById_of_mem (distinct : (checkpoints.map (·.checkpointId)).Nodup)
    {checkpoint : CheckpointRecorded D} (mem : checkpoint ∈ checkpoints) :
    checkpointById checkpoints checkpoint.checkpointId = some checkpoint := by
  exact (Rows.find_eq_some_iff distinct).mpr ⟨mem, rfl⟩

variable {branch : Option BranchId} {cursor : Option Nat}

theorem mem_rowsBefore {checkpoint : CheckpointRecorded D} :
    checkpoint ∈ rowsBefore checkpoints branch cursor ↔
      checkpoint ∈ checkpoints ∧ checkpoint.branchId = branch ∧
        ∀ before ∈ cursor, checkpoint.seq < before := by
  cases cursor <;> simp [rowsBefore]

/-- The cursor of a page's last row selects exactly the rows the page left. -/
theorem rowsBefore_next (dated : checkpoints.Pairwise fun newer older => older.seq < newer.seq)
    {limit : Nat} {last : CheckpointRecorded D}
    (ends : ((rowsBefore checkpoints branch cursor).take limit).getLast? = some last) :
    rowsBefore checkpoints branch (some last.seq) =
      (rowsBefore checkpoints branch cursor).drop limit := by
  have datedRows : (rowsBefore checkpoints branch cursor).Pairwise fun newer older =>
      older.seq < newer.seq := dated.sublist filter_sublist
  have lastRow : last ∈ rowsBefore checkpoints branch cursor :=
    mem_of_mem_take (mem_of_getLast? ends)
  have narrowed : rowsBefore checkpoints branch (some last.seq) =
      (rowsBefore checkpoints branch cursor).filter (·.seq < last.seq) := by
    unfold rowsBefore
    rw [filter_filter]
    refine filter_congr fun row _ => ?_
    have bound := (mem_rowsBefore.mp lastRow).2.2
    cases cursor with
    | none => simp [Bool.and_comm]
    | some before =>
      have older : last.seq < before := bound before rfl
      by_cases early : row.seq < last.seq
      · have both : row.seq < before := Nat.lt_trans early older
        simp [early, both]
      · simp [early]
  rw [narrowed]
  generalize rowsBefore checkpoints branch cursor = rows at datedRows ends
  have split := datedRows
  rw [← take_append_drop limit rows, pairwise_append] at split
  obtain ⟨page, _, across⟩ := split
  conv_lhs => rw [← take_append_drop limit rows, filter_append]
  have none : (rows.take limit).filter (·.seq < last.seq) = [] := by
    rw [filter_eq_nil_iff]
    intro row mem
    obtain ⟨before, split⟩ := getLast?_eq_some_iff.mp ends
    rw [split] at mem page
    rcases mem_append.mp mem with early | here
    · have order := (pairwise_append.mp page).2.2 row early last (mem_singleton_self _)
      simp only [decide_eq_true_eq, not_lt]
      omega
    · rw [mem_singleton.mp here]
      simp
  have all : (rows.drop limit).filter (·.seq < last.seq) = rows.drop limit := by
    rw [filter_eq_self]
    intro row mem
    simpa using across last (mem_of_getLast? ends) row mem
  rw [none, all, nil_append]

/-- The page loop finds what a search of all rows finds. -/
theorem findRedoCheckpoint_eq (dated : checkpoints.Pairwise fun newer older => older.seq < newer.seq)
    (branch : Option BranchId) (source : Option CheckpointId) (fuel : Nat) (cursor : Option Nat)
    (enough : (rowsBefore checkpoints branch cursor).length < fuel) :
    findRedoCheckpoint checkpoints branch source fuel cursor =
      (rowsBefore checkpoints branch cursor).find? (redoable source) := by
  induction fuel generalizing cursor with
  | zero => omega
  | succ fuel ih =>
    have page : ((rowsBefore checkpoints branch cursor).take (listMaxPage + 1)).take listMaxPage =
        (rowsBefore checkpoints branch cursor).take listMaxPage := by
      rw [take_take, Nat.min_eq_left (Nat.le_succ _)]
    have whole : (rowsBefore checkpoints branch cursor).find? (redoable source) =
        (((rowsBefore checkpoints branch cursor).take listMaxPage).find? (redoable source)).or
          (((rowsBefore checkpoints branch cursor).drop listMaxPage).find? (redoable source)) := by
      rw [← find?_append, take_append_drop]
    rw [findRedoCheckpoint, whole]
    simp only [listCheckpoints, page]
    cases ((rowsBefore checkpoints branch cursor).take listMaxPage).find? (redoable source) with
    | some checkpoint => rfl
    | none =>
      simp only [Option.none_or]
      by_cases more : listMaxPage <
          ((rowsBefore checkpoints branch cursor).take (listMaxPage + 1)).length
      · rw [if_pos more]
        have long : listMaxPage < (rowsBefore checkpoints branch cursor).length := by
          rw [length_take] at more
          omega
        cases ends : ((rowsBefore checkpoints branch cursor).take listMaxPage).getLast? with
        | none =>
          rw [getLast?_eq_none_iff, take_eq_nil_iff] at ends
          rcases ends with zero | empty
          · exact absurd zero (by decide)
          · rw [empty] at long
            exact absurd long (Nat.not_lt_zero _)
        | some last =>
          have next := rowsBefore_next dated ends
          simp only [Option.map_some]
          rw [ih, next]
          rw [next, length_drop]
          have positive : 0 < listMaxPage := by decide
          omega
      · rw [if_neg more]
        have short : (rowsBefore checkpoints branch cursor).drop listMaxPage = [] := by
          rw [drop_eq_nil_iff]
          rw [length_take] at more
          omega
        rw [short]
        rfl

end Rows

/-! ## Resolving one checkpoint -/

section Resolve

variable {hashing : Hashing D} {st : State D} {checkpoint : CheckpointRecorded D}

theorem WellKept.ne_last (kept : WellKept hashing st)
    (mem : checkpoint ∈ st.checkpoints) : checkpoint.checkpointId ≠ "last" := by
  obtain ⟨input, post, named, _⟩ := kept.named checkpoint mem
  rw [named]
  exact hashing.checkpointId_ne_last input post

theorem resolve_undo (kept : WellKept hashing st) (mem : checkpoint ∈ st.checkpoints) :
    resolveCheckpointAction st.checkpoints checkpoint.branchId (.undo checkpoint.checkpointId) =
      .ok [checkpoint] := by
  rw [resolveCheckpointAction, if_neg (kept.ne_last mem), selectById,
    checkpointById_of_mem kept.distinct mem]
  simp [selected, bind, Except.bind]

theorem resolve_redo (kept : WellKept hashing st) (mem : checkpoint ∈ st.checkpoints)
    (origin : checkpoint.origin = .undo ∨ checkpoint.origin = .rollbackTurn) :
    resolveCheckpointAction st.checkpoints checkpoint.branchId (.redo checkpoint.checkpointId) =
      .ok [checkpoint] := by
  rw [resolveCheckpointAction, if_neg (kept.ne_last mem), selectById,
    checkpointById_of_mem kept.distinct mem]
  rcases origin with origin | origin <;> simp [selected, bind, Except.bind, origin]

variable {branch : Option BranchId}

theorem resolve_undo_last :
    resolveCheckpointAction st.checkpoints branch (.undo "last") =
      selected (rowsBefore st.checkpoints branch none).head? := by
  rw [resolveCheckpointAction, if_pos rfl, listCheckpoints]
  cases rowsBefore st.checkpoints branch none <;> rfl

theorem resolve_redo_last (kept : WellKept hashing st) :
    resolveCheckpointAction st.checkpoints branch (.redo "last") =
      selected ((rowsBefore st.checkpoints branch none).find? (redoable none)) := by
  rw [resolveCheckpointAction, if_pos rfl, findRedo, findRedoCheckpoint_eq kept.dated]
  exact Nat.lt_succ_of_le (length_filter_le _ _)

end Resolve

/-! ## One command -/

section Perform

variable [DecidableEq D] {hashing : Hashing D} {st : State D} {command : Command}
  {sources : List (CheckpointRecorded D)}

/-- The state after a command that answers with a receipt, nothing failing outside it. -/
def perform (hashing : Hashing D) (st : State D) (command : Command) : Option (State D) :=
  match checkpointMutate hashing .none st command with
  | (after, .ok _) => some after
  | (_, .error _) => none

/-- The state after a command that met no fault. -/
def performed (hashing : Hashing D) (st : State D) (command : Command)
    (sources : List (CheckpointRecorded D)) (plan : List (RestoreTarget D)) : State D :=
  (commandDone hashing st command sources plan).1

omit [DecidableEq D] in
theorem commandRecord_new (free : hashing.CollisionFree) (kept : WellKept hashing st)
    (unused : Unused st command.commandId) (plan : List (RestoreTarget D)) :
    ∀ checkpoint ∈ st.checkpoints,
      checkpoint.checkpointId ≠ (commandRecord hashing st command sources plan).checkpointId := by
  intro checkpoint mem same
  obtain ⟨input, post, named, effect⟩ := kept.named checkpoint mem
  have hashed : hashing.idHash input post = hashing.idHash (freezeInput command sources)
      (hashing.captureDigest (plan.map (captureOf hashing.digest st.workspace))) := by
    rw [named] at same
    have lists := congrArg String.toList same
    simp only [Hashing.checkpointId, commandRecord, String.toList_append] at lists
    exact String.toList_inj.mp (append_cancel_left lists)
  have sameEffect := free.idHash hashed
  rw [effect] at sameEffect
  exact unused checkpoint mem sameEffect

omit [DecidableEq D] in
theorem commitCheckpoint_new {id : CheckpointId}
    (new : ∀ checkpoint ∈ st.checkpoints, checkpoint.checkpointId ≠ id) (ws : Workspace)
    (checkpoint : CheckpointRecorded D) (same : checkpoint.checkpointId = id) :
    commitCheckpoint none st ws checkpoint =
      .ok { workspace := ws,
            checkpoints := { checkpoint with seq := st.lastSeq + 5 } :: st.checkpoints,
            lastSeq := st.lastSeq + 5 } := by
  have absent : ¬ (st.checkpoints.any (·.checkpointId = checkpoint.checkpointId)) = true := by
    intro found
    obtain ⟨other, mem, twice⟩ := any_eq_true.mp found
    exact new other mem ((of_decide_eq_true twice).trans same)
  rw [commitCheckpoint, if_neg absent]

variable (free : hashing.CollisionFree) (kept : WellKept hashing st) (unused : Unused st command.commandId)
include free kept unused

/-- Without faults a plan that fits is restored and recorded. -/
theorem applyPlan_faultless {plan : List (RestoreTarget D)} (distinct : DistinctPaths plan)
    (fits : Fits (Node.shows hashing.digest) (guardedPlan plan) st.workspace) :
    applyPlan hashing .none st command sources plan =
      commandDone hashing st command sources plan := by
  have new : ∀ checkpoint ∈ st.checkpoints, checkpoint.checkpointId ≠
      (commandRecord hashing st command sources plan).checkpointId :=
    commandRecord_new free kept unused plan
  unfold applyPlan
  simp only [Faults.none, restorePlan_faultless hashing.digest distinct fits, freezeCheckpoint]
  rw [commitCheckpoint_new new]
  · rfl
  · rfl

/-- A command without faults takes the checkpoints it resolves to back, or does nothing. -/
theorem perform_spec
    (resolved : resolveCheckpointAction st.checkpoints command.branchId command.action =
      .ok sources) :
    (sources.foldlM (undoCheckpoint hashing.digest) st.workspace = none ∧
      perform hashing st command = none) ∨
    ∃ plan, DistinctPaths plan ∧
      Fits (Node.shows hashing.digest) (guardedPlan plan) st.workspace ∧
      sources.foldlM (undoCheckpoint hashing.digest) st.workspace =
        some (put (guardedPlan plan) st.workspace) ∧
      perform hashing st command = some (performed hashing st command sources plan) := by
  rw [← checkpointRestorePlan_planned]
  unfold perform checkpointMutate
  rw [resolved]
  simp only
  cases built : checkpointRestorePlan hashing.digest sources with
  | error failure => exact .inl ⟨rfl, rfl⟩
  | ok plan =>
    have distinct := checkpointRestorePlan_distinct built
    simp only [Except.toOption, Option.bind_some, planned, attempt]
    by_cases fits : Fits (Node.shows hashing.digest) (guardedPlan plan) st.workspace
    · rw [if_pos fits, applyPlan_faultless free kept unused distinct fits]
      exact .inr ⟨plan, distinct, fits, rfl, rfl⟩
    · obtain ⟨failure, refused⟩ :=
        (applyPlan_cases hashing .none st command sources distinct).resolve_right fun done =>
          fits done.1
      rw [if_neg fits, refused]
      exact .inl ⟨rfl, rfl⟩

theorem perform_workspace
    (resolved : resolveCheckpointAction st.checkpoints command.branchId command.action =
      .ok sources) :
    (perform hashing st command).map (·.workspace) =
      sources.foldlM (undoCheckpoint hashing.digest) st.workspace := by
  rcases perform_spec free kept unused resolved with ⟨undone, refused⟩ | ⟨plan, _, _, undone, done⟩
  · rw [undone, refused]
    rfl
  · rw [undone, done]
    rfl

omit [DecidableEq D] in
theorem WellKept.performed (plan : List (RestoreTarget D)) :
    WellKept hashing (performed hashing st command sources plan) where
  named := by
    refine forall_mem_cons.mpr ⟨⟨_, _, rfl, rfl⟩, kept.named⟩
  distinct := by
    refine nodup_cons.mpr ⟨fun found => ?_, kept.distinct⟩
    obtain ⟨checkpoint, mem, same⟩ := mem_map.mp found
    exact commandRecord_new free kept unused plan checkpoint mem same
  dated := by
    refine pairwise_cons.mpr ⟨fun checkpoint mem => ?_, kept.dated⟩
    have early := kept.past checkpoint mem
    show checkpoint.seq < st.lastSeq + 5
    omega
  past := by
    refine forall_mem_cons.mpr ⟨le_refl _, fun checkpoint mem => ?_⟩
    exact Nat.le_trans (kept.past checkpoint mem) (Nat.le_add_right _ _)
  bounded := by
    refine forall_mem_cons.mpr ⟨fun recorded mem bytes frozen => ?_, kept.bounded⟩
    obtain ⟨captured, _, rfl⟩ := mem_map.mp mem
    unfold freezePath at frozen
    split at frozen
    · split at frozen
      · rename_i within
        cases frozen
        exact within
      · cases frozen
    · cases frozen

omit free kept unused

omit [DecidableEq D] in
theorem Unused.performed {other : CommandId} (unused : Unused st other)
    (apart : other ≠ command.commandId) (plan : List (RestoreTarget D)) :
    Unused (performed hashing st command sources plan) other := by
  refine forall_mem_cons.mpr ⟨fun same => ?_, unused⟩
  exact apart (effectId_inj same).symm

end Perform

end HaiderAgent.Checkpoint
