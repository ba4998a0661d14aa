import HaiderAgent.Daemon.SessionHub.CheckpointInverse
import Mathlib.Data.List.Chain

/-!
# Turn rollback is the composition of undos

A rollback of a run and the undos of its checkpoints by id, newest first, take the same checkpoints
back, so they succeed on the same workspaces and leave the same one; where the records of each path
are contiguous and nothing was written since, the one before the run. A run without checkpoints is
the exception: its rollback is answered with `not_found`.
-/

namespace HaiderAgent.Checkpoint

open List

variable {D : Type}

/-! ## The records of a run -/

/-- The paths of a turn's checkpoints. -/
def recordedPaths (rows : List (CheckpointRecorded D)) : List (CheckpointPath D) :=
  rows.flatMap (·.paths)

variable (paths : List (CheckpointPath D))

/-- The records of one path, in their order. -/
def recordsOf (path : Path) : List (CheckpointPath D) :=
  paths.filter (·.path = path)

/-- Along each path a record continues where the next older one ended. -/
def Contiguous : Prop :=
  ∀ path, (recordsOf paths path).IsChain fun newer older => newer.preDigest = older.postDigest

/-- Every recorded path shows what its newest record wrote. -/
def StillHolds (digest : Bytes → D) (paths : List (CheckpointPath D)) (ws : Workspace) : Prop :=
  ∀ path, ∀ newest ∈ (recordsOf paths path).head?,
    (ws path).shows digest = some newest.postDigest

/-- The workspace with the oldest recorded pre-image of every recorded path. -/
def beforeRecords (ws : Workspace) : Workspace := fun path =>
  match (recordsOf paths path).getLast? with
  | some oldest => .ofContent oldest.preArtifact
  | none => ws path

/-- The mutations of a run, newest first, each described by its checkpoint. -/
inductive Mutations (digest : Bytes → D) : Workspace → List (CheckpointRecorded D) → Workspace → Prop
  | none (ws : Workspace) : Mutations digest ws [] ws
  | next {first before after : Workspace} {older : List (CheckpointRecorded D)}
      {checkpoint : CheckpointRecorded D} (earlier : Mutations digest first older before)
      (wrote : Wrote digest before checkpoint after) :
      Mutations digest first (checkpoint :: older) after

section Records

variable {digest : Bytes → D} {recorded : CheckpointPath D} {paths : List (CheckpointPath D)}

theorem recordsOf_cons_self : recordsOf (recorded :: paths) recorded.path =
    recorded :: recordsOf paths recorded.path := by
  simp [recordsOf]

theorem recordsOf_cons_of_ne {path : Path} (apart : recorded.path ≠ path) :
    recordsOf (recorded :: paths) path = recordsOf paths path := by
  simp [recordsOf, apart]

theorem Contiguous.tail (contiguous : Contiguous (recorded :: paths)) : Contiguous paths := by
  intro path
  by_cases same : recorded.path = path
  · have chain := contiguous path
    rw [← same, recordsOf_cons_self] at chain
    rw [← same]
    exact chain.tail
  · rw [← recordsOf_cons_of_ne same]
    exact contiguous path

theorem beforeRecords_update (paths : List (CheckpointPath D)) (ws : Workspace) :
    beforeRecords paths (Function.update ws recorded.path (.ofContent recorded.preArtifact)) =
      beforeRecords (recorded :: paths) ws := by
  funext path
  unfold beforeRecords
  by_cases same : recorded.path = path
  · rw [← same, recordsOf_cons_self, getLast?_cons]
    cases (recordsOf paths recorded.path).getLast? with
    | none => simp
    | some oldest => rfl
  · rw [recordsOf_cons_of_ne same]
    cases (recordsOf paths path).getLast? with
    | none => exact Function.update_of_ne (Ne.symm same) _ _
    | some oldest => rfl

variable [DecidableEq D]

/-- Contiguous records over paths that hold the newest go back to the oldest pre-images. -/
theorem foldlM_undoPath_contiguous {ws : Workspace}
    (restorable : ∀ recorded ∈ paths, recorded.Restorable digest)
    (contiguous : Contiguous paths) (holds : StillHolds digest paths ws) :
    paths.foldlM (undoPath digest) ws = some (beforeRecords paths ws) := by
  induction paths generalizing ws with
  | nil => rfl
  | cons recorded paths ih =>
    obtain ⟨first, rest⟩ := forall_mem_cons.mp restorable
    have shown : (ws recorded.path).shows digest = some recorded.postDigest :=
      holds recorded.path recorded (by rw [recordsOf_cons_self]; rfl)
    have step : undoPath digest ws recorded =
        some (Function.update ws recorded.path (.ofContent recorded.preArtifact)) := by
      rw [undoPath, if_pos first, GuardedUpdate.write]
      exact if_pos shown
    rw [foldlM_cons, step]
    show paths.foldlM (undoPath digest) _ = _
    rw [ih rest contiguous.tail, beforeRecords_update]
    intro path newest mem
    by_cases same : recorded.path = path
    · rw [← same] at mem ⊢
      rw [Function.update_self, shows_ofContent, first.2]
      have chain := contiguous recorded.path
      rw [recordsOf_cons_self] at chain
      exact congrArg some (chain.rel_head? mem)
    · rw [Function.update_of_ne (Ne.symm same)]
      refine holds path newest ?_
      rw [recordsOf_cons_of_ne same]
      exact mem

theorem foldlM_undoCheckpoint (rows : List (CheckpointRecorded D)) (ws : Workspace) :
    rows.foldlM (undoCheckpoint digest) ws = (recordedPaths rows).foldlM (undoPath digest) ws := by
  induction rows generalizing ws with
  | nil => rfl
  | cons checkpoint rows ih =>
    rw [foldlM_cons, recordedPaths, flatMap_cons, foldlM_append]
    exact congrArg _ (funext ih)

theorem Mutations.undo {first last : Workspace} {rows : List (CheckpointRecorded D)}
    (mutations : Mutations digest first rows last) :
    rows.foldlM (undoCheckpoint digest) last = some first := by
  induction mutations with
  | none => rfl
  | next earlier wrote ih =>
    rw [foldlM_cons, wrote.undo]
    exact ih

end Records

/-! ## Undoing one by one -/

variable [DecidableEq D] {hashing : Hashing D}

/-- `checkpoint.undo` by id, one command after another, as long as they succeed. -/
def undoEach (hashing : Hashing D) (branch : Option BranchId) (st : State D)
    (undos : List (CommandId × CheckpointId)) : Option (State D) :=
  undos.foldlM (fun st undo => perform hashing st ⟨undo.1, branch, .undo undo.2⟩) st

variable {st : State D} {branch : Option BranchId} {rows : List (CheckpointRecorded D)}

/-- Undo commands in a row write what undoing their checkpoints in a row does. -/
theorem undoEach_workspace (free : hashing.CollisionFree) {commands : List CommandId}
    (aligned : commands.length = rows.length) (fresh : commands.Nodup)
    (kept : WellKept hashing st) (unused : ∀ command ∈ commands, Unused st command)
    (members : ∀ checkpoint ∈ rows, checkpoint ∈ st.checkpoints ∧ checkpoint.branchId = branch) :
    (undoEach hashing branch st (commands.zip (rows.map (·.checkpointId)))).map (·.workspace) =
      rows.foldlM (undoCheckpoint hashing.digest) st.workspace := by
  induction rows generalizing st commands with
  | nil =>
    rw [map_nil, zip_nil_right]
    rfl
  | cons checkpoint rows ih =>
    cases commands with
    | nil => cases aligned
    | cons command commands =>
      obtain ⟨new, fresh⟩ := nodup_cons.mp fresh
      obtain ⟨unusedHere, unusedLater⟩ := forall_mem_cons.mp unused
      obtain ⟨⟨mem, onBranch⟩, later⟩ := forall_mem_cons.mp members
      have resolved := resolve_undo kept mem
      rw [onBranch] at resolved
      have single : ∀ ws, [checkpoint].foldlM (undoCheckpoint hashing.digest) ws =
          undoCheckpoint hashing.digest ws checkpoint := by
        simp
      rw [map_cons, zip_cons_cons, undoEach, foldlM_cons, foldlM_cons]
      have unusedUndo : Unused st
          (Command.mk command branch (.undo checkpoint.checkpointId)).commandId := unusedHere
      rcases perform_spec free kept unusedUndo resolved with ⟨undone, refused⟩ | ⟨plan, _, _, undone, done⟩
      · rw [single] at undone
        rw [refused, undone]
        rfl
      · rw [single] at undone
        rw [done, undone]
        refine ih (by simpa using aligned) fresh (kept.performed free unusedHere plan) ?_ ?_
        · intro other found
          refine (unusedLater other found).performed (fun same => new ?_) plan
          rw [show command = other from same.symm]
          exact found
        · intro other found
          obtain ⟨old, branchOf⟩ := later other found
          exact ⟨mem_cons_of_mem _ old, branchOf⟩

omit [DecidableEq D] in
theorem resolve_rollbackTurn {checkpoints : List (CheckpointRecorded D)} {run : RunId}
    (found : checkpointsForRun checkpoints branch run = rows) (nonempty : rows ≠ []) :
    resolveCheckpointAction checkpoints branch (.rollbackTurn run) = .ok rows := by
  rw [resolveCheckpointAction, found]
  cases rows with
  | nil => exact absurd rfl nonempty
  | cons checkpoint rows => rfl

variable {command : Command}

theorem perform_single (free : hashing.CollisionFree) (kept : WellKept hashing st)
    (unused : Unused st command.commandId) {checkpoint : CheckpointRecorded D}
    (resolved : resolveCheckpointAction st.checkpoints command.branchId command.action =
      .ok [checkpoint]) :
    (perform hashing st command).map (·.workspace) =
      undoCheckpoint hashing.digest st.workspace checkpoint := by
  rw [perform_workspace free kept unused resolved]
  simp

/-- A command that succeeds records itself on its own branch. -/
theorem perform_recorded (free : hashing.CollisionFree) {after : State D}
    (kept : WellKept hashing st) (unused : Unused st command.commandId)
    (within : WithinLimit st.workspace) (done : perform hashing st command = some after) :
    ∃ checkpoint, after.checkpoints = checkpoint :: st.checkpoints ∧
      checkpoint.branchId = command.branchId ∧ checkpoint.origin = command.action.origin ∧
      Wrote hashing.digest st.workspace checkpoint after.workspace ∧ WellKept hashing after ∧
      ∀ other, other ≠ command.commandId → Unused st other → Unused after other := by
  cases resolved : resolveCheckpointAction st.checkpoints command.branchId command.action with
  | error failure =>
    rw [perform, checkpointMutate, resolved] at done
    cases done
  | ok sources =>
    rcases perform_spec free kept unused resolved with
      ⟨_, refused⟩ | ⟨plan, distinct, fits, _, performed⟩
    · rw [refused] at done
      cases done
    · rw [performed] at done
      cases done
      exact ⟨commandRecord hashing st command sources plan, rfl, rfl, rfl,
        wrote_performed command sources distinct fits within,
        kept.performed free unused plan,
        fun other apart fresh => fresh.performed apart plan⟩

/-! ## The rollback -/

/-- Turn rollback against single undos, for a run with recorded checkpoints. The rollback and
the undos of the run's checkpoints by id, newest first, succeed together and leave the same
workspace. It is the workspace before the run: the oldest recorded pre-images, where the records
are contiguous and the paths hold the newest of them, which is the workspace the run's recorded
mutations started from. And whatever command succeeded, undoing the checkpoint it recorded, or
redoing it where an undo or a rollback recorded it, gives back the workspace from before it. -/
theorem rollbackTurn_composes_undos (free : hashing.CollisionFree) {st : State D}
    (kept : WellKept hashing st) (branch : Option BranchId) {run : RunId}
    {rows : List (CheckpointRecorded D)}
    (found : checkpointsForRun st.checkpoints branch run = rows) (nonempty : rows ≠ [])
    {command : CommandId} (unused : Unused st command) :
    (∀ commands : List CommandId, commands.length = rows.length → commands.Nodup →
      (∀ undo ∈ commands, Unused st undo) →
      (perform hashing st ⟨command, branch, .rollbackTurn run⟩).map (·.workspace) =
        (undoEach hashing branch st (commands.zip (rows.map (·.checkpointId)))).map
          (·.workspace)) ∧
    ((∀ recorded ∈ recordedPaths rows, recorded.Restorable hashing.digest) →
      Contiguous (recordedPaths rows) →
      StillHolds hashing.digest (recordedPaths rows) st.workspace →
      (perform hashing st ⟨command, branch, .rollbackTurn run⟩).map (·.workspace) =
        some (beforeRecords (recordedPaths rows) st.workspace)) ∧
    (∀ first, Mutations hashing.digest first rows st.workspace →
      (perform hashing st ⟨command, branch, .rollbackTurn run⟩).map (·.workspace) = some first) ∧
    (WithinLimit st.workspace → ∀ action after,
      perform hashing st ⟨command, branch, action⟩ = some after →
      ∃ checkpoint, after.checkpoints = checkpoint :: st.checkpoints ∧
        ∀ next, Unused after next →
          (perform hashing after ⟨next, branch, .undo checkpoint.checkpointId⟩).map
            (·.workspace) = some st.workspace ∧
          (action.origin ≠ .redo →
            (perform hashing after ⟨next, branch, .redo checkpoint.checkpointId⟩).map
              (·.workspace) = some st.workspace)) := by
  have rolledBack : (perform hashing st ⟨command, branch, .rollbackTurn run⟩).map (·.workspace) =
      rows.foldlM (undoCheckpoint hashing.digest) st.workspace :=
    perform_workspace free kept unused (resolve_rollbackTurn found nonempty)
  refine ⟨?_, ?_, ?_, ?_⟩
  · intro commands aligned fresh unusedEach
    rw [rolledBack, undoEach_workspace free aligned fresh kept unusedEach]
    intro checkpoint member
    rw [← found, checkpointsForRun, mem_filter] at member
    have coordinates := of_decide_eq_true member.2
    exact ⟨member.1, coordinates.1⟩
  · intro restorable contiguous holds
    rw [rolledBack, foldlM_undoCheckpoint, foldlM_undoPath_contiguous restorable contiguous holds]
  · intro first mutations
    rw [rolledBack, mutations.undo]
  · intro within action after done
    have unusedHere : Unused st (Command.mk command branch action).commandId := unused
    obtain ⟨checkpoint, table, onBranch, origin, wrote, keptAfter, _⟩ :=
      perform_recorded free kept unusedHere within done
    refine ⟨checkpoint, table, fun next fresh => ?_⟩
    have member : checkpoint ∈ after.checkpoints := by
      rw [table]
      exact mem_cons_self
    have branchOf : checkpoint.branchId = branch := onBranch
    have undone := resolve_undo keptAfter member
    rw [branchOf] at undone
    refine ⟨?_, fun reversible => ?_⟩
    · rw [perform_single free keptAfter fresh undone, wrote.undo]
    · have redone : checkpoint.origin = .undo ∨ checkpoint.origin = .rollbackTurn := by
        rw [origin]
        cases action with
        | undo target => exact .inl rfl
        | redo target => exact absurd rfl reversible
        | rollbackTurn run => exact .inr rfl
      have resolved := resolve_redo keptAfter member redone
      rw [branchOf] at resolved
      rw [perform_single free keptAfter fresh resolved, wrote.undo]

/-! ## A small session -/

/-- Digests that are the bytes themselves. -/
def plainHashing : Hashing Bytes :=
  { digest := fun bytes => bytes, captureDigest := fun _ => "", idHash := fun input _ => input.effectId }

theorem plainHashing_collisionFree : plainHashing.CollisionFree where
  digest := fun _ _ same => same
  idHash := fun same => same

/-- A checkpoint of one write to the file `a`. -/
def wroteA (effect : EffectId) (seq : Nat) (pre : Option Bytes) (post : Bytes) :
    CheckpointRecorded Bytes :=
  { checkpointId := "checkpoint:" ++ effect, branchId := none, runId := "r", effectId := effect,
    callId := effect, seq := seq, kind := .write, origin := .tool, sourceCheckpointId := none,
    paths := [{ path := "a", preArtifact := pre, preDigest := pre, postDigest := some post,
                truncatedReason := none }],
    postDigest := "" }

/-- The run `r` created `a` and wrote it once more. -/
def twoWrites : State Bytes :=
  { workspace := fun path => if path = "a" then .file [2] else .absent,
    checkpoints := [wroteA "e2" 10 (some [1]) [2], wroteA "e1" 5 none [1]], lastSeq := 10 }

theorem twoWrites_wellKept : WellKept plainHashing twoWrites where
  named := by
    refine forall_mem_cons.mpr ⟨?_, forall_mem_singleton.mpr ?_⟩
    · exact ⟨⟨none, "r", "e2", "e2", .tool, none⟩, "", rfl, rfl⟩
    · exact ⟨⟨none, "r", "e1", "e1", .tool, none⟩, "", rfl, rfl⟩
  distinct := by decide
  dated := by decide
  past := by decide
  bounded := by
    intro checkpoint mem recorded found bytes held
    simp only [twoWrites, wroteA, mem_cons, not_mem_nil, or_false] at mem
    rcases mem with rfl | rfl <;>
      simp only [mem_cons, not_mem_nil, or_false] at found <;> subst found <;>
      simp at held
    subst held
    decide

theorem twoWrites_withinLimit : WithinLimit twoWrites.workspace := by
  intro path bytes held
  simp only [twoWrites] at held
  split at held
  · cases held
    decide
  · cases held

/-- The rollback of the two writes of `r` against the undos of both, at the small session. -/
theorem rollbackTurn_composes_undos_twoWrites :
    (perform plainHashing twoWrites ⟨"back", none, .rollbackTurn "r"⟩).map (·.workspace) =
        (undoEach plainHashing none twoWrites
          [("u1", "checkpoint:e2"), ("u2", "checkpoint:e1")]).map (·.workspace) ∧
      ((perform plainHashing twoWrites ⟨"back", none, .rollbackTurn "r"⟩).map
        (·.workspace "a")) = some .absent := by
  refine ⟨?_, by decide +kernel⟩
  have found : checkpointsForRun twoWrites.checkpoints none "r" = twoWrites.checkpoints := by decide
  have unused : ∀ command ∈ ["back", "u1", "u2"], Unused twoWrites command := by
    unfold Unused
    decide
  obtain ⟨unusedBack, unusedUndos⟩ := forall_mem_cons.mp unused
  exact (rollbackTurn_composes_undos plainHashing_collisionFree twoWrites_wellKept none found
    (by decide) unusedBack).1 ["u1", "u2"] rfl (by decide) unusedUndos

/-- A run that recorded no checkpoint: undoing none of them succeeds and changes nothing, while
the rollback is refused. -/
theorem rollbackTurn_of_no_checkpoints :
    checkpointsForRun twoWrites.checkpoints none "quiet" = [] ∧
      ((undoEach plainHashing none twoWrites []).map (·.checkpoints)) =
        some twoWrites.checkpoints ∧
      (perform plainHashing twoWrites ⟨"back", none, .rollbackTurn "quiet"⟩).isNone = true ∧
      (checkpointMutate plainHashing .none twoWrites
        ⟨"back", none, .rollbackTurn "quiet"⟩).2 =
        .error (.notFound "the requested turn has no checkpoints on this branch") := by
  decide +kernel

end HaiderAgent.Checkpoint
