import HaiderAgent.Tools.CheckpointRestore

/-!
# The checkpoint commands of the daemon

`checkpoint.undo`, `checkpoint.redo` and `checkpoint.rollback_turn` of one session
(`haider-daemon/src/session_hub/rpc.rs`) over the checkpoint table of the store
(`haider-store/src/event_store.rs`), from the point where a command was admitted: receipts, the
control attachment, the worker generation and the idle session are checked before.
-/

namespace HaiderAgent.Checkpoint

variable {D : Type} [DecidableEq D]

/-! ## The checkpoint table -/

/-- One session's workspace and checkpoint table, newest first, with the journal's last seq. -/
structure State (D : Type) where
  workspace : Workspace
  checkpoints : List (CheckpointRecorded D)
  lastSeq : Nat

/-- `CheckpointListPage`. -/
structure ListPage (D : Type) where
  checkpoints : List (CheckpointRecorded D)
  nextCursor : Option Nat

variable (digest : Bytes → D) (checkpoints : List (CheckpointRecorded D)) (branch : Option BranchId)

/-- The branch's checkpoints before a cursor, as the listing query selects them. -/
def rowsBefore (cursor : Option Nat) : List (CheckpointRecorded D) :=
  checkpoints.filter fun checkpoint =>
    checkpoint.branchId = branch ∧ cursor.all (checkpoint.seq < ·)

/-- `list_checkpoints`: one row more than the limit is fetched to learn whether more remain. -/
def listCheckpoints (cursor : Option Nat) (limit : Nat) : ListPage D :=
  let fetched := (rowsBefore checkpoints branch cursor).take (limit + 1)
  let page := fetched.take limit
  { checkpoints := page,
    nextCursor := if limit < fetched.length then page.getLast?.map (·.seq) else none }

/-- `checkpoint`: the row of one id. -/
def checkpointById (id : CheckpointId) : Option (CheckpointRecorded D) :=
  checkpoints.find? (·.checkpointId = id)

/-- `checkpoints_for_run`, newest first. -/
def checkpointsForRun (run : RunId) : List (CheckpointRecorded D) :=
  checkpoints.filter fun checkpoint => checkpoint.branchId = branch ∧ checkpoint.runId = run

/-! ## Resolving the action -/

/-- `CheckpointDoorAction`. -/
inductive Action
  | undo (target : String)
  | redo (target : String)
  | rollbackTurn (run : RunId)
  deriving DecidableEq, Repr

/-- What the new checkpoint records as its origin. -/
def Action.origin : Action → Origin
  | .undo _ => .undo
  | .redo _ => .redo
  | .rollbackTurn _ => .rollbackTurn

/-- The errors of the three commands, with their texts. -/
inductive Failure (D : Type)
  | notFound (message : String)
  | invalidArgument (message : String)
  | branchMismatch (checkpoint : CheckpointId) (owner requested : Option BranchId)
  | checkpointConflict (message : String) (conflict : Conflict D)
  | rollbackConflict (message : String) (conflict : RollbackConflict D)
  | store (message : String)
  | task (message : String)
  deriving DecidableEq

/-- The checkpoints a redo can select: of an undo or a rollback, of the source asked for. -/
def redoable (source : Option CheckpointId) (checkpoint : CheckpointRecorded D) : Bool :=
  (checkpoint.origin = .undo || checkpoint.origin = .rollbackTurn) &&
    source.all fun id => checkpoint.sourceCheckpointId = some id

/-- `find_redo_checkpoint`: the newest selectable row, page by page. -/
def findRedoCheckpoint (checkpoints : List (CheckpointRecorded D)) (branch : Option BranchId)
    (source : Option CheckpointId) : Nat → Option Nat → Option (CheckpointRecorded D)
  | 0, _ => none
  | fuel + 1, cursor =>
    let page := listCheckpoints checkpoints branch cursor listMaxPage
    match page.checkpoints.find? (redoable source) with
    | some checkpoint => some checkpoint
    | none =>
      match page.nextCursor with
      | none => none
      | some next => findRedoCheckpoint checkpoints branch source fuel (some next)

/-- The page loop with a page for every row. -/
def findRedo (source : Option CheckpointId) : Option (CheckpointRecorded D) :=
  findRedoCheckpoint checkpoints branch source (checkpoints.length + 1) none

/-- The row a target other than `"last"` selects. -/
def selectById (redo : Bool) (id : CheckpointId) :
    Except (Failure D) (Option (CheckpointRecorded D)) :=
  match checkpointById checkpoints id with
  | none => .ok none
  | some checkpoint =>
    if checkpoint.branchId ≠ branch then
      .error (.branchMismatch checkpoint.checkpointId checkpoint.branchId branch)
    else if redo ∧ checkpoint.origin ≠ .undo ∧ checkpoint.origin ≠ .rollbackTurn then
      if checkpoint.origin = .redo then
        .error (.invalidArgument "a redo checkpoint is not itself redoable; undo it instead")
      else .ok (findRedo checkpoints branch (some checkpoint.checkpointId))
    else .ok (some checkpoint)

/-- A selected row, or the answer that there is none. -/
def selected : Option (CheckpointRecorded D) → Except (Failure D) (List (CheckpointRecorded D))
  | some checkpoint => .ok [checkpoint]
  | none => .error (.notFound "no matching checkpoint exists on this branch")

/-- `resolve_checkpoint_action`: the checkpoints a command reverts. -/
def resolveCheckpointAction : Action → Except (Failure D) (List (CheckpointRecorded D))
  | .rollbackTurn run =>
    match checkpointsForRun checkpoints branch run with
    | [] => .error (.notFound "the requested turn has no checkpoints on this branch")
    | rows => .ok rows
  | .undo target =>
    if target = "last" then
      selected (listCheckpoints checkpoints branch none 1).checkpoints.head?
    else selectById checkpoints branch false target >>= selected
  | .redo target =>
    if target = "last" then selected (findRedo checkpoints branch none)
    else selectById checkpoints branch true target >>= selected

/-! ## The restore plan -/

/-- Insertion into the `BTreeMap` of targets, ordered by path. -/
def insertTarget (target : RestoreTarget D) : List (RestoreTarget D) → List (RestoreTarget D)
  | [] => [target]
  | first :: rest =>
    if target.path < first.path then target :: first :: rest
    else first :: insertTarget target rest

/-- One recorded path of `checkpoint_restore_plan`: the first record of a path, which is its
newest, says what must be found; every older one must continue it and says what is restored. -/
def planPath (id : CheckpointId) (targets : List (RestoreTarget D)) (recorded : CheckpointPath D) :
    Except (Failure D) (List (RestoreTarget D)) :=
  match recorded.truncatedReason with
  | some reason => .error (.invalidArgument
      ("checkpoint " ++ id ++ " cannot restore " ++ recorded.path ++ ": " ++ reason))
  | none =>
    if recorded.preArtifact.map digest ≠ recorded.preDigest then
      .error (.invalidArgument ("checkpoint " ++ id ++ " pre-image digest is inconsistent"))
    else
      match targets.find? (·.path = recorded.path) with
      | some target =>
        if target.restoreBytes.map digest ≠ recorded.postDigest then
          .error (.checkpointConflict "turn checkpoint chain is not contiguous"
            ⟨recorded.path, recorded.postDigest, target.restoreBytes.map digest⟩)
        else .ok (targets.map fun target =>
          if target.path = recorded.path then { target with restoreBytes := recorded.preArtifact }
          else target)
      | none => .ok (insertTarget
          { path := recorded.path, expectedDigest := recorded.postDigest,
            restoreBytes := recorded.preArtifact } targets)

/-- The inner loop of `checkpoint_restore_plan`. -/
def planCheckpoint (targets : List (RestoreTarget D)) (checkpoint : CheckpointRecorded D) :
    Except (Failure D) (List (RestoreTarget D)) :=
  checkpoint.paths.foldlM (planPath digest checkpoint.checkpointId) targets

/-- `checkpoint_restore_plan`. -/
def checkpointRestorePlan : Except (Failure D) (List (RestoreTarget D)) :=
  checkpoints.foldlM (planCheckpoint digest) []

/-! ## The command -/

/-- The failures outside a command's control: installs, CAS, encoding, an uncommitted commit. -/
structure Faults where
  install : Path → InstallFault
  freeze : Option ToolError
  envelopes : Option String
  commit : Option String

/-- No fault. -/
def Faults.none : Faults :=
  { install := fun _ => .none, freeze := Option.none, envelopes := Option.none,
    commit := Option.none }

/-- A command with its branch. -/
structure Command where
  commandId : CommandId
  branchId : Option BranchId
  action : Action
  deriving DecidableEq

/-- `CheckpointMutationReceipt`. -/
structure Receipt (D : Type) where
  checkpoint : CheckpointRecorded D
  restoredCheckpointIds : List CheckpointId
  deriving DecidableEq

/-- The answer to a failed restoration; one conflict of an undo or redo answers by itself. -/
def restoreFailure (action : Action) : RestoreError D → Failure D
  | .tool _ => .invalidArgument "checkpoint restore failed"
  | .conflict found =>
    let message := "checkpoint freshness guard refused foreign workspace edits"
    match found.conflicts, action with
    | [_], .rollbackTurn _ => .rollbackConflict message found
    | [conflict], _ => .checkpointConflict message conflict
    | _, _ => .rollbackConflict message found

/-- The plan that takes a published restoration back. -/
def recoveryPlan (captures : List (CapturePath D)) : List (RestoreTarget D) :=
  captures.map fun capture =>
    { path := capture.path, expectedDigest := capture.postDigest,
      restoreBytes := capture.preBytes }

/-- `rollback_failed_checkpoint_command`, then the answer. -/
def recoverThen (ws : Workspace) (captures : List (CapturePath D)) (failure : Failure D) :
    Workspace × Failure D :=
  match restorePlan digest (fun _ => .none) (recoveryPlan captures) ws with
  | (ws, .ok _) => (ws, failure)
  | (ws, .error _) => (ws, .task "checkpoint command failed and workspace recovery also failed")

/-- The freeze input of a command over its source checkpoints. -/
def freezeInput (command : Command) (sources : List (CheckpointRecorded D)) : FreezeInput :=
  { branchId := command.branchId, runId := "checkpoint-command:" ++ command.commandId,
    effectId := "checkpoint-effect:" ++ command.commandId, callId := command.commandId,
    origin := command.action.origin,
    sourceCheckpointId := match sources with
      | [source] => some source.checkpointId
      | _ => none }

/-- `commit_checkpoint_command`: five envelopes, the last the checkpoint, under a new id. -/
def commitCheckpoint (fault : Option String) (st : State D) (ws : Workspace)
    (checkpoint : CheckpointRecorded D) : Except String (State D) :=
  match fault with
  | some error => .error error
  | none =>
    if st.checkpoints.any (·.checkpointId = checkpoint.checkpointId) then
      .error "UNIQUE constraint failed: checkpoints.checkpoint_id"
    else .ok { workspace := ws,
               checkpoints := { checkpoint with seq := st.lastSeq + 5 } :: st.checkpoints,
               lastSeq := st.lastSeq + 5 }

/-- `checkpoint_mutate` from its restore plan on. -/
def applyPlan (hashing : Hashing D) (faults : Faults) (st : State D) (command : Command)
    (sources : List (CheckpointRecorded D)) (plan : List (RestoreTarget D)) :
    State D × Except (Failure D) (Receipt D) :=
  match restorePlan hashing.digest faults.install plan st.workspace with
  | (ws, .error error) => ({ st with workspace := ws }, .error (restoreFailure command.action error))
  | (ws, .ok captures) =>
    let recover := fun failure =>
      let recovered := recoverThen hashing.digest ws captures failure
      ({ st with workspace := recovered.1 }, Except.error recovered.2)
    let kind := (sources.head?.map (·.kind)).getD .write
    match freezeCheckpoint hashing faults.freeze (freezeInput command sources) kind captures
        (hashing.captureDigest captures) with
    | .error _ => recover (.invalidArgument "checkpoint pre-images could not be frozen")
    | .ok checkpoint =>
      match faults.envelopes with
      | some error => recover (.task error)
      | none =>
        match commitCheckpoint faults.commit st ws checkpoint with
        | .error error => recover (.store error)
        | .ok committed =>
          (committed, .ok { checkpoint := { checkpoint with seq := committed.lastSeq },
                            restoredCheckpointIds := sources.map (·.checkpointId) })

/-- `checkpoint_mutate`: nothing is touched before the plan stands. -/
def checkpointMutate (hashing : Hashing D) (faults : Faults) (st : State D) (command : Command) :
    State D × Except (Failure D) (Receipt D) :=
  match resolveCheckpointAction st.checkpoints command.branchId command.action with
  | .error failure => (st, .error failure)
  | .ok sources =>
    match checkpointRestorePlan hashing.digest sources with
    | .error failure => (st, .error failure)
    | .ok plan => applyPlan hashing faults st command sources plan

end HaiderAgent.Checkpoint
