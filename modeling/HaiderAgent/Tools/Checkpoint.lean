import HaiderAgent.Protocol.Basic
import HaiderAgent.Lib.GuardedUpdate

/-!
# Checkpoint capture and guarded restoration

The records of `haider-protocol/src/checkpoint.rs` and the functions of
`haider-tools/src/checkpoint.rs`, over a workspace that gives every path one node. The digest
function is a parameter; a record carries the bytes its content-addressed artifact names.

Which installs fail, and whether before or after the new bytes are published, is an input
(`InstallFault`); reads and the installs of a rollback fail only where the path cannot be read.
-/

namespace HaiderAgent.Checkpoint

/-- A path below the workspace. -/
abbrev Path := String
abbrev Bytes := List UInt8
abbrev CheckpointId := String
abbrev CommandId := String

/-- The largest preimage a checkpoint keeps (checkpoint.rs). -/
def preimageMaxBytes : Nat := 8 * 1024 * 1024

/-- The longest page of a listing. -/
def listMaxPage : Nat := 100

/-- What the tool did to the files. -/
inductive Kind
  | edit
  | write
  | create
  | delete
  | move
  deriving DecidableEq, Repr

/-- What made the checkpoint. -/
inductive Origin
  | tool
  | undo
  | redo
  | rollbackTurn
  deriving DecidableEq, Repr

/-- `CheckpointPath`: exact before and after state of one workspace-relative path. -/
structure CheckpointPath (D : Type) where
  path : Path
  preArtifact : Option Bytes
  preDigest : Option D
  postDigest : Option D
  truncatedReason : Option String
  deriving DecidableEq

/-- A path that no longer shows what was recorded. -/
structure Conflict (D : Type) where
  path : Path
  expectedDigest : Option D
  currentDigest : Option D
  deriving DecidableEq

/-- The paths that could be restored, and those that could not. -/
structure RollbackConflict (D : Type) where
  verified : List Path
  conflicts : List (Conflict D)
  deriving DecidableEq

/-- The `ToolError`s of these functions. -/
inductive ToolError
  | pathChanged (path : Path) (message : String)
  | io (operation : String) (path : Path)
  | runtime (message : String)
  | cas (message : String)
  deriving DecidableEq, Repr

/-- Why a restore failed. -/
inductive RestoreError (D : Type)
  | conflict (conflict : RollbackConflict D)
  | tool (error : ToolError)
  deriving DecidableEq

/-- Why one path could not be installed. -/
inductive InstallStateError (D : Type)
  | conflict (currentDigest : Option D)
  | tool (error : ToolError)
  deriving DecidableEq

/-- One path as the tool found and left it. -/
structure CapturePath (D : Type) where
  path : Path
  preBytes : Option Bytes
  preDigest : Option D
  postDigest : Option D
  truncatedReason : Option String
  deriving DecidableEq

/-- `CheckpointRestoreTarget`: the digest required, the state to install; `none` is absence. -/
structure RestoreTarget (D : Type) where
  path : Path
  expectedDigest : Option D
  restoreBytes : Option Bytes
  deriving DecidableEq

/-! ## The workspace -/

/-- What a path leads to: nothing, a file, no regular file, or out of the workspace's reach. -/
inductive Node
  | absent
  | file (bytes : Bytes)
  | irregular
  | unreachable
  deriving DecidableEq, Repr

/-- The files, by path. -/
abbrev Workspace := Path → Node

/-- The node that holds exactly a restored state. -/
def Node.ofContent : Option Bytes → Node
  | none => .absent
  | some bytes => .file bytes

/-- The state of a node that can be read. -/
def Node.content : Node → Option (Option Bytes)
  | .absent => some none
  | .file bytes => some (some bytes)
  | .irregular => none
  | .unreachable => none

/-- `CheckpointWorkspace::read`: no regular file is a conflict, no reach an I/O error. -/
def readPath (ws : Workspace) (path : Path) : Except ToolError (Option Bytes) :=
  match ws path with
  | .absent => .ok none
  | .file bytes => .ok (some bytes)
  | .irregular => .error (.pathChanged path "checkpoint target is not a regular file")
  | .unreachable => .error (.io "canonicalize checkpoint parent" path)

section Restore

variable {D : Type} [DecidableEq D] (digest : Bytes → D)

variable (ws : Workspace)

/-- `CheckpointWorkspace::digest`. -/
def digestPath (path : Path) : Except ToolError (Option D) :=
  (readPath ws path).map (Option.map digest)

/-- How one install of a restoration fails: not at all, by a freshness conflict, by an error
before the new bytes are published, or by an error after (the directory sync). -/
inductive InstallFault
  | none
  | conflict
  | beforePublish
  | afterPublish
  deriving DecidableEq, Repr

/-- `CheckpointWorkspace::install`: replaced where the current digest is the expected one. -/
def installState (fault : InstallFault) (ws : Workspace) (path : Path) (expected : Option D)
    (bytes : Option Bytes) : Workspace × Except (InstallStateError D) Unit :=
  match readPath ws path with
  | .error (.pathChanged _ _) => (ws, .error (.conflict none))
  | .error error => (ws, .error (.tool error))
  | .ok current =>
    if current.map digest = expected then
      match fault with
      | .none => (Function.update ws path (.ofContent bytes), .ok ())
      | .conflict => (ws, .error (.conflict (current.map digest)))
      | .beforePublish => (ws, .error (.tool (.io "publish checkpoint restore" path)))
      | .afterPublish =>
        (Function.update ws path (.ofContent bytes),
          .error (.tool (.io "sync checkpoint parent" path)))
    else (ws, .error (.conflict (current.map digest)))

/-! ## Verification and capture -/

/-- The loop of `verify_checkpoint_restore_plan_in`. -/
def verifyTargets (ws : Workspace) : List (RestoreTarget D) → List Path → List (Conflict D) →
    Except (RestoreError D) (List Path × List (Conflict D))
  | [], verified, conflicts => .ok (verified, conflicts)
  | target :: rest, verified, conflicts =>
    match digestPath digest ws target.path with
    | .ok current =>
      if current = target.expectedDigest then
        verifyTargets ws rest (verified ++ [target.path]) conflicts
      else verifyTargets ws rest verified
        (conflicts ++ [⟨target.path, target.expectedDigest, current⟩])
    | .error (.pathChanged _ _) =>
      verifyTargets ws rest verified (conflicts ++ [⟨target.path, target.expectedDigest, none⟩])
    | .error error => .error (.tool error)

/-- `verify_checkpoint_restore_plan_in`. -/
def verifyRestorePlan (plan : List (RestoreTarget D)) (ws : Workspace) :
    Except (RestoreError D) Unit :=
  match verifyTargets digest ws plan [] [] with
  | .error error => .error error
  | .ok (verified, conflicts) =>
    if conflicts.isEmpty then .ok () else .error (.conflict ⟨verified, conflicts⟩)

/-- The capture loop: every current state is read again and kept for the rollback. -/
def captureTargets (ws : Workspace) : List (RestoreTarget D) → List (CapturePath D) →
    Except (RestoreError D) (List (CapturePath D))
  | [], captures => .ok captures
  | target :: rest, captures =>
    match readPath ws target.path with
    | .error (.pathChanged _ _) =>
      .error (.conflict ⟨captures.map (·.path), [⟨target.path, target.expectedDigest, none⟩]⟩)
    | .error error => .error (.tool error)
    | .ok current =>
      if current.map digest = target.expectedDigest then
        captureTargets ws rest (captures ++
          [{ path := target.path, preDigest := target.expectedDigest, preBytes := current,
             postDigest := target.restoreBytes.map digest, truncatedReason := none }])
      else .error (.conflict ⟨captures.map (·.path),
        [⟨target.path, target.expectedDigest, current.map digest⟩]⟩)

/-! ## Installation and rollback -/

/-- The text of a foreign edit met by `rollback_applied`. -/
def foreignEdit : String := "checkpoint rollback refused a concurrent foreign edit"

/-- One attempt of `rollback_applied`: the path must still hold what was applied. -/
def rollbackOne (target : RestoreTarget D) (capture : CapturePath D) :
    Workspace × Except ToolError Unit :=
  let appliedDigest := target.restoreBytes.map digest
  match digestPath digest ws target.path with
  | .error error => (ws, .error error)
  | .ok current =>
    if current = appliedDigest then
      match installState digest .none ws target.path appliedDigest capture.preBytes with
      | (ws, .ok ()) => (ws, .ok ())
      | (ws, .error (.conflict _)) => (ws, .error (.pathChanged target.path foreignEdit))
      | (ws, .error (.tool error)) => (ws, .error error)
    else (ws, .error (.pathChanged target.path foreignEdit))

/-- The loop of `rollback_applied`: every applied path is attempted, failures are collected. -/
def rollbackEach : List (RestoreTarget D × CapturePath D) → Workspace → List Path →
    Workspace × List Path
  | [], ws, failures => (ws, failures)
  | (target, capture) :: rest, ws, failures =>
    match rollbackOne digest ws target capture with
    | (ws, .ok ()) => rollbackEach rest ws failures
    | (ws, .error _) => rollbackEach rest ws (failures ++ [target.path])

/-- `rollback_applied`: newest applied target first. -/
def rollbackApplied (targets : List (RestoreTarget D)) (captures : List (CapturePath D))
    (applied : Nat) : Workspace × Except (RestoreError D) Unit :=
  match rollbackEach digest ((targets.take applied).zip (captures.take applied)).reverse ws [] with
  | (ws, []) => (ws, .ok ())
  | (ws, failures) =>
    (ws, .error (.tool (.runtime ("checkpoint recovery attempted every applied path; " ++
      toString failures.length ++ " failure(s): " ++ "; ".intercalate failures))))

/-- The rollback, then the restoration's error, or the rollback's own. -/
def rollbackThen (targets : List (RestoreTarget D)) (captures : List (CapturePath D))
    (applied : Nat) (error : RestoreError D) : Workspace × Except (RestoreError D) Unit :=
  match rollbackApplied digest ws targets captures applied with
  | (ws, .error failed) => (ws, .error failed)
  | (ws, .ok ()) => (ws, .error error)

/-- The install loop of `restore_checkpoint_plan_in`, with `applied` targets already counted.
The current target is counted before its publication, since an install can fail after its
bytes changed; a failed one is uncounted again unless the path shows the installed digest. -/
def installTargets (faults : Path → InstallFault) (targets : List (RestoreTarget D))
    (captures : List (CapturePath D)) : Nat → List (RestoreTarget D) → Workspace →
    Workspace × Except (RestoreError D) Unit
  | _, [], ws => (ws, .ok ())
  | applied, target :: rest, ws =>
    match installState digest (faults target.path) ws target.path target.expectedDigest
        target.restoreBytes with
    | (ws, .ok ()) => installTargets faults targets captures (applied + 1) rest ws
    | (ws, .error (.conflict current)) =>
      rollbackThen digest ws targets captures applied
        (.conflict ⟨(targets.take applied).map (·.path),
          [⟨target.path, target.expectedDigest, current⟩]⟩)
    | (ws, .error (.tool error)) =>
      match digestPath digest ws target.path with
      | .error recheckError => rollbackThen digest ws targets captures applied (.tool recheckError)
      | .ok current =>
        if current = target.restoreBytes.map digest then
          rollbackThen digest ws targets captures (applied + 1) (.tool error)
        else rollbackThen digest ws targets captures applied (.tool error)

/-- `restore_checkpoint_plan_in`: verify, capture, install. -/
def restorePlan (faults : Path → InstallFault) (plan : List (RestoreTarget D)) (ws : Workspace) :
    Workspace × Except (RestoreError D) (List (CapturePath D)) :=
  match verifyRestorePlan digest plan ws with
  | .error error => (ws, .error error)
  | .ok () =>
    match captureTargets digest ws plan [] with
    | .error error => (ws, .error error)
    | .ok captures =>
      match installTargets digest faults plan captures 0 plan ws with
      | (ws, .error error) => (ws, .error error)
      | (ws, .ok ()) => (ws, .ok captures)

end Restore

/-! ## Freezing -/

/-- `FreezeCheckpointInput` of one session. -/
structure FreezeInput where
  branchId : Option BranchId
  runId : RunId
  effectId : EffectId
  callId : String
  origin : Origin
  sourceCheckpointId : Option CheckpointId
  deriving DecidableEq

/-- `CheckpointRecorded` of one session; `seq` is zero until the store stamps it. -/
structure CheckpointRecorded (D : Type) where
  checkpointId : CheckpointId
  branchId : Option BranchId
  runId : RunId
  effectId : EffectId
  callId : String
  seq : Nat
  kind : Kind
  origin : Origin
  sourceCheckpointId : Option CheckpointId
  paths : List (CheckpointPath D)
  postDigest : String
  deriving DecidableEq

/-- The hashes of a file, of a whole mutation, and of a checkpoint id. -/
structure Hashing (D : Type) where
  digest : Bytes → D
  captureDigest : List (CapturePath D) → String
  idHash : FreezeInput → String → String

/-- `checkpoint_id`. -/
def Hashing.checkpointId {D : Type} (hashing : Hashing D) (input : FreezeInput)
    (postDigest : String) : CheckpointId :=
  "checkpoint:" ++ hashing.idHash input postDigest

/-- A pre-image over the limit is left out of the record, with the reason. -/
def freezePath {D : Type} (captured : CapturePath D) : CheckpointPath D :=
  match captured.preBytes with
  | some bytes =>
    if bytes.length ≤ preimageMaxBytes then
      { path := captured.path, preArtifact := some bytes, preDigest := captured.preDigest,
        postDigest := captured.postDigest, truncatedReason := captured.truncatedReason }
    else
      { path := captured.path, preArtifact := none, preDigest := captured.preDigest,
        postDigest := captured.postDigest,
        truncatedReason := some ("pre-image is " ++ toString bytes.length ++
          " bytes; checkpoint limit is " ++ toString preimageMaxBytes ++ " bytes") }
  | none =>
    { path := captured.path, preArtifact := none, preDigest := captured.preDigest,
      postDigest := captured.postDigest, truncatedReason := captured.truncatedReason }

/-- `freeze_checkpoint`; `casFault` is a failing `put_batch`. -/
def freezeCheckpoint {D : Type} (hashing : Hashing D) (casFault : Option ToolError)
    (input : FreezeInput) (kind : Kind) (paths : List (CapturePath D)) (postDigest : String) :
    Except ToolError (CheckpointRecorded D) :=
  match casFault with
  | some error => .error error
  | none => .ok
    { checkpointId := hashing.checkpointId input postDigest, branchId := input.branchId,
      runId := input.runId, effectId := input.effectId, callId := input.callId, seq := 0,
      kind := kind, origin := input.origin, sourceCheckpointId := input.sourceCheckpointId,
      paths := paths.map freezePath, postDigest := postDigest }

end HaiderAgent.Checkpoint
