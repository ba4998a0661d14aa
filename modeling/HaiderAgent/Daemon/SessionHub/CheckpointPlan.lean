import HaiderAgent.Daemon.SessionHub.CheckpointCommands
import HaiderAgent.Lib.ExceptFold
import HaiderAgent.Lib.Rows

/-!
# What a restore plan does

The plan builder folds the recorded paths of many checkpoints into one target for each path. Its
meaning is the composition of single guarded writes, newest record first, so a plan over several
checkpoints succeeds on a workspace exactly when they can be taken back one after another, with the
same result. A command is then all or nothing whatever fails.
-/

namespace HaiderAgent.Checkpoint

open List ExceptFold

open GuardedUpdate (Fits Distinct put inverse attempt write)
open RestoreTarget (guarded)

variable {D : Type} [DecidableEq D]

/-! ## Taking records back one by one -/

variable (digest : Bytes → D) (recorded : CheckpointPath D)

/-- Nothing of the path was truncated, and the pre-image is the one its digest names. -/
def CheckpointPath.Restorable : Prop :=
  recorded.truncatedReason = none ∧ recorded.preArtifact.map digest = recorded.preDigest

instance (digest : Bytes → D) (recorded : CheckpointPath D) :
    Decidable (recorded.Restorable digest) := inferInstanceAs (Decidable (_ ∧ _))

/-- The guarded write that takes one recorded path back. -/
def CheckpointPath.back : GuardedUpdate.Target Path (Option (Option D)) Node :=
  { key := recorded.path, expected := some recorded.postDigest,
    restore := .ofContent recorded.preArtifact }

/-- Putting one recorded path back, if it still shows what was written. -/
def undoPath (ws : Workspace) (recorded : CheckpointPath D) : Option Workspace :=
  if recorded.Restorable digest then write (Node.shows digest) ws recorded.back else none

/-- Putting a checkpoint's paths back in their order. -/
def undoCheckpoint (ws : Workspace) (checkpoint : CheckpointRecorded D) : Option Workspace :=
  checkpoint.paths.foldlM (undoPath digest) ws

variable (targets : List (RestoreTarget D))

/-- The paths of the targets are distinct, as the keys of a map are. -/
def DistinctPaths : Prop := (targets.map (·.path)).Nodup

/-- What a plan does to a workspace where nothing fails. -/
def planned (ws : Workspace) : Option Workspace :=
  attempt (Node.shows digest) (guardedPlan targets) ws

omit [DecidableEq D] in
theorem DistinctPaths.guarded {targets : List (RestoreTarget D)} (distinct : DistinctPaths targets) :
    Distinct (guardedPlan targets) := by
  unfold Distinct
  rw [guardedPlan_keys]
  exact distinct

omit [DecidableEq D] in
theorem insertTarget_perm (target : RestoreTarget D) (targets : List (RestoreTarget D)) :
    (insertTarget target targets).Perm (target :: targets) := by
  induction targets with
  | nil => exact .refl _
  | cons first rest ih =>
    rw [insertTarget]
    split
    · exact .refl _
    · exact (ih.cons first).trans (.swap target first rest)

omit [DecidableEq D] in
theorem guardedPlan_replaced (path : Path) (bytes : Option Bytes) (targets : List (RestoreTarget D)) :
    guardedPlan (targets.map fun target =>
        if target.path = path then { target with restoreBytes := bytes } else target) =
      GuardedUpdate.replace path (.ofContent bytes) (guardedPlan targets) := by
  unfold guardedPlan GuardedUpdate.replace
  rw [map_map, map_map]
  refine map_congr_left fun target _ => ?_
  by_cases same : target.path = path <;> simp [guarded, same]

/-! ## The plan builder -/

/-- The target a path without one gets. -/
def CheckpointPath.target : RestoreTarget D :=
  { path := recorded.path, expectedDigest := recorded.postDigest,
    restoreBytes := recorded.preArtifact }

theorem planPath_distinct {digest : Bytes → D} {id : CheckpointId}
    {targets next : List (RestoreTarget D)} {recorded : CheckpointPath D}
    (distinct : DistinctPaths targets)
    (built : planPath digest id targets recorded = .ok next) : DistinctPaths next := by
  unfold planPath at built
  split at built
  · cases built
  · split at built
    · cases built
    · split at built
      · split at built
        · cases built
        · cases built
          unfold DistinctPaths
          rw [map_map]
          have samePaths : ((fun target : RestoreTarget D => target.path) ∘ fun target =>
              if target.path = recorded.path then
                { target with restoreBytes := recorded.preArtifact } else target) =
              fun target => target.path := by
            funext target
            simp only [Function.comp]
            split <;> rfl
          rw [samePaths]
          exact distinct
      · rename_i none
        cases built
        have same := (insertTarget_perm recorded.target targets).map (·.path)
        exact same.nodup_iff.mpr (nodup_cons.mpr ⟨Rows.find_eq_none_iff.mp none, distinct⟩)

/-- Planning one path more is undoing it on the workspace already planned. -/
theorem planPath_planned (id : CheckpointId) (targets : List (RestoreTarget D))
    (recorded : CheckpointPath D) (ws : Workspace) (distinct : DistinctPaths targets) :
    (planPath digest id targets recorded).toOption.bind (planned digest · ws) =
      (planned digest targets ws).bind (undoPath digest · recorded) := by
  by_cases restorable : recorded.Restorable digest
  · obtain ⟨whole, consistent⟩ := restorable
    have single : ∀ ws, undoPath digest ws recorded =
        write (Node.shows digest) ws recorded.back := fun ws => if_pos ⟨whole, consistent⟩
    simp only [single]
    unfold planPath
    rw [whole]
    simp only [consistent, ne_eq, not_true, if_false]
    cases found : targets.find? (·.path = recorded.path) with
    | none =>
      have new : recorded.back.key ∉ (guardedPlan targets).map (·.key) := by
        rw [guardedPlan_keys]
        exact Rows.find_eq_none_iff.mp found
      have merged : (guardedPlan (insertTarget recorded.target targets)).Perm
          (recorded.back :: guardedPlan targets) :=
        (insertTarget_perm recorded.target targets).map _
      exact GuardedUpdate.attempt_insert new merged distinct.guarded ws
    | some target =>
      have mem := mem_of_find?_eq_some found
      have samePath : target.path = recorded.path := by simpa using find?_some found
      have further := GuardedUpdate.attempt_replace (Node.shows digest) distinct.guarded
        (t := recorded.back) (mem_map_of_mem (f := guarded) mem) samePath ws
      unfold planned
      rw [← further]
      simp only [guarded, CheckpointPath.back, shows_ofContent, Option.some.injEq]
      by_cases contiguous : target.restoreBytes.map digest = recorded.postDigest
      · simp only [contiguous, not_true, if_false, if_true, Except.toOption, Option.bind_some]
        rw [guardedPlan_replaced]
      · simp [contiguous, Except.toOption]
  · have refused : ∀ ws, undoPath digest ws recorded = none := fun ws => if_neg restorable
    simp only [refused]
    unfold planPath
    cases reason : recorded.truncatedReason with
    | some text => cases planned digest targets ws <;> rfl
    | none =>
      have inconsistent : ¬ recorded.preArtifact.map digest = recorded.preDigest :=
        fun consistent => restorable ⟨reason, consistent⟩
      simp only [ne_eq, inconsistent, not_false_eq_true, if_true]
      cases planned digest targets ws <;> rfl

theorem planCheckpoint_distinct {digest : Bytes → D} {targets next : List (RestoreTarget D)}
    {checkpoint : CheckpointRecorded D} (distinct : DistinctPaths targets)
    (built : planCheckpoint digest targets checkpoint = .ok next) : DistinctPaths next :=
  foldlM_rel (fun before after => DistinctPaths before → DistinctPaths after)
    (fun _ kept => kept) (fun _ _ _ first second kept => second (first kept))
    (fun _ _ _ _ step kept => planPath_distinct kept step) built distinct

theorem planCheckpoint_planned (checkpoint : CheckpointRecorded D) (ws : Workspace)
    (distinct : DistinctPaths targets) :
    (planCheckpoint digest targets checkpoint).toOption.bind (planned digest · ws) =
      (planned digest targets ws).bind (undoCheckpoint digest · checkpoint) :=
  foldlM_meaning (G := DistinctPaths)
    (fun _ _ _ kept step => planPath_distinct kept step)
    (fun targets recorded ws kept => planPath_planned digest _ targets recorded ws kept)
    checkpoint.paths distinct ws

variable {plan : List (RestoreTarget D)}

theorem checkpointRestorePlan_distinct {digest : Bytes → D}
    {checkpoints : List (CheckpointRecorded D)}
    (built : checkpointRestorePlan digest checkpoints = .ok plan) : DistinctPaths plan :=
  foldlM_rel (fun before after => DistinctPaths before → DistinctPaths after)
    (fun _ kept => kept) (fun _ _ _ first second kept => second (first kept))
    (fun _ _ _ _ step kept => planCheckpoint_distinct kept step) built nodup_nil

/-- The plan of several checkpoints, newest first, takes them back one after another. -/
theorem checkpointRestorePlan_planned (checkpoints : List (CheckpointRecorded D)) (ws : Workspace) :
    (checkpointRestorePlan digest checkpoints).toOption.bind (planned digest · ws) =
      checkpoints.foldlM (undoCheckpoint digest) ws := by
  have nothing : planned digest ([] : List (RestoreTarget D)) ws = some ws := by
    simp [planned, attempt, Fits, guardedPlan]
  have noTargets : DistinctPaths ([] : List (RestoreTarget D)) := nodup_nil
  have folded : (checkpointRestorePlan digest checkpoints).toOption.bind (planned digest · ws) =
      (planned digest [] ws).bind fun ws => checkpoints.foldlM (undoCheckpoint digest) ws :=
    foldlM_meaning (G := DistinctPaths)
    (fun _ _ _ kept step => planCheckpoint_distinct kept step)
    (fun targets checkpoint ws kept => planCheckpoint_planned digest targets checkpoint ws kept)
    checkpoints noTargets ws
  exact folded

/-! ## A command is all or nothing -/

omit [DecidableEq D] in
/-- The recovery plan of a published restoration writes back what the captures kept. -/
theorem guardedPlan_recoveryPlan {digest : Bytes → D} {ws : Workspace}
    (fits : Fits (Node.shows digest) (guardedPlan plan) ws) :
    guardedPlan (recoveryPlan (plan.map (captureOf digest ws))) =
      inverse (Node.shows digest) (guardedPlan plan) ws := by
  unfold guardedPlan recoveryPlan inverse
  rw [map_map, map_map, map_map]
  refine map_congr_left fun target mem => ?_
  obtain ⟨content, held, _⟩ := content_of_shows digest
    ((fits_guardedPlan digest).mp fits target mem)
  simp only [Function.comp, guarded, captureOf, shows_ofContent, held,
    Option.join_some]
  rw [ofContent_of_content held]

/-- The recovery of a command that failed after its restoration gives the workspace back. -/
theorem recoverThen_restores {digest : Bytes → D} {ws : Workspace}
    (distinct : DistinctPaths plan) (fits : Fits (Node.shows digest) (guardedPlan plan) ws)
    (failure : Failure D) :
    recoverThen digest (put (guardedPlan plan) ws) (plan.map (captureOf digest ws)) failure =
      (ws, failure) := by
  have back := guardedPlan_recoveryPlan fits
  have samePaths : (recoveryPlan (plan.map (captureOf digest ws))).map (·.path) =
      plan.map (·.path) := by
    simp [recoveryPlan, captureOf, Function.comp_def]
  have distinctBack : ((recoveryPlan (plan.map (captureOf digest ws))).map (·.path)).Nodup := by
    rw [samePaths]
    exact distinct
  have fitsBack : Fits (Node.shows digest)
      (guardedPlan (recoveryPlan (plan.map (captureOf digest ws))))
      (put (guardedPlan plan) ws) := by
    rw [back]
    exact GuardedUpdate.inverse_fits distinct.guarded ws
  unfold recoverThen
  rw [restorePlan_faultless digest distinctBack fitsBack, back,
    GuardedUpdate.put_inverse distinct.guarded]

variable (hashing : Hashing D) (faults : Faults) (st : State D) (command : Command)
  (sources : List (CheckpointRecorded D)) (plan : List (RestoreTarget D))

/-- The checkpoint a command records for a plan it restored. -/
def commandRecord : CheckpointRecorded D :=
  let captures := plan.map (captureOf hashing.digest st.workspace)
  let input := freezeInput command sources
  { checkpointId := hashing.checkpointId input (hashing.captureDigest captures),
    branchId := input.branchId, runId := input.runId, effectId := input.effectId,
    callId := input.callId, seq := st.lastSeq + 5,
    kind := (sources.head?.map (·.kind)).getD .write, origin := input.origin,
    sourceCheckpointId := input.sourceCheckpointId, paths := captures.map freezePath,
    postDigest := hashing.captureDigest captures }

/-- The outcome of a command whose plan was installed and committed. -/
def commandDone : State D × Except (Failure D) (Receipt D) :=
  let checkpoint := commandRecord hashing st command sources plan
  ({ workspace := put (guardedPlan plan) st.workspace, checkpoints := checkpoint :: st.checkpoints,
     lastSeq := st.lastSeq + 5 },
    .ok { checkpoint := checkpoint, restoredCheckpointIds := sources.map (·.checkpointId) })

/-- A command answers with an error and changed nothing, or restored and recorded its plan. -/
theorem applyPlan_cases {plan : List (RestoreTarget D)} (distinct : DistinctPaths plan) :
    (∃ failure, applyPlan hashing faults st command sources plan = (st, .error failure)) ∨
      (Fits (Node.shows hashing.digest) (guardedPlan plan) st.workspace ∧
        applyPlan hashing faults st command sources plan =
          commandDone hashing st command sources plan) := by
  unfold applyPlan
  rcases restorePlan_whole_or_none hashing.digest faults.install distinct st.workspace with
    ⟨fits, whole⟩ | ⟨_, error, none⟩
  · rw [whole]
    simp only [recoverThen_restores distinct fits]
    cases frozen : faults.freeze with
    | some error => exact .inl ⟨_, rfl⟩
    | none =>
      simp only [freezeCheckpoint]
      cases encoded : faults.envelopes with
      | some error => exact .inl ⟨_, rfl⟩
      | none =>
        simp only
        cases committed : faults.commit with
        | some error => exact .inl ⟨_, rfl⟩
        | none =>
          simp only [commitCheckpoint]
          split
          · rename_i failed
            exact .inl ⟨_, rfl⟩
          · rename_i done
            split at done
            · cases done
            · cases done
              exact .inr ⟨fits, rfl⟩
  · rw [none]
    exact .inl ⟨_, rfl⟩

/-- The plan is in place and nothing else changed; the one new checkpoint describes it. -/
structure Applied (digest : Bytes → D) (plan : List (RestoreTarget D)) (before after : State D)
    (receipt : Receipt D) : Prop where
  restored : ∀ target ∈ plan, after.workspace target.path = .ofContent target.restoreBytes
  others : ∀ path, path ∉ plan.map (·.path) → after.workspace path = before.workspace path
  committed : after.checkpoints = receipt.checkpoint :: before.checkpoints
  described : receipt.checkpoint.paths.map (fun recorded =>
      (recorded.path, some recorded.preDigest, some recorded.postDigest)) =
    plan.map fun target => (target.path, (before.workspace target.path).shows digest,
      (after.workspace target.path).shows digest)

/-- A command applies its whole plan or leaves the state as it was. -/
def AllOrNothing (before : State D) (outcome : State D × Except (Failure D) (Receipt D)) : Prop :=
  match outcome with
  | (after, .error _) => after = before
  | (after, .ok receipt) => Applied digest plan before after receipt

omit [DecidableEq D] in
@[simp] theorem freezePath_shows (captured : CapturePath D) :
    (freezePath captured).path = captured.path ∧
      (freezePath captured).preDigest = captured.preDigest ∧
      (freezePath captured).postDigest = captured.postDigest := by
  unfold freezePath
  split
  · split <;> exact ⟨rfl, rfl, rfl⟩
  · exact ⟨rfl, rfl, rfl⟩

variable {plan}

omit [DecidableEq D] in
theorem applied_commandDone {hashing : Hashing D} {st : State D}
    (distinct : DistinctPaths plan)
    (fits : Fits (Node.shows hashing.digest) (guardedPlan plan) st.workspace) :
    AllOrNothing hashing.digest plan st (commandDone hashing st command sources plan) := by
  have restored : ∀ target ∈ plan, put (guardedPlan plan) st.workspace target.path =
      .ofContent target.restoreBytes := fun target mem =>
    GuardedUpdate.put_of_mem distinct.guarded (mem_map_of_mem (f := guarded) mem) _
  refine ⟨restored, fun path untouched => put_of_not_path untouched, rfl, ?_⟩
  simp only [commandRecord, map_map]
  refine map_congr_left fun target mem => ?_
  simp only [Function.comp, freezePath_shows, captureOf, restored target mem, shows_ofContent,
    (fits_guardedPlan hashing.digest).mp fits target mem]

theorem applyPlan_allOrNothing (distinct : DistinctPaths plan) :
    AllOrNothing hashing.digest plan st (applyPlan hashing faults st command sources plan) := by
  rcases applyPlan_cases hashing faults st command sources distinct with
    ⟨failure, none⟩ | ⟨fits, done⟩
  · rw [none]
    exact rfl
  · rw [done]
    exact applied_commandDone command sources distinct fits

/-- A checkpoint command is all or nothing, whatever restore plan its checkpoints give and
whatever fails while it runs. From its plan on, for every plan with distinct paths: an error
leaves the state as it was, a receipt means that every target holds its restore content and
that exactly one checkpoint was recorded, which describes the change. And the plan of every
undo, redo and rollback is such a plan; a command that fails before it has one changes nothing. -/
theorem checkpointMutate_all_or_nothing (hashing : Hashing D) (faults : Faults) (st : State D)
    (command : Command) :
    (∀ sources plan, DistinctPaths plan →
      AllOrNothing hashing.digest plan st
        (applyPlan hashing faults st command sources plan)) ∧
    ((∃ failure, checkpointMutate hashing faults st command = (st, .error failure)) ∨
      ∃ sources plan,
        resolveCheckpointAction st.checkpoints command.branchId command.action = .ok sources ∧
        checkpointRestorePlan hashing.digest sources = .ok plan ∧
        AllOrNothing hashing.digest plan st (checkpointMutate hashing faults st command)) := by
  refine ⟨fun sources plan distinct =>
    applyPlan_allOrNothing hashing faults st command sources distinct, ?_⟩
  unfold checkpointMutate
  cases resolved : resolveCheckpointAction st.checkpoints command.branchId command.action with
  | error failure => exact .inl ⟨failure, rfl⟩
  | ok sources =>
    simp only
    cases built : checkpointRestorePlan hashing.digest sources with
    | error failure => exact .inl ⟨failure, rfl⟩
    | ok plan =>
      exact .inr ⟨sources, plan, rfl, built,
        applyPlan_allOrNothing hashing faults st command sources
          (checkpointRestorePlan_distinct built)⟩

/-- Two files to restore, of which the second fails after its bytes were published: both are
given back. -/
theorem checkpointMutate_all_or_nothing_secondInstall :
    let hashing : Hashing Bytes :=
      { digest := fun bytes => bytes, captureDigest := fun _ => "", idHash := fun _ _ => "" }
    let faults : Faults :=
      { Faults.none with install := fun path => if path = "b" then .afterPublish else .none }
    let st : State Bytes :=
      { workspace := fun path => if path = "a" then .file [1] else .absent, checkpoints := [],
        lastSeq := 0 }
    let plan : List (RestoreTarget Bytes) := [⟨"a", some [1], none⟩, ⟨"b", none, some [2]⟩]
    let outcome := applyPlan hashing faults st ⟨"c", none, .undo "last"⟩ [] plan
    AllOrNothing hashing.digest plan st outcome ∧ outcome.2.isOk = false ∧
      outcome.1.workspace "a" = .file [1] ∧ outcome.1.workspace "b" = .absent := by
  refine ⟨?_, by decide +kernel, by decide +kernel, by decide +kernel⟩
  exact (checkpointMutate_all_or_nothing _ _ _ _).1 _ _ (by
    unfold DistinctPaths
    decide)

end HaiderAgent.Checkpoint
