import HaiderAgent.Daemon.SessionHub.CheckpointHistory

/-!
# Taking checkpoint commands back

A checkpoint that describes a mutation (`Wrote`) takes it back, and the checkpoint a command
records describes what the command did. From these two facts: a rollback is the composition of
the undos of its checkpoints, every command is undone through the checkpoint it recorded, and
repeated undos and redos of `"last"` move between two workspaces only.
-/

namespace HaiderAgent.Checkpoint

open List

open GuardedUpdate (Fits Distinct put attempt write)
open CheckpointPath (back)

variable {D : Type}

/-! ## Records that describe a mutation -/

/-- Exactly the recorded paths changed, with complete pre-images and digests before and after. -/
structure Wrote (digest : Bytes → D) (before : Workspace) (checkpoint : CheckpointRecorded D)
    (after : Workspace) : Prop where
  paths : (checkpoint.paths.map (·.path)).Nodup
  others : ∀ path, path ∉ checkpoint.paths.map (·.path) → after path = before path
  whole : ∀ recorded ∈ checkpoint.paths, recorded.truncatedReason = none
  pre : ∀ recorded ∈ checkpoint.paths, before recorded.path = .ofContent recorded.preArtifact ∧
    recorded.preDigest = recorded.preArtifact.map digest
  post : ∀ recorded ∈ checkpoint.paths,
    (after recorded.path).shows digest = some recorded.postDigest

/-- Every file of the workspace is within the pre-image limit. -/
def WithinLimit (ws : Workspace) : Prop :=
  ∀ path bytes, ws path = .file bytes → bytes.length ≤ preimageMaxBytes

section Undo

variable [DecidableEq D] {digest : Bytes → D}

/-- Records of distinct paths that can be restored are one guarded update. -/
theorem foldlM_undoPath {paths : List (CheckpointPath D)} (distinct : (paths.map (·.path)).Nodup)
    (restorable : ∀ recorded ∈ paths, recorded.Restorable digest) (ws : Workspace) :
    paths.foldlM (undoPath digest) ws =
      attempt (Node.shows digest) (paths.map back) ws := by
  induction paths generalizing ws with
  | nil => simp [attempt, Fits, pure]
  | cons recorded paths ih =>
    obtain ⟨fresh, distinct⟩ := nodup_cons.mp distinct
    obtain ⟨first, rest⟩ := forall_mem_cons.mp restorable
    have apart : ∀ target ∈ paths.map back, ∀ node,
        Function.update ws recorded.path node target.key = ws target.key := by
      intro target mem node
      obtain ⟨other, found, rfl⟩ := mem_map.mp mem
      refine Function.update_of_ne (fun same => fresh ?_) _ _
      exact mem_map.mpr ⟨other, found, same⟩
    rw [foldlM_cons, map_cons, undoPath, if_pos first, write]
    by_cases shown : (ws recorded.path).shows digest = some recorded.postDigest
    · have here : (Node.shows digest) (ws recorded.back.key) = recorded.back.expected := shown
      rw [if_pos here]
      show foldlM (undoPath digest) (Function.update ws recorded.path _) paths = _
      rw [ih distinct rest]
      have same : Fits (Node.shows digest) (paths.map back)
            (Function.update ws recorded.path recorded.back.restore) ↔
          Fits (Node.shows digest) (recorded.back :: paths.map back) ws := by
        unfold Fits
        rw [forall_mem_cons]
        constructor
        · intro fits
          refine ⟨here, fun target mem => ?_⟩
          rw [← apart target mem recorded.back.restore]
          exact fits target mem
        · intro fits target mem
          rw [apart target mem]
          exact fits.2 target mem
      unfold attempt
      exact if_congr same rfl rfl
    · have hidden : ¬ (Node.shows digest) (ws recorded.back.key) = recorded.back.expected := shown
      have refused : ¬ Fits (Node.shows digest)
          (recorded.back :: paths.map back) ws := fun fits =>
        hidden (fits _ mem_cons_self)
      rw [if_neg hidden, attempt, if_neg refused]
      rfl

variable {before after : Workspace} {checkpoint : CheckpointRecorded D}

omit [DecidableEq D] in
theorem Wrote.restorable (wrote : Wrote digest before checkpoint after) :
    ∀ recorded ∈ checkpoint.paths, recorded.Restorable digest := fun recorded mem =>
  ⟨wrote.whole recorded mem, (wrote.pre recorded mem).2.symm⟩

/-- Taking a described mutation back gives the workspace from before it. -/
theorem Wrote.undo (wrote : Wrote digest before checkpoint after) :
    undoCheckpoint digest after checkpoint = some before := by
  have keys : (checkpoint.paths.map back).map (·.key) =
      checkpoint.paths.map (·.path) := by
    simp [back, Function.comp_def]
  have distinct : Distinct (checkpoint.paths.map back) := by
    unfold Distinct
    rw [keys]
    exact wrote.paths
  have fits : Fits (Node.shows digest) (checkpoint.paths.map back) after := by
    intro target mem
    obtain ⟨recorded, found, rfl⟩ := mem_map.mp mem
    exact wrote.post recorded found
  rw [undoCheckpoint, foldlM_undoPath wrote.paths wrote.restorable, attempt, if_pos fits]
  congr 1
  funext path
  by_cases touched : path ∈ checkpoint.paths.map (·.path)
  · obtain ⟨recorded, mem, rfl⟩ := mem_map.mp touched
    rw [(wrote.pre recorded mem).1]
    exact GuardedUpdate.put_of_mem distinct (mem_map_of_mem (f := back) mem) after
  · rw [GuardedUpdate.put_of_not_mem (by rw [keys]; exact touched), wrote.others path touched]

/-- A write that can be undone before it happened wrote nothing new. -/
theorem Wrote.eq_of_undo (injective : Function.Injective digest)
    (wrote : Wrote digest before checkpoint after)
    (again : undoCheckpoint digest before checkpoint ≠ none) : after = before := by
  rw [undoCheckpoint, foldlM_undoPath wrote.paths wrote.restorable] at again
  have fits : Fits (Node.shows digest) (checkpoint.paths.map back) before := by
    by_contra unfit
    exact again (if_neg unfit)
  funext path
  by_cases touched : path ∈ checkpoint.paths.map (·.path)
  · obtain ⟨recorded, mem, rfl⟩ := mem_map.mp touched
    have old : (before recorded.path).shows digest = some recorded.postDigest :=
      fits _ (mem_map_of_mem (f := back) mem)
    obtain ⟨content, held, shown⟩ := content_of_shows digest old
    obtain ⟨newContent, newHeld, newShown⟩ := content_of_shows digest (wrote.post recorded mem)
    have same : newContent = content :=
      Option.map_injective injective (newShown.trans shown.symm)
    rw [← ofContent_of_content held, ← ofContent_of_content newHeld, same]
  · exact wrote.others path touched

end Undo

/-! ## What a command records -/

theorem freezePath_within {captured : CapturePath D}
    (within : ∀ bytes, captured.preBytes = some bytes → bytes.length ≤ preimageMaxBytes) :
    freezePath captured =
      { path := captured.path, preArtifact := captured.preBytes, preDigest := captured.preDigest,
        postDigest := captured.postDigest, truncatedReason := captured.truncatedReason } := by
  unfold freezePath
  cases held : captured.preBytes with
  | none => rfl
  | some bytes => simp [within bytes held]

/-- The checkpoint a command records describes what the command did. -/
theorem wrote_performed {hashing : Hashing D} {st : State D} (command : Command)
    (sources : List (CheckpointRecorded D)) {plan : List (RestoreTarget D)}
    (distinct : DistinctPaths plan)
    (fits : Fits (Node.shows hashing.digest) (guardedPlan plan) st.workspace)
    (within : WithinLimit st.workspace) :
    Wrote hashing.digest st.workspace (commandRecord hashing st command sources plan)
      (put (guardedPlan plan) st.workspace) := by
  have each : ∀ recorded ∈ (commandRecord hashing st command sources plan).paths,
      ∃ target ∈ plan, ∃ content, (st.workspace target.path).content = some content ∧
        content.map hashing.digest = target.expectedDigest ∧ recorded =
          { path := target.path, preArtifact := content, preDigest := target.expectedDigest,
            postDigest := target.restoreBytes.map hashing.digest, truncatedReason := none } := by
    intro recorded mem
    obtain ⟨target, planned, rfl⟩ : ∃ target ∈ plan,
        freezePath (captureOf hashing.digest st.workspace target) = recorded := by
      simpa [commandRecord] using mem
    obtain ⟨content, held, shown⟩ := content_of_shows hashing.digest
      ((fits_guardedPlan hashing.digest).mp fits target planned)
    refine ⟨target, planned, content, held, shown, ?_⟩
    rw [freezePath_within]
    · simp [captureOf, held]
    · intro bytes captured
      simp only [captureOf, held, Option.join_some] at captured
      refine within target.path bytes ?_
      rw [← ofContent_of_content held, captured]
      rfl
  have samePaths : (commandRecord hashing st command sources plan).paths.map (·.path) =
      plan.map (·.path) := by
    simp [commandRecord, captureOf, Function.comp_def]
  refine ⟨?_, ?_, ?_, ?_, ?_⟩
  · rw [samePaths]
    exact distinct
  · intro path untouched
    rw [samePaths] at untouched
    exact put_of_not_path untouched
  · intro recorded mem
    obtain ⟨target, _, content, _, _, rfl⟩ := each recorded mem
    rfl
  · intro recorded mem
    obtain ⟨target, _, content, held, shown, rfl⟩ := each recorded mem
    exact ⟨(ofContent_of_content held).symm, shown.symm⟩
  · intro recorded mem
    obtain ⟨target, planned, content, _, _, rfl⟩ := each recorded mem
    exact shows_of_put hashing.digest distinct target planned

theorem WithinLimit.undo [DecidableEq D] {digest : Bytes → D} {ws after : Workspace}
    (within : WithinLimit ws) {checkpoint : CheckpointRecorded D}
    (bounded : ∀ recorded ∈ checkpoint.paths, ∀ bytes,
      recorded.preArtifact = some bytes → bytes.length ≤ preimageMaxBytes)
    (undone : undoCheckpoint digest ws checkpoint = some after) : WithinLimit after := by
  unfold undoCheckpoint at undone
  generalize checkpoint.paths = paths at bounded undone
  induction paths generalizing ws with
  | nil =>
    cases undone
    exact within
  | cons recorded paths ih =>
    obtain ⟨first, rest⟩ := forall_mem_cons.mp bounded
    obtain ⟨next, here, later⟩ := Option.bind_eq_some_iff.mp undone
    refine ih ?_ rest later
    unfold undoPath write at here
    split at here
    · split at here
      · cases here
        intro path bytes held
        by_cases same : path = recorded.path
        · rw [same] at held
          simp only [back, Function.update_self] at held
          refine first bytes ?_
          cases artifact : recorded.preArtifact with
          | none => simp [artifact, Node.ofContent] at held
          | some frozen =>
            rw [artifact] at held
            cases held
            rfl
        · rw [back, Function.update_of_ne same] at held
          exact within path bytes held
      · cases here
    · cases here

end HaiderAgent.Checkpoint
