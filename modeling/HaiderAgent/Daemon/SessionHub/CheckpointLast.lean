import HaiderAgent.Daemon.SessionHub.CheckpointRollback

/-!
# Undo and redo of `"last"`

`undo "last"` selects the newest checkpoint of the branch whatever recorded it, so a second undo
takes the first one back (`Facing`); `redo "last"` selects the newest checkpoint of an undo or a
rollback, which a redo does not replace, so every redo takes the same one back (`Redoing`).
-/

namespace HaiderAgent.Checkpoint

open List

variable {D : Type} [DecidableEq D] {hashing : Hashing D}

/-- `checkpoint.undo` of `"last"`, one command after another. -/
def undosLast (hashing : Hashing D) (branch : Option BranchId) (st : State D)
    (commands : List CommandId) : Option (State D) :=
  commands.foldlM (fun st command => perform hashing st ⟨command, branch, .undo "last"⟩) st

/-- `checkpoint.redo` of `"last"`, one command after another. -/
def redosLast (hashing : Hashing D) (branch : Option BranchId) (st : State D)
    (commands : List CommandId) : Option (State D) :=
  commands.foldlM (fun st command => perform hashing st ⟨command, branch, .redo "last"⟩) st

/-! ## Undos -/

/-- The newest checkpoint of the branch is an undo from `other` to the current workspace. -/
structure Facing (hashing : Hashing D) (branch : Option BranchId) (other : Workspace)
    (st : State D) : Prop where
  kept : WellKept hashing st
  within : WithinLimit st.workspace
  newest : ∃ checkpoint older, rowsBefore st.checkpoints branch none = checkpoint :: older ∧
    checkpoint.origin = .undo ∧ Wrote hashing.digest other checkpoint st.workspace

variable {branch : Option BranchId}

omit [DecidableEq D] in
theorem rowsBefore_cons {checkpoints : List (CheckpointRecorded D)}
    {checkpoint : CheckpointRecorded D} (onBranch : checkpoint.branchId = branch) :
    rowsBefore (checkpoint :: checkpoints) branch none =
      checkpoint :: rowsBefore checkpoints branch none := by
  simp [rowsBefore, onBranch]

variable {st after : State D} {command : CommandId}

variable (free : hashing.CollisionFree)
include free

/-- An undo of `"last"` took the newest checkpoint back; what it recorded faces its start. -/
theorem Facing.of_undo (kept : WellKept hashing st) (within : WithinLimit st.workspace)
    (unused : Unused st command)
    (done : perform hashing st ⟨command, branch, .undo "last"⟩ = some after) :
    Facing hashing branch st.workspace after ∧
      (∀ other, other ≠ command → Unused st other → Unused after other) ∧
      ∃ checkpoint, (rowsBefore st.checkpoints branch none).head? = some checkpoint ∧
        undoCheckpoint hashing.digest st.workspace checkpoint = some after.workspace := by
  have unusedHere : Unused st (Command.mk command branch (.undo "last")).commandId := unused
  obtain ⟨recorded, table, onBranch, origin, wrote, keptAfter, fresh⟩ :=
    perform_recorded free kept unusedHere within done
  cases newest : (rowsBefore st.checkpoints branch none).head? with
  | none =>
    rw [perform, checkpointMutate, resolve_undo_last, newest] at done
    cases done
  | some checkpoint =>
    have resolved : resolveCheckpointAction st.checkpoints branch (.undo "last") =
        .ok [checkpoint] := by
      rw [resolve_undo_last, newest]
      rfl
    have undone := perform_single free kept unusedHere resolved
    rw [done] at undone
    have mem : checkpoint ∈ st.checkpoints :=
      (mem_rowsBefore.mp (mem_of_mem_head? newest)).1
    refine ⟨⟨keptAfter, within.undo (kept.bounded checkpoint mem) undone.symm, ?_⟩, fresh,
      checkpoint, rfl, undone.symm⟩
    refine ⟨recorded, rowsBefore st.checkpoints branch none, ?_, origin, wrote⟩
    rw [table]
    exact rowsBefore_cons onBranch

variable {other : Workspace}

/-- From a workspace that faces another, an undo of `"last"` swaps the two. -/
theorem Facing.undo (facing : Facing hashing branch other st) (unused : Unused st command)
    (done : perform hashing st ⟨command, branch, .undo "last"⟩ = some after) :
    Facing hashing branch st.workspace after ∧ after.workspace = other ∧
      ∀ next, next ≠ command → Unused st next → Unused after next := by
  obtain ⟨facingAfter, fresh, checkpoint, newest, undone⟩ :=
    Facing.of_undo free facing.kept facing.within unused done
  obtain ⟨recorded, older, rows, _, wrote⟩ := facing.newest
  rw [rows, head?_cons] at newest
  cases newest
  rw [wrote.undo] at undone
  exact ⟨facingAfter, (Option.some.inj undone).symm, fresh⟩

/-- Two workspaces in either order. -/
def Pair (first second : Workspace) (now other : Workspace) : Prop :=
  (now = first ∧ other = second) ∨ (now = second ∧ other = first)

variable {first second : Workspace} {commands : List CommandId}

/-- Undoing the last change over and over goes back and forth between two workspaces. -/
theorem Facing.undos (nodup : commands.Nodup) (facing : Facing hashing branch other st)
    (pair : Pair first second st.workspace other) (unused : ∀ command ∈ commands, Unused st command)
    (done : undosLast hashing branch st commands = some after) :
    ∃ facedBy, Facing hashing branch facedBy after ∧
      Pair first second after.workspace facedBy ∧
      ∀ next, next ∉ commands → Unused st next → Unused after next := by
  induction commands generalizing st other with
  | nil =>
    cases done
    exact ⟨other, facing, pair, fun _ _ unusedNext => unusedNext⟩
  | cons command commands ih =>
    obtain ⟨new, nodup⟩ := nodup_cons.mp nodup
    obtain ⟨unusedHere, unusedLater⟩ := forall_mem_cons.mp unused
    obtain ⟨middle, here, later⟩ := Option.bind_eq_some_iff.mp done
    obtain ⟨facingNext, swapped, fresh⟩ := facing.undo free unusedHere here
    have pairNext : Pair first second middle.workspace st.workspace := by
      rw [swapped]
      rcases pair with ⟨now, before⟩ | ⟨now, before⟩
      · exact .inr ⟨before, now⟩
      · exact .inl ⟨before, now⟩
    have unusedNext : ∀ next ∈ commands, Unused middle next := fun next mem =>
      fresh next (fun same => new (same ▸ mem)) (unusedLater next mem)
    obtain ⟨facedBy, facingLast, pairLast, freshLast⟩ :=
      ih nodup facingNext pairNext unusedNext later
    refine ⟨facedBy, facingLast, pairLast, fun next outside unusedNow => ?_⟩
    rw [mem_cons, not_or] at outside
    exact freshLast next outside.2 (fresh next outside.1 unusedNow)

omit free

/-! ## Redos -/

/-- A redo of `"last"` selects a checkpoint that led from one workspace to another. -/
structure Redoing (hashing : Hashing D) (branch : Option BranchId) (first second : Workspace)
    (st : State D) : Prop where
  kept : WellKept hashing st
  within : WithinLimit st.workspace
  selects : ∃ checkpoint,
    (rowsBefore st.checkpoints branch none).find? (redoable none) = some checkpoint ∧
      Wrote hashing.digest first checkpoint second ∧
      ∀ recorded ∈ checkpoint.paths, ∀ bytes,
        recorded.preArtifact = some bytes → bytes.length ≤ preimageMaxBytes

omit [DecidableEq D] in
theorem Facing.redoing (facing : Facing hashing branch other st) :
    Redoing hashing branch other st.workspace st := by
  obtain ⟨checkpoint, older, rows, origin, wrote⟩ := facing.newest
  refine ⟨facing.kept, facing.within, checkpoint, ?_, wrote, ?_⟩
  · rw [rows, find?_cons]
    simp [redoable, origin]
  · have row : checkpoint ∈ rowsBefore st.checkpoints branch none := by
      rw [rows]
      exact mem_cons_self
    exact facing.kept.bounded checkpoint (mem_rowsBefore.mp row).1

/-- A redo of `"last"` takes the selected checkpoint back where it can, and leaves it selected. -/
theorem Redoing.redo (free : hashing.CollisionFree)
    (redoing : Redoing hashing branch first second st) (unused : Unused st command) :
    ∃ checkpoint, Wrote hashing.digest first checkpoint second ∧
      (perform hashing st ⟨command, branch, .redo "last"⟩).map (·.workspace) =
        undoCheckpoint hashing.digest st.workspace checkpoint ∧
      ∀ after, perform hashing st ⟨command, branch, .redo "last"⟩ = some after →
        Redoing hashing branch first second after ∧
          ∀ next, next ≠ command → Unused st next → Unused after next := by
  have unusedHere : Unused st (Command.mk command branch (.redo "last")).commandId := unused
  obtain ⟨checkpoint, found, wrote, bounded⟩ := redoing.selects
  have resolved : resolveCheckpointAction st.checkpoints branch (.redo "last") =
      .ok [checkpoint] := by
    rw [resolve_redo_last redoing.kept, found]
    rfl
  have redone := perform_single free redoing.kept unusedHere resolved
  refine ⟨checkpoint, wrote, redone, fun after done => ?_⟩
  obtain ⟨recorded, table, onBranch, origin, _, keptAfter, fresh⟩ :=
    perform_recorded free redoing.kept unusedHere redoing.within done
  rw [done] at redone
  refine ⟨⟨keptAfter, redoing.within.undo bounded redone.symm, checkpoint, ?_, wrote, bounded⟩,
    fresh⟩
  have skipped : redoable none recorded = false := by simp [redoable, origin, Action.origin]
  have rows : rowsBefore after.checkpoints branch none =
      recorded :: rowsBefore st.checkpoints branch none := by
    rw [table]
    exact rowsBefore_cons onBranch
  rw [rows, find?_cons, skipped]
  exact found

theorem Redoing.redos_unchanged (free : hashing.CollisionFree) {ws : Workspace}
    (nodup : commands.Nodup) (redoing : Redoing hashing branch ws ws st) (here : st.workspace = ws)
    (unused : ∀ command ∈ commands, Unused st command) :
    ∃ after, redosLast hashing branch st commands = some after ∧ after.workspace = ws := by
  induction commands generalizing st with
  | nil => exact ⟨st, rfl, here⟩
  | cons command commands ih =>
    obtain ⟨new, nodup⟩ := nodup_cons.mp nodup
    obtain ⟨unusedHere, unusedLater⟩ := forall_mem_cons.mp unused
    obtain ⟨checkpoint, wrote, redone, kept⟩ := redoing.redo free unusedHere
    rw [here, wrote.undo] at redone
    obtain ⟨middle, done, same⟩ := Option.map_eq_some_iff.mp redone
    obtain ⟨redoingNext, fresh⟩ := kept middle done
    have unusedNext : ∀ next ∈ commands, Unused middle next := fun next mem =>
      fresh next (fun equal => new (equal ▸ mem)) (unusedLater next mem)
    obtain ⟨after, rest, last⟩ := ih nodup redoingNext same unusedNext
    refine ⟨after, ?_, last⟩
    rw [redosLast, foldlM_cons, done]
    exact rest

/-! ## As many redos as undos -/

/-- After `n` undos of `"last"` that all succeeded, `n` redos of `"last"` all succeed and restore
the workspace exactly when `n` is one or the first undo changed nothing. With two or more the
second undo takes the first back, and the second redo meets the checkpoint the first redo took
back already. -/
theorem redosLast_restore_iff (free : hashing.CollisionFree) {branch : Option BranchId}
    {st after : State D} (kept : WellKept hashing st) (within : WithinLimit st.workspace)
    {undo : CommandId} {undos redos : List CommandId}
    (aligned : redos.length = (undo :: undos).length) (nodup : ((undo :: undos) ++ redos).Nodup)
    (unused : ∀ command ∈ (undo :: undos) ++ redos, Unused st command)
    (undone : undosLast hashing branch st (undo :: undos) = some after) :
    (∃ last, redosLast hashing branch after redos = some last ∧
        last.workspace = st.workspace) ↔
      ((undo :: undos).length = 1 ∨
        ∀ first, perform hashing st ⟨undo, branch, .undo "last"⟩ = some first →
          first.workspace = st.workspace) := by
  obtain ⟨nodupUndos, nodupRedos, apart⟩ := nodup_append.mp nodup
  obtain ⟨newFirst, nodupLater⟩ := nodup_cons.mp nodupUndos
  rw [undosLast, foldlM_cons] at undone
  obtain ⟨first, here, later⟩ := Option.bind_eq_some_iff.mp undone
  have unusedFirst : Unused st undo := unused undo (by simp)
  obtain ⟨facing, fresh, _⟩ := Facing.of_undo free kept within unusedFirst here
  have unusedLater : ∀ command ∈ undos, Unused first command := fun command member =>
    fresh command (fun same => newFirst (same ▸ member)) (unused command (by simp [member]))
  have pair : Pair first.workspace st.workspace first.workspace st.workspace := .inl ⟨rfl, rfl⟩
  obtain ⟨other, facingLast, pairLast, freshLast⟩ :=
    facing.undos free nodupLater pair unusedLater later
  have redoing := facingLast.redoing
  have unusedRedos : ∀ command ∈ redos, Unused after command := by
    intro command member
    have notUndo : command ≠ undo := fun same => apart undo (by simp) command member same.symm
    have notLater : command ∉ undos := fun found => apart command (by simp [found]) command member rfl
    exact freshLast command notLater (fresh command notUndo (unused command (by simp [member])))
  constructor
  · rintro ⟨last, redone, restored⟩
    cases undos with
    | nil => exact .inl rfl
    | cons undo' undos =>
      right
      intro firstState performed
      rw [here] at performed
      cases performed
      match redos, aligned with
      | redo :: redo' :: redos, _ =>
        -- the first redo reaches the faced workspace, the second needs the checkpoint there
        rw [redosLast, foldlM_cons] at redone
        obtain ⟨second, done, rest⟩ := Option.bind_eq_some_iff.mp redone
        rw [foldlM_cons] at rest
        obtain ⟨third, again, _⟩ := Option.bind_eq_some_iff.mp rest
        obtain ⟨checkpoint, wrote, back, kept⟩ :=
          redoing.redo free (unusedRedos redo mem_cons_self)
        rw [done, wrote.undo] at back
        have reached : second.workspace = other := Option.some.inj back
        obtain ⟨redoingNext, freshNext⟩ := kept second done
        have unusedSecond : Unused second redo' := by
          refine freshNext redo' (fun same => ?_) (unusedRedos redo' (by simp))
          rw [same] at nodupRedos
          simp at nodupRedos
        obtain ⟨checkpoint', wrote', back', _⟩ := redoingNext.redo free unusedSecond
        rw [again, reached] at back'
        have unchanged : after.workspace = other :=
          wrote'.eq_of_undo free.digest (by rw [← back']; exact Option.some_ne_none _)
        rcases pairLast with ⟨now, faced⟩ | ⟨now, faced⟩
        · rw [← now, unchanged, faced]
        · rw [← faced, ← unchanged, now]
  · rintro (single | unchanged)
    · have none : undos = [] := by simpa using single
      subst none
      cases later
      match redos, aligned with
      | [redo], _ =>
        obtain ⟨checkpoint, wrote, back, _⟩ :=
          facing.redoing.redo free (unusedRedos redo mem_cons_self)
        rw [wrote.undo] at back
        obtain ⟨last, done, restored⟩ := Option.map_eq_some_iff.mp back
        refine ⟨last, ?_, restored⟩
        rw [redosLast, foldlM_cons, done]
        rfl
    · have same := unchanged first here
      have both : after.workspace = st.workspace ∧ other = st.workspace := by
        rcases pairLast with ⟨now, faced⟩ | ⟨now, faced⟩
        · exact ⟨now.trans same, faced⟩
        · exact ⟨now, faced.trans same⟩
      rw [both.1, both.2] at redoing
      exact redoing.redos_unchanged free nodupRedos both.1 unusedRedos

/-- One undo and one redo, at the small session. -/
theorem redosLast_restore_iff_twoWrites :
    ∃ after last, undosLast plainHashing none twoWrites ["u1"] = some after ∧
      redosLast plainHashing none after ["r1"] = some last ∧
      last.workspace = twoWrites.workspace := by
  have unused : ∀ command ∈ ["u1"] ++ ["r1"], Unused twoWrites command := by
    unfold Unused
    decide
  obtain ⟨after, undone⟩ := Option.isSome_iff_exists.mp
    (show (undosLast plainHashing none twoWrites ["u1"]).isSome = true by decide +kernel)
  have aligned : ["r1"].length = ["u1"].length := rfl
  obtain ⟨last, redone, restored⟩ := (redosLast_restore_iff plainHashing_collisionFree
    twoWrites_wellKept twoWrites_withinLimit aligned (by decide) unused undone).mpr (.inl rfl)
  exact ⟨after, last, undone, redone, restored⟩

/-- Two undos of `"last"` at the small session succeed and leave the workspace as it was; of the
two redos after them the second is refused. -/
theorem redosLast_refused_after_two_undos :
    (undosLast plainHashing none twoWrites ["u1", "u2"]).isSome = true ∧
      (undosLast plainHashing none twoWrites ["u1", "u2"] >>= fun after =>
        redosLast plainHashing none after ["r1"]).isSome = true ∧
      (undosLast plainHashing none twoWrites ["u1", "u2"] >>= fun after =>
        redosLast plainHashing none after ["r1", "r2"]).isNone = true ∧
      ((undosLast plainHashing none twoWrites ["u1", "u2"]).map (·.workspace "a")) =
        some (.file [2]) := by
  decide +kernel

end HaiderAgent.Checkpoint
