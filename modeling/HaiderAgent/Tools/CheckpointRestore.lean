import HaiderAgent.Tools.Checkpoint

/-!
# A restoration happens as a whole or not at all

The restore plan read as a guarded update of the workspace: verification and capture succeed exactly
when the plan fits, and the install loop leaves the plan written or, after the rollback of what it
had applied, the workspace it started from.
-/

namespace HaiderAgent.Checkpoint

open List

open GuardedUpdate (Fits Distinct put inverse attempt)

variable {D : Type} (digest : Bytes → D)

/-! ## Restore plans as guarded updates -/

/-- The digest a node shows, where it can be read. -/
def Node.shows (node : Node) : Option (Option D) := node.content.map (Option.map digest)

/-- A restore target as a guarded write. -/
def RestoreTarget.guarded (target : RestoreTarget D) :
    GuardedUpdate.Target Path (Option (Option D)) Node :=
  { key := target.path, expected := some target.expectedDigest,
    restore := .ofContent target.restoreBytes }

/-- A restore plan as a guarded update. -/
def guardedPlan (plan : List (RestoreTarget D)) :
    List (GuardedUpdate.Target Path (Option (Option D)) Node) :=
  plan.map RestoreTarget.guarded

/-- What the capture loop keeps of one target. -/
def captureOf (ws : Workspace) (target : RestoreTarget D) : CapturePath D :=
  { path := target.path, preDigest := target.expectedDigest,
    preBytes := (ws target.path).content.join, postDigest := target.restoreBytes.map digest,
    truncatedReason := none }

@[simp] theorem content_ofContent (content : Option Bytes) :
    (Node.ofContent content).content = some content := by
  cases content <;> rfl

@[simp] theorem shows_ofContent (content : Option Bytes) :
    (Node.ofContent content).shows digest = some (content.map digest) := by
  simp [Node.shows]

variable {node : Node} {content : Option Bytes}

theorem ofContent_of_content (held : node.content = some content) :
    Node.ofContent content = node := by
  cases node <;> cases held <;> rfl

variable {shown : Option D}

theorem content_of_shows (shows : node.shows digest = some shown) :
    ∃ content, node.content = some content ∧ content.map digest = shown := by
  simpa [Node.shows] using shows

@[simp] theorem guardedPlan_keys (plan : List (RestoreTarget D)) :
    (guardedPlan plan).map (·.key) = plan.map (·.path) := by
  simp [guardedPlan, RestoreTarget.guarded, Function.comp_def]

variable {plan : List (RestoreTarget D)} {ws : Workspace}

/-- Every target of the plan shows the digest it expects. -/
abbrev PlanFits (plan : List (RestoreTarget D)) (ws : Workspace) : Prop :=
  ∀ target ∈ plan, (ws target.path).shows digest = some target.expectedDigest

theorem fits_guardedPlan :
    Fits (Node.shows digest) (guardedPlan plan) ws ↔ PlanFits digest plan ws := by
  simp [Fits, guardedPlan, RestoreTarget.guarded]

variable {path : Path}

theorem readPath_of_content (held : (ws path).content = some content) :
    readPath ws path = .ok content := by
  unfold readPath
  cases node : ws path <;> rw [node] at held <;> cases held <;> rfl

theorem digestPath_of_shows
    (shows : (ws path).shows digest = some shown) : digestPath digest ws path = .ok shown := by
  obtain ⟨content, held, same⟩ := content_of_shows digest shows
  unfold digestPath
  rw [readPath_of_content held, ← same]
  rfl

theorem shows_of_digestPath
    (read : digestPath digest ws path = .ok shown) : (ws path).shows digest = some shown := by
  unfold digestPath readPath at read
  cases node : ws path <;> rw [node] at read <;> cases read <;> rfl

theorem shows_update {targets : List (RestoreTarget D)}
    {shown : RestoreTarget D → Option (Option D)} (fresh : path ∉ targets.map (·.path))
    (shows : ∀ target ∈ targets, (ws target.path).shows digest = shown target) :
    ∀ target ∈ targets, (Function.update ws path node target.path).shows digest = shown target := by
  intro target mem
  have apart : target.path ≠ path := fun same => fresh (mem_map.mpr ⟨target, mem, same⟩)
  rw [Function.update_of_ne apart]
  exact shows target mem

/-! ## Verification and capture -/

variable [DecidableEq D]

theorem verifyTargets_of_fits (fits : PlanFits digest plan ws) (verified : List Path)
    (conflicts : List (Conflict D)) :
    verifyTargets digest ws plan verified conflicts =
      .ok (verified ++ plan.map (·.path), conflicts) := by
  induction plan generalizing verified with
  | nil => simp [verifyTargets]
  | cons target plan ih =>
    obtain ⟨first, rest⟩ := forall_mem_cons.mp fits
    rw [verifyTargets, digestPath_of_shows digest first]
    simp [ih rest]

theorem fits_of_verifyTargets {verified found : List Path} {conflicts : List (Conflict D)}
    (returned : verifyTargets digest ws plan verified conflicts = .ok (found, [])) :
    conflicts = [] ∧ PlanFits digest plan ws := by
  induction plan generalizing verified conflicts with
  | nil =>
    cases returned
    exact ⟨rfl, forall_mem_nil _⟩
  | cons target plan ih =>
    rw [verifyTargets] at returned
    split at returned
    · rename_i current read
      split at returned
      · rename_i same
        obtain ⟨none, rest⟩ := ih returned
        refine ⟨none, forall_mem_cons.mpr ⟨?_, rest⟩⟩
        rw [← same]
        exact shows_of_digestPath digest read
      · exact absurd (ih returned).1 (by simp)
    · exact absurd (ih returned).1 (by simp)
    · cases returned

theorem verifyRestorePlan_eq_ok :
    verifyRestorePlan digest plan ws = .ok () ↔ PlanFits digest plan ws := by
  constructor
  · intro returned
    unfold verifyRestorePlan at returned
    split at returned
    · cases returned
    · rename_i verified conflicts loop
      split at returned
      · rename_i none
        rw [isEmpty_iff.mp none] at loop
        exact (fits_of_verifyTargets digest loop).2
      · cases returned
  · intro fits
    unfold verifyRestorePlan
    rw [verifyTargets_of_fits digest fits]
    rfl

theorem captureTargets_of_fits (fits : PlanFits digest plan ws) (captures : List (CapturePath D)) :
    captureTargets digest ws plan captures = .ok (captures ++ plan.map (captureOf digest ws)) := by
  induction plan generalizing captures with
  | nil => simp [captureTargets]
  | cons target plan ih =>
    obtain ⟨first, rest⟩ := forall_mem_cons.mp fits
    obtain ⟨content, held, same⟩ := content_of_shows digest first
    rw [captureTargets, readPath_of_content held]
    simp only [same, if_true]
    rw [ih rest]
    simp [captureOf, held]

/-! ## One install -/

theorem installState_of_shows {expected : Option D}
    (shows : (ws path).shows digest = some expected) (fault : InstallFault) (bytes : Option Bytes) :
    installState digest fault ws path expected bytes =
      match fault with
      | .none => (Function.update ws path (.ofContent bytes), .ok ())
      | .conflict => (ws, .error (.conflict expected))
      | .beforePublish => (ws, .error (.tool (.io "publish checkpoint restore" path)))
      | .afterPublish =>
        (Function.update ws path (.ofContent bytes),
          .error (.tool (.io "sync checkpoint parent" path))) := by
  obtain ⟨content, held, same⟩ := content_of_shows digest shows
  unfold installState
  rw [readPath_of_content held]
  cases fault <;> simp [same]

theorem rollbackOne_of_shows {target : RestoreTarget D}
    (shows : (ws target.path).shows digest = some (target.restoreBytes.map digest))
    (capture : CapturePath D) :
    rollbackOne digest ws target capture =
      (Function.update ws target.path (.ofContent capture.preBytes), .ok ()) := by
  unfold rollbackOne
  rw [digestPath_of_shows digest shows]
  simp only [if_true]
  rw [installState_of_shows digest shows]

/-! ## The rollback -/

variable {earlier : Workspace}

/-- A rollback that meets what was installed puts everything back. -/
theorem rollbackEach_of_shows {applied : List (RestoreTarget D)}
    (distinct : (applied.map (·.path)).Nodup) (shows : ∀ target ∈ applied,
      (ws target.path).shows digest = some (target.restoreBytes.map digest))
    (readable : ∀ target ∈ applied, ((earlier target.path).content).isSome) :
    rollbackEach digest (applied.map fun target => (target, captureOf digest earlier target)) ws [] =
      (put (inverse (Node.shows digest) (guardedPlan applied) earlier) ws, []) := by
  induction applied generalizing ws with
  | nil => rfl
  | cons target applied ih =>
    obtain ⟨first, rest⟩ := forall_mem_cons.mp shows
    obtain ⟨fresh, distinct⟩ := nodup_cons.mp distinct
    obtain ⟨readFirst, readable⟩ := forall_mem_cons.mp readable
    obtain ⟨content, held⟩ := Option.isSome_iff_exists.mp readFirst
    have captured : Node.ofContent (captureOf digest earlier target).preBytes =
        earlier target.path := by
      simp only [captureOf, held, Option.join_some]
      exact ofContent_of_content held
    rw [map_cons, rollbackEach, rollbackOne_of_shows digest first, captured]
    simp only
    rw [ih distinct (shows_update digest fresh rest) readable]
    rfl

section Restores

variable (distinct : (plan.map (·.path)).Nodup) (fits : PlanFits digest plan earlier)
  (applied : Nat) (shows : ∀ target ∈ plan.take applied,
    (ws target.path).shows digest = some (target.restoreBytes.map digest))
  (agree : ∀ path, path ∉ (plan.take applied).map (·.path) → ws path = earlier path)
include distinct fits shows agree

/-- `rollback_applied` gives the earlier workspace back, where the applied paths show what was
applied and every other path is as it was. -/
theorem rollbackApplied_restores :
    rollbackApplied digest ws plan (plan.map (captureOf digest earlier)) applied =
      (earlier, .ok ()) := by
  have pairs : ((plan.take applied).zip
      ((plan.map (captureOf digest earlier)).take applied)).reverse =
      (plan.take applied).reverse.map fun target => (target, captureOf digest earlier target) := by
    rw [← map_take, map_reverse]
    congr 1
    exact map_prod_left_eq_zip.symm
  have part : ((plan.take applied).reverse.map (·.path)).Nodup := by
    rw [map_reverse, nodup_reverse, map_take]
    exact distinct.sublist (take_sublist _ _)
  have readable : ∀ target ∈ (plan.take applied).reverse,
      ((earlier target.path).content).isSome := by
    intro target mem
    obtain ⟨content, held, _⟩ := content_of_shows digest
      (fits target (mem_of_mem_take (mem_reverse.mp mem)))
    rw [held]
    rfl
  have back : put (inverse (Node.shows digest) (guardedPlan (plan.take applied).reverse) earlier)
      ws = earlier := by
    refine GuardedUpdate.put_inverse_of_agree ?_ fun path untouched => agree path ?_
    · unfold Distinct
      rw [guardedPlan_keys]
      exact part
    · rw [guardedPlan_keys, map_reverse, mem_reverse] at untouched
      exact untouched
  unfold rollbackApplied
  rw [pairs, rollbackEach_of_shows digest part
    (fun target mem => shows target (mem_reverse.mp mem)) readable, back]

theorem rollbackThen_restores (error : RestoreError D) :
    rollbackThen digest ws plan (plan.map (captureOf digest earlier)) applied error =
      (earlier, .error error) := by
  unfold rollbackThen
  rw [rollbackApplied_restores digest distinct fits applied shows agree]

end Restores

/-! ## The install loop -/

variable {done : List (RestoreTarget D)}

omit [DecidableEq D] in
theorem shows_of_put (distinct : (done.map (·.path)).Nodup) :
    ∀ target ∈ done, ((put (guardedPlan done) earlier) target.path).shows digest =
      some (target.restoreBytes.map digest) := by
  intro target mem
  have guarded : Distinct (guardedPlan done) := by
    unfold Distinct
    rw [guardedPlan_keys]
    exact distinct
  have written : put (guardedPlan done) earlier target.path = .ofContent target.restoreBytes :=
    GuardedUpdate.put_of_mem guarded (mem_map_of_mem mem) earlier
  rw [written, shows_ofContent]

omit [DecidableEq D] in
theorem put_of_not_path (untouched : path ∉ done.map (·.path)) :
    put (guardedPlan done) earlier path = earlier path := by
  apply GuardedUpdate.put_of_not_mem
  rw [guardedPlan_keys]
  exact untouched

omit [DecidableEq D] in
theorem put_guardedPlan_concat (done : List (RestoreTarget D)) (target : RestoreTarget D)
    (earlier : Workspace) :
    put (guardedPlan (done ++ [target])) earlier =
      Function.update (put (guardedPlan done) earlier) target.path
        (.ofContent target.restoreBytes) := by
  unfold guardedPlan
  rw [map_append, GuardedUpdate.put_append]
  rfl

variable (faults : Path → InstallFault)

/-- The loop writes the whole plan or gives the first workspace back. -/
theorem installTargets_whole_or_none (distinct : (plan.map (·.path)).Nodup)
    (fits : PlanFits digest plan earlier) (done rest : List (RestoreTarget D))
    (split : plan = done ++ rest) :
    installTargets digest faults plan (plan.map (captureOf digest earlier)) done.length rest
        (put (guardedPlan done) earlier) = (put (guardedPlan plan) earlier, .ok ()) ∨
      (∃ path, faults path ≠ .none) ∧ ∃ error, installTargets digest faults plan
        (plan.map (captureOf digest earlier)) done.length rest (put (guardedPlan done) earlier) =
          (earlier, .error error) := by
  induction rest generalizing done with
  | nil =>
    rw [append_nil] at split
    exact .inl (by rw [split, installTargets])
  | cons target rest ih =>
    have regrouped : plan = (done ++ [target]) ++ rest := by simp [split]
    have distinctNext : ((done ++ [target]).map (·.path)).Nodup := by
      rw [regrouped, map_append] at distinct
      exact (nodup_append.mp distinct).1
    have distinctDone : (done.map (·.path)).Nodup := by
      rw [map_append] at distinctNext
      exact (nodup_append.mp distinctNext).1
    have fresh : target.path ∉ done.map (·.path) := by
      rw [map_append, map_singleton] at distinctNext
      exact (nodup_append_comm.mp distinctNext |> nodup_cons.mp).1
    have takeDone : plan.take done.length = done := by simp [split]
    have takeNext : plan.take (done.length + 1) = done ++ [target] := by
      rw [regrouped]
      exact take_left' (by simp)
    have shown : (put (guardedPlan done) earlier target.path).shows digest =
        some target.expectedDigest := by
      rw [put_of_not_path fresh]
      exact fits target (by simp [split])
    -- a rollback of the targets before this one, from the workspace in which they are written
    have undoDone : ∀ error, rollbackThen digest (put (guardedPlan done) earlier) plan
        (plan.map (captureOf digest earlier)) done.length error = (earlier, .error error) := by
      apply rollbackThen_restores digest distinct fits
      · rw [takeDone]
        exact shows_of_put digest distinctDone
      · intro path untouched
        rw [takeDone] at untouched
        exact put_of_not_path untouched
    rw [installTargets, installState_of_shows digest shown]
    have faulty (fault : faults target.path ≠ .none) : ∃ path, faults path ≠ .none := ⟨_, fault⟩
    cases fault : faults target.path with
    | none =>
      simp only
      rw [← put_guardedPlan_concat]
      have counted : (done ++ [target]).length = done.length + 1 := by simp
      have next := ih (done ++ [target]) regrouped
      rw [counted] at next
      exact next
    | conflict => exact .inr ⟨faulty (by simp [fault]), _, undoDone _⟩
    | beforePublish =>
      simp only
      rw [digestPath_of_shows digest shown]
      simp only
      split
      · -- the path shows the installed digest although nothing was published
        rename_i same
        refine .inr ⟨faulty (by simp [fault]), _,
          rollbackThen_restores digest distinct fits _ ?_ ?_ _⟩
        · rw [takeNext]
          intro other mem
          rcases mem_append.mp mem with early | last
          · exact shows_of_put digest distinctDone other early
          · rw [mem_singleton.mp last, shown, same]
        · intro path untouched
          rw [takeNext, map_append, mem_append, not_or] at untouched
          exact put_of_not_path untouched.1
      · exact .inr ⟨faulty (by simp [fault]), _, undoDone _⟩
    | afterPublish =>
      have written : (Function.update (put (guardedPlan done) earlier) target.path
          (Node.ofContent target.restoreBytes) target.path).shows digest =
          some (target.restoreBytes.map digest) := by
        rw [Function.update_self, shows_ofContent]
      simp only
      rw [digestPath_of_shows digest written]
      simp only [if_true]
      rw [← put_guardedPlan_concat]
      refine .inr ⟨faulty (by simp [fault]), _,
        rollbackThen_restores digest distinct fits _ ?_ ?_ _⟩
      · rw [takeNext]
        exact shows_of_put digest distinctNext
      · intro path untouched
        rw [takeNext] at untouched
        exact put_of_not_path untouched

/-! ## The restoration -/

/-- Whatever fails, a restoration either wrote its whole plan over a workspace the plan fits,
and answers with what it found, or answers with an error and left the workspace as it was; where
the plan fits only a fault leads to an error. -/
theorem restorePlan_whole_or_none (distinct : (plan.map (·.path)).Nodup) (ws : Workspace) :
    (Fits (Node.shows digest) (guardedPlan plan) ws ∧
      restorePlan digest faults plan ws =
        (put (guardedPlan plan) ws, .ok (plan.map (captureOf digest ws)))) ∨
      (Fits (Node.shows digest) (guardedPlan plan) ws → ∃ path, faults path ≠ .none) ∧
        ∃ error, restorePlan digest faults plan ws = (ws, .error error) := by
  unfold restorePlan
  rw [fits_guardedPlan, ← verifyRestorePlan_eq_ok]
  cases verified : verifyRestorePlan digest plan ws with
  | error error => exact .inr ⟨nofun, error, rfl⟩
  | ok _ =>
    have fits := (verifyRestorePlan_eq_ok digest).mp verified
    rw [captureTargets_of_fits digest fits]
    simp only [nil_append]
    rcases installTargets_whole_or_none digest faults distinct fits [] plan rfl with
      whole | ⟨faulty, error, none⟩
    · rw [show put (guardedPlan []) ws = ws from rfl, length_nil] at whole
      rw [whole]
      exact .inl ⟨trivial, rfl⟩
    · rw [show put (guardedPlan []) ws = ws from rfl, length_nil] at none
      rw [none]
      exact .inr ⟨fun _ => faulty, error, rfl⟩

/-- Without a fault a restoration is the guarded update of its plan. -/
theorem restorePlan_faultless (distinct : (plan.map (·.path)).Nodup)
    (fits : Fits (Node.shows digest) (guardedPlan plan) ws) :
    restorePlan digest (fun _ => .none) plan ws =
      (put (guardedPlan plan) ws, .ok (plan.map (captureOf digest ws))) := by
  rcases restorePlan_whole_or_none digest (fun _ => .none) distinct ws with whole | ⟨faulty, _⟩
  · exact whole.2
  · obtain ⟨_, fault⟩ := faulty fits
    exact absurd rfl fault

end HaiderAgent.Checkpoint
