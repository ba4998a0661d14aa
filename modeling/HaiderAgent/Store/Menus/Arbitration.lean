import HaiderAgent.Store.Menus.Winner

/-!
# One answer per menu

Over every run in which each menu id is opened once per session, `resolve_menu` commits at most one
answer for a menu and none where one or a closure is already behind the opening, every reply names
the first answer, and a command id that committed an answer keeps it. The rows of the index carry
the argument: a row stands for the first answer of its menu, and journals only grow.
-/

namespace HaiderAgent.Menus

open List ExceptFold

/-! ## The replies of one arbiter -/

/-- The position of the answer an outcome reports. -/
def MenuResolutionOutcome.resolutionSeq : MenuResolutionOutcome → Nat
  | .committed envelope _ _ => envelope.seq
  | .idempotentReplay resolutionSeq | .alreadyResolved resolutionSeq => resolutionSeq

/-- Two calls agree in session, menu, opening, opening generation, answer and secret flag. -/
def MenuResolutionCommand.Agrees (first second : MenuResolutionCommand) : Prop :=
  first.sessionId = second.sessionId ∧ first.answer = second.answer ∧ first.via = second.via ∧
    first.requestSeq = second.requestSeq ∧ first.workerGeneration = second.workerGeneration ∧
    first.inputIsSecretReference = second.inputIsSecretReference

/-- The replies of a run are those of one arbiter per menu. -/
structure Arbitrated (run : MenuRun) : Prop where
  /-- No two calls commit an answer for one menu of a session. -/
  oneAnswer : run.replies.Pairwise fun earlier later =>
    ∀ envelope followUp menu envelope' followUp' menu',
      earlier.2 = .ok (.committed envelope followUp menu) →
      later.2 = .ok (.committed envelope' followUp' menu') →
      earlier.1.sessionId = later.1.sessionId → earlier.1.answer.menu ≠ later.1.answer.menu
  /-- A committed call adds one answer, of its menu, where nothing behind the opening had
  answered or closed it. -/
  wasPending : ∀ command envelope followUp menu,
    (command, .ok (.committed envelope followUp menu)) ∈ run.replies →
      envelope ∈ (run.store.journals command.sessionId).envelopes ∧
      answers command.answer.menu envelope = true ∧
      (∀ other ∈ followUp, ∀ menuId, answers menuId other = false) ∧
      ∀ opening ∈ (run.store.journals command.sessionId).envelopes,
        opens command.answer.menu opening = true →
          opening.seq < envelope.seq ∧
          PendingBetween command.answer.menu (run.store.journals command.sessionId).envelopes
            opening.seq envelope.seq
  /-- Every reply carries the first answer. -/
  namesFirst : ∀ command outcome, (command, .ok outcome) ∈ run.replies →
    firstAnswer command.answer.menu (run.store.journals command.sessionId).envelopes =
      some outcome.resolutionSeq
  /-- A command id that committed an answer keeps it. -/
  keptByCommand : run.replies.Pairwise fun earlier later =>
    ∀ envelope followUp menu, earlier.2 = .ok (.committed envelope followUp menu) →
      later.1.commandId = earlier.1.commandId →
        (earlier.1.Agrees later.1 → later.2 = .ok (.idempotentReplay envelope.seq)) ∧
        (¬ earlier.1.Agrees later.1 → ∃ failure, later.2 = .error failure)
  /-- And no other durable command has it. -/
  ownIds : ∀ command envelope followUp menu,
    (command, .ok (.committed envelope followUp menu)) ∈ run.replies →
      command.commandId ∉ run.store.receipts

/-! ## What one call of `resolve_menu` can do -/

/-- The opening a command names. -/
structure Opening (store : MenuStore) (command : MenuResolutionCommand) (opening : RawEnvelope) :
    Prop where
  opened : opening ∈ (store.journals command.sessionId).envelopes ∧
    opens command.answer.menu opening = true
  seq : opening.seq = command.requestSeq

/-- The three ways a call succeeds. -/
inductive Resolved (outside : Surroundings) (store : MenuStore) (now : Nat)
    (command : MenuResolutionCommand) : MenuStore → MenuResolutionOutcome → Prop where
  | replayed {row : ResolutionRow}
      (found : resolutionByCommand store command.commandId = some row)
      (same : sameCommand row command = true) :
      Resolved outside store now command store (.idempotentReplay row.resolutionSeq)
  | lost {opening : RawEnvelope} {seq : Nat}
      (unused : resolutionByCommand store command.commandId = none)
      (opens : Opening store command opening)
      (existing : existingResolution store command = .ok (some seq)) :
      Resolved outside store now command store (.alreadyResolved seq)
  | won {opening : RawEnvelope} {menu : Menu} {followUp : List RawEnvelope} {appended : MenuStore}
      (unused : resolutionByCommand store command.commandId = none)
      (unclaimed : command.commandId ∉ store.receipts)
      (opens : Opening store command opening)
      (existing : existingResolution store command = .ok none)
      (silent : ∀ other ∈ followUp, ∀ menuId, answers menuId other = false)
      (committed : store.append command.sessionId
        (answerEnvelope command opening (outside.menuResolutionEventId command)
          store.workerGeneration now :: followUp) = .ok appended) :
      Resolved outside store now command
        { appended with
          resolutions := appended.resolutions ++
            [resolutionRow command ((store.journals command.sessionId).headSeq + 1)] }
        (.committed
          { answerEnvelope command opening (outside.menuResolutionEventId command)
              store.workerGeneration now with
            seq := (store.journals command.sessionId).headSeq + 1 }
          (Journal.stamp ((store.journals command.sessionId).headSeq + 1 + 1) followUp) menu)

variable {opening : RawEnvelope} {menu : Menu}

theorem openedMenu_opens {menuId : MenuId}
    (found : openedMenu opening menuId = .ok menu) : opens menuId opening = true := by
  unfold openedMenu at found
  unfold opens
  split at found
  · cases found
  · rename_i decoded
    split at found
    · rename_i same
      rw [decoded]
      simp [openedMenuId, same]
    · cases found
  · cases found

variable {store : MenuStore} {command : MenuResolutionCommand}

theorem pendingMenu_ok (found : pendingMenu store command = .ok (opening, menu)) :
    command.commandId ∉ store.receipts ∧ Opening store command opening := by
  obtain ⟨unclaimed, found⟩ := ensure_bind_eq_ok.mp found
  split at found
  · rename_i here located
    obtain ⟨menu, shown, found⟩ := bind_eq_ok.mp found
    replace found := ok_of_ensure found
    replace found := ok_of_ensure found
    obtain ⟨_, _, found⟩ := bind_eq_ok.mp found
    cases found
    refine ⟨by simpa using unclaimed,
      ⟨mem_of_find?_eq_some located, openedMenu_opens shown⟩, ?_⟩
    exact beq_iff_eq.mp (find?_some (p := fun e : RawEnvelope => e.seq == _) located)
  · cases found

theorem answers_of_answerFree {payloads : List EventPayload} (free : AnswerFree payloads)
    {envelope : RawEnvelope} {stamp : Nat → EventPayload → RawEnvelope}
    (mem : envelope ∈ payloads.mapIdx stamp)
    (same : ∀ index payload, (stamp index payload).payload = .event payload) (menuId : MenuId) :
    answers menuId envelope = false := by
  obtain ⟨index, inside, rfl⟩ := mem_mapIdx.mp mem
  simp [answers, same, RawPayload.decodeEvent, free _ (getElem_mem inside)]

theorem settlement_silent {outside : Surroundings} {envelopes : List RawEnvelope}
    {answer : RawEnvelope} {settled : List RawEnvelope}
    (planned : settlement outside envelopes opening menu command answer = .ok settled) :
    ∀ other ∈ settled, ∀ menuId, answers menuId other = false := by
  unfold settlement at planned
  intro other mem menuId
  split at planned
  · obtain ⟨payloads, settles, planned⟩ := bind_eq_ok.mp planned
    cases planned
    exact answers_of_answerFree (settleHumanConfirm_answerFree settles) mem (fun _ _ => rfl) menuId
  · obtain ⟨payloads, settles, planned⟩ := bind_eq_ok.mp planned
    cases planned
    exact answers_of_answerFree (settleAbandonConfirm_answerFree settles) mem (fun _ _ => rfl)
      menuId
  · cases planned
    cases mem

variable {store' : MenuStore} {now : Nat}

theorem resolveMenu_ok {outside : Surroundings} {outcome : MenuResolutionOutcome}
    (resolved : resolveMenu outside store now command = .ok (store', outcome)) :
    command.commandId ≠ "" ∧ Resolved outside store now command store' outcome := by
  obtain ⟨named, resolved⟩ := ensure_bind_eq_ok.mp resolved
  refine ⟨by simpa using named, ?_⟩
  unfold resolveMenuTransaction at resolved
  split at resolved
  · rename_i row found
    obtain ⟨replay, replayed, resolved⟩ := bind_eq_ok.mp resolved
    cases resolved
    unfold replayOutcome at replayed
    split at replayed
    · rename_i same
      cases replayed
      exact .replayed found same
    · cases replayed
  · rename_i unused
    obtain ⟨⟨opening, menu⟩, pending, resolved⟩ := bind_eq_ok.mp resolved
    obtain ⟨unclaimed, here⟩ := pendingMenu_ok pending
    obtain ⟨existing, lookup, resolved⟩ := bind_eq_ok.mp resolved
    cases existing with
    | some seq =>
      cases resolved
      exact .lost unused here lookup
    | none =>
      obtain ⟨settled, planned, resolved⟩ := bind_eq_ok.mp resolved
      obtain ⟨facts, _, resolved⟩ := bind_eq_ok.mp resolved
      obtain ⟨appended, committed, resolved⟩ := bind_eq_ok.mp resolved
      cases resolved
      refine .won unused unclaimed here lookup ?_ committed
      intro other mem menuId
      rcases mem_append.mp mem with settles | fact
      · exact settlement_silent planned other settles menuId
      · obtain ⟨fact, _, rfl⟩ := mem_map.mp fact
        rfl

/-! ## The index -/

/-- A row stands for the first answer of its menu, under an id no other command has. -/
structure RowSound (store : MenuStore) (row : ResolutionRow) : Prop where
  named : row.commandId ≠ ""
  own : row.commandId ∉ store.receipts
  won : ∃ opening,
    WonBy row.menuId (store.journals row.sessionId).envelopes opening row.resolutionSeq ∧
      PendingBetween row.menuId (store.journals row.sessionId).envelopes opening.seq
        row.resolutionSeq

/-- The rows of `menu_resolutions`, one for a command id. -/
structure Indexed (store : MenuStore) : Prop where
  sound : ∀ row ∈ store.resolutions, RowSound store row
  byCommand : store.resolutions.Pairwise fun first second => first.commandId ≠ second.commandId

variable {row : ResolutionRow}

theorem RowSound.grows (sound : RowSound store row) (grows : Grows store store')
    (own : row.commandId ∉ store'.receipts) : RowSound store' row := by
  obtain ⟨opening, won, pending⟩ := sound.won
  exact ⟨sound.named, own, opening, won.grows grows, pending.grows won.seq_le_headSeq grows⟩

theorem Indexed.grows (indexed : Indexed store)
    (grows : Grows store store') (same : store'.resolutions = store.resolutions)
    (own : ∀ row ∈ store.resolutions, row.commandId ∉ store'.receipts) : Indexed store' := by
  refine ⟨fun row mem => ?_, same ▸ indexed.byCommand⟩
  rw [same] at mem
  exact (indexed.sound row mem).grows grows (own row mem)

theorem Indexed.lookup (indexed : Indexed store)
    (mem : row ∈ store.resolutions) : resolutionByCommand store row.commandId = some row := by
  have distinct : (store.resolutions.map (·.commandId)).Nodup :=
    pairwise_map.mpr indexed.byCommand
  exact (Rows.find_eq_some_iff distinct).mpr ⟨mem, rfl⟩

variable {sessionId : SessionId} {batch : List RawEnvelope}

theorem append_tables (appended : store.append sessionId batch = .ok store') :
    (store'.journals sessionId).envelopes = (store.journals sessionId).envelopes ++
        Journal.stamp ((store.journals sessionId).headSeq + 1) batch ∧
      store'.resolutions = store.resolutions ∧ store'.receipts = store.receipts := by
  obtain rfl := append_ok appended
  simp

section Committed

variable {outside : Surroundings} {appended : MenuStore} {followUp : List RawEnvelope}
  (here : Opening store command opening) (existing : existingResolution store command = .ok none)
  (committed : store.append command.sessionId
    (answerEnvelope command opening (outside.menuResolutionEventId command)
      store.workerGeneration now :: followUp) = .ok appended)

include here existing committed

/-- The answer a call commits wins its menu. -/
theorem committed_won :
    WonBy command.answer.menu (appended.journals command.sessionId).envelopes opening
        ((store.journals command.sessionId).headSeq + 1) ∧
      PendingBetween command.answer.menu (appended.journals command.sessionId).envelopes
        opening.seq ((store.journals command.sessionId).headSeq + 1) := by
  have grows := append_grows committed
  have head := Journal.seq_le_headSeq _ here.opened.1
  have pending : PendingBetween command.answer.menu
      (appended.journals command.sessionId).envelopes opening.seq
      ((store.journals command.sessionId).headSeq + 1) := by
    intro envelope mem behind before
    have old := grows.old mem (by omega)
    unfold existingResolution at existing
    split at existing
    · cases existing
    · refine scanResolution_none existing envelope (Log.mem_after.mpr ⟨old, ?_⟩)
      rw [← here.seq]
      exact behind
  refine ⟨⟨⟨grows.subset here.opened.1, here.opened.2⟩, by omega, ?_, ?_⟩, pending⟩
  · refine ⟨{ answerEnvelope command opening (outside.menuResolutionEventId command)
        store.workerGeneration now with
      seq := (store.journals command.sessionId).headSeq + 1 }, ?_, ?_, rfl⟩
    · rw [(append_tables committed).1, Journal.stamp]
      exact mem_append_right _ mem_cons_self
    · exact beq_iff_eq.mpr rfl
  · intro envelope mem behind answered
    by_contra early
    have silent := (pending envelope mem behind (by omega)).1
    rw [answered] at silent
    cases silent

/-- A winning command adds the row of a menu that had none. -/
theorem Indexed.won (indexed : Indexed store) (named : command.commandId ≠ "")
    (unused : resolutionByCommand store command.commandId = none)
    (unclaimed : command.commandId ∉ store.receipts) :
    Indexed { appended with
      resolutions := appended.resolutions ++
        [resolutionRow command ((store.journals command.sessionId).headSeq + 1)] } := by
  obtain ⟨_, resolutions, receipts⟩ := append_tables committed
  refine ⟨fun row mem => ?_, ?_⟩
  · rcases mem_append.mp mem with old | new
    · have sound := indexed.sound row (resolutions ▸ old)
      exact sound.grows (append_grows committed :) (receipts ▸ sound.own)
    · cases mem_singleton.mp new
      obtain ⟨won, pending⟩ := committed_won here existing committed
      exact ⟨named, receipts ▸ unclaimed, opening, won, pending⟩
  · refine pairwise_append.mpr
      ⟨resolutions ▸ indexed.byCommand, pairwise_singleton _ _, ?_⟩
    intro row old other new
    cases mem_singleton.mp new
    have absent := find?_eq_none.mp unused row (resolutions ▸ old)
    simpa [resolutionRow] using absent

end Committed

/-- The answer a losing call is told of. -/
theorem existing_won (indexed : Indexed store) {seq : Nat} (here : Opening store command opening)
    (existing : existingResolution store command = .ok (some seq)) :
    ∃ opening, WonBy command.answer.menu (store.journals command.sessionId).envelopes opening
      seq := by
  unfold existingResolution at existing
  split at existing
  · rename_i found
    cases existing
    obtain ⟨row, located, rfl⟩ := Option.map_eq_some_iff.mp found
    have same := find?_some
      (p := fun row : ResolutionRow =>
        row.sessionId == command.sessionId && row.menuId == command.answer.menu) located
    simp only [Bool.and_eq_true, beq_iff_eq] at same
    obtain ⟨opening, won, _⟩ := (indexed.sound row (mem_of_find?_eq_some located)).won
    rw [same.1, same.2] at won
    exact ⟨opening, won⟩
  · have found := scanResolution_some existing
    obtain ⟨answer, located, rfl⟩ := Option.map_eq_some_iff.mp found
    have inside := Log.mem_after.mp (mem_of_find?_eq_some located)
    rw [← here.seq] at inside
    refine ⟨opening, here.opened, inside.2, ⟨answer, inside.1, find?_some located, rfl⟩, ?_⟩
    intro envelope mem late answered
    rw [here.seq] at late
    exact Log.find?_le
      (Log.increasing_after (store.journals command.sessionId).increasing command.requestSeq) located
      (Log.mem_after.mpr ⟨mem, late⟩) answered

/-! ## Runs -/

/-- What the replies of a run have to do with the tables. -/
structure Recorded (run : MenuRun) : Prop where
  indexed : Indexed run.store
  /-- A committed call has its row and its envelopes. -/
  rows : ∀ command envelope followUp menu,
    (command, .ok (.committed envelope followUp menu)) ∈ run.replies →
      resolutionRow command envelope.seq ∈ run.store.resolutions ∧
      envelope ∈ (run.store.journals command.sessionId).envelopes ∧
      answers command.answer.menu envelope = true ∧
      ∀ other ∈ followUp, ∀ menuId, answers menuId other = false
  won : ∀ command outcome, (command, .ok outcome) ∈ run.replies → ∃ opening,
    WonBy command.answer.menu (run.store.journals command.sessionId).envelopes opening
      outcome.resolutionSeq
  oneAnswer : run.replies.Pairwise fun earlier later =>
    ∀ envelope followUp menu envelope' followUp' menu',
      earlier.2 = .ok (.committed envelope followUp menu) →
      later.2 = .ok (.committed envelope' followUp' menu') →
      earlier.1.sessionId = later.1.sessionId → earlier.1.answer.menu ≠ later.1.answer.menu
  keptByCommand : run.replies.Pairwise fun earlier later =>
    ∀ envelope followUp menu, earlier.2 = .ok (.committed envelope followUp menu) →
      later.1.commandId = earlier.1.commandId →
        (earlier.1.Agrees later.1 → later.2 = .ok (.idempotentReplay envelope.seq)) ∧
        (¬ earlier.1.Agrees later.1 → ∃ failure, later.2 = .error failure)

theorem recorded_start : Recorded .start :=
  ⟨⟨nofun, .nil⟩,
    fun _ _ _ _ mem => absurd mem not_mem_nil,
    fun _ _ mem => absurd mem not_mem_nil, .nil, .nil⟩

section Steps

variable {outside : Surroundings} {run : MenuRun} {store : MenuStore}

theorem Recorded.grows (recorded : Recorded run) (indexed : Indexed store)
    (grows : Grows run.store store) (kept : run.store.resolutions <+: store.resolutions) :
    Recorded { run with store := store } := by
  refine ⟨indexed, ?_, ?_, recorded.oneAnswer, recorded.keptByCommand⟩
  · intro command envelope followUp menu mem
    obtain ⟨row, inside, answered, silent⟩ := recorded.rows command envelope followUp menu mem
    exact ⟨kept.subset row, grows.subset inside, answered, silent⟩
  · intro command outcome mem
    obtain ⟨opening, won⟩ := recorded.won command outcome mem
    exact ⟨opening, won.grows grows⟩

/-- What a transaction without an answer does to the tables. -/
structure Besides (store store' : MenuStore) : Prop where
  grows : Grows store store'
  resolutions : store'.resolutions = store.resolutions
  own : ∀ row ∈ store.resolutions, row.commandId ∉ store.receipts →
    row.commandId ∉ store'.receipts

theorem Besides.refl (store : MenuStore) : Besides store store :=
  ⟨Grows.refl store, rfl, fun _ _ own => own⟩

theorem Besides.trans {first second third : MenuStore} (early : Besides first second)
    (late : Besides second third) : Besides first third :=
  ⟨early.grows.trans late.grows, late.resolutions.trans early.resolutions,
    fun row mem own => late.own row (early.resolutions ▸ mem) (early.own row mem own)⟩

variable {store' : MenuStore}

theorem append_besides {sessionId : SessionId}
    {batch : List RawEnvelope} (appended : store.append sessionId batch = .ok store') :
    Besides store store' := by
  obtain ⟨_, resolutions, receipts⟩ := append_tables appended
  exact ⟨append_grows appended, resolutions, fun row _ own => receipts ▸ own⟩

variable {commandId : String}

theorem claimPendingReceipt_besides
    (claimed : claimPendingReceipt store commandId = .ok store') : Besides store store' := by
  obtain ⟨unused, claimed⟩ := ensure_bind_eq_ok.mp claimed
  cases claimed
  refine ⟨fun _ => ⟨[], by simp⟩, rfl, fun row mem own => ?_⟩
  have other : row.commandId ≠ commandId := by
    have absent := find?_eq_none.mp (Option.isNone_iff_eq_none.mp unused) row mem
    simpa using absent
  simp only
  split
  · exact own
  · simp [own, other]

theorem durableCommand_besides {batches : List (SessionId × List RawEnvelope)}
    (done : durableCommand store commandId batches = .ok store') : Besides store store' := by
  obtain ⟨claimed, first, rest⟩ := bind_eq_ok.mp done
  refine (claimPendingReceipt_besides first).trans ?_
  exact foldlM_rel Besides Besides.refl (fun _ _ _ early late => early.trans late)
    (fun _ _ _ _ appended => append_besides appended) rest

theorem Recorded.commit (recorded : Recorded run) {transaction : Except MenuError MenuStore}
    (besides : ∀ store, transaction = .ok store → Besides run.store store) :
    Recorded (run.commit transaction) := by
  cases transaction with
  | error failure => exact recorded
  | ok store =>
    have step := besides store rfl
    refine recorded.grows (recorded.indexed.grows step.grows step.resolutions ?_) step.grows ?_
    · exact fun row mem => step.own row mem (recorded.indexed.sound row mem).own
    · exact step.resolutions ▸ prefix_rfl

variable {first : MenuResolutionCommand} {seq : Nat}

theorem sameCommand_resolutionRow {second : MenuResolutionCommand} :
    sameCommand (resolutionRow first seq) second = true ↔ first.Agrees second := by
  simp only [sameCommand, resolutionRow, MenuResolutionCommand.Agrees, Bool.and_eq_true,
    beq_iff_eq]
  constructor
  · rintro ⟨⟨⟨⟨⟨⟨session, _⟩, opening⟩, generation⟩, answer⟩, via⟩, secret⟩
    exact ⟨session, answer, via, opening, generation, secret⟩
  · rintro ⟨session, answer, via, opening, generation, secret⟩
    exact ⟨⟨⟨⟨⟨⟨session, by rw [answer]⟩, opening⟩, generation⟩, answer⟩, via⟩, secret⟩

variable {command : MenuResolutionCommand} {now : Nat}

/-- The reply to an id with a row is read off the row, whatever happened since. -/
theorem resolveMenu_known (outside : Surroundings) (now : Nat) (command : MenuResolutionCommand)
    (indexed : Indexed store) (row : resolutionRow first seq ∈ store.resolutions)
    (same : command.commandId = first.commandId) :
    (first.Agrees command → (resolveMenu outside store now command).map Prod.snd =
      .ok (.idempotentReplay seq)) ∧
    (¬ first.Agrees command →
      ∃ failure, (resolveMenu outside store now command).map Prod.snd = .error failure) := by
  have found : resolutionByCommand store command.commandId = some (resolutionRow first seq) := by
    rw [same]
    exact indexed.lookup row
  have named : (command.commandId != "") = true := by
    have name := (indexed.sound _ row).named
    rw [same]
    simpa [resolutionRow] using name
  have replay : resolveMenu outside store now command =
      (replayOutcome (resolutionRow first seq) command).bind fun outcome => .ok (store, outcome) := by
    rw [resolveMenu, ensure, named, if_pos rfl, resolveMenuTransaction, found]
    rfl
  rw [replay, replayOutcome]
  constructor
  · intro agrees
    rw [if_pos (sameCommand_resolutionRow.mpr agrees)]
    rfl
  · intro differs
    rw [if_neg (fun agrees => differs (sameCommand_resolutionRow.mp agrees))]
    exact ⟨_, rfl⟩

theorem Recorded.reply (recorded : Recorded run) {reply : Except MenuError MenuResolutionOutcome}
    (row : ∀ envelope followUp menu, reply = .ok (.committed envelope followUp menu) →
      resolutionRow command envelope.seq ∈ run.store.resolutions ∧
      envelope ∈ (run.store.journals command.sessionId).envelopes ∧
      answers command.answer.menu envelope = true ∧
      ∀ other ∈ followUp, ∀ menuId, answers menuId other = false)
    (won : ∀ outcome, reply = .ok outcome → ∃ opening,
      WonBy command.answer.menu (run.store.journals command.sessionId).envelopes opening
        outcome.resolutionSeq)
    (alone : ∀ envelope followUp menu, reply = .ok (.committed envelope followUp menu) →
      ∀ earlier envelope' followUp' menu',
        (earlier, .ok (.committed envelope' followUp' menu')) ∈ run.replies →
        earlier.sessionId = command.sessionId → earlier.answer.menu ≠ command.answer.menu)
    (kept : ∀ earlier envelope followUp menu,
      (earlier, .ok (.committed envelope followUp menu)) ∈ run.replies →
      command.commandId = earlier.commandId →
        (earlier.Agrees command → reply = .ok (.idempotentReplay envelope.seq)) ∧
        (¬ earlier.Agrees command → ∃ failure, reply = .error failure)) :
    Recorded { run with replies := run.replies ++ [(command, reply)] } := by
  refine ⟨recorded.indexed, ?_, ?_, ?_, ?_⟩
  · intro other envelope followUp menu mem
    rcases mem_append.mp mem with old | new
    · exact recorded.rows other envelope followUp menu old
    · obtain ⟨rfl, same⟩ := Prod.mk.inj (mem_singleton.mp new)
      exact row envelope followUp menu same.symm
  · intro other outcome mem
    rcases mem_append.mp mem with old | new
    · exact recorded.won other outcome old
    · obtain ⟨rfl, same⟩ := Prod.mk.inj (mem_singleton.mp new)
      exact won outcome same.symm
  · refine pairwise_append.mpr ⟨recorded.oneAnswer, pairwise_singleton _ _, ?_⟩
    rintro ⟨earlier, first⟩ mem later new envelope followUp menu envelope' followUp' menu' early
      late session
    cases mem_singleton.mp new
    exact alone envelope' followUp' menu' late earlier envelope followUp menu (early ▸ mem) session
  · refine pairwise_append.mpr ⟨recorded.keptByCommand, pairwise_singleton _ _, ?_⟩
    rintro ⟨earlier, first⟩ mem later new envelope followUp menu early same
    cases mem_singleton.mp new
    exact kept earlier envelope followUp menu (early ▸ mem) same

/-- A resolution leaves its row, its answer and its reply in step. -/
theorem Recorded.resolve (recorded : Recorded run) (now : Nat) (command : MenuResolutionCommand) :
    Recorded (run.step outside (.resolve now command)) := by
  have kept := fun earlier envelope followUp menu mem =>
    resolveMenu_known outside now command recorded.indexed
      (recorded.rows earlier envelope followUp menu mem).1
  rw [MenuRun.step]
  cases result : resolveMenu outside run.store now command with
  | error failure =>
    rw [result] at kept
    exact recorded.reply (by rintro _ _ _ ⟨⟩) (by rintro _ ⟨⟩) (by rintro _ _ _ ⟨⟩) kept
  | ok answer =>
    obtain ⟨store, outcome⟩ := answer
    rw [result] at kept
    obtain ⟨named, resolved⟩ := resolveMenu_ok result
    cases resolved with
    | @replayed row found same =>
      refine recorded.reply (by rintro _ _ _ ⟨⟩) ?_ (by rintro _ _ _ ⟨⟩) kept
      intro outcome replied
      cases replied
      obtain ⟨opening, won, _⟩ :=
        (recorded.indexed.sound row (mem_of_find?_eq_some found)).won
      simp only [sameCommand, Bool.and_eq_true, beq_iff_eq] at same
      rw [same.1.1.1.1.1.1, same.1.1.1.1.1.2] at won
      exact ⟨opening, won⟩
    | lost unused here existing =>
      refine recorded.reply (by rintro _ _ _ ⟨⟩) ?_ (by rintro _ _ _ ⟨⟩) kept
      intro outcome replied
      cases replied
      exact existing_won recorded.indexed here existing
    | @won opening menu followUp appended unused unclaimed here existing silent committed =>
      obtain ⟨envelopes, resolutions, _⟩ := append_tables committed
      have indexed := Indexed.won here existing committed recorded.indexed named unused unclaimed
      have grown := recorded.grows indexed (append_grows committed :)
        (resolutions ▸ prefix_append _ _)
      refine grown.reply ?_ ?_ ?_ kept
      · intro envelope followUp menu replied
        cases replied
        refine ⟨mem_append_right _ (mem_singleton.mpr rfl), ?_, beq_iff_eq.mpr rfl, ?_⟩
        · show _ ∈ (appended.journals command.sessionId).envelopes
          rw [envelopes, Journal.stamp]
          exact mem_append_right _ mem_cons_self
        · intro other mem menuId
          obtain ⟨source, inside, seq, rfl⟩ := Journal.mem_stamp mem
          exact silent source inside menuId
      · intro outcome replied
        cases replied
        exact ⟨opening, (committed_won here existing committed).1⟩
      · intro _ _ _ _ earlier envelope followUp menu mem session menuId
        have row := (recorded.rows earlier envelope followUp menu mem).1
        unfold existingResolution at existing
        split at existing
        · cases existing
        · rename_i absent
          have other := find?_eq_none.mp (Option.map_eq_none_iff.mp absent) _ row
          simp [resolutionRow, session, menuId] at other

theorem Recorded.step (recorded : Recorded run) (action : MenuAction) :
    Recorded (run.step outside action) := by
  cases action with
  | resolve now command => exact recorded.resolve now command
  | append sessionId batch => exact recorded.commit fun _ appended => append_besides appended
  | command commandId batches => exact recorded.commit fun _ done => durableCommand_besides done
  | restart =>
    have grows : Grows run.store
        { run.store with workerGeneration := run.store.workerGeneration + 1 } :=
      fun _ => ⟨[], (append_nil _).symm⟩
    refine recorded.grows (recorded.indexed.grows grows rfl ?_) grows prefix_rfl
    exact fun row mem => (recorded.indexed.sound row mem).own

theorem recorded_after (outside : Surroundings) (actions : List MenuAction) :
    Recorded (MenuRun.after outside actions) := by
  unfold MenuRun.after
  induction actions using reverseRecOn with
  | nil => exact recorded_start
  | append_singleton actions action ih =>
    rw [foldl_append]
    exact ih.step action

end Steps

/-- Menu arbitration over every run: any calls of `resolve_menu` with any ids and retries, any
batches of workers and other commands, and restarts between them, as long as each menu id is
opened once per session. -/
theorem menu_arbitration {outside : Surroundings} {actions : List MenuAction}
    (once : OpenedOnce (MenuRun.after outside actions).store) :
    Arbitrated (MenuRun.after outside actions) := by
  have recorded := recorded_after outside actions
  refine ⟨recorded.oneAnswer, ?_, ?_, recorded.keptByCommand, ?_⟩
  · intro command envelope followUp menu member
    obtain ⟨row, inside, answered, silent⟩ := recorded.rows command envelope followUp menu member
    refine ⟨inside, answered, silent, fun opening opened opensIt => ?_⟩
    obtain ⟨opened', won, pending⟩ := (recorded.indexed.sound _ row).won
    rw [once.unique ⟨opened, opensIt⟩ won.opened]
    exact ⟨won.later, pending⟩
  · intro command outcome member
    obtain ⟨opening, won⟩ := recorded.won command outcome member
    exact won.firstAnswer_eq once
  · intro command envelope followUp menu member
    exact (recorded.indexed.sound _ (recorded.rows command envelope followUp menu member).1).own

/-! ## A run -/

/-- The sessions an action writes to. -/
def MenuAction.writes : MenuAction → List SessionId
  | .resolve _ answer => [answer.sessionId]
  | .append sessionId _ => [sessionId]
  | .command _ batches => batches.map (·.1)
  | .restart => []

variable {other : SessionId}

theorem append_other (appended : store.append sessionId batch = .ok store')
    (different : other ≠ sessionId) : store'.journals other = store.journals other := by
  rw [append_ok appended]
  exact Function.update_of_ne different _ _

/-- An action leaves the sessions it does not write as they were. -/
theorem step_other (outside : Surroundings) (run : MenuRun) (action : MenuAction)
    (different : other ∉ action.writes) :
    (run.step outside action).store.journals other = run.store.journals other := by
  cases action with
  | resolve now command =>
    rw [MenuRun.step]
    cases result : resolveMenu outside run.store now command with
    | error failure => rfl
    | ok answer =>
      obtain ⟨store, outcome⟩ := answer
      obtain ⟨_, resolved⟩ := resolveMenu_ok result
      cases resolved with
      | replayed => rfl
      | lost => rfl
      | @won _ _ _ appended _ _ _ _ _ committed =>
        have untouched : appended.journals other = run.store.journals other :=
          append_other committed fun same => different (mem_singleton.mpr same)
        exact untouched
  | append sessionId batch =>
    rw [MenuRun.step]
    cases appended : run.store.append sessionId batch with
    | error failure => rfl
    | ok store =>
      exact append_other appended fun same => different (mem_singleton.mpr same)
  | command commandId batches =>
    rw [MenuRun.step]
    cases done : durableCommand run.store commandId batches with
    | error failure => rfl
    | ok store =>
      obtain ⟨claimed, first, rest⟩ := bind_eq_ok.mp done
      have claims := ok_of_ensure first
      cases claims
      have untouched := foldlM_rel
        (fun before after : MenuStore => after.journals other = before.journals other)
        (fun _ => rfl) (fun _ _ _ early late => late.trans early)
        (fun batch mem _ _ appended => append_other appended fun same =>
          different (mem_map.mpr ⟨batch, mem, same.symm⟩)) rest
      exact untouched
  | restart => rfl

theorem after_other (outside : Surroundings) (actions : List MenuAction)
    (different : ∀ action ∈ actions, other ∉ action.writes) :
    (MenuRun.after outside actions).store.journals other = .empty := by
  unfold MenuRun.after
  induction actions using reverseRecOn with
  | nil => rfl
  | append_singleton actions action ih =>
    rw [forall_mem_append] at different
    rw [foldl_append]
    exact (step_other outside _ action (different.2 action mem_cons_self)).trans
      (ih different.1)

/-- A menu of two options. -/
def deployMenu : Menu where
  id := "deploy"
  kind := .choice
  title := "Deploy?"
  body := []
  options := [⟨"yes", "Yes", none⟩, ⟨"no", "No", none⟩]
  blocking := true
  scope := .session
  origin := "test"
  ttlMs := none
  timeoutOption := none

/-- An answer to it. -/
def deployAnswer (commandId option : String) (index : Nat) : MenuResolutionCommand where
  commandId := commandId
  sessionId := "s"
  requestSeq := 1
  workerGeneration := 1
  allowPriorGeneration := false
  answer := ⟨"deploy", some option, index, none⟩
  via := .rpc
  deviceId := "device"
  inputIsSecretReference := false

/-- Two answers race, the winner's is retried, and its id is used for another answer. -/
def deployRace : List MenuAction :=
  [.append "s" [EventPayload.unstamped (.menuOpened deployMenu) "s" "run" 1],
    .resolve 0 (deployAnswer "first" "yes" 0),
    .resolve 0 (deployAnswer "second" "no" 1),
    .restart,
    .command "close" [("s", [EventPayload.unstamped (.menuClosed "deploy" .cancelled) "s" "run" 2])],
    .resolve 0 (deployAnswer "first" "yes" 0),
    .resolve 0 (deployAnswer "first" "no" 1)]

/-- Surroundings without a workflow. -/
def quiet : Surroundings where
  menuResolutionEventId := fun command => "menu-resolution-" ++ command.commandId
  statusHash := fun _ => ""
  workflowFacts := fun _ _ => .ok []

theorem menu_arbitration_deployRace :
    Arbitrated (MenuRun.after quiet deployRace) ∧
      (MenuRun.after quiet deployRace).replies.map
          (fun reply => reply.2.toOption.map (·.resolutionSeq)) =
        [some 2, some 2, some 2, none] ∧
      ((MenuRun.after quiet deployRace).store.journals "s").envelopes.length = 3 := by
  have once : OpenedOnce (MenuRun.after quiet deployRace).store := by
    intro sessionId
    by_cases here : sessionId = "s"
    · subst here
      decide +kernel
    · rw [after_other quiet deployRace (by simp [deployRace, MenuAction.writes, here, deployAnswer])]
      exact .nil
  exact ⟨menu_arbitration once, by decide +kernel, by decide +kernel⟩

end HaiderAgent.Menus
