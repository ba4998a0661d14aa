import Mathlib.Data.List.Pairwise
import HaiderAgent.Store.Menus.Resolve

/-!
# The winner of a menu

Openings, answers and closures in a journal, what the scan of `historical_resolution` finds, and
the first answer behind an opening. Journals grow at their heads only, so a winner stays.
-/

namespace HaiderAgent.Menus

open List

/-! ## Menus in a journal -/

/-- The menu an event opens. -/
def openedMenuId : EventPayload → Option MenuId
  | .menuOpened menu => some menu.id
  | _ => none

/-- The menu an event closes. -/
def closedMenuId : EventPayload → Option MenuId
  | .menuClosed menu _ => some menu
  | _ => none

variable (menuId : MenuId) (envelope : RawEnvelope)

/-- Whether the envelope opens the menu. -/
def opens : Bool :=
  envelope.payload.decodeEvent.bind openedMenuId == some menuId

/-- Whether it answers it. -/
def answers : Bool :=
  envelope.payload.decodeEvent.bind answeredMenu == some menuId

/-- Whether it closes it. -/
def closes : Bool :=
  envelope.payload.decodeEvent.bind closedMenuId == some menuId

/-- The seq of the first `MenuAnswered` behind the opening of a menu. -/
def firstAnswer (envelopes : List RawEnvelope) : Option Nat :=
  (envelopes.find? (opens menuId)).bind fun opening =>
    ((Log.after (·.seq) opening.seq envelopes).find? (answers menuId)).map (·.seq)

/-- No answer and no closure of a menu between two seqs. -/
def PendingBetween (envelopes : List RawEnvelope) (low high : Nat) : Prop :=
  ∀ envelope ∈ envelopes, low < envelope.seq → envelope.seq < high →
    answers menuId envelope = false ∧ closes menuId envelope = false

/-- Each menu id is opened once per session. -/
def OpenedOnce (store : MenuStore) : Prop :=
  ∀ sessionId, ((store.journals sessionId).envelopes.filterMap fun envelope =>
    envelope.payload.decodeEvent.bind openedMenuId).Nodup

/-! ## The scan -/

/-- The scan stops at an answer of the menu and otherwise goes on behind the envelope. -/
theorem scanResolution_cons {menuId : MenuId} {rest : List RawEnvelope} {found : Option Nat}
    (scanned : scanResolution menuId (envelope :: rest) = .ok found) :
    answers menuId envelope = true ∧ found = some envelope.seq ∨
      answers menuId envelope = false ∧ closes menuId envelope = false ∧
        scanResolution menuId rest = .ok found := by
  rw [scanResolution] at scanned
  unfold answers closes
  cases decoded : envelope.payload.decodeEvent with
  | none =>
    rw [decoded] at scanned
    exact .inr ⟨rfl, rfl, scanned⟩
  | some payload =>
    rw [decoded] at scanned
    cases payload with
    | menuAnswered answer =>
      dsimp only at scanned
      split at scanned
      · rename_i same
        cases scanned
        exact .inl ⟨by simp [answeredMenu, same], rfl⟩
      · rename_i other
        exact .inr ⟨by simp [answeredMenu, other], rfl, scanned⟩
    | menuClosed menu reason =>
      dsimp only at scanned
      split at scanned
      · cases scanned
      · rename_i other
        exact .inr ⟨rfl, by simp [closedMenuId, other], scanned⟩
    | _ => exact .inr ⟨rfl, rfl, scanned⟩

variable {envelopes : List RawEnvelope} {seq : Nat}

theorem scanResolution_none {menuId : MenuId} (scanned : scanResolution menuId envelopes = .ok none) :
    ∀ envelope ∈ envelopes, answers menuId envelope = false ∧ closes menuId envelope = false := by
  induction envelopes with
  | nil => exact fun _ mem => absurd mem not_mem_nil
  | cons envelope rest ih =>
    obtain ⟨_, found⟩ | ⟨unanswered, unclosed, scanned⟩ := scanResolution_cons envelope scanned
    · cases found
    · exact forall_mem_cons.mpr ⟨⟨unanswered, unclosed⟩, ih scanned⟩

theorem scanResolution_some {menuId : MenuId}
    (scanned : scanResolution menuId envelopes = .ok (some seq)) :
    (envelopes.find? (answers menuId)).map (·.seq) = some seq := by
  induction envelopes with
  | nil => cases scanned
  | cons envelope rest ih =>
    rw [find?_cons]
    obtain ⟨answered, found⟩ | ⟨unanswered, _, scanned⟩ := scanResolution_cons envelope scanned
    · rw [answered, found]
      rfl
    · rw [unanswered]
      exact ih scanned

/-! ## Rows -/

/-- `seq` is the first answer behind an opening, and nothing closed the menu before it. -/
structure WonBy (menuId : MenuId) (envelopes : List RawEnvelope) (opening : RawEnvelope)
    (seq : Nat) : Prop where
  opened : opening ∈ envelopes ∧ opens menuId opening = true
  later : opening.seq < seq
  answered : ∃ answer ∈ envelopes, answers menuId answer = true ∧ answer.seq = seq
  first : ∀ envelope ∈ envelopes, opening.seq < envelope.seq → answers menuId envelope = true →
    seq ≤ envelope.seq

/-- Every journal only gains envelopes. -/
def Grows (store store' : MenuStore) : Prop :=
  ∀ sessionId, ∃ gained, (store'.journals sessionId).envelopes =
    (store.journals sessionId).envelopes ++ gained

theorem Grows.refl (store : MenuStore) : Grows store store := fun _ => ⟨[], by simp⟩

theorem Grows.trans {first second third : MenuStore} (early : Grows first second)
    (late : Grows second third) : Grows first third := by
  intro sessionId
  obtain ⟨gained, grown⟩ := early sessionId
  obtain ⟨more, again⟩ := late sessionId
  exact ⟨gained ++ more, by rw [again, grown, append_assoc]⟩

section Append

variable {store store' : MenuStore} {sessionId : SessionId} {batch : List RawEnvelope}

theorem append_ok (appended : store.append sessionId batch = .ok store') :
    store' = { store with
      journals := Function.update store.journals sessionId ((store.journals sessionId).append batch)
      eventIds := store.eventIds ++ batch.map (·.eventId) } := by
  unfold MenuStore.append at appended
  simp only at appended
  split at appended <;> cases appended
  rfl

theorem append_grows (appended : store.append sessionId batch = .ok store') :
    Grows store store' := by
  obtain rfl := append_ok appended
  intro other
  by_cases same : other = sessionId
  · subst same
    exact ⟨_, by simp only [Function.update_self]; rfl⟩
  · exact ⟨[], by simp [Function.update_of_ne same]⟩

end Append

section Growth

variable {store store' : MenuStore} {sessionId : SessionId} {menuId : MenuId}
  {envelope : RawEnvelope}

theorem Grows.subset (grows : Grows store store')
    (mem : envelope ∈ (store.journals sessionId).envelopes) :
    envelope ∈ (store'.journals sessionId).envelopes := by
  obtain ⟨gained, grown⟩ := grows sessionId
  rw [grown]
  exact mem_append_left _ mem

theorem Grows.old (grows : Grows store store')
    (mem : envelope ∈ (store'.journals sessionId).envelopes)
    (early : envelope.seq ≤ (store.journals sessionId).headSeq) :
    envelope ∈ (store.journals sessionId).envelopes := by
  obtain ⟨gained, grown⟩ := grows sessionId
  have member' := mem
  rw [grown] at member'
  rcases mem_append.mp member' with old | new
  · exact old
  · have := Journal.headSeq_lt grown new
    omega

variable {opening : RawEnvelope} {seq : Nat}

variable (won : WonBy menuId (store.journals sessionId).envelopes opening seq)
include won

theorem WonBy.seq_le_headSeq :
    seq ≤ (store.journals sessionId).headSeq := by
  obtain ⟨answer, mem, _, rfl⟩ := won.answered
  exact Journal.seq_le_headSeq _ mem

theorem WonBy.grows (grows : Grows store store') :
    WonBy menuId (store'.journals sessionId).envelopes opening seq := by
  have early := won.seq_le_headSeq
  refine ⟨⟨grows.subset won.opened.1, won.opened.2⟩, won.later, ?_, ?_⟩
  · obtain ⟨answer, mem, answered, same⟩ := won.answered
    exact ⟨answer, grows.subset mem, answered, same⟩
  · intro envelope mem behind answered
    by_cases late : envelope.seq ≤ (store.journals sessionId).headSeq
    · exact won.first envelope (grows.old mem late) behind answered
    · omega

omit won

theorem PendingBetween.grows {low high : Nat}
    (pending : PendingBetween menuId (store.journals sessionId).envelopes low high)
    (known : high ≤ (store.journals sessionId).headSeq) (grows : Grows store store') :
    PendingBetween menuId (store'.journals sessionId).envelopes low high := by
  intro envelope mem behind before
  exact pending envelope (grows.old mem (by omega)) behind before

end Growth

/-- In a session that opens each menu once, there is one opening. -/
theorem OpenedOnce.unique {store : MenuStore} (once : OpenedOnce store) {sessionId : SessionId}
    {menuId : MenuId} {first second : RawEnvelope}
    (one : first ∈ (store.journals sessionId).envelopes ∧ opens menuId first = true)
    (other : second ∈ (store.journals sessionId).envelopes ∧ opens menuId second = true) :
    first = second := by
  by_contra different
  have apart := pairwise_filterMap.mp (once sessionId)
  have symmetric : Std.Symm fun a b : RawEnvelope =>
      ∀ menu, a.payload.decodeEvent.bind openedMenuId = some menu →
        ∀ menu', b.payload.decodeEvent.bind openedMenuId = some menu' → menu ≠ menu' :=
    ⟨fun a b distinct menu here menu' there same => distinct menu' there menu here same.symm⟩
  exact apart.forall one.1 other.1 different menuId (beq_iff_eq.mp one.2) menuId
    (beq_iff_eq.mp other.2) rfl

/-- The winner is the first answer after the opening. -/
theorem WonBy.firstAnswer_eq {store : MenuStore} (once : OpenedOnce store)
    {sessionId : SessionId} {menuId : MenuId} {opening : RawEnvelope}
    (won : WonBy menuId (store.journals sessionId).envelopes opening seq) :
    firstAnswer menuId (store.journals sessionId).envelopes = some seq := by
  have found : (store.journals sessionId).envelopes.find? (opens menuId) = some opening := by
    cases found : (store.journals sessionId).envelopes.find? (opens menuId) with
    | none =>
      have none := find?_eq_none.mp found opening won.opened.1
      exact absurd won.opened.2 none
    | some other =>
      exact congrArg some (once.unique ⟨mem_of_find?_eq_some found, find?_some found⟩
        won.opened)
  rw [firstAnswer, found, Option.bind_some]
  obtain ⟨answer, mem, answered, same⟩ := won.answered
  cases earliest : (Log.after (·.seq) opening.seq (store.journals sessionId).envelopes).find?
      (answers menuId) with
  | none =>
    have silent := find?_eq_none.mp earliest answer
      (Log.mem_after.mpr ⟨mem, same ▸ won.later⟩)
    exact absurd answered silent
  | some envelope =>
    have inside := Log.mem_after.mp (mem_of_find?_eq_some earliest)
    have atLeast := won.first envelope inside.1 inside.2 (find?_some earliest)
    have atMost : envelope.seq ≤ seq := same ▸
      Log.find?_le (Log.increasing_after (store.journals sessionId).increasing opening.seq) earliest
        (Log.mem_after.mpr ⟨mem, same ▸ won.later⟩) answered
    exact congrArg some (Nat.le_antisymm atMost atLeast)

end HaiderAgent.Menus
