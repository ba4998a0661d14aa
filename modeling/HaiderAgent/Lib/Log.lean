import Mathlib.Data.List.Sort

/-!
# Reading a log by a cursor

A log is a list whose elements have strictly increasing positions. A reader that keeps a cursor
splits it into what it has read and what lies after; a page read after the cursor moves that
split past its last element, and growth at the end moves nothing.
-/

namespace Log

open List

variable {α : Type} {pos : α → Nat}

/-- Positions grow along the log. -/
def Increasing (pos : α → Nat) (xs : List α) : Prop := xs.Pairwise fun a b => pos a < pos b

/-- The part at or before a cursor. -/
def upTo (pos : α → Nat) (cursor : Nat) (xs : List α) : List α :=
  xs.filter fun x => pos x ≤ cursor

/-- The part after a cursor. -/
def after (pos : α → Nat) (cursor : Nat) (xs : List α) : List α :=
  xs.filter fun x => cursor < pos x

variable {x y : α} {xs : List α} {cursor : Nat}

theorem mem_upTo :
    x ∈ upTo pos cursor xs ↔ x ∈ xs ∧ pos x ≤ cursor := by
  simp [upTo]

theorem mem_after :
    x ∈ after pos cursor xs ↔ x ∈ xs ∧ cursor < pos x := by
  simp [after]

theorem upTo_filter (keep : α → Bool) (cursor : Nat) (xs : List α) :
    upTo pos cursor (xs.filter keep) = (upTo pos cursor xs).filter keep := by
  simp only [upTo, filter_filter, Bool.and_comm]

theorem increasing_after (increasing : Increasing pos xs) (cursor : Nat) :
    Increasing pos (after pos cursor xs) :=
  increasing.filter _

theorem eq_of_pos_eq (increasing : Increasing pos xs) (first : x ∈ xs)
    (second : y ∈ xs) (same : pos x = pos y) : x = y := by
  have distinct : (xs.map pos).Nodup :=
    pairwise_map.mpr (List.Pairwise.imp (fun earlier => Nat.ne_of_lt earlier) increasing)
  exact inj_on_of_nodup_map distinct first second same

theorem find?_le (increasing : Increasing pos xs) {p : α → Bool} {y : α}
    (found : xs.find? p = some x) (mem : y ∈ xs) (holds : p y = true) : pos x ≤ pos y := by
  obtain ⟨_, before, behind, split, silent⟩ := find?_eq_some_iff_append.mp found
  subst split
  rcases mem_append.mp mem with earlier | later
  · have none := silent y earlier
    simp [holds] at none
  · rcases mem_cons.mp later with rfl | later
    · exact Nat.le_refl _
    · have ordered := (pairwise_append.mp increasing).2.1
      exact Nat.le_of_lt ((pairwise_cons.mp ordered).1 y later)

/-- The place of a position in the log, counted from one. -/
def rank (pos : α → Nat) (xs : List α) (position : Nat) : Option Nat :=
  (xs.findIdx? fun x => pos x == position).map (· + 1)

theorem rank_eq_some {position n : Nat} (ranked : rank pos xs position = some n) :
    ∃ x, xs[n - 1]? = some x ∧ pos x = position ∧ 0 < n := by
  obtain ⟨index, found, rfl⟩ := Option.map_eq_some_iff.mp ranked
  obtain ⟨inside, here, _⟩ := findIdx?_eq_some_iff_getElem.mp found
  exact ⟨xs[index], by simp [inside], beq_iff_eq.mp here, Nat.succ_pos index⟩

theorem rank_injective {first second n : Nat} (one : rank pos xs first = some n)
    (other : rank pos xs second = some n) : first = second := by
  obtain ⟨x, here, atFirst, _⟩ := rank_eq_some one
  obtain ⟨y, there, atSecond, _⟩ := rank_eq_some other
  rw [here, Option.some_inj] at there
  rw [← atFirst, ← atSecond, there]

theorem rank_getElem (increasing : Increasing pos xs) {index : Nat}
    (here : xs[index]? = some x) : rank pos xs (pos x) = some (index + 1) := by
  obtain ⟨inside, rfl⟩ := List.getElem?_eq_some_iff.mp here
  have found : xs.findIdx? (fun y => pos y == pos xs[index]) = some index := by
    refine findIdx?_eq_some_iff_getElem.mpr ⟨inside, by simp, ?_⟩
    intro earlier before
    have less := pairwise_iff_getElem.mp increasing earlier index (by omega) inside before
    simp only [Bool.not_eq_true, beq_eq_false_iff_ne, ne_eq]
    omega
  rw [rank, found, Option.map_some]

theorem after_eq_self (late : ∀ x ∈ xs, cursor < pos x) :
    after pos cursor xs = xs := by
  apply filter_eq_self.mpr
  intro x mem
  simpa using late x mem

theorem upTo_eq_nil (late : ∀ x ∈ xs, cursor < pos x) :
    upTo pos cursor xs = [] := by
  apply filter_eq_nil_iff.mpr
  intro x mem
  have := late x mem
  simp only [decide_eq_true_eq]
  omega

theorem upTo_append_after (increasing : Increasing pos xs) (cursor : Nat) :
    upTo pos cursor xs ++ after pos cursor xs = xs := by
  induction xs with
  | nil => rfl
  | cons x xs ih =>
    obtain ⟨first, later⟩ := pairwise_cons.mp increasing
    by_cases read : pos x ≤ cursor
    · have unread : ¬ cursor < pos x := by omega
      simp only [upTo, after, filter_cons, read, unread, decide_true, decide_false, if_true,
        Bool.false_eq_true, if_false, cons_append, cons.injEq, true_and]
      exact ih later
    · have late : ∀ y ∈ x :: xs, cursor < pos y := by
        intro y mem
        rcases mem_cons.mp mem with rfl | tail
        · omega
        · have := first y tail
          omega
      rw [upTo_eq_nil late, after_eq_self late, nil_append]

theorem upTo_append {gained : List α} (late : ∀ x ∈ gained, cursor < pos x) :
    upTo pos cursor (xs ++ gained) = upTo pos cursor xs := by
  have nothing : gained.filter (fun x => pos x ≤ cursor) = [] := upTo_eq_nil late
  simp only [upTo, filter_append, nothing, append_nil]

section Page

variable {page rest : List α} {last : α}

/-- The last position of a page is the cursor of the next. -/
theorem after_page (increasing : Increasing pos xs)
    (cut : after pos cursor xs = (page ++ [last]) ++ rest) :
    after pos (pos last) xs = rest := by
  have sorted : (after pos cursor xs).Pairwise fun a b => pos a < pos b :=
    List.Pairwise.sublist filter_sublist increasing
  rw [cut, pairwise_append, pairwise_append] at sorted
  obtain ⟨⟨-, -, before⟩, -, across⟩ := sorted
  have passed : cursor < pos last := (mem_after.mp (by simp [cut] : last ∈ after pos cursor xs)).2
  have twice : after pos (pos last) xs = after pos (pos last) (after pos cursor xs) := by
    unfold after
    rw [filter_filter]
    refine filter_congr fun x _ => ?_
    by_cases later : pos last < pos x
    · have : cursor < pos x := by omega
      simp [later, this]
    · simp [later]
  have none : after pos (pos last) (page ++ [last]) = [] := by
    apply filter_eq_nil_iff.mpr
    intro x mem
    simp only [decide_eq_true_eq]
    rcases mem_append.mp mem with early | here
    · have := before x early last (by simp)
      omega
    · rw [mem_singleton.mp here]
      omega
  have all : after pos (pos last) rest = rest :=
    after_eq_self fun x mem => across last (by simp) x mem
  rw [twice, cut]
  unfold after at none all ⊢
  rw [filter_append, none, all, nil_append]

theorem upTo_page (increasing : Increasing pos xs)
    (cut : after pos cursor xs = (page ++ [last]) ++ rest) :
    upTo pos (pos last) xs = upTo pos cursor xs ++ (page ++ [last]) := by
  have split := upTo_append_after increasing (pos last)
  rw [after_page increasing cut] at split
  have whole := upTo_append_after increasing cursor
  rw [cut, ← append_assoc] at whole
  exact append_cancel_right (split.trans whole.symm)

end Page

/-- The position of the last element, zero for an empty log. -/
def head (pos : α → Nat) (xs : List α) : Nat := (xs.getLast?.map pos).getD 0

theorem le_head (increasing : Increasing pos xs) (mem : x ∈ xs) :
    pos x ≤ head pos xs := by
  rcases xs.eq_nil_or_concat' with rfl | ⟨init, last, rfl⟩
  · simp at mem
  · obtain ⟨-, -, across⟩ := pairwise_append.mp increasing
    simp only [head, getLast?_append, getLast?_singleton, Option.some_or,
      Option.map_some, Option.getD_some]
    rcases mem_append.mp mem with earlier | here
    · exact Nat.le_of_lt (across x earlier last (by simp))
    · exact Nat.le_of_eq (congrArg pos (mem_singleton.mp here))

theorem head_lt {gained : List α} (increasing : Increasing pos (xs ++ gained))
    (positive : ∀ x ∈ gained, 0 < pos x) (mem : x ∈ gained) : head pos xs < pos x := by
  rcases xs.eq_nil_or_concat' with rfl | ⟨init, last, rfl⟩
  · simpa [head] using positive x mem
  · obtain ⟨-, -, across⟩ := pairwise_append.mp increasing
    simpa [head] using across last (by simp) x mem

section Number

variable {β : Type} {stamp : Nat → β → α}

/-- Stamp a batch with the positions from `first` on. -/
def number (stamp : Nat → β → α) (first : Nat) : List β → List α
  | [] => []
  | b :: rest => stamp first b :: number stamp (first + 1) rest

@[simp] theorem number_nil (first : Nat) : number stamp first [] = [] := rfl

@[simp] theorem number_cons (first : Nat) (b : β) (rest : List β) :
    number stamp first (b :: rest) = stamp first b :: number stamp (first + 1) rest := rfl

theorem number_append (first : Nat) (xs ys : List β) :
    number stamp first (xs ++ ys) = number stamp first xs ++ number stamp (first + xs.length) ys := by
  induction xs generalizing first with
  | nil => rfl
  | cons x xs ih =>
    have shifted : first + 1 + xs.length = first + (x :: xs).length := by
      rw [length_cons]
      omega
    rw [cons_append, number_cons, number_cons, ih, shifted, cons_append]

theorem exists_of_mem_number {first : Nat} {batch : List β} {x : α}
    (mem : x ∈ number stamp first batch) : ∃ n, first ≤ n ∧ ∃ b ∈ batch, x = stamp n b := by
  induction batch generalizing first with
  | nil => simp at mem
  | cons b rest ih =>
    rcases mem_cons.mp mem with here | later
    · exact ⟨first, Nat.le_refl _, b, mem_cons_self, here⟩
    · obtain ⟨n, after, b', found, same⟩ := ih later
      exact ⟨n, by omega, b', mem_cons_of_mem _ found, same⟩

theorem map_number {γ : Type} {f : α → γ} {g : β → γ} (same : ∀ n b, f (stamp n b) = g b)
    (first : Nat) (batch : List β) : (number stamp first batch).map f = batch.map g := by
  induction batch generalizing first with
  | nil => rfl
  | cons b rest ih => rw [number_cons, map_cons, map_cons, same, ih]

theorem filterMap_number {γ : Type} {f : α → Option γ} {g : β → Option γ}
    (same : ∀ n b, f (stamp n b) = g b) (first : Nat) (batch : List β) :
    (number stamp first batch).filterMap f = batch.filterMap g := by
  induction batch generalizing first with
  | nil => rfl
  | cons b rest ih => rw [number_cons, filterMap_cons, filterMap_cons, same, ih]

variable (position : ∀ n b, pos (stamp n b) = n)

include position

theorem le_pos_of_mem_number {first : Nat} {batch : List β} {x : α}
    (mem : x ∈ number stamp first batch) : first ≤ pos x := by
  obtain ⟨n, after, b, -, rfl⟩ := exists_of_mem_number mem
  rwa [position]

theorem increasing_number (first : Nat) (batch : List β) :
    Increasing pos (number stamp first batch) := by
  induction batch generalizing first with
  | nil => exact List.Pairwise.nil
  | cons b rest ih =>
    refine List.Pairwise.cons ?_ (ih (first + 1))
    intro later mem
    have := le_pos_of_mem_number position mem
    rw [position]
    omega

theorem increasing_append_number (increasing : Increasing pos xs) (batch : List β) :
    Increasing pos (xs ++ number stamp (head pos xs + 1) batch) := by
  refine pairwise_append.mpr ⟨increasing, increasing_number position _ batch, ?_⟩
  intro old oldMember new newMember
  have := le_head increasing oldMember
  have := le_pos_of_mem_number position newMember
  omega

end Number

section Newest

/-- The positions decrease along the list: the newest element stands first. -/
def NewestFirst (pos : α → Nat) (xs : List α) : Prop := xs.Pairwise fun a b => pos b < pos a

theorem orderedInsert_newest (newest : ∀ y ∈ xs, pos y < pos x) :
    xs.orderedInsert (fun a b => pos a ≤ pos b) x = xs ++ [x] := by
  induction xs with
  | nil => rfl
  | cons y rest ih =>
    obtain ⟨here, later⟩ := forall_mem_cons.mp newest
    rw [orderedInsert_of_not_le _ _ (by omega), ih later, cons_append]

theorem insertionSort_newestFirst (ordered : NewestFirst pos xs) :
    xs.insertionSort (fun a b => pos a ≤ pos b) = xs.reverse := by
  induction xs with
  | nil => rfl
  | cons x rest ih =>
    obtain ⟨newest, older⟩ := pairwise_cons.mp ordered
    rw [insertionSort_cons, ih older, reverse_cons]
    exact orderedInsert_newest fun y mem => newest y (mem_reverse.mp mem)

end Newest

end Log
