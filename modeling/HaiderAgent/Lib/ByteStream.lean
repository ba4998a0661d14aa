import HaiderAgent.Lib.ExceptFold

/-!
# Bytes that arrive in pieces

The UTF-8 scanner takes one byte at a time and knows the complete scalars so far, the bytes of a
scalar it is inside of and what that scalar still owes; it fails at the first byte that no scalar
can have there. The line splitter gives the lines closed by a newline and the rest. Both can be
stopped anywhere and read on. Lossy decoding replaces what is invalid, and can be done piece by
piece where no piece ends inside a scalar.
-/

namespace ByteStream

open List

/-! ## UTF-8 -/

/-- The ranges of the bytes behind a leading byte, or `none` where it leads no scalar. -/
def following (lead : UInt8) : Option (List (UInt8 × UInt8)) :=
  if lead < 0x80 then some []
  else if lead < 0xC2 then none
  else if lead < 0xE0 then some [(0x80, 0xBF)]
  else if lead = 0xE0 then some [(0xA0, 0xBF), (0x80, 0xBF)]
  else if lead = 0xED then some [(0x80, 0x9F), (0x80, 0xBF)]
  else if lead < 0xF0 then some [(0x80, 0xBF), (0x80, 0xBF)]
  else if lead = 0xF0 then some [(0x90, 0xBF), (0x80, 0xBF), (0x80, 0xBF)]
  else if lead < 0xF4 then some [(0x80, 0xBF), (0x80, 0xBF), (0x80, 0xBF)]
  else if lead = 0xF4 then some [(0x80, 0x8F), (0x80, 0xBF), (0x80, 0xBF)]
  else none

/-- A scan in progress: complete scalars, the open scalar's bytes, the ranges it still owes. -/
structure Scan where
  text : List UInt8
  pending : List UInt8
  owed : List (UInt8 × UInt8)
  deriving DecidableEq, Repr

/-- Nothing read. -/
def Scan.start : Scan := { text := [], pending := [], owed := [] }

variable (earlier : List UInt8) (scan : Scan)

/-- One more byte of a scalar, which ends it when nothing is owed. -/
def Scan.extend (byte : UInt8) : List (UInt8 × UInt8) → Scan
  | [] => { text := scan.text ++ (scan.pending ++ [byte]), pending := [], owed := [] }
  | owed => { scan with pending := scan.pending ++ [byte], owed := owed }

/-- A byte is accepted if it may start a scalar or continue the open one. -/
def Scan.byte (scan : Scan) (byte : UInt8) : Except Scan Scan :=
  match scan.owed with
  | [] =>
    match following byte with
    | none => .error scan
    | some owed => .ok (scan.extend byte owed)
  | (low, high) :: owed =>
    if low ≤ byte ∧ byte ≤ high then .ok (scan.extend byte owed) else .error scan

/-- Byte after byte, stopping at the first refusal. -/
def Scan.bytes (scan : Scan) (bytes : List UInt8) : Except Scan Scan := bytes.foldlM Scan.byte scan

/-- The scan from the start. -/
def utf8 (bytes : List UInt8) : Except Scan Scan := Scan.start.bytes bytes

theorem Scan.bytes_append (first rest : List UInt8) :
    scan.bytes (first ++ rest) = scan.bytes first >>= fun next => next.bytes rest :=
  foldlM_append

/-- The scan with earlier text in front. -/
def Scan.after : Scan :=
  { scan with text := earlier ++ scan.text }

/-- The outcome of a scan with earlier text in front. -/
def afterEither : Except Scan Scan → Except Scan Scan
  | .ok scan => .ok (scan.after earlier)
  | .error scan => .error (scan.after earlier)

theorem Scan.byte_after (byte : UInt8) :
    (scan.after earlier).byte byte = afterEither earlier (scan.byte byte) := by
  have extended : ∀ owed, (scan.after earlier).extend byte owed =
      (scan.extend byte owed).after earlier := by
    intro owed
    cases owed <;> simp [Scan.extend, Scan.after]
  have sameOwed : (scan.after earlier).owed = scan.owed := rfl
  unfold Scan.byte
  rw [sameOwed]
  cases scan.owed with
  | nil =>
    simp only
    cases following byte with
    | none => rfl
    | some next => exact congrArg Except.ok (extended next)
  | cons range rest =>
    simp only
    split
    · exact congrArg Except.ok (extended rest)
    · rfl

theorem Scan.bytes_after (bytes : List UInt8) :
    (scan.after earlier).bytes bytes = afterEither earlier (scan.bytes bytes) := by
  induction bytes generalizing scan with
  | nil => rfl
  | cons byte bytes ih =>
    unfold Scan.bytes at ih ⊢
    rw [foldlM_cons, foldlM_cons, Scan.byte_after]
    cases scan.byte byte with
    | error failed => rfl
    | ok next => exact ih next

/-- The pending bytes of a scan, scanned afresh, lead to the same scan without its text. -/
def Scan.Resumable : Prop :=
  utf8 scan.pending = .ok { scan with text := [] } ∧ (scan.owed = [] → scan.pending = [])

variable {scan next : Scan}

/-- What is pending and owed always comes from a started scalar. -/
theorem Scan.Resumable.byte (resumable : scan.Resumable) {byte : UInt8}
    (read : scan.byte byte = .ok next) : next.Resumable := by
  obtain ⟨again, boundary⟩ := resumable
  have step : utf8 (scan.pending ++ [byte]) = Scan.byte { scan with text := [] } byte := by
    unfold utf8 at again ⊢
    rw [Scan.bytes_append, again]
    exact bind_pure (Scan.byte { scan with text := [] } byte)
  have extended : ∃ owed, next = scan.extend byte owed ∧
      Scan.byte { scan with text := [] } byte = .ok (Scan.extend { scan with text := [] } byte owed) := by
    unfold Scan.byte at read ⊢
    cases owed : scan.owed with
    | nil =>
      rw [owed] at read
      cases led : following byte with
      | none =>
        rw [led] at read
        cases read
      | some owed =>
        rw [led] at read
        cases read
        exact ⟨owed, rfl, rfl⟩
    | cons range rest =>
      rw [owed] at read
      simp only at read ⊢
      by_cases inside : range.1 ≤ byte ∧ byte ≤ range.2
      · rw [if_pos inside] at read ⊢
        cases read
        exact ⟨rest, rfl, rfl⟩
      · rw [if_neg inside] at read
        cases read
  obtain ⟨owed, rfl, fresh⟩ := extended
  cases owed with
  | nil => exact ⟨rfl, fun _ => rfl⟩
  | cons range rest =>
    refine ⟨?_, nofun⟩
    show utf8 (scan.pending ++ [byte]) = _
    rw [step, fresh]
    rfl

theorem Scan.Resumable.bytes (resumable : scan.Resumable) {bytes : List UInt8}
    (read : scan.bytes bytes = .ok next) : next.Resumable :=
  ExceptFold.foldlM_rel (fun before after => before.Resumable → after.Resumable)
    (fun _ kept => kept) (fun _ _ _ first second kept => second (first kept))
    (fun _ _ _ _ step kept => kept.byte step) read resumable

variable {first : List UInt8}

theorem utf8_resume (read : utf8 first = .ok scan) (rest : List UInt8) :
    utf8 (first ++ rest) = afterEither scan.text (utf8 (scan.pending ++ rest)) := by
  have resumable : scan.Resumable := Scan.Resumable.bytes ⟨rfl, fun _ => rfl⟩ read
  have whole : scan = Scan.after scan.text { scan with text := [] } := by
    simp [Scan.after]
  have resumed : utf8 (scan.pending ++ rest) = Scan.bytes { scan with text := [] } rest := by
    have again := resumable.1
    unfold utf8 at again ⊢
    rw [Scan.bytes_append, again]
    rfl
  have continued : utf8 (first ++ rest) = scan.bytes rest := by
    unfold utf8 at read ⊢
    rw [Scan.bytes_append, read]
    rfl
  rw [continued, resumed]
  conv_lhs => rw [whole]
  exact Scan.bytes_after _ _ _

theorem utf8_failed {bytes : List UInt8} (failed : utf8 bytes = .error scan) :
    ∃ before byte after, bytes = before ++ byte :: after ∧ utf8 before = .ok scan := by
  obtain ⟨before, byte, after, found, split, read, refused⟩ := ExceptFold.foldlM_error failed
  have kept : found = scan := by
    unfold Scan.byte at refused
    split at refused
    · split at refused
      · cases refused
        rfl
      · cases refused
    · split at refused
      · cases refused
      · cases refused
        rfl
  exact ⟨before, byte, after, split, kept ▸ read⟩

/-! ## Lossy decoding -/

/-- U+FFFD. -/
def replacement : List UInt8 := [0xEF, 0xBF, 0xBD]

/-- The scalar a scan is inside of given up for a replacement character. -/
def Scan.giveUp (scan : Scan) : Scan :=
  { text := scan.text ++ (if scan.pending = [] then [] else replacement), pending := [], owed := [] }

/-- One byte, a maximal part of a scalar that cannot go on replaced. -/
def Scan.lossyByte (scan : Scan) (byte : UInt8) : Scan :=
  match scan.byte byte with
  | .ok next => next
  | .error _ =>
    match scan.giveUp.byte byte with
    | .ok next => next
    | .error _ => { scan.giveUp with text := scan.giveUp.text ++ replacement }

/-- The scan that replaces what it cannot accept. -/
def lossyScan (bytes : List UInt8) : Scan := bytes.foldl Scan.lossyByte Scan.start

/-- The text of the bytes, with a replacement character for every maximal invalid part. -/
def lossy (bytes : List UInt8) : List UInt8 := (lossyScan bytes).giveUp.text

/-- The bytes do not end inside a scalar. -/
def Boundary (bytes : List UInt8) : Prop :=
  (lossyScan bytes).pending = [] ∧ (lossyScan bytes).owed = []

instance (bytes : List UInt8) : Decidable (Boundary bytes) := inferInstanceAs (Decidable (_ ∧ _))

theorem Scan.giveUp_after (scan : Scan) :
    (scan.after earlier).giveUp = scan.giveUp.after earlier := by
  show Scan.mk ((earlier ++ scan.text) ++ _) [] [] = Scan.mk (earlier ++ (scan.text ++ _)) [] []
  rw [append_assoc]
  rfl

theorem Scan.lossyByte_after (scan : Scan) (byte : UInt8) :
    (scan.after earlier).lossyByte byte = (scan.lossyByte byte).after earlier := by
  unfold Scan.lossyByte
  rw [Scan.byte_after, Scan.giveUp_after, Scan.byte_after]
  cases scan.byte byte with
  | ok next => rfl
  | error failed =>
    cases scan.giveUp.byte byte with
    | ok next => rfl
    | error failed => simp [afterEither, Scan.after]

theorem foldl_lossyByte_after (scan : Scan) (bytes : List UInt8) :
    bytes.foldl Scan.lossyByte (scan.after earlier) =
      (bytes.foldl Scan.lossyByte scan).after earlier := by
  induction bytes generalizing scan with
  | nil => rfl
  | cons byte bytes ih => rw [foldl_cons, foldl_cons, Scan.lossyByte_after, ih]

theorem lossyScan_append (boundary : Boundary first) (rest : List UInt8) :
    lossyScan (first ++ rest) = (lossyScan rest).after (lossy first) := by
  have whole : lossyScan first = Scan.start.after (lossy first) := by
    obtain ⟨pending, owed⟩ := boundary
    simp only [lossy, Scan.giveUp, pending, if_true, append_nil, Scan.after, Scan.start]
    rw [← pending]
    conv_rhs => rw [← owed]
  unfold lossyScan at whole ⊢
  rw [foldl_append, whole, foldl_lossyByte_after]

theorem lossy_append (boundary : Boundary first) (rest : List UInt8) :
    lossy (first ++ rest) = lossy first ++ lossy rest := by
  conv_lhs => rw [lossy]
  rw [lossyScan_append boundary, Scan.giveUp_after]
  rfl

theorem lossyScan_ascii {bytes : List UInt8} (plain : ∀ byte ∈ bytes, byte < 0x80) :
    lossyScan bytes = { text := bytes, pending := [], owed := [] } := by
  have single : ∀ byte : UInt8, byte < 0x80 →
      Scan.start.lossyByte byte = Scan.start.after [byte] := by
    intro byte low
    simp [Scan.lossyByte, Scan.byte, Scan.start, following, low, Scan.extend, Scan.after]
  induction bytes with
  | nil => rfl
  | cons byte bytes ih =>
    obtain ⟨low, rest⟩ := forall_mem_cons.mp plain
    have tail := ih rest
    unfold lossyScan at tail ⊢
    rw [foldl_cons, single byte low, foldl_lossyByte_after, tail]
    rfl

theorem lossy_ascii_append {bytes : List UInt8} (plain : ∀ byte ∈ bytes, byte < 0x80)
    (rest : List UInt8) : lossy (bytes ++ rest) = bytes ++ lossy rest := by
  have scanned := lossyScan_ascii plain
  have boundary : Boundary bytes := by
    unfold Boundary
    rw [scanned]
    exact ⟨rfl, rfl⟩
  rw [lossy_append boundary]
  conv_lhs => rw [lossy, scanned, Scan.giveUp, if_pos rfl, append_nil]

/-! ## Lines -/

/-- The lines closed by a newline, without it, and what follows the last newline. -/
def splitLines : List UInt8 → List (List UInt8) × List UInt8
  | [] => ([], [])
  | byte :: bytes =>
    match splitLines bytes with
    | (lines, rest) =>
      if byte = 0x0A then ([] :: lines, rest)
      else
        match lines with
        | [] => ([], byte :: rest)
        | line :: lines => ((byte :: line) :: lines, rest)

theorem splitLines_resume (first rest : List UInt8) :
    splitLines (first ++ rest) =
      ((splitLines first).1 ++ (splitLines ((splitLines first).2 ++ rest)).1,
        (splitLines ((splitLines first).2 ++ rest)).2) := by
  induction first with
  | nil => simp [splitLines]
  | cons byte bytes ih =>
    rw [cons_append, splitLines, ih]
    by_cases newline : byte = 0x0A
    · simp [splitLines, newline]
    · cases lines : (splitLines bytes).1 with
      | nil => simp [splitLines, newline, lines]
      | cons line more => simp [splitLines, newline, lines]

theorem splitLines_line {line : List UInt8} (unbroken : (0x0A : UInt8) ∉ line) :
    splitLines (line ++ [0x0A]) = ([line], []) := by
  induction line with
  | nil => rfl
  | cons byte line ih =>
    rw [mem_cons, not_or] at unbroken
    rw [cons_append, splitLines, ih unbroken.2]
    simp [Ne.symm unbroken.1]

end ByteStream
