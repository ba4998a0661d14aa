import HaiderAgent.Lib.ByteStream

/-!
# The output buffer of a background task

`OutputRedactor` (`haider-tools/src/output_redactor.rs`) and the retained bytes of
`TaskOutputBuffer` (`haider-tools/src/tasks.rs`): chunks are classified line by line before they are
committed, and a live snapshot is a copy whose unfinished lines are committed as they stand. What
redaction makes of a line is a parameter; the hash, the tail, the counters and the progress lines
are left out.
-/

namespace HaiderAgent.TaskOutput

open ByteStream (splitLines)

/-- A `Vec<u8>`. -/
abbrev Bytes := List UInt8

/-- `PROCESS_MAX_OUTPUT_BYTES` (process.rs). -/
def processMaxOutputBytes : Nat := 2 * 1024 * 1024

/-- `TASK_OUTPUT_RETAIN_BYTES` (task.rs). -/
def taskOutputRetainBytes : Nat := 512 * 1024

/-- `OutputStream` (item.rs). -/
inductive OutputStream
  | stdout
  | stderr
  deriving DecidableEq, Repr

/-- The classification of lines: what a line becomes, and the state after a dropped one. -/
structure Redaction (R : Type) where
  start : R
  line : R → Bytes → R × Bytes
  oversized : R → R

section Redactor

variable {R : Type} (redaction : Redaction R)

/-- The redactor of one stream, with its unfinished line. -/
structure OutputRedactor (R : Type) where
  pending : Bytes
  state : R
  discardingLine : Bool

/-- `OutputRedactor::new`. -/
def OutputRedactor.new : OutputRedactor R :=
  { pending := [], state := redaction.start, discardingLine := false }

variable (redactor : OutputRedactor R)

/-- `finish_bytes`: the unfinished line is given out. -/
def OutputRedactor.finishBytes : OutputRedactor R × Bytes :=
  if redactor.pending.isEmpty then (redactor, [])
  else
    let (state, safe) := redaction.line redactor.state redactor.pending
    ({ redactor with pending := [], state := state }, safe)

/-- `[REDACTED:oversized_output_line]` and a newline. -/
def oversizedLine : Bytes :=
  ("[REDACTED:oversized_output_line]\n".toList).map fun character => character.toNat.toUInt8

/-- A segment taken in; a line over the limit is classified, dropped and announced. -/
def OutputRedactor.takeIn (segment : Bytes) : OutputRedactor R × Bytes :=
  if redactor.discardingLine then (redactor, [])
  else if processMaxOutputBytes < redactor.pending.length + segment.length then
    let remaining := processMaxOutputBytes - redactor.pending.length
    let (finished, _) := OutputRedactor.finishBytes redaction
      { redactor with pending := redactor.pending ++ segment.take remaining }
    ({ finished with state := redaction.oversized finished.state, discardingLine := true },
      oversizedLine)
  else ({ redactor with pending := redactor.pending ++ segment }, [])

/-- One segment of `push_bytes`, up to and including a newline or the last of the chunk. -/
def OutputRedactor.pushSegment (segment : Bytes) : OutputRedactor R × Bytes :=
  let (taken, output) := redactor.takeIn redaction segment
  if segment.getLast? = some 0x0A then
    if taken.discardingLine then ({ taken with discardingLine := false }, output)
    else
      let (finished, safe) := taken.finishBytes redaction
      (finished, output ++ safe)
  else (taken, output)

/-- `split_inclusive` at newlines. -/
def splitInclusive (bytes : Bytes) : List Bytes :=
  let (lines, rest) := splitLines bytes
  lines.map (· ++ [0x0A]) ++ (if rest.isEmpty then [] else [rest])

/-- `push_bytes`: line by line. -/
def OutputRedactor.pushBytes (bytes : Bytes) : OutputRedactor R × Bytes :=
  (splitInclusive bytes).foldl
    (fun (redactor, output) segment =>
      let (next, safe) := redactor.pushSegment redaction segment
      (next, output ++ safe))
    (redactor, [])

end Redactor

/-! ## The buffer -/

/-- `TaskOutputBuffer`, as far as the retained bytes go. -/
structure TaskOutputBuffer (R : Type) where
  retained : Bytes
  retainCap : Nat
  stdout : OutputRedactor R
  stderr : OutputRedactor R

section Buffer

variable {R : Type} (redaction : Redaction R)

/-- `TaskOutputBuffer::new`. -/
def TaskOutputBuffer.new (retainCap : Nat) : TaskOutputBuffer R :=
  { retained := [], retainCap := retainCap, stdout := .new redaction, stderr := .new redaction }

variable (buffer : TaskOutputBuffer R)

/-- `commit`: what the cap leaves room for is kept. -/
def TaskOutputBuffer.commit (bytes : Bytes) : TaskOutputBuffer R :=
  { buffer with
    retained := buffer.retained ++ bytes.take (buffer.retainCap - buffer.retained.length) }

/-- `append_stream`. -/
def TaskOutputBuffer.appendStream (stream : OutputStream) (bytes : Bytes) : TaskOutputBuffer R :=
  match stream with
  | .stdout =>
    let (redactor, safe) := buffer.stdout.pushBytes redaction bytes
    TaskOutputBuffer.commit { buffer with stdout := redactor } safe
  | .stderr =>
    let (redactor, safe) := buffer.stderr.pushBytes redaction bytes
    TaskOutputBuffer.commit { buffer with stderr := redactor } safe

/-- `finish_streams`: unfinished lines are committed, both redactors start afresh. -/
def TaskOutputBuffer.finishStreams : TaskOutputBuffer R :=
  let (_, first) := buffer.stdout.finishBytes redaction
  let (_, second) := buffer.stderr.finishBytes redaction
  (TaskOutputBuffer.commit { buffer with stdout := .new redaction, stderr := .new redaction }
    first).commit second

/-- `live_snapshot`: a copy with the unfinished lines given out. -/
def TaskOutputBuffer.liveSnapshot : TaskOutputBuffer R :=
  buffer.finishStreams redaction

end Buffer

/-! ## What a snapshot shows -/

section Snapshot

variable {R : Type} (redaction : Redaction R) (buffer : TaskOutputBuffer R)

/-- The unfinished lines as they stand, stdout's and then stderr's. -/
def TaskOutputBuffer.unfinished : Bytes :=
  (buffer.stdout.finishBytes redaction).2 ++ (buffer.stderr.finishBytes redaction).2

/-- What a chunk completes of its stream's lines. -/
def TaskOutputBuffer.released (stream : OutputStream) (bytes : Bytes) : Bytes :=
  match stream with
  | .stdout => (buffer.stdout.pushBytes redaction bytes).2
  | .stderr => (buffer.stderr.pushBytes redaction bytes).2

theorem take_take_append (cap : Nat) (first second : Bytes) :
    (first.take cap ++ second).take cap = (first ++ second).take cap := by
  rw [List.take_append, List.take_append, List.take_take, Nat.min_self, List.length_take,
    show cap - min cap first.length = cap - first.length by omega]

variable {buffer} (room : buffer.retained.length ≤ buffer.retainCap)
include room

theorem retained_commit (bytes : Bytes) :
    (buffer.commit bytes).retained = (buffer.retained ++ bytes).take buffer.retainCap := by
  rw [List.take_append, List.take_of_length_le room]
  rfl

theorem retained_finishStreams : (buffer.finishStreams redaction).retained =
    (buffer.retained ++ buffer.unfinished redaction).take buffer.retainCap := by
  let fresh : TaskOutputBuffer R :=
    { buffer with stdout := .new redaction, stderr := .new redaction }
  have first : (fresh.commit (buffer.stdout.finishBytes redaction).2).retained = _ :=
    retained_commit room _
  have within : (fresh.commit (buffer.stdout.finishBytes redaction).2).retained.length ≤
      buffer.retainCap := first ▸ List.length_take_le _ _
  have second := retained_commit within (buffer.stderr.finishBytes redaction).2
  rw [first] at second
  exact second.trans (by rw [TaskOutputBuffer.unfinished, ← List.append_assoc]; exact take_take_append _ _ _)

theorem retained_appendStream (stream : OutputStream) (bytes : Bytes) :
    (buffer.appendStream redaction stream bytes).retained =
      (buffer.retained ++ buffer.released redaction stream bytes).take buffer.retainCap := by
  cases stream with
  | stdout => exact @retained_commit _ { buffer with stdout := _ } room _
  | stderr => exact @retained_commit _ { buffer with stderr := _ } room _

end Snapshot

end HaiderAgent.TaskOutput
