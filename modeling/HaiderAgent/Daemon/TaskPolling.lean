import HaiderAgent.Tools.TaskOutput
import HaiderAgent.Lib.Machine

/-!
# Polling the output of a background task

The cursor reads of `task_output` (`haider-daemon/src/tasks.rs`) against the chunks a task appends
and its completion. A page of a running task may show unfinished lines, and every page is decoded
by itself: the chunks read add up to the text of the retained bytes as long as the lines shown only
go on and no page that is followed by another ends inside a UTF-8 scalar.
-/

namespace HaiderAgent.TaskOutput

open List TaskOutputBuffer

open ByteStream (lossy Boundary lossy_append lossy_ascii_append)
open ByteStream (replacement)

/-- `TASK_OUTPUT_READ_BYTES` (tasks.rs). -/
def taskOutputReadBytes : Nat := 8 * 1024

/-- `read_task_output_page`: the bytes, the next cursor, and whether the end was reached. -/
def readTaskOutputPage (retained : Bytes) (cursor max : Nat) : Bytes × Nat × Bool :=
  let start := min cursor retained.length
  let stop := min (start + max) retained.length
  ((retained.drop start).take (stop - start), stop, retained.length ≤ stop)

/-- A task and its one reader; `exhausted` is the answer of the last read in the task's phase. -/
structure Polling (R : Type) where
  buffer : TaskOutputBuffer R
  completed : Bool
  artifact : Option Bytes
  cursor : Nat
  chunks : List Bytes
  exhausted : Bool

/-- What happens to a task while a client pages through its output. -/
inductive PollEvent
  | append (stream : OutputStream) (bytes : Bytes)
  | read
  | complete
  deriving DecidableEq, Repr

section Polling

variable {R : Type} (redaction : Redaction R)

/-- A task that has shown nothing yet. -/
def Polling.new (retainCap : Nat) : Polling R :=
  { buffer := .new redaction retainCap, completed := false, artifact := none, cursor := 0,
    chunks := [], exhausted := false }

variable (task : Polling R)

/-- The bytes a read pages over: the artifact where one was stored, else a live snapshot. -/
def Polling.source : Bytes :=
  match task.artifact with
  | some retained => retained
  | none => (task.buffer.liveSnapshot redaction).retained

/-- The page of the next read. -/
def Polling.page : Bytes × Nat × Bool :=
  readTaskOutputPage (task.source redaction) task.cursor taskOutputReadBytes

/-- One event. A completed task appends nothing; empty output is stored as no artifact. -/
def Polling.step : PollEvent → Option (Polling R)
  | .append stream bytes =>
    if task.completed then none
    else some { task with buffer := task.buffer.appendStream redaction stream bytes }
  | .read =>
    let (bytes, next, exhausted) := task.page redaction
    some { task with cursor := next, chunks := task.chunks ++ [lossy bytes],
                     exhausted := exhausted }
  | .complete =>
    if task.completed then none
    else
      let buffer := task.buffer.finishStreams redaction
      some { task with
        buffer := buffer, completed := true, exhausted := false,
        artifact := if buffer.retained.isEmpty then none else some buffer.retained }

/-- What the reader has seen, as the source of the next read has it. -/
def Polling.shown : Bytes := (task.source redaction).take task.cursor

/-- What an event keeps of the bytes shown. A read that has bytes left starts where a scalar of
them ends. What the reader has seen of the unfinished lines is where an append goes on: with what
it completes, and with the lines it leaves unfinished. -/
def Polling.settled : PollEvent → Bool
  | .append stream bytes =>
    ((task.buffer.unfinished redaction).take (task.cursor - task.buffer.retained.length)).isPrefixOf
      (task.buffer.released redaction stream bytes ++
        (task.buffer.appendStream redaction stream bytes).unfinished redaction)
  | .read => decide ((task.source redaction).length ≤ task.cursor ∨
      Boundary (task.shown redaction))
  | .complete => true

/-! ## What the reader has -/

/-- What was read is the text of what a read would page over, up to the cursor. -/
structure Polling.Faithful (task : Polling R) : Prop where
  room : task.buffer.retained.length ≤ task.buffer.retainCap
  within : task.cursor ≤ (task.source redaction).length
  text : task.chunks.flatten = lossy (task.shown redaction)
  running : task.completed = false → task.artifact = none
  /-- After completion reads page over the retained bytes. -/
  stored : task.completed = true → task.source redaction = task.buffer.retained
  /-- The last read of a completed task that was exhausted reached their end. -/
  ended : task.completed = true → task.exhausted = true →
    task.cursor = (task.source redaction).length

theorem Polling.faithful_new (retainCap : Nat) :
    (Polling.new redaction retainCap).Faithful redaction :=
  ⟨Nat.zero_le _, Nat.zero_le _, rfl, fun _ => rfl, nofun, nofun⟩

variable {redaction} {cursor : Nat}

theorem readTaskOutputPage_bytes {retained : Bytes} {max : Nat} (within : cursor ≤ retained.length) :
    retained.take (readTaskOutputPage retained cursor max).2.1 =
      retained.take cursor ++ (readTaskOutputPage retained cursor max).1 := by
  unfold readTaskOutputPage
  simp only [Nat.min_eq_left within]
  generalize stopped : min (cursor + max) retained.length = stop
  have later : cursor ≤ stop := by omega
  conv_lhs => rw [← Nat.add_sub_cancel' later, take_add]

/-- Bytes that go on where the reader stopped leave what it has seen in its place. -/
theorem take_of_kept {retained seen kept : Bytes} {cap : Nat}
    (within : cursor ≤ ((retained ++ seen).take cap).length)
    (goesOn : seen.take (cursor - retained.length) <+: kept) :
    cursor ≤ ((retained ++ kept).take cap).length ∧
      ((retained ++ kept).take cap).take cursor = ((retained ++ seen).take cap).take cursor := by
  rw [length_take, length_append] at within
  obtain ⟨more, rfl⟩ := goesOn
  have whole : (seen.take (cursor - retained.length)).length = cursor - retained.length := by
    rw [length_take]
    omega
  constructor
  · rw [length_take, length_append, length_append, whole]
    omega
  · rw [take_take, take_take, Nat.min_eq_left (by omega), ← append_assoc,
      take_append_of_le_length (by rw [length_append, whole]; omega), take_append, take_take,
      Nat.min_self, ← take_append]

variable {task next : Polling R}

theorem source_of_running (running : task.artifact = none)
    (room : task.buffer.retained.length ≤ task.buffer.retainCap) :
    task.source redaction = (task.buffer.retained ++ task.buffer.unfinished redaction).take
      task.buffer.retainCap := by
  rw [Polling.source, running]
  exact retained_finishStreams redaction room

/-- A settled read shows the next bytes of the output and no others. -/
theorem Polling.Faithful.read (faithful : task.Faithful redaction)
    (settled : task.settled redaction .read = true)
    (taken : task.step redaction .read = some next) :
    next.Faithful redaction ∧ task.shown redaction <+: next.shown redaction := by
  cases taken
  have bytes : (task.source redaction).take (task.page redaction).2.1 =
      task.shown redaction ++ (task.page redaction).1 := readTaskOutputPage_bytes faithful.within
  have within : (task.page redaction).2.1 ≤ (task.source redaction).length := Nat.min_le_right _ _
  refine ⟨⟨faithful.room, within, ?_, faithful.running, faithful.stored, ?_⟩, _, bytes.symm⟩
  · show (task.chunks ++ [lossy (task.page redaction).1]).flatten =
      lossy ((task.source redaction).take (task.page redaction).2.1)
    rw [bytes, flatten_append, flatten_singleton, faithful.text]
    rcases of_decide_eq_true settled with nothing | boundary
    · have blank : (task.page redaction).1 = [] := by
        simp [Polling.page, readTaskOutputPage, nothing]
      rw [blank, append_nil]
      exact append_nil _
    · exact (lossy_append boundary _).symm
  · intro completed exhausted
    have reached : (task.source redaction).length ≤ (task.page redaction).2.1 := by
      simpa [Polling.page, readTaskOutputPage] using exhausted
    exact Nat.le_antisymm within reached

/-- Output that keeps the bytes below the cursor changes nothing already shown. -/
theorem Polling.Faithful.append {stream : OutputStream} {bytes : Bytes}
    (faithful : task.Faithful redaction)
    (settled : task.settled redaction (.append stream bytes) = true)
    (taken : task.step redaction (.append stream bytes) = some next) :
    next.Faithful redaction ∧ task.shown redaction <+: next.shown redaction := by
  rw [Polling.step] at taken
  split at taken
  · cases taken
  rename_i running
  have unstored := faithful.running (Bool.eq_false_iff.mpr running)
  have before : task.source redaction = _ := source_of_running unstored faithful.room
  have grown := retained_appendStream redaction faithful.room stream bytes
  have cap : (task.buffer.appendStream redaction stream bytes).retainCap =
      task.buffer.retainCap := by cases stream <;> rfl
  have room : (task.buffer.appendStream redaction stream bytes).retained.length ≤
      (task.buffer.appendStream redaction stream bytes).retainCap := by
    rw [grown, cap]
    exact length_take_le _ _
  let later : Polling R := { task with buffer := task.buffer.appendStream redaction stream bytes }
  obtain rfl : later = next := Option.some.inj taken
  have after : later.source redaction = _ := source_of_running unstored room
  rw [grown, cap, take_take_append, append_assoc] at after
  have within := faithful.within
  rw [before] at within
  obtain ⟨further, same⟩ := take_of_kept within ( isPrefixOf_iff_prefix.mp settled)
  rw [← before, ← after] at same
  rw [← after] at further
  have kept : later.shown redaction = task.shown redaction := same
  refine ⟨⟨room, further, ?_, fun _ => unstored, ?_, ?_⟩, kept ▸ prefix_rfl⟩
  · rw [kept]
    exact faithful.text
  · exact fun completed => absurd completed running
  · exact fun completed => absurd completed running

/-- Nor does the end of the task. -/
theorem Polling.Faithful.complete (faithful : task.Faithful redaction)
    (taken : task.step redaction .complete = some next) :
    next.Faithful redaction ∧ task.shown redaction <+: next.shown redaction := by
  rw [Polling.step] at taken
  split at taken
  · cases taken
  rename_i running
  have unstored := faithful.running (Bool.eq_false_iff.mpr running)
  have before : task.source redaction = (task.buffer.finishStreams redaction).retained := by
    rw [Polling.source, unstored]
    rfl
  have room : (task.buffer.finishStreams redaction).retained.length ≤ task.buffer.retainCap := by
    rw [retained_finishStreams redaction faithful.room]
    exact length_take_le _ _
  -- what completion stores is what the last snapshot showed
  have after : next.source redaction = (task.buffer.finishStreams redaction).retained := by
    cases taken
    simp only [Polling.source]
    by_cases empty : (task.buffer.finishStreams redaction).retained.isEmpty = true
    · simp only [empty, if_true]
      simp [liveSnapshot, finishStreams, OutputRedactor.finishBytes, OutputRedactor.new, commit]
    · simp only [empty, if_false, Bool.false_eq_true]
  have same : next.shown redaction = task.shown redaction := by
    rw [Polling.shown, after, ← before]
    cases taken
    rfl
  cases taken
  refine ⟨⟨room, ?_, ?_, nofun, fun _ => after, nofun⟩, same ▸ prefix_rfl⟩
  · rw [after, ← before]
    exact faithful.within
  · rw [same]
    exact faithful.text

theorem Polling.Faithful.step {event : PollEvent}
    (settled : task.settled redaction event = true) (faithful : task.Faithful redaction)
    (taken : task.step redaction event = some next) :
    next.Faithful redaction ∧ task.shown redaction <+: next.shown redaction := by
  cases event with
  | read => exact faithful.read settled taken
  | append stream bytes => exact faithful.append settled taken
  | complete => exact faithful.complete taken

/-- In every run of appends, reads and completion whose events keep the bytes shown, the chunks read
so far are the text of the bytes shown, which go on from those shown at any point before, so that
nothing was lost or repeated; and once the task has completed and a read was exhausted, they are
the text of the final retained bytes. -/
theorem polling_loses_and_repeats_nothing {retainCap : Nat} {events : List PollEvent}
    {task : Polling R} (settled : Machine.Guarded (Polling.step redaction)
      (fun task event => task.settled redaction event = true)
      (Polling.new redaction retainCap) events)
    (ran : Machine.run (Polling.step redaction) (Polling.new redaction retainCap) events =
      some task) :
    task.chunks.flatten = lossy (task.shown redaction) ∧
      (∀ before after middle, events = before ++ after →
        Machine.run (Polling.step redaction) (Polling.new redaction retainCap) before =
          some middle → middle.shown redaction <+: task.shown redaction) ∧
      (task.completed = true → task.exhausted = true →
        task.shown redaction = task.buffer.retained ∧
        task.chunks.flatten = lossy task.buffer.retained) := by
  have kept {start : Polling R} {events : List PollEvent} {last : Polling R}
      (faithful : start.Faithful redaction) (settled : Machine.Guarded (Polling.step redaction)
        (fun task event => task.settled redaction event = true) start events)
      (ran : Machine.run (Polling.step redaction) start events = some last) :
      last.Faithful redaction ∧ start.shown redaction <+: last.shown redaction := by
    refine Machine.guarded_invariant (P := fun task => task.Faithful redaction ∧
      start.shown redaction <+: task.shown redaction) ?_ settled ⟨faithful, prefix_rfl⟩ ran
    rintro task event next allowed ⟨faithful, earlier⟩ taken
    obtain ⟨later, goesOn⟩ := faithful.step allowed taken
    exact ⟨later, earlier.trans goesOn⟩
  have faithful := (kept (Polling.faithful_new redaction retainCap) settled ran).1
  refine ⟨faithful.text, ?_, ?_⟩
  · rintro before after middle rfl reached
    obtain ⟨early, late⟩ := (Machine.guarded_append reached).mp settled
    rw [Machine.run_append, reached] at ran
    exact (kept (kept (Polling.faithful_new redaction retainCap) early reached).1 late ran).2
  · intro completed exhausted
    have whole : task.shown redaction = task.buffer.retained := by
      rw [Polling.shown, faithful.ended completed exhausted, take_length,
        faithful.stored completed]
    exact ⟨whole, whole ▸ faithful.text⟩

end Polling

/-! ## Runs with nothing to redact -/

/-- Classification of output without secrets. -/
def plain : Redaction Unit :=
  { start := (), line := fun _ bytes => ((), bytes), oversized := fun _ => () }

/-- A line of stdout and the prompt on stderr that are read while the task runs; the prompt's line
goes on, through a split scalar, and its rest is read after completion. -/
def promptRun : List PollEvent :=
  [.append .stdout [0x61, 0x0A], .append .stderr [0x62], .read, .append .stderr [0xC3],
    .append .stderr [0xA9, 0x0A], .complete, .read]

/-- A prompt without a newline, read while the task runs. -/
theorem polling_loses_and_repeats_nothing_prompt :
    ∃ task : Polling Unit,
      Machine.run (Polling.step plain) (Polling.new plain taskOutputRetainBytes) promptRun =
        some task ∧
      task.completed = true ∧ task.exhausted = true ∧
      task.chunks = [[0x61, 0x0A, 0x62], [0xC3, 0xA9, 0x0A]] ∧
      task.chunks.flatten = lossy task.buffer.retained := by
  have settled : Machine.Guarded (Polling.step plain)
      (fun task event => task.settled plain event = true)
      (Polling.new plain taskOutputRetainBytes) promptRun :=
    Machine.guarded_iff.mpr (by decide +kernel)
  refine ⟨_, rfl, rfl, by decide +kernel, by decide +kernel, ?_⟩
  exact ((polling_loses_and_repeats_nothing settled rfl).2.2 rfl (by decide +kernel)).2

/-- A running task with committed output, no unfinished line, and no reads. -/
def idle (output : Bytes) : Polling Unit :=
  { Polling.new plain taskOutputRetainBytes with
    buffer := { new plain taskOutputRetainBytes with retained := output } }

theorem step_append_line {line : Bytes} (unbroken : (0x0A : UInt8) ∉ line)
    (room : line.length < taskOutputRetainBytes) :
    (Polling.new plain taskOutputRetainBytes).step plain (.append .stdout (line ++ [0x0A])) =
      some (idle (line ++ [0x0A])) := by
  have segments : splitInclusive (line ++ [0x0A]) = [line ++ [0x0A]] := by
    simp [splitInclusive, ByteStream.splitLines_line unbroken]
  have fits : ¬ processMaxOutputBytes < line.length + 1 := by
    unfold taskOutputRetainBytes at room
    unfold processMaxOutputBytes
    omega
  have whole : (line ++ [0x0A]).take taskOutputRetainBytes = line ++ [0x0A] :=
    take_of_length_le (by rw [length_append, length_singleton]; exact room)
  simp [Polling.step, idle, appendStream, OutputRedactor.pushBytes, segments,
    OutputRedactor.pushSegment, OutputRedactor.takeIn, OutputRedactor.finishBytes,
    commit, Polling.new, new, OutputRedactor.new, fits, whole,
    plain]

variable {output : Bytes}

theorem step_complete_idle (some_output : output ≠ []) :
    (idle output).step plain .complete =
      some { idle output with completed := true, artifact := some output } := by
  simp [Polling.step, idle, finishStreams, OutputRedactor.finishBytes,
    commit, Polling.new, new, OutputRedactor.new, some_output]

theorem step_read_stored {R : Type} {redaction : Redaction R} {task : Polling R}
    {bytes : Bytes} {next : Nat} {exhausted : Bool} (stored : task.artifact = some output)
    (page : readTaskOutputPage output task.cursor taskOutputReadBytes = (bytes, next, exhausted)) :
    task.step redaction .read =
      some { task with cursor := next, chunks := task.chunks ++ [lossy bytes],
                       exhausted := exhausted } := by
  have source : task.page redaction = (bytes, next, exhausted) := by
    rw [Polling.page, Polling.source, stored]
    exact page
  rw [Polling.step, source]

theorem readTaskOutputPage_append (shown next : Bytes) :
    readTaskOutputPage (shown ++ next) shown.length taskOutputReadBytes =
      (next.take taskOutputReadBytes, min (shown.length + taskOutputReadBytes)
        (shown.length + next.length), decide (next.length ≤ taskOutputReadBytes)) := by
  unfold readTaskOutputPage
  simp only [length_append, Nat.le_add_right, Nat.min_eq_left, drop_left]
  refine Prod.ext ?_ (Prod.ext rfl (decide_eq_decide.mpr ?_))
  · show next.take _ = next.take _
    rw [show min (shown.length + taskOutputReadBytes) (shown.length + next.length) - shown.length =
      min taskOutputReadBytes next.length by omega, ← take_eq_take_min]
  · show shown.length + next.length ≤ min _ _ ↔ _
    omega

/-- ASCII one byte short of a page, then an `é`: both pages show a replacement character. -/
theorem run_line_across_pages {letters : Bytes} (size : letters.length = 8191)
    (ascii : ∀ byte ∈ letters, byte < 0x80) (unbroken : (0x0A : UInt8) ∉ letters) :
    Machine.run (Polling.step plain) (Polling.new plain taskOutputRetainBytes)
      [.append .stdout (letters ++ [0xC3, 0xA9] ++ [0x0A]), .complete, .read, .read] =
        some { idle (letters ++ [0xC3, 0xA9] ++ [0x0A]) with
          completed := true, artifact := some (letters ++ [0xC3, 0xA9] ++ [0x0A]), cursor := 8194,
          chunks := [letters ++ replacement, replacement ++ [0x0A]],
          exhausted := true } := by
  have line : (0x0A : UInt8) ∉ letters ++ [0xC3, 0xA9] := by simp [unbroken]
  have committed := step_append_line line (by rw [length_append, size]; decide)
  have first : readTaskOutputPage (letters ++ [0xC3, 0xA9] ++ [0x0A]) 0 taskOutputReadBytes =
      (letters ++ [0xC3], 8192, false) := by
    have page := readTaskOutputPage_append [] (letters ++ [0xC3, 0xA9] ++ [0x0A])
    have shown : (letters ++ [0xC3, 0xA9] ++ [0x0A]).take taskOutputReadBytes =
        letters ++ [0xC3] := by
      rw [append_assoc, take_append, size]
      rw [take_of_length_le (by rw [size]; decide)]
      rfl
    have longer : ¬ (letters ++ [0xC3, 0xA9] ++ [0x0A]).length ≤ taskOutputReadBytes := by
      rw [length_append, length_append, size]
      decide
    rw [shown, decide_eq_false longer, length_append, length_append, size] at page
    exact page
  have second : readTaskOutputPage (letters ++ [0xC3, 0xA9] ++ [0x0A]) 8192 taskOutputReadBytes =
      ([0xA9, 0x0A], 8194, true) := by
    have page := readTaskOutputPage_append (letters ++ [0xC3]) [0xA9, 0x0A]
    have shown : (letters ++ [0xC3]).length = 8192 := by rw [length_append, size]; rfl
    have joined : letters ++ [0xC3] ++ [0xA9, 0x0A] = letters ++ [0xC3, 0xA9] ++ [0x0A] := by
      rw [append_assoc, append_assoc]
      rfl
    rw [shown, joined] at page
    exact page
  have cut : lossy (letters ++ [0xC3]) = letters ++ replacement :=
    lossy_ascii_append ascii _
  have rest : lossy [0xA9, 0x0A] = replacement ++ [0x0A] := by decide +kernel
  rw [Machine.run_cons, committed, Option.bind_some, Machine.run_cons,
    step_complete_idle (by simp), Option.bind_some, Machine.run_cons,
    step_read_stored rfl first, Option.bind_some, Machine.run_cons,
    step_read_stored rfl second, Option.bind_some, Machine.run_nil, cut, rest]
  rfl

/-- A line of 8191 letters and an `é`, read in two pages after the task completed: the chunks
have two replacement characters, and the text of the retained bytes has none. -/
theorem polling_breaks_scalar_across_pages :
    ∃ task : Polling Unit,
      Machine.run (Polling.step plain) (Polling.new plain taskOutputRetainBytes)
        [.append .stdout (replicate 8191 0x61 ++ [0xC3, 0xA9] ++ [0x0A]), .complete, .read,
          .read] = some task ∧
      task.completed = true ∧ task.exhausted = true ∧
      task.buffer.retained = replicate 8191 0x61 ++ [0xC3, 0xA9] ++ [0x0A] ∧
      task.chunks = [replicate 8191 0x61 ++ replacement,
        replacement ++ [0x0A]] ∧
      task.chunks.flatten ≠ lossy task.buffer.retained := by
  have ascii : ∀ byte ∈ replicate 8191 (0x61 : UInt8), byte < 0x80 := by
    intro byte letter
    rw [eq_of_mem_replicate letter]
    decide
  have unbroken : (0x0A : UInt8) ∉ replicate 8191 (0x61 : UInt8) := by
    intro letter
    have same := eq_of_mem_replicate letter
    revert same
    decide
  refine ⟨_, run_line_across_pages length_replicate ascii unbroken, rfl, rfl, rfl, rfl, ?_⟩
  show _ ≠ lossy (replicate 8191 (0x61 : UInt8) ++ [0xC3, 0xA9] ++ [0x0A])
  rw [append_assoc, lossy_ascii_append ascii]
  intro same
  have lengths := congrArg length same
  have text : (lossy ([0xC3, 0xA9] ++ [0x0A])).length = 3 := by decide +kernel
  rw [length_append, text] at lengths
  simp only [flatten_cons, flatten_nil, length_append, length_replicate,
    replacement, length_cons, length_nil] at lengths
  omega

end HaiderAgent.TaskOutput
