import HaiderAgent.Provider.SseStream

/-!
# Decoding and the cuts of the stream

After any pushes of a stream without an invalid UTF-8 sequence, a decoder is where the text decoded
so far puts it (`Consumed`), so its items do not depend on the cuts. An invalid sequence makes the
assembler drop what it decoded in the same push; the items then are those of the lines finished by
earlier pushes, and the error.
-/

namespace HaiderAgent.Provider

open List

open ByteStream (utf8 utf8_resume splitLines splitLines_resume Scan afterEither)

variable {S E : Type}

/-! ## Reading lines in two goes -/

/-- Reading lines in two goes is reading them at once: nothing after a terminal item counts. -/
structure LineDecoder.Lawful (decoder : LineDecoder S E) : Prop where
  nil : ∀ state, decoder.lines state [] = (state, [])
  stopped : ∀ state first rest, (decoder.lines state first).2.any terminalItem = true →
    (decoder.lines state (first ++ rest)).2 = (decoder.lines state first).2
  going : ∀ state first rest, (decoder.lines state first).2.any terminalItem = false →
    decoder.lines state (first ++ rest) =
      ((decoder.lines (decoder.lines state first).1 rest).1,
        (decoder.lines state first).2 ++ (decoder.lines (decoder.lines state first).1 rest).2)

theorem untilTerminal_any {items : List (Item E)} (terminal : items.any terminalItem = true) :
    (untilTerminal items).any terminalItem = true := by
  induction items with
  | nil => cases terminal
  | cons item items ih =>
    rw [untilTerminal]
    by_cases here : terminalItem item = true
    · simp [here]
    · simp only [here, if_false, any_cons, Bool.false_or, Bool.false_eq_true] at terminal ⊢
      exact ih terminal

/-- The Anthropic decoder reads lines one after the other and stops for good. -/
theorem sseDecoder_lawful {σ : Type} (state : σ)
    (apply : σ → Text → Text → σ × Except ProviderError (List (StreamEvent E))) :
    (sseDecoder state apply).Lawful where
  nil := fun _ => rfl
  stopped := by
    intro sse first rest
    show (sse.acceptLines apply first).2.any terminalItem = true →
      (sse.acceptLines apply (first ++ rest)).2 = (sse.acceptLines apply first).2
    induction first generalizing sse with
    | nil => exact nofun
    | cons line lines ih =>
      rw [cons_append, SseState.acceptLines, SseState.acceptLines]
      by_cases here : (sse.acceptLine apply line).2.any terminalItem = true
      · simp [here]
      · simp only [here, if_false, any_append, Bool.false_or, Bool.false_eq_true]
        intro later
        rw [ih _ later]
  going := by
    intro sse first rest
    show (sse.acceptLines apply first).2.any terminalItem = false →
      sse.acceptLines apply (first ++ rest) =
        (((sse.acceptLines apply first).1.acceptLines apply rest).1,
          (sse.acceptLines apply first).2 ++
            ((sse.acceptLines apply first).1.acceptLines apply rest).2)
    induction first generalizing sse with
    | nil => exact fun _ => rfl
    | cons line lines ih =>
      rw [cons_append, SseState.acceptLines, SseState.acceptLines]
      by_cases here : (sse.acceptLine apply line).2.any terminalItem = true
      · simp only [here, if_true]
        intro open'
        rw [untilTerminal_any here] at open'
        cases open'
      · simp only [here, if_false, any_append, Bool.false_or, Bool.false_eq_true]
        intro later
        rw [ih _ later]
        simp

section Framed

variable {σ : Type} {dispatch : σ → SseFrame → σ × Except ProviderError (List (StreamEvent E))}

theorem frames_append (named : Bool) (framer : SseFramer) (first rest : List Text) :
    framer.frames named (first ++ rest) =
      (((framer.frames named first).1.frames named rest).1,
        (framer.frames named first).2 ++ ((framer.frames named first).1.frames named rest).2) := by
  induction first generalizing framer with
  | nil => rfl
  | cons line lines ih =>
    rw [cons_append, SseFramer.frames, SseFramer.frames]
    simp only [ih, append_assoc]

variable {first : List SseFrame}

theorem acceptFrames_stopped {state : σ}
    (terminal : (acceptFrames dispatch state first).2.any terminalItem = true)
    (rest : List SseFrame) :
    acceptFrames dispatch state (first ++ rest) = acceptFrames dispatch state first := by
  induction first generalizing state with
  | nil => cases terminal
  | cons frame frames ih =>
    rw [cons_append, acceptFrames, acceptFrames]
    rw [acceptFrames] at terminal
    by_cases here : (frameItems (dispatch state frame).2).any terminalItem = true
    · simp only [here, if_true]
    · simp only [here, if_false, any_append, Bool.false_or, Bool.false_eq_true] at terminal ⊢
      rw [ih terminal]

theorem acceptFrames_going {state : σ}
    (going : (acceptFrames dispatch state first).2.any terminalItem = false) (rest : List SseFrame) :
    acceptFrames dispatch state (first ++ rest) =
      ((acceptFrames dispatch (acceptFrames dispatch state first).1 rest).1,
        (acceptFrames dispatch state first).2 ++
          (acceptFrames dispatch (acceptFrames dispatch state first).1 rest).2) := by
  induction first generalizing state with
  | nil => rfl
  | cons frame frames ih =>
    rw [cons_append, acceptFrames, acceptFrames]
    rw [acceptFrames] at going
    by_cases here : (frameItems (dispatch state frame).2).any terminalItem = true
    · simp only [here, if_true] at going
      cases going
    · simp only [here, if_false, any_append, Bool.false_or, Bool.false_eq_true] at going ⊢
      rw [ih going]
      simp

theorem framedDecoder_lawful (provider : String) (named : Bool) (state : σ)
    (stillOpen : σ → List (Item E)) :
    (framedDecoder dispatch provider named state stillOpen).Lawful where
  nil := fun _ => rfl
  stopped := by
    intro inner first rest
    show (framedLines dispatch named inner first).2.any terminalItem = true →
      (framedLines dispatch named inner (first ++ rest)).2 =
        (framedLines dispatch named inner first).2
    intro terminal
    simp only [framedLines, frames_append] at terminal ⊢
    rw [acceptFrames_stopped terminal]
  going := by
    intro inner first rest
    show (framedLines dispatch named inner first).2.any terminalItem = false →
      framedLines dispatch named inner (first ++ rest) =
        ((framedLines dispatch named (framedLines dispatch named inner first).1 rest).1,
          (framedLines dispatch named inner first).2 ++
            (framedLines dispatch named (framedLines dispatch named inner first).1 rest).2)
    intro going
    simp only [framedLines, frames_append] at going ⊢
    rw [acceptFrames_going going]

end Framed

/-! ## What a decoder has consumed -/

section Consumed

variable (decoder : LineDecoder S E)

/-- The finished lines of a text, read from the start. -/
def heard (text : Text) : S × List (Item E) :=
  decoder.lines decoder.start ((splitLines text).1.map popCarriage)

/-- The decoder consumed these valid bytes, gave the finished lines' items, holds the rest. -/
structure Consumed (bytes : Text) (state : Decoder S) (items : List (Item E)) (scan : Scan) :
    Prop where
  valid : utf8 bytes = .ok scan
  items_eq : items = (heard decoder scan.text).2
  terminal_eq : state.terminal = items.any terminalItem
  holds : state.terminal = false →
    state.assembler.pending = scan.pending ∧ state.lineBuffer = (splitLines scan.text).2 ∧
      state.inner = (heard decoder scan.text).1

variable {decoder}

theorem consumed_new (lawful : decoder.Lawful) :
    Consumed decoder [] (Decoder.new decoder) [] Scan.start := by
  have none : heard decoder Scan.start.text = (decoder.start, []) := lawful.nil _
  refine ⟨rfl, ?_, rfl, fun _ => ⟨rfl, rfl, ?_⟩⟩
  · rw [none]
  · rw [none]
    rfl

theorem splitLines_fst_append (first rest : Text) :
    ∃ more, (splitLines (first ++ rest)).1 = (splitLines first).1 ++ more :=
  ⟨_, congrArg Prod.fst (splitLines_resume first rest)⟩

variable {first : Text}

theorem heard_stopped (lawful : decoder.Lawful)
    (terminal : (heard decoder first).2.any terminalItem = true) (rest : Text) :
    (heard decoder (first ++ rest)).2 = (heard decoder first).2 := by
  obtain ⟨more, lines⟩ := splitLines_fst_append first rest
  unfold heard at terminal ⊢
  rw [lines, map_append]
  exact lawful.stopped _ _ _ terminal

theorem heard_going (lawful : decoder.Lawful)
    (going : (heard decoder first).2.any terminalItem = false) (rest : Text) :
    heard decoder (first ++ rest) =
      ((decoder.lines (heard decoder first).1
          ((splitLines ((splitLines first).2 ++ rest)).1.map popCarriage)).1,
        (heard decoder first).2 ++ (decoder.lines (heard decoder first).1
          ((splitLines ((splitLines first).2 ++ rest)).1.map popCarriage)).2) := by
  unfold heard at going ⊢
  rw [splitLines_resume, map_append]
  exact lawful.going _ _ _ going

variable {bytes : Text} {scan : Scan} {assembler : Utf8Assembler}

theorem assembler_push_ok (read : utf8 (assembler.pending ++ bytes) = .ok scan) :
    ∃ decoded, assembler.push bytes = ({ pending := scan.pending }, .ok decoded) ∧
      decoded.flatten = scan.text := by
  unfold Utf8Assembler.push
  rw [read]
  refine ⟨_, rfl, ?_⟩
  cases scan.text <;> simp

theorem assembler_push_error (failed : utf8 (assembler.pending ++ bytes) = .error scan) :
    ∃ message, assembler.push bytes = ({ pending := [] }, .error (malformed message)) := by
  unfold Utf8Assembler.push
  rw [failed]
  exact ⟨_, rfl⟩

variable {state : Decoder S} {items : List (Item E)} {chunk : Text}

/-- A push carries the decoder to where one push of all the bytes would. -/
theorem Consumed.push (lawful : decoder.Lawful) {next : Scan}
    (consumed : Consumed decoder bytes state items scan) (valid : utf8 (bytes ++ chunk) = .ok next) :
    Consumed decoder (bytes ++ chunk) (push decoder state chunk).1
      (items ++ (push decoder state chunk).2) next := by
  have resumed := utf8_resume consumed.valid chunk
  rw [valid] at resumed
  cases read : utf8 (scan.pending ++ chunk) with
  | error failed =>
    rw [read] at resumed
    cases resumed
  | ok more =>
    rw [read] at resumed
    have whole : next = more.after scan.text := Except.ok.inj resumed
    cases terminal : state.terminal with
    | true =>
      have stop : (heard decoder scan.text).2.any terminalItem = true := by
        rw [← consumed.items_eq, ← consumed.terminal_eq, terminal]
      have none : Provider.push decoder state chunk = (state, []) := by
        rw [Provider.push, if_pos terminal]
      rw [none, append_nil]
      refine ⟨valid, ?_, consumed.terminal_eq, fun going => ?_⟩
      · rw [whole, consumed.items_eq]
        exact (heard_stopped lawful stop more.text).symm
      · rw [terminal] at going
        cases going
    | false =>
      obtain ⟨pending, buffer, inner⟩ := consumed.holds terminal
      have going : (heard decoder scan.text).2.any terminalItem = false := by
        rw [← consumed.items_eq, ← consumed.terminal_eq, terminal]
      rw [← pending] at read
      obtain ⟨decoded, assembled, text⟩ := assembler_push_ok read
      have continued := heard_going lawful going more.text
      rw [Provider.push, terminal]
      simp only [Bool.false_eq_true, if_false, assembled, text, buffer, inner]
      refine ⟨valid, ?_, ?_, fun _ => ⟨?_, ?_, ?_⟩⟩
      · rw [whole, consumed.items_eq]
        exact (congrArg Prod.snd continued).symm
      · rw [consumed.items_eq, any_append, going, Bool.false_or]
      · rw [whole]
        rfl
      · rw [whole]
        exact (congrArg Prod.snd (splitLines_resume scan.text more.text)).symm
      · rw [whole]
        exact (congrArg Prod.fst continued).symm

variable {chunks : List Text}

/-- The same for any cutting of the bytes. -/
theorem Consumed.pushes (lawful : decoder.Lawful) {last : Scan}
    (consumed : Consumed decoder bytes state items scan)
    (valid : utf8 (bytes ++ chunks.flatten) = .ok last) :
    Consumed decoder (bytes ++ chunks.flatten) (Provider.pushAll decoder state chunks).1
      (items ++ (Provider.pushAll decoder state chunks).2) last := by
  induction chunks generalizing bytes state items scan with
  | nil =>
    rw [flatten_nil, append_nil] at valid ⊢
    have same : scan = last := Except.ok.inj (consumed.valid.symm.trans valid)
    rw [← same, Provider.pushAll, append_nil]
    exact consumed
  | cons chunk chunks ih =>
    rw [flatten_cons, ← append_assoc] at valid ⊢
    cases read : utf8 (bytes ++ chunk) with
    | error failed =>
      have late : utf8 ((bytes ++ chunk) ++ chunks.flatten) = .error failed := by
        unfold utf8 at read ⊢
        rw [Scan.bytes_append, read]
        rfl
      rw [late] at valid
      cases valid
    | ok next =>
      have later := ih (consumed.push lawful read) valid
      rw [append_assoc items] at later
      exact later

theorem Consumed.finish_eq {other : Decoder S} {more : List (Item E)}
    (consumed : Consumed decoder bytes state items scan)
    (again : Consumed decoder bytes other more scan) :
    items ++ finish decoder state = more ++ finish decoder other := by
  have sameItems : items = more := consumed.items_eq.trans again.items_eq.symm
  subst sameItems
  have sameTerminal : state.terminal = other.terminal :=
    consumed.terminal_eq.trans again.terminal_eq.symm
  unfold finish
  rw [← sameTerminal]
  cases terminal : state.terminal with
  | true => rfl
  | false =>
    obtain ⟨pending, buffer, inner⟩ := consumed.holds terminal
    obtain ⟨pending', buffer', inner'⟩ := again.holds (sameTerminal ▸ terminal)
    rw [pending, buffer, inner, pending', buffer', inner']

/-- A stream without an invalid sequence gives the same items however it is cut. -/
theorem decode_of_valid (lawful : decoder.Lawful)
    (valid : utf8 bytes = .ok scan) (cut : chunks.flatten = bytes) :
    decode decoder chunks = decode decoder [bytes] := by
  have reached : ∀ cuts : List Text, cuts.flatten = bytes →
      Consumed decoder bytes (pushAll decoder (Decoder.new decoder) cuts).1
        (pushAll decoder (Decoder.new decoder) cuts).2 scan := by
    intro cuts same
    have read : utf8 ([] ++ cuts.flatten) = .ok scan := by
      rw [nil_append, same]
      exact valid
    have consumed := (consumed_new lawful).pushes lawful read
    rw [nil_append, nil_append, same] at consumed
    exact consumed
  exact (reached chunks cut).finish_eq (reached [bytes] (by simp))

/-! ## An invalid sequence -/

theorem pushAll_terminal (terminal : state.terminal = true)
    (chunks : List Text) : pushAll decoder state chunks = (state, []) := by
  induction chunks with
  | nil => rfl
  | cons chunk chunks ih =>
    have none : Provider.push decoder state chunk = (state, []) := by
      rw [Provider.push, if_pos terminal]
    rw [pushAll, none]
    simp only [ih, append_nil]

theorem finish_terminal (terminal : state.terminal = true) :
    finish decoder state = [] := by
  rw [finish, if_pos terminal]

variable {failed : Scan}

/-- An invalid sequence in this push: an open decoder answers the error, a terminal nothing. -/
theorem Consumed.fails (consumed : Consumed decoder bytes state items scan)
    (invalid : utf8 (bytes ++ chunk) = .error failed) (chunks : List Text) :
    ∃ message, items ++ ((Provider.pushAll decoder state (chunk :: chunks)).2 ++
        finish decoder (Provider.pushAll decoder state (chunk :: chunks)).1) =
      if items.any terminalItem then items else items ++ [.error (malformed message)] := by
  cases terminal : state.terminal with
  | true =>
    rw [pushAll_terminal terminal, finish_terminal terminal]
    rw [consumed.terminal_eq] at terminal
    exact ⟨"", by simp [terminal]⟩
  | false =>
    obtain ⟨pending, _, _⟩ := consumed.holds terminal
    have resumed := utf8_resume consumed.valid chunk
    rw [invalid, ← pending] at resumed
    cases read : utf8 (state.assembler.pending ++ chunk) with
    | ok more =>
      rw [read] at resumed
      cases resumed
    | error stopped =>
      obtain ⟨message, refused⟩ := assembler_push_error read
      refine ⟨message, ?_⟩
      have step : Provider.push decoder state chunk =
          ({ state with assembler := { pending := [] }, terminal := true },
            [.error (malformed message)]) := by
        rw [Provider.push, terminal]
        simp only [Bool.false_eq_true, if_false, refused]
      rw [consumed.terminal_eq] at terminal
      rw [Provider.pushAll, step]
      simp only [pushAll_terminal, finish_terminal, terminal, Bool.false_eq_true, if_false,
        append_nil]

/-- The items of an invalid stream, cut anyhow: of the pushes before, and the error if open. -/
theorem Consumed.invalid (lawful : decoder.Lawful)
    (consumed : Consumed decoder bytes state items scan)
    (invalid : utf8 (bytes ++ chunks.flatten) = .error failed) :
    ∃ text message, text <+: failed.text ∧
      items ++ ((Provider.pushAll decoder state chunks).2 ++
          finish decoder (Provider.pushAll decoder state chunks).1) =
        if (heard decoder text).2.any terminalItem then (heard decoder text).2
        else (heard decoder text).2 ++ [.error (malformed message)] := by
  induction chunks generalizing bytes state items scan with
  | nil =>
    rw [flatten_nil, append_nil, consumed.valid] at invalid
    cases invalid
  | cons chunk chunks ih =>
    have resumed := utf8_resume consumed.valid (chunk :: chunks).flatten
    rw [flatten_cons, ← append_assoc] at invalid
    cases read : utf8 (bytes ++ chunk) with
    | error stopped =>
      obtain ⟨message, ends⟩ := consumed.fails read chunks
      rw [consumed.items_eq] at ends
      refine ⟨scan.text, message, ?_, by rw [consumed.items_eq]; exact ends⟩
      rw [flatten_cons, ← append_assoc, invalid] at resumed
      cases rest : utf8 (scan.pending ++ (chunk ++ chunks.flatten)) with
      | ok more =>
        rw [rest] at resumed
        cases resumed
      | error more =>
        rw [rest] at resumed
        have whole : failed = more.after scan.text := Except.error.inj resumed
        rw [whole]
        exact prefix_append _ _
    | ok next =>
      obtain ⟨text, message, early, ends⟩ := ih (consumed.push lawful read) invalid
      refine ⟨text, message, early, ?_⟩
      rw [← ends, Provider.pushAll]
      simp only [append_assoc]

end Consumed

/-! ## The items of every cut -/

/-- An item with its error reduced to the kind. -/
def byKind : Item E → Except ProviderErrorKind (StreamEvent E)
  | .ok event => .ok event
  | .error error => .error error.kind

variable (decoder : LineDecoder S E)

/-- However the bytes are cut, the same items come out, errors compared by kind. -/
def CutsAgree (bytes : Text) : Prop :=
  ∀ chunks : List Text, chunks.flatten = bytes →
    (decode decoder chunks).map byKind = (decode decoder [bytes]).map byKind

/-- The bytes hold no invalid sequence, or the lines finished before the first one give no item,
or nothing but one malformed-frame error. A scalar cut off at the end of the bytes is not
invalid. -/
def NothingBeforeInvalid (bytes : Text) : Prop :=
  match utf8 bytes with
  | .ok _ => True
  | .error scan => (heard decoder scan.text).2.map byKind = [] ∨
      (heard decoder scan.text).2.map byKind = [.error .malformedFrame]

theorem decode_whole_invalid {decoder : LineDecoder S E} (lawful : decoder.Lawful) {bytes : Text}
    {failed : Scan} (invalid : utf8 bytes = .error failed) :
    (decode decoder [bytes]).map byKind = [.error .malformedFrame] := by
  obtain ⟨message, ends⟩ := (consumed_new lawful).fails invalid []
  exact congrArg (map byKind) ends

theorem map_byKind_error {items : List (Item E)} {message : String}
    (all : items.map byKind = [] ∨ items.map byKind = [.error .malformedFrame]) :
    (if items.any terminalItem then items else items ++ [.error (malformed message)]).map byKind =
      [.error .malformedFrame] := by
  rcases all with none | single
  · rw [map_eq_nil_iff] at none
    subst none
    rfl
  · obtain ⟨item, rfl, kind⟩ := map_eq_singleton_iff.mp single
    cases item with
    | ok event => cases kind
    | error error => exact single

/-- The cuts of a stream agree exactly when nothing is delivered before an invalid sequence. -/
theorem cutsAgree_iff {decoder : LineDecoder S E} (lawful : decoder.Lawful) (bytes : Text) :
    CutsAgree decoder bytes ↔ NothingBeforeInvalid decoder bytes := by
  unfold NothingBeforeInvalid
  cases read : utf8 bytes with
  | ok scan =>
    refine ⟨fun _ => trivial, fun _ chunks cut => ?_⟩
    rw [decode_of_valid lawful read cut]
  | error failed =>
    simp only
    have start := consumed_new lawful
    constructor
    · intro agree
      -- cut right before the byte at which the scan failed
      obtain ⟨before, byte, after, split, valid⟩ := ByteStream.utf8_failed read
      have cut : [before, byte :: after].flatten = bytes := by simp [split]
      have same := agree [before, byte :: after] cut
      rw [decode_whole_invalid lawful read] at same
      have consumed := start.push lawful valid
      have broken : utf8 (([] ++ before) ++ byte :: after) = .error failed := by
        rw [nil_append, ← split]
        exact read
      obtain ⟨message, ends⟩ := consumed.fails broken []
      have whole : decode decoder [before, byte :: after] =
          if (heard decoder failed.text).2.any terminalItem then (heard decoder failed.text).2
          else (heard decoder failed.text).2 ++ [.error (malformed message)] := by
        rw [← consumed.items_eq]
        rw [← ends, decode, pushAll]
        simp only [nil_append, append_assoc]
      rw [whole] at same
      split at same
      · exact .inr same
      · rw [map_append] at same
        refine .inl ?_
        have lengths := congrArg length same
        simp only [length_append, length_map, length_cons, length_nil] at lengths
        rw [map_eq_nil_iff, ← length_eq_zero_iff]
        omega
    · intro nothing chunks cut
      rw [decode_whole_invalid lawful read]
      have broken : utf8 ([] ++ chunks.flatten) = .error failed := by
        rw [nil_append, cut]
        exact read
      obtain ⟨text, message, ⟨rest, early⟩, ends⟩ := start.invalid lawful broken
      have whole : decode decoder chunks =
          if (heard decoder text).2.any terminalItem then (heard decoder text).2
          else (heard decoder text).2 ++ [.error (malformed message)] := by
        rw [← ends]
        rfl
      rw [whole]
      refine map_byKind_error ?_
      cases stop : (heard decoder text).2.any terminalItem with
      | true =>
        rw [← early, heard_stopped lawful stop] at nothing
        exact nothing
      | false =>
        rw [← early, heard_going lawful stop, map_append] at nothing
        rcases nothing with none | single
        · exact .inl (append_eq_nil_iff.mp none).1
        · rcases append_eq_singleton_iff.mp single with ⟨none, _⟩ | ⟨single, _⟩
          · exact .inl none
          · exact .inr single

/-! ## The four decoders -/

/-- Each of the four decoders gives the same items for every cut of a byte sequence exactly when
the lines finished before an invalid sequence deliver nothing, or nothing but one malformed-frame
error: the bytes decoded in the push that meets the invalid sequence are dropped with it. -/
theorem decoders_cutsAgree_iff {σ E : Type} (state : σ) (bytes : Text) :
    (∀ apply : σ → Text → Text → σ × Except ProviderError (List (StreamEvent E)),
      CutsAgree (sseDecoder state apply) bytes ↔
        NothingBeforeInvalid (sseDecoder state apply) bytes) ∧
    (∀ json : σ → SseFrame → σ × Except ProviderError (List (StreamEvent E)),
      CutsAgree (responsesDecoder state json) bytes ↔
        NothingBeforeInvalid (responsesDecoder state json) bytes) ∧
    (∀ json : ChatState σ E → SseFrame →
        ChatState σ E × Except ProviderError (List (StreamEvent E)),
      CutsAgree (chatDecoder state json) bytes ↔
        NothingBeforeInvalid (chatDecoder state json) bytes) ∧
    (∀ json : σ → SseFrame → σ × Except ProviderError (List (StreamEvent E)),
      CutsAgree (geminiDecoder state json) bytes ↔
        NothingBeforeInvalid (geminiDecoder state json) bytes) := by
  refine ⟨fun apply => ?_, fun json => ?_, fun json => ?_, fun json => ?_⟩
  · exact cutsAgree_iff (sseDecoder_lawful state apply) bytes
  · exact cutsAgree_iff (framedDecoder_lawful _ _ _ _) bytes
  · exact cutsAgree_iff (framedDecoder_lawful _ _ _ _) bytes
  · exact cutsAgree_iff (framedDecoder_lawful _ _ _ _) bytes

/-- A Chat stream that ended with `[DONE]` and then an invalid byte: in two chunks it finishes,
in one chunk the finish is lost and the stream fails. The answer to frames with JSON does not
matter. -/
theorem chatDecoder_done_lost :
    let decoder : LineDecoder (SseFramer × ChatState Unit Unit) Unit :=
      chatDecoder () fun chat _ => (chat, .error (malformed "not reached"))
    let done := ascii "data: [DONE]\n\n"
    (decode decoder [done, [0xFF]]).map byKind = [.ok (.finish .endTurn)] ∧
      (decode decoder [done ++ [0xFF]]).map byKind = [.error .malformedFrame] := by
  decide +kernel

end HaiderAgent.Provider
