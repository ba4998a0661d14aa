import HaiderAgent.Lib.ByteStream
import Mathlib.Data.List.DropRight

/-!
# The provider stream decoders

`Utf8Assembler` of `haider-provider/src/lib.rs` and the four decoders over it: the Anthropic
`SseDecoder` (`wire/mod.rs`), the OpenAI `ResponsesDecoder` and `ChatDecoder` (`openai.rs`) and the
`GeminiDecoder` (`gemini.rs`). Texts are their UTF-8 bytes; every delimiter looked for is ASCII.
What a decoder makes of the JSON of one frame is a parameter.
-/

namespace HaiderAgent.Provider

open ByteStream (utf8 splitLines)

/-- Text as its UTF-8 bytes. -/
abbrev Text := List UInt8

/-- The bytes of an ASCII literal. -/
def ascii (literal : String) : Text := literal.toList.map fun character => character.toNat.toUInt8

/-- `ProviderErrorKind` (lib.rs). -/
inductive ProviderErrorKind
  | authentication
  | permissionDenied
  | rateLimited
  | overloaded
  | contextExceeded
  | invalidRequest
  | networkUnavailable
  | transport
  | malformedFrame
  | invalidUtf8
  | internal
  | quotaExhausted
  | streamInterrupted
  | connectionConfiguration
  deriving DecidableEq, Repr

/-- `ProviderError`, as far as a decoder fills it in. -/
structure ProviderError where
  kind : ProviderErrorKind
  message : String
  deriving DecidableEq, Repr

/-- `malformed`. -/
def malformed (message : String) : ProviderError := { kind := .malformedFrame, message := message }

/-- `stream_interrupted`. -/
def streamInterrupted (message : String) : ProviderError :=
  { kind := .streamInterrupted, message := message }

/-- `FinishReason` (provider.rs). -/
inductive FinishReason
  | endTurn
  | toolUse
  | maxTokens
  | refusal
  | cancelled
  | error
  | pauseTurn
  deriving DecidableEq, Repr

/-- `StreamEvent`: the events the decoders themselves look at, and all others. -/
inductive StreamEvent (E : Type)
  | finish (reason : FinishReason)
  | toolCallEnd (callId : String)
  | other (event : E)
  deriving DecidableEq, Repr

/-- `ProviderStreamItem`. -/
abbrev Item (E : Type) := Except ProviderError (StreamEvent E)

/-- `matches!(item, Err(_) | Ok(StreamEvent::Finish { .. }))`. -/
def terminalItem {E : Type} : Item E → Bool
  | .error _ => true
  | .ok (.finish _) => true
  | .ok _ => false

/-! ## Text and lines -/

/-- The bytes of a scalar cut by the end of a push (lib.rs). -/
structure Utf8Assembler where
  pending : Text
  deriving DecidableEq, Repr

/-- `Utf8Assembler::push`: the decodable text, a partial scalar kept back; invalid is an error. -/
def Utf8Assembler.push (assembler : Utf8Assembler) (bytes : Text) :
    Utf8Assembler × Except ProviderError (List Text) :=
  match utf8 (assembler.pending ++ bytes) with
  | .error scan => ({ pending := [] },
      .error (malformed ("provider frame contains invalid UTF-8 at byte " ++
        toString scan.text.length)))
  | .ok scan => ({ pending := scan.pending }, .ok (if scan.text.isEmpty then [] else [scan.text]))

/-- A line without its final carriage return. -/
def popCarriage (line : Text) : Text :=
  if line.getLast? = some 0x0D then line.dropLast else line

/-- `trim_end_matches('\\r')`. -/
def trimCarriages (line : Text) : Text := line.rdropWhile (· = 0x0D)

/-- `split_once(':')`, with one blank stripped from the value. -/
def splitField (line : Text) : Text × Text :=
  match line.dropWhile (· ≠ 0x3A) with
  | [] => (line, [])
  | _ :: 0x20 :: value => (line.takeWhile (· ≠ 0x3A), value)
  | _ :: value => (line.takeWhile (· ≠ 0x3A), value)

/-- What a decoder does with lines: those of one push, and the unfinished one at the end. -/
structure LineDecoder (S E : Type) where
  /-- The name in the text of the UTF-8 error at the end. -/
  provider : String
  start : S
  lines : S → List Text → S × List (Item E)
  close : S → Text → List (Item E)

/-- A decoder between pushes. -/
structure Decoder (S : Type) where
  assembler : Utf8Assembler
  lineBuffer : Text
  inner : S
  terminal : Bool

section Family

variable {S E : Type} (decoder : LineDecoder S E)

/-- A decoder before its first byte. -/
def Decoder.new : Decoder S :=
  { assembler := { pending := [] }, lineBuffer := [], inner := decoder.start, terminal := false }

/-- `push`: the lines the bytes complete are decoded at once. -/
def push (state : Decoder S) (bytes : Text) : Decoder S × List (Item E) :=
  if state.terminal then (state, [])
  else
    match state.assembler.push bytes with
    | (assembler, .error error) =>
      ({ state with assembler := assembler, terminal := true }, [.error error])
    | (assembler, .ok decoded) =>
      let (lines, rest) := splitLines (state.lineBuffer ++ decoded.flatten)
      let (inner, items) := decoder.lines state.inner (lines.map popCarriage)
      ({ assembler := assembler, lineBuffer := rest, inner := inner,
         terminal := items.any terminalItem }, items)

/-- `finish`: what the end of the stream means. -/
def finish (state : Decoder S) : List (Item E) :=
  if state.terminal then []
  else if state.assembler.pending ≠ [] then
    [.error (malformed (decoder.provider ++ " SSE stream ended inside a UTF-8 scalar"))]
  else decoder.close state.inner state.lineBuffer

/-- The chunks pushed in order. A terminal decoder answers a push with nothing. -/
def pushAll (state : Decoder S) : List Text → Decoder S × List (Item E)
  | [] => (state, [])
  | chunk :: chunks =>
    let (next, items) := push decoder state chunk
    let (last, more) := pushAll next chunks
    (last, items ++ more)

/-- A whole stream: every chunk, then `finish`. -/
def decode (chunks : List Text) : List (Item E) :=
  let (last, items) := pushAll decoder (Decoder.new decoder) chunks
  items ++ finish decoder last

end Family

/-! ## The Anthropic decoder -/

section Anthropic

variable {σ E : Type}

/-- The fields of `SseDecoder` behind the line buffer. -/
structure SseState (σ : Type) where
  eventName : Option Text
  dataLines : List Text
  state : σ

/-- `join("\n")`. -/
def joinLines (lines : List Text) : Text := List.intercalate [0x0A] lines

variable (apply : σ → Text → Text → σ × Except ProviderError (List (StreamEvent E)))

/-- `SseDecoder::dispatch_event`, with the part from the parsed JSON on as `apply`. -/
def SseState.dispatchEvent (sse : SseState σ) : SseState σ × List (Item E) :=
  if sse.dataLines.isEmpty then ({ sse with eventName := none }, [])
  else
    match sse.eventName with
    | none => ({ sse with dataLines := [] },
        [.error (malformed "Anthropic SSE data frame has no event name")])
    | some name =>
      match apply sse.state name (joinLines sse.dataLines) with
      | (state, .ok events) => ({ eventName := none, dataLines := [], state := state }, events.map .ok)
      | (state, .error error) =>
        ({ eventName := none, dataLines := [], state := state }, [.error error])

/-- `accept_line`. -/
def SseState.acceptLine (sse : SseState σ) (line : Text) : SseState σ × List (Item E) :=
  if line.isEmpty then sse.dispatchEvent apply
  else if line.head? = some 0x3A then (sse, [])
  else
    let (field, value) := splitField line
    if field = ascii "event" then ({ sse with eventName := some value }, [])
    else if field = ascii "data" then ({ sse with dataLines := sse.dataLines ++ [value] }, [])
    else (sse, [])

/-- The items of a line up to the first terminal one, which ends the push. -/
def untilTerminal : List (Item E) → List (Item E)
  | [] => []
  | item :: items => if terminalItem item then [item] else item :: untilTerminal items

/-- The line loop of `SseDecoder::push`: it returns at the first terminal item. -/
def SseState.acceptLines
    (apply : σ → Text → Text → σ × Except ProviderError (List (StreamEvent E))) :
    SseState σ → List Text → SseState σ × List (Item E)
  | sse, [] => (sse, [])
  | sse, line :: lines =>
    let (next, items) := sse.acceptLine apply line
    if items.any terminalItem then (next, untilTerminal items)
    else
      let (last, more) := next.acceptLines apply lines
      (last, items ++ more)

/-- `SseDecoder::finish` after its UTF-8 check. -/
def SseState.close (sse : SseState σ) (lineBuffer : Text) : List (Item E) :=
  let (sse, items) := if lineBuffer.isEmpty then (sse, [])
    else sse.acceptLine apply (trimCarriages lineBuffer)
  if items.isEmpty then
    let (_, items) := if sse.eventName.isSome ∨ sse.dataLines ≠ [] then sse.dispatchEvent apply
      else (sse, [])
    if items.isEmpty then
      [.error (streamInterrupted "Anthropic SSE stream ended before a message_stop event")]
    else items
  else items

/-- The Anthropic decoder. -/
def sseDecoder (state : σ)
    (apply : σ → Text → Text → σ × Except ProviderError (List (StreamEvent E))) :
    LineDecoder (SseState σ) E :=
  { provider := "Anthropic", start := { eventName := none, dataLines := [], state := state },
    lines := SseState.acceptLines apply, close := SseState.close apply }

end Anthropic

/-! ## The decoders over a framer -/

/-- `SseFrame`; the Gemini framer leaves `event` out. -/
structure SseFrame where
  event : Option Text
  data : Text
  deriving DecidableEq, Repr

/-- The fields of `SseFramer` behind its line buffer. -/
structure SseFramer where
  eventName : Option Text
  dataLines : List Text
  deriving DecidableEq, Repr

/-- `dispatch_frame`. -/
def SseFramer.dispatchFrame (framer : SseFramer) : SseFramer × Option SseFrame :=
  if framer.dataLines.isEmpty then ({ framer with eventName := none }, none)
  else ({ eventName := none, dataLines := [] },
    some { event := framer.eventName, data := joinLines framer.dataLines })

/-- `SseFramer::accept_line`; only the OpenAI framer reads event names. -/
def SseFramer.acceptLine (named : Bool) (framer : SseFramer) (line : Text) :
    SseFramer × Option SseFrame :=
  if line.isEmpty then framer.dispatchFrame
  else if line.head? = some 0x3A then (framer, none)
  else
    let (field, value) := splitField line
    if named ∧ field = ascii "event" then ({ framer with eventName := some value }, none)
    else if field = ascii "data" then
      ({ framer with dataLines := framer.dataLines ++ [value] }, none)
    else (framer, none)

/-- The line loop of `SseFramer::push`: every frame, whatever a decoder makes of it. -/
def SseFramer.frames (named : Bool) : SseFramer → List Text → SseFramer × List SseFrame
  | framer, [] => (framer, [])
  | framer, line :: lines =>
    let (next, frame) := framer.acceptLine named line
    let (last, more) := next.frames named lines
    (last, frame.toList ++ more)

section Framed

variable {σ E : Type} (dispatch : σ → SseFrame → σ × Except ProviderError (List (StreamEvent E)))

/-- The items of one frame. -/
def frameItems : Except ProviderError (List (StreamEvent E)) → List (Item E)
  | .ok events => events.map .ok
  | .error error => [.error error]

/-- `accept_frames` of the three decoders: it stops after the first frame with a terminal item. -/
def acceptFrames : σ → List SseFrame → σ × List (Item E)
  | state, [] => (state, [])
  | state, frame :: frames =>
    let (next, answer) := dispatch state frame
    let items := frameItems answer
    if items.any terminalItem then (next, items)
    else
      let (last, more) := acceptFrames next frames
      (last, items ++ more)

/-- The lines of one push, framed and then dispatched. -/
def framedLines (named : Bool) (state : SseFramer × σ) (lines : List Text) :
    (SseFramer × σ) × List (Item E) :=
  let (framer, frames) := state.1.frames named lines
  let (inner, items) := acceptFrames dispatch state.2 frames
  ((framer, inner), items)

/-- `finish` of the three decoders: the last frames, and `stillOpen` where it is still open. -/
def framedClose (named : Bool) (stillOpen : σ → List (Item E)) (state : SseFramer × σ)
    (lineBuffer : Text) : List (Item E) :=
  let (framer, first) := if lineBuffer.isEmpty then (state.1, none)
    else state.1.acceptLine named (trimCarriages lineBuffer)
  let (_, second) := framer.dispatchFrame
  let (inner, items) := acceptFrames dispatch state.2 (first.toList ++ second.toList)
  if items.any terminalItem then items else items ++ stillOpen inner

/-- A decoder behind the shared framer. -/
def framedDecoder (provider : String) (named : Bool) (state : σ)
    (stillOpen : σ → List (Item E)) : LineDecoder (SseFramer × σ) E :=
  { provider := provider, start := ({ eventName := none, dataLines := [] }, state),
    lines := framedLines dispatch named, close := framedClose dispatch named stillOpen }

end Framed

section Members

variable {σ E : Type}

variable (state : σ) (json : σ → SseFrame → σ × Except ProviderError (List (StreamEvent E)))

/-- `ResponsesDecoder::dispatch`, with the part after the `[DONE]` check as `json`. -/
def responsesDispatch (state : σ) (frame : SseFrame) :
    σ × Except ProviderError (List (StreamEvent E)) :=
  if frame.data = ascii "[DONE]" then (state, .ok []) else json state frame

/-- The OpenAI Responses decoder. -/
def responsesDecoder : LineDecoder (SseFramer × σ) E :=
  framedDecoder (responsesDispatch json) "OpenAI" true state fun _ =>
    [.error (streamInterrupted "OpenAI Responses SSE ended before a terminal response event")]

/-- `ChatFunctionCall`, as far as closing it goes. -/
structure ChatFunctionCall where
  callId : String
  ended : Bool
  deriving DecidableEq, Repr

/-- The fields of `ChatDecoder` that `finish_events` reads, and the others as `rest`. -/
structure ChatState (σ E : Type) where
  openCalls : List (Nat × ChatFunctionCall)
  pendingToolEvents : List (StreamEvent E)
  finishReason : Option FinishReason
  rest : σ

/-- `ChatDecoder::finish_events` with `close_calls`. -/
def ChatState.finishEvents (chat : ChatState σ E) (reason : FinishReason) : List (StreamEvent E) :=
  let reason := if reason = .endTurn ∧ chat.openCalls ≠ [] then .toolUse else reason
  let events := if reason = .toolUse then
      chat.pendingToolEvents ++ (chat.openCalls.filter (!·.2.ended)).map fun call =>
        .toolCallEnd call.2.callId
    else []
  events ++ [.finish reason]

/-- `ChatDecoder::dispatch`, with the part after the `[DONE]` check as `json`. -/
def chatDispatch
    (json : ChatState σ E → SseFrame →
      ChatState σ E × Except ProviderError (List (StreamEvent E)))
    (chat : ChatState σ E) (frame : SseFrame) :
    ChatState σ E × Except ProviderError (List (StreamEvent E)) :=
  if frame.data = ascii "[DONE]" then
    ({ chat with pendingToolEvents := [] },
      .ok (chat.finishEvents (chat.finishReason.getD .endTurn)))
  else json chat frame

/-- `ChatDecoder`: a stream that ends without `[DONE]` finishes by its `finish_reason`. -/
def chatDecoder
    (json : ChatState σ E → SseFrame → ChatState σ E × Except ProviderError (List
    (StreamEvent E))) : LineDecoder (SseFramer × ChatState σ E) E :=
  framedDecoder (chatDispatch json) "OpenAI" true
    { openCalls := [], pendingToolEvents := [], finishReason := none, rest := state } fun chat =>
      match chat.finishReason with
      | some reason => (chat.finishEvents reason).map .ok
      | none => [.error (streamInterrupted
          "OpenAI-compatible Chat SSE ended before [DONE] or finish_reason")]

/-- `GeminiDecoder`, with its `dispatch` as `json`. -/
def geminiDecoder : LineDecoder (SseFramer × σ) E :=
  framedDecoder json "Gemini" false state fun _ =>
    [.error (streamInterrupted "Gemini SSE stream ended before a terminal finish reason")]

end Members

end HaiderAgent.Provider
