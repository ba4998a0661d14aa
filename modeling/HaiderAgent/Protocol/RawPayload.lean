import HaiderAgent.Lib.JsonTree

/-!
# Raw payloads

`RawPayload` (`haider-protocol/src/envelope.rs`): a JSON payload whose one reply leaf may
have been moved out of the tree. A mutable reference into a value is the place it points
at. Texts of a reply arena are strings here.
-/

namespace HaiderAgent.Raw

open JsonTree

/-- Where a payload keeps the reply text that is promoted out of it. -/
inductive ReplyPath where
  | itemText | itemSummary | deltaText | nodeText | peerMessage | agentNodeMessage
  | providerOpaque (marker : String)
  deriving DecidableEq, Repr

/-- `ReplyPath::components`. -/
def ReplyPath.components : ReplyPath → List String
  | .itemText => ["item", "text"]
  | .itemSummary => ["item", "summary"]
  | .deltaText => ["delta", "text"]
  | .nodeText => ["kind", "text"]
  | .peerMessage => ["message"]
  | .agentNodeMessage => ["kind", "message", "message"]
  | .providerOpaque _ => []

/-- The place `value_at_path_mut` points at. -/
def placeOf (components : List String) : Place := components.map .field

/-- A payload whose reply text is held apart from its JSON. -/
structure ReplyPayload where
  skeleton : Value
  text : String
  path : ReplyPath

/-- `RawPayload` (envelope.rs). -/
inductive RawPayload where
  | json (value : Value)
  | reply (reply : ReplyPayload)

/-! ## Markers -/

/-- `format!("{nonce:08x}")`. -/
def hex8 (nonce : Nat) : String :=
  let digits := Nat.toDigits 16 nonce
  String.ofList (List.replicate (8 - digits.length) '0' ++ digits)

/-- The marker that stands for an opaque reply, by its nonce. -/
def rawReplyMarker (nonce : Nat) : String :=
  "__haider_provider_opaque_reply_" ++ hex8 nonce ++ "__"

mutual

/-- `count_value_string_marker`. -/
def countValueStringMarker (marker : String) : Value → Nat
  | .string text => if text = marker then 1 else 0
  | .array values => countInValues marker values
  | .object fields => countInFields marker fields
  | _ => 0

/-- Its arm for arrays. -/
def countInValues (marker : String) : List Value → Nat
  | [] => 0
  | value :: values => countValueStringMarker marker value + countInValues marker values

/-- Its arm for objects. -/
def countInFields (marker : String) : List (String × Value) → Nat
  | [] => 0
  | (_, value) :: fields => countValueStringMarker marker value + countInFields marker fields

end

mutual

/-- `replace_value_string_marker`: whether it replaced a string, and the value after it. -/
def replaceValueStringMarker (marker : String) (replacement : Value) : Value → Bool × Value
  | .string text => if text = marker then (true, replacement) else (false, .string text)
  | .array values => (replaceInValues marker replacement values).map id .array
  | .object fields => (replaceInFields marker replacement fields).map id .object
  | value => (false, value)

/-- `any` over an array stops at the first replacement. -/
def replaceInValues (marker : String) (replacement : Value) : List Value → Bool × List Value
  | [] => (false, [])
  | value :: values =>
    match replaceValueStringMarker marker replacement value with
    | (true, replaced) => (true, replaced :: values)
    | (false, kept) => (replaceInValues marker replacement values).map id (kept :: ·)

/-- The search of an object for the first marker. -/
def replaceInFields (marker : String) (replacement : Value) :
    List (String × Value) → Bool × List (String × Value)
  | [] => (false, [])
  | (key, value) :: fields =>
    match replaceValueStringMarker marker replacement value with
    | (true, replaced) => (true, (key, replaced) :: fields)
    | (false, kept) => (replaceInFields marker replacement fields).map id ((key, kept) :: ·)

end

variable (value : Value)

/-- `unique_raw_reply_marker`; `none` is its `unreachable!`. -/
def uniqueRawReplyMarker : Option String :=
  ((List.range 1024).map rawReplyMarker).find? fun marker =>
    countValueStringMarker marker value == 0

/-! ## Promotion -/

/-- Where in the provider's own data the reply leaf stands. -/
def providerReplyPlace (provider : String) (data : Value) : Option Place :=
  if provider = "anthropic" then
    if data.getStr "type" = some "thinking" then
      (data.get "thinking").map fun _ => [.field "thinking"]
    else if data.getStr "type" = some "text" then
      (data.get "text").map fun _ => [.field "text"]
    else none
  else if provider = "gemini" then
    ((data.get "part").bind (·.get "text")).map fun _ => [.field "part", .field "text"]
  else if provider = "openai" ∧ data.getStr "type" = some "reasoning" then
    (((data.get "summary").bind (·.step .first)).bind (·.get "text")).map fun _ =>
      [.field "summary", .first, .field "text"]
  else none

/-- `provider_opaque_reply_slot_mut`. -/
def providerOpaqueReplySlot : Option Place := do
  let item ← value.get "item"
  if item.getStr "item" ≠ some "extension" ∨ item.getStr "kind" ≠ some "provider_opaque" then
    none
  else
    let wrapper ← item.get "data"
    let provider ← wrapper.getStr "provider"
    let data ← wrapper.get "data"
    let place ← providerReplyPlace provider data
    some ([.field "item", .field "data", .field "data"] ++ place)

/-- `reply_path`: the path of the payload's reply text, by its tags. -/
def replyPath : Option ReplyPath :=
  if value.getStr "type" = some "item" then
    if value.getStr "event" = some "delta" then
      match (value.get "delta").bind (·.getStr "delta") with
      | some "text" | some "reasoning" => some .deltaText
      | _ => none
    else if value.getStr "event" = some "started" ∨ value.getStr "event" = some "completed" then
      match (value.get "item").bind (·.getStr "item") with
      | some "agent_message" | some "incomplete_agent_message" => some .itemText
      | some "reasoning" => some .itemSummary
      | _ => none
    else none
  else if value.getStr "type" = some "peer.message" then some .peerMessage
  else if value.getStr "type" = some "node_committed" then
    match (value.get "kind").bind (·.getStr "kind") with
    | some "assistant_commit" => some .nodeText
    | some "agent" | some "peer_turn" => some .agentNodeMessage
    | _ => none
  else none

/-- The second half of `promote_value`: the leaf at the reply path. -/
def promoteReplyLeaf : RawPayload :=
  match replyPath value with
  | none => .json value
  | some path =>
    match value.read (placeOf path.components) with
    | some (.string text) =>
      .reply ⟨value.write (placeOf path.components) (.string ""), text, path⟩
    | _ => .json value

/-- `promote_value`; `none` is the panic of the marker search. `mem::take` leaves `null` in the
provider's slot, also where what it took is not a string. -/
def promoteValue : Option RawPayload := do
  let marker ← uniqueRawReplyMarker value
  match providerOpaqueReplySlot value with
  | none => some (promoteReplyLeaf value)
  | some slot =>
    match value.read slot with
    | some (.string text) =>
      some (.reply ⟨value.write slot (.string marker), text, .providerOpaque marker⟩)
    | _ => some (promoteReplyLeaf (value.write slot .null))

/-! ## Back to JSON -/

mutual

/-- `Serialize for PatchedValue`. -/
def patchedValue (text : String) (path : List String) : Value → Value
  | .object fields =>
    match path with
    | [] => .string text
    | key :: rest => .object (patchedFields text key rest fields)
  | .array values =>
    match path with
    | [] => .string text
    | _ :: _ => .array (patchedValues text values)
  | value => if path = [] then .string text else value

/-- The elements of an array are patched along the path `"\0"`. -/
def patchedValues (text : String) : List Value → List Value
  | [] => []
  | value :: values => patchedValue text ["\x00"] value :: patchedValues text values

/-- The fields of an object: the path goes on below its first name, and is `"\0"` elsewhere. -/
def patchedFields (text key : String) (rest : List String) :
    List (String × Value) → List (String × Value)
  | [] => []
  | (name, value) :: fields =>
    (name, patchedValue text (if name = key then rest else ["\x00"]) value) ::
      patchedFields text key rest fields

end

mutual

/-- `Serialize for PatchedMarkerValue`. -/
def patchedMarkerValue (marker text : String) : Value → Value
  | .string value => if value = marker then .string text else .string value
  | .array values => .array (patchedMarkerValues marker text values)
  | .object fields => .object (patchedMarkerFields marker text fields)
  | value => value

/-- The patched elements of an array. -/
def patchedMarkerValues (marker text : String) : List Value → List Value
  | [] => []
  | value :: values =>
    patchedMarkerValue marker text value :: patchedMarkerValues marker text values

/-- The patched fields of an object. -/
def patchedMarkerFields (marker text : String) :
    List (String × Value) → List (String × Value)
  | [] => []
  | (name, value) :: fields =>
    (name, patchedMarkerValue marker text value) :: patchedMarkerFields marker text fields

end

namespace RawPayload

/-- `to_json_value`: the text goes back to its place. -/
def toJsonValue : RawPayload → Value
  | .json value => value
  | .reply ⟨skeleton, text, .providerOpaque marker⟩ =>
    (replaceValueStringMarker marker (.string text) skeleton).2
  | .reply ⟨skeleton, text, path⟩ => skeleton.write (placeOf path.components) (.string text)

/-- `Serialize for RawPayload`, as the value that is serialized. -/
def serialize : RawPayload → Value
  | .json value => value
  | .reply ⟨skeleton, text, .providerOpaque marker⟩ => patchedMarkerValue marker text skeleton
  | .reply ⟨skeleton, text, path⟩ => patchedValue text path.components skeleton

end RawPayload

/-! ## Typed events -/

/-- The types that carry no reply leaf: of the fields beside one, and of the other variants. -/
structure LeaflessTypes where
  Presentation : Type
  Verdict : Type
  Sender : Type
  Item : Type
  Delta : Type
  Node : Type
  Payload : Type

section Typed

variable (T : LeaflessTypes)

/-- `TurnItem` (`item.rs`). -/
inductive ReplyItem where
  | agentMessage (text : String)
  | incompleteAgentMessage (text : String) (interruption : T.Presentation)
  | reasoning (summary : String)
  | other (item : T.Item)

/-- `ItemDelta` (`item.rs`). -/
inductive ReplyDelta where
  | text (text : String)
  | reasoning (text : String)
  | other (delta : T.Delta)

/-- `ItemEvent` (`item.rs`). -/
inductive ReplyItemEvent where
  | started (itemId : String) (item : ReplyItem T)
  | delta (itemId : String) (delta : ReplyDelta T)
  | completed (itemId : String) (item : ReplyItem T)

/-- `PeerMessage` (`peer.rs`). -/
structure ReplyPeerMessage where
  msgId : String
  sender : T.Sender
  recipient : String
  message : String
  summary : Option String
  queuedAt : Nat
  expiresAt : Nat

/-- `NodeKind` (`history.rs`). -/
inductive ReplyNodeKind where
  | assistantCommit (text : String) (verdict : T.Verdict)
  | agent (message : ReplyPeerMessage T)
  | peerTurn (message : ReplyPeerMessage T)
  | other (node : T.Node)

/-- `TreeNode` (`history.rs`). -/
structure ReplyTreeNode where
  node : String
  parent : Option String
  kind : ReplyNodeKind T

/-- `EventPayload` (`lib.rs`). -/
inductive ReplyEvent where
  | item (event : ReplyItemEvent T)
  | nodeCommitted (node : ReplyTreeNode T)
  | peerMessage (message : ReplyPeerMessage T)
  | other (payload : T.Payload)

/-- The decoders of the types without a reply leaf. For an enum this is every form of a value but
the object with the text of the tag of a variant that has one; those forms include the other ways
in which a derived decoder takes such a variant, an array or a tag by number. -/
structure LeaflessDecoders where
  presentation : Value → Option T.Presentation
  verdict : Value → Option T.Verdict
  sender : Value → Option T.Sender
  item : Value → Option (ReplyItem T)
  delta : Value → Option (ReplyDelta T)
  itemEvent : Value → Option (ReplyItemEvent T)
  node : Value → Option (ReplyNodeKind T)
  payload : Value → Option (ReplyEvent T)

end Typed

/-- A `u64`. -/
def asU64 : Value → Option Nat
  | .number (.posInt n) => some n
  | _ => none

/-- An optional field with a default: absent and `null` are `None`. -/
def optionalStr (name : String) (value : Value) : Option (Option String) :=
  match value.get name with
  | none | some .null => some none
  | some found => found.asStr.map some

namespace LeaflessDecoders

variable {T : LeaflessTypes} (decoders : LeaflessDecoders T)

variable (value : Value)

/-- The `TurnItem` decoder, split at the items with a reply text. -/
def decodeItem : Option (ReplyItem T) :=
  match value.getStr "item" with
  | some "agent_message" => (value.getStr "text").map .agentMessage
  | some "incomplete_agent_message" => do
    let text ← value.getStr "text"
    let interruption ← (value.get "interruption").bind decoders.presentation
    some (.incompleteAgentMessage text interruption)
  | some "reasoning" => (value.getStr "summary").map .reasoning
  | _ => decoders.item value

/-- The `ItemDelta` decoder. -/
def decodeDelta : Option (ReplyDelta T) :=
  match value.getStr "delta" with
  | some "text" => (value.getStr "text").map .text
  | some "reasoning" => (value.getStr "text").map .reasoning
  | _ => decoders.delta value

/-- The `ItemEvent` decoder. -/
def decodeItemEvent : Option (ReplyItemEvent T) :=
  match value.getStr "event" with
  | some "started" => do
    let itemId ← value.getStr "item_id"
    let item ← (value.get "item").bind decoders.decodeItem
    some (.started itemId item)
  | some "delta" => do
    let itemId ← value.getStr "item_id"
    let delta ← (value.get "delta").bind decoders.decodeDelta
    some (.delta itemId delta)
  | some "completed" => do
    let itemId ← value.getStr "item_id"
    let item ← (value.get "item").bind decoders.decodeItem
    some (.completed itemId item)
  | _ => decoders.itemEvent value

/-- The `PeerMessage` decoder. -/
def decodePeerMessage : Option (ReplyPeerMessage T) := do
  let msgId ← value.getStr "msg_id"
  let sender ← (value.get "from").bind decoders.sender
  let recipient ← value.getStr "to"
  let message ← value.getStr "message"
  let summary ← optionalStr "summary" value
  let queuedAt ← (value.get "queued_at").bind asU64
  let expiresAt ← (value.get "expires_at").bind asU64
  some ⟨msgId, sender, recipient, message, summary, queuedAt, expiresAt⟩

/-- The `NodeKind` decoder. -/
def decodeNodeKind : Option (ReplyNodeKind T) :=
  match value.getStr "kind" with
  | some "assistant_commit" => do
    let text ← value.getStr "text"
    let verdict ← (value.get "verdict").bind decoders.verdict
    some (.assistantCommit text verdict)
  | some "agent" => ((value.get "message").bind decoders.decodePeerMessage).map .agent
  | some "peer_turn" => ((value.get "message").bind decoders.decodePeerMessage).map .peerTurn
  | _ => decoders.node value

/-- The `TreeNode` decoder. -/
def decodeTreeNode : Option (ReplyTreeNode T) := do
  let node ← value.getStr "node"
  let parent ← optionalStr "parent" value
  let kind ← (value.get "kind").bind decoders.decodeNodeKind
  some ⟨node, parent, kind⟩

/-- `serde_json::from_value::<EventPayload>`. -/
def fromValue : Option (ReplyEvent T) :=
  match value.getStr "type" with
  | some "item" => (decoders.decodeItemEvent value).map .item
  | some "node_committed" => (decoders.decodeTreeNode value).map .nodeCommitted
  | some "peer.message" => (decoders.decodePeerMessage value).map .peerMessage
  | _ => decoders.payload value

end LeaflessDecoders

/-! ## Decoding a raw payload -/

namespace ReplyEvent

variable {T : LeaflessTypes}

/-- `reply_leaf_mut`, for an item: the path of the leaf and the item with another text there. -/
def itemLeaf (text : String) : ReplyItem T → Option (ReplyPath × ReplyItem T)
  | .agentMessage _ => some (.itemText, .agentMessage text)
  | .incompleteAgentMessage _ interruption =>
    some (.itemText, .incompleteAgentMessage text interruption)
  | .reasoning _ => some (.itemSummary, .reasoning text)
  | .other _ => none

/-- `reply_leaf_mut`: the path of the leaf and the event with another text there. -/
def withReplyLeaf (text : String) : ReplyEvent T → Option (ReplyPath × ReplyEvent T)
  | .item (.started itemId content) =>
    (itemLeaf text content).map fun (path, changed) => (path, .item (.started itemId changed))
  | .item (.completed itemId content) =>
    (itemLeaf text content).map fun (path, changed) => (path, .item (.completed itemId changed))
  | .item (.delta itemId (.text _)) => some (.deltaText, .item (.delta itemId (.text text)))
  | .item (.delta itemId (.reasoning _)) =>
    some (.deltaText, .item (.delta itemId (.reasoning text)))
  | .item (.delta _ (.other _)) => none
  | .nodeCommitted node =>
    match node.kind with
    | .assistantCommit _ verdict =>
      some (.nodeText, .nodeCommitted { node with kind := .assistantCommit text verdict })
    | .agent message =>
      some (.agentNodeMessage,
        .nodeCommitted { node with kind := .agent { message with message := text } })
    | .peerTurn message =>
      some (.agentNodeMessage,
        .nodeCommitted { node with kind := .peerTurn { message with message := text } })
    | .other _ => none
  | .peerMessage message => some (.peerMessage, .peerMessage { message with message := text })
  | .other _ => none

end ReplyEvent

/-- The non-opaque branch of `decode_event`: the leaf is bound again, as the payload names it. -/
def rebindReplyLeaf {T : LeaflessTypes} (path : ReplyPath) (text : String)
    (payload : ReplyEvent T) : Option (ReplyEvent T) :=
  match payload.withReplyLeaf text with
  | none => none
  | some (leafPath, bound) => if leafPath ≠ path then none else some bound

/-- `decode_event`: a reply's skeleton is decoded, then its text rebound. -/
def RawPayload.decodeEvent {T : LeaflessTypes} (decoders : LeaflessDecoders T) :
    RawPayload → Option (ReplyEvent T)
  | .json value => decoders.fromValue value
  | .reply ⟨skeleton, text, .providerOpaque marker⟩ =>
    decoders.fromValue (toJsonValue (.reply ⟨skeleton, text, .providerOpaque marker⟩))
  | .reply ⟨skeleton, text, path⟩ =>
    (decoders.fromValue skeleton).bind (rebindReplyLeaf path text)

end HaiderAgent.Raw
