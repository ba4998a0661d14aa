import HaiderAgent.Protocol.RawPayload
import Mathlib.Data.List.Nodup

/-!
# Raw payloads round-trip

Promotion moves the reply leaf of a payload out of its JSON tree, and three code paths put
it back: `to_json_value`, the two serializers, and `decode_event`. The round trip needs a
marker the value does not contain, a provider slot that holds a text, and no name `"\0"`
where the serializer walks beside the reply path.
-/

namespace HaiderAgent.Raw

open List LeaflessDecoders

open JsonTree
open Option (some_inj bind_eq_some_iff map_bind bind_assoc bind_some map_some map_eq_some_iff)
open Value (get_write get_write_other getStr_write_other write_of_read)
open ReplyEvent (itemLeaf withReplyLeaf)

variable {marker text name : String} {value below found : Value} {place : Place}
  {fields : List (String × Value)} {change changed : Value → Value}

/-! ## Markers -/

mutual

/-- Where the marker does not occur there is nothing to restore. -/
theorem restored_of_absent (marker text : String) :
    ∀ value : Value, countValueStringMarker marker value = 0 →
      replaceValueStringMarker marker (.string text) value = (false, value) ∧
        patchedMarkerValue marker text value = value
  | .string value, absent => by
    have differs : value ≠ marker := by
      rintro rfl
      simp [countValueStringMarker] at absent
    rw [replaceValueStringMarker, if_neg differs, patchedMarkerValue, if_neg differs]
    exact ⟨rfl, rfl⟩
  | .array values, absent => by
    obtain ⟨replaced, patched⟩ := restoredValues_of_absent marker text values absent
    rw [replaceValueStringMarker, replaced, patchedMarkerValue, patched]
    exact ⟨rfl, rfl⟩
  | .object fields, absent => by
    obtain ⟨replaced, patched⟩ := restoredFields_of_absent marker text fields absent
    rw [replaceValueStringMarker, replaced, patchedMarkerValue, patched]
    exact ⟨rfl, rfl⟩
  | .null, _ => ⟨rfl, rfl⟩
  | .bool _, _ => ⟨rfl, rfl⟩
  | .number _, _ => ⟨rfl, rfl⟩

theorem restoredValues_of_absent (marker text : String) :
    ∀ values : List Value, countInValues marker values = 0 →
      replaceInValues marker (.string text) values = (false, values) ∧
        patchedMarkerValues marker text values = values
  | [], _ => ⟨rfl, rfl⟩
  | value :: values, absent => by
    obtain ⟨here, later⟩ := Nat.add_eq_zero_iff.mp absent
    obtain ⟨replaced, patched⟩ := restored_of_absent marker text value here
    obtain ⟨replacedLater, patchedLater⟩ := restoredValues_of_absent marker text values later
    simp only [replaceInValues, replaced, replacedLater, patchedMarkerValues, patched, patchedLater]
    exact ⟨rfl, trivial⟩

theorem restoredFields_of_absent (marker text : String) :
    ∀ fields : List (String × Value), countInFields marker fields = 0 →
      replaceInFields marker (.string text) fields = (false, fields) ∧
        patchedMarkerFields marker text fields = fields
  | [], _ => ⟨rfl, rfl⟩
  | (name, value) :: fields, absent => by
    obtain ⟨here, later⟩ := Nat.add_eq_zero_iff.mp absent
    obtain ⟨replaced, patched⟩ := restored_of_absent marker text value here
    obtain ⟨replacedLater, patchedLater⟩ := restoredFields_of_absent marker text fields later
    simp only [replaceInFields, replaced, replacedLater, patchedMarkerFields, patched, patchedLater]
    exact ⟨rfl, trivial⟩

end

theorem mem_of_lookup (looked : fields.lookup name = some below) : (name, below) ∈ fields := by
  obtain ⟨before, after, rfl, -⟩ := lookup_eq_some_iff.mp looked
  exact mem_append_right _ mem_cons_self

theorem count_of_mem (absent : countInFields marker fields = 0) (mem : (name, below) ∈ fields) :
    countValueStringMarker marker below = 0 := by
  induction mem with
  | head => exact (Nat.add_eq_zero_iff.mp absent).1
  | tail _ _ ih => exact ih (Nat.add_eq_zero_iff.mp absent).2

variable {step : Step}

theorem count_of_step (absent : countValueStringMarker marker value = 0)
    (reached : value.step step = some below) : countValueStringMarker marker below = 0 := by
  cases step with
  | field name =>
    cases value with
    | object fields => exact count_of_mem absent (mem_of_lookup reached)
    | null | bool | number | string | array => cases reached
  | first =>
    cases value with
    | array values =>
      cases values with
      | nil => cases reached
      | cons first values =>
        cases reached
        exact (Nat.add_eq_zero_iff.mp absent).1
    | null | bool | number | string | object => cases reached

/-- Both ways back find the marker and put the text in its place. -/
def Restores (marker text : String) (value restored : Value) : Prop :=
  replaceValueStringMarker marker (.string text) value = (true, restored) ∧
    patchedMarkerValue marker text value = restored

/-- Both ways back pass over the fields beside the changed one. -/
theorem restored_onField (absent : countInFields marker fields = 0)
    (looked : fields.lookup name = some below)
    (restores : Restores marker text (change below) (changed below)) :
    replaceInFields marker (.string text) (Value.onField name change fields) =
        (true, Value.onField name changed fields) ∧
      patchedMarkerFields marker text (Value.onField name change fields) =
        Value.onField name changed fields := by
  induction fields with
  | nil => cases looked
  | cons field fields ih =>
    obtain ⟨key, value⟩ := field
    obtain ⟨here, later⟩ := Nat.add_eq_zero_iff.mp absent
    by_cases own : key = name
    · subst own
      rw [lookup_cons_self, some_inj] at looked
      subst looked
      rw [Value.onField, if_pos rfl, Value.onField, if_pos rfl, replaceInFields, restores.1,
        patchedMarkerFields, restores.2, (restoredFields_of_absent marker text fields later).2]
      exact ⟨rfl, rfl⟩
    · rw [lookup_cons, beq_false_of_ne (Ne.symm own)] at looked
      obtain ⟨kept, unpatched⟩ := restored_of_absent marker text value here
      obtain ⟨replaced, patched⟩ := ih later looked
      rw [Value.onField, if_neg own, Value.onField, if_neg own]
      simp only [replaceInFields, kept, replaced, patchedMarkerFields, unpatched, patched]
      exact ⟨rfl, trivial⟩

theorem Restores.onStep (absent : countValueStringMarker marker value = 0)
    (reached : value.step step = some below)
    (restores : Restores marker text (change below) (changed below)) :
    Restores marker text (Value.onStep change step value) (Value.onStep changed step value) := by
  cases step with
  | field name =>
    cases value with
    | object fields =>
      obtain ⟨replaced, patched⟩ := restored_onField absent reached restores
      simp only [Restores, Value.onStep, replaceValueStringMarker, replaced, patchedMarkerValue,
        patched]
      exact ⟨rfl, trivial⟩
    | null | bool | number | string | array => cases reached
  | first =>
    cases value with
    | array values =>
      cases values with
      | nil => cases reached
      | cons first values =>
        cases reached
        have later := restoredValues_of_absent marker text values (Nat.add_eq_zero_iff.mp absent).2
        simp only [Restores, Value.onStep, replaceValueStringMarker, replaceInValues, restores.1,
          patchedMarkerValue, patchedMarkerValues, restores.2, later.2]
        exact ⟨rfl, trivial⟩
    | null | bool | number | string | object => cases reached

/-- The marker written at one place of a value without it is found there. -/
theorem restores_write (absent : countValueStringMarker marker value = 0)
    (reached : value.read place = some found) :
    Restores marker text (value.write place (.string marker))
      (value.write place (.string text)) := by
  induction place generalizing value with
  | nil => simp [Restores, Value.write, replaceValueStringMarker, patchedMarkerValue]
  | cons step place ih =>
    obtain ⟨below, first, rest⟩ := bind_eq_some_iff.mp reached
    exact (ih (count_of_step absent first) rest).onStep absent first

/-! ## The reply path -/

mutual

/-- Beside the path a name `"\0"` ends it for the serializer: the text has to stand there. -/
def NulHolds (text : String) : Value → Prop
  | .array values => NulHoldsValues text values
  | .object fields => NulHoldsFields text fields
  | _ => True

/-- The condition on the elements of an array. -/
def NulHoldsValues (text : String) : List Value → Prop
  | [] => True
  | value :: values => NulHolds text value ∧ NulHoldsValues text values

/-- The condition on the fields of an object. -/
def NulHoldsFields (text : String) : List (String × Value) → Prop
  | [] => True
  | (name, value) :: fields =>
    (if name = "\x00" then value = .string text else NulHolds text value) ∧
      NulHoldsFields text fields

end

/-- `NulHolds` for everything beside a path. -/
def NulHoldsBeside (text : String) : List String → Value → Prop
  | key :: rest, .object fields => ∀ entry ∈ fields,
      if entry.1 = key then NulHoldsBeside text rest entry.2 else NulHolds text entry.2
  | _, _ => True

mutual

/-- The serializer leaves a value beside the path alone exactly if `NulHolds`. -/
theorem patchedValue_nul (text : String) :
    ∀ value : Value, patchedValue text ["\x00"] value = value ↔ NulHolds text value
  | .array values => by
    rw [patchedValue, NulHolds, ← patchedValues_eq text values, Value.array.injEq]
  | .object fields => by
    rw [patchedValue, NulHolds, ← patchedFields_nul text fields, Value.object.injEq]
  | .null => by simp [patchedValue, NulHolds]
  | .bool _ => by simp [patchedValue, NulHolds]
  | .number _ => by simp [patchedValue, NulHolds]
  | .string _ => by simp [patchedValue, NulHolds]

theorem patchedValues_eq (text : String) :
    ∀ values : List Value, patchedValues text values = values ↔ NulHoldsValues text values
  | [] => by simp [patchedValues, NulHoldsValues]
  | value :: values => by
    rw [patchedValues, cons.injEq, NulHoldsValues, patchedValue_nul text value,
      patchedValues_eq text values]

theorem patchedFields_nul (text : String) :
    ∀ fields : List (String × Value),
      patchedFields text "\x00" [] fields = fields ↔ NulHoldsFields text fields
  | [] => by simp [patchedFields, NulHoldsFields]
  | (name, value) :: fields => by
    rw [patchedFields, cons.injEq, NulHoldsFields, patchedFields_nul text fields,
      Prod.mk.injEq, eq_self, true_and]
    refine and_congr_left fun _ => ?_
    by_cases nul : name = "\x00"
    · rw [if_pos nul, if_pos nul]
      constructor
      · intro patched
        rw [← patched]
        cases value <;> rfl
      · rintro rfl
        rfl
    · rw [if_neg nul, if_neg nul]
      exact patchedValue_nul text value

end

theorem patchedValue_end (text : String) (value : Value) :
    patchedValue text [] value = .string text := by
  cases value <;> rfl

variable {key : String} {rest : List String}

theorem patchedFields_other (absent : key ∉ fields.map (·.1)) :
    patchedFields text key rest fields = fields ↔ ∀ entry ∈ fields, NulHolds text entry.2 := by
  induction fields with
  | nil => simp [patchedFields]
  | cons field fields ih =>
    obtain ⟨name, value⟩ := field
    rw [map_cons, mem_cons, not_or] at absent
    rw [patchedFields, cons.injEq, if_neg (Ne.symm absent.1), Prod.mk.injEq, eq_self,
      true_and, patchedValue_nul, ih absent.2, forall_mem_cons]

/-- Patching undoes a change to one field when it undoes it below that field. -/
theorem patchedFields_onField
    (distinct : (fields.map (·.1)).Nodup) (looked : fields.lookup key = some below) :
    patchedFields text key rest (Value.onField key change fields) = fields ↔
      patchedValue text rest (change below) = below ∧
        ∀ entry ∈ fields, entry.1 ≠ key → NulHolds text entry.2 := by
  induction fields with
  | nil => cases looked
  | cons field fields ih =>
    obtain ⟨name, value⟩ := field
    rw [map_cons, nodup_cons] at distinct
    by_cases own : name = key
    · subst own
      rw [lookup_cons_self, some_inj] at looked
      subst looked
      rw [Value.onField, if_pos rfl, patchedFields, if_pos rfl, cons.injEq, Prod.mk.injEq,
        eq_self, true_and, patchedFields_other distinct.1, forall_mem_cons]
      refine and_congr_right fun _ => ?_
      constructor
      · intro others
        exact ⟨fun differs => absurd rfl differs, fun entry mem _ => others entry mem⟩
      · rintro ⟨_, others⟩ entry mem
        refine others entry mem ?_
        rintro rfl
        exact distinct.1 (mem_map.mpr ⟨entry, mem, rfl⟩)
    · rw [lookup_cons, beq_false_of_ne (Ne.symm own)] at looked
      rw [Value.onField, if_neg own, patchedFields, if_neg own, cons.injEq, Prod.mk.injEq,
        eq_self, true_and, patchedValue_nul, ih distinct.2 looked, forall_mem_cons]
      constructor
      · rintro ⟨here, restored, others⟩
        exact ⟨restored, fun _ => here, others⟩
      · rintro ⟨restored, here, others⟩
        exact ⟨here own, restored, others⟩

theorem distinct_of_mem (distinct : Value.DistinctFields fields) (mem : (name, below) ∈ fields) :
    below.Distinct := by
  induction mem with
  | head => exact distinct.1
  | tail _ _ ih => exact ih distinct.2

/-- The serializer puts the text back along the path exactly if `NulHolds` beside it. -/
theorem patchedValue_write {path : List String} (distinct : value.Distinct)
    (reached : value.read (placeOf path) = some (.string text)) (other : Value) :
    patchedValue text path (value.write (placeOf path) other) = value ↔
      NulHoldsBeside text path value := by
  induction path generalizing value with
  | nil =>
    cases reached
    exact iff_of_true (patchedValue_end text other) trivial
  | cons key rest ih =>
    obtain ⟨below, first, later⟩ := bind_eq_some_iff.mp reached
    cases value with
    | object fields =>
      have looked : fields.lookup key = some below := first
      have held := mem_of_lookup looked
      obtain ⟨names, fieldsDistinct⟩ := distinct
      simp only [placeOf, map_cons, Value.write, Value.onStep, patchedValue, NulHoldsBeside,
        Value.object.injEq]
      rw [patchedFields_onField names looked]
      have below_iff := ih (distinct_of_mem fieldsDistinct held) later
      constructor
      · rintro ⟨restored, others⟩ entry mem
        by_cases own : entry.1 = key
        · rw [if_pos own]
          obtain rfl := inj_on_of_nodup_map names mem held own
          exact below_iff.mp restored
        · rw [if_neg own]
          exact others entry mem own
      · intro holds
        constructor
        · apply below_iff.mpr
          have entry := holds _ held
          rwa [if_pos rfl] at entry
        · intro entry mem differs
          have beside := holds entry mem
          rwa [if_neg differs] at beside
    | null | bool | number | string | array => cases first

/-! ## Decoding -/

section Decoding

variable {T : LeaflessTypes} (decoders : LeaflessDecoders T)

theorem getStr_of_get (leaf : value.get name = some (.string text)) :
    value.getStr name = some text := by
  rw [Value.getStr, leaf]
  rfl

theorem getStr_write (leaf : value.get name = some found) :
    (value.write [.field name] (.string text)).getStr name = some text := by
  rw [Value.getStr, get_write, if_pos rfl, leaf]
  rfl

theorem optionalStr_write_other {other : String} {place : Place} (differs : other ≠ name)
    (new : Value) :
    optionalStr other (value.write (.field name :: place) new) = optionalStr other value := by
  rw [optionalStr, get_write_other differs, optionalStr]

/-- A skeleton with the text bound to its leaf is the whole, and the leaf is that of the path. -/
def Rebinds {α : Type} (leaf : α → Option (ReplyPath × α)) (path : ReplyPath)
    (skeleton whole : Option α) : Prop :=
  skeleton.bind leaf = whole.map fun content => (path, content)

section Rebinds

variable {α β : Type} {leaf : α → Option (ReplyPath × α)} {path : ReplyPath}

theorem Rebinds.map {outer : β → Option (ReplyPath × β)} {skeleton whole : Option α}
    (rebinds : Rebinds leaf path skeleton whole) (make : α → β)
    (commutes : ∀ content, outer (make content) = (leaf content).map (Prod.map id make)) :
    Rebinds outer path (skeleton.bind fun content => some (make content))
      (whole.bind fun content => some (make content)) := by
  have relabelled := congrArg (Option.map (Prod.map id make)) rebinds
  simp only [map_bind, Option.map_map] at relabelled
  simp only [Rebinds, bind_assoc, bind_some, commutes]
  refine relabelled.trans ?_
  cases whole <;> rfl

theorem Rebinds.bind {first : Option β} {skeleton whole : β → Option α}
    (rebinds : ∀ content, Rebinds leaf path (skeleton content) (whole content)) :
    Rebinds leaf path (first.bind skeleton) (first.bind whole) := by
  cases first with
  | none => rfl
  | some content => exact rebinds content

end Rebinds

/-- `reply_leaf_mut`, for a delta. -/
def deltaLeaf (text : String) : ReplyDelta T → Option (ReplyPath × ReplyDelta T)
  | .text _ => some (.deltaText, .text text)
  | .reasoning _ => some (.deltaText, .reasoning text)
  | .other _ => none

/-- `reply_leaf_mut`, for the kind of a node. -/
def kindLeaf (text : String) : ReplyNodeKind T → Option (ReplyPath × ReplyNodeKind T)
  | .assistantCommit _ verdict => some (.nodeText, .assistantCommit text verdict)
  | .agent message => some (.agentNodeMessage, .agent { message with message := text })
  | .peerTurn message => some (.agentNodeMessage, .peerTurn { message with message := text })
  | .other _ => none

variable (empty : String)

theorem decodeItem_write_text (tag : value.getStr "item" = some "agent_message" ∨
      value.getStr "item" = some "incomplete_agent_message")
    (leaf : value.get "text" = some (.string text)) :
    Rebinds (itemLeaf text) .itemText
      (decoders.decodeItem (value.write [.field "text"] (.string empty)))
      (decoders.decodeItem value) := by
  rw [decodeItem, decodeItem, getStr_write_other (by decide : "item" ≠ "text")]
  rcases tag with tag | tag
  · simp only [tag, getStr_write leaf, getStr_of_get leaf]
    rfl
  · simp only [tag, getStr_write leaf, getStr_of_get leaf,
      get_write_other (by decide : "interruption" ≠ "text")]
    cases (value.get "interruption").bind decoders.presentation <;> rfl

theorem decodeItem_write_summary (tag : value.getStr "item" = some "reasoning")
    (leaf : value.get "summary" = some (.string text)) :
    Rebinds (itemLeaf text) .itemSummary
      (decoders.decodeItem (value.write [.field "summary"] (.string empty)))
      (decoders.decodeItem value) := by
  rw [decodeItem, decodeItem, getStr_write_other (by decide : "item" ≠ "summary")]
  simp only [tag, getStr_write leaf, getStr_of_get leaf]
  rfl

theorem decodeDelta_write_text
    (tag : value.getStr "delta" = some "text" ∨ value.getStr "delta" = some "reasoning")
    (leaf : value.get "text" = some (.string text)) :
    Rebinds (deltaLeaf text) .deltaText
      (decoders.decodeDelta (value.write [.field "text"] (.string empty)))
      (decoders.decodeDelta value) := by
  rw [decodeDelta, decodeDelta, getStr_write_other (by decide : "delta" ≠ "text")]
  rcases tag with tag | tag <;> simp only [tag, getStr_write leaf, getStr_of_get leaf] <;> rfl

theorem decodePeerMessage_write (leaf : value.get "message" = some (.string text)) :
    Rebinds (fun message => some (.peerMessage, { message with message := text })) .peerMessage
      (decoders.decodePeerMessage (value.write [.field "message"] (.string empty)))
      (decoders.decodePeerMessage value) := by
  unfold decodePeerMessage
  rw [getStr_write_other (by decide : "msg_id" ≠ "message"),
    get_write_other (by decide : "from" ≠ "message"),
    getStr_write_other (by decide : "to" ≠ "message"), getStr_write leaf,
    getStr_of_get leaf, optionalStr_write_other (by decide : "summary" ≠ "message"),
    get_write_other (by decide : "queued_at" ≠ "message"),
    get_write_other (by decide : "expires_at" ≠ "message")]
  simp only [bind, bind_some]
  refine .bind fun _ => .bind fun _ => .bind fun _ => .bind fun _ => .bind fun _ => ?_
  exact .bind fun _ => rfl

theorem decodeNodeKind_write_text (tag : value.getStr "kind" = some "assistant_commit")
    (leaf : value.get "text" = some (.string text)) :
    Rebinds (kindLeaf text) .nodeText
      (decoders.decodeNodeKind (value.write [.field "text"] (.string empty)))
      (decoders.decodeNodeKind value) := by
  rw [decodeNodeKind, decodeNodeKind, getStr_write_other (by decide : "kind" ≠ "text")]
  simp only [tag, getStr_write leaf, getStr_of_get leaf,
    get_write_other (by decide : "verdict" ≠ "text")]
  cases (value.get "verdict").bind decoders.verdict <;> rfl

variable {middle : Value} {rest : Place}

theorem get_write_below {new : Value} (here : value.get name = some middle) :
    (value.write (.field name :: rest) new).get name = some (middle.write rest new) := by
  rw [get_write, if_pos rfl, here]
  rfl

variable {outer inner : String}

theorem get_of_read (reached : value.read [.field outer, .field inner] = some found) :
    ∃ middle, value.get outer = some middle ∧ middle.get inner = some found := by
  obtain ⟨middle, first, rest⟩ := bind_eq_some_iff.mp reached
  obtain ⟨leaf, second, last⟩ := bind_eq_some_iff.mp rest
  cases last
  exact ⟨middle, first, second⟩

theorem getStr_of_bind {tag : String} (tagged : (value.get outer).bind (·.getStr inner) = some tag)
    (here : value.get outer = some middle) : middle.getStr inner = some tag := by
  rw [here] at tagged
  exact tagged

theorem decodeNodeKind_write_message
    (tag : value.getStr "kind" = some "agent" ∨ value.getStr "kind" = some "peer_turn")
    (reached : value.read [.field "message", .field "message"] = some (.string text)) :
    Rebinds (kindLeaf text) .agentNodeMessage
      (decoders.decodeNodeKind (value.write [.field "message", .field "message"] (.string empty)))
      (decoders.decodeNodeKind value) := by
  obtain ⟨message, here, leaf⟩ := get_of_read reached
  have bound := decodePeerMessage_write decoders empty leaf
  rw [decodeNodeKind, decodeNodeKind, getStr_write_other (by decide : "kind" ≠ "message")]
  rcases tag with tag | tag
  all_goals
    simp only [tag, get_write_below here, here, bind_some]
    revert bound
    cases decoders.decodePeerMessage (message.write [.field "message"] (.string empty)) <;>
      cases decoders.decodePeerMessage message <;> simp [Rebinds, kindLeaf]

theorem fromValue_write_item {leafName : String} {path : ReplyPath}
    (kind : value.getStr "type" = some "item")
    (event : value.getStr "event" = some "started" ∨ value.getStr "event" = some "completed")
    {item : Value} (here : value.get "item" = some item)
    (bound : Rebinds (itemLeaf text) path
      (decoders.decodeItem (item.write [.field leafName] (.string empty)))
      (decoders.decodeItem item)) :
    Rebinds (withReplyLeaf text) path
      (decoders.fromValue (value.write [.field "item", .field leafName] (.string empty)))
      (decoders.fromValue value) := by
  unfold fromValue decodeItemEvent
  rw [getStr_write_other (by decide : "type" ≠ "item"),
    getStr_write_other (by decide : "event" ≠ "item"),
    getStr_write_other (by decide : "item_id" ≠ "item"), get_write_below here, here]
  rcases event with event | event
  all_goals
    simp only [kind, event, bind, bind_some, map_bind, Function.comp_def,
      map_some]
    refine .bind fun itemId => ?_
    refine bound.map _ fun _ => rfl

theorem fromValue_write_delta (kind : value.getStr "type" = some "item")
    (event : value.getStr "event" = some "delta")
    (tag : (value.get "delta").bind (·.getStr "delta") = some "text" ∨
      (value.get "delta").bind (·.getStr "delta") = some "reasoning")
    (reached : value.read [.field "delta", .field "text"] = some (.string text)) :
    Rebinds (withReplyLeaf text) .deltaText
      (decoders.fromValue (value.write [.field "delta", .field "text"] (.string empty)))
      (decoders.fromValue value) := by
  obtain ⟨delta, here, leaf⟩ := get_of_read reached
  rw [here] at tag
  unfold fromValue decodeItemEvent
  rw [getStr_write_other (by decide : "type" ≠ "delta"),
    getStr_write_other (by decide : "event" ≠ "delta"),
    getStr_write_other (by decide : "item_id" ≠ "delta"), get_write_below here, here]
  simp only [kind, event, bind, bind_some, map_bind, Function.comp_def,
    map_some]
  have bound := decodeDelta_write_text decoders empty tag leaf
  refine .bind fun itemId => bound.map _ fun content => ?_
  cases content <;> rfl

theorem fromValue_write_node {path : ReplyPath} (kind : value.getStr "type" = some "node_committed")
    {node : Value} (here : value.get "kind" = some node) (bound : Rebinds (kindLeaf text) path
      (decoders.decodeNodeKind (node.write rest (.string empty))) (decoders.decodeNodeKind node)) :
    Rebinds (withReplyLeaf text) path
      (decoders.fromValue (value.write (.field "kind" :: rest) (.string empty)))
      (decoders.fromValue value) := by
  unfold fromValue decodeTreeNode
  rw [getStr_write_other (by decide : "type" ≠ "kind"),
    getStr_write_other (by decide : "node" ≠ "kind"),
    optionalStr_write_other (by decide : "parent" ≠ "kind"), get_write_below here, here]
  simp only [kind, bind_some, map_bind, Function.comp_def, map_some, bind]
  refine .bind fun id => .bind fun parent => bound.map _ fun content => ?_
  cases content <;> rfl

theorem fromValue_write_peerMessage (kind : value.getStr "type" = some "peer.message")
    (leaf : value.get "message" = some (.string text)) :
    Rebinds (withReplyLeaf text) .peerMessage
      (decoders.fromValue (value.write [.field "message"] (.string empty)))
      (decoders.fromValue value) := by
  rw [fromValue, fromValue, getStr_write_other (by decide : "type" ≠ "message")]
  simp only [kind, Option.map_eq_bind]
  exact (decodePeerMessage_write decoders empty leaf).map _ fun _ => rfl

/-- The decoded skeleton with the text bound to its leaf is the event and names that leaf. -/
theorem fromValue_write {path : ReplyPath} (shape : replyPath value = some path)
    (reached : value.read (placeOf path.components) = some (.string text)) :
    Rebinds (withReplyLeaf text) path
      (decoders.fromValue (value.write (placeOf path.components) (.string empty)))
      (decoders.fromValue value) := by
  unfold replyPath at shape
  split at shape
  · next kind =>
    split at shape
    · next event =>
      split at shape
      · next tagged =>
        cases shape
        exact fromValue_write_delta decoders empty kind event (.inl tagged) reached
      · next tagged =>
        cases shape
        exact fromValue_write_delta decoders empty kind event (.inr tagged) reached
      · cases shape
    · split at shape
      · next event =>
        split at shape
        · next tagged =>
          cases shape
          obtain ⟨item, here, leaf⟩ := get_of_read reached
          exact fromValue_write_item decoders empty kind event here
            (decodeItem_write_text decoders empty (.inl (getStr_of_bind tagged here)) leaf)
        · next tagged =>
          cases shape
          obtain ⟨item, here, leaf⟩ := get_of_read reached
          exact fromValue_write_item decoders empty kind event here
            (decodeItem_write_text decoders empty (.inr (getStr_of_bind tagged here)) leaf)
        · next tagged =>
          cases shape
          obtain ⟨item, here, leaf⟩ := get_of_read reached
          exact fromValue_write_item decoders empty kind event here
            (decodeItem_write_summary decoders empty (getStr_of_bind tagged here) leaf)
        · cases shape
      · cases shape
  · split at shape
    · next kind =>
      cases shape
      obtain ⟨leaf, first, last⟩ := bind_eq_some_iff.mp reached
      cases last
      exact fromValue_write_peerMessage decoders empty kind first
    · split at shape
      · next kind =>
        split at shape
        · next tagged =>
          cases shape
          obtain ⟨node, here, leaf⟩ := get_of_read reached
          exact fromValue_write_node decoders empty kind here
            (decodeNodeKind_write_text decoders empty (getStr_of_bind tagged here) leaf)
        · next tagged =>
          cases shape
          obtain ⟨node, here, rest⟩ := bind_eq_some_iff.mp reached
          exact fromValue_write_node decoders empty kind here
            (decodeNodeKind_write_message decoders empty (.inl (getStr_of_bind tagged here)) rest)
        · next tagged =>
          cases shape
          obtain ⟨node, here, rest⟩ := bind_eq_some_iff.mp reached
          exact fromValue_write_node decoders empty kind here
            (decodeNodeKind_write_message decoders empty (.inr (getStr_of_bind tagged here)) rest)
        · cases shape
      · cases shape

end Decoding

/-! ## The round trip -/

/-- A `serde_json::Value`: its objects are maps. -/
structure JsonValue where
  tree : Value
  distinct : tree.Distinct

/-- Promotion returns, and every way back gives the value it was made from. -/
def RoundTrips {T : LeaflessTypes} (decoders : LeaflessDecoders T) (value : Value) : Prop :=
  ∃ payload, promoteValue value = some payload ∧ payload.toJsonValue = value ∧
    payload.serialize = value ∧ payload.decodeEvent decoders = decoders.fromValue value

/-- The provider's slot holds a text. -/
def HasSlotText (value : Value) : Prop :=
  ∃ slot text, providerOpaqueReplySlot value = some slot ∧
    value.read slot = some (.string text)

/-- The values that round-trip. -/
structure Promotable (value : Value) : Prop where
  /-- One of the markers does not occur. -/
  marker : ∃ nonce < 1024, countValueStringMarker (rawReplyMarker nonce) value = 0
  /-- The provider's slot, if there is one, holds a text or `null`. -/
  slot : ∀ slot found, providerOpaqueReplySlot value = some slot → value.read slot = some found →
    found = .null ∨ ∃ text, found = .string text
  /-- Where the leaf at the reply path is moved out, `NulHolds` beside the path. -/
  beside : ¬ HasSlotText value → ∀ path text, replyPath value = some path →
    value.read (placeOf path.components) = some (.string text) →
    NulHoldsBeside text path.components value

theorem providerReplyPlace_reads {provider : String} {data : Value}
    (placed : providerReplyPlace provider data = some place) :
    ∃ found, data.read place = some found := by
  have one {name : String} (mapped : ((data.get name).map fun _ => [Step.field name]) = some place) :
      ∃ found, data.read place = some found := by
    obtain ⟨found, here, rfl⟩ := map_eq_some_iff.mp mapped
    refine ⟨found, ?_⟩
    show (data.get name).bind _ = _
    rw [here]
    rfl
  unfold providerReplyPlace at placed
  split at placed
  · split at placed
    · exact one placed
    · split at placed
      · exact one placed
      · cases placed
  · split at placed
    · obtain ⟨found, here, rfl⟩ := map_eq_some_iff.mp placed
      obtain ⟨part, first, second⟩ := bind_eq_some_iff.mp here
      refine ⟨found, ?_⟩
      show (data.get "part").bind (fun part => (part.get "text").bind _) = _
      rw [first, bind_some, second]
      rfl
    · split at placed
      · obtain ⟨found, here, rfl⟩ := map_eq_some_iff.mp placed
        obtain ⟨first, summary, leaf⟩ := bind_eq_some_iff.mp here
        obtain ⟨values, outer, inner⟩ := bind_eq_some_iff.mp summary
        refine ⟨found, ?_⟩
        show (data.get "summary").bind (fun values => (values.step .first).bind
          fun first => (first.get "text").bind _) = _
        rw [outer, bind_some, inner, bind_some, leaf]
        rfl
      · cases placed

theorem providerOpaqueReplySlot_reads (slotted : providerOpaqueReplySlot value = some place) :
    ∃ found, value.read place = some found := by
  obtain ⟨item, here, slotted⟩ := bind_eq_some_iff.mp slotted
  split at slotted
  · cases slotted
  · obtain ⟨wrapper, inItem, slotted⟩ := bind_eq_some_iff.mp slotted
    obtain ⟨provider, _, slotted⟩ := bind_eq_some_iff.mp slotted
    obtain ⟨data, inWrapper, slotted⟩ := bind_eq_some_iff.mp slotted
    obtain ⟨inner, placed, slotted⟩ := bind_eq_some_iff.mp slotted
    cases slotted
    obtain ⟨found, reached⟩ := providerReplyPlace_reads placed
    refine ⟨found, ?_⟩
    show (value.get "item").bind (fun item => (item.get "data").bind fun wrapper =>
      (wrapper.get "data").bind fun data => data.read inner) = _
    rw [here, bind_some, inItem, bind_some, inWrapper, bind_some]
    exact reached

theorem uniqueRawReplyMarker_absent (chosen : uniqueRawReplyMarker value = some marker) :
    countValueStringMarker marker value = 0 := by
  have absent := find?_some chosen
  exact beq_iff_eq.mp absent

theorem uniqueRawReplyMarker_isSome :
    (uniqueRawReplyMarker value).isSome = true ↔
      ∃ nonce < 1024, countValueStringMarker (rawReplyMarker nonce) value = 0 := by
  rw [uniqueRawReplyMarker, find?_isSome]
  simp only [mem_map, mem_range, exists_exists_and_eq_and, beq_iff_eq]

theorem replyPath_ne_providerOpaque {path : ReplyPath} (shape : replyPath value = some path) :
    path ≠ .providerOpaque marker := by
  rintro rfl
  unfold replyPath at shape
  repeat' split at shape
  all_goals cases shape

section Leaf

variable {path : ReplyPath}

theorem ways_of_reply (shape : replyPath value = some path) (skeleton : Value) :
    let payload : RawPayload := .reply ⟨skeleton, text, path⟩
    payload.toJsonValue = skeleton.write (placeOf path.components) (.string text) ∧
      payload.serialize = patchedValue text path.components skeleton ∧
      ∀ {T : LeaflessTypes} (decoders : LeaflessDecoders T), payload.decodeEvent decoders =
        (decoders.fromValue skeleton).bind (rebindReplyLeaf path text) := by
  cases path with
  | providerOpaque marker => exact absurd rfl (replyPath_ne_providerOpaque shape)
  | _ => exact ⟨rfl, rfl, fun _ => rfl⟩

theorem promoteReplyLeaf_of_text (shape : replyPath value = some path)
    (reached : value.read (placeOf path.components) = some (.string text)) :
    promoteReplyLeaf value =
      .reply ⟨value.write (placeOf path.components) (.string ""), text, path⟩ := by
  simp only [promoteReplyLeaf, shape, reached]

theorem promoteReplyLeaf_cases (value : Value) :
    (∃ path text, replyPath value = some path ∧
      value.read (placeOf path.components) = some (.string text)) ∨
    promoteReplyLeaf value = .json value := by
  unfold promoteReplyLeaf
  split
  · exact .inr rfl
  · next path shape =>
    split
    · next text reached => exact .inl ⟨path, text, shape, reached⟩
    · exact .inr rfl

theorem toJsonValue_promoteReplyLeaf (value : Value) :
    (promoteReplyLeaf value).toJsonValue = value := by
  rcases promoteReplyLeaf_cases value with ⟨path, text, shape, reached⟩ | plain
  · rw [promoteReplyLeaf_of_text shape reached, (ways_of_reply shape _).1, Value.write_write]
    exact write_of_read reached
  · rw [plain]
    rfl

theorem decodeEvent_promoteReplyLeaf {T : LeaflessTypes} (decoders : LeaflessDecoders T)
    (value : Value) :
    (promoteReplyLeaf value).decodeEvent decoders = decoders.fromValue value := by
  rcases promoteReplyLeaf_cases value with ⟨path, text, shape, reached⟩ | plain
  · rw [promoteReplyLeaf_of_text shape reached, (ways_of_reply shape _).2.2]
    have bound : _ = _ := fromValue_write decoders "" shape reached
    have rebound : rebindReplyLeaf path text = fun payload : ReplyEvent T =>
        (payload.withReplyLeaf text).bind fun leaf =>
          if leaf.1 ≠ path then none else some leaf.2 := by
      funext payload
      rw [rebindReplyLeaf]
      cases payload.withReplyLeaf text <;> rfl
    rw [rebound, ← bind_assoc, bound]
    cases decoders.fromValue value with
    | none => rfl
    | some payload => simp
  · rw [plain]
    rfl

/-- The serializer restores the leaf at the reply path exactly if `NulHolds` beside the path. -/
theorem serialize_promoteReplyLeaf (distinct : value.Distinct) :
    (promoteReplyLeaf value).serialize = value ↔
      ∀ path text, replyPath value = some path →
        value.read (placeOf path.components) = some (.string text) →
        NulHoldsBeside text path.components value := by
  rcases promoteReplyLeaf_cases value with ⟨path, text, shape, reached⟩ | plain
  · rw [promoteReplyLeaf_of_text shape reached, (ways_of_reply shape _).2.1,
      patchedValue_write distinct reached]
    constructor
    · intro holds other otherText otherShape otherReached
      rw [shape, some_inj] at otherShape
      subst otherShape
      rw [reached, some_inj, Value.string.injEq] at otherReached
      subst otherReached
      exact holds
    · intro holds
      exact holds path text shape reached
  · rw [plain]
    refine iff_of_true rfl ?_
    intro path text shape reached
    rw [promoteReplyLeaf_of_text shape reached] at plain
    cases plain

end Leaf

theorem promoteValue_of_taken (chosen : uniqueRawReplyMarker value = some marker)
    (slotted : providerOpaqueReplySlot value = some place) (reached : value.read place = some found)
    (noText : ∀ text, found ≠ .string text) :
    promoteValue value = some (promoteReplyLeaf (value.write place .null)) := by
  simp only [promoteValue, chosen, slotted, reached]
  cases found with
  | string text => exact absurd rfl (noText text)
  | _ => rfl

/-- Where nothing is lost at the slot, promotion is that of the reply path. -/
theorem promoteValue_of_no_slotText (chosen : uniqueRawReplyMarker value = some marker)
    (noText : ¬ HasSlotText value) (kept : ∀ slot found, providerOpaqueReplySlot value = some slot →
      value.read slot = some found → found = .null ∨ ∃ text, found = .string text) :
    promoteValue value = some (promoteReplyLeaf value) := by
  cases slotted : providerOpaqueReplySlot value with
  | none =>
    simp only [promoteValue, chosen, slotted]
    rfl
  | some slot =>
    obtain ⟨found, reached⟩ := providerOpaqueReplySlot_reads slotted
    rcases kept slot found slotted reached with rfl | ⟨text, rfl⟩
    · rw [promoteValue_of_taken chosen slotted reached nofun,
        write_of_read reached]
    · exact absurd ⟨slot, text, slotted, reached⟩ noText

/-- A value with a text in the provider's slot and without the marker round-trips. -/
theorem roundTrips_of_slotText {T : LeaflessTypes} (decoders : LeaflessDecoders T)
    (chosen : uniqueRawReplyMarker value = some marker)
    (slotted : providerOpaqueReplySlot value = some place)
    (reached : value.read place = some (.string text)) : RoundTrips decoders value := by
  have absent := uniqueRawReplyMarker_absent chosen
  have restored : RawPayload.toJsonValue
      (.reply ⟨value.write place (.string marker), text, .providerOpaque marker⟩) = value := by
    simp only [RawPayload.toJsonValue]
    rw [(restores_write absent reached).1]
    exact write_of_read reached
  refine ⟨_, ?_, restored, ?_, ?_⟩
  · simp only [promoteValue, chosen, slotted, reached]
    rfl
  · simp only [RawPayload.serialize]
    rw [(restores_write absent reached).2]
    exact write_of_read reached
  · simp only [RawPayload.decodeEvent]
    rw [restored]

/-- What the round trip of a value needs. -/
theorem RoundTrips.promotable {T : LeaflessTypes} {decoders : LeaflessDecoders T}
    (distinct : value.Distinct) (trips : RoundTrips decoders value) : Promotable value := by
  obtain ⟨payload, promoted, json, serialized, _⟩ := trips
  cases chosen : uniqueRawReplyMarker value with
  | none =>
    rw [promoteValue, chosen] at promoted
    cases promoted
  | some marker =>
    have kept : ∀ slot found, providerOpaqueReplySlot value = some slot →
        value.read slot = some found → found = .null ∨ ∃ text, found = .string text := by
      intro slot found slotted reached
      by_contra lost
      rw [not_or, not_exists] at lost
      rw [promoteValue_of_taken chosen slotted reached lost.2, some_inj] at promoted
      rw [← promoted, toJsonValue_promoteReplyLeaf] at json
      exact Value.write_ne reached (Ne.symm lost.1) json
    refine ⟨uniqueRawReplyMarker_isSome.mp (Option.isSome_of_eq_some chosen), kept, ?_⟩
    intro noText
    rw [promoteValue_of_no_slotText chosen noText kept, some_inj] at promoted
    rw [← promoted] at serialized
    exact (serialize_promoteReplyLeaf distinct).mp serialized

/-- A JSON value round-trips through `RawPayload` exactly if one of the markers does not occur in
it, its provider slot holds a text or `null`, and no name `"\0"` beside a used reply path holds
anything but the text. -/
theorem raw_payload_round_trips_iff {T : LeaflessTypes} (decoders : LeaflessDecoders T)
    (value : JsonValue) : RoundTrips decoders value.tree ↔ Promotable value.tree := by
  constructor
  · exact RoundTrips.promotable value.distinct
  · rintro ⟨markerFree, kept, beside⟩
    obtain ⟨marker, chosen⟩ :=
      Option.isSome_iff_exists.mp (uniqueRawReplyMarker_isSome.mpr markerFree)
    by_cases slotText : HasSlotText value.tree
    · obtain ⟨slot, text, slotted, reached⟩ := slotText
      exact roundTrips_of_slotText decoders chosen slotted reached
    · exact ⟨_, promoteValue_of_no_slotText chosen slotText kept,
        toJsonValue_promoteReplyLeaf value.tree,
        (serialize_promoteReplyLeaf value.distinct).mpr (beside slotText),
        decodeEvent_promoteReplyLeaf decoders value.tree⟩

/-- A Gemini continuation whose text is a number. -/
def numericSlot : JsonValue where
  tree := .object [("item", .object [("data", .object [("data", .object [("part",
      .object [("text", .number (.posInt 5))])]), ("provider", .string "gemini")]),
    ("item", .string "extension"), ("kind", .string "provider_opaque")])]
  distinct := by simp [Value.Distinct, Value.DistinctFields]

/-- A peer message with a name `"\0"` in a field beside the reply path. -/
def nulBeside : JsonValue where
  tree := .object [("extra", .object [("\x00", .bool true)]), ("message", .string "hi"),
    ("type", .string "peer.message")]
  distinct := by simp [Value.Distinct, Value.DistinctFields]

/-- Decoders that read nothing, enough for a leaf with a reply text. -/
def noDecoders : LeaflessDecoders ⟨Empty, Empty, Empty, Empty, Empty, Empty, Empty⟩ :=
  ⟨fun _ => none, fun _ => none, fun _ => none, fun _ => none, fun _ => none, fun _ => none,
    fun _ => none, fun _ => none⟩

/-- An array that uses up the first markers. -/
def markers (count : Nat) : Value :=
  .array ((range count).map fun nonce => .string (rawReplyMarker nonce))

theorem marker_occurs {count nonce : Nat} (bound : nonce < count) :
    countValueStringMarker (rawReplyMarker nonce) (markers count) ≠ 0 := by
  have counted (values : List Value) (marker : String) (mem : .string marker ∈ values) :
      countInValues marker values ≠ 0 := by
    intro zero
    induction mem with
    | head => simp [countInValues, countValueStringMarker] at zero
    | tail _ _ ih => exact ih (Nat.add_eq_zero_iff.mp zero).2
  exact counted _ _ (mem_map.mpr ⟨nonce, mem_range.mpr bound, rfl⟩)

/-- The number in the provider's slot is replaced by `null`, the entry beside the reply path by
the message, and the array of every marker makes promotion panic. -/
theorem raw_payloads_changed :
    ¬ RoundTrips noDecoders numericSlot.tree ∧ ¬ RoundTrips noDecoders nulBeside.tree ∧
    ¬ RoundTrips noDecoders (markers 1024) := by
  refine ⟨?_, ?_, ?_⟩
  · intro trips
    have promotable := trips.promotable numericSlot.distinct
    rcases promotable.slot [.field "item", .field "data", .field "data", .field "part",
      .field "text"] (.number (.posInt 5)) rfl rfl with same | ⟨_, same⟩ <;> cases same
  · intro trips
    have promotable := trips.promotable nulBeside.distinct
    have noSlot : ¬ HasSlotText nulBeside.tree := by
      rintro ⟨slot, text, slotted, _⟩
      cases slotted
    have holds := promotable.beside noSlot .peerMessage "hi" rfl rfl ("extra", _)
      mem_cons_self
    simp [NulHolds, NulHoldsFields] at holds
  · rintro ⟨payload, promoted, _⟩
    have panics : uniqueRawReplyMarker (markers 1024) = none := by
      rw [← Option.not_isSome_iff_eq_none, uniqueRawReplyMarker_isSome]
      rintro ⟨nonce, bound, absent⟩
      exact marker_occurs bound absent
    rw [promoteValue, panics] at promoted
    cases promoted

end HaiderAgent.Raw
