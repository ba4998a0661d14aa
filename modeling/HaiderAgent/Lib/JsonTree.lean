import Mathlib.Data.List.Basic

/-!
# JSON trees and places in them

JSON values as trees, the places a mutable reference into one can point at, and reading
and writing there. What is written is read back, a value written where it was read changes
nothing, and a write is seen by no other field.
-/

namespace JsonTree

open List

/-- A JSON number: a natural, the absolute value of a negative, or any other text. -/
inductive Number where
  | posInt (n : Nat)
  | negInt (n : Nat)
  | float (text : String)
  deriving DecidableEq, Repr

/-- A JSON tree; an object keeps its fields in order. -/
inductive Value where
  | null
  | bool (b : Bool)
  | number (n : Number)
  | string (text : String)
  | array (values : List Value)
  | object (fields : List (String × Value))
  deriving Repr

/-- One step down a tree. -/
inductive Step where
  /-- The field of a name. -/
  | field (name : String)
  /-- The first element of an array. -/
  | first
  deriving DecidableEq, Repr

/-- A path from the root. -/
abbrev Place := List Step

namespace Value

/-- The field of an object. -/
def get (name : String) : Value → Option Value
  | .object fields => fields.lookup name
  | _ => none

/-- The text of a string. -/
def asStr : Value → Option String
  | .string text => some text
  | _ => none

/-- The text of a string field. -/
def getStr (name : String) (value : Value) : Option String := (value.get name).bind asStr

/-- A change to the first field of a name. -/
def onField (name : String) (change : Value → Value) :
    List (String × Value) → List (String × Value)
  | [] => []
  | (key, value) :: fields =>
    if key = name then (key, change value) :: fields
    else (key, value) :: onField name change fields

/-- The value one step down. -/
def step : Step → Value → Option Value
  | .field name, value => value.get name
  | .first, .array (value :: _) => some value
  | .first, _ => none

/-- A change one step down. -/
def onStep (change : Value → Value) : Step → Value → Value
  | .field name, .object fields => .object (onField name change fields)
  | .first, .array (value :: values) => .array (change value :: values)
  | _, value => value

/-- The value at a place. -/
def read : Place → Value → Option Value
  | [], value => some value
  | step :: place, value => (value.step step).bind (read place)

/-- Another value at a place, if the place exists. -/
def write : Place → Value → Value → Value
  | [], _, new => new
  | step :: place, value, new => onStep (fun below => write place below new) step value

mutual

/-- No object has a name twice. -/
def Distinct : Value → Prop
  | .array values => DistinctAll values
  | .object fields => (fields.map (·.1)).Nodup ∧ DistinctFields fields
  | _ => True

/-- The elements of an array. -/
def DistinctAll : List Value → Prop
  | [] => True
  | value :: values => Distinct value ∧ DistinctAll values

/-- The fields of an object. -/
def DistinctFields : List (String × Value) → Prop
  | [] => True
  | (_, value) :: fields => Distinct value ∧ DistinctFields fields

end

/-! ## Reading and writing -/

variable {value new found : Value} {place : Place} {name other : String}
  {fields : List (String × Value)} {change : Value → Value}

theorem lookup_onField :
    (onField name change fields).lookup other =
      if other = name then (fields.lookup name).map change else fields.lookup other := by
  induction fields with
  | nil => simp [onField]
  | cons field fields ih =>
    obtain ⟨key, value⟩ := field
    by_cases own : key = name
    · subst own
      by_cases same : other = key
      · simp [onField, same]
      · simp [onField, same, lookup_cons, beq_false_of_ne same]
    · rw [onField, if_neg own, lookup_cons, ih, lookup_cons, lookup_cons,
        beq_false_of_ne (Ne.symm own)]
      by_cases same : other = name
      · subst same
        simp [beq_false_of_ne (Ne.symm own)]
      · simp [same]

theorem get_onStep_field :
    (onStep change (.field name) value).get other =
      if other = name then (value.get name).map change else value.get other := by
  cases value with
  | object fields => exact lookup_onField
  | null | bool | number | string | array => simp [onStep, get]

theorem get_write :
    (value.write (.field name :: place) new).get other =
      if other = name then (value.get name).map (·.write place new) else value.get other :=
  get_onStep_field

theorem get_write_other (differs : other ≠ name) :
    (value.write (.field name :: place) new).get other = value.get other := by
  rw [get_write, if_neg differs]

theorem getStr_write_other (differs : other ≠ name) :
    (value.write (.field name :: place) new).getStr other = value.getStr other := by
  rw [getStr, getStr, get_write_other differs]

theorem onField_of_lookup (found : fields.lookup name = some value) (same : change value = value) :
    onField name change fields = fields := by
  induction fields with
  | nil => rfl
  | cons field fields ih =>
    obtain ⟨key, first⟩ := field
    by_cases own : key = name
    · subst own
      simp only [lookup_cons, beq_self_eq_true, Option.some_inj] at found
      rw [onField, if_pos rfl, found, same]
    · simp only [lookup_cons, beq_false_of_ne (Ne.symm own)] at found
      rw [onField, if_neg own, ih found]

theorem onStep_of_step {step : Step} (reached : value.step step = some found)
    (same : change found = found) : onStep change step value = value := by
  cases step with
  | field name =>
    cases value with
    | object fields => exact congrArg Value.object (onField_of_lookup reached same)
    | null | bool | number | string | array => rfl
  | first =>
    cases value with
    | array values =>
      cases values with
      | nil => rfl
      | cons first values =>
        cases reached
        rw [onStep, same]
    | null | bool | number | string | object => rfl

theorem write_of_read (reached : value.read place = some found) :
    value.write place found = value := by
  induction place generalizing value with
  | nil =>
    cases reached
    rfl
  | cons step place ih =>
    obtain ⟨below, first, rest⟩ := Option.bind_eq_some_iff.mp reached
    exact onStep_of_step first (ih rest)

theorem step_onStep (step : Step) :
    (onStep change step value).step step = (value.step step).map change := by
  cases step with
  | field name =>
    show (onStep change (.field name) value).get name = _
    rw [get_onStep_field, if_pos rfl]
    rfl
  | first =>
    cases value with
    | array values => cases values <;> rfl
    | null | bool | number | string | object => rfl

theorem read_write (reached : value.read place = some found) :
    (value.write place new).read place = some new := by
  induction place generalizing value with
  | nil => rfl
  | cons step place ih =>
    obtain ⟨below, first, rest⟩ := Option.bind_eq_some_iff.mp reached
    rw [write, read, step_onStep, first]
    exact ih rest

variable {later : Value → Value}

theorem onField_onField :
    onField name later (onField name change fields) = onField name (later ∘ change) fields := by
  induction fields with
  | nil => rfl
  | cons field fields ih =>
    obtain ⟨key, value⟩ := field
    by_cases own : key = name
    · simp [onField, own]
    · simp [onField, own, ih]

theorem onStep_onStep (step : Step) :
    onStep later step (onStep change step value) = onStep (later ∘ change) step value := by
  cases step with
  | field name =>
    cases value with
    | object fields => exact congrArg Value.object onField_onField
    | null | bool | number | string | array => rfl
  | first =>
    cases value with
    | array values => cases values <;> rfl
    | null | bool | number | string | object => rfl

theorem write_write (first second : Value) :
    (value.write place first).write place second = value.write place second := by
  induction place generalizing value with
  | nil => rfl
  | cons step place ih =>
    have below : (fun below => write place below second) ∘ (fun below => write place below first) =
        fun below => write place below second := funext fun _ => ih
    rw [write, write, onStep_onStep, below, write]

theorem write_ne (reached : value.read place = some found) (differs : new ≠ found) :
    value.write place new ≠ value := by
  intro same
  have back : (value.write place new).read place = some new := read_write reached
  rw [same, reached, Option.some_inj] at back
  exact differs back.symm

end Value

end JsonTree
