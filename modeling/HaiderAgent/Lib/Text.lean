import Mathlib.Data.List.Basic

/-!
# Text scanning on characters

The `str` methods a hand-written line parser uses, on lists of Unicode scalar values.
-/

namespace HaiderAgent.Text

/-- `char::is_whitespace`: the Unicode `White_Space` property. -/
def isWhitespace (c : Char) : Bool :=
  let n := c.toNat
  (0x9 ≤ n && n ≤ 0xD) || n == 0x20 || n == 0x85 || n == 0xA0 || n == 0x1680 ||
    (0x2000 ≤ n && n ≤ 0x200A) || n == 0x2028 || n == 0x2029 || n == 0x202F || n == 0x205F ||
    n == 0x3000

/-- `str::trim`. -/
def trim (text : List Char) : List Char :=
  ((text.dropWhile isWhitespace).reverse.dropWhile isWhitespace).reverse

/-- The pieces of a text between the characters that separate it. -/
def splitWhere (separates : Char → Bool) : List Char → List (List Char)
  | [] => [[]]
  | c :: rest =>
    if separates c then [] :: splitWhere separates rest
    else
      match splitWhere separates rest with
      | [] => [[c]]
      | piece :: pieces => (c :: piece) :: pieces

/-- `str::split` at a character. -/
def split (separator : Char) (text : List Char) : List (List Char) :=
  splitWhere (· == separator) text

/-- `str::split_whitespace`. -/
def splitWhitespace (text : List Char) : List (List Char) :=
  (splitWhere isWhitespace text).filter fun piece => !piece.isEmpty

/-- `str::split_once`. -/
def splitOnce (pattern : List Char) : List Char → Option (List Char × List Char)
  | [] => if pattern.isEmpty then some ([], []) else none
  | c :: rest =>
    if pattern.isPrefixOf (c :: rest) then some ([], (c :: rest).drop pattern.length)
    else (splitOnce pattern rest).map fun (before, after) => (c :: before, after)

/-- `str::strip_prefix`. -/
def stripLead (lead text : List Char) : Option (List Char) :=
  if lead.isPrefixOf text then some (text.drop lead.length) else none

/-- One carriage return at the end of a line goes with its line feed. -/
def stripCarriageReturn (line : List Char) : List Char :=
  if line.getLast? = some '\r' then line.dropLast else line

/-- `str::lines`: the text after the last line feed is a line only when it is not empty, and keeps
a carriage return at its end. -/
def lines (text : List Char) : List (List Char) :=
  let pieces := split '\n' text
  pieces.dropLast.map stripCarriageReturn ++ (pieces.getLast?.toList.filter fun last => !last.isEmpty)

/-- `u8::is_ascii_alphanumeric` or one of `_` and `-`. -/
def isIdentChar (c : Char) : Bool := c.isAlphanum || c == '_' || c == '-'

/-- `str::parse` of digits into a number. -/
def decimal (digits : List Char) : Nat :=
  digits.foldl (fun value digit => value * 10 + (digit.toNat - '0'.toNat)) 0

theorem splitWhere_ne_nil (separates : Char → Bool) (text : List Char) :
    splitWhere separates text ≠ [] := by
  cases text with
  | nil => simp [splitWhere]
  | cons c rest =>
    unfold splitWhere
    split
    · simp
    · split <;> simp

theorem eq_empty_of_intercalate_eq_empty {separator : String} {pieces : List String}
    (empty : separator.intercalate pieces = "") : ∀ piece ∈ pieces, piece = "" := by
  induction pieces with
  | nil => simp
  | cons piece rest ih =>
    by_cases last : rest = []
    · subst last
      simpa using empty
    · rw [String.intercalate_cons_of_ne_nil last, String.append_eq_empty_iff,
        String.append_eq_empty_iff] at empty
      exact List.forall_mem_cons.mpr ⟨empty.1.1, ih empty.2⟩

end HaiderAgent.Text
