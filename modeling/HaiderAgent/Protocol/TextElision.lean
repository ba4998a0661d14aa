import Mathlib.Algebra.Order.Ring.Nat
import Mathlib.Logic.Function.Iterate

/-!
# Text elision markers

`elide_text_head_tail` and the rounds of `account_text_elision` as it calls them
(`haider-protocol/src/context.rs`), on texts as lists of characters. Of the savings the fields are
kept that differ between the rounds; the scope is given as the JSON string the marker holds.
-/

namespace HaiderAgent.TextElision

open List

/-- A Rust `str`, as its characters. -/
abbrev Text := List Char

variable (text : Text)

/-- `str::len`, in bytes. -/
def len : Nat := (text.map Char.utf8Size).sum

/-- `utf8_prefix`: the longest start of at most so many bytes. -/
def utf8Prefix : Text → Nat → Text
  | [], _ => []
  | c :: text, maxBytes =>
    if c.utf8Size ≤ maxBytes then c :: utf8Prefix text (maxBytes - c.utf8Size) else []

/-- The text from `utf8_suffix_start` on. -/
def utf8Suffix (maxBytes : Nat) : Text := (utf8Prefix text.reverse maxBytes).reverse

/-- `provider_request_text_projection_bytes`: the length of the text as a JSON string. -/
def projectionBytes : Nat :=
  2 + (text.map fun c =>
    if c ∈ ['"', '\\', '\n', '\r', '\t', '\x08', '\x0c'] then 2
    else if c < ' ' then 6 else c.utf8Size).sum

/-- What the marker prints. -/
structure Counts where
  omittedBytes : Nat
  retainedHeadBytes : Option Nat
  retainedTailBytes : Option Nat
  deriving DecidableEq

/-- What an elision saved, with the counts its marker shows. -/
structure OutputSavings where
  outputBytes : Nat
  counts : Counts
  deriving DecidableEq

/-- `text_elision_marker`, for a scope already rendered as JSON. -/
def textElisionMarker (scope : Text) (counts : Counts) : Text :=
  let number (count : Option Nat) : Text := (count.map (Nat.toDigits 10)).getD "null".toList
  "\n\x7b\"haider_elision_v1\":\x7b\"omitted_bytes\":".toList ++ number (some counts.omittedBytes) ++
    ",\"omitted_bytes_exact\":true,\"omitted_item_unit\":null,".toList ++
    "\"omitted_items_at_least\":null,\"retained_head_bytes\":".toList ++
    number counts.retainedHeadBytes ++ ",\"retained_tail_bytes\":".toList ++
    number counts.retainedTailBytes ++ ",\"scope\":".toList ++ scope ++ "\x7d\x7d\n".toList

variable (input : Text) (maxBytes : Nat) (scope : Text)

/-- The head and the tail that are kept beside a marker of a length. -/
def retained (markerLen : Nat) : Text × Text :=
  let budget := min (maxBytes - markerLen) (len input)
  let head := utf8Prefix input (budget / 4)
  let tail := utf8Suffix input (budget - len head)
  (head, if head.length + tail.length ≤ input.length then tail else input.drop head.length)

/-- The counts of the text made with the marker of given counts. -/
def recount (counts : Counts) : Counts :=
  let (head, tail) := retained input maxBytes (len (textElisionMarker scope counts))
  ⟨len input - (len head + len tail), some (len head), some (len tail)⟩

/-- The text made with the marker of given counts. -/
def elided (counts : Counts) : Text :=
  let marker := textElisionMarker scope counts
  let (head, tail) := retained input maxBytes (len marker)
  head ++ marker ++ tail

/-- The loop of `account_text_elision`: rounds until the savings are stable. -/
def settle : Nat → OutputSavings → OutputSavings
  | 0, savings => savings
  | rounds + 1, savings =>
    let next : OutputSavings := ⟨projectionBytes (elided input maxBytes scope savings.counts),
      recount input maxBytes scope savings.counts⟩
    if next = savings then next else settle rounds next

/-- The decimal width of a number. -/
def digits (n : Nat) : Nat := (Nat.toDigits 10 n).length

end HaiderAgent.TextElision
