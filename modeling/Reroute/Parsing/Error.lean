/-!
# Parse errors

A parse error is a cause and the byte offset at which it arose. Its message is a
single line; its diagnostic shows the first line of the text with a caret below.

## Main definitions

* `ParseError.Cause` — what went wrong
* `ParseError.message` — the cause in words
* `ParseError.render` — the two-line diagnostic against a text
-/

set_option autoImplicit false

namespace Reroute.Parsing

/-- What can go wrong while reading a text. -/
inductive ParseError.Cause where
  /-- The text ended where a character was needed. -/
  | unexpectedEnd
  /-- A parser stopped before the end of a text that it had to read whole. -/
  | leftover
  /-- A character is not the one that was needed. -/
  | unexpectedChar (found : Char) (expected : Option String)
  /-- No alternative matched. -/
  | noChoice
  /-- A repetition that needs one match found none. -/
  | expectedAtLeastOne
  /-- A number does not fit into 64 bits. -/
  | numberOutOfRange
  /-- A failure that a user of the library words for itself. -/
  | custom (text : String)
deriving DecidableEq, Repr

/-- A parse error: its cause, and the byte offset where it arose. -/
structure ParseError where
  cause : ParseError.Cause
  position : Nat
deriving DecidableEq, Repr

namespace ParseError

/-- The error in words. -/
def message (e : ParseError) : String :=
  match e.cause with
  | .unexpectedEnd => "Unexpected end of input"
  | .leftover => "Unexpected end of parser after " ++ toString e.position ++ " characters"
  | .unexpectedChar found none =>
    "Unexpected character '" ++ found.toString ++ "' at position " ++ toString e.position
  | .unexpectedChar found (some expected) =>
    "Unexpected character '" ++ found.toString ++ "', expected '" ++ expected ++
      "' at position " ++ toString e.position
  | .noChoice => "No choice matched"
  | .expectedAtLeastOne =>
    "Unexpected input, expected at least one match at position " ++ toString e.position
  | .numberOutOfRange => "Number out of range at position " ++ toString e.position
  | .custom text => text

/-- The number of characters of `text` that end within its first `bytes` bytes,
when a character ends exactly there. -/
def charsBefore? : List Char → Nat → Option Nat
  | _, 0 => some 0
  | [], _ + 1 => none
  | x :: rest, bytes + 1 =>
    if x.utf8Size ≤ bytes + 1 then
      (charsBefore? rest (bytes + 1 - x.utf8Size)).map (· + 1)
    else
      none

/-- The column of the caret: characters, or bytes where the position is not the
boundary of a character. -/
def column (e : ParseError) (text : String) : Nat :=
  (charsBefore? text.toList e.position).getD e.position

/-- The first line of `text`, and below it a caret at the error with its message. -/
def render (e : ParseError) (text : String) : String :=
  String.ofList (text.toList.takeWhile (· != '\n')) ++ "\n" ++
    String.ofList (List.replicate (e.column text) ' ') ++ "^--- ParseError: " ++ e.message

end ParseError

end Reroute.Parsing
