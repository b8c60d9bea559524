import Reroute.Parsing.Character
import Reroute.Parsing.Repetition

/-!
# Fixed texts, numbers, words and delimited texts

The smallest units of a language that are longer than a character.

## Main definitions

* `string` — a fixed text
* `number`, `word` — numbers and words
* `delimited`, `stringLiteral` — text between two delimiters
* `spaces` — white space
-/

set_option autoImplicit false

namespace Reroute.Parsing

open Parsing.Parser

/-- Read `chars`, the part of `literal` that is still to come. -/
def stringFrom (literal : String) : List Char → Cursor → Step String
  | [], c => .success literal c
  | x :: chars, c =>
    match c.next? with
    | none => .failure c.offset ⟨.unexpectedEnd, c.offset⟩
    | some (y, next) =>
      if y = x then stringFrom literal chars next
      else .failure c.offset ⟨.unexpectedChar y (some literal), c.offset⟩

/-- Exactly the text `literal`. It fails at the first character that differs. -/
def string (literal : String) : Parser String :=
  ⟨fun c => stringFrom literal literal.toList c⟩

/-- Decimal digits as a number of 64 bits. Leading zeros are allowed; a number
beyond the largest is an error where it begins. -/
def number : Parser Int64 :=
  ⟨fun c =>
    match (many1 digit).run c with
    | .success digits next =>
      if Nat.ofDigitChars 10 digits 0 ≤ Int64.maxValue.toInt then
        .success (Int64.ofNat (Nat.ofDigitChars 10 digits 0)) next
      else
        .failure c.offset ⟨.numberOutOfRange, c.offset⟩
    | .failure stop error => .failure stop error⟩

/-- A letter followed by letters and digits. -/
def word : Parser String :=
  atomic do
    let first ← letter
    let rest ← many alphaNum
    return String.ofList (first :: rest)

/-- The text up to the first `closing` that has no backslash just before it,
verbatim. Never fails. -/
def scanTo (closing : Char) : Parser String :=
  (many (satisfy (fun x previous => x ≠ closing || previous = some '\\') none)).map String.ofList

/-- The text between `opening` and the first later `closing` that has no backslash
just before it. Backslashes are kept. -/
def delimited (opening closing : Char) : Parser String :=
  between (char opening) (scanTo closing) (char closing)

/-- Text between double quotes. -/
def stringLiteral : Parser String :=
  delimited '"' '"'

/-- Any amount of white space. Never fails. -/
def spaces : Parser String :=
  (many whitespace).map String.ofList

end Reroute.Parsing
