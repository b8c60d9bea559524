import Reroute.Regex.Syntax.Flags

/-!
# Counts of repetitions

The bounds of a counted repetition are one or two numbers in braces.

## Main definitions

* `readBounds` — the least and the greatest count
-/

set_option autoImplicit false

namespace Reroute.Regex

/-- The decimal digits at the beginning of a text, and what follows. Under `x`
blanks and comments between them do not count. -/
def readDigits (flags : Flags) (comment : Bool) : List Char → List Char × List Char
  | [] => ([], [])
  | x :: rest =>
    if comment then readDigits flags (x != '\n') rest
    else if x.isDigit then
      let (digits, rest) := readDigits flags false rest
      (x :: digits, rest)
    else if flags.extended && isBlank x then readDigits flags false rest
    else if flags.extended && x = '#' then readDigits flags true rest
    else ([], x :: rest)

/-- A count of a repetition, which is a number of 32 bits. White space around it
is allowed. -/
def readCount (flags : Flags) (text : List Char) : Except Error (Nat × List Char) :=
  let (digits, rest) := readDigits flags false (text.dropWhile isBlank)
  let value := Nat.ofDigitChars 10 digits 0
  if digits.isEmpty || UInt32.size ≤ value then .error .badCount
  else .ok (value, flags.skip (rest.dropWhile isBlank))

/-- The least and the greatest count of a repetition, behind the opening brace. -/
def readBounds (flags : Flags) (text : List Char) :
    Except Error (Nat × Option Nat × List Char) := do
  let (least, rest) ← readCount flags (flags.skip text)
  let (most, rest) ←
    match rest with
    | ',' :: rest =>
      match flags.skip rest with
      | '\x7d' :: rest => pure (none, '\x7d' :: rest)
      | rest => do
        let (most, rest) ← readCount flags rest
        pure (some most, rest)
    | rest => pure (some least, rest)
  match rest with
  | '\x7d' :: rest => return (least, most, flags.skip rest)
  | _ => throw .badCount

end Reroute.Regex
