import Reroute.Regex.Escape
import Reroute.Regex.Syntax.Flags
import Reroute.Text.Hexadecimal

/-!
# Backslashes

What stands behind a backslash is a character without its meaning, a character given
by its number or by a letter, a set of characters, or a condition on the place.

## Main definitions

* `readEscape` — read what stands behind a backslash
-/

set_option autoImplicit false

namespace Reroute.Regex

open Text (hexValue?)

/-! ### Characters given by number -/

/-- The character with the given number. -/
def charOfNat? (n : Nat) : Option Char :=
  if n < 0xd800 ∨ (0xdfff < n ∧ n < 0x110000) then some (Char.ofNat n) else none

/-- Exactly `count` hexadecimal digits, and blanks behind each where allowed. -/
def readHexDigits (flags : Flags) :
    (count value : Nat) → List Char → Except Error (Nat × List Char)
  | 0, value, text => .ok (value, text)
  | _ + 1, _, [] => .error .badEscape
  | count + 1, value, x :: rest =>
    match hexValue? x with
    | some d => readHexDigits flags count (16 * value + d) (flags.skip rest)
    | none => .error .badEscape

/-- Hexadecimal digits up to a closing brace; at least one is needed. -/
def readHexBraced (flags : Flags) (comment : Bool) (value : Option Nat) :
    List Char → Except Error (Nat × List Char)
  | [] => .error .badEscape
  | x :: rest =>
    if comment then readHexBraced flags (x != '\n') value rest
    else if x = '\x7d' then
      match value with
      | some value => .ok (value, flags.skip rest)
      | none => .error .badEscape
    else if flags.extended && isBlank x then readHexBraced flags false value rest
    else if flags.extended && x = '#' then readHexBraced flags true value rest
    else
      match hexValue? x with
      | some d => readHexBraced flags false (some (16 * value.getD 0 + d)) rest
      | none => .error .badEscape

/-- A character given by its number, behind the letter that announces `count`
digits or digits in braces. -/
def readHex (flags : Flags) (count : Nat) (text : List Char) :
    Except Error (Node × List Char) := do
  let (value, rest) ←
    match flags.skip text with
    | '\x7b' :: rest => readHexBraced flags false none rest
    | text => readHexDigits flags count 0 text
  match charOfNat? value with
  | some x => return (flags.literal x, rest)
  | none => throw .badEscape

/-! ### Escapes -/

/-- Letters and hyphens up to a closing brace. -/
def readBoundaryName (flags : Flags) (comment : Bool) :
    List Char → Except Error (List Char × List Char)
  | [] => .error .badEscape
  | x :: rest =>
    if comment then readBoundaryName flags (x != '\n') rest
    else if x = '\x7d' then .ok ([], rest)
    else if flags.extended && isBlank x then readBoundaryName flags false rest
    else if flags.extended && x = '#' then readBoundaryName flags true rest
    else if x.isAlpha || x = '-' then do
      let (name, rest) ← readBoundaryName flags false rest
      return (x :: name, rest)
    else .error .badEscape

/-- A word boundary, which may be followed by its kind in braces. A brace that is
not followed by a letter or hyphen begins a repetition. -/
def readWordBoundary (flags : Flags) (text : List Char) : Except Error (Node × List Char) :=
  match text with
  | '\x7b' :: rest =>
    match flags.skip rest with
    | [] => .error .badEscape
    | x :: rest =>
      if x.isAlpha || x = '-' then do
        let (name, rest) ← readBoundaryName flags false (x :: rest)
        match String.ofList name with
        | "start" => return (.look .wordStart, rest)
        | "end" => return (.look .wordEnd, rest)
        | "start-half" => return (.look .wordStartHalf, rest)
        | "end-half" => return (.look .wordEndHalf, rest)
        | _ => throw .badEscape
      else
        .ok (.look .wordBoundary, text)
  | _ => .ok (.look .wordBoundary, text)

/-- What stands behind a backslash. -/
def readEscape (flags : Flags) (text : List Char) : Except Error (Node × List Char) :=
  match text with
  | [] => .error .badEscape
  | x :: rest =>
    if x.isDigit || x = 'p' || x = 'P' then .error .unsupported
    else if isEscapable x then .ok (flags.literal x, rest)
    else
      match x with
      | 'x' => readHex flags 2 rest
      | 'u' => readHex flags 4 rest
      | 'U' => readHex flags 8 rest
      | 'd' => .ok (.set .digits, rest)
      | 'D' => .ok (.set CharSet.digits.compl, rest)
      | 's' => .ok (.set .blanks, rest)
      | 'S' => .ok (.set CharSet.blanks.compl, rest)
      | 'w' => .ok (.set .wordChars, rest)
      | 'W' => .ok (.set CharSet.wordChars.compl, rest)
      | 'a' => .ok (.char '\x07', rest)
      | 'f' => .ok (.char '\x0c', rest)
      | 't' => .ok (.char '\t', rest)
      | 'n' => .ok (.char '\n', rest)
      | 'r' => .ok (.char '\r', rest)
      | 'v' => .ok (.char '\x0b', rest)
      | 'A' => .ok (.look .start, rest)
      | 'z' => .ok (.look .end, rest)
      | 'b' => readWordBoundary flags rest
      | 'B' => .ok (.look .noWordBoundary, rest)
      | '<' => .ok (.look .wordStart, rest)
      | '>' => .ok (.look .wordEnd, rest)
      | _ => .error .badEscape

end Reroute.Regex
