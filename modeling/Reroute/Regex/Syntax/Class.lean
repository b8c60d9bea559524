import Reroute.Regex.Syntax.Escape

/-!
# Classes

A class in brackets lists characters, ranges between two of them, and sets that have
a name or a backslash. A caret at its beginning takes all others instead.

## Main definitions

* `readClass` — read a class
-/

set_option autoImplicit false

namespace Reroute.Regex

/-- The name of a class between colons, behind the opening bracket. -/
def readNamedClass? (text : List Char) : Option (CharSet × List Char) :=
  let named (negated : Bool) (text : List Char) : Option (CharSet × List Char) :=
    match text.dropWhile (· != ':') with
    | ':' :: ']' :: rest =>
      (CharSet.named? (String.ofList (text.takeWhile (· != ':')))).map fun chars =>
        (if negated then chars.compl else chars, rest)
    | _ => none
  match text with
  | ':' :: '^' :: rest => named true rest
  | ':' :: rest => named false rest
  | _ => none

/-- The character that follows, were the next one read and blanks skipped. Only
the number sign itself is skipped of a comment. -/
def peekBehind (flags : Flags) (text : List Char) : Option Char :=
  if flags.extended then
    match text.dropWhile isBlank with
    | '#' :: rest =>
      match rest.dropWhile isBlank with
      | x :: _ => some x
      | [] => text.head?
    | x :: _ => some x
    | [] => text.head?
  else
    text.head?

/-- One item of a class: a single character, or a set of its own. -/
def readClassItem (flags : Flags) (text : List Char) :
    Except Error ((Char ⊕ CharSet) × List Char) :=
  match text with
  | [] => .error .unclosedClass
  | '\\' :: rest =>
    match readEscape flags rest with
    | .ok (.char x, rest) => .ok (.inl x, rest)
    | .ok (.set chars, rest) => .ok (.inr chars, rest)
    | .ok _ => .error .badEscape
    | .error e => .error e
  | x :: rest => .ok (.inl x, rest)

/-- An item of a class or a range between two single characters. -/
def readClassRange (flags : Flags) (text : List Char) : Except Error (CharSet × List Char) := do
  let (first, rest) ← readClassItem flags text
  let chars := first.elim CharSet.single id
  match flags.skip rest with
  | [] => throw .unclosedClass
  | '-' :: rest =>
    if peekBehind flags rest = some ']' ∨ peekBehind flags rest = some '-' then
      return (chars, '-' :: rest)
    else
      let (last, rest) ← readClassItem flags (flags.skip rest)
      match first, last with
      | .inl x, .inl y => if x ≤ y then return (.range x y, rest) else throw .badRange
      | _, _ => throw .badRange
  | rest => return (chars, rest)

/-- The items of a class up to its closing bracket. -/
def readClassItems (flags : Flags) (text : List Char) : Except Error (List CharSet × List Char) :=
  match flags.skip text with
  | [] => .error .unclosedClass
  | ']' :: rest => .ok ([], rest)
  | '[' :: rest =>
    match readNamedClass? rest with
    | some (chars, rest) =>
      -- So has a name between colons.
      if rest.length < text.length then do
        let (sets, rest) ← readClassItems flags rest
        return (chars :: sets, rest)
      else
        .error .unclosedClass
    | none => .error .unsupported
  | '&' :: '&' :: _ | '-' :: '-' :: _ | '~' :: '~' :: _ => .error .unsupported
  | item =>
    match readClassRange flags item with
    | .error e => .error e
    | .ok (chars, rest) =>
      -- An item has a character at least, so less is left after it.
      if rest.length < text.length then do
        let (sets, rest) ← readClassItems flags rest
        return (chars :: sets, rest)
      else
        .error .unclosedClass
termination_by text.length

/-- Hyphens at the beginning of a class stand for themselves. -/
def readLeadingHyphens (flags : Flags) : (fuel : Nat) → List Char → List CharSet × List Char
  | fuel + 1, '-' :: rest =>
    let (sets, rest) := readLeadingHyphens flags fuel (flags.skip rest)
    (.single '-' :: sets, rest)
  | _, text => ([], text)

/-- A class, behind its opening bracket. A closing bracket that comes first stands
for itself. -/
def readClass (flags : Flags) (text : List Char) : Except Error (Node × List Char) := do
  let (negated, rest) :=
    match flags.skip text with
    | '^' :: rest => (true, flags.skip rest)
    | rest => (false, rest)
  let (hyphens, rest) := readLeadingHyphens flags rest.length rest
  let (leading, rest) :=
    match hyphens, rest with
    | [], ']' :: rest => ([CharSet.single ']'], rest)
    | hyphens, rest => (hyphens, rest)
  let (sets, rest) ← readClassItems flags rest
  let chars := CharSet.unions (leading ++ sets)
  let chars := if flags.ignoreCase then chars.foldCase else chars
  return (.set (if negated then chars.compl else chars), rest)

end Reroute.Regex
