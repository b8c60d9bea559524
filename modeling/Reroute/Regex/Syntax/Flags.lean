import Reroute.Regex.Node

/-!
# Errors and flags of the reader

The flags `i`, `m`, `s`, `U`, `R` and `x` say how the following part of a regular
expression is to be read. Under `x` white space and comments are skipped wherever a
token may begin.

## Main definitions

* `Error` — what can be wrong with a regular expression
* `Flags`, `Flags.skip` — flags, and what they allow before a token
* `Flags.literal`, `Flags.dot`, `Flags.startAnchor`, `Flags.endAnchor` — what they
  make of a token
-/

set_option autoImplicit false

namespace Reroute.Regex

/-- What can be wrong with a regular expression. -/
inductive Error where
  | unclosedGroup
  | unopenedGroup
  | unclosedClass
  | nothingToRepeat
  | badCount
  | badRange
  | badEscape
  | badFlags
  | badGroupName
  | duplicateGroupName
  | unsupported
  | tooDeep
  | tooLarge
deriving DecidableEq, Repr

/-- How the following part of a regular expression is to be read. -/
structure Flags where
  /-- Letters stand for both of their cases. -/
  ignoreCase : Bool := false
  /-- Line starts and ends count as starts and ends. -/
  multiLine : Bool := false
  /-- The dot matches line feeds as well. -/
  dotAll : Bool := false
  /-- Lazy and greedy repetitions change places. -/
  swapGreed : Bool := false
  /-- Lines may end in a carriage return. -/
  anyLineEnd : Bool := false
  /-- White space and comments are skipped. -/
  extended : Bool := false
deriving DecidableEq, Repr

/-- Drop white space and comments, which run from a number sign to the end of the
line. `comment` says whether the text begins inside one. -/
def dropBlanks (comment : Bool) : List Char → List Char
  | [] => []
  | x :: rest =>
    if comment then dropBlanks (x != '\n') rest
    else if isBlank x then dropBlanks false rest
    else if x = '#' then dropBlanks true rest
    else x :: rest

namespace Flags

/-- Skip what may stand before a token. -/
def skip (flags : Flags) (text : List Char) : List Char :=
  if flags.extended then dropBlanks false text else text

/-- A character that stands for itself. -/
def literal (flags : Flags) (x : Char) : Node :=
  if flags.ignoreCase && x.isAlpha then .set (.union (.single x) (.single (swapCase x)))
  else .char x

/-- The dot. -/
def dot (flags : Flags) : Node :=
  .set <|
    if flags.dotAll then .all
    else if flags.anyLineEnd then (CharSet.union (.single '\n') (.single '\r')).compl
    else (CharSet.single '\n').compl

/-- The anchor before a line or text. -/
def startAnchor (flags : Flags) : Node :=
  .look (if flags.multiLine then if flags.anyLineEnd then .anyLineStart else .lineStart else .start)

/-- The anchor behind a line or text. -/
def endAnchor (flags : Flags) : Node :=
  .look (if flags.multiLine then if flags.anyLineEnd then .anyLineEnd else .lineEnd else .end)

end Flags

end Reroute.Regex
