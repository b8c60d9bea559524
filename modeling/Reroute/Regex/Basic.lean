import Reroute.Regex.Program
import Reroute.Regex.Syntax

/-!
# Regular expressions

A regular expression is compiled once and then searched for in texts. The search
finds the leftmost match; among the matches that begin there, the one that comes
first when alternatives are tried in order.

## Main definitions

* `Regex.compile` — make a regular expression of its text
* `Regex.isMatch`, `Regex.find?` — search for it
* `Match.text?`, `Match.named?` — what a group matched
-/

set_option autoImplicit false

namespace Reroute

/-- A compiled regular expression. -/
structure Regex where
  /-- The expression as it was written. -/
  source : String
  /-- What finds it. -/
  program : Array Regex.Inst
  /-- The names of its groups, with their numbers. -/
  names : List (String × Nat)
deriving Repr

namespace Regex

/-- A match of a regular expression in a text. -/
structure Match where
  /-- The text that was searched. -/
  text : Array Char
  /-- The names of groups, with their numbers. -/
  names : List (String × Nat)
  /-- Where groups begin and end, the latest first. -/
  slots : List (Nat × Nat)
deriving Repr

namespace Match

/-- Where a group begins and ends, if it took part in the match. Of a repeated
group this is the last turn. -/
def span? (m : Match) (group : Nat) : Option (Nat × Nat) :=
  match m.slots.lookup (2 * group), m.slots.lookup (2 * group + 1) with
  | some first, some last => some (first, last)
  | _, _ => none

/-- What a group matched. -/
def text? (m : Match) (group : Nat) : Option String :=
  (m.span? group).map fun (first, last) => String.ofList (m.text.extract first last).toList

/-- What the group of the given name matched. -/
def named? (m : Match) (name : String) : Option String :=
  (m.names.lookup name).bind m.text?

end Match

/-- Compile a regular expression. -/
def compile (source : String) : Except Error Regex :=
  (parse source).map fun (node, names) => { source, program := node.program, names }

/-- The first match in a text. -/
def find? (r : Regex) (text : String) : Option Match :=
  (searchProgram r.program text.toList.toArray).map fun slots =>
    { text := text.toList.toArray, names := r.names, slots }

/-- Whether there is a match anywhere in a text. -/
def isMatch (r : Regex) (text : String) : Bool :=
  (r.find? text).isSome

end Regex

end Reroute
