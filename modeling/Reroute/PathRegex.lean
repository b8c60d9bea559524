import Reroute.Path
import Reroute.Regex.Escape

/-!
# The regular expression of a path

The source of a rule is compared with the path of a URL by one regular expression,
which has a group for every placeholder.

A placeholder is a group around its pattern, behind its slash. An optional one is
made optional together with its slash. A repeating one is a group around
repetitions of slash and pattern, so that its text is cut at slashes again to give
a list.

## Main definitions

* `Options` — how paths are compiled
* `Group`, `Path.groups` — the groups for the placeholders of a path
* `Path.regexSource` — the regular expression
-/

set_option autoImplicit false

namespace Reroute

/-- How paths are compiled. -/
structure Options where
  /-- Whether literal text is escaped. It is not by default, so that a dot matches
  any character. -/
  escapeLiterals : Bool := false
deriving DecidableEq, Repr

namespace Options

/-- Literal text as part of a regular expression. -/
def literal (options : Options) (text : String) : String :=
  if options.escapeLiterals then Regex.escape text else text

end Options

/-! ### Groups -/

/-- A group of the regular expression of a path. -/
structure Group where
  name : String
  /-- The variable that the group gives a value. -/
  variableName : String
  /-- Whether the value is a list. -/
  repeating : Bool
deriving DecidableEq, Repr

namespace Group

/-- Whether the name of a variable can be the name of a group as well. -/
def isValidName (name : String) : Bool :=
  match name.toList with
  | [] => false
  | x :: rest => (x.isAlpha || x = '_') && rest.all fun y => y.isAlphanum || y = '_'

/-- The name of the group for a placeholder that `index` others precede: the name of
its variable if that is possible, else a number. -/
def nameOf (variableName : String) (index : Nat) : String :=
  if isValidName variableName then variableName else "__" ++ toString index

end Group

/-- The groups of a path, in order. -/
def Path.groups (p : Path) : List Group :=
  p.placeholders.zipIdx.map fun (q, index) =>
    { name := Group.nameOf q.name index, variableName := q.name, repeating := q.isRepeating }

/-! ### Regular expressions -/

namespace Placeholder

/-- The regular expression of the placeholder that `index` others precede. -/
def regexSource (p : Placeholder) (index : Nat) : String :=
  let opening := "(?P<" ++ Group.nameOf p.name index ++ ">"
  let front := slash p.prefixed
  match p.quantifier with
  | none => front ++ opening ++ p.effectivePattern ++ ")"
  | some q =>
    if q.isRepeating then
      opening ++ "(?:" ++ front ++ "(?:" ++ p.effectivePattern ++ "))" ++ q.symbol.toString ++ ")"
    else
      "(?:" ++ front ++ opening ++ p.effectivePattern ++ "))" ++ q.symbol.toString

end Placeholder

namespace Segment

mutual

/-- The regular expression of a segment that `index` placeholders precede. -/
def regexSource (options : Options) (index : Nat) : Segment → String
  | text s prefixed => slash prefixed ++ options.literal s
  | placeholder p => p.regexSource index
  | compound runs => regexSourceOf options index runs

/-- The regular expression of segments that `index` placeholders precede. -/
def regexSourceOf (options : Options) (index : Nat) : List Segment → String
  | [] => ""
  | run :: runs =>
    run.regexSource options index ++
      regexSourceOf options (index + run.placeholders.length) runs

end

end Segment

/-- The regular expression of a path, from the beginning of a text to its end. -/
def Path.regexSource (options : Options) (p : Path) : String :=
  "^" ++ Segment.regexSourceOf options 0 p.segments ++ "$"

end Reroute
