import Reroute.Bindings
import Reroute.PathRegex
import Reroute.Regex.Basic
import Reroute.Url.Basic

/-!
# Matching URLs

The source of a rule is compiled into a regular expression for the path of a URL and
a check for each query constraint. Matching a URL reads the variables off the groups
of the expression and off the query.

## Main definitions

* `PathMatcher`, `PathMatcher.compile` — a source that is ready to use
* `PathMatcher.isMatch`, `PathMatcher.extract` — test a URL, and read its variables
-/

set_option autoImplicit false

namespace Reroute

/-- A pattern, declared or derived, that is no regular expression. -/
structure InvalidPattern where
  pattern : String
deriving DecidableEq, Repr

/-- The error in words. -/
def InvalidPattern.message (e : InvalidPattern) : String :=
  "Invalid pattern '" ++ e.pattern ++ "': "

/-- Compile a pattern; the error shows it. -/
def compilePattern (pattern : String) : Except InvalidPattern Regex :=
  match Regex.compile pattern with
  | .ok regex => .ok regex
  | .error _ => .error ⟨pattern⟩

/-! ### Values of groups -/

namespace Group

/-- The non-empty parts of a text between slashes. -/
def pieces (text : String) : List String :=
  ((Text.splitBy (· = '/') text.toList).filter (!·.isEmpty)).map String.ofList

/-- The value that a group gives its variable. Text with a slash in it becomes a
list, and a group that took no part counts as empty. -/
def value (g : Group) (m : Regex.Match) : Value :=
  match m.named? g.name with
  | some text => if g.repeating || text.toList.contains '/' then .list (pieces text) else .text text
  | none => if g.repeating then .list [] else .text ""

end Group

/-! ### Query constraints -/

/-- A query constraint that is ready to be checked. -/
inductive QueryCheck where
  /-- The parameter has exactly this value. -/
  | literal (name value : String)
  /-- The parameter has a non-empty value that matches, and a variable gets it. -/
  | pattern (name variableName : String) (regex : Regex)
deriving Repr

namespace QueryCheck

/-- Make a query constraint ready. -/
def compile (q : Query) : Except InvalidPattern QueryCheck :=
  match q.target with
  | .literal value => .ok (.literal q.name value)
  | .var x => (compilePattern q.effectivePattern).map (.pattern q.name x)

/-- Whether a URL meets the constraint. -/
def holds (u : Url) : QueryCheck → Bool
  | literal name value => u.queryValue? name = some value
  | pattern name _ regex =>
    match u.queryValue? name with
    | some value => !value.isEmpty && regex.isMatch value
    | none => false

/-- Bind the variable of the constraint, to empty text if there is no parameter. -/
def bind (u : Url) (b : Bindings) : QueryCheck → Bindings
  | literal _ _ => b
  | pattern name x _ => b.insert x (.value (.text ((u.queryValue? name).getD "")))

end QueryCheck

/-! ### Matchers -/

/-- The source of a rule, ready to be matched against URLs. -/
structure PathMatcher where
  regex : Regex
  groups : List Group
  checks : List QueryCheck
deriving Repr

namespace PathMatcher

/-- Compile a path. -/
def compile (options : Options) (p : Path) : Except InvalidPattern PathMatcher := do
  let regex ← compilePattern (p.regexSource options)
  let checks ← p.queries.mapM QueryCheck.compile
  return { regex, groups := p.groups, checks }

/-- Whether the path of a URL matches and every query constraint is met. -/
def isMatch (m : PathMatcher) (u : Url) : Bool :=
  m.regex.isMatch u.path && m.checks.all (·.holds u)

/-- The values of all variables, if the path of a URL matches. The query
constraints are not checked; a variable that the query gives a value loses the one
from the path. -/
def extract (m : PathMatcher) (u : Url) : Option Bindings :=
  (m.regex.find? u.path).map fun found =>
    let fromPath := m.groups.foldl
      (fun b g => b.insert g.variableName (.value (g.value found))) Bindings.empty
    m.checks.foldl (fun b check => check.bind u b) fromPath

end PathMatcher

end Reroute
