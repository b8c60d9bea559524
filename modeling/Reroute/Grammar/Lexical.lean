import Reroute.Parsing.Choice
import Reroute.Parsing.Lexeme

/-!
# Names and patterns

The smallest parts of the rule language: names of variables, functions and query
parameters, and regular expressions in parentheses.
-/

set_option autoImplicit false

namespace Reroute.Grammar

open Parsing

/-- Names consist of ASCII letters and digits, underscores and hyphens. -/
def isNameChar (x : Char) : Bool :=
  x.isAlphanum || x = '_' || x = '-'

/-- A name. -/
def name : Parser String :=
  (Parser.many1 (satisfy (fun x _ => isNameChar x) (some "variable character"))).map String.ofList

/-- A regular expression in parentheses. It ends before the first closing
parenthesis that has no backslash just before it, and is kept verbatim. -/
def pattern : Parser String :=
  delimited '(' ')'

end Reroute.Grammar
