import Reroute.Rule
import Reroute.Grammar.Expression
import Reroute.Grammar.Path

/-!
# The grammar of rules

A rule is a source, any number of stages and a destination, with bars between
them. A stage is a list of expressions or empty; how the expressions of a rule are
distributed over stages has no meaning.
-/

set_option autoImplicit false

namespace Reroute.Grammar

open Parsing Parsing.Parser

/-- A bar and a list of expressions. -/
def stage : Parser (List Expression) :=
  atomic do
    let _ ← spaces
    let _ ← char '|'
    let _ ← spaces
    let first ← fullExpression
    let rest ← many (atomic do
      comma
      fullExpression)
    return first :: rest

/-- A bar with nothing but white space up to the next one. -/
def emptyStage : Parser (List Expression) :=
  atomic do
    let _ ← spaces
    let _ ← char '|'
    let _ ← spaces
    let _ ← peek (char '|')
    return []

/-- A rule, in any amount of white space. -/
def rule : Parser Rule :=
  atomic do
    let _ ← spaces
    let source ← fullPath
    let stages ← many (choice [stage, emptyStage])
    let _ ← spaces
    let _ ← char '|'
    let _ ← spaces
    let destination ← fullPath
    let _ ← spaces
    return { source, destination, pipeline := stages.flatten }

/-- Read a text that is one rule. -/
def parseRule (text : String) : Except ParseError Rule :=
  rule.parseFull text

end Reroute.Grammar
