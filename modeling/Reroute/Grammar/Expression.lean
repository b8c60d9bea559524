import Reroute.Expression
import Reroute.Grammar.Lexical

/-!
# The grammar of expressions

The alternatives of an expression are tried in a fixed order: quoted text, number,
truth value, variable, call. A number or truth value that begins a longer name
therefore ends where its own characters end.
-/

set_option autoImplicit false

namespace Reroute.Grammar

open Parsing Parsing.Parser

/-- A truth value. -/
def boolean : Parser Expression :=
  choice [
    (string "true").map fun _ => .literal (.bool true),
    (string "false").map fun _ => .literal (.bool false)]

/-- A variable: its name behind a colon. -/
def reference : Parser Expression :=
  atomic do
    let _ ← char ':'
    let x ← name
    return .var x

/-- A comma in any amount of white space. -/
def comma : Parser Unit := do
  let _ ← spaces
  let _ ← char ','
  let _ ← spaces
  return ()

/-- A call whose arguments are read by `argument`. White space is allowed within
the parentheses and around commas. -/
def callOf (argument : Parser Expression) : Parser (String × List Expression) :=
  atomic do
    let function ← name
    let _ ← char '('
    let _ ← spaces
    let args ← separatedBy argument comma
    let _ ← spaces
    let _ ← char ')'
    return (function, args)

/-- An expression other than an assignment, with the arguments of calls read by
`argument`. -/
def expressionOf (argument : Parser Expression) : Parser Expression :=
  choice [
    stringLiteral.map fun s => .literal (.text s),
    number.map fun n => .literal (.number n),
    boolean,
    reference,
    (callOf argument).map fun (function, args) => .call function args]

/-- A literal, a variable or a call. The arguments of a call are expressions too,
and each begins behind the name of the function. -/
def expression : Parser Expression :=
  fix expressionOf

/-- A call: the name of the function and the arguments. -/
def functionCall : Parser (String × List Expression) :=
  callOf expression

/-- An assignment: the variable and the expression that it gets. -/
def assignment : Parser (String × Expression) :=
  atomic do
    let _ ← char ':'
    let target ← name
    let _ ← spaces
    let _ ← string "<-"
    let _ ← spaces
    let value ← expression
    return (target, value)

/-- An assignment or any other expression. -/
def fullExpression : Parser Expression :=
  choice [
    assignment.map fun (target, value) => .assign target value,
    expression]

end Reroute.Grammar
