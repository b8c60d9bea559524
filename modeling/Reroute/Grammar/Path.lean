import Reroute.Path
import Reroute.Grammar.Lexical

/-!
# The grammar of paths

A segment is a slash followed by runs of literal text and variables. Literal text
goes on to the next blank, slash or colon; a colon just behind a backslash belongs
to the text.
-/

set_option autoImplicit false

namespace Reroute.Grammar

open Parsing Parsing.Parser

/-- Whether a character is a colon that begins a variable. -/
def isVariableColon (x : Char) (previous : Option Char) : Bool :=
  x = ':' && previous != some '\\'

/-- Literal text, possibly none. -/
def literalRun : Parser Segment :=
  (many (satisfy
    (fun x previous => x != ' ' && x != '/' && !isVariableColon x previous)
    (some "path character"))).map fun chars => .text (String.ofList chars) true

/-- What may follow the name of a path variable. -/
inductive Modifier where
  | quantifier (q : Quantifier)
  | pattern (text : String)

/-- A quantifier. -/
def quantifier (q : Quantifier) : Parser Modifier :=
  (char q.symbol).map fun _ => .quantifier q

/-- A quantifier or a pattern. -/
def modifier : Parser Modifier :=
  choice [
    quantifier .oneOrMore,
    quantifier .optional,
    quantifier .zeroOrMore,
    pattern.map .pattern]

/-- The placeholder with the given name and modifier. -/
def placeholderOf (name : String) : Option Modifier → Placeholder
  | some (.quantifier q) => { name, quantifier := some q }
  | some (.pattern p) => { name, pattern := some p }
  | none => { name }

/-- A variable: a colon, its name, and perhaps a modifier. -/
def variableRun : Parser Segment :=
  atomic do
    let _ ← satisfy isVariableColon (some ":")
    let x ← name
    let m ← optional modifier
    return .placeholder (placeholderOf x m)

/-- A slash and the runs behind it. -/
def segment : Parser Segment :=
  atomic do
    let _ ← char '/'
    let runs ← many (choice [variableRun, literalRun])
    return .ofRuns runs

/-- One segment or more. -/
def path : Parser (List Segment) :=
  many1 segment

/-- What a query constraint asks for: a variable, perhaps with a pattern, or a
literal value. -/
def queryTarget : Parser (QueryTarget × Option String) :=
  choice [
    atomic do
      let _ ← char ':'
      let x ← name
      let p ← optional pattern
      return (.var x, p),
    name.map fun value => (.literal value, none)]

/-- A query constraint. -/
def query : Parser Query :=
  atomic do
    let _ ← string "??"
    let x ← name
    let _ ← char '='
    let (target, pattern) ← queryTarget
    return { name := x, target, pattern }

/-- A path and its query constraints, which white space may separate. -/
def fullPath : Parser Path :=
  atomic do
    let segments ← path
    let queries ← many (atomic do
      let _ ← spaces
      query)
    return { segments, queries }

end Reroute.Grammar
