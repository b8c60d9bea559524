import Reroute.Bindings
import Reroute.Path
import Reroute.Url.Form

/-!
# Filling in destinations

The destination of a rule is filled in with the values of variables. Repeating
placeholders take lists, the others take anything else, and the first that does
not fit is an error.

## Main definitions

* `Target` — a path and perhaps a query
* `Path.render` — fill in a destination
-/

set_option autoImplicit false

namespace Reroute

/-- What a destination says when it is filled in. -/
structure Target where
  path : String
  /-- The query in form encoding, if the destination declares any. -/
  query : Option String
deriving DecidableEq, Repr

namespace Target

/-- The path and query as they are written in a URL. -/
def print (t : Target) : String :=
  t.path ++
    match t.query with
    | some query => "?" ++ query
    | none => ""

instance : ToString Target := ⟨print⟩

end Target

/-- Why a destination cannot be filled in. -/
inductive RenderError where
  /-- A list stands where a single value belongs. -/
  | listInScalar (name : String)
  /-- A single value stands where a list belongs. -/
  | scalarInList (name value : String)
  /-- A variable has no value. -/
  | unbound (name : String)
deriving DecidableEq, Repr

/-- The error in words. -/
def RenderError.message : RenderError → String
  | listInScalar name => "Variable :" ++ name ++ " is not an array"
  | scalarInList name value => "Value '" ++ value ++ "' of :" ++ name ++ " is not an array"
  | unbound name => "Unbound variable '" ++ name ++ "'"

namespace Bindings

/-- The value of a variable that must have one. -/
def value (b : Bindings) (name : String) : Except RenderError Value :=
  match b.resolve name with
  | some value => .ok value
  | none => .error (.unbound name)

end Bindings

namespace Placeholder

/-- What a placeholder becomes for a value. Every item of a list gets a slash of its
own, and empty text in an optional place leaves nothing. -/
def renderValue (p : Placeholder) : Value → Except RenderError String
  | .list items =>
    if p.isRepeating then .ok (String.join (items.map (slash p.prefixed ++ ·)))
    else .error (.listInScalar p.name)
  | value =>
    if p.isRepeating then .error (.scalarInList p.name value.toText)
    else if p.quantifier = some .optional ∧ value = .text "" then .ok ""
    else .ok (slash p.prefixed ++ value.toText)

/-- What a placeholder becomes. -/
def render (b : Bindings) (p : Placeholder) : Except RenderError String :=
  match b.value p.name with
  | .ok value => p.renderValue value
  | .error e => .error e

end Placeholder

namespace Segment

mutual

/-- What a segment becomes. -/
def render (b : Bindings) : Segment → Except RenderError String
  | text s prefixed => .ok (slash prefixed ++ s)
  | placeholder p => p.render b
  | compound runs => renderAll b runs

/-- What segments become, one after the other. -/
def renderAll (b : Bindings) : List Segment → Except RenderError String
  | [] => .ok ""
  | run :: runs => do
    let first ← run.render b
    let rest ← renderAll b runs
    return first ++ rest

end

end Segment

/-- The names and values that a query declares. A list gives a pair for each item. -/
def Query.pairs (b : Bindings) (q : Query) : Except RenderError (List (String × String)) :=
  match q.target with
  | .literal value => .ok [(q.name, value)]
  | .var x =>
    match b.value x with
    | .ok (.list items) => .ok (items.map (q.name, ·))
    | .ok value => .ok [(q.name, value.toText)]
    | .error e => .error e

/-- Fill in a destination. -/
def Path.render (p : Path) (b : Bindings) : Except RenderError Target := do
  let path ← Segment.renderAll b p.segments
  if p.queries.isEmpty then
    return { path, query := none }
  else
    let pairs ← p.queries.mapM (Query.pairs b)
    return { path, query := some (Url.Form.serialize pairs.flatten) }

end Reroute
