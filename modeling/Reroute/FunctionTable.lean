import Reroute.Text.Quoted
import Reroute.Value

/-!
# Functions

The steps of a rule may call functions by name. A function takes values and gives a
value or an error; which functions there are is up to the caller.

## Main definitions

* `Function`, `FunctionError` — a function and how it fails
* `FunctionTable` — functions by name
* `Function.concat` — the function that every default table has
-/

set_option autoImplicit false

namespace Reroute

/-- The failure of a function. -/
structure FunctionError where
  message : String
deriving DecidableEq, Repr

/-- A function of any number of values. -/
abbrev Function := List Value → Except FunctionError Value

/-- Join the texts of two or more values. -/
def Function.concat : Function := fun args =>
  if args.length < 2 then .error ⟨"concat requires at least two arguments"⟩
  else .ok (.text (String.join (args.map Value.toText)))

/-- Functions by name. -/
structure FunctionTable where
  entries : List (String × Function)

namespace FunctionTable

/-- No functions. -/
def empty : FunctionTable := ⟨[]⟩

/-- Add a function, in place of the one that had the name before. -/
def insert (t : FunctionTable) (name : String) (f : Function) : FunctionTable :=
  ⟨(name, f) :: t.entries.filter (·.1 ≠ name)⟩

/-- The function of a name. -/
def get? (t : FunctionTable) (name : String) : Option Function :=
  t.entries.lookup name

/-- Whether there is a function of a name. -/
def contains (t : FunctionTable) (name : String) : Bool :=
  (t.get? name).isSome

/-- The functions that are there by default. -/
def defaults : FunctionTable :=
  empty.insert "concat" Function.concat

/-- The names of all functions in the order of their characters. -/
def names (t : FunctionTable) : List String :=
  (t.entries.map Prod.fst).mergeSort (· ≤ ·)

/-- A table is shown by the names of its functions. -/
def print (t : FunctionTable) : String :=
  "FunctionTable \x7b functions: [" ++ ", ".intercalate (t.names.map Text.quoted) ++ "] \x7d"

instance : ToString FunctionTable := ⟨print⟩

end FunctionTable

end Reroute
