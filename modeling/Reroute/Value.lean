/-!
# Values

A value is what a variable holds while a rule is applied, and what a literal of
the rule language stands for. Texts and lists of texts are read off a URL;
numbers and truth values come from the steps of a rule.

## Main definitions

* `Value` — texts, lists of texts, numbers of 64 bits, truth values
* `Value.toText` — the value as it is written into a URL
* `Value.print` — the value as a literal of the rule language
-/

set_option autoImplicit false

namespace Reroute

/-- A value of the rule language. -/
inductive Value where
  /-- A single text. -/
  | text (text : String)
  /-- A list of texts, as a repeating path variable holds it. -/
  | list (items : List String)
  /-- A whole number. -/
  | number (n : Int64)
  /-- A truth value. -/
  | bool (b : Bool)
deriving DecidableEq, Repr

instance : Inhabited Value := ⟨.text ""⟩

namespace Value

/-- The value as plain text; the items of a list are joined with commas. -/
def toText : Value → String
  | text s => s
  | list items => ",".intercalate items
  | number n => toString n.toInt
  | bool b => toString b

/-- The text between double quotes, as it is. -/
def quote (s : String) : String :=
  "\"" ++ s ++ "\""

/-- The value as a literal. Lists have no syntax of their own in rules; they are
printed in brackets to be read by people. -/
def print : Value → String
  | text s => quote s
  | list items => "[" ++ ", ".intercalate (items.map quote) ++ "]"
  | number n => toString n.toInt
  | bool b => toString b

/-- Whether the value is a list. -/
def isList : Value → Bool
  | list _ => true
  | _ => false

end Value

end Reroute
