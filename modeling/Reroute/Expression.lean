import Reroute.Value

/-!
# Expressions

The steps of a rule are expressions: literals, variables, calls of functions, and
assignments of the value of an expression to a variable.

## Main definitions

* `Expression` — the syntax tree
* `Expression.print` — the expression in the syntax of rules
-/

set_option autoImplicit false

namespace Reroute

/-- An expression of the rule language. -/
inductive Expression where
  /-- A value written down. -/
  | literal (value : Value)
  /-- The value of the variable `name`. -/
  | var (name : String)
  /-- The value of an expression, which the variable `target` holds from then on. -/
  | assign (target : String) (value : Expression)
  /-- The result of a function for the values of `args`. -/
  | call (function : String) (args : List Expression)
deriving Repr

namespace Expression

instance : Inhabited Expression := ⟨.literal default⟩

mutual

/-- Decide whether two expressions are equal. -/
def decEq : (e f : Expression) → Decidable (e = f)
  | literal v, literal w =>
    decidable_of_iff (v = w) (by simp)
  | var x, var y =>
    decidable_of_iff (x = y) (by simp)
  | assign x e, assign y f =>
    match decEq e f with
    | isTrue h => decidable_of_iff (x = y) (by simp [h])
    | isFalse h => isFalse (by simp [h])
  | call x es, call y fs =>
    match decEqList es fs with
    | isTrue h => decidable_of_iff (x = y) (by simp [h])
    | isFalse h => isFalse (by simp [h])
  | literal _, var _ | literal _, assign _ _ | literal _, call _ _
  | var _, literal _ | var _, assign _ _ | var _, call _ _
  | assign _ _, literal _ | assign _ _, var _ | assign _ _, call _ _
  | call _ _, literal _ | call _ _, var _ | call _ _, assign _ _ =>
    isFalse (by simp)

/-- Decide whether two lists of expressions are equal. -/
def decEqList : (es fs : List Expression) → Decidable (es = fs)
  | [], [] => isTrue rfl
  | [], _ :: _ | _ :: _, [] => isFalse (by simp)
  | e :: es, f :: fs =>
    match decEq e f, decEqList es fs with
    | isTrue h, isTrue hs => isTrue (by simp [h, hs])
    | isFalse h, _ => isFalse (by simp [h])
    | _, isFalse hs => isFalse (by simp [hs])

end

instance : DecidableEq Expression := decEq

mutual

/-- The expression in the syntax of rules. -/
def print : Expression → String
  | literal value => value.print
  | var name => ":" ++ name
  | assign target value => ":" ++ target ++ " <- " ++ value.print
  | call function args => function ++ "(" ++ printArgs args ++ ")"

/-- Expressions with commas between them. -/
def printArgs : List Expression → String
  | [] => ""
  | [e] => e.print
  | e :: es => e.print ++ ", " ++ printArgs es

end

instance : ToString Expression := ⟨print⟩

end Expression

end Reroute
