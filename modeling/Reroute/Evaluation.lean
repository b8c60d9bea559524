import Reroute.Bindings
import Reroute.Event
import Reroute.Expression
import Reroute.FunctionTable
import Reroute.Target
import Reroute.Url.Basic

/-!
# Evaluating steps

The steps of a rule are evaluated in order against bindings, which assignments
change for the steps behind them. The first error ends the evaluation and leaves
the bindings as they are by then.

## Main definitions

* `EvalError` — why applying a rule can fail
* `Evaluation` — a computation that reads and writes bindings, may fail, and
  records what happens
* `Expression.eval`, `runPipeline` — evaluate one expression, or all in order
-/

set_option autoImplicit false

namespace Reroute

/-- Why applying a rule to a URL can fail. -/
inductive EvalError where
  /-- The URL does not match the source of the rule. -/
  | noMatch (url : String)
  /-- A step reads a variable that has no value. -/
  | unresolvedVariable (name : String)
  /-- A step calls a function that there is not. -/
  | unknownFunction (name : String)
  /-- A function failed. -/
  | functionFailed (name : String) (error : FunctionError)
  /-- The destination cannot be filled in. -/
  | render (error : RenderError)
  /-- The text to be rerouted is no URL. -/
  | invalidUrl (error : Url.Error)
deriving DecidableEq, Repr

/-- The error in words. -/
def EvalError.message : EvalError → String
  | noMatch url => "URL '" ++ url ++ "' does not match the rule source"
  | unresolvedVariable name => "Variable :" ++ name ++ " not found"
  | unknownFunction name => "Function " ++ name ++ " not found"
  | functionFailed name error => "Function " ++ name ++ " failed: " ++ error.message
  | render error => error.message
  | invalidUrl error => "Invalid URL: " ++ error.message

/-- What a computation on bindings ends with. -/
structure Outcome (α : Type) where
  result : Except EvalError α
  /-- The bindings at the end, or when the error arose. -/
  bindings : Bindings
  events : List Event := []

/-- A computation that reads and writes bindings, and may fail. -/
def Evaluation (α : Type) : Type := Bindings → Outcome α

namespace Evaluation

variable {α : Type}

instance : Monad Evaluation where
  pure value := fun b => { result := .ok value, bindings := b }
  bind e f := fun b =>
    match e b with
    | { result := .ok value, bindings, events } =>
      let last := f value bindings
      { last with events := events ++ last.events }
    | { result := .error error, bindings, events } => { result := .error error, bindings, events }

/-- Doing nothing before or after a computation changes nothing, and computations in a
row associate. -/
instance : LawfulMonad Evaluation :=
  .mk' _
    (fun e => by
      funext b
      change (e >>= pure ∘ id) b = e b
      simp only [bind]
      rcases e b with ⟨_ | value, bindings, events⟩
      · rfl
      · change ({ result := .ok value, bindings, events := events ++ [] } : Outcome _) = _
        rw [List.append_nil])
    (fun _ _ => rfl)
    (fun e f g => by
      funext b
      simp only [bind]
      rcases e b with ⟨_ | value, bindings, events⟩
      · rfl
      · dsimp only
        rcases f value bindings with ⟨_ | _, bindings, events⟩ <;> simp)

/-- Give up. -/
def fail (error : EvalError) : Evaluation α :=
  fun b => { result := .error error, bindings := b }

/-- Record an event. -/
def record (event : Event) : Evaluation Unit :=
  fun b => { result := .ok (), bindings := b, events := [event] }

/-- The value of a variable. -/
def lookup (name : String) : Evaluation Value :=
  fun b =>
    match b.resolve name with
    | some value => { result := .ok value, bindings := b }
    | none => { result := .error (.unresolvedVariable name), bindings := b }

/-- Let a variable have a value. -/
def store (name : String) (value : Value) : Evaluation Unit :=
  fun b => { result := .ok (), bindings := b.insert name (.value value) }

/-- Call a function. -/
def apply (name : String) (f : Function) (args : List Value) : Evaluation Value :=
  match f args with
  | .ok value => pure value
  | .error error => fail (.functionFailed name error)

end Evaluation

open Evaluation

namespace Expression

mutual

/-- The value of an expression. A function is looked up before its arguments are
evaluated, from left to right. -/
def eval (functions : FunctionTable) : Expression → Evaluation Value
  | literal value => pure value
  | var name => lookup name
  | assign target e => do
    let value ← e.eval functions
    record (.assigned target value)
    store target value
    return value
  | call name args =>
    match functions.get? name with
    | none => fail (.unknownFunction name)
    | some f => do
      -- The arguments may assign variables, so their order matters.
      let values ← evalAll functions args
      record (.called name values.length)
      apply name f values

/-- The values of expressions, from left to right. -/
def evalAll (functions : FunctionTable) : List Expression → Evaluation (List Value)
  | [] => pure []
  | e :: es => do
    let value ← e.eval functions
    let values ← evalAll functions es
    return value :: values

end

end Expression

/-- Evaluate the steps of a rule in order. -/
def runPipeline (functions : FunctionTable) : List Expression → Evaluation Unit
  | [] => pure ()
  | e :: es => do
    let _ ← e.eval functions
    runPipeline functions es

end Reroute
