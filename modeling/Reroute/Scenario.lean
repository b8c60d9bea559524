import Reroute.CompiledRule

/-!
# Scenarios

A scenario is a rule, the functions that it may call, and URLs with what is expected
of each. Running it checks the expectations in order up to the first that is not
met.

## Main definitions

* `Expectation`, `Expectation.verify` — what is expected of a URL, and its check
* `Scenario`, `Scenario.run` — check all
* `ScenarioError` — why a scenario does not pass
-/

set_option autoImplicit false

namespace Reroute

/-- Why a scenario does not pass. -/
inductive ScenarioError where
  /-- The scenario has no rule. -/
  | missingRule (scenario : String)
  /-- The rule is not usable. -/
  | invalidRule (scenario : String) (error : RuleError)
  /-- An expectation is not met. -/
  | unmet (step reason : String)
deriving DecidableEq, Repr

/-- The error in words. -/
def ScenarioError.message : ScenarioError → String
  | missingRule scenario => "rule not specified for scenario '" ++ scenario ++ "'"
  | invalidRule scenario error =>
    "rule for scenario '" ++ scenario ++ "' is invalid:\n" ++ error.message
  | unmet step reason => "assertion failed for step '" ++ step ++ "': " ++ reason

/-- Whether `part` occurs in a text. -/
def occursIn (part : List Char) : List Char → Bool
  | [] => part.isEmpty
  | x :: rest => part.isPrefixOf (x :: rest) || occursIn part rest

/-- What is expected of a URL that a rule is applied to. -/
structure Expectation where
  /-- The URL that it leads to. -/
  url : Option String := none
  /-- The path that it leads to. -/
  path : Option String := none
  /-- The query that it leads to. -/
  query : Option String := none
  /-- It does not match the rule. -/
  rejected : Bool := false
  /-- Applying the rule fails, and this occurs in the error. -/
  error : Option String := none
  /-- Applying the rule fails, and this regular expression matches the error. -/
  errorPattern : Option String := none
deriving DecidableEq, Repr

namespace Expectation

/-- The URL leads to exactly this one. -/
def leadsTo (url : String) : Expectation := { url := some url }

/-- The URL is rejected. -/
def rejects : Expectation := { rejected := true }

/-- Applying the rule fails with an error that contains this. -/
def fails (error : String) : Expectation := { error := some error }

/-- Whether some failure is expected. -/
def expectsFailure (x : Expectation) : Bool :=
  x.rejected || x.error.isSome || x.errorPattern.isSome

/-- A reason unless a condition holds. -/
def require (condition : Bool) (reason : String) : Except String Unit :=
  if condition then .ok () else .error reason

/-- A query, or that there is none. -/
def describeQuery : Option String → String
  | some query => "Some(" ++ Text.quoted query ++ ")"
  | none => "None"

/-- Check a URL that was led somewhere. -/
def verifySuccess (x : Expectation) (u : Url) : Except String Unit := do
  if let some expected := x.url then
    require (u.print = expected) ("expected '" ++ expected ++ "', got '" ++ u.print ++ "'")
  if let some expected := x.path then
    require (u.path = expected)
      ("expected path '" ++ expected ++ "', got '" ++ u.path ++ "'")
  if let some expected := x.query then
    require (u.query = some expected)
      ("expected query '" ++ expected ++ "', got " ++ describeQuery u.query)

/-- Check an error. -/
def verifyError (x : Expectation) (e : EvalError) : Except String Unit := do
  let isRejection := match e with
    | .noMatch _ => true
    | _ => false
  require (!x.rejected || isRejection) ("expected rejection, got: " ++ e.message)
  if let some expected := x.error then
    require (occursIn expected.toList e.message.toList)
      ("expected error containing '" ++ expected ++ "', got: " ++ e.message)
  if let some pattern := x.errorPattern then
    match Regex.compile pattern with
    | .error _ => throw "invalid regex pattern: "
    | .ok regex =>
      require (regex.isMatch e.message)
        ("expected error matching '" ++ pattern ++ "', got: " ++ e.message)

/-- Check the result of applying a rule. -/
def verify (x : Expectation) (result : Except EvalError Url) : Except String Unit :=
  match x.expectsFailure, result with
  | false, .ok u => x.verifySuccess u
  | false, .error e => .error ("evaluation failed: " ++ e.message)
  | true, .ok u => .error ("expected failure, but rewrote to '" ++ u.print ++ "'")
  | true, .error e => x.verifyError e

end Expectation

/-- A URL and what is expected of it. -/
structure ScenarioStep where
  input : String
  expectation : Expectation
deriving DecidableEq, Repr

/-- A rule with URLs to apply it to. -/
structure Scenario where
  name : String
  /-- The text of the rule. -/
  rule : Option String := none
  options : Options := {}
  functions : FunctionTable := .defaults
  steps : List ScenarioStep := []

namespace Scenario

/-- Apply a rule to the URLs in turn, up to the first that is not as expected. -/
def runSteps (r : CompiledRule) (functions : FunctionTable) :
    List ScenarioStep → Recorded (Except ScenarioError Unit)
  | [] => pure (.ok ())
  | step :: steps => do
    let result ← r.evaluateText functions step.input
    match step.expectation.verify result with
    | .ok () => runSteps r functions steps
    | .error reason => return .error (.unmet step.input reason)

/-- Check a scenario. -/
def run (s : Scenario) : Recorded (Except ScenarioError Unit) := do
  match s.rule with
  | none => return .error (.missingRule s.name)
  | some text =>
    match ← CompiledRule.parse s.options text with
    | .error e => return .error (.invalidRule s.name e)
    | .ok r => runSteps r s.functions s.steps

end Scenario

end Reroute
