import Reroute.Evaluation
import Reroute.Grammar.Rule
import Reroute.PathMatcher
import Reroute.Url.Parse

/-!
# Applying rules

A rule whose source is compiled can be applied to any number of URLs. The URL keeps
its scheme, user, host and number; its path and query come from the destination,
and its fragment is dropped.

## Main definitions

* `CompiledRule.ofRule`, `CompiledRule.parse` — make a rule ready
* `CompiledRule.isMatch` — whether a URL is one for the rule
* `CompiledRule.evaluate`, `CompiledRule.evaluateText` — apply the rule
-/

set_option autoImplicit false

namespace Reroute

/-- Why a text is no usable rule. -/
inductive RuleError where
  /-- The text is no rule. -/
  | parse (text : String) (error : Parsing.ParseError)
  /-- A pattern is no regular expression. -/
  | pattern (error : InvalidPattern)
deriving DecidableEq, Repr

/-- The error in words; where the text is no rule, its first line is shown. -/
def RuleError.message : RuleError → String
  | parse text error => error.render text
  | pattern error => error.message

/-- A rule whose source is ready to be matched. -/
structure CompiledRule where
  rule : Rule
  matcher : PathMatcher
deriving Repr

/-- Compile a path, and record its regular expression. -/
def PathMatcher.compileRecorded (options : Options) (p : Path) :
    Recorded (Except InvalidPattern PathMatcher) :=
  match PathMatcher.compile options p with
  | .ok m => { result := .ok m, events := [.compiled p.print m.regex.source] }
  | .error e => { result := .error e }

namespace CompiledRule

/-- Compile a rule. -/
def ofRule (options : Options) (rule : Rule) : Recorded (Except RuleError CompiledRule) := do
  match ← PathMatcher.compileRecorded options rule.source with
  | .ok matcher => return .ok { rule, matcher }
  | .error e => return .error (.pattern e)

/-- Read and compile a rule. -/
def parse (options : Options) (text : String) : Recorded (Except RuleError CompiledRule) :=
  match Grammar.parseRule text with
  | .ok rule => ofRule options rule
  | .error e => pure (.error (.parse text e))

/-- Whether a URL matches the source of the rule. -/
def isMatch (r : CompiledRule) (u : Url) : Bool :=
  r.matcher.isMatch u

/-- The URL with the path and query of a target, and without fragment. -/
def redirect (u : Url) (t : Target) : Url :=
  ((u.setPath t.path).setQuery t.query).dropFragment

/-- Fill in the destination and change the URL accordingly. -/
def arrive (r : CompiledRule) (u : Url) (b : Bindings) : Recorded (Except EvalError Url) :=
  match r.rule.destination.render b with
  | .ok target => do
    let redirected := redirect u target
    Recorded.record (.rerouted u.print redirected.print)
    return .ok redirected
  | .error e => pure (.error (.render e))

/-- Apply the rule to a URL. -/
def evaluate (r : CompiledRule) (functions : FunctionTable) (u : Url) :
    Recorded (Except EvalError Url) :=
  -- A URL whose path matches may still fail a query constraint.
  match (if r.isMatch u then r.matcher.extract u else none) with
  | none => do
    Recorded.record (.rejected u.print r.rule.print)
    return .error (.noMatch u.print)
  | some b =>
    let outcome := runPipeline functions r.rule.pipeline b
    let arrival :=
      match outcome.result with
      | .ok () => r.arrive u outcome.bindings
      | .error e => pure (.error e)
    { arrival with events := outcome.events ++ arrival.events }

/-- Apply the rule to the text of a URL. -/
def evaluateText (r : CompiledRule) (functions : FunctionTable) (text : String) :
    Recorded (Except EvalError Url) :=
  match Url.parse text with
  | .ok u => r.evaluate functions u
  | .error e => pure (.error (.invalidUrl e))

end CompiledRule

end Reroute
