import Reroute.Expression
import Reroute.Path

/-!
# Rules

A rule says how a URL is rerouted: a URL that matches `source` has its variables
read off, the `pipeline` of expressions is evaluated with them, and `destination`
is filled in.
-/

set_option autoImplicit false

namespace Reroute

/-- A rule that leads URLs somewhere else. -/
structure Rule where
  /-- What a URL has to look like. -/
  source : Path
  /-- Where it leads. -/
  destination : Path
  /-- What is evaluated in between, in order. -/
  pipeline : List Expression
deriving DecidableEq, Repr

namespace Rule

/-- The rule in its own syntax. -/
def print (r : Rule) : String :=
  r.source.print ++ " | " ++
    (if r.pipeline.isEmpty then "" else Expression.printArgs r.pipeline ++ " | ") ++
    r.destination.print

instance : ToString Rule := ⟨print⟩

end Rule

end Reroute
