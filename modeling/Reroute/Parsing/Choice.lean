import Reroute.Parsing.Parser

/-!
# Alternatives and lookahead

What fails is tried again some other way, from the cursor at which it was started.

## Main definitions

* `Parser.choice`, `Parser.optional` — alternatives
* `Parser.peek` — a look at what follows
-/

set_option autoImplicit false

namespace Reroute.Parsing.Parser

variable {α : Type}

/-- Try the alternatives in order, each from the same cursor; the first success
wins. When all fail, nothing is said about why. -/
def choice : List (Parser α) → Parser α
  | [] => fail .noChoice
  | p :: ps =>
    ⟨fun c =>
      match p.run c with
      | .success value next => .success value next
      | .failure _ _ => (choice ps).run c⟩

/-- Read what `p` reads, or nothing when it fails. Never fails. -/
def optional (p : Parser α) : Parser (Option α) :=
  ⟨fun c =>
    match p.run c with
    | .success value next => .success (some value) next
    | .failure _ _ => .success none c⟩

/-- The value that `p` would read here; the cursor stays. -/
def peek (p : Parser α) : Parser α :=
  ⟨fun c =>
    match p.run c with
    | .success value _ => .success value c
    | .failure _ error => .failure c.offset error⟩

end Reroute.Parsing.Parser
