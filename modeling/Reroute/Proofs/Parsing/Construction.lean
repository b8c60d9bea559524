import Reroute.Parsing.Choice
import Reroute.Parsing.Lexeme

/-!
# Parsers made with the combinators

What the library offers is closed: a parser that is put together from characters, fixed texts
and numbers, with functions and tests of any kind, is made in one of a fixed number of ways.
A property of parsers that each of these ways keeps holds for every such parser.

That a parser is built does not say how, since different constructions may give parsers that
do the same. A plan of a parser is one construction of it, and can be inspected.

## Main definitions

* `Parser.BuiltFrom` — parsers that are made with the combinators from given ones
* `Parser.IsBuilt` — parsers that are made from nothing else
* `Parser.Plan` — a construction of a parser, which may refer to one that is given

## Main results

* `Parser.Plan.builtFrom` — a parser with a plan is built
-/

set_option autoImplicit false

namespace Reroute.Parsing.Parser

variable {α β γ : Type}

/-- A family of parsers, for values of any type. -/
abbrev Family := (β : Type) → Parser β → Prop

/-- What the library makes of characters, fixed texts and numbers, and of the parsers that
are `given`. -/
inductive BuiltFrom : Family → {α : Type} → Parser α → Prop where
  | given {given : Family} {α : Type} {p : Parser α} (h : given α p) :
      BuiltFrom given p
  | satisfy {given : Family} (test : Char → Option Char → Bool)
      (expected : Option String) : BuiltFrom given (satisfy test expected)
  | string {given : Family} (literal : String) :
      BuiltFrom given (string literal)
  | number {given : Family} : BuiltFrom given number
  | succeed {given : Family} {α : Type} (value : α) :
      BuiltFrom given (succeed value)
  | many {given : Family} {α : Type} {p : Parser α}
      (h : BuiltFrom given p) : BuiltFrom given (many p)
  | many1 {given : Family} {α : Type} {p : Parser α}
      (h : BuiltFrom given p) : BuiltFrom given (many1 p)
  | optional {given : Family} {α : Type} {p : Parser α}
      (h : BuiltFrom given p) : BuiltFrom given (optional p)
  | peek {given : Family} {α : Type} {p : Parser α}
      (h : BuiltFrom given p) : BuiltFrom given (peek p)
  | separatedBy {given : Family} {α β : Type} {p : Parser α}
      {q : Parser β} (item : BuiltFrom given p) (separator : BuiltFrom given q) :
      BuiltFrom given (separatedBy p q)
  | choice {given : Family} {α : Type} {ps : List (Parser α)}
      (h : ∀ p ∈ ps, BuiltFrom given p) : BuiltFrom given (choice ps)
  | map {given : Family} {α β : Type} {p : Parser α} (f : α → β)
      (h : BuiltFrom given p) : BuiltFrom given (p.map f)
  | chain {given : Family} {α β : Type} {p : Parser α}
      {f : α → Parser β} (first : BuiltFrom given p) (next : ∀ value, BuiltFrom given (f value)) :
      BuiltFrom given (p.chain f)
  | delay {given : Family} {α : Type} {build : Unit → Parser α}
      (h : BuiltFrom given (build ())) : BuiltFrom given (delay build)
  /-- A parser that refers to itself may use itself like any parser that is given. -/
  | fix {given : Family} {α : Type} {f : Parser α → Parser α}
      (h : ∀ p, BuiltFrom (fun β q => given β q ∨ Sigma.mk β q = ⟨α, p⟩) (f p)) :
      BuiltFrom given (fix f)

/-- What the library makes of characters, fixed texts and numbers alone. -/
def IsBuilt (p : Parser α) : Prop :=
  BuiltFrom (fun _ _ => False) p

/-! ### Constructions that are made of others -/

section Constructions

variable {given : Family} {p : Parser α} {q : Parser β} {r : Parser γ}

theorem BuiltFrom.pure (value : α) : BuiltFrom given (pure value : Parser α) :=
  .succeed value

theorem BuiltFrom.bind {f : α → Parser β} (first : BuiltFrom given p)
    (next : ∀ value, BuiltFrom given (f value)) : BuiltFrom given (p >>= f) :=
  .chain first next

theorem BuiltFrom.atomic (h : BuiltFrom given p) : BuiltFrom given p.atomic :=
  .map id h

theorem BuiltFrom.skip (h : BuiltFrom given p) : BuiltFrom given (skip p) :=
  .chain h fun _ => .succeed ()

theorem BuiltFrom.skipMany (h : BuiltFrom given p) : BuiltFrom given (skipMany p) :=
  .skip (.many h)

theorem BuiltFrom.between (opening : BuiltFrom given p) (h : BuiltFrom given q)
    (closing : BuiltFrom given r) : BuiltFrom given (between p q r) :=
  .atomic (.bind opening fun _ => .bind h fun value => .bind closing fun _ => .pure value)

theorem BuiltFrom.char (x : Char) : BuiltFrom given (char x) :=
  .satisfy _ _

theorem BuiltFrom.word : BuiltFrom given word :=
  .atomic (.bind (.satisfy _ _) fun _ => .bind (.many (.satisfy _ _)) fun _ => .pure _)

theorem BuiltFrom.delimited (opening closing : Char) :
    BuiltFrom given (delimited opening closing) :=
  .between (.char opening) (.map _ (.many (.satisfy _ _))) (.char closing)

theorem BuiltFrom.stringLiteral : BuiltFrom given stringLiteral :=
  .delimited _ _

theorem BuiltFrom.spaces : BuiltFrom given spaces :=
  .map _ (.many (.satisfy _ _))

end Constructions

/-! ### Plans -/

/-- A plan says how a parser is put together from characters, fixed texts and numbers, and
from references to the parser `self`. -/
inductive Plan {σ : Type} (self : Parser σ) : {α : Type} → Parser α → Type 1 where
  | reference : Plan self self
  | satisfy (test : Char → Option Char → Bool) (expected : Option String) :
      Plan self (satisfy test expected)
  | string (literal : String) : Plan self (string literal)
  | number : Plan self number
  | succeed {α : Type} (value : α) : Plan self (succeed value)
  | many {α : Type} {p : Parser α} (item : Plan self p) : Plan self (many p)
  | many1 {α : Type} {p : Parser α} (item : Plan self p) : Plan self (many1 p)
  | optional {α : Type} {p : Parser α} (plan : Plan self p) : Plan self (optional p)
  | peek {α : Type} {p : Parser α} (plan : Plan self p) : Plan self (peek p)
  | separatedBy {α β : Type} {p : Parser α} {q : Parser β} (item : Plan self p)
      (separator : Plan self q) : Plan self (separatedBy p q)
  | noChoice {α : Type} : Plan self (choice ([] : List (Parser α)))
  | orElse {α : Type} {p : Parser α} {ps : List (Parser α)} (first : Plan self p)
      (others : Plan self (choice ps)) : Plan self (choice (p :: ps))
  | map {α β : Type} {p : Parser α} (f : α → β) (plan : Plan self p) : Plan self (p.map f)
  | chain {α β : Type} {p : Parser α} {f : α → Parser β} (first : Plan self p)
      (next : ∀ value, Plan self (f value)) : Plan self (p.chain f)

namespace Plan

variable {σ : Type} {self : Parser σ} {p : Parser α} {q : Parser β} {r : Parser γ}

abbrev pure (value : α) : Plan self (pure value : Parser α) :=
  .succeed value

abbrev bind {f : α → Parser β} (first : Plan self p) (next : ∀ value, Plan self (f value)) :
    Plan self (p >>= f) :=
  .chain first next

abbrev atomic (plan : Plan self p) : Plan self p.atomic :=
  .map id plan

abbrev between (opening : Plan self p) (plan : Plan self q) (closing : Plan self r) :
    Plan self (between p q r) :=
  .atomic (.bind opening fun _ => .bind plan fun value => .bind closing fun _ => .pure value)

abbrev char (x : Char) : Plan self (char x) :=
  .satisfy _ _

abbrev delimited (opening closing : Char) : Plan self (delimited opening closing) :=
  .between (.char opening) (.map _ (.many (.satisfy _ _))) (.char closing)

abbrev spaces : Plan self spaces :=
  .map _ (.many (.satisfy _ _))

end Plan

/-- Alternatives may be tried one against all the others. -/
theorem choice_cons_eq (p : Parser α) (ps : List (Parser α)) :
    choice (p :: ps) = choice [p, choice ps] := by
  have hsingle (c : Cursor) : (choice [choice ps]).run c = (choice ps).run c := by
    induction ps with
    | nil => rfl
    | cons q qs ih =>
      rw [choice, choice, choice] at *
      dsimp only at *
      cases q.run c with
      | success value next => rfl
      | failure stop error => exact ih
  ext c : 2
  rw [choice, choice]
  dsimp only
  cases p.run c with
  | success value next => rfl
  | failure stop error => exact (hsingle c).symm

/-- What has a plan is built from what its references stand for. -/
theorem Plan.builtFrom {σ : Type} {self : Parser σ} {given : Family} {p : Parser α}
    (plan : Plan self p) (h : BuiltFrom given self) : BuiltFrom given p := by
  induction plan with
  | reference => exact h
  | satisfy test expected => exact .satisfy test expected
  | string literal => exact .string literal
  | number => exact .number
  | succeed value => exact .succeed value
  | many _ ih => exact .many ih
  | many1 _ ih => exact .many1 ih
  | optional _ ih => exact .optional ih
  | peek _ ih => exact .peek ih
  | separatedBy _ _ ihp ihq => exact .separatedBy ihp ihq
  | noChoice => exact .choice (by simp)
  | orElse _ _ ihp ihps =>
    rw [choice_cons_eq]
    exact .choice (by simp [ihp, ihps])
  | map f _ ih => exact .map f ih
  | chain _ _ ihp ihf => exact .chain ihp ihf

end Reroute.Parsing.Parser
