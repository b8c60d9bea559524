import Mathlib.Data.List.Basic
import Reroute.Proofs.Grammar.Expression
import Reroute.Proofs.Parsing.Execution

/-!
# The grammar comes to an end

The rules of the grammar are executed as their plans say, without the precautions that make
every parser of the library end. They end nevertheless: every repetition reads something at
each turn, and the only reference of a rule to itself, from the arguments of a call to
expressions, is followed behind the name of the function. So neither the turns of a repetition
nor the calls within each other are more than there are characters left to read.

## Main definitions

* `Nonterminal` — the rules of the grammar, with their parsers and plans
* `expressionWithin` — the execution of expressions, with calls to a given depth

## Main results

* `expressionOf_expression` — the rule for expressions, as an equation
* `expressionWithin_eq`, `execute_plan_eq` — every rule comes to an end, and has the outcome
  of its parser
* `Nonterminal.returns` — so it does from every place of a text, where it reads something or
  gives up without having moved
-/

set_option autoImplicit false

namespace Reroute.Grammar

open Parsing Parsing.Parser Cursor Expression

variable {α β : Type} {c d : Cursor} {n : Nat}

/-! ### Expressions -/

theorem isForward_expression : expression.IsForward :=
  BuiltFrom.isForward (builtFrom_expression : expression.IsBuilt) fun _ _ h => h.elim

theorem consumes_expression : expression.Consumes := by
  intro c e d hread
  obtain ⟨he, -, t, ht, hbetween⟩ := reads_expression.mp hread
  obtain ⟨x, u, rfl, -⟩ := ht.exists_cons he.isWellFormed
  exact hbetween.left_lt_iff.mpr (by simp)

/-- The arguments of a call are expressions at any place, so expressions are what the rule
for them says of themselves. -/
theorem expressionOf_expression : expressionOf expression = expression := by
  ext c : 2
  have hreads {e : Expression} {d : Cursor} :
      (expressionOf expression).Reads c e d ↔ expression.Reads c e d := by
    rw [reads_expression]
    exact ⟨stands_of_reads_expressionOf (understands_expression _),
      reads_expressionOf_of_stands (understands_expression _)⟩
  by_cases hfails : expression.FailsAt c
  · -- Both are alternatives, which fail alike.
    have hleft : (expressionOf expression).FailsAt c := fun e d h => hfails e d (hreads.mp h)
    have hright : (expressionOf (expression.restrict c.left)).FailsAt c :=
      fun e d h => hfails e d (reads_fix.mpr h)
    calc
      (expressionOf expression).run c = .failure c.offset ⟨.noChoice, c.offset⟩ :=
        run_choice_of_failsAt hleft
      _ = (expressionOf (expression.restrict c.left)).run c :=
        (run_choice_of_failsAt hright).symm
      _ = expression.run c := (run_fix expressionOf c).symm
  · obtain ⟨e, d, hread⟩ : ∃ e d, expression.Reads c e d := by
      simpa [FailsAt] using hfails
    exact (hreads.mpr hread).trans hread.symm

/-- The execution of expressions, with less than `n` calls within each other and no more than
`n` turns of any repetition. -/
def expressionWithin : (n : Nat) → Execution Expression
  | 0 => fun _ => none
  | n + 1 => (expressionPlan : Plan expression _).execute (expressionWithin n) (n + 1)

theorem isGuarded_callPlan : (callPlan : Plan expression _).IsGuarded := by
  simp [callPlan, namePlan, Plan.IsGuarded, Plan.IsProductive]

theorem isGuarded_expressionPlan : (expressionPlan : Plan expression _).IsGuarded := by
  simp [expressionPlan, booleanPlan, referencePlan, namePlan, Plan.IsGuarded,
    isGuarded_callPlan]

/-- Calls are not deeper within each other than there are characters left to read. -/
theorem expressionWithin_eq (hn : c.rest.length < n) :
    expressionWithin n c = some (expression.run c) := by
  induction n generalizing c with
  | zero => omega
  | succ n ih =>
    have hsupplied : (expressionPlan : Plan expression _).IsSupplied (expressionWithin n) c := by
      intro d hd hlt
      have hless := hd.length_lt_iff.mpr (Nat.ne_of_gt (hlt isGuarded_expressionPlan))
      exact ih (by omega)
    rw [expressionWithin, Plan.execute_eq _ isForward_expression consumes_expression hn hsupplied,
      expressionOf_expression]

theorem isSupplied_expressionWithin {p : Parser α} (plan : Plan expression p)
    (hn : c.rest.length < n) : plan.IsSupplied (expressionWithin n) c :=
  fun _ hd _ => expressionWithin_eq (Nat.lt_of_le_of_lt hd.length_le hn)

/-- Whatever refers to expressions comes to an end, with the outcome of its parser. -/
theorem execute_plan_eq {p : Parser α} (plan : Plan expression p) (hn : c.rest.length < n) :
    plan.execute (expressionWithin n) n c = some (p.run c) :=
  plan.execute_eq isForward_expression consumes_expression hn (isSupplied_expressionWithin plan hn)

/-! ### All the rules -/

/-- The rules of the grammar. -/
inductive Nonterminal where
  | name | pattern | segment | path | query | fullPath
  | boolean | expression | functionCall | assignment | fullExpression | rule
deriving DecidableEq, Repr

namespace Nonterminal

/-- What a rule reads. -/
abbrev Value : Nonterminal → Type
  | name | pattern => String
  | segment => Segment
  | path => List Segment
  | query => Query
  | fullPath => Path
  | boolean | expression | fullExpression => Expression
  | functionCall => String × List Expression
  | assignment => String × Expression
  | rule => Rule

/-- The parser of a rule. -/
def parser : (r : Nonterminal) → Parser r.Value
  | name => Grammar.name
  | pattern => Grammar.pattern
  | segment => Grammar.segment
  | path => Grammar.path
  | query => Grammar.query
  | fullPath => Grammar.fullPath
  | boolean => Grammar.boolean
  | expression => Grammar.expression
  | functionCall => Grammar.functionCall
  | assignment => Grammar.assignment
  | fullExpression => Grammar.fullExpression
  | rule => Grammar.rule

/-- How the parser of a rule is put together. -/
def plan : (r : Nonterminal) → Plan Grammar.expression r.parser
  | name => namePlan
  | pattern => patternPlan
  | segment => segmentPlan
  | path => pathPlan
  | query => queryPlan
  | fullPath => fullPathPlan
  | boolean => booleanPlan
  | expression => .reference
  | functionCall => callPlan
  | assignment => assignmentPlan
  | fullExpression => fullExpressionPlan
  | rule => rulePlan

theorem isProductive_plan (r : Nonterminal) : r.plan.IsProductive := by
  cases r <;>
    simp [plan, namePlan, patternPlan, segmentPlan, pathPlan, queryPlan, fullPathPlan, booleanPlan,
      callPlan, assignmentPlan, fullExpressionPlan, rulePlan, Plan.IsProductive]

theorem isAtomic (r : Nonterminal) : r.parser.IsAtomic := by
  cases r with
  | name | pattern | segment | query | fullPath | functionCall | assignment | rule =>
    exact isAtomic_map
  | path => exact isAtomic_map.many1
  | boolean | fullExpression => exact isAtomic_choice
  | expression =>
    have hchoice : (expressionOf Grammar.expression).IsAtomic := isAtomic_choice
    rwa [expressionOf_expression] at hchoice

/-- The outcome of a rule is decisive. -/
theorem isDecisive_run (r : Nonterminal) (c : Cursor) : (r.parser.run c).IsDecisive c := by
  cases hrun : r.parser.run c with
  | success value next =>
    have hconsumes := r.isProductive_plan.consumes isForward_expression consumes_expression
    obtain ⟨t, ht⟩ := (r.plan.isForward isForward_expression).leadsTo hrun
    obtain ⟨x, u, rfl⟩ := List.exists_cons_of_ne_nil
      (ht.left_lt_iff.mp (hconsumes c value next hrun))
    exact ⟨x, u, ht⟩
  | failure stop error => exact r.isAtomic c stop error hrun

/-- The rules of the grammar return from every place of a text: within as many turns and calls
as there are characters left to read, and one more, a rule has the outcome of its parser. It
has read something then, or has failed where it began. Expressions that are arguments of a
call are read further on than the call only. -/
theorem returns (text : String) (offset : Nat) :
    (∀ r : Nonterminal,
      (∀ n, (ofOffset text offset).rest.length < n →
        r.plan.execute (expressionWithin n) n (ofOffset text offset) =
          some (r.parser.parse text offset)) ∧
      (r.parser.parse text offset).IsDecisive (ofOffset text offset)) ∧
    ∀ n d, (ofOffset text offset).rest.length < n →
      (functionCall.plan).RefersTo (expressionWithin n) n (ofOffset text offset) d →
        (ofOffset text offset).LeadsTo d ∧ offset < d.offset := by
  refine ⟨fun r => ⟨fun n hn => execute_plan_eq r.plan hn, r.isDecisive_run _⟩,
    fun n d hn h => ?_⟩
  have hd := isGuarded_callPlan.lt_of_refersTo isForward_expression consumes_expression hn
    (isSupplied_expressionWithin callPlan hn) h
  rwa [offset_ofOffset] at hd

/-- The argument of a call is read behind the parenthesis. -/
example : functionCall.plan.RefersTo (expressionWithin 5) 5 (start "f(1)")
    ⟨some '(', ['1', ')'], 2, 0⟩ := by
  decide +kernel

end Nonterminal

end Reroute.Grammar
