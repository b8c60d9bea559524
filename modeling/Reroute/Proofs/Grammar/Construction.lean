import Reroute.Grammar.Rule
import Reroute.Proofs.Parsing.Construction

/-!
# The grammar is made with the combinators

Every parser of the rule language, from names to whole rules, is put together from characters,
fixed texts and numbers. Only the parser of expressions refers to itself, for the arguments of
calls; so the plans below refer to a parser of arguments, which is the one of expressions.

## Main definitions

* `expressionPlan`, `segmentPlan`, `rulePlan` and others — how the parsers are put together

## Main results

* `isBuilt_rule` — the parser of rules is made from nothing else
-/

set_option autoImplicit false

namespace Reroute.Grammar

open Parsing Parsing.Parser

variable {σ : Type} {self : Parser σ} {argument : Parser Expression}

def namePlan : Plan self name :=
  .map _ (.many1 (.satisfy _ _))

def patternPlan : Plan self pattern :=
  .delimited _ _

/-! ### Expressions -/

def booleanPlan : Plan self boolean :=
  .orElse (.map _ (.string _)) (.orElse (.map _ (.string _)) .noChoice)

def referencePlan : Plan self reference :=
  .atomic (.bind (.char _) fun _ => .bind namePlan fun _ => .pure _)

def commaPlan : Plan self comma :=
  .bind .spaces fun _ => .bind (.char _) fun _ => .bind .spaces fun _ => .pure _

def callPlan : Plan argument (callOf argument) :=
  .atomic (.bind namePlan fun _ => .bind (.char _) fun _ => .bind .spaces fun _ =>
    .bind (.separatedBy .reference commaPlan) fun _ => .bind .spaces fun _ =>
      .bind (.char _) fun _ => .pure _)

def expressionPlan : Plan argument (expressionOf argument) :=
  .orElse (.map _ (.delimited _ _)) (.orElse (.map _ .number) (.orElse booleanPlan
    (.orElse referencePlan (.orElse (.map _ callPlan) .noChoice))))

def assignmentPlan : Plan expression assignment :=
  .atomic (.bind (.char _) fun _ => .bind namePlan fun _ => .bind .spaces fun _ =>
    .bind (.string _) fun _ => .bind .spaces fun _ => .bind .reference fun _ => .pure _)

def fullExpressionPlan : Plan expression fullExpression :=
  .orElse (.map _ assignmentPlan) (.orElse .reference .noChoice)

/-! ### Paths -/

def modifierPlan : Plan self modifier :=
  .orElse (.map _ (.char _)) (.orElse (.map _ (.char _)) (.orElse (.map _ (.char _))
    (.orElse (.map _ patternPlan) .noChoice)))

def variableRunPlan : Plan self variableRun :=
  .atomic (.bind (.satisfy _ _) fun _ => .bind namePlan fun _ =>
    .bind (.optional modifierPlan) fun _ => .pure _)

def literalRunPlan : Plan self literalRun :=
  .map _ (.many (.satisfy _ _))

def segmentPlan : Plan self segment :=
  .atomic (.bind (.char _) fun _ =>
    .bind (.many (.orElse variableRunPlan (.orElse literalRunPlan .noChoice))) fun _ => .pure _)

def pathPlan : Plan self path :=
  .many1 segmentPlan

def queryTargetPlan : Plan self queryTarget :=
  .orElse (.atomic (.bind (.char _) fun _ => .bind namePlan fun _ =>
    .bind (.optional patternPlan) fun _ => .pure _)) (.orElse (.map _ namePlan) .noChoice)

def queryPlan : Plan self query :=
  .atomic (.bind (.string _) fun _ => .bind namePlan fun _ => .bind (.char _) fun _ =>
    .bind queryTargetPlan fun (_, _) => .pure _)

def fullPathPlan : Plan self fullPath :=
  .atomic (.bind pathPlan fun _ =>
    .bind (.many (.atomic (.bind .spaces fun _ => queryPlan))) fun _ => .pure _)

/-! ### Rules -/

def stagePlan : Plan expression stage :=
  .atomic (.bind .spaces fun _ => .bind (.char _) fun _ => .bind .spaces fun _ =>
    .bind fullExpressionPlan fun _ =>
      .bind (.many (.atomic (.bind commaPlan fun _ => fullExpressionPlan))) fun _ => .pure _)

def emptyStagePlan : Plan self emptyStage :=
  .atomic (.bind .spaces fun _ => .bind (.char _) fun _ => .bind .spaces fun _ =>
    .bind (.peek (.char _)) fun _ => .pure _)

def anyStagePlan : Plan expression (choice [stage, emptyStage]) :=
  .orElse stagePlan (.orElse emptyStagePlan .noChoice)

def rulePlan : Plan expression rule :=
  .atomic (.bind .spaces fun _ => .bind fullPathPlan fun _ =>
    .bind (.many anyStagePlan) fun _ =>
      .bind .spaces fun _ => .bind (.char _) fun _ => .bind .spaces fun _ =>
        .bind fullPathPlan fun _ => .bind .spaces fun _ => .pure _)

/-! ### What is built -/

variable {given : Family}

theorem builtFrom_expression : BuiltFrom given expression :=
  .fix fun _ => expressionPlan.builtFrom (.given (.inr rfl))

theorem builtFrom_fullPath : BuiltFrom given fullPath :=
  fullPathPlan.builtFrom builtFrom_expression

theorem isBuilt_rule : rule.IsBuilt :=
  rulePlan.builtFrom builtFrom_expression

end Reroute.Grammar
