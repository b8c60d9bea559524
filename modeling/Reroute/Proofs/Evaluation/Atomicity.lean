import Reroute.Proofs.Evaluation.Locality
import Reroute.Proofs.Grammar.Rule

/-!
# Steps that fail leave nothing behind

The steps of a rule assign variables at their roots only. So a step that fails changes nothing,
and where the steps of a rule fail, the bindings are those that the steps before the first
failure leave.

## Main results

* `Evaluation.bind_eq_error_iff` — where evaluations one after the other fail
* `exists_of_runPipeline_eq_error` — the steps before the first failure succeed
* `runPipeline_isAtomic` — what steps change, and what is left where they fail
-/

set_option autoImplicit false

namespace Reroute

/-! ### Failures -/

open Evaluation

section Failure

variable {functions : FunctionTable} {es : List Expression} {b left : Bindings} {error : EvalError}
  {events : List Event}

/-- Evaluations one after the other fail if the first one does, or if it succeeds and the
second one fails behind it. -/
theorem Evaluation.bind_eq_error_iff {α β : Type} {e : Evaluation α} {f : α → Evaluation β} :
    (e >>= f) b = ⟨.error error, left, events⟩ ↔
      e b = ⟨.error error, left, events⟩ ∨
        ∃ value mid before last, e b = ⟨.ok value, mid, before⟩ ∧
          f value mid = ⟨.error error, left, last⟩ ∧ events = before ++ last := by
  simp only [Bind.bind]
  rcases e b with ⟨error' | value, mid, before⟩
  · simp
  · constructor
    · intro h
      obtain ⟨hresult, rfl, rfl⟩ := Outcome.mk.inj h
      exact .inr ⟨value, mid, before, (f value mid).events, rfl, by rw [← hresult], rfl⟩
    · rintro (h | ⟨_, _, _, last, h, hf, rfl⟩)
      · cases h
      · cases h
        simp only [hf]

/-- Where steps fail, those before the first failure succeed, and what is left is left by the
step that fails. -/
theorem exists_of_runPipeline_eq_error
    (h : runPipeline functions es b = ⟨.error error, left, events⟩) :
    ∃ done e rest mid before last, es = done ++ e :: rest ∧
      runPipeline functions done b = ⟨.ok (), mid, before⟩ ∧
      e.eval functions mid = ⟨.error error, left, last⟩ ∧ events = before ++ last := by
  induction es generalizing b events with
  | nil => cases h
  | cons e es ih =>
    rw [runPipeline, bind_eq_error_iff] at h
    rcases h with hfirst | ⟨v, b', before, last, hfirst, hrest, rfl⟩
    · exact ⟨[], e, es, b, [], events, rfl, rfl, hfirst, rfl⟩
    · obtain ⟨done, e', rest, mid, before', last, rfl, hdone, hfail, rfl⟩ := ih hrest
      refine ⟨e :: done, e', rest, mid, before ++ before', last, rfl, ?_, hfail,
        (List.append_assoc ..).symm⟩
      simp only [runPipeline, Bind.bind, hfirst, hdone]

end Failure

/-! ### Steps -/

section Step

variable {functions : FunctionTable} {e : Expression} {b left : Bindings} {events : List Event}

/-- A step that fails changes nothing. -/
theorem Expression.eq_of_eval_eq_error {error : EvalError} (h : e.IsWellFormed)
    (heval : e.eval functions b = ⟨.error error, left, events⟩) : left = b := by
  obtain ⟨-, hassigned⟩ | ⟨x, f, rfl, hassigned⟩ := h.step_cases
  · obtain ⟨result, events', heq⟩ := exists_eval_eq functions hassigned b
    exact (Outcome.mk.inj (heval.symm.trans heq)).2.1
  · rw [eval_assign functions hassigned] at heval
    cases hf : (f.eval functions b).result with
    | error error' =>
      rw [hf] at heval
      exact (Outcome.mk.inj heval).2.1.symm
    | ok v =>
      rw [hf] at heval
      cases heval

/-- A step that succeeds changes nothing, unless it is an assignment: then its target stands for
its value, and nothing else changes. -/
theorem Expression.get?_of_eval_eq_ok {v : Value} (h : e.IsWellFormed)
    (heval : e.eval functions b = ⟨.ok v, left, events⟩) :
    (e.target? = none → left = b) ∧
      ∀ x, e.target? = some x →
        left.get? x = some (.value v) ∧ ∀ y ≠ x, left.get? y = b.get? y := by
  obtain ⟨htarget, hassigned⟩ | ⟨x, f, rfl, hassigned⟩ := h.step_cases
  · obtain ⟨result, events', heq⟩ := exists_eval_eq functions hassigned b
    refine ⟨fun _ => (Outcome.mk.inj (heval.symm.trans heq)).2.1, fun x hx => ?_⟩
    rw [htarget] at hx
    cases hx
  · rw [eval_assign functions hassigned] at heval
    cases hf : (f.eval functions b).result with
    | error error' =>
      rw [hf] at heval
      cases heval
    | ok w =>
      rw [hf] at heval
      obtain ⟨hvalue, rfl, -⟩ := Outcome.mk.inj heval
      obtain rfl := Except.ok.inj hvalue
      refine ⟨nofun, fun y hy => ?_⟩
      obtain rfl := Option.some.inj hy
      exact ⟨Bindings.get?_insert_self, fun z hz => Bindings.get?_insert_of_ne hz⟩

end Step

/-- Steps are atomic. Where the steps of a rule fail, those before the first failure succeed
and leave the bindings that are left, and the step behind them fails there for the same reason
and changes nothing. A step that succeeds changes nothing either, unless it assigns a variable:
then this variable stands for the value of the step, and all others for what they did. -/
theorem runPipeline_isAtomic (functions : FunctionTable) {es : List Expression}
    (h : ∀ e ∈ es, Grammar.Produces e) (b : Bindings) :
    (∀ error left events, runPipeline functions es b = ⟨.error error, left, events⟩ →
      ∃ done e rest before last, es = done ++ e :: rest ∧
        runPipeline functions done b = ⟨.ok (), left, before⟩ ∧
        e.eval functions left = ⟨.error error, left, last⟩ ∧ events = before ++ last) ∧
    (∀ e ∈ es, ∀ b' v left events, e.eval functions b' = ⟨.ok v, left, events⟩ →
      (e.target? = none → left = b') ∧
        ∀ x, e.target? = some x →
          left.get? x = some (.value v) ∧ ∀ y ≠ x, left.get? y = b'.get? y) := by
  constructor
  · intro error left events hrun
    obtain ⟨done, e, rest, mid, before, last, rfl, hdone, hfail, hevents⟩ :=
      exists_of_runPipeline_eq_error hrun
    -- The step that fails has no assignment below its root, so what is left is what it began with.
    have he : e.IsWellFormed := Grammar.produces_iff_isWellFormed.mp (h e (by simp))
    obtain rfl := Expression.eq_of_eval_eq_error he hfail
    exact ⟨done, e, rest, before, last, rfl, hdone, hfail, hevents⟩
  · intro e he b' v left events heval
    exact Expression.get?_of_eval_eq_ok (Grammar.produces_iff_isWellFormed.mp (h e he)) heval

/-- The second of three steps reads a variable that has no value. What the first one assigned
stays, and the third one is not reached. -/
theorem runPipeline_isAtomic_of_missing :
    ∃ r left events,
      Grammar.parseRule "/:a | :x <- concat(:a, \"!\"), concat(:x, :z), :a <- 1 | /:x" = .ok r ∧
        (∀ e ∈ r.pipeline, Grammar.Produces e) ∧
        runPipeline .defaults r.pipeline (.ofValues [("a", .text "go")]) =
          ⟨.error (.unresolvedVariable "z"), left, events⟩ ∧
        ∃ done e rest before last, r.pipeline = done ++ e :: rest ∧
          runPipeline .defaults done (.ofValues [("a", .text "go")]) = ⟨.ok (), left, before⟩ ∧
          e.eval .defaults left = ⟨.error (.unresolvedVariable "z"), left, last⟩ ∧
          events = before ++ last := by
  obtain ⟨r, hparse, hr⟩ := exists_ok_of_any
    (r := Grammar.parseRule "/:a | :x <- concat(:a, \"!\"), concat(:x, :z), :a <- 1 | /:x")
    (f := fun r => (runPipeline .defaults r.pipeline (.ofValues [("a", .text "go")])).result =
      .error (.unresolvedVariable "z"))
    (by decide +kernel)
  have hproduced := Grammar.produces_of_parseRule hparse
  have hresult := of_decide_eq_true hr
  rcases hrun : runPipeline .defaults r.pipeline (.ofValues [("a", .text "go")]) with
    ⟨result, left, events⟩
  rw [hrun] at hresult
  obtain rfl := hresult
  exact ⟨r, left, events, hparse, hproduced, hrun,
    (runPipeline_isAtomic .defaults hproduced _).1 _ left events hrun⟩

end Reroute
