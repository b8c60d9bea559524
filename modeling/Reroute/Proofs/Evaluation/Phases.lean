import Reroute.Proofs.Evaluation.Atomicity
import Reroute.Proofs.Evaluation.Noninterference

/-!
# Errors tell where a rule fails

A rule is applied in three phases: its source is matched, its steps are evaluated from what the
source reads off the URL, and its destination is filled in with what the steps leave. Each
phase has errors of its own, and an error comes out exactly if its phase is reached and fails
with it.

## Main definitions

* `EvalError.IsOfStep` — errors that steps fail with
* `EvalError.HasReason` — what is wrong with the variables and functions of a step

## Main results

* `Expression.eval_hasReason` — a step fails for a reason that is found in it
* `CompiledRule.result_evaluate_eq_ok_iff` — where a rule leads to
* `CompiledRule.evaluate_reports_phase` — which error comes out of a rule, and when
-/

set_option autoImplicit false

namespace Reroute

/-! ### Errors of steps -/

namespace EvalError

/-- Errors that steps fail with. -/
inductive IsOfStep : EvalError → Prop where
  | unresolvedVariable (x : String) : IsOfStep (.unresolvedVariable x)
  | unknownFunction (f : String) : IsOfStep (.unknownFunction f)
  | functionFailed (f : String) (error : FunctionError) : IsOfStep (.functionFailed f error)

/-- A step that reads some variables and calls some functions has a reason to fail. -/
inductive HasReason (functions : FunctionTable) (reads calls : List String) : EvalError → Prop where
  /-- One of the variables has no value. -/
  | unresolvedVariable {x : String} (h : x ∈ reads) :
      HasReason functions reads calls (.unresolvedVariable x)
  /-- There is none of the functions by this name. -/
  | unknownFunction {f : String} (h : f ∈ calls) (hnone : functions.get? f = none) :
      HasReason functions reads calls (.unknownFunction f)
  /-- One of the functions fails for some arguments. -/
  | functionFailed {f : String} {g : Function} {args : List Value} {error : FunctionError}
      (h : f ∈ calls) (hsome : functions.get? f = some g) (hfail : g args = .error error) :
      HasReason functions reads calls (.functionFailed f error)

variable {functions : FunctionTable} {reads reads' calls calls' : List String} {error : EvalError}

theorem HasReason.isOfStep (h : error.HasReason functions reads calls) : error.IsOfStep := by
  cases h with
  | unresolvedVariable => exact .unresolvedVariable _
  | unknownFunction => exact .unknownFunction _
  | functionFailed => exact .functionFailed _ _

theorem HasReason.mono (h : error.HasReason functions reads calls) (hreads : reads ⊆ reads')
    (hcalls : calls ⊆ calls') : error.HasReason functions reads' calls' := by
  cases h with
  | unresolvedVariable hx => exact .unresolvedVariable (hreads hx)
  | unknownFunction hf hnone => exact .unknownFunction (hcalls hf) hnone
  | functionFailed hf hsome hfail => exact .functionFailed (hcalls hf) hsome hfail

end EvalError

open Evaluation

namespace Expression

mutual

/-- An expression fails for a reason that is found in it. -/
theorem eval_hasReason (functions : FunctionTable) : (e : Expression) →
    (e.eval functions).Ensures (fun _ => True) (fun _ _ => True)
      (EvalError.HasReason functions e.reads e.calls)
  | literal v => by
    rw [eval]
    exact ensures_pure fun _ _ => trivial
  | var x => by
    rw [eval]
    exact ensures_lookup_of_allowed (fun _ _ _ => trivial)
      (.unresolvedVariable (List.mem_singleton_self x))
  | assign target e => by
    rw [eval]
    refine (eval_hasReason functions e).bind fun v => (ensures_record _).bind fun _ => ?_
    exact (ensures_store fun _ _ => trivial).bind fun _ => ensures_pure fun _ h => h
  | call f args => by
    rw [eval]
    have hf : f ∈ (call f args).calls := List.mem_cons_self
    cases hget : functions.get? f with
    | none => exact ensures_fail fun _ _ => .unknownFunction hf hget
    | some g =>
      -- The arguments come first, so their reasons are reasons of the call.
      have hargs := (evalAll_hasReason functions args).allow fun _ h =>
        h.mono (List.Subset.refl _) (List.subset_cons_self f _)
      refine hargs.bind fun vs => (ensures_record _).bind fun _ => ?_
      exact ensures_apply fun _ hfail => .functionFailed hf hget hfail

/-- Expressions from left to right fail for a reason that is found in them. -/
theorem evalAll_hasReason (functions : FunctionTable) : (es : List Expression) →
    (evalAll functions es).Ensures (fun _ => True) (fun _ _ => True)
      (EvalError.HasReason functions (readsAll es) (callsAll es))
  | [] => by
    rw [evalAll]
    exact ensures_pure fun _ _ => trivial
  | e :: es => by
    rw [evalAll]
    -- A reason that is found in one of the expressions is found in all of them together.
    have hfirst := (eval_hasReason functions e).allow fun _ h =>
      h.mono (List.subset_append_left _ (readsAll es)) (List.subset_append_left _ (callsAll es))
    have hrest := (evalAll_hasReason functions es).allow fun _ h =>
      h.mono (List.subset_append_right e.reads _) (List.subset_append_right e.calls _)
    exact hfirst.bind fun v => hrest.bind fun vs => ensures_pure fun _ h => h

end

end Expression

section Pipeline

variable {functions : FunctionTable} {es : List Expression} {b : Bindings} {error : EvalError}

/-- Steps fail with the error of the first one that fails, which has its reason in this step. -/
theorem exists_first_of_runPipeline (h : (runPipeline functions es b).result = .error error) :
    ∃ done e rest, es = done ++ e :: rest ∧ (runPipeline functions done b).result = .ok () ∧
      (e.eval functions (runPipeline functions done b).bindings).result = .error error ∧
      error.HasReason functions e.reads e.calls := by
  rcases hrun : runPipeline functions es b with ⟨result, left, events⟩
  rw [hrun] at h
  obtain rfl : result = .error error := h
  obtain ⟨done, e, rest, mid, before, last, hes, hdone, hfail, -⟩ :=
    exists_of_runPipeline_eq_error hrun
  have hreason := e.eval_hasReason functions mid trivial
  rw [hfail] at hreason
  exact ⟨done, e, rest, hes, by rw [hdone], by rw [hdone, hfail], hreason⟩

/-- Steps fail with errors of steps. -/
theorem isOfStep_of_runPipeline (h : (runPipeline functions es b).result = .error error) :
    error.IsOfStep := by
  obtain ⟨done, e, rest, -, -, -, hreason⟩ := exists_first_of_runPipeline h
  exact hreason.isOfStep

end Pipeline

/-! ### Messages -/

theorem head?_toList_append {s t : String} {x : Char} (h : s.toList.head? = some x) :
    (s ++ t).toList.head? = some x := by
  rw [String.toList_append, List.head?_append, h]
  rfl

theorem RenderError.exists_head?_message (e : RenderError) :
    ∃ x ≠ 'I', e.message.toList.head? = some x := by
  cases e with
  | listInScalar name =>
    exact ⟨'V', by decide, head?_toList_append (head?_toList_append (by decide))⟩
  | scalarInList name value =>
    refine ⟨'V', by decide, head?_toList_append (head?_toList_append ?_)⟩
    exact head?_toList_append (head?_toList_append (by decide))
  | unbound name =>
    exact ⟨'U', by decide, head?_toList_append (head?_toList_append (by decide))⟩

/-- Only an error in the syntax of a URL begins like an error in the syntax of a pattern. -/
theorem EvalError.exists_head?_message {error : EvalError} (h : ∀ e, error ≠ .invalidUrl e) :
    ∃ x ≠ 'I', error.message.toList.head? = some x := by
  cases error with
  | noMatch url =>
    exact ⟨'U', by decide, head?_toList_append (head?_toList_append (by decide))⟩
  | unresolvedVariable name =>
    exact ⟨'V', by decide, head?_toList_append (head?_toList_append (by decide))⟩
  | unknownFunction name =>
    exact ⟨'F', by decide, head?_toList_append (head?_toList_append (by decide))⟩
  | functionFailed name e =>
    refine ⟨'F', by decide, head?_toList_append (head?_toList_append ?_)⟩
    exact head?_toList_append (by decide)
  | render e => exact e.exists_head?_message
  | invalidUrl e => exact absurd rfl (h e)

/-- No other error reads like the one of a pattern that is no regular expression, whatever is
said about the pattern. -/
theorem EvalError.message_ne_invalidPattern {error : EvalError} (h : ∀ e, error ≠ .invalidUrl e)
    (p : InvalidPattern) (explanation : String) : error.message ≠ p.message ++ explanation := by
  intro heq
  obtain ⟨x, hx, hhead⟩ := exists_head?_message h
  have hpattern : (p.message ++ explanation).toList.head? = some 'I' := by
    refine head?_toList_append ?_
    exact head?_toList_append (head?_toList_append (by decide))
  rw [heq, hpattern] at hhead
  exact hx (Option.some.inj hhead).symm

namespace CompiledRule

variable {r : CompiledRule} {functions : FunctionTable} {u : Url} {b : Bindings} {error : EvalError}

/-! ### Phases -/

section Match

variable (hmatch : r.isMatch u) (hb : r.matcher.extract u = some b)
include hmatch hb

/-- A URL that matches goes through the steps of a rule, and then the destination is filled in. -/
theorem result_evaluate_eq :
    (r.evaluate functions u).result =
      match (runPipeline functions r.rule.pipeline b).result with
      | .error error => .error error
      | .ok () =>
        match r.rule.destination.render (runPipeline functions r.rule.pipeline b).bindings with
        | .ok t => .ok (redirect u t)
        | .error error => .error (.render error) := by
  rw [result_evaluate hmatch hb]
  cases (runPipeline functions r.rule.pipeline b).result with
  | error error => rfl
  | ok _ => exact result_arrive

/-- An error of a step comes out exactly if the steps fail with it. -/
theorem result_evaluate_eq_step_iff :
    (r.evaluate functions u).result = .error error ∧ error.IsOfStep ↔
      (runPipeline functions r.rule.pipeline b).result = .error error := by
  rw [result_evaluate_eq hmatch hb]
  cases hrun : (runPipeline functions r.rule.pipeline b).result with
  | error error' =>
    rw [Except.error.injEq, Except.error.injEq]
    constructor
    · exact fun h => h.1
    · rintro rfl
      exact ⟨rfl, isOfStep_of_runPipeline hrun⟩
  | ok _ =>
    cases r.rule.destination.render (runPipeline functions r.rule.pipeline b).bindings with
    | error error' =>
      constructor
      · rintro ⟨⟨⟩, ⟨⟩⟩
      · rintro ⟨⟩
    | ok t =>
      constructor
      · rintro ⟨⟨⟩, -⟩
      · rintro ⟨⟩

/-- An error of a destination comes out exactly if the steps succeed, and the destination cannot
be filled in with what they leave. -/
theorem result_evaluate_eq_render_iff {error : RenderError} :
    (r.evaluate functions u).result = .error (.render error) ↔
      (runPipeline functions r.rule.pipeline b).result = .ok () ∧
        r.rule.destination.render (runPipeline functions r.rule.pipeline b).bindings =
          .error error := by
  rw [result_evaluate_eq hmatch hb]
  cases hrun : (runPipeline functions r.rule.pipeline b).result with
  | error error' =>
    constructor
    · rintro ⟨⟩
      cases isOfStep_of_runPipeline hrun
    · rintro ⟨⟨⟩, -⟩
  | ok _ =>
    cases r.rule.destination.render (runPipeline functions r.rule.pipeline b).bindings <;> simp

/-- A rule leads to what the destination is filled in to with what the steps leave. -/
theorem result_evaluate_eq_ok_iff {v : Url} :
    (r.evaluate functions u).result = .ok v ↔
      (runPipeline functions r.rule.pipeline b).result = .ok () ∧
        ∃ t, r.rule.destination.render (runPipeline functions r.rule.pipeline b).bindings = .ok t ∧
          v = redirect u t := by
  rw [result_evaluate_eq hmatch hb]
  cases (runPipeline functions r.rule.pipeline b).result with
  | error error' => simp
  | ok _ =>
    cases r.rule.destination.render (runPipeline functions r.rule.pipeline b).bindings with
    | error error' => simp
    | ok t => simp [eq_comm]

end Match

/-- An error that comes out of a rule that a URL matches comes out of the steps or of the
destination. -/
theorem isOfStep_or_render (hmatch : r.isMatch u)
    (h : (r.evaluate functions u).result = .error error) :
    error.IsOfStep ∨ ∃ e, error = .render e := by
  obtain ⟨b, hb⟩ := exists_extract_of_isMatch hmatch
  rw [result_evaluate_eq hmatch hb] at h
  cases hrun : (runPipeline functions r.rule.pipeline b).result with
  | error error' =>
    rw [hrun] at h
    obtain rfl := Except.error.inj h
    exact .inl (isOfStep_of_runPipeline hrun)
  | ok _ =>
    rw [hrun] at h
    dsimp only at h
    split at h
    · cases h
    · exact .inr ⟨_, (Except.error.inj h).symm⟩

theorem result_evaluate_ne_invalidUrl {e : Url.Error} :
    (r.evaluate functions u).result ≠ .error (.invalidUrl e) := by
  intro h
  by_cases hmatch : r.isMatch u
  · obtain hstep | ⟨_, hrender⟩ := isOfStep_or_render hmatch h
    · cases hstep
    · cases hrender
  · rw [result_evaluate_of_not_isMatch hmatch] at h
    cases h

/-- Errors come from the phase that fails. A URL is rejected exactly if it does not match; the
error quotes it, and no function is called. Otherwise an error of a step comes out exactly if
the steps fail with it, and then it is the one of the first step that fails. If the steps
succeed, an error of the destination comes out exactly if it cannot be filled in, and the
redirected URL if it can. No error is about the syntax of the URL, and none reads like one about
the syntax of a pattern. -/
theorem evaluate_reports_phase (r : CompiledRule) (functions : FunctionTable) (u : Url) :
    ((∃ url, (r.evaluate functions u).result = .error (.noMatch url)) ↔ ¬r.isMatch u) ∧
    (¬r.isMatch u → r.evaluate functions u =
      { result := .error (.noMatch u.print), events := [.rejected u.print r.rule.print] }) ∧
    (r.isMatch u → ∃ b, r.matcher.extract u = some b ∧
      (∀ error, (r.evaluate functions u).result = .error error ∧ error.IsOfStep ↔
        (runPipeline functions r.rule.pipeline b).result = .error error) ∧
      (∀ error, (runPipeline functions r.rule.pipeline b).result = .error error →
        ∃ done e rest, r.rule.pipeline = done ++ e :: rest ∧
          (runPipeline functions done b).result = .ok () ∧
          (e.eval functions (runPipeline functions done b).bindings).result = .error error ∧
          error.HasReason functions e.reads e.calls) ∧
      (∀ error, (r.evaluate functions u).result = .error (.render error) ↔
        (runPipeline functions r.rule.pipeline b).result = .ok () ∧
          r.rule.destination.render (runPipeline functions r.rule.pipeline b).bindings =
            .error error) ∧
      (∀ v, (r.evaluate functions u).result = .ok v ↔
        (runPipeline functions r.rule.pipeline b).result = .ok () ∧
          ∃ t, r.rule.destination.render (runPipeline functions r.rule.pipeline b).bindings =
            .ok t ∧ v = redirect u t)) ∧
    (∀ error, (r.evaluate functions u).result ≠ .error (.invalidUrl error)) ∧
    (∀ error, (r.evaluate functions u).result = .error error →
      ∀ (p : InvalidPattern) (explanation : String), error.message ≠ p.message ++ explanation) := by
  have hurl : ∀ error, (r.evaluate functions u).result ≠ .error (.invalidUrl error) :=
    fun _ => result_evaluate_ne_invalidUrl
  refine ⟨⟨?_, fun h => ⟨u.print, result_evaluate_of_not_isMatch h⟩⟩, evaluate_of_not_isMatch,
    fun hmatch => ?_, hurl, fun error h => ?_⟩
  · -- Behind a match every error is one of a step or of the destination.
    rintro ⟨url, hresult⟩ hmatch
    obtain hstep | ⟨_, hrender⟩ := isOfStep_or_render hmatch hresult
    · cases hstep
    · cases hrender
  · obtain ⟨b, hb⟩ := exists_extract_of_isMatch hmatch
    exact ⟨b, hb, fun _ => result_evaluate_eq_step_iff hmatch hb,
      fun _ => exists_first_of_runPipeline, fun _ => result_evaluate_eq_render_iff hmatch hb,
      fun _ => result_evaluate_eq_ok_iff hmatch hb⟩
  · exact EvalError.message_ne_invalidPattern fun e he => hurl e (he ▸ h)

/-- A URL without the list that the source asks for is rejected. Another one has the list, which
does not fit into the destination. -/
theorem evaluate_reports_phase_of_list :
    let plain (path : String) : Url :=
      ⟨"https", some ⟨"", "", .name "example.com", none⟩, false, path, none, none⟩
    ∃ rule r,
      Grammar.parseRule "/:x+ | :n <- concat(\"a\", 1) | /:n/:x" = .ok rule ∧
        (ofRule {} rule).result = .ok r ∧
        ¬r.isMatch (plain "/") ∧
        r.evaluate .defaults (plain "/") =
          { result := .error (.noMatch (plain "/").print),
            events := [.rejected (plain "/").print r.rule.print] } ∧
        r.isMatch (plain "/a/b") ∧
        ∃ b, r.matcher.extract (plain "/a/b") = some b ∧
          (runPipeline .defaults r.rule.pipeline b).result = .ok () ∧
          r.rule.destination.render (runPipeline .defaults r.rule.pipeline b).bindings =
            .error (.listInScalar "x") := by
  intro plain
  obtain ⟨rule, r, hrule, hcompiled, hr⟩ : ∃ rule r,
      Grammar.parseRule "/:x+ | :n <- concat(\"a\", 1) | /:n/:x" = .ok rule ∧
        (ofRule {} rule).result = .ok r ∧
        decide (¬r.isMatch (plain "/") ∧ r.isMatch (plain "/a/b") ∧
          (r.evaluate .defaults (plain "/a/b")).result =
            .error (.render (.listInScalar "x"))) = true :=
    exists_of_any_parse (by decide +kernel)
  obtain ⟨hplain, hmatch, hresult⟩ := of_decide_eq_true hr
  obtain ⟨-, hrejected, -⟩ := evaluate_reports_phase r .defaults (plain "/")
  obtain ⟨-, -, hphases, -⟩ := evaluate_reports_phase r .defaults (plain "/a/b")
  obtain ⟨b, hb, -, -, hrender, -⟩ := hphases hmatch
  exact ⟨rule, r, hrule, hcompiled, hplain, hrejected hplain, hmatch, b, hb,
    (hrender _).mp hresult⟩

end CompiledRule

end Reroute
