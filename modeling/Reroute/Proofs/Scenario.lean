import Mathlib.Data.List.Infix
import Reroute.Proofs.Matching.Writers
import Reroute.Scenario

/-!
# What scenarios check

A scenario passes exactly if everything that is checked of its steps holds, and otherwise the
first step of which something does not hold is reported. Everything that a step expects is
checked, unless it expects a failure and a URL, path or query at once: of such a step the failure
alone is checked, although there is no result that it holds of.

## Main definitions

* `Expectation.Holds` — everything that is expected holds of a result
* `Expectation.IsMixed`, `Expectation.checked` — a failure and a success are expected at once, and
  what is checked of it
* `Scenario.IsVerdict` — what comes out if steps are judged one after the other

## Main results

* `occursIn_iff_isInfix` — a text that occurs in another one is a part of it
* `Expectation.verify_eq_ok_iff` — a result is accepted if what is checked holds of it
* `Scenario.isVerdict_runSteps` — the verdict on steps of any number
* `Scenario.run_isExact` — the verdict on a scenario
-/

set_option autoImplicit false

namespace Reroute

/-- A text occurs in another one exactly if it is a part of it. -/
theorem occursIn_iff_isInfix {part text : List Char} : occursIn part text ↔ part <:+: text := by
  induction text with
  | nil => rw [occursIn, List.isEmpty_iff, List.infix_nil]
  | cons x rest ih =>
    rw [occursIn, Bool.or_eq_true, List.isPrefixOf_iff_prefix, ih, List.infix_cons_iff]

namespace Expectation

variable {x : Expectation} {u : Url} {e : EvalError} {result : Except EvalError Url}

/-! ### What is expected -/

/-- Everything that is expected holds of a result. -/
structure Holds (x : Expectation) (result : Except EvalError Url) : Prop where
  /-- Unless a failure is expected, the URL leads somewhere. -/
  succeeds : ¬x.expectsFailure → ∃ u, result = .ok u
  url : ∀ expected, x.url = some expected → ∃ u, result = .ok u ∧ u.print = expected
  path : ∀ expected, x.path = some expected → ∃ u, result = .ok u ∧ u.path = expected
  query : ∀ expected, x.query = some expected → ∃ u, result = .ok u ∧ u.query = some expected
  rejected : x.rejected → ∃ url, result = .error (.noMatch url)
  error : ∀ part, x.error = some part →
    ∃ e, result = .error e ∧ part.toList <:+: e.message.toList
  /-- The pattern is a regular expression, and it matches somewhere in the error. -/
  errorPattern : ∀ pattern, x.errorPattern = some pattern →
    ∃ e, result = .error e ∧ Regex.OccursIn pattern e.message

/-- A failure is expected, and so is something of the URL that it would lead to. -/
def IsMixed (x : Expectation) : Prop :=
  x.expectsFailure ∧ (x.url.isSome ∨ x.path.isSome ∨ x.query.isSome)

instance : Decidable x.IsMixed :=
  inferInstanceAs (Decidable (_ ∧ _))

/-- The part of an expectation that is checked: where a failure is expected, the failure alone. -/
def checked (x : Expectation) : Expectation :=
  if x.expectsFailure then { x with url := none, path := none, query := none } else x

theorem expectsFailure_iff :
    x.expectsFailure ↔ x.rejected ∨ x.error.isSome ∨ x.errorPattern.isSome := by
  rw [expectsFailure, Bool.or_eq_true, Bool.or_eq_true, or_assoc]

/-- Everything is checked unless a failure and a success are expected at once. -/
theorem checked_eq_self (h : ¬x.IsMixed) : x.checked = x := by
  rw [checked]
  split_ifs with hfailure
  · rw [IsMixed, not_and] at h
    obtain ⟨hurl, hpath, hquery⟩ := (not_or.mp (h hfailure)).imp_right not_or.mp
    rw [Option.not_isSome_iff_eq_none] at hurl hpath hquery
    obtain ⟨_, _, _, _, _, _⟩ := x
    cases hurl
    cases hpath
    cases hquery
    rfl
  · rfl

/-- An expectation that holds of a URL expects no failure. -/
theorem holds_ok_iff : x.Holds (.ok u) ↔ ¬x.expectsFailure ∧
    (∀ expected, x.url = some expected → u.print = expected) ∧
      (∀ expected, x.path = some expected → u.path = expected) ∧
        ∀ expected, x.query = some expected → u.query = some expected := by
  constructor
  · intro h
    refine ⟨fun hfailure => ?_, fun t ht => ?_, fun t ht => ?_, fun t ht => ?_⟩
    · -- Whichever failure is expected, there would have to be an error.
      rcases expectsFailure_iff.mp hfailure with hrejected | herror | hpattern
      · obtain ⟨-, ⟨⟩⟩ := h.rejected hrejected
      · obtain ⟨part, hpart⟩ := Option.isSome_iff_exists.mp herror
        obtain ⟨-, ⟨⟩, -⟩ := h.error part hpart
      · obtain ⟨pattern, hpattern⟩ := Option.isSome_iff_exists.mp hpattern
        obtain ⟨-, ⟨⟩, -⟩ := h.errorPattern pattern hpattern
    · obtain ⟨u', hu, hprint⟩ := h.url t ht
      exact Except.ok.inj hu ▸ hprint
    · obtain ⟨u', hu, hpath⟩ := h.path t ht
      exact Except.ok.inj hu ▸ hpath
    · obtain ⟨u', hu, hquery⟩ := h.query t ht
      exact Except.ok.inj hu ▸ hquery
  · rintro ⟨hsuccess, hurl, hpath, hquery⟩
    rw [expectsFailure_iff, not_or, not_or] at hsuccess
    obtain ⟨hrejected, herror, hpattern⟩ := hsuccess
    exact
      { succeeds := fun _ => ⟨u, rfl⟩
        url := fun t ht => ⟨u, rfl, hurl t ht⟩
        path := fun t ht => ⟨u, rfl, hpath t ht⟩
        query := fun t ht => ⟨u, rfl, hquery t ht⟩
        rejected := fun h => absurd h hrejected
        error := fun t ht => absurd (Option.isSome_of_eq_some ht) herror
        errorPattern := fun t ht => absurd (Option.isSome_of_eq_some ht) hpattern }

/-- An expectation that holds of an error expects a failure, and nothing else. -/
theorem holds_error_iff : x.Holds (.error e) ↔ (x.expectsFailure ∧ ¬x.IsMixed) ∧
    (x.rejected → ∃ url, e = .noMatch url) ∧
      (∀ part, x.error = some part → part.toList <:+: e.message.toList) ∧
        ∀ pattern, x.errorPattern = some pattern → Regex.OccursIn pattern e.message := by
  constructor
  · intro h
    refine ⟨⟨?_, ?_⟩, fun hrejected => ?_, fun part hpart => ?_, fun pattern hpattern => ?_⟩
    · by_contra hsuccess
      obtain ⟨-, ⟨⟩⟩ := h.succeeds hsuccess
    · -- Whatever is expected of a URL, there would have to be one.
      rintro ⟨-, hsome | hsome | hsome⟩ <;> obtain ⟨t, ht⟩ := Option.isSome_iff_exists.mp hsome
      · obtain ⟨-, ⟨⟩, -⟩ := h.url t ht
      · obtain ⟨-, ⟨⟩, -⟩ := h.path t ht
      · obtain ⟨-, ⟨⟩, -⟩ := h.query t ht
    · obtain ⟨url, hurl⟩ := h.rejected hrejected
      exact ⟨url, Except.error.inj hurl⟩
    · obtain ⟨e', he, hoccurs⟩ := h.error part hpart
      exact Except.error.inj he ▸ hoccurs
    · obtain ⟨e', he, hoccurs⟩ := h.errorPattern pattern hpattern
      exact Except.error.inj he ▸ hoccurs
  · rintro ⟨⟨hfailure, hmixed⟩, hrejected, herror, hpattern⟩
    rw [IsMixed, not_and] at hmixed
    obtain ⟨hurl, hpath, hquery⟩ := (not_or.mp (hmixed hfailure)).imp_right not_or.mp
    exact
      { succeeds := fun h => absurd hfailure h
        url := fun t ht => absurd (Option.isSome_of_eq_some ht) hurl
        path := fun t ht => absurd (Option.isSome_of_eq_some ht) hpath
        query := fun t ht => absurd (Option.isSome_of_eq_some ht) hquery
        rejected := fun h => (hrejected h).imp fun _ hnoMatch => congrArg _ hnoMatch
        error := fun part hpart => ⟨e, rfl, herror part hpart⟩
        errorPattern := fun pattern h => ⟨e, rfl, hpattern pattern h⟩ }

/-- There is no result that a failure and a success hold of. -/
theorem not_holds_of_isMixed (h : x.IsMixed) : ¬x.Holds result := by
  intro hholds
  cases result with
  | ok u => exact (holds_ok_iff.mp hholds).1 h.1
  | error e => exact (holds_error_iff.mp hholds).1.2 h

/-! ### What is checked -/

/-- Two checks in a row accept what both accept. -/
theorem bind_eq_ok_iff {ε : Type} {first : Except ε Unit} {next : Unit → Except ε Unit} :
    (first >>= next) = .ok () ↔ first = .ok () ∧ next () = .ok () := by
  cases first <;> simp [bind, Except.bind]

theorem require_eq_ok_iff {condition : Bool} {reason : String} :
    require condition reason = .ok () ↔ condition := by
  cases condition <;> simp [require]

/-- A URL is accepted if it has everything that is expected of URLs. -/
theorem verifySuccess_eq_ok_iff : x.verifySuccess u = .ok () ↔
    (∀ expected, x.url = some expected → u.print = expected) ∧
      (∀ expected, x.path = some expected → u.path = expected) ∧
        ∀ expected, x.query = some expected → u.query = some expected := by
  unfold verifySuccess
  cases x.url <;> cases x.path <;> cases x.query <;>
    simp [bind_eq_ok_iff, require_eq_ok_iff, pure, Except.pure]

/-- A regular expression that is usable and finds something is one that occurs. -/
theorem verifyPattern_eq_ok_iff {pattern text reason : String} :
    (match Regex.compile pattern with
      | .error _ => throw "invalid regex pattern: "
      | .ok regex => require (regex.isMatch text) reason) = .ok () ↔
      Regex.OccursIn pattern text := by
  cases hcompile : Regex.compile pattern with
  | error error =>
    refine iff_of_false nofun ?_
    rintro ⟨node, names, hparse, -⟩
    rw [Regex.compile, hparse] at hcompile
    cases hcompile
  | ok regex =>
    have hpattern : compilePattern pattern = .ok regex := by rw [compilePattern, hcompile]
    rw [require_eq_ok_iff, Regex.isMatch_iff_occursIn hpattern]

/-- An error is accepted if it has everything that is expected of errors. -/
theorem verifyError_eq_ok_iff : x.verifyError e = .ok () ↔
    (x.rejected → ∃ url, e = .noMatch url) ∧
      (∀ part, x.error = some part → part.toList <:+: e.message.toList) ∧
        ∀ pattern, x.errorPattern = some pattern → Regex.OccursIn pattern e.message := by
  unfold verifyError
  simp only [bind_eq_ok_iff, require_eq_ok_iff]
  refine and_congr (by cases x.rejected <;> cases e <;> simp) ?_
  cases x.error <;> cases x.errorPattern <;>
    simp [bind_eq_ok_iff, require_eq_ok_iff, pure, Except.pure, occursIn_iff_isInfix]
  case none.some => exact verifyPattern_eq_ok_iff
  case some.some => exact fun _ => verifyPattern_eq_ok_iff

/-- A result is accepted exactly if everything that is checked holds of it. -/
theorem verify_eq_ok_iff : x.verify result = .ok () ↔ x.checked.Holds result := by
  -- Whether a failure is expected decides which half of the expectation is looked at.
  cases hfailure : x.expectsFailure with
  | false =>
    have hchecked : x.checked = x := if_neg (Bool.eq_false_iff.mp hfailure)
    cases result with
    | ok u => simp [verify, hfailure, hchecked, holds_ok_iff, verifySuccess_eq_ok_iff]
    | error e => simp [verify, hfailure, hchecked, holds_error_iff]
  | true =>
    have hchecked : x.checked = { x with url := none, path := none, query := none } :=
      if_pos hfailure
    have hfailure' : x.checked.expectsFailure := by rw [hchecked]; exact hfailure
    have hmixed : ¬x.checked.IsMixed := by simp [hchecked, IsMixed]
    cases result with
    | ok u => simp [verify, hfailure, holds_ok_iff, hfailure']
    | error e =>
      simp only [verify, hfailure]
      rw [holds_error_iff, and_iff_right ⟨hfailure', hmixed⟩, hchecked]
      exact verifyError_eq_ok_iff

end Expectation

namespace Scenario

variable {steps : List ScenarioStep} {step : ScenarioStep} {holds holds' : ScenarioStep → Prop}
  {outcome : Except ScenarioError Unit}

/-! ### Steps in a row -/

/-- What comes out if steps are judged in turn: they pass if all of them hold, and otherwise the
first one that does not hold is reported. -/
structure IsVerdict (steps : List ScenarioStep) (holds : ScenarioStep → Prop)
    (outcome : Except ScenarioError Unit) : Prop where
  passes_iff : outcome = .ok () ↔ ∀ step ∈ steps, holds step
  reports_first : ∀ error, outcome = .error error →
    ∃ met step rest reason, steps = met ++ step :: rest ∧ (∀ step' ∈ met, holds step') ∧
      ¬holds step ∧ error = .unmet step.input reason

namespace IsVerdict

theorem nil : IsVerdict [] holds (.ok ()) :=
  ⟨iff_of_true rfl nofun, nofun⟩

/-- Behind a step that holds, the others decide. -/
theorem cons_of_holds (hstep : holds step) (h : IsVerdict steps holds outcome) :
    IsVerdict (step :: steps) holds outcome where
  passes_iff := by rw [h.passes_iff, List.forall_mem_cons, and_iff_right hstep]
  reports_first error herror := by
    obtain ⟨met, unmet, rest, reason, rfl, hmet, hunmet, hreport⟩ := h.reports_first error herror
    exact ⟨step :: met, unmet, rest, reason, rfl, List.forall_mem_cons.mpr ⟨hstep, hmet⟩, hunmet,
      hreport⟩

/-- A step that does not hold is the first one if it comes first. -/
theorem cons_of_not_holds {reason : String} (hstep : ¬holds step) :
    IsVerdict (step :: steps) holds (.error (.unmet step.input reason)) where
  passes_iff := iff_of_false nofun fun h => hstep (h step List.mem_cons_self)
  reports_first _ herror :=
    ⟨[], step, steps, reason, rfl, nofun, hstep, (Except.error.inj herror).symm⟩

/-- A verdict depends on the steps that are judged. -/
theorem congr (hcongr : ∀ step ∈ steps, holds step ↔ holds' step)
    (h : IsVerdict steps holds outcome) : IsVerdict steps holds' outcome where
  passes_iff := h.passes_iff.trans (forall₂_congr hcongr)
  reports_first error herror := by
    obtain ⟨met, unmet, rest, reason, rfl, hmet, hunmet, hreport⟩ := h.reports_first error herror
    refine ⟨met, unmet, rest, reason, rfl, fun step hstep => ?_, ?_, hreport⟩
    · exact (hcongr step (List.mem_append_left _ hstep)).mp (hmet step hstep)
    · exact fun h => hunmet ((hcongr unmet (by simp)).mpr h)

end IsVerdict

variable {r : CompiledRule} {functions : FunctionTable}

/-- The first step is judged before the others. -/
theorem result_runSteps_cons : (runSteps r functions (step :: steps)).result =
    match step.expectation.verify (r.evaluateText functions step.input).result with
    | .ok () => (runSteps r functions steps).result
    | .error reason => .error (.unmet step.input reason) := by
  rw [runSteps]
  simp only [bind]
  cases step.expectation.verify (r.evaluateText functions step.input).result <;> rfl

/-- Steps of any number pass if everything that is checked of each holds of what its URL leads
to. -/
theorem isVerdict_runSteps (r : CompiledRule) (functions : FunctionTable)
    (steps : List ScenarioStep) :
    IsVerdict steps
      (fun step => step.expectation.checked.Holds (r.evaluateText functions step.input).result)
      (runSteps r functions steps).result := by
  induction steps with
  | nil => exact .nil
  | cons step steps ih =>
    rw [result_runSteps_cons]
    cases hverify : step.expectation.verify (r.evaluateText functions step.input).result with
    | ok _ => exact .cons_of_holds (Expectation.verify_eq_ok_iff.mp hverify) ih
    | error reason =>
      -- The steps behind it are not applied, so what comes out says nothing about them.
      refine .cons_of_not_holds fun hholds => ?_
      rw [Expectation.verify_eq_ok_iff.mpr hholds] at hverify
      cases hverify

theorem result_run {s : Scenario} {text : String} (hrule : s.rule = some text)
    (hcompiled : (CompiledRule.parse s.options text).result = .ok r) :
    s.run.result = (runSteps r s.functions s.steps).result := by
  simp only [run, hrule, bind, hcompiled]

theorem result_run_of_isOk {s : Scenario} {text : String} (hrule : s.rule = some text)
    (hcompiled : (CompiledRule.parse s.options text).result = .ok r)
    (h : (runSteps r s.functions s.steps).result.isOk) : s.run.result = .ok () := by
  obtain ⟨⟨⟩, hok⟩ := exists_eq_ok_of_isOk h
  rw [result_run hrule hcompiled, hok]

/-- A scenario with a usable rule passes exactly if everything that is checked of its steps holds,
and otherwise the first step of which something does not hold is reported. If no step expects a
failure and a success at once, then this is everything that is expected. And of a scenario that
passes, everything that is expected holds exactly if there is no such step. -/
theorem run_isExact {s : Scenario} {text : String} (hrule : s.rule = some text)
    (hcompiled : (CompiledRule.parse s.options text).result = .ok r) :
    IsVerdict s.steps
        (fun step => step.expectation.checked.Holds (r.evaluateText s.functions step.input).result)
        s.run.result ∧
      ((∀ step ∈ s.steps, ¬step.expectation.IsMixed) →
        IsVerdict s.steps
          (fun step => step.expectation.Holds (r.evaluateText s.functions step.input).result)
          s.run.result) ∧
      (s.run.result = .ok () →
        ((∀ step ∈ s.steps,
            step.expectation.Holds (r.evaluateText s.functions step.input).result) ↔
          ∀ step ∈ s.steps, ¬step.expectation.IsMixed)) := by
  have hverdict := isVerdict_runSteps r s.functions s.steps
  rw [← result_run hrule hcompiled] at hverdict
  have hplain (h : ∀ step ∈ s.steps, ¬step.expectation.IsMixed) :
      IsVerdict s.steps
        (fun step => step.expectation.Holds (r.evaluateText s.functions step.input).result)
        s.run.result :=
    hverdict.congr fun step hstep => by rw [Expectation.checked_eq_self (h step hstep)]
  refine ⟨hverdict, hplain, fun hpasses => ⟨fun h step hstep hmixed => ?_, fun h => ?_⟩⟩
  · exact Expectation.not_holds_of_isMixed hmixed (h step hstep)
  · exact (hplain h).passes_iff.mp hpasses

/-- A step that expects a URL and its path, one that expects a rejection in certain words, and one
that expects an error that a regular expression matches. -/
theorem run_isExact_of_three_steps :
    ∃ (s : Scenario) (r : CompiledRule),
      s = { name := "versions"
            rule := some "/a/:x | /b/:x"
            steps :=
              [⟨"https://a.b/a/7", { url := some "https://a.b/b/7", path := some "/b/7" }⟩,
                ⟨"https://a.b/x", { rejected := true, error := some "does not match" }⟩,
                ⟨"x", { errorPattern := some "^I" }⟩] } ∧
      (CompiledRule.parse s.options "/a/:x | /b/:x").result = .ok r ∧
      s.run.result = .ok () ∧
      ∀ step ∈ s.steps,
        step.expectation.Holds (r.evaluateText s.functions step.input).result := by
  let s : Scenario :=
    { name := "versions"
      rule := some "/a/:x | /b/:x"
      steps :=
        [⟨"https://a.b/a/7", { url := some "https://a.b/b/7", path := some "/b/7" }⟩,
          ⟨"https://a.b/x", { rejected := true, error := some "does not match" }⟩,
          ⟨"x", { errorPattern := some "^I" }⟩] }
  obtain ⟨r, hcompiled, hruns⟩ := exists_ok_of_any
    (r := (CompiledRule.parse s.options "/a/:x | /b/:x").result)
    (f := fun r => (runSteps r s.functions s.steps).result.isOk)
    (by decide +kernel)
  have hpasses : s.run.result = .ok () := result_run_of_isOk rfl hcompiled hruns
  have hplain : ∀ step ∈ s.steps, ¬step.expectation.IsMixed := by decide
  have hverdict := (run_isExact rfl hcompiled).2.1 hplain
  exact ⟨s, r, rfl, hcompiled, hpasses, hverdict.passes_iff.mp hpasses⟩

/-- A step that expects a URL and a rejection at once passes if there is a rejection. -/
theorem run_passes_of_mixed :
    ∃ (s : Scenario) (r : CompiledRule),
      s = { name := "mixed"
            rule := some "/a | /b"
            steps := [⟨"https://a.b/x", { url := some "https://a.b/b", rejected := true }⟩] } ∧
      (CompiledRule.parse s.options "/a | /b").result = .ok r ∧
      s.run.result = .ok () ∧
      ¬∀ step ∈ s.steps,
        step.expectation.Holds (r.evaluateText s.functions step.input).result := by
  let s : Scenario :=
    { name := "mixed"
      rule := some "/a | /b"
      steps := [⟨"https://a.b/x", { url := some "https://a.b/b", rejected := true }⟩] }
  obtain ⟨r, hcompiled, hruns⟩ := exists_ok_of_any
    (r := (CompiledRule.parse s.options "/a | /b").result)
    (f := fun r => (runSteps r s.functions s.steps).result.isOk)
    (by decide +kernel)
  have hmixed : Expectation.IsMixed { url := some "https://a.b/b", rejected := true } := by
    decide
  refine ⟨s, r, rfl, hcompiled, result_run_of_isOk rfl hcompiled hruns, fun h => ?_⟩
  exact Expectation.not_holds_of_isMixed hmixed (h _ List.mem_cons_self)

end Scenario

end Reroute
