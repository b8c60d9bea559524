import Reroute.Proofs.Evaluation.Soundness

/-!
# Rules see only what they declare

A rule reads the path of a URL and the parameters that its source names, of each of which
the first value counts. Other parameters, the order of all of them, and the fragment neither
decide whether a URL matches nor get into the URL that it leads to.

## Main definitions

* `Url.AgreeOn` — URLs that look the same to a reader of their paths and of some parameters

## Main results

* `PathMatcher.isMatch_congr`, `PathMatcher.extract_congr` — matchers take such URLs for the
  same
* `CompiledRule.evaluate_congr` — so do rules
-/

set_option autoImplicit false

namespace Reroute

/-- Two URLs differ in query and fragment at most, and the parameters of some names have the
same first values in both, or are missing from both. -/
structure Url.AgreeOn (names : List String) (u₁ u₂ : Url) : Prop where
  scheme : u₁.scheme = u₂.scheme
  authority : u₁.authority = u₂.authority
  isGuarded : u₁.isGuarded = u₂.isGuarded
  path : u₁.path = u₂.path
  queryValue? : ∀ name ∈ names, u₁.queryValue? name = u₂.queryValue? name

namespace Url.AgreeOn

variable {names : List String} {u₁ u₂ : Url}

instance : Decidable (AgreeOn names u₁ u₂) :=
  decidable_of_iff
    (u₁.scheme = u₂.scheme ∧ u₁.authority = u₂.authority ∧ u₁.isGuarded = u₂.isGuarded ∧
      u₁.path = u₂.path ∧ ∀ name ∈ names, u₁.queryValue? name = u₂.queryValue? name)
    ⟨fun ⟨hscheme, hauthority, hguard, hpath, hvalue⟩ =>
      ⟨hscheme, hauthority, hguard, hpath, hvalue⟩,
      fun h => ⟨h.scheme, h.authority, h.isGuarded, h.path, h.queryValue?⟩⟩

theorem printAuthority_eq (h : AgreeOn names u₁ u₂) : u₁.printAuthority = u₂.printAuthority := by
  rw [printAuthority, printAuthority, h.authority, h.isGuarded]

theorem isOpaque_eq (h : AgreeOn names u₁ u₂) : u₁.isOpaque = u₂.isOpaque := by
  rw [isOpaque, isOpaque, h.printAuthority_eq, h.path]

/-- What the new path is depends on nothing that the URLs differ in, and it takes nothing of
their queries and fragments over. -/
theorem setPath_eq (h : AgreeOn names u₁ u₂) (text : String) :
    u₂.setPath text =
      { u₁.setPath text with query := u₂.query, fragment := u₂.fragment } := by
  obtain ⟨scheme, authority, isGuarded, path, query₂, fragment₂⟩ := u₂
  obtain ⟨rfl, rfl, rfl, rfl, -⟩ := id h
  rw [setPath, setPath, ← h.isOpaque_eq]
  split <;> rfl

/-- Query and fragment are replaced, so what the URLs differ in is gone. -/
theorem redirect_eq (h : AgreeOn names u₁ u₂) (t : Target) :
    CompiledRule.redirect u₁ t = CompiledRule.redirect u₂ t := by
  rw [CompiledRule.redirect, CompiledRule.redirect, h.setPath_eq]
  rfl

end Url.AgreeOn

/-! ### Query constraints -/

namespace QueryCheck

variable {u₁ u₂ : Url} {names : List String}

/-- The parameter that a constraint is about. -/
def parameter : QueryCheck → String
  | literal name _ => name
  | pattern name _ _ => name

theorem holds_congr {check : QueryCheck} (hname : check.parameter ∈ names)
    (h : Url.AgreeOn names u₁ u₂) : check.holds u₁ = check.holds u₂ := by
  cases check with
  | literal name value => rw [holds, holds, h.queryValue? name hname]
  | pattern name x regex => rw [holds, holds, h.queryValue? name hname]

theorem bind_congr {check : QueryCheck} (hname : check.parameter ∈ names)
    (h : Url.AgreeOn names u₁ u₂) (b : Bindings) : check.bind u₁ b = check.bind u₂ b := by
  cases check with
  | literal name value => rfl
  | pattern name x regex => rw [bind, bind, h.queryValue? name hname]

theorem parameter_of_compile {q : Query} {check : QueryCheck} (h : compile q = .ok check) :
    check.parameter = q.name := by
  obtain ⟨value, -, rfl⟩ | ⟨x, regex, -, -, rfl⟩ := eq_of_compile h
  · rfl
  · rfl

theorem map_parameter_of_compile {qs : List Query} {checks : List QueryCheck}
    (h : qs.mapM compile = .ok checks) : checks.map parameter = qs.map Query.name := by
  induction qs generalizing checks with
  | nil =>
    obtain rfl := Except.ok.inj h
    rfl
  | cons q qs ih =>
    obtain ⟨check, checks', hcheck, hchecks, rfl⟩ := exists_of_mapM_cons h
    rw [List.map_cons, List.map_cons, parameter_of_compile hcheck, ih hchecks]

end QueryCheck

/-! ### Matchers -/

namespace PathMatcher

variable {m : PathMatcher} {u₁ u₂ : Url}

theorem isMatch_congr (h : Url.AgreeOn (m.checks.map QueryCheck.parameter) u₁ u₂) :
    m.isMatch u₁ = m.isMatch u₂ := by
  have hchecks : m.checks.all (·.holds u₁) = m.checks.all (·.holds u₂) := by
    rw [Bool.eq_iff_iff, List.all_eq_true, List.all_eq_true]
    refine forall₂_congr fun check hcheck => ?_
    rw [QueryCheck.holds_congr (List.mem_map_of_mem hcheck) h]
  rw [isMatch, isMatch, h.path, hchecks]

theorem extract_congr (h : Url.AgreeOn (m.checks.map QueryCheck.parameter) u₁ u₂) :
    m.extract u₁ = m.extract u₂ := by
  rw [extract, extract, h.path]
  congr 1
  funext found
  exact List.foldl_ext _ _ _ fun b check hcheck =>
    QueryCheck.bind_congr (List.mem_map_of_mem hcheck) h b

end PathMatcher

/-! ### Rules -/

namespace CompiledRule

variable {options : Options} {rule : Rule} {r : CompiledRule} {functions : FunctionTable}
  {u u₁ u₂ : Url}

/-- The constraints of a compiled rule are about the parameters that its source names. -/
theorem map_parameter_checks (hrule : (ofRule options rule).result = .ok r) :
    r.matcher.checks.map QueryCheck.parameter = rule.source.queries.map Query.name :=
  QueryCheck.map_parameter_of_compile (PathMatcher.eq_of_compile (eq_of_ofRule hrule).2).2.2

/-- A URL that does not match is rejected, and no step is evaluated. -/
theorem evaluate_of_not_isMatch (h : ¬r.isMatch u) :
    r.evaluate functions u =
      { result := .error (.noMatch u.print), events := [.rejected u.print r.rule.print] } := by
  rw [evaluate, if_neg h]
  rfl

theorem result_evaluate_of_not_isMatch (h : ¬r.isMatch u) :
    (r.evaluate functions u).result = .error (.noMatch u.print) := by
  rw [evaluate_of_not_isMatch h]

theorem exists_extract_of_isMatch (h : r.isMatch u) : ∃ b, r.matcher.extract u = some b := by
  obtain ⟨found, hfound⟩ := exists_find?_of_isMatch h
  rw [PathMatcher.extract, hfound]
  exact ⟨_, rfl⟩

theorem result_arrive_congr {names : List String} (h : Url.AgreeOn names u₁ u₂) (b : Bindings) :
    (r.arrive u₁ b).result = (r.arrive u₂ b).result := by
  rw [result_arrive, result_arrive]
  simp only [h.redirect_eq]

/-- A rule depends on nothing but what it declares. URLs that differ in query and fragment
at most, and that agree on the parameters that the source names, match alike; they lead to
the same URL, or fail for the same reason, whatever the functions are. Where they do not
match, each error quotes its own URL. -/
theorem evaluate_congr (hrule : (ofRule options rule).result = .ok r) (functions : FunctionTable)
    (h : Url.AgreeOn (rule.source.queries.map Query.name) u₁ u₂) :
    r.isMatch u₁ = r.isMatch u₂ ∧
      if r.isMatch u₁ then
        (r.evaluate functions u₁).result = (r.evaluate functions u₂).result
      else
        (r.evaluate functions u₁).result = .error (.noMatch u₁.print) ∧
          (r.evaluate functions u₂).result = .error (.noMatch u₂.print) := by
  rw [← map_parameter_checks hrule] at h
  have hmatch : r.isMatch u₁ = r.isMatch u₂ := PathMatcher.isMatch_congr h
  refine ⟨hmatch, ?_⟩
  split
  case isTrue h₁ =>
    obtain ⟨b, hb⟩ := exists_extract_of_isMatch h₁
    -- The steps see the bindings only, which are the same.
    rw [result_evaluate h₁ hb, result_evaluate (hmatch ▸ h₁) (PathMatcher.extract_congr h ▸ hb)]
    cases (runPipeline functions r.rule.pipeline b).result with
    | error e => rfl
    | ok _ => exact result_arrive_congr h _
  case isFalse h₁ =>
    exact ⟨result_evaluate_of_not_isMatch h₁, result_evaluate_of_not_isMatch (hmatch ▸ h₁)⟩

/-- Parameters that are added, repeated and put in another order change nothing, and neither
does a fragment. -/
theorem evaluate_congr_of_added_parameters :
    ∃ rule r,
      Grammar.parseRule "/in/:x ??lang=:l ??v=1 | :y <- concat(:x, :l) | /:y ??hl=:l" = .ok rule ∧
        (ofRule {} rule).result = .ok r ∧
        Url.AgreeOn (rule.source.queries.map Query.name)
          ⟨"https", none, false, "/in/a", some "lang=en&v=1", none⟩
          ⟨"https", none, false, "/in/a", some "utm=x&v=1&lang=en&lang=de&v=2", some "top"⟩ ∧
        (r.evaluate .defaults ⟨"https", none, false, "/in/a", some "lang=en&v=1", none⟩).result =
          (r.evaluate .defaults
            ⟨"https", none, false, "/in/a", some "utm=x&v=1&lang=en&lang=de&v=2",
              some "top"⟩).result := by
  obtain ⟨rule, r, hparse, hrule, hr⟩ : ∃ rule r,
      Grammar.parseRule "/in/:x ??lang=:l ??v=1 | :y <- concat(:x, :l) | /:y ??hl=:l" = .ok rule ∧
        (ofRule {} rule).result = .ok r ∧
        (r.isMatch ⟨"https", none, false, "/in/a", some "lang=en&v=1", none⟩ &&
          decide (Url.AgreeOn (r.rule.source.queries.map Query.name)
            ⟨"https", none, false, "/in/a", some "lang=en&v=1", none⟩
            ⟨"https", none, false, "/in/a", some "utm=x&v=1&lang=en&lang=de&v=2",
              some "top"⟩)) = true :=
    exists_of_any_parse (by decide +kernel)
  rw [Bool.and_eq_true, decide_eq_true_eq, (eq_of_ofRule hrule).1] at hr
  obtain ⟨hmatch, hagree⟩ := hr
  have h := evaluate_congr hrule .defaults hagree
  rw [if_pos hmatch] at h
  exact ⟨rule, r, hparse, hrule, hagree, h.2⟩

end CompiledRule

end Reroute
