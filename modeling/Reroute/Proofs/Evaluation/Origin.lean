import Reroute.Proofs.Evaluation.Phases
import Reroute.Proofs.Url.Address
import Reroute.Proofs.Url.Change
import Reroute.Proofs.Url.Form
import Reroute.Proofs.Url.Ideograph

/-!
# Rules keep the origin

Whatever the destination of a rule is filled in with becomes part of the path or the query.
Scheme, user, host and number stay those of the URL that the rule is applied to. The text of
the result is read as the result if the text of that URL is read as that URL, as it is unless
a label of the host was beyond ASCII.

## Main results

* `CompiledRule.isSettled_redirect` — a redirected URL of the web has parts that are found
  again
* `CompiledRule.evaluate_keeps_origin` — what rules keep, and what they replace
-/

set_option autoImplicit false

namespace Reroute

namespace CompiledRule

variable {u v : Url} {r : CompiledRule} {functions : FunctionTable}

/-! ### Redirecting -/

theorem scheme_redirect (u : Url) (t : Target) : (redirect u t).scheme = u.scheme := by
  rw [redirect, Url.scheme_dropFragment, Url.scheme_setQuery, Url.scheme_setPath]

/-- A redirected URL of the web has parts that are found again. -/
theorem isSettled_redirect (h : u.IsSettled) (t : Target) : (redirect u t).IsSettled :=
  ((h.setPath t.path).setQuery t.query).dropFragment

theorem arises_redirect (h : u.Arises) (t : Target) : (redirect u t).Arises :=
  ((h.setPath t.path).setQuery t.query).dropFragment

/-- A URL of the web gets the path and the query of the target, both encoded, and nothing
else of it. -/
theorem redirect_eq (h : u.IsSettled) (t : Target) :
    redirect u t =
      { u with
        path := (Url.readPath u.scheme true t.path.toList).1
        query := t.query.map fun query => String.ofList
          (Url.percentEncode (Url.inQuerySet true) (Url.dropIgnored query.toList))
        fragment := none } := by
  rw [redirect, ((h.setPath t.path).setQuery t.query).dropFragment_eq, h.setPath_eq, Url.setQuery]
  simp [h.scheme.isSpecial]

/-- What a rule leads to is filled in with what its steps bind. -/
theorem exists_of_result_evaluate (h : (r.evaluate functions u).result = .ok v) :
    ∃ b t, r.matcher.extract u = some b ∧
      r.rule.destination.render (runPipeline functions r.rule.pipeline b).bindings = .ok t ∧
      v = redirect u t := by
  by_cases hmatch : r.isMatch u
  · obtain ⟨b, hb⟩ := exists_extract_of_isMatch hmatch
    obtain ⟨-, t, ht, hv⟩ := (result_evaluate_eq_ok_iff hmatch hb).mp h
    exact ⟨b, t, hb, ht, hv⟩
  · rw [result_evaluate_of_not_isMatch hmatch] at h
    cases h

/-- The query of a destination stays as it is in a URL of the web. -/
theorem query_redirect (h : u.IsSettled) {p : Path} {b : Bindings} {t : Target}
    (ht : p.render b = .ok t) : (redirect u t).query = t.query := by
  rw [redirect_eq h]
  obtain ⟨-, ⟨-, hquery⟩ | ⟨-, parts, -, hquery⟩⟩ := Path.exists_of_render_eq_ok ht
  · rw [hquery]
    rfl
  · have hfree := Url.Form.isFreeOf_serialize true parts.flatten
    have hignored := Url.dropIgnored_of_lt fun x hx => Url.lt_toNat_of_inQuerySet (hfree x hx)
    rw [hquery, Option.map_some, hignored, Url.percentEncode_of_isFreeOf hfree,
      String.ofList_toList]

/-- Rules keep the origin of a URL of the web. The query is the one that the destination is
filled in to, and the text of the result is read as the result if the same is true of the URL
that the rule is applied to. -/
theorem evaluate_keeps_origin (hu : u.Arises) (hweb : Url.IsWeb u.scheme)
    (h : (r.evaluate functions u).result = .ok v) :
    v.Arises ∧ v.scheme = u.scheme ∧ v.authority = u.authority ∧ v.fragment = none ∧
      (∃ b t, r.matcher.extract u = some b ∧
        r.rule.destination.render (runPipeline functions r.rule.pipeline b).bindings = .ok t ∧
        v.query = t.query) ∧
      (v.query = none ↔ r.rule.destination.queries = []) ∧
      (Url.parse v.print = .ok v ↔ Url.parse u.print = .ok u) ∧
      (∀ a, u.authority = some a → a.host.IsPlain → Url.parse v.print = .ok v) := by
  have hsettled := hu.isSettled hweb
  obtain ⟨b, t, hb, ht, rfl⟩ := exists_of_result_evaluate h
  have hquery := query_redirect hsettled ht
  have hredirect := redirect_eq hsettled t
  -- Whether a URL is read as itself depends on its host only, and the host stays.
  obtain ⟨a, ha, hauthority⟩ := hsettled.authority
  have ha' : (redirect u t).authority = some a := by rw [hredirect, ha]
  have hparse := (isSettled_redirect hsettled t).parse_print_eq_iff ha'
  refine ⟨arises_redirect hu t, scheme_redirect u t, by rw [hredirect], by rw [hredirect],
    ⟨b, t, hb, ht, hquery⟩, ?_, ?_, ?_⟩
  · rw [hquery]
    obtain ⟨-, ⟨hqueries, hnone⟩ | ⟨hqueries, parts, -, hsome⟩⟩ := Path.exists_of_render_eq_ok ht
    · simp [hqueries, hnone]
    · simp [hqueries, hsome]
  · rw [hparse, hsettled.parse_print_eq_iff ha]
  · intro a' ha' hplain
    obtain rfl := Option.some.inj (ha.symm.trans ha')
    obtain ⟨text, htext⟩ := hauthority.host
    exact hparse.mpr (Url.Host.parse_print_of_isPlain htext hplain)

/-- Slashes, a number sign and a question mark within a value leave the host alone. -/
theorem evaluate_keeps_origin_of_slashes :
    ∃ rule r v,
      Grammar.parseRule "/go ??to=:t | :y <- :t | /:y ??r=:t" = .ok rule ∧
        (ofRule {} rule).result = .ok r ∧
        Url.parse "https://u:p@example.com:8443/go?to=%2F%2Fevil.test%23%3F#top" =
          .ok ⟨"https", some ⟨"u", "p", .name "example.com", some 8443⟩, false, "/go",
            some "to=%2F%2Fevil.test%23%3F", some "top"⟩ ∧
        (r.evaluate .defaults
            ⟨"https", some ⟨"u", "p", .name "example.com", some 8443⟩, false, "/go",
              some "to=%2F%2Fevil.test%23%3F", some "top"⟩).result = .ok v ∧
        v.scheme = "https" ∧
        v.authority = some ⟨"u", "p", .name "example.com", some 8443⟩ ∧
        v.fragment = none ∧ v.query.isSome ∧ Url.parse v.print = .ok v := by
  have hparse : Url.parse "https://u:p@example.com:8443/go?to=%2F%2Fevil.test%23%3F#top" =
      .ok ⟨"https", some ⟨"u", "p", .name "example.com", some 8443⟩, false, "/go",
        some "to=%2F%2Fevil.test%23%3F", some "top"⟩ := by
    decide +kernel
  obtain ⟨rule, r, hrule, hcompiled, hr⟩ : ∃ rule r,
      Grammar.parseRule "/go ??to=:t | :y <- :t | /:y ??r=:t" = .ok rule ∧
        (ofRule {} rule).result = .ok r ∧
        (!r.rule.destination.queries.isEmpty &&
          (r.evaluate .defaults
            ⟨"https", some ⟨"u", "p", .name "example.com", some 8443⟩, false, "/go",
              some "to=%2F%2Fevil.test%23%3F", some "top"⟩).result.isOk) = true :=
    exists_of_any_parse (by decide +kernel)
  rw [Bool.and_eq_true] at hr
  obtain ⟨v, hv⟩ := exists_eq_ok_of_isOk hr.2
  obtain ⟨-, hscheme, hauthority, hfragment, -, hquery, -, hplain⟩ :=
    evaluate_keeps_origin (.read hparse) (.inr rfl) hv
  refine ⟨rule, r, v, hrule, hcompiled, hparse, hv, hscheme, hauthority, hfragment, ?_,
    hplain _ rfl (by decide)⟩
  rw [← Option.ne_none_iff_isSome, Ne, hquery]
  simpa using hr.1

end CompiledRule

/-! ### A host that is not read again -/

namespace Url

/-- A page on a host whose name is too long in ASCII. -/
def longUrl : Url :=
  ⟨"https", some ⟨"", "", Host.longName, none⟩, false, "/a", none, none⟩

theorem isSettled_longUrl : longUrl.IsSettled where
  scheme := .inr rfl
  authority := by
    refine ⟨_, rfl, by simp [IsFreeOf], by simp [IsFreeOf], ⟨_, Host.parse_longLabel⟩, ?_⟩
    rintro _ ⟨⟩
  isGuarded := rfl
  path := ⟨[['a']], by simp, by simpa using ⟨by decide, by decide, by decide, by decide⟩, rfl⟩
  query := by rintro _ ⟨⟩
  fragment := by rintro _ ⟨⟩

theorem parse_longLabel :
    parse ("https://" ++ String.ofList Domain.longLabel ++ "/a") = .ok longUrl := by
  have hsettled := isSettled_longUrl.isSettled_authority rfl
  have hfound : Host.IsFound Domain.longLabel :=
    .of_isForbidden (List.ne_nil_of_length_eq_add_one Domain.length_longLabel) fun x hx =>
      Domain.isForbidden_of_isIdeograph (Domain.isIdeograph_of_mem_longLabel x hx)
  have hprint : "https://" ++ String.ofList Domain.longLabel ++ "/a" =
      String.ofList (longUrl.printWith ⟨"", "", Host.longName, none⟩ Domain.longLabel) := by
    rw [← String.toList_inj]
    simp [printWith, Authority.printWith, Authority.printUser, Authority.printNumber, printRest,
      printPart, longUrl]
  rw [hprint, isSettled_longUrl.parse_printWith hsettled hfound, Host.parse_longLabel]
  rfl

end Url

namespace CompiledRule

/-- The text of a result is not read again where the name of the host is too long in ASCII,
although the URL that the rule is applied to was read. -/
theorem not_reads_back_of_longLabel :
    ∃ rule r v,
      Grammar.parseRule "/:x | /:x" = .ok rule ∧ (ofRule {} rule).result = .ok r ∧
        Url.parse ("https://" ++ String.ofList Url.Domain.longLabel ++ "/a") = .ok Url.longUrl ∧
        (r.evaluate .defaults Url.longUrl).result = .ok v ∧
        Url.parse v.print = .error .invalidDomain := by
  obtain ⟨rule, r, hrule, hcompiled, hr⟩ : ∃ rule r,
      Grammar.parseRule "/:x | /:x" = .ok rule ∧ (ofRule {} rule).result = .ok r ∧
        (r.evaluate .defaults Url.longUrl).result.isOk = true :=
    exists_of_any_parse (by decide +kernel)
  obtain ⟨v, hv⟩ := exists_eq_ok_of_isOk hr
  refine ⟨rule, r, v, hrule, hcompiled, Url.parse_longLabel, hv, ?_⟩
  obtain ⟨b, t, -, -, hredirect⟩ := exists_of_result_evaluate hv
  have hauthority : (redirect Url.longUrl t).authority =
      some ⟨"", "", Url.Host.longName, none⟩ := by
    rw [redirect_eq Url.isSettled_longUrl, Url.longUrl]
  rw [hredirect, (isSettled_redirect Url.isSettled_longUrl t).parse_print hauthority,
    Url.Host.parse_print_longName]
  rfl

end CompiledRule

end Reroute
