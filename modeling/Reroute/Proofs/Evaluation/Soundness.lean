import Reroute.CompiledRule
import Reroute.Proofs.Evaluation.Shape
import Reroute.Proofs.Grammar.Rule
import Reroute.Proofs.Matching.Items
import Reroute.Proofs.Rendering

/-!
# Scoped rules succeed

A rule whose variables are bound before they are read never misses a value. If its steps
call no function, and the shapes of its variables are those that the destination asks for,
applying it to a URL that matches succeeds. Literal text of the source may be any regular
expression for that, as long as it does not have blanks skipped.

## Main results

* `Path.map_values_isList` — what is read off a URL has the shapes of the source
* `CompiledRule.evaluate_of_isScoped` — scoped rules miss no value, and succeed if the shapes
  agree
-/

set_option autoImplicit false

namespace Reroute

open Regex

/-! ### What is read off a URL -/

namespace Bindings

theorem binds_ofValues (values : List (String × Value)) :
    (ofValues values).Binds (values.map Prod.fst) := by
  intro x hx
  have hmem : x ∈ values.reverse.map Prod.fst := by
    rw [List.map_reverse, List.mem_reverse]
    exact hx
  obtain ⟨v, hv⟩ := exists_lookup_of_mem hmem
  refine ⟨v, ?_⟩
  rw [get?_ofValues, hv]
  rfl

theorem lookup_map_isList (values : List (String × Value)) (x : String) :
    (values.map fun write => (write.1, write.2.isList)).lookup x =
      (values.lookup x).map Value.isList := by
  induction values with
  | nil => rfl
  | cons write values ih =>
    rw [List.map_cons, List.lookup_cons, List.lookup_cons, ih]
    cases x == write.1 <;> rfl

theorem hasShapes_ofValues (values : List (String × Value)) :
    (ofValues values).HasShapes (values.map fun write => (write.1, write.2.isList)).reverse := by
  intro x isList hx
  rw [← List.map_reverse, lookup_map_isList] at hx
  obtain ⟨v, hv, hshape⟩ := Option.map_eq_some_iff.mp hx
  refine ⟨v, ?_, hshape⟩
  rw [get?_ofValues, hv]
  rfl

end Bindings

theorem Placeholder.isList_valueOf {p : Placeholder} {captured : Option String}
    (h : p.isRepeating = false → ∀ s, captured = some s → '/' ∉ s.toList) :
    (p.valueOf captured).isList = p.isRepeating := by
  unfold valueOf
  cases hrepeating : p.isRepeating with
  | true => cases captured <;> rfl
  | false =>
    cases captured with
    | none => rfl
    | some s =>
      have hslash := h hrepeating s rfl
      simp [hslash, Value.isList]

/-- What is read off a URL has the shapes of the source. -/
theorem Path.map_values_isList {p : Path} {found : Match} {u : Url}
    (h : ∀ q i, (q, i) ∈ p.placeholders.zipIdx →
      (q.valueOf (found.named? (Group.nameOf q.name i))).isList = q.isRepeating) :
    (p.pathValues found ++ p.queryValues u).map (fun write => (write.1, write.2.isList)) =
      p.shapes := by
  rw [shapes, List.map_append]
  congr 1
  · rw [pathValues, List.map_map]
    apply map_zipIdx_eq
    intro q i hmem
    exact congrArg (q.name, ·) (h q i hmem)
  · rw [queryValues, List.map_filterMap]
    simp [Query.value?, Function.comp_def, Value.isList]

/-- The values of the path have the shapes of the source. -/
theorem PathMatcher.CapturesItems.isList_valueOf {options : Options} {p : Path} {m : PathMatcher}
    {u : Url} {found : Match} (h : m.CapturesItems u)
    (hcompile : PathMatcher.compile options p = .ok m)
    (hfound : m.regex.find? u.path = some found) {q : Placeholder} {i : Nat}
    (hmem : (q, i) ∈ p.placeholders.zipIdx) :
    (q.valueOf (found.named? (Group.nameOf q.name i))).isList = q.isRepeating := by
  obtain ⟨-, hgroups, -⟩ := eq_of_compile hcompile
  rw [CapturesItems, hgroups, Path.groups] at h
  exact Placeholder.isList_valueOf fun hrepeating =>
    h found hfound _ (List.mem_map.mpr ⟨(q, i), hmem, rfl⟩) hrepeating

/-- The source of a rule that was read has the shape of a path. -/
theorem Grammar.isWellShaped_source_of_parseRule {text : String} {rule : Rule}
    (h : Grammar.parseRule text = .ok rule) : rule.source.IsWellShaped := by
  obtain ⟨d, hread, -⟩ := Parsing.Parser.parseFull_eq_ok_iff.mp h
  obtain ⟨_, _, _, _, _, _, _, _, -, -, hsource, -⟩ := reads_rule.mp hread
  exact isWellShaped_of_reads_fullPath hsource

/-! ### Applying rules -/

namespace CompiledRule

variable {options : Options} {rule : Rule} {r : CompiledRule} {functions : FunctionTable} {u : Url}
  {b : Bindings}

theorem eq_of_ofRule (h : (ofRule options rule).result = .ok r) :
    r.rule = rule ∧ PathMatcher.compile options rule.source = .ok r.matcher := by
  cases hcompile : PathMatcher.compile options rule.source with
  | error e =>
    have hresult : (ofRule options rule).result = .error (.pattern e) := by
      rw [ofRule, PathMatcher.compileRecorded, hcompile]
      rfl
    rw [hresult] at h
    cases h
  | ok m =>
    have hresult : (ofRule options rule).result = .ok ⟨rule, m⟩ := by
      rw [ofRule, PathMatcher.compileRecorded, hcompile]
      rfl
    rw [hresult] at h
    obtain rfl := Except.ok.inj h
    exact ⟨rfl, rfl⟩

theorem exists_find?_of_isMatch (h : r.isMatch u) :
    ∃ found, r.matcher.regex.find? u.path = some found := by
  rw [isMatch, PathMatcher.isMatch, Bool.and_eq_true] at h
  exact Option.isSome_iff_exists.mp h.1

/-- A URL that matches goes through the steps of the rule to its destination. -/
theorem result_evaluate (hmatch : r.isMatch u) (hb : r.matcher.extract u = some b) :
    (r.evaluate functions u).result =
      match (runPipeline functions r.rule.pipeline b).result with
      | .ok () => (r.arrive u (runPipeline functions r.rule.pipeline b).bindings).result
      | .error e => .error e := by
  rw [evaluate, if_pos hmatch, hb]
  dsimp only
  cases (runPipeline functions r.rule.pipeline b).result with
  | error e => rfl
  | ok x => rfl

theorem result_arrive :
    (r.arrive u b).result =
      match r.rule.destination.render b with
      | .ok target => .ok (redirect u target)
      | .error e => .error (.render e) := by
  rw [arrive]
  cases r.rule.destination.render b with
  | ok target => rfl
  | error e => rfl

/-- The variables of a path that are bound have values. -/
theorem exists_resolve_of_binds {p : Path} (hb : b.Binds p.variableNames) :
    (∀ q ∈ p.placeholders, ∃ v, b.resolve q.name = some v) ∧
      (∀ q ∈ p.queries, ∀ x, q.target = .var x → ∃ v, b.resolve x = some v) := by
  constructor
  · intro q hq
    obtain ⟨v, hv⟩ := hb q.name (List.mem_append_left _ (List.mem_map_of_mem hq))
    exact ⟨v, Bindings.resolve_of_get? hv⟩
  · intro q hq x hx
    have hname : x ∈ p.queries.filterMap Query.boundName? :=
      List.mem_filterMap.mpr ⟨q, hq, Query.boundName?_eq_some.mpr hx⟩
    obtain ⟨v, hv⟩ := hb x (List.mem_append_right _ hname)
    exact ⟨v, Bindings.resolve_of_get? hv⟩

/-- Where the variables of the destination are bound, no value is missed. -/
theorem not_isUnbound_of_arrive (hb : b.Binds r.rule.destination.variableNames) {e : EvalError}
    (h : (r.arrive u b).result = .error e) : ¬e.IsUnbound := by
  obtain ⟨hpath, hquery⟩ := exists_resolve_of_binds hb
  rw [result_arrive] at h
  cases hrender : r.rule.destination.render b with
  | ok target =>
    rw [hrender] at h
    cases h
  | error error =>
    rw [hrender] at h
    obtain rfl := Except.error.inj h
    cases error with
    | unbound x => exact absurd hrender (Path.render_ne_unbound hpath hquery x)
    | listInScalar x | scalarInList x value => exact fun hunbound => hunbound

/-- Where moreover their shapes are those that the destination asks for, it is reached. -/
theorem exists_arrive (hb : b.Binds r.rule.destination.variableNames) {known : List (String × Bool)}
    (hshapes : b.HasShapes known)
    (hagree : ∀ q ∈ r.rule.destination.placeholders, known.lookup q.name = some q.isRepeating) :
    ∃ v, (r.arrive u b).result = .ok v := by
  have hpath : ∀ q ∈ r.rule.destination.placeholders,
      ∃ v, b.resolve q.name = some v ∧ v.isList = q.isRepeating := by
    intro q hq
    obtain ⟨v, hv, hshape⟩ := hshapes q.name q.isRepeating (hagree q hq)
    exact ⟨v, Bindings.resolve_of_get? hv, hshape⟩
  obtain ⟨target, htarget⟩ := Path.exists_render hpath (exists_resolve_of_binds hb).2
  rw [result_arrive, htarget]
  exact ⟨_, rfl⟩

/-- A scoped rule misses no value if the variables of its source are bound. -/
theorem not_isUnbound_of_evaluate (hmatch : r.isMatch u) (hb : r.matcher.extract u = some b)
    (hbinds : b.Binds r.rule.source.variableNames) (hscoped : r.rule.IsScoped) {e : EvalError}
    (h : (r.evaluate functions u).result = .error e) : ¬e.IsUnbound := by
  -- What the steps leave behind binds all that the destination asks for.
  have hrun := runPipeline_ensures functions hscoped.pipeline b hbinds
  rw [result_evaluate hmatch hb] at h
  cases hresult : (runPipeline functions r.rule.pipeline b).result with
  | error e' =>
    rw [hresult] at h hrun
    obtain rfl := Except.error.inj h
    exact hrun
  | ok _ =>
    rw [hresult] at h hrun
    exact not_isUnbound_of_arrive (hrun.mono hscoped.destination) h

/-- A scoped rule without calls can be applied if the variables of its source have the shapes
of the source, and the shapes behind its steps are those that the destination asks for. -/
theorem exists_evaluate (hmatch : r.isMatch u) (hb : r.matcher.extract u = some b)
    (hbinds : b.Binds r.rule.source.variableNames) (hscoped : r.rule.IsScoped)
    (hshapes : b.HasShapes r.rule.source.shapes.reverse)
    (hcalls : ∀ e ∈ r.rule.pipeline, e.hasCall = false)
    (hagree : ∀ q ∈ r.rule.destination.placeholders,
      r.rule.shapes.lookup q.name = some q.isRepeating) :
    ∃ v, (r.evaluate functions u).result = .ok v := by
  have hnames : ∀ x ∈ r.rule.source.variableNames,
      x ∈ r.rule.source.shapes.reverse.map Prod.fst := by
    intro x hx
    rwa [List.map_reverse, List.mem_reverse, Path.map_fst_shapes]
  -- One run of the steps both binds the variables and keeps their shapes known.
  have hrun := runPipeline_ensures functions hscoped.pipeline b hbinds
  have hsafe := runPipeline_hasShapes functions hcalls hscoped.pipeline hnames b hshapes
  rw [result_evaluate hmatch hb]
  cases hresult : (runPipeline functions r.rule.pipeline b).result with
  | error e =>
    rw [hresult] at hsafe
    exact hsafe.elim
  | ok _ =>
    rw [hresult] at hrun hsafe
    exact exists_arrive (hrun.mono hscoped.destination) hsafe hagree

/-- Well-scoped rules do not go wrong. Where every variable is bound before it is read, none
is missed. Where moreover the rule was read from a text, no function is called, the source declares
no patterns and its literal text is escaped or keeps blanks, and the placeholders of the
destination repeat exactly where the last writers of their variables give lists, the rule can be
applied. -/
theorem evaluate_of_isScoped (hrule : (ofRule options rule).result = .ok r)
    (functions : FunctionTable) (hmatch : r.isMatch u) (hscoped : rule.IsScoped) :
    (∀ x, (r.evaluate functions u).result ≠ .error (.unresolvedVariable x) ∧
      (r.evaluate functions u).result ≠ .error (.render (.unbound x))) ∧
    (∀ text, Grammar.parseRule text = .ok rule →
      (∀ e ∈ rule.pipeline, e.hasCall = false) →
      (∀ q ∈ rule.source.placeholders, q.pattern = none) →
      (options.escapeLiterals = false →
        ∀ t ∈ Segment.textsOf rule.source.segments, keepsBlanks t.toList) →
      (∀ q ∈ rule.destination.placeholders, rule.shapes.lookup q.name = some q.isRepeating) →
      ∃ v, (r.evaluate functions u).result = .ok v) := by
  obtain ⟨rfl, hcompile⟩ := eq_of_ofRule hrule
  obtain ⟨found, hfound⟩ := exists_find?_of_isMatch hmatch
  have hb : r.matcher.extract u = some
      (Bindings.ofValues (r.rule.source.pathValues found ++ r.rule.source.queryValues u)) := by
    rw [PathMatcher.extract_of_compile hcompile, hfound]
    rfl
  have hbinds : (Bindings.ofValues (r.rule.source.pathValues found ++
      r.rule.source.queryValues u)).Binds r.rule.source.variableNames := by
    rw [← Path.map_fst_values]
    exact Bindings.binds_ofValues _
  constructor
  · intro x
    exact ⟨fun h => not_isUnbound_of_evaluate hmatch hb hbinds hscoped h trivial,
      fun h => not_isUnbound_of_evaluate hmatch hb hbinds hscoped h trivial⟩
  · intro text hparse hcalls hpattern hliteral hagree
    have hshape := Grammar.isWellShaped_source_of_parseRule hparse
    have hitems := PathMatcher.capturesItems hcompile hshape hpattern hliteral u
    -- The last value for a variable counts, as the last shape does.
    have hshapes : (Bindings.ofValues (r.rule.source.pathValues found ++
        r.rule.source.queryValues u)).HasShapes r.rule.source.shapes.reverse := by
      rw [← Path.map_values_isList fun q i hmem => hitems.isList_valueOf hcompile hfound hmem]
      exact Bindings.hasShapes_ofValues _
    exact exists_evaluate hmatch hb hbinds hscoped hshapes hcalls hagree

theorem exists_of_any_parse {text : String} {f : CompiledRule → Bool}
    (h : (CompiledRule.parse options text).result.toOption.any f) :
    ∃ rule r, Grammar.parseRule text = .ok rule ∧ (ofRule options rule).result = .ok r ∧
      f r = true := by
  rw [parse] at h
  cases hparse : Grammar.parseRule text with
  | error e =>
    rw [hparse] at h
    cases h
  | ok rule =>
    rw [hparse] at h
    change (ofRule options rule).result.toOption.any f = true at h
    cases hrule : (ofRule options rule).result with
    | error e =>
      rw [hrule] at h
      cases h
    | ok r =>
      rw [hrule] at h
      exact ⟨rule, r, rfl, hrule, h⟩

/-- Literal text with a group of its own and a dot, a list that is copied, and a parameter of the
query that goes to another one. -/
theorem evaluate_of_copied_list :
    ∃ rule r,
      Grammar.parseRule "/(v|w).:x/:rest* ??page=:page | :all <- :rest | /:x/:all+ ??p=:page" =
          .ok rule ∧
        (ofRule {} rule).result = .ok r ∧
        ∃ v, (r.evaluate ⟨[]⟩ ⟨"https", none, false, "/v-a/b/c", some "page=2", none⟩).result =
          .ok v := by
  obtain ⟨rule, r, hparse, hrule, hr⟩ : ∃ rule r,
      Grammar.parseRule "/(v|w).:x/:rest* ??page=:page | :all <- :rest | /:x/:all+ ??p=:page" =
          .ok rule ∧
        (ofRule {} rule).result = .ok r ∧
        (r.isMatch ⟨"https", none, false, "/v-a/b/c", some "page=2", none⟩ &&
          decide (r.rule.IsScoped ∧ (∀ e ∈ r.rule.pipeline, e.hasCall = false) ∧
            (∀ q ∈ r.rule.source.placeholders, q.pattern = none) ∧
            (∀ t ∈ Segment.textsOf r.rule.source.segments, keepsBlanks t.toList) ∧
            ∀ q ∈ r.rule.destination.placeholders,
              r.rule.shapes.lookup q.name = some q.isRepeating)) = true :=
    exists_of_any_parse (by decide +kernel)
  rw [Bool.and_eq_true, decide_eq_true_eq, (eq_of_ofRule hrule).1] at hr
  obtain ⟨hmatch, hscoped, hcalls, hpattern, hliteral, hagree⟩ := hr
  have h := evaluate_of_isScoped hrule ⟨[]⟩ hmatch hscoped
  exact ⟨rule, r, hparse, hrule, h.2 _ hparse hcalls hpattern (fun _ => hliteral) hagree⟩

/-- Text that is not escaped may open a group and have what follows taken for a comment, which
hides the group of the variable. -/
theorem not_evaluate_of_group_in_text :
    ∃ rule r,
      Grammar.parseRule "/(?P<a>.*)(?x)#:a | /:a" = .ok rule ∧
        (ofRule {} rule).result = .ok r ∧
        r.isMatch ⟨"https", none, false, "/x/y", none, none⟩ ∧
        rule.IsScoped ∧ (∀ e ∈ rule.pipeline, e.hasCall = false) ∧
        (∀ q ∈ rule.source.placeholders, q.pattern = none) ∧
        (rule.source.placeholders.map Placeholder.name).Nodup ∧
        (∀ q ∈ rule.destination.placeholders,
          rule.shapes.lookup q.name = some q.isRepeating) ∧
        ¬∃ v, (r.evaluate ⟨[]⟩ ⟨"https", none, false, "/x/y", none, none⟩).result = .ok v := by
  obtain ⟨rule, r, hparse, hrule, hr⟩ : ∃ rule r,
      Grammar.parseRule "/(?P<a>.*)(?x)#:a | /:a" = .ok rule ∧
        (ofRule {} rule).result = .ok r ∧
        (r.isMatch ⟨"https", none, false, "/x/y", none, none⟩ &&
          decide (r.rule.IsScoped ∧ (∀ e ∈ r.rule.pipeline, e.hasCall = false) ∧
            (∀ q ∈ r.rule.source.placeholders, q.pattern = none) ∧
            (r.rule.source.placeholders.map Placeholder.name).Nodup ∧
            (∀ q ∈ r.rule.destination.placeholders,
              r.rule.shapes.lookup q.name = some q.isRepeating) ∧
            (r.evaluate ⟨[]⟩ ⟨"https", none, false, "/x/y", none, none⟩).result.isOk = false)) =
          true :=
    exists_of_any_parse (by decide +kernel)
  rw [Bool.and_eq_true, decide_eq_true_eq, (eq_of_ofRule hrule).1] at hr
  obtain ⟨hmatch, hscoped, hcalls, hpattern, hnames, hagree, hfailed⟩ := hr
  refine ⟨rule, r, hparse, hrule, hmatch, hscoped, hcalls, hpattern, hnames, hagree, ?_⟩
  rintro ⟨v, hv⟩
  rw [hv] at hfailed
  cases hfailed

end CompiledRule

end Reroute
