import Reroute.Proofs.Evaluation.Origin

/-!
# Destinations list what they declare

A query of a destination stands for some parameters: one for a literal, one for a variable
with a single value, and one for each item of a list. The query that the destination is filled
in to is read as these parameters, in the order in which they are declared. No value adds
another one, as what would separate it is encoded.

## Main definitions

* `Query.Declares` — the parameters that a query of a destination stands for

## Main results

* `Query.pairs_eq_ok_iff` — these are the ones that it comes to
* `Path.parse_query_of_render` — the query of a destination is read as what is declared
* `CompiledRule.queryPairs_redirect` — so is the query of the URL that a rule leads to
-/

set_option autoImplicit false

namespace Reroute

variable {b : Bindings}

/-! ### What a query declares -/

/-- The parameters that a query of a destination stands for. -/
inductive Query.Declares (b : Bindings) (q : Query) : List (String × String) → Prop where
  /-- A literal is the value of one parameter. -/
  | literal {text : String} (htarget : q.target = .literal text) : Declares b q [(q.name, text)]
  /-- So is the value of a variable, unless it is a list. -/
  | single {x : String} {v : Value} (htarget : q.target = .var x) (hvalue : b.resolve x = some v)
      (hsingle : v.isList = false) : Declares b q [(q.name, v.toText)]
  /-- Every item of a list is the value of a parameter. -/
  | list {x : String} {items : List String} (htarget : q.target = .var x)
      (hvalue : b.resolve x = some (.list items)) : Declares b q (items.map (q.name, ·))

/-- A query comes to the parameters that it stands for, and to no others. -/
theorem Query.pairs_eq_ok_iff {q : Query} {part : List (String × String)} :
    q.pairs b = .ok part ↔ q.Declares b part := by
  constructor
  · -- The target decides which parameters there are, and then the kind of the value.
    intro h
    rw [pairs] at h
    cases htarget : q.target with
    | literal text =>
      rw [htarget] at h
      obtain rfl := Except.ok.inj h
      exact .literal htarget
    | var x =>
      rw [htarget] at h
      dsimp only at h
      cases hvalue : b.resolve x with
      | none =>
        rw [Bindings.value, hvalue] at h
        cases h
      | some v =>
        rw [Bindings.value, hvalue] at h
        cases v with
        | list items =>
          obtain rfl := Except.ok.inj h
          exact .list htarget hvalue
        | text s | number n | bool y =>
          obtain rfl := Except.ok.inj h
          exact .single htarget hvalue rfl
  · intro h
    cases h with
    | literal htarget => rw [pairs, htarget]
    | @single x v htarget hvalue hsingle =>
      rw [pairs, htarget]
      dsimp only
      rw [Bindings.value, hvalue]
      cases v with
      | list items => cases hsingle
      | text s | number n | bool y => rfl
    | list htarget hvalue =>
      rw [pairs, htarget]
      dsimp only
      rw [Bindings.value, hvalue]

/-! ### Filling in -/

section Render

variable {p : Path} {t : Target}

/-- A destination that declares queries lists the parameters of one after those of the other. -/
theorem Path.exists_declares_of_render (h : p.render b = .ok t) (hqueries : p.queries ≠ []) :
    ∃ parts, List.Forall₂ (Query.Declares b) p.queries parts ∧
      t.query = some (Url.Form.serialize parts.flatten) := by
  obtain ⟨-, ⟨hnone, -⟩ | ⟨-, parts, hparts, hquery⟩⟩ := exists_of_render_eq_ok h
  · exact absurd hnone hqueries
  · have hdeclares := (mapM_eq_ok_iff.mp hparts).imp fun q part => Query.pairs_eq_ok_iff.mp
    exact ⟨parts, hdeclares, hquery⟩

/-- The query of a destination is read as the parameters that it declares, in order and with
nothing between them, whatever their names and values are. A URL with this query has just these
parameters. -/
theorem Path.parse_query_of_render (h : p.render b = .ok t) (hqueries : p.queries ≠ []) :
    ∃ query parts, t.query = some query ∧ List.Forall₂ (Query.Declares b) p.queries parts ∧
      Url.Form.parse query = parts.flatten ∧
      ∀ u : Url, u.query = t.query →
        u.queryPairs = parts.flatten ∧ ∀ name, u.queryValue? name = parts.flatten.lookup name := by
  obtain ⟨parts, hparts, hquery⟩ := exists_declares_of_render h hqueries
  have hparse := Url.Form.parse_serialize parts.flatten
  refine ⟨_, parts, hquery, hparts, hparse, fun u hu => ?_⟩
  have hpairs : u.queryPairs = parts.flatten := by
    rw [Url.queryPairs, hu, hquery, Option.getD_some, hparse]
  exact ⟨hpairs, fun name => by rw [Url.queryValue?, hpairs]⟩

/-- Signs that separate parameters do not do so within a name or a value. Of a list without
items nothing is left, and a value without text is listed. -/
theorem Path.parse_query_of_render_signs :
    let b := Bindings.ofValues [("s", .text "1&admin=1"), ("l", .list ["", "a+b c", "%26"]),
      ("n", .list []), ("e", .text "")]
    let p : Path := ⟨[.text "go" true], [⟨"k&=", .literal "é = %", none⟩, ⟨"s", .var "s", none⟩,
      ⟨"n", .var "n", none⟩, ⟨"l", .var "l", none⟩, ⟨"", .var "e", none⟩]⟩
    let query := "k%26%3D=%C3%A9+%3D+%25&s=1%26admin%3D1&l=&l=a%2Bb+c&l=%2526&="
    p.render b = .ok ⟨"/go", some query⟩ ∧ p.queries ≠ [] ∧
      Url.Form.parse query = [("k&=", "é = %"), ("s", "1&admin=1"), ("l", ""), ("l", "a+b c"),
        ("l", "%26"), ("", "")] := by
  intro b p query
  have hrender : p.render b = .ok ⟨"/go", some query⟩ := by decide +kernel
  have hqueries : p.queries ≠ [] := List.cons_ne_nil _ _
  have hmap : p.queries.mapM (Query.pairs b) =
      .ok [[("k&=", "é = %")], [("s", "1&admin=1")], [], [("l", ""), ("l", "a+b c"), ("l", "%26")],
        [("", "")]] := by
    decide +kernel
  obtain ⟨query', parts, hquery, hparts, hparse, -⟩ := parse_query_of_render hrender hqueries
  obtain rfl := Option.some.inj hquery
  have hpairs := mapM_eq_ok_iff.mpr (hparts.imp fun q part => Query.pairs_eq_ok_iff.mpr)
  obtain rfl := Except.ok.inj (hmap.symm.trans hpairs)
  exact ⟨hrender, hqueries, hparse⟩

end Render

namespace CompiledRule

/-- The URL that a rule leads to has the parameters that the destination declares, and no
others. -/
theorem queryPairs_redirect {u : Url} (hu : u.IsSettled) {p : Path} {t : Target}
    (h : p.render b = .ok t) (hqueries : p.queries ≠ []) :
    ∃ parts, List.Forall₂ (Query.Declares b) p.queries parts ∧
      (redirect u t).queryPairs = parts.flatten := by
  obtain ⟨parts, hparts, hquery⟩ := Path.exists_declares_of_render h hqueries
  refine ⟨parts, hparts, ?_⟩
  rw [Url.queryPairs, query_redirect hu h, hquery, Option.getD_some, Url.Form.parse_serialize]

end CompiledRule

end Reroute
