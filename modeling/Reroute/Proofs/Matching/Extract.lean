import Reroute.Proofs.Bindings
import Reroute.Proofs.Matching.Placeholder

/-!
# Variables read off URLs

A URL is matched by writing one value after the other into bindings: those of the path
come first and those of the query after them, so of several values for one variable the
last one counts.

## Main definitions

* `Path.variableNames` — the variables of a path and its query
* `Path.pathValues`, `Path.queryValues` — what a path and a query write, in order

## Main results

* `PathMatcher.extract_of_compile` — what is read off a URL
-/

set_option autoImplicit false

namespace Reroute

open Regex

/-! ### What paths and queries write -/

namespace Query

/-- The variable that takes the value of a query parameter. -/
def boundName? (q : Query) : Option String :=
  match q.target with
  | .literal _ => none
  | .var x => some x

/-- What a query constraint writes: the parameter, which may be missing. -/
def value? (u : Url) (q : Query) : Option (String × Value) :=
  q.boundName?.map fun x => (x, .text ((u.queryValue? q.name).getD ""))

theorem boundName?_eq_some {q : Query} {x : String} :
    q.boundName? = some x ↔ q.target = .var x := by
  rw [boundName?]
  cases q.target with
  | literal value => simp
  | var y => simp

end Query

namespace Path

variable {p : Path} {found : Match} {u : Url}

/-- The variables of a path and its query. -/
def variableNames (p : Path) : List String :=
  p.placeholders.map Placeholder.name ++ p.queries.filterMap Query.boundName?

/-- What the placeholders of a path write. -/
def pathValues (p : Path) (found : Match) : List (String × Value) :=
  p.placeholders.zipIdx.map fun (q, i) =>
    (q.name, q.valueOf (found.named? (Group.nameOf q.name i)))

/-- What the query constraints of a path write. -/
def queryValues (p : Path) (u : Url) : List (String × Value) :=
  p.queries.filterMap (Query.value? u)

theorem map_zipIdx_eq {α β : Type} {xs : List α} {f : α × Nat → β} {g : α → β}
    (h : ∀ x i, (x, i) ∈ xs.zipIdx → f (x, i) = g x) : xs.zipIdx.map f = xs.map g := by
  calc
    xs.zipIdx.map f = xs.zipIdx.map (g ∘ Prod.fst) := List.map_congr_left fun (x, i) hx => h x i hx
    _ = (xs.zipIdx.map Prod.fst).map g := List.map_map.symm
    _ = xs.map g := by rw [List.zipIdx_map_fst]

theorem map_fst_pathValues :
    (p.pathValues found).map Prod.fst = p.placeholders.map Placeholder.name := by
  rw [pathValues, List.map_map]
  exact map_zipIdx_eq fun _ _ _ => rfl

theorem map_fst_queryValues :
    (p.queryValues u).map Prod.fst = p.queries.filterMap Query.boundName? := by
  rw [queryValues, List.map_filterMap]
  simp [Query.value?, Function.comp_def]

/-- A path and its query write the variables that they name. -/
theorem map_fst_values :
    (p.pathValues found ++ p.queryValues u).map Prod.fst = p.variableNames := by
  rw [List.map_append, map_fst_pathValues, map_fst_queryValues, variableNames]

end Path

/-! ### Compiled paths -/

theorem exists_of_mapM_cons {α β ε : Type} {f : α → Except ε β} {x : α} {xs : List α} {ys : List β}
    (h : (x :: xs).mapM f = .ok ys) :
    ∃ y ys', f x = .ok y ∧ xs.mapM f = .ok ys' ∧ ys = y :: ys' := by
  rw [List.mapM_cons] at h
  cases hx : f x with
  | error e =>
    rw [hx] at h
    cases h
  | ok y =>
    cases hxs : xs.mapM f with
    | error e =>
      rw [hx, hxs] at h
      cases h
    | ok ys' =>
      rw [hx, hxs] at h
      exact ⟨y, ys', rfl, rfl, (Except.ok.inj h).symm⟩

/-- A list is gone through with success exactly if each of its members is. -/
theorem mapM_eq_ok_iff {α β ε : Type} {f : α → Except ε β} {xs : List α} {ys : List β} :
    xs.mapM f = .ok ys ↔ List.Forall₂ (fun x y => f x = .ok y) xs ys := by
  constructor
  · intro h
    induction xs generalizing ys with
    | nil =>
      obtain rfl := Except.ok.inj h
      exact .nil
    | cons x xs ih =>
      obtain ⟨y, ys', hy, hys', rfl⟩ := exists_of_mapM_cons h
      exact .cons hy (ih hys')
  · intro h
    induction h with
    | nil => rfl
    | cons hy _ ih =>
      rw [List.mapM_cons, hy, ih]
      rfl

namespace QueryCheck

/-- A constraint on a fixed value is compiled as it is, and one on a variable with the regular
expression of its pattern. -/
theorem eq_of_compile {q : Query} {check : QueryCheck} (h : compile q = .ok check) :
    (∃ value, q.target = .literal value ∧ check = .literal q.name value) ∨
      ∃ x regex, q.target = .var x ∧ compilePattern q.effectivePattern = .ok regex ∧
        check = .pattern q.name x regex := by
  rw [compile] at h
  cases htarget : q.target with
  | literal value =>
    rw [htarget] at h
    exact .inl ⟨value, rfl, (Except.ok.inj h).symm⟩
  | var x =>
    rw [htarget] at h
    cases hregex : compilePattern q.effectivePattern with
    | error e =>
      rw [hregex] at h
      cases h
    | ok regex =>
      rw [hregex] at h
      exact .inr ⟨x, regex, rfl, rfl, (Except.ok.inj h).symm⟩

/-- What a compiled constraint writes is what the constraint does. -/
theorem bind_of_compile {q : Query} {check : QueryCheck}
    (h : QueryCheck.compile q = .ok check) (u : Url) (b : Bindings) :
    check.bind u b =
      (q.value? u).toList.foldl (fun b (name, value) => b.insert name (.value value)) b := by
  rw [Query.value?, Query.boundName?]
  obtain ⟨value, htarget, rfl⟩ | ⟨x, regex, htarget, -, rfl⟩ := eq_of_compile h
  · rw [htarget]
    rfl
  · rw [htarget]
    rfl

theorem foldl_bind {qs : List Query} {checks : List QueryCheck}
    (h : qs.mapM QueryCheck.compile = .ok checks) (u : Url) (b : Bindings) :
    checks.foldl (fun b check => check.bind u b) b =
      (qs.filterMap (Query.value? u)).foldl
        (fun b (name, value) => b.insert name (.value value)) b := by
  induction qs generalizing checks b with
  | nil =>
    obtain rfl := Except.ok.inj h
    rfl
  | cons q qs ih =>
    obtain ⟨check, checks', hcheck, hchecks, rfl⟩ := exists_of_mapM_cons h
    -- A constraint on a fixed value writes nothing.
    rw [List.foldl_cons, bind_of_compile hcheck, ih hchecks]
    cases hvalue : q.value? u with
    | none => rw [List.filterMap_cons_none hvalue]; rfl
    | some write => rw [List.filterMap_cons_some hvalue]; rfl

end QueryCheck

/-- A test that a result passes is passed by a value. -/
theorem exists_ok_of_any {α ε : Type} {r : Except ε α} {f : α → Bool}
    (h : r.toOption.any f) : ∃ a, r = .ok a ∧ f a := by
  cases r with
  | error e => cases h
  | ok a => exact ⟨a, rfl, h⟩

theorem exists_eq_ok_of_isOk {α ε : Type} {r : Except ε α} (h : r.isOk) : ∃ a, r = .ok a := by
  cases r with
  | error e => cases h
  | ok a => exact ⟨a, rfl⟩

namespace PathMatcher

variable {options : Options} {p : Path} {m : PathMatcher}

/-- A compiled path has the regular expression, the groups and the constraints of the
path. -/
theorem eq_of_compile (h : PathMatcher.compile options p = .ok m) :
    compilePattern (p.regexSource options) = .ok m.regex ∧ m.groups = p.groups ∧
      p.queries.mapM QueryCheck.compile = .ok m.checks := by
  rw [compile] at h
  cases hregex : compilePattern (p.regexSource options) with
  | error e =>
    rw [hregex] at h
    cases h
  | ok regex =>
    cases hchecks : p.queries.mapM QueryCheck.compile with
    | error e =>
      rw [hregex, hchecks] at h
      cases h
    | ok checks =>
      rw [hregex, hchecks] at h
      obtain rfl := Except.ok.inj h
      exact ⟨rfl, rfl, rfl⟩

/-- What is read off a URL: what the path writes, and then what the query writes. -/
theorem extract_of_compile (h : PathMatcher.compile options p = .ok m) (u : Url) :
    m.extract u = (m.regex.find? u.path).map fun found =>
      Bindings.ofValues (p.pathValues found ++ p.queryValues u) := by
  obtain ⟨-, hgroups, hchecks⟩ := eq_of_compile h
  rw [extract]
  congr 1
  funext found
  have hpath : m.groups.foldl (fun b g => b.insert g.variableName (.value (g.value found)))
      Bindings.empty = Bindings.ofValues (p.pathValues found) := by
    rw [hgroups, Path.groups, Bindings.ofValues, Path.pathValues, List.foldl_map, List.foldl_map]
    rfl
  dsimp only
  rw [hpath, QueryCheck.foldl_bind hchecks, Bindings.ofValues, Bindings.ofValues,
    List.foldl_append]
  rfl

end PathMatcher

end Reroute
