import Mathlib.Data.List.Basic
import Reroute.Target

/-!
# Filling in destinations

Segments are filled in one by one. A destination demands of each of its variables that it
has a value, and of those in its path that this is a list or a single value; it is filled in
unless a demand is not met, and the first one that is not met is the error.

## Main definitions

* `Demand` — what a destination demands of a variable
* `Demand.IsMet`, `Demand.fault?` — whether a demand is met, and what is wrong if it is not
* `Path.demands` — the demands of a destination, in order

## Main results

* `Segment.renderAll_cons_eq_ok` — segments are filled in one by one
* `Path.exists_of_render_eq_ok` — what a destination is filled in to
* `Path.render_eq_error_iff` — the first demand that is not met is the error
* `Path.exists_render_iff` — a destination is filled in if every demand is met
-/

set_option autoImplicit false

namespace Reroute

variable {b : Bindings} {e : RenderError}

/-! ### Results -/

theorem Placeholder.render_eq {p : Placeholder} {v : Value} (h : b.resolve p.name = some v) :
    p.render b = p.renderValue v := by
  rw [render, Bindings.value, h]

theorem Segment.renderAll_cons_eq_ok {run : Segment} {runs : List Segment}
    {r : String} :
    renderAll b (run :: runs) = .ok r ↔
      ∃ x y, run.render b = .ok x ∧ renderAll b runs = .ok y ∧ r = x ++ y := by
  rw [renderAll]
  rcases run.render b with e | x
  · constructor
    · intro h
      cases h
    · rintro ⟨x, y, h, -⟩
      cases h
  · rcases renderAll b runs with e | y
    · constructor
      · intro h
        cases h
      · rintro ⟨x, y, -, h, -⟩
        cases h
    · constructor
      · intro h
        exact ⟨x, y, rfl, rfl, (Except.ok.inj h).symm⟩
      · rintro ⟨x, y, hx, hy, rfl⟩
        cases hx
        cases hy
        rfl

/-- What a destination that declares no query is filled in to has none. Another one has the
query that lists what its parameters come to, one after the other. -/
theorem Path.exists_of_render_eq_ok {p : Path} {t : Target} (h : p.render b = .ok t) :
    Segment.renderAll b p.segments = .ok t.path ∧
      ((p.queries = [] ∧ t.query = none) ∨
        (p.queries ≠ [] ∧ ∃ parts, p.queries.mapM (Query.pairs b) = .ok parts ∧
          t.query = some (Url.Form.serialize parts.flatten))) := by
  rw [render] at h
  cases hpath : Segment.renderAll b p.segments with
  | error e =>
    rw [hpath] at h
    cases h
  | ok path =>
    rw [hpath] at h
    simp only [bind, Except.bind, pure, Except.pure] at h
    split at h
    · rename_i hempty
      obtain rfl := Except.ok.inj h
      exact ⟨rfl, .inl ⟨List.isEmpty_iff.mp hempty, rfl⟩⟩
    · rename_i hempty
      split at h
      · cases h
      · rename_i parts hparts
        obtain rfl := Except.ok.inj h
        exact ⟨rfl, .inr ⟨by simpa using hempty, parts, hparts, rfl⟩⟩

/-! ### Demands -/

/-- What a destination demands of a variable: that it has a value, which is a list, or none, or
either. -/
structure Demand where
  name : String
  /-- Whether the value has to be a list, if it matters. -/
  isList? : Option Bool
deriving DecidableEq, Repr

namespace Demand

/-- The variable has a value that is a list or not, as demanded. -/
def IsMet (b : Bindings) (d : Demand) : Prop :=
  ∃ v, b.resolve d.name = some v ∧ ∀ isList, d.isList? = some isList → v.isList = isList

/-- What is wrong with the variable, if anything. -/
def fault? (b : Bindings) (d : Demand) : Option RenderError :=
  match b.resolve d.name, d.isList? with
  | none, _ => some (.unbound d.name)
  | some (.list _), some false => some (.listInScalar d.name)
  | some (.list _), _ => none
  | some v, some true => some (.scalarInList d.name v.toText)
  | some _, _ => none

theorem fault?_eq_none_iff {d : Demand} : d.fault? b = none ↔ d.IsMet b := by
  obtain ⟨name, isList?⟩ := d
  simp only [fault?, IsMet]
  cases b.resolve name with
  | none => simp
  | some v => rcases isList? with _ | _ | _ <;> cases v <;> simp [Value.isList]

theorem fault?_ne_unbound {d : Demand} {v : Value} (h : b.resolve d.name = some v) (x : String) :
    d.fault? b ≠ some (.unbound x) := by
  obtain ⟨name, isList?⟩ := d
  rw [fault?, h]
  rcases isList? with _ | _ | _ <;> cases v <;> simp

end Demand

/-- A placeholder takes a list if it is repeating, and a single value if not. -/
def Placeholder.demand (p : Placeholder) : Demand :=
  ⟨p.name, some p.isRepeating⟩

/-- A query takes any value of its variable, if it has one. -/
def Query.demand? (q : Query) : Option Demand :=
  match q.target with
  | .literal _ => none
  | .var x => some ⟨x, none⟩

theorem Query.demand?_eq_some_iff {q : Query} {d : Demand} :
    q.demand? = some d ↔ ∃ x, q.target = .var x ∧ d = ⟨x, none⟩ := by
  rw [demand?]
  cases q.target <;> simp [eq_comm]

/-- The demands of a destination: those of its path, and then those of its queries. -/
def Path.demands (p : Path) : List Demand :=
  p.placeholders.map Placeholder.demand ++ p.queries.filterMap Query.demand?

/-- The demands of a destination are met if the variables of its path have values of the right
shape, and those of its queries any values. -/
theorem Path.forall_demands_iff {p : Path} : (∀ d ∈ p.demands, d.IsMet b) ↔
    (∀ q ∈ p.placeholders, ∃ v, b.resolve q.name = some v ∧ v.isList = q.isRepeating) ∧
      ∀ q ∈ p.queries, ∀ x, q.target = .var x → ∃ v, b.resolve x = some v := by
  rw [demands, List.forall_mem_append, List.forall_mem_map, List.forall_mem_filterMap]
  refine and_congr ?_ ?_
  · simp [Demand.IsMet, Placeholder.demand]
  · refine forall₂_congr fun q _ => ?_
    cases htarget : q.target with
    | literal text => simp [Query.demand?, htarget]
    | var x => simp [Query.demand?, htarget, Demand.IsMet]

/-! ### Errors -/

section Errors

variable {α β ε : Type} {r : Except ε α} {error : ε}

/-- The error of a computation that fails. -/
def error? : Except ε α → Option ε
  | .error error => some error
  | .ok _ => none

theorem error?_eq_some_iff : error? r = some error ↔ r = .error error := by
  cases r <;> simp [error?]

theorem error?_eq_none_iff : error? r = none ↔ ∃ x, r = .ok x := by
  cases r <;> simp [error?]

/-- Of two computations one after the other, the first one that fails gives the error. -/
theorem error?_bind {f : α → Except ε β} {o : Option ε} (h : ∀ x, error? (f x) = o) :
    error? (r >>= f) = (error? r).or o := by
  cases r with
  | error error => rfl
  | ok x => exact h x

theorem error?_map (f : α → β) : error? (r >>= fun x => pure (f x)) = error? r := by
  cases r <;> rfl

theorem error?_mapM (f : α → Except ε β) (xs : List α) :
    error? (xs.mapM f) = xs.findSome? fun x => error? (f x) := by
  induction xs with
  | nil => rfl
  | cons x xs ih =>
    rw [List.mapM_cons, error?_bind fun _ => error?_map _, ih, List.findSome?_cons]
    cases error? (f x) <;> rfl

end Errors

theorem Placeholder.error?_render (p : Placeholder) :
    error? (p.render b) = p.demand.fault? b := by
  rw [render, Bindings.value, demand, Demand.fault?]
  cases b.resolve p.name with
  | none => rfl
  | some v =>
    cases hrepeating : p.isRepeating with
    | true => cases v <;> simp [renderValue, hrepeating, error?]
    | false =>
      cases v with
      | list items => simp [renderValue, hrepeating, error?]
      | text s | number n | bool y =>
        simp only [renderValue, hrepeating, Bool.false_eq_true, if_false]
        split_ifs <;> rfl

theorem Query.error?_pairs (q : Query) :
    error? (q.pairs b) = q.demand?.bind (Demand.fault? b) := by
  rw [pairs, demand?]
  cases q.target with
  | literal text => rfl
  | var x =>
    rw [Option.bind_some, Demand.fault?]
    dsimp only
    rw [Bindings.value]
    cases b.resolve x with
    | none => rfl
    | some v => cases v <;> rfl

namespace Segment

mutual

/-- A segment fails with the first placeholder that does. -/
theorem error?_render : (seg : Segment) →
    error? (seg.render b) = seg.placeholders.findSome? fun q => error? (q.render b)
  | text s prefixed => rfl
  | placeholder p => by
    rw [render, placeholders, List.findSome?_cons, List.findSome?_nil]
    cases error? (p.render b) <;> rfl
  | compound runs => error?_renderAll runs

/-- Segments fail with the first placeholder that does. -/
theorem error?_renderAll : (segs : List Segment) →
    error? (renderAll b segs) = (placeholdersOf segs).findSome? fun q => error? (q.render b)
  | [] => rfl
  | run :: runs => by
    rw [renderAll, error?_bind fun _ => error?_map _, error?_render run, error?_renderAll runs,
      placeholdersOf, List.findSome?_append]

end

end Segment

/-- A destination fails with the first of its demands that is not met. -/
theorem Path.error?_render (p : Path) :
    error? (p.render b) = p.demands.findSome? (Demand.fault? b) := by
  have hplaceholders : error? (Segment.renderAll b p.segments) =
      (p.placeholders.map Placeholder.demand).findSome? (Demand.fault? b) := by
    rw [Segment.error?_renderAll, List.findSome?_map]
    exact congrArg (List.findSome? · _) (funext Placeholder.error?_render)
  have hqueries : error? (p.queries.mapM (Query.pairs b)) =
      (p.queries.filterMap Query.demand?).findSome? (Demand.fault? b) := by
    rw [error?_mapM, ← List.head?_filterMap, ← List.head?_filterMap, List.filterMap_filterMap]
    exact congrArg (fun f => (p.queries.filterMap f).head?) (funext Query.error?_pairs)
  rw [demands, List.findSome?_append, ← hplaceholders, ← hqueries, render]
  refine error?_bind fun path => ?_
  split_ifs with hempty
  · rw [List.isEmpty_iff.mp hempty]
    rfl
  · exact error?_map _

/-- The error is the first demand that is not met. -/
theorem Path.render_eq_error_iff {p : Path} :
    p.render b = .error e ↔ p.demands.findSome? (Demand.fault? b) = some e := by
  rw [← error?_eq_some_iff, error?_render]

/-- A destination is filled in if every demand is met. -/
theorem Path.exists_render_iff {p : Path} :
    (∃ t, p.render b = .ok t) ↔ ∀ d ∈ p.demands, d.IsMet b := by
  rw [← error?_eq_none_iff, error?_render, List.findSome?_eq_none_iff]
  exact forall₂_congr fun d _ => Demand.fault?_eq_none_iff

/-! ### What can be filled in -/

section Path

variable {p : Path}

/-- Variables that have values are found. -/
theorem Path.render_ne_unbound (hpath : ∀ q ∈ p.placeholders, ∃ v, b.resolve q.name = some v)
    (hquery : ∀ q ∈ p.queries, ∀ x, q.target = .var x → ∃ v, b.resolve x = some v) (x : String) :
    p.render b ≠ .error (.unbound x) := by
  intro h
  obtain ⟨d, hd, hfault⟩ := List.exists_of_findSome?_eq_some (render_eq_error_iff.mp h)
  -- Whatever is demanded, the variable has a value.
  have hvalue : ∃ v, b.resolve d.name = some v := by
    rcases List.mem_append.mp hd with hd | hd
    · obtain ⟨q, hq, rfl⟩ := List.mem_map.mp hd
      exact hpath q hq
    · obtain ⟨q, hq, hdemand⟩ := List.mem_filterMap.mp hd
      obtain ⟨y, htarget, rfl⟩ := Query.demand?_eq_some_iff.mp hdemand
      exact hquery q hq y htarget
  obtain ⟨v, hv⟩ := hvalue
  exact Demand.fault?_ne_unbound hv x hfault

/-- Values of the right shape are written. -/
theorem Path.exists_render
    (hpath : ∀ q ∈ p.placeholders, ∃ v, b.resolve q.name = some v ∧ v.isList = q.isRepeating)
    (hquery : ∀ q ∈ p.queries, ∀ x, q.target = .var x → ∃ v, b.resolve x = some v) :
    ∃ target, p.render b = .ok target :=
  exists_render_iff.mpr (forall_demands_iff.mpr ⟨hpath, hquery⟩)

end Path

end Reroute
