import Mathlib.Data.List.Basic
import Reroute.Proofs.Evaluation.Scope

/-!
# Shapes of values

Which variables hold lists is known before a rule is applied, as long as no function is
called: the source gives every variable a shape, and a step gives one to the variable that
it assigns.

## Main definitions

* `Expression.givesList`, `Expression.shapesAfter`, `shapesBehind` — which expressions and
  variables are lists
* `Rule.shapes` — which variables are lists when the destination is filled in
* `Bindings.HasShapes` — the values of variables have known shapes

## Main results

* `Expression.eval_hasShapes` — an expression without calls has the shape that is expected
* `runPipeline_hasShapes` — steps without calls succeed and leave the shapes expected
-/

set_option autoImplicit false

namespace Reroute

/-! ### Shapes from the syntax -/

namespace Expression

/-- Whether an expression calls a function. -/
def hasCall : Expression → Bool
  | literal _ | var _ => false
  | assign _ e => e.hasCall
  | call _ _ => true

/-- Whether the value of an expression without calls is a list. Of several shapes that are
known for a variable the first one counts. -/
def givesList (known : List (String × Bool)) : Expression → Bool
  | literal v => v.isList
  | var x => (known.lookup x).getD false
  | assign _ e => e.givesList known
  | call _ _ => false

/-- What is known behind an expression without calls. -/
def shapesAfter (known : List (String × Bool)) : Expression → List (String × Bool)
  | literal _ | var _ | call _ _ => known
  | assign target e => (target, e.givesList known) :: e.shapesAfter known

end Expression

/-- What is known behind the steps of a rule. -/
def shapesBehind (known : List (String × Bool)) : List Expression → List (String × Bool)
  | [] => known
  | e :: es => shapesBehind (e.shapesAfter known) es

/-- Which variables of a path and its query hold lists, in the order they are written. -/
def Path.shapes (p : Path) : List (String × Bool) :=
  p.placeholders.map (fun q => (q.name, q.isRepeating)) ++
    p.queries.filterMap fun q => q.boundName?.map fun x => (x, false)

/-- Which variables hold lists when the destination of a rule is filled in, the latest
writer first. -/
def Rule.shapes (r : Rule) : List (String × Bool) :=
  shapesBehind r.source.shapes.reverse r.pipeline

theorem Path.map_fst_shapes (p : Path) : p.shapes.map Prod.fst = p.variableNames := by
  rw [shapes, variableNames, List.map_append, List.map_map, List.map_filterMap]
  simp [Function.comp_def]

/-! ### Shapes of bindings -/

/-- Variables whose shape is known have values of that shape. -/
def Bindings.HasShapes (b : Bindings) (known : List (String × Bool)) : Prop :=
  ∀ x isList, known.lookup x = some isList → ∃ v, b.get? x = some (.value v) ∧ v.isList = isList

section Run

variable {b : Bindings} {known : List (String × Bool)}

theorem Bindings.HasShapes.insert (h : b.HasShapes known) (name : String) (v : Value) :
    (b.insert name (.value v)).HasShapes ((name, v.isList) :: known) := by
  intro x isList hx
  rw [List.lookup_cons] at hx
  by_cases hname : x = name
  · subst hname
    rw [beq_self_eq_true] at hx
    exact ⟨v, get?_insert_self, Option.some.inj hx⟩
  · rw [beq_eq_false_iff_ne.mpr hname] at hx
    rw [get?_insert_of_ne hname]
    exact h x isList hx

/-- The shape of what is assigned is known afterwards. -/
theorem Expression.mem_map_fst_shapesAfter {x : String} : (e : Expression) → e.hasCall = false →
    (x ∈ known.map Prod.fst ∨ x ∈ e.assigned) → x ∈ (e.shapesAfter known).map Prod.fst
  | literal v, _, hx => hx.resolve_right (by simp [assigned])
  | var y, _, hx => hx.resolve_right (by simp [assigned])
  | assign target e, hcall, hx => by
    rw [shapesAfter, List.map_cons, List.mem_cons]
    rw [assigned, List.mem_append, List.mem_singleton] at hx
    rcases hx with hx | hx | hx
    · exact .inr (mem_map_fst_shapesAfter e hcall (.inl hx))
    · exact .inr (mem_map_fst_shapesAfter e hcall (.inr hx))
    · exact .inl hx

end Run

/-! ### Evaluation -/

open Evaluation

/-- An expression without calls has the shape that is expected, and leaves the shapes that
are expected. -/
theorem Expression.eval_hasShapes (functions : FunctionTable) {known : List (String × Bool)} :
    (e : Expression) → e.hasCall = false → (∀ x ∈ e.reads, x ∈ known.map Prod.fst) →
    (e.eval functions).Ensures (·.HasShapes known)
      (fun v b => v.isList = e.givesList known ∧ b.HasShapes (e.shapesAfter known))
      (fun _ => False)
  | literal v, _, _ => by
    rw [eval]
    exact ensures_pure fun b hb => ⟨rfl, hb⟩
  | var x, _, hreads => by
    rw [eval]
    apply ensures_lookup
    intro b hb
    obtain ⟨isList, hx⟩ := exists_lookup_of_mem (hreads x (by simp [reads]))
    obtain ⟨v, hv, hshape⟩ := hb x isList hx
    refine ⟨v, Bindings.resolve_of_get? hv, ?_, hb⟩
    rw [givesList, hx, hshape]
    rfl
  | assign target e, hcall, hreads => by
    rw [eval]
    refine (eval_hasShapes functions e hcall hreads).bind fun v => ?_
    refine (ensures_record _).bind fun _ => ?_
    have hstore : (store target v).Ensures
        (fun b => v.isList = e.givesList known ∧ b.HasShapes (e.shapesAfter known))
        (fun _ b => v.isList = (assign target e).givesList known ∧
          b.HasShapes ((assign target e).shapesAfter known)) (fun _ => False) := by
      apply ensures_store
      -- Each variable that is assigned gets the shape of what is stored in it.
      rintro b ⟨hshape, hb⟩
      refine ⟨hshape, ?_⟩
      rw [shapesAfter, ← hshape]
      exact hb.insert target v
    exact hstore.bind fun _ => ensures_pure fun b hb => hb

/-- Steps without calls succeed, and leave the shapes that are expected. -/
theorem runPipeline_hasShapes (functions : FunctionTable) {names : List String}
    {known : List (String × Bool)} {es : List Expression} (hcalls : ∀ e ∈ es, e.hasCall = false)
    (hscoped : ScopedFrom names es) (hnames : ∀ x ∈ names, x ∈ known.map Prod.fst) :
    (runPipeline functions es).Ensures (·.HasShapes known)
      (fun _ b => b.HasShapes (shapesBehind known es)) (fun _ => False) := by
  induction es generalizing names known with
  | nil =>
    rw [runPipeline]
    exact ensures_pure fun b hb => hb
  | cons e es ih =>
    obtain ⟨hcall, hcalls⟩ := List.forall_mem_cons.mp hcalls
    obtain ⟨hreads, hscoped⟩ := hscoped
    have hstep := e.eval_hasShapes functions hcall fun x hx => hnames x (hreads x hx)
    -- Every variable in scope has a known shape after the step as well.
    have hnames' : ∀ x ∈ names ++ e.assigned, x ∈ (e.shapesAfter known).map Prod.fst := by
      intro x hx
      apply Expression.mem_map_fst_shapesAfter e hcall
      exact (List.mem_append.mp hx).imp_left (hnames x)
    rw [runPipeline]
    refine hstep.bind fun v => ?_
    exact (ih hcalls hscoped hnames').weaken fun b hb => hb.2

end Reroute
