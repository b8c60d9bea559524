import Reroute.Proofs.Aliasing
import Reroute.Proofs.Bindings
import Reroute.Proofs.Evaluation.Locality
import Reroute.Proofs.Grammar.Expression

/-!
# Steps in another order

Two assignments to different variables, neither of which reads what the other one assigns, may
change places: each of them sees the same values in both orders, and neither of them touches
the entry that the other one replaces.

## Main definitions

* `Bindings.IsConcrete` — no variable stands for another one

## Main results

* `Bindings.get?_insert_comm` — entries of different names may be replaced in any order
* `result_runPipeline_assignments_iff`, `bindings_runPipeline_assignments` — what two
  assignments come to
* `assignments_commute` — independent assignments commute, as expressions depend on nothing but
  what occurs in them
-/

set_option autoImplicit false

namespace Reroute

/-! ### Bindings without references -/

namespace Bindings

variable {b : Bindings} {x y : String}

/-- No variable stands for another one. -/
def IsConcrete (b : Bindings) : Prop :=
  ∀ x y, b.get? x ≠ some (.ref y)

/-- Where there are no references, no chain gets beyond the name that it begins with. -/
theorem IsConcrete.eq_of_visits (h : b.IsConcrete) (hxy : b.Visits x y) : x = y := by
  rcases hxy.cases_head with heq | ⟨z, hstep, -⟩
  · exact heq
  · exact absurd hstep (h x z)

/-- Where there are no references, the value of a variable depends on its own entry alone. -/
theorem IsConcrete.resolve_insert_of_ne (h : b.IsConcrete) (hxy : x ≠ y) (v : Value) :
    (b.insert y (.value v)).resolve x = b.resolve x :=
  resolve_insert_of_not_visits (fun hvisits => hxy (h.eq_of_visits hvisits)) _

/-- Bindings that are made of values have no references. -/
theorem isConcrete_ofValues (values : List (String × Value)) : (ofValues values).IsConcrete := by
  intro x y
  rw [get?_ofValues]
  cases values.reverse.lookup x <;> simp

/-- Entries of different names may be replaced in any order. -/
theorem get?_insert_comm (hxy : x ≠ y) (v w : Binding) (z : String) :
    ((b.insert x v).insert y w).get? z = ((b.insert y w).insert x v).get? z := by
  by_cases hy : z = y
  · subst hy
    rw [get?_insert_self, get?_insert_of_ne hxy.symm, get?_insert_self]
  · by_cases hx : z = x
    · subst hx
      rw [get?_insert_of_ne hxy, get?_insert_self, get?_insert_self]
    · rw [get?_insert_of_ne hy, get?_insert_of_ne hx, get?_insert_of_ne hx, get?_insert_of_ne hy]

end Bindings

/-! ### Two assignments -/

open Evaluation Expression

section Assignments

variable {b : Bindings} {x y : String} {e f : Expression} (functions : FunctionTable)

/-- An expression has the same value whatever a variable stands for that does not occur in
it. -/
theorem Expression.result_eval_insert (hb : b.IsConcrete) (hf : f.assigned = [])
    (hx : x ∉ f.reads) (v : Value) :
    (f.eval functions (b.insert x (.value v))).result = (f.eval functions b).result := by
  have hcoincide : Coincide (f.eval functions) (f.eval functions) (b.insert x (.value v)) b := by
    refine eval_coincide f hf (fun z hz => hb.resolve_insert_of_ne ?_ v) fun _ _ => rfl
    rintro rfl
    exact hx hz
  obtain ⟨result, events, heval, heval'⟩ := hcoincide
  rw [heval, heval']

/-- Two assignments, the second of which does not read what the first one assigns, succeed
exactly if both expressions have values where the assignments begin. -/
theorem result_runPipeline_assignments_iff (hb : b.IsConcrete) (he : e.assigned = [])
    (hf : f.assigned = []) (hx : x ∉ f.reads) :
    (runPipeline functions [.assign x e, .assign y f] b).result = .ok () ↔
      ∃ v w, (e.eval functions b).result = .ok v ∧ (f.eval functions b).result = .ok w := by
  simp only [runPipeline, Bind.bind, eval_assign functions he, eval_assign functions hf]
  cases (e.eval functions b).result with
  | error error => simp
  | ok v =>
    simp only [result_eval_insert functions hb hf hx]
    cases (f.eval functions b).result with
    | error error => simp
    | ok w => simp [pure]

/-- They leave these two values behind. -/
theorem bindings_runPipeline_assignments (hb : b.IsConcrete) (he : e.assigned = [])
    (hf : f.assigned = []) (hx : x ∉ f.reads) {v w : Value}
    (hv : (e.eval functions b).result = .ok v) (hw : (f.eval functions b).result = .ok w) :
    (runPipeline functions [.assign x e, .assign y f] b).bindings =
      (b.insert x (.value v)).insert y (.value w) := by
  simp only [runPipeline, Bind.bind, eval_assign functions he, eval_assign functions hf, hv,
    result_eval_insert functions hb hf hx, hw]
  rfl

end Assignments

/-- Independent assignments commute. Where no variable stands for another one, two assignments
to different variables, neither of which reads what the other one assigns, succeed in one order
exactly if they do in the other, and leave the same entries in both. For expressions without
assignments depend on the values of the variables and on the functions that occur in them, and
on nothing else. -/
theorem assignments_commute :
    (∀ (functions : FunctionTable) (b : Bindings) (x y : String) (e f : Expression),
      Grammar.Produces (.assign x e) → Grammar.Produces (.assign y f) → b.IsConcrete →
      x ≠ y → x ∉ f.reads → y ∉ e.reads →
      ((runPipeline functions [.assign x e, .assign y f] b).result = .ok () ↔
        (runPipeline functions [.assign y f, .assign x e] b).result = .ok ()) ∧
      ((runPipeline functions [.assign x e, .assign y f] b).result = .ok () →
        ∀ z, (runPipeline functions [.assign x e, .assign y f] b).bindings.get? z =
          (runPipeline functions [.assign y f, .assign x e] b).bindings.get? z)) ∧
    (∀ (functions functions' : FunctionTable) (b b' : Bindings) (e : Expression),
      e.assigned = [] → (∀ x ∈ e.reads, b.resolve x = b'.resolve x) →
      (∀ f ∈ e.calls, functions.get? f = functions'.get? f) →
      (e.eval functions b).result = (e.eval functions' b').result) := by
  constructor
  · intro functions b x y e f he hf hb hxy hx hy
    have he : e.assigned = [] := (Grammar.produces_iff_isWellFormed.mp he).2.assigned_eq_nil
    have hf : f.assigned = [] := (Grammar.produces_iff_isWellFormed.mp hf).2.assigned_eq_nil
    -- In both orders the assignments come to the values that the expressions have at first.
    have hresult := result_runPipeline_assignments_iff (y := y) functions hb he hf hx
    have hresult' := result_runPipeline_assignments_iff (y := x) functions hb hf he hy
    constructor
    · rw [hresult, hresult']
      exact ⟨fun ⟨v, w, hv, hw⟩ => ⟨w, v, hw, hv⟩, fun ⟨w, v, hw, hv⟩ => ⟨v, w, hv, hw⟩⟩
    · intro hok z
      obtain ⟨v, w, hv, hw⟩ := hresult.mp hok
      rw [bindings_runPipeline_assignments functions hb he hf hx hv hw,
        bindings_runPipeline_assignments functions hb hf he hy hw hv]
      exact Bindings.get?_insert_comm hxy _ _ z
  · intro functions functions' b b' e he hreads hcalls
    obtain ⟨result, events, heval, heval'⟩ := eval_coincide e he hreads hcalls
    rw [heval, heval']

/-- Two variables are assigned, each with the value of one of the others, and a function that
neither assignment calls is added. -/
theorem assignments_commute_of_calls :
    let b := Bindings.ofValues [("a", .text "1"), ("b", .text "2")]
    let e : Expression := .call "concat" [.var "a", .literal (.text "!")]
    let f : Expression := .call "concat" [.var "b", .var "a"]
    Grammar.Produces (.assign "x" e) ∧ Grammar.Produces (.assign "y" f) ∧ b.IsConcrete ∧
      (runPipeline .defaults [.assign "x" e, .assign "y" f] b).result = .ok () ∧
      (runPipeline .defaults [.assign "y" f, .assign "x" e] b).result = .ok () ∧
      (∀ z, (runPipeline .defaults [.assign "x" e, .assign "y" f] b).bindings.get? z =
        (runPipeline .defaults [.assign "y" f, .assign "x" e] b).bindings.get? z) ∧
      (e.eval .defaults b).result =
        (e.eval (FunctionTable.defaults.insert "first" fun _ => .error ⟨"missing argument"⟩)
          (b.insert "b" (.ref "c"))).result := by
  intro b e f
  have he : Grammar.Produces (.assign "x" e) := ⟨":x <- concat(:a, \"!\")", by decide +kernel⟩
  have hf : Grammar.Produces (.assign "y" f) := ⟨":y <- concat(:b, :a)", by decide +kernel⟩
  have hb : b.IsConcrete := Bindings.isConcrete_ofValues _
  obtain ⟨hiff, hsame⟩ := assignments_commute.1 .defaults b "x" "y" e f he hf hb (by decide)
    (by decide) (by decide)
  have hok : (runPipeline .defaults [.assign "x" e, .assign "y" f] b).result = .ok () := by
    decide +kernel
  refine ⟨he, hf, hb, hok, hiff.mp hok, hsame hok,
    assignments_commute.2 _ _ _ _ e (by decide) (by decide) ?_⟩
  rw [show e.calls = ["concat"] by decide, List.forall_mem_singleton]
  rfl

end Reroute
