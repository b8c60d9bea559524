import Reroute.Proofs.Evaluation.Scope
import Reroute.Proofs.Resolution

/-!
# Assignments reach through references

A variable that stands for another one is an alias of it, and whoever assigns a variable
changes the value of all its aliases: of every name whose chain of references comes by it. The
value of a name depends on the entries that its chain visits and on no others. So no other name
is changed, even where a chain that dangled or went round in circles ends from then on.

## Main definitions

* `Bindings.Visits` — a chain of references comes by a name
* `Evaluation.Keeps` — an evaluation keeps what holds of the bindings, even if it fails

## Main results

* `Bindings.resolve_congr` — the value of a name depends on the entries that are visited
* `Bindings.resolve_insert_isExact` — which names have another value after an assignment
* `runPipeline_resolve_of_not_visits` — steps leave a name alone if its chain visits nothing that
  they assign
-/

set_option autoImplicit false

namespace Reroute

open Relation

namespace Bindings

variable {b b' : Bindings} {t x y : String} {v w : Value}

/-! ### Visited names -/

/-- A chain of references that begins with `x` comes by `y`. It begins by visiting `x` itself,
and `y` need not stand for anything. -/
def Visits (b : Bindings) (x y : String) : Prop :=
  ReflTransGen b.RefersTo x y

theorem Visits.refl (x : String) : b.Visits x x :=
  ReflTransGen.refl

theorem leadsTo_iff : b.LeadsTo x v ↔ ∃ y, b.Visits x y ∧ b.get? y = some (.value v) :=
  Iff.rfl

section Agreement

variable (h : ∀ y, b.Visits x y → b'.get? y = b.get? y)
include h

/-- Bindings that agree on the names that are visited visit the same names. -/
theorem visits_congr : b'.Visits x y ↔ b.Visits x y := by
  constructor
  · intro hy
    induction hy with
    | refl => exact .refl x
    | tail _ hstep ih =>
      rw [RefersTo, h _ ih] at hstep
      exact ReflTransGen.tail ih hstep
  · intro hy
    induction hy with
    | refl => exact .refl x
    | tail hy hstep ih =>
      rw [RefersTo, ← h _ hy] at hstep
      exact ReflTransGen.tail ih hstep

/-- The value of a name depends on the entries that are visited, and on no others. -/
theorem resolve_congr : b'.resolve x = b.resolve x := by
  have hleads : ∀ v, b'.LeadsTo x v ↔ b.LeadsTo x v := by
    intro v
    rw [leadsTo_iff, leadsTo_iff]
    refine exists_congr fun y => ?_
    rw [visits_congr h]
    exact and_congr_right fun hy => by rw [h y hy]
  refine Option.ext fun v => ?_
  rw [resolve_eq_some_iff, resolve_eq_some_iff]
  exact hleads v

end Agreement

/-! ### Assigned names -/

theorem get?_insert_of_visits {z : Binding} (h : ¬b.Visits x t) (hy : b.Visits x y) :
    (b.insert t z).get? y = b.get? y := by
  refine get?_insert_of_ne ?_
  rintro rfl
  exact h hy

/-- A chain that comes by a name does so whatever the name stands for. -/
theorem Visits.insert (h : b.Visits x t) (z : Binding) : (b.insert t z).Visits x t := by
  induction h using ReflTransGen.head_induction_on with
  | refl => exact .refl t
  | @head x y hstep _ ih =>
    -- The chain may come by the name on its way, and then that is where it is cut off.
    by_cases hx : x = t
    · rw [hx]
      exact .refl t
    · rw [RefersTo, ← get?_insert_of_ne (x := z) hx] at hstep
      exact ReflTransGen.head hstep ih

/-- Every alias of an assigned name has the new value. -/
theorem resolve_insert_of_visits (h : b.Visits x t) :
    (b.insert t (.value v)).resolve x = some v :=
  resolve_eq_some_iff.mpr ⟨t, h.insert _, get?_insert_self⟩

/-- Every other name has the value that it had, or none if it had none. -/
theorem resolve_insert_of_not_visits (h : ¬b.Visits x t) (z : Binding) :
    (b.insert t z).resolve x = b.resolve x :=
  resolve_congr fun _ hy => get?_insert_of_visits h hy

/-- An assignment gives the new value to the names whose chains of references come by the
variable, and to no others, whether or not the variable stood for anything before. All other
names have the values that they had, or none if they had none. -/
theorem resolve_insert_isExact (b : Bindings) (t : String) (v : Value) (x : String) :
    (b.Visits x t → (b.insert t (.value v)).resolve x = some v) ∧
      (¬b.Visits x t → (b.insert t (.value v)).resolve x = b.resolve x) :=
  ⟨resolve_insert_of_visits, fun h => resolve_insert_of_not_visits h _⟩

/-- A circle is broken, and all that leads into it has the new value. -/
example :
    let b : Bindings := ⟨[("c", .ref "a"), ("a", .ref "b"), ("b", .ref "a"), ("d", .ref "e")],
      by decide⟩
    (b.resolve "c" = none ∧ b.resolve "d" = none) ∧
      (b.insert "b" (.value (.number 1))).resolve "c" = some (.number 1) ∧
      (b.insert "b" (.value (.number 1))).resolve "d" = none := by
  decide

end Bindings

/-! ### Invariants of evaluations -/

namespace Evaluation

variable {α β : Type} {I : Bindings → Prop}

/-- What holds of the bindings before an evaluation holds of those that it leaves, whether it
succeeds or fails. -/
def Keeps (e : Evaluation α) (I : Bindings → Prop) : Prop :=
  ∀ b, I b → I (e b).bindings

theorem keeps_pure (value : α) : Keeps (pure value) I :=
  fun _ hb => hb

theorem keeps_fail (error : EvalError) : Keeps (fail error : Evaluation α) I :=
  fun _ hb => hb

theorem keeps_record (event : Event) : Keeps (record event) I :=
  fun _ hb => hb

theorem keeps_lookup (name : String) : Keeps (lookup name) I := by
  intro b hb
  rw [lookup]
  cases b.resolve name <;> exact hb

theorem keeps_apply (name : String) (f : Function) (args : List Value) :
    Keeps (apply name f args) I := by
  rw [apply]
  cases f args with
  | ok value => exact keeps_pure value
  | error error => exact keeps_fail _

theorem Keeps.bind {e : Evaluation α} {f : α → Evaluation β} (he : e.Keeps I)
    (hf : ∀ value, (f value).Keeps I) : (e >>= f).Keeps I := by
  intro b hb
  have hfirst := he b hb
  dsimp only [Bind.bind]
  rcases hrun : e b with ⟨result, left, events⟩
  rw [hrun] at hfirst
  cases result with
  | error error => exact hfirst
  | ok value => exact hf value left hfirst

end Evaluation

open Evaluation

section Steps

variable {I : Bindings → Prop}

namespace Expression

mutual

/-- An expression keeps what assignments to its targets keep. -/
theorem eval_keeps (functions : FunctionTable) : (e : Expression) →
    (∀ t ∈ e.assigned, ∀ v b, I b → I (b.insert t (.value v))) → (e.eval functions).Keeps I
  | literal v, _ => by
    rw [eval]
    exact keeps_pure v
  | var x, _ => by
    rw [eval]
    exact keeps_lookup x
  | assign t e, h => by
    rw [assigned] at h
    obtain ⟨he, ht⟩ := List.forall_mem_append.mp h
    rw [eval]
    refine (eval_keeps functions e he).bind fun v => (keeps_record _).bind fun _ => ?_
    have hstore : (store t v).Keeps I := ht t (List.mem_singleton_self t) v
    exact hstore.bind fun _ => keeps_pure v
  | call f args, h => by
    rw [eval]
    cases functions.get? f with
    | none => exact keeps_fail _
    | some g =>
      refine (evalAll_keeps functions args h).bind fun vs => (keeps_record _).bind fun _ => ?_
      exact keeps_apply f g vs

/-- Expressions from left to right keep what assignments to their targets keep. -/
theorem evalAll_keeps (functions : FunctionTable) : (es : List Expression) →
    (∀ t ∈ assignedAll es, ∀ v b, I b → I (b.insert t (.value v))) →
    (evalAll functions es).Keeps I
  | [], _ => by
    rw [evalAll]
    exact keeps_pure []
  | e :: es, h => by
    rw [assignedAll] at h
    obtain ⟨he, hes⟩ := List.forall_mem_append.mp h
    rw [evalAll]
    refine (eval_keeps functions e he).bind fun v => ?_
    exact (evalAll_keeps functions es hes).bind fun vs => keeps_pure (v :: vs)

end

end Expression

/-- The steps of a rule keep what assignments to their targets keep. -/
theorem runPipeline_keeps (functions : FunctionTable) {es : List Expression}
    (h : ∀ t ∈ Expression.assignedAll es, ∀ v b, I b → I (b.insert t (.value v))) :
    (runPipeline functions es).Keeps I := by
  induction es with
  | nil =>
    rw [runPipeline]
    exact keeps_pure ()
  | cons e es ih =>
    rw [Expression.assignedAll] at h
    obtain ⟨he, hes⟩ := List.forall_mem_append.mp h
    rw [runPipeline]
    exact (e.eval_keeps functions he).bind fun _ => ih hes

/-- Whether they succeed or fail, the steps of a rule leave the value of a name as it is if its
chain of references visits nothing that they assign. -/
theorem runPipeline_resolve_of_not_visits (functions : FunctionTable) {es : List Expression}
    {b : Bindings} {x : String} (h : ∀ t ∈ Expression.assignedAll es, ¬b.Visits x t) :
    (runPipeline functions es b).bindings.resolve x = b.resolve x := by
  -- The chain itself is not changed on the way, so it never visits what is assigned later.
  let I : Bindings → Prop := fun b' =>
    b'.resolve x = b.resolve x ∧ ∀ t ∈ Expression.assignedAll es, ¬b'.Visits x t
  have hkeeps : (runPipeline functions es).Keeps I := by
    refine runPipeline_keeps functions fun t ht v b' ⟨hvalue, hvisits⟩ => ⟨?_, fun t' ht' => ?_⟩
    · rw [Bindings.resolve_insert_of_not_visits (hvisits t ht), hvalue]
    · rw [Bindings.visits_congr fun _ hy => Bindings.get?_insert_of_visits (hvisits t ht) hy]
      exact hvisits t' ht'
  exact (hkeeps b ⟨rfl, h⟩).1

end Steps

end Reroute
