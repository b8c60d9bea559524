import Mathlib.Data.List.Basic
import Reroute.Rule
import Reroute.Proofs.Evaluation.Ensures
import Reroute.Proofs.Matching.Extract

/-!
# Variables in scope

A step of a rule may read the variables of the source and those that steps before it
assign. Then no variable lacks a value when it is read.

## Main definitions

* `Expression.reads`, `Expression.assigned` — the variables that an expression reads and
  assigns
* `ScopedFrom`, `Rule.IsScoped` — every variable is bound before it is read

## Main results

* `Expression.eval_ensures` — one expression reads what is bound, and binds what it assigns
* `runPipeline_ensures` — so do the steps of a rule in order
-/

set_option autoImplicit false

namespace Reroute

/-! ### Scopes -/

namespace Expression

mutual

/-- The variables that an expression reads. -/
def reads : Expression → List String
  | literal _ => []
  | var name => [name]
  | assign _ e => e.reads
  | call _ args => readsAll args

/-- The variables that some expressions read. -/
def readsAll : List Expression → List String
  | [] => []
  | e :: es => e.reads ++ readsAll es

end

mutual

/-- The variables that an expression assigns, in order. -/
def assigned : Expression → List String
  | literal _ => []
  | var _ => []
  | assign target e => e.assigned ++ [target]
  | call _ args => assignedAll args

/-- The variables that some expressions assign, in order. -/
def assignedAll : List Expression → List String
  | [] => []
  | e :: es => e.assigned ++ assignedAll es

end

end Expression

/-- Every step reads only variables in `names` and those that earlier steps assign. -/
def ScopedFrom (names : List String) : List Expression → Prop
  | [] => True
  | e :: es => (∀ x ∈ e.reads, x ∈ names) ∧ ScopedFrom (names ++ e.assigned) es

instance decidableScopedFrom (names : List String) :
    (es : List Expression) → Decidable (ScopedFrom names es)
  | [] => .isTrue trivial
  | e :: es =>
    have := decidableScopedFrom (names ++ e.assigned) es
    inferInstanceAs (Decidable ((∀ x ∈ e.reads, x ∈ names) ∧ ScopedFrom (names ++ e.assigned) es))

/-- Every variable is bound by the source or by an assignment before it is read, be it in a
step or in the destination. -/
structure Rule.IsScoped (r : Rule) : Prop where
  pipeline : ScopedFrom r.source.variableNames r.pipeline
  destination : ∀ x ∈ r.destination.variableNames,
    x ∈ r.source.variableNames ++ Expression.assignedAll r.pipeline

instance (r : Rule) : Decidable r.IsScoped :=
  decidable_of_iff (ScopedFrom r.source.variableNames r.pipeline ∧
      ∀ x ∈ r.destination.variableNames,
        x ∈ r.source.variableNames ++ Expression.assignedAll r.pipeline)
    ⟨fun h => ⟨h.1, h.2⟩, fun h => ⟨h.pipeline, h.destination⟩⟩

/-! ### Bound variables -/

/-- Every one of some variables has a value. -/
def Bindings.Binds (b : Bindings) (names : List String) : Prop :=
  ∀ x ∈ names, ∃ v, b.get? x = some (.value v)

/-- Whether an error says that a variable has no value. -/
def EvalError.IsUnbound : EvalError → Prop
  | .unresolvedVariable _ | .render (.unbound _) => True
  | _ => False

section Run

variable {b : Bindings} {names names' : List String}

theorem Bindings.Binds.mono (h : b.Binds names) (hnames : ∀ x ∈ names', x ∈ names) :
    b.Binds names' :=
  fun x hx => h x (hnames x hx)

theorem Bindings.Binds.insert (h : b.Binds names) (name : String) (v : Value) :
    (b.insert name (.value v)).Binds (names ++ [name]) := by
  intro x hx
  by_cases hname : x = name
  · subst hname
    exact ⟨v, get?_insert_self⟩
  · rw [get?_insert_of_ne hname]
    rcases List.mem_append.mp hx with hx | hx
    · exact h x hx
    · exact absurd (List.mem_singleton.mp hx) hname

end Run

/-! ### Evaluation -/

open Evaluation

namespace Expression

mutual

/-- One expression reads what is bound, and binds what it assigns. -/
theorem eval_ensures (functions : FunctionTable) {names : List String} : (e : Expression) →
    (∀ x ∈ e.reads, x ∈ names) →
    (e.eval functions).Ensures (·.Binds names) (fun _ b => b.Binds (names ++ e.assigned))
      (¬ ·.IsUnbound)
  | literal v, _ => by
    rw [eval]
    apply ensures_pure
    intro b hb
    rw [assigned, List.append_nil]
    exact hb
  | var x, hreads => by
    rw [eval]
    apply ensures_lookup
    intro b hb
    obtain ⟨v, hv⟩ := hb x (hreads x (by simp [reads]))
    refine ⟨v, Bindings.resolve_of_get? hv, ?_⟩
    rw [assigned, List.append_nil]
    exact hb
  | assign target e, hreads => by
    rw [eval]
    rw [assigned, ← List.append_assoc]
    refine (eval_ensures functions e hreads).bind fun v => ?_
    refine (ensures_record _).bind fun _ => ?_
    -- Storing the value binds the target on top of what the expression has bound.
    have hstore : (store target v).Ensures (·.Binds (names ++ e.assigned))
        (fun _ b => b.Binds (names ++ e.assigned ++ [target])) (¬ ·.IsUnbound) :=
      ensures_store fun b hb => hb.insert target v
    exact hstore.bind fun _ => ensures_pure fun b hb => hb
  | call f args, hreads => by
    rw [eval]
    cases functions.get? f with
    | none => exact ensures_fail fun _ _ h => h
    | some g =>
      refine (evalAll_ensures functions args hreads).bind fun vs => ?_
      exact (ensures_record _).bind fun _ => ensures_apply fun _ _ h => h

/-- Expressions from left to right read what is bound, and bind what they assign. -/
theorem evalAll_ensures (functions : FunctionTable) {names : List String} :
    (es : List Expression) → (∀ x ∈ readsAll es, x ∈ names) →
    (evalAll functions es).Ensures (·.Binds names) (fun _ b => b.Binds (names ++ assignedAll es))
      (¬ ·.IsUnbound)
  | [], _ => by
    rw [evalAll]
    apply ensures_pure
    intro b hb
    rw [assignedAll, List.append_nil]
    exact hb
  | e :: es, hreads => by
    rw [readsAll] at hreads
    obtain ⟨hread, hreads⟩ := List.forall_mem_append.mp hreads
    rw [evalAll]
    -- Further variables that are bound meanwhile do no harm to the rest.
    refine (eval_ensures functions e hread).bind fun v => ?_
    refine (evalAll_ensures functions es fun x hx =>
      List.mem_append_left _ (hreads x hx)).bind fun vs => ?_
    apply ensures_pure
    intro b hb
    rw [assignedAll, ← List.append_assoc]
    exact hb

end

end Expression

/-- The steps of a rule in order read what is bound, and bind what they assign. -/
theorem runPipeline_ensures (functions : FunctionTable) {names : List String}
    {es : List Expression} (h : ScopedFrom names es) :
    (runPipeline functions es).Ensures (·.Binds names)
      (fun _ b => b.Binds (names ++ Expression.assignedAll es)) (¬ ·.IsUnbound) := by
  induction es generalizing names with
  | nil =>
    rw [runPipeline]
    apply ensures_pure
    intro b hb
    rw [Expression.assignedAll, List.append_nil]
    exact hb
  | cons e es ih =>
    obtain ⟨hreads, hscoped⟩ := h
    rw [runPipeline, Expression.assignedAll, ← List.append_assoc]
    exact (e.eval_ensures functions hreads).bind fun _ => ih hscoped

end Reroute
