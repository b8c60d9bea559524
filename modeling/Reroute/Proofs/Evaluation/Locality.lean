import Reroute.Proofs.Evaluation.Scope
import Reroute.Proofs.Grammar.Spelling

/-!
# What an expression depends on

An expression without assignments depends on the values of the variables that occur in it and
on the functions that it calls, and it leaves the bindings alone. An assignment of such an
expression replaces one entry, and none if the expression has no value.

## Main definitions

* `Evaluation.Coincide` — two evaluations do the same, and leave their bindings alone
* `Expression.calls` — the functions that an expression calls
* `Expression.target?` — the variable that a step assigns

## Main results

* `Expression.eval_coincide` — an expression depends on nothing but what occurs in it
* `Expression.exists_eval_eq` — an expression without assignments leaves the bindings alone
* `Expression.eval_assign` — what an assignment does
* `Expression.IsWellFormed.step_cases` — what kinds of steps the grammar has
-/

set_option autoImplicit false

namespace Reroute

/-! ### Evaluations that coincide -/

namespace Evaluation

variable {α β : Type} {b b' : Bindings}

/-- Two evaluations, each from bindings of its own, end with the same result behind the same
events, and both leave the bindings as they were. -/
def Coincide (e e' : Evaluation α) (b b' : Bindings) : Prop :=
  ∃ result events, e b = ⟨result, b, events⟩ ∧ e' b' = ⟨result, b', events⟩

theorem coincide_pure (value : α) : Coincide (pure value) (pure value) b b' :=
  ⟨.ok value, [], rfl, rfl⟩

/-- Evaluations one after the other. An error ends both at the same place. -/
theorem Coincide.bind {e e' : Evaluation α} {f f' : α → Evaluation β} (h : Coincide e e' b b')
    (h' : ∀ value, Coincide (f value) (f' value) b b') : Coincide (e >>= f) (e' >>= f') b b' := by
  obtain ⟨result, events, he, he'⟩ := h
  cases result with
  | error error =>
    refine ⟨.error error, events, ?_, ?_⟩
    · simp only [Bind.bind, he]
    · simp only [Bind.bind, he']
  | ok value =>
    obtain ⟨last, more, hf, hf'⟩ := h' value
    refine ⟨last, events ++ more, ?_, ?_⟩
    · simp only [Bind.bind, he, hf]
    · simp only [Bind.bind, he', hf']

theorem coincide_fail (error : EvalError) :
    Coincide (fail error : Evaluation α) (fail error) b b' :=
  ⟨.error error, [], rfl, rfl⟩

theorem coincide_record (event : Event) : Coincide (record event) (record event) b b' :=
  ⟨.ok (), [event], rfl, rfl⟩

/-- A variable is read alike where it has the same value. -/
theorem coincide_lookup {name : String} (h : b.resolve name = b'.resolve name) :
    Coincide (lookup name) (lookup name) b b' := by
  simp only [Coincide, lookup, ← h]
  cases b.resolve name with
  | some value => exact ⟨.ok value, [], rfl, rfl⟩
  | none => exact ⟨.error (.unresolvedVariable name), [], rfl, rfl⟩

/-- A function sees its arguments and nothing else. -/
theorem coincide_apply (name : String) (f : Function) (args : List Value) :
    Coincide (apply name f args) (apply name f args) b b' := by
  rw [apply]
  cases f args with
  | ok value => exact coincide_pure value
  | error error => exact coincide_fail _

end Evaluation

/-! ### Expressions -/

open Evaluation

namespace Expression

mutual

/-- The functions that an expression calls. -/
def calls : Expression → List String
  | literal _ => []
  | var _ => []
  | assign _ e => e.calls
  | call f args => f :: callsAll args

/-- The functions that some expressions call. -/
def callsAll : List Expression → List String
  | [] => []
  | e :: es => e.calls ++ callsAll es

end

section Coincidence

variable {functions functions' : FunctionTable} {b b' : Bindings}

mutual

/-- An expression without assignments depends on the values of the variables and on the
functions that occur in it. -/
theorem eval_coincide : (e : Expression) → e.assigned = [] →
    (∀ x ∈ e.reads, b.resolve x = b'.resolve x) →
    (∀ f ∈ e.calls, functions.get? f = functions'.get? f) →
    Coincide (e.eval functions) (e.eval functions') b b'
  | literal v, _, _, _ => by
    rw [eval, eval]
    exact coincide_pure v
  | var x, _, hreads, _ => by
    rw [eval, eval]
    exact coincide_lookup (hreads x (by simp [reads]))
  | assign target e, hassigned, _, _ => by simp [assigned] at hassigned
  | call f args, hassigned, hreads, hcalls => by
    obtain ⟨hf, hcalls⟩ := List.forall_mem_cons.mp hcalls
    rw [eval, eval, ← hf]
    cases functions.get? f with
    | none => exact coincide_fail _
    | some g =>
      refine (evalAll_coincide args hassigned hreads hcalls).bind fun values => ?_
      exact (coincide_record _).bind fun _ => coincide_apply f g values

/-- So do expressions from left to right. -/
theorem evalAll_coincide : (es : List Expression) → assignedAll es = [] →
    (∀ x ∈ readsAll es, b.resolve x = b'.resolve x) →
    (∀ f ∈ callsAll es, functions.get? f = functions'.get? f) →
    Coincide (evalAll functions es) (evalAll functions' es) b b'
  | [], _, _, _ => by
    rw [evalAll, evalAll]
    exact coincide_pure []
  | e :: es, hassigned, hreads, hcalls => by
    -- Nothing is assigned meanwhile, so the rest starts from the same bindings as the first one.
    obtain ⟨hnone, hnones⟩ := List.append_eq_nil_iff.mp hassigned
    obtain ⟨hread, hreads⟩ := List.forall_mem_append.mp hreads
    obtain ⟨hcall, hcalls⟩ := List.forall_mem_append.mp hcalls
    rw [evalAll, evalAll]
    refine (eval_coincide e hnone hread hcall).bind fun value => ?_
    refine (evalAll_coincide es hnones hreads hcalls).bind fun values => ?_
    exact coincide_pure (value :: values)

end

end Coincidence

section Frame

variable {e : Expression}

/-- An expression without assignments leaves the bindings alone, whether it has a value or
not. -/
theorem exists_eval_eq (functions : FunctionTable) (h : e.assigned = []) (b : Bindings) :
    ∃ result events, e.eval functions b = ⟨result, b, events⟩ := by
  have hself : Coincide (e.eval functions) (e.eval functions) b b :=
    eval_coincide e h (fun _ _ => rfl) (fun _ _ => rfl)
  obtain ⟨result, events, heval, -⟩ := hself
  exact ⟨result, events, heval⟩

/-- An assignment replaces the entry of its target if there is a value to assign. -/
theorem eval_assign (functions : FunctionTable) (h : e.assigned = []) (x : String) (b : Bindings) :
    (assign x e).eval functions b =
      match (e.eval functions b).result with
      | .ok v =>
        ⟨.ok v, b.insert x (.value v), (e.eval functions b).events ++ [.assigned x v]⟩
      | .error error => ⟨.error error, b, (e.eval functions b).events⟩ := by
  obtain ⟨result, events, heval⟩ := exists_eval_eq functions h b
  rw [eval]
  cases result with
  | error error => simp only [bind, heval]
  | ok v => simp only [bind, heval, record, store, pure, List.append_nil]

end Frame

/-! ### Steps -/

mutual

/-- An assignment is never part of another expression of the grammar. -/
theorem IsOperand.assigned_eq_nil : {e : Expression} → e.IsOperand → e.assigned = []
  | literal _, _ => rfl
  | var _, _ => rfl
  | assign _ _, h => by simp [IsOperand] at h
  | call _ _, h => AreOperands.assignedAll_eq_nil h.2

theorem AreOperands.assignedAll_eq_nil :
    {es : List Expression} → AreOperands es → assignedAll es = []
  | [], _ => rfl
  | _ :: _, h => by
    rw [assignedAll, IsOperand.assigned_eq_nil h.1, AreOperands.assignedAll_eq_nil h.2]
    rfl

end

/-- The variable that a step assigns, if it is an assignment. -/
def target? : Expression → Option String
  | assign x _ => some x
  | literal _ | var _ | call _ _ => none

/-- An expression of the grammar assigns nothing, or it is the assignment of an expression that
assigns nothing. -/
theorem IsWellFormed.step_cases {e : Expression} (h : e.IsWellFormed) :
    (e.target? = none ∧ e.assigned = []) ∨ ∃ x f, e = assign x f ∧ f.assigned = [] := by
  cases e with
  | assign x f => exact .inr ⟨x, f, rfl, h.2.assigned_eq_nil⟩
  | literal v => exact .inl ⟨rfl, rfl⟩
  | var x => exact .inl ⟨rfl, rfl⟩
  | call f args => exact .inl ⟨rfl, IsOperand.assigned_eq_nil h⟩

end Expression

end Reroute
