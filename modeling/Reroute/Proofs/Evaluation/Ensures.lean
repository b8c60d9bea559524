import Mathlib.Tactic.Basic
import Reroute.Evaluation

/-!
# Reasoning about evaluations

A specification of an evaluation says what holds of the bindings before, what of the
result and the bindings after it, and which errors may arise on the way.

## Main definitions

* `Evaluation.Ensures` — an evaluation keeps to a specification

## Main results

* `Evaluation.Ensures.bind` — evaluations one after the other
* `Evaluation.ensures_lookup`, `Evaluation.ensures_store` — reading and writing
-/

set_option autoImplicit false

namespace Reroute.Evaluation

variable {α β : Type} {pre pre' : Bindings → Prop} {post : α → Bindings → Prop}
  {allowed : EvalError → Prop}

/-- From bindings with `pre`, every result has `post` together with the bindings it leaves,
and every error is an allowed one. -/
def Ensures (e : Evaluation α) (pre : Bindings → Prop) (post : α → Bindings → Prop)
    (allowed : EvalError → Prop) : Prop :=
  ∀ b, pre b →
    match (e b).result with
    | .ok value => post value (e b).bindings
    | .error error => allowed error

theorem Ensures.weaken {e : Evaluation α} (h : e.Ensures pre post allowed)
    (hpre : ∀ b, pre' b → pre b) : e.Ensures pre' post allowed :=
  fun b hb => h b (hpre b hb)

/-- More errors may be allowed than arise. -/
theorem Ensures.allow {e : Evaluation α} {allowed' : EvalError → Prop}
    (h : e.Ensures pre post allowed) (hallowed : ∀ error, allowed error → allowed' error) :
    e.Ensures pre post allowed' := by
  intro b hb
  have hrun := h b hb
  cases hresult : (e b).result with
  | ok value =>
    rw [hresult] at hrun
    exact hrun
  | error error =>
    rw [hresult] at hrun
    exact hallowed error hrun

theorem ensures_pure {value : α} (h : ∀ b, pre b → post value b) :
    Ensures (pure value) pre post allowed :=
  h

/-- Evaluations one after the other. -/
theorem Ensures.bind {e : Evaluation α} {f : α → Evaluation β} {mid : α → Bindings → Prop}
    {post : β → Bindings → Prop} (h : e.Ensures pre mid allowed)
    (h' : ∀ value, (f value).Ensures (mid value) post allowed) :
    (e >>= f).Ensures pre post allowed := by
  intro b hb
  have hfirst := h b hb
  dsimp only [Bind.bind]
  rcases hrun : e b with ⟨result, bindings, events⟩
  rw [hrun] at hfirst
  cases result with
  | error error => exact hfirst
  | ok value => exact h' value bindings hfirst

theorem ensures_fail {error : EvalError} (h : ∀ b, pre b → allowed error) :
    Ensures (fail error : Evaluation α) pre post allowed :=
  h

theorem ensures_record (event : Event) : Ensures (record event) pre (fun _ => pre) allowed :=
  fun _ hb => hb

/-- A variable that has a value can be read. -/
theorem ensures_lookup {name : String} {post : Value → Bindings → Prop}
    (h : ∀ b, pre b → ∃ value, b.resolve name = some value ∧ post value b) :
    Ensures (lookup name) pre post allowed := by
  intro b hb
  obtain ⟨value, hvalue, hpost⟩ := h b hb
  rw [lookup, hvalue]
  exact hpost

/-- A variable that may have no value can be read where this is an error that is allowed. -/
theorem ensures_lookup_of_allowed {name : String} {post : Value → Bindings → Prop}
    (h : ∀ b, pre b → ∀ value, post value b) (herror : allowed (.unresolvedVariable name)) :
    Ensures (lookup name) pre post allowed := by
  intro b hb
  rw [lookup]
  cases b.resolve name with
  | some value => exact h b hb value
  | none => exact herror

theorem ensures_store {name : String} {value : Value} {post : Unit → Bindings → Prop}
    (h : ∀ b, pre b → post () (b.insert name (.value value))) :
    Ensures (store name value) pre post allowed :=
  h

/-- A function leaves the bindings as they are. -/
theorem ensures_apply {name : String} {f : Function} {args : List Value}
    (h : ∀ error, f args = .error error → allowed (.functionFailed name error)) :
    Ensures (apply name f args) pre (fun _ => pre) allowed := by
  rw [apply]
  cases hresult : f args with
  | ok value => exact ensures_pure fun _ hb => hb
  | error error => exact ensures_fail fun _ _ => h error hresult

end Reroute.Evaluation
