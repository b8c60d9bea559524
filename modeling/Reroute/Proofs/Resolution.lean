import Mathlib.Data.List.Perm.Subperm
import Mathlib.Logic.Function.Iterate
import Mathlib.Logic.Relation
import Reroute.Proofs.Bindings

/-!
# Chains of references

A variable that stands for another one refers to it, and references form chains. A chain ends
at a value, or at a name that stands for nothing, or it never ends. A chain that ends visits
no name twice, so it is no longer than there are names; that is why the bound on the number of
hops never cuts one off.

## Main definitions

* `Bindings.RefersTo` — one variable stands for another
* `Bindings.LeadsTo`, `Bindings.IsDangling`, `Bindings.IsEndless` — how a chain may end or not
* `Bindings.Trail` — the names that a chain visits before it ends at a value

## Main results

* `Bindings.Trail.exists_nodup` — the names of a trail need not be visited twice
* `Bindings.resolve_eq_some_iff`, `Bindings.resolve_eq_none_iff` — what following references
  comes to
* `Bindings.resolve_isExact` — both, and what follows for the number of hops and for the values
  of all the variables
-/

set_option autoImplicit false

namespace Reroute.Bindings

open Relation

variable {b : Bindings} {x y : String} {v : Value} {names : List String} {hops : Nat}

/-! ### Chains -/

/-- The variable `x` stands for whatever the variable `y` stands for. -/
def RefersTo (b : Bindings) (x y : String) : Prop :=
  b.get? x = some (.ref y)

/-- A chain of references from `x` ends at the value `v`. -/
def LeadsTo (b : Bindings) (x : String) (v : Value) : Prop :=
  ∃ y, ReflTransGen b.RefersTo x y ∧ b.get? y = some (.value v)

/-- A chain of references from `x` ends at a name that stands for nothing. -/
def IsDangling (b : Bindings) (x : String) : Prop :=
  ∃ y, ReflTransGen b.RefersTo x y ∧ b.get? y = none

/-- A chain of references from `x` never ends. -/
def IsEndless (b : Bindings) (x : String) : Prop :=
  ∃ chain : Nat → String, chain 0 = x ∧ ∀ k, b.RefersTo (chain k) (chain (k + 1))

theorem RefersTo.eq {z : String} (h : b.RefersTo x y) (h' : b.RefersTo x z) : y = z := by
  rw [RefersTo] at h h'
  rw [h] at h'
  exact Binding.ref.inj (Option.some.inj h')

/-- Where a chain ends there is no way on, so two chains that end do so at one place. -/
theorem eq_of_reflTransGen {z : String} (hy : ReflTransGen b.RefersTo x y)
    (hz : ReflTransGen b.RefersTo x z) (hend : ∀ next, ¬b.RefersTo y next)
    (hend' : ∀ next, ¬b.RefersTo z next) : y = z := by
  have hunique : Relator.RightUnique b.RefersTo := fun _ _ _ h h' => h.eq h'
  -- Of two chains from one name, one goes on from the end of the other.
  rcases ReflTransGen.total_of_right_unique hunique hy hz with h | h
  · rcases h.cases_head with heq | ⟨next, hnext, -⟩
    · exact heq
    · exact absurd hnext (hend next)
  · rcases h.cases_head with heq | ⟨next, hnext, -⟩
    · exact heq.symm
    · exact absurd hnext (hend' next)

theorem not_refersTo_of_value (h : b.get? x = some (.value v)) : ¬b.RefersTo x y := by
  rw [RefersTo, h]
  simp

theorem not_refersTo_of_none (h : b.get? x = none) : ¬b.RefersTo x y := by
  rw [RefersTo, h]
  simp

theorem LeadsTo.not_isDangling (h : b.LeadsTo x v) : ¬b.IsDangling x := by
  rintro ⟨z, hz, hnone⟩
  obtain ⟨y, hy, hvalue⟩ := h
  obtain rfl := eq_of_reflTransGen hy hz (fun _ => not_refersTo_of_value hvalue)
    (fun _ => not_refersTo_of_none hnone)
  rw [hvalue] at hnone
  cases hnone

/-- A chain that never ends visits all that is reached from its beginning. -/
theorem LeadsTo.not_isEndless (h : b.LeadsTo x v) : ¬b.IsEndless x := by
  rintro ⟨chain, rfl, hchain⟩
  obtain ⟨y, hy, hvalue⟩ := h
  obtain ⟨k, rfl⟩ : ∃ k, chain k = y := by
    clear hvalue
    induction hy with
    | refl => exact ⟨0, rfl⟩
    | tail _ hstep ih =>
      obtain ⟨k, rfl⟩ := ih
      exact ⟨k + 1, (hchain k).eq hstep⟩
  exact not_refersTo_of_value hvalue (hchain k)

/-- What a variable refers to, or the variable itself. -/
def follow (b : Bindings) (x : String) : String :=
  match b.get? x with
  | some (.ref y) => y
  | _ => x

/-- A chain that ends nowhere goes on for ever. -/
theorem isEndless_of_not (hvalue : ∀ v, ¬b.LeadsTo x v) (hdangling : ¬b.IsDangling x) :
    b.IsEndless x := by
  -- Every name that is reached refers to another one: it has an entry, as nothing dangles, and
  -- the entry is no value.
  have hstep : ∀ y, ReflTransGen b.RefersTo x y → b.RefersTo y (b.follow y) := by
    intro y hy
    rw [RefersTo, follow]
    cases hget : b.get? y with
    | none => exact absurd ⟨y, hy, hget⟩ hdangling
    | some binding =>
      cases binding with
      | value v => exact absurd ⟨y, hy, hget⟩ (hvalue v)
      | ref z => rfl
  have hreach : ∀ k, ReflTransGen b.RefersTo x (b.follow^[k] x) := by
    intro k
    induction k with
    | zero => exact .refl
    | succ k ih =>
      rw [Function.iterate_succ_apply']
      exact ih.tail (hstep _ ih)
  refine ⟨fun k => b.follow^[k] x, rfl, fun k => ?_⟩
  have hk := hstep _ (hreach k)
  rwa [← Function.iterate_succ_apply' b.follow] at hk

/-! ### Trails -/

/-- The chain from a name ends at the value `v`, and these are the names that it visits. -/
inductive Trail (b : Bindings) (v : Value) : String → List String → Prop where
  | stop {x : String} (h : b.get? x = some (.value v)) : Trail b v x [x]
  | step {x y : String} {names : List String} (h : b.RefersTo x y) (rest : Trail b v y names) :
      Trail b v x (x :: names)

theorem LeadsTo.exists_trail (h : b.LeadsTo x v) : ∃ names, b.Trail v x names := by
  obtain ⟨y, hy, hvalue⟩ := h
  induction hy using ReflTransGen.head_induction_on with
  | refl => exact ⟨_, .stop hvalue⟩
  | head hstep _ ih =>
    obtain ⟨names, hnames⟩ := ih
    exact ⟨_, .step hstep hnames⟩

/-- Every name of a trail stands for something. -/
theorem Trail.subset_names (h : b.Trail v x names) : names ⊆ b.names := by
  induction h with
  | stop hvalue => simpa using mem_names_iff.mpr ⟨_, hvalue⟩
  | step hstep _ ih => exact List.cons_subset.mpr ⟨mem_names_iff.mpr ⟨_, hstep⟩, ih⟩

/-- The trail of a name that is visited on the way is the end of the whole. -/
theorem Trail.exists_suffix (h : b.Trail v x names) (hy : y ∈ names) :
    ∃ names', names' <:+ names ∧ b.Trail v y names' := by
  induction h with
  | stop hvalue =>
    obtain rfl := List.mem_singleton.mp hy
    exact ⟨_, List.suffix_rfl, .stop hvalue⟩
  | step hstep hrest ih =>
    rcases List.mem_cons.mp hy with rfl | hy
    · exact ⟨_, List.suffix_rfl, .step hstep hrest⟩
    · obtain ⟨names', hsuffix, htrail⟩ := ih hy
      exact ⟨names', hsuffix.trans (List.suffix_cons _ _), htrail⟩

/-- The names of a trail need not be visited twice: where a name comes again, all that lies
between can be left out. -/
theorem Trail.exists_nodup (h : b.Trail v x names) :
    ∃ names', names'.Nodup ∧ b.Trail v x names' := by
  induction h with
  | stop hvalue => exact ⟨_, List.nodup_singleton _, .stop hvalue⟩
  | @step x y names hstep _ ih =>
    obtain ⟨names', hnodup, htrail⟩ := ih
    by_cases hx : x ∈ names'
    · obtain ⟨names'', hsuffix, htrail'⟩ := htrail.exists_suffix hx
      exact ⟨names'', hnodup.sublist hsuffix.sublist, htrail'⟩
    · exact ⟨x :: names', List.nodup_cons.mpr ⟨hx, hnodup⟩, .step hstep htrail⟩

/-! ### Hops -/

theorem resolveWithin_of_value (h : b.get? x = some (.value v)) :
    b.resolveWithin (hops + 1) x = some v := by
  rw [resolveWithin, h]

theorem resolveWithin_of_refersTo (h : b.RefersTo x y) :
    b.resolveWithin (hops + 1) x = b.resolveWithin hops y := by
  rw [resolveWithin, h]

/-- As many hops as a trail has names are enough, and so are more. -/
theorem Trail.resolveWithin_eq (h : b.Trail v x names) (hhops : names.length ≤ hops) :
    b.resolveWithin hops x = some v := by
  induction h generalizing hops with
  | stop hvalue =>
    obtain ⟨hops, rfl⟩ := Nat.exists_eq_add_of_le' hhops
    exact resolveWithin_of_value hvalue
  | step hstep _ ih =>
    obtain ⟨more, rfl⟩ := Nat.exists_eq_add_of_le' hhops
    rw [List.length_cons, ← Nat.add_assoc, resolveWithin_of_refersTo hstep]
    exact ih (Nat.le_add_left _ _)

/-- What is found within any number of hops is at the end of a chain. -/
theorem leadsTo_of_resolveWithin (h : b.resolveWithin hops x = some v) : b.LeadsTo x v := by
  induction hops generalizing x with
  | zero => cases h
  | succ hops ih =>
    rw [resolveWithin] at h
    cases hget : b.get? x with
    | none =>
      rw [hget] at h
      cases h
    | some binding =>
      rw [hget] at h
      cases binding with
      | value w =>
        obtain rfl := Option.some.inj h
        exact ⟨x, .refl, hget⟩
      | ref y =>
        obtain ⟨z, hz, hvalue⟩ := ih h
        exact ⟨z, .head hget hz, hvalue⟩

/-- Following references finds a value exactly if a chain ends there. As a chain need not visit
a name twice, it has no more names than there are. -/
theorem resolve_eq_some_iff : b.resolve x = some v ↔ b.LeadsTo x v := by
  refine ⟨leadsTo_of_resolveWithin, fun h => ?_⟩
  obtain ⟨names, htrail⟩ := h.exists_trail
  obtain ⟨names', hnodup, htrail'⟩ := htrail.exists_nodup
  have hlength : names'.length ≤ b.size := by
    rw [size, ← List.length_map Prod.fst]
    exact hnodup.length_le_of_subset htrail'.subset_names
  exact htrail'.resolveWithin_eq (Nat.le_succ_of_le hlength)

/-- It finds nothing exactly if the chain ends at a name that stands for nothing, or never
ends. -/
theorem resolve_eq_none_iff : b.resolve x = none ↔ b.IsDangling x ∨ b.IsEndless x := by
  constructor
  · intro h
    have hvalue : ∀ v, ¬b.LeadsTo x v := by
      intro v hv
      rw [resolve_eq_some_iff.mpr hv] at h
      cases h
    by_cases hdangling : b.IsDangling x
    · exact .inl hdangling
    · exact .inr (isEndless_of_not hvalue hdangling)
  · intro h
    rw [Option.eq_none_iff_forall_ne_some]
    intro v hv
    have hleads := resolve_eq_some_iff.mp hv
    rcases h with h | h
    · exact hleads.not_isDangling h
    · exact hleads.not_isEndless h

/-! ### All the values -/

theorem mem_toValues_iff : (x, v) ∈ b.toValues ↔ b.resolve x = some v := by
  rw [toValues, List.mem_filterMap]
  constructor
  · rintro ⟨y, -, hy⟩
    obtain ⟨w, hw, heq⟩ := Option.map_eq_some_iff.mp hy
    obtain ⟨rfl, rfl⟩ := Prod.mk.inj heq
    exact hw
  · intro h
    refine ⟨x, ?_, by rw [h]; rfl⟩
    -- A name without an entry has no value.
    by_contra hx
    have hnone : b.get? x = none := by
      rw [Option.eq_none_iff_forall_ne_some]
      exact fun binding hget => hx (mem_names_iff.mpr ⟨binding, hget⟩)
    rw [resolve_of_get?_eq_none hnone] at h
    cases h

theorem nodup_map_fst_toValues : (b.toValues.map Prod.fst).Nodup := by
  have hfilter : b.toValues.map Prod.fst = b.names.filter fun x => (b.resolve x).isSome := by
    rw [toValues, List.map_filterMap, ← List.filterMap_eq_filter]
    congr 1
    funext x
    cases h : b.resolve x <;> simp [Option.guard, h]
  rw [hfilter]
  exact b.nodup.filter _

/-- Following references is exact. A value is found exactly if a finite chain of references ends
there, and none if the chain ends at a name that stands for nothing or never ends. No number of
hops finds more than the one that is taken. The values of all variables are those that are found
for them, each variable once. -/
theorem resolve_isExact (b : Bindings) (x : String) :
    (∀ v, b.resolve x = some v ↔ b.LeadsTo x v) ∧
      (b.resolve x = none ↔ b.IsDangling x ∨ b.IsEndless x) ∧
      (∀ hops v, b.resolveWithin hops x = some v → b.resolve x = some v) ∧
      (∀ v, (x, v) ∈ b.toValues ↔ b.resolve x = some v) ∧
      (b.toValues.map Prod.fst).Nodup :=
  ⟨fun _ => resolve_eq_some_iff, resolve_eq_none_iff,
    fun _ _ h => resolve_eq_some_iff.mpr (leadsTo_of_resolveWithin h),
    fun _ => mem_toValues_iff, nodup_map_fst_toValues⟩

/-- A chain that visits every name there is. -/
example : (⟨[("c", .value (.text "end")), ("b", .ref "c"), ("a", .ref "b")], by decide⟩ :
    Bindings).resolve "a" = some (.text "end") := by
  decide

end Reroute.Bindings
