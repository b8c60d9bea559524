import Mathlib.Data.List.Induction
import Mathlib.Data.List.Nodup
import Reroute.Bindings

/-!
# Bindings made of values

A variable that was given a value stands for it, and of several values the last one counts.

## Main results

* `Bindings.mem_names_iff` — the names of bindings
* `Bindings.resolve_of_get?` — a variable that stands for a value has that value
* `Bindings.resolve_ofValues` — of the values for a variable the last one counts
-/

set_option autoImplicit false

namespace Reroute

/-! ### Entries -/

/-- Where no name has two entries, every entry is found from behind. -/
theorem lookup_reverse_of_mem {α : Type} {entries : List (String × α)} {name : String} {x : α}
    (hnodup : (entries.map Prod.fst).Nodup) (h : (name, x) ∈ entries) :
    entries.reverse.lookup name = some x := by
  have hnodup' : (entries.reverse.map Prod.fst).Nodup := by
    rw [List.map_reverse, List.nodup_reverse]
    exact hnodup
  -- No entry in front of it has the same name.
  obtain ⟨front, back, heq⟩ := List.append_of_mem (List.mem_reverse.mpr h)
  rw [heq, List.map_append, List.nodup_append] at hnodup'
  refine List.lookup_eq_some_iff.mpr ⟨front, back, heq, ?_⟩
  intro entry hentry
  rw [bne_iff_ne]
  exact (hnodup'.2.2 _ (List.mem_map_of_mem hentry) _ List.mem_cons_self).symm

theorem exists_lookup_of_mem {α : Type} {entries : List (String × α)} {name : String}
    (h : name ∈ entries.map Prod.fst) : ∃ x, entries.lookup name = some x := by
  rw [← Option.isSome_iff_exists, List.lookup_isSome_iff]
  obtain ⟨entry, hentry, rfl⟩ := List.mem_map.mp h
  exact ⟨entry, hentry, beq_self_eq_true _⟩

theorem lookup_reverse_eq_none {α : Type} {entries : List (String × α)} {name : String}
    (h : name ∉ entries.map Prod.fst) : entries.reverse.lookup name = none := by
  rw [List.lookup_eq_none_iff]
  intro entry hentry
  rw [bne_iff_ne]
  rintro rfl
  exact h (List.mem_map_of_mem (List.mem_reverse.mp hentry))

namespace Bindings

variable {b : Bindings} {name : String} {v : Value}

/-- The names are those that stand for something. -/
theorem mem_names_iff : name ∈ b.names ↔ ∃ x, b.get? name = some x := by
  constructor
  · exact exists_lookup_of_mem
  · rintro ⟨x, hx⟩
    obtain ⟨front, back, hentries, -⟩ := List.lookup_eq_some_iff.mp hx
    rw [names, hentries]
    simp

theorem resolve_of_get? (h : b.get? name = some (.value v)) : b.resolve name = some v := by
  rw [resolve, resolveWithin, h]

theorem resolve_of_get?_eq_none (h : b.get? name = none) : b.resolve name = none := by
  rw [resolve, resolveWithin, h]

theorem ofValues_append_singleton (values : List (String × Value)) (name : String) (v : Value) :
    ofValues (values ++ [(name, v)]) = (ofValues values).insert name (.value v) := by
  rw [ofValues, List.foldl_append]
  rfl

theorem get?_ofValues (values : List (String × Value)) (name : String) :
    (ofValues values).get? name = (values.reverse.lookup name).map .value := by
  induction values using List.reverseRecOn with
  | nil => rfl
  | append_singleton values write ih =>
    obtain ⟨x, v⟩ := write
    rw [ofValues_append_singleton, List.reverse_append, List.reverse_singleton,
      List.singleton_append, List.lookup_cons]
    by_cases hx : name = x
    · subst hx
      rw [get?_insert_self, beq_self_eq_true]
      rfl
    · rw [get?_insert_of_ne hx, beq_eq_false_iff_ne.mpr hx]
      exact ih

/-- Of the values for a variable the last one counts. -/
theorem resolve_ofValues (values : List (String × Value)) (name : String) :
    (ofValues values).resolve name = values.reverse.lookup name := by
  cases h : values.reverse.lookup name with
  | none => exact resolve_of_get?_eq_none (by rw [get?_ofValues, h]; rfl)
  | some v => exact resolve_of_get? (by rw [get?_ofValues, h]; rfl)

end Bindings

end Reroute
