import Reroute.Value

/-!
# Bindings

Bindings say what variables stand for: a value, or whatever another variable
stands for. References may form chains and cycles; a variable has a value if the
chain that begins with it ends at one.

## Main definitions

* `Binding`, `Bindings` — a finite map from names
* `Bindings.insert`, `Bindings.get?` — write and read an entry
* `Bindings.resolve` — follow references to a value
* `Bindings.toValues` — every variable that has a value

## Main results

* `Bindings.get?_insert_self`, `Bindings.get?_insert_of_ne` — an entry is replaced,
  and no other
-/

set_option autoImplicit false

namespace Reroute

/-- What a variable stands for. -/
inductive Binding where
  /-- A value. -/
  | value (value : Value)
  /-- Whatever the variable `name` stands for. -/
  | ref (name : String)
deriving DecidableEq, Repr

/-- A finite map from names to what they stand for. -/
structure Bindings where
  entries : List (String × Binding)
  /-- No name has two entries. -/
  nodup : (entries.map Prod.fst).Nodup
deriving Repr

namespace Bindings

variable {b : Bindings} {name other : String} {x : Binding}

/-- No variable stands for anything. -/
def empty : Bindings := ⟨[], by simp⟩

instance : Inhabited Bindings := ⟨empty⟩

/-- What a variable stands for. -/
def get? (b : Bindings) (name : String) : Option Binding :=
  b.entries.lookup name

theorem nodup_insert (b : Bindings) (name : String) (x : Binding) :
    (((name, x) :: b.entries.filter (·.1 ≠ name)).map Prod.fst).Nodup := by
  rw [List.map_cons, List.nodup_cons]
  constructor
  · simp
  · exact (List.filter_sublist.map Prod.fst).nodup b.nodup

/-- Let a variable stand for `x`, whatever it stood for before. -/
def insert (b : Bindings) (name : String) (x : Binding) : Bindings :=
  ⟨(name, x) :: b.entries.filter (·.1 ≠ name), b.nodup_insert name x⟩

/-- The number of variables that stand for something. -/
def size (b : Bindings) : Nat :=
  b.entries.length

/-- Whether no variable stands for anything. -/
def isEmpty (b : Bindings) : Bool :=
  b.entries.isEmpty

/-- The variables that stand for something. -/
def names (b : Bindings) : List String :=
  b.entries.map Prod.fst

/-- The bindings with the given values; of two for a name, the later one counts. -/
def ofValues (values : List (String × Value)) : Bindings :=
  values.foldl (fun b (name, value) => b.insert name (.value value)) empty

/-- The value at the end of at most `hops` entries. -/
def resolveWithin (b : Bindings) : (hops : Nat) → String → Option Value
  | 0, _ => none
  | hops + 1, name =>
    match b.get? name with
    | some (.value value) => some value
    | some (.ref next) => b.resolveWithin hops next
    | none => none

/-- The value that a variable stands for. A chain of references that is longer than
the number of entries is a cycle and leads nowhere. -/
def resolve (b : Bindings) (name : String) : Option Value :=
  b.resolveWithin (b.size + 1) name

/-- Every variable that has a value. -/
def toValues (b : Bindings) : List (String × Value) :=
  b.names.filterMap fun name => (b.resolve name).map (name, ·)

@[simp] theorem get?_empty : empty.get? name = none := rfl

/-- The new entry is found. -/
@[simp] theorem get?_insert_self : (b.insert name x).get? name = some x := by
  simp [get?, insert]

theorem lookup_filter_of_ne {entries : List (String × Binding)} (h : other ≠ name) :
    (entries.filter (·.1 ≠ name)).lookup other = entries.lookup other := by
  induction entries with
  | nil => rfl
  | cons entry entries ih =>
    obtain ⟨key, y⟩ := entry
    by_cases hk : key = name
    · subst hk
      have ho : (other == key) = false := by simpa using h
      rw [List.filter_cons_of_neg (by simp), List.lookup_cons, ho]
      exact ih
    · rw [List.filter_cons_of_pos (by simpa using hk), List.lookup_cons, List.lookup_cons, ih]

/-- Every other entry stays. -/
@[simp] theorem get?_insert_of_ne (h : other ≠ name) :
    (b.insert name x).get? other = b.get? other := by
  have hne : (other == name) = false := by simpa using h
  simp only [get?, insert, List.lookup_cons, hne]
  exact lookup_filter_of_ne h

end Bindings

end Reroute
