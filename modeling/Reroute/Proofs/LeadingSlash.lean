import Reroute.Proofs.Contributions

/-!
# The slash in front of a segment

A segment is a tree of runs, and the slash in front of it belongs to a leaf: the text or the
placeholder that is its first run, or the first run of its first run, and so on. Setting the slash
follows the first runs down to this leaf, and so does asking for it. Printing and listing the
variables visit all runs, but what they come to depends on the leaves in order only. So it is
enough to know that of these leaves the first one is changed and no other.

First runs may also lead to a compound without runs. Such a segment has no leaf to carry the
slash, and setting it does nothing.

## Main definitions

* `Segment.BeginsWith` — the first leaf, where first runs lead
* `Leaf.setPrefixed`, `Leaf.print`, `Leaf.placeholder?` — what is done to a leaf

## Main results

* `Segment.print_eq_join`, `Segment.placeholders_eq_filterMap` — print and variables by leaves
* `Segment.BeginsWith.exists_leaves` — which leaf is changed
* `Segment.setPrefixed_isLocal` — what setting the slash does, and what it leaves alone
-/

set_option autoImplicit false

namespace Reroute

variable {s : Segment} {leaf : Leaf} {b : Bool}

/-! ### Leaves -/

namespace Leaf

/-- Whether the leaf begins with a slash. -/
def isPrefixed : Leaf → Bool
  | text _ prefixed => prefixed
  | placeholder p => p.prefixed

/-- The leaf with or without a slash in front. -/
def setPrefixed (prefixed : Bool) : Leaf → Leaf
  | text s _ => text s prefixed
  | placeholder p => placeholder { p with prefixed := prefixed }

/-- The leaf in the syntax of rules. -/
def print : Leaf → String
  | text s prefixed => slash prefixed ++ s
  | placeholder p => p.print

/-- The placeholder, if the leaf is one. -/
def placeholder? : Leaf → Option Placeholder
  | text _ _ => none
  | placeholder p => some p

@[simp] theorem isPrefixed_setPrefixed : (leaf.setPrefixed b).isPrefixed = b := by
  cases leaf <;> rfl

theorem print_setPrefixed_true :
    (leaf.setPrefixed true).print = "/" ++ (leaf.setPrefixed false).print := by
  cases leaf with
  | text s prefixed => simp [setPrefixed, print, slash]
  | placeholder p =>
    simp only [setPrefixed, print, Placeholder.print, String.append_assoc]
    exact congrArg ("/" ++ ·) String.empty_append.symm

theorem placeholder?_setPrefixed :
    (leaf.setPrefixed b).placeholder? =
      leaf.placeholder?.map fun p => { p with prefixed := b } := by
  cases leaf <;> rfl

theorem filterMap_placeholder?_cons (leaf : Leaf) (rest : List Leaf) :
    (leaf :: rest).filterMap placeholder? =
      leaf.placeholder?.toList ++ rest.filterMap placeholder? := by
  cases leaf <;> rfl

end Leaf

namespace Segment

/-! ### Traversals by leaves -/

mutual

/-- A segment is printed leaf by leaf. -/
theorem print_eq_join : (s : Segment) → s.print = String.join (s.leaves.map Leaf.print)
  | text _ _ => String.empty_append.symm
  | placeholder _ => String.empty_append.symm
  | compound runs => printAll_eq_join runs

/-- Segments are printed leaf by leaf. -/
theorem printAll_eq_join : (segs : List Segment) →
    printAll segs = String.join ((leavesOf segs).map Leaf.print)
  | [] => rfl
  | run :: runs => by
    rw [printAll, leavesOf, List.map_append, String.join_append, print_eq_join run,
      printAll_eq_join runs]

end

mutual

/-- The placeholders of a segment are those among its leaves. -/
theorem placeholders_eq_filterMap : (s : Segment) →
    s.placeholders = s.leaves.filterMap Leaf.placeholder?
  | text _ _ => rfl
  | placeholder _ => rfl
  | compound runs => placeholdersOf_eq_filterMap runs

/-- The placeholders of some segments are those among their leaves. -/
theorem placeholdersOf_eq_filterMap : (segs : List Segment) →
    placeholdersOf segs = (leavesOf segs).filterMap Leaf.placeholder?
  | [] => rfl
  | run :: runs => by
    rw [placeholdersOf, leavesOf, List.filterMap_append, placeholders_eq_filterMap run,
      placeholdersOf_eq_filterMap runs]

end

/-! ### The first leaf -/

/-- The chain of first runs of a segment ends in a leaf. -/
inductive BeginsWith : Segment → Leaf → Prop where
  | text (s : String) (prefixed : Bool) : BeginsWith (.text s prefixed) (.text s prefixed)
  | placeholder (p : Placeholder) : BeginsWith (.placeholder p) (.placeholder p)
  | compound {run : Segment} {leaf : Leaf} (runs : List Segment) (h : BeginsWith run leaf) :
    BeginsWith (.compound (run :: runs)) leaf

namespace BeginsWith

theorem isPrefixed_eq (h : s.BeginsWith leaf) : s.isPrefixed = leaf.isPrefixed := by
  induction h with
  | text s prefixed => rfl
  | placeholder p => rfl
  | compound runs _ ih => exact ih

/-- First runs lead to the same leaf, whose slash was set. -/
theorem setPrefixed (h : s.BeginsWith leaf) (b : Bool) :
    (s.setPrefixed b).BeginsWith (leaf.setPrefixed b) := by
  induction h with
  | text s prefixed => exact .text s b
  | placeholder p => exact .placeholder _
  | compound runs _ ih => exact .compound runs ih

/-- Of the leaves, the first one alone is changed. -/
theorem exists_leaves (h : s.BeginsWith leaf) :
    ∃ rest, s.leaves = leaf :: rest ∧
      ∀ b, (s.setPrefixed b).leaves = leaf.setPrefixed b :: rest := by
  induction h with
  | text s prefixed => exact ⟨[], rfl, fun _ => rfl⟩
  | placeholder p => exact ⟨[], rfl, fun _ => rfl⟩
  | compound runs _ ih =>
    -- The leaves of the other runs stand behind those of the first one.
    obtain ⟨rest, hleaves, hset⟩ := ih
    refine ⟨rest ++ leavesOf runs, ?_, fun b => ?_⟩
    · rw [leaves, leavesOf, hleaves, List.cons_append]
    · rw [Segment.setPrefixed, setFirstPrefixed, leaves, leavesOf, hset, List.cons_append]

end BeginsWith

/-! ### Setting the slash -/

mutual

/-- The slash that is set last counts. -/
theorem setPrefixed_setPrefixed (a b : Bool) : (s : Segment) →
    (s.setPrefixed a).setPrefixed b = s.setPrefixed b
  | text _ _ => rfl
  | placeholder _ => rfl
  | compound runs => congrArg compound (setFirstPrefixed_setFirstPrefixed a b runs)

/-- The slash that is set last before some runs counts. -/
theorem setFirstPrefixed_setFirstPrefixed (a b : Bool) : (runs : List Segment) →
    setFirstPrefixed b (setFirstPrefixed a runs) = setFirstPrefixed b runs
  | [] => rfl
  | run :: runs => congrArg (· :: runs) (setPrefixed_setPrefixed a b run)

end

theorem foldl_setPrefixed (s : Segment) (bs : List Bool) (b : Bool) :
    (bs.foldl (fun s b => s.setPrefixed b) s).setPrefixed b = s.setPrefixed b := by
  induction bs generalizing s with
  | nil => rfl
  | cons a bs ih => rw [List.foldl_cons, ih, setPrefixed_setPrefixed]

/-- Setting the slash of a segment changes the first of its leaves and no other, however deep the
leaf stands. The segment then has the slash that was set, and with a slash it is printed as a
slash before what is printed without one. Of several settings the last one alone decides. The
variables stay in order, with their names, quantifiers and patterns, and so do their slashes, but
for that of the first leaf if it is one of them. -/
theorem setPrefixed_isLocal (h : s.BeginsWith leaf) (b : Bool) :
    (s.setPrefixed b).isPrefixed = b ∧
    (s.setPrefixed true).print = "/" ++ (s.setPrefixed false).print ∧
    (∀ bs : List Bool, (bs ++ [b]).foldl (fun s b => s.setPrefixed b) s = s.setPrefixed b) ∧
    ∃ rest : List Leaf, s.leaves = leaf :: rest ∧
      (s.setPrefixed b).leaves = leaf.setPrefixed b :: rest ∧
      s.placeholders = leaf.placeholder?.toList ++ rest.filterMap Leaf.placeholder? ∧
      (s.setPrefixed b).placeholders =
        (leaf.placeholder?.map fun p => { p with prefixed := b }).toList ++
          rest.filterMap Leaf.placeholder? := by
  -- With and without a slash, the leaves behind the first one are the same.
  obtain ⟨rest, hleaves, hset⟩ := h.exists_leaves
  refine ⟨?_, ?_, fun bs => ?_, rest, hleaves, hset b, ?_, ?_⟩
  · rw [(h.setPrefixed b).isPrefixed_eq, Leaf.isPrefixed_setPrefixed]
  · rw [print_eq_join, print_eq_join, hset, hset, List.map_cons, List.map_cons, String.join_cons,
      String.join_cons, Leaf.print_setPrefixed_true, String.append_assoc]
  · rw [List.foldl_append, List.foldl_cons, List.foldl_nil, foldl_setPrefixed]
  · rw [placeholders_eq_filterMap, hleaves, Leaf.filterMap_placeholder?_cons]
  · rw [placeholders_eq_filterMap, hset, Leaf.filterMap_placeholder?_cons,
      Leaf.placeholder?_setPrefixed]

/-- The first leaf is two levels down, and another variable follows it further up. -/
theorem setPrefixed_isLocal_of_nested :
    let p : Placeholder := ⟨"a", some .optional, none, true⟩
    let q : Placeholder := ⟨"b", none, some "x+", false⟩
    let s : Segment := .compound [.compound [.placeholder p, .text "-" false], .placeholder q]
    s.BeginsWith (.placeholder p) ∧ (s.setPrefixed false).isPrefixed = false ∧
      (s.setPrefixed true).print = "/" ++ (s.setPrefixed false).print ∧
      ((s.setPrefixed false).setPrefixed true).setPrefixed false = s.setPrefixed false ∧
      (s.setPrefixed false).placeholders = [{ p with prefixed := false }, q] := by
  intro p q s
  have h : s.BeginsWith (.placeholder p) := .compound _ (.compound _ (.placeholder p))
  obtain ⟨hprefixed, hprint, hlast, rest, hleaves, -, -, hplaceholders⟩ :=
    setPrefixed_isLocal h false
  obtain rfl : [.text "-" false, .placeholder q] = rest := (List.cons.inj hleaves).2
  exact ⟨h, hprefixed, hprint, hlast [false, true], hplaceholders⟩

/-- Where first runs lead to no leaf, there is no slash to set. -/
example : ((compound [compound [], text "a" false]).setPrefixed true).isPrefixed = false := rfl

end Segment

end Reroute
