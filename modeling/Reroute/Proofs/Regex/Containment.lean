import Mathlib.Algebra.Order.BigOperators.Group.List
import Mathlib.Algebra.Order.Group.Nat
import Mathlib.Data.List.MinMax
import Reroute.Proofs.Regex.Balance

/-!
# Trees within trees

A tree that is part of another one has no group that the other one has not, and is no larger.
Every construction keeps its parts in this sense, but for a repetition of no times, which drops
what it repeats.

## Main definitions

* `Node.Remembers` — the places of a group are remembered wherever the tree is laid out
* `Node.Within`, `Piece.Within` — trees and pieces that are parts of others

## Main results

* `Piece.within_capture`, `Piece.within_concat`, `Piece.within_alternation`,
  `Piece.within_repetition` — constructions keep their parts
* `Piece.total_le_total` — a part does not account for more memory than the whole
-/

set_option autoImplicit false

namespace Reroute.Regex

/-! ### Trees -/

namespace Node

variable {a b c : Node} {nodes : List Node}

/-- Wherever the tree is laid out, its instructions write a place to the slot. -/
def Remembers (node : Node) (slot : Nat) : Prop :=
  ∀ address, Inst.save slot ∈ node.code address

/-- The groups of one tree are in another one, and their places are remembered there. -/
structure Within (a b : Node) : Prop where
  hasGroup : ∀ group, a.hasGroup group → b.hasGroup group
  remembers : ∀ slot, a.Remembers slot → b.Remembers slot

theorem Within.refl (a : Node) : a.Within a :=
  ⟨fun _ => id, fun _ => id⟩

theorem Within.trans (h : a.Within b) (h' : b.Within c) : a.Within c :=
  ⟨fun group => h'.hasGroup group ∘ h.hasGroup group,
    fun slot => h'.remembers slot ∘ h.remembers slot⟩

theorem within_capture (index : Nat) (a : Node) : a.Within (capture index a) where
  hasGroup group h := by simp [hasGroup, h]
  remembers slot h address := by simp [code, h (address + 1)]

theorem within_seq_left (a b : Node) : a.Within (seq a b) where
  hasGroup group h := by simp [hasGroup, h]
  remembers slot h address := by simp [code, h address]

theorem within_seq_right (a b : Node) : b.Within (seq a b) where
  hasGroup group h := by simp [hasGroup, h]
  remembers slot h address := by simp [code, h (address + a.size)]

theorem within_alt_left (a b : Node) : a.Within (alt a b) where
  hasGroup group h := by simp [hasGroup, h]
  remembers slot h address := by simp [code, h (address + 1)]

theorem within_alt_right (a b : Node) : b.Within (alt a b) where
  hasGroup group h := by simp [hasGroup, h]
  remembers slot h address := by simp [code, h (address + a.size + 2)]

theorem within_times {count : Nat} (hcount : count ≠ 0) (a : Node) : a.Within (times count a) where
  hasGroup _ h := h
  remembers _ h address := by
    obtain ⟨n, rfl⟩ := Nat.exists_eq_succ_of_ne_zero hcount
    exact List.mem_append_left _ (h address)

theorem within_upTo {count : Nat} (hcount : count ≠ 0) (greedy : Bool) (a : Node) :
    a.Within (upTo count greedy a) where
  hasGroup _ h := h
  remembers _ h address := by
    obtain ⟨n, rfl⟩ := Nat.exists_eq_succ_of_ne_zero hcount
    exact List.mem_append_left _ (List.mem_cons_of_mem _ (h (address + 1)))

theorem within_plus (greedy : Bool) (a : Node) : a.Within (plus greedy a) where
  hasGroup _ h := h
  remembers _ h address := List.mem_append_left _ (h address)

theorem within_concat (h : a ∈ nodes) : a.Within (concat nodes) := by
  induction nodes with
  | nil => cases h
  | cons node nodes ih =>
    cases nodes with
    | nil =>
      obtain rfl := List.mem_singleton.mp h
      exact .refl a
    | cons node' nodes =>
      obtain rfl | h := List.mem_cons.mp h
      · exact within_seq_left _ _
      · exact (ih h).trans (within_seq_right _ _)

theorem within_alternation (h : a ∈ nodes) : a.Within (alternation nodes) := by
  induction nodes with
  | nil => cases h
  | cons node nodes ih =>
    cases nodes with
    | nil =>
      obtain rfl := List.mem_singleton.mp h
      exact .refl a
    | cons node' nodes =>
      obtain rfl | h := List.mem_cons.mp h
      · exact within_alt_left _ _
      · exact (ih h).trans (within_alt_right _ _)

/-- A repetition keeps what it repeats unless it does so no times. -/
theorem within_repetition (least : Nat) {most : Option Nat} (hmost : most ≠ some 0)
    (greedy : Bool) (a : Node) : a.Within (a.repetition least most greedy) := by
  unfold repetition
  split
  · exact absurd rfl hmost
  · exact .refl a
  · exact (within_plus greedy a).trans (within_upTo Nat.one_ne_zero greedy _)
  · exact within_plus greedy a
  · exact (within_plus greedy a).trans (within_seq_right _ _)
  · rename_i m _ _
    have hm : m ≠ 0 := fun h => hmost (congrArg some h)
    split_ifs with heq hzero
    · exact within_times hm a
    · exact within_upTo hm greedy a
    · exact (within_times hzero a).trans (within_seq_left _ _)

theorem remembers_capture_fst (index : Nat) (a : Node) : (capture index a).Remembers (2 * index) :=
  fun _ => List.mem_cons_self

theorem remembers_capture_snd (index : Nat) (a : Node) :
    (capture index a).Remembers (2 * index + 1) :=
  fun _ => List.mem_cons_of_mem _ (List.mem_append_right _ List.mem_cons_self)

end Node

/-! ### Pieces -/

namespace Piece

variable {p q s : Piece} {ps : List Piece}

/-- A piece that is part of another one takes no more room. -/
structure Within (p q : Piece) : Prop where
  node : p.node.Within q.node
  height : p.height ≤ q.height
  footprint : p.footprint ≤ q.footprint

theorem Within.refl (p : Piece) : p.Within p :=
  ⟨.refl _, Nat.le_refl _, Nat.le_refl _⟩

theorem Within.trans (h : p.Within q) (h' : q.Within s) : p.Within s :=
  ⟨h.node.trans h'.node, Nat.le_trans h.height h'.height, Nat.le_trans h.footprint h'.footprint⟩

theorem within_capture (index : Nat) (p : Piece) : p.Within (p.capture index) :=
  ⟨Node.within_capture index p.node, Nat.le_succ _, Nat.le_add_left _ _⟩

theorem height_le_foldr (h : p ∈ ps) : p.height ≤ (ps.map height).foldr max 0 :=
  List.le_max_of_le' 0 (List.mem_map_of_mem h) (Nat.le_refl _)

theorem footprint_le_foldr (h : p ∈ ps) : p.footprint ≤ (ps.map footprint).foldr (· + ·) 0 :=
  List.le_sum_of_mem (List.mem_map_of_mem h)

theorem within_concat (h : p ∈ ps) : p.Within (concat ps) := by
  match ps, h with
  | [q], h =>
    obtain rfl := List.mem_singleton.mp h
    exact .refl p
  | q :: q' :: ps, h =>
    exact ⟨Node.within_concat (List.mem_map_of_mem h), Nat.le_succ_of_le (height_le_foldr h),
      footprint_le_foldr h⟩

theorem within_alternation (h : p ∈ ps) : p.Within (alternation ps) := by
  match ps, h with
  | [q], h =>
    obtain rfl := List.mem_singleton.mp h
    exact .refl p
  | q :: q' :: ps, h =>
    exact ⟨Node.within_alternation (List.mem_map_of_mem h), Nat.le_succ_of_le (height_le_foldr h),
      Nat.le_trans (footprint_le_foldr h) (Nat.le_add_left _ _)⟩

theorem footprint_le_repetitionFootprint (least : Nat) {most : Option Nat}
    (hmost : most ≠ some 0) (p : Piece) : p.footprint ≤ p.repetitionFootprint least most := by
  unfold repetitionFootprint
  dsimp only
  split
  · exact absurd rfl hmost
  · omega
  · split_ifs <;> omega
  · rename_i n hn
    have := Nat.le_mul_of_pos_left p.footprint (Nat.pos_of_ne_zero hn)
    omega
  · rename_i m _ hm
    have := Nat.le_mul_of_pos_left (stateSize + 2 * branchSize + p.footprint)
      (Nat.pos_of_ne_zero fun h => hmost (congrArg some h))
    omega
  · rename_i _ _ hleast
    have := Nat.le_mul_of_pos_left p.footprint (Nat.pos_of_ne_zero hleast)
    split_ifs <;> omega

theorem within_repetition (least : Nat) {most : Option Nat} (hmost : most ≠ some 0)
    (greedy : Bool) (p : Piece) : p.Within (p.repetition least most greedy) := by
  refine ⟨Node.within_repetition least hmost greedy p.node, ?_,
    footprint_le_repetitionFootprint least hmost p⟩
  simp only [repetition, if_neg hmost]
  split_ifs
  · exact Nat.le_refl _
  · exact Nat.le_succ _

theorem foldl_max_le {xs : List Nat} {a n : Nat} :
    xs.foldl max a ≤ n ↔ a ≤ n ∧ ∀ x ∈ xs, x ≤ n := by
  induction xs generalizing a with
  | nil => simp
  | cons x xs ih => simp [ih, and_assoc]

/-- A tree that is part of another one under higher numbers does not account for more memory. -/
theorem total_le_total {k groups groups' : Nat} (h : (p.raise k).Within q)
    (hgroups : groups + k ≤ groups') (names : List (String × Nat)) :
    p.total groups [] ≤ q.total groups' names := by
  have hlast : ((List.range groups).filter p.node.hasGroup).foldl max 0 ≤
      ((List.range groups').filter q.node.hasGroup).foldl max 0 := by
    refine foldl_max_le.mpr ⟨Nat.zero_le _, fun group hgroup => ?_⟩
    obtain ⟨hlt, hgroup⟩ := List.mem_filter.mp hgroup
    have hraised : q.node.hasGroup (group + k) :=
      h.node.hasGroup _ (by rwa [raise, Node.hasGroup_raise])
    have hmem : group + k ∈ (List.range groups').filter q.node.hasGroup := by
      refine List.mem_filter.mpr ⟨List.mem_range.mpr ?_, hraised⟩
      have := List.mem_range.mp hlt
      omega
    exact Nat.le_trans (Nat.le_add_right _ _) ((foldl_max_le.mp (Nat.le_refl _)).2 _ hmem)
  have hfootprint : p.footprint ≤ q.footprint := h.footprint
  simp only [total, List.map_nil, List.foldr_nil]
  omega

end Piece

end Reroute.Regex
