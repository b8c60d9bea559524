/-!
# Ranges of numbers

A table of characters lists ranges of their numbers, both ends included. The lists
here are kept in ascending order with a gap between any two ranges, so a set of
numbers is written in one way only, with as few ranges as there can be.

## Main definitions

* `inRanges` — whether a character lies in one of some ranges
* `Ascending` — ranges in order, with gaps between them
* `insertRange`, `gaps` — one range more, and what ranges leave out

## Main statements

* `inRangesNat_insertRange`, `inRangesNat_gaps` — what belongs to the results
* `Ascending.insertRange`, `Ascending.gaps` — the results are in order as well
-/

set_option autoImplicit false

namespace Reroute.Text

/-- Whether a number lies in one of some ranges. -/
def inRangesNat (ranges : List (Nat × Nat)) (n : Nat) : Bool :=
  ranges.any fun (first, last) => first ≤ n && n ≤ last

/-- Whether a character lies in one of some ranges. -/
def inRanges (ranges : List (Nat × Nat)) (x : Char) : Bool :=
  inRangesNat ranges x.toNat

/-- The ranges begin at `least` or later, and there is a gap between any two. -/
def Ascending : (least : Nat) → List (Nat × Nat) → Prop
  | _, [] => True
  | least, (first, last) :: rest => least ≤ first ∧ first ≤ last ∧ Ascending (last + 2) rest

theorem Ascending.mono {k m : Nat} (h : m ≤ k) {ranges : List (Nat × Nat)}
    (hr : Ascending k ranges) : Ascending m ranges := by
  cases ranges with
  | nil => trivial
  | cons r rest => exact ⟨Nat.le_trans h hr.1, hr.2⟩

/-- Nothing below the beginning of the first range belongs to ascending ranges. -/
theorem inRangesNat_eq_false_of_lt {k n : Nat} {ranges : List (Nat × Nat)}
    (hr : Ascending k ranges) (hn : n < k) : inRangesNat ranges n = false := by
  induction ranges generalizing k with
  | nil => rfl
  | cons r rest ih =>
    obtain ⟨hk, hl, hrest⟩ := hr
    have := ih hrest (by omega)
    simp only [inRangesNat, List.any_cons] at this ⊢
    rw [this]
    simp
    omega

/-! ### One range more -/

/-- Add the numbers from `first` to `last`. Ranges that overlap or touch become one. -/
def insertRange (first last : Nat) : List (Nat × Nat) → List (Nat × Nat)
  | [] => [(first, last)]
  | (a, b) :: rest =>
    if last + 1 < a then (first, last) :: (a, b) :: rest
    else if b + 1 < first then (a, b) :: insertRange first last rest
    else insertRange (min first a) (max last b) rest

theorem inRangesNat_insertRange (first last n : Nat) (ranges : List (Nat × Nat)) :
    inRangesNat (insertRange first last ranges) n =
      ((first ≤ n && n ≤ last) || inRangesNat ranges n) := by
  induction ranges generalizing first last with
  | nil => simp [insertRange, inRangesNat]
  | cons r rest ih =>
    obtain ⟨a, b⟩ := r
    unfold insertRange
    split
    · simp [inRangesNat]
    · split
      · have := ih first last
        simp only [inRangesNat, List.any_cons] at this ⊢
        rw [this, Bool.or_left_comm]
      · have := ih (min first a) (max last b)
        simp only [inRangesNat, List.any_cons] at this ⊢
        rw [this, ← Bool.or_assoc]
        congr 1
        rw [Bool.eq_iff_iff]
        simp
        omega

theorem Ascending.insertRange {k first last : Nat} (hf : k ≤ first) (hl : first ≤ last)
    {ranges : List (Nat × Nat)} (hr : Ascending k ranges) :
    Ascending k (insertRange first last ranges) := by
  induction ranges generalizing k first last with
  | nil => exact ⟨hf, hl, trivial⟩
  | cons r rest ih =>
    obtain ⟨a, b⟩ := r
    obtain ⟨ha, hb, hrest⟩ := hr
    unfold Text.insertRange
    split
    · exact ⟨hf, hl, by omega, hb, hrest⟩
    · split
      · exact ⟨ha, hb, ih (by omega) hl hrest⟩
      · exact ih (by omega) (by omega) (hrest.mono (by omega))

/-! ### What is left out -/

/-- The numbers from `start` to `last` that lie in none of the ranges. -/
def gaps (start last : Nat) : List (Nat × Nat) → List (Nat × Nat)
  | [] => if start ≤ last then [(start, last)] else []
  | (a, b) :: rest =>
    if start < a then (start, a - 1) :: gaps (b + 1) last rest else gaps (b + 1) last rest

theorem inRangesNat_gaps {start last n : Nat} (hn : n ≤ last) {ranges : List (Nat × Nat)}
    (hr : Ascending start ranges) :
    inRangesNat (gaps start last ranges) n = (start ≤ n && !inRangesNat ranges n) := by
  induction ranges generalizing start with
  | nil =>
    unfold gaps
    split
    · simp [inRangesNat, hn]
    · have : ¬start ≤ n := by omega
      simp [inRangesNat, this]
  | cons r rest ih =>
    obtain ⟨a, b⟩ := r
    obtain ⟨ha, hb, hrest⟩ := hr
    have key := ih (hrest.mono (show b + 1 ≤ b + 2 by omega))
    have none_below : n ≤ b + 1 → inRangesNat rest n = false :=
      fun h => inRangesNat_eq_false_of_lt hrest (by omega)
    have cons (t : List (Nat × Nat)) (x y : Nat) :
        inRangesNat ((x, y) :: t) n =
          ((decide (x ≤ n) && decide (n ≤ y)) || inRangesNat t n) := by
      simp [inRangesNat]
    unfold gaps
    split <;> grind

theorem Ascending.gaps {start last : Nat} {ranges : List (Nat × Nat)}
    (hr : Ascending start ranges) : Ascending start (gaps start last ranges) := by
  induction ranges generalizing start with
  | nil =>
    unfold Text.gaps
    split
    · exact ⟨Nat.le_refl _, by assumption, trivial⟩
    · trivial
  | cons r rest ih =>
    obtain ⟨a, b⟩ := r
    obtain ⟨ha, hb, hrest⟩ := hr
    have key := ih (hrest.mono (show b + 1 ≤ b + 2 by omega))
    unfold Text.gaps
    split
    · exact ⟨Nat.le_refl _, by omega, key.mono (by omega)⟩
    · exact key.mono (by omega)

end Reroute.Text
