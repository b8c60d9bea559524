import Reroute.Text.Ranges

/-!
# Sets of characters

What a single position of a regular expression accepts. A set is kept as ranges of
character numbers in ascending order with gaps between them, so there is one way to
write a set down, and its size can be counted. Words and digits are ASCII.

## Main definitions

* `CharSet`, `CharSet.contains` — sets and their members
* `CharSet.union`, `CharSet.compl`, `CharSet.foldCase` — what sets are made of
* `CharSet.named?` — the sets that have a name between colons

## Main statements

* `CharSet.contains_insert`, `CharSet.contains_union`, `CharSet.contains_compl` —
  what belongs to the results
-/

set_option autoImplicit false

namespace Reroute.Regex

open Text

/-- The ASCII letter of the other case; any other character is kept. -/
def swapCase (x : Char) : Char :=
  if x.isUpper then x.toLower else x.toUpper

/-- Unicode white space. -/
def isBlank (x : Char) : Bool :=
  let n := x.toNat
  (0x9 ≤ n && n ≤ 0xd) || n = 0x20 || n = 0x85 || n = 0xa0 || n = 0x1680 ||
    (0x2000 ≤ n && n ≤ 0x200a) || n = 0x2028 || n = 0x2029 || n = 0x202f || n = 0x205f ||
    n = 0x3000

/-- The characters that words consist of. -/
def isWordChar (x : Char) : Bool :=
  x.isAlphanum || x = '_'

/-- A set of characters. -/
structure CharSet where
  /-- The numbers of the characters. -/
  ranges : List (Nat × Nat)
  ascending : Ascending 0 ranges
deriving DecidableEq, Repr

namespace CharSet

/-- Whether a character belongs to the set. -/
def contains (s : CharSet) (x : Char) : Bool :=
  inRanges s.ranges x

/-- No character. -/
def empty : CharSet :=
  ⟨[], trivial⟩

/-- Add the characters whose numbers run from `first` to `last`. -/
def insert (s : CharSet) (first last : Nat) : CharSet :=
  if h : first ≤ last then
    ⟨insertRange first last s.ranges, s.ascending.insertRange (Nat.zero_le _) h⟩
  else
    s

/-- The characters from `first` to `last`, both included. -/
def range (first last : Char) : CharSet :=
  empty.insert first.toNat last.toNat

/-- The set of one character. -/
def single (x : Char) : CharSet :=
  range x x

/-- The characters of two sets. -/
def union (s t : CharSet) : CharSet :=
  t.ranges.foldl (fun u (first, last) => u.insert first last) s

/-- The union of some sets. -/
def unions (sets : List CharSet) : CharSet :=
  sets.foldl union empty

/-- The characters that the set does not contain. -/
def compl (s : CharSet) : CharSet :=
  ⟨gaps 0 0x10ffff s.ranges, s.ascending.gaps⟩

/-- Every character. -/
def all : CharSet :=
  compl empty

/-- The other case of the letters in a range. Of a range that has letters of both
cases the small ones count. -/
def otherCase? (first last : Nat) : Option (Nat × Nat) :=
  if first ≤ 'z'.toNat ∧ 'a'.toNat ≤ last then
    some (max first 'a'.toNat - 32, min last 'z'.toNat - 32)
  else if first ≤ 'Z'.toNat ∧ 'A'.toNat ≤ last then
    some (max first 'A'.toNat + 32, min last 'Z'.toNat + 32)
  else
    none

/-- Add the other case of letters, range by range. -/
def foldCase (s : CharSet) : CharSet :=
  (s.ranges.filterMap fun (first, last) => otherCase? first last).foldl
    (fun u (first, last) => u.insert first last) s

theorem contains_insert (s : CharSet) (first last : Nat) (x : Char) :
    (s.insert first last).contains x =
      ((first ≤ x.toNat && x.toNat ≤ last) || s.contains x) := by
  unfold insert
  split
  · exact inRangesNat_insertRange first last x.toNat s.ranges
  · have : (decide (first ≤ x.toNat) && decide (x.toNat ≤ last)) = false := by
      simp
      omega
    rw [this, Bool.false_or]

theorem contains_foldl_insert (ranges : List (Nat × Nat)) (s : CharSet) (x : Char) :
    (ranges.foldl (fun u (first, last) => u.insert first last) s).contains x =
      (s.contains x || inRanges ranges x) := by
  induction ranges generalizing s with
  | nil => simp [inRanges, inRangesNat]
  | cons r rest ih =>
    rw [List.foldl_cons, ih, contains_insert]
    simp only [inRanges, inRangesNat, List.any_cons]
    rw [Bool.or_comm (_ && _), Bool.or_assoc]

theorem contains_union (s t : CharSet) (x : Char) :
    (s.union t).contains x = (s.contains x || t.contains x) :=
  contains_foldl_insert t.ranges s x

theorem contains_compl (s : CharSet) (x : Char) : s.compl.contains x = !s.contains x := by
  have hx : x.toNat ≤ 0x10ffff := by
    have := x.valid
    simp only [UInt32.isValidChar, Nat.isValidChar] at this
    simp only [Char.toNat]
    omega
  simpa [compl, contains, inRanges] using inRangesNat_gaps hx s.ascending

/-! ### Sets with a name -/

/-- The ASCII digits. -/
def digits : CharSet :=
  range '0' '9'

/-- The ASCII letters. -/
def letters : CharSet :=
  union (range 'A' 'Z') (range 'a' 'z')

/-- The characters of words. -/
def wordChars : CharSet :=
  unions [letters, digits, single '_']

/-- The ASCII white space characters. -/
def blanks : CharSet :=
  union (range '\t' '\r') (single ' ')

/-- The set that has the given name between colons and brackets. -/
def named? : String → Option CharSet
  | "alnum" => some (union letters digits)
  | "alpha" => some letters
  | "ascii" => some (range '\x00' '\x7f')
  | "blank" => some (union (single '\t') (single ' '))
  | "cntrl" => some (union (range '\x00' '\x1f') (single '\x7f'))
  | "digit" => some digits
  | "graph" => some (range '!' '~')
  | "lower" => some (range 'a' 'z')
  | "print" => some (range ' ' '~')
  | "punct" => some (unions [range '!' '/', range ':' '@', range '[' '\x60', range '\x7b' '~'])
  | "space" => some blanks
  | "upper" => some (range 'A' 'Z')
  | "word" => some wordChars
  | "xdigit" => some (unions [digits, range 'A' 'F', range 'a' 'f'])
  | _ => none

end CharSet

end Reroute.Regex
