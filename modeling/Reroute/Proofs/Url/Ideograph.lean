import Reroute.Proofs.Url.Host
import Reroute.Proofs.Url.Punycode

/-!
# Ideographs in domain names

Common Chinese characters stand for themselves and join no others, so a label of them stays
as it is and is written in ASCII as a whole.

## Main definitions

* `Domain.IsIdeograph` — the common Chinese characters
* `Domain.longLabel` — a label that takes too many characters in ASCII

## Main results

* `Domain.mapped_of_isIdeograph` — text of ideographs stands for itself
* `Domain.toAscii_of_isIdeograph` — the name that consists of one label of ideographs
* `Host.parse_print_longName` — such a name may be too long to be read again
-/

set_option autoImplicit false

namespace Reroute.Url

open Text

namespace Domain

/-- The common Chinese characters. -/
def IsIdeograph (x : Char) : Prop :=
  0x4e00 ≤ x.toNat ∧ x.toNat ≤ 0x9fff

/-! ### Tables -/

section Tables

variable {x y : Char}

theorem inRanges_of_isIdeograph (hx : IsIdeograph x) {ranges : List (Nat × Nat)}
    (h : ∀ range ∈ ranges, range.2 < 0x4e00 ∨ 0x9fff < range.1) : inRanges ranges x = false := by
  obtain ⟨hfirst, hlast⟩ := hx
  rw [inRanges, inRangesNat, List.any_eq_false]
  intro range hrange
  have := h range hrange
  simp only [Bool.and_eq_true, decide_eq_true_eq, not_and]
  omega

/-- No row of a table is about ideographs. -/
theorem inRow_of_isIdeograph {α : Type} (hx : IsIdeograph x) {rows : List (Nat × List α)}
    (h : ∀ row ∈ rows, row.1 + row.2.length ≤ 0x4e00 ∨ 0x9fff < row.1) :
    inRow? rows x.toNat = none := by
  obtain ⟨hfirst, hlast⟩ := hx
  rw [inRow?, List.findSome?_eq_none_iff]
  intro row hrow
  have := h row hrow
  dsimp only
  split
  · rw [List.getElem?_eq_none_iff]
    omega
  · rfl

theorem find_of_isIdeograph {α : Type} (hx : IsIdeograph x) {rows : List (Nat × Nat × α)}
    (h : ∀ row ∈ rows, row.2.1 < 0x4e00 ∨ 0x9fff < row.1) :
    (rows.find? fun (first, last, _) => first ≤ x.toNat && x.toNat ≤ last) = none := by
  obtain ⟨hfirst, hlast⟩ := hx
  rw [List.find?_eq_none]
  rintro ⟨first, last, value⟩ hrow
  have := h _ hrow
  simp only [Bool.and_eq_true, decide_eq_true_eq, not_and] at this ⊢
  omega

/-- Ideographs stand for themselves. -/
theorem mapChar_of_isIdeograph (hx : IsIdeograph x) : mapChar? x = some [x] := by
  have hshifted : shifted? x.toNat = none := by
    rw [shifted?, find_of_isIdeograph hx (by decide +kernel)]
    rfl
  have halternating : alternating? x.toNat = none := by
    have htable : ∀ range ∈ alternatingRanges, range.2 < 0x4e00 ∨ 0x9fff < range.1 := by
      decide +kernel
    obtain ⟨hfirst, hlast⟩ := hx
    rw [alternating?, if_neg]
    rw [Bool.not_eq_true, List.any_eq_false]
    intro range hrange
    have := htable range hrange
    simp only [Bool.and_eq_true, decide_eq_true_eq, not_and]
    omega
  have himages : images x.toNat = [x.toNat] := by
    rw [images, hshifted, halternating, inRow_of_isIdeograph hx (by decide +kernel),
      inRow_of_isIdeograph hx (by decide +kernel), inRow_of_isIdeograph hx (by decide +kernel)]
    rfl
  have hascii : ¬x.toNat < 0x80 := by
    have := hx.1
    omega
  rw [mapChar?, if_neg hascii, inRanges_of_isIdeograph hx (by decide +kernel),
    inRanges_of_isIdeograph hx (by decide +kernel), himages]
  simp [Char.ofNat_toNat]

theorem combiningClass_of_isIdeograph (hx : IsIdeograph x) : combiningClass x = 0 := by
  rw [combiningClass, find_of_isIdeograph hx (by decide +kernel)]

theorem syllable_of_isIdeograph (hx : IsIdeograph x) : syllable? x = none := by
  obtain ⟨hfirst, hlast⟩ := hx
  rw [syllable?, if_neg]
  rw [syllableBase]
  omega

/-- Ideographs are not composed of others. -/
theorem parts_of_isIdeograph (hx : IsIdeograph x) : parts? x = none := by
  have htable : ∀ row ∈ composites, row.1 < 0x4e00 ∨ 0x9fff < row.1 := by decide +kernel
  rw [parts?, syllable_of_isIdeograph hx]
  dsimp only
  obtain ⟨hfirst, hlast⟩ := hx
  rw [Option.map_eq_none_iff, List.find?_eq_none]
  rintro ⟨composed, first, second⟩ hrow
  have := htable _ hrow
  simp only [decide_eq_true_eq] at this ⊢
  omega

/-- Nothing is composed of an ideograph and another character. -/
theorem composed_of_isIdeograph (hx : IsIdeograph x) (y : Char) : composed? x y = none := by
  have htable : ∀ row ∈ composites, row.2.1 < 0x4e00 ∨ 0x9fff < row.2.1 := by decide +kernel
  have hsyllable := syllable_of_isIdeograph hx
  obtain ⟨hfirst, hlast⟩ := hx
  have hnone : composeSyllable? x y = none := by
    rw [composeSyllable?, if_neg, hsyllable]
    rw [leadBase, leadCount]
    omega
  rw [composed?, hnone, Option.none_or, Option.map_eq_none_iff, List.find?_eq_none]
  rintro ⟨composed, first, second⟩ hrow
  have := htable _ hrow
  simp only [Bool.and_eq_true, decide_eq_true_eq, not_and] at this ⊢
  omega

theorem isMark_of_isIdeograph (hx : IsIdeograph x) : isMark x = false := by
  rw [isMark, isNonspacing, inRanges_of_isIdeograph hx (by decide +kernel),
    inRanges_of_isIdeograph hx (by decide +kernel)]
  rfl

theorem ne_of_isIdeograph (hx : IsIdeograph x) (hy : y.toNat < 0x4e00) : x ≠ y := by
  rintro rfl
  have := hx.1
  omega

theorem isForbidden_of_isIdeograph (hx : IsIdeograph x) : isForbidden x = false := by
  have hsigns : ∀ y ∈ ['%', '#', '/', ':', '<', '>', '?', '@', '[', '\\', ']', '^', '|'],
      y.toNat < 0x4e00 := by
    simp
  have hfirst := hx.1
  rw [isForbidden, Bool.or_eq_false_iff, Bool.or_eq_false_iff, decide_eq_false_iff_not,
    decide_eq_false_iff_not, List.contains_eq_mem, decide_eq_false_iff_not]
  exact ⟨⟨by omega, by omega⟩, fun hmem => ne_of_isIdeograph hx (hsigns x hmem) rfl⟩

/-- Ideographs are written from left to right. -/
theorem direction_of_isIdeograph (hx : IsIdeograph x) :
    direction x ≠ .rightToLeft ∧ direction x ≠ .arabicNumber := by
  rw [direction, inRanges_of_isIdeograph hx (by decide +kernel),
    inRanges_of_isIdeograph hx (by decide +kernel)]
  constructor
  all_goals
    repeat' split
    all_goals simp at *

end Tables

/-! ### Labels -/

section Labels

variable {label : List Char}

theorem compose_of_isIdeograph (h : ∀ x ∈ label, IsIdeograph x) {base : Option Char}
    (hbase : ∀ x ∈ base, IsIdeograph x) : compose base [] label = base.toList ++ label := by
  induction label generalizing base with
  | nil => rw [compose]
  | cons x rest ih =>
    obtain ⟨hx, hrest⟩ := List.forall_mem_cons.mp h
    have hcomposed : (base.bind fun b => if canReach [] x then composed? b x else none) = none := by
      cases base with
      | none => rfl
      | some b =>
        rw [Option.bind_some, composed_of_isIdeograph (hbase b rfl)]
        split <;> rfl
    rw [compose, hcomposed]
    dsimp only
    rw [if_pos (combiningClass_of_isIdeograph hx), ih hrest (by simpa using hx)]
    simp

/-- Text of ideographs is in normal form. -/
theorem normalForm_of_isIdeograph (h : ∀ x ∈ label, IsIdeograph x) : normalForm label = label := by
  have hdecompose : label.flatMap (decompose maxDepth) = label := by
    have hsingle : ∀ x ∈ label, decompose maxDepth x = [x] := by
      intro x hx
      rw [maxDepth, decompose, parts_of_isIdeograph (h x hx)]
    rw [List.flatMap_def, List.map_congr_left hsingle, ← List.flatMap_def, List.flatMap_singleton']
  have hsort : sortMarks label = label := by
    clear hdecompose
    rw [sortMarks]
    induction label with
    | nil => rfl
    | cons x rest ih =>
      obtain ⟨-, hrest⟩ := List.forall_mem_cons.mp h
      rw [List.foldr_cons, ih hrest]
      cases rest with
      | nil => rfl
      | cons y rest => simp [insertMark, combiningClass_of_isIdeograph (hrest y List.mem_cons_self)]
  rw [normalForm]
  split
  · rfl
  · rw [hdecompose, hsort, compose_of_isIdeograph h (by simp)]
    rfl

/-- Text of ideographs stands for itself. -/
theorem mapped_of_isIdeograph (h : ∀ x ∈ label, IsIdeograph x) : mapped? label = some label :=
  mapped_of_isValid (fun x hx => mapChar_of_isIdeograph (h x hx)) (normalForm_of_isIdeograph h)

theorem isAscii_of_isIdeograph (h : ∀ x ∈ label, IsIdeograph x) (hne : label ≠ []) :
    isAscii label = false := by
  obtain ⟨x, rest, rfl⟩ := List.exists_cons_of_ne_nil hne
  have := (h x List.mem_cons_self).1
  rw [isAscii, List.all_cons, decide_eq_false (by omega), Bool.false_and]

theorem decodeLabel_of_isIdeograph (h : ∀ x ∈ label, IsIdeograph x) :
    decodeLabel? label = some label := by
  rw [decodeLabel?, if_neg]
  cases label with
  | nil => decide
  | cons x rest =>
    have hx : x ≠ 'x' := ne_of_isIdeograph (h x List.mem_cons_self) (by decide)
    simp [asciiPrefix, List.isPrefixOf, hx.symm]

theorem isWellFormed_of_isIdeograph (h : ∀ x ∈ label, IsIdeograph x)
    (hlength : label.length ≤ maxLength) : isWellFormed label := by
  have hforbidden : label.any isForbidden = false := by
    rw [List.any_eq_false]
    exact fun x hx => Bool.eq_false_iff.mp (isForbidden_of_isIdeograph (h x hx))
  have hmark : label.head?.any isMark = false := by
    cases label with
    | nil => rfl
    | cons x rest => exact isMark_of_isIdeograph (h x List.mem_cons_self)
  have hjoiners : joinersAllowed [] label := by
    apply joinersAllowed_of_notMem
    exact fun x hx =>
      ⟨ne_of_isIdeograph (h x hx) (by decide), ne_of_isIdeograph (h x hx) (by decide)⟩
  rw [isWellFormed, hforbidden, hmark, hjoiners]
  simp [hlength]

/-- A label of ideographs is a name, and written in ASCII as a whole. -/
theorem toAscii_of_isIdeograph (h : ∀ x ∈ label, IsIdeograph x) (hne : label ≠ [])
    (hlength : label.length ≤ maxLength) :
    toAscii? label = some (asciiPrefix ++ Punycode.encode label) := by
  have hsplit : splitBy (· = '.') label = [label] := by
    apply splitBy_eq_singleton
    exact fun x hx => decide_eq_false (ne_of_isIdeograph (h x hx) (by decide))
  have hdirection : isRightToLeft label = false := by
    rw [isRightToLeft, List.any_eq_false]
    intro x hx
    obtain ⟨hright, harabic⟩ := direction_of_isIdeograph (h x hx)
    simp [hright, harabic]
  have hformed : areWellFormed [label] := by
    simp [areWellFormed, isWellFormed_of_isIdeograph h hlength, hdirection]
  simp only [toAscii?, mapped_of_isIdeograph h, Option.bind_eq_bind, Option.bind_some, hsplit,
    List.mapM_cons, List.mapM_nil, decodeLabel_of_isIdeograph h, Option.pure_def]
  rw [if_pos hformed]
  simp [joinWith, encodeLabel, isAscii_of_isIdeograph h hne]

end Labels

/-! ### A label that is too long -/

/-- A label of ideographs, with 24 others between any two of them. -/
def longLabel : List Char :=
  (List.range 800).map fun i => Char.ofNat (0x4e00 + 25 * i)

theorem toNat_ideograph {i : Nat} (hi : i < 800) :
    (Char.ofNat (0x4e00 + 25 * i)).toNat = 0x4e00 + 25 * i :=
  toNat_ofNat (.inl (by omega))

theorem isIdeograph_of_mem_longLabel : ∀ x ∈ longLabel, IsIdeograph x := by
  intro x hx
  obtain ⟨i, hi, rfl⟩ := List.mem_map.mp hx
  rw [List.mem_range] at hi
  rw [IsIdeograph, toNat_ideograph hi]
  omega

theorem length_longLabel : longLabel.length = 800 := by
  rw [longLabel, List.length_map, List.length_range]

/-- In ASCII the label takes more characters than are read behind the prefix. -/
theorem maxEncodedLength_lt_longLabel :
    maxEncodedLength < (Punycode.encode longLabel).length := by
  have hapart : longLabel.Pairwise fun x y => x.toNat + 25 ≤ y.toNat := by
    rw [longLabel, List.pairwise_map]
    refine List.pairwise_lt_range.imp_of_mem fun {i j} hi hj hlt => ?_
    rw [List.mem_range] at hi hj
    rw [toNat_ideograph hi, toNat_ideograph hj]
    omega
  have hfirst : ∀ x ∈ longLabel, Punycode.firstNumber ≤ x.toNat := by
    intro x hx
    have := (isIdeograph_of_mem_longLabel x hx).1
    rw [Punycode.firstNumber]
    omega
  have hlength := Punycode.length_encode_ge hapart hfirst
  rw [length_longLabel] at hlength
  rw [maxEncodedLength]
  omega

end Domain

/-! ### Hosts -/

namespace Host

open Domain

variable {label : List Char}

/-- Behind the prefix of labels a name is no number. -/
theorem endsInNumber_asciiPrefix {encoded : List Char} (hdot : '.' ∉ encoded) :
    endsInNumber (asciiPrefix ++ encoded) = false := by
  have hlabels : labels (asciiPrefix ++ encoded) = [asciiPrefix ++ encoded] := by
    rw [labels, splitBy_asciiPrefix hdot]
    rfl
  rw [endsInNumber, hlabels]
  rfl

/-- A label of ideographs is written with hyphens and digits only. -/
theorem isFreeOf_encode_of_isIdeograph {set : Char → Bool} (hset : Punycode.SparesDigits set)
    (h : ∀ x ∈ label, IsIdeograph x) : IsFreeOf set (Punycode.encode label) := by
  apply Punycode.isFreeOf_encode hset
  intro x hx hlt
  have := (h x hx).1
  rw [Punycode.firstNumber] at hlt
  omega

theorem notMem_encode_of_isIdeograph (h : ∀ x ∈ label, IsIdeograph x) :
    '.' ∉ Punycode.encode label := by
  have hset : Punycode.SparesDigits (· = '.') := ⟨by decide, by decide⟩
  exact fun hmem => absurd (isFreeOf_encode_of_isIdeograph hset h _ hmem) (by decide)

/-- A label of ideographs is read as a host with the name that it is in ASCII. -/
theorem parse_of_isIdeograph (h : ∀ x ∈ label, IsIdeograph x) (hne : label ≠ [])
    (hlength : label.length ≤ maxLength) :
    parse label = .ok (.name (String.ofList (asciiPrefix ++ Punycode.encode label))) := by
  rw [parse_of_isForbidden fun x hx => isForbidden_of_isIdeograph (h x hx),
    toAscii_of_isIdeograph h hne hlength]
  dsimp only
  rw [if_neg (by simp [asciiPrefix]),
    if_neg (by rw [endsInNumber_asciiPrefix (notMem_encode_of_isIdeograph h)]; decide)]

/-- Its name is not read again if it is too long. -/
theorem parse_encode_of_lt (h : ∀ x ∈ label, IsIdeograph x)
    (hlength : maxEncodedLength < (Punycode.encode label).length) :
    parse (asciiPrefix ++ Punycode.encode label) = .error .invalidDomain := by
  have hforbidden : IsFreeOf isForbidden (asciiPrefix ++ Punycode.encode label) :=
    IsFreeOf.append (by decide) (isFreeOf_encode_of_isIdeograph sparesDigits_isForbidden h)
  rw [parse_of_isForbidden hforbidden,
    toAscii_eq_none (isFreeOf_encode_of_isIdeograph sparesDigits_isUnfolded h)
      (notMem_encode_of_isIdeograph h) hlength]

/-- The host with this label alone. -/
def longName : Host :=
  .name (String.ofList (asciiPrefix ++ Punycode.encode longLabel))

theorem parse_longLabel : parse longLabel = .ok longName :=
  parse_of_isIdeograph isIdeograph_of_mem_longLabel
    (List.ne_nil_of_length_eq_add_one length_longLabel)
    (by rw [length_longLabel]; decide)

theorem parse_print_longName : parse longName.print.toList = .error .invalidDomain := by
  rw [longName, print, String.toList_ofList]
  exact parse_encode_of_lt isIdeograph_of_mem_longLabel maxEncodedLength_lt_longLabel

end Host

end Reroute.Url
