import Reroute.Proofs.Url.Percent
import Reroute.Url.Domain

/-!
# The characters of domain names in ASCII

A name in ASCII has the characters of its labels, and digits and hyphens where a label was
beyond ASCII. So it has no character that no domain name may have.

## Main results

* `Punycode.isFreeOf_encode` — the characters of an encoded label
* `Domain.isFreeOf_of_toAscii` — no forbidden character gets into a name
* `Domain.mapped_of_isUnfolded` — small letters of ASCII stand for themselves
* `Domain.toAscii_eq_none` — a label may be too long in ASCII to be read again
-/

set_option autoImplicit false

namespace Reroute.Url

open Text

/-! ### Encoded labels -/

namespace Punycode

/-- A set has neither the hyphen nor a digit of a distance. -/
structure SparesDigits (set : Char → Bool) : Prop where
  hyphen : set '-' = false
  digit : ∀ d < 36, set (digitChar d) = false

variable {set : Char → Bool}

theorem isFreeOf_writeDistance (h : SparesDigits set) (bias place distance : Nat) :
    IsFreeOf set (writeDistance bias place distance) := by
  induction distance using Nat.strongRecOn generalizing place with
  | _ distance ih =>
    have hle := threshold_le bias place
    have hpos := threshold_pos bias place
    rw [writeDistance]
    split
    case isTrue hlt =>
      rw [IsFreeOf, List.forall_mem_singleton]
      exact h.digit distance (by omega)
    case isFalse hge =>
      have hmod : (distance - threshold bias place) % (36 - threshold bias place) <
          36 - threshold bias place := Nat.mod_lt _ (by omega)
      have hdiv := Nat.div_le_self (distance - threshold bias place) (36 - threshold bias place)
      rw [IsFreeOf, List.forall_mem_cons]
      exact ⟨h.digit _ (by omega), ih _ (by omega) (place + 36)⟩

theorem isFreeOf_written_pass (h : SparesDigits set) (basic n : Nat) {w : Writer}
    (hw : IsFreeOf set w.written) (x : Char) : IsFreeOf set (w.pass basic n x).written := by
  rw [Writer.pass]
  split
  · exact hw
  · split
    · intro y hy
      rcases List.mem_append.mp hy with hy | hy
      · exact isFreeOf_writeDistance h _ _ _ y (List.mem_reverse.mp hy)
      · exact hw y hy
    · exact hw

theorem isFreeOf_written_foldl (h : SparesDigits set) (basic n : Nat) {w : Writer}
    (hw : IsFreeOf set w.written) (label : List Char) :
    IsFreeOf set (label.foldl (Writer.pass basic n) w).written := by
  induction label generalizing w with
  | nil => exact hw
  | cons x rest ih => exact ih (isFreeOf_written_pass h basic n hw x)

theorem isFreeOf_written_write (h : SparesDigits set) (basic : Nat) (label : List Char)
    {w : Writer} (hw : IsFreeOf set w.written) (start : Nat) (numbers : List Nat) :
    IsFreeOf set (Writer.write basic label w start numbers).written := by
  induction numbers generalizing w start with
  | nil => exact hw
  | cons n numbers ih =>
    rw [Writer.write]
    apply ih
    exact isFreeOf_written_foldl h basic n
      (w := { w with distance := w.distance + (n - start) * (w.length + 1) }) hw label

/-- An encoded label has ASCII characters of the label, hyphens and digits. -/
theorem isFreeOf_encode (h : SparesDigits set) {label : List Char}
    (hlabel : ∀ x ∈ label, x.toNat < firstNumber → set x = false) :
    IsFreeOf set (encode label) := by
  rw [encode]
  refine IsFreeOf.append (IsFreeOf.append ?_ ?_) ?_
  · intro x hx
    rw [List.mem_filter, decide_eq_true_eq] at hx
    exact hlabel x hx.1 hx.2
  · split
    · simp [IsFreeOf]
    · simpa [IsFreeOf] using h.hyphen
  · intro x hx
    rw [List.mem_reverse] at hx
    exact isFreeOf_written_write h _ label (by simp [IsFreeOf]) _ _ x hx

end Punycode

/-! ### Names -/

namespace Domain

theorem sparesDigits_isForbidden : Punycode.SparesDigits isForbidden :=
  ⟨by decide, by decide⟩

/-- What a label may have it has in ASCII as well. -/
theorem isFreeOf_encodeLabel {label : List Char} (h : IsFreeOf isForbidden label) :
    IsFreeOf isForbidden (encodeLabel label) := by
  rw [encodeLabel]
  split
  · exact h
  · have hfirst : IsFreeOf isForbidden asciiPrefix := by decide
    exact hfirst.append (Punycode.isFreeOf_encode sparesDigits_isForbidden fun x hx _ => h x hx)

/-- A name in ASCII comes from labels that may stand in a domain name. -/
theorem exists_of_toAscii {name domain : List Char} (h : toAscii? name = some domain) :
    ∃ mapped labels, mapped? name = some mapped ∧
      (splitBy (· = '.') mapped).mapM decodeLabel? = some labels ∧ areWellFormed labels ∧
      domain = joinWith '.' (labels.map encodeLabel) := by
  simp only [toAscii?, Option.bind_eq_bind, Option.bind_eq_some_iff] at h
  obtain ⟨mapped, hmapped, labels, hlabels, h⟩ := h
  split at h
  · rename_i hformed
    exact ⟨mapped, labels, hmapped, hlabels, hformed, (Option.some.inj h).symm⟩
  · cases h

theorem isFreeOf_of_isWellFormed {label : List Char} (h : isWellFormed label) :
    IsFreeOf isForbidden label := by
  simp only [isWellFormed, Bool.and_eq_true, Bool.not_eq_true', List.any_eq_false] at h
  exact fun x hx => Bool.eq_false_iff.mpr (h.1.1.1 x hx)

/-- Text without joiners has none where they may not stand. -/
theorem joinersAllowed_of_notMem {label : List Char}
    (h : ∀ x ∈ label, x ≠ nonJoiner ∧ x ≠ joiner) (before : List Char) :
    joinersAllowed before label := by
  induction label generalizing before with
  | nil => rfl
  | cons x rest ih =>
    obtain ⟨⟨hnon, hjoin⟩, hrest⟩ := List.forall_mem_cons.mp h
    rw [joinersAllowed, ih hrest]
    simp [hnon, hjoin]

theorem mapM_eq_some {α β : Type} {f : α → Option β} {g : α → β} {xs : List α}
    (h : ∀ x ∈ xs, f x = some (g x)) : xs.mapM f = some (xs.map g) := by
  induction xs with
  | nil => rfl
  | cons x xs ih =>
    obtain ⟨hx, hxs⟩ := List.forall_mem_cons.mp h
    rw [List.mapM_cons, hx, ih hxs]
    rfl

/-- What is written of each is read again. -/
theorem mapM_map_eq_some {α β : Type} {write : α → β} {read : β → Option α} {xs : List α}
    (h : ∀ x ∈ xs, read (write x) = some x) : (xs.map write).mapM read = some xs := by
  rw [List.mapM_map]
  exact (mapM_eq_some (g := id) h).trans (by rw [List.map_id])

theorem exists_of_mem_mapM {α β : Type} {f : α → Option β} {xs : List α} {ys : List β}
    (h : xs.mapM f = some ys) {y : β} (hy : y ∈ ys) : ∃ x ∈ xs, f x = some y := by
  induction xs generalizing ys with
  | nil =>
    obtain rfl := Option.some.inj h
    cases hy
  | cons x xs ih =>
    rw [List.mapM_cons] at h
    simp only [Option.bind_eq_bind, Option.bind_eq_some_iff, Option.pure_def,
      Option.some.injEq] at h
    obtain ⟨z, hz, zs, hzs, rfl⟩ := h
    rcases List.mem_cons.mp hy with rfl | hy
    · exact ⟨x, List.mem_cons_self, hz⟩
    · obtain ⟨x', hx', hfound⟩ := ih hzs hy
      exact ⟨x', List.mem_cons_of_mem _ hx', hfound⟩

/-- Text in normal form stands for itself if its characters do. -/
theorem mapped_of_isValid {text : List Char} (h : ∀ x ∈ text, mapChar? x = some [x])
    (hnormal : normalForm text = text) : mapped? text = some text := by
  rw [mapped?, mapM_eq_some h, Option.map_some, ← List.flatMap_def, List.flatMap_singleton',
    hnormal]

/-- No forbidden character gets into a name in ASCII. -/
theorem isFreeOf_of_toAscii {name domain : List Char} (h : toAscii? name = some domain) :
    IsFreeOf isForbidden domain := by
  obtain ⟨mapped, labels, -, -, hformed, rfl⟩ := exists_of_toAscii h
  rw [areWellFormed, Bool.and_eq_true, List.all_eq_true] at hformed
  apply forall_mem_joinWith
  · rfl
  intro part hpart
  obtain ⟨label, hlabel, rfl⟩ := List.mem_map.mp hpart
  exact isFreeOf_encodeLabel (isFreeOf_of_isWellFormed (hformed.1 label hlabel))

/-! ### Small letters -/

/-- Characters of ASCII other than capital letters stand for themselves; these are all
others. -/
def isUnfolded (x : Char) : Bool :=
  0x80 ≤ x.toNat || x.isUpper

theorem sparesDigits_isUnfolded : Punycode.SparesDigits isUnfolded :=
  ⟨by decide, by decide⟩

theorem toNat_lt_of_isUnfolded {x : Char} (h : isUnfolded x = false) :
    x.toNat < 0x80 ∧ ¬x.isUpper := by
  rw [isUnfolded, Bool.or_eq_false_iff, decide_eq_false_iff_not] at h
  exact ⟨by omega, by simp [h.2]⟩

/-- Small letters of ASCII stand for themselves. -/
theorem mapped_of_isUnfolded {text : List Char} (h : IsFreeOf isUnfolded text) :
    mapped? text = some text := by
  have hset (x : Char) (hx : x ∈ text) := toNat_lt_of_isUnfolded (h x hx)
  apply mapped_of_isValid
  · intro x hx
    exact of_decide_eq_true (isValid_of_ascii (hset x hx).1 (hset x hx).2)
  · exact normalForm_of_ascii fun x hx => (hset x hx).1

/-- No character is in ranges that all begin behind it. -/
theorem inRanges_eq_false_of_lt {ranges : List (Nat × Nat)} {bound : Nat}
    (h : ranges.all fun range => bound ≤ range.1) {x : Char} (hx : x.toNat < bound) :
    inRanges ranges x = false := by
  rw [inRanges, inRangesNat, List.any_eq_false]
  intro range hrange
  have hfirst := of_decide_eq_true (List.all_eq_true.mp h range hrange)
  simp only [Bool.and_eq_true, decide_eq_true_eq]
  omega

/-- Marks are beyond ASCII. -/
theorem isMark_of_lt {x : Char} (hx : x.toNat < 0x80) : isMark x = false := by
  rw [isMark, isNonspacing, inRanges_eq_false_of_lt (by decide +kernel) hx,
    inRanges_eq_false_of_lt (by decide +kernel) hx]
  rfl

/-- An ASCII label is well-formed if it has no forbidden characters. -/
theorem isWellFormed_of_isUnfolded {label : List Char} (h : IsFreeOf isUnfolded label)
    (hforbidden : IsFreeOf isForbidden label) : isWellFormed label := by
  have hlt (x : Char) (hx : x ∈ label) := (toNat_lt_of_isUnfolded (h x hx)).1
  have hany : label.any isForbidden = false := by
    rw [List.any_eq_false]
    exact fun x hx => Bool.eq_false_iff.mp (hforbidden x hx)
  have hmark : label.head?.any isMark = false := by
    cases label with
    | nil => rfl
    | cons x rest => exact isMark_of_lt (hlt x List.mem_cons_self)
  have hjoiners : joinersAllowed [] label := by
    apply joinersAllowed_of_notMem
    intro x hx
    have := hlt x hx
    constructor
    all_goals
      rintro rfl
      exact absurd this (by decide)
  have hascii : isAscii label := List.all_eq_true.mpr fun x hx => decide_eq_true (hlt x hx)
  rw [isWellFormed, hany, hmark, hjoiners, hascii]
  rfl

/-- No character of ASCII is written from right to left. -/
theorem isRightToLeft_of_isUnfolded {label : List Char} (h : IsFreeOf isUnfolded label) :
    isRightToLeft label = false := by
  rw [isRightToLeft, List.any_eq_false]
  intro x hx
  have hlt := (toNat_lt_of_isUnfolded (h x hx)).1
  rw [direction, inRanges_eq_false_of_lt (by decide +kernel) hlt,
    inRanges_eq_false_of_lt (by decide +kernel) hlt]
  simp only [Bool.false_eq_true, if_false]
  repeat' split
  all_goals decide

/-- The prefix of labels beyond ASCII stands before none. -/
def IsPlain (name : List Char) : Prop :=
  ∀ label ∈ splitBy (· = '.') name, ¬asciiPrefix.isPrefixOf label

instance : DecidablePred IsPlain :=
  fun name => inferInstanceAs (Decidable (∀ label ∈ splitBy (· = '.') name, _))

/-- A plain name in small letters of ASCII is led to itself. -/
theorem toAscii_of_isUnfolded {text : List Char} (h : IsFreeOf isUnfolded text)
    (hforbidden : IsFreeOf isForbidden text) (hplain : IsPlain text) :
    toAscii? text = some text := by
  have hmem : ∀ label ∈ splitBy (· = '.') text, ∀ x ∈ label, x ∈ text := by
    intro label hlabel x hx
    have : x ∈ (splitBy (· = '.') text).flatten := List.mem_flatten.mpr ⟨label, hlabel, hx⟩
    rw [flatten_splitBy] at this
    exact (List.mem_filter.mp this).1
  -- Labels are neither decoded nor encoded, as none of them is marked or goes beyond ASCII.
  have hlabels : (splitBy (· = '.') text).mapM decodeLabel? = some (splitBy (· = '.') text) := by
    have hdecode : ∀ label ∈ splitBy (· = '.') text, decodeLabel? label = some (id label) := by
      intro label hlabel
      rw [decodeLabel?, if_neg (hplain label hlabel)]
      rfl
    rw [mapM_eq_some hdecode, List.map_id]
  have hfree (label : List Char) (hlabel : label ∈ splitBy (· = '.') text) :
      IsFreeOf isUnfolded label :=
    fun x hx => h x (hmem label hlabel x hx)
  have hformed : areWellFormed (splitBy (· = '.') text) := by
    have hright : (splitBy (· = '.') text).any isRightToLeft = false := by
      rw [List.any_eq_false]
      exact fun label hlabel =>
        Bool.eq_false_iff.mp (isRightToLeft_of_isUnfolded (hfree label hlabel))
    rw [areWellFormed, hright, Bool.not_false, Bool.true_or, Bool.and_true, List.all_eq_true]
    intro label hlabel
    apply isWellFormed_of_isUnfolded (hfree label hlabel)
    exact fun x hx => hforbidden x (hmem label hlabel x hx)
  have hencode : (splitBy (· = '.') text).map encodeLabel = (splitBy (· = '.') text).map id := by
    apply List.map_congr_left
    intro label hlabel
    apply encodeLabel_of_isAscii
    rw [isAscii, List.all_eq_true]
    exact fun x hx => decide_eq_true (toNat_lt_of_isUnfolded (hfree label hlabel x hx)).1
  simp only [toAscii?, mapped_of_isUnfolded h, Option.bind_eq_bind, Option.bind_some, hlabels]
  rw [if_pos hformed, hencode, List.map_id, joinWith_splitBy]
  rfl

theorem splitBy_asciiPrefix {encoded : List Char} (hdot : '.' ∉ encoded) :
    splitBy (· = '.') (asciiPrefix ++ encoded) = [asciiPrefix ++ encoded] := by
  apply splitBy_eq_singleton
  rw [List.forall_mem_append]
  refine ⟨by simp [asciiPrefix], fun x hx => decide_eq_false ?_⟩
  rintro rfl
  exact hdot hx

/-- A label that is too long behind the prefix is not read. -/
theorem toAscii_eq_none {encoded : List Char} (h : IsFreeOf isUnfolded encoded)
    (hdot : '.' ∉ encoded) (hlength : maxEncodedLength < encoded.length) :
    toAscii? (asciiPrefix ++ encoded) = none := by
  have hfirst : IsFreeOf isUnfolded asciiPrefix := by decide
  have hdecode : decodeLabel? (asciiPrefix ++ encoded) = none := by
    rw [decodeLabel?, if_pos (by simp), List.drop_left]
    simp [Nat.not_le.mpr hlength]
  simp [toAscii?, mapped_of_isUnfolded (hfirst.append h), splitBy_asciiPrefix hdot, hdecode]

end Domain

end Reroute.Url
