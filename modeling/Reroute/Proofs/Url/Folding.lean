import Reroute.Proofs.Url.Domain

/-!
# No capital letters are left in names

What stands for a character is no capital letter of ASCII, and putting a text in normal form
brings none back. So a name whose labels are all ASCII stands for itself, and it is led to
itself once more.

## Main results

* `Domain.isFreeOf_isUpper_of_mapped` — no capital letter is left in a name
* `Domain.toAscii_of_isPlain` — a name without labels beyond ASCII is led to itself
-/

set_option autoImplicit false

namespace Reroute.Url.Domain

open Text

/-! ### Characters -/

theorem isUpper_ofNat {n : Nat} (h : n < 0x41 ∨ 0x5a < n) : (Char.ofNat n).isUpper = false := by
  by_cases hvalid : n.isValidChar
  · have htoNat := toNat_ofNat hvalid
    rw [Char.toNat] at htoNat
    have hfirst : 'A'.val.toNat = 0x41 := rfl
    have hlast : 'Z'.val.toNat = 0x5a := rfl
    delta Char.isUpper
    simp only [decide_eq_false_iff_not, UInt32.le_iff_toNat_le, ge_iff_le]
    omega
  · rw [Char.ofNat, dif_neg hvalid]
    rfl

theorem exists_of_inRow {α : Type} {rows : List (Nat × List α)} {n : Nat} {image : α}
    (h : inRow? rows n = some image) : ∃ row ∈ rows, image ∈ row.2 := by
  obtain ⟨⟨first, images⟩, hrow, himage⟩ := List.exists_of_findSome?_eq_some h
  dsimp only at himage
  split at himage
  · exact ⟨_, hrow, List.mem_of_getElem? himage⟩
  · cases himage

theorem no_capital_of_shifted {n image : Nat} (h : shifted? n = some image) :
    image < 0x41 ∨ 0x5a < image := by
  have htable : ∀ row ∈ shiftedRanges, row.2.2 + (row.2.1 - row.1) < 0x41 ∨ 0x5a < row.2.2 := by
    decide +kernel
  obtain ⟨⟨first, last, start⟩, hfind, rfl⟩ := Option.map_eq_some_iff.mp h
  have hrow := htable _ (List.mem_of_find?_eq_some hfind)
  have hrange := List.find?_some hfind
  simp only [Bool.and_eq_true, decide_eq_true_eq] at hrow hrange ⊢
  omega

theorem no_capital_of_alternating {n image : Nat} (hn : 0x80 ≤ n)
    (h : alternating? n = some image) : image < 0x41 ∨ 0x5a < image := by
  rw [alternating?] at h
  split at h
  · obtain rfl := Option.some.inj h
    omega
  · cases h

theorem no_capital_of_inRow {rows : List (Nat × List Nat)}
    (hrows : rows ∈ [imageRows, ideographRows]) {n image : Nat}
    (h : inRow? rows n = some image) : image < 0x41 ∨ 0x5a < image := by
  have htable : ∀ rows ∈ [imageRows, ideographRows], ∀ row ∈ rows, ∀ m ∈ row.2,
      m < 0x41 ∨ 0x5a < m := by
    decide +kernel
  obtain ⟨row, hrow, himage⟩ := exists_of_inRow h
  exact htable rows hrows row hrow image himage

theorem no_capital_of_expansion {n : Nat} {image : List Nat}
    (h : inRow? expansionRows n = some image) : ∀ m ∈ image, m < 0x41 ∨ 0x5a < m := by
  have htable : ∀ row ∈ expansionRows, ∀ image ∈ row.2, ∀ m ∈ image, m < 0x41 ∨ 0x5a < m := by
    decide +kernel
  obtain ⟨row, hrow, himage⟩ := exists_of_inRow h
  exact htable row hrow image himage

/-- No image of a character beyond ASCII is a capital letter. -/
theorem forall_mem_images {n : Nat} (hn : 0x80 ≤ n) : ∀ m ∈ images n, m < 0x41 ∨ 0x5a < m := by
  rw [images]
  split
  case h_1 image h =>
    rw [List.forall_mem_singleton]
    simp only [Option.or_eq_some_iff, Option.or_eq_none_iff] at h
    rcases h with ((h | ⟨-, h⟩) | ⟨-, h⟩) | ⟨-, h⟩
    · exact no_capital_of_shifted h
    · exact no_capital_of_alternating hn h
    · exact no_capital_of_inRow List.mem_cons_self h
    · exact no_capital_of_inRow (List.mem_cons_of_mem _ List.mem_cons_self) h
  case h_2 =>
    -- A character without an image in any table is left as it is.
    cases h : inRow? expansionRows n with
    | none =>
      rw [Option.getD_none, List.forall_mem_singleton]
      omega
    | some image => exact no_capital_of_expansion h

/-- No capital letter stands for a character. -/
theorem isFreeOf_isUpper_of_mapChar {x : Char} {image : List Char} (h : mapChar? x = some image) :
    IsFreeOf Char.isUpper image := by
  rw [mapChar?] at h
  split at h
  · rename_i hascii
    obtain rfl := Option.some.inj h
    rw [IsFreeOf, List.forall_mem_singleton]
    exact forall_toNat_lt (p := fun x => x.toLower.isUpper = false) (by decide) hascii
  · rename_i hascii
    split at h
    · cases h
    split at h
    · obtain rfl := Option.some.inj h
      simp [IsFreeOf]
    · obtain rfl := Option.some.inj h
      intro y hy
      obtain ⟨m, hm, rfl⟩ := List.mem_map.mp hy
      exact isUpper_ofNat (forall_mem_images (by omega) m hm)

/-! ### Normal form -/

/-- No capital letter is part of another character. -/
theorem isUpper_of_parts {x y z : Char} (h : parts? x = some (y, z)) :
    y.isUpper = false ∧ z.isUpper = false := by
  have htable : ∀ row ∈ composites, (row.2.1 < 0x41 ∨ 0x5a < row.2.1) ∧
      (row.2.2 < 0x41 ∨ 0x5a < row.2.2) := by
    decide +kernel
  rw [parts?] at h
  split at h
  · have hparts := Option.some.inj h
    rw [decomposeSyllable] at hparts
    split at hparts
    all_goals
      obtain ⟨rfl, rfl⟩ := Prod.mk.inj hparts
      constructor
      all_goals
        apply isUpper_ofNat
        simp only [leadBase, vowelBase, trailBase, syllableBase, vowelCount, trailCount]
        omega
  · obtain ⟨⟨composed, first, second⟩, hfind, hparts⟩ := Option.map_eq_some_iff.mp h
    obtain ⟨rfl, rfl⟩ := Prod.mk.inj hparts
    have hrow := htable _ (List.mem_of_find?_eq_some hfind)
    exact ⟨isUpper_ofNat hrow.1, isUpper_ofNat hrow.2⟩

theorem isFreeOf_isUpper_decompose {x : Char} (h : x.isUpper = false) (depth : Nat) :
    IsFreeOf Char.isUpper (decompose depth x) := by
  induction depth generalizing x with
  | zero => simpa [decompose, IsFreeOf] using h
  | succ depth ih =>
    rw [decompose]
    split
    · rename_i first second hparts
      obtain ⟨hfirst, hsecond⟩ := isUpper_of_parts hparts
      exact (ih hfirst).append (by simpa [IsFreeOf] using hsecond)
    · simpa [IsFreeOf] using h

theorem mem_insertMark {x y : Char} {rest : List Char} (h : y ∈ insertMark x rest) :
    y = x ∨ y ∈ rest := by
  induction rest with
  | nil => simpa [insertMark] using h
  | cons z rest ih =>
    rw [insertMark] at h
    split at h
    · rcases List.mem_cons.mp h with rfl | h
      · simp
      · exact (ih h).imp_right (List.mem_cons_of_mem _)
    · exact List.mem_cons.mp h

theorem mem_sortMarks {x : Char} {text : List Char} (h : x ∈ sortMarks text) : x ∈ text := by
  rw [sortMarks] at h
  induction text with
  | nil => exact h
  | cons y rest ih =>
    rw [List.foldr_cons] at h
    rw [List.mem_cons]
    exact (mem_insertMark h).imp_right ih

/-- No capital letter is composed of others. -/
theorem isUpper_of_composed {x y z : Char} (h : composed? x y = some z) : z.isUpper = false := by
  have htable : ∀ row ∈ composites, row.1 < 0x41 ∨ 0x5a < row.1 := by decide +kernel
  rw [composed?, Option.or_eq_some_iff] at h
  rcases h with h | ⟨-, h⟩
  · rw [composeSyllable?] at h
    split at h
    · obtain rfl := Option.some.inj h
      apply isUpper_ofNat
      rw [syllableBase]
      omega
    split at h
    · rename_i n hsyllable
      split at h
      · obtain rfl := Option.some.inj h
        apply isUpper_ofNat
        rw [syllable?] at hsyllable
        split at hsyllable
        · rename_i hrange
          have := hrange.1
          rw [syllableBase] at this
          omega
        · cases hsyllable
      · cases h
    · cases h
  · obtain ⟨⟨composed, first, second⟩, hfind, rfl⟩ := Option.map_eq_some_iff.mp h
    exact isUpper_ofNat (htable _ (List.mem_of_find?_eq_some hfind))

theorem isFreeOf_isUpper_compose {base : Option Char} {marks text : List Char}
    (hbase : IsFreeOf Char.isUpper base.toList) (hmarks : IsFreeOf Char.isUpper marks)
    (h : IsFreeOf Char.isUpper text) : IsFreeOf Char.isUpper (compose base marks text) := by
  induction text generalizing base marks with
  | nil =>
    rw [compose]
    exact hbase.append hmarks
  | cons x rest ih =>
    obtain ⟨hx, hrest⟩ := List.forall_mem_cons.mp h
    have hsingle : IsFreeOf Char.isUpper [x] := by simpa [IsFreeOf] using hx
    rw [compose]
    split
    · rename_i composed hcomposed
      obtain ⟨b, -, hb⟩ := Option.bind_eq_some_iff.mp hcomposed
      split at hb
      · refine ih ?_ hmarks hrest
        simpa [IsFreeOf] using isUpper_of_composed hb
      · cases hb
    · split
      · exact (hbase.append hmarks).append (ih hsingle (by simp [IsFreeOf]) hrest)
      · exact ih hbase (hmarks.append hsingle) hrest

theorem isFreeOf_isUpper_normalForm {text : List Char} (h : IsFreeOf Char.isUpper text) :
    IsFreeOf Char.isUpper (normalForm text) := by
  rw [normalForm]
  split
  · exact h
  · refine isFreeOf_isUpper_compose (by simp [IsFreeOf]) (by simp [IsFreeOf]) ?_
    intro x hx
    obtain ⟨y, hy, hx⟩ := List.mem_flatMap.mp (mem_sortMarks hx)
    exact isFreeOf_isUpper_decompose (h y hy) maxDepth x hx

/-- No capital letter is left in a name. -/
theorem isFreeOf_isUpper_of_mapped {name mapped : List Char} (h : mapped? name = some mapped) :
    IsFreeOf Char.isUpper mapped := by
  obtain ⟨images, himages, rfl⟩ := Option.map_eq_some_iff.mp h
  apply isFreeOf_isUpper_normalForm
  intro x hx
  obtain ⟨image, himage, hx⟩ := List.mem_flatten.mp hx
  obtain ⟨y, -, hy⟩ := exists_of_mem_mapM himages himage
  exact isFreeOf_isUpper_of_mapChar hy x hx

/-! ### Names -/

/-- An ASCII label was there as it is. -/
theorem eq_of_decodeLabel {part label : List Char} (h : decodeLabel? part = some label)
    (hascii : isAscii label) : label = part := by
  rw [decodeLabel?] at h
  dsimp only at h
  split at h
  · split at h
    · have := (Option.filter_eq_some_iff.mp h).2
      simp [hascii] at this
    · cases h
  · exact (Option.some.inj h).symm

theorem eq_of_mapM_decodeLabel {parts labels : List (List Char)}
    (h : parts.mapM decodeLabel? = some labels) (hascii : ∀ label ∈ labels, isAscii label) :
    labels = parts := by
  induction parts generalizing labels with
  | nil => exact (Option.some.inj h).symm
  | cons part parts ih =>
    rw [List.mapM_cons] at h
    simp only [Option.bind_eq_bind, Option.bind_eq_some_iff, Option.pure_def,
      Option.some.injEq] at h
    obtain ⟨label, hlabel, rest, hrest, rfl⟩ := h
    obtain ⟨hfirst, hothers⟩ := List.forall_mem_cons.mp hascii
    rw [eq_of_decodeLabel hlabel hfirst, ih hrest hothers]

/-- A label beyond ASCII is written behind the prefix. -/
theorem isAscii_of_isPlain {labels : List (List Char)}
    (hplain : IsPlain (joinWith '.' (labels.map encodeLabel))) :
    ∀ label ∈ labels, isAscii label := by
  intro label hlabel
  by_cases hascii : isAscii label
  · exact hascii
  · have hencode : encodeLabel label = asciiPrefix ++ Punycode.encode label := by
      rw [encodeLabel, if_neg hascii]
    have hne : labels.map encodeLabel ≠ [] := by
      rintro hnil
      simp [List.map_eq_nil_iff.mp hnil] at hlabel
    -- What is written of the label begins with the prefix up to the first dot.
    have hsplit : splitBy (· = '.') (asciiPrefix ++ Punycode.encode label) =
        (asciiPrefix ++ (splitBy (· = '.') (Punycode.encode label)).headD []) ::
          (splitBy (· = '.') (Punycode.encode label)).tail :=
      splitBy_append (by simp [asciiPrefix]) _
    have hmem : asciiPrefix ++ (splitBy (· = '.') (Punycode.encode label)).headD [] ∈
        splitBy (· = '.') (joinWith '.' (labels.map encodeLabel)) := by
      rw [splitBy_joinWith_eq_flatMap '.' hne, List.mem_flatMap]
      refine ⟨_, List.mem_map_of_mem hlabel, ?_⟩
      rw [hencode, hsplit]
      exact List.mem_cons_self
    exact absurd (by simp) (hplain _ hmem)

/-- No capital letter and nothing beyond ASCII is left in a name of ASCII labels. -/
theorem isFreeOf_isUnfolded {mapped : List Char} (hupper : IsFreeOf Char.isUpper mapped)
    (hascii : ∀ label ∈ splitBy (· = '.') mapped, isAscii label) :
    IsFreeOf isUnfolded mapped := by
  have hlt : ∀ x ∈ mapped, x.toNat < 0x80 := by
    rw [← joinWith_splitBy '.' mapped]
    refine forall_mem_joinWith (p := fun x => x.toNat < 0x80) (by decide) ?_
    intro label hlabel x hx
    exact of_decide_eq_true (List.all_eq_true.mp (hascii label hlabel) x hx)
  intro x hx
  have := hlt x hx
  rw [isUnfolded, hupper x hx, decide_eq_false (by omega)]
  rfl

/-- A name without labels beyond ASCII is led to itself. -/
theorem toAscii_of_isPlain {name domain : List Char} (h : toAscii? name = some domain)
    (hplain : IsPlain domain) : toAscii? domain = some domain := by
  obtain ⟨mapped, labels, hmapped, hlabels, -, rfl⟩ := exists_of_toAscii h
  have hascii := isAscii_of_isPlain hplain
  have hdomain : joinWith '.' (labels.map encodeLabel) = mapped := by
    have hencode : labels.map encodeLabel = labels.map id :=
      List.map_congr_left fun label hlabel => encodeLabel_of_isAscii (hascii label hlabel)
    rw [hencode, List.map_id, eq_of_mapM_decodeLabel hlabels hascii, joinWith_splitBy]
  have hfolded : IsFreeOf isUnfolded mapped := by
    apply isFreeOf_isUnfolded (isFreeOf_isUpper_of_mapped hmapped)
    rw [← eq_of_mapM_decodeLabel hlabels hascii]
    exact hascii
  rw [hdomain] at h hplain ⊢
  exact toAscii_of_isUnfolded hfolded (isFreeOf_of_toAscii h) hplain

end Reroute.Url.Domain
