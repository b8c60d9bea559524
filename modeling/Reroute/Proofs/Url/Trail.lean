import Mathlib.Data.List.Basic
import Reroute.Proofs.Url.Percent
import Reroute.Url.Trail

/-!
# Settled paths

Wherever a path leads, the result consists of segments in which everything is encoded and
which are no dots. Following such a path once more changes nothing.

## Main definitions

* `IsSettledSegment` — segments that are added as they are
* `IsSettledPath` — paths that consist of such segments
* `Trail.IsSettled` — what is true wherever a segment begins

## Main results

* `Trail.isSettled_add` — a segment leads from one such place to another
* `isSettledPath_readPath`, `readPath_of_isSettledPath` — every path leads to a settled one,
  and a settled one to itself
-/

set_option autoImplicit false

namespace Reroute.Url

open Text

/-- What is ignored stands before the blank. -/
theorem isIgnored_of_lt {x : Char} (h : 0x20 < x.toNat) : isIgnored x = false := by
  rw [isIgnored, Bool.or_eq_false_iff, Bool.or_eq_false_iff]
  simp only [decide_eq_false_iff_not]
  refine ⟨⟨?_, ?_⟩, ?_⟩
  all_goals
    rintro rfl
    exact absurd h (by decide)

theorem dropIgnored_of_lt {text : List Char} (h : ∀ x ∈ text, 0x20 < x.toNat) :
    dropIgnored text = text := by
  rw [dropIgnored, List.filter_eq_self]
  intro x hx
  rw [isIgnored_of_lt (h x hx)]
  rfl

/-! ### Segments -/

/-- Everything in a segment is encoded, and it is no dots. -/
structure IsSettledSegment (segment : List Char) : Prop where
  inPathSet : IsFreeOf inPathSet segment
  isSeparator : IsFreeOf (isSeparator true) segment
  isSingleDot : isSingleDot segment = false
  isDoubleDot : isDoubleDot segment = false

theorem IsSettledSegment.nil : IsSettledSegment [] :=
  ⟨by simp [IsFreeOf], by simp [IsFreeOf], rfl, rfl⟩

theorem IsSettledSegment.lt_toNat {segment : List Char} (h : IsSettledSegment segment) :
    ∀ x ∈ segment, 0x20 < x.toNat :=
  fun x hx => lt_toNat_of_inPathSet (h.inPathSet x hx)

theorem sparesBytes_isSeparator (special : Bool) : SparesBytes (Url.isSeparator special) := by
  cases special
  · exact ⟨by decide, by decide⟩
  · exact ⟨by decide, by decide⟩

/-- What a segment becomes when it is encoded is settled, unless it is dots. -/
theorem isSettledSegment_percentEncode {segment : List Char}
    (h : IsFreeOf (isSeparator true) segment)
    (hsingle : isSingleDot (percentEncode inPathSet segment) = false)
    (hdouble : isDoubleDot (percentEncode inPathSet segment) = false) :
    IsSettledSegment (percentEncode inPathSet segment) where
  inPathSet := isFreeOf_percentEncode sparesBytes_inPathSet segment
  isSeparator := h.percentEncode (sparesBytes_isSeparator true)
  isSingleDot := hsingle
  isDoubleDot := hdouble

/-- The path consists of settled segments behind slashes. -/
def IsSettledPath (path : String) : Prop :=
  ∃ segments, segments ≠ [] ∧ (∀ segment ∈ segments, IsSettledSegment segment) ∧
    path.toList = '/' :: joinWith '/' segments

namespace Trail

variable {t : Trail} {segment : List Char}

/-- Settled segments lead to the place where the next one begins. -/
def IsSettled (t : Trail) : Prop :=
  ∃ segments : List (List Char), (∀ segment ∈ segments, IsSettledSegment segment) ∧
    t.back.reverse = '/' :: segments.flatMap (· ++ ['/'])

theorem isSettled_root : root.IsSettled :=
  ⟨[], by simp, rfl⟩

theorem foldl_percentEncode {encoded : Char → Bool} {f : List Char → List Char → List Char}
    (hf : ∀ added piece, f added piece = (percentEncode encoded piece).reverse ++ added)
    (pieces : List (List Char)) (added : List Char) :
    pieces.foldl f added = (percentEncode encoded pieces.flatten).reverse ++ added := by
  induction pieces generalizing added with
  | nil => rfl
  | cons piece pieces ih =>
    rw [List.foldl_cons, ih, hf]
    simp [percentEncode]

/-- Without drives a segment is encoded as a whole. -/
theorem encodeSegment_false (back segment : List Char) :
    encodeSegment false back segment = (percentEncode inPathSet (dropIgnored segment)).reverse := by
  have hflat : ((splitBy isIgnored segment).filter (!·.isEmpty)).flatten = dropIgnored segment := by
    rw [List.flatten_filter_not_isEmpty, flatten_splitBy, dropIgnored]
  rw [encodeSegment, foldl_percentEncode, hflat, List.append_nil]
  intro added piece
  -- Only in a file URL a drive is told apart.
  congr 1
  rw [if_neg]
  dsimp only
  split <;> simp

/-- What a segment adds without drives. -/
theorem add_false (t : Trail) (segment : List Char) (more : Bool) :
    t.add false segment more =
      let added := percentEncode inPathSet (dropIgnored segment)
      if isDoubleDot added then { t with back := parent t.back }
      else if isSingleDot added then t
      else { t with back := (if more then ['/'] else []) ++ added.reverse ++ t.back } := by
  simp only [add, encodeSegment_false, List.reverse_reverse, Bool.false_and, Bool.false_eq_true,
    if_false]

/-- Where a segment begins, there is a slash before it. -/
theorem exists_back_eq (h : t.IsSettled) : ∃ before, t.back = '/' :: before := by
  obtain ⟨segments, -, hback⟩ := h
  rw [List.reverse_eq_iff] at hback
  rcases segments.eq_nil_or_concat' with rfl | ⟨first, last, rfl⟩
  · exact ⟨[], hback⟩
  · rw [List.flatMap_append] at hback
    simp only [List.flatMap_singleton, List.reverse_cons, List.reverse_append, List.reverse_nil,
      List.nil_append, List.cons_append] at hback
    exact ⟨_, hback⟩

/-- A settled segment and a slash behind it lead to where the next segment begins. -/
theorem IsSettled.add (h : t.IsSettled) (hsegment : IsSettledSegment segment) :
    IsSettled { t with back := ['/'] ++ segment.reverse ++ t.back } := by
  obtain ⟨segments, hsegments, hback⟩ := h
  refine ⟨segments ++ [segment], ?_, ?_⟩
  · rw [List.forall_mem_append, List.forall_mem_singleton]
    exact ⟨hsegments, hsegment⟩
  · simp [hback]

/-- Going back leads to where the last segment began, or nowhere. -/
theorem IsSettled.parent (h : t.IsSettled) : IsSettled { t with back := parent t.back } := by
  obtain ⟨segments, hsegments, hback⟩ := id h
  rw [List.reverse_eq_iff] at hback
  rcases segments.eq_nil_or_concat' with rfl | ⟨first, last, rfl⟩
  · refine ⟨[], by simp, ?_⟩
    rw [hback]
    rfl
  · rw [List.forall_mem_append, List.forall_mem_singleton] at hsegments
    have hfirst : IsSettled ⟨('/' :: first.flatMap (· ++ ['/'])).reverse, t.hasDrive⟩ :=
      ⟨first, hsegments.1, List.reverse_reverse _⟩
    obtain ⟨before, hbefore⟩ := exists_back_eq hfirst
    dsimp only at hbefore
    -- Going back drops the last segment up to the slash before it.
    have hlast : ∀ x ∈ last.reverse, (x != '/') = true := by
      intro x hx
      rw [bne_iff_ne]
      rintro rfl
      exact absurd (hsegments.2.isSeparator '/' (List.mem_reverse.mp hx)) (by decide)
    have hbackEq : t.back = '/' :: (last.reverse ++ '/' :: before) := by
      rw [hback, ← hbefore]
      simp
    rw [hbackEq, Trail.parent]
    split
    · rw [List.dropWhile_append_of_pos hlast, List.dropWhile_cons_of_neg (by simp), ← hbefore]
      exact hfirst
    · rw [← hbackEq]
      exact h

/-- The path that ends with a segment, where some settled ones stand before it. -/
theorem IsSettled.isSettledPath (h : t.IsSettled) (hsegment : IsSettledSegment segment) :
    IsSettledPath (String.ofList (segment.reverse ++ t.back).reverse) := by
  obtain ⟨segments, hsegments, hback⟩ := h
  refine ⟨segments ++ [segment], by simp, ?_, ?_⟩
  · rw [List.forall_mem_append, List.forall_mem_singleton]
    exact ⟨hsegments, hsegment⟩
  · rw [String.toList_ofList, joinWith_concat, List.reverse_append, hback, List.reverse_reverse]
    rfl

/-- A segment leads from where it begins to where the next one begins, or, if it is the last
one, to a settled path. -/
theorem isSettled_add (h : t.IsSettled) (hsegment : IsFreeOf (isSeparator true) segment) :
    (t.add false segment true).IsSettled ∧
      IsSettledPath ((t.add false segment false).path false) := by
  have hfree : IsFreeOf (isSeparator true) (dropIgnored segment) :=
    fun x hx => hsegment x (List.mem_filter.mp hx).1
  have hempty {t : Trail} (h : t.IsSettled) : IsSettledPath (t.path false) := by
    simpa [Trail.path] using h.isSettledPath .nil
  rw [add_false, add_false]
  dsimp only
  split
  case isTrue => exact ⟨h.parent, hempty h.parent⟩
  case isFalse hdouble =>
    split
    case isTrue => exact ⟨h, hempty h⟩
    case isFalse hsingle =>
      have hadded := isSettledSegment_percentEncode hfree (Bool.eq_false_iff.mpr hsingle)
        (Bool.eq_false_iff.mpr hdouble)
      exact ⟨h.add hadded, h.isSettledPath hadded⟩

/-- All segments of a path lead to a settled one. -/
theorem isSettledPath_follow (h : t.IsSettled) {segments : List (List Char)} (hne : segments ≠ [])
    (hsegments : ∀ segment ∈ segments, IsFreeOf (isSeparator true) segment) :
    IsSettledPath ((t.follow false segments).path false) := by
  induction segments generalizing t with
  | nil => exact absurd rfl hne
  | cons segment rest ih =>
    obtain ⟨hsegment, hrest⟩ := List.forall_mem_cons.mp hsegments
    cases rest with
    | nil => exact (isSettled_add h hsegment).2
    | cons next rest => exact ih (isSettled_add h hsegment).1 (by simp) hrest

/-! ### Settled segments are added as they are -/

theorem add_of_isSettled (h : IsSettledSegment segment) (more : Bool) :
    t.add false segment more =
      { t with back := (if more then ['/'] else []) ++ segment.reverse ++ t.back } := by
  rw [add_false, dropIgnored_of_lt h.lt_toNat, percentEncode_of_isFreeOf h.inPathSet]
  simp [h.isDoubleDot, h.isSingleDot]

theorem back_follow_of_isSettled {segments : List (List Char)}
    (hsegments : ∀ segment ∈ segments, IsSettledSegment segment) :
    (t.follow false segments).back = (joinWith '/' segments).reverse ++ t.back := by
  induction segments generalizing t with
  | nil => rfl
  | cons segment rest ih =>
    obtain ⟨hsegment, hrest⟩ := List.forall_mem_cons.mp hsegments
    cases rest with
    | nil =>
      rw [follow, add_of_isSettled hsegment]
      rfl
    | cons next rest =>
      rw [follow, add_of_isSettled hsegment, ih hrest]
      simp [joinWith]

end Trail

/-! ### Paths -/

section Paths

variable {scheme : String}

/-- Whatever is read behind the first slash leads to a settled path. -/
theorem isSettledPath_resolve (hspecial : isSpecial scheme) (hfile : scheme ≠ "file")
    (text : List Char) : IsSettledPath (resolve scheme .root text).1 := by
  rw [resolve, decide_eq_false hfile, hspecial]
  exact Trail.isSettledPath_follow Trail.isSettled_root (splitBy_ne_nil _ _) forall_mem_splitBy

/-- Every path leads to a settled one. -/
theorem isSettledPath_readPath (hspecial : isSpecial scheme) (hfile : scheme ≠ "file")
    (text : List Char) : IsSettledPath (readPath scheme true text).1 := by
  rw [readPath]
  split
  case h_1 =>
    rw [if_pos hspecial]
    exact ⟨[[]], by simp, by simpa using IsSettledSegment.nil, rfl⟩
  case h_2 x rest _ =>
    have hroot (text : List Char) := isSettledPath_resolve hspecial hfile text
    by_cases hx : isSeparator (isSpecial scheme) x
    · rw [if_pos hx]
      exact hroot rest
    · rw [if_neg hx, hspecial]
      exact hroot text

variable {path : String}

/-- A settled path begins with a slash. -/
theorem IsSettledPath.exists_toList_eq (h : IsSettledPath path) :
    ∃ rest, path.toList = '/' :: rest := by
  obtain ⟨segments, -, -, hpath⟩ := h
  exact ⟨_, hpath⟩

/-- Nothing in a settled path begins a query or a fragment. -/
theorem IsSettledPath.isFreeOf (h : IsSettledPath path) : IsFreeOf inPathSet path.toList := by
  obtain ⟨segments, -, hsegments, hpath⟩ := h
  rw [hpath, IsFreeOf, List.forall_mem_cons]
  refine ⟨by decide, forall_mem_joinWith (by decide) fun part hpart => ?_⟩
  exact (hsegments part hpart).inPathSet

/-- A settled path leads to itself. -/
theorem readPath_of_isSettledPath (hspecial : isSpecial scheme) (hfile : scheme ≠ "file")
    (h : IsSettledPath path) : (readPath scheme true path.toList).1 = path := by
  obtain ⟨segments, hne, hsegments, hpath⟩ := h
  have hsplit : splitBy (isSeparator true) (joinWith '/' segments) = segments := by
    -- A backslash separates segments as well, but no settled segment has one.
    have hslash : ∀ x ∈ joinWith '/' segments, isSeparator true x = decide (x = '/') := by
      apply forall_mem_joinWith
      · rfl
      · intro segment hsegment x hx
        have hx := (hsegments segment hsegment).isSeparator x hx
        rw [hx]
        rw [isSeparator, Bool.or_eq_false_iff] at hx
        exact hx.1.symm
    rw [splitBy_congr hslash]
    apply splitBy_joinWith hne
    intro segment hsegment hmem
    exact absurd ((hsegments segment hsegment).isSeparator '/' hmem) (by decide)
  have hnext : next? path.toList = some ('/', joinWith '/' segments) := by
    rw [hpath]
    rfl
  rw [readPath, hnext]
  dsimp only
  rw [if_pos (by rfl), resolve, decide_eq_false hfile, hspecial]
  dsimp only
  rw [hsplit, Trail.path, if_neg (by decide), Trail.back_follow_of_isSettled hsegments]
  rw [List.reverse_append, List.reverse_reverse]
  exact String.toList_inj.mp (by rw [String.toList_ofList, hpath]; rfl)

end Paths

end Reroute.Url
