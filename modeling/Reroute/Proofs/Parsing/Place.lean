import Reroute.Proofs.Parsing.Reading

/-!
# Places of a text

A byte offset that is the boundary of a character cuts a text in two slices, and the cursor
there shows the last character of the first slice and all of the second. At any other
offset, within a character or beyond the end, there is nothing to slice, and the cursor
shows nothing.

## Main definitions

* `IsBoundary`, `sliceTo?`, `sliceFrom?`, `slice?` — offsets that cut a text, and the slices
* `Cursor.LeadsTo` — one place is at or behind another
* `Parser.IsVerbatim` — what was read is printed as it was written
* `satisfyAt?` — reading a character by slicing the text

## Main results

* `Cursor.ofOffset_append`, `Cursor.ofOffset_of_not_isBoundary` — what a cursor shows
* `Cursor.LeadsTo.eq_ofOffset` — behind a place of a text there are places of the text only
* `Cursor.LeadsTo.length_lt_iff`, `Cursor.left_ofOffset_lt_iff` — less is left exactly if the
  offset is another one
* `satisfyAt?_eq` — no slice that is taken to read a character is out of range
-/

set_option autoImplicit false

namespace Reroute.Parsing

/-! ### Slices -/

/-- A byte offset lies neither within a character nor beyond the end of the text. -/
def IsBoundary (text : String) (offset : Nat) : Prop :=
  String.Pos.Raw.IsValid text ⟨offset⟩

/-- The text before a byte offset, if the offset is a boundary. -/
def sliceTo? (text : String) (offset : Nat) : Option String :=
  (text.pos? ⟨offset⟩).map fun p => (text.sliceTo p).copy

/-- The text behind a byte offset, if the offset is a boundary. -/
def sliceFrom? (text : String) (offset : Nat) : Option String :=
  (text.pos? ⟨offset⟩).map fun p => (text.sliceFrom p).copy

/-- The text between two byte offsets, if the second is a boundary and the first is one before
it. -/
def slice? (text : String) (start stop : Nat) : Option String :=
  (sliceTo? text stop).bind (sliceFrom? · start)

section Slices

variable {text : String} {offset : Nat}

theorem isBoundary_iff : IsBoundary text offset ↔
    ∃ front back, text = front ++ back ∧ offset = front.utf8ByteSize := by
  rw [IsBoundary, String.Pos.Raw.isValid_iff_exists_append]
  simp only [String.Pos.Raw.ext_iff, String.byteIdx_rawEndPos]

theorem IsBoundary.le (h : IsBoundary text offset) : offset ≤ text.utf8ByteSize :=
  h.le_utf8ByteSize

theorem pos?_append (front back : String) :
    ∃ p, (front ++ back).pos? ⟨front.utf8ByteSize⟩ = some p ∧ p.Splits front back := by
  have hvalid : IsBoundary (front ++ back) front.utf8ByteSize :=
    isBoundary_iff.mpr ⟨front, back, rfl, rfl⟩
  obtain ⟨p, hp⟩ := Option.isSome_iff_exists.mp
    (show ((front ++ back).pos? ⟨front.utf8ByteSize⟩).isSome by
      simpa [String.pos?, String.Slice.pos?, IsBoundary] using hvalid)
  have hoffset : p.offset = ⟨front.utf8ByteSize⟩ := by
    simp only [String.pos?, String.Slice.pos?, Option.map_dif, Option.dite_none_right_eq_some,
      Option.some.injEq] at hp
    obtain ⟨-, rfl⟩ := hp
    rfl
  exact ⟨p, hp, rfl, hoffset⟩

theorem sliceTo?_append (front back : String) :
    sliceTo? (front ++ back) front.utf8ByteSize = some front := by
  obtain ⟨p, hp, hsplits⟩ := pos?_append front back
  rw [sliceTo?, hp, Option.map_some, p.splits.eq_left hsplits]

theorem sliceFrom?_append (front back : String) :
    sliceFrom? (front ++ back) front.utf8ByteSize = some back := by
  obtain ⟨p, hp, hsplits⟩ := pos?_append front back
  rw [sliceFrom?, hp, Option.map_some, p.splits.eq_right hsplits]

theorem slice?_append (front text back : String) :
    slice? (front ++ text ++ back) front.utf8ByteSize (front ++ text).utf8ByteSize =
      some text := by
  rw [slice?, sliceTo?_append, Option.bind_some, sliceFrom?_append]

/-- Of two ways to cut a text, the later one cuts what stands behind the other. -/
theorem exists_append_of_le {front back front' back' : String}
    (h : front ++ back = front' ++ back') (hle : front.utf8ByteSize ≤ front'.utf8ByteSize) :
    ∃ middle, front' = front ++ middle ∧ back = middle ++ back' := by
  have hlist := congrArg String.toList h
  rw [String.toList_append, String.toList_append, List.append_eq_append_iff] at hlist
  rcases hlist with ⟨t, hfront, hback⟩ | ⟨t, hfront, hback⟩
  · exact ⟨String.ofList t, String.toList_injective (by simpa using hfront),
      String.toList_injective (by simpa using hback)⟩
  · -- Nothing stands between the two, as the first is not the later one.
    have hfront : front = front' ++ String.ofList t :=
      String.toList_injective (by simpa using hfront)
    have ht : String.ofList t = "" := by
      rw [← String.utf8ByteSize_eq_zero_iff]
      rw [hfront, String.utf8ByteSize_append] at hle
      omega
    rw [ht, String.append_empty] at hfront
    subst hfront
    exact ⟨"", by simp, by simpa using h⟩

theorem sliceFrom?_of_not_isBoundary (h : ¬IsBoundary text offset) :
    sliceFrom? text offset = none := by
  have hnone : text.pos? ⟨offset⟩ = none := by
    rw [← Option.not_isSome_iff_eq_none]
    simpa [String.pos?, String.Slice.pos?, IsBoundary] using h
  rw [sliceFrom?, hnone, Option.map_none]

end Slices

/-! ### Places -/

namespace Cursor

variable {c d e : Cursor} {t : List Char} {text front back : String} {offset : Nat}

/-- One place is at or behind another. -/
def LeadsTo (c d : Cursor) : Prop :=
  ∃ t, Between c t d

theorem LeadsTo.refl (c : Cursor) : c.LeadsTo c :=
  ⟨[], rfl⟩

theorem LeadsTo.trans (h : c.LeadsTo d) (h' : d.LeadsTo e) : c.LeadsTo e := by
  obtain ⟨s, hs⟩ := h
  obtain ⟨t, ht⟩ := h'
  exact ⟨s ++ t, hs.append ht⟩

theorem leadsTo_of_next? {x : Char} (h : c.next? = some (x, d)) : c.LeadsTo d :=
  ⟨[x], between_singleton.mpr h⟩

theorem Between.offset_eq (h : Between c t d) :
    d.offset = c.offset + (String.ofList t).utf8ByteSize := by
  induction t generalizing c with
  | nil => simp [between_nil.mp h]
  | cons x t ih =>
    obtain ⟨e, he, hd⟩ := h
    rw [ih hd, (next?_eq_some_iff.mp he).2.2.1, String.ofList_cons]
    simp [Nat.add_assoc]

theorem LeadsTo.offset_le (h : c.LeadsTo d) : c.offset ≤ d.offset := by
  obtain ⟨t, ht⟩ := h
  rw [ht.offset_eq]
  exact Nat.le_add_right _ _

theorem LeadsTo.length_le (h : c.LeadsTo d) : d.rest.length ≤ c.rest.length := by
  obtain ⟨t, ht⟩ := h
  rw [ht.length_eq]
  exact Nat.le_add_left _ _

/-- Where nothing is left to read there is no other place. -/
theorem LeadsTo.eq_of_rest_eq_nil (h : c.LeadsTo d) (hc : c.rest = []) : d = c := by
  obtain ⟨t, ht⟩ := h
  have hrest := ht.rest_eq
  rw [hc, eq_comm, List.append_eq_nil_iff] at hrest
  rw [hrest.1] at ht
  exact (between_nil.mp ht).symm

/-- A walk over a text ends behind it. -/
theorem Between.walk_eq (h : Between c t d) (hc : c.unseen = 0) :
    walk c.previous c.offset c.rest (String.ofList t).utf8ByteSize = some d := by
  induction t generalizing c with
  | nil =>
    obtain rfl := between_nil.mp h
    exact (walk_zero ..).trans (by rw [← hc])
  | cons x t ih =>
    obtain ⟨e, he, hd⟩ := h
    obtain ⟨hrest, hprevious, hoffset, hunseen⟩ := next?_eq_some_iff.mp he
    have hsize : (String.ofList (x :: t)).utf8ByteSize =
        x.utf8Size + (String.ofList t).utf8ByteSize := by
      rw [String.ofList_cons]
      simp
    obtain ⟨k, hk⟩ : ∃ k, (String.ofList (x :: t)).utf8ByteSize = k + 1 :=
      Nat.exists_eq_add_one.mpr (by have := x.utf8Size_pos; omega)
    rw [hrest, hk, walk, if_pos (by omega), ← hprevious, ← hoffset]
    have hleft : k + 1 - x.utf8Size = (String.ofList t).utf8ByteSize := by omega
    rw [hleft]
    exact ih hd (hunseen.trans hc)

/-- A walk that comes to a place has a text behind it. -/
theorem exists_between_of_walk {previous : Option Char} {rest : List Char} {bytes : Nat}
    (h : walk previous offset rest bytes = some d) :
    ∃ t, Between ⟨previous, rest, offset, 0⟩ t d ∧ (String.ofList t).utf8ByteSize = bytes := by
  fun_induction walk previous offset rest bytes with
  | case1 previous offset rest =>
    obtain rfl := Option.some.inj h
    exact ⟨[], rfl, rfl⟩
  | case2 => cases h
  | case3 previous offset x rest bytes hle ih =>
    obtain ⟨t, ht, hsize⟩ := ih h
    refine ⟨x :: t, ⟨_, rfl, ht⟩, ?_⟩
    rw [String.ofList_cons]
    simp only [String.utf8ByteSize_append, String.utf8ByteSize_singleton]
    omega
  | case4 => cases h

/-- At a boundary a cursor shows the end of the text before it and the text behind it. -/
theorem ofOffset_append (front back : String) :
    ofOffset (front ++ back) front.utf8ByteSize =
      ⟨front.toList.getLast?, back.toList, front.utf8ByteSize, 0⟩ := by
  obtain ⟨d, hd, hrest⟩ := exists_between (c := start (front ++ back)) (s := front.toList)
    (t := back.toList) String.toList_append
  have hwalk : walk none 0 (front ++ back).toList front.utf8ByteSize = some d := by
    simpa [start, String.ofList_toList] using hd.walk_eq rfl
  have hoffset : d.offset = front.utf8ByteSize := by
    simpa [start, String.ofList_toList] using hd.offset_eq
  have hprevious : d.previous = front.toList.getLast? := by
    simpa [start] using hd.previous_eq
  have hunseen : d.unseen = 0 := hd.unseen_eq
  rw [ofOffset, hwalk, Option.getD_some, ← hoffset, ← hprevious, ← hrest, ← hunseen]

/-- At any other offset there is nothing to see. -/
theorem ofOffset_of_not_isBoundary (h : ¬IsBoundary text offset) :
    ofOffset text offset = ⟨none, [], offset, text.utf8ByteSize - offset⟩ := by
  rw [ofOffset]
  cases hwalk : walk none 0 text.toList offset with
  | none => rfl
  | some d =>
    obtain ⟨t, ht, hsize⟩ := exists_between_of_walk hwalk
    refine absurd (isBoundary_iff.mpr ⟨String.ofList t, String.ofList d.rest, ?_, hsize.symm⟩) h
    apply String.toList_injective
    simpa using ht.rest_eq

@[simp] theorem offset_ofOffset : (ofOffset text offset).offset = offset := by
  by_cases hoffset : IsBoundary text offset
  · obtain ⟨front, back, rfl, rfl⟩ := isBoundary_iff.mp hoffset
    rw [ofOffset_append]
  · rw [ofOffset_of_not_isBoundary hoffset]

/-- A text is cut at every place behind a boundary. -/
theorem Between.append_eq (h : Between (ofOffset (front ++ back) front.utf8ByteSize) t d) :
    front ++ back = front ++ String.ofList t ++ String.ofList d.rest ∧
      d.offset = (front ++ String.ofList t).utf8ByteSize := by
  rw [ofOffset_append] at h
  have hback : back = String.ofList t ++ String.ofList d.rest := by
    apply String.toList_injective
    simpa using h.rest_eq
  exact ⟨by rw [hback, String.append_assoc], by rw [h.offset_eq, String.utf8ByteSize_append]⟩

/-- What stands between a place of a text and a place behind it is a slice of the text. -/
theorem Between.slice?_eq (h : Between (ofOffset text offset) t d)
    (hoffset : IsBoundary text offset) : slice? text offset d.offset = some (String.ofList t) := by
  obtain ⟨front, back, rfl, rfl⟩ := isBoundary_iff.mp hoffset
  rw [h.append_eq.1, h.append_eq.2, slice?_append]

/-- Behind a place of a text there are places of the text only. -/
theorem LeadsTo.eq_ofOffset (h : (ofOffset text offset).LeadsTo d) :
    d = ofOffset text d.offset ∧
      (IsBoundary text offset → IsBoundary text d.offset) ∧
        (¬IsBoundary text offset → d.offset = offset) := by
  by_cases hoffset : IsBoundary text offset
  · obtain ⟨front, back, rfl, rfl⟩ := isBoundary_iff.mp hoffset
    obtain ⟨t, ht⟩ := h
    obtain ⟨htext, hsize⟩ := ht.append_eq
    rw [ofOffset_append] at ht
    have hunseen : d.unseen = 0 := ht.unseen_eq
    -- The text is cut at the place, which then shows what it is made of.
    have hd : d = ofOffset (front ++ back) d.offset := by
      rw [htext, hsize, ofOffset_append, ← hsize, String.toList_append, List.getLast?_append,
        String.toList_ofList, String.toList_ofList, ← ht.previous_eq, ← hunseen]
    exact ⟨hd, fun _ => isBoundary_iff.mpr ⟨_, _, htext, hsize⟩, fun h => absurd hoffset h⟩
  · rw [ofOffset_of_not_isBoundary hoffset] at h
    obtain rfl := h.eq_of_rest_eq_nil rfl
    exact ⟨(ofOffset_of_not_isBoundary hoffset).symm, fun h => absurd h hoffset, fun _ => rfl⟩

/-- What stands behind the first part of a text is read from there. -/
theorem between_ofOffset (front : String) (t after : List Char) :
    Between (ofOffset (front ++ String.ofList (t ++ after)) front.utf8ByteSize) t
      (ofOffset (front ++ String.ofList (t ++ after))
        (front.utf8ByteSize + (String.ofList t).utf8ByteSize)) := by
  obtain ⟨d, hd, -⟩ := exists_between
    (c := ofOffset (front ++ String.ofList (t ++ after)) front.utf8ByteSize) (s := t)
    (t := after) (by rw [ofOffset_append, String.toList_ofList])
  have hplace := (LeadsTo.eq_ofOffset ⟨t, hd⟩).1
  rw [hd.offset_eq, offset_ofOffset] at hplace
  rwa [← hplace]

/-- A text that is read from an offset of the whole is cut out of it there. -/
theorem between_ofOffset_iff (ht : t ≠ []) :
    Between (ofOffset text offset) t d ↔
      ∃ front after, text = front ++ String.ofList (t ++ after) ∧ offset = front.utf8ByteSize ∧
        d = ofOffset text (offset + (String.ofList t).utf8ByteSize) := by
  constructor
  · intro h
    have hd := (LeadsTo.eq_ofOffset ⟨t, h⟩).1
    rw [h.offset_eq, offset_ofOffset] at hd
    by_cases hoffset : IsBoundary text offset
    · obtain ⟨front, back, rfl, rfl⟩ := isBoundary_iff.mp hoffset
      refine ⟨front, d.rest, ?_, rfl, hd⟩
      rw [String.ofList_append, ← String.append_assoc]
      exact h.append_eq.1
    · rw [ofOffset_of_not_isBoundary hoffset] at h
      exact absurd (List.append_eq_nil_iff.mp h.rest_eq.symm).1 ht
  · rintro ⟨front, after, rfl, rfl, rfl⟩
    exact between_ofOffset front t after

/-- Something was read exactly if the offset is another one. -/
theorem LeadsTo.length_lt_iff (h : c.LeadsTo d) :
    d.rest.length < c.rest.length ↔ d.offset ≠ c.offset := by
  obtain ⟨t, ht⟩ := h
  rw [ht.length_lt_iff, ht.offset_eq]
  cases t with
  | nil => simp
  | cons x t =>
    have := x.utf8Size_pos
    simp only [ne_eq, reduceCtorEq, not_false_eq_true, String.ofList_cons,
      String.utf8ByteSize_append, String.utf8ByteSize_singleton, true_iff]
    omega

theorem LeadsTo.left_lt_iff (h : c.LeadsTo d) : d.left < c.left ↔ d.offset ≠ c.offset := by
  rw [← h.length_lt_iff]
  obtain ⟨t, ht⟩ := h
  rw [ht.left_lt_iff, ht.length_lt_iff]

theorem LeadsTo.left_le (h : c.LeadsTo d) : d.left ≤ c.left := by
  obtain ⟨t, ht⟩ := h
  exact ht.left_le

theorem LeadsTo.offset_lt (h : c.LeadsTo d) (hlt : d.left < c.left) : c.offset < d.offset :=
  Nat.lt_of_le_of_ne h.offset_le (h.left_lt_iff.mp hlt).symm

/-! ### What is left of a text -/

theorem left_ofOffset : (ofOffset text offset).left = text.utf8ByteSize - offset := by
  by_cases hoffset : IsBoundary text offset
  · obtain ⟨front, back, rfl, rfl⟩ := isBoundary_iff.mp hoffset
    rw [ofOffset_append, left, String.ofList_toList, String.utf8ByteSize_append]
    exact (Nat.add_sub_cancel_left ..).symm
  · rw [ofOffset_of_not_isBoundary hoffset]
    exact Nat.zero_add _

/-- Between two offsets of a text, less of it is left exactly if they are not the same. -/
theorem left_ofOffset_lt_iff {a b : Nat} (hab : a ≤ b) (hb : b ≤ max a text.utf8ByteSize) :
    (ofOffset text b).left < (ofOffset text a).left ↔ b ≠ a := by
  rw [left_ofOffset, left_ofOffset]
  omega

end Cursor

namespace Parser

variable {α : Type} {p : Parser α} {print : α → String}

/-- Whatever the parser reads from a text, its print is the slice of the text that was read. -/
def IsVerbatim (p : Parser α) (print : α → String) : Prop :=
  ∀ text offset v next, p.parse text offset = .success v next →
    slice? text offset next.offset = some (print v)

/-- Where the print is what stands between two places and is not empty, it is a slice of the
text, as nothing is read at an offset that is no boundary. -/
theorem isVerbatim_of_between
    (h : ∀ c v d, p.Reads c v d → Cursor.Between c (print v).toList d ∧ (print v).toList ≠ []) :
    p.IsVerbatim print := by
  intro text offset v next hparse
  obtain ⟨hbetween, hne⟩ := h _ _ _ hparse
  by_cases hoffset : IsBoundary text offset
  · rw [hbetween.slice?_eq hoffset, String.ofList_toList]
  · rw [Cursor.ofOffset_of_not_isBoundary hoffset] at hbetween
    exact absurd (List.append_eq_nil_iff.mp hbetween.rest_eq.symm).1 hne

end Parser

/-! ### Characters -/

/-- Read one character of `text` at a byte offset by slicing the text: behind the offset for
the character, and then before it for the one that the test sees as well. There is no
outcome where a slice that is needed does not exist. -/
def satisfyAt? (test : Char → Option Char → Bool) (expected : Option String) (text : String)
    (offset : Nat) : Option (Step Char) :=
  match (sliceFrom? text offset).bind (·.toList.head?) with
  | none => some (.failure offset ⟨.unexpectedEnd, offset⟩)
  | some x =>
    (sliceTo? text offset).map fun front =>
      if test x front.toList.getLast? then
        .success x (Cursor.ofOffset text (offset + x.utf8Size))
      else .failure offset ⟨.unexpectedChar x expected, offset⟩

/-- A text is sliced before a place only if there is something behind it to read, and then
the place is a boundary. -/
theorem satisfyAt?_eq (test : Char → Option Char → Bool) (expected : Option String)
    (text : String) (offset : Nat) :
    satisfyAt? test expected text offset = some ((satisfy test expected).parse text offset) := by
  by_cases hoffset : IsBoundary text offset
  · obtain ⟨front, back, rfl, rfl⟩ := isBoundary_iff.mp hoffset
    rw [satisfyAt?, sliceFrom?_append, sliceTo?_append, Parser.parse, Cursor.ofOffset_append]
    cases hback : back.toList with
    | nil => simp [satisfy, hback]
    | cons x rest =>
      have hleads : (Cursor.ofOffset (front ++ back) front.utf8ByteSize).LeadsTo
          ⟨some x, rest, front.utf8ByteSize + x.utf8Size, 0⟩ := by
        rw [Cursor.ofOffset_append, hback]
        exact Cursor.leadsTo_of_next? rfl
      simp [satisfy, hback, ← hleads.eq_ofOffset.1]
  · rw [satisfyAt?, sliceFrom?_of_not_isBoundary hoffset, Parser.parse,
      Cursor.ofOffset_of_not_isBoundary hoffset]
    rfl

end Reroute.Parsing
