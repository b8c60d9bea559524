import Reroute.Proofs.Parsing.Delimiters
import Reroute.Proofs.Parsing.Number

/-!
# Fixed texts

A fixed text is compared with what stands at a place, character by character. As long as the two
agree the parser goes on, so where it stops it has behind it the longest text with which both
begin. If that is all of the fixed text, it was read. If not, the character at this place is the
first that differs, or the text has ended there.

Characters are counted in bytes as they are passed. The place where the parser stops is therefore
as many bytes further on as the characters that agree have, whatever their width, and it is
always a boundary of the text: taking slices of the text at these offsets shows the same
characters.

## Main definitions

* `IsLongestCommonPrefix` — the longest text with which two texts begin
* `stringAt` — comparing by slices of the text

## Main results

* `stringFrom_eq` — how far a comparison goes, and what it says
* `stringFrom_ofOffset` — the same is seen in slices of the text
* `string_isExact` — the outcome of reading a fixed text from every boundary of a text
-/

set_option autoImplicit false

namespace Reroute.Parsing

open Cursor

variable {text : String} {start offset : Nat} {s t u u' : List Char} {x y : Char}

/-! ### What two texts have in common -/

/-- `common` is the longest text with which both `s` and `t` begin. -/
structure IsLongestCommonPrefix (s t common : List Char) : Prop where
  isPrefix_left : common <+: s
  isPrefix_right : common <+: t
  length_le : ∀ u, u <+: s → u <+: t → u.length ≤ common.length

namespace IsLongestCommonPrefix

theorem nil_left (t : List Char) : IsLongestCommonPrefix [] t [] where
  isPrefix_left := List.prefix_rfl
  isPrefix_right := List.nil_prefix
  length_le _ h _ := h.length_le

theorem nil_right (s : List Char) : IsLongestCommonPrefix s [] [] where
  isPrefix_left := List.nil_prefix
  isPrefix_right := List.prefix_rfl
  length_le _ _ h := h.length_le

theorem cons (x : Char) (h : IsLongestCommonPrefix s t u) :
    IsLongestCommonPrefix (x :: s) (x :: t) (x :: u) where
  isPrefix_left := List.cons_prefix_cons.mpr ⟨rfl, h.isPrefix_left⟩
  isPrefix_right := List.cons_prefix_cons.mpr ⟨rfl, h.isPrefix_right⟩
  length_le
    | [], _, _ => Nat.zero_le _
    | _ :: v, hs, ht => by
      have hle := h.length_le v (List.cons_prefix_cons.mp hs).2 (List.cons_prefix_cons.mp ht).2
      exact Nat.succ_le_succ hle

theorem of_ne (h : x ≠ y) (s t : List Char) : IsLongestCommonPrefix (x :: s) (y :: t) [] where
  isPrefix_left := List.nil_prefix
  isPrefix_right := List.nil_prefix
  length_le
    | [], _, _ => Nat.le_refl _
    | _ :: _, hs, ht =>
      absurd ((List.cons_prefix_cons.mp hs).1.symm.trans (List.cons_prefix_cons.mp ht).1) h

theorem unique (h : IsLongestCommonPrefix s t u) (h' : IsLongestCommonPrefix s t u') : u = u' := by
  have hle : u.length ≤ u'.length := h'.length_le u h.isPrefix_left h.isPrefix_right
  have hle' : u'.length ≤ u.length := h.length_le u' h'.isPrefix_left h'.isPrefix_right
  exact (List.prefix_of_prefix_length_le h.isPrefix_left h'.isPrefix_left hle).eq_of_length
    (Nat.le_antisymm hle hle')

/-- Nothing of the first text is left exactly if the second one begins with it. -/
theorem eq_left_iff (h : IsLongestCommonPrefix s t u) : u = s ↔ s <+: t := by
  constructor
  · rintro rfl
    exact h.isPrefix_right
  · intro hs
    exact h.isPrefix_left.eq_of_length_le (h.length_le s List.prefix_rfl hs)

end IsLongestCommonPrefix

/-! ### How far a comparison goes -/

/-- Why `literal` is not read on where `found` is the next character, if there is one. -/
def mismatch (literal : String) (found : Option Char) : ParseError.Cause :=
  found.elim .unexpectedEnd (.unexpectedChar · (some literal))

theorem mismatch_eq_unexpectedEnd_iff {literal : String} {found : Option Char} :
    mismatch literal found = .unexpectedEnd ↔ found = none := by
  cases found <;> simp [mismatch]

/-- Characters are compared up to the end of what they have in common with the text. -/
theorem stringFrom_eq (literal : String) (chars : List Char) (c : Cursor) :
    ∃ common d, IsLongestCommonPrefix chars c.rest common ∧ Between c common d ∧
      stringFrom literal chars c =
        if common = chars then .success literal d
        else .failure d.offset ⟨mismatch literal d.rest.head?, d.offset⟩ := by
  induction chars generalizing c with
  | nil => exact ⟨[], c, .nil_left _, rfl, rfl⟩
  | cons x chars ih =>
    rw [stringFrom]
    cases hnext : c.next? with
    | none =>
      -- The text ends before the literal does.
      have hrest := next?_eq_none_iff.mp hnext
      refine ⟨[], c, ?_, rfl, ?_⟩
      · rw [hrest]
        exact .nil_right _
      · simp [hrest, mismatch]
    | some next =>
      obtain ⟨y, e⟩ := next
      have hrest : c.rest = y :: e.rest := (next?_eq_some_iff.mp hnext).1
      by_cases hy : y = x
      · -- The character agrees, and so does what the rest of both has in common.
        subst hy
        obtain ⟨common, d, hcommon, hd, hstep⟩ := ih e
        refine ⟨y :: common, d, ?_, ⟨e, hnext, hd⟩, ?_⟩
        · rw [hrest]
          exact hcommon.cons y
        · simp [hstep]
      · refine ⟨[], c, ?_, rfl, ?_⟩
        · rw [hrest]
          exact .of_ne (Ne.symm hy) _ _
        · simp [hy, hrest, mismatch]

/-! ### Slices -/

/-- Compare `chars`, the part of `literal` that is still to come, with `text` from a byte offset
on. Each character is the first one of the slice behind the offset. -/
def stringAt (text literal : String) : List Char → Nat → Step String
  | [], offset => .success literal (ofOffset text offset)
  | x :: chars, offset =>
    match charAt? text offset with
    | none => .failure offset ⟨.unexpectedEnd, offset⟩
    | some y =>
      if y = x then stringAt text literal chars (offset + y.utf8Size)
      else .failure offset ⟨.unexpectedChar y (some literal), offset⟩

theorem head?_rest_ofOffset : (ofOffset text offset).rest.head? = charAt? text offset := by
  rw [rest_ofOffset, charAt?]
  cases sliceFrom? text offset <;> rfl

theorem next?_ofOffset :
    (ofOffset text offset).next? =
      (charAt? text offset).map fun x => (x, ofOffset text (offset + x.utf8Size)) := by
  rw [← head?_rest_ofOffset]
  cases hnext : (ofOffset text offset).next? with
  | none =>
    rw [next?_eq_none_iff.mp hnext]
    rfl
  | some next =>
    obtain ⟨x, d⟩ := next
    obtain ⟨hrest, -, hoffset, -⟩ := next?_eq_some_iff.mp hnext
    have hd := (leadsTo_of_next? hnext).eq_ofOffset.1
    rw [hoffset, offset_ofOffset] at hd
    rw [hrest, List.head?_cons, Option.map_some, ← hd]

/-- The places that are passed are those of the slices. -/
theorem stringFrom_ofOffset (text literal : String) (chars : List Char) (offset : Nat) :
    stringFrom literal chars (ofOffset text offset) = stringAt text literal chars offset := by
  induction chars generalizing offset with
  | nil => rfl
  | cons x chars ih =>
    rw [stringFrom, stringAt, next?_ofOffset, offset_ofOffset]
    cases charAt? text offset with
    | none => rfl
    | some y => simp [ih]

/-! ### Outcomes -/

/-- A text has ended at a boundary if nothing stands there. -/
theorem charAt?_eq_none_iff (h : IsBoundary text offset) :
    charAt? text offset = none ↔ offset = text.utf8ByteSize := by
  obtain ⟨front, back, rfl, rfl⟩ := isBoundary_iff.mp h
  rw [charAt?, sliceFrom?_append, Option.bind_some, List.head?_eq_none_iff,
    String.toList_eq_nil_iff, ← String.utf8ByteSize_eq_zero_iff, String.utf8ByteSize_append]
  omega

/-- What is read from a boundary ends at one, behind all that agrees. -/
theorem parse_string_eq (hstart : IsBoundary text start) (literal : String) :
    ∃ back common stop, sliceFrom? text start = some back ∧
      IsLongestCommonPrefix literal.toList back.toList common ∧
      stop = start + (String.ofList common).utf8ByteSize ∧ IsBoundary text stop ∧
      (string literal).parse text start =
        if common = literal.toList then .success literal (ofOffset text stop)
        else .failure stop ⟨mismatch literal (charAt? text stop), stop⟩ := by
  obtain ⟨front, back, htext, hfront⟩ := isBoundary_iff.mp hstart
  have hslice : sliceFrom? text start = some back := by
    rw [htext, hfront, sliceFrom?_append]
  obtain ⟨common, d, hcommon, hbetween, hstep⟩ :=
    stringFrom_eq literal literal.toList (ofOffset text start)
  rw [rest_ofOffset, hslice, Option.getD_some] at hcommon
  -- The comparison ends at a place of the text, where the slices show what it sees.
  obtain ⟨hd, hboundary, -⟩ := LeadsTo.eq_ofOffset ⟨common, hbetween⟩
  have hfound : d.rest.head? = charAt? text d.offset := by
    rw [← head?_rest_ofOffset, ← hd]
  refine ⟨back, common, d.offset, hslice, hcommon, ?_, hboundary hstart, ?_⟩
  · rw [hbetween.offset_eq, offset_ofOffset]
  · rw [← hfound, ← hd]
    exact hstep

/-- Reading a fixed text is exact. From a boundary of a text it succeeds if and only if the text
goes on with all of it, and ends as many bytes further on as it has. Otherwise the parser gives up
behind the longest text with which both begin, and its error is there as well: the text has ended,
exactly if this is the end of the text, or the character that stands there is not the one that was
needed. Slices of the text that are taken at byte offsets give the same outcome. -/
theorem string_isExact (hstart : IsBoundary text start) (literal : String) :
    ∃ back common stop, sliceFrom? text start = some back ∧
      IsLongestCommonPrefix literal.toList back.toList common ∧
      stop = start + (String.ofList common).utf8ByteSize ∧
      (literal.toList <+: back.toList →
        (string literal).parse text start =
          .success literal (ofOffset text (start + literal.utf8ByteSize))) ∧
      (¬literal.toList <+: back.toList → ∃ cause,
        (string literal).parse text start = .failure stop ⟨cause, stop⟩ ∧
          (cause = .unexpectedEnd ↔ stop = text.utf8ByteSize) ∧
          ∀ x, charAt? text stop = some x → cause = .unexpectedChar x (some literal)) ∧
      (string literal).parse text start = stringAt text literal literal.toList start := by
  obtain ⟨back, common, stop, hslice, hcommon, hstop, hboundary, hparse⟩ :=
    parse_string_eq hstart literal
  refine ⟨back, common, stop, hslice, hcommon, hstop, fun h => ?_, fun h => ?_,
    stringFrom_ofOffset ..⟩
  · have hall := hcommon.eq_left_iff.mpr h
    rw [hparse, if_pos hall, hstop, hall, String.ofList_toList]
  · rw [← hcommon.eq_left_iff] at h
    refine ⟨mismatch literal (charAt? text stop), by rw [hparse, if_neg h], ?_, fun x hx => ?_⟩
    · rw [mismatch_eq_unexpectedEnd_iff, charAt?_eq_none_iff hboundary]
    · rw [hx]
      rfl

/-- Two characters agree, of which the first has two bytes, and the third does not. -/
theorem string_isExact_of_mismatch :
    IsBoundary "xéaöz" 1 ∧ IsLongestCommonPrefix "éaü".toList "éaöz".toList ['é', 'a'] ∧
      (string "éaü").parse "xéaöz" 1 = .failure 4 ⟨.unexpectedChar 'ö' (some "éaü"), 4⟩ := by
  have hstart : IsBoundary "xéaöz" 1 := isBoundary_iff.mpr ⟨"x", "éaöz", rfl, rfl⟩
  have hlongest : IsLongestCommonPrefix "éaü".toList "éaöz".toList ['é', 'a'] :=
    ((IsLongestCommonPrefix.of_ne (by decide) _ _).cons 'a').cons 'é'
  obtain ⟨back, common, stop, hback, hcommon, hstop, -, hfailure, -⟩ := string_isExact hstart "éaü"
  have hslice : sliceFrom? "xéaöz" 1 = some "éaöz" := by decide +kernel
  obtain rfl : "éaöz" = back := Option.some.inj (hslice.symm.trans hback)
  obtain rfl : common = ['é', 'a'] := hcommon.unique hlongest
  obtain rfl : stop = 4 := hstop
  obtain ⟨cause, hparse, -, hcause⟩ := hfailure (by decide)
  rw [hcause 'ö' (by decide +kernel)] at hparse
  exact ⟨hstart, hlongest, hparse⟩

/-- Where the text ends, nothing differs. -/
example : (string "??").parse "?" 0 = .failure 1 ⟨.unexpectedEnd, 1⟩ := by decide +kernel

end Reroute.Parsing
