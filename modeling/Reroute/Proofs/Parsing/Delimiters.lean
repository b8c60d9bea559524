import Mathlib.Data.Nat.Find
import Reroute.Proofs.Grammar.Lexical
import Reroute.Proofs.Parsing.Translation

/-!
# Texts between delimiters

A text between delimiters ends at the first closing character that has no backslash just before
it. That is told here by byte offsets of the whole text: a parser for such texts succeeds
exactly where the opening delimiter stands and a character further on closes, and it reads what
is between the two, with all of its backslashes.

One character is looked back at, and no further. So of a run of backslashes only the last one
counts, and the opening delimiter itself, which is no backslash, never keeps the next character
from closing.

## Main definitions

* `charAt?`, `ClosesAt`, `IsFirstClosing` — the characters of a text that close, and the first
* `Parser.ScansDelimited` — the law of a parser for texts between two delimiters

## Main results

* `isFirstClosing_append_iff` — the first character that closes, and what delimiters can enclose
* `scansDelimited_stringLiteral_pattern` — the law holds of quoted texts and of patterns
-/

set_option autoImplicit false

namespace Reroute.Parsing

open Cursor

variable {opening closing : Char} {text front : String} {start stop offset : Nat}
  {body after : List Char}

/-! ### Characters that close -/

/-- A text may stand between delimiters if every `closing` in it has a backslash just before
it. -/
theorem accepts_isInside_iff_forall {previous : Option Char} :
    Accepts (isInside closing) previous body ↔
      ∀ before after, body = before ++ closing :: after →
        before.getLast?.or previous = some '\\' := by
  constructor
  · rintro h before after rfl
    have hclosing := (accepts_append.mp h).2.1
    exact isInside_self.mp hclosing
  · intro h
    -- The character before the text stands before its first one.
    induction body generalizing previous with
    | nil => trivial
    | cons x body ih =>
      refine ⟨?_, ih fun before after hbody => ?_⟩
      · by_cases hx : x = closing
        · subst hx
          simpa using h [] body rfl
        · simp [isInside, hx]
      · have := h (x :: before) after (by rw [hbody, List.cons_append])
        cases before with
        | nil => simpa using this
        | cons y before => simpa [List.getLast?_cons_cons, List.getLast?_cons] using this

/-- The character of a text at a byte offset. -/
def charAt? (text : String) (offset : Nat) : Option Char :=
  (sliceFrom? text offset).bind (·.toList.head?)

theorem charAt?_append (front : String) (x : Char) (back : List Char) :
    charAt? (front ++ String.ofList (x :: back)) front.utf8ByteSize = some x := by
  rw [charAt?, sliceFrom?_append]
  simp

theorem exists_of_charAt? {x : Char} (h : charAt? text offset = some x) :
    ∃ front back, text = front ++ String.ofList (x :: back) ∧ offset = front.utf8ByteSize := by
  by_cases hoffset : IsBoundary text offset
  · obtain ⟨front, back, rfl, rfl⟩ := isBoundary_iff.mp hoffset
    rw [charAt?, sliceFrom?_append, Option.bind_some, List.head?_eq_some_iff] at h
    obtain ⟨rest, hback⟩ := h
    exact ⟨front, rest, by rw [← hback, String.ofList_toList], rfl⟩
  · rw [charAt?, sliceFrom?_of_not_isBoundary hoffset] at h
    cases h

/-- At the offset stands `closing`, with no backslash just before it. -/
def ClosesAt (closing : Char) (text : String) (offset : Nat) : Prop :=
  charAt? text offset = some closing ∧ charBefore? text offset ≠ some '\\'

theorem closesAt_append_iff :
    ClosesAt closing (front ++ String.ofList (closing :: after)) front.utf8ByteSize ↔
      front.toList.getLast? ≠ some '\\' := by
  rw [ClosesAt, charAt?_append, charBefore?, sliceTo?_append]
  simp

/-- The first offset behind `start` at which a character closes. -/
structure IsFirstClosing (closing : Char) (text : String) (start stop : Nat) : Prop where
  lt : start < stop
  closesAt : ClosesAt closing text stop
  not_closesAt : ∀ offset, start < offset → offset < stop → ¬ClosesAt closing text offset

/-- Where a character closes behind an offset, there is a first one. -/
theorem exists_isFirstClosing (hlt : start < stop) (h : ClosesAt closing text stop) :
    ∃ first, IsFirstClosing closing text start first := by
  classical
  have hexists : ∃ stop, start < stop ∧ ClosesAt closing text stop := ⟨stop, hlt, h⟩
  obtain ⟨hfirst, hcloses⟩ := Nat.find_spec hexists
  exact ⟨Nat.find hexists, hfirst, hcloses, fun offset hoffset hless hearlier =>
    Nat.find_min hexists hless ⟨hoffset, hearlier⟩⟩

/-- A character that stands further on stands behind what is between. -/
theorem exists_body_of_charAt? {x : Char} {back : List Char}
    (hlt : front.utf8ByteSize < stop)
    (h : charAt? (front ++ String.ofList (opening :: back)) stop = some x) :
    ∃ body after, back = body ++ x :: after ∧
      stop = (front ++ String.ofList (opening :: body)).utf8ByteSize := by
  obtain ⟨front', after, heq, rfl⟩ := exists_of_charAt? h
  obtain ⟨middle, rfl, hback⟩ := exists_append_of_le heq (Nat.le_of_lt hlt)
  have hlist : opening :: back = middle.toList ++ x :: after := by
    simpa using congrArg String.toList hback
  cases hmiddle : middle.toList with
  | nil =>
    rw [String.toList_eq_nil_iff.mp hmiddle, String.append_empty] at hlt
    exact absurd hlt (Nat.lt_irrefl _)
  | cons y body =>
    rw [hmiddle, List.cons_append, List.cons.injEq] at hlist
    obtain ⟨rfl, rfl⟩ := hlist
    refine ⟨body, after, rfl, ?_⟩
    rw [← hmiddle, String.ofList_toList]

/-- Behind the opening delimiter, which is no backslash, a character closes unless a backslash
stands between. -/
theorem closesAt_behind_iff (hopening : opening ≠ '\\') :
    ClosesAt closing (front ++ String.ofList (opening :: body ++ closing :: after))
        (front ++ String.ofList (opening :: body)).utf8ByteSize ↔
      body.getLast? ≠ some '\\' := by
  rw [String.ofList_append, ← String.append_assoc, closesAt_append_iff, String.toList_append,
    String.toList_ofList, List.getLast?_append_cons, List.getLast?_cons]
  cases body.getLast? <;> simp [hopening]

theorem utf8ByteSize_lt_append (front : String) (x : Char) (t : List Char) :
    front.utf8ByteSize < (front ++ String.ofList (x :: t)).utf8ByteSize := by
  have := x.utf8Size_pos
  simp
  omega

/-- Between two delimiters in a text the second is the first character that closes exactly if
what stands between them can be enclosed. -/
theorem isFirstClosing_append_iff (hopening : opening ≠ '\\') :
    IsFirstClosing closing (front ++ String.ofList (opening :: body ++ closing :: after))
        front.utf8ByteSize (front ++ String.ofList (opening :: body)).utf8ByteSize ↔
      IsEnclosable closing body := by
  constructor
  · rintro ⟨-, hcloses, hearlier⟩
    refine ⟨accepts_isInside_iff_forall.mpr fun before rest hbody => ?_,
      (closesAt_behind_iff hopening).mp hcloses⟩
    -- An earlier one with no backslash before it would close.
    by_contra hbefore
    refine hearlier (front ++ String.ofList (opening :: before)).utf8ByteSize
      (utf8ByteSize_lt_append _ _ _) ?_ ?_
    · rw [hbody, ← List.cons_append, String.ofList_append, ← String.append_assoc]
      exact utf8ByteSize_lt_append _ _ _
    · have htext : opening :: body ++ closing :: after =
          opening :: before ++ closing :: (rest ++ closing :: after) := by simp [hbody]
      rw [htext, closesAt_behind_iff hopening]
      simpa using hbefore
  · rintro ⟨haccepts, hlast⟩
    refine ⟨utf8ByteSize_lt_append _ _ _, (closesAt_behind_iff hopening).mpr hlast,
      fun offset hlt hless hcloses => ?_⟩
    -- A character that closes earlier would stand within the enclosed text.
    obtain ⟨before, rest, hbody, rfl⟩ := exists_body_of_charAt? hlt hcloses.1
    have hinside : ∃ t, body = before ++ closing :: t := by
      rcases List.append_eq_append_iff.mp hbody with ⟨t, rfl, -⟩ | ⟨t, rfl, ht⟩
      · rw [← List.cons_append, String.ofList_append, ← String.append_assoc,
          String.utf8ByteSize_append] at hless
        omega
      · cases t with
        | nil => simp at hless
        | cons y t =>
          rw [List.cons_append, List.cons.injEq] at ht
          exact ⟨t, by rw [ht.1]⟩
    obtain ⟨t, rfl⟩ := hinside
    have hbefore := accepts_isInside_iff_forall.mp haccepts before t rfl
    have htext : opening :: (before ++ closing :: t) ++ closing :: after =
        opening :: before ++ closing :: (t ++ closing :: after) := by simp
    rw [htext, closesAt_behind_iff hopening] at hcloses
    exact hcloses (by simpa using hbefore)

/-- What stands behind a character is a slice. -/
theorem slice?_behind (front : String) (x : Char) (body after : List Char) :
    slice? (front ++ String.ofList (x :: body ++ after)) (front.utf8ByteSize + x.utf8Size)
      (front ++ String.ofList (x :: body)).utf8ByteSize = some (String.ofList body) := by
  have hsize : front.utf8ByteSize + x.utf8Size = (front ++ String.ofList [x]).utf8ByteSize := by
    simp
  have hbody : front ++ String.ofList (x :: body) =
      front ++ String.ofList [x] ++ String.ofList body :=
    String.toList_injective (by simp)
  rw [String.ofList_append, ← String.append_assoc, hsize, hbody]
  exact slice?_append _ _ _

/-- From where the text goes on with an opening delimiter, the text up to the first character that
closes is read, and nothing else. -/
theorem parse_delimited_eq_success_iff (hopening : opening ≠ '\\') {body : String}
    {next : Cursor} :
    (delimited opening closing).parse text start = .success body next ↔
      charAt? text start = some opening ∧ ∃ stop, IsFirstClosing closing text start stop ∧
        slice? text (start + opening.utf8Size) stop = some body ∧
          next = ofOffset text (stop + closing.utf8Size) := by
  have hreads : (delimited opening closing).Reads (ofOffset text start) body next ↔ _ :=
    reads_delimited hopening
  refine hreads.trans ?_
  rw [between_ofOffset_iff (by simp)]
  have hsize (front : String) (body : List Char) :
      front.utf8ByteSize + (String.ofList (opening :: body ++ [closing])).utf8ByteSize =
        (front ++ String.ofList (opening :: body)).utf8ByteSize + closing.utf8Size := by
    simp [Nat.add_assoc]
  -- Both sides say how the text is put together around the two delimiters.
  constructor
  · rintro ⟨⟨front, after, rfl, rfl, rfl⟩, hbody⟩
    rw [hsize, List.append_assoc, List.singleton_append]
    refine ⟨charAt?_append .., _, (isFirstClosing_append_iff hopening).mpr hbody, ?_, rfl⟩
    rw [slice?_behind, String.ofList_toList]
  · rintro ⟨hchar, stop, hfirst, hslice, rfl⟩
    obtain ⟨front, back, rfl, rfl⟩ := exists_of_charAt? hchar
    obtain ⟨inner, after, rfl, rfl⟩ := exists_body_of_charAt? hfirst.lt hfirst.closesAt.1
    rw [← List.cons_append] at hfirst hslice ⊢
    rw [slice?_behind, Option.some.injEq] at hslice
    subst hslice
    rw [String.toList_ofList]
    refine ⟨⟨front, after, ?_, rfl, ?_⟩, (isFirstClosing_append_iff hopening).mp hfirst⟩
    · rw [List.append_assoc, List.singleton_append]
    · rw [hsize]

theorem succeeds_delimited_iff (hopening : opening ≠ '\\') :
    (∃ body next, (delimited opening closing).parse text start = .success body next) ↔
      charAt? text start = some opening ∧ ∃ stop, start < stop ∧ ClosesAt closing text stop := by
  simp only [parse_delimited_eq_success_iff hopening]
  constructor
  · rintro ⟨body, next, hchar, stop, hfirst, -⟩
    exact ⟨hchar, stop, hfirst.lt, hfirst.closesAt⟩
  · rintro ⟨hchar, stop, hlt, hcloses⟩
    obtain ⟨first, hfirst⟩ := exists_isFirstClosing hlt hcloses
    obtain ⟨front, back, rfl, rfl⟩ := exists_of_charAt? hchar
    obtain ⟨body, after, rfl, rfl⟩ := exists_body_of_charAt? hfirst.lt hfirst.closesAt.1
    exact ⟨String.ofList body, _, hchar, _, hfirst, slice?_behind .., rfl⟩

/-- A text in delimiters is read back exactly if they can enclose it. -/
theorem parseFull_delimited_eq_ok_iff (hopening : opening ≠ '\\') {body : String} :
    (delimited opening closing).parseFull
        (String.singleton opening ++ body ++ String.singleton closing) = .ok body ↔
      IsEnclosable closing body.toList := by
  rw [Parser.parseFull_eq_ok_iff]
  constructor
  · rintro ⟨d, hread, -⟩
    exact ((reads_delimited hopening).mp hread).2
  · intro hbody
    obtain ⟨d, hd, hrest⟩ := exists_between
      (c := Cursor.start (String.singleton opening ++ body ++ String.singleton closing))
      (s := opening :: body.toList ++ [closing]) (t := []) (by simp [Cursor.start])
    exact ⟨d, (reads_delimited hopening).mpr ⟨hd, hbody⟩, hrest⟩

theorem isEnclosable_iff : IsEnclosable closing body ↔
    (∀ before after, body = before ++ closing :: after → before.getLast? = some '\\') ∧
      body.getLast? ≠ some '\\' := by
  simp only [IsEnclosable, accepts_isInside_iff_forall, Option.or_none]

/-- The law of a parser for texts between two delimiters. The four parts say what it reads, where
it succeeds, where it gives up otherwise, and which texts it gives back when they are put between
the delimiters. -/
structure Parser.ScansDelimited (p : Parser String) (opening closing : Char) : Prop where
  success_iff (text : String) (start : Nat) (body : String) (next : Cursor) :
    p.parse text start = .success body next ↔
      charAt? text start = some opening ∧ ∃ stop, IsFirstClosing closing text start stop ∧
        slice? text (start + opening.utf8Size) stop = some body ∧
          next = ofOffset text (stop + closing.utf8Size)
  succeeds_iff (text : String) (start : Nat) :
    (∃ body next, p.parse text start = .success body next) ↔
      charAt? text start = some opening ∧ ∃ stop, start < stop ∧ ClosesAt closing text stop
  stop_eq (text : String) (start stop : Nat) (error : ParseError) :
    p.parse text start = .failure stop error → stop = start
  parseFull_iff (body : String) :
    p.parseFull (String.singleton opening ++ body ++ String.singleton closing) = .ok body ↔
      (∀ before after, body.toList = before ++ closing :: after →
        before.getLast? = some '\\') ∧ body.toList.getLast? ≠ some '\\'

theorem scansDelimited_delimited (hopening : opening ≠ '\\') (closing : Char) :
    (delimited opening closing).ScansDelimited opening closing where
  success_iff _ _ _ _ := parse_delimited_eq_success_iff hopening
  succeeds_iff _ _ := succeeds_delimited_iff hopening
  stop_eq text start stop error h := by
    simpa using Parser.isAtomic_map _ _ _ h
  parseFull_iff _ := (parseFull_delimited_eq_ok_iff hopening).trans isEnclosable_iff

/-- From every offset of a text, quoted texts and patterns in parentheses are read exactly where
the first delimiter stands and a later second one has no backslash just before it; the first such
one ends them. They fail where they began. A text that is put between the delimiters is read
back exactly if each of its closing characters has a backslash just before it in the text and
the text does not end with a backslash. -/
theorem scansDelimited_stringLiteral_pattern :
    stringLiteral.ScansDelimited '"' '"' ∧ Grammar.pattern.ScansDelimited '(' ')' :=
  ⟨scansDelimited_delimited (by decide) '"', scansDelimited_delimited (by decide) ')'⟩

/-- The last backslash of a run keeps the quote behind it from closing. -/
example : stringLiteral.parse "é\"a\\\"\\\\\"\" \"" 2 =
    .success "a\\\"\\\\\"" (ofOffset "é\"a\\\"\\\\\"\" \"" 10) := by decide +kernel

end Reroute.Parsing
