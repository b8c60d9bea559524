import Mathlib.Data.List.Basic
import Reroute.Proofs.Parsing.Reading
import Reroute.Proofs.Text.Prefix

/-!
# What numbers, white space and delimited texts look like

Each of these is read to its greatest length, so besides what the text itself looks
like it matters what stands behind it.

## Main definitions

* `IsBlank` — texts of white space
* `IsEnclosable` — texts that delimiters can enclose without being closed early

## Main results

* `reads_spaces`, `reads_number`, `reads_delimited` — which texts are read
* `failsAt_number_iff` — where no number begins
-/

set_option autoImplicit false

namespace Reroute.Parsing

open Cursor

variable {c d : Cursor}

/-- A text of white space. -/
def IsBlank (text : List Char) : Prop :=
  ∀ x ∈ text, isWhitespace x

instance : DecidablePred IsBlank := fun text =>
  decidable_of_iff (text.all isWhitespace) List.all_eq_true

theorem isBlank_nil : IsBlank [] := by
  simp [IsBlank]

theorem isBlank_blank : IsBlank [' '] := by
  simp [IsBlank, isWhitespace]

/-- What stands at a place does not continue a run of white space. -/
abbrev EndsBlank (c : Cursor) : Prop :=
  Ends (fun x _ => isWhitespace x) c

theorem reads_map_ofList {p : Parser (List Char)} {s : String} :
    (p.map String.ofList).Reads c s d ↔ p.Reads c s.toList d := by
  rw [Parser.reads_map]
  constructor
  · rintro ⟨chars, h, rfl⟩
    rwa [String.toList_ofList]
  · exact fun h => ⟨s.toList, h, String.ofList_toList⟩

theorem reads_spaces {s : String} :
    spaces.Reads c s d ↔ Between c s.toList d ∧ IsBlank s.toList ∧ EndsBlank d := by
  rw [spaces, reads_map_ofList, Parser.reads_many, whitespace, Parser.repeats_satisfy,
    accepts_iff_forall]
  rfl

/-- White space is read up to the first other character. -/
theorem exists_reads_spaces {w rest : List Char} (hc : c.rest = w ++ rest) (hw : IsBlank w)
    (hrest : ∀ x, rest.head? = some x → isWhitespace x = false) :
    ∃ d, spaces.Reads c (String.ofList w) d ∧ Between c w d ∧ d.rest = rest := by
  obtain ⟨d, hd, rfl⟩ := exists_between hc
  refine ⟨d, reads_spaces.mpr ?_, hd, rfl⟩
  rw [String.toList_ofList]
  exact ⟨hd, hw, hrest⟩

/-! ### Numbers -/

/-- What stands at a place does not continue a run of digits. -/
abbrev EndsDigits (c : Cursor) : Prop :=
  Ends (fun x _ => x.isDigit) c

theorem reads_digits {text : List Char} :
    (Parser.many1 digit).Reads c text d ↔
      text ≠ [] ∧ Between c text d ∧ (∀ x ∈ text, x.isDigit) ∧ EndsDigits d := by
  rw [digit, Parser.reads_many1_satisfy, accepts_iff_forall]

theorem reads_number {n : Int64} :
    number.Reads c n d ↔ ∃ text, text ≠ [] ∧ Between c text d ∧ (∀ x ∈ text, x.isDigit) ∧
      EndsDigits d ∧ Nat.ofDigitChars 10 text 0 ≤ Int64.maxValue.toInt ∧
      n = Int64.ofNat (Nat.ofDigitChars 10 text 0) := by
  unfold Parser.Reads number
  dsimp only
  constructor
  · cases h : (Parser.many1 digit).run c with
    | success text next =>
      dsimp only
      split_ifs with hlt
      · intro hn
        obtain ⟨rfl, rfl⟩ : Int64.ofNat (Nat.ofDigitChars 10 text 0) = n ∧ next = d := by
          simpa using hn
        obtain ⟨hne, hbetween, hdigits, hends⟩ := reads_digits.mp h
        exact ⟨text, hne, hbetween, hdigits, hends, hlt, rfl⟩
      · simp
    | failure stop error => simp
  · rintro ⟨text, hne, hbetween, hdigits, hends, hlt, rfl⟩
    have h : (Parser.many1 digit).run c = .success text d :=
      reads_digits.mpr ⟨hne, hbetween, hdigits, hends⟩
    rw [h]
    dsimp only
    rw [if_pos hlt]

/-- No number begins where there is no digit, or where the digits stand for a number
that is too large, and only there. -/
theorem failsAt_number_iff :
    number.FailsAt c ↔ c.rest.takeWhile Char.isDigit = [] ∨
      Int64.maxValue.toInt < Nat.ofDigitChars 10 (c.rest.takeWhile Char.isDigit) 0 := by
  constructor
  · intro hfail
    by_contra h
    push Not at h
    obtain ⟨hne, hlt⟩ := h
    obtain ⟨d, hbetween, hrest⟩ := exists_between (c := c)
      (List.takeWhile_append_dropWhile (p := Char.isDigit)).symm
    -- The digits would have been read.
    refine hfail _ d (reads_number.mpr
      ⟨_, hne, hbetween, List.all_eq_true.mp List.all_takeWhile, fun x hx => ?_,
        by omega, rfl⟩)
    rw [hrest] at hx
    have := List.head?_dropWhile_not Char.isDigit c.rest
    rwa [hx] at this
  · intro h n d read
    obtain ⟨text, hne, hbetween, hdigits, hends, hlt, -⟩ := reads_number.mp read
    have htext : c.rest.takeWhile Char.isDigit = text := by
      rw [hbetween.rest_eq]
      exact Text.takeWhile_append_of_all hdigits hends
    rw [htext] at h
    rcases h with h | h
    · exact hne h
    · omega

/-! ### Delimited texts -/

/-- Whether a character may stand between delimiters of which the second is `closing`,
behind the character `previous`. -/
def isInside (closing x : Char) (previous : Option Char) : Bool :=
  x ≠ closing || previous = some '\\'

@[simp] theorem isInside_self {closing : Char} {previous : Option Char} :
    isInside closing closing previous ↔ previous = some '\\' := by
  simp [isInside]

/-- Every `closing` in the text has a backslash just before it, in the text itself, and
the text does not end with a backslash. -/
def IsEnclosable (closing : Char) (text : List Char) : Prop :=
  Accepts (isInside closing) none text ∧ text.getLast? ≠ some '\\'

/-- Of the character before a text it matters only whether it is a backslash. -/
theorem accepts_isInside_iff {closing : Char} {text : List Char} {previous : Option Char}
    (h : previous ≠ some '\\') :
    Accepts (isInside closing) previous text ↔ Accepts (isInside closing) none text := by
  cases text with
  | nil => simp
  | cons x text => simp [accepts_cons, isInside, h]

theorem reads_scanTo {closing : Char} {s : String} :
    (scanTo closing).Reads c s d ↔ Between c s.toList d ∧
      Accepts (isInside closing) c.previous s.toList ∧ Ends (isInside closing) d := by
  rw [scanTo, reads_map_ofList, Parser.reads_many]
  exact Parser.repeats_satisfy

theorem or_previous_ne_backslash {text : List Char} {x : Char} (hx : x ≠ '\\') :
    text.getLast?.or (some x) ≠ some '\\' ↔ text.getLast? ≠ some '\\' := by
  cases text.getLast? <;> simp [hx]

/-- What is read between delimiters is what they can enclose. -/
theorem reads_delimited {opening closing : Char} (hopening : opening ≠ '\\') {s : String} :
    (delimited opening closing).Reads c s d ↔
      Between c (opening :: s.toList ++ [closing]) d ∧ IsEnclosable closing s.toList := by
  simp only [delimited, Parser.between, Parser.reads_atomic, Parser.reads_bind,
    Parser.reads_pure, Parser.reads_char, reads_scanTo]
  have hprevious : some opening ≠ some '\\' := by simpa using hopening
  constructor
  · rintro ⟨_, e, ⟨rfl, he⟩, _, f, ⟨hf, haccepts, hends⟩, _, _, ⟨rfl, hd⟩, rfl, rfl⟩
    rw [he.previous_eq] at haccepts
    -- The reader has stopped at the closing delimiter, so no backslash stands before it.
    have hlast : f.previous ≠ some '\\' := by
      have := hends _ (by rw [hd.rest_eq]; rfl)
      simpa [isInside] using this
    rw [hf.previous_eq, he.previous_eq] at hlast
    exact ⟨(he.append hf).append hd, (accepts_isInside_iff hprevious).mp haccepts,
      (or_previous_ne_backslash hopening).mp hlast⟩
  · rintro ⟨hbetween, haccepts, hlast⟩
    obtain ⟨f, hf, hd⟩ := between_append.mp hbetween
    obtain ⟨e, he, hf⟩ := between_append (s := [opening]).mp hf
    refine ⟨opening, e, ⟨rfl, he⟩, s, f, ⟨hf, ?_, ?_⟩, closing, d, ⟨rfl, hd⟩, rfl, rfl⟩
    · rw [he.previous_eq]
      exact (accepts_isInside_iff hprevious).mpr haccepts
    · apply hd.ends
      have : f.previous ≠ some '\\' := by
        rw [hf.previous_eq, he.previous_eq]
        exact (or_previous_ne_backslash hopening).mpr hlast
      simpa [isInside] using this

end Reroute.Parsing
