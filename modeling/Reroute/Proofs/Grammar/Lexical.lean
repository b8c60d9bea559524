import Mathlib.Data.List.Basic
import Reroute.Proofs.Grammar.Spelling
import Reroute.Proofs.Parsing.Separation

/-!
# What names, patterns and commas look like

The small parts of the rule language, and the signs that end what stands before them.

## Main definitions

* `Parsing.StopsAt` — the next character that is not white space is a given one
* `Grammar.EndsName` — what follows does not continue a name
* `Grammar.spaced` — a sign in white space

## Main results

* `Grammar.reads_name`, `Grammar.reads_pattern`, `Grammar.reads_spaced` — which texts
  are read
-/

set_option autoImplicit false

namespace Reroute

open Parsing Cursor

variable {c d : Cursor}

namespace Parsing

/-- The next character that is not white space is `sign`. -/
def StopsAt (sign : Char) (c : Cursor) : Prop :=
  ∃ w rest, IsBlank w ∧ c.rest = w ++ sign :: rest

theorem StopsAt.head? {sign : Char} (h : StopsAt sign c) {x : Char}
    (hx : c.rest.head? = some x) : isWhitespace x ∨ x = sign := by
  obtain ⟨w, rest, hw, hrest⟩ := h
  rw [hrest] at hx
  cases w with
  | nil => exact .inr (by simpa using hx.symm)
  | cons y w =>
    obtain rfl : y = x := by simpa using hx
    exact .inl (hw y (by simp))

/-- A sign and the white space before it end whatever they do not continue. -/
theorem StopsAt.ends {sign : Char} {f : Char → Bool} (h : StopsAt sign c) (hsign : f sign = false)
    (hblank : ∀ x, isWhitespace x → f x = false) : Ends (fun x _ => f x) c := by
  intro x hx
  rcases h.head? hx with hx | rfl
  · exact hblank x hx
  · exact hsign

/-- White space before a sign is read up to it. -/
theorem StopsAt.exists_spaces {sign : Char} (h : StopsAt sign c)
    (hsign : isWhitespace sign = false) :
    ∃ s d rest, spaces.Reads c s d ∧ d.rest = sign :: rest := by
  obtain ⟨w, rest, hw, hrest⟩ := h
  obtain ⟨d, hreads, -, hd⟩ := exists_reads_spaces hrest hw (by simpa using hsign)
  exact ⟨_, d, rest, hreads, hd⟩

theorem StopsAt.unique {x y : Char} (hx : StopsAt x c) (hy : StopsAt y c)
    (hx' : isWhitespace x = false) (hy' : isWhitespace y = false) : x = y := by
  obtain ⟨s, e, rest, hs, hrest⟩ := hx.exists_spaces hx'
  obtain ⟨s', e', rest', hs', hrest'⟩ := hy.exists_spaces hy'
  obtain ⟨-, rfl⟩ := hs.unique hs'
  exact (List.cons.inj (hrest.symm.trans hrest')).1

/-- A sign that is read must be there. -/
theorem failsAt_char_of_head? {x y : Char} (h : c.rest.head? = some y) (hne : y ≠ x) :
    (char x).FailsAt c := by
  intro v d hreads
  obtain ⟨-, hd⟩ := Parser.reads_char.mp hreads
  rw [hd.rest_eq] at h
  exact hne (by simpa using h.symm)

end Parsing

namespace Grammar

theorem isNameChar_of_isDigit {x : Char} (h : x.isDigit) : isNameChar x := by
  simp [isNameChar, Char.isAlphanum, h]

theorem isNameChar_eq_false_of_isWhitespace {x : Char} (h : isWhitespace x) :
    isNameChar x = false := by
  simp only [isWhitespace, Bool.or_eq_true, decide_eq_true_eq] at h
  rcases h with (rfl | rfl) | rfl <;> rfl

/-- What stands at a place does not continue a name. -/
abbrev EndsName (c : Cursor) : Prop :=
  Ends (fun x _ => isNameChar x) c

theorem endsName_of_stopsAt {sign : Char} (h : StopsAt sign c)
    (hsign : isNameChar sign = false) : EndsName c :=
  h.ends hsign fun _ => isNameChar_eq_false_of_isWhitespace

theorem reads_name {s : String} :
    name.Reads c s d ↔ Between c s.toList d ∧ IsName s ∧ EndsName d := by
  rw [name, reads_map_ofList, Parser.reads_many1_satisfy, accepts_iff_forall]
  simp only [IsName]
  tauto

theorem reads_pattern {s : String} :
    pattern.Reads c s d ↔
      Between c ('(' :: s.toList ++ [')']) d ∧ IsEnclosable ')' s.toList :=
  reads_delimited (by decide)

/-! ### Signs in white space -/

/-- A sign in any amount of white space. -/
def spaced (sign : Char) : Parser Unit := do
  let _ ← spaces
  let _ ← char sign
  let _ ← spaces
  return ()

theorem reads_spaced {sign : Char} (hsign : isWhitespace sign = false) {u : Unit} :
    (spaced sign).Reads c u d ↔ ∃ w₁ w₂, IsBlank w₁ ∧ IsBlank w₂ ∧
      Between c (w₁ ++ [sign] ++ w₂) d ∧ EndsBlank d := by
  simp only [spaced, Parser.reads_bind, Parser.reads_pure, reads_spaces, Parser.reads_char]
  constructor
  · rintro ⟨s, e, ⟨hs, hblank, -⟩, _, f, ⟨rfl, hf⟩, t, g, ⟨ht, hblank', hends⟩, -, rfl⟩
    exact ⟨s.toList, t.toList, hblank, hblank', (hs.append hf).append ht, hends⟩
  · rintro ⟨w₁, w₂, hw₁, hw₂, hbetween, hends⟩
    obtain ⟨f, hf, ht⟩ := between_append.mp hbetween
    obtain ⟨e, he, hf⟩ := between_append.mp hf
    refine ⟨String.ofList w₁, e, ⟨?_, ?_, hf.ends hsign⟩, sign, f, ⟨rfl, hf⟩, String.ofList w₂, d,
      ⟨?_, ?_, hends⟩, trivial, rfl⟩
    all_goals rwa [String.toList_ofList]

theorem consumes_spaced {sign : Char} (hsign : isWhitespace sign = false) :
    (spaced sign).Consumes := by
  intro c u d h
  obtain ⟨w₁, w₂, -, -, hbetween, -⟩ := (reads_spaced hsign).mp h
  exact hbetween.left_lt_iff.mpr (by simp)

/-- No sign is read where another comes next. -/
theorem failsAt_spaced_of {sign other : Char} (h : StopsAt other c)
    (hother : isWhitespace other = false) (hne : other ≠ sign) : (spaced sign).FailsAt c := by
  intro u d hreads
  simp only [spaced, Parser.reads_bind] at hreads
  obtain ⟨s, e, hs, x, f, hx, -⟩ := hreads
  obtain ⟨s', e', rest, hs', he'⟩ := h.exists_spaces hother
  obtain ⟨-, rfl⟩ := hs.unique hs'
  exact failsAt_char_of_head? (by rw [he']; rfl) hne x f hx

/-- A sign and the white space around it are read up to the first other character. -/
theorem exists_reads_spaced {sign : Char} (hsign : isWhitespace sign = false)
    {w₁ w₂ rest : List Char} (hw₁ : IsBlank w₁) (hw₂ : IsBlank w₂)
    (hc : c.rest = w₁ ++ [sign] ++ w₂ ++ rest)
    (hrest : ∀ x, rest.head? = some x → isWhitespace x = false) :
    ∃ d, (spaced sign).Reads c () d ∧ d.rest = rest := by
  obtain ⟨d, hbetween, rfl⟩ := exists_between hc
  exact ⟨d, (reads_spaced hsign).mpr ⟨w₁, w₂, hw₁, hw₂, hbetween, hrest⟩, rfl⟩

theorem reads_comma {u : Unit} :
    comma.Reads c u d ↔ ∃ w₁ w₂, IsBlank w₁ ∧ IsBlank w₂ ∧ Between c (w₁ ++ [','] ++ w₂) d ∧
      EndsBlank d :=
  reads_spaced rfl

theorem consumes_comma : comma.Consumes :=
  consumes_spaced rfl

end Grammar

end Reroute
