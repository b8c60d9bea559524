import Mathlib.Data.List.Basic
import Reroute.Proofs.Grammar.Lexical

/-!
# Reading expressions

The alternatives of an expression are told apart by how they begin, except that the
name of a call could begin with a number or a truth value; such names are never read.
So an expression is read exactly where one of its spellings stands, provided that what
follows does not continue it.

## Main definitions

* `Expression.EndsAt` — what follows does not continue an expression
* `Expression.Stands` — an expression without assignments stands between two places
* `Grammar.Understands` — a parser for the items of a list does its work
* `Grammar.Produces` — some text is read as an expression

## Main results

* `Grammar.reads_expression` — where expressions without assignments are read
* `Grammar.spelled_of_reads_fullExpression`, `Grammar.reads_fullExpression_of_spelled` — where
  expressions are read
* `Grammar.parseFull_fullExpression_iff_spelled` — exactly the well-formed expressions
  are read, from exactly their spellings
-/

set_option autoImplicit false

namespace Reroute

open Parsing Cursor Grammar

variable {c d : Cursor}

/-! ### Where expressions end and how they begin -/

namespace Expression

/-- Whether a character just behind an expression would be taken for a part of it. -/
def isExtendedBy : Expression → Char → Bool
  | literal (.number _), x => x.isDigit
  | literal _, _ => false
  | var _, x => isNameChar x
  | assign _ e, x => e.isExtendedBy x
  | call _ _, _ => false

/-- What stands at a place does not continue the expression. -/
def EndsAt (e : Expression) (c : Cursor) : Prop :=
  Ends (fun x _ => e.isExtendedBy x) c

/-- The expression, which has no assignments, stands between two places. -/
structure Stands (e : Expression) (c d : Cursor) : Prop where
  isOperand : e.IsOperand
  endsAt : e.EndsAt d
  spelled : ∃ t, e.Spelled t ∧ Between c t d

theorem isExtendedBy_le_isNameChar (e : Expression) {x : Char} (h : e.isExtendedBy x) :
    isNameChar x := by
  fun_induction isExtendedBy e x with
  | case1 => exact isNameChar_of_isDigit h
  | case2 => cases h
  | case3 => exact h
  | case4 _ _ _ ih => exact ih h
  | case5 => cases h

theorem endsAt_of_endsName (e : Expression) (h : EndsName c) : e.EndsAt c := by
  intro x hx
  by_contra hextends
  have := e.isExtendedBy_le_isNameChar (x := x) (by simpa using hextends)
  simp [h x hx] at this

/-- Whether an expression can begin with a character. -/
def isFirst (x : Char) : Bool :=
  x = '"' || x = ':' || isNameChar x

theorem isWhitespace_eq_false_of_isFirst {x : Char} (h : isFirst x) : isWhitespace x = false := by
  by_contra hblank
  simp only [isWhitespace, Bool.not_eq_false, Bool.or_eq_true, decide_eq_true_eq] at hblank
  rcases hblank with (rfl | rfl) | rfl <;> simp [isFirst, isNameChar] at h

theorem isFirst_of_isDigit {x : Char} (h : x.isDigit) : isFirst x := by
  simp [isFirst, isNameChar_of_isDigit h]

theorem exists_cons_of_isName {name : String} (h : IsName name) :
    ∃ x text, name.toList = x :: text ∧ isNameChar x := by
  obtain ⟨x, text, hx⟩ := List.exists_cons_of_ne_nil h.1
  exact ⟨x, text, hx, h.2 x (by simp [hx])⟩

/-- The first character of a spelling. -/
theorem Spelled.exists_cons {e : Expression} {t : List Char} (he : e.IsWellFormed)
    (h : e.Spelled t) : ∃ x u, t = x :: u ∧ isFirst x := by
  cases e with
  | literal v =>
    cases v with
    | text s => exact ⟨'"', s.toList ++ ['"'], h, rfl⟩
    | list items => exact (he : False).elim
    | number n =>
      obtain ⟨hne, hdigits, -⟩ := h
      obtain ⟨x, u, rfl⟩ := List.exists_cons_of_ne_nil hne
      exact ⟨x, u, rfl, isFirst_of_isDigit (hdigits x (by simp))⟩
    | bool b =>
      cases b with
      | true => exact ⟨'t', "rue".toList, h, rfl⟩
      | false => exact ⟨'f', "alse".toList, h, rfl⟩
  | var x => exact ⟨':', x.toList, h, rfl⟩
  | assign x e =>
    obtain ⟨w₁, w₂, u, -, -, -, rfl⟩ := h
    exact ⟨':', x.toList ++ w₁ ++ "<-".toList ++ w₂ ++ u, by simp, rfl⟩
  | call f args =>
    obtain ⟨x, text, hx, hname⟩ := exists_cons_of_isName he.1.isName
    obtain ⟨w₁, w₂, u, -, -, -, rfl⟩ := h
    exact ⟨x, text ++ ['('] ++ w₁ ++ u ++ w₂ ++ [')'], by simp [hx], by simp [isFirst, hname]⟩

/-- No white space stands where an expression begins. -/
theorem Spelled.endsBlank {e : Expression} {t : List Char} (he : e.IsWellFormed)
    (h : e.Spelled t) (hbetween : Between c t d) : EndsBlank c := by
  obtain ⟨x, u, rfl, hx⟩ := h.exists_cons he
  exact hbetween.ends (isWhitespace_eq_false_of_isFirst hx)

end Expression

open Expression

namespace Grammar

/-! ### Literals and variables -/

theorem reads_text_iff {e : Expression} :
    (stringLiteral.map fun s => Expression.literal (.text s)).Reads c e d ↔
      ∃ s, e = .literal (.text s) ∧ e.Stands c d := by
  rw [Parser.reads_map]
  simp only [stringLiteral, reads_delimited (show '"' ≠ '\\' by decide)]
  constructor
  · rintro ⟨s, ⟨hbetween, hs⟩, rfl⟩
    exact ⟨s, rfl, hs, fun _ _ => rfl, _, rfl, hbetween⟩
  · rintro ⟨s, rfl, hs, -, t, rfl, hbetween⟩
    exact ⟨s, ⟨hbetween, hs⟩, rfl⟩

theorem reads_numeral_iff {e : Expression} :
    (number.map fun n => Expression.literal (.number n)).Reads c e d ↔
      ∃ n, e = .literal (.number n) ∧ e.Stands c d := by
  rw [Parser.reads_map]
  simp only [reads_number]
  constructor
  · rintro ⟨n, ⟨t, hne, hbetween, hdigits, hends, hlt, rfl⟩, rfl⟩
    have hbound := Int64.toInt_maxValue
    have hvalue := Int64.toInt_ofNat_of_lt (n := Nat.ofDigitChars 10 t 0) (by omega)
    refine ⟨_, rfl, ?_, hends, t, ⟨hne, hdigits, hvalue.symm⟩, hbetween⟩
    simp only [IsOperand, Value.IsWellFormed, Int64.le_iff_toInt_le, Int64.toInt_zero, hvalue]
    omega
  · rintro ⟨n, rfl, -, hends, t, ⟨hne, hdigits, hvalue⟩, hbetween⟩
    refine ⟨n, ⟨t, hne, hbetween, hdigits, hends, ?_, ?_⟩, rfl⟩
    · rw [hvalue]
      exact n.toInt_le
    · rw [← Int64.ofInt_toInt n, ← hvalue, Int64.ofInt_eq_ofNat]

/-- A truth value is read wherever its letters stand. -/
theorem reads_boolean_iff {e : Expression} :
    boolean.Reads c e d ↔ ∃ b, e = .literal (.bool b) ∧ e.Stands c d := by
  have hstands (b : Bool) (h : Between c (toString b).toList d) :
      (Expression.literal (.bool b)).Stands c d := ⟨trivial, fun _ _ => rfl, _, rfl, h⟩
  simp only [boolean, Parser.reads_choice_cons, Parser.reads_choice_nil, and_false, or_false,
    Parser.reads_map, Parser.reads_string]
  constructor
  · rintro (⟨_, ⟨rfl, h⟩, rfl⟩ | ⟨-, _, ⟨rfl, h⟩, rfl⟩)
    · exact ⟨true, rfl, hstands true h⟩
    · exact ⟨false, rfl, hstands false h⟩
  · rintro ⟨b, rfl, -, -, t, rfl, h⟩
    cases b with
    | true => exact .inl ⟨"true", ⟨rfl, h⟩, rfl⟩
    | false =>
      refine .inr ⟨?_, "false", ⟨rfl, h⟩, rfl⟩
      intro e f hread
      obtain ⟨s, hs, -⟩ := Parser.reads_map.mp hread
      have hf := (Parser.reads_string.mp hs).2
      have heq := hf.rest_eq.symm.trans h.rest_eq
      simp [toString] at heq

theorem reads_reference_iff {e : Expression} :
    reference.Reads c e d ↔ ∃ x, e = .var x ∧ e.Stands c d := by
  simp only [reference, Parser.reads_atomic, Parser.reads_bind, Parser.reads_pure,
    Parser.reads_char, reads_name]
  constructor
  · rintro ⟨_, f, ⟨rfl, hf⟩, x, _, ⟨hbetween, hname, hends⟩, rfl, rfl⟩
    exact ⟨x, rfl, hname, hends, _, rfl, hf.append hbetween⟩
  · rintro ⟨x, rfl, hname, hends, t, rfl, hbetween⟩
    obtain ⟨f, hf, hbetween⟩ := between_append (s := [':']).mp hbetween
    exact ⟨':', f, ⟨rfl, hf⟩, x, d, ⟨hbetween, hname, hends⟩, rfl, rfl⟩

/-! ### Where alternatives fail -/

theorem failsAt_text_of_head? {x : Char} (h : c.rest.head? = some x) (hx : x ≠ '"') :
    (stringLiteral.map fun s => Expression.literal (.text s)).FailsAt c := by
  intro e d hread
  obtain ⟨s, rfl, -, -, t, rfl, hbetween⟩ := reads_text_iff.mp hread
  rw [hbetween.rest_eq] at h
  exact hx (by simpa using h.symm)

theorem failsAt_reference_of_head? {x : Char} (h : c.rest.head? = some x) (hx : x ≠ ':') :
    reference.FailsAt c := by
  intro e d hread
  obtain ⟨y, rfl, -, -, t, rfl, hbetween⟩ := reads_reference_iff.mp hread
  rw [hbetween.rest_eq] at h
  exact hx (by simpa using h.symm)

theorem failsAt_numeral_iff :
    (number.map fun n => Expression.literal (.number n)).FailsAt c ↔
      c.rest.takeWhile Char.isDigit = [] ∨
        Int64.maxValue.toInt < Nat.ofDigitChars 10 (c.rest.takeWhile Char.isDigit) 0 := by
  rw [Parser.failsAt_map, failsAt_number_iff]

theorem failsAt_numeral_of_head? {x : Char} (h : c.rest.head? = some x)
    (hx : x.isDigit = false) :
    (number.map fun n => Expression.literal (.number n)).FailsAt c := by
  refine failsAt_numeral_iff.mpr (.inl ?_)
  obtain ⟨rest, hrest⟩ := List.head?_eq_some_iff.mp h
  simp [hrest, hx]

theorem failsAt_boolean_iff :
    boolean.FailsAt c ↔ ¬"true".toList <+: c.rest ∧ ¬"false".toList <+: c.rest := by
  have hreads (b : Bool) : (∃ d, boolean.Reads c (.literal (.bool b)) d) ↔
      (toString b).toList <+: c.rest := by
    simp only [reads_boolean_iff]
    constructor
    · rintro ⟨d, b', hb, -, -, t, rfl, hbetween⟩
      exact ⟨d.rest, hbetween.rest_eq.symm⟩
    · rintro ⟨rest, hrest⟩
      obtain ⟨d, hd, -⟩ := exists_between hrest.symm
      exact ⟨d, b, rfl, trivial, fun _ _ => rfl, _, rfl, hd⟩
  constructor
  · intro h
    exact ⟨fun htrue => let ⟨d, hd⟩ := (hreads true).mpr htrue; h _ d hd,
      fun hfalse => let ⟨d, hd⟩ := (hreads false).mpr hfalse; h _ d hd⟩
  · rintro ⟨htrue, hfalse⟩ e d hread
    obtain ⟨b, rfl, -⟩ := reads_boolean_iff.mp hread
    cases b with
    | true => exact htrue ((hreads true).mp ⟨d, hread⟩)
    | false => exact hfalse ((hreads false).mp ⟨d, hread⟩)

theorem failsAt_boolean_of_head? {x : Char} (h : c.rest.head? = some x) (ht : x ≠ 't')
    (hf : x ≠ 'f') : boolean.FailsAt c := by
  obtain ⟨rest, hrest⟩ := List.head?_eq_some_iff.mp h
  rw [failsAt_boolean_iff, hrest]
  constructor
  · rintro ⟨s, hs⟩
    exact ht (by simpa using congrArg List.head? hs.symm)
  · rintro ⟨s, hs⟩
    exact hf (by simpa using congrArg List.head? hs.symm)

/-! ### Lists of expressions -/

/-- What follows is the end of an item in a list of expressions. -/
def IsSeparated (c : Cursor) : Prop :=
  ∃ sign ∈ [',', ')', '|'], StopsAt sign c

theorem IsSeparated.endsName (h : IsSeparated c) : EndsName c := by
  obtain ⟨sign, hsign, hstops⟩ := h
  have hname : ∀ x ∈ [',', ')', '|'], isNameChar x = false := by
    simp [isNameChar]
  exact endsName_of_stopsAt hstops (hname sign hsign)

/-- On texts with less than `n` characters left, `p` reads the expressions of a class
exactly where their spellings stand. -/
structure Understands (p : Parser Expression) (P : Expression → Prop) (n : Nat) : Prop where
  isWellFormed : ∀ {e}, P e → e.IsWellFormed
  sound : ∀ {c e d}, c.left < n → p.Reads c e d → P e ∧ ∃ t, e.Spelled t ∧ Between c t d
  complete : ∀ {c e d t}, c.left < n → P e → e.Spelled t → Between c t d →
    IsSeparated d → p.Reads c e d

section Lists

variable {p : Parser Expression} {P : Expression → Prop} {n : Nat}

theorem Understands.staysFrom (h : Understands p P n) (hc : c.left < n) :
    p.StaysFrom c := by
  intro d e f hd hread
  obtain ⟨-, t, -, hbetween⟩ := h.sound (Nat.lt_of_le_of_lt hd hc) hread
  exact hbetween.left_le

/-- No expression begins where white space or another sign stands. -/
theorem Understands.failsAt_of_head? (h : Understands p P n) (hc : c.left < n) {x : Char}
    (hx : c.rest.head? = some x) (hfirst : isFirst x = false) : p.FailsAt c := by
  intro e d hread
  obtain ⟨hP, t, ht, hbetween⟩ := h.sound hc hread
  obtain ⟨y, u, rfl, hy⟩ := ht.exists_cons (h.isWellFormed hP)
  rw [hbetween.rest_eq, List.cons_append, List.head?_cons, Option.some.injEq] at hx
  rw [hx, hfirst] at hy
  cases hy

theorem isSeparated_of_spelledMore {es : List Expression} {t : List Char} (ht : SpelledMore es t)
    (hbetween : Between c t d) (hd : IsSeparated d) : IsSeparated c := by
  cases es with
  | nil =>
    obtain rfl : t = [] := ht
    rwa [between_nil.mp hbetween]
  | cons e es =>
    obtain ⟨w₁, w₂, t, u, hw₁, -, -, -, rfl⟩ := ht
    exact ⟨',', by simp, w₁, w₂ ++ t ++ u ++ d.rest, hw₁, by simp [hbetween.rest_eq]⟩

theorem Understands.spelledMore_of_repeats (h : Understands p P n) (hc : c.left < n)
    {es : List Expression} (hrepeats : Parser.Repeats (Parser.behindSeparator p comma) c es d) :
    (∀ e ∈ es, P e) ∧ ∃ t, SpelledMore es t ∧ Between c t d := by
  induction hrepeats with
  | stop => exact ⟨by simp, [], rfl, rfl⟩
  | @next c f d e es read shorter _ ih =>
    obtain ⟨u, g, hcomma, hread⟩ := Parser.reads_bind.mp read
    obtain ⟨w₁, w₂, hw₁, hw₂, hbetween, -⟩ := reads_comma.mp hcomma
    have hg := consumes_comma c u g hcomma
    obtain ⟨hP, t, ht, hte⟩ := h.sound (by omega) hread
    obtain ⟨hPs, v, hv, hve⟩ := ih (by omega)
    refine ⟨List.forall_mem_cons.mpr ⟨hP, hPs⟩, _, ⟨w₁, w₂, t, v, hw₁, hw₂, ht, hv, rfl⟩, ?_⟩
    exact (hbetween.append hte).append hve

theorem Understands.repeats_of_spelledMore (h : Understands p P n) (hc : c.left < n)
    {es : List Expression} {t : List Char} (hP : ∀ e ∈ es, P e) (ht : SpelledMore es t)
    (hbetween : Between c t d) {sign : Char} (hsign : sign ∈ [')', '|']) (hd : StopsAt sign d) :
    Parser.Repeats (Parser.behindSeparator p comma) c es d := by
  induction es generalizing c t with
  | nil =>
    obtain rfl : t = [] := ht
    obtain rfl : c = d := hbetween
    have hsigns : ∀ x ∈ [')', '|'], isWhitespace x = false ∧ x ≠ ',' := by
      simp [isWhitespace]
    refine .stop fun e f hread => ?_
    obtain ⟨u, g, hcomma, -⟩ := Parser.reads_bind.mp hread
    exact absurd hcomma (failsAt_spaced_of hd (hsigns sign hsign).1 (hsigns sign hsign).2 u g)
  | cons e es ih =>
    obtain ⟨w₁, w₂, t, v, hw₁, hw₂, ht, hv, rfl⟩ := ht
    obtain ⟨f, hf, hvd⟩ := between_append.mp hbetween
    obtain ⟨g, hg, htf⟩ := between_append.mp hf
    have hPe := hP e (by simp)
    have hseparated : IsSeparated f :=
      isSeparated_of_spelledMore hv hvd ⟨sign, List.mem_cons_of_mem _ hsign, hd⟩
    -- The white space behind the comma ends where the next expression begins.
    have hcomma : comma.Reads c () g := by
      exact reads_comma.mpr ⟨w₁, w₂, hw₁, hw₂, hg, ht.endsBlank (h.isWellFormed hPe) htf⟩
    have hlt := consumes_comma c () g hcomma
    have hread := h.complete (Nat.lt_trans hlt hc) hPe ht htf hseparated
    have hle := htf.left_eq
    refine .next (Parser.reads_bind.mpr ⟨(), g, hcomma, hread⟩) (by omega) ?_
    exact ih (by omega) (fun e he => hP e (List.mem_cons_of_mem _ he)) hv hvd

end Lists

/-! ### Calls -/

section Calls

variable {argument : Parser Expression} {n : Nat} {args : List Expression}

/-- What is read as arguments has a spelling that stands there. -/
theorem Understands.spelledArgs_of_reads (h : Understands argument IsOperand n)
    (hc : c.left < n) (hread : (Parser.separatedBy argument comma).Reads c args d) :
    AreOperands args ∧ ∃ t, SpelledArgs args t ∧ Between c t d := by
  rcases (Parser.reads_separatedBy (h.staysFrom hc) consumes_comma).mp hread with
    ⟨rfl, rfl, -⟩ | ⟨e, es, f, rfl, hread, hrepeats⟩
  · exact ⟨trivial, [], rfl, rfl⟩
  · obtain ⟨he, t, ht, hte⟩ := h.sound hc hread
    have hf := hte.left_eq
    obtain ⟨hes, u, hu, hue⟩ := h.spelledMore_of_repeats (by omega) hrepeats
    exact ⟨⟨he, areOperands_iff.mpr hes⟩, _, ⟨t, u, ht, hu, rfl⟩, hte.append hue⟩

/-- One argument or more are read where a spelling stands, with white space around it. -/
theorem Understands.reads_separatedBy_cons (h : Understands argument IsOperand n)
    (hc : c.left < n) {e : Expression} {es : List Expression} {t : List Char}
    (hargs : AreOperands (e :: es)) (ht : SpelledArgs (e :: es) t) (hbetween : Between c t d)
    (hstops : StopsAt ')' d) :
    EndsBlank c ∧ (Parser.separatedBy argument comma).Reads c (e :: es) d := by
  obtain ⟨t, u, ht, hu, rfl⟩ := ht
  obtain ⟨f, hte, hue⟩ := between_append.mp hbetween
  obtain ⟨he, hes⟩ := hargs
  have hseparated : IsSeparated f := isSeparated_of_spelledMore hu hue ⟨')', by simp, hstops⟩
  have hread := h.complete hc he ht hte hseparated
  have hf := hte.left_eq
  have hrepeats := h.repeats_of_spelledMore (by omega) (areOperands_iff.mp hes) hu hue (by simp)
    hstops
  exact ⟨ht.endsBlank he.isWellFormed hte,
    (Parser.reads_separatedBy (h.staysFrom hc) consumes_comma).mpr
      (.inr ⟨e, es, f, rfl, hread, hrepeats⟩)⟩

/-- No argument is read in front of a closing parenthesis. -/
theorem Understands.reads_separatedBy_nil (h : Understands argument IsOperand n)
    (hc : c.left < n) (hclose : Between c [')'] d) :
    (Parser.separatedBy argument comma).Reads c [] c := by
  have hhead : c.rest.head? = some ')' := by rw [hclose.rest_eq]; rfl
  exact (Parser.reads_separatedBy (h.staysFrom hc) consumes_comma).mpr
    (.inl ⟨rfl, rfl, h.failsAt_of_head? hc hhead rfl⟩)

/-- Arguments are read wherever a spelling stands between white space and a parenthesis. -/
theorem Understands.exists_reads_args (h : Understands argument IsOperand n)
    (hc : c.left < n) (hargs : AreOperands args) {w₁ w₂ t : List Char}
    {c₁ c₂ c₃ : Cursor} (ht : SpelledArgs args t) (hblank₁ : IsBlank w₁) (hblank₂ : IsBlank w₂)
    (hw₁ : Between c w₁ c₁) (hbetween : Between c₁ t c₂) (hw₂ : Between c₂ w₂ c₃)
    (hclose : Between c₃ [')'] d) :
    ∃ u f v g, spaces.Reads c u f ∧ (Parser.separatedBy argument comma).Reads f args g ∧
      spaces.Reads g v c₃ := by
  have hends : EndsBlank c₃ := hclose.ends rfl
  have hc₁ := hw₁.left_eq
  cases args with
  | nil =>
    -- All white space is read before the arguments that are not there.
    obtain rfl : t = [] := ht
    obtain rfl : c₁ = c₂ := hbetween
    have hc₃ := hw₂.left_eq
    refine ⟨String.ofList (w₁ ++ w₂), c₃, "", c₃, reads_spaces.mpr ?_,
      h.reads_separatedBy_nil (by omega) hclose, reads_spaces.mpr ⟨rfl, isBlank_nil, hends⟩⟩
    rw [String.toList_ofList]
    exact ⟨hw₁.append hw₂, List.forall_mem_append.mpr ⟨hblank₁, hblank₂⟩, hends⟩
  | cons e es =>
    have hstops : StopsAt ')' c₂ :=
      ⟨w₂, d.rest, hblank₂, by simp [hw₂.rest_eq, hclose.rest_eq]⟩
    obtain ⟨hends₁, hread⟩ := h.reads_separatedBy_cons (by omega) hargs ht hbetween hstops
    refine ⟨String.ofList w₁, c₁, String.ofList w₂, c₂, reads_spaces.mpr ?_, hread,
      reads_spaces.mpr ?_⟩
    · rw [String.toList_ofList]
      exact ⟨hw₁, hblank₁, hends₁⟩
    · rw [String.toList_ofList]
      exact ⟨hw₂, hblank₂, hends⟩

/-- A call is read wherever one of its spellings stands. -/
theorem reads_callOf (h : Understands argument IsOperand c.left) {f : String} :
    (callOf argument).Reads c (f, args) d ↔ IsName f ∧ AreOperands args ∧
      ∃ t, (Expression.call f args).Spelled t ∧ Between c t d := by
  simp only [callOf, Parser.reads_atomic, Parser.reads_bind, Parser.reads_pure,
    Parser.reads_char, reads_name]
  constructor
  · rintro ⟨_, c₁, ⟨hf, hname, -⟩, _, c₂, ⟨rfl, hopen⟩, w₁, c₃, hspaces₁, _, c₄, hargs,
      w₂, c₅, hspaces₂, _, _, ⟨rfl, hclose⟩, ⟨rfl, rfl⟩, rfl⟩
    obtain ⟨hw₁, hblank₁, -⟩ := reads_spaces.mp hspaces₁
    obtain ⟨hw₂, hblank₂, -⟩ := reads_spaces.mp hspaces₂
    -- The arguments stand behind the parenthesis, where less of the text is left.
    have hc₃ : c₃.left < c.left :=
      ((hf.append hopen).append hw₁).left_lt_iff.mpr (by simp)
    obtain ⟨hoperands, t, ht, hbetween⟩ := h.spelledArgs_of_reads hc₃ hargs
    refine ⟨hname, hoperands, _, ⟨w₁.toList, w₂.toList, t, hblank₁, hblank₂, ht, rfl⟩, ?_⟩
    exact ((((hf.append hopen).append hw₁).append hbetween).append hw₂).append hclose
  · rintro ⟨hname, hargs, _, ⟨w₁, w₂, t, hblank₁, hblank₂, ht, rfl⟩, hbetween⟩
    obtain ⟨c₅, hbetween, hclose⟩ := between_append.mp hbetween
    obtain ⟨c₄, hbetween, hw₂⟩ := between_append.mp hbetween
    obtain ⟨c₃, hbetween, ht'⟩ := between_append.mp hbetween
    obtain ⟨c₂, hbetween, hw₁⟩ := between_append.mp hbetween
    obtain ⟨c₁, hf, hopen⟩ := between_append.mp hbetween
    have hc₂ : c₂.left < c.left := hbetween.left_lt_iff.mpr (by simp)
    obtain ⟨u, c₃', v, c₄', hspaces₁, hread, hspaces₂⟩ :=
      h.exists_reads_args hc₂ hargs ht hblank₁ hblank₂ hw₁ ht' hw₂ hclose
    exact ⟨f, c₁, ⟨hf, hname, hopen.ends rfl⟩, '(', c₂, ⟨rfl, hopen⟩, u, c₃', hspaces₁, args, c₄',
      hread, v, c₅, hspaces₂, ')', d, ⟨rfl, hclose⟩, rfl, rfl⟩

end Calls

/-! ### Expressions -/

theorem isPrefix_of_not_mem {α : Type} {p s r : List α} {x : α} (h : p <+: s ++ x :: r)
    (hx : x ∉ p) : p <+: s := by
  by_cases hle : p.length ≤ s.length
  · exact List.prefix_of_prefix_length_le h (List.prefix_append s _) hle
  · have hs : s ++ [x] <+: p :=
      List.prefix_of_prefix_length_le ⟨r, by simp⟩ h (by rw [List.length_append]; simp; omega)
    exact absurd (hs.subset (by simp)) hx

/-- In front of a parenthesis neither a number nor a truth value is read, exactly if the
name there is that of a function. -/
theorem isFunctionName_iff {f : String} {rest : List Char} (hf : IsName f)
    (hc : c.rest = f.toList ++ '(' :: rest) :
    IsFunctionName f ↔
      (number.map fun n => Expression.literal (.number n)).FailsAt c ∧ boolean.FailsAt c := by
  rw [failsAt_numeral_iff, failsAt_boolean_iff, hc, Text.takeWhile_append_cons_of_neg rfl]
  -- What is read in place of the name may not reach beyond the parenthesis.
  constructor
  · rintro ⟨-, htrue, hfalse, hnumber⟩
    exact ⟨hnumber, fun h => htrue (isPrefix_of_not_mem h (by decide)),
      fun h => hfalse (isPrefix_of_not_mem h (by decide))⟩
  · rintro ⟨hnumber, htrue, hfalse⟩
    exact ⟨hf, fun h => htrue (h.trans (List.prefix_append _ _)),
      fun h => hfalse (h.trans (List.prefix_append _ _)), hnumber⟩

theorem reads_call_iff {argument : Parser Expression} {e : Expression} :
    ((callOf argument).map fun (function, args) => Expression.call function args).Reads c e d ↔
      ∃ f args, e = .call f args ∧ (callOf argument).Reads c (f, args) d := by
  rw [Parser.reads_map]
  constructor
  · rintro ⟨⟨f, args⟩, hread, rfl⟩
    exact ⟨f, args, rfl, hread⟩
  · rintro ⟨f, args, rfl, hread⟩
    exact ⟨(f, args), hread, rfl⟩

/-- What is read before the alternatives end is an expression that stands there. -/
theorem stands_of_reads_expressionOf {argument : Parser Expression}
    (h : Understands argument IsOperand c.left) {e : Expression}
    (hread : (expressionOf argument).Reads c e d) : e.Stands c d := by
  simp only [expressionOf, Parser.reads_choice_cons, Parser.reads_choice_nil, and_false,
    or_false] at hread
  rcases hread with hread | ⟨-, hread | ⟨hnumber, hread | ⟨hboolean, hread | ⟨-, hread⟩⟩⟩⟩
  · obtain ⟨s, rfl, hstands⟩ := reads_text_iff.mp hread
    exact hstands
  · obtain ⟨n, rfl, hstands⟩ := reads_numeral_iff.mp hread
    exact hstands
  · obtain ⟨b, rfl, hstands⟩ := reads_boolean_iff.mp hread
    exact hstands
  · obtain ⟨x, rfl, hstands⟩ := reads_reference_iff.mp hread
    exact hstands
  · obtain ⟨f, args, rfl, hcall⟩ := reads_call_iff.mp hread
    obtain ⟨hname, hargs, t, ht, hbetween⟩ := (reads_callOf h).mp hcall
    -- The alternatives before calls have failed here, which says what the name is not.
    have hf : IsFunctionName f := by
      obtain ⟨w₁, w₂, u, -, -, -, rfl⟩ := ht
      have hrest : c.rest = f.toList ++ '(' :: (w₁ ++ u ++ w₂ ++ ')' :: d.rest) := by
        simp [hbetween.rest_eq]
      exact (isFunctionName_iff hname hrest).mpr ⟨hnumber, hboolean⟩
    exact ⟨⟨hf, hargs⟩, fun _ _ => rfl, t, ht, hbetween⟩

/-- Where an expression stands, no earlier alternative takes it for something else. -/
theorem reads_expressionOf_of_stands {argument : Parser Expression}
    (h : Understands argument IsOperand c.left) {e : Expression} (he : e.Stands c d) :
    (expressionOf argument).Reads c e d := by
  simp only [expressionOf, Parser.reads_choice_cons, Parser.reads_choice_nil, and_false,
    or_false]
  obtain ⟨t, ht, hbetween⟩ := he.spelled
  -- The first character tells most alternatives apart, and the name of a function the rest.
  cases e with
  | literal v =>
    cases v with
    | text s => exact .inl (reads_text_iff.mpr ⟨s, rfl, he⟩)
    | list items => exact he.isOperand.elim
    | number n =>
      refine .inr ⟨?_, .inl (reads_numeral_iff.mpr ⟨n, rfl, he⟩)⟩
      obtain ⟨hne, hdigits, -⟩ := ht
      obtain ⟨x, u, rfl⟩ := List.exists_cons_of_ne_nil hne
      refine failsAt_text_of_head? (x := x) (by rw [hbetween.rest_eq]; rfl) ?_
      rintro rfl
      exact absurd (hdigits '"' (by simp)) (by decide)
    | bool b =>
      refine .inr ⟨?_, .inr ⟨?_, .inl (reads_boolean_iff.mpr ⟨b, rfl, he⟩)⟩⟩
      all_goals
        obtain rfl : t = (toString b).toList := ht
        have hrest := hbetween.rest_eq
      · cases b with
        | true => exact failsAt_text_of_head? (x := 't') (by rw [hrest]; rfl) (by decide)
        | false => exact failsAt_text_of_head? (x := 'f') (by rw [hrest]; rfl) (by decide)
      · cases b with
        | true => exact failsAt_numeral_of_head? (x := 't') (by rw [hrest]; rfl) rfl
        | false => exact failsAt_numeral_of_head? (x := 'f') (by rw [hrest]; rfl) rfl
  | var x =>
    obtain rfl : t = ':' :: x.toList := ht
    have hhead : c.rest.head? = some ':' := by rw [hbetween.rest_eq]; rfl
    refine .inr ⟨failsAt_text_of_head? hhead (by decide), .inr
      ⟨failsAt_numeral_of_head? hhead rfl, .inr
        ⟨failsAt_boolean_of_head? hhead (by decide) (by decide), .inl ?_⟩⟩⟩
    exact reads_reference_iff.mpr ⟨x, rfl, he⟩
  | assign x e => exact he.isOperand.elim
  | call f args =>
    obtain ⟨hf, hargs⟩ := he.isOperand
    obtain ⟨x, u, hx, hxname⟩ := exists_cons_of_isName hf.isName
    have hread := (reads_callOf h).mpr ⟨hf.isName, hargs, t, ht, hbetween⟩
    obtain ⟨w₁, w₂, v, -, -, -, rfl⟩ := ht
    have hrest : c.rest = f.toList ++ '(' :: (w₁ ++ v ++ w₂ ++ ')' :: d.rest) := by
      simp [hbetween.rest_eq]
    obtain ⟨hnumber, hboolean⟩ := (isFunctionName_iff hf.isName hrest).mp hf
    have hhead : c.rest.head? = some x := by simp [hbetween.rest_eq, hx]
    refine .inr ⟨failsAt_text_of_head? hhead ?_, .inr ⟨hnumber, .inr ⟨hboolean, .inr
      ⟨failsAt_reference_of_head? hhead ?_, reads_call_iff.mpr ⟨f, args, rfl, hread⟩⟩⟩⟩⟩
    all_goals
      rintro rfl
      exact absurd hxname (by decide)

/-- An expression without assignments is read exactly where it stands. -/
theorem reads_expression {e : Expression} : expression.Reads c e d ↔ e.Stands c d := by
  -- Arguments begin further on in the text, so they are covered by the induction.
  induction hn : c.left using Nat.strongRecOn generalizing c d e with
  | ind n ih =>
    subst hn
    have hargument : Understands (expression.restrict c.left) IsOperand
        c.left := by
      refine ⟨IsOperand.isWellFormed, fun hlt hread => ?_, fun hlt he ht hbetween hd => ?_⟩
      · have hstands := (ih _ hlt rfl).mp (Parser.reads_restrict.mp hread).2
        exact ⟨hstands.isOperand, hstands.spelled⟩
      · refine Parser.reads_restrict.mpr ⟨hlt, (ih _ hlt rfl).mpr ?_⟩
        exact ⟨he, endsAt_of_endsName _ hd.endsName, _, ht, hbetween⟩
    rw [expression, Parser.reads_fix]
    exact ⟨stands_of_reads_expressionOf hargument, reads_expressionOf_of_stands hargument⟩

theorem understands_expression (n : Nat) : Understands expression IsOperand n where
  isWellFormed := IsOperand.isWellFormed
  sound _ hread :=
    let hstands := reads_expression.mp hread
    ⟨hstands.isOperand, hstands.spelled⟩
  complete _ he ht hbetween hd :=
    reads_expression.mpr ⟨he, endsAt_of_endsName _ hd.endsName, _, ht, hbetween⟩

/-! ### Assignments -/

/-- An assignment is read wherever one of its spellings stands. -/
theorem reads_assignment {x : String} {e : Expression} :
    assignment.Reads c (x, e) d ↔ IsName x ∧ e.IsOperand ∧ e.EndsAt d ∧
      ∃ t, (Expression.assign x e).Spelled t ∧ Between c t d := by
  simp only [assignment, Parser.reads_atomic, Parser.reads_bind, Parser.reads_pure,
    Parser.reads_char, Parser.reads_string, reads_name, reads_spaces, reads_expression]
  constructor
  · rintro ⟨_, c₁, ⟨rfl, hcolon⟩, x, c₂, ⟨hx, hname, -⟩, w₁, c₃, ⟨hw₁, hblank₁, -⟩, _, c₄,
      ⟨rfl, harrow⟩, w₂, c₅, ⟨hw₂, hblank₂, -⟩, e, _, ⟨he, hends, t, ht, hbetween⟩, ⟨rfl, rfl⟩,
      rfl⟩
    refine ⟨hname, he, hends, _, ⟨w₁.toList, w₂.toList, t, hblank₁, hblank₂, ht, rfl⟩, ?_⟩
    exact ((((hcolon.append hx).append hw₁).append harrow).append hw₂).append hbetween
  · rintro ⟨hname, he, hends, _, ⟨w₁, w₂, t, hblank₁, hblank₂, ht, rfl⟩, hbetween⟩
    obtain ⟨c₅, hbetween, ht'⟩ := between_append.mp hbetween
    obtain ⟨c₄, hbetween, hw₂⟩ := between_append.mp hbetween
    obtain ⟨c₃, hbetween, harrow⟩ := between_append.mp hbetween
    obtain ⟨c₂, hbetween, hw₁⟩ := between_append.mp hbetween
    obtain ⟨c₁, hcolon, hx⟩ := between_append (s := [':']).mp hbetween
    -- Blanks and an arrow end the name.
    have hstops : StopsAt '<' c₂ :=
      ⟨w₁, '-' :: c₄.rest, hblank₁, by simp [hw₁.rest_eq, harrow.rest_eq]⟩
    have hends₁ : EndsBlank c₃ := harrow.ends rfl
    have hends₂ : EndsBlank c₅ := ht.endsBlank he.isWellFormed ht'
    refine ⟨':', c₁, ⟨rfl, hcolon⟩, x, c₂, ⟨hx, hname, endsName_of_stopsAt hstops rfl⟩,
      String.ofList w₁, c₃, ⟨?_, ?_, hends₁⟩, "<-", c₄, ⟨rfl, harrow⟩,
      String.ofList w₂, c₅, ⟨?_, ?_, hends₂⟩, e, d, ⟨he, hends, t, ht, ht'⟩, rfl, rfl⟩
    all_goals rwa [String.toList_ofList]

/-- An assignment begins with a variable and an arrow. -/
theorem stands_var_of_reads_assignment {x : String} {e : Expression}
    (h : assignment.Reads c (x, e) d) : ∃ f, (Expression.var x).Stands c f ∧ StopsAt '<' f := by
  simp only [assignment, Parser.reads_atomic, Parser.reads_bind, Parser.reads_pure,
    Parser.reads_char, Parser.reads_string, reads_name, reads_spaces] at h
  obtain ⟨_, c₁, ⟨rfl, hcolon⟩, x, c₂, ⟨hx, hname, hends⟩, w, c₃, ⟨hw, hblank, -⟩, _, c₄,
    ⟨rfl, harrow⟩, _, _, -, _, _, -, ⟨rfl, rfl⟩, rfl⟩ := h
  refine ⟨c₂, ⟨hname, hends, _, rfl, hcolon.append hx⟩, w.toList, '-' :: c₄.rest, hblank, ?_⟩
  simp [hw.rest_eq, harrow.rest_eq]

/-- An expression without assignments is not taken for one if no arrow follows. -/
theorem failsAt_assignment_of_stands {e : Expression} (he : e.Stands c d)
    (hd : ¬StopsAt '<' d) : assignment.FailsAt c := by
  rintro ⟨x, e'⟩ f hread
  -- The variable before the arrow would be the expression itself.
  obtain ⟨g, hvar, hstops⟩ := stands_var_of_reads_assignment hread
  obtain ⟨-, rfl⟩ := (reads_expression.mpr he).unique (reads_expression.mpr hvar)
  exact hd hstops

/-! ### Full expressions -/

theorem reads_fullExpression {e : Expression} :
    fullExpression.Reads c e d ↔ (∃ x v, e = .assign x v ∧ assignment.Reads c (x, v) d) ∨
      assignment.FailsAt c ∧ e.Stands c d := by
  simp only [fullExpression, Parser.reads_choice_cons, Parser.reads_choice_nil, and_false,
    or_false, Parser.failsAt_map, reads_expression, Parser.reads_map]
  refine or_congr_left ⟨?_, ?_⟩
  · rintro ⟨⟨x, v⟩, hread, rfl⟩
    exact ⟨x, v, rfl, hread⟩
  · rintro ⟨x, v, rfl, hread⟩
    exact ⟨(x, v), hread, rfl⟩

/-- What is read is well formed, and one of its spellings stands there. -/
theorem spelled_of_reads_fullExpression {e : Expression} (h : fullExpression.Reads c e d) :
    e.IsWellFormed ∧ ∃ t, e.Spelled t ∧ Between c t d := by
  rcases reads_fullExpression.mp h with ⟨x, v, rfl, hread⟩ | ⟨-, hstands⟩
  · obtain ⟨hx, hv, -, hspelled⟩ := reads_assignment.mp hread
    exact ⟨⟨hx, hv⟩, hspelled⟩
  · exact ⟨hstands.isOperand.isWellFormed, hstands.spelled⟩

theorem reads_fullExpression_of_spelled {e : Expression} {t : List Char} (he : e.IsWellFormed)
    (ht : e.Spelled t) (hbetween : Between c t d) (hends : e.EndsAt d) (harrow : ¬StopsAt '<' d) :
    fullExpression.Reads c e d := by
  have hstands (h : e.IsOperand) : fullExpression.Reads c e d := by
    have hstands : e.Stands c d := ⟨h, hends, t, ht, hbetween⟩
    exact reads_fullExpression.mpr (.inr ⟨failsAt_assignment_of_stands hstands harrow, hstands⟩)
  cases e with
  | assign x v =>
    exact reads_fullExpression.mpr
      (.inl ⟨x, v, rfl, reads_assignment.mpr ⟨he.1, he.2, hends, t, ht, hbetween⟩⟩)
  | literal | var | call => exact hstands he

theorem understands_fullExpression (n : Nat) : Understands fullExpression IsWellFormed n where
  isWellFormed := id
  sound _ := spelled_of_reads_fullExpression
  complete _ he ht hbetween hd := by
    refine reads_fullExpression_of_spelled he ht hbetween (endsAt_of_endsName _ hd.endsName) ?_
    obtain ⟨sign, hsign, hstops⟩ := hd
    have hsigns : ∀ x ∈ [',', ')', '|'], isWhitespace x = false ∧ x ≠ '<' := by
      simp [isWhitespace]
    intro harrow
    exact (hsigns sign hsign).2 (hstops.unique harrow (hsigns sign hsign).1 rfl)

/-- Exactly the well-formed expressions are read, from exactly their spellings. -/
theorem parseFull_fullExpression_iff_spelled {e : Expression} {s : String} :
    fullExpression.parseFull s = .ok e ↔ e.IsWellFormed ∧ e.Spelled s.toList := by
  rw [Parser.parseFull_eq_ok_iff]
  constructor
  · rintro ⟨d, hread, hd⟩
    obtain ⟨he, t, ht, hbetween⟩ := spelled_of_reads_fullExpression hread
    obtain rfl : s.toList = t := by simpa [hd, start] using hbetween.rest_eq
    exact ⟨he, ht⟩
  · rintro ⟨he, ht⟩
    obtain ⟨d, hbetween, hd⟩ := exists_between (c := start s) (List.append_nil s.toList).symm
    refine ⟨d, reads_fullExpression_of_spelled he ht hbetween (fun x hx => ?_) ?_, hd⟩
    · simp [hd] at hx
    · rintro ⟨w, rest, -, hrest⟩
      simp [hd] at hrest

/-- Some text is read as the expression. -/
def Produces (e : Expression) : Prop :=
  ∃ s, fullExpression.parseFull s = .ok e

/-- An expression can be written down exactly if some text is read as it, as its print is. -/
theorem produces_iff_isWellFormed {e : Expression} : Produces e ↔ e.IsWellFormed := by
  constructor
  · rintro ⟨s, hs⟩
    exact (parseFull_fullExpression_iff_spelled.mp hs).1
  · intro he
    exact ⟨e.print, parseFull_fullExpression_iff_spelled.mpr ⟨he, spelled_print he⟩⟩

/-- The grammar of expressions accepts exactly what can be printed, in any layout. -/
theorem fullExpression_accepts_spellings (e : Expression) :
    (∀ s, fullExpression.parseFull s = .ok e → e.IsWellFormed ∧ e.Spelled s.toList) ∧
      (e.IsWellFormed → fullExpression.parseFull e.print = .ok e ∧
        ∀ s : String, e.Spelled s.toList → fullExpression.parseFull s = .ok e) := by
  refine ⟨fun s h => parseFull_fullExpression_iff_spelled.mp h, fun he => ⟨?_, fun s hs => ?_⟩⟩
  · exact parseFull_fullExpression_iff_spelled.mpr ⟨he, spelled_print he⟩
  · exact parseFull_fullExpression_iff_spelled.mpr ⟨he, hs⟩

/-- White space around the arguments of a call, and a name that begins with a digit. -/
theorem fullExpression_accepts_call :
    fullExpression.parseFull "f-9( :2a ,\t007)" =
      .ok (.call "f-9" [.var "2a", .literal (.number 7)]) := by
  have hf : IsFunctionName "f-9" := ⟨by decide, by decide, by decide, .inl (by decide)⟩
  have hargs : AreOperands [.var "2a", .literal (.number 7)] :=
    ⟨show IsName "2a" by decide, show (0 : Int64) ≤ 7 by decide, trivial⟩
  have hdigits : ∀ x ∈ "007".toList, x.isDigit := List.all_eq_true.mp (by decide)
  have hspelled : SpelledArgs [.var "2a", .literal (.number 7)] ":2a ,\t007".toList :=
    ⟨":2a".toList, " ,\t007".toList, rfl,
      ⟨[' '], ['\t'], "007".toList, [], by decide, by decide, ⟨by decide, hdigits, by decide⟩,
        rfl, rfl⟩, rfl⟩
  exact ((fullExpression_accepts_spellings (.call "f-9" [.var "2a", .literal (.number 7)])).2
    ⟨hf, hargs⟩).2 _ ⟨[' '], [], _, by decide, by decide, hspelled, rfl⟩

end Grammar

end Reroute
