import Mathlib.Data.List.Basic
import Reroute.Proofs.Grammar.Expression

/-!
# Where parentheses are closed

Behind the name of a variable an opening parenthesis begins a pattern if anywhere later
in the text, no matter where, a parenthesis is closed. So what a variable is read as
depends on all that follows. Printing changes what follows, but it never adds a closing
parenthesis that was not there.

## Main definitions

* `Grammar.NeverCloses` — no closing parenthesis in a text ends a pattern
* `Grammar.StaysOpen` — no closing parenthesis later in the text ends a pattern

## Main results

* `Grammar.exists_reads_pattern_iff` — where patterns are read
* `Expression.Spelled.neverCloses` — if one spelling of an expression closes a parenthesis
  then every spelling does
-/

set_option autoImplicit false

namespace Reroute

open Parsing Cursor

variable {c d : Cursor} {s t : List Char}

namespace Grammar

/-- Every closing parenthesis in the text has a backslash just before it. -/
def NeverCloses (text : List Char) : Prop :=
  Accepts (isInside ')') none text

/-- Every closing parenthesis from a place on has a backslash just before it. -/
def StaysOpen (c : Cursor) : Prop :=
  Accepts (isInside ')') c.previous c.rest

theorem NeverCloses.accepts (h : NeverCloses t) (previous : Option Char) :
    Accepts (isInside ')') previous t := by
  by_cases hprevious : previous = some '\\'
  · cases t with
    | nil => trivial
    | cons x t => exact ⟨by simp [isInside, hprevious], h.2⟩
  · exact (accepts_isInside_iff hprevious).mpr h

theorem NeverCloses.append (hs : NeverCloses s) (ht : NeverCloses t) : NeverCloses (s ++ t) :=
  accepts_append.mpr ⟨hs, ht.accepts _⟩

theorem neverCloses_of_not_mem (h : ')' ∉ t) : NeverCloses t := by
  have hpass : Accepts (fun x _ => x != ')') none t :=
    accepts_iff_forall.mpr fun x hx => bne_iff_ne.mpr fun heq => h (heq ▸ hx)
  exact hpass.imp fun x _ hx => by simp [isInside, bne_iff_ne.mp hx]

/-- A text that does not begin with a parenthesis is judged without what comes before. -/
theorem neverCloses_of_accepts {previous : Option Char}
    (h : Accepts (isInside ')') previous t) (hhead : t.head? ≠ some ')') : NeverCloses t := by
  cases t with
  | nil => trivial
  | cons x t =>
    have hx : x ≠ ')' := by simpa using hhead
    exact ⟨by simp [isInside, hx], h.2⟩

theorem StaysOpen.right (h : StaysOpen c) (hbetween : Between c t d) : StaysOpen d := by
  rw [StaysOpen, hbetween.rest_eq, accepts_append] at h
  rw [StaysOpen, hbetween.previous_eq]
  exact h.2

theorem StaysOpen.neverCloses (h : StaysOpen c) (hbetween : Between c t d)
    (hhead : t.head? ≠ some ')') : NeverCloses t := by
  rw [StaysOpen, hbetween.rest_eq, accepts_append] at h
  exact neverCloses_of_accepts h.1 hhead

theorem staysOpen_of_neverCloses (h : NeverCloses c.rest) : StaysOpen c :=
  h.accepts _

/-- A parenthesis begins a pattern exactly if one is closed later on. -/
theorem exists_reads_pattern_iff :
    (∃ s d, pattern.Reads c s d) ↔ c.rest.head? = some '(' ∧ ¬StaysOpen c := by
  simp only [reads_pattern]
  constructor
  · rintro ⟨s, d, hbetween, hs⟩
    refine ⟨by rw [hbetween.rest_eq]; rfl, fun hopen => ?_⟩
    -- The parenthesis at the end of the pattern has no backslash before it.
    obtain ⟨e, hbetween, hclose⟩ := between_append.mp hbetween
    have hlast : e.previous ≠ some '\\' := by
      rw [hbetween.previous_eq, List.getLast?_cons]
      cases h : s.toList.getLast? with
      | none => simp
      | some x => simpa [h] using hs.2
    have hinside := hopen.right hbetween
    rw [StaysOpen, hclose.rest_eq] at hinside
    exact hlast (isInside_self.mp hinside.1)
  · rintro ⟨hhead, hcloses⟩
    obtain ⟨rest, hrest⟩ := List.head?_eq_some_iff.mp hhead
    obtain ⟨e, hopen, rfl⟩ := exists_between (s := ['(']) hrest
    obtain ⟨s, f, hscan⟩ : ∃ s f, (scanTo ')').Reads e s f := ⟨_, _, rfl⟩
    obtain ⟨hs, haccepts, hends⟩ := reads_scanTo.mp hscan
    -- The scan would reach the end of the text if no parenthesis were closed.
    cases hf : f.rest with
    | nil =>
      refine absurd ?_ hcloses
      rw [StaysOpen, hopen.rest_eq, hs.rest_eq, hf, List.append_nil]
      rw [hopen.previous_eq] at haccepts
      exact ⟨rfl, haccepts⟩
    | cons x rest =>
      have hx : isInside ')' x f.previous = false := hends x (by rw [hf]; rfl)
      obtain ⟨rfl, hlast⟩ : x = ')' ∧ f.previous ≠ some '\\' := by simpa [isInside] using hx
      obtain ⟨g, hclose, -⟩ := exists_between (s := [')']) hf
      rw [hopen.previous_eq] at haccepts
      refine ⟨s, g, (hopen.append hs).append hclose,
        (accepts_isInside_iff (by simp)).mp haccepts, ?_⟩
      rw [hs.previous_eq, hopen.previous_eq] at hlast
      exact (or_previous_ne_backslash (by decide)).mp hlast

theorem not_mem_of_isBlank {x : Char} (ht : IsBlank t) (hx : isWhitespace x = false) :
    x ∉ t := by
  intro hmem
  rw [ht x hmem] at hx
  cases hx

theorem not_mem_of_isName {name : String} {x : Char} (h : IsName name)
    (hx : isNameChar x = false) : x ∉ name.toList := by
  intro hmem
  rw [h.2 x hmem] at hx
  cases hx

end Grammar

open Grammar

namespace Expression

/-! ### The parentheses of expressions -/

theorem getLast?_append_ne {α : Type} {s t : List α} {x : α} (hs : s.getLast? ≠ some x)
    (ht : t.getLast? ≠ some x) : (s ++ t).getLast? ≠ some x := by
  rw [List.getLast?_append]
  cases h : t.getLast? with
  | none => simpa using hs
  | some y => simpa [h] using ht

theorem getLast?_ne_of_not_mem {α : Type} {s : List α} {x : α} (h : x ∉ s) :
    s.getLast? ≠ some x :=
  fun hlast => h (List.mem_of_getLast? hlast)

/-- No spelling ends with a backslash. -/
theorem Spelled.getLast?_ne {e : Expression} (he : e.IsOperand) (ht : e.Spelled t) :
    t.getLast? ≠ some '\\' := by
  cases e with
  | literal v =>
    cases v with
    | text s =>
      obtain rfl : t = '"' :: s.toList ++ ['"'] := ht
      rw [List.getLast?_concat]
      decide
    | list items => exact he.elim
    | number n =>
      -- A number ends with a digit.
      refine getLast?_ne_of_not_mem fun hmem => ?_
      exact absurd (ht.2.1 _ hmem) (by decide)
    | bool b =>
      obtain rfl : t = (toString b).toList := ht
      cases b <;> decide
  | var x =>
    obtain rfl : t = [':'] ++ x.toList := ht
    exact getLast?_append_ne (by decide)
      (getLast?_ne_of_not_mem (not_mem_of_isName he (by decide)))
  | assign x e => exact he.elim
  | call f args =>
    obtain ⟨w₁, w₂, u, -, -, -, rfl⟩ := ht
    rw [List.getLast?_concat]
    decide

theorem SpelledMore.getLast?_ne {es : List Expression} (hes : AreOperands es)
    (ht : SpelledMore es t) : t.getLast? ≠ some '\\' := by
  induction es generalizing t with
  | nil =>
    obtain rfl : t = [] := ht
    simp
  | cons e es ih =>
    obtain ⟨w₁, w₂, u, v, -, hw₂, hu, hv, rfl⟩ := ht
    have hcomma : (w₁ ++ [','] ++ w₂).getLast? ≠ some '\\' :=
      getLast?_append_ne (by simp) (getLast?_ne_of_not_mem (not_mem_of_isBlank hw₂ rfl))
    exact getLast?_append_ne (getLast?_append_ne hcomma (hu.getLast?_ne hes.1)) (ih hes.2 hv)

theorem SpelledArgs.getLast?_ne {es : List Expression} (hes : AreOperands es)
    (ht : SpelledArgs es t) : t.getLast? ≠ some '\\' := by
  cases es with
  | nil =>
    obtain rfl : t = [] := ht
    simp
  | cons e es =>
    obtain ⟨u, v, hu, hv, rfl⟩ := ht
    exact getLast?_append_ne (hu.getLast?_ne hes.1) (hv.getLast?_ne hes.2)

/-- The parenthesis that ends a call closes. -/
theorem not_neverCloses_of_spelled_call {f : String} {args : List Expression}
    (h : (call f args).IsOperand) (ht : (call f args).Spelled t) : ¬NeverCloses t := by
  obtain ⟨w₁, w₂, u, hw₁, hw₂, hu, rfl⟩ := ht
  have hlast : (f.toList ++ ['('] ++ w₁ ++ u ++ w₂).getLast? ≠ some '\\' := by
    refine getLast?_append_ne (getLast?_append_ne (getLast?_append_ne (by simp) ?_) ?_) ?_
    · exact getLast?_ne_of_not_mem (not_mem_of_isBlank hw₁ rfl)
    · exact hu.getLast?_ne h.2
    · exact getLast?_ne_of_not_mem (not_mem_of_isBlank hw₂ rfl)
  -- So the parenthesis at the end is not inside.
  intro hcloses
  have hinside := (accepts_append.mp hcloses).2.1
  rw [isInside_self, Option.or_none] at hinside
  exact hlast hinside

theorem Spelled.neverCloses_of_isOperand {e : Expression} (he : e.IsOperand) (hs : e.Spelled s)
    (ht : e.Spelled t) (h : NeverCloses s) : NeverCloses t := by
  cases e with
  | literal v =>
    cases v with
    | text _ | bool _ =>
      obtain rfl : s = t := Eq.trans hs (Eq.symm ht)
      exact h
    | list items => exact he.elim
    | number n =>
      refine neverCloses_of_not_mem fun hmem => ?_
      exact absurd (ht.2.1 _ hmem) (by decide)
  | var x =>
    obtain rfl : s = t := Eq.trans hs (Eq.symm ht)
    exact h
  | assign x e => exact he.elim
  | call f args => exact absurd h (not_neverCloses_of_spelled_call he hs)

/-- If one spelling of an expression closes a parenthesis then every spelling does. -/
theorem Spelled.neverCloses {e : Expression} (he : e.IsWellFormed) (hs : e.Spelled s)
    (ht : e.Spelled t) (h : NeverCloses s) : NeverCloses t := by
  cases e with
  | literal | var | call => exact hs.neverCloses_of_isOperand he ht h
  | assign x e =>
    obtain ⟨w₁, w₂, u, -, -, hu, rfl⟩ := hs
    obtain ⟨w₁', w₂', u', hw₁', hw₂', hu', rfl⟩ := ht
    obtain ⟨y, v, hy, hfirst⟩ := hu.exists_cons he.2.isWellFormed
    have hhead : u.head? ≠ some ')' := by
      rw [hy]
      rintro ⟨⟩
      exact absurd hfirst (by decide)
    have hvalue : NeverCloses u' := by
      refine hu.neverCloses_of_isOperand he.2 hu' ?_
      exact neverCloses_of_accepts (accepts_append.mp h).2 hhead
    -- Nothing before the value can close a parenthesis.
    have htarget : ')' ∉ ':' :: x.toList ++ w₁' ++ "<-".toList ++ w₂' := by
      simp [not_mem_of_isName he.1 (x := ')') rfl, not_mem_of_isBlank hw₁' (x := ')') rfl,
        not_mem_of_isBlank hw₂' (x := ')') rfl]
    exact (neverCloses_of_not_mem htarget).append hvalue

end Expression

end Reroute
