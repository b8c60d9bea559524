import Mathlib.Data.List.Basic
import Reroute.Grammar.Expression
import Reroute.Proofs.Parsing.Lexeme

/-!
# How expressions are spelled

The expressions that can be written down, and all the ways to write each of them:
white space may stand within the parentheses of a call, around commas and around the
arrow of an assignment, and a number may begin with zeros.

## Main definitions

* `Grammar.IsName`, `Grammar.IsFunctionName` — names, and those that calls can have
* `Expression.IsOperand`, `Expression.IsWellFormed` — the expressions that have a
  spelling, without and with an assignment at the root
* `Expression.Spelled` — a text is a spelling of an expression

## Main results

* `Expression.spelled_print` — printing gives a spelling
-/

set_option autoImplicit false

namespace Reroute

open Parsing

namespace Grammar

/-- A name has characters, and they are letters, digits, underscores and hyphens. -/
def IsName (name : String) : Prop :=
  name.toList ≠ [] ∧ ∀ x ∈ name.toList, isNameChar x

instance : DecidablePred IsName := fun name =>
  decidable_of_iff (name.toList ≠ [] ∧ name.toList.all isNameChar)
    (and_congr_right' List.all_eq_true)

/-- The digits that a name begins with are none, or stand for a number beyond 64 bits. -/
def BeginsWithNoNumber (name : String) : Prop :=
  name.toList.takeWhile Char.isDigit = [] ∨
    Int64.maxValue.toInt < Nat.ofDigitChars 10 (name.toList.takeWhile Char.isDigit) 0

/-- The name of a function begins neither with a truth value nor with a number, which
would be read in its place. -/
structure IsFunctionName (name : String) : Prop where
  isName : IsName name
  not_true : ¬"true".toList <+: name.toList
  not_false : ¬"false".toList <+: name.toList
  no_number : BeginsWithNoNumber name

end Grammar

open Grammar

/-- The values that have a syntax: numbers from zero on, truth values, and texts that
quotes can enclose. -/
def Value.IsWellFormed : Value → Prop
  | .text s => IsEnclosable '"' s.toList
  | .list _ => False
  | .number n => 0 ≤ n
  | .bool _ => True

/-- A text is a spelling of a value. -/
def Value.Spelled : Value → List Char → Prop
  | .text s, t => t = '"' :: s.toList ++ ['"']
  | .list _, _ => False
  | .number n, t =>
    t ≠ [] ∧ (∀ x ∈ t, x.isDigit) ∧ (Nat.ofDigitChars 10 t 0 : Int) = n.toInt
  | .bool b, t => t = (toString b).toList

namespace Expression

mutual

/-- Whether an expression without assignments can be written down. -/
def IsOperand : Expression → Prop
  | literal value => value.IsWellFormed
  | var x => IsName x
  | assign _ _ => False
  | call f args => IsFunctionName f ∧ AreOperands args

/-- Whether expressions without assignments can be written down. -/
def AreOperands : List Expression → Prop
  | [] => True
  | e :: es => e.IsOperand ∧ AreOperands es

end

/-- Whether an expression can be written down. An assignment is never part of another
expression. -/
def IsWellFormed : Expression → Prop
  | assign x e => IsName x ∧ e.IsOperand
  | e => e.IsOperand

mutual

/-- A text is a spelling of an expression. -/
def Spelled : Expression → List Char → Prop
  | literal value, text => value.Spelled text
  | var x, text => text = ':' :: x.toList
  | assign x e, text => ∃ w₁ w₂ t, IsBlank w₁ ∧ IsBlank w₂ ∧ e.Spelled t ∧
      text = ':' :: x.toList ++ w₁ ++ "<-".toList ++ w₂ ++ t
  | call f args, text => ∃ w₁ w₂ t, IsBlank w₁ ∧ IsBlank w₂ ∧ SpelledArgs args t ∧
      text = f.toList ++ ['('] ++ w₁ ++ t ++ w₂ ++ [')']

/-- A text is a spelling of expressions with commas between them. -/
def SpelledArgs : List Expression → List Char → Prop
  | [], text => text = []
  | e :: es, text => ∃ t u, e.Spelled t ∧ SpelledMore es u ∧ text = t ++ u

/-- A text is a spelling of expressions with a comma before each. -/
def SpelledMore : List Expression → List Char → Prop
  | [], text => text = []
  | e :: es, text => ∃ w₁ w₂ t u, IsBlank w₁ ∧ IsBlank w₂ ∧ e.Spelled t ∧ SpelledMore es u ∧
      text = w₁ ++ [','] ++ w₂ ++ t ++ u

end

theorem areOperands_iff {es : List Expression} : AreOperands es ↔ ∀ e ∈ es, e.IsOperand := by
  induction es with
  | nil => simp [AreOperands]
  | cons e es ih => simp [AreOperands, ih]

theorem IsOperand.isWellFormed {e : Expression} (h : e.IsOperand) : e.IsWellFormed := by
  cases e with
  | assign x e => exact absurd h (by simp [IsOperand])
  | literal | var | call => exact h

end Expression

/-! ### Printing -/

theorem Value.spelled_print {v : Value} (h : v.IsWellFormed) : v.Spelled v.print.toList := by
  cases v with
  | text s => simp [Spelled, print, quote]
  | list items => exact h.elim
  | number n =>
    have hn : 0 ≤ n.toInt := by simpa [IsWellFormed, Int64.le_iff_toInt_le] using h
    obtain ⟨m, hm⟩ := Int.eq_ofNat_of_zero_le hn
    have hprint : (print (.number n)).toList = Nat.toDigits 10 m := by
      rw [print, hm]
      exact Nat.toList_repr
    rw [hprint]
    refine ⟨Nat.toDigits_ne_nil, fun x hx => Nat.isDigit_of_mem_toDigits (by decide) (by decide) hx,
      ?_⟩
    rw [Nat.ofDigitChars_ten_toDigits, hm]
  | bool b => rfl

namespace Expression

theorem printArgs_cons_cons (e f : Expression) (es : List Expression) :
    printArgs (e :: f :: es) = e.print ++ ", " ++ printArgs (f :: es) := rfl

theorem printArgs_eq_intercalate (es : List Expression) :
    printArgs es = ", ".intercalate (es.map print) := by
  induction es with
  | nil => rfl
  | cons e es ih =>
    cases es with
    | nil => simp [printArgs]
    | cons f es =>
      rw [printArgs_cons_cons, ih, List.map_cons, List.map_cons, List.map_cons,
        String.intercalate_cons_cons]

/-- Expressions with commas between them are spelled if each of them is. -/
theorem spelledArgs_printArgs {es : List Expression}
    (h : ∀ e ∈ es, e.Spelled e.print.toList) : SpelledArgs es (printArgs es).toList := by
  cases es with
  | nil => rfl
  | cons e es =>
    -- Behind the first expression, each one is printed behind a comma and a blank.
    have hmore : ∃ u, (printArgs (e :: es)).toList = e.print.toList ++ u ∧ SpelledMore es u := by
      induction es generalizing e with
      | nil => exact ⟨[], by simp [printArgs], rfl⟩
      | cons f es ih =>
        obtain ⟨u, hu, hmore⟩ := ih f fun g hg => h g (List.mem_cons_of_mem _ hg)
        refine ⟨", ".toList ++ (f.print.toList ++ u), ?_, ?_⟩
        · rw [printArgs_cons_cons, String.toList_append, String.toList_append, hu,
            List.append_assoc]
        · exact ⟨[], [' '], f.print.toList, u, isBlank_nil, isBlank_blank, h f (by simp), hmore,
            by simp⟩
    obtain ⟨u, hu, hmore⟩ := hmore
    exact ⟨e.print.toList, u, h e (by simp), hmore, hu⟩

mutual

private theorem spelled_print_of_isOperand :
    ∀ {e : Expression}, e.IsOperand → e.Spelled e.print.toList
  | literal v, h => by
    rw [print]
    exact Value.spelled_print h
  | var x, _ => by simp [Spelled, print]
  | assign _ _, h => by simp [IsOperand] at h
  | call f args, h => by
    refine ⟨[], [], (printArgs args).toList, isBlank_nil, isBlank_nil, ?_, by simp [print]⟩
    exact spelledArgs_printArgs (spelled_print_of_areOperands h.2)

private theorem spelled_print_of_areOperands :
    ∀ {es : List Expression}, AreOperands es → ∀ e ∈ es, e.Spelled e.print.toList
  | [], _ => by simp
  | _ :: _, h =>
    List.forall_mem_cons.mpr ⟨spelled_print_of_isOperand h.1, spelled_print_of_areOperands h.2⟩

end

/-- Printing gives a spelling. -/
theorem spelled_print {e : Expression} (h : e.IsWellFormed) : e.Spelled e.print.toList := by
  cases e with
  | assign x e =>
    exact ⟨[' '], [' '], e.print.toList, isBlank_blank, isBlank_blank,
      spelled_print_of_isOperand h.2, by simp [print]⟩
  | literal v => exact spelled_print_of_isOperand h
  | var x => exact spelled_print_of_isOperand h
  | call f args => exact spelled_print_of_isOperand h

end Expression

end Reroute
