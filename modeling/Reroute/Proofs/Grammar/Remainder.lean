import Reroute.Proofs.Grammar.Expression

/-!
# What follows an expression

How an expression is read depends on nothing behind it, but for one thing: a number, or the name
of a variable, goes on as long as the characters do. So where a text is an expression, and more
text stands behind it that does not begin with such a character, the same expression is read and
all that is behind it is left.

## Main results

* `Grammar.parseWithRemainder_expression_iff` — which expressions are read at the beginning of a
  text, and what is left
* `Grammar.parseWithRemainder_append_iff` — when what follows is left alone
* `Grammar.parseWithRemainder_append` — it is if it does not go on with a name
-/

set_option autoImplicit false

namespace Reroute

open Parsing Cursor

/-- The beginning of a text is read if a value is read there, and what comes behind it is left. -/
theorem Parsing.Parser.parseWithRemainder_eq_ok_iff {α : Type} {p : Parser α} {text rest : String}
    {v : α} :
    p.parseWithRemainder text = .ok (v, rest) ↔
      ∃ d, p.Reads (start text) v d ∧ d.rest = rest.toList := by
  rw [parseWithRemainder]
  unfold Reads
  cases p.run (start text) with
  | success w next =>
    simp only [Except.ok.injEq, Prod.mk.injEq, Step.success.injEq]
    constructor
    · rintro ⟨rfl, rfl⟩
      exact ⟨next, ⟨rfl, rfl⟩, String.toList_ofList.symm⟩
    · rintro ⟨d, ⟨rfl, rfl⟩, hrest⟩
      exact ⟨rfl, by rw [hrest, String.ofList_toList]⟩
  | failure stop error => simp

namespace Grammar

open Expression

variable {e : Expression} {s t text rest : String}

/-- An expression is read at the beginning of a text exactly if one of its spellings stands there
and is not continued by what is left. -/
theorem parseWithRemainder_expression_iff :
    expression.parseWithRemainder text = .ok (e, rest) ↔
      e.IsOperand ∧ (∃ spelling, e.Spelled spelling ∧ text.toList = spelling ++ rest.toList) ∧
        ∀ x, rest.toList.head? = some x → e.isExtendedBy x = false := by
  simp only [Parser.parseWithRemainder_eq_ok_iff, reads_expression]
  constructor
  · rintro ⟨d, ⟨hoperand, hends, spelling, hspelled, hbetween⟩, hrest⟩
    refine ⟨hoperand, ⟨spelling, hspelled, ?_⟩, fun x hx => hends x ?_⟩
    · rw [← hrest]
      exact hbetween.rest_eq
    · rw [hrest, hx]
  · rintro ⟨hoperand, ⟨spelling, hspelled, htext⟩, hends⟩
    obtain ⟨d, hbetween, hrest⟩ := exists_between (c := start text) htext
    refine ⟨d, ⟨hoperand, fun x hx => hends x ?_, spelling, hspelled, hbetween⟩, hrest⟩
    rw [← hrest, hx]

/-- All of a text is read as an expression exactly if it is one of its spellings. -/
theorem parseFull_expression_iff :
    expression.parseFull s = .ok e ↔ e.IsOperand ∧ e.Spelled s.toList := by
  simp only [Parser.parseFull_eq_ok_iff, reads_expression]
  constructor
  · rintro ⟨d, ⟨hoperand, -, spelling, hspelled, hbetween⟩, hrest⟩
    obtain rfl : s.toList = spelling := by simpa [hrest, start] using hbetween.rest_eq
    exact ⟨hoperand, hspelled⟩
  · rintro ⟨hoperand, hspelled⟩
    obtain ⟨d, hbetween, hrest⟩ := exists_between (c := start s) (List.append_nil s.toList).symm
    exact ⟨d, ⟨hoperand, fun x hx => by simp [hrest] at hx, _, hspelled, hbetween⟩, hrest⟩

/-- What follows an expression is left alone exactly if it does not continue this expression. -/
theorem parseWithRemainder_append_iff (h : expression.parseFull s = .ok e) :
    expression.parseWithRemainder (s ++ t) = .ok (e, t) ↔
      ∀ x, t.toList.head? = some x → e.isExtendedBy x = false := by
  obtain ⟨hoperand, hspelled⟩ := parseFull_expression_iff.mp h
  rw [parseWithRemainder_expression_iff]
  constructor
  · exact fun h => h.2.2
  · exact fun hends => ⟨hoperand, ⟨_, hspelled, String.toList_append⟩, hends⟩

/-- An expression is read in the same way whatever follows it, if that does not begin with a
character of names; and then all that follows is left. -/
theorem parseWithRemainder_append (h : expression.parseFull s = .ok e)
    (ht : ∀ x, t.toList.head? = some x → isNameChar x = false) :
    expression.parseWithRemainder (s ++ t) = .ok (e, t) := by
  refine (parseWithRemainder_append_iff h).mpr fun x hx => ?_
  by_contra hextends
  have hname := e.isExtendedBy_le_isNameChar (x := x) (by simpa using hextends)
  rw [ht x hx] at hname
  cases hname

/-- The name of a function that begins with digits beyond every number, a text with a quote in
it, and behind the call what could be read as another one or as the end of a text. -/
theorem parseWithRemainder_append_of_call :
    let s := "99999999999999999999-f(:a, \"b\\\"c\" ,g(007,true))"
    let e : Expression := .call "99999999999999999999-f"
      [.var "a", .literal (.text "b\\\"c"), .call "g" [.literal (.number 7), .literal (.bool true)]]
    expression.parseFull s = .ok e ∧
      (∀ x, "(\"1\"), x".toList.head? = some x → isNameChar x = false) ∧
      expression.parseWithRemainder (s ++ "(\"1\"), x") = .ok (e, "(\"1\"), x") := by
  intro s e
  have hparse : expression.parseFull s = .ok e := by decide +kernel
  have hfollow : ∀ x, "(\"1\"), x".toList.head? = some x → isNameChar x = false := by
    intro x hx
    obtain rfl : '(' = x := by simpa using hx
    decide
  exact ⟨hparse, hfollow, parseWithRemainder_append hparse hfollow⟩

end Grammar

end Reroute
