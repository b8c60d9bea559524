import Reroute.Proofs.Grammar.Construction
import Reroute.Proofs.Parsing.Diagnosis
import Reroute.Proofs.Parsing.Lexeme

/-!
# Why rules are rejected

A text that is no rule is rejected for one of four reasons, at a place of the text that is never
within a character: a path does not begin where one has to, another character stands where the
bar before the destination has to, the text ends there, or something is left behind the
destination. Errors of stages never get out, since a rule has as many of them as can be read.

## Main definitions

* `Grammar.IsFault` — what is wrong with the rest of a text

## Main results

* `Grammar.raises_fullPath`, `Grammar.isFault_of_raises_rule` — which errors get out of paths and
  rules
* `Grammar.render_of_parseRule` — the diagnostic of a text that is no rule
-/

set_option autoImplicit false

namespace Reroute.Grammar

open Parsing Parsing.Parser Cursor

variable {c d : Cursor} {e : ParseError}

/-! ### Paths -/

/-- A segment fails only where there is no slash. -/
theorem head?_ne_slash_of_failsAt_segment (h : segment.FailsAt c) : c.rest.head? ≠ some '/' := by
  obtain ⟨stop, error, hrun⟩ := failsAt_iff.mp h
  have hraises : segment.Raises c error := ⟨stop, hrun⟩
  rw [segment, raises_atomic] at hraises
  simp only [raises_bind, not_raises_many, not_raises_pure, and_false, exists_false, or_false,
    raises_char] at hraises
  rcases hraises with ⟨hrest, -⟩ | ⟨x, hx, hslash, -⟩
  · simp [hrest]
  · simpa [hx] using hslash

/-- All that gets out of a path is that it does not begin. -/
theorem raises_fullPath (h : fullPath.Raises c e) :
    e = ⟨.expectedAtLeastOne, c.offset⟩ ∧ c.rest.head? ≠ some '/' := by
  rw [fullPath, raises_atomic] at h
  simp only [raises_bind, not_raises_many, not_raises_pure, and_false, exists_false,
    or_false] at h
  obtain ⟨hfails, rfl⟩ := (raises_many1 isAtomic_map).mp h
  exact ⟨rfl, head?_ne_slash_of_failsAt_segment hfails⟩

/-! ### Rules -/

/-- What is wrong with a text of which `back` is left. -/
inductive IsFault (back : List Char) : ParseError.Cause → Prop where
  /-- No path begins. -/
  | noPath (h : back.head? ≠ some '/') : IsFault back .expectedAtLeastOne
  /-- Another character stands where the bar before the destination has to. It is no white
  space, which would have been skipped. -/
  | notBar {x : Char} (h : back.head? = some x) (hspace : isWhitespace x = false)
      (hbar : x ≠ '|') : IsFault back (.unexpectedChar x (some "|"))
  /-- The text ends before the bar. -/
  | noBar (h : back = []) : IsFault back .unexpectedEnd
  /-- Something is left behind the destination. -/
  | leftover (h : back ≠ []) : IsFault back .leftover

/-- Where a bar is missed behind white space that was skipped, no more white space stands. -/
theorem isFault_of_raises_bar {s : String} (hspaces : spaces.Reads c s d)
    (h : (char '|').Raises d e) : e.position = d.offset ∧ IsFault d.rest e.cause := by
  have hends := (reads_spaces.mp hspaces).2.2
  rcases raises_char.mp h with ⟨hrest, rfl⟩ | ⟨x, hx, hbar, rfl⟩
  · exact ⟨rfl, .noBar hrest⟩
  · exact ⟨rfl, .notBar hx (hends x hx) hbar⟩

/-- The errors that get out of a rule blame a place at or behind its beginning. -/
theorem isFault_of_raises_rule (h : rule.Raises c e) :
    ∃ d, c.LeadsTo d ∧ e.position = d.offset ∧ IsFault d.rest e.cause := by
  have hspaces : spaces.IsBuilt := .spaces
  have hfullPath : fullPath.IsBuilt := builtFrom_fullPath
  have hstages : (many (choice [stage, emptyStage])).IsBuilt :=
    .many (anyStagePlan.builtFrom builtFrom_expression)
  have hbar : (char '|').IsBuilt := .char '|'
  have hpath {d : Cursor} (h : fullPath.Raises d e) :
      e.position = d.offset ∧ IsFault d.rest e.cause := by
    obtain ⟨rfl, hslash⟩ := raises_fullPath h
    exact ⟨rfl, .noPath hslash⟩
  rw [rule, raises_atomic] at h
  simp only [raises_bind, not_raises_many, not_raises_spaces, not_raises_pure, false_or,
    and_false, exists_false, or_false] at h
  -- Either the source does not begin, or there is no bar behind the stages, or the destination
  -- does not begin.
  obtain ⟨_, d₁, h₁, h | ⟨_, d₂, h₂, _, d₃, h₃, s, d₄, h₄, h⟩⟩ := h
  · exact ⟨d₁, hspaces.leadsTo h₁, hpath h⟩
  have hleads : c.LeadsTo d₄ := (hspaces.leadsTo h₁).trans
    ((hfullPath.leadsTo h₂).trans ((hstages.leadsTo h₃).trans (hspaces.leadsTo h₄)))
  obtain h | ⟨_, d₅, h₅, _, d₆, h₆, h⟩ := h
  · exact ⟨d₄, hleads, isFault_of_raises_bar h₄ h⟩
  · exact ⟨d₆, hleads.trans ((hbar.leadsTo h₅).trans (hspaces.leadsTo h₆)), hpath h⟩

/-- The place that is blamed cuts the text in two, and something is wrong with the rest. -/
theorem isFault_of_parseRule {text : String} (h : parseRule text = .error e) :
    ∃ front back : String, text = front ++ back ∧ e.position = front.utf8ByteSize ∧
      IsFault back.toList e.cause := by
  obtain ⟨d, hleads, hposition, hfault⟩ :
      ∃ d, (start text).LeadsTo d ∧ e.position = d.offset ∧ IsFault d.rest e.cause := by
    rcases parseFull_eq_error_iff.mp h with h | ⟨r, d, hread, hrest, rfl⟩
    · exact isFault_of_raises_rule h
    · exact ⟨d, isBuilt_rule.leadsTo hread, rfl, .leftover hrest⟩
  obtain ⟨front, back, htext, hoffset, hback⟩ := hleads.exists_append
  exact ⟨front, back, htext, hposition.trans hoffset, hback ▸ hfault⟩

theorem newline_notMem_toString (n : Nat) : '\n' ∉ (toString n).toList := by
  rw [Nat.toString_eq_repr, Nat.toList_repr]
  intro h
  have hdigit := Nat.isDigit_of_mem_toDigits (by decide) (by decide) h
  simp at hdigit

/-- What is wrong with a rule is said in one line; no white space is quoted. -/
theorem IsFault.newline_notMem_message {back : List Char} (h : IsFault back e.cause) :
    '\n' ∉ e.message.toList := by
  obtain ⟨cause, position⟩ := e
  have hposition := newline_notMem_toString position
  cases h with
  | noPath | leftover => simpa [ParseError.message] using hposition
  | noBar => simp [ParseError.message]
  | @notBar x _ hspace =>
    have hx : '\n' ≠ x := by
      rintro rfl
      simp [isWhitespace] at hspace
    simpa [ParseError.message, hx] using hposition

/-- A text that is no rule is rejected with one of four errors, at a place that cuts the text in
two: no path begins there, a character other than a bar and white space stands there, or the
text ends, where the bar before the destination has to be, or the rest of the text is left over.
The diagnostic has two lines: the first line of the text, and behind as many blanks as there are
characters before the place the caret and the message. -/
theorem render_of_parseRule {text : String} (h : parseRule text = .error e) :
    ∃ front back : String, text = front ++ back ∧ e.position = front.utf8ByteSize ∧
      IsFault back.toList e.cause ∧
      ∃ line, (Text.splitBy (· = '\n') text.toList).head? = some line ∧
        Text.splitBy (· = '\n') (e.render text).toList =
          [line, List.replicate front.length ' ' ++
            ("^--- ParseError: " ++ e.message).toList] := by
  obtain ⟨front, back, rfl, hposition, hfault⟩ := isFault_of_parseRule h
  exact ⟨front, back, rfl, hposition, hfault,
    ParseError.splitBy_render hposition hfault.newline_notMem_message⟩

/-- The white space that is skipped before the bar is missed goes on in another line. -/
theorem render_of_parseRule_two_lines :
    parseRule "/é \t\nx" = .error ⟨.unexpectedChar 'x' (some "|"), 6⟩ ∧
      ∃ front back : String, "/é \t\nx" = front ++ back ∧ 6 = front.utf8ByteSize ∧
        IsFault back.toList (.unexpectedChar 'x' (some "|")) ∧
        ∃ line, (Text.splitBy (· = '\n') ("/é \t\nx" : String).toList).head? = some line ∧
          Text.splitBy (· = '\n')
              ((⟨.unexpectedChar 'x' (some "|"), 6⟩ : ParseError).render "/é \t\nx").toList =
            [line, List.replicate front.length ' ' ++ ("^--- ParseError: " ++
              (⟨.unexpectedChar 'x' (some "|"), 6⟩ : ParseError).message).toList] := by
  have h : parseRule "/é \t\nx" = .error ⟨.unexpectedChar 'x' (some "|"), 6⟩ := by
    decide +kernel
  exact ⟨h, render_of_parseRule h⟩

end Reroute.Grammar
