import Reroute.Proofs.Parsing.Position
import Reroute.Text.Split

/-!
# Errors and how they are shown

A parser that fails says why and where. Of the errors that arise inside of a parser few get
out: repetitions and optional parts fail never, alternatives say nothing about the reason, and a
repetition that needs one match says only that there is none. What does get out is shown below
the first line of the text, with a caret under the place that is blamed.

## Main definitions

* `Parser.Raises` — a parser fails with an error

## Main results

* `Parser.raises_bind`, `Parser.raises_many1`, `raises_char` — which errors get out
* `Parser.parseFull_eq_error_iff` — why a whole text is not read
* `ParseError.splitBy_render` — the two lines of a diagnostic
-/

set_option autoImplicit false

namespace Reroute

open Parsing Cursor

/-! ### Errors that get out -/

namespace Parsing

variable {α β : Type} {c d : Cursor} {e : ParseError}

namespace Parser

/-- The parser fails at `c` with the error `e`. -/
def Raises (p : Parser α) (c : Cursor) (e : ParseError) : Prop :=
  ∃ stop, p.run c = .failure stop e

variable {p : Parser α}

theorem not_raises_pure {v : α} : ¬(pure v : Parser α).Raises c e := by
  rintro ⟨stop, h⟩
  cases h

/-- The first failure of a sequence is the failure of the whole. -/
theorem raises_bind {f : α → Parser β} :
    (p >>= f).Raises c e ↔ p.Raises c e ∨ ∃ v d, p.Reads c v d ∧ (f v).Raises d e := by
  unfold Raises Reads
  rw [run_bind]
  cases p.run c with
  | success value next => simp
  | failure stop error => simp

/-- A failure keeps its error when it is reported where the parser began. -/
theorem raises_map {f : α → β} : (p.map f).Raises c e ↔ p.Raises c e := by
  unfold Raises
  rw [run_map]
  cases p.run c with
  | success value next => simp
  | failure stop error => simp

theorem raises_atomic : p.atomic.Raises c e ↔ p.Raises c e :=
  raises_map

theorem not_raises_many : ¬(many p).Raises c e := by
  rintro ⟨stop, h⟩
  cases h

/-- Where the first match fails without having moved, its error is dropped. -/
theorem raises_many1 (hp : p.IsAtomic) :
    (many1 p).Raises c e ↔ p.FailsAt c ∧ e = ⟨.expectedAtLeastOne, c.offset⟩ := by
  rw [failsAt_iff]
  unfold Raises many1
  dsimp only
  cases h : p.run c with
  | success first next => simp
  | failure stop error =>
    rw [hp c stop error h]
    simp [eq_comm]

/-- A text is not read whole because the parser fails, or because something is left over. -/
theorem parseFull_eq_error_iff {text : String} :
    p.parseFull text = .error e ↔ p.Raises (start text) e ∨
      ∃ v d, p.Reads (start text) v d ∧ d.rest ≠ [] ∧ e = ⟨.leftover, d.offset⟩ := by
  unfold parseFull Raises Reads
  cases h : p.run (start text) with
  | success value next =>
    by_cases hrest : next.rest = []
    · simp [hrest]
    · simp [hrest, eq_comm]
  | failure stop error => simp

end Parser

theorem not_raises_spaces : ¬spaces.Raises c e :=
  fun h => Parser.not_raises_many (Parser.raises_map.mp h)

/-- A character fails at the end of a text and where another one stands. -/
theorem raises_char {x : Char} :
    (char x).Raises c e ↔ (c.rest = [] ∧ e = ⟨.unexpectedEnd, c.offset⟩) ∨
      ∃ y, c.rest.head? = some y ∧ y ≠ x ∧
        e = ⟨.unexpectedChar y (some x.toString), c.offset⟩ := by
  obtain ⟨previous, rest, offset⟩ := c
  unfold Parser.Raises char satisfy
  dsimp only
  cases rest with
  | nil => simp [eq_comm]
  | cons y rest =>
    by_cases hy : y = x
    · simp [hy]
    · have hy' : ¬x = y := fun h => hy h.symm
      simp [hy, hy', eq_comm]

/-- A place that a text leads to cuts the text in two. -/
theorem Cursor.LeadsTo.exists_append {text : String} (h : (start text).LeadsTo d) :
    ∃ front back : String, text = front ++ back ∧ d.offset = front.utf8ByteSize ∧
      d.rest = back.toList := by
  obtain ⟨t, ht⟩ := h
  refine ⟨String.ofList t, String.ofList d.rest, ?_, ?_, String.toList_ofList.symm⟩
  · apply String.toList_injective
    simpa [start] using ht.rest_eq
  · simpa [start] using ht.offset_eq

end Parsing

/-! ### Diagnostics -/

/-- The first part of a text is what stands before the first separator. -/
theorem Text.head?_splitBy (isSeparator : Char → Bool) (text : List Char) :
    (Text.splitBy isSeparator text).head? = some (text.takeWhile (!isSeparator ·)) := by
  induction text with
  | nil => rfl
  | cons x rest ih =>
    rw [splitBy]
    by_cases hx : isSeparator x
    · simp [hx]
    · cases hs : splitBy isSeparator rest with
      | nil => exact absurd hs (splitBy_ne_nil _ _)
      | cons part parts =>
        rw [hs] at ih
        simpa [hx] using ih

namespace Parsing.ParseError

variable {e : ParseError} {front back : String}

/-- The characters that end within the bytes of a text are those of the text. -/
theorem charsBefore?_append (front back : List Char) :
    charsBefore? (front ++ back) (String.ofList front).utf8ByteSize = some front.length := by
  induction front with
  | nil => simp [charsBefore?]
  | cons x front ih =>
    have hsize : (String.ofList (x :: front)).utf8ByteSize =
        (String.ofList front).utf8ByteSize + x.utf8Size := by
      rw [String.ofList_cons]
      simp [Nat.add_comm]
    -- A character has at least one byte, so the first equation does not apply.
    obtain ⟨k, hk⟩ : ∃ k, (String.ofList (x :: front)).utf8ByteSize = k + 1 :=
      Nat.exists_eq_add_one.mpr (by have := x.utf8Size_pos; omega)
    have hleft : k + 1 - x.utf8Size = (String.ofList front).utf8ByteSize := by omega
    rw [hk, List.cons_append, charsBefore?, if_pos (by omega), hleft, ih]
    rfl

/-- The caret stands below the first character that is not before the place. -/
theorem column_of_position (h : e.position = front.utf8ByteSize) :
    e.column (front ++ back) = front.length := by
  have hchars := charsBefore?_append front.toList back.toList
  rw [String.ofList_toList] at hchars
  rw [column, h, String.toList_append, hchars, Option.getD_some, String.length_toList]

/-- A diagnostic has two lines if the message is a single line: the first line of the text, and
the caret with the message behind as many blanks as there are characters before the place. -/
theorem splitBy_render (h : e.position = front.utf8ByteSize) (hmessage : '\n' ∉ e.message.toList) :
    ∃ line, (Text.splitBy (· = '\n') (front ++ back).toList).head? = some line ∧
      Text.splitBy (· = '\n') (e.render (front ++ back)).toList =
        [line, List.replicate front.length ' ' ++ ("^--- ParseError: " ++ e.message).toList] := by
  have hline := Text.head?_splitBy (· = '\n') (front ++ back).toList
  refine ⟨_, hline, ?_⟩
  -- Neither line holds a line break, so cutting the two that were joined gives them back.
  have hrender : (e.render (front ++ back)).toList =
      Text.joinWith '\n' [(front ++ back).toList.takeWhile fun x => !decide (x = '\n'),
        List.replicate front.length ' ' ++ ("^--- ParseError: " ++ e.message).toList] := by
    rw [render, column_of_position h]
    simp [Text.joinWith, bne, Bool.beq_eq_decide_eq]
  rw [hrender]
  apply Text.splitBy_joinWith (by simp)
  intro part hpart
  rw [List.mem_pair] at hpart
  rcases hpart with rfl | rfl
  · intro hmem
    have hfree := Text.forall_mem_splitBy _ (List.mem_of_head? hline) '\n' hmem
    simp at hfree
  · simpa using hmessage

end Parsing.ParseError

end Reroute
