import Mathlib.Data.List.Induction
import Mathlib.Data.Nat.Digits.Defs
import Reroute.Proofs.Grammar.Spelling
import Reroute.Proofs.Parsing.Repetition

/-!
# Numbers of any length

A number is the longest run of digits from an offset on. Its value is worked out from all of
them, so zeros may lead, and it has to fit into 64 bits. A number that does not is an error where
it begins, although its digits have been read.

## Main definitions

* `digitRun` — the digits that stand from an offset on
* `decimalValue` — the number that digits stand for, by the weights of their places

## Main results

* `number_isExact` — what is read from every offset of a text, and that printing is undone
-/

set_option autoImplicit false

namespace Reroute.Parsing

open Cursor

variable {text : String} {start : Nat} {digits : List Char}

/-- The number that decimal digits stand for: the last one counts units, the one before it
tens, and so on. -/
def decimalValue (digits : List Char) : Nat :=
  Nat.ofDigits 10 (digits.reverse.map fun x => x.toNat - '0'.toNat)

/-- A digit that follows makes ten times as much of those before it. -/
theorem ofDigitChars_eq_decimalValue (digits : List Char) :
    Nat.ofDigitChars 10 digits 0 = decimalValue digits := by
  induction digits using List.reverseRecOn with
  | nil => rfl
  | append_singleton digits x ih =>
    rw [Nat.ofDigitChars_append, ih, decimalValue, decimalValue, List.reverse_concat,
      List.map_cons, Nat.ofDigits_cons, Nat.ofDigitChars_cons, Nat.ofDigitChars_nil]
    exact Nat.add_comm _ _

/-- The longest run of decimal digits behind a byte offset of a text. -/
def digitRun (text : String) (start : Nat) : List Char :=
  ((sliceFrom? text start).getD "").toList.takeWhile Char.isDigit

theorem rest_ofOffset : (ofOffset text start).rest = ((sliceFrom? text start).getD "").toList := by
  by_cases hstart : IsBoundary text start
  · obtain ⟨front, back, rfl, rfl⟩ := isBoundary_iff.mp hstart
    rw [ofOffset_append, sliceFrom?_append, Option.getD_some]
  · rw [ofOffset_of_not_isBoundary hstart, sliceFrom?_of_not_isBoundary hstart]
    rfl

/-- A digit is one byte. -/
theorem utf8ByteSize_of_isDigit (h : ∀ x ∈ digits, x.isDigit) :
    (String.ofList digits).utf8ByteSize = digits.length := by
  induction digits with
  | nil => simp
  | cons x digits ih =>
    rw [List.forall_mem_cons] at h
    have hx : x.utf8Size = 1 := by
      have hx : x.val ≥ '0'.val ∧ x.val ≤ '9'.val := by simpa [Char.isDigit] using h.1
      exact Char.utf8Size_eq_one_iff.mpr (UInt32.le_trans hx.2 (by decide))
    rw [String.ofList_cons, String.utf8ByteSize_append, ih h.2]
    simp [hx, Nat.add_comm]

/-- Where no digit stands, a digit was needed. -/
theorem parse_digits_of_eq_nil (h : digitRun text start = []) :
    (Parser.many1 digit).parse text start = .failure start ⟨.expectedAtLeastOne, start⟩ := by
  obtain ⟨error, hdigit⟩ : ∃ error, digit.parse text start = .failure start error := by
    unfold Parser.parse digit satisfy
    dsimp only
    cases hnext : (ofOffset text start).next? with
    | none => exact ⟨_, by rw [offset_ofOffset]⟩
    | some next =>
      obtain ⟨x, d⟩ := next
      have hx : x.isDigit = false := by
        rw [digitRun, ← rest_ofOffset, (next?_eq_some_iff.mp hnext).1] at h
        simpa [List.takeWhile_cons] using h
      exact ⟨⟨.unexpectedChar x (some "any digit"), start⟩, by simp [hx]⟩
  rw [Parser.parse_many1_of_failure hdigit, if_pos rfl]

/-- Digits are read up to the end of the run. -/
theorem parse_digits_of_ne_nil (h : digitRun text start ≠ []) :
    (Parser.many1 digit).parse text start =
      .success (digitRun text start) (ofOffset text (start + (digitRun text start).length)) := by
  have hdigits : ∀ x ∈ digitRun text start, x.isDigit := List.all_eq_true.mp List.all_takeWhile
  obtain ⟨d, hbetween, hrest⟩ := exists_between (c := ofOffset text start)
    (s := digitRun text start) (by
      rw [digitRun, rest_ofOffset]
      exact (List.takeWhile_append_dropWhile (p := Char.isDigit)).symm)
  -- What stands behind the longest run is no digit.
  have hends : EndsDigits d := by
    intro x hx
    have := List.head?_dropWhile_not Char.isDigit ((sliceFrom? text start).getD "").toList
    rw [hrest] at hx
    rwa [hx] at this
  obtain ⟨-, -, -, -, hd⟩ := (between_ofOffset_iff h).mp hbetween
  rw [utf8ByteSize_of_isDigit hdigits] at hd
  rw [← hd]
  exact reads_digits.mpr ⟨h, hbetween, hdigits, hends⟩

/-- A number that was printed is read back. -/
theorem parseFull_print_number {n : Int64} (h : 0 ≤ n) :
    number.parseFull (Value.number n).print = .ok n := by
  obtain ⟨hne, hdigits, hvalue⟩ := Value.spelled_print (v := .number n) h
  obtain ⟨d, hbetween, hrest⟩ := exists_between (c := Cursor.start (Value.number n).print)
    (List.append_nil _).symm
  refine Parser.parseFull_eq_ok_iff.mpr ⟨d, reads_number.mpr
    ⟨_, hne, hbetween, hdigits, fun x hx => by simp [hrest] at hx, ?_, ?_⟩, hrest⟩
  · rw [hvalue]
    exact n.toInt_le
  · calc
      n = Int64.ofInt n.toInt := (Int64.ofInt_toInt n).symm
      _ = _ := by rw [← hvalue, Int64.ofInt_eq_ofNat]

/-- The digits from an offset on make a number up to the largest of 64 bits. -/
theorem parse_number_of_ne_nil (h : digitRun text start ≠ []) :
    number.parse text start =
      if decimalValue (digitRun text start) ≤ 2 ^ 63 - 1 then
        .success (Int64.ofNat (decimalValue (digitRun text start)))
          (ofOffset text (start + (digitRun text start).length))
      else .failure start ⟨.numberOutOfRange, start⟩ := by
  have hrun : (Parser.many1 digit).run (ofOffset text start) = _ := parse_digits_of_ne_nil h
  have hbound : Int64.maxValue.toInt = ((2 ^ 63 - 1 : Nat) : Int) := by decide
  simp only [Parser.parse, number, hrun, hbound, Int.ofNat_le, ofDigitChars_eq_decimalValue,
    offset_ofOffset]

/-- Numbers have any number of digits. From an offset of a text all the digits that stand there
are read. If there are none, it is reported where the parser began that a digit was needed; if
they stand for a number of 64 bits, that number is read; and if not, the number is reported to
be out of range, again where the parser began. From zero on, what is printed is read back. -/
theorem number_isExact (text : String) (start : Nat) :
    (digitRun text start = [] →
      number.parse text start = .failure start ⟨.expectedAtLeastOne, start⟩) ∧
    (digitRun text start ≠ [] → decimalValue (digitRun text start) ≤ 2 ^ 63 - 1 →
      ∃ n : Int64, n.toInt = decimalValue (digitRun text start) ∧
        number.parse text start =
          .success n (ofOffset text (start + (digitRun text start).length))) ∧
    (digitRun text start ≠ [] → 2 ^ 63 - 1 < decimalValue (digitRun text start) →
      number.parse text start = .failure start ⟨.numberOutOfRange, start⟩) ∧
    ∀ n : Int64, 0 ≤ n → number.parseFull (Value.number n).print = .ok n := by
  refine ⟨fun h => ?_, fun h hle => ?_, fun h hlt => ?_, fun n => parseFull_print_number⟩
  · have hrun : (Parser.many1 digit).run (ofOffset text start) = _ := parse_digits_of_eq_nil h
    simp only [Parser.parse, number, hrun]
  · exact ⟨_, Int64.toInt_ofNat_of_lt (by omega), by rw [parse_number_of_ne_nil h, if_pos hle]⟩
  · rw [parse_number_of_ne_nil h, if_neg (by omega)]

/-- Zeros may lead, and the number that follows the largest is out of range. -/
theorem number_isExact_of_bounds :
    number.parse "é007x" 2 = .success 7 (ofOffset "é007x" 5) ∧
      number.parse "é-1" 2 = .failure 2 ⟨.expectedAtLeastOne, 2⟩ ∧
      number.parse "é9223372036854775808" 2 = .failure 2 ⟨.numberOutOfRange, 2⟩ ∧
      number.parseFull (Value.number Int64.maxValue).print = .ok Int64.maxValue := by
  have hzeros : digitRun "é007x" 2 = ['0', '0', '7'] := by decide +kernel
  have hsign : digitRun "é-1" 2 = [] := by decide +kernel
  have hlarge : digitRun "é9223372036854775808" 2 = "9223372036854775808".toList := by
    decide +kernel
  have hvalue : decimalValue "9223372036854775808".toList = 2 ^ 63 := by decide
  obtain ⟨-, hread, -, hprint⟩ := number_isExact "é007x" 2
  obtain ⟨n, hn, hparse⟩ := hread (by simp [hzeros]) (by rw [hzeros]; decide)
  obtain rfl : n = 7 := Int64.toInt_inj.mp (by rw [hn, hzeros]; decide)
  rw [hzeros] at hparse
  exact ⟨hparse, (number_isExact "é-1" 2).1 hsign,
    (number_isExact "é9223372036854775808" 2).2.2.1 (by simp [hlarge])
      (by rw [hlarge, hvalue]; decide), hprint _ (by decide)⟩

end Reroute.Parsing
