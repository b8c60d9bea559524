import Reroute.Text.Utf8

/-!
# Reading what was encoded

The bytes of a text are read as this text, whatever characters it has.

## Main results

* `utf8Decode_utf8Encode_append` — the bytes of one character are read as it
* `utf8Decode_flatMap_utf8Encode` — so are those of all characters of a text
-/

set_option autoImplicit false

namespace Reroute.Text

theorem toNat_byte {n : Nat} (hn : n < 0x100) : (UInt8.ofNat n).toNat = n := by
  rw [UInt8.toNat_ofNat']
  omega

/-- What the first byte of a character of several bytes says is read on. -/
theorem utf8Decode_of_leadByte {n count low high value : Nat} {bytes : List UInt8}
    (hn : n < 0x100) (hfirst : 0x80 ≤ n) (h : leadByte? n = some (count, low, high, value)) :
    utf8Decode (.ofNat n :: bytes) =
      (continuation low high count value bytes).1 ::
        utf8Decode (continuation low high count value bytes).2 := by
  rw [utf8Decode, toNat_byte hn, if_neg (by omega), h]

theorem continuation_cons {low high count value n : Nat} {bytes : List UInt8}
    (hn : n < 0x40) (hlow : low ≤ 0x80 + n) (hhigh : 0x80 + n ≤ high) :
    continuation low high (count + 1) value (.ofNat (0x80 + n) :: bytes) =
      continuation 0x80 0xbf count (0x40 * value + n) bytes := by
  have hmod : (0x80 + n) % 0x40 = n := by omega
  rw [continuation, toNat_byte (by omega), if_pos ⟨hlow, hhigh⟩, hmod]

theorem leadByte_two {n : Nat} (hle : 2 ≤ n) (hlt : n < 0x20) :
    leadByte? (0xc0 + n) = some (1, 0x80, 0xbf, n) := by
  rw [leadByte?, if_pos (by omega)]
  simp

/-- The bytes behind the first one begin later where fewer would do, and end earlier where the
numbers are no characters. -/
theorem leadByte_three {n : Nat} (hlt : n < 0x10) :
    leadByte? (0xe0 + n) =
      some (2, if n = 0 then 0xa0 else 0x80, if n = 13 then 0x9f else 0xbf, n) := by
  unfold leadByte?
  repeat' split
  all_goals first | omega | (simp <;> omega)

theorem leadByte_four {n : Nat} (hle : n ≤ 4) :
    leadByte? (0xf0 + n) =
      some (3, if n = 0 then 0x90 else 0x80, if n = 4 then 0x8f else 0xbf, n) := by
  unfold leadByte?
  repeat' split
  all_goals first | omega | (simp <;> omega)

/-- The bytes of a character are read as this character. -/
theorem utf8Decode_utf8Encode_append (x : Char) (bytes : List UInt8) :
    utf8Decode (utf8Encode x ++ bytes) = x :: utf8Decode bytes := by
  have hvalid : x.toNat < 0xd800 ∨ 0xdfff < x.toNat ∧ x.toNat < 0x110000 := x.valid
  have hx := Char.ofNat_toNat x
  rw [utf8Encode]
  generalize x.toNat = n at hvalid hx
  split
  -- One case for each number of bytes; the first byte tells which it is.
  · rw [List.singleton_append, utf8Decode, toNat_byte (by omega), if_pos ‹_›, hx]
  split
  · have hlead := leadByte_two (n := n / 0x40) (by omega) (by omega)
    have hvalue : 0x40 * (n / 0x40) + n % 0x40 = n := by omega
    rw [List.cons_append, List.singleton_append,
      utf8Decode_of_leadByte (by omega) (by omega) hlead,
      continuation_cons (by omega) (by omega) (by omega), continuation, hvalue, hx]
  split
  · have hlead := leadByte_three (n := n / 0x1000) (by omega)
    have hvalue : 0x40 * (0x40 * (n / 0x1000) + n / 0x40 % 0x40) + n % 0x40 = n := by omega
    rw [List.cons_append, List.cons_append, List.singleton_append,
      utf8Decode_of_leadByte (by omega) (by omega) hlead,
      continuation_cons (by omega) (by split <;> omega) (by split <;> omega),
      continuation_cons (by omega) (by omega) (by omega), continuation, hvalue, hx]
  · have hlead := leadByte_four (n := n / 0x40000) (by omega)
    have hvalue : 0x40 * (0x40 * (0x40 * (n / 0x40000) + n / 0x1000 % 0x40) + n / 0x40 % 0x40) +
        n % 0x40 = n := by omega
    rw [List.cons_append, List.cons_append, List.cons_append, List.singleton_append,
      utf8Decode_of_leadByte (by omega) (by omega) hlead,
      continuation_cons (by omega) (by split <;> omega) (by split <;> omega),
      continuation_cons (by omega) (by omega) (by omega),
      continuation_cons (by omega) (by omega) (by omega), continuation, hvalue, hx]

theorem utf8Decode_flatMap_utf8Encode (text : List Char) :
    utf8Decode (text.flatMap utf8Encode) = text := by
  induction text with
  | nil => rw [List.flatMap_nil, utf8Decode]
  | cons x rest ih => rw [List.flatMap_cons, utf8Decode_utf8Encode_append, ih]

end Reroute.Text
