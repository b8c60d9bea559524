/-!
# UTF-8

A character is encoded as one to four bytes. Decoding never fails: where the bytes
are no encoding, the longest part that could begin one is read as the replacement
character.

## Main definitions

* `utf8Encode` — the bytes of a character
* `utf8Decode` — the characters of any bytes
-/

set_option autoImplicit false

namespace Reroute.Text

/-- The bytes that encode a character: a first byte that tells how many there are,
and six bits in each of the others. -/
def utf8Encode (x : Char) : List UInt8 :=
  let n := x.toNat
  if n < 0x80 then [.ofNat n]
  else if n < 0x800 then [.ofNat (0xc0 + n / 0x40), .ofNat (0x80 + n % 0x40)]
  else if n < 0x10000 then
    [.ofNat (0xe0 + n / 0x1000), .ofNat (0x80 + n / 0x40 % 0x40), .ofNat (0x80 + n % 0x40)]
  else
    [.ofNat (0xf0 + n / 0x40000), .ofNat (0x80 + n / 0x1000 % 0x40),
      .ofNat (0x80 + n / 0x40 % 0x40), .ofNat (0x80 + n % 0x40)]

/-- The character that stands for bytes that encode none. -/
def replacement : Char := '\ufffd'

/-- What the first byte of a character of several bytes says: how many bytes
follow, the bounds of the next one, and the bits that the byte itself contributes.
The bounds rule out encodings that are longer than needed or encode no character. -/
def leadByte? (byte : Nat) : Option (Nat × Nat × Nat × Nat) :=
  if 0xc2 ≤ byte ∧ byte ≤ 0xdf then some (1, 0x80, 0xbf, byte - 0xc0)
  else if byte = 0xe0 then some (2, 0xa0, 0xbf, 0)
  else if byte = 0xed then some (2, 0x80, 0x9f, 0xd)
  else if 0xe1 ≤ byte ∧ byte ≤ 0xef then some (2, 0x80, 0xbf, byte - 0xe0)
  else if byte = 0xf0 then some (3, 0x90, 0xbf, 0)
  else if byte = 0xf4 then some (3, 0x80, 0x8f, 4)
  else if 0xf1 ≤ byte ∧ byte ≤ 0xf3 then some (3, 0x80, 0xbf, byte - 0xf0)
  else none

/-- Read the remaining `count` bytes of a character, the first of them between
`low` and `high`; `value` are the bits so far. -/
def continuation (low high : Nat) : (count value : Nat) → List UInt8 → Char × List UInt8
  | 0, value, bytes => (Char.ofNat value, bytes)
  | _ + 1, _, [] => (replacement, [])
  | count + 1, value, byte :: bytes =>
    if low ≤ byte.toNat ∧ byte.toNat ≤ high then
      continuation 0x80 0xbf count (0x40 * value + byte.toNat % 0x40) bytes
    else
      (replacement, byte :: bytes)

theorem length_continuation_le (low high count value : Nat) (bytes : List UInt8) :
    (continuation low high count value bytes).2.length ≤ bytes.length := by
  induction bytes generalizing low high count value with
  | nil => cases count <;> simp [continuation]
  | cons byte bytes ih =>
    cases count with
    | zero => simp [continuation]
    | succ count =>
      rw [continuation]
      split
      · exact Nat.le_succ_of_le (ih ..)
      · simp

/-- The characters that some bytes encode. -/
def utf8Decode : List UInt8 → List Char
  | [] => []
  | byte :: bytes =>
    if byte.toNat < 0x80 then Char.ofNat byte.toNat :: utf8Decode bytes
    else
      match leadByte? byte.toNat with
      | none => replacement :: utf8Decode bytes
      | some (count, low, high, value) =>
        let next := continuation low high count value bytes
        next.1 :: utf8Decode next.2
termination_by bytes => bytes.length
decreasing_by
  · simp
  · simp
  · exact Nat.lt_succ_of_le (length_continuation_le ..)

end Reroute.Text
