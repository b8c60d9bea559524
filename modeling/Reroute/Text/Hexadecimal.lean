/-!
# Hexadecimal digits

Digits are read in either case; how they are written is up to the writer.
-/

set_option autoImplicit false

namespace Reroute.Text

/-- The value of a hexadecimal digit. -/
def hexValue? (x : Char) : Option Nat :=
  if '0' ≤ x ∧ x ≤ '9' then some (x.toNat - '0'.toNat)
  else if 'a' ≤ x ∧ x ≤ 'f' then some (x.toNat - 'a'.toNat + 10)
  else if 'A' ≤ x ∧ x ≤ 'F' then some (x.toNat - 'A'.toNat + 10)
  else none

/-- The uppercase digit with the given value. -/
def upperHexDigit (n : Nat) : Char :=
  if n < 10 then Char.ofNat ('0'.toNat + n) else Char.ofNat ('A'.toNat + (n - 10))

/-- An uppercase digit is read back. -/
theorem hexValue?_upperHexDigit {n : Nat} (h : n < 16) : hexValue? (upperHexDigit n) = some n := by
  have all : ∀ m : Fin 16, hexValue? (upperHexDigit m) = some m.val := by decide
  exact all ⟨n, h⟩

end Reroute.Text
