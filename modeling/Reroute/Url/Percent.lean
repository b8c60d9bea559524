import Reroute.Text.Hexadecimal
import Reroute.Text.Utf8

/-!
# Percent-encoding

A byte is written as a percent sign and two hexadecimal digits. Each part of a URL
has its own set of characters that must be written this way; control characters
and everything beyond ASCII always are. A percent sign itself is left alone, so
what was encoded before stays as it is.

## Main definitions

* `percentEncode`, `percentDecode` — write bytes this way, and read them
* `inControlSet`, `inFragmentSet`, `inQuerySet`, `inPathSet`, `inUserInfoSet` —
  what is encoded where
-/

set_option autoImplicit false

namespace Reroute.Url

open Text

/-- A byte as a percent sign and two digits. -/
def percentByte (byte : UInt8) : List Char :=
  ['%', upperHexDigit (byte.toNat / 16), upperHexDigit (byte.toNat % 16)]

/-- Characters that are encoded everywhere: controls and all that is not ASCII. -/
def inControlSet (x : Char) : Bool :=
  x.toNat < 0x20 || 0x7f ≤ x.toNat

/-- What is encoded in a fragment. -/
def inFragmentSet (x : Char) : Bool :=
  inControlSet x || [' ', '"', '<', '>', '\x60'].contains x

/-- What is encoded in a query. Where the scheme is special, the single quote is
encoded as well. -/
def inQuerySet (special : Bool) (x : Char) : Bool :=
  inControlSet x || [' ', '"', '#', '<', '>'].contains x || (special && x = '\'')

/-- What is encoded in a path. -/
def inPathSet (x : Char) : Bool :=
  inFragmentSet x || ['#', '?', '\x7b', '\x7d'].contains x

/-- What is encoded in the name and password of a user. -/
def inUserInfoSet (x : Char) : Bool :=
  inPathSet x || ['/', ':', ';', '=', '@', '[', '\\', ']', '^', '|'].contains x

/-- The text with the characters of a set encoded. -/
def percentEncode (encoded : Char → Bool) (text : List Char) : List Char :=
  text.flatMap fun x => if encoded x then (utf8Encode x).flatMap percentByte else [x]

/-- The bytes of a text. A percent sign without two digits stands for itself. -/
def percentDecode : List Char → List UInt8
  | [] => []
  | '%' :: a :: b :: rest =>
    match hexValue? a, hexValue? b with
    | some m, some n => UInt8.ofNat (16 * m + n) :: percentDecode rest
    | _, _ => utf8Encode '%' ++ percentDecode (a :: b :: rest)
  | x :: rest => utf8Encode x ++ percentDecode rest

end Reroute.Url
