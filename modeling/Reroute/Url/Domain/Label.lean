import Reroute.Text.Split
import Reroute.Url.Domain.Direction
import Reroute.Url.Domain.Joining
import Reroute.Url.Domain.Mapping
import Reroute.Url.Domain.NormalForm
import Reroute.Url.Punycode

/-!
# Labels

A domain name consists of labels with dots between them. A label beyond ASCII is
written in ASCII behind a prefix of four characters.

## Main definitions

* `encodeLabel`, `decodeLabel?` — a label in ASCII and as it is read
* `isWellFormed` — labels that may stand in a domain name
-/

set_option autoImplicit false

namespace Reroute.Url.Domain

/-- Whether a text is ASCII. -/
def isAscii (text : List Char) : Bool :=
  text.all (·.toNat < 0x80)

/-- What stands before a label that is written in ASCII. -/
def asciiPrefix : List Char := ['x', 'n', '-', '-']

/-- The number of characters that a label beyond ASCII may have. -/
def maxLength : Nat := 1000

/-- The number of characters that may stand behind the prefix of a label. -/
def maxEncodedLength : Nat := 2000

/-- A label in ASCII. -/
def encodeLabel (label : List Char) : List Char :=
  if isAscii label then label else asciiPrefix ++ Punycode.encode label

/-- A label as it is read. Behind the prefix there must be one that could not be
written without, and that would be mapped to itself. -/
def decodeLabel? (label : List Char) : Option (List Char) :=
  if asciiPrefix.isPrefixOf label then
    let encoded := label.drop asciiPrefix.length
    if isAscii encoded && encoded.length ≤ maxEncodedLength then
      (Punycode.decode? encoded).filter fun decoded =>
        !isAscii decoded && !asciiPrefix.isPrefixOf decoded && decoded.all isValid &&
          normalForm decoded = decoded
    else
      none
  else
    some label

/-- Characters that no domain name may have. -/
def isForbidden (x : Char) : Bool :=
  x.toNat ≤ 0x20 || x.toNat = 0x7f ||
    ['%', '#', '/', ':', '<', '>', '?', '@', '[', '\\', ']', '^', '|'].contains x

/-- Whether a label may stand in a domain name. -/
def isWellFormed (label : List Char) : Bool :=
  !label.any isForbidden && !label.head?.any isMark && joinersAllowed [] label &&
    (isAscii label || label.length ≤ maxLength)

/-- An ASCII label is written as it is. -/
theorem encodeLabel_of_isAscii {label : List Char} (h : isAscii label) :
    encodeLabel label = label := by
  simp [encodeLabel, h]

end Reroute.Url.Domain
