import Reroute.Url.Domain.Label

/-!
# Domain names

The name of a host can be written in many ways, in any script and in ASCII. All of
them are led to one name in ASCII, by which it is looked up.

## Main definitions

* `Domain.mapped?` — the text of a name with each character mapped, in normal form
* `Domain.toAscii?` — the name in ASCII
-/

set_option autoImplicit false

namespace Reroute.Url.Domain

open Text

/-- A name with what stands for each of its characters, in normal form. -/
def mapped? (name : List Char) : Option (List Char) :=
  (name.mapM mapChar?).map fun images => normalForm images.flatten

/-- Whether labels may stand together in a domain name. If any of them has characters
that are written from right to left, each must keep to one direction. -/
def areWellFormed (labels : List (List Char)) : Bool :=
  labels.all isWellFormed && (!labels.any isRightToLeft || labels.all keepsDirection)

/-- A domain name in ASCII. -/
def toAscii? (name : List Char) : Option (List Char) := do
  let labels ← (splitBy (· = '.') (← mapped? name)).mapM decodeLabel?
  if areWellFormed labels then
    return joinWith '.' (labels.map encodeLabel)
  else
    none

end Reroute.Url.Domain
