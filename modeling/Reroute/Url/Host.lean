import Reroute.Text.Split
import Reroute.Url.Domain
import Reroute.Url.Percent

/-!
# Hosts

The host of a URL is a name or a network address. In a URL whose scheme is special
a name is percent-decoded and led to its ASCII form, and a name whose last part is a
number is an address of four bytes. In other URLs a name is kept as it is.

## Main definitions

* `Host`, `Host.print` — hosts and how they are written
* `Host.parse`, `Host.parseOther` — read the host of a URL with a special scheme or
  another one
* `Url.Error` — what can be wrong with a URL
-/

set_option autoImplicit false

namespace Reroute.Url

open Text

/-- What can be wrong with a URL. -/
inductive Error where
  /-- There is no scheme, so the URL is relative to some other. -/
  | relative
  /-- There is no host where one is needed. -/
  | emptyHost
  /-- What follows the host is no number of 16 bits. -/
  | invalidPortNumber
  /-- The host ends in a number, but is no address of four bytes. -/
  | invalidIPv4
  /-- The host is in brackets, but is no address of eight groups. -/
  | invalidIPv6
  /-- The host has a character that no domain may have. -/
  | invalidDomain
  /-- The host of a URL without a special scheme has a character that it may not
  have. -/
  | invalidHostChar
deriving DecidableEq, Repr

/-- The error in words. -/
def Error.message : Error → String
  | relative => "relative URL without a base"
  | emptyHost => "empty host"
  | invalidPortNumber => "invalid port number"
  | invalidIPv4 => "invalid IPv4 address"
  | invalidIPv6 => "invalid IPv6 address"
  | invalidDomain => "invalid international domain name"
  | invalidHostChar => "invalid domain character"

/-- The host of a URL. -/
inductive Host where
  /-- A name, possibly empty. -/
  | name (text : String)
  /-- An address of 32 bits. -/
  | ipv4 (address : Nat)
  /-- An address of eight groups of 16 bits. -/
  | ipv6 (groups : List Nat)
deriving DecidableEq, Repr

namespace Host

/-! ### Addresses of four bytes -/

/-- The value of digits in a base, where `digit?` reads one. -/
def digitsValue? (digit? : Char → Option Nat) (base : Nat) (digits : List Char) : Option Nat :=
  digits.foldlM (fun value x => (digit? x).map fun d => base * value + d) 0

/-- A digit less than `base`. -/
def digitBelow? (base : Nat) (x : Char) : Option Nat :=
  (hexValue? x).filter (· < base)

/-- A part of an address: decimal, octal behind a zero, or hexadecimal behind a
zero and an `x`. Nothing behind these signs counts as zero. -/
def ipv4Number? (part : List Char) : Option Nat :=
  match part with
  | [] => none
  | '0' :: 'x' :: digits | '0' :: 'X' :: digits => digitsValue? (digitBelow? 16) 16 digits
  | '0' :: x :: digits => digitsValue? (digitBelow? 8) 8 (x :: digits)
  | digits => digitsValue? (digitBelow? 10) 10 digits

/-- The parts of a name between dots, without an empty one at the end. -/
def labels (text : List Char) : List (List Char) :=
  let parts := splitBy (· = '.') text
  if 1 < parts.length ∧ parts.getLast? = some [] then parts.dropLast else parts

/-- Whether the last part of a name is a number. -/
def endsInNumber (text : List Char) : Bool :=
  match (labels text).getLast? with
  | some part => (!part.isEmpty && part.all Char.isDigit) || (ipv4Number? part).isSome
  | none => false

/-- The address with the given parts. The last part fills all the bytes that the
others leave over. -/
def ipv4OfParts? (parts : List Nat) : Option Nat :=
  match parts.getLast? with
  | none => none
  | some last =>
    let first := parts.dropLast
    if 3 < first.length ∨ 1 <<< (8 * (4 - first.length)) ≤ last ∨ first.any (255 < ·) then none
    else some (first.zipIdx.foldl (fun sum (n, i) => sum + n <<< (8 * (3 - i))) last)

/-- The address that a name stands for. -/
def ipv4? (text : List Char) : Option Nat :=
  ((labels text).mapM ipv4Number?).bind ipv4OfParts?

/-- The four bytes of an address, with dots between them. -/
def printIPv4 (address : Nat) : String :=
  ".".intercalate ([3, 2, 1, 0].map fun i => toString (address >>> (8 * i) % 256))

/-! ### Addresses of eight groups -/

/-- Lowercase hexadecimal digits without leading zeros. -/
def lowerHex (n : Nat) : String :=
  String.ofList (Nat.toDigits 16 n)

/-- A byte in decimal, without leading zeros. -/
def decimalByte? (digits : List Char) : Option Nat :=
  if digits.head? = some '0' ∧ digits ≠ ['0'] ∨ digits = [] ∨ 3 < digits.length then none
  else (digitsValue? (digitBelow? 10) 10 digits).filter (· < 256)

/-- The two groups that four bytes in decimal stand for. -/
def dottedGroups? (text : List Char) : Option (List Nat) :=
  match (splitBy (· = '.') text).mapM decimalByte? with
  | some [a, b, c, d] => some [256 * a + b, 256 * c + d]
  | _ => none

/-- A group of one to four hexadecimal digits. -/
def hexGroup? (digits : List Char) : Option Nat :=
  if digits = [] ∨ 4 < digits.length then none else digitsValue? hexValue? 16 digits

/-- Groups with colons between them. If `dotted`, the last two may be written as
four bytes. -/
def groups? (dotted : Bool) (text : List Char) : Option (List Nat) :=
  let parts := splitBy (· = ':') text
  match parts.getLast? with
  | none => none
  | some last =>
    if dotted && last.contains '.' then do
      let first ← parts.dropLast.mapM hexGroup?
      let final ← dottedGroups? last
      return first ++ final
    else
      parts.mapM hexGroup?

/-- The text before the first two colons in a row, and the text behind them. -/
def splitDoubleColon? : List Char → Option (List Char × List Char)
  | ':' :: ':' :: rest => some ([], rest)
  | x :: rest => (splitDoubleColon? rest).map fun (first, last) => (x :: first, last)
  | [] => none

/-- An address of eight groups. Once, two colons may stand for any number of groups
that are zero. -/
def ipv6? (text : List Char) : Option (List Nat) :=
  match splitDoubleColon? text with
  | none => (groups? true text).filter (·.length = 8)
  | some (first, last) => do
    let before ← if first = [] then some [] else groups? false first
    let behind ← if last = [] then some [] else groups? true last
    if before.length + behind.length ≤ 7 then
      return before ++ List.replicate (8 - before.length - behind.length) 0 ++ behind
    else
      none

/-- The number of zeros at the beginning. -/
def zeroRun (groups : List Nat) : Nat :=
  (groups.takeWhile (· = 0)).length

/-- Where the longest run of zeros begins, and its length; the first such run. -/
def longestZeroRun : List Nat → Nat × Nat
  | [] => (0, 0)
  | group :: groups =>
    let here := zeroRun (group :: groups)
    let (start, length) := longestZeroRun groups
    if here < length then (start + 1, length) else (0, here)

/-- Groups in hexadecimal, with colons between them. -/
def printGroups (groups : List Nat) : String :=
  ":".intercalate (groups.map lowerHex)

/-- An address in its shortest form: the first longest run of two or more zeros is
left out. -/
def printIPv6 (groups : List Nat) : String :=
  let (start, length) := longestZeroRun groups
  if length < 2 then printGroups groups
  else printGroups (groups.take start) ++ "::" ++ printGroups (groups.drop (start + length))

/-! ### Hosts -/

/-- The host as it is written in a URL. -/
def print : Host → String
  | name text => text
  | ipv4 address => printIPv4 address
  | ipv6 groups => "[" ++ printIPv6 groups ++ "]"

/-- Whether there is no host to speak of. -/
def isEmpty : Host → Bool
  | name text => text.isEmpty
  | _ => false

/-- Characters that no host may have, whatever the scheme. -/
def isForbiddenOther (x : Char) : Bool :=
  ['\x00', '\t', '\n', '\r', ' ', '#', '/', ':', '<', '>', '?', '@', '[', '\\', ']', '^',
    '|'].contains x

/-- A host in brackets, behind the opening one. -/
def parseBracketed (text : List Char) : Except Error Host :=
  if text.getLast? = some ']' then
    match ipv6? text.dropLast with
    | some groups => .ok (.ipv6 groups)
    | none => .error .invalidIPv6
  else
    .error .invalidIPv6

/-- The host of a URL whose scheme is special. -/
def parse (text : List Char) : Except Error Host :=
  match text with
  | '[' :: rest => parseBracketed rest
  | _ =>
    match Domain.toAscii? (utf8Decode (percentDecode text)) with
    | none => .error .invalidDomain
    | some domain =>
      if domain.isEmpty then .error .emptyHost
      else if endsInNumber domain then
        match ipv4? domain with
        | some address => .ok (.ipv4 address)
        | none => .error .invalidIPv4
      else
        .ok (.name (String.ofList domain))

/-- The host of a URL whose scheme is not special. -/
def parseOther (text : List Char) : Except Error Host :=
  match text with
  | '[' :: rest => parseBracketed rest
  | _ =>
    if text.any isForbiddenOther then .error .invalidHostChar
    else .ok (.name (String.ofList (percentEncode inControlSet text)))

end Host

end Reroute.Url
