/-!
# Punycode

A label is written in ASCII by giving its ASCII characters first and behind them, for
each other character in order of their numbers, how far it is from the last one. The
distance counts both the numbers of characters and the places in the label between
the two. It is written with digits in base 36, the smallest first, of which a small
one ends it; how small depends on the distances before.

## Main definitions

* `Punycode.encode`, `Punycode.decode?` — write a label, and read it

## Main statements

* `Punycode.digit?_digitChar` — a digit is read back
* `Punycode.length_readDistance?_lt` — reading a distance takes characters away
-/

set_option autoImplicit false

namespace Reroute.Url.Punycode

/-! ### Digits -/

/-- A digit less than 36: small letters, and then the decimal digits. -/
def digitChar (d : Nat) : Char :=
  if d < 26 then Char.ofNat ('a'.toNat + d) else Char.ofNat ('0'.toNat + (d - 26))

/-- The value of a digit. -/
def digit? (x : Char) : Option Nat :=
  if x.isLower then some (x.toNat - 'a'.toNat)
  else if x.isUpper then some (x.toNat - 'A'.toNat)
  else if x.isDigit then some (x.toNat - '0'.toNat + 26)
  else none

/-- A digit is read back. -/
theorem digit?_digitChar {d : Nat} (h : d < 36) : digit? (digitChar d) = some d := by
  have all : ∀ d < 36, digit? (digitChar d) = some d := by decide
  exact all d h

/-- A digit below this one ends a distance. `place` is 36 for the first digit and
grows by 36 from one to the next. -/
def threshold (bias place : Nat) : Nat :=
  if place ≤ bias + 1 then 1 else if bias + 26 ≤ place then 26 else place - bias

theorem threshold_pos (bias place : Nat) : 0 < threshold bias place := by
  unfold threshold
  split
  · omega
  · split <;> omega

theorem threshold_le (bias place : Nat) : threshold bias place ≤ 26 := by
  unfold threshold
  split
  · omega
  · split <;> omega

/-- Divide a distance by 35 until it is small. -/
def scale (distance bias : Nat) : Nat :=
  if 455 < distance then scale (distance / 35) (bias + 36)
  else bias + 36 * distance / (distance + 38)
termination_by distance
decreasing_by exact Nat.div_lt_self (by omega) (by omega)

/-- The bias behind a distance, when the label has `length` characters so far. -/
def adapt (distance length : Nat) (first : Bool) : Nat :=
  let distance := if first then distance / 700 else distance / 2
  scale (distance + distance / length) 0

/-- The bias before the first distance. -/
def firstBias : Nat := 72

/-- The number of the first character beyond ASCII. -/
def firstNumber : Nat := 0x80

/-! ### Writing -/

/-- A distance in digits. -/
def writeDistance (bias place distance : Nat) : List Char :=
  let t := threshold bias place
  if distance < t then [digitChar distance]
  else
    digitChar (t + (distance - t) % (36 - t)) ::
      writeDistance bias (place + 36) ((distance - t) / (36 - t))
termination_by distance
decreasing_by
  have h1 := threshold_pos bias place
  have h2 := Nat.div_le_self (distance - threshold bias place) (36 - threshold bias place)
  omega

/-- What is known while a label is written. -/
structure Writer where
  /-- What is written, backwards. -/
  written : List Char := []
  distance : Nat := 0
  bias : Nat := firstBias
  /-- How many characters are written. -/
  length : Nat

/-- Pass a character of the label when those of number `n` are written. -/
def Writer.pass (basic n : Nat) (w : Writer) (x : Char) : Writer :=
  if x.toNat < n then { w with distance := w.distance + 1 }
  else if x.toNat = n then
    { written := (writeDistance w.bias 36 w.distance).reverse ++ w.written
      distance := 0
      bias := adapt w.distance (w.length + 1) (w.length = basic)
      length := w.length + 1 }
  else w

/-- Write the characters of the given numbers, which ascend. Those below `from` are
written. -/
def Writer.write (basic : Nat) (label : List Char) (w : Writer) (start : Nat) :
    List Nat → Writer
  | [] => w
  | n :: numbers =>
    let w := { w with distance := w.distance + (n - start) * (w.length + 1) }
    let w := label.foldl (Writer.pass basic n) w
    Writer.write basic label { w with distance := w.distance + 1 } (n + 1) numbers

/-- A label in ASCII. -/
def encode (label : List Char) : List Char :=
  let basic := label.filter (·.toNat < firstNumber)
  let numbers := ((label.map Char.toNat).filter (firstNumber ≤ ·)).mergeSort.eraseDups
  let w := Writer.write basic.length label { length := basic.length } firstNumber numbers
  basic ++ (if basic.isEmpty then [] else ['-']) ++ w.written.reverse

/-! ### Reading -/

/-- The distances that can be read are below this number. -/
def distanceBound : Nat := UInt32.size

/-- Read the rest of a distance that is `distance` so far, where the next digit counts
`weight` times. -/
def readDistance? (bias place weight distance : Nat) : List Char → Option (Nat × List Char)
  | [] => none
  | x :: rest =>
    match digit? x with
    | none => none
    | some d =>
      if distanceBound ≤ max (distance + d * weight) weight then none
      else if d < threshold bias place then some (distance + d * weight, rest)
      else
        readDistance? bias (place + 36) (weight * (36 - threshold bias place))
          (distance + d * weight) rest

/-- Reading a distance takes characters away. -/
theorem length_readDistance?_lt {bias place weight distance : Nat} {text : List Char}
    {found : Nat × List Char} (h : readDistance? bias place weight distance text = some found) :
    found.2.length < text.length := by
  induction text generalizing place weight distance with
  | nil => simp [readDistance?] at h
  | cons x rest ih =>
    unfold readDistance? at h
    split at h
    · simp at h
    · split at h
      · simp at h
      · split at h
        · obtain rfl := Option.some.inj h
          simp
        · exact Nat.lt_succ_of_lt (ih h)

/-- Read distances. `label` are the characters so far, the last of which has the
number `n`, and `place` is the place behind it. -/
def readDistances? (bias n place : Nat) (label : List Char) (text : List Char) :
    Option (List Char) :=
  match text with
  | [] => some label
  | x :: rest =>
    match h : readDistance? bias 36 1 0 (x :: rest) with
    | none => none
    | some (distance, rest') =>
      let length := label.length + 1
      let n' := n + (place + distance) / length
      let place' := (place + distance) % length
      if n'.isValidChar then
        readDistances? (adapt distance length (place = 0)) n' (place' + 1)
          (label.insertIdx place' (Char.ofNat n')) rest'
      else
        none
termination_by text.length
decreasing_by exact length_readDistance?_lt h

/-- The ASCII characters of a label and the distances behind the last hyphen. A hyphen
before all else belongs to the distances. -/
def splitBasic (text : List Char) : List Char × List Char :=
  let distances := (text.reverse.takeWhile (· != '-')).reverse
  let basic := text.take (text.length - distances.length - 1)
  if basic.isEmpty then ([], text) else (basic, distances)

/-- Read a label that is written in ASCII. -/
def decode? (text : List Char) : Option (List Char) :=
  let (basic, distances) := splitBasic text
  readDistances? firstBias firstNumber 0 basic distances

end Reroute.Url.Punycode
