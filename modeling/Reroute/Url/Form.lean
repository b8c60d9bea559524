import Reroute.Text.Split
import Reroute.Url.Percent

/-!
# Form encoding

The query of a URL usually lists names and values: pairs are separated by
ampersands, and a name from its value by the first equals sign. A plus stands for
a blank.

## Main definitions

* `Form.parse` — the pairs of a query
* `Form.serialize` — the query that lists some pairs
-/

set_option autoImplicit false

namespace Reroute.Url.Form

open Text

/-- A name or value as it was before encoding. -/
def decode (text : List Char) : String :=
  String.ofList (utf8Decode (percentDecode (text.map fun x => if x = '+' then ' ' else x)))

/-- Whether a character is written as it is. -/
def isPlain (x : Char) : Bool :=
  x.isAlphanum || x = '*' || x = '-' || x = '.' || x = '_'

/-- A name or value in form encoding. -/
def encode (text : String) : List Char :=
  text.toList.flatMap fun x =>
    if isPlain x then [x]
    else if x = ' ' then ['+']
    else (utf8Encode x).flatMap percentByte

/-- A name and its value. Without an equals sign the value is empty. -/
def readPair (text : List Char) : String × String :=
  (decode (text.takeWhile (· != '=')), decode ((text.dropWhile (· != '=')).drop 1))

/-- The names and values that a query lists, in order. -/
def parse (query : String) : List (String × String) :=
  ((splitBy (· = '&') query.toList).filter (!·.isEmpty)).map readPair

/-- A name and its value, with an equals sign between them. -/
def writePair (pair : String × String) : List Char :=
  encode pair.1 ++ '=' :: encode pair.2

/-- The query that lists some names and values. -/
def serialize (pairs : List (String × String)) : String :=
  String.ofList (joinWith '&' (pairs.map writePair))

end Reroute.Url.Form
