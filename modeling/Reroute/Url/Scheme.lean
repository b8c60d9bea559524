/-!
# Schemes

Schemes such as `http` are special: their URLs have a host, their paths begin with
a slash, and a backslash counts as a slash.

## Main definitions

* `specialSchemes`, `isSpecial` — the special schemes
* `isSeparator` — what separates the segments of a path
* `isIgnored`, `next?` — what is ignored within a URL, and the first character that
  is not
-/

set_option autoImplicit false

namespace Reroute.Url

/-- The schemes whose URLs are read in a special way, with the numbers that need
not be written behind the host. -/
def specialSchemes : List (String × Option Nat) :=
  [("http", some 80), ("https", some 443), ("ws", some 80), ("wss", some 443),
    ("ftp", some 21), ("file", none)]

/-- Whether a scheme is special. -/
def isSpecial (scheme : String) : Bool :=
  (specialSchemes.lookup scheme).isSome

/-- Whether a character separates segments. -/
def isSeparator (special : Bool) (x : Char) : Bool :=
  x = '/' || (special && x = '\\')

/-- Tabulators and ends of lines are ignored wherever they occur. -/
def isIgnored (x : Char) : Bool :=
  x = '\t' || x = '\n' || x = '\r'

/-- A text without the characters that are ignored. -/
def dropIgnored (text : List Char) : List Char :=
  text.filter (!isIgnored ·)

/-- The first character that is not ignored, and what follows it. -/
def next? (text : List Char) : Option (Char × List Char) :=
  match text.dropWhile isIgnored with
  | [] => none
  | x :: rest => some (x, rest)

end Reroute.Url
