import Reroute.Url.Form
import Reroute.Url.Host
import Reroute.Url.Trail

/-!
# URLs

A URL is kept in parts, each of which is already encoded as it is written. Its path
consists of segments behind slashes, or is opaque where the scheme is directly
followed by something other than a slash.

## Main definitions

* `Url`, `Url.print` — URLs and how they are written
* `Url.queryPairs`, `Url.queryValue?` — what the query lists
* `Url.setPath`, `Url.setQuery`, `Url.dropFragment` — what rules change
-/

set_option autoImplicit false

namespace Reroute

open Text

namespace Url

/-- Who and where: what stands between two slashes and the path. -/
structure Authority where
  /-- The name of a user, possibly empty. -/
  username : String
  /-- The password of a user, possibly empty. -/
  password : String
  host : Host
  /-- The number behind the host, unless it is the one that the scheme implies. -/
  portNumber : Option Nat
deriving DecidableEq, Repr

namespace Authority

/-- The name and password of a user, as they are written before the host. -/
def printUser (a : Authority) : String :=
  if a.username.isEmpty && a.password.isEmpty then ""
  else if a.password.isEmpty then a.username ++ "@"
  else a.username ++ ":" ++ a.password ++ "@"

/-- The authority as it is written. -/
def print (a : Authority) : String :=
  a.printUser ++ a.host.print ++
    match a.portNumber with
    | some n => ":" ++ toString n
    | none => ""

end Authority

end Url

open Url

/-- A URL. -/
structure Url where
  scheme : String
  authority : Option Authority
  /-- Whether a slash and a dot stand before the path of a URL without an authority.
  They keep two slashes at its beginning from looking like those before one. -/
  isGuarded : Bool := false
  path : String
  query : Option String
  fragment : Option String
deriving DecidableEq, Repr

namespace Url

/-- What stands between the scheme and the path. -/
def printAuthority (u : Url) : String :=
  match u.authority with
  | some a => "//" ++ a.print
  | none => if u.isGuarded then "/." else ""

/-- A part that is written behind a sign, where there is one. -/
def printPart (sign : String) : Option String → String
  | some text => sign ++ text
  | none => ""

/-- The URL as it is written. -/
def print (u : Url) : String :=
  u.scheme ++ ":" ++ u.printAuthority ++ u.path ++ printPart "?" u.query ++
    printPart "#" u.fragment

instance : ToString Url := ⟨print⟩

/-- Whether the path has no segments, because the scheme is not followed by a
slash. -/
def isOpaque (u : Url) : Bool :=
  (u.printAuthority ++ u.path).toList.head? != some '/'

/-- The names and values that the query lists, in order. -/
def queryPairs (u : Url) : List (String × String) :=
  Form.parse (u.query.getD "")

/-- The value of the first parameter of a name. -/
def queryValue? (u : Url) (name : String) : Option String :=
  u.queryPairs.lookup name

/-! ### Changing parts -/

/-- An opaque path. A slash that it would begin with is encoded. -/
def opaquePath (text : String) : String :=
  let encode (text : List Char) := percentEncode inControlSet (dropIgnored text)
  String.ofList <|
    match text.toList with
    | '/' :: rest => '%' :: '2' :: 'F' :: encode rest
    | text => encode text

/-- Give the URL another path. Question marks and number signs become part of it. An
opaque path stays one, and what stands before the path does not change. -/
def setPath (u : Url) (text : String) : Url :=
  if u.isOpaque then { u with path := opaquePath text }
  else
    let hasHost := u.authority.any (!·.host.isEmpty)
    { u with path := (readPath u.scheme hasHost text.toList).1 }

/-- Give the URL another query, or none. -/
def setQuery (u : Url) (query : Option String) : Url :=
  { u with query := query.map fun text =>
      String.ofList (percentEncode (inQuerySet (isSpecial u.scheme)) (dropIgnored text.toList)) }

/-- Take the fragment away. Blanks that an opaque path would then end in go with
it. -/
def dropFragment (u : Url) : Url :=
  if u.isOpaque && u.query.isNone then
    { u with
      path := String.ofList (u.path.toList.reverse.dropWhile (· = ' ')).reverse
      fragment := none }
  else
    { u with fragment := none }

end Url

end Reroute
