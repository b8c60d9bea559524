import Reroute.Url.Basic

/-!
# Reading URLs

A URL is cut at its delimiters into scheme, authority, path, query and fragment,
and each part is read on its own. Only absolute URLs are read, so the scheme is
needed.

## Main definitions

* `Url.parse` — read a URL
* `Url.splitScheme?`, `Url.readAuthority`, `Url.withQueryAndFragment` — the parts
-/

set_option autoImplicit false

namespace Reroute.Url

/-- Whether a character may stand in a scheme behind its first letter. -/
def isSchemeChar (x : Char) : Bool :=
  x.isAlphanum || x = '+' || x = '-' || x = '.'

/-- The scheme in lowercase, and what follows its colon. -/
def splitScheme? (text : List Char) : Option (String × List Char) :=
  let inScheme (x : Char) : Bool := isSchemeChar x || isIgnored x
  match text, text.dropWhile inScheme with
  | x :: _, ':' :: rest =>
    if x.isAlpha then
      some (String.ofList ((dropIgnored (text.takeWhile inScheme)).map Char.toLower), rest)
    else
      none
  | _, _ => none

/-- Whether a character ends the authority. -/
def endsAuthority (special : Bool) (x : Char) : Bool :=
  isSeparator special x || x = '?' || x = '#'

/-- The text before the last at sign, where there is one, and the text behind. -/
def splitUser (text : List Char) : Option (List Char) × List Char :=
  let host := (text.reverse.takeWhile (· != '@')).reverse
  let user := text.take (text.length - host.length - 1)
  if text.contains '@' then (some user, host) else (none, text)

/-- The host, and what follows it from a colon outside of brackets on. -/
def splitHost (bracketed : Bool) : List Char → List Char × List Char
  | [] => ([], [])
  | x :: rest =>
    if x = ':' && !bracketed then ([], x :: rest)
    else
      let (host, rest) := splitHost (x = '[' || (x != ']' && bracketed)) rest
      (x :: host, rest)

/-- The number behind the host, unless the scheme implies it. Where a backslash does
not end the authority, it ends the number. -/
def readPortNumber (scheme : String) (text : List Char) :
    Except Error (Option Nat × List Char) :=
  let digits := text.takeWhile Char.isDigit
  let rest := text.dropWhile Char.isDigit
  let n := Nat.ofDigitChars 10 digits 0
  if 65535 < n then .error .invalidPortNumber
  else if rest ≠ [] ∧ rest.head? ≠ some '\\' then .error .invalidPortNumber
  else if digits = [] ∨ specialSchemes.lookup scheme = some (some n) then .ok (none, rest)
  else .ok (some n, rest)

/-- The name and password of a user, encoded. -/
def readUser (text : List Char) : String × String :=
  let encode (part : List Char) := String.ofList (percentEncode inUserInfoSet part)
  (encode (text.takeWhile (· != ':')), encode ((text.dropWhile (· != ':')).drop 1))

/-- Read an authority, which has a host unless the scheme is not special. What
follows the number behind the host is returned. `isLast` says whether nothing
follows the authority. -/
def readAuthority (scheme : String) (text : List Char) (isLast : Bool) :
    Except Error (Authority × List Char) := do
  let (user, rest) := splitUser text
  if user = some [] ∧ rest = [] ∧ !isLast then
    throw .emptyHost
  let (username, password) := readUser (user.getD [])
  let (hostText, rest) := splitHost false rest
  let host ←
    if isSpecial scheme then
      if hostText = [] then throw .emptyHost else Host.parse hostText
    else
      Host.parseOther hostText
  if host.isEmpty ∧ (rest ≠ [] ∨ !username.isEmpty ∨ !password.isEmpty) then
    throw .emptyHost
  let (portNumber, rest) ←
    match rest with
    | ':' :: rest => readPortNumber scheme rest
    | rest => pure (none, rest)
  return ({ username, password, host, portNumber }, rest)

/-- The text before a question mark or number sign, and the text from there on. -/
def splitPath (text : List Char) : List Char × List Char :=
  let inPath (x : Char) : Bool := x != '?' && x != '#'
  (text.takeWhile inPath, text.dropWhile inPath)

/-- Read a query and a fragment, and put them behind a URL that has neither. -/
def withQueryAndFragment (u : Url) (text : List Char) : Url :=
  let beforeFragment := text.takeWhile (· != '#')
  { u with
    query :=
      match beforeFragment.dropWhile (· != '?') with
      | _ :: query =>
        some (String.ofList (percentEncode (inQuerySet (isSpecial u.scheme)) (dropIgnored query)))
      | [] => none
    fragment :=
      match text.dropWhile (· != '#') with
      | _ :: fragment =>
        some (String.ofList (percentEncode inFragmentSet (dropIgnored fragment)))
      | [] => none }

/-- Read what follows the slashes before an authority. -/
def parseWithAuthority (scheme : String) (text : List Char) : Except Error Url := do
  let ends := endsAuthority (isSpecial scheme)
  let rest := text.dropWhile (!ends ·)
  let (authority, before) ←
    readAuthority scheme (dropIgnored (text.takeWhile (!ends ·))) rest.isEmpty
  let (path, rest) := splitPath (before ++ rest)
  let (path, _) := readPath scheme true path
  return withQueryAndFragment
    { scheme, authority := some authority, path, query := none, fragment := none } rest

/-- Read what follows the colon of a scheme that is not special, if it does not begin
with two slashes. -/
def parseWithoutAuthority (scheme : String) (text : List Char) : Url :=
  let (path, rest) := splitPath text
  match next? path with
  | some ('/', path) =>
    let (path, _) := resolve scheme .root path
    let isGuarded := "//".toList.isPrefixOf path.toList
    withQueryAndFragment
      { scheme, authority := none, isGuarded, path, query := none, fragment := none } rest
  | _ =>
    let path := String.ofList (percentEncode inControlSet (dropIgnored path))
    withQueryAndFragment
      { scheme, authority := none, path, query := none, fragment := none } rest

/-- A file URL with a host, which is empty for the machine itself. -/
def fileUrl (host : Host) (path : String) (rest : List Char) : Url :=
  let authority : Authority := { username := "", password := "", host, portNumber := none }
  withQueryAndFragment
    { scheme := "file", authority := some authority, path, query := none, fragment := none } rest

/-- Read what follows the two slashes of a file URL. Where the host would be a drive
letter, the path begins. A path that has a drive letter leaves the host out. -/
def parseFileWithHost (text : List Char) : Except Error Url := do
  let ends := endsAuthority true
  let hostText := dropIgnored (text.takeWhile (!ends ·))
  let host ← if hostText = [] || isDrive hostText then pure (.name "") else Host.parse hostText
  if isDrive hostText then
    let (path, rest) := splitPath text
    return fileUrl (.name "") (resolve "file" .root path).1 rest
  else
    let (path, rest) := splitPath (text.dropWhile (!ends ·))
    if host = .name "" || host = .name "localhost" then
      return fileUrl (.name "") (resolve "file" .root path).1 rest
    else
      let (path, hasDrive) := readPath "file" true path
      return fileUrl (if hasDrive then .name "" else host) path rest

/-- Read a file URL behind its colon. -/
def parseFile (text : List Char) : Except Error Url :=
  let withoutHost (text : List Char) : Url :=
    let (path, rest) := splitPath text
    fileUrl (.name "") (resolve "file" .root path).1 rest
  match next? text with
  | some (x, rest) =>
    if isSeparator true x then
      match next? rest with
      | some (y, behind) =>
        if isSeparator true y then parseFileWithHost behind else .ok (withoutHost rest)
      | none => .ok (withoutHost rest)
    else
      .ok (withoutHost text)
  | none => .ok (withoutHost text)

/-- Read an absolute URL. White space and control characters around it are
ignored. -/
def parse (text : String) : Except Error Url :=
  let outside (x : Char) : Bool := x.toNat ≤ 0x20
  let trimmed := ((text.toList.dropWhile outside).reverse.dropWhile outside).reverse
  match splitScheme? trimmed with
  | none => .error .relative
  | some (scheme, rest) =>
    if scheme = "file" then parseFile rest
    else if isSpecial scheme then
      -- Any number of slashes, also none, may stand before the host.
      parseWithAuthority scheme (rest.dropWhile fun x => isSeparator true x || isIgnored x)
    else
      match (next? rest).map fun (x, rest) => (x, next? rest) with
      | some ('/', some ('/', rest)) => parseWithAuthority scheme rest
      | _ => .ok (parseWithoutAuthority scheme rest)

end Reroute.Url
