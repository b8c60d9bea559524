import Reroute.Text.Split
import Reroute.Url.Percent
import Reroute.Url.Scheme

/-!
# Following a path

The segments of a path are followed one by one. Most are added to the path so far.
One dot stands for the place where it is found, and two dots lead back by one
segment, but never past the drive letter of a file system.

The first segment of a path in a file URL may be such a letter, followed by a colon
or a bar, of which the bar becomes a colon.

## Main definitions

* `Trail`, `Trail.add`, `Trail.follow` — the path so far, and one or more segments
  behind it
* `resolve` — follow a whole path
* `readPath` — follow a path that may lack the slash at its beginning
-/

set_option autoImplicit false

namespace Reroute.Url

open Text

/-- Whether a segment of a path stands for the place it is at. -/
def isSingleDot (segment : List Char) : Bool :=
  let text := segment.map Char.toLower
  text = ['.'] || text = ['%', '2', 'e']

/-- Whether a segment of a path leads back. -/
def isDoubleDot (segment : List Char) : Bool :=
  let text := segment.map Char.toLower
  text = ['.', '.'] || text = ['.', '%', '2', 'e'] || text = ['%', '2', 'e', '.'] ||
    text = ['%', '2', 'e', '%', '2', 'e']

/-- Whether a segment begins with a drive letter, which ends there or at a
backslash. -/
def beginsWithDrive : List Char → Bool
  | x :: mark :: rest =>
    x.isAlpha && (mark = ':' || mark = '|') && rest.head?.all (· = '\\')
  | _ => false

/-- Whether a segment is a drive letter. -/
def isDrive (segment : List Char) : Bool :=
  segment.length = 2 && beginsWithDrive segment

/-- The path so far. -/
structure Trail where
  /-- The path, backwards. Where another segment begins, it is empty or ends in a
  slash. -/
  back : List Char
  /-- Whether the first segment of a file URL turned out to be a drive letter. -/
  hasDrive : Bool := false
deriving DecidableEq, Repr

namespace Trail

/-- A path that has only its first slash. -/
def root : Trail :=
  ⟨['/'], false⟩

/-- Go back by one segment. The first slash stays, and so does a drive letter. -/
def parent (back : List Char) : List Char :=
  match back with
  | '/' :: before =>
    let segment := (before.takeWhile (· != '/')).reverse
    if before.contains '/' && !beginsWithDrive segment then before.dropWhile (· != '/') else back
  | _ => back

/-- A segment in encoded form, backwards. In a file URL, what follows a drive letter
behind an ignored character is kept apart from it by a slash. -/
def encodeSegment (isFile : Bool) (back segment : List Char) : List Char :=
  let isOnlyDrive : List Char → Bool
    | [':', x, _] => isFile && x.isAlpha
    | _ => false
  ((splitBy isIgnored segment).filter (!·.isEmpty)).foldl
    (fun added piece =>
      (percentEncode inPathSet piece).reverse ++
        if isOnlyDrive (added ++ back) then '/' :: added else added)
    []

/-- Add a segment; `more` says whether a slash follows it. -/
def add (isFile : Bool) (t : Trail) (segment : List Char) (more : Bool) : Trail :=
  let added := encodeSegment isFile t.back segment
  if isDoubleDot added.reverse then { t with back := parent t.back }
  else if isSingleDot added.reverse then t
  else
    let slash := if more then ['/'] else []
    if isFile && t.back = ['/'] && isDrive added.reverse then
      ⟨slash ++ ':' :: added.drop 1 ++ t.back, true⟩
    else
      { t with back := slash ++ added ++ t.back }

/-- Add segments with slashes between them. -/
def follow (isFile : Bool) (t : Trail) : List (List Char) → Trail
  | [] => t
  | [segment] => t.add isFile segment false
  | segment :: next :: segments => (t.add isFile segment true).follow isFile (next :: segments)

/-- The path as it is written. That of a file URL has one slash at its beginning. -/
def path (isFile : Bool) (t : Trail) : String :=
  if isFile then String.ofList ('/' :: t.back.reverse.dropWhile (· = '/'))
  else String.ofList t.back.reverse

end Trail

/-- Follow a path from `start` on. The result tells as well whether its first
segment is a drive letter. -/
def resolve (scheme : String) (start : Trail) (text : List Char) : String × Bool :=
  let isFile := scheme = "file"
  let t := start.follow isFile (splitBy (isSeparator (isSpecial scheme)) text)
  (t.path isFile, t.hasDrive)

/-- Follow a path that need not begin with a slash. Where the scheme is not special,
a question mark or number sign at the beginning leaves no path. -/
def readPath (scheme : String) (hasHost : Bool) (text : List Char) : String × Bool :=
  let special := isSpecial scheme
  match next? text with
  | none => (if special then "/" else "", false)
  | some (x, rest) =>
    if isSeparator special x then resolve scheme .root rest
    else if !special && (x = '?' || x = '#') then ("", false)
    -- Without a host there is a slash already, which is not part of the path.
    else resolve scheme (if special && !hasHost then ⟨[], false⟩ else .root) text

end Reroute.Url
