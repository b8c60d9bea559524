import Reroute.Regex.Syntax.Flags
import Reroute.Text.Letter

/-!
# Names of groups, and changes of flags

What may stand behind the question mark at the beginning of a group.

## Main definitions

* `readGroupName` — the name of a group
* `readFlags` — flags that are set or taken away
-/

set_option autoImplicit false

namespace Reroute.Regex

open Text (isLetter isNumeral)

/-- Whether a character may stand in the name of a group. -/
def isGroupNameChar (first : Bool) (x : Char) : Bool :=
  x = '_' || isLetter x || (!first && (isNumeral x || x = '.' || x = '[' || x = ']'))

/-- The name of a group, behind the opening angle bracket. -/
def readGroupName (first : Bool) : List Char → Except Error (List Char × List Char)
  | [] => .error .badGroupName
  | '>' :: rest => if first then .error .badGroupName else .ok ([], rest)
  | x :: rest =>
    if isGroupNameChar first x then do
      let (name, rest) ← readGroupName false rest
      return (x :: name, rest)
    else
      .error .badGroupName

/-- Set one flag, or take it away. The letter `u` changes nothing. -/
def Flags.set? (flags : Flags) (value : Bool) : Char → Option Flags
  | 'i' => some { flags with ignoreCase := value }
  | 'm' => some { flags with multiLine := value }
  | 's' => some { flags with dotAll := value }
  | 'U' => some { flags with swapGreed := value }
  | 'R' => some { flags with anyLineEnd := value }
  | 'x' => some { flags with extended := value }
  | 'u' => some flags
  | _ => none

/-- Flags up to a colon or closing parenthesis, which is not read. `seen` holds the
letters before; a hyphen takes away the flags behind it. -/
def readFlags (flags : Flags) (negated : Bool) (seen : List Char) :
    List Char → Except Error (Flags × List Char)
  | [] => .error .badFlags
  | x :: rest =>
    if x = ':' ∨ x = ')' then
      if seen.head? = some '-' then .error .badFlags else .ok (flags, x :: rest)
    else if x ∈ seen then .error .badFlags
    else if x = '-' then readFlags flags true ('-' :: seen) rest
    else
      match flags.set? (!negated) x with
      | some flags => readFlags flags negated (x :: seen) rest
      | none => .error .badFlags

end Reroute.Regex
