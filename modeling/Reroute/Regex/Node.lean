import Reroute.Regex.CharSet

/-!
# Regular expressions as trees

The tree of a regular expression says what is tried, and in which order: of two
alternatives the first is preferred, and a repetition prefers to go on if it is
greedy and to stop otherwise.

## Main definitions

* `Look`, `Look.holds` — conditions on the place between two characters
* `Node` — the tree
* `Node.repetition` — any of the repetitions, given by the least and the greatest
  number of times
* `Node.canBeEmpty`, `Node.hasGroup` — what a tree may match, and what it remembers
-/

set_option autoImplicit false

namespace Reroute.Regex

/-- A condition on a place in a text. Lines end at line feeds, or at any of
carriage return, line feed and both where the name says so. -/
inductive Look where
  | start
  | end
  | lineStart
  | lineEnd
  | anyLineStart
  | anyLineEnd
  | wordBoundary
  | noWordBoundary
  | wordStart
  | wordEnd
  | wordStartHalf
  | wordEndHalf
deriving DecidableEq, Repr

namespace Look

/-- Whether the condition holds between two characters; `none` stands for the
start or the end of the text. -/
def holds (look : Look) (before after : Option Char) : Bool :=
  let wordBefore := before.any isWordChar
  let wordAfter := after.any isWordChar
  match look with
  | .start => before.isNone
  | .end => after.isNone
  | .lineStart => before.isNone || before == some '\n'
  | .lineEnd => after.isNone || after == some '\n'
  | .anyLineStart =>
    before.isNone || before == some '\n' || (before == some '\r' && after != some '\n')
  | .anyLineEnd =>
    after.isNone || after == some '\r' || (after == some '\n' && before != some '\r')
  | .wordBoundary => wordBefore != wordAfter
  | .noWordBoundary => wordBefore == wordAfter
  | .wordStart => !wordBefore && wordAfter
  | .wordEnd => wordBefore && !wordAfter
  | .wordStartHalf => !wordBefore
  | .wordEndHalf => !wordAfter

end Look

/-- A regular expression. -/
inductive Node where
  /-- Matches between two characters. -/
  | empty
  /-- Matches one character. -/
  | char (x : Char)
  /-- Matches one character of a set. -/
  | set (chars : CharSet)
  /-- Matches between two characters that meet a condition. -/
  | look (condition : Look)
  /-- Matches what `body` matches and remembers where. -/
  | capture (index : Nat) (body : Node)
  /-- One after the other. -/
  | seq (first second : Node)
  /-- One or the other. -/
  | alt (first second : Node)
  /-- Exactly `count` times. -/
  | times (count : Nat) (body : Node)
  /-- At most `count` times. -/
  | upTo (count : Nat) (greedy : Bool) (body : Node)
  /-- Once or more. -/
  | plus (greedy : Bool) (body : Node)
deriving DecidableEq, Repr

namespace Node

instance : Inhabited Node := ⟨empty⟩

/-- Nodes one after the other. -/
def concat : List Node → Node
  | [] => empty
  | [node] => node
  | node :: nodes => seq node (concat nodes)

/-- The first of some nodes that leads to a match. -/
def alternation : List Node → Node
  | [] => empty
  | [node] => node
  | node :: nodes => alt node (alternation nodes)

/-- `body` from `least` up to `most` times, without bound if there is no `most`.
A repetition that need not happen and may go on without end is an optional one of
at least once, so an empty turn is taken at most once. -/
def repetition (least : Nat) (most : Option Nat) (greedy : Bool) (body : Node) : Node :=
  match least, most with
  | _, some 0 => empty
  | 1, some 1 => body
  | 0, none => upTo 1 greedy (plus greedy body)
  | 1, none => plus greedy body
  | n + 2, none => seq (times (n + 1) body) (plus greedy body)
  | n, some m =>
    if n = m then times m body
    else if n = 0 then upTo m greedy body
    else seq (times n body) (upTo (m - n) greedy body)

/-- Whether a match may have no characters. -/
def canBeEmpty : Node → Bool
  | empty => true
  | char _ => false
  | set _ => false
  | look _ => true
  | capture _ body => body.canBeEmpty
  | seq first second => first.canBeEmpty && second.canBeEmpty
  | alt first second => first.canBeEmpty || second.canBeEmpty
  | times count body => count = 0 || body.canBeEmpty
  | upTo _ _ _ => true
  | plus _ body => body.canBeEmpty

/-- Whether the group of the given number is in the tree. -/
def hasGroup (group : Nat) : Node → Bool
  | empty => false
  | char _ => false
  | set _ => false
  | look _ => false
  | capture index body => index = group || body.hasGroup group
  | seq first second => first.hasGroup group || second.hasGroup group
  | alt first second => first.hasGroup group || second.hasGroup group
  | times _ body => body.hasGroup group
  | upTo _ _ body => body.hasGroup group
  | plus _ body => body.hasGroup group

end Node

end Reroute.Regex
