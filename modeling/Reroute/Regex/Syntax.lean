import Reroute.Regex.Syntax.Class
import Reroute.Regex.Syntax.Count
import Reroute.Regex.Syntax.Group

/-!
# The syntax of regular expressions

A regular expression is read from left to right into a `Builder`, which holds the
groups that are still open around the part being read. Each step reads one
operand, one operator or one parenthesis, so what is left to read gets shorter.

Flags are set by a group that begins with a question mark, and last until that group
ends or, when the group holds nothing but flags, until the group around it ends.

## Main definitions

* `Piece`, `Frame`, `Builder` — the state of the reader
* `Builder.step`, `Builder.run` — one token, and all of them
* `parse` — the tree of a regular expression and the names of its groups
-/

set_option autoImplicit false

namespace Reroute.Regex

/-- A part of the tree together with its height and the memory that its states take,
in bytes, both of which are limited. -/
structure Piece where
  node : Node
  height : Nat
  footprint : Nat
deriving DecidableEq, Repr

namespace Piece

/-- The memory of a state. -/
def stateSize : Nat := 32

/-- The memory of each of several places where a state may lead. -/
def branchSize : Nat := 4

/-- The memory of each range of the characters that a state accepts. -/
def rangeSize : Nat := 8

/-- Nothing to be matched. -/
def empty : Piece :=
  ⟨.empty, 0, stateSize⟩

/-- A piece without parts. -/
def leaf (node : Node) : Piece :=
  match node with
  | .set chars => ⟨node, 0, stateSize + rangeSize * chars.ranges.length⟩
  | _ => ⟨node, 0, stateSize⟩

/-- A piece that is remembered, by a state before it and one behind. -/
def capture (p : Piece) (index : Nat) : Piece :=
  ⟨.capture index p.node, p.height + 1, 2 * stateSize + p.footprint⟩

/-- Pieces one after the other. -/
def concat : List Piece → Piece
  | [] => empty
  | [p] => p
  | ps => ⟨.concat (ps.map node), (ps.map height).foldr max 0 + 1,
      (ps.map footprint).foldr (· + ·) 0⟩

/-- The first of some pieces that leads to a match. One state leads to all of them,
and they lead to one. -/
def alternation : List Piece → Piece
  | [] => empty
  | [p] => p
  | ps => ⟨.alternation (ps.map node), (ps.map height).foldr max 0 + 1,
      2 * stateSize + branchSize * ps.length + (ps.map footprint).foldr (· + ·) 0⟩

/-- The memory of a repetition. Every choice between going on and stopping takes a
state with two branches. -/
def repetitionFootprint (least : Nat) (most : Option Nat) (p : Piece) : Nat :=
  let choice := stateSize + 2 * branchSize
  match least, most with
  | _, some 0 => stateSize
  | 0, some 1 => choice + p.footprint + stateSize
  | 0, none =>
    -- What may match nothing is repeated at least once, or left out.
    if p.node.canBeEmpty then 2 * choice + p.footprint + stateSize else choice + p.footprint
  | n, none => n * p.footprint + choice
  | 0, some m => m * (choice + p.footprint) + 2 * stateSize
  | n, some m =>
    if n = m then n * p.footprint
    else n * p.footprint + (m - n) * (choice + p.footprint) + stateSize

/-- A repeated piece. -/
def repetition (least : Nat) (most : Option Nat) (greedy : Bool) (p : Piece) : Piece :=
  ⟨.repetition least most greedy p.node,
    if most = some 0 then 0
    else if least = 1 ∧ most = some 1 then p.height
    else p.height + 1,
    p.repetitionFootprint least most⟩

/-- The memory of a whole expression. Next to the states of the tree there are two
around it and one behind, and a record of each group and of its name. -/
def total (p : Piece) (groups : Nat) (names : List (String × Nat)) : Nat :=
  let last := ((List.range groups).filter p.node.hasGroup).foldl max 0
  let ofName (name : String × Nat) : Nat :=
    if p.node.hasGroup name.2 then name.1.utf8ByteSize + 4 else 0
  p.footprint + 3 * stateSize + 16 * (last + 1) + (names.map ofName).foldr (· + ·) 0

end Piece

/-- What is put aside when a group is opened. -/
structure Frame where
  /-- The number of the group, if it is a capturing one. -/
  capture : Option Nat
  /-- The flags around the group. -/
  flags : Flags
  /-- The finished alternatives around the group, the last one first. -/
  branches : List Piece
  /-- The pieces before the group, the last one first. -/
  items : List Piece
deriving DecidableEq, Repr

/-- The state of the reader. -/
structure Builder where
  /-- What is still to be read. -/
  rest : List Char
  flags : Flags := {}
  /-- The open groups, the innermost first. -/
  outer : List Frame := []
  /-- The finished alternatives of the innermost group, the last one first. -/
  branches : List Piece := []
  /-- The pieces of the current alternative, the last one first. -/
  items : List Piece := []
  /-- The number of capturing groups so far; the whole match is one. -/
  groups : Nat := 1
  /-- The names of groups so far, with their numbers. -/
  names : List (String × Nat) := []
deriving DecidableEq, Repr

/-- How many groups may be open at once. -/
def maxOpen : Nat := 50

/-- How high a tree may be. -/
def maxHeight : Nat := 50

/-- The memory that a regular expression may account for. -/
def maxFootprint : Nat := 10 * 1024 * 1024

namespace Builder

/-- Go on behind one more piece. -/
def push (b : Builder) (node : Node) (rest : List Char) : Builder :=
  { b with items := .leaf node :: b.items, rest }

/-- All that was read inside the innermost group. -/
def inner (b : Builder) : Piece :=
  .alternation ((Piece.concat b.items.reverse :: b.branches).reverse)

/-- Open a group. -/
def openGroup (b : Builder) (capture : Option Nat) (flags : Flags) (rest : List Char) :
    Except Error Builder :=
  if b.outer.length < maxOpen then
    .ok { b with
      rest
      flags
      outer := ⟨capture, b.flags, b.branches, b.items⟩ :: b.outer
      branches := []
      items := [] }
  else
    .error .tooDeep

/-- Open a group that is remembered. -/
def openCapture (b : Builder) (rest : List Char) : Except Error Builder :=
  openGroup { b with groups := b.groups + 1 } (some b.groups) b.flags rest

/-- Open a group that is remembered by name. -/
def openNamed (b : Builder) (text : List Char) : Except Error Builder := do
  let (name, rest) ← readGroupName true text
  let name := String.ofList name
  if b.names.any (·.1 = name) then
    throw .duplicateGroupName
  else
    openCapture { b with names := (name, b.groups) :: b.names } rest

/-- What stands behind an opening parenthesis. -/
def openParenthesis (b : Builder) (text : List Char) : Except Error Builder :=
  match b.flags.skip text with
  | '?' :: '=' :: _ | '?' :: '!' :: _ | '?' :: '<' :: '=' :: _ | '?' :: '<' :: '!' :: _ =>
    .error .unsupported
  | '?' :: 'P' :: '<' :: rest | '?' :: '<' :: rest => b.openNamed rest
  | '?' :: ')' :: _ => .error .badFlags
  | '?' :: text => do
    let (flags, rest) ← readFlags b.flags false [] text
    match rest with
    | ')' :: rest => return { b with flags, rest }
    | _ :: rest => b.openGroup none flags rest
    | [] => throw .unclosedGroup
  | rest => b.openCapture rest

/-- Close the innermost group. -/
def closeGroup (b : Builder) (rest : List Char) : Except Error Builder :=
  match b.outer with
  | [] => .error .unopenedGroup
  | frame :: outer =>
    let piece : Piece :=
      match frame.capture with
      | some index => b.inner.capture index
      | none => b.inner
    .ok { b with
      rest
      flags := frame.flags
      outer
      branches := frame.branches
      items := piece :: frame.items }

/-- Repeat the last piece. A question mark behind the operator makes it lazy. -/
def applyRepetition (b : Builder) (least : Nat) (most : Option Nat) (rest : List Char) :
    Except Error Builder :=
  match b.items with
  | [] => .error .nothingToRepeat
  | piece :: items =>
    let (isLazy, rest) :=
      match rest with
      | '?' :: rest => (true, rest)
      | rest => (false, rest)
    if most.any (· < least) then .error .badCount
    else .ok { b with
      rest
      items := piece.repetition least most (isLazy = b.flags.swapGreed) :: items }

/-- Read one token, which begins with the character `x`. -/
def step (b : Builder) (x : Char) (rest : List Char) : Except Error Builder :=
  match x with
  | '(' => b.openParenthesis rest
  | ')' => b.closeGroup rest
  | '|' => .ok { b with rest, branches := Piece.concat b.items.reverse :: b.branches, items := [] }
  | '[' => (readClass b.flags rest).map fun (node, rest) => b.push node rest
  | '?' => b.applyRepetition 0 (some 1) rest
  | '*' => b.applyRepetition 0 none rest
  | '+' => b.applyRepetition 1 none rest
  | '\x7b' =>
    if b.items.isEmpty then .error .nothingToRepeat
    else do
      let (least, most, rest) ← readBounds b.flags rest
      b.applyRepetition least most rest
  | '\\' => (readEscape b.flags rest).map fun (node, rest) => b.push node rest
  | '.' => .ok (b.push b.flags.dot rest)
  | '^' => .ok (b.push b.flags.startAnchor rest)
  | '$' => .ok (b.push b.flags.endAnchor rest)
  | x => .ok (b.push (b.flags.literal x) rest)

/-- Read all tokens. -/
def run (b : Builder) : Except Error Builder :=
  match b.flags.skip b.rest with
  | [] => .ok { b with rest := [] }
  | x :: rest =>
    match b.step x rest with
    | .error e => .error e
    -- Every token has a character at least, so less is left after it.
    | .ok next => if next.rest.length < b.rest.length then next.run else .error .unsupported
termination_by b.rest.length

end Builder

/-- The tree of a regular expression, and the names of its groups with their
numbers. -/
def parse (text : String) : Except Error (Node × List (String × Nat)) := do
  let b ← Builder.run { rest := text.toList }
  if b.outer.isEmpty then
    if maxHeight < b.inner.height then throw .tooDeep
    else if maxFootprint < b.inner.total b.groups b.names then throw .tooLarge
    else return (b.inner.node, b.names)
  else
    throw .unclosedGroup

end Reroute.Regex
