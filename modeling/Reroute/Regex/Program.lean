import Reroute.Regex.Node

/-!
# Programs

A tree is laid out as a list of instructions, of which each part falls through to
the instruction behind it. A search keeps a stack of threads and runs the one that
is preferred most. No two threads are run at the same instruction and place: a
thread that comes second there is dropped, since whatever it could still find, the
first one finds or has failed to find. So the work is at most the number of
instructions times the number of places, and an empty turn of a repetition ends it.

## Main definitions

* `Inst`, `Node.code` — instructions, and the layout of a tree
* `Thread`, `successors` — a place in the program and in the text, and where it
  goes from there
* `explore` — run threads until one arrives at the end of the program
-/

set_option autoImplicit false

namespace Reroute.Regex

/-- An instruction. Unless it says otherwise, the next one follows. -/
inductive Inst where
  /-- The whole expression has matched. -/
  | accept
  /-- Read one character. -/
  | char (x : Char)
  /-- Read one character of a set. -/
  | set (chars : CharSet)
  /-- Go on only where a condition holds. -/
  | look (condition : Look)
  /-- Remember the place under a number. -/
  | save (slot : Nat)
  /-- Try one instruction, and then the other. -/
  | split (first second : Nat)
  /-- Go on elsewhere. -/
  | jump (target : Nat)
deriving DecidableEq, Repr

/-- A split in the order that a repetition prefers. -/
def Inst.loop (greedy : Bool) (on out : Nat) : Inst :=
  if greedy then .split on out else .split out on

namespace Node

/-- The number of instructions of a node. -/
def size : Node → Nat
  | empty => 0
  | char _ => 1
  | set _ => 1
  | look _ => 1
  | capture _ body => body.size + 2
  | seq first second => first.size + second.size
  | alt first second => first.size + second.size + 2
  | times count body => count * body.size
  | upTo count _ body => count * (body.size + 1)
  | plus _ body => body.size + 1

/-- Copies of a block of code one after the other; `block` gives the code from an
address on, and takes `size` instructions. -/
def copies (block : Nat → List Inst) (size : Nat) : (count address : Nat) → List Inst
  | 0, _ => []
  | count + 1, address => block address ++ copies block size count (address + size)

/-- The instructions of a node when they begin at `address`. -/
def code : Node → (address : Nat) → List Inst
  | empty, _ => []
  | char x, _ => [.char x]
  | set chars, _ => [.set chars]
  | look condition, _ => [.look condition]
  | capture index body, address =>
    .save (2 * index) :: (body.code (address + 1) ++ [.save (2 * index + 1)])
  | seq first second, address =>
    first.code address ++ second.code (address + first.size)
  | alt first second, address =>
    let other := address + first.size + 2
    .split (address + 1) other :: (first.code (address + 1) ++
      .jump (other + second.size) :: second.code other)
  | times count body, address =>
    copies body.code body.size count address
  | upTo count greedy body, address =>
    let out := address + count * (body.size + 1)
    copies (fun address => .loop greedy (address + 1) out :: body.code (address + 1))
      (body.size + 1) count address
  | plus greedy body, address =>
    body.code address ++ [.loop greedy address (address + body.size + 1)]

/-- The program that finds a node and remembers the whole match as group 0. -/
def program (node : Node) : Array Inst :=
  ((capture 0 node).code 0 ++ [Inst.accept]).toArray

end Node

/-- A place in a program and in a text, with what was remembered on the way, the
latest first. -/
structure Thread where
  address : Nat
  position : Nat
  slots : List (Nat × Nat)
deriving DecidableEq, Repr

/-- The character before a position. -/
def before (text : Array Char) (position : Nat) : Option Char :=
  if position = 0 then none else text[position - 1]?

/-- Where a thread goes from here, the preferred place first. -/
def successors (program : Array Inst) (text : Array Char) (t : Thread) : List Thread :=
  match program[t.address]? with
  | some (.char x) =>
    if text[t.position]? = some x then [⟨t.address + 1, t.position + 1, t.slots⟩] else []
  | some (.set chars) =>
    if text[t.position]?.any chars.contains then
      [⟨t.address + 1, t.position + 1, t.slots⟩]
    else
      []
  | some (.look condition) =>
    if condition.holds (before text t.position) text[t.position]? then
      [⟨t.address + 1, t.position, t.slots⟩]
    else
      []
  | some (.save slot) => [⟨t.address + 1, t.position, (slot, t.position) :: t.slots⟩]
  | some (.split first second) =>
    [⟨first, t.position, t.slots⟩, ⟨second, t.position, t.slots⟩]
  | some (.jump target) => [⟨target, t.position, t.slots⟩]
  | some .accept | none => []

theorem length_successors_le (program : Array Inst) (text : Array Char) (t : Thread) :
    (successors program text t).length ≤ 2 := by
  unfold successors
  repeat' split
  all_goals simp

/-- The number of a thread's place: positions in turn, and addresses within them. -/
def place (program : Array Inst) (t : Thread) : Nat :=
  t.position * program.size + t.address

/-- Marking a place that was not marked leaves one place less to mark. -/
theorem count_mark_lt {seen : Array Bool} {i : Nat} (h : i < seen.size) (hi : ¬seen[i]) :
    (seen.set i true).count false < seen.count false := by
  have hi : seen[i] = false := by simpa using hi
  have hmem : 0 < seen.count false :=
    Array.count_pos_iff.mpr (hi ▸ Array.getElem_mem h)
  rw [Array.count_set, hi]
  exact Nat.sub_lt hmem Nat.one_pos

/-- Run the threads of a stack until one accepts. `seen` tells of every place
whether a thread has been there. The result is what the accepting thread
remembers, and where threads have been by then. -/
def explore (program : Array Inst) (text : Array Char) (seen : Array Bool) :
    List Thread → Option (List (Nat × Nat)) × Array Bool
  | [] => (none, seen)
  | t :: stack =>
    if h : place program t < seen.size then
      if hs : seen[place program t] then
        -- A thread that is preferred to this one has been here.
        explore program text seen stack
      else if program[t.address]? = some .accept then
        (some t.slots, seen.set (place program t) true)
      else
        explore program text (seen.set (place program t) true)
          (successors program text t ++ stack)
    else
      -- There is no such place; no program leads there.
      explore program text seen stack
termination_by stack => 2 * seen.count false + stack.length
decreasing_by
  · simp
  · have hlen := length_successors_le program text t
    have hcount := count_mark_lt h hs
    simp only [List.length_append, List.length_cons]
    omega
  · simp

/-- Try the positions in turn, as places where a match begins. Where threads have
been before there is no need to go again. -/
def exploreFrom (program : Array Inst) (text : Array Char) (seen : Array Bool) :
    List Nat → Option (List (Nat × Nat))
  | [] => none
  | position :: positions =>
    match explore program text seen [⟨0, position, []⟩] with
    | (some slots, _) => some slots
    | (none, seen) => exploreFrom program text seen positions

/-- The first match of a program in a text: where it and its groups begin and end. -/
def searchProgram (program : Array Inst) (text : Array Char) : Option (List (Nat × Nat)) :=
  exploreFrom program text (Array.replicate ((text.size + 1) * program.size) false)
    (List.range (text.size + 1))

end Reroute.Regex
