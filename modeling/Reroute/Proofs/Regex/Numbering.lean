import Mathlib.Data.List.Basic
import Reroute.Regex.Syntax

/-!
# The groups of regular expressions

The number zero stands for the whole match. The groups of a regular expression are numbered
from one in the order in which they are opened, so none of them is taken for the whole, and no
two for each other, whatever the expression is and whatever flags it sets.

## Main definitions

* `Node.IsLeaf` — trees without parts
* `Node.EachGroup`, `Builder.EachGroup` — a condition on the groups of a tree or reader
* `Builder.Moves` — what a token may do to a reader
* `Builder.IsNumbered` — groups have the numbers that were given out, and names of their own

## Main results

* `Builder.moves_of_step`, `Builder.moves_induction` — a step moves the reader, and so it goes on
* `Builder.EachGroup.of_moves` — what holds of all groups is kept
* `Regex.hasGroup_zero_of_parse` — the tree of a regular expression
-/

set_option autoImplicit false

namespace Reroute.Regex

/-! ### Trees -/

namespace Node

/-- The tree has no parts, so that there are no groups in it. -/
def IsLeaf : Node → Prop
  | empty | char _ | set _ | look _ => True
  | capture _ _ | seq _ _ | alt _ _ | times _ _ | upTo _ _ _ | plus _ _ => False

/-- Every group of the tree meets a condition on its number and on what is in it. -/
def EachGroup (P : Nat → Node → Prop) : Node → Prop
  | empty | char _ | set _ | look _ => True
  | capture index body => P index body ∧ body.EachGroup P
  | seq first second | alt first second => first.EachGroup P ∧ second.EachGroup P
  | times _ body | upTo _ _ body | plus _ body => body.EachGroup P

variable {P Q : Nat → Node → Prop} {node : Node} {nodes : List Node}

theorem IsLeaf.eachGroup (h : node.IsLeaf) : node.EachGroup P := by
  cases node <;> trivial

theorem EachGroup.imp (hPQ : ∀ index body, P index body → Q index body) (h : node.EachGroup P) :
    node.EachGroup Q := by
  induction node with
  | empty | char | set | look => trivial
  | capture index body ih => exact ⟨hPQ index body h.1, ih h.2⟩
  | seq first second ih ih' | alt first second ih ih' => exact ⟨ih h.1, ih' h.2⟩
  | times _ body ih | upTo _ _ body ih | plus _ body ih => exact ih h

theorem hasGroup_of_eachGroup {group : Nat} (h : node.EachGroup fun index _ => index ≠ group) :
    node.hasGroup group = false := by
  induction node with
  | empty | char | set | look => rfl
  | capture index body ih => simp [hasGroup, h.1, ih h.2]
  | seq first second ih ih' | alt first second ih ih' => simp [hasGroup, ih h.1, ih' h.2]
  | times _ body ih | upTo _ _ body ih | plus _ body ih => exact ih h

theorem eachGroup_concat (h : ∀ node ∈ nodes, node.EachGroup P) : (concat nodes).EachGroup P := by
  induction nodes with
  | nil => trivial
  | cons node nodes ih =>
    obtain ⟨hnode, hnodes⟩ := List.forall_mem_cons.mp h
    cases nodes with
    | nil => exact hnode
    | cons node' nodes => exact ⟨hnode, ih hnodes⟩

theorem eachGroup_alternation (h : ∀ node ∈ nodes, node.EachGroup P) :
    (alternation nodes).EachGroup P := by
  induction nodes with
  | nil => trivial
  | cons node nodes ih =>
    obtain ⟨hnode, hnodes⟩ := List.forall_mem_cons.mp h
    cases nodes with
    | nil => exact hnode
    | cons node' nodes => exact ⟨hnode, ih hnodes⟩

theorem EachGroup.repetition (h : node.EachGroup P) (least : Nat) (most : Option Nat)
    (greedy : Bool) : (node.repetition least most greedy).EachGroup P := by
  unfold Node.repetition
  split
  case h_6 => split_ifs <;> simp [EachGroup, h]
  all_goals simp [EachGroup, h]

end Node

/-! ### Pieces -/

namespace Piece

variable {P : Nat → Node → Prop} {p : Piece} {ps : List Piece}

@[simp] theorem node_leaf (node : Node) : (leaf node).node = node := by
  cases node <;> rfl

theorem eachGroup_concat (h : ∀ p ∈ ps, p.node.EachGroup P) : (concat ps).node.EachGroup P := by
  have hnodes : ∀ node ∈ ps.map Piece.node, node.EachGroup P := List.forall_mem_map.mpr h
  match ps with
  | [] => trivial
  | [p] => exact h p (by simp)
  | p :: q :: ps => exact Node.eachGroup_concat hnodes

theorem eachGroup_alternation (h : ∀ p ∈ ps, p.node.EachGroup P) :
    (alternation ps).node.EachGroup P := by
  have hnodes : ∀ node ∈ ps.map Piece.node, node.EachGroup P := List.forall_mem_map.mpr h
  match ps with
  | [] => trivial
  | [p] => exact h p (by simp)
  | p :: q :: ps => exact Node.eachGroup_alternation hnodes

end Piece

/-! ### What stands behind a backslash or bracket -/

theorem isLeaf_literal (flags : Flags) (x : Char) : (flags.literal x).IsLeaf := by
  unfold Flags.literal
  split_ifs <;> trivial

section Reading

variable {flags : Flags} {count : Nat} {text rest : List Char} {node : Node}

/-- A sequence gives a result only if its first part does. -/
theorem exists_of_bind_eq_ok {α β : Type} {first : Except Error α} {next : α → Except Error β}
    {b : β} (h : first >>= next = .ok b) : ∃ a, first = .ok a ∧ next a = .ok b := by
  cases first with
  | error e => cases h
  | ok a => exact ⟨a, rfl, h⟩

theorem exists_of_map_eq_ok {α β : Type} {first : Except Error α} {f : α → β} {b : β}
    (h : first.map f = .ok b) : ∃ a, first = .ok a ∧ f a = b := by
  cases first with
  | error e => cases h
  | ok a => exact ⟨a, rfl, Except.ok.inj h⟩

theorem isLeaf_readHex (h : readHex flags count text = .ok (node, rest)) :
    node.IsLeaf := by
  rw [readHex] at h
  split at h
  all_goals
    obtain ⟨value, -, h⟩ := exists_of_bind_eq_ok h
    dsimp only at h
    split at h
    · cases h
      exact isLeaf_literal _ _
    · cases h

theorem isLeaf_readWordBoundary (h : readWordBoundary flags text = .ok (node, rest)) :
    node.IsLeaf := by
  unfold readWordBoundary at h
  split at h
  · split at h
    · cases h
    · split_ifs at h
      · obtain ⟨name, -, h⟩ := exists_of_bind_eq_ok h
        dsimp only at h
        split at h
        all_goals
          cases h
          try trivial
      · cases h
        trivial
  · cases h
    trivial

theorem isLeaf_readEscape (h : readEscape flags text = .ok (node, rest)) :
    node.IsLeaf := by
  unfold readEscape at h
  split at h
  · cases h
  · split_ifs at h
    · cases h
      exact isLeaf_literal _ _
    · split at h
      all_goals first
        | exact isLeaf_readHex h
        | exact isLeaf_readWordBoundary h
        | (cases h; trivial)
        | cases h

theorem isLeaf_readClass (h : readClass flags text = .ok (node, rest)) :
    node.IsLeaf := by
  unfold readClass at h
  split at h
  split at h
  split at h
  obtain ⟨sets, -, h⟩ := exists_of_bind_eq_ok h
  cases h
  trivial

end Reading

/-! ### Readers -/

/-- What the inside of a group becomes when the group ends. -/
def Frame.close (frame : Frame) (inside : Piece) : Piece :=
  match frame.capture with
  | some index => inside.capture index
  | none => inside

namespace Builder

/-- What becomes of a reader by one token. Flags may be set to anything, and what is left to
read is left open. -/
inductive Moves (b : Builder) : Builder → Prop
  | operand {node : Node} (hleaf : node.IsLeaf) (rest : List Char) : b.Moves (b.push node rest)
  | bar (rest : List Char) :
    b.Moves { b with rest, branches := Piece.concat b.items.reverse :: b.branches, items := [] }
  | setFlags (flags : Flags) (rest : List Char) : b.Moves { b with flags, rest }
  | opening (flags : Flags) (rest : List Char) : b.Moves { b with
      rest
      flags
      outer := ⟨none, b.flags, b.branches, b.items⟩ :: b.outer
      branches := []
      items := [] }
  | capture {names : List (String × Nat)}
      (hnames : names = b.names ∨
        ∃ name, name ∉ b.names.map Prod.fst ∧ names = (name, b.groups) :: b.names)
      (rest : List Char) : b.Moves { b with
      rest
      outer := ⟨some b.groups, b.flags, b.branches, b.items⟩ :: b.outer
      branches := []
      items := []
      groups := b.groups + 1
      names }
  | closing {frame : Frame} {outer : List Frame} (houter : b.outer = frame :: outer)
      (rest : List Char) : b.Moves { b with
      rest
      flags := frame.flags
      outer
      branches := frame.branches
      items := frame.close b.inner :: frame.items }
  | repetition {piece : Piece} {items : List Piece} (hitems : b.items = piece :: items)
      (least : Nat) (most : Option Nat) (greedy : Bool) (rest : List Char) :
    b.Moves { b with rest, items := piece.repetition least most greedy :: items }

variable {b next r : Builder} {rest : List Char}

/-- A group that is opened is read on its own. -/
theorem eq_of_openGroup {capture : Option Nat} {flags : Flags}
    (h : b.openGroup capture flags rest = .ok next) :
    next = { b with
      rest
      flags
      outer := ⟨capture, b.flags, b.branches, b.items⟩ :: b.outer
      branches := []
      items := [] } := by
  rw [openGroup] at h
  split_ifs at h
  exact (Except.ok.inj h).symm

theorem moves_of_openNamed (h : b.openNamed rest = .ok next) : b.Moves next := by
  obtain ⟨⟨name, rest'⟩, -, h⟩ := exists_of_bind_eq_ok h
  dsimp only at h
  split_ifs at h with hname
  obtain rfl := eq_of_openGroup h
  refine .capture (.inr ⟨String.ofList name, fun hmem => hname ?_, rfl⟩) rest'
  obtain ⟨⟨name', number⟩, hmem, rfl⟩ := List.mem_map.mp hmem
  exact List.any_eq_true.mpr ⟨_, hmem, by simp⟩

theorem moves_of_openParenthesis (h : b.openParenthesis rest = .ok next) : b.Moves next := by
  unfold openParenthesis at h
  split at h
  case h_5 | h_6 => exact moves_of_openNamed h
  case h_8 =>
    obtain ⟨⟨flags, rest'⟩, -, h⟩ := exists_of_bind_eq_ok h
    dsimp only at h
    split at h
    · cases h
      exact .setFlags flags _
    · obtain rfl := eq_of_openGroup h
      exact .opening flags _
    · cases h
  case h_9 =>
    obtain rfl := eq_of_openGroup h
    exact .capture (.inl rfl) _
  all_goals cases h

theorem moves_of_closeGroup (h : b.closeGroup rest = .ok next) : b.Moves next := by
  unfold closeGroup at h
  split at h
  · cases h
  · rename_i frame outer houter
    cases h
    exact .closing houter rest

theorem moves_of_applyRepetition {least : Nat} {most : Option Nat}
    (h : b.applyRepetition least most rest = .ok next) : b.Moves next := by
  unfold applyRepetition at h
  split at h
  · cases h
  · rename_i piece items hitems
    dsimp only at h
    split_ifs at h
    cases h
    exact .repetition hitems least most _ _

/-- Whatever the next token is, it moves the reader. -/
theorem moves_of_step {x : Char} (h : b.step x rest = .ok next) : b.Moves next := by
  unfold step at h
  -- One case for each character with a meaning. What is neither a parenthesis nor a bar nor a
  -- sign of repetition becomes a leaf.
  split at h
  · exact moves_of_openParenthesis h
  · exact moves_of_closeGroup h
  · cases h
    exact .bar rest
  · obtain ⟨⟨node, rest'⟩, hclass, rfl⟩ := exists_of_map_eq_ok h
    exact .operand (isLeaf_readClass hclass) rest'
  · exact moves_of_applyRepetition h
  · exact moves_of_applyRepetition h
  · exact moves_of_applyRepetition h
  · split_ifs at h
    obtain ⟨⟨least, most, rest'⟩, -, h⟩ := exists_of_bind_eq_ok h
    exact moves_of_applyRepetition h
  · obtain ⟨⟨node, rest'⟩, hescape, rfl⟩ := exists_of_map_eq_ok h
    exact .operand (isLeaf_readEscape hescape) rest'
  · cases h
    exact .operand (show b.flags.dot.IsLeaf from trivial) rest
  · cases h
    exact .operand (show b.flags.startAnchor.IsLeaf from trivial) rest
  · cases h
    exact .operand (show b.flags.endAnchor.IsLeaf from trivial) rest
  · cases h
    exact .operand (isLeaf_literal _ _) rest

/-- What every token keeps holds at the end as well. -/
theorem moves_induction {I : Builder → Prop} (hmoves : ∀ b next, b.Moves next → I b → I next)
    (hend : ∀ b, I b → I { b with rest := [] }) (h : I b) (hrun : b.run = .ok r) : I r := by
  fun_induction Builder.run b with
  | case1 b =>
    cases hrun
    exact hend b h
  | case2 => cases hrun
  | case3 b x rest _ next hstep _ ih => exact ih (hmoves b next (moves_of_step hstep) h) hrun
  | case4 => cases hrun

/-- Every group that was read meets a condition, and every open one will, whatever is in it. -/
structure EachGroup (P : Nat → Node → Prop) (b : Builder) : Prop where
  items : ∀ p ∈ b.items, p.node.EachGroup P
  branches : ∀ p ∈ b.branches, p.node.EachGroup P
  outer : ∀ frame ∈ b.outer, (∀ index, frame.capture = some index → ∀ body, P index body) ∧
    (∀ p ∈ frame.items, p.node.EachGroup P) ∧ ∀ p ∈ frame.branches, p.node.EachGroup P

namespace EachGroup

variable {P Q : Nat → Node → Prop}

theorem imp (hPQ : ∀ index body, P index body → Q index body) (h : b.EachGroup P) :
    b.EachGroup Q where
  items p hp := (h.items p hp).imp hPQ
  branches p hp := (h.branches p hp).imp hPQ
  outer frame hframe := by
    obtain ⟨hcapture, hitems, hbranches⟩ := h.outer frame hframe
    exact ⟨fun index hindex body => hPQ index body (hcapture index hindex body),
      fun p hp => (hitems p hp).imp hPQ, fun p hp => (hbranches p hp).imp hPQ⟩

theorem concat_items (h : b.EachGroup P) : (Piece.concat b.items.reverse).node.EachGroup P :=
  Piece.eachGroup_concat fun p hp => h.items p (List.mem_reverse.mp hp)

theorem inner (h : b.EachGroup P) : b.inner.node.EachGroup P := by
  refine Piece.eachGroup_alternation fun p hp => ?_
  obtain rfl | hp := List.mem_cons.mp (List.mem_reverse.mp hp)
  · exact h.concat_items
  · exact h.branches p hp

theorem close (h : b.EachGroup P) {frame : Frame}
    (hcapture : ∀ index, frame.capture = some index → ∀ body, P index body) :
    (frame.close b.inner).node.EachGroup P := by
  unfold Frame.close
  split
  · rename_i index hindex
    exact ⟨hcapture index hindex _, h.inner⟩
  · exact h.inner

/-- A token keeps what holds of all groups, if it holds of a group that is opened. -/
theorem of_moves (h : b.EachGroup P) (hmoves : b.Moves next)
    (hopen : next.groups = b.groups + 1 → ∀ body, P b.groups body) : next.EachGroup P := by
  cases hmoves with
  | operand hleaf rest =>
    refine { h with items := List.forall_mem_cons.mpr ⟨?_, h.items⟩ }
    rw [Piece.node_leaf]
    exact hleaf.eachGroup
  | bar rest =>
    exact { h with
      items := by simp
      branches := List.forall_mem_cons.mpr ⟨h.concat_items, h.branches⟩ }
  | setFlags flags rest => exact { h with }
  | opening flags rest =>
    exact { h with
      items := by simp
      branches := by simp
      outer := List.forall_mem_cons.mpr ⟨⟨nofun, h.items, h.branches⟩, h.outer⟩ }
  | capture hnames rest =>
    refine { h with
      items := by simp
      branches := by simp
      outer := List.forall_mem_cons.mpr ⟨⟨?_, h.items, h.branches⟩, h.outer⟩ }
    rintro index ⟨⟩
    exact hopen rfl
  | closing houter rest =>
    have houter' := h.outer
    rw [houter] at houter'
    obtain ⟨⟨hcapture, hitems, hbranches⟩, houter'⟩ := List.forall_mem_cons.mp houter'
    exact { h with
      items := List.forall_mem_cons.mpr ⟨h.close hcapture, hitems⟩
      branches := hbranches
      outer := houter' }
  | repetition hitems least most greedy rest =>
    have hpieces := h.items
    rw [hitems] at hpieces
    obtain ⟨hpiece, hpieces⟩ := List.forall_mem_cons.mp hpieces
    exact { h with
      items := List.forall_mem_cons.mpr ⟨hpiece.repetition least most greedy, hpieces⟩ }

end EachGroup

theorem Moves.groups_le (h : b.Moves next) : b.groups ≤ next.groups := by
  cases h with
  | capture => exact Nat.le_succ _
  | _ => exact Nat.le_refl _

/-- A name that was given to a group stays with it. -/
theorem Moves.names_subset (h : b.Moves next) : b.names ⊆ next.names := by
  cases h with
  | capture hnames =>
    obtain rfl | ⟨name, -, rfl⟩ := hnames
    · exact List.Subset.refl _
    · exact List.subset_cons_self _ _
  | _ => exact List.Subset.refl _

/-- No group has the number of the whole match or one that is still to be given out, and no two
have the same name. -/
structure IsNumbered (b : Builder) : Prop where
  groups : b.groups ≠ 0
  numbers : b.EachGroup fun index _ => index ≠ 0 ∧ index < b.groups
  names : (b.names.map Prod.fst).Nodup

theorem isNumbered_start (text : List Char) : IsNumbered { rest := text } :=
  ⟨by simp, ⟨by simp, by simp, by simp⟩, by simp⟩

theorem IsNumbered.of_moves (h : b.IsNumbered) (hmoves : b.Moves next) : next.IsNumbered where
  groups := by
    have := h.groups
    have := hmoves.groups_le
    omega
  numbers := by
    refine EachGroup.of_moves (h.numbers.imp fun index _ ⟨hzero, hlt⟩ => ⟨hzero, ?_⟩) hmoves
      fun hnext _ => ⟨h.groups, by omega⟩
    exact Nat.lt_of_lt_of_le hlt hmoves.groups_le
  names := by
    cases hmoves with
    | capture hnames =>
      obtain rfl | ⟨name, hname, rfl⟩ := hnames
      · exact h.names
      · exact List.nodup_cons.mpr ⟨hname, h.names⟩
    | _ => exact h.names

theorem IsNumbered.run (h : b.IsNumbered) (hrun : b.run = .ok r) : r.IsNumbered :=
  moves_induction (fun _ _ hmoves h => h.of_moves hmoves)
    (fun _ h => ⟨h.groups, { h.numbers with }, h.names⟩) h hrun

end Builder

/-- The number of the whole match is the number of no group. -/
theorem hasGroup_zero_of_parse {text : String} {node : Node} {names : List (String × Nat)}
    (h : parse text = .ok (node, names)) : node.hasGroup 0 = false := by
  obtain ⟨r, hrun, h⟩ := exists_of_bind_eq_ok h
  have hnumbered : r.IsNumbered := (Builder.isNumbered_start _).run hrun
  split_ifs at h
  cases h
  exact Node.hasGroup_of_eachGroup (hnumbered.numbers.inner.imp fun _ _ hindex => hindex.1)

end Reroute.Regex
