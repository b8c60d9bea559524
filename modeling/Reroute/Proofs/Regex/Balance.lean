import Reroute.Proofs.Regex.Fragment
import Reroute.Proofs.Regex.Numbering

/-!
# Balanced regular expressions

A part of a regular expression is balanced if it closes what it opens. Between the parentheses
of a group a balanced part is read as it is read alone, but for the numbers of its groups,
which go on from those before it. So if the whole can be read, the part can be read alone.

## Main definitions

* `Node.raise`, `Piece.raise`, `Frame.raise` — the same with higher numbers of groups
* `Regex.IsBalanced` — every class and group that is opened is closed
* `Builder.placedIn` — the state of a reader inside a group of another text

## Main results

* `Regex.exists_apply_of_placedIn`, `Regex.exists_run_of_placedIn` — a token, and all of them
* `Regex.IsBalanced.exists_run` — a balanced part can be read alone
-/

set_option autoImplicit false

namespace Reroute.Regex

/-! ### Higher numbers -/

namespace Node

variable {node : Node} {k : Nat}

/-- The tree with the numbers of its groups raised. -/
def raise (k : Nat) : Node → Node
  | empty => empty
  | char x => char x
  | set chars => set chars
  | look condition => look condition
  | capture index body => capture (index + k) (body.raise k)
  | seq first second => seq (first.raise k) (second.raise k)
  | alt first second => alt (first.raise k) (second.raise k)
  | times count body => times count (body.raise k)
  | upTo count greedy body => upTo count greedy (body.raise k)
  | plus greedy body => plus greedy (body.raise k)

theorem canBeEmpty_raise (k : Nat) (node : Node) :
    (node.raise k).canBeEmpty = node.canBeEmpty := by
  induction node <;> simp_all [raise, canBeEmpty]

theorem hasGroup_raise (k group : Nat) (node : Node) :
    (node.raise k).hasGroup (group + k) = node.hasGroup group := by
  induction node <;> simp_all [raise, hasGroup]

theorem raise_concat (k : Nat) (nodes : List Node) :
    (concat nodes).raise k = concat (nodes.map (raise k)) := by
  induction nodes with
  | nil => rfl
  | cons node nodes ih =>
    cases nodes with
    | nil => rfl
    | cons node' nodes => exact congrArg (seq (node.raise k)) ih

theorem raise_alternation (k : Nat) (nodes : List Node) :
    (alternation nodes).raise k = alternation (nodes.map (raise k)) := by
  induction nodes with
  | nil => rfl
  | cons node nodes ih =>
    cases nodes with
    | nil => rfl
    | cons node' nodes => exact congrArg (alt (node.raise k)) ih

theorem raise_repetition (k least : Nat) (most : Option Nat) (greedy : Bool) (node : Node) :
    (node.repetition least most greedy).raise k = (node.raise k).repetition least most greedy := by
  unfold repetition
  split
  case h_6 => split_ifs <;> rfl
  all_goals rfl

end Node

namespace Piece

variable {k : Nat}

/-- The piece with the numbers of its groups raised. -/
def raise (k : Nat) (p : Piece) : Piece :=
  { p with node := p.node.raise k }

theorem raise_leaf {node : Node} (h : node.IsLeaf) (k : Nat) : (leaf node).raise k = leaf node := by
  cases node <;> first | rfl | exact h.elim

theorem raise_concat (k : Nat) (ps : List Piece) :
    (concat ps).raise k = concat (ps.map (raise k)) := by
  match ps with
  | [] => rfl
  | [p] => rfl
  | p :: q :: ps =>
    have hnode := Node.raise_concat k ((p :: q :: ps).map node)
    simp only [List.map_cons, List.map_map] at hnode
    simp [concat, raise, hnode, Function.comp_def]

theorem raise_alternation (k : Nat) (ps : List Piece) :
    (alternation ps).raise k = alternation (ps.map (raise k)) := by
  match ps with
  | [] => rfl
  | [p] => rfl
  | p :: q :: ps =>
    have hnode := Node.raise_alternation k ((p :: q :: ps).map node)
    simp only [List.map_cons, List.map_map] at hnode
    simp [alternation, raise, hnode, Function.comp_def]

theorem raise_repetition (k least : Nat) (most : Option Nat) (greedy : Bool) (p : Piece) :
    (p.repetition least most greedy).raise k = (p.raise k).repetition least most greedy := by
  simp only [repetition, raise, repetitionFootprint, Node.raise_repetition, Node.canBeEmpty_raise]

end Piece

/-- The open group with higher numbers. -/
def Frame.raise (k : Nat) (frame : Frame) : Frame where
  capture := frame.capture.map (· + k)
  flags := frame.flags
  branches := frame.branches.map (Piece.raise k)
  items := frame.items.map (Piece.raise k)

/-! ### Tokens -/

variable {b c d e r next : Builder} {x : Char} {rest t : List Char} {token : Token}
  {tokens : List Token}

theorem isLeaf_of_readToken? {node : Node} (h : readToken? x rest = some (.operand node, t)) :
    node.IsLeaf := by
  unfold readToken? at h
  split at h
  · unfold readOpening? at h
    split at h <;> cases h
  · cases h
  · cases h
  · obtain ⟨result, hclass, heq⟩ := Option.map_eq_some_iff.mp h
    cases heq
    exact isLeaf_readClass (toOption_eq_some_iff.mp hclass)
  · cases h
  · cases h
  · cases h
  · obtain ⟨result, -, heq⟩ := Option.map_eq_some_iff.mp h
    cases heq
  · obtain ⟨result, hescape, heq⟩ := Option.map_eq_some_iff.mp h
    cases heq
    exact isLeaf_readEscape (toOption_eq_some_iff.mp hescape)
  · cases h
    trivial
  · cases h
    trivial
  · cases h
    trivial
  · cases h
    exact isLeaf_literal _ _

/-- Whether every group that is closed is open before, and none is open at the end, if
`depth` groups are open at first. -/
def closesAll (depth : Nat) : List Token → Bool
  | [] => depth = 0
  | token :: tokens =>
    match token with
    | .opening _ => closesAll (depth + 1) tokens
    | .closing => depth ≠ 0 && closesAll (depth - 1) tokens
    | .operand _ | .bar | .repetition _ _ _ => closesAll depth tokens

/-- Every class and group that is opened in the text is closed in it. No flags are set and no
groups are named. -/
def IsBalanced (text : String) : Prop :=
  ∃ tokens, Tokens text.toList tokens ∧ closesAll 0 tokens

/-- A reader that reads under default flags, and will go on to do so when groups end. No name
was used twice. -/
structure Builder.IsPlain (b : Builder) : Prop where
  flags : b.flags = {}
  outer : ∀ frame ∈ b.outer, frame.flags = {}
  groups : b.groups ≠ 0
  names : (b.names.map Prod.fst).Nodup

theorem Builder.IsPlain.apply (h : b.IsPlain) (hnext : token.apply b rest = .ok next) :
    next.IsPlain := by
  cases takes_of_apply hnext with
  | operand | bar | repetition => exact { h with }
  | opening remembered =>
    have hgroups : b.groups + remembered.toNat ≠ 0 := by
      have := h.groups
      omega
    exact ⟨h.flags, List.forall_mem_cons.mpr ⟨h.flags, h.outer⟩, hgroups, h.names⟩
  | closing houter =>
    have hflags := h.outer
    rw [houter] at hflags
    obtain ⟨hframe, hflags⟩ := List.forall_mem_cons.mp hflags
    exact ⟨hframe, hflags, h.groups, h.names⟩

/-! ### Inside a group -/

namespace Builder

/-- The state of a reader inside a group. Alone, it is at `d`; the reader of the whole had come
to the part as `c`, and `t` follows. -/
def placedIn (d c : Builder) (t : List Char) : Builder where
  rest := d.rest ++ t
  flags := d.flags
  outer := d.outer.map (Frame.raise (c.groups - 1)) ++ c.outer
  branches := d.branches.map (Piece.raise (c.groups - 1))
  items := d.items.map (Piece.raise (c.groups - 1))
  groups := d.groups + (c.groups - 1)
  names := c.names

theorem inner_placedIn (d c : Builder) (t : List Char) :
    (d.placedIn c t).inner = d.inner.raise (c.groups - 1) := by
  simp only [inner, placedIn, Piece.raise_alternation, Piece.raise_concat, List.map_reverse,
    List.map_cons]

/-- At first nothing was read. -/
theorem placedIn_start (hplain : c.IsPlain) {text : List Char} (hrest : c.rest = text ++ t)
    (hbranches : c.branches = []) (hitems : c.items = []) :
    Builder.placedIn { rest := text } c t = c := by
  obtain ⟨hflags, -, hgroups, -⟩ := hplain
  cases c
  subst hflags hrest hbranches hitems
  simp only [placedIn, Builder.mk.injEq, List.map_nil, List.nil_append, true_and, and_true]
  exact Nat.add_sub_cancel' (Nat.one_le_iff_ne_zero.mpr hgroups)

end Builder

theorem exists_openGroup_of_placedIn (capture : Option Nat)
    (h : (d.placedIn c t).openGroup (capture.map (· + (c.groups - 1))) d.flags (rest ++ t) =
      .ok e) :
    ∃ d', d.openGroup capture d.flags rest = .ok d' ∧ d'.names = d.names ∧
      e = d'.placedIn c t := by
  rw [Builder.openGroup] at h ⊢
  split_ifs at h with hopen
  -- Alone, the reader has less groups open.
  have hopen' : d.outer.length < maxOpen := by
    simp only [Builder.placedIn, List.length_append, List.length_map] at hopen
    omega
  rw [if_pos hopen']
  exact ⟨_, rfl, rfl, (Except.ok.inj h).symm⟩

theorem exists_closeGroup_of_placedIn (houter : d.outer ≠ [])
    (h : (d.placedIn c t).closeGroup (rest ++ t) = .ok e) :
    ∃ d', d.closeGroup rest = .ok d' ∧ d'.names = d.names ∧ e = d'.placedIn c t := by
  obtain ⟨frame, outer, houter⟩ := List.exists_cons_of_ne_nil houter
  have houter' : (d.placedIn c t).outer =
      frame.raise (c.groups - 1) :: (outer.map (Frame.raise (c.groups - 1)) ++ c.outer) := by
    simp [Builder.placedIn, houter]
  rw [Builder.closeGroup, houter'] at h
  rw [Builder.closeGroup, houter]
  refine ⟨_, rfl, rfl, ?_⟩
  cases h
  rw [Builder.inner_placedIn]
  cases hcapture : frame.capture <;>
    simp [Builder.placedIn, Frame.raise, hcapture, Piece.capture, Piece.raise, Node.raise]

/-- A token that a reader takes inside a group is taken alone as well. -/
theorem exists_apply_of_placedIn (hleaf : ∀ node, token = .operand node → node.IsLeaf)
    (hclosing : token = .closing → d.outer ≠ [])
    (h : token.apply (d.placedIn c t) (rest ++ t) = .ok e) :
    ∃ d', token.apply d rest = .ok d' ∧ d'.names = d.names ∧ e = d'.placedIn c t := by
  cases token with
  | operand node =>
    refine ⟨_, rfl, rfl, ?_⟩
    cases h
    simp [Builder.placedIn, Builder.push, Piece.raise_leaf (hleaf node rfl)]
  | bar =>
    refine ⟨_, rfl, rfl, ?_⟩
    cases h
    simp [Builder.placedIn, Piece.raise_concat]
  | opening remembered =>
    cases remembered with
    | false => exact exists_openGroup_of_placedIn none h
    | true =>
      -- The group takes its number before it is open, and both readers count it.
      have hgroups : d.groups + (c.groups - 1) + 1 = d.groups + 1 + (c.groups - 1) := by omega
      rw [Token.apply, Builder.openCapture] at h ⊢
      refine exists_openGroup_of_placedIn (d := { d with groups := d.groups + 1 })
        (some d.groups) ?_
      rw [← h]
      simp only [Builder.placedIn, Option.map_some, hgroups]
  | closing => exact exists_closeGroup_of_placedIn (hclosing rfl) h
  | repetition least most isLazy =>
    rw [Token.apply] at h ⊢
    cases hitems : d.items with
    | nil =>
      simp [Builder.placedIn, hitems] at h
    | cons piece items =>
      -- What is repeated was read inside the group, so it is the same piece, raised.
      have hitems' : (d.placedIn c t).items =
          piece.raise (c.groups - 1) :: items.map (Piece.raise (c.groups - 1)) := by
        simp [Builder.placedIn, hitems]
      rw [hitems'] at h
      dsimp only at h ⊢
      split_ifs at h ⊢
      cases h
      refine ⟨_, rfl, rfl, ?_⟩
      rw [Builder.placedIn, Builder.placedIn, List.map_cons, Piece.raise_repetition]

/-- The groups that are open after a token are closed by the tokens behind it. -/
theorem closesAll_of_apply (h : closesAll d.outer.length (token :: tokens))
    (hnext : token.apply d rest = .ok next) : closesAll next.outer.length tokens := by
  cases takes_of_apply hnext with
  | operand | bar | repetition => exact h
  | opening => exact h
  | closing houter =>
    rw [houter] at h
    simpa [closesAll] using h

theorem run_of_rest_eq_nil (hflags : b.flags = {}) (hrest : b.rest = []) : b.run = .ok b := by
  cases b
  subst hflags hrest
  rw [Builder.run]
  rfl

/-- What a reader takes inside a group, it takes alone as well. -/
theorem exists_run_of_placedIn {text : List Char} (htokens : Tokens text tokens)
    (hclosed : closesAll d.outer.length tokens) (ht : Separated t) (hplain : d.IsPlain)
    (hrest : d.rest = text) (hrun : (d.placedIn c t).run = .ok r) :
    ∃ f, d.run = .ok f ∧ f.IsPlain ∧ f.rest = [] ∧ f.outer = [] ∧ f.names = d.names ∧
      (f.placedIn c t).run = .ok r := by
  induction htokens generalizing d with
  | nil =>
    have houter : d.outer = [] := by simpa [closesAll] using hclosed
    exact ⟨d, run_of_rest_eq_nil hplain.flags hrest, hplain, hrest, houter, rfl, hrun⟩
  | @cons x rest rest' token tokens first _ ih =>
    have hflags : (d.placedIn c t).flags = {} := hplain.flags
    have hrest' : (d.placedIn c t).rest = x :: (rest ++ t) := by
      rw [Builder.placedIn, hrest, List.cons_append]
    obtain ⟨e, hstep, hlt, hrun⟩ := exists_step_of_run hrun hflags hrest'
    rw [step_eq_apply hflags (readToken?_append ht first)] at hstep
    have hopen : token = .closing → d.outer ≠ [] := by
      rintro rfl hempty
      rw [hempty] at hclosed
      cases hclosed
    obtain ⟨d', hstep', hnames, rfl⟩ :=
      exists_apply_of_placedIn (fun _ hnode => isLeaf_of_readToken? (hnode ▸ first)) hopen hstep
    have hd' : d'.rest = rest' := rest_of_apply hstep'
    obtain ⟨f, hf, hplain', hnil, houter, hnames', hrun⟩ :=
      ih (closesAll_of_apply hclosed hstep') (hplain.apply hstep') hd' hrun
    refine ⟨f, ?_, hplain', hnil, houter, hnames'.trans hnames, hrun⟩
    rw [← hf]
    refine run_eq_of_step hplain.flags hrest ((step_eq_apply hplain.flags first).trans hstep') ?_
    -- What stands behind the part makes the text longer before and after the step.
    rw [rest_of_apply hstep, hrest', ← List.cons_append, List.length_append,
      List.length_append] at hlt
    rw [hd', hrest]
    exact Nat.lt_of_add_lt_add_right hlt

/-- A balanced part that is read between the parentheses of a group can be read alone. -/
theorem IsBalanced.exists_run {text : String} (h : IsBalanced text) (hplain : c.IsPlain)
    (hbranches : c.branches = []) (hitems : c.items = []) (ht : Separated t)
    (hrest : c.rest = text.toList ++ t) (hrun : c.run = .ok r) :
    ∃ f, Builder.run { rest := text.toList } = .ok f ∧ f.IsPlain ∧ f.rest = [] ∧
      f.outer = [] ∧ f.names = [] ∧ (f.placedIn c t).run = .ok r := by
  obtain ⟨tokens, htokens, hclosed⟩ := h
  rw [← Builder.placedIn_start hplain hrest hbranches hitems] at hrun
  exact exists_run_of_placedIn (d := { rest := text.toList }) htokens hclosed ht
    ⟨rfl, by simp, by simp, by simp⟩ rfl hrun

end Reroute.Regex
