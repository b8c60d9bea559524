import Reroute.Proofs.Regex.Fragment
import Reroute.Proofs.Regex.Numbering
import Reroute.Proofs.Regex.Source

/-!
# Parts of regular expressions

A regular expression is put together from parts: single characters, whole regular expressions
that are self-contained, groups, named groups and repetitions. A reader that comes to a part
gets behind it with new pieces and nothing else changed. It stops on the way only if groups get
too deep or a name is used again.

## Main definitions

* `Regex.Outcome` — a reader gets to some place, or stops for one of two reasons
* `Regex.ReadsAs`, `Regex.ReadsWithin` — parts, and what is a part between parentheses

## Main results

* `Regex.IsSequence.readsAs`, `Regex.IsSelfContained.readsWithin` — self-contained parts
* `Regex.ReadsAs.append`, `Regex.ReadsWithin.grouped`, `Regex.ReadsWithin.named`,
  `Regex.ReadsAs.repeated` — parts made of others
-/

set_option autoImplicit false

namespace Reroute.Regex

variable {b e : Builder} {x : Char} {source source' rest : List Char} {name : String}
  {names names' : List String}

/-! ### Outcomes -/

/-- What becomes of a reader on the way to a place that `post` describes, where groups with
the given names are opened. -/
inductive Outcome (b : Builder) (names : List String) (post : Builder → Prop) : Prop
  /-- Groups are too deep. -/
  | tooDeep (run : b.run = .error .tooDeep)
  /-- A name is used again. -/
  | duplicate (run : b.run = .error .duplicateGroupName)
      (names : ¬(names.reverse ++ b.names.map Prod.fst).Nodup)
  /-- The reader gets there, and no name is used again. -/
  | reaches (e : Builder) (run : b.run = e.run)
      (names : e.names.map Prod.fst = names.reverse ++ b.names.map Prod.fst)
      (nodup : (b.names.map Prod.fst).Nodup → (e.names.map Prod.fst).Nodup) (post : post e)

namespace Outcome

variable {post post' : Builder → Prop}

theorem mono (h : Outcome b names post) (hpost : ∀ e, post e → post' e) :
    Outcome b names post' := by
  cases h with
  | tooDeep hrun => exact .tooDeep hrun
  | duplicate hrun hnames => exact .duplicate hrun hnames
  | reaches e hrun hnames hnodup he => exact .reaches e hrun hnames hnodup (hpost e he)

/-- A reader that is there already. -/
theorem refl (h : post b) : Outcome b [] post :=
  .reaches b rfl rfl id h

/-- One way after the other. -/
theorem bind (h : Outcome b names post) (hnext : ∀ e, post e → Outcome e names' post') :
    Outcome b (names ++ names') post' := by
  have happend : (names ++ names').reverse ++ b.names.map Prod.fst =
      names'.reverse ++ (names.reverse ++ b.names.map Prod.fst) := by
    rw [List.reverse_append, List.append_assoc]
  cases h with
  | tooDeep hrun => exact .tooDeep hrun
  | duplicate hrun hnames =>
    refine .duplicate hrun fun hnodup => hnames ?_
    rw [happend] at hnodup
    exact (List.nodup_append.mp hnodup).2.1
  | reaches e hrun hnames hnodup he =>
    cases hnext e he with
    | tooDeep hrun' => exact .tooDeep (hrun.trans hrun')
    | duplicate hrun' hnames' =>
      refine .duplicate (hrun.trans hrun') ?_
      rwa [happend, ← hnames]
    | reaches f hrun' hnames' hnodup' hf =>
      refine .reaches f (hrun.trans hrun') ?_ (hnodup' ∘ hnodup) hf
      rw [hnames', hnames, happend]

/-- The first step of a reader opens no group with a name. -/
theorem of_step {next : Builder} (hflags : b.flags = {}) (hrest : b.rest = x :: rest)
    (hstep : b.step x rest = .ok next) (hlt : next.rest.length < b.rest.length)
    (hnames : next.names = b.names) (h : Outcome next names post) : Outcome b names post := by
  have hrun := run_eq_of_step hflags hrest hstep hlt
  have hfirst : Outcome b [] fun e => e = next :=
    .reaches next hrun (by rw [hnames]; rfl) (by rw [hnames]; exact id) rfl
  exact hfirst.bind fun e he => he ▸ h

end Outcome

/-! ### Parts -/

/-- Where a reader is that went on from `b` to `rest`: only pieces were added. -/
structure Builder.Passes (b e : Builder) (solid : Bool) (rest : List Char) : Prop where
  rest : e.rest = rest
  flags : e.flags = {}
  outer : e.outer = b.outer
  branches : e.branches = b.branches
  items : ∃ pieces, (solid → pieces ≠ []) ∧ e.items = pieces ++ b.items

/-- A part of a regular expression in which groups of the given names are opened. A part that
is solid may be repeated, and may be followed by anything. -/
def ReadsAs (solid : Bool) (source : List Char) (names : List String) : Prop :=
  ∀ (b : Builder) (rest : List Char), b.flags = {} → b.rest = source ++ rest →
    (solid = false → Separated rest) → Outcome b names fun e => b.Passes e solid rest

/-- A part that may stand between parentheses, where it may have alternatives. -/
def ReadsWithin (source : List Char) (names : List String) : Prop :=
  ∀ (b : Builder) (rest : List Char), b.flags = {} → b.rest = source ++ ')' :: rest →
    Outcome b names fun e => e.rest = ')' :: rest ∧ e.flags = {} ∧ e.outer = b.outer

theorem ReadsAs.weaken (h : ReadsAs true source names) : ReadsAs false source names := by
  intro b rest hflags hrest _
  refine (h b rest hflags hrest (by simp)).mono fun e he => ?_
  obtain ⟨pieces, -, hitems⟩ := he.items
  exact { he with items := ⟨pieces, by simp, hitems⟩ }

theorem ReadsAs.within (h : ReadsAs false source names) : ReadsWithin source names := by
  intro b rest hflags hrest
  refine (h b _ hflags hrest fun _ => separated_cons (by decide) rest).mono fun e he => ?_
  exact ⟨he.rest, he.flags, he.outer⟩

theorem readsAs_nil : ReadsAs false [] [] :=
  fun _ _ hflags hrest _ => .refl ⟨hrest, hflags, rfl, rfl, [], by simp, rfl⟩

/-- Parts one after the other. -/
theorem ReadsAs.append (h : ReadsAs false source names) (h' : ReadsAs false source' names')
    (hsep : ∀ rest, Separated rest → Separated (source' ++ rest)) :
    ReadsAs false (source ++ source') (names ++ names') := by
  intro b rest hflags hrest ht
  refine (h b (source' ++ rest) hflags (by rw [hrest, List.append_assoc])
    fun _ => hsep rest (ht rfl)).bind fun e he => ?_
  refine (h' e rest he.flags he.rest ht).mono fun f hf => ?_
  obtain ⟨pieces, -, hitems⟩ := he.items
  obtain ⟨pieces', -, hitems'⟩ := hf.items
  exact ⟨hf.rest, hf.flags, hf.outer.trans he.outer, hf.branches.trans he.branches,
    pieces' ++ pieces, by simp, by rw [hitems', hitems, List.append_assoc]⟩

/-! ### Single tokens and self-contained parts -/

/-- Something that is matched. -/
theorem readsAs_operand {node : Node}
    (h : ∀ rest, readToken? x (source ++ rest) = some (.operand node, rest)) :
    ReadsAs true (x :: source) [] := by
  intro b rest hflags hrest _
  refine .of_step hflags hrest (step_eq_apply hflags (h rest)) ?_ rfl (.refl ?_)
  · rw [hrest, List.length_append, List.length_cons]
    exact Nat.lt_add_of_pos_left (Nat.succ_pos _)
  · exact ⟨rfl, hflags, rfl, rfl, [_], by simp, rfl⟩

theorem IsSelfContained.readsWithin {text : String} (h : IsSelfContained text) :
    ReadsWithin text.toList [] := by
  intro b rest hflags hrest
  obtain hdeep | ⟨-, f, -, hrun, hrest', hflags', hnames, houter, -⟩ :=
    h.run_eq (separated_cons (by decide) rest) hflags hrest
  · exact .tooDeep hdeep
  · exact .reaches f hrun (by rw [hnames]; rfl) (by rw [hnames]; exact id)
      ⟨hrest', hflags', houter⟩

theorem IsSequence.readsAs {text : String} (h : IsSequence text) :
    ReadsAs false text.toList [] := by
  intro b rest hflags hrest ht
  obtain hdeep | ⟨r, f, hr, hrun, hrest', hflags', hnames, houter, hsame⟩ :=
    h.toIsSelfContained.run_eq (ht rfl) hflags hrest
  · exact .tooDeep hdeep
  · obtain ⟨hbranches, pieces, hitems⟩ := hsame (h.branches r hr)
    exact .reaches f hrun (by rw [hnames]; rfl) (by rw [hnames]; exact id)
      ⟨hrest', hflags', houter, hbranches, pieces, by simp, hitems⟩

/-! ### Groups -/

/-- A reader that has opened a group around which it was `b`. -/
structure Builder.Enters (b e : Builder) (rest : List Char) : Prop where
  rest : e.rest = rest
  flags : e.flags = {}
  outer : ∃ capture, e.outer = ⟨capture, {}, b.branches, b.items⟩ :: b.outer

/-- A group that is opened has the names that were taken before, and those that its opening
took. -/
theorem outcome_of_openGroup {a : Builder} {c : Option Nat} {rest' : List Char}
    (hflags : b.flags = {}) (hrest : b.rest = x :: rest) (hlt : rest'.length ≤ rest.length)
    (hstep : b.step x rest = a.openGroup c {} rest') (haflags : a.flags = {})
    (houter : a.outer = b.outer) (hbranches : a.branches = b.branches) (hitems : a.items = b.items)
    (hnames : a.names.map Prod.fst = names.reverse ++ b.names.map Prod.fst)
    (hnodup : (b.names.map Prod.fst).Nodup → (a.names.map Prod.fst).Nodup) :
    Outcome b names fun e => b.Enters e rest' := by
  rw [Builder.openGroup, haflags, houter, hbranches, hitems] at hstep
  split_ifs at hstep
  · refine .reaches _ (run_eq_of_step hflags hrest hstep ?_) hnames hnodup ⟨rfl, rfl, _, rfl⟩
    rw [hrest]
    exact Nat.lt_succ_of_le hlt
  · exact .tooDeep (run_eq_error hflags hrest hstep)

/-- A group ends, and is one more piece of what is around it. -/
theorem outcome_of_closeGroup (he : b.Enters e (source ++ ')' :: rest)) {f : Builder}
    (hrest : f.rest = ')' :: rest) (hflags : f.flags = {}) (houter : f.outer = e.outer) :
    Outcome f [] fun f => b.Passes f true rest := by
  obtain ⟨capture, houter'⟩ := he.outer
  rw [houter'] at houter
  have hstep : f.step ')' rest = f.closeGroup rest := rfl
  rw [Builder.closeGroup, houter] at hstep
  refine .of_step hflags hrest hstep ?_ rfl (.refl ⟨rfl, rfl, rfl, rfl, [_], by simp, rfl⟩)
  rw [hrest]
  exact Nat.lt_succ_self _

/-- What is between the parentheses of a group is read, and the group ends. -/
theorem ReadsWithin.outcome (h : ReadsWithin source names)
    (hopen : Outcome b names' fun e => b.Enters e (source ++ ')' :: rest)) :
    Outcome b (names' ++ names) fun e => b.Passes e true rest := by
  have hnil : names' ++ names = names' ++ (names ++ []) := by
    rw [List.append_nil]
  rw [hnil]
  refine hopen.bind fun e he => (h e rest he.flags he.rest).bind fun f hf => ?_
  exact outcome_of_closeGroup he hf.1 hf.2.1 hf.2.2

/-- A group that is not remembered. -/
theorem ReadsWithin.grouped (h : ReadsWithin source names) :
    ReadsAs true ("(?:".toList ++ source ++ [')']) names := by
  intro b rest hflags hrest _
  have hrest' : b.rest = '(' :: '?' :: ':' :: (source ++ ')' :: rest) := by
    simp [hrest]
  have hstep : b.step '(' ('?' :: ':' :: (source ++ ')' :: rest)) =
      b.openGroup none {} (source ++ ')' :: rest) := by
    have htoken : readToken? '(' ('?' :: ':' :: (source ++ ')' :: rest)) =
        some (.opening false, source ++ ')' :: rest) := rfl
    rw [step_eq_apply hflags htoken, Token.apply, hflags]
  have hopen : Outcome b [] fun e => b.Enters e (source ++ ')' :: rest) :=
    outcome_of_openGroup hflags hrest' (by simp; omega) hstep hflags rfl rfl rfl rfl id
  exact h.outcome hopen

/-- A group with a name. -/
theorem ReadsWithin.named (hname : IsGroupName name.toList) (h : ReadsWithin source names) :
    ReadsAs true ("(?P<".toList ++ name.toList ++ ['>'] ++ source ++ [')']) (name :: names) := by
  intro b rest hflags hrest _
  have hrest' : b.rest =
      '(' :: ('?' :: 'P' :: '<' :: (name.toList ++ '>' :: (source ++ ')' :: rest))) := by
    simp [hrest]
  have hstep := step_named (b := b) hname (by rw [hflags]) (source ++ ')' :: rest)
  have hopen : Outcome b [name] fun e => b.Enters e (source ++ ')' :: rest) := by
    split_ifs at hstep with hdup
    · refine .duplicate (run_eq_error hflags hrest' hstep) fun hnodup => ?_
      exact (List.nodup_cons.mp hnodup).1 hdup
    · refine outcome_of_openGroup hflags hrest' (by simp; omega)
        (a := { b with names := (name, b.groups) :: b.names, groups := b.groups + 1 })
        (c := some b.groups) ?_ hflags rfl rfl rfl rfl fun hnodup => ?_
      · rw [hstep, Builder.openCapture, hflags]
      · exact List.nodup_cons.mpr ⟨hdup, hnodup⟩
  exact h.outcome hopen

/-! ### Repetitions -/

/-- A repetition takes what was read last. -/
theorem ReadsAs.repeated (sign : Char) (least : Nat) (most : Option Nat)
    (hmost : most.any (· < least) = false)
    (hsign : ∀ rest, readToken? sign rest = some (readRepetition least most rest))
    (h : ReadsAs true source names) : ReadsAs false (source ++ [sign]) names := by
  intro b rest hflags hrest ht
  rw [← List.append_nil names]
  refine (h b (sign :: rest) hflags (by simp [hrest]) (by simp)).bind fun e he => ?_
  obtain ⟨pieces, hne, hitems⟩ := he.items
  obtain ⟨piece, pieces, rfl⟩ := List.exists_cons_of_ne_nil (hne rfl)
  -- No question mark follows, which would make the repetition lazy.
  have hlazy : readLazy rest = (false, rest) := by
    rw [readLazy]
    rintro rest' rfl
    exact (ht rfl).1 rfl
  have hstep : e.step sign rest = .ok { e with
      rest
      items := piece.repetition least most true :: (pieces ++ b.items) } := by
    have htoken : readToken? sign rest = some (.repetition least most false, rest) := by
      rw [hsign, readRepetition, hlazy]
    rw [step_eq_apply he.flags htoken, Token.apply, hitems]
    dsimp only [List.cons_append]
    rw [hmost, he.flags]
    rfl
  refine .of_step he.flags he.rest hstep ?_ rfl (.refl ?_)
  · rw [he.rest]
    exact Nat.lt_succ_self _
  · exact ⟨rfl, he.flags, he.outer, he.branches, _ :: pieces, by simp, rfl⟩

/-! ### Whole expressions -/

/-- Where a reader is at the end of an expression between anchors. -/
structure Builder.IsAnchored (e : Builder) : Prop where
  rest : e.rest = []
  flags : e.flags = {}
  outer : e.outer = []
  branches : e.branches = []
  items : ∃ pieces, e.items = .leaf (.look .end) :: (pieces ++ [.leaf (.look .start)])

/-- A part between anchors is read from one to the other. -/
theorem ReadsAs.outcome_anchored (h : ReadsAs false source names) :
    Outcome { rest := '^' :: (source ++ ['$']) } names Builder.IsAnchored := by
  refine .of_step rfl rfl rfl (Nat.lt_succ_self _) rfl ?_
  rw [← List.append_nil names]
  refine (h _ ['$'] rfl rfl fun _ => separated_cons (by decide) []).bind fun e he => ?_
  obtain ⟨pieces, -, hitems⟩ := he.items
  have hstep : e.step '$' [] = .ok (e.push (.look .end) []) := by
    change Except.ok (e.push e.flags.endAnchor []) = _
    rw [he.flags]
    rfl
  refine .of_step he.flags he.rest hstep (by rw [he.rest]; exact Nat.lt_succ_self _) rfl (.refl ?_)
  refine ⟨rfl, he.flags, he.outer, he.branches, pieces, ?_⟩
  rw [Builder.push, hitems]
  rfl

/-- At the end there is nothing more to do, and the tree is between those of the anchors. -/
theorem Builder.IsAnchored.exists_run_eq (h : e.IsAnchored) :
    ∃ r nodes, e.run = .ok r ∧ r.outer = [] ∧ r.names = e.names ∧
      r.inner.node = .concat (.look .start :: nodes ++ [.look .end]) := by
  obtain ⟨pieces, hitems⟩ := h.items
  have hrun : e.run = .ok { e with rest := [] } := by
    rw [Builder.run, h.flags, h.rest]
    rfl
  refine ⟨_, (pieces.reverse).map Piece.node, hrun, h.outer, rfl, ?_⟩
  have hitems' : { e with rest := [] }.items =
      (Piece.leaf (.look .start) :: (pieces.reverse ++ [.leaf (.look .end)])).reverse := by
    simp [hitems]
  rw [inner_eq (b := { e with rest := [] }) h.branches hitems', node_concat, List.map_cons,
    List.map_append]
  rfl

section Anchored

variable {node : Node} {found : List (String × Nat)}

/-- The expression of a part between anchors is refused for a name that is used again only if
there is one. -/
theorem ReadsAs.parse_ne_duplicate (h : ReadsAs false source names) (hnames : names.Nodup) :
    parse (String.ofList ('^' :: (source ++ ['$']))) ≠ .error .duplicateGroupName := by
  intro hparse
  rw [parse, String.toList_ofList] at hparse
  cases h.outcome_anchored with
  | tooDeep hrun =>
    rw [hrun] at hparse
    cases hparse
  | duplicate hrun hdup =>
    refine hdup ?_
    rw [List.map_nil, List.append_nil]
    exact (List.reverse_perm names).nodup_iff.mpr hnames
  | reaches e hrun _ _ he =>
    obtain ⟨r, nodes, hr, houter, -⟩ := he.exists_run_eq
    rw [hrun, hr] at hparse
    -- The limits on size are all that is left.
    change (if r.outer.isEmpty then _ else _) = _ at hparse
    rw [houter, List.isEmpty_nil, if_pos rfl] at hparse
    split_ifs at hparse
    all_goals cases hparse

/-- The tree of a part between anchors is between the trees of the anchors, and no name is used
again. -/
theorem ReadsAs.parse_eq (h : ReadsAs false source names)
    (hparse : parse (String.ofList ('^' :: (source ++ ['$']))) = .ok (node, found)) :
    names.Nodup ∧ ∃ nodes, node = .concat (.look .start :: nodes ++ [.look .end]) := by
  obtain ⟨r, hr, -⟩ := exists_of_bind_eq_ok hparse
  have hnode := (eq_of_parse hr hparse).1
  rw [String.toList_ofList] at hr
  cases h.outcome_anchored with
  | tooDeep hrun =>
    rw [hrun] at hr
    cases hr
  | duplicate hrun =>
    rw [hrun] at hr
    cases hr
  | reaches e hrun hnames hnodup he =>
    obtain ⟨r', nodes, hr', -, -, hinner⟩ := he.exists_run_eq
    obtain rfl : r' = r := Except.ok.inj (hr'.symm.trans (hrun.symm.trans hr))
    refine ⟨?_, nodes, hnode.trans hinner⟩
    have hnodup' := hnodup List.nodup_nil
    rw [hnames, List.map_nil, List.append_nil] at hnodup'
    exact (List.reverse_perm names).nodup_iff.mp hnodup'

end Anchored

end Reroute.Regex
