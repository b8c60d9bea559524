import Reroute.Proofs.Regex.Containment
import Reroute.Proofs.Regex.Source

/-!
# What regular expressions keep of their parts

What was read of a regular expression stays part of it, whatever follows: nothing but a
repetition of no times drops what it repeats. So a group that was opened is in the program, and
a balanced part between parentheses cannot be too large to be read alone.

## Main definitions

* `Builder.Retains` — a reader still has all that another one had
* `Builder.Captures`, `Builder.Holds` — a reader has a group, or a balanced part
* `Regex.IsKept` — parts of a regular expression with their groups and balanced parts

## Main results

* `Builder.Retains.of_takes` — a token keeps what was read before
* `Regex.IsKept.append`, `Regex.isKept_of_tokens`, `Regex.IsBalanced.isKept_between` — parts
* `Regex.IsKept.of_parse` — the groups and the balanced parts of a whole expression
-/

set_option autoImplicit false

namespace Reroute.Regex

/-! ### Readers -/

variable {b c e f r next : Builder} {x : Char} {text source source' rest t : List Char}
  {token : Token} {tokens : List Token} {names names' patterns patterns' : List String}

namespace Builder

/-- All that was read, in the order from the inside to the outside. -/
def pieces (b : Builder) : List Piece :=
  b.items ++ b.branches ++ b.outer.flatMap fun frame => frame.items ++ frame.branches

/-- The group is open, or it is in a piece and its places are remembered. -/
def Captures (b : Builder) (index : Nat) : Prop :=
  (∃ frame ∈ b.outer, frame.capture = some index) ∨
    ∃ p ∈ b.pieces, p.node.Remembers (2 * index) ∧ p.node.Remembers (2 * index + 1)

/-- What one reader had read is part of what the other one has. -/
structure Retains (b e : Builder) : Prop where
  groups_le : b.groups ≤ e.groups
  names_subset : b.names ⊆ e.names
  pieces : ∀ p ∈ b.pieces, ∃ q ∈ e.pieces, p.Within q
  captures : ∀ index, b.Captures index → e.Captures index

theorem Retains.refl (b : Builder) : b.Retains b :=
  ⟨Nat.le_refl _, List.Subset.refl _, fun p hp => ⟨p, hp, .refl p⟩, fun _ => id⟩

theorem Retains.trans (h : b.Retains e) (h' : e.Retains f) : b.Retains f where
  groups_le := Nat.le_trans h.groups_le h'.groups_le
  names_subset := List.Subset.trans h.names_subset h'.names_subset
  pieces p hp := by
    obtain ⟨q, hq, hpq⟩ := h.pieces p hp
    obtain ⟨s, hs, hqs⟩ := h'.pieces q hq
    exact ⟨s, hs, hpq.trans hqs⟩
  captures index := h'.captures index ∘ h.captures index

/-- Open groups go on to be open, or become pieces. -/
theorem Retains.of_pieces (hgroups : b.groups ≤ e.groups) (hnames : b.names ⊆ e.names)
    (hpieces : ∀ p ∈ b.pieces, ∃ q ∈ e.pieces, p.Within q)
    (houter : ∀ frame ∈ b.outer, ∀ index, frame.capture = some index → e.Captures index) :
    b.Retains e := by
  refine ⟨hgroups, hnames, hpieces, fun index hcaptures => ?_⟩
  obtain ⟨frame, hframe, hindex⟩ | ⟨p, hp, hfst, hsnd⟩ := hcaptures
  · exact houter frame hframe index hindex
  · obtain ⟨q, hq, hpq⟩ := hpieces p hp
    exact .inr ⟨q, hq, hpq.node.remembers _ hfst, hpq.node.remembers _ hsnd⟩

/-- All that was read of the innermost group is in what the group becomes. -/
theorem within_inner {p : Piece} (h : p ∈ b.items ∨ p ∈ b.branches) : p.Within b.inner := by
  obtain h | h := h
  · have hconcat : p.Within (Piece.concat b.items.reverse) :=
      Piece.within_concat (List.mem_reverse.mpr h)
    exact hconcat.trans (Piece.within_alternation (by simp))
  · exact Piece.within_alternation (by simp [h])

theorem within_close (frame : Frame) (p : Piece) : p.Within (frame.close p) := by
  rw [Frame.close.eq_def]
  split
  · exact Piece.within_capture _ p
  · exact .refl p

theorem mem_pieces {p : Piece} :
    p ∈ b.pieces ↔ (p ∈ b.items ∨ p ∈ b.branches) ∨
      ∃ frame ∈ b.outer, p ∈ frame.items ∨ p ∈ frame.branches := by
  simp [pieces, or_assoc]

end Builder

/-- The token does not drop what it repeats. -/
def Token.Keeps : Token → Prop
  | operand _ | bar | opening _ | closing => True
  | repetition _ most _ => most ≠ some 0

/-- A token keeps all that was read, unless it repeats it no times. -/
theorem Builder.Retains.of_takes (htoken : token.Keeps) (h : b.Takes rest token e) :
    b.Retains e := by
  cases h with
  | operand node =>
    refine .of_pieces (Nat.le_refl _) (List.Subset.refl _) (fun p hp => ⟨p, ?_, .refl p⟩)
      fun frame hframe index hindex => .inl ⟨frame, hframe, hindex⟩
    exact List.mem_cons_of_mem _ hp
  | bar =>
    refine .of_pieces (Nat.le_refl _) (List.Subset.refl _) (fun p hp => ?_)
      fun frame hframe index hindex => .inl ⟨frame, hframe, hindex⟩
    obtain (hp | hp) | ⟨frame, hframe, hp⟩ := mem_pieces.mp hp
    · exact ⟨_, mem_pieces.mpr (.inl (.inr List.mem_cons_self)),
        Piece.within_concat (List.mem_reverse.mpr hp)⟩
    · exact ⟨p, mem_pieces.mpr (.inl (.inr (List.mem_cons_of_mem _ hp))), .refl p⟩
    · exact ⟨p, mem_pieces.mpr (.inr ⟨frame, hframe, hp⟩), .refl p⟩
  | opening remembered =>
    refine .of_pieces (Nat.le_add_right _ _) (List.Subset.refl _)
      (fun p hp => ⟨p, mem_pieces.mpr (.inr ?_), .refl p⟩)
      fun frame hframe index hindex => .inl ⟨frame, List.mem_cons_of_mem _ hframe, hindex⟩
    obtain hp | ⟨frame, hframe, hp⟩ := mem_pieces.mp hp
    · exact ⟨_, List.mem_cons_self, hp⟩
    · exact ⟨frame, List.mem_cons_of_mem _ hframe, hp⟩
  | @closing frame outer houter =>
    refine .of_pieces (Nat.le_refl _) (List.Subset.refl _) (fun p hp => ?_)
      fun frame' hframe index hindex => ?_
    · rw [mem_pieces, houter] at hp
      obtain hp | ⟨frame', hframe, hp⟩ := hp
      · exact ⟨_, mem_pieces.mpr (.inl (.inl List.mem_cons_self)),
          (within_inner hp).trans (within_close frame _)⟩
      · obtain rfl | hframe := List.mem_cons.mp hframe
        · exact ⟨p, mem_pieces.mpr (.inl (hp.imp_left (List.mem_cons_of_mem _))), .refl p⟩
        · exact ⟨p, mem_pieces.mpr (.inr ⟨frame', hframe, hp⟩), .refl p⟩
    · rw [houter] at hframe
      obtain rfl | hframe := List.mem_cons.mp hframe
      -- The group that ends is a piece from now on.
      · refine .inr ⟨_, mem_pieces.mpr (.inl (.inl List.mem_cons_self)), ?_⟩
        rw [Frame.close.eq_def, hindex]
        exact ⟨Node.remembers_capture_fst _ _, Node.remembers_capture_snd _ _⟩
      · exact .inl ⟨frame', hframe, hindex⟩
  | @repetition piece items hitems least most isLazy =>
    refine .of_pieces (Nat.le_refl _) (List.Subset.refl _) (fun p hp => ?_)
      fun frame hframe index hindex => .inl ⟨frame, hframe, hindex⟩
    rw [mem_pieces, hitems] at hp
    obtain (hp | hp) | hp := hp
    · obtain rfl | hp := List.mem_cons.mp hp
      · exact ⟨_, mem_pieces.mpr (.inl (.inl List.mem_cons_self)),
          Piece.within_repetition least htoken _ _⟩
      · exact ⟨p, mem_pieces.mpr (.inl (.inl (List.mem_cons_of_mem _ hp))), .refl p⟩
    · exact ⟨p, mem_pieces.mpr (.inl (.inr hp)), .refl p⟩
    · exact ⟨p, mem_pieces.mpr (.inr hp), .refl p⟩

/-! ### Parts -/

/-- A reader has the part of the text in parentheses as a piece, under higher numbers. -/
def Builder.Holds (b : Builder) (text : String) : Prop :=
  ∃ (f : Builder) (k : Nat), Builder.run { rest := text.toList } = .ok f ∧ f.outer = [] ∧
    f.names = [] ∧ f.groups + k ≤ b.groups ∧ ∃ q ∈ b.pieces, (f.inner.raise k).Within q

/-- A reader went on from `b`. It has opened groups of the given names, and has pieces for the
given parts. -/
structure Builder.Gathers (b e : Builder) (names patterns : List String) : Prop
    extends b.Retains e where
  plain : e.IsPlain
  map_names : e.names.map Prod.fst = names.reverse ++ b.names.map Prod.fst
  opened : ∀ name ∈ names, ∃ index, (name, index) ∈ e.names ∧ e.Captures index
  holds : ∀ t ∈ patterns, e.Holds t

namespace Builder

theorem Holds.retained {t : String} (h : b.Holds t) (hretains : b.Retains e) : e.Holds t := by
  obtain ⟨f, k, hrun, houter, hnames, hgroups, p, hp, hwithin⟩ := h
  obtain ⟨q, hq, hpq⟩ := hretains.pieces p hp
  exact ⟨f, k, hrun, houter, hnames, Nat.le_trans hgroups hretains.groups_le, q, hq,
    hwithin.trans hpq⟩

theorem Gathers.of_retains (h : b.Retains e) (hplain : e.IsPlain) (hnames : e.names = b.names) :
    b.Gathers e [] [] :=
  { h with
    plain := hplain
    map_names := by rw [hnames]; rfl
    opened := by simp
    holds := by simp }

theorem Gathers.trans (h : b.Gathers e names patterns) (h' : e.Gathers f names' patterns') :
    b.Gathers f (names ++ names') (patterns ++ patterns') := by
  refine { h.toRetains.trans h'.toRetains with
    plain := h'.plain
    map_names := ?_
    opened := List.forall_mem_append.mpr ⟨fun name hname => ?_, h'.opened⟩
    holds := List.forall_mem_append.mpr
      ⟨fun t ht => (h.holds t ht).retained h'.toRetains, h'.holds⟩ }
  · rw [h'.map_names, h.map_names, List.reverse_append, List.append_assoc]
  · obtain ⟨index, hindex, hcaptures⟩ := h.opened name hname
    exact ⟨index, h'.names_subset hindex, h'.captures index hcaptures⟩

end Builder

/-- A part of a regular expression. A reader that gets to the end of the whole has gone through
it, has opened groups of the given names there, and keeps them and the given balanced parts. -/
def IsKept (source : List Char) (names patterns : List String) : Prop :=
  ∀ (b r : Builder) (rest : List Char), b.IsPlain → Separated rest → b.rest = source ++ rest →
    b.run = .ok r → ∃ e, e.run = .ok r ∧ e.rest = rest ∧ b.Gathers e names patterns

theorem isKept_nil : IsKept [] [] [] :=
  fun b _ _ hplain _ hrest hrun => ⟨b, hrun, hrest, .of_retains (.refl b) hplain rfl⟩

/-- Parts one after the other. -/
theorem IsKept.append (h : IsKept source names patterns) (h' : IsKept source' names' patterns')
    (hsep : ∀ rest, Separated rest → Separated (source' ++ rest)) :
    IsKept (source ++ source') (names ++ names') (patterns ++ patterns') := by
  intro b r rest hplain ht hrest hrun
  obtain ⟨e, hrun, hrest, he⟩ := h b r (source' ++ rest) hplain (hsep rest ht)
    (by rw [hrest, List.append_assoc]) hrun
  obtain ⟨f, hrun, hrest, hf⟩ := h' e r rest he.plain ht hrest hrun
  exact ⟨f, hrun, hrest, he.trans hf⟩

/-- A token that drops nothing is taken by a reader that gets to the end. -/
theorem exists_gathers_of_token (hplain : b.IsPlain) (hrest : b.rest = x :: rest)
    (hread : readToken? x rest = some (token, t)) (htoken : token.Keeps) (hrun : b.run = .ok r) :
    ∃ e, e.run = .ok r ∧ b.Takes t token e ∧ b.Gathers e [] [] := by
  obtain ⟨e, hstep, -, hrun⟩ := exists_step_of_run hrun hplain.flags hrest
  rw [step_eq_apply hplain.flags hread] at hstep
  have htakes := takes_of_apply hstep
  exact ⟨e, hrun, htakes,
    .of_retains (.of_takes htoken htakes) (hplain.apply hstep) (names_of_takes htakes)⟩

/-- Tokens none of which drops anything. -/
theorem isKept_of_tokens (htokens : Tokens source tokens) (hkeeps : ∀ token ∈ tokens, token.Keeps) :
    IsKept source [] [] := by
  induction htokens with
  | nil => exact isKept_nil
  | @cons x rest rest' token tokens first _ ih =>
    obtain ⟨hfirst, hmore⟩ := List.forall_mem_cons.mp hkeeps
    intro b r t hplain ht hrest hrun
    obtain ⟨e, hrun, htakes, he⟩ :=
      exists_gathers_of_token hplain hrest (readToken?_append ht first) hfirst hrun
    obtain ⟨f, hrun, hrest, hf⟩ := ih hmore e r t he.plain ht (rest_of_takes htakes) hrun
    exact ⟨f, hrun, hrest, he.trans hf⟩

/-! ### Groups -/

/-- The beginning of a group. -/
def IsOpening (source : List Char) (names : List String) : Prop :=
  ∀ (b r : Builder) (rest : List Char), b.IsPlain → b.rest = source ++ rest → b.run = .ok r →
    ∃ e, e.run = .ok r ∧ e.rest = rest ∧ b.Gathers e names [] ∧ e.branches = [] ∧ e.items = [] ∧
      e.outer ≠ []

theorem IsOpening.isKept (h : IsOpening source names) : IsKept source names [] := by
  intro b r rest hplain _ hrest hrun
  obtain ⟨e, hrun, hrest, he, -⟩ := h b r rest hplain hrest hrun
  exact ⟨e, hrun, hrest, he⟩

/-- A part between the beginning and the end of a group, which may be repeated. -/
theorem IsKept.enclosed {signs : List Char} (h : IsKept source' names' patterns)
    (hopen : IsOpening source names) (hclose : IsKept (')' :: signs) [] [])
    (hsep : ∀ rest, Separated rest → Separated (source' ++ rest)) :
    IsKept (source ++ source' ++ ')' :: signs) (names ++ names') patterns := by
  have hinside := (hopen.isKept.append h hsep).append hclose fun rest _ =>
    separated_cons (by decide) _
  rwa [List.append_nil, List.append_nil, List.nil_append] at hinside

/-- A group that is not remembered. -/
theorem isOpening_plain : IsOpening "(?:".toList [] := by
  intro b r rest hplain hrest hrun
  have hread : readToken? '(' ('?' :: ':' :: rest) = some (.opening false, rest) := rfl
  obtain ⟨e, hrun, htakes, he⟩ := exists_gathers_of_token hplain hrest hread trivial hrun
  refine ⟨e, hrun, rest_of_takes htakes, he, ?_⟩
  cases htakes
  exact ⟨rfl, rfl, List.cons_ne_nil _ _⟩

/-- A group with a name. -/
theorem isOpening_named {name : String} (hname : IsGroupName name.toList) :
    IsOpening ("(?P<".toList ++ name.toList ++ ['>']) [name] := by
  intro b r rest hplain hrest hrun
  obtain ⟨e, hstep, -, hrun⟩ := exists_step_of_run hrun hplain.flags
    (show b.rest = '(' :: ('?' :: 'P' :: '<' :: (name.toList ++ '>' :: rest)) by simp [hrest])
  obtain ⟨hfresh, rfl⟩ := eq_of_step_named hname (by rw [hplain.flags]) hstep
  have htakes : Builder.Takes { b with names := (name, b.groups) :: b.names } rest (.opening true)
      _ := .opening true
  have hretains : b.Retains { b with names := (name, b.groups) :: b.names } :=
    .of_pieces (Nat.le_refl _) (List.subset_cons_self _ _) (fun p hp => ⟨p, hp, .refl p⟩)
      fun frame hframe index hindex => .inl ⟨frame, hframe, hindex⟩
  have hkeeps : (Token.opening true).Keeps := trivial
  have hopened := Builder.Retains.of_takes hkeeps htakes
  refine ⟨_, hrun, rfl, { hretains.trans hopened with
    plain := ⟨hplain.flags, List.forall_mem_cons.mpr ⟨hplain.flags, hplain.outer⟩,
      Nat.succ_ne_zero _, List.nodup_cons.mpr ⟨hfresh, hplain.names⟩⟩
    map_names := rfl
    opened := ?_
    holds := by simp }, rfl, rfl, List.cons_ne_nil _ _⟩
  intro name' hname'
  obtain rfl := List.mem_singleton.mp hname'
  exact ⟨b.groups, List.mem_cons_self, .inl ⟨_, List.mem_cons_self, rfl⟩⟩

theorem isPlain_placedIn (hf : f.IsPlain) (hc : c.IsPlain) (houter : f.outer = []) :
    (f.placedIn c t).IsPlain := by
  refine ⟨hf.flags, ?_, fun h => hf.groups (Nat.add_eq_zero_iff.mp h).1, hc.names⟩
  rw [Builder.placedIn, houter]
  exact hc.outer

/-- What was read around a group is there when the inside has been read. -/
theorem retains_placedIn (hf : f.IsPlain) (houter : f.outer = []) (hbranches : c.branches = [])
    (hitems : c.items = []) : c.Retains (f.placedIn c t) := by
  have hplaced : (f.placedIn c t).outer = c.outer := by
    rw [Builder.placedIn, houter]
    rfl
  refine .of_pieces ?_ (List.Subset.refl _) (fun p hp => ⟨p, ?_, .refl p⟩)
    fun frame hframe index hindex => .inl ⟨frame, hplaced ▸ hframe, hindex⟩
  · have hgroups := hf.groups
    change c.groups ≤ f.groups + (c.groups - 1)
    omega
  · rw [Builder.mem_pieces, hitems, hbranches] at hp
    rw [Builder.mem_pieces, hplaced]
    exact .inr (hp.resolve_left (by simp))

/-- The inside of a group that ends is in a piece. -/
theorem exists_within_of_closing (h : b.Takes rest .closing e) :
    ∃ q ∈ e.pieces, b.inner.Within q := by
  cases h with
  | @closing frame =>
    exact ⟨_, Builder.mem_pieces.mpr (.inl (.inl List.mem_cons_self)),
      Builder.within_close frame _⟩

/-- A balanced part between the parentheses of a group. -/
theorem IsBalanced.isKept_between {t : String} (h : IsBalanced t) (hopen : IsOpening source names) :
    IsKept (source ++ t.toList ++ [')']) names [t] := by
  intro b r rest hplain _ hrest hrun
  obtain ⟨c, hrun, hrest, hc, hbranches, hitems, -⟩ :=
    hopen b r (t.toList ++ ')' :: rest) hplain (by simp [hrest]) hrun
  obtain ⟨f, hf, hplain, hnil, houter, hnames, hrun⟩ :=
    h.exists_run hc.plain hbranches hitems (separated_cons (by decide) rest) hrest hrun
  -- The reader of the whole closes the group behind the part.
  have hclosing : readToken? ')' rest = some (.closing, rest) := rfl
  obtain ⟨e, hrun, htakes, he⟩ := exists_gathers_of_token (isPlain_placedIn hplain hc.plain houter)
    (by rw [Builder.placedIn, hnil]; rfl) hclosing trivial hrun
  obtain ⟨q, hq, hwithin⟩ := exists_within_of_closing htakes
  rw [Builder.inner_placedIn] at hwithin
  have hholds : e.Holds t := ⟨f, c.groups - 1, hf, houter, hnames, he.groups_le, q, hq, hwithin⟩
  have hinside : c.Gathers e [] [t] :=
    { (retains_placedIn hplain houter hbranches hitems).trans he.toRetains with
      plain := he.plain
      map_names := he.map_names
      opened := by simp
      holds := fun t' ht' => List.mem_singleton.mp ht' ▸ hholds }
  have hall := hc.trans hinside
  rw [List.append_nil, List.nil_append] at hall
  exact ⟨e, hrun, rest_of_takes htakes, hall⟩

/-! ### Whole expressions -/

/-- All that is left when no group is open is in the tree. -/
theorem Builder.within_inner_of_mem (houter : r.outer = []) {p : Piece} (hp : p ∈ r.pieces) :
    p.Within r.inner := by
  rw [mem_pieces, houter] at hp
  exact within_inner (hp.resolve_right (by simp))

theorem save_mem_program {node : Node} {slot : Nat} (h : node.Remembers slot) :
    Inst.save slot ∈ node.program := by
  have hcode := (Node.within_capture 0 node).remembers slot h 0
  simp [Node.program, hcode]

/-- The limits on size that hold for the whole hold for its parts. -/
theorem Builder.Holds.exists_compile {t : String} (h : r.Holds t) (houter : r.outer = [])
    (hheight : r.inner.height ≤ maxHeight)
    (htotal : r.inner.total r.groups r.names ≤ maxFootprint) :
    ∃ regex, compile t = .ok regex := by
  obtain ⟨f, k, hrun, hf, hnames, hgroups, p, hp, hwithin⟩ := h
  have hinner := hwithin.trans (within_inner_of_mem houter hp)
  have htotal' : f.inner.total f.groups f.names ≤ maxFootprint := by
    rw [hnames]
    exact Nat.le_trans (Piece.total_le_total hinner hgroups r.names) htotal
  have hparse : parse t = .ok (f.inner.node, f.names) :=
    parse_eq_ok_iff.mpr ⟨f, hrun, hf, Nat.le_trans hinner.height hheight, htotal', rfl, rfl⟩
  rw [compile, hparse]
  exact ⟨_, rfl⟩

theorem Builder.Captures.save_mem_program {index : Nat} (h : r.Captures index)
    (houter : r.outer = []) :
    Inst.save (2 * index) ∈ r.inner.node.program ∧
      Inst.save (2 * index + 1) ∈ r.inner.node.program := by
  obtain ⟨frame, hframe, -⟩ | ⟨p, hp, hfst, hsnd⟩ := h
  · rw [houter] at hframe
    cases hframe
  · have hwithin := (within_inner_of_mem houter hp).node
    exact ⟨Regex.save_mem_program (hwithin.remembers _ hfst),
      Regex.save_mem_program (hwithin.remembers _ hsnd)⟩

/-- A part between anchors. -/
theorem IsKept.anchored (h : IsKept source names patterns)
    (hsep : ∀ rest, Separated rest → Separated (source ++ rest)) :
    IsKept ('^' :: (source ++ ['$'])) names patterns := by
  have hstart : Tokens ['^'] [.operand (Flags.startAnchor {})] := .cons rfl .nil
  have hend : Tokens ['$'] [.operand (Flags.endAnchor {})] := .cons rfl .nil
  have hsource : IsKept (source ++ ['$']) (names ++ []) (patterns ++ []) :=
    h.append (isKept_of_tokens hend (by simp [Token.Keeps])) fun rest _ =>
      separated_cons (by decide) rest
  rw [List.append_nil, List.append_nil] at hsource
  refine (isKept_of_tokens hstart (by simp [Token.Keeps])).append hsource fun rest _ => ?_
  change Separated ((source ++ ['$']) ++ rest)
  rw [List.append_assoc]
  exact hsep _ (separated_cons (by decide) rest)

/-- Of a regular expression that can be read, the program remembers the places of all groups
with names, and the balanced parts can be read alone. -/
theorem IsKept.of_parse {text : String} {node : Node} {found : List (String × Nat)}
    (h : IsKept text.toList names patterns) (hparse : parse text = .ok (node, found)) :
    found.map Prod.fst = names.reverse ∧ (found.map Prod.fst).Nodup ∧
      (∀ name ∈ names, ∃ index, (name, index) ∈ found ∧
        Inst.save (2 * index) ∈ node.program ∧ Inst.save (2 * index + 1) ∈ node.program) ∧
      ∀ t ∈ patterns, ∃ regex, compile t = .ok regex := by
  obtain ⟨r, hrun, houter, hheight, htotal, rfl, rfl⟩ := parse_eq_ok_iff.mp hparse
  have hnil : Separated [] := ⟨by simp, by simp⟩
  obtain ⟨e, he, hrest, hgathers⟩ := h { rest := text.toList } r [] ⟨rfl, by simp, by simp, by simp⟩
    hnil (List.append_nil _).symm hrun
  -- There is nothing left to read.
  obtain rfl : e = r :=
    Except.ok.inj ((run_of_rest_eq_nil hgathers.plain.flags hrest).symm.trans he)
  refine ⟨by simpa using hgathers.map_names, hgathers.plain.names, fun name hname => ?_,
    fun t ht => (hgathers.holds t ht).exists_compile houter hheight htotal⟩
  obtain ⟨index, hindex, hcaptures⟩ := hgathers.opened name hname
  exact ⟨index, hindex, hcaptures.save_mem_program houter⟩

end Reroute.Regex
