import Mathlib.Data.List.Basic
import Reroute.Proofs.Regex.Fragment
import Reroute.Proofs.Regex.Matching

/-!
# How regular expressions are read

Under default flags the text of a regular expression is read part by part: escaped text,
a class that excludes slashes, groups and repetitions each add trees of their own to
what was read before. Nothing is said here about texts that are no regular expressions,
nor about the limits on size.

## Main definitions

* `Regex.Adds` — a part of a text adds trees and groups
* `Regex.IsGroupName` — what can be the name of a group
* `Regex.notSlash` — every character but the slash

## Main results

* `Regex.Adds.append` — parts one after the other
* `Regex.adds_escape`, `Regex.adds_notSlash` — characters and the class
* `Regex.Adds.grouped`, `Regex.Adds.named`, `Regex.Adds.repeated` — groups and
  repetitions
* `Regex.Adds.parse_eq` — the tree of a whole text
-/

set_option autoImplicit false

namespace Reroute.Regex

variable {b r : Builder}

/-! ### Parts -/

/-- A part of a text, read when `group` groups were opened before, adds trees, and the
groups with these names and numbers. If `guarded`, it must not be followed by a question
mark. -/
def Adds (guarded : Bool) (source : List Char) (group : Nat) (nodes : List Node)
    (names : List (String × Nat)) : Prop :=
  ∀ (b r : Builder) (rest : List Char), b.flags = {} → b.groups = group →
    b.rest = source ++ rest → (guarded → rest.head? ≠ some '?') → b.run = .ok r →
    ∃ pieces : List Piece, pieces.map Piece.node = nodes ∧
      (∀ name ∈ names.map Prod.fst, name ∉ b.names.map Prod.fst) ∧
      (names.map Prod.fst).Nodup ∧
      Builder.run { b with
        rest
        items := pieces.reverse ++ b.items
        groups := group + names.length
        names := names.reverse ++ b.names } = .ok r

section Parts

variable {source source' : List Char} {group : Nat} {nodes nodes' : List Node}
  {names names' : List (String × Nat)}

theorem Adds.weaken (h : Adds false source group nodes names) :
    Adds true source group nodes names :=
  fun b r rest hflags hgroups hrest _ hrun =>
    h b r rest hflags hgroups hrest (by simp) hrun

theorem adds_nil (guarded : Bool) (group : Nat) : Adds guarded [] group [] [] := by
  intro b r rest hflags hgroups hrest _ hrun
  refine ⟨[], rfl, by simp, by simp, ?_⟩
  subst hgroups
  obtain rfl : b.rest = rest := hrest
  exact hrun

/-- Parts one after the other. -/
theorem Adds.append (h : Adds true source group nodes names)
    (h' : Adds true source' (group + names.length) nodes' names')
    (hhead : source'.head? ≠ some '?') :
    Adds true (source ++ source') group (nodes ++ nodes') (names ++ names') := by
  intro b r rest hflags hgroups hrest hguard hrun
  obtain ⟨pieces, rfl, hnew, hnodup, hrun⟩ := h b r (source' ++ rest) hflags hgroups
    (by rw [hrest, List.append_assoc]) (fun _ => by
      cases source' with
      | nil => exact hguard rfl
      | cons x source' => exact hhead) hrun
  obtain ⟨pieces', rfl, hnew', hnodup', hrun⟩ := h'
    { b with
      rest := source' ++ rest
      items := pieces.reverse ++ b.items
      groups := group + names.length
      names := names.reverse ++ b.names } r rest hflags rfl rfl hguard hrun
  refine ⟨pieces ++ pieces', List.map_append, ?_, ?_, ?_⟩
  -- The names of the second part are new with respect to those of the first as well.
  · rw [List.map_append]
    refine List.forall_mem_append.mpr ⟨hnew, fun name hname hmem => hnew' name hname ?_⟩
    rw [List.map_append]
    exact List.mem_append_right _ hmem
  · rw [List.map_append, List.nodup_append]
    refine ⟨hnodup, hnodup', ?_⟩
    rintro name hname _ hname' rfl
    refine hnew' name hname' ?_
    rw [List.map_append, List.map_reverse]
    exact List.mem_append_left _ (List.mem_reverse.mpr hname)
  · simpa [List.append_assoc, Nat.add_assoc] using hrun

/-! ### Characters -/

/-- A step that adds a single piece. -/
theorem adds_of_push {node : Node} (hne : source ≠ [])
    (h : ∀ (b : Builder) (rest : List Char), b.flags = {} →
      b.step (source.head hne) (source.tail ++ rest) = .ok (b.push node rest)) :
    Adds false source group [node] [] := by
  intro b r rest hflags hgroups hrest _ hrun
  obtain ⟨x, source, rfl⟩ := List.exists_cons_of_ne_nil hne
  refine ⟨[.leaf node], ?_, by simp, by simp, ?_⟩
  · cases node <;> rfl
  · subst hgroups
    exact run_of_step hrun hflags hrest (h b rest hflags)

theorem step_of_not_isMeta {x : Char} (hx : isMeta x = false) (rest : List Char) :
    b.step x rest = .ok (b.push (b.flags.literal x) rest) := by
  -- Every branch of the step but the last is for a character with a meaning.
  have hne (y : Char) (hy : isMeta y = true) : x ≠ y := by
    rintro rfl
    rw [hx] at hy
    cases hy
  unfold Builder.step
  split
  all_goals first
    | exact absurd rfl (hne _ rfl)
    | rfl

theorem readEscape_of_isMeta {x : Char} (hx : isMeta x) (flags : Flags) (rest : List Char) :
    readEscape flags (x :: rest) = .ok (flags.literal x, rest) := by
  -- No such character is taken for a number of a group or a class.
  have hmeta : ∀ y ∈ metaChars, (y.isDigit || y = 'p' || y = 'P') = false := by
    simp [metaChars]
  have hmem : x ∈ metaChars := by simpa [isMeta] using hx
  have hescapable : isEscapable x = true := by simp [isEscapable, hx]
  unfold readEscape
  dsimp only
  rw [if_neg (by rw [hmeta x hmem]; decide), if_pos hescapable]

/-- An escaped character stands for itself. -/
theorem adds_escaped (x : Char) :
    Adds false (if isMeta x then ['\\', x] else [x]) group [.char x] [] := by
  by_cases hx : isMeta x
  · rw [if_pos hx]
    refine adds_of_push (by simp) fun b rest hflags => ?_
    change (readEscape b.flags (x :: rest)).map _ = _
    rw [readEscape_of_isMeta hx, hflags]
    rfl
  · rw [if_neg hx]
    refine adds_of_push (by simp) fun b rest hflags => ?_
    have hstep := step_of_not_isMeta (b := b) (Bool.eq_false_iff.mpr hx) rest
    rw [hflags] at hstep
    exact hstep

theorem head?_escaped_ne (x : Char) (rest : List Char) :
    ((if isMeta x then ['\\', x] else [x]) ++ rest).head? ≠ some '?' := by
  by_cases hx : isMeta x
  · simp [if_pos hx]
  · rw [if_neg hx]
    rintro ⟨⟩
    exact hx rfl

theorem head?_escape_ne (text : String) {rest : List Char} (hrest : rest.head? ≠ some '?') :
    ((escape text).toList ++ rest).head? ≠ some '?' := by
  rw [escape, String.toList_ofList]
  cases text.toList with
  | nil => exact hrest
  | cons x text =>
    rw [List.flatMap_cons, List.append_assoc]
    exact head?_escaped_ne x _

/-- Escaped text stands for itself. -/
theorem adds_escape (text : String) :
    Adds true (escape text).toList group (text.toList.map .char) [] := by
  rw [escape, String.toList_ofList]
  induction text.toList with
  | nil => exact adds_nil true group
  | cons x text ih =>
    have hhead : (text.flatMap fun y => if isMeta y then ['\\', y] else [y]).head? ≠ some '?' := by
      cases text with
      | nil => simp
      | cons y text =>
        rw [List.flatMap_cons]
        exact head?_escaped_ne y _
    rw [List.flatMap_cons, List.map_cons]
    exact (adds_escaped x).weaken.append ih hhead

/-! ### The class of a placeholder -/

/-- Every character but the slash. -/
def notSlash : CharSet :=
  (CharSet.unions [.single '/']).compl

theorem contains_notSlash (x : Char) : notSlash.contains x = (x != '/') := by
  have hempty : CharSet.empty.contains x = false := rfl
  have hnat : (decide ('/'.toNat ≤ x.toNat) && decide (x.toNat ≤ '/'.toNat)) =
      decide (x = '/') := by
    rw [← Bool.decide_and, decide_eq_decide]
    constructor
    · rintro ⟨hle, hge⟩
      exact Char.ext (UInt32.toNat_inj.mp (Nat.le_antisymm hge hle))
    · rintro rfl
      exact ⟨Nat.le_refl _, Nat.le_refl _⟩
  rw [notSlash, CharSet.contains_compl, CharSet.unions, List.foldl_cons, List.foldl_nil,
    CharSet.contains_union, CharSet.single, CharSet.range, CharSet.contains_insert, hempty, hnat]
  by_cases hx : x = '/' <;> simp [hx]

theorem readClass_notSlash (rest : List Char) :
    readClass {} ('^' :: '/' :: ']' :: rest) = .ok (.set notSlash, rest) := by
  have hitems : readClassItems {} ('/' :: ']' :: rest) = .ok ([.single '/'], rest) := by
    have hend : readClassItems {} (']' :: rest) = .ok ([], rest) := by
      rw [readClassItems]
      rfl
    rw [readClassItems]
    change (if (']' :: rest).length < ('/' :: ']' :: rest).length then
      (readClassItems {} (']' :: rest)).bind fun x => .ok (.single '/' :: x.1, x.2)
      else .error .unclosedClass) = _
    rw [if_pos (by simp), hend]
    rfl
  change (readClassItems {} ('/' :: ']' :: rest)).bind
    (fun x => .ok (Node.set (CharSet.unions ([] ++ x.1)).compl, x.2)) = _
  rw [hitems]
  rfl

/-- A class that excludes slashes. -/
theorem adds_notSlash : Adds false "[^/]".toList group [.set notSlash] [] := by
  refine adds_of_push (by simp) fun b rest hflags => ?_
  change (readClass b.flags ('^' :: '/' :: ']' :: rest)).map _ = _
  rw [hflags, readClass_notSlash]
  rfl

/-! ### Groups -/

theorem node_concat (pieces : List Piece) :
    (Piece.concat pieces).node = Node.concat (pieces.map Piece.node) := by
  match pieces with
  | [] => rfl
  | [p] => rfl
  | p :: q :: pieces => rfl

/-- What a reader has read inside a group that it opened last. -/
theorem inner_eq {pieces : List Piece} (hbranches : b.branches = [])
    (hitems : b.items = pieces.reverse) : b.inner = Piece.concat pieces := by
  rw [Builder.inner, hbranches, hitems, List.reverse_reverse]
  rfl

/-- The piece that a group becomes. -/
def groupPiece (capture : Option Nat) (pieces : List Piece) : Piece :=
  match capture with
  | some index => (Piece.concat pieces).capture index
  | none => Piece.concat pieces

theorem node_groupPiece_none (pieces : List Piece) :
    (groupPiece none pieces).node = .concat (pieces.map Piece.node) :=
  node_concat pieces

theorem node_groupPiece_some (index : Nat) (pieces : List Piece) :
    (groupPiece (some index) pieces).node = .capture index (.concat (pieces.map Piece.node)) := by
  change Node.capture index (Piece.concat pieces).node = _
  rw [node_concat]

/-- What is read between the parentheses of a group becomes one piece. -/
theorem run_closeGroup {frame : Frame} {outer : List Frame} {rest : List Char}
    {pieces : List Piece} (h : b.run = .ok r) (hflags : b.flags = {})
    (hrest : b.rest = ')' :: rest) (houter : b.outer = frame :: outer)
    (hbranches : b.branches = []) (hitems : b.items = pieces.reverse) :
    Builder.run { b with
      rest
      flags := frame.flags
      outer
      branches := frame.branches
      items := groupPiece frame.capture pieces :: frame.items } = .ok r := by
  refine run_of_step h hflags hrest ?_
  change b.closeGroup rest = _
  have hinner : b.inner = Piece.concat pieces := inner_eq hbranches hitems
  rw [Builder.closeGroup, houter]
  dsimp only
  rw [hinner]
  rfl

/-- A group that is not remembered is read as its inside. -/
theorem Adds.grouped (h : Adds true source group nodes names) :
    Adds false ("(?:".toList ++ source ++ [')']) group [.concat nodes] names := by
  intro b r rest hflags hgroups hrest _ hrun
  obtain ⟨next, hstep, -, hrun⟩ := exists_step_of_run hrun hflags
    (show b.rest = '(' :: ('?' :: ':' :: (source ++ ')' :: rest)) by simp [hrest])
  have htoken : readToken? '(' ('?' :: ':' :: (source ++ ')' :: rest)) =
      some (.opening false, source ++ ')' :: rest) := rfl
  have hnext := Builder.eq_of_openGroup ((step_eq_apply hflags htoken).symm.trans hstep)
  -- The inside is read by a reader that knows nothing of what is around.
  have hinside := h next r (')' :: rest)
  subst hnext
  obtain ⟨pieces, rfl, hnew, hnodup, hrun⟩ := hinside hflags hgroups rfl (by simp) hrun
  have hclosed := run_closeGroup hrun hflags rfl rfl rfl (List.append_nil _)
  exact ⟨[groupPiece none pieces], by rw [List.map_singleton, node_groupPiece_none], hnew, hnodup,
    hclosed⟩

/-- What can be the name of a group. -/
def IsGroupName (name : List Char) : Prop :=
  ∃ x rest, name = x :: rest ∧ (isGroupNameChar true x ∧ x ≠ '>') ∧
    ∀ y ∈ rest, isGroupNameChar false y ∧ y ≠ '>'

theorem readGroupName_of_ne {first : Bool} {x : Char} (hx : isGroupNameChar first x)
    (hne : x ≠ '>') {text name rest : List Char}
    (h : readGroupName false text = .ok (name, rest)) :
    readGroupName first (x :: text) = .ok (x :: name, rest) := by
  unfold readGroupName
  split
  · rename_i heq
    cases heq
  · rename_i heq
    exact absurd (List.cons.inj heq).1 hne
  · rename_i heq
    obtain ⟨rfl, rfl⟩ := List.cons.inj heq
    rw [if_pos hx, h]
    rfl

theorem readGroupName_append {name : List Char} (h : IsGroupName name) (rest : List Char) :
    readGroupName true (name ++ '>' :: rest) = .ok (name, rest) := by
  obtain ⟨x, text, rfl, hx, htext⟩ := h
  have htail : readGroupName false (text ++ '>' :: rest) = .ok (text, rest) := by
    clear hx
    induction text with
    | nil => rfl
    | cons y text ih =>
      obtain ⟨hy, htext⟩ := List.forall_mem_cons.mp htext
      exact readGroupName_of_ne hy.1 hy.2 (ih htext)
  exact readGroupName_of_ne hx.1 hx.2 htail

/-- A group with a name is opened unless its name is taken. -/
theorem step_named {name : String} (hname : IsGroupName name.toList)
    (hflags : b.flags.extended = false) (rest : List Char) :
    b.step '(' ('?' :: 'P' :: '<' :: (name.toList ++ '>' :: rest)) =
      if name ∈ b.names.map Prod.fst then .error .duplicateGroupName
      else Builder.openCapture { b with names := (name, b.groups) :: b.names } rest := by
  have hopen : b.step '(' ('?' :: 'P' :: '<' :: (name.toList ++ '>' :: rest)) =
      b.openNamed (name.toList ++ '>' :: rest) := by
    change Builder.openParenthesis b _ = _
    rw [Builder.openParenthesis, skip_of_not_extended hflags]
    rfl
  have hmem : b.names.any (·.1 = name) ↔ name ∈ b.names.map Prod.fst := by
    simp [List.any_eq_true]
  rw [hopen, Builder.openNamed, readGroupName_append hname]
  change (if b.names.any (fun x => x.1 = String.ofList name.toList) then _
    else Builder.openCapture { b with names := (String.ofList name.toList, b.groups) :: b.names }
      _) = _
  rw [String.ofList_toList]
  exact if_congr hmem rfl rfl

/-- A group with a name that is opened has a new name, and the next number. -/
theorem eq_of_step_named {next : Builder} {name : String} (hname : IsGroupName name.toList)
    (hflags : b.flags.extended = false) {rest : List Char}
    (h : b.step '(' ('?' :: 'P' :: '<' :: (name.toList ++ '>' :: rest)) = .ok next) :
    name ∉ b.names.map Prod.fst ∧
      next = { b with
        rest
        outer := ⟨some b.groups, b.flags, b.branches, b.items⟩ :: b.outer
        branches := []
        items := []
        groups := b.groups + 1
        names := (name, b.groups) :: b.names } := by
  rw [step_named hname hflags] at h
  split_ifs at h with hfresh
  exact ⟨hfresh, Builder.eq_of_openGroup (b := { b with
    names := (name, b.groups) :: b.names
    groups := b.groups + 1 }) h⟩

/-- A group with a name is remembered under the next number. -/
theorem Adds.named {name : String} (hname : IsGroupName name.toList)
    (h : Adds true source (group + 1) nodes names) :
    Adds false ("(?P<".toList ++ name.toList ++ ['>'] ++ source ++ [')']) group
      [.capture group (.concat nodes)] ((name, group) :: names) := by
  intro b r rest hflags hgroups hrest _ hrun
  obtain ⟨next, hstep, -, hrun⟩ := exists_step_of_run hrun hflags
    (show b.rest = '(' :: ('?' :: 'P' :: '<' :: (name.toList ++ '>' :: (source ++ ')' :: rest))) by
      simp [hrest])
  obtain ⟨hfresh, hnext⟩ := eq_of_step_named hname (by rw [hflags]) hstep
  have hinside := h next r (')' :: rest)
  subst hnext
  obtain ⟨pieces, rfl, hnew, hnodup, hrun⟩ :=
    hinside hflags (by rw [← hgroups]) rfl (by simp) hrun
  have hclosed := run_closeGroup hrun hflags rfl rfl rfl (List.append_nil _)
  -- Inside the group its own name is taken as well.
  have hnew' : ∀ x ∈ names.map Prod.fst, x ≠ name ∧ x ∉ b.names.map Prod.fst := fun x hx => by
    simpa using hnew x hx
  subst hgroups
  refine ⟨[groupPiece (some b.groups) pieces], ?_, ?_, ?_, ?_⟩
  · rw [List.map_singleton, node_groupPiece_some]
  · exact List.forall_mem_cons.mpr ⟨hfresh, fun x hx => (hnew' x hx).2⟩
  · rw [List.map_cons, List.nodup_cons]
    exact ⟨fun hmem => (hnew' name hmem).1 rfl, hnodup⟩
  · have hnames : ((name, b.groups) :: names).reverse ++ b.names =
        names.reverse ++ (name, b.groups) :: b.names := by
      simp
    rw [hnames, List.length_cons, Nat.add_comm names.length, ← Nat.add_assoc]
    exact hclosed

/-! ### Repetitions -/

/-- A repetition is greedy if no question mark follows. -/
theorem applyRepetition_eq {piece : Piece} {items : List Piece} {least : Nat} {most : Option Nat}
    {rest : List Char} (hitems : b.items = piece :: items) (hflags : b.flags = {})
    (hmost : most.any (· < least) = false) (hrest : rest.head? ≠ some '?') :
    b.applyRepetition least most rest =
      .ok { b with rest, items := piece.repetition least most true :: items } := by
  have hplain : ∀ rest', rest = '?' :: rest' → False := by
    rintro rest' rfl
    exact hrest rfl
  rw [Builder.applyRepetition, hitems]
  · dsimp only
    rw [hmost, hflags]
    rfl
  · exact hplain

/-- A repetition takes the piece that was read last. -/
theorem Adds.repeated {node : Node} (sign : Char) (least : Nat) (most : Option Nat)
    (hmost : most.any (· < least) = false)
    (hsign : ∀ (b : Builder) (rest : List Char),
      b.step sign rest = b.applyRepetition least most rest)
    (h : Adds false source group [node] names) :
    Adds true (source ++ [sign]) group [.repetition least most true node] names := by
  intro b r rest hflags hgroups hrest hguard hrun
  obtain ⟨pieces, hpieces, hnew, hnodup, hrun⟩ :=
    h b r (sign :: rest) hflags hgroups (by simp [hrest]) (by simp) hrun
  obtain ⟨piece, rfl, rfl⟩ : ∃ piece, pieces = [piece] ∧ piece.node = node := by
    match pieces, hpieces with
    | [piece], hpieces => exact ⟨piece, rfl, by simpa using hpieces⟩
  refine ⟨[piece.repetition least most true], rfl, hnew, hnodup, ?_⟩
  refine run_of_step hrun hflags rfl ?_
  rw [hsign]
  exact applyRepetition_eq rfl hflags hmost (hguard rfl)

/-! ### Whole texts -/

theorem eq_of_parse {text : String} {node : Node} {found : List (String × Nat)}
    (h : Builder.run { rest := text.toList } = .ok r) (hparse : parse text = .ok (node, found)) :
    node = r.inner.node ∧ found = r.names := by
  obtain ⟨r', hrun, -, -, -, rfl, rfl⟩ := parse_eq_ok_iff.mp hparse
  obtain rfl : r' = r := Except.ok.inj (hrun.symm.trans h)
  exact ⟨rfl, rfl⟩

/-- The tree of a text from its beginning to its end, and its groups. -/
theorem Adds.parse_eq {node : Node} {found : List (String × Nat)}
    (h : Adds true source 1 nodes names)
    (hparse : parse (String.ofList ('^' :: source ++ ['$'])) = .ok (node, found)) :
    node = .concat (.look .start :: nodes ++ [.look .end]) ∧ found = names.reverse ∧
      (names.map Prod.fst).Nodup := by
  obtain ⟨r, hrun, -, -, -, rfl, rfl⟩ := parse_eq_ok_iff.mp hparse
  rw [String.toList_ofList] at hrun
  -- The reader takes the anchor, then the source, then the anchor at the end.
  have hstart := run_of_step hrun rfl rfl rfl
  obtain ⟨pieces, rfl, -, hnodup, hsource⟩ :=
    h _ r ['$'] rfl rfl rfl (fun _ => by decide) hstart
  have hend := run_of_step hsource rfl rfl rfl
  rw [Builder.run] at hend
  have hr := (Except.ok.inj hend).symm
  have hitems : r.items =
      (Piece.leaf (.look .start) :: pieces ++ [Piece.leaf (.look .end)]).reverse := by
    rw [hr]
    simp
    rfl
  have hinner := inner_eq (by rw [hr]; rfl) hitems
  refine ⟨?_, ?_, hnodup⟩
  · rw [hinner, node_concat]
    simp
  · rw [hr]
    exact List.append_nil _

end Parts

end Reroute.Regex
