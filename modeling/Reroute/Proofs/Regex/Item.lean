import Reroute.Proofs.Regex.Extent
import Reroute.Proofs.Regex.Source

/-!
# Items in regular expressions

An item is a group with a name around anything but slashes. Whatever stands before it, it is
read as a group of its own or nothing is read at all, as long as no backslash stands directly
before it and blanks are not skipped: a class that takes its parenthesis for a character comes
to a bracket that it cannot have, and nothing else gets past a parenthesis. So what is matched
by the group of that name is known, although the text around it is not.

## Main definitions

* `Regex.keepsBlanks` — text that sets no flag for blanks to be skipped
* `Regex.itemSource`, `Node.IsSlashless` — items, and what is in their groups
* `Regex.HasItems` — a text with items in it
* `Builder.KeepsBlanks` — a reader that will skip no blanks

## Main results

* `Regex.HasItems.append_text` — text that keeps blanks may stand before items
* `Regex.HasItems.of_step` — a token that is no item ends where the same items are still to come
* `Regex.run_item` — an item is read as a group of its own
* `Regex.HasItems.hasItem_of_run`, `Regex.HasItems.exists_of_parse` — every item has its group
-/

set_option autoImplicit false

namespace Reroute.Regex

variable {names : List String} {name : String} {x : Char} {text rest : List Char} {flags : Flags}
  {b r next : Builder}

/-! ### Texts -/

/-- Whether no group of the text has blanks skipped: no `x` is among the letters directly behind
an opening parenthesis and a question mark. A character behind a backslash opens no group. -/
def keepsBlanks : List Char → Bool
  | '\\' :: _ :: rest => keepsBlanks rest
  | '(' :: '?' :: rest => !(rest.takeWhile Char.isAlpha).contains 'x' && keepsBlanks rest
  | _ :: rest => keepsBlanks rest
  | [] => true

/-- The group with the given name around anything but slashes. -/
def itemSource (name : String) : List Char :=
  ['(', '?', 'P', '<'] ++ name.toList ++ ['>', '[', '^', '/', ']', '+', ')']

theorem itemSource_append (name : String) (rest : List Char) :
    itemSource name ++ rest =
      '(' :: '?' :: 'P' :: '<' :: (name.toList ++ '>' :: '[' :: '^' :: '/' :: ']' :: '+' :: ')' ::
        rest) := by
  simp [itemSource]

/-- The name of a group made of letters, digits and underscores. -/
structure IsPlainName (name : String) : Prop where
  isGroupName : IsGroupName name.toList
  isAlphanum : ∀ x ∈ name.toList, x.isAlphanum ∨ x = '_'

/-- A text with the items of the given names, each at a place that no backslash before it
reaches. Elsewhere it keeps blanks. -/
inductive HasItems : List String → List Char → Prop
  | nil : HasItems [] []
  | plain {names : List String} {x : Char} {rest : List Char} (hx : x ≠ '\\')
      (hgroup : x = '(' → SetsNoExtended rest) (h : HasItems names rest) :
      HasItems names (x :: rest)
  | escaped {names : List String} (x : Char) {rest : List Char} (h : HasItems names rest) :
      HasItems names ('\\' :: x :: rest)
  | item {names : List String} {name : String} {rest : List Char} (hname : IsPlainName name)
      (h : HasItems names rest) : HasItems (name :: names) (itemSource name ++ rest)

namespace HasItems

theorem cons (hx : IsOrdinary x) (h : HasItems names rest) : HasItems names (x :: rest) :=
  .plain hx.1 (fun heq => absurd heq hx.2) h

theorem append_ordinary {w : List Char} (hw : ∀ x ∈ w, IsOrdinary x) (h : HasItems names rest) :
    HasItems names (w ++ rest) := by
  induction w with
  | nil => exact h
  | cons x w ih =>
    obtain ⟨hx, hw⟩ := List.forall_mem_cons.mp hw
    exact .cons hx (ih hw)

/-- Text that keeps blanks may stand before items, if it ends in a backslash only where what
follows may be escaped. What follows adds no letters to flags. -/
theorem append_text {t : List Char} (ht : keepsBlanks t) (h : HasItems names rest)
    (hhead : ∀ y ∈ rest.head?, y ≠ '?' ∧ y.isAlpha = false)
    (hlast : t.getLast? = some '\\' → HasItems names ('\\' :: rest)) :
    HasItems names (t ++ rest) := by
  have hletters (t : List Char) : (t ++ rest).takeWhile Char.isAlpha = t.takeWhile Char.isAlpha :=
    Text.takeWhile_append_of_head? fun y hy => (hhead y hy).2
  have hcons {t : List Char} (y : Char) (h : t.getLast? = some '\\') :
      (y :: t).getLast? = some '\\' := by
    rw [List.getLast?_cons, h]
    rfl
  fun_induction keepsBlanks t with
  | case1 y t ih => exact .escaped y (ih ht fun hlast' => hlast (hcons _ (hcons _ hlast')))
  | case2 t ih =>
    rw [Bool.and_eq_true] at ht
    have h := ih ht.2 fun hlast' => hlast (hcons _ (hcons _ hlast'))
    refine .plain (by decide) ?_ (.cons (by decide) h)
    rintro - _ ⟨⟩
    simpa [hletters] using ht.1
  | case3 y t hescape hgroup ih =>
    by_cases hy : y = '\\'
    · -- A backslash that nothing follows in the text is the last character.
      subst hy
      cases t with
      | nil => exact hlast rfl
      | cons z t => exact (hescape z t rfl rfl).elim
    · refine .plain hy ?_ (ih ht fun hlast' => hlast (hcons _ hlast'))
      rintro rfl rest' heq
      cases t with
      | nil =>
        have hnext : rest.head? = some '?' := congrArg List.head? heq
        exact absurd rfl (hhead '?' hnext).1
      | cons z t =>
        cases heq
        exact (hgroup t rfl rfl).elim
  | case4 => exact h

/-- What a text with items begins with: a character of its own, one behind a backslash, or an
item. -/
theorem cases_cons (h : HasItems names (x :: rest)) :
    (x ≠ '\\' ∧ (x = '(' → SetsNoExtended rest) ∧ HasItems names rest) ∨
      (∃ y rest', x = '\\' ∧ rest = y :: rest' ∧ HasItems names rest') ∨
      ∃ name names' rest', names = name :: names' ∧ x :: rest = itemSource name ++ rest' ∧
        IsPlainName name ∧ HasItems names' rest' := by
  generalize htext : x :: rest = text at h
  cases h with
  | nil => cases htext
  | plain hx hgroup h =>
    cases htext
    exact .inl ⟨hx, hgroup, h⟩
  | escaped y h =>
    cases htext
    exact .inr (.inl ⟨y, _, rfl, rfl, h⟩)
  | item hname h => exact .inr (.inr ⟨_, _, _, rfl, rfl, hname, h⟩)

theorem of_cons (hx : IsOrdinary x) (h : HasItems names (x :: rest)) : HasItems names rest := by
  obtain ⟨-, -, h⟩ | ⟨y, rest', rfl, -⟩ | ⟨name, names', rest', -, heq, -⟩ := h.cases_cons
  · exact h
  · exact absurd rfl hx.1
  · rw [itemSource_append] at heq
    cases heq
    exact absurd rfl hx.2

theorem eq_nil (h : HasItems names []) : names = [] := by
  generalize htext : ([] : List Char) = text at h
  cases h with
  | nil => rfl
  | item hname h =>
    rw [itemSource_append] at htext
    cases htext
  | _ => cases htext

/-- Behind ordinary characters the same items are still to come. -/
theorem of_passes (h : HasItems names text) (hpasses : Passes text rest) :
    HasItems names rest := by
  obtain ⟨w, rfl, hw⟩ := hpasses
  induction w with
  | nil => exact h
  | cons x w ih =>
    obtain ⟨hx, hw⟩ := List.forall_mem_cons.mp hw
    exact ih hw (h.of_cons hx)

end HasItems

/-- A text with items that may stand behind any other text: a backslash may come before it, and
its first character is not taken for a flag. -/
structure MayFollow (names : List String) (text : List Char) : Prop where
  hasItems : HasItems names text
  escaped : HasItems names ('\\' :: text)
  head : ∀ x ∈ text.head?, x ≠ '?' ∧ x.isAlpha = false

namespace HasItems

theorem mayFollow_cons (hx : IsOrdinary x) (hhead : x ≠ '?' ∧ x.isAlpha = false)
    (h : HasItems names rest) : MayFollow names (x :: rest) := by
  refine ⟨h.cons hx, .escaped x h, ?_⟩
  rintro _ ⟨⟩
  exact hhead

theorem mayFollow_parenthesis (hgroup : SetsNoExtended rest) (h : HasItems names rest) :
    MayFollow names ('(' :: rest) := by
  refine ⟨.plain (by decide) (fun _ => hgroup) h, .escaped '(' h, ?_⟩
  rintro _ ⟨⟩
  decide

/-- A group may be around items, -/
theorem grouped (h : HasItems names rest) : MayFollow names ("(?:".toList ++ rest) := by
  change MayFollow names ('(' :: (['?', ':'] ++ rest))
  refine mayFollow_parenthesis ?_ (h.append_ordinary (by simp [IsOrdinary]))
  rintro _ ⟨⟩
  simp

/-- and so may one that has a name. -/
theorem named (hname : IsPlainName name) (h : HasItems names rest) :
    MayFollow names ("(?P<".toList ++ name.toList ++ ['>'] ++ rest) := by
  have hordinary : ∀ x ∈ ['?', 'P', '<'] ++ name.toList ++ ['>'], IsOrdinary x := by
    rw [List.forall_mem_append, List.forall_mem_append]
    refine ⟨⟨by simp [IsOrdinary], fun x hx => ?_⟩, by simp [IsOrdinary]⟩
    exact isOrdinary_of_ne (p := fun x => x.isAlphanum || x = '_') (by decide)
      (by simpa using hname.isAlphanum x hx)
  change MayFollow names ('(' :: (['?', 'P', '<'] ++ name.toList ++ ['>'] ++ rest))
  refine mayFollow_parenthesis ?_ (h.append_ordinary hordinary)
  rintro _ ⟨⟩
  simp

/-! ### Classes -/

/-- Text from within an item, where only letters and the like are left before the bracket of its
class. -/
def IsTorn (text : List Char) : Prop :=
  ∃ w rest, text = w ++ '[' :: '^' :: rest ∧ ∀ x ∈ w, x ∉ ['[', ']', '-', '\\']

theorem not_mem_of_isAlphanum (hx : x.isAlphanum ∨ x = '_') : x ∉ ['[', ']', '-', '\\'] := by
  intro hmem
  simp only [List.mem_cons, List.not_mem_nil, or_false] at hmem
  rcases hmem with rfl | rfl | rfl | rfl <;> revert hx <;> decide

/-- Behind the parenthesis of an item the item is torn. -/
theorem isTorn_of_item (hname : IsPlainName name) {middle : List Char}
    (h : '(' :: text = itemSource name ++ middle) : IsTorn text := by
  rw [itemSource_append] at h
  obtain ⟨-, rfl⟩ := List.cons.inj h
  refine ⟨['?', 'P', '<'] ++ name.toList ++ ['>'], '/' :: ']' :: '+' :: ')' :: middle,
    by simp, ?_⟩
  rw [List.forall_mem_append, List.forall_mem_append]
  exact ⟨⟨by simp, fun x hx => not_mem_of_isAlphanum (hname.isAlphanum x hx)⟩, by simp⟩

/-- A torn item cannot be the end of a class. -/
theorem not_readClassItems_of_isTorn (hflags : flags.extended = false) (h : IsTorn text)
    {sets : List CharSet} : readClassItems flags text ≠ .ok (sets, rest) := by
  obtain ⟨w, behind, rfl, hw⟩ := h
  intro hread
  induction w generalizing sets with
  | nil =>
    obtain ⟨heq, -⟩ | ⟨_, _, _, heq, hname, -⟩ | ⟨_, _, _, _, _, heq, ⟨-, hx⟩, -⟩ :=
      readClassItems_cases hflags hread
    · cases heq
    · cases heq
      cases hname
    · cases heq
      exact hx rfl
  | cons x w ih =>
    obtain ⟨hx, hw⟩ := List.forall_mem_cons.mp hw
    obtain ⟨heq, -⟩ | ⟨_, _, _, heq, -⟩ | ⟨_, _, _, _, _, heq, -, -, hrange, hmore⟩ :=
      readClassItems_cases hflags hread
    · cases heq
      simp at hx
    · cases heq
      simp at hx
    · clear heq
      obtain ⟨item, middle, hitem, hmiddle⟩ := readClassRange_cases hflags hrange
      rw [List.cons_append, readClassItem_of_ne (by rintro rfl; simp at hx)] at hitem
      obtain ⟨-, rfl⟩ := Prod.mk.inj (Except.ok.inj hitem)
      obtain rfl | ⟨item', text', heq, -⟩ := hmiddle
      · rw [readMoreItems] at hmore
        split_ifs at hmore
        obtain ⟨⟨sets', rest'⟩, hmore, heq⟩ := exists_of_bind_eq_ok hmore
        cases heq
        exact ih hw hmore
      · -- No hyphen is left to make a range with the bracket.
        cases w with
        | nil => cases heq
        | cons y w =>
          cases heq
          simp at hw

/-- An item of a class ends before the same items, or in the middle of one of them. -/
theorem of_readClassItem (hflags : flags.extended = false) (h : HasItems names text)
    {item : Char ⊕ CharSet} (hread : readClassItem flags text = .ok (item, rest)) :
    HasItems names rest ∨ IsTorn rest := by
  obtain ⟨x, hx, rfl⟩ | ⟨x, text', rfl, hpasses⟩ := readClassItem_cases hflags hread
  · obtain ⟨-, -, h⟩ | ⟨y, rest', rfl, -⟩ | ⟨name, names', rest', -, heq, hname, -⟩ := h.cases_cons
    · exact .inl h
    · exact absurd rfl hx
    · obtain rfl : x = '(' := by
        rw [itemSource_append] at heq
        exact (List.cons.inj heq).1
      exact .inr (isTorn_of_item hname heq)
  · obtain ⟨hx, -⟩ | ⟨y, rest', -, heq, h⟩ | ⟨name, names', rest', -, heq, -⟩ := h.cases_cons
    · exact absurd rfl hx
    · cases heq
      exact .inl (h.of_passes hpasses)
    · rw [itemSource_append] at heq
      cases heq

theorem of_readClassRange (hflags : flags.extended = false) (h : HasItems names text)
    {chars : CharSet} (hread : readClassRange flags text = .ok (chars, rest)) :
    HasItems names rest ∨ IsTorn rest := by
  obtain ⟨item, middle, hitem, rfl | ⟨item', text', rfl, hitem'⟩⟩ :=
    readClassRange_cases hflags hread
  · exact of_readClassItem hflags h hitem
  · obtain h | ⟨w, behind, heq, hw⟩ := of_readClassItem hflags h hitem
    · exact of_readClassItem hflags (h.of_cons (by decide)) hitem'
    · -- There is no hyphen in what is left of a torn item.
      cases w with
      | nil => cases heq
      | cons y w =>
        cases heq
        simp at hw

/-- The items of a class end before the same items as before. -/
theorem of_readClassItems (hflags : flags.extended = false) (h : HasItems names text)
    {sets : List CharSet} (hread : readClassItems flags text = .ok (sets, rest)) :
    HasItems names rest := by
  induction hn : text.length using Nat.strongRecOn generalizing text sets with
  | _ n ih =>
    subst hn
    -- Whatever the first item is, the next one is read behind it, so nothing may be torn there.
    have hbehind {next : List Char} {chars : CharSet} (h : HasItems names next ∨ IsTorn next)
        (hmore : readMoreItems flags text chars next = .ok (sets, rest)) : HasItems names rest := by
      rw [readMoreItems] at hmore
      split_ifs at hmore with hlt
      obtain ⟨⟨sets', rest'⟩, hmore, heq⟩ := exists_of_bind_eq_ok hmore
      cases heq
      obtain h | h := h
      · exact ih _ hlt h hmore rfl
      · exact absurd hmore (not_readClassItems_of_isTorn hflags h)
    obtain ⟨rfl, -⟩ | ⟨name, chars, next, rfl, hname, hmore⟩ |
      ⟨_, _, _, chars, next, -, -, -, hrange, hmore⟩ := readClassItems_cases hflags hread
    · exact h.of_cons (by decide)
    · exact hbehind (.inl ((h.of_cons (by decide)).of_passes (passes_readNamedClass? hname))) hmore
    · exact hbehind (of_readClassRange hflags h hrange) hmore

/-- A class ends before the same items as before. -/
theorem of_readClass (hflags : flags.extended = false) (h : HasItems names text) {node : Node}
    (hread : readClass flags text = .ok (node, rest)) : HasItems names rest := by
  rw [readClass_eq] at hread
  obtain ⟨⟨sets, rest'⟩, hitems, heq⟩ := exists_of_bind_eq_ok hread
  cases heq
  have hcaret := h.of_passes (passes_readCaret hflags text)
  exact of_readClassItems hflags (hcaret.of_passes (passes_readLeading hflags _)) hitems

end HasItems

/-! ### Steps -/

/-- A reader that skips no blanks, and will skip none when groups end. -/
structure Builder.KeepsBlanks (b : Builder) : Prop where
  flags : b.flags.extended = false
  outer : ∀ frame ∈ b.outer, frame.flags.extended = false

theorem Builder.KeepsBlanks.of_moves (h : b.KeepsBlanks) (hmoves : b.Moves next)
    (hflags : next.flags.extended = false) : next.KeepsBlanks := by
  refine ⟨hflags, ?_⟩
  cases hmoves with
  | operand | bar | setFlags | repetition => exact h.outer
  | opening | capture => exact List.forall_mem_cons.mpr ⟨h.flags, h.outer⟩
  | closing houter =>
    have houter' := h.outer
    rw [houter] at houter'
    exact (List.forall_mem_cons.mp houter').2

namespace HasItems

theorem of_closeGroup (hblanks : b.KeepsBlanks) (h : HasItems names rest)
    (hnext : b.closeGroup rest = .ok next) :
    HasItems names next.rest ∧ next.flags.extended = false := by
  unfold Builder.closeGroup at hnext
  split at hnext
  · cases hnext
  · rename_i frame outer houter
    cases hnext
    exact ⟨h, hblanks.outer frame (by rw [houter]; exact List.mem_cons_self)⟩

theorem of_applyRepetition (hblanks : b.KeepsBlanks) (h : HasItems names rest) {least : Nat}
    {most : Option Nat} (hnext : b.applyRepetition least most rest = .ok next) :
    HasItems names next.rest ∧ next.flags.extended = false := by
  obtain ⟨hpasses, hflags⟩ := passes_applyRepetition hnext
  exact ⟨h.of_passes hpasses, by rw [hflags, hblanks.flags]⟩

/-- A token that is not an item ends before the same items as before. -/
theorem of_step (hblanks : b.KeepsBlanks) (hx : x ≠ '\\')
    (hgroup : x = '(' → SetsNoExtended rest) (h : HasItems names rest)
    (hnext : b.step x rest = .ok next) :
    HasItems names next.rest ∧ next.flags.extended = false := by
  have hflags := hblanks.flags
  unfold Builder.step at hnext
  -- One case for each character with a meaning. Only classes and the parentheses take a look at
  -- what may be in an item.
  split at hnext
  · obtain ⟨hpasses, hflags'⟩ := passes_openParenthesis hflags (hgroup rfl) hnext
    exact ⟨h.of_passes hpasses, hflags'⟩
  · exact of_closeGroup hblanks h hnext
  · cases hnext
    exact ⟨h, hflags⟩
  · obtain ⟨⟨node, rest'⟩, hclass, rfl⟩ := exists_of_map_eq_ok hnext
    exact ⟨of_readClass hflags h hclass, hflags⟩
  · exact of_applyRepetition hblanks h hnext
  · exact of_applyRepetition hblanks h hnext
  · exact of_applyRepetition hblanks h hnext
  · split_ifs at hnext
    obtain ⟨⟨least, most, rest'⟩, hbounds, hnext⟩ := exists_of_bind_eq_ok hnext
    exact of_applyRepetition hblanks (h.of_passes (passes_readBounds hflags hbounds)) hnext
  · exact absurd rfl hx
  all_goals
    cases hnext
    exact ⟨h, hflags⟩

theorem of_step_escaped (hblanks : b.KeepsBlanks) (h : HasItems names rest)
    (hnext : b.step '\\' (x :: rest) = .ok next) :
    HasItems names next.rest ∧ next.flags.extended = false := by
  obtain ⟨⟨node, rest'⟩, hescape, rfl⟩ := exists_of_map_eq_ok hnext
  obtain ⟨x, text, heq, hpasses⟩ := passes_readEscape hblanks.flags hescape
  cases heq
  exact ⟨h.of_passes hpasses, hblanks.flags⟩

end HasItems

/-! ### Items -/

/-- What is matched holds no slash. -/
def Node.IsSlashless (node : Node) : Prop :=
  ∃ greedy chars, node = .plus greedy (.set chars) ∧ chars.contains '/' = false

theorem readClassItems_slash (hflags : flags.extended = false) (rest : List Char) :
    readClassItems flags ('/' :: ']' :: rest) = .ok ([.single '/'], rest) := by
  have hend : readClassItems flags (']' :: rest) = .ok ([], rest) := by
    rw [readClassItems]
    simp only [skip_of_not_extended hflags]
  have hrange : readClassRange flags ('/' :: ']' :: rest) = .ok (.single '/', ']' :: rest) := by
    simp only [readClassRange, readClassItem_of_ne (show '/' ≠ '\\' by decide), bind, Except.bind,
      skip_of_not_extended hflags]
    rfl
  rw [readClassItems_item hflags (by decide) (by decide) (by decide) hrange, readMoreItems,
    if_pos (by simp), hend]
  rfl

/-- Under any flags that keep blanks, anything but slashes is read as a set without slashes. -/
theorem exists_readClass_notSlash (hflags : flags.extended = false) (rest : List Char) :
    ∃ chars, readClass flags ('^' :: '/' :: ']' :: rest) = .ok (.set chars, rest) ∧
      chars.contains '/' = false := by
  rw [readClass_eq]
  have hcaret : readCaret flags ('^' :: '/' :: ']' :: rest) = (true, '/' :: ']' :: rest) := by
    simp only [readCaret, skip_of_not_extended hflags]
  have hleading : readLeading flags ('/' :: ']' :: rest) = ([], '/' :: ']' :: rest) := by
    rw [readLeading, readLeadingHyphens_of_ne (by decide)]
    rfl
  rw [hcaret, readClassBody, hleading, readClassItems_slash hflags]
  refine ⟨_, rfl, ?_⟩
  have hslash : (CharSet.unions [.single '/']).contains '/' = true := rfl
  change (if flags.ignoreCase then (CharSet.unions [.single '/']).foldCase
    else CharSet.unions [.single '/']).compl.contains '/' = false
  rw [CharSet.contains_compl]
  split_ifs
  · rw [CharSet.foldCase, CharSet.contains_foldl_insert, hslash]
    rfl
  · rw [hslash]
    rfl

/-- The state of a reader behind an item that became the given piece. -/
def Builder.behindItem (b : Builder) (name : String) (piece : Piece) (rest : List Char) : Builder :=
  { b with
    rest
    items := piece :: b.items
    groups := b.groups + 1
    names := (name, b.groups) :: b.names }

/-- An item is read as a group with the next number, unless its name is taken. -/
theorem run_item (hblanks : b.KeepsBlanks) (hname : IsPlainName name)
    (hrest : b.rest = itemSource name ++ rest) (hrun : b.run = .ok r) :
    name ∉ b.names.map Prod.fst ∧
      ∃ (piece : Piece) (body : Node), piece.node = .capture b.groups body ∧ body.IsSlashless ∧
        (b.behindItem name piece rest).run = .ok r := by
  have hflags := hblanks.flags
  have hskip (text : List Char) : b.flags.skip text = text := skip_of_not_extended hflags text
  -- The four tokens are the parenthesis with the name, the class, its repetition, and the end.
  obtain ⟨next, hstep, -, hrun⟩ := exists_step_of_skip hrun
    ((hskip _).trans (hrest.trans (itemSource_append name rest)))
  obtain ⟨hfresh, rfl⟩ := eq_of_step_named hname.isGroupName hflags hstep
  obtain ⟨chars, hclass, hslash⟩ := exists_readClass_notSlash hflags ('+' :: ')' :: rest)
  obtain ⟨next, hstep, -, hrun⟩ := exists_step_of_skip hrun (hskip _)
  change (readClass b.flags ('^' :: '/' :: ']' :: '+' :: ')' :: rest)).map _ = _ at hstep
  rw [hclass] at hstep
  cases hstep
  obtain ⟨next, hstep, -, hrun⟩ := exists_step_of_skip hrun (hskip _)
  cases hstep
  obtain ⟨next, hstep, -, hrun⟩ := exists_step_of_skip hrun (hskip _)
  cases hstep
  exact ⟨hfresh, ((Piece.leaf (.set chars)).repetition 1 none (false = b.flags.swapGreed)).capture
    b.groups, _, rfl, ⟨_, chars, rfl, hslash⟩, hrun⟩

/-! ### Groups of items -/

/-- The group of the given name was read as an item. -/
def Builder.HasItem (b : Builder) (name : String) : Prop :=
  ∃ index, index ≠ 0 ∧ index < b.groups ∧ (name, index) ∈ b.names ∧
    b.EachGroup fun i body => i = index → body.IsSlashless

theorem Builder.HasItem.of_moves (h : b.HasItem name) (hmoves : b.Moves next) :
    next.HasItem name := by
  obtain ⟨index, hzero, hlt, hmem, hgroups⟩ := h
  refine ⟨index, hzero, Nat.lt_of_lt_of_le hlt hmoves.groups_le, hmoves.names_subset hmem, ?_⟩
  -- A group that is opened has another number.
  exact hgroups.of_moves hmoves fun _ _ heq => absurd heq (Nat.ne_of_gt hlt)

theorem Builder.HasItem.run (h : b.HasItem name) (hrun : b.run = .ok r) : r.HasItem name :=
  moves_induction (I := fun b => b.HasItem name) (fun _ _ hmoves h => h.of_moves hmoves)
    (fun _ ⟨index, hzero, hlt, hmem, hgroups⟩ =>
      ⟨index, hzero, hlt, hmem, ⟨hgroups.items, hgroups.branches, hgroups.outer⟩⟩) h hrun

section BehindItem

variable {piece : Piece} {body : Node}

theorem eachGroup_behindItem {P : Nat → Node → Prop} (h : b.EachGroup P) (hbody : body.IsSlashless)
    (hpiece : piece.node = .capture b.groups body) (hP : P b.groups body) :
    (b.behindItem name piece rest).EachGroup P := by
  refine { h with items := List.forall_mem_cons.mpr ⟨?_, h.items⟩ }
  obtain ⟨greedy, chars, rfl, -⟩ := hbody
  rw [hpiece]
  exact ⟨hP, trivial⟩

theorem isNumbered_behindItem (h : b.IsNumbered) (hbody : body.IsSlashless)
    (hpiece : piece.node = .capture b.groups body) (hfresh : name ∉ b.names.map Prod.fst) :
    (b.behindItem name piece rest).IsNumbered where
  groups := Nat.succ_ne_zero _
  numbers :=
    eachGroup_behindItem (h.numbers.imp fun _ _ hi => ⟨hi.1, Nat.lt_succ_of_lt hi.2⟩) hbody hpiece
      ⟨h.groups, Nat.lt_succ_self _⟩
  names := List.nodup_cons.mpr ⟨hfresh, h.names⟩

/-- The number of an item is new, so no other group has it. -/
theorem hasItem_behindItem (h : b.IsNumbered) (hbody : body.IsSlashless)
    (hpiece : piece.node = .capture b.groups body) :
    (b.behindItem name piece rest).HasItem name := by
  have hgroups : b.EachGroup fun i body => i = b.groups → body.IsSlashless :=
    h.numbers.imp fun i body hi heq => absurd heq (Nat.ne_of_lt hi.2)
  exact ⟨b.groups, h.groups, Nat.lt_succ_self _, List.mem_cons_self,
    eachGroup_behindItem hgroups hbody hpiece fun _ => hbody⟩

end BehindItem

/-- Every item is read as a group with its name. -/
theorem HasItems.hasItem_of_run (h : HasItems names b.rest) (hblanks : b.KeepsBlanks)
    (hnumbered : b.IsNumbered) (hrun : b.run = .ok r) : ∀ name ∈ names, r.HasItem name := by
  induction hn : b.rest.length using Nat.strongRecOn generalizing b names with
  | _ n ih =>
    subst hn
    cases hrest : b.rest with
    | nil =>
      obtain rfl := (hrest ▸ h).eq_nil
      simp
    | cons x rest =>
      -- A token that is not an item leaves all items, and an item leaves the others.
      have hstep {names : List String} (hnext : ∀ next, b.step x rest = .ok next →
          HasItems names next.rest ∧ next.flags.extended = false) :
          ∀ name ∈ names, r.HasItem name := by
        obtain ⟨next, hstep, hlt, hrun⟩ :=
          exists_step_of_skip hrun ((skip_of_not_extended hblanks.flags _).trans hrest)
        obtain ⟨hitems, hflags⟩ := hnext next hstep
        have hmoves := Builder.moves_of_step hstep
        exact ih _ hlt hitems (hblanks.of_moves hmoves hflags) (hnumbered.of_moves hmoves) hrun rfl
      rw [hrest] at h
      obtain ⟨hx, hgroup, hbehind⟩ | ⟨y, rest', rfl, rfl, hbehind⟩ |
        ⟨name, names, rest', rfl, heq, hname, hbehind⟩ := h.cases_cons
      · exact hstep fun next => of_step hblanks hx hgroup hbehind
      · exact hstep fun next => of_step_escaped hblanks hbehind
      · obtain ⟨hfresh, piece, body, hpiece, hbody, hrun⟩ :=
          run_item hblanks hname (hrest.trans heq) hrun
        refine List.forall_mem_cons.mpr ⟨(hasItem_behindItem hnumbered hbody hpiece).run hrun, ?_⟩
        refine ih (b := b.behindItem name piece rest') rest'.length ?_ hbehind
          ⟨hblanks.flags, hblanks.outer⟩ (isNumbered_behindItem hnumbered hbody hpiece hfresh)
          hrun rfl
        rw [hrest, heq, itemSource_append]
        simp
        omega

/-- Every item of a regular expression is a group of its tree, which is found by its name. -/
theorem HasItems.exists_of_parse {text : String} (h : HasItems names text.toList) {node : Node}
    {found : List (String × Nat)} (hparse : parse text = .ok (node, found)) :
    (found.map Prod.fst).Nodup ∧ ∀ name ∈ names, ∃ index, index ≠ 0 ∧ (name, index) ∈ found ∧
      node.EachGroup fun i body => i = index → body.IsSlashless := by
  obtain ⟨r, hrun, -, -, -, rfl, rfl⟩ := parse_eq_ok_iff.mp hparse
  have hnumbered := Builder.isNumbered_start text.toList
  refine ⟨(hnumbered.run hrun).names, fun name hname => ?_⟩
  obtain ⟨index, hzero, -, hmem, hgroups⟩ :=
    h.hasItem_of_run ⟨rfl, by simp⟩ hnumbered hrun name hname
  exact ⟨index, hzero, hmem, hgroups.inner⟩

end Reroute.Regex
