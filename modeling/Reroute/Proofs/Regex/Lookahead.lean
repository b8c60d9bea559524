import Reroute.Proofs.Regex.Numbering
import Reroute.Proofs.Text.Prefix

/-!
# Tokens of regular expressions

Under default flags a token is read without regard to what surrounds it. Where it ends is
known at its end: text that is put behind it changes nothing, unless it begins with a question
mark, which would make a repetition lazy, or with a brace, which would name a word boundary.

## Main definitions

* `Regex.IsStable` — a reader that does not look beyond what it reads
* `Regex.Separated` — text that may follow any token

## Main results

* `Regex.isStable_readEscape`, `Regex.isStable_readClass`, `Regex.readBounds_append` — what
  stands behind a backslash, an opening bracket and an opening brace
-/

set_option autoImplicit false

namespace Reroute.Regex

variable {α β : Type} {flags : Flags} {t : List Char}

@[simp] theorem skip_default (text : List Char) : Flags.skip {} text = text := rfl

/-- Unless the flag `x` is set, nothing is skipped. -/
theorem skip_of_not_extended (hflags : flags.extended = false) (text : List Char) :
    flags.skip text = text := by
  rw [Flags.skip, hflags]
  rfl

/-! ### Readers -/

/-- What is read does not depend on `t` behind it. -/
def IsStable (t : List Char) (read : List Char → Except Error (α × List Char)) : Prop :=
  ∀ text value rest, read text = .ok (value, rest) → read (text ++ t) = .ok (value, rest ++ t)

/-- Text that no token before it takes for its own. -/
def Separated (t : List Char) : Prop :=
  t.head? ≠ some '?' ∧ t.head? ≠ some '\x7b'

theorem separated_cons {x : Char} (hx : x ≠ '?' ∧ x ≠ '\x7b') (text : List Char) :
    Separated (x :: text) := by
  simpa [Separated] using hx

theorem isStable_ok (value : α) : IsStable t fun text => .ok (value, text) := by
  rintro text _ rest ⟨⟩
  rfl

theorem isStable_error (e : Error) : IsStable (α := α) t fun _ => .error e := by
  rintro text value rest ⟨⟩

/-- One reader after the other. -/
theorem IsStable.bind {read : List Char → Except Error (α × List Char)}
    {next : α × List Char → Except Error (β × List Char)} (h : IsStable t read)
    (hnext : ∀ a, IsStable t fun rest => next (a, rest)) :
    IsStable t fun text => read text >>= next := by
  intro text value rest hread
  dsimp only at hread ⊢
  obtain ⟨⟨a, middle⟩, hfirst, hread⟩ := exists_of_bind_eq_ok hread
  rw [h _ _ _ hfirst]
  exact hnext a _ _ _ hread

/-! ### Characters given by number -/

theorem isStable_readHexDigits (count value : Nat) :
    IsStable t (readHexDigits {} count value) := by
  intro text n rest h
  induction count generalizing value text with
  | zero =>
    obtain ⟨rfl, rfl⟩ := Prod.mk.inj (Except.ok.inj h)
    rfl
  | succ count ih =>
    cases text with
    | nil => cases h
    | cons x text =>
      rw [readHexDigits] at h
      rw [List.cons_append, readHexDigits]
      cases hx : Text.hexValue? x with
      | none => simp [hx] at h
      | some d =>
        rw [hx] at h
        exact ih _ _ h

theorem isStable_readHexBraced (value : Option Nat) :
    IsStable t (readHexBraced {} false value) := by
  intro text n rest h
  induction text generalizing value with
  | nil => cases h
  | cons x text ih =>
    rw [readHexBraced.eq_def] at h
    rw [List.cons_append, readHexBraced.eq_def]
    simp only [Bool.false_eq_true, if_false, Bool.false_and, skip_default] at h ⊢
    split_ifs at h ⊢ with hx
    · cases value with
      | none => cases h
      | some value =>
        obtain ⟨rfl, rfl⟩ := Prod.mk.inj (Except.ok.inj h)
        rfl
    · cases hd : Text.hexValue? x with
      | none => simp [hd] at h
      | some d =>
        rw [hd] at h
        exact ih _ h

/-- The character of a number, behind its digits. -/
def readNumbered (value : Nat) (rest : List Char) : Except Error (Node × List Char) :=
  match charOfNat? value with
  | some x => .ok (Flags.literal {} x, rest)
  | none => .error .badEscape

theorem isStable_readNumbered (value : Nat) : IsStable t (readNumbered value) := by
  unfold readNumbered
  cases charOfNat? value with
  | some x => exact isStable_ok _
  | none => exact isStable_error _

theorem isStable_readHex (count : Nat) : IsStable t (readHex {} (count + 1)) := by
  intro text node rest h
  rw [readHex] at h ⊢
  simp only [skip_default] at h ⊢
  split at h
  · exact ((isStable_readHexBraced none).bind isStable_readNumbered) _ _ _ h
  · rename_i hne
    cases text with
    | nil => cases h
    | cons x text =>
      rw [List.cons_append]
      split
      · rename_i heq
        cases heq
        exact absurd rfl (hne text)
      · exact ((isStable_readHexDigits (count + 1) 0).bind isStable_readNumbered) _ _ _ h

/-! ### Escapes -/

theorem isStable_readBoundaryName : IsStable t (readBoundaryName {} false) := by
  intro text name rest h
  induction text generalizing name with
  | nil => cases h
  | cons x text ih =>
    rw [readBoundaryName.eq_def] at h
    rw [List.cons_append, readBoundaryName.eq_def]
    simp only [Bool.false_eq_true, if_false, Bool.false_and] at h ⊢
    split_ifs at h ⊢ with hx halpha
    · obtain ⟨rfl, rfl⟩ := Prod.mk.inj (Except.ok.inj h)
      rfl
    · obtain ⟨⟨name', rest'⟩, hname, h⟩ := exists_of_bind_eq_ok h
      cases h
      rw [ih _ hname]
      rfl

/-- A word boundary looks whether a brace follows. -/
theorem isStable_readWordBoundary (ht : Separated t) : IsStable t (readWordBoundary {}) := by
  intro text node rest h
  have hplain (text : List Char) (hne : text.head? ≠ some '\x7b') :
      readWordBoundary {} text = .ok (.look .wordBoundary, text) := by
    rw [readWordBoundary]
    rintro rest rfl
    exact hne rfl
  cases text with
  | nil =>
    cases h
    exact hplain t ht.2
  | cons x text =>
    by_cases hx : x = '\x7b'
    · subst hx
      cases text with
      | nil => cases h
      | cons y text =>
        rw [readWordBoundary] at h
        rw [List.cons_append, readWordBoundary]
        simp only [skip_default, List.cons_append] at h ⊢
        split_ifs at h ⊢ with hy
        · -- A name follows, up to the brace that closes it.
          refine (isStable_readBoundaryName.bind fun name => ?_) (y :: text) _ _ h
          intro text node rest h
          dsimp only at h ⊢
          split at h
          all_goals first
            | exact isStable_ok _ _ _ _ h
            | cases h
        · cases h
          rfl
    · rw [hplain (x :: text) (by simpa using hx)] at h
      cases h
      exact hplain _ (by simpa using hx)

theorem isStable_readEscape (ht : Separated t) : IsStable t (readEscape {}) := by
  intro text node rest h
  cases text with
  | nil => cases h
  | cons x text =>
    unfold readEscape at h ⊢
    rw [List.cons_append]
    dsimp only at h ⊢
    split_ifs at h ⊢
    · exact isStable_ok _ _ _ _ h
    · split at h
      all_goals first
        | exact isStable_ok _ _ _ _ h
        | exact isStable_readHex _ _ _ _ h
        | exact isStable_readWordBoundary ht _ _ _ h
        | cases h

/-! ### Classes -/

theorem readClassItem_of_ne {x : Char} (hx : x ≠ '\\') (text : List Char) :
    readClassItem flags (x :: text) = .ok (.inl x, text) := by
  rw [readClassItem]
  rintro rfl
  exact hx rfl

theorem isStable_readClassItem (ht : Separated t) : IsStable t (readClassItem {}) := by
  intro text item rest h
  cases text with
  | nil => cases h
  | cons x text =>
    by_cases hx : x = '\\'
    · subst hx
      rw [readClassItem] at h
      rw [List.cons_append, readClassItem]
      cases hescape : readEscape {} text with
      | error e =>
        rw [hescape] at h
        cases h
      | ok result =>
        obtain ⟨node, rest'⟩ := result
        rw [hescape] at h
        rw [isStable_readEscape ht _ _ _ hescape]
        -- Classes have only characters and sets of them as items.
        cases node
        case char y => exact isStable_ok _ _ _ _ h
        case set chars => exact isStable_ok _ _ _ _ h
        all_goals cases h
    · rw [readClassItem_of_ne hx] at h
      rw [List.cons_append, readClassItem_of_ne hx]
      exact isStable_ok _ _ _ _ h

theorem isStable_readClassRange (ht : Separated t) : IsStable t (readClassRange {}) := by
  refine (isStable_readClassItem ht).bind fun first => ?_
  intro text chars rest h
  dsimp only [skip_default] at h ⊢
  cases text with
  | nil => cases h
  | cons x text =>
    by_cases hx : x = '-'
    · subst hx
      dsimp only [List.cons_append] at h ⊢
      cases text with
      | nil => cases h
      | cons y text =>
        -- A hyphen makes a range, unless the class ends or another hyphen follows.
        change (if some y = some ']' ∨ some y = some '-' then _ else _) = _ at h ⊢
        split_ifs at h ⊢
        · cases h
          rfl
        · refine ((isStable_readClassItem ht).bind fun last => ?_) (y :: text) _ _ h
          cases first with
          | inr chars => exact isStable_error _
          | inl x =>
            cases last with
            | inr chars => exact isStable_error _
            | inl z =>
              dsimp only
              split_ifs
              · exact isStable_ok _
              · exact isStable_error _
    · split at h
      · rename_i heq
        cases heq
      · rename_i heq
        cases heq
        exact absurd rfl hx
      · split
        · rename_i heq
          cases heq
        · rename_i heq
          cases heq
          exact absurd rfl hx
        · exact isStable_ok _ _ _ _ h

/-- The name of a class, behind the sign that negates it. -/
def readClassName? (negated : Bool) (text : List Char) : Option (CharSet × List Char) :=
  match text.dropWhile (· != ':') with
  | ':' :: ']' :: rest =>
    (CharSet.named? (String.ofList (text.takeWhile (· != ':')))).map fun chars =>
      (if negated then chars.compl else chars, rest)
  | _ => none

theorem readClassName?_append {negated : Bool} {text rest : List Char} {chars : CharSet}
    (h : readClassName? negated text = some (chars, rest)) :
    readClassName? negated (text ++ t) = some (chars, rest ++ t) := by
  unfold readClassName? at h ⊢
  split at h
  · rename_i rest' heq
    obtain ⟨hdrop, htake⟩ := Text.dropWhile_append_of_cons (t := t) heq
    rw [hdrop, htake]
    simp only [List.cons_append, Option.map_eq_some_iff] at h ⊢
    obtain ⟨chars', hchars, heq⟩ := h
    cases heq
    exact ⟨chars', hchars, rfl⟩
  · cases h

theorem readNamedClass?_append {text rest : List Char} {chars : CharSet}
    (h : readNamedClass? text = some (chars, rest)) :
    readNamedClass? (text ++ t) = some (chars, rest ++ t) := by
  unfold readNamedClass? at h ⊢
  split at h
  · exact readClassName?_append h
  · rename_i rest' hne
    cases rest' with
    | nil => cases h
    | cons y rest' =>
      rw [List.cons_append, List.cons_append]
      split
      · rename_i heq
        cases heq
        exact absurd rfl (hne rest')
      · rename_i heq
        cases heq
        exact readClassName?_append h
      · rename_i _ hne'
        exact (hne' _ rfl).elim
  · cases h

/-- An item or a range is never the end of a class. -/
theorem exists_cons_cons_of_readClassRange {text : List Char} {result : CharSet × List Char}
    (hflags : flags.extended = false) (h : readClassRange flags text = .ok result) :
    ∃ x y text', text = x :: y :: text' := by
  obtain - | ⟨x, - | ⟨y, text'⟩⟩ := text
  · cases h
  · by_cases hx : x = '\\'
    · subst hx
      cases h
    · obtain ⟨first, hfirst, h⟩ := exists_of_bind_eq_ok h
      rw [readClassItem_of_ne hx] at hfirst
      obtain rfl := Except.ok.inj hfirst
      simp only [skip_of_not_extended hflags] at h
      cases h
  · exact ⟨x, y, text', rfl⟩

/-- The items of a class behind the first one, which ends where `rest` begins. -/
def readMoreItems (flags : Flags) (text : List Char) (first : CharSet) (rest : List Char) :
    Except Error (List CharSet × List Char) :=
  if rest.length < text.length then do
    let (sets, rest) ← readClassItems flags rest
    return (first :: sets, rest)
  else
    .error .unclosedClass

theorem readClassItems_named {text rest : List Char} {chars : CharSet}
    (hflags : flags.extended = false) (h : readNamedClass? text = some (chars, rest)) :
    readClassItems flags ('[' :: text) = readMoreItems flags ('[' :: text) chars rest := by
  rw [readClassItems]
  simp only [skip_of_not_extended hflags, h]
  rfl

/-- An item begins with none of the characters that have a meaning there. -/
theorem readClassItems_item {x y : Char} {text rest : List Char} {chars : CharSet}
    (hflags : flags.extended = false) (hclose : x ≠ ']') (hopen : x ≠ '[')
    (htwice : x = y → x ≠ '&' ∧ x ≠ '-' ∧ x ≠ '~')
    (h : readClassRange flags (x :: y :: text) = .ok (chars, rest)) :
    readClassItems flags (x :: y :: text) = readMoreItems flags (x :: y :: text) chars rest := by
  rw [readClassItems]
  simp only [skip_of_not_extended hflags]
  split
  · rename_i heq
    cases heq
  · rename_i heq
    cases heq
    exact absurd rfl hclose
  · rename_i heq
    cases heq
    exact absurd rfl hopen
  · rename_i heq
    cases heq
    exact absurd rfl (htwice rfl).1
  · rename_i heq
    cases heq
    exact absurd rfl (htwice rfl).2.1
  · rename_i heq
    cases heq
    exact absurd rfl (htwice rfl).2.2
  · rw [h]
    rfl

/-- What the items of a class begin with: the end of the class, a name in brackets, or an item
of another kind. -/
theorem readClassItems_cases {text rest : List Char} {sets : List CharSet}
    (hflags : flags.extended = false) (h : readClassItems flags text = .ok (sets, rest)) :
    (text = ']' :: rest ∧ sets = []) ∨
      (∃ name chars next, text = '[' :: name ∧ readNamedClass? name = some (chars, next) ∧
        readMoreItems flags text chars next = .ok (sets, rest)) ∨
      ∃ x y text' chars next, text = x :: y :: text' ∧ (x ≠ ']' ∧ x ≠ '[') ∧
        (x = y → x ≠ '&' ∧ x ≠ '-' ∧ x ≠ '~') ∧ readClassRange flags text = .ok (chars, next) ∧
        readMoreItems flags text chars next = .ok (sets, rest) := by
  have hread := h
  rw [readClassItems] at h
  simp only [skip_of_not_extended hflags] at h
  split at h
  · cases h
  · cases h
    exact .inl ⟨rfl, rfl⟩
  · rename_i name
    cases hname : readNamedClass? name with
    | none =>
      rw [hname] at h
      cases h
    | some result =>
      rw [readClassItems_named hflags hname] at hread
      exact .inr (.inl ⟨name, result.1, result.2, rfl, hname, hread⟩)
  · cases h
  · cases h
  · cases h
  · rename_i hnil hclose hopen hand hhyphen htilde
    -- What is left is an item or a range, which has two characters at least with what follows.
    obtain ⟨⟨chars, next⟩, hitem⟩ : ∃ result, readClassRange flags text = .ok result := by
      cases hitem : readClassRange flags text with
      | error e =>
        rw [hitem] at h
        cases h
      | ok result => exact ⟨result, rfl⟩
    obtain ⟨x, y, text', rfl⟩ := exists_cons_cons_of_readClassRange hflags hitem
    have hx : x ≠ ']' ∧ x ≠ '[' := by
      constructor
      · rintro rfl
        exact hclose _ rfl
      · rintro rfl
        exact hopen _ rfl
    have htwice : x = y → x ≠ '&' ∧ x ≠ '-' ∧ x ≠ '~' := by
      rintro rfl
      refine ⟨?_, ?_, ?_⟩
      · rintro rfl
        exact hand _ rfl
      · rintro rfl
        exact hhyphen _ rfl
      · rintro rfl
        exact htilde _ rfl
    rw [readClassItems_item hflags hx.1 hx.2 htwice hitem] at hread
    exact .inr (.inr ⟨x, y, text', chars, next, rfl, hx, htwice, hitem, hread⟩)

/-- Items behind the first one read the same with a text behind them, if shorter ones do. -/
theorem readMoreItems_append {text next rest : List Char} {chars : CharSet} {sets : List CharSet}
    (hshorter : ∀ items : List Char, items.length < text.length → ∀ sets rest,
      readClassItems {} items = .ok (sets, rest) →
        readClassItems {} (items ++ t) = .ok (sets, rest ++ t))
    (h : readMoreItems {} text chars next = .ok (sets, rest)) :
    readMoreItems {} (text ++ t) chars (next ++ t) = .ok (sets, rest ++ t) := by
  rw [readMoreItems] at h ⊢
  split_ifs at h with hlt
  rw [if_pos (by simpa using hlt)]
  obtain ⟨⟨sets', rest'⟩, hitems, h⟩ := exists_of_bind_eq_ok h
  rw [hshorter next hlt _ _ hitems]
  exact isStable_ok _ _ _ _ h

theorem isStable_readClassItems (ht : Separated t) : IsStable t (readClassItems {}) := by
  intro text sets rest h
  induction hn : text.length using Nat.strongRecOn generalizing text sets rest with
  | _ n ih =>
    subst hn
    have hshorter (items : List Char) (hlt : items.length < text.length) (sets : List CharSet)
        (rest : List Char) (h : readClassItems {} items = .ok (sets, rest)) :
        readClassItems {} (items ++ t) = .ok (sets, rest ++ t) :=
      ih _ hlt _ _ _ h rfl
    obtain ⟨rfl, rfl⟩ | ⟨name, chars, next, rfl, hname, hmore⟩ |
      ⟨x, y, text, chars, next, rfl, hx, htwice, hitem, hmore⟩ := readClassItems_cases rfl h
    · rw [List.cons_append, readClassItems]
      rfl
    · rw [List.cons_append, readClassItems_named rfl (readNamedClass?_append hname)]
      exact readMoreItems_append hshorter hmore
    · have hitem' := isStable_readClassRange ht _ _ _ hitem
      rw [List.cons_append, List.cons_append] at hitem' ⊢
      rw [readClassItems_item rfl hx.1 hx.2 htwice hitem']
      exact readMoreItems_append hshorter hmore

theorem readClassItems_nil : readClassItems {} [] = .error .unclosedClass := by
  rw [readClassItems]
  rfl

theorem readLeadingHyphens_of_ne {x : Char} (hx : x ≠ '-') (fuel : Nat) (text : List Char) :
    readLeadingHyphens flags fuel (x :: text) = ([], x :: text) := by
  rw [readLeadingHyphens]
  rintro fuel rest rfl heq
  cases heq
  exact hx rfl

theorem readLeadingHyphens_append {fuel fuel' : Nat} {text rest : List Char}
    {sets : List CharSet} {x : Char} (hfuel : text.length ≤ fuel) (hfuel' : text.length ≤ fuel')
    (h : readLeadingHyphens {} fuel text = (sets, x :: rest)) :
    readLeadingHyphens {} fuel' (text ++ t) = (sets, x :: (rest ++ t)) := by
  induction text generalizing fuel fuel' sets with
  | nil =>
    rw [readLeadingHyphens] at h
    · cases h
    · rintro _ _ _ ⟨⟩
  | cons y text ih =>
    by_cases hy : y = '-'
    · subst hy
      rw [List.length_cons] at hfuel hfuel'
      obtain ⟨fuel, rfl⟩ : ∃ k, fuel = k + 1 := ⟨fuel - 1, by omega⟩
      obtain ⟨fuel', rfl⟩ : ∃ k, fuel' = k + 1 := ⟨fuel' - 1, by omega⟩
      rw [readLeadingHyphens, skip_default] at h
      rw [List.cons_append, readLeadingHyphens, skip_default]
      dsimp only at h ⊢
      obtain ⟨rfl, hrest⟩ := Prod.mk.inj h
      rw [ih (by omega) (by omega) (Prod.ext rfl hrest)]
    · rw [readLeadingHyphens_of_ne hy] at h
      cases h
      exact readLeadingHyphens_of_ne hy _ _

/-- The tree of a class with the given parts. -/
def classNode (flags : Flags) (negated : Bool) (sets : List CharSet) : Node :=
  let chars := CharSet.unions sets
  let chars := if flags.ignoreCase then chars.foldCase else chars
  .set (if negated then chars.compl else chars)

/-- The caret of a class, if it has one, and what follows. -/
def readCaret (flags : Flags) (text : List Char) : Bool × List Char :=
  match flags.skip text with
  | '^' :: rest => (true, flags.skip rest)
  | rest => (false, rest)

/-- What a class begins with: hyphens, or a closing bracket that stands for itself. -/
def readLeading (flags : Flags) (text : List Char) : List CharSet × List Char :=
  let (hyphens, rest) := readLeadingHyphens flags text.length text
  match hyphens, rest with
  | [], ']' :: rest => ([CharSet.single ']'], rest)
  | hyphens, rest => (hyphens, rest)

/-- A class behind its caret, if it has one. -/
def readClassBody (flags : Flags) (negated : Bool) (text : List Char) :
    Except Error (Node × List Char) :=
  readClassItems flags (readLeading flags text).2 >>= fun sets =>
    .ok (classNode flags negated ((readLeading flags text).1 ++ sets.1), sets.2)

theorem readClass_eq (flags : Flags) (text : List Char) :
    readClass flags text = readClassBody flags (readCaret flags text).1 (readCaret flags text).2 :=
  rfl

theorem readLeading_append {text : List Char} (h : (readLeading {} text).2 ≠ []) :
    readLeading {} (text ++ t) = ((readLeading {} text).1, (readLeading {} text).2 ++ t) := by
  unfold readLeading at h ⊢
  cases hhyphens : readLeadingHyphens {} text.length text with
  | mk hyphens rest =>
    rw [hhyphens] at h
    cases rest with
    | nil =>
      -- A text of hyphens only would be used up.
      refine absurd ?_ h
      dsimp only
      split
      · rename_i heq
        cases heq
      · rfl
    | cons x rest =>
      rw [readLeadingHyphens_append (Nat.le_refl _) (by simp) hhyphens]
      dsimp only
      split
      · rename_i heq
        cases heq
        rfl
      · -- The closing bracket is taken by its own case only.
        rename_i hne
        split
        · rename_i heq
          cases heq
          exact (hne _ rfl rfl).elim
        · rfl

theorem isStable_readClassBody (ht : Separated t) (negated : Bool) :
    IsStable t (readClassBody {} negated) := by
  intro text node rest h
  rw [readClassBody] at h ⊢
  have hne : (readLeading {} text).2 ≠ [] := by
    intro hnil
    rw [hnil, readClassItems_nil] at h
    cases h
  rw [readLeading_append hne]
  exact (isStable_readClassItems ht).bind
    (fun sets => isStable_ok (classNode {} negated ((readLeading {} text).1 ++ sets))) _ _ _ h

theorem isStable_readClass (ht : Separated t) : IsStable t (readClass {}) := by
  intro text node rest h
  rw [readClass_eq] at h ⊢
  cases text with
  | nil =>
    change (readClassItems {} [] >>= _) = _ at h
    rw [readClassItems_nil] at h
    cases h
  | cons x text =>
    by_cases hx : x = '^'
    · subst hx
      exact isStable_readClassBody ht true _ _ _ h
    · have hcaret (text : List Char) : readCaret {} (x :: text) = (false, x :: text) := by
        unfold readCaret
        split
        · rename_i heq
          cases heq
          exact absurd rfl hx
        · rfl
      rw [hcaret] at h
      rw [List.cons_append, hcaret]
      exact isStable_readClassBody ht false _ _ _ h

/-! ### Counts -/

theorem readDigits_eq (hflags : flags.extended = false) (text : List Char) :
    readDigits flags false text = (text.takeWhile Char.isDigit, text.dropWhile Char.isDigit) := by
  induction text with
  | nil => rfl
  | cons x text ih =>
    rw [readDigits.eq_def, List.takeWhile_cons, List.dropWhile_cons]
    simp only [Bool.false_eq_true, if_false, hflags, Bool.false_and, ih]
    split_ifs <;> rfl

/-- A count is not the end of a repetition. -/
theorem readCount_append {text rest : List Char} {count : Nat} {x : Char}
    (h : readCount {} text = .ok (count, x :: rest)) :
    readCount {} (text ++ t) = .ok (count, x :: (rest ++ t)) := by
  rw [readCount, readDigits_eq rfl] at h ⊢
  dsimp only [skip_default] at h ⊢
  split_ifs at h with hcount
  obtain ⟨rfl, hrest⟩ := Prod.mk.inj (Except.ok.inj h)
  cases hblank : text.dropWhile isBlank with
  | nil =>
    rw [hblank] at hrest
    cases hrest
  | cons y text' =>
    rw [hblank] at hrest hcount
    rw [(Text.dropWhile_append_of_cons hblank).1]
    cases hdigits : (y :: text').dropWhile Char.isDigit with
    | nil =>
      rw [hdigits] at hrest
      cases hrest
    | cons z text'' =>
      obtain ⟨hdrop, htake⟩ := Text.dropWhile_append_of_cons (t := t) hdigits
      rw [hdigits] at hrest
      rw [List.cons_append] at hdrop htake
      rw [hdrop, htake, if_neg hcount, ← List.cons_append, (Text.dropWhile_append_of_cons hrest).1]

/-- The closing brace behind the bounds of a repetition. -/
def readBoundsEnd (least : Nat) (most : Option Nat) (text : List Char) :
    Except Error (Nat × Option Nat × List Char) :=
  match text with
  | '\x7d' :: rest => .ok (least, most, rest)
  | _ => .error .badCount

/-- The greatest count of a repetition behind its comma; there may be none. -/
def readMost (flags : Flags) (least : Nat) (text : List Char) :
    Except Error (Nat × Option Nat × List Char) :=
  match text with
  | '\x7d' :: rest => .ok (least, none, rest)
  | rest => readCount flags rest >>= fun most => readBoundsEnd least (some most.1) most.2

/-- What follows the least count of a repetition. -/
def readBoundsBehind (flags : Flags) (least : Nat) (text : List Char) :
    Except Error (Nat × Option Nat × List Char) :=
  match text with
  | ',' :: rest => readMost flags least rest
  | rest => readBoundsEnd least (some least) rest

theorem readBounds_eq (hflags : flags.extended = false) (text : List Char) :
    readBounds flags text =
      readCount flags text >>= fun least => readBoundsBehind flags least.1 least.2 := by
  simp only [readBounds, skip_of_not_extended hflags]
  rfl

section Bounds

variable {text rest : List Char} {least least' : Nat} {most most' : Option Nat}

theorem readBoundsEnd_append (h : readBoundsEnd least most text = .ok (least', most', rest)) :
    readBoundsEnd least most (text ++ t) = .ok (least', most', rest ++ t) := by
  unfold readBoundsEnd at h
  split at h
  · cases h
    rfl
  · cases h

theorem readMost_append (h : readMost {} least text = .ok (least', most', rest)) :
    readMost {} least (text ++ t) = .ok (least', most', rest ++ t) := by
  unfold readMost at h ⊢
  split at h
  · cases h
    rfl
  · rename_i hne
    obtain ⟨⟨most, rest'⟩, hmost, h⟩ := exists_of_bind_eq_ok h
    cases rest' with
    | nil => cases h
    | cons y rest' =>
      split
      · rename_i heq
        cases text with
        | nil => cases hmost
        | cons x text =>
          cases heq
          exact (hne _ rfl).elim
      · rw [readCount_append hmost]
        exact readBoundsEnd_append h

theorem readBoundsBehind_append (h : readBoundsBehind {} least text = .ok (least', most', rest)) :
    readBoundsBehind {} least (text ++ t) = .ok (least', most', rest ++ t) := by
  unfold readBoundsBehind at h ⊢
  split at h
  · exact readMost_append h
  · rename_i hne
    split
    · rename_i heq
      cases text with
      | nil => cases h
      | cons x text =>
        cases heq
        exact (hne _ rfl).elim
    · exact readBoundsEnd_append h

theorem readBounds_append (h : readBounds {} text = .ok (least, most, rest)) :
    readBounds {} (text ++ t) = .ok (least, most, rest ++ t) := by
  rw [readBounds_eq rfl] at h ⊢
  obtain ⟨⟨least', rest'⟩, hleast, h⟩ := exists_of_bind_eq_ok h
  cases rest' with
  | nil => cases h
  | cons x rest' =>
    rw [readCount_append hleast]
    exact readBoundsBehind_append h

end Bounds

end Reroute.Regex
