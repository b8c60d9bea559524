import Mathlib.Data.List.TakeWhile
import Reroute.Proofs.Regex.Lookahead

/-!
# How far tokens reach

Unless blanks are skipped, a reader does not get past a backslash or an opening parenthesis
while it reads what belongs to a token: a count, the name of a group, flags, the number of a
character. A backslash takes the one character behind it, whatever that is. Only the items of a
class may be parentheses.

## Main definitions

* `Regex.IsOrdinary` — characters other than the two
* `Regex.Passes` — nothing but ordinary characters is between two places of a text
* `Regex.SetsNoExtended` — no flag for blanks to be skipped is set behind a parenthesis

## Main results

* `Regex.passes_readEscape`, `Regex.passes_readBounds`, `Regex.passes_readGroupName`,
  `Regex.passes_readFlags` — what the readers pass over
-/

set_option autoImplicit false

namespace Reroute.Regex

variable {flags : Flags} {x : Char} {text middle rest : List Char}

/-- Neither a backslash nor an opening parenthesis. -/
def IsOrdinary (x : Char) : Prop :=
  x ≠ '\\' ∧ x ≠ '('

instance : DecidablePred IsOrdinary :=
  fun x => inferInstanceAs (Decidable (x ≠ '\\' ∧ x ≠ '('))

/-- What is read of a text before the rest is ordinary. -/
def Passes (text rest : List Char) : Prop :=
  ∃ w, text = w ++ rest ∧ ∀ x ∈ w, IsOrdinary x

namespace Passes

theorem refl (text : List Char) : Passes text text :=
  ⟨[], rfl, by simp⟩

theorem cons (hx : IsOrdinary x) (h : Passes text rest) : Passes (x :: text) rest := by
  obtain ⟨w, rfl, hw⟩ := h
  exact ⟨x :: w, rfl, List.forall_mem_cons.mpr ⟨hx, hw⟩⟩

theorem trans (h : Passes text middle) (h' : Passes middle rest) : Passes text rest := by
  obtain ⟨w, rfl, hw⟩ := h
  obtain ⟨v, rfl, hv⟩ := h'
  exact ⟨w ++ v, by simp, List.forall_mem_append.mpr ⟨hw, hv⟩⟩

theorem dropWhile {p : Char → Bool} (hp : ∀ x, p x → IsOrdinary x) (text : List Char) :
    Passes text (text.dropWhile p) :=
  ⟨text.takeWhile p, List.takeWhile_append_dropWhile.symm,
    fun x hx => hp x (List.mem_takeWhile_imp hx)⟩

end Passes

/-! ### Characters -/

theorem isOrdinary_of_ne {p : Char → Bool} (hp : p '\\' = false ∧ p '(' = false) (hx : p x) :
    IsOrdinary x := by
  constructor
  · rintro rfl
    rw [hp.1] at hx
    cases hx
  · rintro rfl
    rw [hp.2] at hx
    cases hx

theorem isOrdinary_of_isAlpha (h : x.isAlpha) : IsOrdinary x :=
  isOrdinary_of_ne (by decide) h

theorem isOrdinary_of_hexValue? {d : Nat} (h : Text.hexValue? x = some d) : IsOrdinary x := by
  refine isOrdinary_of_ne (p := fun x => (Text.hexValue? x).isSome) (by decide) ?_
  simp [h]

theorem isOrdinary_of_isGroupNameChar {first : Bool} (h : isGroupNameChar first x) :
    IsOrdinary x := by
  refine isOrdinary_of_ne ?_ h
  cases first <;> decide +kernel

/-! ### Characters given by number -/

theorem passes_readHexDigits (hflags : flags.extended = false) {count value n : Nat}
    (h : readHexDigits flags count value text = .ok (n, rest)) : Passes text rest := by
  induction count generalizing value text with
  | zero =>
    obtain ⟨rfl, rfl⟩ := Prod.mk.inj (Except.ok.inj h)
    exact .refl text
  | succ count ih =>
    cases text with
    | nil => cases h
    | cons x text =>
      rw [readHexDigits] at h
      cases hx : Text.hexValue? x with
      | none => simp [hx] at h
      | some d =>
        rw [hx, skip_of_not_extended hflags] at h
        exact .cons (isOrdinary_of_hexValue? hx) (ih h)

theorem passes_readHexBraced (hflags : flags.extended = false) {value : Option Nat} {n : Nat}
    (h : readHexBraced flags false value text = .ok (n, rest)) : Passes text rest := by
  induction text generalizing value with
  | nil => cases h
  | cons x text ih =>
    rw [readHexBraced.eq_def] at h
    simp only [Bool.false_eq_true, if_false, hflags, Bool.false_and,
      skip_of_not_extended hflags] at h
    split_ifs at h with hx
    · cases value with
      | none => cases h
      | some value =>
        obtain ⟨rfl, rfl⟩ := Prod.mk.inj (Except.ok.inj h)
        subst hx
        exact .cons (by decide) (.refl _)
    · cases hd : Text.hexValue? x with
      | none => simp [hd] at h
      | some d =>
        rw [hd] at h
        exact .cons (isOrdinary_of_hexValue? hd) (ih h)

theorem passes_readHex (hflags : flags.extended = false) {count : Nat} {node : Node}
    (h : readHex flags count text = .ok (node, rest)) : Passes text rest := by
  rw [readHex, skip_of_not_extended hflags] at h
  split at h
  all_goals
    obtain ⟨⟨value, rest'⟩, hvalue, h⟩ := exists_of_bind_eq_ok h
    obtain rfl : rest' = rest := by
      dsimp only at h
      split at h <;> cases h
      rfl
  · exact .cons (by decide) (passes_readHexBraced hflags hvalue)
  · exact passes_readHexDigits hflags hvalue

/-! ### Escapes -/

theorem passes_readBoundaryName (hflags : flags.extended = false) {name : List Char}
    (h : readBoundaryName flags false text = .ok (name, rest)) : Passes text rest := by
  induction text generalizing name with
  | nil => cases h
  | cons x text ih =>
    rw [readBoundaryName.eq_def] at h
    simp only [Bool.false_eq_true, if_false, hflags, Bool.false_and] at h
    split_ifs at h with hx hname
    · obtain ⟨rfl, rfl⟩ := Prod.mk.inj (Except.ok.inj h)
      subst hx
      exact .cons (by decide) (.refl _)
    · obtain ⟨⟨name', rest'⟩, hname', h⟩ := exists_of_bind_eq_ok h
      cases h
      refine .cons (isOrdinary_of_ne (p := fun x => x.isAlpha || x = '-') (by decide) hname) ?_
      exact ih hname'

theorem passes_readWordBoundary (hflags : flags.extended = false) {node : Node}
    (h : readWordBoundary flags text = .ok (node, rest)) : Passes text rest := by
  unfold readWordBoundary at h
  split at h
  · simp only [skip_of_not_extended hflags] at h
    split at h
    · cases h
    · split_ifs at h
      · obtain ⟨⟨name, rest'⟩, hname, h⟩ := exists_of_bind_eq_ok h
        obtain rfl : rest' = rest := by
          dsimp only at h
          split at h <;> cases h <;> rfl
        exact .cons (by decide) (passes_readBoundaryName hflags hname)
      · cases h
        exact .refl _
  · cases h
    exact .refl _

/-- A backslash takes the character behind it, and nothing but ordinary ones behind that. -/
theorem passes_readEscape (hflags : flags.extended = false) {node : Node}
    (h : readEscape flags text = .ok (node, rest)) :
    ∃ x text', text = x :: text' ∧ Passes text' rest := by
  cases text with
  | nil => cases h
  | cons x text =>
    refine ⟨x, text, rfl, ?_⟩
    unfold readEscape at h
    dsimp only at h
    split_ifs at h
    · cases h
      exact .refl _
    · split at h
      all_goals first
        | exact passes_readHex hflags h
        | exact passes_readWordBoundary hflags h
        | (cases h; exact .refl _)
        | cases h

/-! ### Names of classes -/

theorem isOrdinary_of_named? {w : List Char} {chars : CharSet}
    (h : CharSet.named? (String.ofList w) = some chars) : ∀ x ∈ w, IsOrdinary x := by
  unfold CharSet.named? at h
  split at h
  case h_15 => cases h
  -- The names of classes are known, and have small letters only.
  all_goals
    rename_i hname
    rw [← String.toList_ofList (l := w), hname]
    simp [IsOrdinary]

theorem passes_readClassName? {negated : Bool} {chars : CharSet}
    (h : readClassName? negated text = some (chars, rest)) : Passes text rest := by
  unfold readClassName? at h
  split at h
  · rename_i rest' hdrop
    obtain ⟨chars', hchars, heq⟩ := Option.map_eq_some_iff.mp h
    cases heq
    have hname : Passes text (':' :: ']' :: rest) :=
      ⟨_, (hdrop ▸ List.takeWhile_append_dropWhile).symm, isOrdinary_of_named? hchars⟩
    exact hname.trans (.cons (by decide) (.cons (by decide) (.refl _)))
  · cases h

theorem passes_readNamedClass? {chars : CharSet}
    (h : readNamedClass? text = some (chars, rest)) : Passes text rest := by
  unfold readNamedClass? at h
  split at h
  · exact .cons (by decide) (.cons (by decide) (passes_readClassName? h))
  · exact .cons (by decide) (passes_readClassName? h)
  · cases h

/-! ### Classes -/

/-- An item of a class is a single character, unless it begins with a backslash. -/
theorem readClassItem_cases (hflags : flags.extended = false) {item : Char ⊕ CharSet}
    (h : readClassItem flags text = .ok (item, rest)) :
    (∃ x, x ≠ '\\' ∧ text = x :: rest) ∨
      ∃ x text', text = '\\' :: x :: text' ∧ Passes text' rest := by
  cases text with
  | nil => cases h
  | cons x text =>
    by_cases hx : x = '\\'
    · subst hx
      rw [readClassItem] at h
      cases hescape : readEscape flags text with
      | error e =>
        rw [hescape] at h
        cases h
      | ok result =>
        obtain ⟨y, text', rfl, hpasses⟩ := passes_readEscape hflags hescape
        rw [hescape] at h
        obtain ⟨node, rest'⟩ := result
        obtain rfl : rest' = rest := by
          cases node <;> cases h <;> rfl
        exact .inr ⟨y, text', rfl, hpasses⟩
    · rw [readClassItem_of_ne hx] at h
      cases h
      exact .inl ⟨x, hx, rfl⟩

/-- A range has another item behind its hyphen. -/
theorem readClassRange_cases (hflags : flags.extended = false) {chars : CharSet}
    (h : readClassRange flags text = .ok (chars, rest)) :
    ∃ item middle, readClassItem flags text = .ok (item, middle) ∧
      (rest = middle ∨
        ∃ item' text', middle = '-' :: text' ∧ readClassItem flags text' = .ok (item', rest)) := by
  obtain ⟨⟨item, middle⟩, hitem, h⟩ := exists_of_bind_eq_ok h
  refine ⟨item, middle, hitem, ?_⟩
  simp only [skip_of_not_extended hflags] at h
  split at h
  · cases h
  · split_ifs at h
    · cases h
      exact .inl rfl
    · obtain ⟨⟨item', rest'⟩, hitem', h⟩ := exists_of_bind_eq_ok h
      obtain rfl : rest' = rest := by
        dsimp only at h
        split at h
        · split_ifs at h
          cases h
          rfl
        · cases h
      exact .inr ⟨item', _, rfl, hitem'⟩
  · cases h
    exact .inl rfl

theorem passes_readCaret (hflags : flags.extended = false) (text : List Char) :
    Passes text (readCaret flags text).2 := by
  unfold readCaret
  rw [skip_of_not_extended hflags]
  split
  · rw [skip_of_not_extended hflags]
    exact .cons (by decide) (.refl _)
  · exact .refl _

theorem passes_readLeadingHyphens (hflags : flags.extended = false) (fuel : Nat)
    (text : List Char) : Passes text (readLeadingHyphens flags fuel text).2 := by
  fun_induction readLeadingHyphens flags fuel text with
  | case1 fuel rest sets rest' heq ih =>
    rw [skip_of_not_extended hflags] at ih heq
    rw [heq] at ih
    exact .cons (by decide) ih
  | case2 => exact .refl _

theorem passes_readLeading (hflags : flags.extended = false) (text : List Char) :
    Passes text (readLeading flags text).2 := by
  have hhyphens := passes_readLeadingHyphens hflags text.length text
  unfold readLeading
  dsimp only
  split
  · rename_i heq
    rw [heq] at hhyphens
    exact hhyphens.trans (.cons (by decide) (.refl _))
  · exact hhyphens

/-! ### Counts -/

theorem isOrdinary_of_isBlank (h : isBlank x) : IsOrdinary x :=
  isOrdinary_of_ne (by decide) h

theorem passes_readCount (hflags : flags.extended = false) {count : Nat}
    (h : readCount flags text = .ok (count, rest)) : Passes text rest := by
  rw [readCount, readDigits_eq hflags] at h
  dsimp only at h
  split_ifs at h
  obtain ⟨-, rfl⟩ := Prod.mk.inj (Except.ok.inj h)
  have hblank := Passes.dropWhile (p := isBlank) fun x => isOrdinary_of_isBlank
  rw [skip_of_not_extended hflags]
  have hdigits := Passes.dropWhile (p := Char.isDigit) fun x => isOrdinary_of_ne (by decide)
  exact ((hblank text).trans (hdigits _)).trans (hblank _)

theorem passes_readBoundsEnd {least least' : Nat} {most most' : Option Nat}
    (h : readBoundsEnd least most text = .ok (least', most', rest)) : Passes text rest := by
  unfold readBoundsEnd at h
  split at h
  · cases h
    exact .cons (by decide) (.refl _)
  · cases h

theorem passes_readBounds (hflags : flags.extended = false) {least : Nat} {most : Option Nat}
    (h : readBounds flags text = .ok (least, most, rest)) : Passes text rest := by
  rw [readBounds_eq hflags] at h
  obtain ⟨⟨least', rest'⟩, hleast, h⟩ := exists_of_bind_eq_ok h
  refine (passes_readCount hflags hleast).trans ?_
  dsimp only at h
  unfold readBoundsBehind at h
  split at h
  · refine .cons (by decide) ?_
    unfold readMost at h
    split at h
    · cases h
      exact .cons (by decide) (.refl _)
    · obtain ⟨⟨most', rest''⟩, hmost, h⟩ := exists_of_bind_eq_ok h
      exact (passes_readCount hflags hmost).trans (passes_readBoundsEnd h)
  · exact passes_readBoundsEnd h

/-! ### Names of groups, and changes of flags -/

theorem passes_readGroupName {first : Bool} {name : List Char}
    (h : readGroupName first text = .ok (name, rest)) : Passes text rest := by
  induction text generalizing first name with
  | nil => cases h
  | cons x text ih =>
    unfold readGroupName at h
    split at h
    · cases h
    · rename_i heq
      cases heq
      split_ifs at h
      cases h
      exact .cons (by decide) (.refl _)
    · rename_i heq
      cases heq
      split_ifs at h with hx
      obtain ⟨⟨name', rest'⟩, hname, h⟩ := exists_of_bind_eq_ok h
      cases h
      exact .cons (isOrdinary_of_isGroupNameChar hx) (ih hname)

/-- No `x` is among the letters that a question mark announces. -/
def SetsNoExtended (text : List Char) : Prop :=
  ∀ rest, text = '?' :: rest → 'x' ∉ rest.takeWhile Char.isAlpha

theorem isAlpha_of_set? {value : Bool} {flags' : Flags} (h : flags.set? value x = some flags') :
    x.isAlpha := by
  unfold Flags.set? at h
  split at h
  case h_8 => cases h
  all_goals rfl

/-- The flag `x` is set by its letter only. -/
theorem extended_of_set? {value : Bool} {flags' : Flags} (h : flags.set? value x = some flags')
    (hflags : flags.extended = false) (hx : value → x ≠ 'x') : flags'.extended = false := by
  unfold Flags.set? at h
  split at h
  case h_6 =>
    cases h
    exact Bool.eq_false_iff.mpr fun hvalue => hx hvalue rfl
  case h_8 => cases h
  all_goals
    cases h
    exact hflags

/-- Flags are letters and hyphens, up to a colon or closing parenthesis. The letters before the
first hyphen set them. -/
theorem passes_readFlags {negated : Bool} {seen : List Char} {flags' : Flags}
    (hflags : flags.extended = false) (htext : negated = false → 'x' ∉ text.takeWhile Char.isAlpha)
    (h : readFlags flags negated seen text = .ok (flags', rest)) :
    flags'.extended = false ∧ ∃ y rest', rest = y :: rest' ∧ Passes text rest' := by
  induction text generalizing flags negated seen with
  | nil => cases h
  | cons x text ih =>
    rw [readFlags] at h
    split_ifs at h with hend hseen hseen hhyphen
    · cases h
      refine ⟨hflags, x, text, rfl, .cons ?_ (.refl _)⟩
      obtain rfl | rfl := hend <;> decide
    · subst hhyphen
      obtain ⟨hflags', y, rest', rfl, hpasses⟩ := ih hflags (by simp) h
      exact ⟨hflags', y, rest', rfl, .cons (by decide) hpasses⟩
    · cases hset : flags.set? (!negated) x with
      | none => simp [hset] at h
      | some next =>
        rw [hset] at h
        have halpha : x.isAlpha := isAlpha_of_set? hset
        have hletters (hnegated : negated = false) :
            x ≠ 'x' ∧ 'x' ∉ text.takeWhile Char.isAlpha := by
          have hmem := htext hnegated
          rw [List.takeWhile_cons, if_pos halpha, List.mem_cons, not_or] at hmem
          exact ⟨Ne.symm hmem.1, hmem.2⟩
        have hnext : next.extended = false :=
          extended_of_set? hset hflags fun hvalue => (hletters (by simpa using hvalue)).1
        obtain ⟨hflags', y, rest', rfl, hpasses⟩ := ih hnext (fun hneg => (hletters hneg).2) h
        exact ⟨hflags', y, rest', rfl, .cons (isOrdinary_of_isAlpha halpha) hpasses⟩

/-! ### Steps -/

section Steps

variable {b next : Builder}

/-- A question mark behind a repetition belongs to it. -/
theorem passes_applyRepetition {least : Nat} {most : Option Nat}
    (h : b.applyRepetition least most rest = .ok next) :
    Passes rest next.rest ∧ next.flags = b.flags := by
  unfold Builder.applyRepetition at h
  split at h
  · cases h
  · dsimp only at h
    split_ifs at h
    cases h
    refine ⟨?_, rfl⟩
    dsimp only
    split
    · exact .cons (by decide) (.refl _)
    · exact .refl _

theorem passes_openNamed (h : b.openNamed rest = .ok next) :
    Passes rest next.rest ∧ next.flags = b.flags := by
  obtain ⟨⟨name, rest'⟩, hname, h⟩ := exists_of_bind_eq_ok h
  dsimp only at h
  split_ifs at h
  obtain rfl := Builder.eq_of_openGroup h
  exact ⟨passes_readGroupName hname, rfl⟩

/-- Behind an opening parenthesis blanks are skipped only if a flag is set for it. -/
theorem passes_openParenthesis (hflags : b.flags.extended = false)
    (hgroup : SetsNoExtended rest) (h : b.openParenthesis rest = .ok next) :
    Passes rest next.rest ∧ next.flags.extended = false := by
  unfold Builder.openParenthesis at h
  rw [skip_of_not_extended hflags] at h
  split at h
  case h_5 =>
    obtain ⟨hpasses, heq⟩ := passes_openNamed h
    exact ⟨.cons (by decide) (.cons (by decide) (.cons (by decide) hpasses)), by rw [heq, hflags]⟩
  case h_6 =>
    obtain ⟨hpasses, heq⟩ := passes_openNamed h
    exact ⟨.cons (by decide) (.cons (by decide) hpasses), by rw [heq, hflags]⟩
  case h_8 =>
    obtain ⟨⟨flags, rest'⟩, hread, h⟩ := exists_of_bind_eq_ok h
    obtain ⟨hflags', y, rest', rfl, hpasses⟩ :=
      passes_readFlags hflags (fun _ => hgroup _ rfl) hread
    -- The sign behind the flags either ends the group or begins what is in it.
    have hpasses' := Passes.cons (x := '?') (by decide) hpasses
    dsimp only at h
    split at h
    · rename_i heq
      cases heq
      cases h
      exact ⟨hpasses', hflags'⟩
    · rename_i heq
      cases heq
      obtain rfl := Builder.eq_of_openGroup h
      exact ⟨hpasses', hflags'⟩
    · cases h
  case h_9 =>
    obtain rfl := Builder.eq_of_openGroup h
    exact ⟨.refl _, hflags⟩
  all_goals cases h

end Steps

end Reroute.Regex
