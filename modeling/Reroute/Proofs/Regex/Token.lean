import Reroute.Proofs.Regex.Lookahead

/-!
# Tokens of regular expressions

A regular expression that sets no flags and names no groups is a sequence of tokens. Which
they are depends on the text alone; what a token does depends on what was read before, and
only a few things of that matter: whether there is something to repeat, and how many groups
are open.

## Main definitions

* `Regex.Token`, `Regex.readToken?` — tokens, and how they are read
* `Token.apply`, `Builder.Takes` — what a token does, as a function and as a relation

## Main results

* `Regex.readToken?_append` — text behind a token does not change it
* `Regex.step_eq_apply` — a step of the reader reads one token
-/

set_option autoImplicit false

namespace Reroute.Regex

variable {b next : Builder} {x : Char} {rest t : List Char}

/-- A token of a regular expression under default flags. -/
inductive Token where
  /-- Something that is matched. -/
  | operand (node : Node)
  /-- The bar between alternatives. -/
  | bar
  /-- The beginning of a group, which may be remembered. -/
  | opening (remembered : Bool)
  /-- The end of a group. -/
  | closing
  /-- A repetition of what was read last. -/
  | repetition (least : Nat) (most : Option Nat) (isLazy : Bool)

/-- What a token does to the reader, which goes on with `rest`. -/
def Token.apply (b : Builder) (rest : List Char) : Token → Except Error Builder
  | operand node => .ok (b.push node rest)
  | bar =>
    .ok { b with rest, branches := Piece.concat b.items.reverse :: b.branches, items := [] }
  | opening true => b.openCapture rest
  | opening false => b.openGroup none b.flags rest
  | closing => b.closeGroup rest
  | repetition least most isLazy =>
    match b.items with
    | [] => .error .nothingToRepeat
    | piece :: items =>
      if most.any (· < least) then .error .badCount
      else .ok { b with
        rest
        items := piece.repetition least most (isLazy = b.flags.swapGreed) :: items }

/-- What becomes of a reader that can take a token. -/
inductive Builder.Takes (b : Builder) (rest : List Char) : Token → Builder → Prop
  | operand (node : Node) : b.Takes rest (.operand node) (b.push node rest)
  | bar :
    b.Takes rest .bar
      { b with rest, branches := Piece.concat b.items.reverse :: b.branches, items := [] }
  | opening (remembered : Bool) :
    b.Takes rest (.opening remembered) { b with
      rest
      outer := ⟨if remembered then some b.groups else none, b.flags, b.branches, b.items⟩ :: b.outer
      branches := []
      items := []
      groups := b.groups + remembered.toNat }
  | closing {frame : Frame} {outer : List Frame} (houter : b.outer = frame :: outer) :
    b.Takes rest .closing { b with
      rest
      flags := frame.flags
      outer
      branches := frame.branches
      items := frame.close b.inner :: frame.items }
  | repetition {piece : Piece} {items : List Piece} (hitems : b.items = piece :: items)
      (least : Nat) (most : Option Nat) (isLazy : Bool) :
    b.Takes rest (.repetition least most isLazy) { b with
      rest
      items := piece.repetition least most (isLazy = b.flags.swapGreed) :: items }

/-- A reader goes on behind a token only if it can take it. -/
theorem takes_of_apply {token : Token} (h : token.apply b rest = .ok next) :
    b.Takes rest token next := by
  cases token with
  | operand node =>
    cases h
    exact .operand node
  | bar =>
    cases h
    exact .bar
  | opening remembered =>
    cases remembered
    -- There is a limit to the depth of groups, whether they are remembered or not.
    all_goals
      simp only [Token.apply, Builder.openCapture, Builder.openGroup] at h
      split_ifs at h
      cases h
    · exact .opening false
    · exact .opening true
  | closing =>
    rw [Token.apply, Builder.closeGroup] at h
    split at h
    · cases h
    · rename_i frame outer houter
      cases h
      exact .closing houter
  | repetition least most isLazy =>
    rw [Token.apply] at h
    split at h
    · cases h
    · rename_i piece items hitems
      split_ifs at h
      cases h
      exact .repetition hitems least most isLazy

theorem rest_of_takes {token : Token} (h : b.Takes rest token next) : next.rest = rest := by
  cases h <;> rfl

theorem names_of_takes {token : Token} (h : b.Takes rest token next) : next.names = b.names := by
  cases h <;> rfl

theorem rest_of_apply {token : Token} (h : token.apply b rest = .ok next) : next.rest = rest :=
  rest_of_takes (takes_of_apply h)

/-- Whether a question mark makes a repetition lazy, and what follows. -/
def readLazy (rest : List Char) : Bool × List Char :=
  match rest with
  | '?' :: rest => (true, rest)
  | rest => (false, rest)

/-- A repetition behind its sign. -/
def readRepetition (least : Nat) (most : Option Nat) (rest : List Char) : Token × List Char :=
  (.repetition least most (readLazy rest).1, (readLazy rest).2)

/-- What an opening parenthesis begins, unless it sets flags or names a group. -/
def readOpening? (rest : List Char) : Option (Token × List Char) :=
  match rest with
  | '?' :: ':' :: rest => some (.opening false, rest)
  | '?' :: _ => none
  | rest => some (.opening true, rest)

/-- Read one token, which begins with the character `x`, under default flags. -/
def readToken? (x : Char) (rest : List Char) : Option (Token × List Char) :=
  match x with
  | '(' => readOpening? rest
  | ')' => some (.closing, rest)
  | '|' => some (.bar, rest)
  | '[' => (readClass {} rest).toOption.map fun (node, rest) => (.operand node, rest)
  | '?' => some (readRepetition 0 (some 1) rest)
  | '*' => some (readRepetition 0 none rest)
  | '+' => some (readRepetition 1 none rest)
  | '\x7b' =>
    (readBounds {} rest).toOption.map fun (least, most, rest) => readRepetition least most rest
  | '\\' => (readEscape {} rest).toOption.map fun (node, rest) => (.operand node, rest)
  | '.' => some (.operand (Flags.dot {}), rest)
  | '^' => some (.operand (Flags.startAnchor {}), rest)
  | '$' => some (.operand (Flags.endAnchor {}), rest)
  | x => some (.operand (Flags.literal {} x), rest)

/-! ### Steps -/

theorem toOption_eq_some_iff {α : Type} {e : Except Error α} {a : α} :
    e.toOption = some a ↔ e = .ok a := by
  cases e <;> simp [Except.toOption]

/-- What is read as a node is an operand. -/
theorem map_push_eq_apply {token : Token} {result : Except Error (Node × List Char)}
    (h : (result.toOption.map fun (node, rest) => (Token.operand node, rest)) = some (token, t)) :
    (result.map fun (node, rest) => b.push node rest) = token.apply b t := by
  obtain ⟨⟨node, rest⟩, hresult, heq⟩ := Option.map_eq_some_iff.mp h
  cases heq
  rw [toOption_eq_some_iff.mp hresult]
  rfl

theorem applyRepetition_eq_apply (least : Nat) (most : Option Nat) (rest : List Char) :
    b.applyRepetition least most rest =
      (readRepetition least most rest).1.apply b (readRepetition least most rest).2 := by
  rw [Builder.applyRepetition.eq_def, readRepetition, Token.apply]
  cases b.items with
  | nil => rfl
  | cons piece items => rfl

theorem openParenthesis_eq_apply {token : Token} (hflags : b.flags = {})
    (h : readOpening? rest = some (token, t)) : b.openParenthesis rest = token.apply b t := by
  unfold readOpening? at h
  split at h
  · cases h
    rw [Builder.openParenthesis, Token.apply, hflags]
    rfl
  · cases h
  · rename_i hne
    cases h
    unfold Builder.openParenthesis
    rw [hflags, skip_default]
    split
    all_goals first
      | exact (hne _ rfl).elim
      | rfl

/-- A step of the reader reads one token. -/
theorem step_eq_apply {token : Token} (hflags : b.flags = {})
    (h : readToken? x rest = some (token, t)) : b.step x rest = token.apply b t := by
  unfold readToken? at h
  split at h
  · exact openParenthesis_eq_apply hflags h
  · cases h; rfl
  · cases h; rfl
  · change (readClass b.flags rest).map _ = _
    rw [hflags]
    exact map_push_eq_apply h
  · obtain ⟨rfl, rfl⟩ := Prod.mk.inj (Option.some.inj h)
    exact applyRepetition_eq_apply _ _ _
  · obtain ⟨rfl, rfl⟩ := Prod.mk.inj (Option.some.inj h)
    exact applyRepetition_eq_apply _ _ _
  · obtain ⟨rfl, rfl⟩ := Prod.mk.inj (Option.some.inj h)
    exact applyRepetition_eq_apply _ _ _
  · obtain ⟨⟨least, most, rest'⟩, hbounds, heq⟩ := Option.map_eq_some_iff.mp h
    obtain ⟨rfl, rfl⟩ := Prod.mk.inj heq
    refine Eq.trans ?_ (applyRepetition_eq_apply least most rest')
    change (if b.items.isEmpty then Except.error Error.nothingToRepeat else
      readBounds b.flags rest >>= _) = _
    rw [hflags, toOption_eq_some_iff.mp hbounds]
    -- Without a piece to repeat, either says so.
    split_ifs with hitems
    · rw [Builder.applyRepetition.eq_def, List.isEmpty_iff.mp hitems]
    · rfl
  · change (readEscape b.flags rest).map _ = _
    rw [hflags]
    exact map_push_eq_apply h
  · cases h
    rw [← hflags]
    rfl
  · cases h
    rw [← hflags]
    rfl
  · cases h
    rw [← hflags]
    rfl
  · cases h
    unfold Builder.step
    split
    all_goals first
      | contradiction
      | (rw [← hflags]; rfl)

/-! ### Texts behind tokens -/

theorem readRepetition_append (ht : Separated t) (least : Nat) (most : Option Nat)
    (rest : List Char) :
    readRepetition least most (rest ++ t) =
      ((readRepetition least most rest).1, (readRepetition least most rest).2 ++ t) := by
  have hlazy : readLazy (rest ++ t) = ((readLazy rest).1, (readLazy rest).2 ++ t) := by
    unfold readLazy
    split
    · rename_i heq
      cases rest with
      | nil =>
        rw [List.nil_append] at heq
        exact absurd (by rw [heq]; rfl) ht.1
      | cons x rest =>
        cases heq
        rfl
    · rename_i hne
      split
      · exact (hne _ rfl).elim
      · rfl
  rw [readRepetition, hlazy]
  rfl

theorem readOpening?_append {token : Token} {rest' : List Char} (ht : Separated t)
    (h : readOpening? rest = some (token, rest')) :
    readOpening? (rest ++ t) = some (token, rest' ++ t) := by
  unfold readOpening? at h
  split at h
  · cases h
    rfl
  · cases h
  · -- A group that is remembered must not become one with a sign behind the parenthesis.
    rename_i hne
    cases h
    have hhead : (rest ++ t).head? ≠ some '?' := by
      cases rest with
      | nil => exact ht.1
      | cons x rest =>
        rintro ⟨⟩
        exact hne rest rfl
    unfold readOpening?
    split
    · rename_i heq
      rw [heq] at hhead
      exact absurd rfl hhead
    · rename_i heq
      rw [heq] at hhead
      exact absurd rfl hhead
    · rfl

/-- What a token is does not depend on the text behind it. -/
theorem readToken?_append {token : Token} {rest' : List Char} (ht : Separated t)
    (h : readToken? x rest = some (token, rest')) :
    readToken? x (rest ++ t) = some (token, rest' ++ t) := by
  unfold readToken? at h ⊢
  -- One case for each character with a meaning. Only groups, classes, signs of repetition and
  -- escapes look further than that character.
  split at h
  · exact readOpening?_append ht h
  · cases h; rfl
  · cases h; rfl
  · obtain ⟨⟨node, rest'⟩, hclass, heq⟩ := Option.map_eq_some_iff.mp h
    cases heq
    have hstable := isStable_readClass ht _ _ _ (toOption_eq_some_iff.mp hclass)
    exact Option.map_eq_some_iff.mpr ⟨_, toOption_eq_some_iff.mpr hstable, rfl⟩
  · obtain ⟨rfl, rfl⟩ := Prod.mk.inj (Option.some.inj h)
    exact congrArg some (readRepetition_append ht _ _ _)
  · obtain ⟨rfl, rfl⟩ := Prod.mk.inj (Option.some.inj h)
    exact congrArg some (readRepetition_append ht _ _ _)
  · obtain ⟨rfl, rfl⟩ := Prod.mk.inj (Option.some.inj h)
    exact congrArg some (readRepetition_append ht _ _ _)
  · obtain ⟨⟨least, most, rest''⟩, hbounds, heq⟩ := Option.map_eq_some_iff.mp h
    obtain ⟨rfl, rfl⟩ := Prod.mk.inj heq
    have hstable := readBounds_append (t := t) (toOption_eq_some_iff.mp hbounds)
    exact Option.map_eq_some_iff.mpr
      ⟨_, toOption_eq_some_iff.mpr hstable, readRepetition_append ht _ _ _⟩
  · obtain ⟨⟨node, rest'⟩, hescape, heq⟩ := Option.map_eq_some_iff.mp h
    cases heq
    have hstable := isStable_readEscape ht _ _ _ (toOption_eq_some_iff.mp hescape)
    exact Option.map_eq_some_iff.mpr ⟨_, toOption_eq_some_iff.mpr hstable, rfl⟩
  all_goals
    cases h
    rfl

/-- A text that is read under default flags as some tokens, none of which sets flags or
names a group. -/
inductive Tokens : List Char → List Token → Prop
  | nil : Tokens [] []
  | cons {x : Char} {rest rest' : List Char} {token : Token} {tokens : List Token}
      (first : readToken? x rest = some (token, rest')) (more : Tokens rest' tokens) :
      Tokens (x :: rest) (token :: tokens)

end Reroute.Regex
