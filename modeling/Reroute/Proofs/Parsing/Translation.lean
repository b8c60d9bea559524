import Reroute.Proofs.Grammar.Termination

/-!
# Reading the same text elsewhere

A parser sees the text through a cursor, and of what lies behind the cursor one character only.
How far the place is from the start of the text makes no difference: where the same text follows
the same character, a parser that is made with the combinators does the same, so many bytes
further on.

## Main definitions

* `Cursor.shift`, `Step.shift` — the same place and the same outcome further on
* `Parser.IsUniform` — a parser that does the same further on
* `LooksAlike` — two places of two texts at which a parser sees the same
* `Parser.ActsAlike` — the outcomes at two places, counted from there

## Main results

* `Parser.BuiltFrom.isUniform` — the combinators do the same further on
* `LooksAlike.actsAlike` — parsers, those of the grammar among them, do the same at places that
  look alike
-/

set_option autoImplicit false

namespace Reroute.Parsing

variable {α β : Type} {n : Nat} {c : Cursor}

/-! ### Places and outcomes further on -/

/-- The place `n` bytes further on at which the same is to be seen. -/
def Cursor.shift (n : Nat) (c : Cursor) : Cursor :=
  { c with offset := c.offset + n }

@[simp] theorem Cursor.left_shift : (c.shift n).left = c.left := rfl

@[simp] theorem Cursor.offset_shift : (c.shift n).offset = c.offset + n := rfl

/-- The same outcome `n` bytes further on. -/
def Step.shift (n : Nat) : Step α → Step α
  | .success value next => .success value (next.shift n)
  | .failure stop error => .failure (stop + n) ⟨error.cause, error.position + n⟩

@[simp] theorem Step.shift_success (value : α) (next : Cursor) :
    (Step.success value next).shift n = .success value (next.shift n) := rfl

@[simp] theorem Step.shift_failure (stop : Nat) (error : ParseError) :
    (Step.failure stop error : Step α).shift n =
      .failure (stop + n) ⟨error.cause, error.position + n⟩ := rfl

theorem Cursor.next?_shift :
    (c.shift n).next? = c.next?.map fun (x, next) => (x, next.shift n) := by
  obtain ⟨previous, rest, offset, unseen⟩ := c
  cases rest with
  | nil => rfl
  | cons x rest => simp [shift, Nat.add_right_comm]

/-! ### Uniform parsers -/

namespace Parser

/-- A parser that does the same further on. -/
def IsUniform (p : Parser α) : Prop :=
  ∀ n c, p.run (c.shift n) = (p.run c).shift n

section Combinators

variable {p : Parser α} {q : Parser β}

/-- The test of a character sees the character before it, which is the same further on. -/
theorem isUniform_satisfy (test : Char → Option Char → Bool) (expected : Option String) :
    (satisfy test expected).IsUniform := by
  intro n c
  have hprevious : (c.shift n).previous = c.previous := rfl
  unfold satisfy
  dsimp only
  rw [Cursor.next?_shift, hprevious]
  cases c.next? with
  | none => rfl
  | some next =>
    dsimp only [Option.map_some]
    split_ifs <;> rfl

theorem stringFrom_shift (literal : String) (chars : List Char) (n : Nat) (c : Cursor) :
    stringFrom literal chars (c.shift n) = (stringFrom literal chars c).shift n := by
  induction chars generalizing c with
  | nil => rfl
  | cons x chars ih =>
    rw [stringFrom, stringFrom, Cursor.next?_shift]
    cases c.next? with
    | none => rfl
    | some next =>
      dsimp only [Option.map_some]
      split_ifs
      · exact ih next.2
      · rfl

theorem isUniform_succeed (value : α) : (succeed value).IsUniform :=
  fun _ _ => rfl

theorem IsUniform.chain {f : α → Parser β} (hp : p.IsUniform) (hf : ∀ value, (f value).IsUniform) :
    (p.chain f).IsUniform := by
  intro n c
  unfold Parser.chain
  dsimp only
  rw [hp]
  cases p.run c with
  | success value next => exact hf value n next
  | failure stop error => rfl

theorem IsUniform.map (f : α → β) (hp : p.IsUniform) : (p.map f).IsUniform := by
  intro n c
  rw [run_map, run_map, hp]
  cases p.run c <;> rfl

theorem isUniform_choice {ps : List (Parser α)} (h : ∀ p ∈ ps, p.IsUniform) :
    (choice ps).IsUniform := by
  intro n c
  induction ps with
  | nil => rfl
  | cons p ps ih =>
    rw [List.forall_mem_cons] at h
    rw [choice]
    dsimp only
    rw [h.1]
    cases p.run c with
    | success value next => rfl
    | failure stop error => exact ih h.2

theorem IsUniform.optional (hp : p.IsUniform) : (optional p).IsUniform := by
  intro n c
  unfold Parser.optional
  dsimp only
  rw [hp]
  cases p.run c <;> rfl

theorem IsUniform.peek (hp : p.IsUniform) : (peek p).IsUniform := by
  intro n c
  unfold Parser.peek
  dsimp only
  rw [hp]
  cases p.run c <;> rfl

/-- Every turn of a repetition is the same further on, and so is the end of it. -/
theorem IsUniform.manyFrom_shift (hp : p.IsUniform) (n : Nat) (c : Cursor) :
    manyFrom p (c.shift n) = ((manyFrom p c).1, (manyFrom p c).2.shift n) := by
  fun_induction manyFrom p c with
  | case1 c value next hstep hlt values last heq ih =>
    rw [manyFrom, hp, hstep]
    simp [hlt, ih, heq]
  | case2 c value next hstep hlt =>
    rw [manyFrom, hp, hstep]
    simp [hlt]
  | case3 c stop error hstep =>
    rw [manyFrom, hp, hstep]
    rfl

theorem IsUniform.many (hp : p.IsUniform) : (many p).IsUniform := by
  intro n c
  unfold Parser.many
  dsimp only
  rw [hp.manyFrom_shift]
  rfl

theorem IsUniform.many1 (hp : p.IsUniform) : (many1 p).IsUniform := by
  intro n c
  unfold Parser.many1
  dsimp only
  rw [hp]
  cases p.run c with
  | success value next => simp [hp.manyFrom_shift]
  | failure stop error =>
    by_cases hstop : stop = c.offset <;> simp [hstop]

theorem IsUniform.separatedFrom_shift (hp : p.IsUniform) (hq : q.IsUniform) (n : Nat)
    (committed c : Cursor) :
    separatedFrom p q (committed.shift n) (c.shift n) =
      ((separatedFrom p q committed c).1, (separatedFrom p q committed c).2.shift n) := by
  fun_induction separatedFrom p q committed c with
  | case1 committed c stop error hitem =>
    rw [separatedFrom, hp, hitem]
    rfl
  | case2 committed c value after hitem stop error hseparator =>
    rw [separatedFrom, hp, hitem]
    simp [hq n after, hseparator]
  | case3 committed c value after hitem u next hseparator hlt values last heq ih =>
    rw [separatedFrom, hp, hitem]
    simp [hq n after, hseparator, hlt, ih, heq]
  | case4 committed c value after hitem u next hseparator hlt =>
    rw [separatedFrom, hp, hitem]
    simp [hq n after, hseparator, hlt]

theorem IsUniform.separatedBy (hp : p.IsUniform) (hq : q.IsUniform) :
    (separatedBy p q).IsUniform := by
  intro n c
  unfold Parser.separatedBy
  dsimp only
  rw [hp.separatedFrom_shift hq]
  rfl

theorem isUniform_number : number.IsUniform := by
  intro n c
  have hdigits : (many1 digit).IsUniform := (isUniform_satisfy _ _).many1
  unfold number
  dsimp only
  rw [hdigits]
  cases (Parser.many1 digit).run c with
  | success digits next =>
    dsimp only [Step.shift_success]
    split_ifs <;> rfl
  | failure stop error => rfl

/-- A parser that refers to itself does so where less is left of the text, and that is as much
further on. -/
theorem isUniform_fix {f : Parser α → Parser α} (hf : ∀ p, p.IsUniform → (f p).IsUniform) :
    (fix f).IsUniform := by
  intro n c
  -- The induction is on what is left of the text, the same further on. The inner parser
  -- is asked where less is left, and that is so at both places or at none.
  induction hleft : c.left using Nat.strongRecOn generalizing n c with
  | _ left ih =>
    rw [run_fix, run_fix, Cursor.left_shift]
    refine hf _ (fun m d => ?_) n c
    dsimp only
    rw [Cursor.left_shift]
    split_ifs with hlt
    · exact ih _ (hleft ▸ hlt) m d rfl
    · rfl

end Combinators

/-- What is made with the combinators does the same further on if what is given does. -/
theorem BuiltFrom.isUniform {given : Family} {p : Parser α} (hp : BuiltFrom given p)
    (hgiven : ∀ β q, given β q → q.IsUniform) : p.IsUniform := by
  induction hp with
  | given h => exact hgiven _ _ h
  | satisfy test expected => exact isUniform_satisfy test expected
  | string literal => exact stringFrom_shift literal _
  | number => exact isUniform_number
  | succeed value => exact isUniform_succeed value
  | many _ ih => exact (ih hgiven).many
  | many1 _ ih => exact (ih hgiven).many1
  | optional _ ih => exact (ih hgiven).optional
  | peek _ ih => exact (ih hgiven).peek
  | separatedBy _ _ ihp ihq => exact (ihp hgiven).separatedBy (ihq hgiven)
  | choice _ ih => exact isUniform_choice fun p hp => ih p hp hgiven
  | map f _ ih => exact (ih hgiven).map f
  | chain _ _ ihp ihf => exact (ihp hgiven).chain fun value => ihf value hgiven
  | delay _ ih => exact ih hgiven
  | fix _ ih =>
    refine isUniform_fix fun p hp => ih p fun β q hq => ?_
    -- What is given within is given without, or it is the parser itself.
    obtain hq | hq := hq
    · exact hgiven β q hq
    · cases hq
      exact hp

end Parser

/-! ### Places of texts -/

/-- The character of a text just before a byte offset, if the offset is a boundary other than
the start. -/
def charBefore? (text : String) (offset : Nat) : Option Char :=
  (sliceTo? text offset).bind (·.toList.getLast?)

/-- The same text follows at two boundaries, and the same character stands before them or both
are at the start. -/
structure LooksAlike (x : String) (i : Nat) (y : String) (j : Nat) : Prop where
  isBoundary : IsBoundary x i
  isBoundary' : IsBoundary y j
  sliceFrom?_eq : sliceFrom? x i = sliceFrom? y j
  charBefore?_eq : charBefore? x i = charBefore? y j

/-- Counted from two offsets, the outcomes there are the same: the value and the end of a
success, and the cause, the stop and the position of a failure. -/
structure Parser.ActsAlike (p : Parser α) (x : String) (i : Nat) (y : String) (j : Nat) :
    Prop where
  success (value : α) (k : Nat) :
    (p.parse x i).value? = some value ∧ (p.parse x i).stop = i + k ↔
      (p.parse y j).value? = some value ∧ (p.parse y j).stop = j + k
  failure (cause : ParseError.Cause) (a b : Nat) :
    p.parse x i = .failure (i + a) ⟨cause, i + b⟩ ↔ p.parse y j = .failure (j + a) ⟨cause, j + b⟩

theorem Step.shift_eq_success_iff {step : Step α} {value : α} {i k : Nat} :
    (step.shift i).value? = some value ∧ (step.shift i).stop = i + k ↔
      step.value? = some value ∧ step.stop = k := by
  cases step with
  | success v next =>
    refine and_congr_right fun _ => ?_
    change next.offset + i = i + k ↔ next.offset = k
    omega
  | failure stop error => simp [value?]

theorem Step.shift_eq_failure_iff {step : Step α} {cause : ParseError.Cause} {i a b : Nat} :
    step.shift i = .failure (i + a) ⟨cause, i + b⟩ ↔ step = .failure a ⟨cause, b⟩ := by
  cases step with
  | success v next => simp
  | failure stop error =>
    obtain ⟨cause', position⟩ := error
    rw [shift_failure, failure.injEq, failure.injEq, ParseError.mk.injEq, ParseError.mk.injEq,
      Nat.add_comm i, Nat.add_comm i, Nat.add_right_cancel_iff, Nat.add_right_cancel_iff]

/-- What is seen at two places that look alike is the same, further on by the offsets. -/
theorem LooksAlike.exists_shift {x y : String} {i j : Nat} (h : LooksAlike x i y j) :
    ∃ c : Cursor, Cursor.ofOffset x i = c.shift i ∧ Cursor.ofOffset y j = c.shift j := by
  obtain ⟨front, back, rfl, rfl⟩ := isBoundary_iff.mp h.isBoundary
  obtain ⟨front', back', rfl, rfl⟩ := isBoundary_iff.mp h.isBoundary'
  have hback := h.sliceFrom?_eq
  have hbefore := h.charBefore?_eq
  rw [sliceFrom?_append, sliceFrom?_append, Option.some.injEq] at hback
  rw [charBefore?, charBefore?, sliceTo?_append, sliceTo?_append, Option.bind_some,
    Option.bind_some] at hbefore
  -- Both are the place of the same text at the offset 0, shifted.
  refine ⟨⟨front.toList.getLast?, back.toList, 0, 0⟩, ?_, ?_⟩
  · rw [Cursor.ofOffset_append, Cursor.shift, Nat.zero_add]
  · rw [Cursor.ofOffset_append, Cursor.shift, Nat.zero_add, hback, hbefore]

theorem LooksAlike.actsAlike_of_isUniform {x y : String} {i j : Nat} (h : LooksAlike x i y j)
    {p : Parser α} (hp : p.IsUniform) : p.ActsAlike x i y j := by
  obtain ⟨c, hx, hy⟩ := h.exists_shift
  have hx' : p.parse x i = (p.run c).shift i := by rw [Parser.parse, hx, hp]
  have hy' : p.parse y j = (p.run c).shift j := by rw [Parser.parse, hy, hp]
  constructor
  · intro value k
    rw [hx', hy', Step.shift_eq_success_iff, Step.shift_eq_success_iff]
  · intro cause a b
    rw [hx', hy', Step.shift_eq_failure_iff, Step.shift_eq_failure_iff]

/-- At places that look alike, every parser that is made of characters, fixed texts and numbers
with the combinators does the same, and so does every rule of the grammar: it succeeds at both
with one value and an end that is as far on, or fails at both for one cause, and has given up as
far on and blames a place that is as far on. -/
theorem LooksAlike.actsAlike {x y : String} {i j : Nat} (h : LooksAlike x i y j) :
    (∀ (α : Type) (p : Parser α), p.IsBuilt → p.ActsAlike x i y j) ∧
      ∀ r : Grammar.Nonterminal, r.parser.ActsAlike x i y j := by
  have hbuilt : ∀ (α : Type) (p : Parser α), p.IsBuilt → p.ActsAlike x i y j := fun α p hp =>
    h.actsAlike_of_isUniform (Parser.BuiltFrom.isUniform hp fun _ _ hgiven => hgiven.elim)
  exact ⟨hbuilt, fun r => hbuilt _ _ (r.plan.builtFrom Grammar.builtFrom_expression)⟩

/-- A destination is read like a text of its own that begins with a blank. -/
theorem actsAlike_fullPath_of_destination :
    LooksAlike "/é | /:b+" 6 " /:b+" 1 ∧ Grammar.fullPath.IsBuilt ∧
      Grammar.fullPath.ActsAlike "/é | /:b+" 6 " /:b+" 1 ∧
      Grammar.Nonterminal.path.parser.ActsAlike "/é | /:b+" 6 " /:b+" 1 := by
  have hlooks : LooksAlike "/é | /:b+" 6 " /:b+" 1 := by
    have hx : ("/é | /:b+" : String) = "/é | " ++ "/:b+" := rfl
    have hy : (" /:b+" : String) = " " ++ "/:b+" := rfl
    refine ⟨isBoundary_iff.mpr ⟨"/é | ", "/:b+", rfl, rfl⟩,
      isBoundary_iff.mpr ⟨" ", "/:b+", rfl, rfl⟩, ?_, ?_⟩
    · exact (sliceFrom?_append "/é | " "/:b+").trans (sliceFrom?_append " " "/:b+").symm
    · rw [charBefore?, charBefore?, hx, hy]
      exact congrArg (Option.bind · (·.toList.getLast?)) (sliceTo?_append "/é | " "/:b+")
  exact ⟨hlooks, Grammar.builtFrom_fullPath, hlooks.actsAlike.1 _ _ Grammar.builtFrom_fullPath,
    hlooks.actsAlike.2 .path⟩

end Reroute.Parsing
