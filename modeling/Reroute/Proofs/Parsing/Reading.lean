import Mathlib.Data.List.Basic
import Reroute.Parsing.Choice
import Reroute.Parsing.Lexeme

/-!
# What parsers read

A parser that succeeds has read the text between two cursors. For every combinator
this file says exactly which texts those are, so that a grammar can be reasoned about
as a relation between cursors and values, in both directions at once: what a rule of
the grammar reads has a certain shape, and every text of that shape is read.

## Main definitions

* `Cursor.Between` — the text between two places
* `Parser.Reads` — a parser reads a value from one place to another
* `Parser.Repeats` — the longest chain of applications of a parser
* `Accepts`, `Ends` — runs of characters that pass a test, and where they end

## Main results

* `Cursor.between_append` — a text between two places is cut anywhere
* `Parser.reads_bind`, `Parser.reads_choice_cons`, `Parser.reads_many`,
  `Parser.reads_fix` — what sequences, alternatives, repetitions and parsers that refer
  to themselves read
* `Parser.repeats_satisfy` — a repeated character reads the longest run
-/

set_option autoImplicit false

namespace Reroute.Parsing

/-! ### Texts between places -/

namespace Cursor

variable {c d e : Cursor} {x : Char} {s t : List Char}

/-- `text` is what stands between two places. -/
def Between : Cursor → List Char → Cursor → Prop
  | c, [], d => c = d
  | c, x :: text, d => ∃ e, c.next? = some (x, e) ∧ Between e text d

@[simp] theorem between_nil : Between c [] d ↔ c = d := Iff.rfl

theorem between_cons :
    Between c (x :: t) d ↔ ∃ e, c.next? = some (x, e) ∧ Between e t d := Iff.rfl

theorem between_singleton : Between c [x] d ↔ c.next? = some (x, d) := by
  simp [between_cons]

/-- A text between two places is cut anywhere. -/
theorem between_append : Between c (s ++ t) d ↔ ∃ e, Between c s e ∧ Between e t d := by
  induction s generalizing c with
  | nil => simp
  | cons x s ih =>
    simp only [List.cons_append, between_cons, ih]
    constructor
    · rintro ⟨e, he, f, hf, hd⟩
      exact ⟨f, ⟨e, he, hf⟩, hd⟩
    · rintro ⟨f, ⟨e, he, hf⟩, hd⟩
      exact ⟨e, he, f, hf, hd⟩

theorem Between.append (hs : Between c s d) (ht : Between d t e) : Between c (s ++ t) e :=
  between_append.mpr ⟨d, hs, ht⟩

theorem next?_eq_some_iff : c.next? = some (x, d) ↔
    c.rest = x :: d.rest ∧ d.previous = some x ∧ d.offset = c.offset + x.utf8Size ∧
      d.unseen = c.unseen := by
  obtain ⟨previous, rest, offset, unseen⟩ := c
  obtain ⟨previous', rest', offset', unseen'⟩ := d
  cases rest with
  | nil => simp
  | cons y rest =>
    simp only [next?_cons, Option.some.injEq, Prod.mk.injEq, Cursor.mk.injEq, List.cons.injEq]
    constructor
    · rintro ⟨rfl, rfl, rfl, rfl, rfl⟩
      exact ⟨⟨rfl, rfl⟩, rfl, rfl, rfl⟩
    · rintro ⟨⟨rfl, rfl⟩, rfl, rfl, rfl⟩
      exact ⟨rfl, rfl, rfl, rfl, rfl⟩

theorem next?_eq_none_iff : c.next? = none ↔ c.rest = [] := by
  obtain ⟨previous, rest, offset, unseen⟩ := c
  cases rest <;> simp

theorem Between.rest_eq (h : Between c t d) : c.rest = t ++ d.rest := by
  induction t generalizing c with
  | nil => rw [between_nil.mp h, List.nil_append]
  | cons x t ih =>
    obtain ⟨e, he, hd⟩ := h
    rw [(next?_eq_some_iff.mp he).1, ih hd, List.cons_append]

theorem Between.previous_eq (h : Between c t d) : d.previous = t.getLast?.or c.previous := by
  induction t generalizing c with
  | nil => rw [between_nil.mp h]; rfl
  | cons x t ih =>
    obtain ⟨e, he, hd⟩ := h
    rw [ih hd, (next?_eq_some_iff.mp he).2.1]
    -- What comes before matters only if no character is left.
    cases t with
    | nil => rfl
    | cons y t => rw [List.getLast?_cons_cons]; simp [List.getLast?_cons]

theorem Between.previous_ne (h : Between c t d) (hc : c.previous ≠ some x)
    (ht : t.getLast? ≠ some x) : d.previous ≠ some x := by
  rw [h.previous_eq]
  cases hlast : t.getLast? with
  | none => exact hc
  | some y => rwa [hlast] at ht

/-- The place behind a text that is not empty knows the last character of it only. -/
theorem Between.previous_eq_of_ne_nil {c' d' : Cursor} (h : Between c t d)
    (h' : Between c' t d') (ht : t ≠ []) : d'.previous = d.previous := by
  rw [h.previous_eq, h'.previous_eq, List.getLast?_eq_some_getLast ht]
  rfl

/-- What the text goes on with is found at a place of its own. -/
theorem exists_between (h : c.rest = s ++ t) : ∃ d, Between c s d ∧ d.rest = t := by
  induction s generalizing c with
  | nil => exact ⟨c, rfl, h⟩
  | cons x s ih =>
    have hnext : c.next? =
        some (x, ⟨some x, s ++ t, c.offset + x.utf8Size, c.unseen⟩) :=
      next?_eq_some_iff.mpr ⟨h, rfl, rfl, rfl⟩
    obtain ⟨d, hd, hrest⟩ := ih (c := ⟨some x, s ++ t, c.offset + x.utf8Size, c.unseen⟩) rfl
    exact ⟨d, ⟨_, hnext, hd⟩, hrest⟩

theorem Between.length_eq (h : Between c t d) : c.rest.length = t.length + d.rest.length := by
  rw [h.rest_eq, List.length_append]

/-- Something is read exactly when fewer characters are left. -/
theorem Between.length_lt_iff (h : Between c t d) :
    d.rest.length < c.rest.length ↔ t ≠ [] := by
  rw [h.length_eq, ← List.length_pos_iff]
  omega

theorem Between.unseen_eq (h : Between c t d) : d.unseen = c.unseen := by
  induction t generalizing c with
  | nil => rw [between_nil.mp h]
  | cons x t ih =>
    obtain ⟨e, he, hd⟩ := h
    rw [ih hd, (next?_eq_some_iff.mp he).2.2.2]

theorem Between.left_eq (h : Between c t d) :
    c.left = (String.ofList t).utf8ByteSize + d.left := by
  rw [left, left, h.rest_eq, h.unseen_eq, String.ofList_append, String.utf8ByteSize_append,
    Nat.add_assoc]

theorem Between.left_le (h : Between c t d) : d.left ≤ c.left := by
  rw [h.left_eq]
  exact Nat.le_add_left _ _

/-- Something is read exactly when fewer bytes are left. -/
theorem Between.left_lt_iff (h : Between c t d) : d.left < c.left ↔ t ≠ [] := by
  rw [h.left_eq]
  cases t with
  | nil => simp
  | cons x t =>
    have := x.utf8Size_pos
    rw [String.ofList_cons, String.utf8ByteSize_append, String.utf8ByteSize_singleton]
    simp only [ne_eq, reduceCtorEq, not_false_eq_true, iff_true]
    omega

end Cursor

open Cursor

/-! ### Values that parsers read -/

namespace Parser

variable {α β γ : Type} {c d e : Cursor} {v w : α}

/-- The parser reads a value from one place to another. -/
def Reads (p : Parser α) (c : Cursor) (v : α) (d : Cursor) : Prop :=
  p.run c = .success v d

/-- The parser reads nothing at a place. -/
def FailsAt (p : Parser α) (c : Cursor) : Prop :=
  ∀ v d, ¬p.Reads c v d

theorem Reads.unique {p : Parser α} (hv : p.Reads c v d) (hw : p.Reads c w e) :
    v = w ∧ d = e := by
  simpa using hv.symm.trans hw

theorem failsAt_iff {p : Parser α} :
    p.FailsAt c ↔ ∃ stop error, p.run c = .failure stop error := by
  unfold FailsAt Reads
  cases h : p.run c <;> simp

@[simp] theorem reads_pure : (pure v : Parser α).Reads c w d ↔ v = w ∧ c = d := by
  simp [Reads]

theorem reads_bind {p : Parser α} {f : α → Parser β} {w : β} :
    (p >>= f).Reads c w d ↔ ∃ v e, p.Reads c v e ∧ (f v).Reads e w d := by
  unfold Reads
  rw [run_bind]
  cases h : p.run c <;> simp

theorem reads_map {p : Parser α} {f : α → β} {w : β} :
    (p.map f).Reads c w d ↔ ∃ v, p.Reads c v d ∧ f v = w := by
  unfold Reads
  rw [run_map]
  cases h : p.run c with
  | success v next => simp [and_comm]
  | failure stop error => simp

theorem failsAt_map {p : Parser α} {f : α → β} : (p.map f).FailsAt c ↔ p.FailsAt c := by
  constructor
  · exact fun h v d hread => h _ d (reads_map.mpr ⟨v, hread, rfl⟩)
  · intro h w d hread
    obtain ⟨v, hv, -⟩ := reads_map.mp hread
    exact h v d hv

@[simp] theorem reads_atomic {p : Parser α} : p.atomic.Reads c v d ↔ p.Reads c v d := by
  simp [atomic, reads_map]

@[simp] theorem reads_choice_nil : ¬(choice [] : Parser α).Reads c v d := by
  simp [Reads, choice, fail]

/-- The first alternative that reads something counts. -/
theorem reads_choice_cons {p : Parser α} {ps : List (Parser α)} :
    (choice (p :: ps)).Reads c v d ↔ p.Reads c v d ∨ p.FailsAt c ∧ (choice ps).Reads c v d := by
  unfold FailsAt Reads
  rw [choice]
  cases h : p.run c <;> simp [h]

theorem reads_optional {p : Parser α} {v : Option α} :
    (optional p).Reads c v d ↔
      (∃ w, v = some w ∧ p.Reads c w d) ∨ v = none ∧ c = d ∧ p.FailsAt c := by
  unfold FailsAt Reads optional
  dsimp only
  cases h : p.run c with
  | success w next =>
    simp only [Step.success.injEq]
    constructor
    · rintro ⟨rfl, rfl⟩
      exact .inl ⟨w, rfl, rfl, rfl⟩
    · rintro (⟨w, rfl, rfl, rfl⟩ | ⟨-, -, hfail⟩)
      · exact ⟨rfl, rfl⟩
      · exact absurd ⟨rfl, rfl⟩ (hfail w next)
  | failure stop error => simp [eq_comm]

theorem reads_peek {p : Parser α} : (peek p).Reads c v d ↔ c = d ∧ ∃ e, p.Reads c v e := by
  unfold Reads peek
  dsimp only
  cases h : p.run c <;> simp [and_comm]

/-- The parser, which fails where no less than `n` bytes are left. -/
def restrict (p : Parser α) (n : Nat) : Parser α :=
  ⟨fun c => if c.left < n then p.run c else .failure c.offset ⟨.noChoice, c.offset⟩⟩

theorem reads_restrict {p : Parser α} {n : Nat} :
    (p.restrict n).Reads c v d ↔ c.left < n ∧ p.Reads c v d := by
  unfold Reads restrict
  dsimp only
  split_ifs with h <;> simp [h]

/-- A parser that refers to itself reads what it reads with itself further on. -/
theorem reads_fix {f : Parser α → Parser α} :
    (fix f).Reads c v d ↔ (f ((fix f).restrict c.left)).Reads c v d := by
  rw [Reads, run_fix]
  rfl

/-- All of a text is read if nothing is left at the end. -/
theorem parseFull_eq_ok_iff {p : Parser α} {text : String} :
    p.parseFull text = .ok v ↔ ∃ d, p.Reads (start text) v d ∧ d.rest = [] := by
  unfold parseFull Reads
  cases h : p.run (start text) with
  | success w e =>
    dsimp only
    split_ifs with hrest
    · simp [hrest]
    · simpa using fun _ => hrest
  | failure stop error => simp

/-! ### Characters and fixed texts -/

theorem reads_satisfy {test : Char → Option Char → Bool} {label : Option String} {x : Char} :
    (satisfy test label).Reads c x d ↔ Between c [x] d ∧ test x c.previous := by
  rw [between_singleton]
  unfold Reads satisfy
  dsimp only
  cases h : c.next? with
  | none => simp
  | some next =>
    obtain ⟨y, e⟩ := next
    by_cases hy : test y c.previous
    · simp only [hy, if_true, Step.success.injEq, Option.some.injEq, Prod.mk.injEq]
      constructor
      · rintro ⟨rfl, rfl⟩
        exact ⟨⟨rfl, rfl⟩, hy⟩
      · exact fun h => h.1
    · simp only [hy, Bool.false_eq_true, if_false, reduceCtorEq, Option.some.injEq,
        Prod.mk.injEq, false_iff]
      rintro ⟨⟨rfl, -⟩, htest⟩
      exact hy htest

theorem reads_char {x y : Char} : (char x).Reads c y d ↔ y = x ∧ Between c [x] d := by
  simp only [char, reads_satisfy, decide_eq_true_eq]
  constructor
  · rintro ⟨h, rfl⟩
    exact ⟨rfl, h⟩
  · rintro ⟨rfl, h⟩
    exact ⟨h, rfl⟩

theorem stringFrom_eq_success_iff {literal s : String} {chars : List Char} :
    stringFrom literal chars c = .success s d ↔ s = literal ∧ Between c chars d := by
  induction chars generalizing c with
  | nil => simp [stringFrom, eq_comm]
  | cons x chars ih =>
    rw [stringFrom, between_cons]
    cases h : c.next? with
    | none => simp
    | some next =>
      obtain ⟨y, e⟩ := next
      by_cases hy : y = x
      · simp [hy, ih]
      · simp [hy]

theorem reads_string {literal s : String} :
    (string literal).Reads c s d ↔ s = literal ∧ Between c literal.toList d :=
  stringFrom_eq_success_iff

/-! ### Repetition -/

/-- `p` is applied as often as it reads something, with these values. -/
inductive Repeats (p : Parser α) : Cursor → List α → Cursor → Prop where
  | stop {c : Cursor} (h : ∀ v d, p.Reads c v d → ¬d.left < c.left) :
      Repeats p c [] c
  | next {c d e : Cursor} {v : α} {vs : List α} (read : p.Reads c v d)
      (shorter : d.left < c.left) (more : Repeats p d vs e) :
      Repeats p c (v :: vs) e

theorem Repeats.unique {p : Parser α} {vs ws : List α} (hv : Repeats p c vs d)
    (hw : Repeats p c ws e) : vs = ws ∧ d = e := by
  induction hv generalizing ws with
  | stop h =>
    cases hw with
    | stop => exact ⟨rfl, rfl⟩
    | next read shorter _ => exact absurd shorter (h _ _ read)
  | next read shorter _ ih =>
    cases hw with
    | stop h => exact absurd shorter (h _ _ read)
    | next read' _ more =>
      obtain ⟨rfl, rfl⟩ := read.unique read'
      obtain ⟨rfl, rfl⟩ := ih more
      exact ⟨rfl, rfl⟩

/-- What one step gives, if it may rely on an invariant and restores it, every step gives. -/
theorem Repeats.forall_of_invariant {p : Parser α} {I : Cursor → Prop} {P : α → Prop}
    {vs : List α} (h : Repeats p c vs d) (hc : I c)
    (hp : ∀ c v d, I c → p.Reads c v d → d.left < c.left → P v ∧ I d) :
    ∀ v ∈ vs, P v := by
  induction h with
  | stop => simp
  | next read shorter _ ih =>
    obtain ⟨hv, hd⟩ := hp _ _ _ hc read shorter
    exact List.forall_mem_cons.mpr ⟨hv, ih hd⟩

theorem Repeats.forall {p : Parser α} {P : α → Prop} {vs : List α} (h : Repeats p c vs d)
    (hp : ∀ c v d, p.Reads c v d → P v) : ∀ v ∈ vs, P v :=
  h.forall_of_invariant (I := fun _ => True) trivial
    fun c v d _ read _ => ⟨hp c v d read, trivial⟩

/-- What one step and the next one give together holds all along. -/
theorem Repeats.isChain {p : Parser α} {R : α → α → Prop} {vs : List α} (h : Repeats p c vs d)
    (hp : ∀ c v d w e, p.Reads c v d → p.Reads d w e → e.left < d.left → R v w) :
    vs.IsChain R := by
  induction h with
  | stop => exact .nil
  | next read _ more ih =>
    cases more with
    | stop => exact .singleton _
    | next read' shorter' _ => exact .cons_cons (hp _ _ _ _ _ read read' shorter') ih

/-- A repetition goes on as long as something is read. -/
theorem Repeats.not_reads {p : Parser α} {vs : List α} (h : Repeats p c vs d) :
    ∀ v e, p.Reads d v e → ¬e.left < d.left := by
  induction h with
  | stop h => exact h
  | next _ _ _ ih => exact ih

theorem Repeats.eq_nil_or_reads {p : Parser α} {vs : List α} (h : Repeats p c vs d) :
    vs = [] ∧ c = d ∨ ∃ v e, p.Reads c v e := by
  cases h with
  | stop => exact .inl ⟨rfl, rfl⟩
  | next read => exact .inr ⟨_, _, read⟩

/-- Parsers that read the same are repeated alike. -/
theorem Repeats.congr {p q : Parser α} {vs : List α} (h : Repeats p c vs d)
    (hpq : ∀ c v d, p.Reads c v d ↔ q.Reads c v d) : Repeats q c vs d := by
  induction h with
  | stop h => exact .stop fun v e hread => h v e ((hpq _ _ _).mpr hread)
  | next read shorter _ ih => exact .next ((hpq _ _ _).mp read) shorter ih

theorem repeats_manyFrom (p : Parser α) (c : Cursor) :
    Repeats p c (manyFrom p c).1 (manyFrom p c).2 := by
  fun_induction manyFrom p c with
  | case1 c v d hread hlt vs e heq ih =>
    rw [heq] at ih
    exact .next hread hlt ih
  -- The parser reads nothing, or it fails.
  | case2 c v d hread hlt =>
    refine .stop fun w e h => ?_
    obtain ⟨rfl, rfl⟩ := Reads.unique hread h
    exact hlt
  | case3 c stop error hfail =>
    refine .stop fun w e h => ?_
    rw [Reads, hfail] at h
    cases h

theorem manyFrom_eq_iff {p : Parser α} {vs : List α} :
    manyFrom p c = (vs, d) ↔ Repeats p c vs d := by
  constructor
  · intro h
    simpa [h] using repeats_manyFrom p c
  · intro h
    obtain ⟨hvs, hd⟩ := (repeats_manyFrom p c).unique h
    exact Prod.ext hvs hd

theorem reads_many {p : Parser α} {vs : List α} :
    (many p).Reads c vs d ↔ Repeats p c vs d := by
  rw [← manyFrom_eq_iff]
  simp [Reads, many, Prod.ext_iff]

theorem reads_many1 {p : Parser α} {vs : List α} :
    (many1 p).Reads c vs d ↔
      ∃ w ws e, vs = w :: ws ∧ p.Reads c w e ∧ Repeats p e ws d := by
  unfold Reads many1
  dsimp only
  cases h : p.run c with
  | success w next =>
    simp only [Step.success.injEq, ← manyFrom_eq_iff, Prod.ext_iff]
    constructor
    · rintro ⟨rfl, rfl⟩
      exact ⟨w, _, next, rfl, ⟨rfl, rfl⟩, rfl, rfl⟩
    · rintro ⟨w, ws, e, rfl, ⟨rfl, rfl⟩, rfl, rfl⟩
      exact ⟨rfl, rfl⟩
  | failure stop error =>
    by_cases hstop : stop = c.offset <;> simp [hstop]

end Parser

/-! ### Runs of characters -/

section Runs

variable {c d : Cursor} {test : Char → Option Char → Bool} {label : Option String}

/-- Every character of a text passes `test`, which sees the one before it as well. -/
def Accepts (test : Char → Option Char → Bool) : Option Char → List Char → Prop
  | _, [] => True
  | previous, x :: text => test x previous ∧ Accepts test (some x) text

/-- The character at a place, if there is one, does not pass `test`. -/
def Ends (test : Char → Option Char → Bool) (c : Cursor) : Prop :=
  ∀ x, c.rest.head? = some x → test x c.previous = false

@[simp] theorem accepts_nil {previous : Option Char} : Accepts test previous [] := trivial

theorem accepts_cons {previous : Option Char} {x : Char} {text : List Char} :
    Accepts test previous (x :: text) ↔ test x previous ∧ Accepts test (some x) text := Iff.rfl

theorem accepts_append {previous : Option Char} {s t : List Char} :
    Accepts test previous (s ++ t) ↔
      Accepts test previous s ∧ Accepts test (s.getLast?.or previous) t := by
  induction s generalizing previous with
  | nil => simp
  | cons x s ih =>
    rw [List.cons_append, accepts_cons, accepts_cons, ih, and_assoc]
    cases s with
    | nil => simp
    | cons y s => rw [List.getLast?_cons_cons]; simp [List.getLast?_cons]

theorem Accepts.imp {test' : Char → Option Char → Bool} {previous : Option Char}
    {text : List Char} (h : Accepts test previous text)
    (htest : ∀ x p, test x p → test' x p) : Accepts test' previous text := by
  induction text generalizing previous with
  | nil => trivial
  | cons x text ih => exact ⟨htest _ _ h.1, ih h.2⟩

/-- A run ends where a text begins with a character that does not pass. -/
theorem Cursor.Between.ends {x : Char} {text : List Char} (h : Between c (x :: text) d)
    (hx : test x c.previous = false) : Ends test c := by
  intro y hy
  obtain rfl : x = y := by simpa [h.rest_eq] using hy
  exact hx

/-- A test that does not look back is passed by each character alone. -/
theorem accepts_iff_forall {f : Char → Bool} {previous : Option Char} {text : List Char} :
    Accepts (fun x _ => f x) previous text ↔ ∀ x ∈ text, f x := by
  induction text generalizing previous with
  | nil => simp
  | cons x text ih => simp [accepts_cons, ih]

namespace Parser

/-- A repeated character reads the longest run. -/
theorem repeats_satisfy {text : List Char} :
    Repeats (satisfy test label) c text d ↔
      Between c text d ∧ Accepts test c.previous text ∧ Ends test d := by
  constructor
  · intro h
    induction h with
    | @stop c h =>
      -- A character that passes would have been read.
      refine ⟨rfl, trivial, fun x hx => ?_⟩
      obtain ⟨rest, hrest⟩ : ∃ rest, c.rest = x :: rest := by
        cases hc : c.rest with
        | nil => simp [hc] at hx
        | cons y rest =>
          rw [hc, List.head?_cons, Option.some.injEq] at hx
          exact ⟨rest, hx ▸ rfl⟩
      obtain ⟨d, hd, rfl⟩ := exists_between (s := [x]) (t := rest) hrest
      by_contra htest
      refine h x d (reads_satisfy.mpr ⟨hd, by simpa using htest⟩) ?_
      rw [hd.left_lt_iff]
      simp
    | next read _ _ ih =>
      obtain ⟨hx, htest⟩ := reads_satisfy.mp read
      obtain ⟨hbetween, haccepts, hends⟩ := ih
      refine ⟨hx.append hbetween, ⟨htest, ?_⟩, hends⟩
      rwa [hx.previous_eq] at haccepts
  · induction text generalizing c with
    | nil =>
      rintro ⟨rfl, -, hends⟩
      refine .stop fun x d read => ?_
      obtain ⟨hx, htest⟩ := reads_satisfy.mp read
      have := hends x (by rw [hx.rest_eq]; rfl)
      rw [this] at htest
      cases htest
    | cons x text ih =>
      rintro ⟨⟨e, he, hbetween⟩, ⟨htest, haccepts⟩, hends⟩
      have hx : Between c [x] e := between_singleton.mpr he
      refine .next (reads_satisfy.mpr ⟨hx, htest⟩) (hx.left_lt_iff.mpr (by simp)) ?_
      refine ih ⟨hbetween, ?_, hends⟩
      rwa [hx.previous_eq]

theorem reads_many1_satisfy {text : List Char} :
    (many1 (satisfy test label)).Reads c text d ↔
      text ≠ [] ∧ Between c text d ∧ Accepts test c.previous text ∧ Ends test d := by
  rw [reads_many1]
  constructor
  · rintro ⟨x, rest, e, rfl, read, hrest⟩
    obtain ⟨hx, htest⟩ := reads_satisfy.mp read
    have hmany : Repeats (satisfy test label) c (x :: rest) d :=
      .next read (hx.left_lt_iff.mpr (by simp)) hrest
    exact ⟨by simp, repeats_satisfy.mp hmany⟩
  · rintro ⟨hne, h⟩
    obtain ⟨x, rest, rfl⟩ := List.exists_cons_of_ne_nil hne
    cases repeats_satisfy.mpr h with
    | next read _ more => exact ⟨x, rest, _, rfl, read, more⟩

end Parser

end Runs

end Reroute.Parsing
