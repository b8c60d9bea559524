import Reroute.Proofs.Grammar.Construction
import Reroute.Proofs.Parsing.Place

/-!
# Where parsers stop

A parser built with the combinators goes forward only. What it reads ends at a place of the
text that is at or behind the one where it began; when it fails, it gave up at such a place,
and its error is there or still further on. In bytes: the offsets of an outcome are in order,
within the text and between characters, and what is left over is the rest of the text.

## Main definitions

* `Step.IsForward`, `Parser.IsForward` — an outcome at or behind the place of the start
* `Step.IsDecisive`, `Parser.IsAtomic` — an outcome that has moved, or failed without
* `Step.IsWithin` — the offsets of an outcome, in order and within a text

## Main results

* `Parser.BuiltFrom.isForward` — every combinator goes forward only
* `Parser.IsBuilt.parse_isWithin` — the offsets of every outcome, and the text left over
-/

set_option autoImplicit false

namespace Reroute.Parsing

open Cursor

variable {α β γ : Type} {c : Cursor} {text : String} {offset : Nat}

/-! ### Forward outcomes -/

/-- The text goes on at or behind `c`; a failure gave up at or behind `c`, and its error is
at or behind that place. -/
def Step.IsForward (c : Cursor) : Step α → Prop
  | .success _ next => c.LeadsTo next
  | .failure stop error =>
    ∃ d e, c.LeadsTo d ∧ d.LeadsTo e ∧ d.offset = stop ∧ e.offset = error.position

/-- A failure that blames the place where it began. -/
theorem Step.isForward_failure (cause : ParseError.Cause) :
    (Step.failure c.offset ⟨cause, c.offset⟩ : Step α).IsForward c :=
  ⟨c, c, .refl c, .refl c, rfl, rfl⟩

/-- A failure further on is one from here as well. -/
theorem Step.IsForward.of_leadsTo {d : Cursor} {step : Step α} (h : step.IsForward d)
    (hd : c.LeadsTo d) : step.IsForward c := by
  cases step with
  | success value next => exact hd.trans h
  | failure stop error =>
    obtain ⟨e, f, he, hf, hstop, herror⟩ := h
    exact ⟨e, f, hd.trans he, hf, hstop, herror⟩

/-- A failure may be reported where the parser began. -/
theorem Step.IsForward.failure_offset {stop : Nat} {error : ParseError}
    (h : (Step.failure stop error : Step α).IsForward c) :
    (Step.failure c.offset error : Step β).IsForward c := by
  obtain ⟨d, e, hd, he, -, herror⟩ := h
  exact ⟨c, e, .refl c, hd.trans he, rfl, herror⟩

/-- Something was read, or the parser gave up where it began. -/
def Step.IsDecisive (c : Cursor) : Step α → Prop
  | .success _ next => ∃ x t, c.Between (x :: t) next
  | .failure stop _ => stop = c.offset

namespace Parser

/-- A parser that goes forward only. -/
def IsForward (p : Parser α) : Prop :=
  ∀ c, (p.run c).IsForward c

theorem IsForward.leadsTo {p : Parser α} (hp : p.IsForward) {value : α} {d : Cursor}
    (h : p.Reads c value d) : c.LeadsTo d := by
  have hforward := hp c
  rwa [h] at hforward

section Combinators

variable {p : Parser α} {q : Parser β}

theorem isForward_satisfy (test : Char → Option Char → Bool) (expected : Option String) :
    (satisfy test expected).IsForward := by
  intro c
  unfold satisfy
  dsimp only
  cases hnext : c.next? with
  | none => exact Step.isForward_failure _
  | some next =>
    obtain ⟨x, d⟩ := next
    dsimp only
    split_ifs
    · exact leadsTo_of_next? hnext
    · exact Step.isForward_failure _

theorem isForward_stringFrom (literal : String) (chars : List Char) (c : Cursor) :
    (stringFrom literal chars c).IsForward c := by
  induction chars generalizing c with
  | nil => exact .refl c
  | cons x chars ih =>
    rw [stringFrom]
    cases hnext : c.next? with
    | none => exact Step.isForward_failure _
    | some next =>
      obtain ⟨y, d⟩ := next
      dsimp only
      split_ifs
      · exact (ih d).of_leadsTo (leadsTo_of_next? hnext)
      · exact Step.isForward_failure _

theorem isForward_succeed (value : α) : (succeed value).IsForward :=
  LeadsTo.refl

theorem IsForward.chain {f : α → Parser β} (hp : p.IsForward) (hf : ∀ value, (f value).IsForward) :
    (p.chain f).IsForward := by
  intro c
  have h := hp c
  unfold Parser.chain
  dsimp only
  cases hstep : p.run c with
  | success value next =>
    rw [hstep] at h
    exact (hf value next).of_leadsTo h
  | failure stop error =>
    rw [hstep] at h
    exact h

theorem IsForward.map (f : α → β) (hp : p.IsForward) : (p.map f).IsForward := by
  intro c
  have h := hp c
  rw [run_map]
  cases hstep : p.run c with
  | success value next =>
    rw [hstep] at h
    exact h
  | failure stop error =>
    rw [hstep] at h
    exact h.failure_offset

theorem isForward_choice {ps : List (Parser α)} (h : ∀ p ∈ ps, p.IsForward) :
    (choice ps).IsForward := by
  intro c
  induction ps with
  | nil => exact Step.isForward_failure _
  | cons p ps ih =>
    rw [List.forall_mem_cons] at h
    have hp := h.1 c
    rw [choice]
    dsimp only
    cases hstep : p.run c with
    | success value next =>
      rw [hstep] at hp
      exact hp
    | failure stop error => exact ih h.2

theorem IsForward.optional (hp : p.IsForward) : (optional p).IsForward := by
  intro c
  have h := hp c
  unfold Parser.optional
  dsimp only
  cases hstep : p.run c with
  | success value next =>
    rw [hstep] at h
    exact h
  | failure stop error => exact .refl c

theorem IsForward.peek (hp : p.IsForward) : (peek p).IsForward := by
  intro c
  have h := hp c
  unfold Parser.peek
  dsimp only
  cases hstep : p.run c with
  | success value next => exact .refl c
  | failure stop error =>
    rw [hstep] at h
    exact h.failure_offset

/-- Every turn of a repetition goes on from the end of the last. -/
theorem IsForward.leadsTo_manyFrom (hp : p.IsForward) (c : Cursor) :
    c.LeadsTo (manyFrom p c).2 := by
  fun_induction manyFrom p c with
  | case1 c value next hstep hlt values last heq ih =>
    have h := hp c
    rw [hstep] at h
    rw [heq] at ih
    exact h.trans ih
  | case2 c => exact .refl c
  | case3 c => exact .refl c

theorem IsForward.many (hp : p.IsForward) : (many p).IsForward :=
  hp.leadsTo_manyFrom

theorem IsForward.many1 (hp : p.IsForward) : (many1 p).IsForward := by
  intro c
  have h := hp c
  unfold Parser.many1
  dsimp only
  cases hstep : p.run c with
  | success value next =>
    rw [hstep] at h
    exact LeadsTo.trans h (hp.leadsTo_manyFrom next)
  | failure stop error =>
    rw [hstep] at h
    dsimp only
    split_ifs
    · exact Step.isForward_failure _
    · exact h

/-- The end of the last item is never given up again. -/
theorem IsForward.leadsTo_separatedFrom (hp : p.IsForward) (hq : q.IsForward)
    {committed c : Cursor} (hc : committed.LeadsTo c) :
    committed.LeadsTo (separatedFrom p q committed c).2 := by
  fun_induction separatedFrom p q committed c with
  | case1 committed => exact .refl committed
  | case2 committed c value after hp' stop error hq' =>
    have h := hp c
    rw [hp'] at h
    exact hc.trans h
  | case3 committed c value after hp' _ next hq' hlt values last heq ih =>
    have h := hp c
    have h' := hq after
    rw [hp'] at h
    rw [hq'] at h'
    rw [heq] at ih
    exact (hc.trans h).trans (ih h')
  | case4 committed c value after hp' =>
    have h := hp c
    rw [hp'] at h
    exact hc.trans h

theorem IsForward.separatedBy (hp : p.IsForward) (hq : q.IsForward) :
    (separatedBy p q).IsForward :=
  fun c => hp.leadsTo_separatedFrom hq (.refl c)

theorem isForward_number : number.IsForward := by
  intro c
  have h := (isForward_satisfy (fun x _ => x.isDigit) (some "any digit")).many1 c
  unfold number
  dsimp only
  cases hstep : (Parser.many1 digit).run c with
  | success digits next =>
    rw [digit] at hstep
    rw [hstep] at h
    dsimp only
    split_ifs
    · exact h
    · exact Step.isForward_failure _
  | failure stop error =>
    rw [digit] at hstep
    rw [hstep] at h
    exact h

/-- Where no less is left of the text, a restricted parser fails at once. -/
theorem isForward_restrict {n : Nat} (hp : ∀ c, c.left < n → (p.run c).IsForward c) :
    (p.restrict n).IsForward := by
  intro c
  unfold Parser.restrict
  dsimp only
  split_ifs with hlt
  · exact hp c hlt
  · exact Step.isForward_failure _

/-- A parser that refers to itself goes forward if it does so with any parser that does, in
place of itself. -/
theorem isForward_fix {f : Parser α → Parser α} (hf : ∀ p, p.IsForward → (f p).IsForward) :
    (fix f).IsForward := by
  intro c
  -- Where less is left of the text, the parser goes forward already.
  induction hn : c.left using Nat.strongRecOn generalizing c with
  | _ n ih =>
    subst hn
    rw [run_fix]
    exact hf _ (isForward_restrict fun d hlt => ih _ hlt d rfl) c

end Combinators

/-! ### Atomic parsers -/

/-- A parser that fails gives up where it began. -/
def IsAtomic (p : Parser α) : Prop :=
  ∀ c stop error, p.run c = .failure stop error → stop = c.offset

theorem isAtomic_map {p : Parser α} {f : α → β} : (p.map f).IsAtomic := by
  intro c stop error hrun
  rw [run_map] at hrun
  cases h : p.run c with
  | success value next => simp [h] at hrun
  | failure stop' error' =>
    rw [h, Step.failure.injEq] at hrun
    exact hrun.1.symm

/-- When no alternative succeeds, nothing is said about why. -/
theorem run_choice_of_failsAt {ps : List (Parser α)} (h : (choice ps).FailsAt c) :
    (choice ps).run c = .failure c.offset ⟨.noChoice, c.offset⟩ := by
  induction ps with
  | nil => rfl
  | cons p ps ih =>
    rw [choice]
    dsimp only
    cases hrun : p.run c with
    | success value next => exact absurd (reads_choice_cons.mpr (.inl hrun)) (h value next)
    | failure stop error =>
      refine ih fun v d hread => h v d (reads_choice_cons.mpr (.inr ⟨?_, hread⟩))
      exact failsAt_iff.mpr ⟨stop, error, hrun⟩

theorem isAtomic_choice {ps : List (Parser α)} : (choice ps).IsAtomic := by
  intro c stop error hrun
  rw [run_choice_of_failsAt (failsAt_iff.mpr ⟨stop, error, hrun⟩), Step.failure.injEq] at hrun
  exact hrun.1.symm

theorem IsAtomic.many1 {p : Parser α} (hp : p.IsAtomic) : (many1 p).IsAtomic := by
  intro c stop error hrun
  unfold Parser.many1 at hrun
  dsimp only at hrun
  cases h : p.run c with
  | success value next => simp [h] at hrun
  | failure stop' error' =>
    simp only [h, hp c stop' error' h, if_true, Step.failure.injEq] at hrun
    exact hrun.1.symm

/-! ### Parsers made with the combinators -/

/-- What is made with the combinators goes forward if what is given does. -/
theorem BuiltFrom.isForward {given : Family} {p : Parser α}
    (hp : BuiltFrom given p) (hgiven : ∀ β q, given β q → q.IsForward) : p.IsForward := by
  induction hp with
  | given h => exact hgiven _ _ h
  | satisfy test expected => exact isForward_satisfy test expected
  | string literal => exact isForward_stringFrom literal _
  | number => exact isForward_number
  | succeed value => exact isForward_succeed value
  | many _ ih => exact (ih hgiven).many
  | many1 _ ih => exact (ih hgiven).many1
  | optional _ ih => exact (ih hgiven).optional
  | peek _ ih => exact (ih hgiven).peek
  | separatedBy _ _ ihp ihq => exact (ihp hgiven).separatedBy (ihq hgiven)
  | choice _ ih => exact isForward_choice fun p hp => ih p hp hgiven
  | map f _ ih => exact (ih hgiven).map f
  | chain _ _ ihp ihf => exact (ihp hgiven).chain fun value => ihf value hgiven
  | delay _ ih => exact ih hgiven
  | fix _ ih =>
    refine isForward_fix fun p hp => ih p fun β q hq => ?_
    -- What is given within is given without, or it is the parser itself.
    obtain hq | hq := hq
    · exact hgiven β q hq
    · cases hq
      exact hp

theorem IsBuilt.leadsTo {p : Parser α} (hp : p.IsBuilt) {value : α} {d : Cursor}
    (h : p.Reads c value d) : c.LeadsTo d :=
  (BuiltFrom.isForward hp fun _ _ hgiven => hgiven.elim).leadsTo h

end Parser

/-! ### Offsets -/

/-- Reading from the offset `start` ends at boundaries of `text` that are not before it: at
the end of what was read, or where the parser gave up and, not before that, at the error. -/
def Step.IsWithin (text : String) (start : Nat) : Step α → Prop
  | .success _ next =>
    start ≤ next.offset ∧ next.offset ≤ text.utf8ByteSize ∧ IsBoundary text next.offset
  | .failure stop error =>
    start ≤ stop ∧ stop ≤ error.position ∧ error.position ≤ text.utf8ByteSize ∧
      IsBoundary text stop ∧ IsBoundary text error.position

/-- Nothing was read from the offset `start` on, and no other offset is blamed. -/
def Step.StaysAt (start : Nat) : Step α → Prop
  | .success _ next => next.offset = start
  | .failure stop error => stop = start ∧ error.position = start

/-- Forward of a boundary there are boundaries only. -/
theorem Step.IsForward.isWithin {step : Step α} (h : step.IsForward (ofOffset text offset))
    (hoffset : IsBoundary text offset) : step.IsWithin text offset := by
  cases step with
  | success value next =>
    have hboundary := (LeadsTo.eq_ofOffset h).2.1 hoffset
    exact ⟨by simpa using LeadsTo.offset_le h, hboundary.le, hboundary⟩
  | failure stop error =>
    obtain ⟨d, e, hd, he, rfl, herror⟩ := h
    have hstop := hd.eq_ofOffset.2.1 hoffset
    have hposition := (hd.trans he).eq_ofOffset.2.1 hoffset
    rw [herror] at hposition
    exact ⟨by simpa using hd.offset_le, herror ▸ he.offset_le, hposition.le, hstop, hposition⟩

/-- Where there is nothing to see, no parser that goes forward moves. -/
theorem Step.IsForward.staysAt {step : Step α} (h : step.IsForward (ofOffset text offset))
    (hoffset : ¬IsBoundary text offset) : step.StaysAt offset := by
  cases step with
  | success value next => exact (LeadsTo.eq_ofOffset h).2.2 hoffset
  | failure stop error =>
    obtain ⟨d, e, hd, he, rfl, herror⟩ := h
    exact ⟨hd.eq_ofOffset.2.2 hoffset, herror ▸ (hd.trans he).eq_ofOffset.2.2 hoffset⟩

namespace Parser

/-- What is left over is the text behind the place where the parser stopped. -/
theorem IsForward.slices_of_parseWithRemainder {p : Parser α} (hp : p.IsForward) {value : α}
    {rest : String} (h : p.parseWithRemainder text = .ok (value, rest)) :
    ∃ front next, p.parse text 0 = .success value next ∧
      sliceTo? text next.offset = some front ∧ sliceFrom? text next.offset = some rest ∧
        front ++ rest = text := by
  have hforward := hp (start text)
  unfold parseWithRemainder at h
  cases hstep : p.run (start text) with
  | failure stop error => simp [hstep] at h
  | success value' next =>
    rw [hstep] at h hforward
    obtain ⟨rfl, rfl⟩ : value' = value ∧ String.ofList next.rest = rest := by simpa using h
    obtain ⟨t, ht⟩ := hforward
    have htext : text = String.ofList t ++ String.ofList next.rest := by
      apply String.toList_injective
      simpa [start] using ht.rest_eq
    have hoffset : next.offset = (String.ofList t).utf8ByteSize := by
      simpa [start] using ht.offset_eq
    refine ⟨String.ofList t, next, by rw [parse, ofOffset_zero, hstep], ?_, ?_, htext.symm⟩
    · rw [htext, hoffset, sliceTo?_append]
    · rw [htext, hoffset, sliceFrom?_append]

/-- Let a parser be made of characters, fixed texts and numbers with the combinators. From a
boundary of a text, its outcome stays within the text: where it stops, and behind that where
its error is. From any offset whatsoever, it stops at a place of the text, where a character
is read by slices that exist; and it does not move where no slice does. The text that it
leaves over is exactly what it has not read. -/
theorem IsBuilt.parse_isWithin {p : Parser α} (hp : p.IsBuilt) (text : String) :
    (∀ offset, IsBoundary text offset → (p.parse text offset).IsWithin text offset) ∧
      (∀ offset, ¬IsBoundary text offset → (p.parse text offset).StaysAt offset) ∧
      (∀ offset value next, p.parse text offset = .success value next →
        next = ofOffset text next.offset) ∧
      (∀ test expected offset, satisfyAt? test expected text offset =
        some ((satisfy test expected).parse text offset)) ∧
      ∀ value rest, p.parseWithRemainder text = .ok (value, rest) →
        ∃ front next, p.parse text 0 = .success value next ∧
          sliceTo? text next.offset = some front ∧ sliceFrom? text next.offset = some rest ∧
            front ++ rest = text := by
  have hforward : p.IsForward := hp.isForward fun _ _ h => h.elim
  refine ⟨fun offset => (hforward _).isWithin, fun offset => (hforward _).staysAt,
    fun offset value next h => ?_, fun test expected offset => satisfyAt?_eq ..,
    fun value rest => hforward.slices_of_parseWithRemainder⟩
  have hnext := hforward (ofOffset text offset)
  rw [← parse, h] at hnext
  exact (LeadsTo.eq_ofOffset hnext).1

/-- Rules are read from the start of a text with characters of two bytes. -/
theorem isWithin_parse_rule : Grammar.rule.IsBuilt ∧ IsBoundary "/é | /è" 0 ∧
    (Grammar.rule.parse "/é | /è" 0).IsWithin "/é | /è" 0 := by
  have hstart : IsBoundary "/é | /è" 0 := isBoundary_iff.mpr ⟨"", "/é | /è", rfl, rfl⟩
  exact ⟨Grammar.isBuilt_rule, hstart,
    (Grammar.isBuilt_rule.parse_isWithin "/é | /è").1 0 hstart⟩

end Parser

end Reroute.Parsing
