import Mathlib.Data.List.Basic
import Reroute.Proofs.Parsing.Lexeme
import Reroute.Proofs.Parsing.Position
import Reroute.Proofs.Parsing.Separation

/-!
# Executing plans

The parsers of the library always come to an end, because they are made to: a repetition goes
on only while less and less is left of the text, and where that is not so a parser that refers to
itself fails. Here a plan is executed without such precautions. A repetition goes on as long
as its item ends at another place, a reference is followed wherever it stands, and what takes
more turns than a given number has no outcome at all.

Two properties of plans are read off their form. A productive plan reads something whenever it
succeeds, and in a guarded plan something is read before any reference is followed. Guarded
plans have an outcome, which is that of the parser: the precautions are never needed.

## Main definitions

* `Parser.Execution` — executions, which may have no outcome
* `Parser.manyWithin`, `Parser.separatedWithin` — repetition with a bounded number of turns
* `Parser.Plan.execute` — the execution of a plan
* `Parser.Plan.RefersTo` — the places where an execution cannot do without a reference
* `Parser.Plan.IsProductive`, `Parser.Plan.IsGuarded` — the two properties

## Main results

* `Parser.Plan.IsProductive.consumes` — what a productive plan reads is never empty
* `Parser.Plan.execute_eq` — an execution has the outcome of the parser
* `Parser.Plan.IsGuarded.lt_of_refersTo` — guarded plans refer to places further on only
-/

set_option autoImplicit false

namespace Reroute.Parsing.Parser

open Cursor

variable {α β σ : Type} {c d : Cursor} {n : Nat}

/-! ### Executions -/

/-- The execution of a parser; it may have no outcome. -/
abbrev Execution (α : Type) :=
  Cursor → Option (Step α)

/-- Repeat `item` until it fails or ends where it began, in at most `n` turns. -/
def manyWithin (item : Execution α) : (n : Nat) → Cursor → Option (List α × Cursor)
  | 0, _ => none
  | n + 1, c => do
    match ← item c with
    | .success value next =>
      if next.offset = c.offset then return ([], c)
      let (values, last) ← manyWithin item n next
      return (value :: values, last)
    | .failure _ _ => return ([], c)

/-- Execute `item` once, and then repeat it in at most `n` turns. -/
def many1Within (item : Execution α) (n : Nat) : Execution (List α) := fun c => do
  match ← item c with
  | .success first next =>
    let (more, last) ← manyWithin item n next
    return .success (first :: more) last
  | .failure stop error =>
    if stop = c.offset then return .failure c.offset ⟨.expectedAtLeastOne, c.offset⟩
    return .failure stop error

/-- The items from `c` on in at most `n` turns, where `committed` is the end of the item
before the separator that led to `c`. -/
def separatedWithin (item : Execution α) (separator : Execution β) :
    (n : Nat) → (committed c : Cursor) → Option (List α × Cursor)
  | 0, _, _ => none
  | n + 1, committed, c => do
    match ← item c with
    | .failure _ _ => return ([], committed)
    | .success value after =>
      match ← separator after with
      | .failure _ _ => return ([value], after)
      | .success _ next =>
        if next.offset = after.offset then return ([value], after)
        let (values, last) ← separatedWithin item separator n after next
        return (value :: values, last)

/-- The execution `e` has the outcome of `p` wherever `c` leads to. -/
def Execution.Follows (e : Execution α) (p : Parser α) (c : Cursor) : Prop :=
  ∀ d, c.LeadsTo d → e d = some (p.run d)

theorem Execution.Follows.of_leadsTo {e : Execution α} {p : Parser α} (h : e.Follows p c)
    (hd : c.LeadsTo d) : e.Follows p d :=
  fun f hf => h f (hd.trans hf)

section Repetition

variable {item : Execution α} {separator : Execution β} {p : Parser α} {q : Parser β}

/-- A repetition takes no more turns than there are characters left to read, and one to
find that it is over. -/
theorem manyWithin_eq (hp : p.IsForward) (h : item.Follows p c) (hn : c.rest.length < n) :
    manyWithin item n c = some (manyFrom p c) := by
  induction n generalizing c with
  | zero => omega
  | succ n ih =>
    have hforward := hp c
    rw [manyWithin, manyFrom, h c (.refl c)]
    cases hrun : p.run c with
    | failure stop error => rfl
    | success value next =>
      rw [hrun] at hforward
      have hnext : c.LeadsTo next := hforward
      by_cases hstays : next.offset = c.offset
      · simp [hstays, hnext.left_lt_iff]
      · have hless := hnext.left_lt_iff.mpr hstays
        have hfewer := hnext.length_lt_iff.mpr hstays
        simp [hstays, hless, ih (h.of_leadsTo hnext) (by omega)]

theorem many1Within_eq (hp : p.IsForward) (h : item.Follows p c) (hn : c.rest.length < n) :
    many1Within item n c = some ((many1 p).run c) := by
  have hforward := hp c
  unfold many1Within many1
  rw [h c (.refl c)]
  cases hrun : p.run c with
  | failure stop error => by_cases hstop : stop = c.offset <;> simp [hrun, hstop]
  | success value next =>
    rw [hrun] at hforward
    have hnext : c.LeadsTo next := hforward
    have hmore := manyWithin_eq hp (h.of_leadsTo hnext) (Nat.lt_of_le_of_lt hnext.length_le hn)
    simp [hrun, hmore]

theorem separatedWithin_eq (hp : p.IsForward) (hq : q.IsForward) (hitem : item.Follows p c)
    (hseparator : separator.Follows q c) (hn : c.rest.length < n) (committed : Cursor) :
    separatedWithin item separator n committed c = some (separatedFrom p q committed c) := by
  induction n generalizing c committed with
  | zero => omega
  | succ n ih =>
    have hforward := hp c
    rw [separatedWithin, separatedFrom, hitem c (.refl c)]
    cases hrun : p.run c with
    | failure stop error => rfl
    | success value after =>
      rw [hrun] at hforward
      have hafter : c.LeadsTo after := hforward
      have hforward' := hq after
      cases hrun' : q.run after with
      | failure stop error => simp [hseparator after hafter, hrun']
      | success u next =>
        rw [hrun'] at hforward'
        have hnext : after.LeadsTo next := hforward'
        by_cases hstays : next.offset = after.offset
        · simp [hseparator after hafter, hrun', hstays, hnext.left_lt_iff]
        · have hless := hnext.left_lt_iff.mpr hstays
          -- The item did not end before it began, so less is left than there as well.
          have hless' := Nat.lt_of_lt_of_le hless hafter.left_le
          have hfewer := Nat.lt_of_lt_of_le (hnext.length_lt_iff.mpr hstays) hafter.length_le
          have hmore := ih (hitem.of_leadsTo (hafter.trans hnext))
            (hseparator.of_leadsTo (hafter.trans hnext)) (by omega) after
          simp [hseparator after hafter, hrun', hstays, hless, hless', hmore]

end Repetition

namespace Plan

variable {self : Parser σ} {p : Parser α} {use : Execution σ}

/-- Execute a plan. References are answered by `use`, and no repetition takes more than `n`
turns. -/
def execute {σ : Type} {self : Parser σ} (use : Execution σ) (n : Nat) :
    {α : Type} → {p : Parser α} → Plan self p → Execution α
  | _, _, .reference, c => use c
  | _, _, .satisfy test expected, c => some ((Parsing.satisfy test expected).run c)
  | _, _, .string literal, c => some ((Parsing.string literal).run c)
  | _, _, .number, c => do
    match ← many1Within (fun d => some (digit.run d)) n c with
    | .success digits next =>
      if Nat.ofDigitChars 10 digits 0 ≤ Int64.maxValue.toInt then
        return .success (Int64.ofNat (Nat.ofDigitChars 10 digits 0)) next
      return .failure c.offset ⟨.numberOutOfRange, c.offset⟩
    | .failure stop error => return .failure stop error
  | _, _, .succeed value, c => some (.success value c)
  | _, _, .many item, c => do
    let (values, last) ← manyWithin (item.execute use n) n c
    return .success values last
  | _, _, .many1 item, c => many1Within (item.execute use n) n c
  | _, _, .optional plan, c => do
    match ← plan.execute use n c with
    | .success value next => return .success (some value) next
    | .failure _ _ => return .success none c
  | _, _, .peek plan, c => do
    match ← plan.execute use n c with
    | .success value _ => return .success value c
    | .failure _ error => return .failure c.offset error
  | _, _, .separatedBy item separator, c => do
    let (values, last) ← separatedWithin (item.execute use n) (separator.execute use n) n c c
    return .success values last
  | _, _, .noChoice, c => some (.failure c.offset ⟨.noChoice, c.offset⟩)
  | _, _, .orElse first others, c => do
    match ← first.execute use n c with
    | .success value next => return .success value next
    | .failure _ _ => others.execute use n c
  | _, _, .map f plan, c => do
    match ← plan.execute use n c with
    | .success value next => return .success (f value) next
    | .failure _ error => return .failure c.offset error
  | _, _, .chain first next, c => do
    match ← first.execute use n c with
    | .success value d => (next value).execute use n d
    | .failure stop error => return .failure stop error

/-! ### Productive plans -/

/-- The form of a plan shows that what it reads is never empty, if what `self` reads is not. -/
def IsProductive {σ : Type} {self : Parser σ} :
    {α : Type} → {p : Parser α} → Plan self p → Prop
  | _, _, .reference | _, _, .satisfy _ _ | _, _, .number | _, _, .noChoice => True
  | _, _, .string literal => literal ≠ ""
  | _, _, .succeed _ | _, _, .many _ | _, _, .optional _ | _, _, .peek _
  | _, _, .separatedBy _ _ => False
  | _, _, .many1 plan | _, _, .map _ plan => plan.IsProductive
  | _, _, .orElse first others => first.IsProductive ∧ others.IsProductive
  | _, _, .chain first next => first.IsProductive ∨ ∀ value, (next value).IsProductive

/-- A parser goes forward if what its plan refers to does. -/
theorem isForward (plan : Plan self p) (hself : self.IsForward) : p.IsForward := by
  have hbuilt : BuiltFrom (fun β q => Sigma.mk β q = ⟨σ, self⟩) p := plan.builtFrom (.given rfl)
  refine hbuilt.isForward fun β q hq => ?_
  cases hq
  exact hself

theorem IsProductive.consumes {plan : Plan self p} (h : plan.IsProductive)
    (hself : self.IsForward) (hconsumes : self.Consumes) : p.Consumes := by
  -- What a repetition or a sequence reads first is shorter than all that it reads.
  induction plan with
  | reference => exact hconsumes
  | satisfy test expected =>
    intro c x d hread
    exact (reads_satisfy.mp hread).1.left_lt_iff.mpr (by simp)
  | string literal =>
    intro c s d hread
    exact (reads_string.mp hread).2.left_lt_iff.mpr (by simpa [IsProductive] using h)
  | number =>
    intro c k d hread
    obtain ⟨text, hne, hbetween, -⟩ := reads_number.mp hread
    exact hbetween.left_lt_iff.mpr hne
  | noChoice => exact fun c v d hread => absurd hread reads_choice_nil
  | many1 item ih =>
    intro c vs d hread
    obtain ⟨v, ws, e, -, hfirst, hmore⟩ := reads_many1.mp hread
    have hle := ((item.isForward hself).many.leadsTo (reads_many.mpr hmore)).left_le
    exact Nat.lt_of_le_of_lt hle (ih h c v e hfirst)
  | map f plan ih =>
    intro c v d hread
    obtain ⟨w, hread, -⟩ := reads_map.mp hread
    exact ih h c w d hread
  | orElse first others ihfirst ihothers =>
    intro c v d hread
    rcases reads_choice_cons.mp hread with hread | ⟨-, hread⟩
    · exact ihfirst h.1 c v d hread
    · exact ihothers h.2 c v d hread
  | chain first next ihfirst ihnext =>
    intro c v d (hread : Reads (_ >>= _) c v d)
    obtain ⟨w, e, hfirst, hnext⟩ := reads_bind.mp hread
    have hlefirst := ((first.isForward hself).leadsTo hfirst).left_le
    have hlenext := (((next w).isForward hself).leadsTo hnext).left_le
    rcases h with h | h
    · exact Nat.lt_of_le_of_lt hlenext (ihfirst h c w e hfirst)
    · exact Nat.lt_of_lt_of_le (ihnext w (h w) e v d hnext) hlefirst
  | succeed | many | optional | peek | separatedBy => exact h.elim

/-! ### Guarded plans -/

/-- The form of a plan shows that something is read before any reference is followed. -/
def IsGuarded {σ : Type} {self : Parser σ} : {α : Type} → {p : Parser α} → Plan self p → Prop
  | _, _, .reference => False
  | _, _, .satisfy _ _ | _, _, .string _ | _, _, .number | _, _, .succeed _
  | _, _, .noChoice => True
  | _, _, .many plan | _, _, .many1 plan | _, _, .optional plan | _, _, .peek plan
  | _, _, .map _ plan => plan.IsGuarded
  | _, _, .separatedBy first others | _, _, .orElse first others =>
    first.IsGuarded ∧ others.IsGuarded
  | _, _, .chain first next =>
    first.IsGuarded ∧ (first.IsProductive ∨ ∀ value, (next value).IsGuarded)

/-- References have the outcome of `self` wherever the plan may have to follow one: from `c`
on, and at `c` itself if the plan is not guarded. -/
def IsSupplied (plan : Plan self p) (use : Execution σ) (c : Cursor) : Prop :=
  ∀ d, c.LeadsTo d → (plan.IsGuarded → c.offset < d.offset) → use d = some (self.run d)

theorem IsSupplied.of_leadsTo {plan : Plan self p} {q : Parser β} {part : Plan self q}
    (h : plan.IsSupplied use c) (hd : c.LeadsTo d)
    (hpart : plan.IsGuarded → part.IsGuarded ∨ c.offset < d.offset) : part.IsSupplied use d := by
  intro e he hguarded
  refine h e (hd.trans he) fun hplan => ?_
  rcases hpart hplan with hpart | hlt
  · exact Nat.lt_of_le_of_lt hd.offset_le (hguarded hpart)
  · exact Nat.lt_of_lt_of_le hlt he.offset_le

/-- The execution of a part of a plan follows its parser if it does so wherever the references
of the part are supplied. -/
theorem IsSupplied.follows {plan : Plan self p} {q : Parser β} (h : plan.IsSupplied use c)
    (part : Plan self q) (hpart : plan.IsGuarded → part.IsGuarded) (hn : c.rest.length < n)
    (hexecute : ∀ {d}, d.rest.length < n → part.IsSupplied use d →
      part.execute use n d = some (q.run d)) :
    (part.execute use n).Follows q c :=
  fun _ hd => hexecute (Nat.lt_of_le_of_lt hd.length_le hn)
    (h.of_leadsTo hd fun hguarded => .inl (hpart hguarded))

theorem execute_number (hn : c.rest.length < n) :
    (number : Plan self Parsing.number).execute use n c = some (Parsing.number.run c) := by
  have hdigits : many1Within (fun d => some (digit.run d)) n c =
      some ((Parser.many1 digit).run c) :=
    many1Within_eq (isForward_satisfy _ _) (fun _ _ => rfl) hn
  rw [execute, hdigits, Parsing.number]
  cases hrun : (Parser.many1 digit).run c with
  | success digits next =>
    by_cases hle : Nat.ofDigitChars 10 digits 0 ≤ Int64.maxValue.toInt <;> simp [hrun, hle]
  | failure stop error => simp [hrun]

/-- In any number of turns that exceeds that of the characters left to read, an execution has
the outcome of the parser. -/
theorem execute_eq (plan : Plan self p) (hself : self.IsForward) (hconsumes : self.Consumes)
    (hn : c.rest.length < n) (h : plan.IsSupplied use c) :
    plan.execute use n c = some (p.run c) := by
  -- The induction is on the plan, for all places from which its references are supplied.
  induction plan generalizing c with
  | reference => exact h c (.refl c) fun hguarded => hguarded.elim
  | satisfy test expected => rfl
  | string literal => rfl
  | number => exact execute_number hn
  | succeed value => rfl
  | noChoice => rfl
  | many item ih =>
    rw [execute, manyWithin_eq (item.isForward hself) (h.follows item id hn ih) hn]
    rfl
  | many1 item ih =>
    rw [execute, many1Within_eq (item.isForward hself) (h.follows item id hn ih) hn]
  | separatedBy item separator ihitem ihseparator =>
    rw [execute, separatedWithin_eq (item.isForward hself) (separator.isForward hself)
      (h.follows item And.left hn ihitem) (h.follows separator And.right hn ihseparator) hn]
    rfl
  | @optional _ p plan ih =>
    rw [execute, h.follows plan id hn ih c (.refl c), Parser.optional]
    cases hrun : p.run c <;> simp [hrun]
  | @peek _ p plan ih =>
    rw [execute, h.follows plan id hn ih c (.refl c), Parser.peek]
    cases hrun : p.run c <;> simp [hrun]
  | @map _ _ p f plan ih =>
    rw [execute, h.follows plan id hn ih c (.refl c), run_map]
    cases hrun : p.run c <;> rfl
  | @orElse _ p ps first others ihfirst ihothers =>
    rw [execute, h.follows first And.left hn ihfirst c (.refl c),
      h.follows others And.right hn ihothers c (.refl c), choice]
    cases hrun : p.run c <;> simp [hrun]
  | @chain _ _ p f first next ihfirst ihnext =>
    rw [execute, h.follows first And.left hn ihfirst c (.refl c), Parser.chain]
    cases hrun : p.run c with
    | failure stop error => simp [hrun]
    | success value d =>
      have hd : c.LeadsTo d := (first.isForward hself).leadsTo hrun
      refine (ihnext value (Nat.lt_of_le_of_lt hd.length_le hn)
        (h.of_leadsTo hd fun hguarded => ?_)).trans (by simp [hrun])
      -- Behind a productive first part references are followed further on in any case.
      rcases hguarded.2 with hproductive | hnext
      · exact .inr (hd.offset_lt (hproductive.consumes hself hconsumes c value d hrun))
      · exact .inl (hnext value)

/-- An execution refers to a place if it has no outcome when references have none there. -/
def RefersTo (plan : Plan self p) (use : Execution σ) (n : Nat) (c d : Cursor) : Prop :=
  plan.execute (fun e => if e = d then none else use e) n c = none

instance (plan : Plan self p) (use : Execution σ) (n : Nat) (c d : Cursor) :
    Decidable (plan.RefersTo use n c d) :=
  decidable_of_iff
    (plan.execute (fun e => if e = d then none else use e) n c).isNone Option.isNone_iff_eq_none

/-- A guarded plan refers to places further on only. -/
theorem IsGuarded.lt_of_refersTo {plan : Plan self p} (hguarded : plan.IsGuarded)
    (hself : self.IsForward) (hconsumes : self.Consumes) (hn : c.rest.length < n)
    (huse : plan.IsSupplied use c) (h : plan.RefersTo use n c d) :
    c.LeadsTo d ∧ c.offset < d.offset := by
  by_contra hd
  have hsupplied : plan.IsSupplied (fun e => if e = d then none else use e) c := by
    intro e he hlt
    have hne : e ≠ d := by
      rintro rfl
      exact hd ⟨he, hlt hguarded⟩
    simp only [hne, if_false]
    exact huse e he hlt
  rw [RefersTo, plan.execute_eq hself hconsumes hn hsupplied] at h
  cases h

end Plan

end Reroute.Parsing.Parser
