import Reroute.Proofs.Grammar.Lexical
import Reroute.Proofs.Parsing.Execution

/-!
# The turns of a repetition

A repetition applies its item wherever the item ended last, for as long as the item moves. That
is a chain of applications, and there is a longest one, since each of them ends further on in
the text. What holds of the loop holds of the list with separators, which is written as a loop
of its own: behind its first item it goes on like the repetition of a separator with an item
behind it.

Nothing is asked of the item but that it ends at a place of the text that is not before its
start, and not past the end of the text. Every parser that is made with the combinators is of
that kind.

## Main definitions

* `Parser.StaysWithin`, `Parser.MovesWithin` — what is asked of items and of separators
* `Parser.IsChain`, `Parser.IsLongestChain` — applications of a parser, each where the last ended
* `Parser.itemAndMore` — a list with separators as a repetition

## Main results

* `Parser.many_isExact` — a repetition reads the longest chain, and ends
* `Parser.separatedBy_isExact` — the two ways to read a list with separators agree
-/

set_option autoImplicit false

namespace Reroute.Parsing

open Cursor

variable {text : String}

namespace Parser

variable {α β : Type} {p : Parser α} {start : Nat} {value : α} {next : Cursor}
  {turns turns' : List (α × Nat)}

/-! ### Parsers that stay within a text -/

/-- Whatever the parser reads from the text, it ends at a place of the text, neither before its
start nor past the end of the text, unless it does not move from a start beyond that. -/
def StaysWithin (p : Parser α) (text : String) : Prop :=
  ∀ start value next, p.parse text start = .success value next →
    next = ofOffset text next.offset ∧ start ≤ next.offset ∧
      next.offset ≤ max start text.utf8ByteSize

/-- What is made with the combinators stays within every text. -/
theorem IsBuilt.staysWithin (hp : p.IsBuilt) (text : String) : p.StaysWithin text := by
  intro start value next h
  have hnext : (ofOffset text start).LeadsTo next := hp.leadsTo h
  refine ⟨hnext.eq_ofOffset.1, by simpa using hnext.offset_le, ?_⟩
  by_cases hstart : IsBoundary text start
  · exact Nat.le_trans (hnext.eq_ofOffset.2.1 hstart).le (Nat.le_max_right _ _)
  · exact Nat.le_trans (Nat.le_of_eq (hnext.eq_ofOffset.2.2 hstart)) (Nat.le_max_left _ _)

theorem StaysWithin.left_lt_iff (hp : p.StaysWithin text)
    (h : p.parse text start = .success value next) :
    next.left < (ofOffset text start).left ↔ next.offset ≠ start := by
  obtain ⟨hnext, hle, hend⟩ := hp start value next h
  rw [hnext, offset_ofOffset]
  exact left_ofOffset_lt_iff hle hend

theorem StaysWithin.left_le (hp : p.StaysWithin text)
    (h : p.parse text start = .success value next) : next.left ≤ (ofOffset text start).left := by
  obtain ⟨hnext, hle, -⟩ := hp start value next h
  rw [hnext, left_ofOffset, left_ofOffset]
  exact Nat.sub_le_sub_left hle _

/-! ### Chains -/

/-- The parser is applied at an offset of the text and then, turn by turn, wherever it ended
last, and it moves each time. -/
def IsChain (p : Parser α) (text : String) : (start : Nat) → (turns : List (α × Nat)) → Prop
  | _, [] => True
  | start, (value, stop) :: turns =>
    p.parse text start = .success value (ofOffset text stop) ∧ start < stop ∧
      p.IsChain text stop turns

/-- The offset at which the last of some turns ended. -/
def lastStop : (start : Nat) → (turns : List (α × Nat)) → Nat
  | start, [] => start
  | _, (_, stop) :: turns => lastStop stop turns

/-- At an offset of the text the parser fails, or it succeeds without moving. -/
def StaysAt (p : Parser α) (text : String) (start : Nat) : Prop :=
  ∀ value next, p.parse text start = .success value next → next.offset = start

/-- A chain behind whose last turn the parser does not move, so that every other chain is the
beginning of it. -/
structure IsLongestChain (p : Parser α) (text : String) (start : Nat)
    (turns : List (α × Nat)) : Prop where
  isChain : p.IsChain text start turns
  staysAt : p.StaysAt text (lastStop start turns)
  isPrefix : ∀ turns', p.IsChain text start turns' → turns' <+: turns

/-- What a parser does from an offset is determined, so chains differ in their lengths only. -/
theorem IsChain.isPrefix (h : p.IsChain text start turns)
    (hstays : p.StaysAt text (lastStop start turns)) (h' : p.IsChain text start turns') :
    turns' <+: turns := by
  induction turns generalizing start turns' with
  | nil =>
    cases turns' with
    | nil => exact List.prefix_rfl
    | cons turn turns' =>
      -- Another turn would move.
      obtain ⟨hread, hlt, -⟩ := h'
      have := hstays _ _ hread
      rw [offset_ofOffset] at this
      exact absurd this (Nat.ne_of_gt hlt)
  | cons turn turns ih =>
    obtain ⟨hread, -, hmore⟩ := h
    cases turns' with
    | nil => exact List.nil_prefix
    | cons turn' turns' =>
      obtain ⟨hread', -, hmore'⟩ := h'
      obtain ⟨hvalue, hstop⟩ := Reads.unique hread hread'
      have hoffset : turn.2 = turn'.2 := by simpa using congrArg Cursor.offset hstop
      obtain rfl : turn = turn' := Prod.ext hvalue hoffset
      exact List.cons_prefix_cons.mpr ⟨rfl, ih hmore hstays hmore'⟩

theorem IsChain.isLongestChain (h : p.IsChain text start turns)
    (hstays : p.StaysAt text (lastStop start turns)) : p.IsLongestChain text start turns :=
  ⟨h, hstays, fun _ => h.isPrefix hstays⟩

theorem IsLongestChain.unique (h : p.IsLongestChain text start turns)
    (h' : p.IsLongestChain text start turns') : turns = turns' :=
  (h'.isPrefix _ h.isChain).eq_of_length_le (h.isPrefix _ h'.isChain).length_le

/-- A repetition takes the turns of the longest chain. -/
theorem Repeats.exists_isLongestChain (hp : p.StaysWithin text) {values : List α} {last : Cursor}
    (h : Repeats p (ofOffset text start) values last) :
    ∃ turns, p.IsLongestChain text start turns ∧ values = turns.map Prod.fst ∧
      last = ofOffset text (lastStop start turns) := by
  generalize hc : ofOffset text start = c at h
  induction h generalizing start with
  | stop hstop =>
    -- What is read here leaves no less to read, so the parser does not move.
    subst hc
    refine ⟨[], IsChain.isLongestChain trivial fun value next hread => ?_, rfl, rfl⟩
    by_contra hne
    exact hstop value next hread ((hp.left_lt_iff hread).mpr hne)
  | @next c d e value values read shorter _ ih =>
    -- What is read here leaves less to read, so the parser moves on.
    subst hc
    obtain ⟨hd, hle, -⟩ := hp start value d read
    obtain ⟨turns, hturns, rfl, rfl⟩ := ih hd.symm
    have hlt := Nat.lt_of_le_of_ne hle ((hp.left_lt_iff read).mp shorter).symm
    rw [hd] at read
    exact ⟨(value, d.offset) :: turns, IsChain.isLongestChain ⟨read, hlt, hturns.isChain⟩
      hturns.staysAt, rfl, rfl⟩

/-- A loop that goes on as long as the parser moves takes the turns of the longest chain, and
one to find that there is no other. -/
theorem IsChain.manyWithin_eq (h : p.IsChain text start turns)
    (hstays : p.StaysAt text (lastStop start turns)) {n : Nat} (hn : turns.length < n) :
    manyWithin (fun c => some (p.run c)) n (ofOffset text start) =
      some (turns.map Prod.fst, ofOffset text (lastStop start turns)) := by
  induction turns generalizing start n with
  | nil =>
    obtain ⟨n, rfl⟩ := Nat.exists_eq_add_one.mpr hn
    rw [manyWithin]
    cases hrun : p.run (ofOffset text start) with
    | failure stop error => simp [lastStop]
    | success value next => simp [hstays value next hrun, lastStop]
  | cons turn turns ih =>
    obtain ⟨hread, hlt, hmore⟩ := h
    obtain ⟨n, rfl⟩ := Nat.exists_eq_add_one.mpr (Nat.zero_lt_of_lt hn)
    have hrun : p.run (ofOffset text start) = _ := hread
    have hrest := ih hmore hstays (Nat.lt_of_succ_lt_succ hn)
    simp [manyWithin, hrun, Nat.ne_of_gt hlt, hrest, lastStop]

/-- A parser that moves where it begins is repeated once at least. -/
theorem StaysWithin.parse_many1_of_ne (hp : p.StaysWithin text)
    (h : p.parse text start = .success value next) (hmoves : next.offset ≠ start) :
    (many1 p).parse text start = (many p).parse text start := by
  have hmore := repeats_manyFrom p next
  have hmany : (many p).Reads (ofOffset text start) _ _ :=
    reads_many.mpr (.next h ((hp.left_lt_iff h).mpr hmoves) hmore)
  have hmany1 : (many1 p).Reads (ofOffset text start) _ _ :=
    reads_many1.mpr ⟨value, _, next, rfl, h, hmore⟩
  exact hmany1.trans hmany.symm

/-- A parser that succeeds without moving does so once, and is not repeated. -/
theorem StaysWithin.parse_many1_of_eq (hp : p.StaysWithin text)
    (h : p.parse text start = .success value next) (hstays : next.offset = start) :
    (many1 p).parse text start = .success [value] (ofOffset text start) := by
  obtain rfl : next = ofOffset text start := hstays ▸ (hp start value next h).1
  have hstop : Repeats p (ofOffset text start) [] (ofOffset text start) := by
    refine .stop fun v d hread => ?_
    obtain ⟨-, rfl⟩ := Reads.unique h hread
    exact Nat.lt_irrefl _
  exact reads_many1.mpr ⟨value, [], _, rfl, h, hstop⟩

theorem succeeds_many1_iff :
    (∃ values last, (many1 p).parse text start = .success values last) ↔
      ∃ value next, p.parse text start = .success value next := by
  constructor
  · rintro ⟨values, last, h⟩
    obtain ⟨value, -, next, -, hread, -⟩ := reads_many1.mp h
    exact ⟨value, next, hread⟩
  · rintro ⟨value, next, h⟩
    exact ⟨_, _, reads_many1.mpr ⟨value, _, next, rfl, h, repeats_manyFrom p next⟩⟩

theorem parse_many1_of_failure {stop : Nat} {error : ParseError}
    (h : p.parse text start = .failure stop error) :
    (many1 p).parse text start =
      if stop = start then .failure start ⟨.expectedAtLeastOne, start⟩
      else .failure stop error := by
  have hrun : p.run (ofOffset text start) = .failure stop error := h
  simp [parse, many1, hrun]

/-- Let a parser end neither before its start nor past the text. A repetition of it never fails
and reads the values of the longest chain, in order, up to its end: it is the outcome of a loop
that goes on as long as the parser moves, and such a loop ends. That the values are dropped
changes nothing else. A repetition that needs one match succeeds exactly if the parser does. It
is the repetition then where the parser moves, and the value alone where it does not; and where
the parser fails, it fails likewise, with the error that a match was needed if nothing was
read. -/
theorem many_isExact (hp : p.StaysWithin text) (start : Nat) :
    ∃ turns, p.IsLongestChain text start turns ∧
      (∀ n, turns.length < n →
        manyWithin (fun c => some (p.run c)) n (ofOffset text start) =
          some (turns.map Prod.fst, ofOffset text (lastStop start turns))) ∧
      (many p).parse text start =
        .success (turns.map Prod.fst) (ofOffset text (lastStop start turns)) ∧
      (skipMany p).parse text start = .success () (ofOffset text (lastStop start turns)) ∧
      ((∃ values last, (many1 p).parse text start = .success values last) ↔
        ∃ value next, p.parse text start = .success value next) ∧
      (∀ value next, p.parse text start = .success value next →
        (many1 p).parse text start =
          if next.offset = start then .success [value] (ofOffset text start)
          else (many p).parse text start) ∧
      ∀ stop error, p.parse text start = .failure stop error →
        (many1 p).parse text start =
          if stop = start then .failure start ⟨.expectedAtLeastOne, start⟩
          else .failure stop error := by
  obtain ⟨turns, hturns, hvalues, hlast⟩ :=
    (repeats_manyFrom p (ofOffset text start)).exists_isLongestChain hp
  have hmany : (many p).parse text start =
      .success (turns.map Prod.fst) (ofOffset text (lastStop start turns)) := by
    rw [← hvalues, ← hlast]
    rfl
  refine ⟨turns, hturns, fun n => hturns.isChain.manyWithin_eq hturns.staysAt, hmany, ?_, ?_, ?_,
    fun stop error => parse_many1_of_failure⟩
  · have hrun : (many p).run (ofOffset text start) = _ := hmany
    simp [parse, skipMany, skip, chain, hrun, succeed]
  · exact succeeds_many1_iff
  · intro value next h
    split_ifs with hstop
    · exact hp.parse_many1_of_eq h hstop
    · exact hp.parse_many1_of_ne h hstop

/-- An item that succeeds everywhere moves in its first turn only. -/
theorem many_isExact_of_nested :
    (many (char 'é')).StaysWithin "ééa" ∧
      (many (char 'é')).IsLongestChain "ééa" 0 [(['é', 'é'], 4)] ∧
      (many (many (char 'é'))).parse "ééa" 0 = .success [['é', 'é']] (ofOffset "ééa" 4) ∧
      (many1 (many (char 'é'))).parse "ééa" 4 = .success [[]] (ofOffset "ééa" 4) := by
  have hstays : (many (char 'é')).StaysWithin "ééa" :=
    IsBuilt.staysWithin (.many (.char 'é')) _
  have hfirst : (many (char 'é')).parse "ééa" 0 =
      .success ['é', 'é'] (ofOffset "ééa" 4) := by decide +kernel
  have hlast : (many (char 'é')).parse "ééa" 4 = .success [] (ofOffset "ééa" 4) := by decide +kernel
  have hlongest : (many (char 'é')).IsLongestChain "ééa" 0 [(['é', 'é'], 4)] := by
    refine IsChain.isLongestChain ⟨hfirst, by decide, trivial⟩ fun value next hread => ?_
    obtain ⟨-, rfl⟩ := Reads.unique hlast hread
    simp [lastStop]
  obtain ⟨turns, hturns, -, hmany, -⟩ := many_isExact hstays 0
  obtain rfl := hturns.unique hlongest
  obtain ⟨-, -, -, -, -, -, hmany1, -⟩ := many_isExact hstays 4
  exact ⟨hstays, hlongest, hmany, by simpa using hmany1 _ _ hlast⟩

/-! ### Items with separators -/

variable {item : Parser α} {separator : Parser β}

/-- One parser behind another stays within the text if both do. -/
theorem StaysWithin.bind {f : α → Parser β} (hp : p.StaysWithin text)
    (hf : ∀ value, (f value).StaysWithin text) : (p >>= f).StaysWithin text := by
  intro start w last h
  obtain ⟨value, next, hfirst, hmore⟩ := reads_bind.mp h
  obtain ⟨hnext, hle, hend⟩ := hp start value next hfirst
  rw [hnext] at hmore
  obtain ⟨hlast, hle', hend'⟩ := hf value _ w last hmore
  exact ⟨hlast, Nat.le_trans hle hle',
    Nat.le_trans hend' (Nat.max_le.mpr ⟨hend, Nat.le_max_right _ _⟩)⟩

/-- An item and then, as often as possible, a separator with an item behind it as one unit. -/
def itemAndMore (item : Parser α) (separator : Parser β) : Parser (List α) := do
  let first ← item
  let more ← many (atomic do
    let _ ← separator
    item)
  return first :: more

/-- The last value of a chain was read up to its end. -/
theorem IsChain.exists_parse_of_getLast? (h : p.IsChain text start turns)
    (hlast : (turns.map Prod.fst).getLast? = some value) :
    ∃ offset, p.parse text offset = .success value (ofOffset text (lastStop start turns)) := by
  induction turns generalizing start with
  | nil => simp at hlast
  | cons turn turns ih =>
    obtain ⟨hread, -, hmore⟩ := h
    cases turns with
    | nil =>
      obtain rfl : turn.1 = value := by simpa using hlast
      exact ⟨start, hread⟩
    | cons turn' turns => exact ih hmore (by simpa using hlast)

/-- On success the parser ends at another offset of the text than that of its start. -/
def MovesWithin (p : Parser α) (text : String) : Prop :=
  ∀ start value next, p.parse text start = .success value next → next.offset ≠ start

theorem Consumes.movesWithin (h : p.Consumes) (hp : p.StaysWithin text) : p.MovesWithin text :=
  fun _ value next hread => (hp.left_lt_iff hread).mp (h _ value next hread)

/-- A loop over the items of a list takes as many turns as there are items, and one more where
an item is missing. -/
theorem StaysWithin.separatedWithin_eq (hitem : item.StaysWithin text)
    (hseparator : separator.StaysWithin text) (hmoves : separator.MovesWithin text) {n : Nat}
    (committed : Cursor)
    (hn : (separatedFrom item separator committed (ofOffset text start)).1.length < n) :
    separatedWithin (fun c => some (item.run c)) (fun c => some (separator.run c)) n committed
        (ofOffset text start) =
      some (separatedFrom item separator committed (ofOffset text start)) := by
  induction n generalizing start committed with
  | zero => omega
  | succ n ih =>
    -- Both loops take a turn; where they go on, less of the text is left and the offset is another.
    rw [separatedFrom] at hn ⊢
    rw [separatedWithin]
    cases hrun : item.run (ofOffset text start) with
    | failure stop error => simp
    | success value after =>
      cases hrun' : separator.run after with
      | failure stop error => simp [hrun']
      | success w next =>
        have hafter := (hitem start value after hrun).1
        have hread : separator.parse text after.offset = .success w next := by
          rw [parse, ← hafter, hrun']
        have hnext := (hseparator after.offset w next hread).1
        have hne := hmoves after.offset w next hread
        have hless : next.left < after.left := by
          have := (hseparator.left_lt_iff hread).mpr hne
          rwa [← hafter] at this
        have hless' := Nat.lt_of_lt_of_le hless (hitem.left_le hrun)
        simp only [hrun, hrun', hless, hless', and_self, if_true, List.length_cons] at hn ⊢
        have hmore := @ih next.offset after (by rw [← hnext]; exact Nat.lt_of_succ_lt_succ hn)
        rw [← hnext] at hmore
        simp [hrun', hne, hmore]

/-- Behind its first item a list with separators goes on like a repetition. -/
theorem StaysWithin.separatedFrom_eq (hitem : item.StaysWithin text)
    (hseparator : separator.StaysWithin text) (hmoves : separator.MovesWithin text)
    (h : item.parse text start = .success value next) (committed : Cursor) :
    separatedFrom item separator committed (ofOffset text start) =
      (value :: (manyFrom (behindSeparator item separator) next).1,
        (manyFrom (behindSeparator item separator) next).2) := by
  refine separatedFrom_of_reads (I := fun c => c = ofOffset text c.offset) (fun c v d hc read => ?_)
    (fun c w d hc read => ?_) (by simp) h committed
  · rw [hc] at read ⊢
    exact ⟨(hitem _ v d read).1, hitem.left_le read⟩
  · rw [hc] at read ⊢
    have hd := hseparator _ w d read
    exact ⟨hd.1, (hseparator.left_lt_iff read).mpr (hmoves _ w d read)⟩

/-- An item that is read is the first of a list. Behind it, a separator with an item behind it
reads the same whether it is one unit or not. -/
theorem parse_itemAndMore (h : item.parse text start = .success value next) :
    (itemAndMore item separator).parse text start =
      .success (value :: (manyFrom (behindSeparator item separator) next).1)
        (manyFrom (behindSeparator item separator) next).2 := by
  have hmore : (many (atomic (behindSeparator item separator))).Reads next _ _ :=
    reads_many.mpr ((repeats_manyFrom (behindSeparator item separator) next).congr
      fun c v d => reads_atomic.symm)
  exact reads_bind.mpr
    ⟨value, next, h, reads_bind.mpr ⟨_, _, hmore, reads_pure.mpr ⟨rfl, rfl⟩⟩⟩

/-- A list with separators ends where its last item does. -/
theorem StaysWithin.exists_parse_of_getLast? (hitem : item.StaysWithin text)
    (hseparator : separator.StaysWithin text) (hmoves : separator.MovesWithin text)
    {committed : Cursor}
    (hlast : (separatedFrom item separator committed (ofOffset text start)).1.getLast? =
      some value) :
    ∃ offset, item.parse text offset =
      .success value (separatedFrom item separator committed (ofOffset text start)).2 := by
  cases h : item.parse text start with
  | failure stop error =>
    rw [separatedFrom_of_failsAt (failsAt_iff.mpr ⟨stop, error, h⟩)] at hlast
    simp at hlast
  | success first next =>
    -- Behind the first item the list is a chain, and each of its turns ends with an item.
    rw [hitem.separatedFrom_eq hseparator hmoves h] at hlast ⊢
    have hnext := (hitem start first next h).1
    have hmore := repeats_manyFrom (behindSeparator item separator) next
    rw [hnext] at hmore
    obtain ⟨turns, hturns, hvalues, hend⟩ :=
      hmore.exists_isLongestChain (hseparator.bind fun _ => hitem)
    rw [← hnext] at hvalues hend
    rw [hvalues] at hlast
    rw [hend]
    cases turns with
    | nil =>
      obtain rfl : first = value := by simpa using hlast
      rw [lastStop, ← hnext]
      exact ⟨start, h⟩
    | cons turn turns =>
      obtain ⟨offset, hread⟩ := hturns.isChain.exists_parse_of_getLast? (by simpa using hlast)
      obtain ⟨w, d, hsep, hitem'⟩ := reads_bind.mp hread
      rw [(hseparator offset w d hsep).1] at hitem'
      exact ⟨d.offset, hitem'⟩

/-- Let the parser of the items and that of the separators end neither before their start nor past
the text, and let the separators never be empty. A list with separators never fails, and it is
the outcome of a loop that ends. It is empty, and ends at its start, where no item is read
there; else it is one item and then, as often as possible, a separator with an item behind it,
the same values up to the same end. So it ends where its last item does. -/
theorem separatedBy_isExact (hitem : item.StaysWithin text)
    (hseparator : separator.StaysWithin text) (hmoves : separator.MovesWithin text)
    (start : Nat) :
    ∃ values last, (separatedBy item separator).parse text start = .success values last ∧
      (∀ n, values.length < n →
        separatedWithin (fun c => some (item.run c)) (fun c => some (separator.run c)) n
          (ofOffset text start) (ofOffset text start) = some (values, last)) ∧
      (∀ stop error, item.parse text start = .failure stop error →
        values = [] ∧ last = ofOffset text start) ∧
      (∀ first next, item.parse text start = .success first next →
        (itemAndMore item separator).parse text start = .success values last) ∧
      ∀ value, values.getLast? = some value →
        ∃ offset, item.parse text offset = .success value last := by
  refine ⟨_, _, rfl, fun n => hitem.separatedWithin_eq hseparator hmoves _, ?_, ?_, fun value =>
    hitem.exists_parse_of_getLast? hseparator hmoves⟩
  · intro stop error h
    rw [separatedFrom_of_failsAt (failsAt_iff.mpr ⟨stop, error, h⟩)]
    exact ⟨rfl, rfl⟩
  · intro first next h
    rw [hitem.separatedFrom_eq hseparator hmoves h, parse_itemAndMore h]

end Parser

end Reroute.Parsing

namespace Reroute.Grammar

open Parsing Parsing.Parser Parsing.Cursor

/-- The expressions of a stage stand behind its bar, one and then more of them behind commas. -/
theorem stage_eq : stage = atomic (do
    let _ ← spaces
    let _ ← char '|'
    let _ ← spaces
    itemAndMore fullExpression comma) := rfl

/-- A comma that no expression follows is left over. -/
theorem separatedBy_isExact_of_trailing_comma :
    fullExpression.StaysWithin "é:a <- 1 , 2 ," ∧ comma.StaysWithin "é:a <- 1 , 2 ," ∧
      comma.MovesWithin "é:a <- 1 , 2 ," ∧
      (itemAndMore fullExpression comma).parse "é:a <- 1 , 2 ," 2 =
        .success [.assign "a" (.literal (.number 1)), .literal (.number 2)]
          (ofOffset "é:a <- 1 , 2 ," 13) ∧
      ∃ offset, fullExpression.parse "é:a <- 1 , 2 ," offset =
        .success (.literal (.number 2)) (ofOffset "é:a <- 1 , 2 ," 13) := by
  have hitem : fullExpression.IsBuilt := fullExpressionPlan.builtFrom builtFrom_expression
  have hcomma : comma.IsBuilt := commaPlan.builtFrom builtFrom_expression
  have hmoves : comma.MovesWithin "é:a <- 1 , 2 ," :=
    consumes_comma.movesWithin (hcomma.staysWithin _)
  have hfirst : fullExpression.parse "é:a <- 1 , 2 ," 2 =
      .success (.assign "a" (.literal (.number 1))) (ofOffset "é:a <- 1 , 2 ," 9) := by
    decide +kernel
  have hlist : (separatedBy fullExpression comma).parse "é:a <- 1 , 2 ," 2 =
      .success [.assign "a" (.literal (.number 1)), .literal (.number 2)]
        (ofOffset "é:a <- 1 , 2 ," 13) := by
    decide +kernel
  obtain ⟨values, last, hparse, -, -, hmore, hlast⟩ :=
    separatedBy_isExact (hitem.staysWithin _) (hcomma.staysWithin _) hmoves 2
  obtain ⟨rfl, rfl⟩ := Step.success.inj (hparse.symm.trans hlist)
  exact ⟨hitem.staysWithin _, hcomma.staysWithin _, hmoves, hmore _ _ hfirst, hlast _ rfl⟩

end Reroute.Grammar
