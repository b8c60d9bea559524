import Mathlib.Data.List.Basic
import Reroute.Grammar.Rule
import Reroute.Proofs.Grammar.Path

/-!
# Reading rules again

The print of a rule is read as the rule, and so is every text in which the pipeline is
distributed over stages in another way.

## Main definitions

* `Rule.printStages` — a rule with its pipeline distributed over stages

## Main results

* `Grammar.parseRule_printStages_of_parseRule` — stages have no meaning
* `Grammar.parseRule_print_of_parseRule` — what was read is read again from its print
* `Grammar.parseRule_joined_of_parseRule` — and from its parts with signs between them
-/

set_option autoImplicit false

namespace Reroute

open Parsing Cursor Expression

variable {c d : Cursor}

/-- Stages and the destination, with a bar before each. -/
def Path.printBehind (destination : Path) : List (List Expression) → String
  | [] => " | " ++ destination.print
  | es :: stages => " | " ++ printArgs es ++ destination.printBehind stages

/-- A rule in its own syntax, with the expressions of its pipeline in these stages. -/
def Rule.printStages (r : Rule) (stages : List (List Expression)) : String :=
  r.source.print ++ r.destination.printBehind stages

/-- A rule is printed with a single stage, or none if the pipeline is empty. -/
theorem Rule.print_eq_printStages (r : Rule) :
    r.print = r.printStages (if r.pipeline.isEmpty then [] else [r.pipeline]) := by
  unfold print printStages
  split_ifs with h <;> simp [Path.printBehind, String.append_assoc]

/-- The parts of a rule are printed with bars between them. -/
theorem Rule.printStages_eq_intercalate (r : Rule) (stages : List (List Expression)) :
    r.printStages stages =
      " | ".intercalate (r.source.print :: stages.map printArgs ++ [r.destination.print]) := by
  suffices hbars : ∀ part : String, part ++ r.destination.printBehind stages =
      " | ".intercalate (part :: stages.map printArgs ++ [r.destination.print]) from hbars _
  induction stages with
  | nil => simp [Path.printBehind, String.append_assoc]
  | cons es stages ih =>
    intro part
    rw [List.map_cons, List.cons_append, List.cons_append, String.intercalate_cons_cons,
      ← List.cons_append, ← ih, Path.printBehind]
    simp only [String.append_assoc]

namespace Grammar

/-! ### Parentheses in the pipeline -/

theorem neverCloses_print_of_spelled {e : Expression} {t : List Char} {previous : Option Char}
    (he : e.IsWellFormed) (ht : e.Spelled t) (h : Accepts (isInside ')') previous t) :
    NeverCloses e.print.toList := by
  refine ht.neverCloses he (spelled_print he) (neverCloses_of_accepts h ?_)
  obtain ⟨x, u, rfl, hx⟩ := ht.exists_cons he
  rintro ⟨⟩
  exact absurd hx (by decide)

theorem neverCloses_print_of_spelledMore {es : List Expression} {t : List Char}
    {previous : Option Char} (hes : ∀ e ∈ es, e.IsWellFormed) (ht : SpelledMore es t)
    (h : Accepts (isInside ')') previous t) : ∀ e ∈ es, NeverCloses e.print.toList := by
  induction es generalizing t previous with
  | nil => simp
  | cons e es ih =>
    obtain ⟨w₁, w₂, u, v, -, -, hu, hv, rfl⟩ := ht
    obtain ⟨he, hes⟩ := List.forall_mem_cons.mp hes
    obtain ⟨h, hmore⟩ := accepts_append.mp h
    exact List.forall_mem_cons.mpr
      ⟨neverCloses_print_of_spelled he hu (accepts_append.mp h).2, ih hes hv hmore⟩

theorem neverCloses_printArgs {es : List Expression}
    (h : ∀ e ∈ es, NeverCloses e.print.toList) : NeverCloses (printArgs es).toList := by
  induction es with
  | nil => trivial
  | cons e es ih =>
    obtain ⟨he, hes⟩ := List.forall_mem_cons.mp h
    cases es with
    | nil => exact he
    | cons f es =>
      rw [printArgs_cons_cons, String.toList_append, String.toList_append]
      exact (he.append (neverCloses_of_not_mem (t := ", ".toList) (by decide))).append (ih hes)

theorem neverCloses_printBehind {destination : Path} {stages : List (List Expression)}
    (hdestination : NeverCloses destination.print.toList)
    (h : ∀ e ∈ stages.flatten, NeverCloses e.print.toList) :
    NeverCloses (destination.printBehind stages).toList := by
  have hbar : NeverCloses " | ".toList := neverCloses_of_not_mem (by decide)
  induction stages with
  | nil =>
    rw [Path.printBehind, String.toList_append]
    exact hbar.append hdestination
  | cons es stages ih =>
    obtain ⟨hes, hstages⟩ := List.forall_mem_append.mp (List.flatten_cons ▸ h)
    rw [Path.printBehind, String.toList_append, String.toList_append]
    exact (hbar.append (neverCloses_printArgs hes)).append (ih hstages)

/-! ### Stages -/

theorem reads_stage {es : List Expression} :
    stage.Reads c es d ↔ ∃ f e g rest, es = e :: rest ∧ (spaced '|').Reads c () f ∧
      fullExpression.Reads f e g ∧
      Parser.Repeats (Parser.behindSeparator fullExpression comma) g rest d := by
  have hspaced {g : Cursor} {u : Unit} : (spaced '|').Reads c u g ↔ ∃ s e, spaces.Reads c s e ∧
      ∃ x f, (char '|').Reads e x f ∧ ∃ t, spaces.Reads f t g := by
    simp only [spaced, Parser.reads_bind, Parser.reads_pure]
    simp
  -- That a stage is given back as a whole makes no difference to what is read.
  have hmore {g h : Cursor} {rest : List Expression} :
      Parser.Repeats (Parser.atomic do comma; fullExpression) g rest h ↔
        Parser.Repeats (Parser.behindSeparator fullExpression comma) g rest h :=
    ⟨fun h => h.congr fun _ _ _ => Parser.reads_atomic,
      fun h => h.congr fun _ _ _ => Parser.reads_atomic.symm⟩
  simp only [stage, Parser.reads_atomic, Parser.reads_bind, Parser.reads_pure,
    Parser.reads_many, hmore, hspaced]
  constructor
  · rintro ⟨s, c₁, hs, x, c₂, hx, t, c₃, ht, e, c₄, he, rest, c₅, hrest, rfl, rfl⟩
    exact ⟨c₃, e, c₄, rest, rfl, ⟨s, c₁, hs, x, c₂, hx, t, ht⟩, he, hrest⟩
  · rintro ⟨c₃, e, c₄, rest, rfl, ⟨s, c₁, hs, x, c₂, hx, t, ht⟩, he, hrest⟩
    exact ⟨s, c₁, hs, x, c₂, hx, t, c₃, ht, e, c₄, he, rest, d, hrest, rfl, rfl⟩

/-- No stage is read where no expression begins behind the bar. -/
theorem failsAt_stage_of_head? {x : Char} (hbar : (spaced '|').Reads c () d)
    (hhead : d.rest.head? = some x) (hx : isFirst x = false) : stage.FailsAt c := by
  intro es e hread
  obtain ⟨f, v, g, rest, -, hbar', hv, -⟩ := reads_stage.mp hread
  obtain ⟨-, rfl⟩ := hbar.unique hbar'
  exact (understands_fullExpression (d.left + 1)).failsAt_of_head? (Nat.lt_succ_self _)
    hhead hx v g hv

theorem reads_emptyStage {es : List Expression} :
    emptyStage.Reads c es d ↔
      es = [] ∧ (spaced '|').Reads c () d ∧ d.rest.head? = some '|' := by
  have hpeek : (∃ e, (char '|').Reads d '|' e) ↔ d.rest.head? = some '|' := by
    simp only [Parser.reads_char, true_and]
    constructor
    · rintro ⟨e, he⟩
      rw [he.rest_eq]
      rfl
    · intro h
      obtain ⟨rest, hrest⟩ := List.head?_eq_some_iff.mp h
      obtain ⟨e, he, -⟩ := exists_between (s := ['|']) hrest
      exact ⟨e, he⟩
  rw [← hpeek]
  simp only [emptyStage, spaced, Parser.reads_atomic, Parser.reads_bind, Parser.reads_pure,
    Parser.reads_peek]
  constructor
  · rintro ⟨s, c₁, hs, x, c₂, hx, t, c₃, ht, y, c₄, ⟨rfl, e, hy⟩, rfl, rfl⟩
    obtain rfl : y = '|' := (Parser.reads_char.mp hy).1
    exact ⟨rfl, ⟨s, c₁, hs, x, c₂, hx, t, _, ht, trivial, rfl⟩, e, hy⟩
  · rintro ⟨rfl, ⟨s, c₁, hs, x, c₂, hx, t, c₃, ht, -, rfl⟩, e, hy⟩
    exact ⟨s, c₁, hs, x, c₂, hx, t, _, ht, '|', _, ⟨rfl, e, hy⟩, rfl, rfl⟩

/-- A stage with expressions or without. -/
abbrev anyStage : Parser (List Expression) :=
  Parser.choice [stage, emptyStage]

theorem reads_anyStage {es : List Expression} :
    anyStage.Reads c es d ↔ stage.Reads c es d ∨ stage.FailsAt c ∧ emptyStage.Reads c es d := by
  simp only [anyStage, Parser.reads_choice_cons, Parser.reads_choice_nil, and_false, or_false]

/-- Every stage begins with a bar. -/
theorem consumes_anyStage : anyStage.Consumes := by
  intro c es d hread
  rcases reads_anyStage.mp hread with hread | ⟨-, hread⟩
  · obtain ⟨f, e, g, rest, -, hbar, he, hrest⟩ := reads_stage.mp hread
    obtain ⟨-, t, -, hte⟩ := spelled_of_reads_fullExpression he
    obtain ⟨-, u, -, hue⟩ :=
      (understands_fullExpression (g.left + 1)).spelledMore_of_repeats (Nat.lt_succ_self _) hrest
    exact Nat.lt_of_le_of_lt (hte.append hue).left_le (consumes_spaced rfl c () f hbar)
  · exact consumes_spaced rfl c () d (reads_emptyStage.mp hread).2.1

/-- A sign in white space closes nothing. -/
theorem StaysOpen.spaced {sign : Char} (hsign : isWhitespace sign = false) (h : StaysOpen c)
    (hread : (Grammar.spaced sign).Reads c () d) : StaysOpen d := by
  obtain ⟨w₁, w₂, -, -, hbetween, -⟩ := (reads_spaced hsign).mp hread
  exact h.right hbetween

/-- The expressions of a stage are well formed, and their print closes no parenthesis if
nothing from the stage on does. -/
theorem isWellFormed_of_reads_anyStage {es : List Expression} (h : anyStage.Reads c es d) :
    (∀ e ∈ es, e.IsWellFormed) ∧
      (StaysOpen c → StaysOpen d ∧ ∀ e ∈ es, NeverCloses e.print.toList) := by
  rcases reads_anyStage.mp h with h | ⟨-, h⟩
  · obtain ⟨f, e, g, rest, rfl, hbar, he, hrest⟩ := reads_stage.mp h
    obtain ⟨hwell, t, ht, hte⟩ := spelled_of_reads_fullExpression he
    obtain ⟨hwells, u, hu, hue⟩ :=
      (understands_fullExpression (g.left + 1)).spelledMore_of_repeats (Nat.lt_succ_self _)
        hrest
    refine ⟨List.forall_mem_cons.mpr ⟨hwell, hwells⟩, fun hopen => ?_⟩
    have hf : StaysOpen f := hopen.spaced rfl hbar
    have hg : StaysOpen g := hf.right hte
    refine ⟨hg.right hue, List.forall_mem_cons.mpr ⟨?_, ?_⟩⟩
    · rw [StaysOpen, hte.rest_eq, accepts_append] at hf
      exact neverCloses_print_of_spelled hwell ht hf.1
    · rw [StaysOpen, hue.rest_eq, accepts_append] at hg
      exact neverCloses_print_of_spelledMore hwells hu hg.1
  · obtain ⟨rfl, hbar, -⟩ := reads_emptyStage.mp h
    exact ⟨by simp, fun hopen => ⟨hopen.spaced rfl hbar, by simp⟩⟩

theorem isWellFormed_of_repeats_anyStage {stages : List (List Expression)}
    (h : Parser.Repeats anyStage c stages d) :
    (∀ e ∈ stages.flatten, e.IsWellFormed) ∧
      (StaysOpen c → StaysOpen d ∧ ∀ e ∈ stages.flatten, NeverCloses e.print.toList) := by
  induction h with
  | stop => exact ⟨by simp, fun hopen => ⟨hopen, by simp⟩⟩
  | next read _ _ ih =>
    obtain ⟨hwell, hstage⟩ := isWellFormed_of_reads_anyStage read
    rw [List.flatten_cons]
    refine ⟨List.forall_mem_append.mpr ⟨hwell, ih.1⟩, fun hopen => ?_⟩
    obtain ⟨he, hes⟩ := hstage hopen
    obtain ⟨hd, hmore⟩ := ih.2 he
    exact ⟨hd, List.forall_mem_append.mpr ⟨hes, hmore⟩⟩

/-! ### Reading the stages again -/

/-- What stands behind the blank before the next bar. -/
def barred (destination : Path) : List (List Expression) → List Char
  | [] => "| ".toList ++ destination.print.toList
  | es :: stages =>
    "| ".toList ++ (printArgs es).toList ++ (destination.printBehind stages).toList

theorem toList_printBehind (destination : Path) (stages : List (List Expression)) :
    (destination.printBehind stages).toList = ' ' :: barred destination stages := by
  cases stages <;> simp [Path.printBehind, barred]

theorem exists_cons_barred (destination : Path) (stages : List (List Expression)) :
    ∃ t, barred destination stages = '|' :: t := by
  cases stages <;> exact ⟨_, rfl⟩

/-- Before the destination there is no stage. -/
theorem failsAt_anyStage_of_head? (hbar : (spaced '|').Reads c () d)
    (hhead : d.rest.head? = some '/') : anyStage.FailsAt c := by
  intro es e hread
  rcases reads_anyStage.mp hread with hread | ⟨-, hread⟩
  · exact failsAt_stage_of_head? hbar hhead rfl es e hread
  · obtain ⟨-, hbar', hhead'⟩ := reads_emptyStage.mp hread
    obtain ⟨-, rfl⟩ := hbar.unique hbar'
    simp [hhead] at hhead'

/-- A stage is read from its print. -/
theorem exists_reads_stage {e : Expression} {es : List Expression} {w t : List Char}
    (hes : ∀ f ∈ e :: es, f.IsWellFormed) (hw : IsBlank w)
    (hc : c.rest = w ++ "| ".toList ++ (printArgs (e :: es)).toList ++ ' ' :: '|' :: t) :
    ∃ d, stage.Reads c (e :: es) d ∧ d.rest = ' ' :: '|' :: t := by
  obtain ⟨u, v, hu, hv, heq⟩ := spelledArgs_printArgs fun f hf => spelled_print (hes f hf)
  obtain ⟨he, hes⟩ := List.forall_mem_cons.mp hes
  obtain ⟨x, u', hx, hfirst⟩ := hu.exists_cons he
  have hrest : c.rest = w ++ ['|'] ++ [' '] ++ (u ++ v ++ ' ' :: '|' :: t) := by simp [hc, heq]
  obtain ⟨f, hbar, hf⟩ := exists_reads_spaced rfl hw isBlank_blank hrest (by
    intro y hy
    obtain rfl : x = y := by simpa [hx] using hy
    exact isWhitespace_eq_false_of_isFirst hfirst)
  obtain ⟨d, hbetween, hd⟩ := exists_between (c := f) hf
  obtain ⟨g, hug, hvd⟩ := between_append.mp hbetween
  have hstops : StopsAt '|' d := ⟨[' '], t, isBlank_blank, hd⟩
  have hunderstands := understands_fullExpression (f.left + 1)
  have hread := hunderstands.complete (Nat.lt_succ_self _) he hu hug
    (isSeparated_of_spelledMore hv hvd ⟨'|', by simp, hstops⟩)
  have hg := hug.left_eq
  have hrest := hunderstands.repeats_of_spelledMore (by omega) hes hv hvd (by simp) hstops
  exact ⟨d, reads_stage.mpr ⟨f, e, g, es, rfl, hbar, hread, hrest⟩, hd⟩

/-- Between two bars there is an empty stage. -/
theorem exists_reads_emptyStage {w t : List Char} (hw : IsBlank w)
    (hc : c.rest = w ++ "| ".toList ++ ' ' :: '|' :: t) :
    ∃ d, anyStage.Reads c [] d ∧ d.rest = '|' :: t := by
  have hrest : c.rest = w ++ ['|'] ++ [' ', ' '] ++ '|' :: t := by simp [hc]
  obtain ⟨d, hbar, hd⟩ := exists_reads_spaced rfl hw (by decide) hrest (by simp [isWhitespace])
  have hhead : d.rest.head? = some '|' := by rw [hd]; rfl
  exact ⟨d, reads_anyStage.mpr (.inr ⟨failsAt_stage_of_head? hbar hhead rfl,
    reads_emptyStage.mpr ⟨rfl, hbar, hhead⟩⟩), hd⟩

/-- All stages are read from their print, up to the bar before the destination. -/
theorem exists_repeats_anyStage {destination : Path} {stages : List (List Expression)}
    {w t : List Char} (hdestination : destination.print.toList = '/' :: t)
    (hstages : ∀ e ∈ stages.flatten, e.IsWellFormed) (hw : IsBlank w)
    (hc : c.rest = w ++ barred destination stages) :
    ∃ d w', Parser.Repeats anyStage c stages d ∧ IsBlank w' ∧
      d.rest = w' ++ barred destination [] := by
  -- The blank before a bar is read either with the stage before it or with the bar.
  induction stages generalizing c w with
  | nil =>
    have hrest : c.rest = w ++ ['|'] ++ [' '] ++ '/' :: t := by simp [hc, barred, hdestination]
    obtain ⟨d, hbar, hd⟩ := exists_reads_spaced rfl hw isBlank_blank hrest (by simp [isWhitespace])
    have hfails : anyStage.FailsAt c := failsAt_anyStage_of_head? hbar (by rw [hd]; rfl)
    exact ⟨c, w, .stop fun es e hread => absurd hread (hfails es e), hw, hc⟩
  | cons es stages ih =>
    obtain ⟨hes, hstages⟩ := List.forall_mem_append.mp (List.flatten_cons ▸ hstages)
    obtain ⟨u, hu⟩ := exists_cons_barred destination stages
    rw [barred, toList_printBehind, hu] at hc
    -- Only an empty stage reads the blank before the next bar.
    obtain ⟨d, w', hread, hw', hd⟩ : ∃ d w', anyStage.Reads c es d ∧ IsBlank w' ∧
        d.rest = w' ++ '|' :: u := by
      cases es with
      | nil =>
        obtain ⟨d, hread, hd⟩ := exists_reads_emptyStage (c := c) (t := u) hw
          (by simpa [printArgs] using hc)
        exact ⟨d, [], hread, isBlank_nil, hd⟩
      | cons e es =>
        obtain ⟨d, hread, hd⟩ := exists_reads_stage (c := c) (t := u) hes hw (by simp [hc])
        exact ⟨d, [' '], reads_anyStage.mpr (.inl hread), isBlank_blank, hd⟩
    obtain ⟨e, w'', hmore, hw'', he⟩ := ih hstages hw' (by rw [hd, hu])
    exact ⟨e, w'', .next hread (consumes_anyStage c es d hread) hmore, hw'', he⟩

/-! ### Rules -/

theorem reads_rule {r : Rule} :
    rule.Reads c r d ↔ ∃ w c₁ c₂ stages c₃ c₄ c₅ w', r.pipeline = stages.flatten ∧
      spaces.Reads c w c₁ ∧ fullPath.Reads c₁ r.source c₂ ∧
      Parser.Repeats anyStage c₂ stages c₃ ∧ (spaced '|').Reads c₃ () c₄ ∧
      fullPath.Reads c₄ r.destination c₅ ∧ spaces.Reads c₅ w' d := by
  simp only [rule, spaced, Parser.reads_atomic, Parser.reads_bind, Parser.reads_pure,
    Parser.reads_many]
  constructor
  · rintro ⟨w, c₁, hw, source, c₂, hsource, stages, c₃, hstages, s, c₄, hs, x, c₅, hx, t, c₆, ht,
      destination, c₇, hdestination, w', c₈, hw', rfl, rfl⟩
    exact ⟨w, c₁, c₂, stages, c₃, c₆, c₇, w', rfl, hw, hsource, hstages,
      ⟨s, c₄, hs, x, c₅, hx, t, c₆, ht, trivial, rfl⟩, hdestination, hw'⟩
  · rintro ⟨w, c₁, c₂, stages, c₃, c₆, c₇, w', hpipeline, hw, hsource, hstages,
      ⟨s, c₄, hs, x, c₅, hx, t, _, ht, -, rfl⟩, hdestination, hw'⟩
    refine ⟨w, c₁, hw, r.source, c₂, hsource, stages, c₃, hstages, s, c₄, hs, x, c₅, hx, t, _, ht,
      r.destination, c₇, hdestination, w', d, hw', ?_, rfl⟩
    rw [← hpipeline]

/-- The steps of a rule that was read are expressions of the grammar. -/
theorem produces_of_parseRule {text : String} {r : Rule} (h : parseRule text = .ok r) :
    ∀ e ∈ r.pipeline, Produces e := by
  obtain ⟨d, hread, -⟩ := Parser.parseFull_eq_ok_iff.mp h
  obtain ⟨w, c₁, c₂, stages, c₃, c₄, c₅, w', hpipeline, -, -, hstages, -⟩ := reads_rule.mp hread
  intro e he
  exact produces_iff_isWellFormed.mpr
    ((isWellFormed_of_repeats_anyStage hstages).1 e (hpipeline ▸ he))

/-- No white space is read where there is none. -/
theorem reads_spaces_of_endsBlank (h : EndsBlank c) : spaces.Reads c "" c :=
  reads_spaces.mpr ⟨rfl, by simp [IsBlank], h⟩

/-- The source of a rule is read again from its print, with other stages behind it. -/
theorem reads_source_of_reads {p q : Path} {stages stages' : List (List Expression)}
    {c₁ c₂ c₃ c₄ : Cursor} (hsource : fullPath.Reads c p c₁)
    (hstages : Parser.Repeats anyStage c₁ stages c₂) (hbar : (spaced '|').Reads c₂ () c₃)
    (hdestination : fullPath.Reads c₃ q c₄) (hsame : stages'.flatten = stages.flatten)
    {c' d' : Cursor} (hc' : Between c' p.print.toList d')
    (hd' : d'.rest = ' ' :: barred q stages') : fullPath.Reads c' p d' := by
  have hstops : StopsAt '|' d' := by
    obtain ⟨u, hu⟩ := exists_cons_barred q stages'
    exact ⟨[' '], u, isBlank_blank, by rw [hd', hu]; rfl⟩
  refine reads_fullPath_of_reads hsource hc' (fun x hx => ?_)
    (failsAt_spacedQuery_of hstops rfl (by decide)) fun hopen => ?_
  · rw [hd'] at hx
    exact (Option.some.inj hx).symm
  · -- Where nothing was closed behind the source, its print and that of the rest close nothing.
    obtain ⟨hopen, hpipeline⟩ := (isWellFormed_of_repeats_anyStage hstages).2 hopen
    have hclosed := (neverCloses_print_of_reads_fullPath hdestination (hopen.spaced rfl hbar)).2
    rw [hd', ← toList_printBehind]
    exact neverCloses_printBehind hclosed (hsame ▸ hpipeline)

/-- The destination of a rule is read again from its print, with nothing behind it. -/
theorem exists_reads_destination {p : Path} (h : fullPath.Reads c p d) {c' : Cursor}
    (hc' : c'.rest = p.print.toList) : ∃ d', fullPath.Reads c' p d' ∧ d'.rest = [] := by
  obtain ⟨d', hbetween, hd'⟩ := exists_between (t := []) (hc'.trans (List.append_nil _).symm)
  refine ⟨d', reads_fullPath_of_reads h hbetween (fun x hx => ?_)
    (failsAt_spacedQuery_of_isBlank (by simp [hd', isBlank_nil])) fun _ => ?_, hd'⟩
  · simp [hd'] at hx
  · rw [hd']
    trivial

/-- How the expressions of a rule are distributed over stages has no meaning. -/
theorem parseRule_printStages_of_parseRule {text : String} {r : Rule}
    (h : parseRule text = .ok r) {stages : List (List Expression)}
    (hstages : stages.flatten = r.pipeline) : parseRule (r.printStages stages) = .ok r := by
  obtain ⟨c₆, hread, -⟩ := Parser.parseFull_eq_ok_iff.mp h
  obtain ⟨w, c₁, c₂, stages', c₃, c₄, c₅, w', hpipeline, -, hsource, hstages', hbar,
    hdestination, -⟩ := reads_rule.mp hread
  have hsame : stages.flatten = stages'.flatten := hstages.trans hpipeline
  have hwell := hsame ▸ (isWellFormed_of_repeats_anyStage hstages').1
  obtain ⟨s, hs⟩ := exists_cons_print_of_reads_fullPath hsource
  obtain ⟨t, ht⟩ := exists_cons_print_of_reads_fullPath hdestination
  -- The source is read first, with new stages behind it.
  have hstart : (start (r.printStages stages)).rest =
      r.source.print.toList ++ ' ' :: barred r.destination stages := by
    rw [← toList_printBehind]
    exact String.toList_append
  obtain ⟨d₂, hbetween, hd₂⟩ := exists_between hstart
  have hsource' := reads_source_of_reads hsource hstages' hbar hdestination hsame hbetween hd₂
  obtain ⟨d₃, w₃, hmore, hw₃, hd₃⟩ := exists_repeats_anyStage ht hwell isBlank_blank hd₂
  -- Then the destination, with nothing behind it.
  have hrest : d₃.rest = w₃ ++ ['|'] ++ [' '] ++ r.destination.print.toList := by
    simp [hd₃, barred]
  obtain ⟨d₄, hbar', hd₄⟩ := exists_reads_spaced rfl hw₃ isBlank_blank hrest
    (by simp [ht, isWhitespace])
  obtain ⟨d₅, hdestination', hd₅⟩ := exists_reads_destination hdestination hd₄
  -- There is white space neither before the source nor at the end.
  refine Parser.parseFull_eq_ok_iff.mpr ⟨d₅, reads_rule.mpr ⟨"", _, d₂, stages, d₃, d₄, d₅, "",
    hstages.symm, reads_spaces_of_endsBlank ?_, hsource', hmore, hbar', hdestination',
    reads_spaces_of_endsBlank ?_⟩, hd₅⟩
  · intro x hx
    obtain rfl : '/' = x := by simpa [hstart, hs] using hx
    rfl
  · intro x hx
    simp [hd₅] at hx

/-- What was read as a rule is read again from the print of the rule. -/
theorem parseRule_print_of_parseRule {text : String} {r : Rule} (h : parseRule text = .ok r) :
    parseRule r.print = .ok r := by
  rw [Rule.print_eq_printStages]
  refine parseRule_printStages_of_parseRule h ?_
  by_cases hempty : r.pipeline = []
  · simp [hempty]
  · simp [hempty]

/-- A parenthesis that nothing closes is part of the text, before and after printing. -/
theorem parseRule_print_of_unclosed :
    ∃ r, parseRule "/:a( \t??q=:b||:c<-:b|/:c" = .ok r ∧ parseRule r.print = .ok r := by
  have hok : (parseRule "/:a( \t??q=:b||:c<-:b|/:c").isOk := by decide +kernel
  cases h : parseRule "/:a( \t??q=:b||:c<-:b|/:c" with
  | error e =>
    rw [h] at hok
    cases hok
  | ok r => exact ⟨r, rfl, parseRule_print_of_parseRule h⟩

/-- The expressions of a rule, cut into groups at any places, are read again from a text that
has a bar before each group and before the destination. Groups without expressions are no
exception. -/
theorem parseRule_joined_of_parseRule {text : String} {r : Rule} (h : parseRule text = .ok r)
    {groups : List (List Expression)} (hgroups : groups.flatten = r.pipeline) :
    parseRule (" | ".intercalate (r.source.print ::
      groups.map (fun es => ", ".intercalate (es.map Expression.print)) ++
        [r.destination.print])) = .ok r := by
  have hprint : printArgs = fun es => ", ".intercalate (es.map Expression.print) :=
    funext printArgs_eq_intercalate
  rw [← hprint, ← Rule.printStages_eq_intercalate]
  exact parseRule_printStages_of_parseRule h hgroups

/-- Two expressions in five groups, the last of which is empty. -/
theorem parseRule_joined_of_groups :
    let x : Expression := .assign "x" (.literal (.number 1))
    let y : Expression := .var "x"
    ∃ r, parseRule "/:a | :x <- 1, :x | /:x" = .ok r ∧
      [[], [x], [], [y], []].flatten = r.pipeline ∧
      parseRule (" | ".intercalate (r.source.print ::
        [[], [x], [], [y], []].map (fun es => ", ".intercalate (es.map Expression.print)) ++
          [r.destination.print])) = .ok r := by
  intro x y
  have hpipeline : (parseRule "/:a | :x <- 1, :x | /:x").toOption.any
      (·.pipeline = [[], [x], [], [y], []].flatten) := by decide +kernel
  cases h : parseRule "/:a | :x <- 1, :x | /:x" with
  | error e =>
    rw [h] at hpipeline
    cases hpipeline
  | ok r =>
    rw [h] at hpipeline
    have hgroups : r.pipeline = [[], [x], [], [y], []].flatten := of_decide_eq_true hpipeline
    exact ⟨r, rfl, hgroups.symm, parseRule_joined_of_parseRule h hgroups.symm⟩

end Grammar

end Reroute
