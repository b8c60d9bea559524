import Mathlib.Data.List.Basic
import Reroute.Grammar.Path
import Reroute.Proofs.Grammar.Closing

/-!
# Reading paths again

A segment is printed verbatim, so to read the print of a path is to read the same text
with something else behind it. That leads to the same segments if the other text ends
the last run as well and closes no parenthesis that was left open before.

## Main definitions

* `Grammar.EndsRun` — a run of text or a variable ends here
* `Grammar.Continues` — what follows at one place may stand for what follows at another

## Main results

* `Grammar.between_of_reads_segment`, `Grammar.reads_query` — segments and queries are
  printed verbatim
* `Grammar.reads_fullPath_of_reads` — the print of a path is read as the path
-/

set_option autoImplicit false

namespace Reroute

open Parsing Cursor

variable {c c' d d' : Cursor} {t : List Char}

namespace Grammar

/-! ### Variables -/

/-- The modifier in the syntax of rules. -/
def Modifier.spelling : Modifier → List Char
  | quantifier q => [q.symbol]
  | pattern p => '(' :: p.toList ++ [')']

/-- Whether parentheses can enclose the pattern, if the modifier is one. -/
def Modifier.IsWellFormed : Modifier → Prop
  | quantifier _ => True
  | pattern p => IsEnclosable ')' p.toList

theorem reads_quantifier {q : Quantifier} {m : Modifier} :
    (quantifier q).Reads c m d ↔ m = .quantifier q ∧ Between c [q.symbol] d := by
  simp only [quantifier, Parser.reads_map, Parser.reads_char]
  constructor
  · rintro ⟨_, ⟨rfl, h⟩, rfl⟩
    exact ⟨rfl, h⟩
  · rintro ⟨rfl, h⟩
    exact ⟨q.symbol, ⟨rfl, h⟩, rfl⟩

theorem failsAt_quantifier_of_head? {q : Quantifier} {x : Char} (h : c.rest.head? = some x)
    (hx : x ≠ q.symbol) : (quantifier q).FailsAt c := by
  intro m d hread
  rw [(reads_quantifier.mp hread).2.rest_eq] at h
  exact hx (by simpa using h.symm)

/-- The alternatives of a modifier differ in how they begin. -/
theorem reads_modifier {m : Modifier} :
    modifier.Reads c m d ↔ Between c m.spelling d ∧ m.IsWellFormed := by
  simp only [modifier, Parser.reads_choice_cons, Parser.reads_choice_nil, and_false, or_false,
    Parser.reads_map, reads_pattern, reads_quantifier]
  constructor
  · rintro (⟨rfl, h⟩ | ⟨-, ⟨rfl, h⟩ | ⟨-, ⟨rfl, h⟩ | ⟨-, p, ⟨h, hp⟩, rfl⟩⟩⟩)
    · exact ⟨h, trivial⟩
    · exact ⟨h, trivial⟩
    · exact ⟨h, trivial⟩
    · exact ⟨h, hp⟩
  · rintro ⟨hbetween, hm⟩
    have hrest := hbetween.rest_eq
    -- Every alternative before the right one fails at the first character.
    cases m with
    | quantifier q =>
      cases q with
      | oneOrMore => exact .inl ⟨rfl, hbetween⟩
      | optional =>
        have hhead : c.rest.head? = some '?' := by rw [hrest]; rfl
        exact .inr ⟨failsAt_quantifier_of_head? hhead (by decide), .inl ⟨rfl, hbetween⟩⟩
      | zeroOrMore =>
        have hhead : c.rest.head? = some '*' := by rw [hrest]; rfl
        exact .inr ⟨failsAt_quantifier_of_head? hhead (by decide),
          .inr ⟨failsAt_quantifier_of_head? hhead (by decide), .inl ⟨rfl, hbetween⟩⟩⟩
    | pattern p =>
      have hhead : c.rest.head? = some '(' := by rw [hrest]; rfl
      exact .inr ⟨failsAt_quantifier_of_head? hhead (by decide),
        .inr ⟨failsAt_quantifier_of_head? hhead (by decide),
          .inr ⟨failsAt_quantifier_of_head? hhead (by decide), p, ⟨hbetween, hm⟩, rfl⟩⟩⟩

/-- A modifier begins with a sign of its own. -/
theorem Modifier.exists_cons_spelling (m : Modifier) :
    ∃ x s, m.spelling = x :: s ∧ x ∈ ['+', '?', '*', '('] := by
  cases m with
  | quantifier q => cases q <;> exact ⟨_, _, rfl, by decide⟩
  | pattern p => exact ⟨_, _, rfl, by decide⟩

theorem reads_variableRun {r : Segment} :
    variableRun.Reads c r d ↔ ∃ x m e, r = .placeholder (placeholderOf x m) ∧
      c.previous ≠ some '\\' ∧ IsName x ∧ Between c (':' :: x.toList) e ∧ EndsName e ∧
      (Parser.optional modifier).Reads e m d := by
  simp only [variableRun, Parser.reads_atomic, Parser.reads_bind, Parser.reads_pure,
    Parser.reads_satisfy, reads_name, isVariableColon, Bool.and_eq_true, decide_eq_true_eq,
    bne_iff_ne]
  constructor
  · rintro ⟨_, e, ⟨hcolon, rfl, hprevious⟩, x, f, ⟨hx, hname, hends⟩, m, g, hm, rfl, rfl⟩
    exact ⟨x, m, f, rfl, hprevious, hname, hcolon.append hx, hends, hm⟩
  · rintro ⟨x, m, f, rfl, hprevious, hname, hbetween, hends, hm⟩
    obtain ⟨e, hcolon, hx⟩ := between_append (s := [':']).mp hbetween
    exact ⟨':', e, ⟨hcolon, rfl, hprevious⟩, x, f, ⟨hx, hname, hends⟩, m, d, hm, rfl, rfl⟩

/-- Whether literal text goes on with a character. -/
abbrev isTextChar (x : Char) (previous : Option Char) : Bool :=
  x != ' ' && x != '/' && !isVariableColon x previous

theorem reads_literalRun {r : Segment} :
    literalRun.Reads c r d ↔ ∃ s, r = .text s true ∧ Between c s.toList d ∧
      Accepts isTextChar c.previous s.toList ∧ Ends isTextChar d := by
  simp only [literalRun, Parser.reads_map, Parser.reads_many, Parser.repeats_satisfy]
  constructor
  · rintro ⟨chars, h, rfl⟩
    exact ⟨String.ofList chars, rfl, by rwa [String.toList_ofList]⟩
  · rintro ⟨s, rfl, h⟩
    exact ⟨s.toList, h, by rw [String.ofList_toList]⟩

/-- A run of text or a variable within a segment. -/
abbrev run : Parser Segment :=
  Parser.choice [variableRun, literalRun]

theorem reads_run {r : Segment} :
    run.Reads c r d ↔
      variableRun.Reads c r d ∨ variableRun.FailsAt c ∧ literalRun.Reads c r d := by
  simp only [run, Parser.reads_choice_cons, Parser.reads_choice_nil, and_false, or_false]

theorem print_placeholderOf (x : String) (m : Option Modifier) :
    (Segment.placeholder { placeholderOf x m with prefixed := false }).print.toList =
      ':' :: x.toList ++ m.elim [] Modifier.spelling := by
  rcases m with _ | ⟨q⟩ | ⟨p⟩ <;>
    simp [Segment.print, Placeholder.print, slash, placeholderOf, Modifier.spelling]

/-- A run is printed verbatim, behind the slash that it is given. -/
theorem between_of_reads_run {r : Segment} (h : run.Reads c r d) :
    Between c (r.setPrefixed false).print.toList d ∧
      r.print = "/" ++ (r.setPrefixed false).print := by
  rcases reads_run.mp h with h | ⟨-, h⟩
  · obtain ⟨x, m, e, rfl, -, -, hbetween, -, hm⟩ := reads_variableRun.mp h
    rw [Segment.setPrefixed, print_placeholderOf]
    refine ⟨hbetween.append ?_, ?_⟩
    · rcases Parser.reads_optional.mp hm with ⟨k, rfl, hk⟩ | ⟨rfl, rfl, -⟩
      · exact (reads_modifier.mp hk).1
      · rfl
    · apply String.toList_injective
      rcases m with _ | ⟨_⟩ | ⟨_⟩ <;>
        simp [Segment.print, Placeholder.print, slash, placeholderOf]
  · obtain ⟨s, rfl, hbetween, -⟩ := reads_literalRun.mp h
    exact ⟨by simpa [Segment.setPrefixed, Segment.print, slash] using hbetween,
      by simp [Segment.setPrefixed, Segment.print, slash]⟩

/-! ### The same run with something else behind it -/

/-- A run of text or a variable ends here: at the end of the text, at a blank or at a
slash. -/
def EndsRun (c : Cursor) : Prop :=
  ∀ x, c.rest.head? = some x → x = ' ' ∨ x = '/'

/-- What follows at `c'` may stand for what follows at `c` when the text before it is
read. -/
structure Continues (c c' : Cursor) : Prop where
  previous_eq : c'.previous = c.previous
  head? : c'.rest.head? = c.rest.head? ∨ EndsRun c'
  staysOpen : StaysOpen c → StaysOpen c'

theorem EndsRun.ends {test : Char → Option Char → Bool} (h : EndsRun c)
    (hblank : ∀ p, test ' ' p = false) (hslash : ∀ p, test '/' p = false) : Ends test c := by
  intro x hx
  rcases h x hx with rfl | rfl
  · exact hblank _
  · exact hslash _

/-- A run ends where it ended, if what follows may stand for what followed. -/
theorem Continues.ends {test : Char → Option Char → Bool} (h : Continues c c')
    (hends : Ends test c) (hblank : ∀ p, test ' ' p = false) (hslash : ∀ p, test '/' p = false) :
    Ends test c' := by
  rcases h.head? with hhead | hrun
  · intro x hx
    rw [h.previous_eq]
    exact hends x (hhead ▸ hx)
  · exact hrun.ends hblank hslash

/-- The same text may be added in front. -/
theorem Continues.of_between (h : Continues d d') (hc : Between c t d) (hc' : Between c' t d')
    (hprevious : c'.previous = c.previous) : Continues c c' := by
  refine ⟨hprevious, ?_, ?_⟩
  · cases t with
    | nil =>
      rw [between_nil.mp hc, between_nil.mp hc']
      exact h.head?
    | cons x t =>
      rw [hc.rest_eq, hc'.rest_eq]
      exact .inl rfl
  · intro hopen
    have htail := h.staysOpen (hopen.right hc)
    rw [StaysOpen, hc'.previous_eq] at htail
    rw [StaysOpen, hc.rest_eq, accepts_append] at hopen
    rw [StaysOpen, hc'.rest_eq, accepts_append, hprevious]
    exact ⟨hopen.1, hprevious ▸ htail⟩

/-- A parenthesis that began no pattern begins none. -/
theorem Continues.failsAt_modifier (h : Continues c c') (hfails : modifier.FailsAt c) :
    modifier.FailsAt c' := by
  intro m e hread
  obtain ⟨hbetween, hm⟩ := reads_modifier.mp hread
  obtain ⟨x, s, hs, hx⟩ := m.exists_cons_spelling
  have hhead : c'.rest.head? = some x := by rw [hbetween.rest_eq, hs]; rfl
  have hsigns : ∀ y ∈ ['+', '?', '*', '('], y ≠ ' ' ∧ y ≠ '/' := by simp
  -- No modifier begins where a run ends, so the same sign was there before.
  have hsame : c.rest.head? = some x := by
    rcases h.head? with heq | hrun
    · rw [← heq, hhead]
    · rcases hrun x hhead with rfl | rfl
      · exact absurd rfl (hsigns _ hx).1
      · exact absurd rfl (hsigns _ hx).2
  cases m with
  | quantifier q =>
    obtain ⟨rfl, rfl⟩ : q.symbol = x ∧ [] = s := by simpa [Modifier.spelling] using hs
    obtain ⟨rest, hrest⟩ := List.head?_eq_some_iff.mp hsame
    obtain ⟨f, hf, -⟩ := exists_between (s := [q.symbol]) hrest
    exact hfails (.quantifier q) f (reads_modifier.mpr ⟨hf, trivial⟩)
  | pattern p =>
    -- A pattern here needs a parenthesis that is closed later, and there was none.
    have hcloses := (exists_reads_pattern_iff.mp ⟨p, e, reads_pattern.mpr ⟨hbetween, hm⟩⟩)
    have hopening : x = '(' := by
      simpa [hhead] using hcloses.1
    obtain ⟨p', f, hpattern⟩ := exists_reads_pattern_iff.mpr
      ⟨hopening ▸ hsame, fun hopen => hcloses.2 (h.staysOpen hopen)⟩
    exact hfails (.pattern p') f (reads_modifier.mpr (reads_pattern.mp hpattern))

theorem Continues.reads_optional_modifier (h : Continues d d') {m : Option Modifier}
    (hread : (Parser.optional modifier).Reads c m d)
    (hc' : Between c' (m.elim [] Modifier.spelling) d') :
    (Parser.optional modifier).Reads c' m d' := by
  rcases Parser.reads_optional.mp hread with ⟨k, rfl, hk⟩ | ⟨rfl, rfl, hfails⟩
  · exact Parser.reads_optional.mpr
      (.inl ⟨k, rfl, reads_modifier.mpr ⟨hc', (reads_modifier.mp hk).2⟩⟩)
  · obtain rfl : c' = d' := hc'
    exact Parser.reads_optional.mpr (.inr ⟨rfl, rfl, h.failsAt_modifier hfails⟩)

theorem Continues.reads_variableRun (h : Continues d d') {r : Segment}
    (hread : variableRun.Reads c r d) (hprevious : c'.previous = c.previous)
    (hc' : Between c' (r.setPrefixed false).print.toList d') : variableRun.Reads c' r d' := by
  obtain ⟨x, m, e, rfl, hescape, hname, hbetween, hends, hm⟩ := Grammar.reads_variableRun.mp hread
  rw [Segment.setPrefixed, print_placeholderOf] at hc'
  obtain ⟨e', hbetween', hm'⟩ := between_append.mp hc'
  have hmodifier : Between e (m.elim [] Modifier.spelling) d := by
    rcases Parser.reads_optional.mp hm with ⟨k, rfl, hk⟩ | ⟨rfl, rfl, -⟩
    · exact (reads_modifier.mp hk).1
    · rfl
  have heprevious : e'.previous = e.previous := by
    rw [hbetween.previous_eq, hbetween'.previous_eq, hprevious]
  have he : Continues e e' := h.of_between hmodifier hm' heprevious
  exact Grammar.reads_variableRun.mpr ⟨x, m, e', rfl, hprevious ▸ hescape, hname, hbetween',
    he.ends hends (fun _ => rfl) (fun _ => rfl), h.reads_optional_modifier hm hm'⟩

/-- A variable begins with a colon that no backslash precedes. -/
theorem failsAt_variableRun_of {x : Char} (hhead : c.rest.head? = some x)
    (hx : isVariableColon x c.previous = false) : variableRun.FailsAt c := by
  intro r d hread
  obtain ⟨y, m, e, -, hescape, -, hbetween, -, -⟩ := reads_variableRun.mp hread
  obtain rfl : ':' = x := by simpa [hbetween.rest_eq] using hhead
  simp [isVariableColon, hescape] at hx

/-- Text that is not empty does not begin where text ends. -/
theorem not_ends_of_accepts {s : List Char} (hbetween : Between c s d)
    (haccepts : Accepts isTextChar c.previous s) (hlt : d.left < c.left) :
    ¬Ends isTextChar c := by
  obtain ⟨x, u, rfl⟩ := List.exists_cons_of_ne_nil (hbetween.left_lt_iff.mp hlt)
  intro hends
  have hx := haccepts.1
  rw [hends x (by rw [hbetween.rest_eq]; rfl)] at hx
  cases hx

/-- Where a run ends, no run is read that is not empty. -/
theorem EndsRun.not_reads_run (h : EndsRun c) {r : Segment} (hread : run.Reads c r d) :
    ¬d.left < c.left := by
  rcases reads_run.mp hread with hread | ⟨-, hread⟩
  · obtain ⟨y, m, e, -, -, -, hbetween, -, -⟩ := reads_variableRun.mp hread
    have hhead := h ':' (by rw [hbetween.rest_eq]; rfl)
    simp at hhead
  · obtain ⟨s, rfl, hbetween, haccepts, -⟩ := reads_literalRun.mp hread
    exact fun hlt => not_ends_of_accepts hbetween haccepts hlt (h.ends (fun _ => rfl) fun _ => rfl)

theorem Continues.reads_run (h : Continues d d') {r : Segment} (hread : run.Reads c r d)
    (hlt : d.left < c.left) (hprevious : c'.previous = c.previous)
    (hc' : Between c' (r.setPrefixed false).print.toList d') : run.Reads c' r d' := by
  rcases Grammar.reads_run.mp hread with hread | ⟨-, hread⟩
  · exact Grammar.reads_run.mpr (.inl (h.reads_variableRun hread hprevious hc'))
  · obtain ⟨s, rfl, hbetween, haccepts, hends⟩ := reads_literalRun.mp hread
    have hs : (Segment.setPrefixed false (.text s true)).print.toList = s.toList := by
      simp [Segment.setPrefixed, Segment.print, slash]
    rw [hs] at hc'
    obtain ⟨x, u, hx⟩ := List.exists_cons_of_ne_nil (hbetween.left_lt_iff.mp hlt)
    -- The text is not empty, so its first character says that no variable begins.
    have hfails : variableRun.FailsAt c' := by
      rw [hx, accepts_cons, isTextChar, Bool.and_eq_true, Bool.not_eq_true'] at haccepts
      refine failsAt_variableRun_of (x := x) (by rw [hc'.rest_eq, hx]; rfl) ?_
      rw [hprevious]
      exact haccepts.1.2
    exact Grammar.reads_run.mpr (.inr ⟨hfails, reads_literalRun.mpr ⟨s, rfl, hc',
      hprevious ▸ haccepts, h.ends hends (fun _ => rfl) (fun _ => rfl)⟩⟩)

/-- Runs one after the other are printed verbatim. -/
theorem between_of_repeats_run {rs : List Segment} (h : Parser.Repeats run c rs d) :
    Between c (Segment.printAll (rs.map (Segment.setPrefixed false))).toList d := by
  induction h with
  | stop => rfl
  | next read _ _ ih =>
    rw [List.map_cons, Segment.printAll, String.toList_append]
    exact (between_of_reads_run read).1.append ih

theorem Continues.repeats_run (h : Continues d d') (hd' : EndsRun d') {rs : List Segment}
    (hrepeats : Parser.Repeats run c rs d) (hprevious : c'.previous = c.previous)
    (hc' : Between c' (Segment.printAll (rs.map (Segment.setPrefixed false))).toList d') :
    Parser.Repeats run c' rs d' := by
  -- What a run is followed by is the print of the runs behind it.
  induction hrepeats generalizing c' with
  | stop =>
    obtain rfl : c' = d' := hc'
    exact .stop fun r e hread => hd'.not_reads_run hread
  | next read shorter more ih =>
    rw [List.map_cons, Segment.printAll, String.toList_append] at hc'
    obtain ⟨e', hread', hmore'⟩ := between_append.mp hc'
    have hread := (between_of_reads_run read).1
    have heprevious := hread'.previous_eq.trans (hprevious ▸ hread.previous_eq.symm)
    have he := h.of_between (between_of_repeats_run more) hmore' heprevious
    have hne := hread.left_lt_iff.mp shorter
    exact .next (he.reads_run read shorter hprevious hread') (hread'.left_lt_iff.mpr hne)
      (ih h heprevious hmore')

/-! ### Segments -/

theorem reads_segment {s : Segment} :
    segment.Reads c s d ↔
      ∃ rs e, s = .ofRuns rs ∧ Between c ['/'] e ∧ Parser.Repeats run e rs d := by
  simp only [segment, Parser.reads_atomic, Parser.reads_bind, Parser.reads_pure,
    Parser.reads_char, Parser.reads_many]
  constructor
  · rintro ⟨_, e, ⟨rfl, hslash⟩, rs, f, hrs, rfl, rfl⟩
    exact ⟨rs, e, rfl, hslash, hrs⟩
  · rintro ⟨rs, e, rfl, hslash, hrs⟩
    exact ⟨'/', e, ⟨rfl, hslash⟩, rs, d, hrs, rfl, rfl⟩

theorem print_ofRuns {rs : List Segment}
    (h : ∀ r ∈ rs, r.print = "/" ++ (r.setPrefixed false).print) :
    (Segment.ofRuns rs).print = "/" ++ Segment.printAll (rs.map (Segment.setPrefixed false)) := by
  match rs with
  | [] => rfl
  | [r] => simpa [Segment.ofRuns, Segment.printAll] using h r
  | r :: r' :: rs =>
    have hprint : (Segment.ofRuns (r :: r' :: rs)).print =
        r.print ++ Segment.printAll ((r' :: rs).map (Segment.setPrefixed false)) := rfl
    rw [hprint, h r (by simp), String.append_assoc]
    rfl

/-- Segments are printed verbatim. -/
theorem between_of_reads_segment {s : Segment} (h : segment.Reads c s d) :
    Between c s.print.toList d := by
  obtain ⟨rs, e, rfl, hslash, hrs⟩ := reads_segment.mp h
  rw [print_ofRuns (hrs.forall fun _ _ _ hread => (between_of_reads_run hread).2),
    String.toList_append]
  exact hslash.append (between_of_repeats_run hrs)

theorem exists_cons_print_of_reads_segment {s : Segment} (h : segment.Reads c s d) :
    ∃ t, s.print.toList = '/' :: t := by
  obtain ⟨rs, e, rfl, -, hrs⟩ := reads_segment.mp h
  rw [print_ofRuns (hrs.forall fun _ _ _ hread => (between_of_reads_run hread).2),
    String.toList_append]
  exact ⟨_, rfl⟩

theorem Continues.reads_segment (h : Continues d d') (hd' : EndsRun d') {s : Segment}
    (hread : segment.Reads c s d) (hc' : Between c' s.print.toList d') :
    segment.Reads c' s d' := by
  obtain ⟨rs, e, rfl, hslash, hrs⟩ := Grammar.reads_segment.mp hread
  rw [print_ofRuns (hrs.forall fun _ _ _ hread => (between_of_reads_run hread).2),
    String.toList_append] at hc'
  obtain ⟨e', hslash', hrs'⟩ := between_append.mp hc'
  have heprevious := hslash.previous_eq_of_ne_nil hslash' (by simp)
  exact Grammar.reads_segment.mpr ⟨rs, e', rfl, hslash', h.repeats_run hd' hrs heprevious hrs'⟩

/-- Segments one after the other are printed verbatim. -/
theorem between_of_repeats_segment {ss : List Segment} (h : Parser.Repeats segment c ss d) :
    Between c (Segment.printAll ss).toList d := by
  induction h with
  | stop => rfl
  | next read _ _ ih =>
    rw [Segment.printAll, String.toList_append]
    exact (between_of_reads_segment read).append ih

theorem Continues.repeats_segment (h : Continues d d') (hd' : EndsRun d')
    (hstop : segment.FailsAt d') {ss : List Segment} (hss : Parser.Repeats segment c ss d)
    (hprevious : c'.previous = c.previous)
    (hc' : Between c' (Segment.printAll ss).toList d') :
    EndsRun c' ∧ Parser.Repeats segment c' ss d' := by
  -- A segment ends at the slash of the next one, which is needed to read it again.
  induction hss generalizing c' with
  | stop =>
    obtain rfl : c' = d' := hc'
    exact ⟨hd', .stop fun s e hread => absurd hread (hstop s e)⟩
  | @next c e d s ss read shorter more ih =>
    rw [Segment.printAll, String.toList_append] at hc'
    obtain ⟨e', hs', hmore'⟩ := between_append.mp hc'
    obtain ⟨t, ht⟩ := exists_cons_print_of_reads_segment read
    have hs := between_of_reads_segment read
    have heprevious := hs.previous_eq_of_ne_nil hs' (by simp [ht])
    obtain ⟨hrun, hss⟩ := ih h heprevious hmore'
    have he := h.of_between (between_of_repeats_segment more) hmore' heprevious
    refine ⟨fun x hx => .inr ?_, .next (he.reads_segment hrun read hs')
      (hs'.left_lt_iff.mpr (by simp [ht])) hss⟩
    rw [hs'.rest_eq, ht, List.cons_append, List.head?_cons, Option.some.injEq] at hx
    exact hx.symm

/-- A path is printed verbatim. -/
theorem between_of_reads_path {ss : List Segment} (h : path.Reads c ss d) :
    Between c (Segment.printAll ss).toList d := by
  obtain ⟨s, ss, e, rfl, hread, hss⟩ := Parser.reads_many1.mp h
  rw [Segment.printAll, String.toList_append]
  exact (between_of_reads_segment hread).append (between_of_repeats_segment hss)

theorem exists_cons_print_of_reads_path {ss : List Segment} (h : path.Reads c ss d) :
    ∃ t, (Segment.printAll ss).toList = '/' :: t := by
  obtain ⟨s, ss, e, rfl, hread, -⟩ := Parser.reads_many1.mp h
  obtain ⟨t, ht⟩ := exists_cons_print_of_reads_segment hread
  exact ⟨t ++ (Segment.printAll ss).toList, by rw [Segment.printAll, String.toList_append, ht]; rfl⟩

theorem Continues.reads_path (h : Continues d d') (hd' : EndsRun d')
    (hstop : segment.FailsAt d') {ss : List Segment} (hread : path.Reads c ss d)
    (hc' : Between c' (Segment.printAll ss).toList d') : path.Reads c' ss d' := by
  obtain ⟨s, ss, e, rfl, hread, hss⟩ := Parser.reads_many1.mp hread
  rw [Segment.printAll, String.toList_append] at hc'
  obtain ⟨e', hs', hmore'⟩ := between_append.mp hc'
  obtain ⟨t, ht⟩ := exists_cons_print_of_reads_segment hread
  have heprevious :=
    (between_of_reads_segment hread).previous_eq_of_ne_nil hs' (by simp [ht])
  obtain ⟨hrun, hss'⟩ := h.repeats_segment hd' hstop hss heprevious hmore'
  have he := h.of_between (between_of_repeats_segment hss) hmore' heprevious
  exact Parser.reads_many1.mpr ⟨s, ss, e', rfl, he.reads_segment hrun hread hs', hss'⟩

/-! ### Queries -/

/-- Whether what a constraint asks for can be written down. -/
def IsWellFormedTarget : QueryTarget → Option String → Prop
  | .literal value, p => IsName value ∧ p = none
  | .var x, p => IsName x ∧ ∀ s ∈ p, IsEnclosable ')' s.toList

/-- Whether a constraint can be written down. -/
def IsWellFormedQuery (q : Query) : Prop :=
  IsName q.name ∧ IsWellFormedTarget q.target q.pattern

/-- The pattern of a constraint in the syntax of rules, where there is one. -/
def patternSpelling : Option String → List Char
  | none => []
  | some p => '(' :: p.toList ++ [')']

/-- A query ends here: at the end of the text or at a blank. -/
def EndsQuery (c : Cursor) : Prop :=
  ∀ x, c.rest.head? = some x → x = ' '

theorem EndsQuery.endsName (h : EndsQuery c) : EndsName c := by
  intro x hx
  rw [h x hx]
  rfl

theorem EndsQuery.endsRun (h : EndsQuery c) : EndsRun c :=
  fun x hx => .inl (h x hx)

theorem EndsQuery.failsAt_segment (h : EndsQuery c) : segment.FailsAt c := by
  intro s d hread
  obtain ⟨rs, e, -, hslash, -⟩ := reads_segment.mp hread
  have := h '/' (by rw [hslash.rest_eq]; rfl)
  simp at this

theorem reads_optional_pattern {p : Option String} :
    (Parser.optional pattern).Reads c p d ↔ Between c (patternSpelling p) d ∧
      (∀ s ∈ p, IsEnclosable ')' s.toList) ∧ (p = none → pattern.FailsAt d) := by
  rw [Parser.reads_optional]
  cases p with
  | none =>
    constructor
    · rintro (⟨s, heq, -⟩ | ⟨-, rfl, hfails⟩)
      · cases heq
      · exact ⟨rfl, by simp, fun _ => hfails⟩
    · rintro ⟨hbetween, -, hfails⟩
      obtain rfl : c = d := hbetween
      exact .inr ⟨rfl, rfl, hfails rfl⟩
  | some s =>
    constructor
    · rintro (⟨s', heq, hread⟩ | ⟨heq, -⟩)
      · obtain rfl := Option.some.inj heq
        obtain ⟨hbetween, henclosable⟩ := reads_pattern.mp hread
        exact ⟨hbetween, by simpa using henclosable, by simp⟩
      · cases heq
    · rintro ⟨hbetween, henclosable, -⟩
      exact .inl ⟨s, rfl, reads_pattern.mpr ⟨hbetween, henclosable s rfl⟩⟩

/-- What a constraint asks for, in the syntax of rules. -/
def targetSpelling : QueryTarget → Option String → List Char
  | .literal value, _ => value.toList
  | .var x, p => ':' :: x.toList ++ patternSpelling p

theorem print_query (q : Query) :
    q.print.toList =
      "??".toList ++ q.name.toList ++ ['='] ++ targetSpelling q.target q.pattern := by
  obtain ⟨name, target, pattern⟩ := q
  cases target with
  | literal value => simp [Query.print, targetSpelling]
  | var x => cases pattern <;> simp [Query.print, targetSpelling, patternSpelling]

/-- A variable with or without a pattern, as the target of a constraint. -/
theorem reads_varTarget {target : QueryTarget × Option String} :
    (Parser.atomic (do
      let _ ← char ':'
      let x ← name
      let p ← Parser.optional pattern
      return (QueryTarget.var x, p))).Reads c target d ↔
      ∃ x p e, target = (.var x, p) ∧ IsName x ∧ Between c (':' :: x.toList) e ∧ EndsName e ∧
        (Parser.optional pattern).Reads e p d := by
  simp only [Parser.reads_atomic, Parser.reads_bind, Parser.reads_pure, Parser.reads_char,
    reads_name]
  constructor
  · rintro ⟨_, e, ⟨rfl, hcolon⟩, x, f, ⟨hx, hname, hends⟩, p, g, hp, rfl, rfl⟩
    exact ⟨x, p, f, rfl, hname, hcolon.append hx, hends, hp⟩
  · rintro ⟨x, p, f, rfl, hname, hbetween, hends, hp⟩
    obtain ⟨e, hcolon, hx⟩ := between_append (s := [':']).mp hbetween
    exact ⟨':', e, ⟨rfl, hcolon⟩, x, f, ⟨hx, hname, hends⟩, p, d, hp, rfl, rfl⟩

/-- What follows at a place does not continue the target before it. -/
def EndsTarget : QueryTarget → Option String → Cursor → Prop
  | .literal _, _, c => EndsName c
  | .var _, none, c => EndsName c ∧ pattern.FailsAt c
  | .var _, some _, _ => True

theorem EndsQuery.endsTarget (h : EndsQuery c) (target : QueryTarget) (p : Option String) :
    EndsTarget target p c := by
  match target, p with
  | .literal value, p => exact h.endsName
  | .var x, none =>
    refine ⟨h.endsName, fun s e hread => ?_⟩
    have := h '(' (by rw [(reads_pattern.mp hread).1.rest_eq]; rfl)
    simp at this
  | .var x, some s => trivial

theorem reads_queryTarget {target : QueryTarget} {p : Option String} :
    queryTarget.Reads c (target, p) d ↔
      Between c (targetSpelling target p) d ∧ IsWellFormedTarget target p ∧
        EndsTarget target p d := by
  simp only [queryTarget, Parser.reads_choice_cons, Parser.reads_choice_nil, and_false, or_false,
    Parser.reads_map, reads_name]
  constructor
  · rintro (h | ⟨-, value, ⟨hbetween, hname, hends⟩, heq⟩)
    · obtain ⟨x, p', e, heq, hname, hbetween, hends, hp⟩ := reads_varTarget.mp h
      obtain ⟨rfl, rfl⟩ : target = .var x ∧ p = p' := by simpa using heq
      obtain ⟨hpattern, henclosable, hfails⟩ := reads_optional_pattern.mp hp
      refine ⟨hbetween.append hpattern, ⟨hname, henclosable⟩, ?_⟩
      cases p with
      | none =>
        obtain rfl : e = d := hpattern
        exact ⟨hends, hfails rfl⟩
      | some s => trivial
    · obtain ⟨rfl, rfl⟩ : .literal value = target ∧ none = p := by simpa using heq
      exact ⟨hbetween, ⟨hname, rfl⟩, hends⟩
  · rintro ⟨hbetween, htarget, hends⟩
    cases target with
    | literal value =>
      obtain ⟨hname, rfl⟩ := htarget
      -- A name has no colon, so it is not read as a variable.
      refine .inr ⟨fun v f hread => ?_, value, ⟨hbetween, hname, hends⟩, rfl⟩
      obtain ⟨x, q, e, -, -, hbetween', -, -⟩ := reads_varTarget.mp hread
      have hmem : ':' ∈ value.toList := by
        obtain ⟨y, u, hy, -⟩ := Expression.exists_cons_of_isName hname
        have heq := hbetween'.rest_eq.symm.trans hbetween.rest_eq
        rw [targetSpelling, hy] at heq
        obtain rfl : ':' = y := (List.cons.inj heq).1
        simp [hy]
      exact not_mem_of_isName hname rfl hmem
    | var x =>
      obtain ⟨e, hx, hp⟩ := between_append.mp hbetween
      refine .inl (reads_varTarget.mpr ⟨x, p, e, rfl, htarget.1, hx, ?_,
        reads_optional_pattern.mpr ⟨hp, htarget.2, ?_⟩⟩)
      · cases p with
        | none =>
          obtain rfl : e = d := hp
          exact hends.1
        | some s => exact hp.ends rfl
      · rintro rfl
        exact hends.2

/-- A query is printed verbatim, and something behind it ends it. -/
theorem reads_query {q : Query} :
    query.Reads c q d ↔ Between c q.print.toList d ∧ IsWellFormedQuery q ∧
      EndsTarget q.target q.pattern d := by
  rw [print_query]
  simp only [query, Parser.reads_atomic, Parser.reads_bind, Parser.reads_pure,
    Parser.reads_char, Parser.reads_string, reads_name]
  constructor
  · rintro ⟨_, e, ⟨rfl, hsigns⟩, x, f, ⟨hx, hname, -⟩, _, g, ⟨rfl, hequals⟩, ⟨target, p⟩, _,
      htarget, rfl, rfl⟩
    obtain ⟨hbetween, hwell, hends⟩ := reads_queryTarget.mp htarget
    exact ⟨((hsigns.append hx).append hequals).append hbetween, ⟨hname, hwell⟩, hends⟩
  · rintro ⟨h, hq, hends⟩
    obtain ⟨g, h, htarget⟩ := between_append.mp h
    obtain ⟨f, h, hequals⟩ := between_append.mp h
    obtain ⟨e, hsigns, hx⟩ := between_append.mp h
    have hname : EndsName f := hequals.ends rfl
    exact ⟨"??", e, ⟨rfl, hsigns⟩, q.name, f, ⟨hx, hq.1, hname⟩, '=', g, ⟨rfl, hequals⟩,
      (q.target, q.pattern), d, reads_queryTarget.mpr ⟨htarget, hq.2, hends⟩, rfl, rfl⟩

theorem exists_cons_print_query (q : Query) : ∃ t, q.print.toList = '?' :: t := by
  rw [print_query]
  exact ⟨_, rfl⟩

/-- A query and the white space before it. -/
abbrev spacedQuery : Parser Query :=
  Parser.atomic do
    let _ ← spaces
    query

theorem reads_spacedQuery {q : Query} :
    spacedQuery.Reads c q d ↔ ∃ s e, spaces.Reads c s e ∧ query.Reads e q d := by
  simp only [spacedQuery, Parser.reads_atomic, Parser.reads_bind]

theorem consumes_spacedQuery : spacedQuery.Consumes := by
  intro c q d hread
  obtain ⟨s, e, hs, hq⟩ := reads_spacedQuery.mp hread
  obtain ⟨t, ht⟩ := exists_cons_print_query q
  exact ((reads_spaces.mp hs).1.append (reads_query.mp hq).1).left_lt_iff.mpr (by simp [ht])

/-- No query is read where another sign comes next. -/
theorem failsAt_spacedQuery_of {sign : Char} (h : StopsAt sign c)
    (hsign : isWhitespace sign = false) (hne : sign ≠ '?') : spacedQuery.FailsAt c := by
  intro q d hread
  obtain ⟨s, e, hs, hq⟩ := reads_spacedQuery.mp hread
  obtain ⟨s', e', rest, hs', he'⟩ := h.exists_spaces hsign
  obtain ⟨-, rfl⟩ := hs.unique hs'
  obtain ⟨t, ht⟩ := exists_cons_print_query q
  have heq := (reads_query.mp hq).1.rest_eq.symm.trans he'
  rw [ht] at heq
  exact hne (List.cons.inj heq).1.symm

/-- No query is read from white space alone. -/
theorem failsAt_spacedQuery_of_isBlank (h : IsBlank c.rest) : spacedQuery.FailsAt c := by
  intro q d hread
  obtain ⟨s, e, hs, hq⟩ := reads_spacedQuery.mp hread
  obtain ⟨t, ht⟩ := exists_cons_print_query q
  have hrest := ((reads_spaces.mp hs).1.append (reads_query.mp hq).1).rest_eq
  exact absurd (h '?' (by simp [hrest, ht])) (by decide)

/-- The queries of a path close no parenthesis if nothing from there on does. -/
theorem neverCloses_of_repeats_query {qs : List Query}
    (h : Parser.Repeats spacedQuery c qs d) :
    (∀ q ∈ qs, IsWellFormedQuery q) ∧
      (StaysOpen c → StaysOpen d ∧ ∀ q ∈ qs, NeverCloses q.print.toList) := by
  induction h with
  | stop => exact ⟨by simp, fun hopen => ⟨hopen, by simp⟩⟩
  | @next c e d q qs read _ _ ih =>
    obtain ⟨s, f, hs, hq⟩ := reads_spacedQuery.mp read
    obtain ⟨hbetween, hwell, -⟩ := reads_query.mp hq
    refine ⟨List.forall_mem_cons.mpr ⟨hwell, ih.1⟩, fun hopen => ?_⟩
    have hopen := hopen.right (reads_spaces.mp hs).1
    obtain ⟨hd, hqs⟩ := ih.2 (hopen.right hbetween)
    obtain ⟨t, ht⟩ := exists_cons_print_query q
    exact ⟨hd, List.forall_mem_cons.mpr ⟨hopen.neverCloses hbetween (by simp [ht]), hqs⟩⟩

theorem neverCloses_printQueries {qs : List Query}
    (h : ∀ q ∈ qs, NeverCloses q.print.toList) : NeverCloses (Path.printQueries qs).toList := by
  induction qs with
  | nil => trivial
  | cons q qs ih =>
    obtain ⟨hq, hqs⟩ := List.forall_mem_cons.mp h
    rw [Path.printQueries, String.toList_append, String.toList_append]
    exact ((neverCloses_of_not_mem (t := " ".toList) (by decide)).append hq).append (ih hqs)

theorem endsQuery_of_between_printQueries {qs : List Query}
    (h : Between c (Path.printQueries qs).toList d) (hd : EndsQuery d) : EndsQuery c := by
  cases qs with
  | nil =>
    obtain rfl : c = d := h
    exact hd
  | cons q qs =>
    intro x hx
    simp only [h.rest_eq, Path.printQueries, String.toList_append] at hx
    exact (Option.some.inj hx).symm

/-- Queries that are printed one after the other are read. -/
theorem repeats_query_of_between {qs : List Query} (hqs : ∀ q ∈ qs, IsWellFormedQuery q)
    (h : Between c (Path.printQueries qs).toList d) (hd : EndsQuery d)
    (hstop : spacedQuery.FailsAt d) : Parser.Repeats spacedQuery c qs d := by
  induction qs generalizing c with
  | nil =>
    obtain rfl : c = d := h
    exact .stop fun q e hread => absurd hread (hstop q e)
  | cons q qs ih =>
    rw [Path.printQueries, String.toList_append, String.toList_append] at h
    obtain ⟨f, h, hmore⟩ := between_append.mp h
    obtain ⟨e, hblank, hq⟩ := between_append.mp h
    obtain ⟨t, ht⟩ := exists_cons_print_query q
    have hends : EndsBlank e := Between.ends (ht ▸ hq) rfl
    have hspaces : spaces.Reads c " " e := reads_spaces.mpr ⟨hblank, by decide, hends⟩
    have hread : spacedQuery.Reads c q f := reads_spacedQuery.mpr ⟨" ", e, hspaces,
      reads_query.mpr ⟨hq, hqs q (by simp),
        (endsQuery_of_between_printQueries hmore hd).endsTarget q.target q.pattern⟩⟩
    exact .next hread (consumes_spacedQuery c q f hread)
      (ih (fun q' hq' => hqs q' (List.mem_cons_of_mem _ hq')) hmore)

/-! ### Full paths -/

theorem reads_fullPath {p : Path} :
    fullPath.Reads c p d ↔ ∃ e, path.Reads c p.segments e ∧
      Parser.Repeats spacedQuery e p.queries d := by
  simp only [fullPath, Parser.reads_atomic, Parser.reads_bind, Parser.reads_pure,
    Parser.reads_many]
  constructor
  · rintro ⟨segments, e, hsegments, queries, f, hqueries, rfl, rfl⟩
    exact ⟨e, hsegments, hqueries⟩
  · rintro ⟨e, hsegments, hqueries⟩
    exact ⟨p.segments, e, hsegments, p.queries, d, hqueries, rfl, rfl⟩

/-- The print of a path is read as the path, if what follows closes no parenthesis that
was left open where the path was read first. -/
theorem reads_fullPath_of_reads {p : Path} (h : fullPath.Reads c p d)
    (hc' : Between c' p.print.toList d') (hd' : EndsQuery d') (hstop : spacedQuery.FailsAt d')
    (hopen : StaysOpen d → NeverCloses d'.rest) : fullPath.Reads c' p d' := by
  obtain ⟨e, hsegments, hqueries⟩ := reads_fullPath.mp h
  rw [Path.print, String.toList_append] at hc'
  obtain ⟨e', hsegments', hqueries'⟩ := between_append.mp hc'
  obtain ⟨hwell, hcloses⟩ := neverCloses_of_repeats_query hqueries
  have he' : EndsQuery e' := endsQuery_of_between_printQueries hqueries' hd'
  obtain ⟨t, ht⟩ := exists_cons_print_of_reads_path hsegments
  -- The print of the queries may stand for the queries that were read behind the segments.
  have hcontinues : Continues e e' := by
    refine ⟨?_, .inr he'.endsRun, fun hstays => ?_⟩
    · exact (between_of_reads_path hsegments).previous_eq_of_ne_nil hsegments' (by simp [ht])
    · obtain ⟨hd, hqs⟩ := hcloses hstays
      refine staysOpen_of_neverCloses ?_
      rw [hqueries'.rest_eq]
      exact (neverCloses_printQueries hqs).append (hopen hd)
  exact reads_fullPath.mpr ⟨e', hcontinues.reads_path he'.endsRun he'.failsAt_segment hsegments
    hsegments', repeats_query_of_between hwell hqueries' hd' hstop⟩

/-- What is printed for a path closes no parenthesis if nothing from the path on does. -/
theorem neverCloses_print_of_reads_fullPath {p : Path} (h : fullPath.Reads c p d)
    (hopen : StaysOpen c) : StaysOpen d ∧ NeverCloses p.print.toList := by
  obtain ⟨e, hsegments, hqueries⟩ := reads_fullPath.mp h
  have hbetween := between_of_reads_path hsegments
  obtain ⟨t, ht⟩ := exists_cons_print_of_reads_path hsegments
  obtain ⟨hd, hqs⟩ := (neverCloses_of_repeats_query hqueries).2 (hopen.right hbetween)
  refine ⟨hd, ?_⟩
  rw [Path.print, String.toList_append]
  exact (hopen.neverCloses hbetween (by simp [ht])).append (neverCloses_printQueries hqs)

theorem exists_cons_print_of_reads_fullPath {p : Path} (h : fullPath.Reads c p d) :
    ∃ t, p.print.toList = '/' :: t := by
  obtain ⟨e, hsegments, -⟩ := reads_fullPath.mp h
  obtain ⟨t, ht⟩ := exists_cons_print_of_reads_path hsegments
  refine ⟨t ++ (Path.printQueries p.queries).toList, ?_⟩
  rw [Path.print, String.toList_append, ht]
  rfl

end Grammar

end Reroute
