import Reroute.Proofs.Grammar.Rule
import Reroute.Proofs.Parsing.Position

/-!
# White space around rules

White space before a rule is skipped, and so is white space behind it, unless the
destination takes it for a part of itself: text in a path goes on to the next blank, so a
tabulator or the end of a line just behind it belongs to it.

## Main definitions

* `Parsing.IsPadded` — the same place in a text that goes on behind its end
* `Grammar.EndsTight` — the white space that a text ends in has no blank

## Main results

* `Grammar.endsTight_print_of_reads_path` — a path ends before the next blank
* `Grammar.parseRule_padded` — where padding is skipped
* `Grammar.parseRule_padded_iff` — padding is skipped there only
-/

set_option autoImplicit false

namespace Reroute

open Parsing Cursor Expression

variable {c c' d : Cursor} {t w : List Char}

/-! ### Texts with something behind them -/

namespace Parsing

/-- What stands before the two places is the same as far as parsers can see, and behind `c'`
the text of `c` is followed by `w`. -/
structure IsPadded (w : List Char) (c c' : Cursor) : Prop where
  previous_eq : c'.previous = c.previous
  rest_eq : c'.rest = c.rest ++ w

/-- Behind a text that is not empty, what stands before it does not matter. -/
theorem exists_isPadded_of_rest_eq (h : c'.rest = c.rest ++ w) (hbetween : Between c t d)
    (ht : t ≠ []) : ∃ d', Between c' t d' ∧ IsPadded w d d' := by
  rw [hbetween.rest_eq, List.append_assoc] at h
  obtain ⟨d', hbetween', hd'⟩ := exists_between h
  exact ⟨d', hbetween', hbetween.previous_eq_of_ne_nil hbetween' ht, hd'⟩

theorem StopsAt.rest_ne_nil {sign : Char} (h : StopsAt sign c) : c.rest ≠ [] := by
  obtain ⟨u, rest, -, hrest⟩ := h
  simp [hrest]

namespace IsPadded

theorem exists_between (h : IsPadded w c c') (hbetween : Between c t d) :
    ∃ d', Between c' t d' ∧ IsPadded w d d' := by
  by_cases ht : t = []
  · subst ht
    obtain rfl : c = d := hbetween
    exact ⟨c', rfl, h⟩
  · exact exists_isPadded_of_rest_eq h.rest_eq hbetween ht

theorem head?_eq (h : IsPadded w c c') (hne : c.rest ≠ []) :
    c'.rest.head? = c.rest.head? := by
  rw [h.rest_eq, List.head?_append_of_ne_nil _ hne]

theorem ends {test : Char → Option Char → Bool} (h : IsPadded w c c') (hends : Ends test c)
    (hne : c.rest ≠ []) : Ends test c' := by
  intro x hx
  rw [h.previous_eq]
  exact hends x (h.head?_eq hne ▸ hx)

theorem stopsAt {sign : Char} (h : IsPadded w c c') (hstop : StopsAt sign c) :
    StopsAt sign c' := by
  obtain ⟨u, rest, hu, hrest⟩ := hstop
  exact ⟨u, rest ++ w, hu, by simp [h.rest_eq, hrest]⟩

theorem staysOpen (h : IsPadded w c c') (hw : IsBlank w) (hopen : Grammar.StaysOpen c) :
    Grammar.StaysOpen c' := by
  have hblank : Grammar.NeverCloses w :=
    Grammar.neverCloses_of_not_mem (Grammar.not_mem_of_isBlank hw rfl)
  rw [Grammar.StaysOpen, h.rest_eq, h.previous_eq, accepts_append]
  exact ⟨hopen, hblank.accepts _⟩

theorem endsName (h : IsPadded w c c') (hw : IsBlank w) (hends : Grammar.EndsName c) :
    Grammar.EndsName c' := by
  by_cases hne : c.rest = []
  · intro x hx
    rw [h.rest_eq, hne, List.nil_append] at hx
    exact Grammar.isNameChar_eq_false_of_isWhitespace (hw x (List.mem_of_head? hx))
  · exact h.ends hends hne

/-- White space opens no parenthesis, and closes none. -/
theorem failsAt_pattern (h : IsPadded w c c') (hw : IsBlank w)
    (hfails : Grammar.pattern.FailsAt c) : Grammar.pattern.FailsAt c' := by
  intro s d hread
  obtain ⟨hhead, hcloses⟩ := Grammar.exists_reads_pattern_iff.mp ⟨s, d, hread⟩
  have hne : c.rest ≠ [] := by
    intro hnil
    rw [h.rest_eq, hnil, List.nil_append] at hhead
    exact Grammar.not_mem_of_isBlank hw (x := '(') rfl (List.mem_of_head? hhead)
  obtain ⟨s', d', hread'⟩ := Grammar.exists_reads_pattern_iff.mpr
    ⟨h.head?_eq hne ▸ hhead, fun hopen => hcloses (h.staysOpen hw hopen)⟩
  exact hfails s' d' hread'

theorem endsTarget (h : IsPadded w c c') (hw : IsBlank w) {target : QueryTarget}
    {p : Option String} (hends : Grammar.EndsTarget target p c) :
    Grammar.EndsTarget target p c' := by
  match target, p with
  | .literal value, p => exact h.endsName hw hends
  | .var x, none => exact ⟨h.endsName hw hends.1, h.failsAt_pattern hw hends.2⟩
  | .var x, some s => trivial

/-! ### Reading them -/

theorem reads_spaces {s : String} (h : IsPadded w c c') (hread : spaces.Reads c s d)
    (hne : d.rest ≠ []) : ∃ d', spaces.Reads c' s d' ∧ IsPadded w d d' := by
  obtain ⟨hbetween, hs, hends⟩ := Parsing.reads_spaces.mp hread
  obtain ⟨d', hbetween', hd⟩ := h.exists_between hbetween
  exact ⟨d', Parsing.reads_spaces.mpr ⟨hbetween', hs, hd.ends hends hne⟩, hd⟩

theorem reads_spaced {sign : Char} (hsign : isWhitespace sign = false) (h : IsPadded w c c')
    (hread : (Grammar.spaced sign).Reads c () d) (hne : d.rest ≠ []) :
    ∃ d', (Grammar.spaced sign).Reads c' () d' ∧ IsPadded w d d' := by
  obtain ⟨w₁, w₂, hw₁, hw₂, hbetween, hends⟩ := (Grammar.reads_spaced hsign).mp hread
  obtain ⟨d', hbetween', hd⟩ := h.exists_between hbetween
  exact ⟨d', (Grammar.reads_spaced hsign).mpr ⟨w₁, w₂, hw₁, hw₂, hbetween', hd.ends hends hne⟩,
    hd⟩

/-- What is read again and again goes on in the same way, if what `p` reads depends on what
follows in no other way than by `Q`. -/
theorem repeats {α : Type} {p : Parser α} {Q : Cursor → Prop} {vs : List α}
    (hconsumes : p.Consumes)
    (hread : ∀ {c c' d : Cursor} {v : α}, IsPadded w c c' → p.Reads c v d → Q d →
      ∃ d', p.Reads c' v d' ∧ IsPadded w d d')
    (hQ : ∀ {c d : Cursor} {v : α}, p.Reads c v d → Q c) (h : IsPadded w c c')
    (hrepeats : Parser.Repeats p c vs d) (hd : Q d)
    (hstop : ∀ d', IsPadded w d d' → p.FailsAt d') :
    ∃ d', Parser.Repeats p c' vs d' ∧ IsPadded w d d' := by
  induction hrepeats generalizing c' with
  | stop => exact ⟨c', .stop fun v e hread => absurd hread (hstop c' h v e), h⟩
  | @next c e d v vs read shorter more ih =>
    have he : Q e := by
      cases more with
      | stop => exact hd
      | next read' => exact hQ read'
    obtain ⟨e', read', he'⟩ := hread h read he
    obtain ⟨d', more', hd'⟩ := ih he' hd hstop
    exact ⟨d', .next read' (hconsumes c' v e' read') more', hd'⟩

end IsPadded

end Parsing

namespace Grammar

/-! ### Where paths end -/

/-- A run of text goes on to the next blank, slash or colon. -/
theorem head?_of_repeats_run {rs : List Segment} (h : Parser.Repeats run c rs d) {x : Char}
    (hx : d.rest.head? = some x) : x = ' ' ∨ x = '/' ∨ x = ':' := by
  by_cases hvar : variableRun.FailsAt d
  · -- The text that could still be read here is empty, so its end is here.
    obtain ⟨hbetween, haccepts, hends⟩ := Parser.repeats_satisfy.mp (Parser.repeats_manyFrom
      (satisfy isTextChar (some "path character")) d)
    generalize Parser.manyFrom _ d = text at hbetween haccepts hends
    have hread : run.Reads d (.text (String.ofList text.1) true) text.2 :=
      reads_run.mpr (.inr ⟨hvar, reads_literalRun.mpr ⟨_, rfl, by
        rw [String.toList_ofList]
        exact ⟨hbetween, haccepts, hends⟩⟩⟩)
    have hnil : text.1 = [] := by
      by_contra hne
      exact h.not_reads _ _ hread (hbetween.left_lt_iff.mpr hne)
    rw [hnil] at hbetween
    obtain rfl : d = text.2 := hbetween
    have hend := hends x hx
    simp only [isVariableColon, Bool.and_eq_false_iff, bne_eq_false_iff_eq, Bool.not_eq_false',
      Bool.and_eq_true, decide_eq_true_eq] at hend
    rcases hend with (rfl | rfl) | hcolon
    · exact .inl rfl
    · exact .inr (.inl rfl)
    · exact .inr (.inr hcolon.1)
  · -- A variable goes on with its colon.
    simp only [Parser.FailsAt, not_forall, not_not] at hvar
    obtain ⟨r, e, hread⟩ := hvar
    obtain ⟨y, m, f, -, -, -, hbetween, -⟩ := reads_variableRun.mp hread
    obtain rfl : ':' = x := by simpa [hbetween.rest_eq] using hx
    exact .inr (.inr rfl)

theorem head?_of_reads_segment {s : Segment} (h : segment.Reads c s d) {x : Char}
    (hx : d.rest.head? = some x) : x = ' ' ∨ x = '/' ∨ x = ':' := by
  obtain ⟨rs, e, -, -, hrs⟩ := reads_segment.mp h
  exact head?_of_repeats_run hrs hx

/-- Behind a slash there is always a segment. -/
theorem exists_reads_segment_of_head? (h : c.rest.head? = some '/') :
    ∃ s d, segment.Reads c s d ∧ d.left < c.left := by
  obtain ⟨rest, hrest⟩ := List.head?_eq_some_iff.mp h
  obtain ⟨e, hslash, -⟩ := Cursor.exists_between (s := ['/']) hrest
  have hrs := Parser.repeats_manyFrom run e
  refine ⟨_, _, reads_segment.mpr ⟨_, e, rfl, hslash, hrs⟩, ?_⟩
  exact (hslash.append (between_of_repeats_run hrs)).left_lt_iff.mpr (by simp)

/-- A path goes on to the next blank or colon. -/
theorem head?_of_reads_path {ss : List Segment} (h : path.Reads c ss d) {x : Char}
    (hx : d.rest.head? = some x) : x = ' ' ∨ x = ':' := by
  obtain ⟨s, ss, e, rfl, hs, hss⟩ := Parser.reads_many1.mp h
  have hend : x = ' ' ∨ x = '/' ∨ x = ':' := by
    clear h
    induction hss generalizing s c with
    | stop => exact head?_of_reads_segment hs hx
    | next read _ _ ih => exact ih hx _ read
  rcases hend with rfl | rfl | rfl
  · exact .inl rfl
  · obtain ⟨s', f, hread, hlt⟩ := exists_reads_segment_of_head? hx
    exact absurd hlt (hss.not_reads s' f hread)
  · exact .inr rfl

/-- In the white space that a text ends in there is no blank. -/
def EndsTight (t : List Char) : Prop :=
  ∀ t₀ u, t = t₀ ++ ' ' :: u → ¬IsBlank u

theorem endsTight_of_not_mem (h : ' ' ∉ t) : EndsTight t := by
  rintro t₀ u rfl
  exact absurd (by simp) h

theorem endsTight_concat {x : Char} (hx : isWhitespace x = false) : EndsTight (t ++ [x]) := by
  intro t₀ u heq hu
  have hmem : x ∈ ' ' :: u := by
    have hlast := congrArg List.getLast? heq
    rw [List.getLast?_concat, List.getLast?_append_of_ne_nil _ (List.cons_ne_nil _ _)] at hlast
    exact List.mem_of_getLast? hlast.symm
  exact not_mem_of_isBlank (List.forall_mem_cons.mpr ⟨rfl, hu⟩) hx hmem

theorem EndsTight.append {s : List Char} (hs : EndsTight s) (ht : EndsTight t) :
    EndsTight (s ++ t) := by
  intro t₀ u heq hu
  rcases List.append_eq_append_iff.mp heq with ⟨v, rfl, hv⟩ | ⟨v, hs', hv⟩
  · exact ht v u hv hu
  · cases v with
    | nil => exact ht [] u (by simpa using hv.symm) hu
    | cons x v =>
      -- The blank is in the first text, and white space only follows up to its end.
      obtain ⟨rfl, rfl⟩ := List.cons.inj hv
      exact hs t₀ v hs' fun y hy => hu y (List.mem_append_left _ hy)

theorem Modifier.endsTight (m : Modifier) : EndsTight m.spelling := by
  cases m with
  | quantifier q => cases q <;> exact endsTight_of_not_mem (by decide)
  | pattern p => exact endsTight_concat rfl

theorem endsTight_of_reads_run {r : Segment} (h : run.Reads c r d) :
    EndsTight (r.setPrefixed false).print.toList := by
  rcases reads_run.mp h with h | ⟨-, h⟩
  · obtain ⟨x, m, e, rfl, -, hname, -, -, -⟩ := reads_variableRun.mp h
    rw [Segment.setPrefixed, print_placeholderOf]
    have hvar : EndsTight (':' :: x.toList) :=
      endsTight_of_not_mem (by simp [not_mem_of_isName hname (x := ' ') rfl])
    cases m with
    | none => simpa using hvar
    | some m => exact hvar.append m.endsTight
  · obtain ⟨s, rfl, -, haccepts, -⟩ := reads_literalRun.mp h
    have hprint : (Segment.setPrefixed false (.text s true)).print.toList = s.toList := by
      simp [Segment.setPrefixed, Segment.print, slash]
    rw [hprint]
    refine endsTight_of_not_mem fun hmem => ?_
    obtain ⟨u, v, huv⟩ := List.append_of_mem hmem
    rw [huv, accepts_append, accepts_cons] at haccepts
    simp at haccepts

theorem endsTight_of_repeats_run {rs : List Segment} (h : Parser.Repeats run c rs d) :
    EndsTight (Segment.printAll (rs.map (Segment.setPrefixed false))).toList := by
  induction h with
  | stop => exact endsTight_of_not_mem (by simp [Segment.printAll])
  | next read _ _ ih =>
    rw [List.map_cons, Segment.printAll, String.toList_append]
    exact (endsTight_of_reads_run read).append ih

theorem endsTight_of_reads_segment {s : Segment} (h : segment.Reads c s d) :
    EndsTight s.print.toList := by
  obtain ⟨rs, e, rfl, -, hrs⟩ := reads_segment.mp h
  rw [print_ofRuns (hrs.forall fun _ _ _ hread => (between_of_reads_run hread).2),
    String.toList_append]
  exact (endsTight_of_not_mem (t := "/".toList) (by decide)).append
    (endsTight_of_repeats_run hrs)

/-- What is read as a path takes no blank from the white space behind it. -/
theorem endsTight_print_of_reads_path {ss : List Segment} (h : path.Reads c ss d) :
    EndsTight (Segment.printAll ss).toList := by
  have hall : ∀ s ∈ ss, EndsTight s.print.toList := by
    obtain ⟨s, ss, e, rfl, hs, hss⟩ := Parser.reads_many1.mp h
    exact List.forall_mem_cons.mpr
      ⟨endsTight_of_reads_segment hs,
        hss.forall fun _ _ _ hread => endsTight_of_reads_segment hread⟩
  clear h
  induction ss with
  | nil => exact endsTight_of_not_mem (by simp [Segment.printAll])
  | cons s ss ih =>
    obtain ⟨hs, hss⟩ := List.forall_mem_cons.mp hall
    rw [Segment.printAll, String.toList_append]
    exact hs.append (ih hss)

/-! ### Reading padded paths and stages -/

theorem stopsAt_of_reads_spaced {sign : Char} (hsign : isWhitespace sign = false)
    (h : (spaced sign).Reads c () d) : StopsAt sign c := by
  obtain ⟨w₁, w₂, hw₁, -, hbetween, -⟩ := (reads_spaced hsign).mp h
  exact ⟨w₁, w₂ ++ d.rest, hw₁, by simp [hbetween.rest_eq]⟩

theorem stopsAt_of_reads_spacedQuery {q : Query} (h : spacedQuery.Reads c q d) :
    StopsAt '?' c := by
  obtain ⟨s, e, hs, hq⟩ := reads_spacedQuery.mp h
  obtain ⟨hbetween, hblank, -⟩ := reads_spaces.mp hs
  obtain ⟨t, ht⟩ := exists_cons_print_query q
  exact ⟨s.toList, t ++ d.rest, hblank,
    by rw [hbetween.rest_eq, (reads_query.mp hq).1.rest_eq, ht]; rfl⟩

theorem stopsAt_of_reads_anyStage {es : List Expression} (h : anyStage.Reads c es d) :
    StopsAt '|' c := by
  rcases reads_anyStage.mp h with h | ⟨-, h⟩
  · obtain ⟨f, e, g, rest, -, hbar, -⟩ := reads_stage.mp h
    exact stopsAt_of_reads_spaced rfl hbar
  · exact stopsAt_of_reads_spaced rfl (reads_emptyStage.mp h).2.1

end Grammar

namespace Parsing.IsPadded

open Grammar

theorem reads_spacedQuery (h : IsPadded w c c') (hw : IsBlank w) {q : Query}
    (hread : spacedQuery.Reads c q d) : ∃ d', spacedQuery.Reads c' q d' ∧ IsPadded w d d' := by
  obtain ⟨s, e, hs, hq⟩ := Grammar.reads_spacedQuery.mp hread
  obtain ⟨hbetween, hwell, hends⟩ := reads_query.mp hq
  obtain ⟨t, ht⟩ := exists_cons_print_query q
  obtain ⟨e', hs', he⟩ := h.reads_spaces hs (by simp [hbetween.rest_eq, ht])
  obtain ⟨d', hbetween', hd⟩ := he.exists_between hbetween
  exact ⟨d', Grammar.reads_spacedQuery.mpr ⟨s, e', hs', reads_query.mpr
    ⟨hbetween', hwell, hd.endsTarget hw hends⟩⟩, hd⟩

theorem reads_stage (h : IsPadded w c c') {es : List Expression}
    (hread : stage.Reads c es d) (hstop : StopsAt '|' d) :
    ∃ d', stage.Reads c' es d' ∧ IsPadded w d d' := by
  obtain ⟨f, e, g, rest, rfl, hbar, he, hrest⟩ := Grammar.reads_stage.mp hread
  obtain ⟨hwell, t, ht, hte⟩ := spelled_of_reads_fullExpression he
  obtain ⟨hwells, u, hu, hue⟩ :=
    (understands_fullExpression (g.left + 1)).spelledMore_of_repeats (Nat.lt_succ_self _)
      hrest
  obtain ⟨x, v, hx, -⟩ := ht.exists_cons hwell
  obtain ⟨f', hbar', hf⟩ := h.reads_spaced rfl hbar (by simp [hte.rest_eq, hx])
  obtain ⟨g', hte', hg⟩ := hf.exists_between hte
  obtain ⟨d', hue', hd⟩ := hg.exists_between hue
  have hunderstands := understands_fullExpression (f'.left + 1)
  have hlength := hte'.left_eq
  have he' := hunderstands.complete (Nat.lt_succ_self _) hwell ht hte'
    (isSeparated_of_spelledMore hu hue' ⟨'|', by simp, hd.stopsAt hstop⟩)
  have hrest' := hunderstands.repeats_of_spelledMore (by omega) hwells hu hue' (by simp)
    (hd.stopsAt hstop)
  exact ⟨d', Grammar.reads_stage.mpr ⟨f', e, g', rest, rfl, hbar', he', hrest'⟩, hd⟩

theorem reads_anyStage (h : IsPadded w c c') {es : List Expression}
    (hread : anyStage.Reads c es d) (hstop : StopsAt '|' d) :
    ∃ d', anyStage.Reads c' es d' ∧ IsPadded w d d' := by
  rcases Grammar.reads_anyStage.mp hread with hread | ⟨-, hread⟩
  · obtain ⟨d', hread', hd⟩ := h.reads_stage hread hstop
    exact ⟨d', Grammar.reads_anyStage.mpr (.inl hread'), hd⟩
  · obtain ⟨rfl, hbar, hhead⟩ := reads_emptyStage.mp hread
    obtain ⟨d', hbar', hd⟩ := h.reads_spaced rfl hbar hstop.rest_ne_nil
    have hhead' : d'.rest.head? = some '|' := (hd.head?_eq hstop.rest_ne_nil).trans hhead
    exact ⟨d', Grammar.reads_anyStage.mpr (.inr ⟨failsAt_stage_of_head? hbar' hhead' rfl,
      reads_emptyStage.mpr ⟨rfl, hbar', hhead'⟩⟩), hd⟩

end Parsing.IsPadded

namespace Grammar

/-- A path is read in the same way with white space at the end of the text, unless that
follows its last segment directly and does not begin with a blank. -/
theorem exists_isPadded_of_reads_fullPath {p : Path} (hw : IsBlank w)
    (hrest : c'.rest = c.rest ++ w) (hread : fullPath.Reads c p d)
    (hcolon : d.rest.head? ≠ some ':')
    (hstop : ∀ d', IsPadded w d d' → spacedQuery.FailsAt d')
    (hend : p.queries ≠ [] ∨ d.rest ≠ [] ∨ ∀ x, w.head? = some x → x = ' ') :
    ∃ d', fullPath.Reads c' p d' ∧ IsPadded w d d' := by
  obtain ⟨e, hsegments, hqueries⟩ := reads_fullPath.mp hread
  obtain ⟨t, ht⟩ := exists_cons_print_of_reads_path hsegments
  obtain ⟨e', hsegments', he⟩ := exists_isPadded_of_rest_eq hrest
    (between_of_reads_path hsegments) (by simp [ht])
  -- Behind the segments stands a blank: no colon, and every query has blanks before it.
  have hhead : ∀ x, e.rest.head? = some x → x = ' ' := by
    intro x hx
    rcases head?_of_reads_path hsegments hx with rfl | rfl
    · rfl
    · rcases hqueries.eq_nil_or_reads with ⟨-, rfl⟩ | ⟨q, f, read⟩
      · exact absurd hx hcolon
      · rcases (stopsAt_of_reads_spacedQuery read).head? hx with hblank | hsign
        · cases hblank
        · cases hsign
  have hends : EndsQuery e' := by
    intro x hx
    by_cases hne : e.rest = []
    · -- Nothing follows the last segment, so neither queries nor white space do.
      rw [he.rest_eq, hne, List.nil_append] at hx
      rcases hqueries.eq_nil_or_reads with ⟨hnil, rfl⟩ | ⟨q, f, read⟩
      · exact (hend.resolve_left (by simp [hnil])).resolve_left (by simp [hne]) x hx
      · exact absurd hne (stopsAt_of_reads_spacedQuery read).rest_ne_nil
    · exact hhead x (he.head?_eq hne ▸ hx)
  obtain ⟨d', hqueries', hd⟩ := he.repeats (Q := fun _ => True) consumes_spacedQuery
    (fun h read _ => h.reads_spacedQuery hw read) (fun _ => trivial) hqueries trivial hstop
  have hcontinues : Continues e e' := ⟨he.previous_eq, .inr hends.endsRun, he.staysOpen hw⟩
  exact ⟨d', reads_fullPath.mpr ⟨e', hcontinues.reads_path hends.endsRun hends.failsAt_segment
    hsegments hsegments', hqueries'⟩, hd⟩

/-! ### Padded rules -/

theorem exists_cons_rest_of_reads_fullPath {p : Path} (h : fullPath.Reads c p d) :
    ∃ t, c.rest = '/' :: t := by
  obtain ⟨e, hsegments, -⟩ := reads_fullPath.mp h
  obtain ⟨t, ht⟩ := exists_cons_print_of_reads_path hsegments
  exact ⟨t ++ e.rest, by rw [(between_of_reads_path hsegments).rest_eq, ht]; rfl⟩

theorem isBuilt_anyStage : anyStage.IsBuilt :=
  anyStagePlan.builtFrom builtFrom_expression

/-- White space at the end of a text is told apart by what is before it. -/
theorem eq_of_append_eq {t₁ t₂ u w₁ w₂ : List Char} {x : Char} (hx : isWhitespace x = false)
    (hw₁ : IsBlank w₁) (hw₂ : IsBlank w₂) (h : t₁ ++ x :: u ++ w₁ = t₂ ++ x :: u ++ w₂) :
    w₁ = w₂ := by
  -- Backwards from the end, white space goes on from there to the same place.
  have htake (t w : List Char) (hw : IsBlank w) :
      (t ++ x :: u ++ w).reverse.takeWhile isWhitespace =
        w.reverse ++ u.reverse.takeWhile isWhitespace := by
    rw [List.reverse_append, List.takeWhile_append_of_pos fun y hy => hw y (List.mem_reverse.mp hy),
      List.reverse_append, List.reverse_cons, List.append_assoc, List.singleton_append,
      Text.takeWhile_append_cons_of_neg hx]
  have hreverse : w₁.reverse ++ u.reverse.takeWhile isWhitespace =
      w₂.reverse ++ u.reverse.takeWhile isWhitespace := by
    rw [← htake t₁ w₁ hw₁, ← htake t₂ w₂ hw₂, h]
  exact List.reverse_injective (List.append_cancel_right hreverse)

/-- What is before a sign has no part in the white space at the end. -/
theorem EndsTight.append_left {u : List Char} {x : Char} (hx : isWhitespace x = false)
    (h : EndsTight (x :: u)) (t : List Char) : EndsTight (t ++ x :: u) := by
  intro t₀ v heq hv
  rcases List.append_eq_append_iff.mp heq with ⟨t', -, hu⟩ | ⟨t', -, hv'⟩
  · exact h t' v hu hv
  · have hblank : IsBlank (' ' :: v) := List.forall_mem_cons.mpr ⟨rfl, hv⟩
    exact not_mem_of_isBlank hblank hx (hv' ▸ by simp)

theorem leadsTo_destination {p : Path} {stages : List (List Expression)} {s : String}
    {c₁ c₂ c₃ : Cursor} (hspaces : spaces.Reads c s c₁) (hsource : fullPath.Reads c₁ p c₂)
    (hstages : Parser.Repeats anyStage c₂ stages c₃) (hbar : (spaced '|').Reads c₃ () d) :
    c.LeadsTo d := by
  obtain ⟨w₁, w₂, -, -, hbar, -⟩ := (reads_spaced rfl).mp hbar
  have h₁ : c.LeadsTo c₁ := ⟨_, (reads_spaces.mp hspaces).1⟩
  have h₂ : c₁.LeadsTo c₂ := Parser.IsBuilt.leadsTo builtFrom_fullPath hsource
  have h₃ : c₂.LeadsTo c₃ :=
    Parser.IsBuilt.leadsTo (.many isBuilt_anyStage) (Parser.reads_many.mpr hstages)
  exact ((h₁.trans h₂).trans h₃).trans ⟨_, hbar⟩

/-- A destination without queries ends in its print, and the white space behind it begins with
a blank, if with anything. -/
theorem exists_print_of_reads_destination {p : Path} {s : String} (hleads : (start s).LeadsTo c)
    (hread : fullPath.Reads c p d) (hqueries : p.queries = []) (hd : IsBlank d.rest) :
    ∃ t u, s.toList = t ++ '/' :: u ++ d.rest ∧ (Segment.printAll p.segments).toList = '/' :: u ∧
      EndsTight ('/' :: u) ∧ ∀ x, d.rest.head? = some x → x = ' ' := by
  obtain ⟨t, ht⟩ := hleads
  obtain ⟨e, hsegments, hnone⟩ := reads_fullPath.mp hread
  rw [hqueries] at hnone
  obtain rfl : e = d := by
    cases hnone
    rfl
  obtain ⟨u, hu⟩ := exists_cons_print_of_reads_path hsegments
  refine ⟨t, u, ?_, hu, hu ▸ endsTight_print_of_reads_path hsegments, fun x hx => ?_⟩
  · calc
      s.toList = t ++ c.rest := ht.rest_eq
      _ = t ++ '/' :: u ++ e.rest := by
        rw [(between_of_reads_path hsegments).rest_eq, hu, List.append_assoc]
  · rcases head?_of_reads_path hsegments hx with rfl | rfl
    · rfl
    · exact absurd (hd _ (List.mem_of_head? hx)) (by decide)

/-- What keeps white space behind a rule from going on with its last text stands between the two
already, or it is the blank that the white space begins with. -/
theorem separates_destination {p : Path} {s : String} {w : List Char}
    (hleads : (start s).LeadsTo c) (hread : fullPath.Reads c p d) (hd : IsBlank d.rest)
    (hend : (∀ x, w.head? = some x → x = ' ') ∨ p.queries ≠ [] ∨ ¬EndsTight s.toList) :
    p.queries ≠ [] ∨ d.rest ≠ [] ∨ ∀ x, w.head? = some x → x = ' ' := by
  by_contra hnone
  push Not at hnone
  obtain ⟨hqueries, hnil, x, hx, hne⟩ := hnone
  obtain ⟨t, u, hs, -, htight, -⟩ := exists_print_of_reads_destination hleads hread hqueries hd
  rw [hnil, List.append_nil] at hs
  rcases hend with hhead | hqueries' | hloose
  · exact hne (hhead x hx)
  · exact hqueries' hqueries
  · exact hloose (hs ▸ htight.append_left rfl t)

/-- White space around a rule is skipped. That at the end must begin with a blank, unless
the destination has queries, or the rule itself ends in white space with a blank in it. -/
theorem parseRule_padded {s w₁ w₂ : String} {r : Rule} (h : parseRule s = .ok r)
    (hw₁ : IsBlank w₁.toList) (hw₂ : IsBlank w₂.toList)
    (hend : (∀ x, w₂.toList.head? = some x → x = ' ') ∨ r.destination.queries ≠ [] ∨
      ¬EndsTight s.toList) : parseRule (w₁ ++ s ++ w₂) = .ok r := by
  obtain ⟨d, hread, hd⟩ := Parser.parseFull_eq_ok_iff.mp h
  obtain ⟨w, c₁, c₂, stages, c₃, c₄, c₅, w', hpipeline, hspaces₁, hsource, hstages, hbar,
    hdestination, hw'⟩ := reads_rule.mp hread
  obtain ⟨hw, hblank, -⟩ := reads_spaces.mp hspaces₁
  obtain ⟨hw', hblank', -⟩ := reads_spaces.mp hw'
  have hrest₅ : c₅.rest = w'.toList := by rw [hw'.rest_eq, hd, List.append_nil]
  obtain ⟨t₁, ht₁⟩ := exists_cons_rest_of_reads_fullPath hsource
  obtain ⟨t₄, ht₄⟩ := exists_cons_rest_of_reads_fullPath hdestination
  have hstop₃ : StopsAt '|' c₃ := stopsAt_of_reads_spaced rfl hbar
  have hstop₂ : StopsAt '|' c₂ := by
    rcases hstages.eq_nil_or_reads with ⟨-, rfl⟩ | ⟨es, e, hread⟩
    · exact hstop₃
    · exact stopsAt_of_reads_anyStage hread
  -- All the white space before the source is read at once.
  have hstart : (start (w₁ ++ s ++ w₂)).rest =
      w₁.toList ++ w.toList ++ (c₁.rest ++ w₂.toList) := by
    simp [start, show s.toList = w.toList ++ c₁.rest from hw.rest_eq]
  obtain ⟨d₁, hspaces, -, hd₁⟩ := exists_reads_spaces hstart
    (List.forall_mem_append.mpr ⟨hw₁, hblank⟩) (by simp [ht₁, isWhitespace])
  -- What stands between the paths is read as before, as more text follows.
  obtain ⟨d₂, hsource', h₂⟩ := exists_isPadded_of_reads_fullPath hw₂ hd₁ hsource
    (fun hcolon => by rcases hstop₂.head? hcolon with hx | hx <;> cases hx)
    (fun e he => failsAt_spacedQuery_of (he.stopsAt hstop₂) rfl (by decide))
    (.inr (.inl hstop₂.rest_ne_nil))
  obtain ⟨d₃, hstages', h₃⟩ := h₂.repeats (Q := StopsAt '|') Grammar.consumes_anyStage
    (fun h read hstop => h.reads_anyStage read hstop) stopsAt_of_reads_anyStage hstages hstop₃
    fun e he => by
      obtain ⟨f, hbar', hf⟩ := he.reads_spaced rfl hbar (by simp [ht₄])
      exact failsAt_anyStage_of_head? hbar' (by simp [hf.rest_eq, ht₄])
  obtain ⟨d₄, hbar', h₄⟩ := h₃.reads_spaced rfl hbar (by simp [ht₄])
  -- Behind the destination there is only white space, so no query begins there.
  obtain ⟨d₅, hdestination', h₅⟩ := exists_isPadded_of_reads_fullPath hw₂ h₄.rest_eq hdestination
    (fun hcolon => by
      have hmem : ':' ∈ w'.toList := List.mem_of_head? (hrest₅ ▸ hcolon)
      exact absurd (hblank' _ hmem) (by decide))
    (fun e he => failsAt_spacedQuery_of_isBlank (by
      rw [he.rest_eq, hrest₅]
      exact List.forall_mem_append.mpr ⟨hblank', hw₂⟩))
    (separates_destination (leadsTo_destination hspaces₁ hsource hstages hbar) hdestination
      (hrest₅ ▸ hblank') hend)
  have hrest₅' : d₅.rest = w'.toList ++ w₂.toList ++ [] := by simp [h₅.rest_eq, hrest₅]
  obtain ⟨d₆, hspaces', -, hd₆⟩ := exists_reads_spaces hrest₅'
    (List.forall_mem_append.mpr ⟨hblank', hw₂⟩) (by simp)
  exact Parser.parseFull_eq_ok_iff.mpr ⟨d₆, reads_rule.mpr ⟨_, d₁, d₂, stages, d₃, d₄, d₅, _,
    hpipeline, hspaces, hsource', hstages', hbar', hdestination', hspaces'⟩, hd₆⟩

/-- A rule that has no queries in its destination ends in the print of that, and in white
space that begins with a blank, if with anything. -/
theorem exists_print_of_parseRule {s : String} {r : Rule} (h : parseRule s = .ok r)
    (hqueries : r.destination.queries = []) :
    ∃ t u w, s.toList = t ++ '/' :: u ++ w ∧ IsBlank w ∧
      (Segment.printAll r.destination.segments).toList = '/' :: u ∧
      ∀ x, w.head? = some x → x = ' ' := by
  obtain ⟨d, hread, hd⟩ := Parser.parseFull_eq_ok_iff.mp h
  obtain ⟨w, c₁, c₂, stages, c₃, c₄, c₅, w', -, hspaces, hsource, hstages, hbar, hdestination,
    hw'⟩ := reads_rule.mp hread
  obtain ⟨hw', hblank, -⟩ := reads_spaces.mp hw'
  have hrest : c₅.rest = w'.toList := by rw [hw'.rest_eq, hd, List.append_nil]
  obtain ⟨t, u, hs, hu, -, hhead⟩ := exists_print_of_reads_destination
    (leadsTo_destination hspaces hsource hstages hbar) hdestination hqueries (hrest ▸ hblank)
  exact ⟨t, u, c₅.rest, hs, hrest ▸ hblank, hu, hhead⟩

/-- White space around a rule is skipped exactly where it does not go on with the last text
of the destination: where that at the end begins with a blank, where queries or white space
with a blank in it come between, or where there is none. -/
theorem parseRule_padded_iff {s w₁ w₂ : String} {r : Rule} (h : parseRule s = .ok r)
    (hw₁ : IsBlank w₁.toList) (hw₂ : IsBlank w₂.toList) :
    parseRule (w₁ ++ s ++ w₂) = .ok r ↔
      (∀ x, w₂.toList.head? = some x → x = ' ') ∨ r.destination.queries ≠ [] ∨
        ¬EndsTight s.toList := by
  refine ⟨fun hpadded => ?_, parseRule_padded h hw₁ hw₂⟩
  by_contra hnone
  push Not at hnone
  obtain ⟨⟨x, hx, hne⟩, hqueries, htight⟩ := hnone
  obtain ⟨t, u, w, hs, hw, hu, hhead⟩ := exists_print_of_parseRule h hqueries
  obtain ⟨t', u', w', hs', hw', hu', hhead'⟩ := exists_print_of_parseRule hpadded hqueries
  obtain rfl : u = u' := (List.cons.inj (hu.symm.trans hu')).2
  -- White space behind the destination would begin with a blank.
  have hnil : w = [] := by
    cases w with
    | nil => rfl
    | cons y w =>
      obtain rfl : y = ' ' := hhead y rfl
      exact absurd (fun z hz => hw z (List.mem_cons_of_mem _ hz)) (htight _ w hs)
  have htext : w₁.toList ++ t ++ '/' :: u ++ w₂.toList = t' ++ '/' :: u ++ w' := by
    rw [← hs', String.toList_append, String.toList_append, hs, hnil, List.append_nil]
    simp only [List.append_assoc]
  have hsame : w₂.toList = w' := eq_of_append_eq rfl hw₂ hw' htext
  exact hne (hhead' x (hsame ▸ hx))

/-- Where the destination has a query, any white space behind it is skipped. -/
theorem parseRule_padded_of_query :
    ∃ r, parseRule "/a | /b ??q=:a" = .ok r ∧ IsBlank "\n\t".toList ∧ IsBlank "\t\n ".toList ∧
      parseRule ("\n\t" ++ "/a | /b ??q=:a" ++ "\t\n ") = .ok r := by
  have hquery : (parseRule "/a | /b ??q=:a").toOption.any (·.destination.queries ≠ []) := by
    decide +kernel
  have hw₁ : IsBlank "\n\t".toList := by decide
  have hw₂ : IsBlank "\t\n ".toList := by decide
  cases h : parseRule "/a | /b ??q=:a" with
  | error e =>
    rw [h] at hquery
    cases hquery
  | ok r =>
    rw [h] at hquery
    have hqueries : r.destination.queries ≠ [] := of_decide_eq_true hquery
    exact ⟨r, rfl, hw₁, hw₂, (parseRule_padded_iff h hw₁ hw₂).mpr (.inr (.inl hqueries))⟩

/-- A tabulator behind a rule is taken for a part of its destination. -/
theorem parseRule_ne_of_tabulator :
    ∃ r, parseRule "/a | /b" = .ok r ∧ IsBlank "\t".toList ∧
      parseRule ("" ++ "/a | /b" ++ "\t") ≠ .ok r := by
  have hne : (parseRule "/a | /b").toOption.any
      (fun r => (parseRule ("" ++ "/a | /b" ++ "\t")).toOption ≠ some r) := by
    decide +kernel
  cases h : parseRule "/a | /b" with
  | error e =>
    rw [h] at hne
    cases hne
  | ok r =>
    rw [h] at hne
    refine ⟨r, rfl, by decide, fun hpadded => ?_⟩
    rw [hpadded] at hne
    exact of_decide_eq_true hne rfl

end Grammar

end Reroute
