import Mathlib.Data.List.Chain
import Reroute.Proofs.Grammar.Path
import Reroute.Proofs.Parsing.Place

/-!
# What paths that were read look like

A path keeps the text that it was read from: printing its segments and queries gives that
text back. How the text is split is told by the shape of the path. Literal text goes on as
long as it can, and a repetition ends where nothing is read, so among several runs behind one
slash no text is empty, and no two texts are next to each other.

## Main definitions

* `Placeholder.IsWellFormed`, `Grammar.IsPathText` — the parts of a segment
* `Segment.IsRun`, `Segment.MayPrecede`, `Segment.AreRuns` — the runs behind one slash
* `Segment.IsWellShaped`, `Path.IsWellShaped` — segments and paths

## Main results

* `Grammar.isWellShaped_of_parse` — every path that is read has this shape
* `Grammar.isVerbatim_segment_path_query` — what is read is printed as it was written
-/

set_option autoImplicit false

namespace Reroute

open Parsing Cursor Grammar

variable {c d : Cursor}

/-! ### Shapes -/

namespace Grammar

/-- Literal text of a path: it has no blank and no slash, and every colon has a backslash just
before it, in the text itself. -/
structure IsPathText (text : String) : Prop where
  no_blank : ' ' ∉ text.toList
  no_slash : '/' ∉ text.toList
  colons : Accepts (isInside ':') none text.toList

end Grammar

/-- Whether a placeholder can be written down. -/
structure Placeholder.IsWellFormed (p : Placeholder) : Prop where
  name : IsName p.name
  modifier : p.quantifier = none ∨ p.pattern = none
  pattern : ∀ s ∈ p.pattern, IsEnclosable ')' s.toList

namespace Segment

/-- A single run of text or a variable, with a slash of its own or without. -/
def IsRun (prefixed : Bool) : Segment → Prop
  | text s hasSlash => hasSlash = prefixed ∧ IsPathText s
  | placeholder p => p.prefixed = prefixed ∧ p.IsWellFormed
  | compound _ => False

/-- Whether one run may stand just before another: text is not split, and a backslash would
make the colon of a variable a part of the text. -/
def MayPrecede : Segment → Segment → Prop
  | text _ _, text _ _ => False
  | text s _, placeholder _ => s.toList.getLast? ≠ some '\\'
  | _, _ => True

/-- The runs of a compound segment. -/
structure AreRuns (runs : List Segment) : Prop where
  two_le : 2 ≤ runs.length
  head : ∀ run ∈ runs.head?, run.IsRun true
  tail : ∀ run ∈ runs.tail, run.IsRun false
  no_empty_text : ∀ prefixed, text "" prefixed ∉ runs
  isChain : runs.IsChain MayPrecede

/-- A segment is a single run behind a slash or a compound of several runs. -/
def IsWellShaped : Segment → Prop
  | compound runs => AreRuns runs
  | s => s.IsRun true

end Segment

/-- The shape of a path that was read. -/
structure Path.IsWellShaped (p : Path) : Prop where
  segments_ne_nil : p.segments ≠ []
  segments : ∀ s ∈ p.segments, s.IsWellShaped
  queries : ∀ q ∈ p.queries, IsWellFormedQuery q

namespace Segment

variable {r r' : Segment} {prefixed : Bool}

theorem IsRun.setPrefixed (h : r.IsRun prefixed) (b : Bool) : (r.setPrefixed b).IsRun b := by
  cases r with
  | text s hasSlash => exact ⟨rfl, h.2⟩
  | placeholder p => exact ⟨rfl, h.2.name, h.2.modifier, h.2.pattern⟩
  | compound runs => exact h.elim

theorem setPrefixed_ne_empty (h : ∀ b, r ≠ text "" b) (b b' : Bool) :
    r.setPrefixed b ≠ text "" b' := by
  cases r with
  | text s hasSlash =>
    rintro ⟨⟩
    exact h hasSlash rfl
  | placeholder | compound => exact nofun

@[simp] theorem mayPrecede_setPrefixed_right {b : Bool} :
    r.MayPrecede (r'.setPrefixed b) ↔ r.MayPrecede r' := by
  cases r <;> cases r' <;> rfl

@[simp] theorem mayPrecede_setPrefixed_left {b : Bool} :
    (r.setPrefixed b).MayPrecede r' ↔ r.MayPrecede r' := by
  cases r <;> cases r' <;> rfl

/-- Runs that may stand next to each other are made one segment. -/
theorem isWellShaped_ofRuns {runs : List Segment}
    (hruns : ∀ r ∈ runs, r.IsRun true ∧ ∀ b, r ≠ text "" b) (hchain : runs.IsChain MayPrecede) :
    (ofRuns runs).IsWellShaped := by
  match runs with
  | [] => exact ⟨rfl, by simp, by simp, trivial⟩
  | [r] =>
    obtain ⟨hr, -⟩ := hruns r (by simp)
    cases r with
    | text | placeholder => exact hr
    | compound => exact hr.elim
  | r :: r' :: runs =>
    obtain ⟨⟨hr, hne⟩, hruns⟩ := List.forall_mem_cons.mp hruns
    refine AreRuns.mk (by simp) (by simpa using hr) ?_ ?_ ?_
    · rw [List.tail_cons, List.forall_mem_map]
      exact fun s hs => (hruns s hs).1.setPrefixed false
    · intro b hmem
      rcases List.mem_cons.mp hmem with heq | hmem
      · exact hne b heq.symm
      · obtain ⟨s, hs, heq⟩ := List.mem_map.mp hmem
        exact setPrefixed_ne_empty (hruns s hs).2 false b heq
    · -- Taking the slash away does not change which runs are next to each other.
      obtain ⟨hfirst, hchain⟩ := List.isChain_cons_cons.mp hchain
      rw [List.map_cons, List.isChain_cons_cons, ← List.map_cons, List.isChain_map]
      simpa using ⟨hfirst, hchain⟩

end Segment

namespace Grammar

/-! ### Runs -/

/-- Text behind something else than a backslash is literal text of its own. -/
theorem isPathText_of_accepts {s : String} {previous : Option Char}
    (h : Accepts isTextChar previous s.toList) (hprevious : previous ≠ some '\\') :
    IsPathText s := by
  have hchars : ∀ x ∈ s.toList, x != ' ' && x != '/' :=
    accepts_iff_forall.mp (h.imp fun x p hx => (Bool.and_eq_true_iff.mp hx).1)
  refine ⟨fun hmem => ?_, fun hmem => ?_, (accepts_isInside_iff hprevious).mp (h.imp ?_)⟩
  · simpa using hchars ' ' hmem
  · simpa using hchars '/' hmem
  · intro x p hx
    have hcolon := (Bool.and_eq_true_iff.mp hx).2
    simpa [isVariableColon, isInside, or_iff_not_imp_left] using hcolon

theorem Modifier.getLast?_spelling_ne (m : Modifier) : m.spelling.getLast? ≠ some '\\' := by
  cases m with
  | quantifier q => cases q <;> decide
  | pattern p =>
    rw [spelling, List.getLast?_concat]
    decide

theorem isWellFormed_placeholderOf {x : String} {m : Option Modifier} (hx : IsName x)
    (hm : ∀ k ∈ m, k.IsWellFormed) : (placeholderOf x m).IsWellFormed := by
  match m with
  | none => exact ⟨hx, .inl rfl, nofun⟩
  | some (.quantifier q) => exact ⟨hx, .inr rfl, nofun⟩
  | some (.pattern p) =>
    refine ⟨hx, .inl rfl, fun s hs => ?_⟩
    obtain rfl := Option.some.inj hs
    exact hm _ rfl

/-- A variable is well formed, and neither before it nor at its end there is a backslash. -/
theorem isRun_of_reads_variableRun {r : Segment} (h : variableRun.Reads c r d) :
    (∃ p, r = .placeholder p) ∧ r.IsRun true ∧ c.previous ≠ some '\\' ∧
      d.previous ≠ some '\\' := by
  obtain ⟨x, m, e, rfl, hprevious, hname, hbetween, -, hm⟩ := reads_variableRun.mp h
  have he : e.previous ≠ some '\\' := by
    have hx : (':' :: x.toList).getLast? ≠ some '\\' :=
      Expression.getLast?_append_ne (s := [':']) (by decide)
        (Expression.getLast?_ne_of_not_mem (not_mem_of_isName hname rfl))
    exact hbetween.previous_ne hprevious hx
  have hprefixed : (placeholderOf x m).prefixed = true := by
    rcases m with _ | ⟨_⟩ | ⟨_⟩ <;> rfl
  refine ⟨⟨_, rfl⟩, ⟨hprefixed, isWellFormed_placeholderOf hname ?_⟩, hprevious, ?_⟩
  · rcases Parser.reads_optional.mp hm with ⟨k, rfl, hk⟩ | ⟨rfl, -⟩
    · rintro _ ⟨⟩
      exact (reads_modifier.mp hk).2
    · exact nofun
  · rcases Parser.reads_optional.mp hm with ⟨k, rfl, hk⟩ | ⟨-, rfl, -⟩
    · exact (reads_modifier.mp hk).1.previous_ne he k.getLast?_spelling_ne
    · exact he

/-- Where a run may begin: not behind a backslash, unless text ends there. -/
def BeginsRun (c : Cursor) : Prop :=
  c.previous ≠ some '\\' ∨ Ends isTextChar c

theorem isRun_of_reads_run {r : Segment} (hc : BeginsRun c) (h : run.Reads c r d)
    (hshorter : d.left < c.left) :
    (r.IsRun true ∧ ∀ b, r ≠ .text "" b) ∧ BeginsRun d := by
  rcases reads_run.mp h with h | ⟨-, h⟩
  · obtain ⟨⟨p, rfl⟩, hrun, -, hd⟩ := isRun_of_reads_variableRun h
    exact ⟨⟨hrun, nofun⟩, .inl hd⟩
  · obtain ⟨s, rfl, hbetween, haccepts, hends⟩ := reads_literalRun.mp h
    -- Behind other text no text is read, so before this one there is no backslash.
    have hc := hc.resolve_right (not_ends_of_accepts hbetween haccepts hshorter)
    refine ⟨⟨⟨rfl, isPathText_of_accepts haccepts hc⟩, ?_⟩, .inr hends⟩
    rintro b ⟨⟩
    exact hbetween.left_lt_iff.mp hshorter rfl

theorem mayPrecede_of_reads_run {e : Cursor} {r r' : Segment} (h : run.Reads c r d)
    (h' : run.Reads d r' e) (hshorter : e.left < d.left) : r.MayPrecede r' := by
  rcases reads_run.mp h with h | ⟨-, h⟩
  · obtain ⟨⟨p, rfl⟩, -⟩ := isRun_of_reads_variableRun h
    trivial
  · obtain ⟨s, rfl, hbetween, -, hends⟩ := reads_literalRun.mp h
    rcases reads_run.mp h' with h' | ⟨-, h'⟩
    · obtain ⟨⟨p, rfl⟩, -, hd, -⟩ := isRun_of_reads_variableRun h'
      -- The character before the variable is the last one of the text, if there is one.
      intro hlast
      rw [hbetween.previous_eq, hlast] at hd
      exact hd rfl
    · obtain ⟨s', rfl, hbetween', haccepts', -⟩ := reads_literalRun.mp h'
      exact not_ends_of_accepts hbetween' haccepts' hshorter hends

/-! ### Segments and paths -/

theorem isWellShaped_of_reads_segment {s : Segment} (h : segment.Reads c s d) :
    s.IsWellShaped := by
  obtain ⟨rs, e, rfl, hslash, hrs⟩ := reads_segment.mp h
  -- The first run stands behind the slash, and each one ends where the next may begin.
  have he : BeginsRun e := by
    rw [BeginsRun, hslash.previous_eq]
    exact .inl (by simp)
  exact Segment.isWellShaped_ofRuns
    (hrs.forall_of_invariant he fun _ _ _ => isRun_of_reads_run)
    (hrs.isChain fun _ _ _ _ _ => mayPrecede_of_reads_run)

theorem isWellShaped_of_reads_fullPath {p : Path} (h : fullPath.Reads c p d) :
    p.IsWellShaped := by
  obtain ⟨e, hsegments, hqueries⟩ := reads_fullPath.mp h
  obtain ⟨s, ss, f, hsplit, hs, hss⟩ := Parser.reads_many1.mp hsegments
  refine ⟨by simp [hsplit], ?_, (neverCloses_of_repeats_query hqueries).1⟩
  rw [hsplit, List.forall_mem_cons]
  exact ⟨isWellShaped_of_reads_segment hs,
    hss.forall fun _ _ _ => isWellShaped_of_reads_segment⟩

/-- Whatever is read as a path, it has the shape of a path. -/
theorem isWellShaped_of_parse {text : String} {offset : Nat} {p : Path} {next : Cursor}
    (h : fullPath.parse text offset = .success p next) : p.IsWellShaped :=
  isWellShaped_of_reads_fullPath h

/-- Text with a colon in it, variables with a pattern and a quantifier, and both kinds of
queries. -/
theorem isWellShaped_of_parse_runs :
    ∃ p next, fullPath.parse "/a\\:b:c(x)-:d+/ ??q=:v(y) ??k=1" 0 = .success p next ∧
      p.IsWellShaped := by
  have hread : ((fullPath.parse "/a\\:b:c(x)-:d+/ ??q=:v(y) ??k=1" 0).value?).isSome := by
    decide +kernel
  cases h : fullPath.parse "/a\\:b:c(x)-:d+/ ??q=:v(y) ??k=1" 0 with
  | success p next => exact ⟨p, next, rfl, isWellShaped_of_parse h⟩
  | failure stop error =>
    rw [h] at hread
    cases hread

/-! ### The text of a path -/

theorem printAll_eq_join (ss : List Segment) :
    Segment.printAll ss = String.join (ss.map Segment.print) := by
  induction ss with
  | nil => rfl
  | cons s ss ih => rw [Segment.printAll, ih, List.map_cons, String.join_cons]

/-- A segment, a path or a query is printed as it was written. -/
theorem isVerbatim_segment_path_query :
    segment.IsVerbatim Segment.print ∧
      path.IsVerbatim (fun segments => String.join (segments.map Segment.print)) ∧
      query.IsVerbatim Query.print := by
  refine ⟨?_, ?_, ?_⟩
  · refine Parser.isVerbatim_of_between fun c s d h => ⟨between_of_reads_segment h, ?_⟩
    obtain ⟨t, ht⟩ := exists_cons_print_of_reads_segment h
    simp [ht]
  · refine Parser.isVerbatim_of_between fun c ss d h => ?_
    rw [← printAll_eq_join]
    obtain ⟨t, ht⟩ := exists_cons_print_of_reads_path h
    exact ⟨between_of_reads_path h, by simp [ht]⟩
  · refine Parser.isVerbatim_of_between fun c q d h => ⟨(reads_query.mp h).1, ?_⟩
    obtain ⟨t, ht⟩ := exists_cons_print_query q
    simp [ht]

/-- Offsets count bytes: this path begins behind a letter of two bytes. -/
theorem slice?_eq_print_behind_letter :
    ∃ segments next, path.parse "é/a:b+-/\\:c |" 2 = .success segments next ∧
      slice? "é/a:b+-/\\:c |" 2 next.offset =
        some (String.join (segments.map Segment.print)) := by
  have hread : ((path.parse "é/a:b+-/\\:c |" 2).value?).isSome := by decide +kernel
  cases h : path.parse "é/a:b+-/\\:c |" 2 with
  | success segments next =>
    exact ⟨segments, next, rfl, isVerbatim_segment_path_query.2.1 _ _ _ _ h⟩
  | failure stop error =>
    rw [h] at hread
    cases hread

end Grammar

end Reroute
