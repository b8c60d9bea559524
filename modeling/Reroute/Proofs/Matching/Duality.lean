import Reroute.Proofs.Matching.Segments

/-!
# Matching and filling in

Where literal text is escaped and no pattern is declared, matching a URL and filling in a
path undo each other.

## Main results

* `PathMatcher.extract_renderAll` — what is read off a URL fills in the path of the URL,
  and every path that can be filled in is read
-/

set_option autoImplicit false

namespace Reroute

open Regex

theorem Path.isPlain_of_escapeLiterals {options : Options} {p : Path}
    (hescape : options.escapeLiterals = true) (hpattern : ∀ q ∈ p.placeholders, q.pattern = none) :
    p.IsPlain options where
  pattern := hpattern
  literal := fun t _ => by rw [Options.literal, if_pos hescape]

/-- Every variable of a path has the value of its group, if it is not written twice. -/
theorem Path.resolve_ofValues {p : Path} {found : Match} {u : Url}
    (hnames : (p.placeholders.map Placeholder.name).Nodup) {q : Placeholder} {i : Nat}
    (hmem : (q, i) ∈ p.placeholders.zipIdx) (hquery : ∀ r ∈ p.queries, r.target ≠ .var q.name) :
    (Bindings.ofValues (p.pathValues found ++ p.queryValues u)).resolve q.name =
      some (q.valueOf (found.named? (Group.nameOf q.name i))) := by
  have hnone : (p.queryValues u).reverse.lookup q.name = none := by
    apply lookup_reverse_eq_none
    rw [map_fst_queryValues, List.mem_filterMap]
    rintro ⟨r, hr, htarget⟩
    exact hquery r hr (Query.boundName?_eq_some.mp htarget)
  rw [Bindings.resolve_ofValues, List.reverse_append, List.lookup_append, hnone, Option.none_or]
  apply lookup_reverse_of_mem
  · rw [map_fst_pathValues]
    exact hnames
  · exact List.mem_map.mpr ⟨(q, i), hmem, rfl⟩

namespace PathMatcher

variable {options : Options} {p : Path} {m : PathMatcher}

/-- Matching and filling in are dual: what is read off a URL is well shaped and fills in
the path of the URL, and if well-shaped bindings fill in the path of a URL, something is
read off it. -/
theorem extract_renderAll (hescape : options.escapeLiterals = true)
    (hpattern : ∀ q ∈ p.placeholders, q.pattern = none)
    (hnames : (p.placeholders.map Placeholder.name).Nodup)
    (hqueries : ∀ q ∈ p.placeholders, ∀ r ∈ p.queries, r.target ≠ .var q.name)
    (hcompile : PathMatcher.compile options p = .ok m) (u : Url) :
    (∀ b, m.extract u = some b →
      b.WellShaped p.placeholders ∧ Segment.renderAll b p.segments = .ok u.path) ∧
    ((∃ b : Bindings, b.WellShaped p.placeholders ∧
        Segment.renderAll b p.segments = .ok u.path) →
      (m.extract u).isSome) := by
  have hplain : p.IsPlain options := Path.isPlain_of_escapeLiterals hescape hpattern
  have hregex := (eq_of_compile hcompile).1
  rw [extract_of_compile hcompile u]
  constructor
  · intro b hb
    obtain ⟨found, hfound, rfl⟩ := Option.map_eq_some_iff.mp hb
    obtain ⟨hfits, hrender⟩ := hplain.fits_of_find? hregex hfound
    -- No name is bound twice, so every variable still has the value of its group.
    have hvalue : ∀ q i, (q, i) ∈ p.placeholders.zipIdx →
        (Bindings.ofValues (p.pathValues found ++ p.queryValues u)).resolve q.name =
          some (q.valueOf (found.named? (Group.nameOf q.name i))) := fun q i hmem =>
      Path.resolve_ofValues hnames hmem (hqueries q (List.fst_mem_of_mem_zipIdx hmem))
    refine ⟨fun q hq => ?_, hrender _ hvalue⟩
    obtain ⟨i, hi⟩ := List.mem_iff_getElem?.mp hq
    have hmem : (q, i) ∈ p.placeholders.zipIdx := List.mk_mem_zipIdx_iff_getElem?.mpr hi
    exact ⟨_, hvalue q i hmem, hfits q i hmem⟩
  · rintro ⟨b, hfits, hrender⟩
    rw [Option.isSome_map]
    exact hplain.isSome_find? hregex hfits hrender

/-- Text between variables, and a list behind them. -/
theorem isSome_extract_files :
    ∃ m, PathMatcher.compile { escapeLiterals := true }
        { segments :=
            [.compound [.placeholder { name := "stem" }, .text "." false,
                .placeholder { name := "kind", prefixed := false }],
              .placeholder { name := "rest", quantifier := some .zeroOrMore }]
          queries := [⟨"page", .var "page", none⟩] } = .ok m ∧
      (m.extract ⟨"https", none, false, "/a.b/c/d", none, none⟩).isSome := by
  obtain ⟨m, hcompile⟩ : ∃ m, PathMatcher.compile { escapeLiterals := true }
      { segments :=
          [.compound [.placeholder { name := "stem" }, .text "." false,
              .placeholder { name := "kind", prefixed := false }],
            .placeholder { name := "rest", quantifier := some .zeroOrMore }]
        queries := [⟨"page", .var "page", none⟩] } = .ok m :=
    exists_eq_ok_of_isOk (by decide +kernel)
  have hdual := extract_renderAll rfl (by decide) (by decide) (by decide) hcompile
    ⟨"https", none, false, "/a.b/c/d", none, none⟩
  exact ⟨m, hcompile, hdual.2 ⟨Bindings.ofValues
    [("stem", .text "a"), ("kind", .text "b"), ("rest", .list ["c", "d"])], by decide, by decide⟩⟩

end PathMatcher

end Reroute
