import Reroute.Proofs.Matching.Duality

/-!
# Values that are read back

A path that was filled in can often be read in several ways, since the variables of
neighbouring placeholders may share out its parts among them. If every segment stands
behind a slash of its own and is either literal text or a variable, the parts are those of
the segments one after the other; and if at most one placeholder has a quantifier, the
number of parts tells how many of them are its own. So there is one way only, and the
values that the path was filled in with are read off it again.

## Main definitions

* `Segment.IsSimple` — one literal text or variable behind a slash
* `Placeholder.parts`, `Segment.parts` — the texts that stand behind slashes

## Main results

* `Segment.renderAll_eq_join` — simple segments become their parts, each behind a slash
* `Segment.parts_eq_of_flatMap_eq` — the parts of all segments tell those of each
* `PathMatcher.extract_of_renderAll` — the values that a path was filled in with are read
  off it
-/

set_option autoImplicit false

namespace Reroute

open Regex

/-! ### Parts behind slashes -/

/-- One literal text without slashes or one variable, behind a slash. -/
def Segment.IsSimple : Segment → Prop
  | .text s prefixed => prefixed ∧ '/' ∉ s.toList
  | .placeholder p => p.prefixed
  | .compound _ => False

instance : DecidablePred Segment.IsSimple
  | .text s prefixed => inferInstanceAs (Decidable (prefixed ∧ '/' ∉ s.toList))
  | .placeholder p => inferInstanceAs (Decidable (p.prefixed = true))
  | .compound _ => inferInstanceAs (Decidable False)

/-- The texts that stand behind slashes when a value fills in a placeholder. -/
def Placeholder.parts (p : Placeholder) : Value → List String
  | .text s => if p.quantifier = some .optional ∧ s = "" then [] else [s]
  | .list items => items
  | .number _ | .bool _ => []

/-- The texts that stand behind slashes when a segment is filled in. -/
def Segment.parts (b : Bindings) : Segment → List String
  | .text s _ => [s]
  | .placeholder p => ((b.resolve p.name).map p.parts).getD []
  | .compound _ => []

/-- Parts, each behind a slash. -/
def joinParts (parts : List String) : String :=
  String.join (parts.map ("/" ++ ·))

theorem joinParts_append (parts parts' : List String) :
    joinParts (parts ++ parts') = joinParts parts ++ joinParts parts' := by
  apply String.toList_injective
  simp [joinParts, String.toList_join]

/-- What stands behind slashes tells what it was joined from. -/
theorem joinParts_inj {parts parts' : List String} (h : ∀ s ∈ parts, '/' ∉ s.toList)
    (h' : ∀ s ∈ parts', '/' ∉ s.toList) (heq : joinParts parts = joinParts parts') :
    parts = parts' := by
  have hsplit := Group.splitBy_join h
  rw [← joinParts, heq, joinParts, Group.splitBy_join h', List.cons_inj_right] at hsplit
  exact (List.map_inj_right fun _ _ => String.toList_injective).mp hsplit.symm

namespace Placeholder

variable {p : Placeholder} {v w : Value}

/-- A value that fits has parts without slashes, and becomes them. -/
theorem Fits.renderValue_eq (h : p.Fits v) (hprefixed : p.prefixed) :
    p.renderValue v = .ok (joinParts (p.parts v)) ∧ ∀ s ∈ p.parts v, '/' ∉ s.toList := by
  have hslash : slash p.prefixed = "/" := by rw [hprefixed]; rfl
  match v, h with
  | .text s, ⟨hrepeating, hs, hempty⟩ =>
    by_cases hnone : s = ""
    · -- Only what is optional may be filled in with nothing.
      have hoptional : p.quantifier = some .optional :=
        (quantifier_of_not_isRepeating hrepeating).resolve_left fun h => hempty h hnone
      simp [renderValue, parts, hrepeating, hnone, hoptional, joinParts]
    · rw [renderValue_text hrepeating hnone, parts, if_neg fun h => hnone h.2, hslash]
      simp [joinParts, hs]
  | .list items, ⟨hrepeating, hitems, _⟩ =>
    rw [renderValue_list hrepeating, joined, hslash]
    exact ⟨rfl, fun s hs => (hitems s hs).2⟩

/-- Of the values that fit, no two have the same parts. -/
theorem Fits.eq_of_parts_eq (hv : p.Fits v) (hw : p.Fits w) (h : p.parts v = p.parts w) :
    v = w := by
  match v, w, hv, hw with
  | .text s, .text t, _, _ =>
    simp only [parts] at h
    split_ifs at h with hs ht
    · rw [hs.2, ht.2]
    · rw [(List.cons.inj h).1]
  | .list items, .list items', _, _ => exact congrArg Value.list h
  | .text _, .list _, hv, hw => exact absurd (hw.1.symm.trans hv.1) (by decide)
  | .list _, .text _, hv, hw => exact absurd (hv.1.symm.trans hw.1) (by decide)

/-- A placeholder without a quantifier has one part. -/
theorem Fits.length_parts (h : p.Fits v) (hquantifier : p.quantifier = none) :
    (p.parts v).length = 1 := by
  match v, h with
  | .text s, _ => simp [parts, hquantifier]
  | .list _, h =>
    have hrepeating := h.1
    rw [isRepeating_of_eq_none hquantifier] at hrepeating
    cases hrepeating

end Placeholder

namespace Segment

variable {b b' : Bindings} {seg : Segment} {segs : List Segment}

/-- Whether the number of parts of a segment depends on the bindings. -/
def IsQuantified (seg : Segment) : Prop :=
  ∃ p ∈ seg.placeholders, p.quantifier ≠ none

instance : DecidablePred IsQuantified :=
  fun seg => inferInstanceAs (Decidable (∃ p ∈ seg.placeholders, p.quantifier ≠ none))

theorem parts_placeholder {p : Placeholder} {v : Value} (h : b.resolve p.name = some v) :
    parts b (.placeholder p) = p.parts v := by
  rw [parts, h]
  rfl

/-- A simple segment becomes its parts, each behind a slash. -/
theorem render_eq_join (hsimple : seg.IsSimple) (hfits : b.WellShaped seg.placeholders) :
    seg.render b = .ok (joinParts (seg.parts b)) ∧ ∀ s ∈ seg.parts b, '/' ∉ s.toList := by
  match seg, hsimple with
  | .text s prefixed, ⟨hprefixed, hs⟩ =>
    subst hprefixed
    simp [render, parts, joinParts, slash, hs]
  | .placeholder p, hprefixed =>
    obtain ⟨v, hv, hfits⟩ := hfits p (by simp [placeholders])
    rw [render, Placeholder.render_eq hv, parts_placeholder hv]
    exact hfits.renderValue_eq hprefixed

/-- Simple segments become their parts, each behind a slash. -/
theorem renderAll_eq_join (hsimple : ∀ seg ∈ segs, seg.IsSimple)
    (hfits : b.WellShaped (placeholdersOf segs)) :
    renderAll b segs = .ok (joinParts (segs.flatMap (parts b))) ∧
      ∀ s ∈ segs.flatMap (parts b), '/' ∉ s.toList := by
  induction segs with
  | nil => exact ⟨rfl, by simp⟩
  | cons seg segs ih =>
    rw [placeholdersOf] at hfits
    obtain ⟨hfits, hfits'⟩ := List.forall_mem_append.mp hfits
    obtain ⟨hsimple, hsimple'⟩ := List.forall_mem_cons.mp hsimple
    obtain ⟨hfirst, hslash⟩ := render_eq_join hsimple hfits
    obtain ⟨hrest, hslash'⟩ := ih hsimple' hfits'
    rw [List.flatMap_cons, joinParts_append]
    exact ⟨renderAll_cons_eq_ok.mpr ⟨_, _, hfirst, hrest, rfl⟩,
      List.forall_mem_append.mpr ⟨hslash, hslash'⟩⟩

/-- A segment without quantifier has one part. -/
theorem length_parts (hsimple : seg.IsSimple) (hfits : b.WellShaped seg.placeholders)
    (hquantified : ¬seg.IsQuantified) : (seg.parts b).length = 1 := by
  match seg, hsimple with
  | .text s prefixed, _ => rfl
  | .placeholder p, _ =>
    obtain ⟨v, hv, hfits⟩ := hfits p (by simp [placeholders])
    have hquantifier : p.quantifier = none := by
      by_contra hne
      exact hquantified ⟨p, by simp [placeholders], hne⟩
    rw [parts_placeholder hv]
    exact hfits.length_parts hquantifier

/-- A variable of simple segments fills one of them. -/
theorem mem_of_mem_placeholdersOf (hsimple : ∀ seg ∈ segs, seg.IsSimple) {q : Placeholder}
    (hq : q ∈ placeholdersOf segs) : .placeholder q ∈ segs := by
  induction segs with
  | nil => simp [placeholdersOf] at hq
  | cons seg segs ih =>
    obtain ⟨hseg, hsegs⟩ := List.forall_mem_cons.mp hsimple
    rw [placeholdersOf, List.mem_append] at hq
    rcases hq with hq | hq
    · match seg, hseg with
      | .text s prefixed, _ => simp [placeholders] at hq
      | .placeholder p, _ =>
        obtain rfl : q = p := by simpa [placeholders] using hq
        exact List.mem_cons_self
    · exact List.mem_cons_of_mem _ (ih hsegs hq)

theorem length_flatMap_parts (hsimple : ∀ seg ∈ segs, seg.IsSimple)
    (hfits : b.WellShaped (placeholdersOf segs)) (hquantified : ∀ seg ∈ segs, ¬seg.IsQuantified) :
    (segs.flatMap (parts b)).length = segs.length := by
  induction segs with
  | nil => rfl
  | cons seg segs ih =>
    rw [placeholdersOf] at hfits
    obtain ⟨hfits, hfits'⟩ := List.forall_mem_append.mp hfits
    obtain ⟨hsimple, hsimple'⟩ := List.forall_mem_cons.mp hsimple
    obtain ⟨hquantified, hquantified'⟩ := List.forall_mem_cons.mp hquantified
    rw [List.flatMap_cons, List.length_append, length_parts hsimple hfits hquantified,
      ih hsimple' hfits' hquantified', List.length_cons, Nat.add_comm]

/-- The parts of all segments tell those of each, if at most one segment has a
quantifier. -/
theorem parts_eq_of_flatMap_eq (hsimple : ∀ seg ∈ segs, seg.IsSimple)
    (hquantified : segs.Pairwise fun seg seg' => seg.IsQuantified → ¬seg'.IsQuantified)
    (hfits : b.WellShaped (placeholdersOf segs)) (hfits' : b'.WellShaped (placeholdersOf segs))
    (h : segs.flatMap (parts b) = segs.flatMap (parts b')) :
    ∀ seg ∈ segs, seg.parts b = seg.parts b' := by
  induction segs with
  | nil => simp
  | cons seg segs ih =>
    rw [placeholdersOf] at hfits hfits'
    obtain ⟨hfirst, hrest⟩ := List.forall_mem_append.mp hfits
    obtain ⟨hfirst', hrest'⟩ := List.forall_mem_append.mp hfits'
    obtain ⟨hseg, hsegs⟩ := List.forall_mem_cons.mp hsimple
    obtain ⟨hothers, hquantified⟩ := List.pairwise_cons.mp hquantified
    rw [List.flatMap_cons, List.flatMap_cons] at h
    -- Either the first segment has one part, or each of the others has.
    have hcut : seg.parts b = seg.parts b' ∧ segs.flatMap (parts b) = segs.flatMap (parts b') := by
      by_cases hfirstQuantified : seg.IsQuantified
      · have hnone : ∀ seg' ∈ segs, ¬seg'.IsQuantified := fun seg' hmem =>
          hothers seg' hmem hfirstQuantified
        refine List.append_inj' h ?_
        rw [length_flatMap_parts hsegs hrest hnone, length_flatMap_parts hsegs hrest' hnone]
      · refine List.append_inj h ?_
        rw [length_parts hseg hfirst hfirstQuantified, length_parts hseg hfirst' hfirstQuantified]
    exact List.forall_mem_cons.mpr ⟨hcut.1, ih hsegs hquantified hrest hrest' hcut.2⟩

end Segment

/-! ### Reading back -/

/-- What is found in a text gives well-shaped bindings, and the path becomes the text with
them, if no name is bound twice. -/
theorem Path.IsPlain.wellShaped_of_find? {options : Options} {p : Path} {regex : Regex}
    {found : Match} {u : Url} (hplain : p.IsPlain options)
    (hnames : (p.placeholders.map Placeholder.name).Nodup)
    (hqueries : ∀ q ∈ p.placeholders, ∀ r ∈ p.queries, r.target ≠ .var q.name)
    (hregex : compilePattern (p.regexSource options) = .ok regex)
    (hfound : regex.find? u.path = some found) :
    (Bindings.ofValues (p.pathValues found ++ p.queryValues u)).WellShaped p.placeholders ∧
      Segment.renderAll (Bindings.ofValues (p.pathValues found ++ p.queryValues u)) p.segments =
        .ok u.path := by
  obtain ⟨hfits, hrender⟩ := hplain.fits_of_find? hregex hfound
  have hvalue (q : Placeholder) (i : Nat) (hmem : (q, i) ∈ p.placeholders.zipIdx) :
      (Bindings.ofValues (p.pathValues found ++ p.queryValues u)).resolve q.name =
        some (q.valueOf (found.named? (Group.nameOf q.name i))) :=
    Path.resolve_ofValues hnames hmem (hqueries q (List.fst_mem_of_mem_zipIdx hmem))
  refine ⟨fun q hq => ?_, hrender _ hvalue⟩
  obtain ⟨i, hi⟩ := List.mem_iff_getElem?.mp hq
  have hmem : (q, i) ∈ p.placeholders.zipIdx := List.mk_mem_zipIdx_iff_getElem?.mpr hi
  exact ⟨_, hvalue q i hmem, hfits q i hmem⟩

/-- Bindings that are well shaped and fill in the same path agree on its variables, if the
path is simple and at most one segment has a quantifier. -/
theorem Segment.resolve_eq_of_renderAll_eq {b b' : Bindings} {segs : List Segment} {s : String}
    (hsimple : ∀ seg ∈ segs, seg.IsSimple)
    (hquantified : segs.Pairwise fun seg seg' => seg.IsQuantified → ¬seg'.IsQuantified)
    (hfits : b.WellShaped (placeholdersOf segs)) (hfits' : b'.WellShaped (placeholdersOf segs))
    (h : renderAll b segs = .ok s) (h' : renderAll b' segs = .ok s) {q : Placeholder}
    (hq : q ∈ placeholdersOf segs) : b.resolve q.name = b'.resolve q.name := by
  obtain ⟨hjoin, hslash⟩ := renderAll_eq_join hsimple hfits
  obtain ⟨hjoin', hslash'⟩ := renderAll_eq_join hsimple hfits'
  have hparts : segs.flatMap (parts b) = segs.flatMap (parts b') := by
    refine joinParts_inj hslash hslash' ?_
    exact Except.ok.inj (hjoin.symm.trans (h.trans (h'.symm.trans hjoin')))
  have hmem := mem_of_mem_placeholdersOf hsimple hq
  obtain ⟨v, hv, hvFits⟩ := hfits q hq
  obtain ⟨w, hw, hwFits⟩ := hfits' q hq
  have heq := parts_eq_of_flatMap_eq hsimple hquantified hfits hfits' hparts _ hmem
  rw [parts_placeholder hv, parts_placeholder hw] at heq
  rw [hv, hw, hvFits.eq_of_parts_eq hwFits heq]

namespace PathMatcher

variable {options : Options} {p : Path} {m : PathMatcher}

/-- What a path was filled in with is read off the result, if every segment is one literal
text or variable behind a slash and at most one of them has a quantifier. -/
theorem extract_of_renderAll (hescape : options.escapeLiterals = true)
    (hsimple : ∀ seg ∈ p.segments, seg.IsSimple)
    (hpattern : ∀ q ∈ p.placeholders, q.pattern = none)
    (hnames : (p.placeholders.map Placeholder.name).Nodup)
    (hqueries : ∀ q ∈ p.placeholders, ∀ r ∈ p.queries, r.target ≠ .var q.name)
    (hquantified : p.segments.Pairwise fun seg seg' => seg.IsQuantified → ¬seg'.IsQuantified)
    (hcompile : PathMatcher.compile options p = .ok m) {b : Bindings}
    (hfits : b.WellShaped p.placeholders) {u : Url}
    (hrender : Segment.renderAll b p.segments = .ok u.path) :
    ∃ found, m.extract u = some found ∧
      ∀ q ∈ p.placeholders, found.resolve q.name = b.resolve q.name := by
  have hplain : p.IsPlain options := Path.isPlain_of_escapeLiterals hescape hpattern
  have hregex := (eq_of_compile hcompile).1
  obtain ⟨found, hfound⟩ := Option.isSome_iff_exists.mp (hplain.isSome_find? hregex hfits hrender)
  obtain ⟨hfits', hrender'⟩ := hplain.wellShaped_of_find? hnames hqueries hregex hfound
  refine ⟨_, by rw [extract_of_compile hcompile u, hfound]; rfl, fun q hq => ?_⟩
  exact Segment.resolve_eq_of_renderAll_eq hsimple hquantified hfits' hfits hrender' hrender hq

/-- A list of two between a literal text and a variable. -/
theorem extract_eq_of_archive :
    ∃ m found, PathMatcher.compile { escapeLiterals := true }
        { segments :=
            [.text "v1.0" true, .placeholder { name := "dirs", quantifier := some .oneOrMore },
              .placeholder { name := "file" }, .text "" true]
          queries := [⟨"page", .var "page", none⟩] } = .ok m ∧
      m.extract ⟨"https", none, false, "/v1.0/a/b/c/", none, none⟩ = some found ∧
      found.resolve "dirs" = some (.list ["a", "b"]) ∧
      found.resolve "file" = some (.text "c") := by
  obtain ⟨m, hcompile⟩ : ∃ m, PathMatcher.compile { escapeLiterals := true }
      { segments :=
          [.text "v1.0" true, .placeholder { name := "dirs", quantifier := some .oneOrMore },
            .placeholder { name := "file" }, .text "" true]
        queries := [⟨"page", .var "page", none⟩] } = .ok m :=
    exists_eq_ok_of_isOk (by decide +kernel)
  obtain ⟨found, hfound, hresolve⟩ := extract_of_renderAll rfl (by decide) (by decide) (by decide)
    (by decide) (by decide) hcompile
    (b := Bindings.ofValues [("dirs", .list ["a", "b"]), ("file", .text "c")]) (by decide)
    (u := ⟨"https", none, false, "/v1.0/a/b/c/", none, none⟩) (by decide)
  exact ⟨m, found, hcompile, hfound, hresolve _ (.head _), hresolve _ (.tail _ (.head _))⟩

end PathMatcher

end Reroute
