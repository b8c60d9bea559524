import Mathlib.Data.List.Nodup
import Reroute.Proofs.Matching.Extract
import Reroute.Proofs.Rendering
import Reroute.Proofs.Regex.Search

/-!
# What paths match and become

The regular expression of a path is made by one walk over its segments, and the path is
filled in by another. Both describe the same texts: what a path matches gives values
that it becomes the text with, and a text that it becomes is matched.

## Main definitions

* `EachValue` — a condition on the values that the groups of a match give
* `Bindings.Agrees` — variables have the values that the groups give
* `Bindings.WellShaped` — every variable has a value that fits

## Main results

* `Segment.fits_of_matchesOf` — what segments match gives values that fit, and segments
  become what they match
* `Segment.exists_matchesOf` — what segments become is matched
* `Path.IsPlain.fits_of_find?`, `Path.IsPlain.isSome_find?` — the same of searches for
  the regular expression of a path
-/

set_option autoImplicit false

namespace Reroute

open Regex

/-! ### Groups of trees -/

section Groups

variable {group index : Nat}

theorem hasGroup_concat (group : Nat) (nodes : List Node) :
    (Node.concat nodes).hasGroup group = nodes.any (·.hasGroup group) := by
  induction nodes with
  | nil => rfl
  | cons node nodes ih =>
    cases nodes with
    | nil => exact (Bool.or_false _).symm
    | cons node' nodes => exact congrArg (node.hasGroup group || ·) ih

theorem hasGroup_charNodes (group : Nat) (s : String) :
    (charNodes s).any (·.hasGroup group) = false := by
  rw [charNodes, List.any_map, List.any_eq_false]
  intro x _
  exact Bool.false_ne_true

theorem hasGroup_repeated (group : Nat) (q : Quantifier) (node : Node) :
    (q.repeated node).hasGroup group = node.hasGroup group := by
  cases q <;> rfl

/-- A placeholder has one group. -/
theorem Placeholder.hasGroup_nodes {p : Placeholder} (h : group ≠ index + 1) :
    (p.nodes index).any (·.hasGroup group) = false := by
  have hitem : itemNode.hasGroup group = false := rfl
  have hfront := hasGroup_charNodes group (slash p.prefixed)
  have hindex : decide (index + 1 = group) = false := by
    rw [decide_eq_false_iff_not]
    exact Ne.symm h
  rw [nodes]
  cases p.quantifier with
  | none => simp [hfront, Node.hasGroup, hindex, hitem]
  | some q =>
    by_cases hq : q.isRepeating
    · simp [hq, Node.hasGroup, hindex, hasGroup_repeated, turnNode, hasGroup_concat, hfront, hitem]
    · simp [hq, Node.hasGroup, hindex, hasGroup_repeated, hasGroup_concat, hfront, hitem]

namespace Segment

mutual

/-- The groups of a segment are those of its placeholders. -/
theorem hasGroup_nodes {index : Nat} : (seg : Segment) →
    (group ≤ index ∨ index + seg.placeholders.length < group) →
    (seg.nodes index).any (·.hasGroup group) = false
  | text s prefixed, _ => hasGroup_charNodes group _
  | placeholder p, h => by
    rw [placeholders, List.length_singleton] at h
    exact Placeholder.hasGroup_nodes (by omega)
  | compound runs, h => hasGroup_nodesOf runs h

/-- The groups of segments are those of their placeholders. -/
theorem hasGroup_nodesOf {index : Nat} : (segs : List Segment) →
    (group ≤ index ∨ index + (placeholdersOf segs).length < group) →
    (nodesOf index segs).any (·.hasGroup group) = false
  | [], _ => rfl
  | run :: runs, h => by
    rw [placeholdersOf, List.length_append] at h
    rw [nodesOf, List.any_append, hasGroup_nodes run (by omega), hasGroup_nodesOf runs (by omega)]
    rfl

end

end Segment

end Groups

/-! ### From matches to values -/

section Values

variable {text : Array Char} {s t u : Slots} {index : Nat} {ps qs : List Placeholder}

/-- What the groups of placeholders give, if `index` others precede, meets a condition. -/
def EachValue (text : Array Char) (t : Slots) (index : Nat) (ps : List Placeholder)
    (P : Placeholder → Value → Prop) : Prop :=
  ∀ q i, (q, i) ∈ ps.zipIdx index → P q (q.valueOf (capturedText text t (i + 1)))

/-- The value is the one of the variable. -/
def Bindings.Agrees (b : Bindings) (p : Placeholder) (v : Value) : Prop :=
  b.resolve p.name = some v

theorem eachValue_append {P : Placeholder → Value → Prop} :
    EachValue text t index (ps ++ qs) P ↔
      EachValue text t index ps P ∧ EachValue text t (index + ps.length) qs P := by
  simp only [EachValue, List.zipIdx_append, List.mem_append]
  constructor
  · intro h
    exact ⟨fun q i hmem => h q i (.inl hmem), fun q i hmem => h q i (.inr hmem)⟩
  · rintro ⟨h, h'⟩ q i (hmem | hmem)
    · exact h q i hmem
    · exact h' q i hmem

theorem eachValue_singleton {P : Placeholder → Value → Prop} {p : Placeholder} :
    EachValue text t index [p] P ↔ P p (p.valueOf (capturedText text t (index + 1))) := by
  constructor
  · intro h
    exact h p index (by simp)
  · intro h q i hmem
    obtain ⟨rfl, rfl⟩ : q = p ∧ i = index := by simpa using hmem
    exact h

/-- Values depend on the groups of their placeholders only. -/
theorem EachValue.congr {P : Placeholder → Value → Prop} (h : EachValue text t index ps P)
    (hslots : ∀ slot, index < slot / 2 → slot / 2 ≤ index + ps.length →
      u.lookup slot = t.lookup slot) :
    EachValue text u index ps P := by
  intro q i hmem
  obtain ⟨hle, hlt, -⟩ := List.mem_zipIdx hmem
  have hsame : capturedText text u (i + 1) = capturedText text t (i + 1) :=
    capturedText_congr fun slot hslot => hslots slot (by omega) (by omega)
  rw [hsame]
  exact h q i hmem

namespace Segment

/-- What was remembered before a segment is still remembered behind it. -/
theorem lookup_eq_of_matches {seg : Segment} {a c : Nat}
    (h : (Node.concat (seg.nodes index)).Matches text a s c t) {slot : Nat}
    (hslot : slot / 2 ≤ index ∨ index + seg.placeholders.length < slot / 2) :
    t.lookup slot = s.lookup slot := by
  apply h.lookup_eq
  rw [hasGroup_concat]
  exact hasGroup_nodes seg hslot

theorem lookup_eq_of_matchesOf {segs : List Segment} {a c : Nat}
    (h : (Node.concat (nodesOf index segs)).Matches text a s c t) {slot : Nat}
    (hslot : slot / 2 ≤ index ∨ index + (placeholdersOf segs).length < slot / 2) :
    t.lookup slot = s.lookup slot := by
  apply h.lookup_eq
  rw [hasGroup_concat]
  exact hasGroup_nodesOf segs hslot

mutual

/-- What a segment matches gives values that fit, and the segment becomes what it
matches. -/
theorem fits_of_matches {index : Nat} {s t : Slots} {a c : Nat} : (seg : Segment) →
    (Node.concat (seg.nodes index)).Matches text a s c t →
    (∀ slot, index < slot / 2 → s.lookup slot = none) →
    EachValue text t index seg.placeholders Placeholder.Fits ∧
      ∀ b : Bindings, EachValue text t index seg.placeholders b.Agrees →
        ∃ r, seg.render b = .ok r ∧ Spans text a r.toList c
  | .text x prefixed, h, _ => by
    rw [nodes] at h
    obtain ⟨hspans, rfl⟩ := Node.matches_concat_map_char.mp h
    refine ⟨fun q i hmem => by simp [placeholders] at hmem, fun b _ => ?_⟩
    exact ⟨_, rfl, hspans⟩
  | placeholder p, h, hs => by
    rw [nodes] at h
    obtain ⟨v, hv, hfits, r, hr, hspans⟩ := Placeholder.fits_of_matches h (hs _ (by omega))
    rw [placeholders, eachValue_singleton, hv]
    refine ⟨hfits, fun b hb => ⟨r, ?_, hspans⟩⟩
    rw [eachValue_singleton, hv] at hb
    rw [render, Placeholder.render_eq hb, hr]
  | compound runs, h, hs => fits_of_matchesOf runs h hs

/-- What segments match gives values that fit, and the segments become what they match. -/
theorem fits_of_matchesOf {index : Nat} {s t : Slots} {a c : Nat} : (segs : List Segment) →
    (Node.concat (nodesOf index segs)).Matches text a s c t →
    (∀ slot, index < slot / 2 → s.lookup slot = none) →
    EachValue text t index (placeholdersOf segs) Placeholder.Fits ∧
      ∀ b : Bindings, EachValue text t index (placeholdersOf segs) b.Agrees →
        ∃ r, renderAll b segs = .ok r ∧ Spans text a r.toList c
  | [], h, _ => by
    obtain ⟨rfl, rfl⟩ := Node.matches_empty.mp h
    refine ⟨fun q i hmem => by simp [placeholdersOf] at hmem, fun b _ => ?_⟩
    exact ⟨"", rfl, rfl⟩
  | run :: runs, h, hs => by
    rw [nodesOf] at h
    obtain ⟨d, u, hfirst, hrest⟩ := Node.matches_concat_append.mp h
    -- The groups of the rest are still unused, and those of the first run stay as they are.
    have hu : ∀ slot, index + run.placeholders.length < slot / 2 → u.lookup slot = none := by
      intro slot hslot
      rw [lookup_eq_of_matches hfirst (.inr hslot)]
      exact hs slot (by omega)
    have hkeep : ∀ slot, index < slot / 2 → slot / 2 ≤ index + run.placeholders.length →
        t.lookup slot = u.lookup slot := by
      intro slot _ hslot
      exact lookup_eq_of_matchesOf hrest (.inl hslot)
    obtain ⟨hfits, hrender⟩ := fits_of_matches run hfirst hs
    obtain ⟨hfits', hrender'⟩ := fits_of_matchesOf runs hrest hu
    rw [placeholdersOf, eachValue_append]
    refine ⟨⟨hfits.congr hkeep, hfits'⟩, fun b hb => ?_⟩
    obtain ⟨hb, hb'⟩ := eachValue_append.mp hb
    obtain ⟨x, hx, hspans⟩ := hrender b
      (hb.congr fun slot hlt hle => (hkeep slot hlt hle).symm)
    obtain ⟨y, hy, hspans'⟩ := hrender' b hb'
    refine ⟨x ++ y, renderAll_cons_eq_ok.mpr ⟨x, y, hx, hy, rfl⟩, ?_⟩
    rw [String.toList_append]
    exact hspans.append hspans'

end

end Segment

/-! ### From values to matches -/

/-- Bindings are well shaped for placeholders if every variable has a value that fits. -/
def Bindings.WellShaped (b : Bindings) (ps : List Placeholder) : Prop :=
  ∀ q ∈ ps, ∃ v, b.resolve q.name = some v ∧ q.Fits v

instance (b : Bindings) : DecidablePred b.WellShaped := fun ps =>
  decidable_of_iff (∀ q ∈ ps, ∃ v ∈ b.resolve q.name, q.Fits v) (by simp [Bindings.WellShaped])

namespace Segment

variable {b : Bindings}

mutual

/-- What a segment becomes is matched. -/
theorem exists_matches {index : Nat} {a c : Nat} {r : String} : (seg : Segment) →
    b.WellShaped seg.placeholders → seg.render b = .ok r → Spans text a r.toList c →
    (s : Slots) → ∃ t, (Node.concat (seg.nodes index)).Matches text a s c t
  | .text x prefixed, _, hr, hspans, s => by
    obtain rfl := Except.ok.inj hr
    exact ⟨s, Node.matches_concat_map_char.mpr ⟨hspans, rfl⟩⟩
  | placeholder p, hfits, hr, hspans, s => by
    obtain ⟨v, hv, hfits⟩ := hfits p (by simp [placeholders])
    rw [render, Placeholder.render_eq hv] at hr
    exact Placeholder.exists_matches hfits hr hspans s
  | compound runs, hfits, hr, hspans, s => exists_matchesOf runs hfits hr hspans s

/-- What segments become is matched. -/
theorem exists_matchesOf {index : Nat} {a c : Nat} {r : String} : (segs : List Segment) →
    b.WellShaped (placeholdersOf segs) → renderAll b segs = .ok r → Spans text a r.toList c →
    (s : Slots) → ∃ t, (Node.concat (nodesOf index segs)).Matches text a s c t
  | [], _, hr, hspans, s => by
    obtain rfl := Except.ok.inj hr
    obtain rfl := spans_nil.mp hspans
    exact ⟨s, .empty⟩
  | run :: runs, hfits, hr, hspans, s => by
    rw [placeholdersOf] at hfits
    obtain ⟨hfits, hfits'⟩ := List.forall_mem_append.mp hfits
    obtain ⟨x, y, hx, hy, rfl⟩ := renderAll_cons_eq_ok.mp hr
    rw [String.toList_append] at hspans
    obtain ⟨d, hspans, hspans'⟩ := spans_append.mp hspans
    obtain ⟨u, hfirst⟩ := exists_matches run hfits hx hspans s
    obtain ⟨t, hrest⟩ := exists_matchesOf runs hfits' hy hspans' u
    exact ⟨t, Node.matches_concat_append.mpr ⟨d, u, hfirst, hrest⟩⟩

end

end Segment

end Values

/-! ### Whole paths -/

section Search

variable {text : Array Char} {s t : Slots} {a c : Nat} {p : Path}

/-- A path matches whole texts only. -/
theorem Path.matches_node (ha : a ≤ text.size) :
    p.node.Matches text a s c t ↔
      a = 0 ∧ c = text.size ∧
        (Node.concat (Segment.nodesOf 0 p.segments)).Matches text a s c t :=
  Node.matches_anchored ha

/-- The number of a group is found by its name. -/
theorem named?_eq_capturedText {names : List (String × Nat)} {ps : List Placeholder}
    (hnames : names = (Placeholder.groupNames 0 ps).reverse)
    (hnodup : ((Placeholder.groupNames 0 ps).map Prod.fst).Nodup) {q : Placeholder} {i : Nat}
    (hmem : (q, i) ∈ ps.zipIdx) (c : Nat) :
    Match.named? ⟨text, names, (1, c) :: t⟩ (Group.nameOf q.name i) =
      capturedText text t (i + 1) := by
  have hlookup : names.lookup (Group.nameOf q.name i) = some (i + 1) := by
    rw [hnames]
    exact lookup_reverse_of_mem hnodup (List.mem_map.mpr ⟨(q, i), hmem, rfl⟩)
  rw [Match.named?, hlookup]
  -- The end of the whole match is none of the places of the group.
  refine capturedText_congr (s := t) fun slot hslot => ?_
  have hne : (slot == 1) = false := by
    rw [beq_eq_false_iff_ne]
    omega
  rw [List.lookup_cons, hne]

namespace Path.IsPlain

variable {options : Options} {regex : Regex} {found : Match} {s : String}

/-- A path that is found in a text gives values that fit, and with these values it becomes
the text. -/
theorem fits_of_find? (hplain : p.IsPlain options)
    (hregex : compilePattern (p.regexSource options) = .ok regex)
    (hfound : regex.find? s = some found) :
    (∀ q i, (q, i) ∈ p.placeholders.zipIdx →
        q.Fits (q.valueOf (found.named? (Group.nameOf q.name i)))) ∧
      ∀ b : Bindings,
        (∀ q i, (q, i) ∈ p.placeholders.zipIdx →
          b.resolve q.name = some (q.valueOf (found.named? (Group.nameOf q.name i)))) →
        Segment.renderAll b p.segments = .ok s := by
  obtain ⟨hprogram, hnames, hnodup⟩ := hplain.compilePattern_eq hregex
  rw [Regex.find?, hprogram] at hfound
  obtain ⟨slots, hslots, rfl⟩ := Option.map_eq_some_iff.mp hfound
  obtain ⟨a, c, ha, hmatches⟩ := matches_of_searchProgram hslots
  obtain ⟨t, hpath, rfl⟩ := Node.matches_capture.mp hmatches
  obtain ⟨rfl, rfl, hsegments⟩ := (matches_node ha).mp hpath
  -- Before the segments only the beginning of the whole match is remembered.
  obtain ⟨hfits, hrender⟩ := Segment.fits_of_matchesOf p.segments hsegments (by
    intro slot hslot
    have hne : (slot == 0) = false := by
      rw [beq_eq_false_iff_ne]
      omega
    rw [List.lookup_cons, hne]
    rfl)
  constructor
  · intro q i hmem
    rw [named?_eq_capturedText hnames hnodup hmem]
    exact hfits q i hmem
  · intro b hb
    obtain ⟨r, hr, hspans⟩ := hrender b fun q i hmem => by
      rw [← named?_eq_capturedText hnames hnodup hmem]
      exact hb q i hmem
    have hlist : s.toList = r.toList := hspans.toList_eq
    rw [hr, String.toList_injective hlist]

/-- A text that a path becomes with values that fit is one where the path is found. -/
theorem isSome_find? {b : Bindings} (hplain : p.IsPlain options)
    (hregex : compilePattern (p.regexSource options) = .ok regex)
    (hfits : b.WellShaped p.placeholders) (hs : Segment.renderAll b p.segments = .ok s) :
    (regex.find? s).isSome := by
  obtain ⟨hprogram, -⟩ := hplain.compilePattern_eq hregex
  have hsegments : ∃ t, (Node.concat (Segment.nodesOf 0 p.segments)).Matches s.toList.toArray
      0 [(0, 0)] s.toList.toArray.size t :=
    Segment.exists_matchesOf p.segments hfits hs (spans_toList s.toList.toArray) [(0, 0)]
  obtain ⟨t, hsegments⟩ := hsegments
  have hpath : p.node.Matches s.toList.toArray 0 [(0, 0)] s.toList.toArray.size t :=
    (matches_node (Nat.zero_le _)).mpr ⟨rfl, rfl, hsegments⟩
  have hmatches : (Node.capture 0 p.node).Matches s.toList.toArray 0 [] s.toList.toArray.size
      ((1, s.toList.toArray.size) :: t) :=
    Node.matches_capture.mpr ⟨t, hpath, rfl⟩
  rw [Regex.find?, hprogram, Option.isSome_map]
  exact isSome_searchProgram (Nat.zero_le _) hmatches

end Path.IsPlain

end Search

end Reroute
