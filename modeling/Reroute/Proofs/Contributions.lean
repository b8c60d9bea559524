import Reroute.Proofs.Matching.Extract
import Reroute.Proofs.Rendering

/-!
# What destinations are filled in to

The tree of segments is filled in leaf by leaf. A leaf is literal text or a placeholder, and
each contributes a text of its own: a list is written item by item, empty text in an optional
place leaves nothing, and every other value is written behind the slash of its place. What the
path comes to is the leaves' contributions in order.

## Main definitions

* `Leaf`, `Path.leaves` — the texts and placeholders of a path, in order
* `Leaf.Contributes` — what a leaf is filled in to

## Main results

* `Segment.renderAll_eq_mapM` — segments are filled in leaf by leaf
* `Path.render_isExact` — when a destination is filled in, what to, and with which error not
-/

set_option autoImplicit false

namespace Reroute

variable {b : Bindings} {r : String}

/-! ### Leaves -/

/-- A leaf of the tree that a path is. -/
inductive Leaf where
  /-- Literal text. -/
  | text (text : String) (prefixed : Bool)
  /-- A variable. -/
  | placeholder (p : Placeholder)
deriving DecidableEq, Repr

namespace Segment

mutual

/-- The leaves of a segment, in order. -/
def leaves : Segment → List Leaf
  | text s prefixed => [.text s prefixed]
  | placeholder p => [.placeholder p]
  | compound runs => leavesOf runs

/-- The leaves of some segments, in order. -/
def leavesOf : List Segment → List Leaf
  | [] => []
  | run :: runs => run.leaves ++ leavesOf runs

end

end Segment

/-- The leaves of a path, in order. -/
def Path.leaves (p : Path) : List Leaf :=
  Segment.leavesOf p.segments

namespace Leaf

/-- What a leaf becomes. -/
def render (b : Bindings) : Leaf → Except RenderError String
  | text s prefixed => .ok (slash prefixed ++ s)
  | placeholder p => p.render b

/-- What a leaf contributes to a path. -/
inductive Contributes (b : Bindings) : Leaf → String → Prop where
  /-- Literal text is written behind its slash. -/
  | text (s : String) (prefixed : Bool) : Contributes b (.text s prefixed) (slash prefixed ++ s)
  /-- In a repeating place each item of a list is written behind a slash of its own. -/
  | list {p : Placeholder} {items : List String} (hvalue : b.resolve p.name = some (.list items))
      (hrepeating : p.isRepeating) :
      Contributes b (.placeholder p) (String.join (items.map (slash p.prefixed ++ ·)))
  /-- In an optional place empty text leaves nothing. -/
  | nothing {p : Placeholder} (hvalue : b.resolve p.name = some (.text ""))
      (hoptional : p.quantifier = some .optional) : Contributes b (.placeholder p) ""
  /-- Any other single value is written behind the slash of its place. -/
  | single {p : Placeholder} {v : Value} (hvalue : b.resolve p.name = some v)
      (hsingle : v.isList = false) (hrepeating : p.isRepeating = false)
      (hother : ¬(p.quantifier = some .optional ∧ v = .text "")) :
      Contributes b (.placeholder p) (slash p.prefixed ++ v.toText)

end Leaf

/-! ### Contributions -/

/-- All single values are treated alike. -/
theorem Placeholder.renderValue_single {p : Placeholder} {v : Value} (h : v.isList = false) :
    p.renderValue v =
      if p.isRepeating then .error (.scalarInList p.name v.toText)
      else if p.quantifier = some .optional ∧ v = .text "" then .ok ""
      else .ok (slash p.prefixed ++ v.toText) := by
  cases v with
  | list items => cases h
  | text s | number n | bool y => rfl

theorem Placeholder.not_isRepeating_of_optional {p : Placeholder}
    (h : p.quantifier = some .optional) : p.isRepeating = false := by
  rw [isRepeating, h]
  rfl

namespace Leaf

theorem contributes_of_renderValue {p : Placeholder} {v : Value}
    (hvalue : b.resolve p.name = some v) (h : p.renderValue v = .ok r) :
    Contributes b (.placeholder p) r := by
  have hcontributes (hsingle : v.isList = false) : Contributes b (.placeholder p) r := by
    rw [Placeholder.renderValue_single hsingle] at h
    split_ifs at h with hrepeating hnothing
    · obtain ⟨hoptional, rfl⟩ := hnothing
      obtain rfl := Except.ok.inj h
      exact .nothing hvalue hoptional
    · obtain rfl := Except.ok.inj h
      exact .single hvalue hsingle (Bool.eq_false_iff.mpr hrepeating) hnothing
  cases v with
  | list items =>
    rw [Placeholder.renderValue] at h
    split_ifs at h with hrepeating
    obtain rfl := Except.ok.inj h
    exact .list hvalue hrepeating
  | text s | number n | bool y => exact hcontributes rfl

/-- A leaf becomes what it contributes. -/
theorem render_eq_ok_iff {leaf : Leaf} : leaf.render b = .ok r ↔ leaf.Contributes b r := by
  constructor
  · intro h
    cases leaf with
    | text s prefixed =>
      obtain rfl := Except.ok.inj h
      exact .text s prefixed
    | placeholder p =>
      rw [render] at h
      cases hvalue : b.resolve p.name with
      | none =>
        rw [Placeholder.render, Bindings.value, hvalue] at h
        cases h
      | some v =>
        rw [Placeholder.render_eq hvalue] at h
        exact contributes_of_renderValue hvalue h
  · intro h
    cases h with
    | text s prefixed => rfl
    | list hvalue hrepeating =>
      rw [render, Placeholder.render_eq hvalue, Placeholder.renderValue, if_pos hrepeating]
    -- Only an optional placeholder has nothing to show for an empty text.
    | @nothing p hvalue hoptional =>
      have hrepeating := Placeholder.not_isRepeating_of_optional hoptional
      rw [render, Placeholder.render_eq hvalue, Placeholder.renderValue_single rfl, hrepeating,
        if_neg Bool.false_ne_true, if_pos ⟨hoptional, rfl⟩]
    | single hvalue hsingle hrepeating hother =>
      rw [render, Placeholder.render_eq hvalue, Placeholder.renderValue_single hsingle, hrepeating,
        if_neg Bool.false_ne_true, if_neg hother]

end Leaf

/-! ### Trees -/

namespace Segment

mutual

/-- A segment is filled in leaf by leaf. -/
theorem render_eq_mapM : (seg : Segment) →
    seg.render b = (seg.leaves.mapM (Leaf.render b)).map String.join
  | text s prefixed => congrArg Except.ok String.empty_append.symm
  | placeholder p => by
    rw [render, leaves, List.mapM_cons, List.mapM_nil, Leaf.render]
    cases p.render b with
    | error e => rfl
    | ok x => exact congrArg Except.ok String.empty_append.symm
  | compound runs => renderAll_eq_mapM runs

/-- Segments are filled in leaf by leaf. -/
theorem renderAll_eq_mapM : (segs : List Segment) →
    renderAll b segs = ((leavesOf segs).mapM (Leaf.render b)).map String.join
  | [] => rfl
  | run :: runs => by
    rw [renderAll, render_eq_mapM run, renderAll_eq_mapM runs, leavesOf, List.mapM_append]
    cases run.leaves.mapM (Leaf.render b) with
    | error e => rfl
    | ok parts =>
      cases (leavesOf runs).mapM (Leaf.render b) with
      | error e => rfl
      | ok parts' => exact congrArg Except.ok String.join_append.symm

end

end Segment

/-- What segments become is what their leaves contribute. -/
theorem Segment.renderAll_eq_ok_iff {segs : List Segment} :
    renderAll b segs = .ok r ↔
      ∃ parts, List.Forall₂ (Leaf.Contributes b) (leavesOf segs) parts ∧ r = String.join parts := by
  rw [renderAll_eq_mapM]
  constructor
  · intro h
    cases hparts : (leavesOf segs).mapM (Leaf.render b) with
    | error e =>
      rw [hparts] at h
      cases h
    | ok parts =>
      rw [hparts] at h
      obtain rfl := Except.ok.inj h
      exact ⟨parts, (mapM_eq_ok_iff.mp hparts).imp fun _ _ => Leaf.render_eq_ok_iff.mp, rfl⟩
  · rintro ⟨parts, hparts, rfl⟩
    rw [mapM_eq_ok_iff.mpr (hparts.imp fun _ _ => Leaf.render_eq_ok_iff.mpr)]
    rfl

/-- Filling in is exact. A destination is filled in if and only if the variables of its path have
values of the right shape, which is a list in a repeating place and a single value elsewhere, and
the variables of its queries have any values. Otherwise the error is about the first variable for
which this does not hold, those of the path in order before those of the queries. The path comes
to what its leaves contribute, one after the other. -/
theorem Path.render_isExact (p : Path) (b : Bindings) :
    ((∃ t, p.render b = .ok t) ↔
      (∀ q ∈ p.placeholders, ∃ v, b.resolve q.name = some v ∧ v.isList = q.isRepeating) ∧
        ∀ q ∈ p.queries, ∀ x, q.target = .var x → ∃ v, b.resolve x = some v) ∧
    (∀ e, p.render b = .error e ↔ ∃ met d rest, p.demands = met ++ d :: rest ∧
      (∀ d' ∈ met, d'.IsMet b) ∧ d.fault? b = some e) ∧
    ∀ t, p.render b = .ok t → ∃ parts,
      List.Forall₂ (Leaf.Contributes b) p.leaves parts ∧ t.path = String.join parts := by
  refine ⟨exists_render_iff.trans forall_demands_iff, fun e => ?_, fun t h => ?_⟩
  · rw [render_eq_error_iff, List.findSome?_eq_some_iff]
    simp only [Demand.fault?_eq_none_iff]
    exact exists_congr fun met => exists_congr fun d => exists_congr fun rest =>
      and_congr_right fun _ => and_comm
  · exact Segment.renderAll_eq_ok_iff.mp (exists_of_render_eq_ok h).1

/-- Of two variables that do not fit, the first one is the error, however deep it stands. -/
example :
    let p : Path := ⟨[.compound [.text "u" true, .compound [.placeholder ⟨"a", none, none, false⟩]],
      .placeholder ⟨"l", some .optional, none, true⟩], [⟨"k", .var "missing", none⟩]⟩
    let b := Bindings.ofValues [("a", .number 7), ("l", .list ["x"])]
    p.render b = .error (.listInScalar "l") ∧
      p.demands = [⟨"a", some false⟩, ⟨"l", some false⟩, ⟨"missing", none⟩] := by
  decide

end Reroute
