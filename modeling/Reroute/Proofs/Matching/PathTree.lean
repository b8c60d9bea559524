import Mathlib.Data.List.Basic
import Reroute.PathMatcher
import Reroute.Proofs.Regex.Source

/-!
# The trees of paths

Where placeholders declare no pattern and literal text stands for itself, the tree of the
regular expression of a path follows the segments of the path one by one, and its groups
are numbered like the placeholders.

## Main definitions

* `Segment.texts` — the literal texts of a segment
* `Path.IsPlain` — no pattern is declared, and literal text stands for itself
* `Placeholder.nodes`, `Segment.nodes`, `Path.node` — the trees
* `Placeholder.groupNames` — the names of groups and their numbers

## Main results

* `Segment.adds_regexSourceOf` — segments are read one by one
* `Path.IsPlain.compilePattern_eq` — the regular expression of a whole path
-/

set_option autoImplicit false

namespace Reroute

open Regex

/-! ### Literal text -/

namespace Segment

mutual

/-- The literal texts of a segment, in order. -/
def texts : Segment → List String
  | text s _ => [s]
  | placeholder _ => []
  | compound runs => textsOf runs

/-- The literal texts of some segments, in order. -/
def textsOf : List Segment → List String
  | [] => []
  | run :: runs => run.texts ++ textsOf runs

end

end Segment

/-- No placeholder declares a pattern, and literal text stands for itself, either because
it is escaped or because nothing in it has a meaning in regular expressions. -/
structure Path.IsPlain (options : Options) (p : Path) : Prop where
  pattern : ∀ q ∈ p.placeholders, q.pattern = none
  literal : ∀ t ∈ Segment.textsOf p.segments, options.literal t = escape t

/-! ### Trees -/

/-- The names of the groups for some placeholders that `index` others precede, with their
numbers. The group of the whole match comes first. -/
def Placeholder.groupNames (index : Nat) (ps : List Placeholder) : List (String × Nat) :=
  (ps.zipIdx index).map fun (q, i) => (Group.nameOf q.name i, i + 1)

theorem Placeholder.length_groupNames (index : Nat) (ps : List Placeholder) :
    (groupNames index ps).length = ps.length := by
  rw [groupNames, List.length_map, List.length_zipIdx]

theorem Placeholder.groupNames_append (index : Nat) (ps qs : List Placeholder) :
    groupNames index (ps ++ qs) = groupNames index ps ++ groupNames (index + ps.length) qs := by
  rw [groupNames, List.zipIdx_append, List.map_append]
  rfl

/-- The trees of text that stands for itself. -/
def charNodes (s : String) : List Node :=
  s.toList.map .char

/-- The tree of what a placeholder matches between slashes. -/
def itemNode : Node :=
  .plus true (.set notSlash)

/-- A tree repeated as a quantifier says. -/
def Quantifier.repeated (node : Node) : Quantifier → Node
  | optional => .upTo 1 true node
  | oneOrMore => .plus true node
  | zeroOrMore => .upTo 1 true (.plus true node)

namespace Placeholder

/-- What a repeating placeholder repeats. -/
def turnNode (p : Placeholder) : Node :=
  .concat (charNodes (slash p.prefixed) ++ [itemNode])

/-- The trees of the placeholder that `index` others precede. -/
def nodes (p : Placeholder) (index : Nat) : List Node :=
  let front := charNodes (slash p.prefixed)
  match p.quantifier with
  | none => front ++ [.capture (index + 1) itemNode]
  | some q =>
    if q.isRepeating then [.capture (index + 1) (q.repeated p.turnNode)]
    else [q.repeated (.concat (front ++ [.capture (index + 1) itemNode]))]

section Quantified

variable {p : Placeholder} {q : Quantifier}

theorem isRepeating_of_eq_none (h : p.quantifier = none) : p.isRepeating = false := by
  rw [isRepeating, h]
  rfl

theorem isRepeating_of_eq_some (h : p.quantifier = some q) : p.isRepeating = q.isRepeating := by
  rw [isRepeating, h]
  rfl

theorem nodes_of_eq_none (h : p.quantifier = none) (index : Nat) :
    p.nodes index = charNodes (slash p.prefixed) ++ [.capture (index + 1) itemNode] := by
  rw [nodes, h]

theorem nodes_of_isRepeating (h : p.quantifier = some q) (hq : q.isRepeating) (index : Nat) :
    p.nodes index = [.capture (index + 1) (q.repeated p.turnNode)] := by
  simp [nodes, h, hq]

theorem nodes_of_not_isRepeating (h : p.quantifier = some q) (hq : q.isRepeating = false)
    (index : Nat) :
    p.nodes index =
      [q.repeated (.concat (charNodes (slash p.prefixed) ++
        [.capture (index + 1) itemNode]))] := by
  simp [nodes, h, hq]

end Quantified

end Placeholder

namespace Segment

mutual

/-- The trees of a segment that `index` placeholders precede. -/
def nodes (index : Nat) : Segment → List Node
  | text s prefixed => charNodes (slash prefixed ++ s)
  | placeholder p => p.nodes index
  | compound runs => nodesOf index runs

/-- The trees of segments that `index` placeholders precede. -/
def nodesOf (index : Nat) : List Segment → List Node
  | [] => []
  | run :: runs => run.nodes index ++ nodesOf (index + run.placeholders.length) runs

end

end Segment

/-- The tree of a path, from the beginning of a text to its end. -/
def Path.node (p : Path) : Node :=
  .concat (.look .start :: Segment.nodesOf 0 p.segments ++ [.look .end])

/-! ### Names of groups -/

theorem isGroupName_of_isAlphanum {x : Char} {rest : List Char}
    (hx : x.isAlpha ∨ x = '_') (hrest : ∀ y ∈ rest, y.isAlphanum ∨ y = '_') :
    IsGroupName (x :: rest) := by
  have hletter {y : Char} (hy : y.isAlpha) (first : Bool) : isGroupNameChar first y := by
    simp [isGroupNameChar, Text.isLetter_of_isAlpha hy]
  have hne {y : Char} (hy : y.isAlphanum ∨ y = '_') : y ≠ '>' := by
    rintro rfl
    revert hy
    decide
  -- The first character must not be a digit, the others may be.
  refine ⟨x, rest, rfl, ⟨?_, ?_⟩, fun y hy => ⟨?_, hne (hrest y hy)⟩⟩
  · rcases hx with hx | rfl
    · exact hletter hx true
    · rfl
  · exact hne (hx.imp_left fun h => by simp [Char.isAlphanum, h])
  · rcases hrest y hy with h | rfl
    · rw [Char.isAlphanum, Bool.or_eq_true] at h
      rcases h with h | h
      · exact hletter h false
      · simp [isGroupNameChar, Text.isNumeral_of_isDigit h]
    · rfl

namespace Group

/-- The name of the group for a placeholder that `index` others precede, if that of its variable
cannot be one. -/
def positionalName (index : Nat) : String :=
  "__" ++ toString index

variable {name : String} {index : Nat}

theorem nameOf_of_isValidName (h : isValidName name) : nameOf name index = name :=
  if_pos h

theorem nameOf_of_not_isValidName (h : ¬isValidName name) :
    nameOf name index = positionalName index :=
  if_neg h

theorem isValidName_positionalName (index : Nat) : isValidName (positionalName index) := by
  have hdigits : ∀ y ∈ (toString index).toList, y.isAlphanum ∨ y = '_' := fun y hy => by
    rw [Nat.toString_eq_repr, Nat.toList_repr] at hy
    have hdigit : y.isDigit := Nat.isDigit_of_mem_toDigits (by decide) (by decide) hy
    simp [Char.isAlphanum, hdigit]
  simpa [positionalName, isValidName] using hdigits

theorem isValidName_nameOf (name : String) (index : Nat) : isValidName (nameOf name index) := by
  by_cases hvalid : isValidName name
  · rwa [nameOf_of_isValidName hvalid]
  · rw [nameOf_of_not_isValidName hvalid]
    exact isValidName_positionalName index

end Group

/-- The name of the group for a placeholder can be the name of a group. -/
theorem isGroupName_nameOf (name : String) (index : Nat) :
    IsGroupName (Group.nameOf name index).toList := by
  have hvalid := Group.isValidName_nameOf name index
  rw [Group.isValidName] at hvalid
  cases hname : (Group.nameOf name index).toList with
  | nil =>
    rw [hname] at hvalid
    cases hvalid
  | cons x rest =>
    rw [hname, Bool.and_eq_true] at hvalid
    exact isGroupName_of_isAlphanum (by simpa using hvalid.1) (by simpa using hvalid.2)

/-! ### Reading -/

/-- What can be compiled has a tree. -/
theorem exists_parse_of_compilePattern {source : String} {regex : Regex}
    (h : compilePattern source = .ok regex) :
    ∃ node, parse source = .ok (node, regex.names) ∧ regex.program = node.program := by
  rw [compilePattern, Regex.compile] at h
  cases hparse : parse source with
  | error e =>
    rw [hparse] at h
    cases h
  | ok result =>
    rw [hparse] at h
    obtain rfl := Except.ok.inj h
    exact ⟨result.1, rfl, rfl⟩

theorem adds_slash (prefixed : Bool) (group : Nat) :
    Adds true (slash prefixed).toList group (charNodes (slash prefixed)) [] := by
  have hescape : escape (slash prefixed) = slash prefixed := by
    cases prefixed <;> rfl
  have h : Adds true (escape (slash prefixed)).toList group (charNodes (slash prefixed)) [] :=
    adds_escape (slash prefixed)
  rwa [hescape] at h

namespace Placeholder

variable {p : Placeholder} {index : Nat}

/-- Anything but slashes is read as an item. -/
theorem adds_item (group : Nat) : Adds true defaultPattern.toList group [itemNode] [] := by
  exact adds_notSlash.repeated '+' 1 none rfl fun _ _ => rfl

/-- The group of the placeholder around a text. -/
def groupSource (p : Placeholder) (index : Nat) (source : List Char) : List Char :=
  "(?P<".toList ++ (Group.nameOf p.name index).toList ++ ['>'] ++ source ++ [')']

theorem groupSource_eq (p : Placeholder) (index : Nat) (source : List Char) :
    p.groupSource index source =
      "(?P<".toList ++ (Group.nameOf p.name index).toList ++ ['>'] ++ source ++ [')'] := rfl

/-- What matches between two slashes, behind its slash. -/
def turnSource (p : Placeholder) : List Char :=
  (slash p.prefixed).toList ++ ("(?:".toList ++ p.effectivePattern.toList ++ [')'])

theorem toList_regexSource_of_eq_none (h : p.quantifier = none) (index : Nat) :
    (p.regexSource index).toList =
      (slash p.prefixed).toList ++ p.groupSource index p.effectivePattern.toList := by
  simp [regexSource, groupSource_eq, h]

/-- The group of a list is around the repetition. -/
theorem toList_regexSource_of_isRepeating {q : Quantifier} (h : p.quantifier = some q)
    (hrepeating : q.isRepeating) (index : Nat) :
    (p.regexSource index).toList =
      p.groupSource index ("(?:".toList ++ p.turnSource ++ [')'] ++ [q.symbol]) := by
  simp [regexSource, groupSource_eq, turnSource, h, hrepeating, Char.toString]

/-- The repetition of an optional placeholder is around the group and its slash. -/
theorem toList_regexSource_of_not_isRepeating {q : Quantifier} (h : p.quantifier = some q)
    (hrepeating : q.isRepeating = false) (index : Nat) :
    (p.regexSource index).toList =
      "(?:".toList ++ ((slash p.prefixed).toList ++
        p.groupSource index p.effectivePattern.toList) ++ [')'] ++ [q.symbol] := by
  simp [regexSource, groupSource_eq, h, hrepeating, Char.toString]

/-- An item behind its slash, remembered under the name of the placeholder. -/
theorem adds_capture (p : Placeholder) (index : Nat) {source : List Char} {node : Node}
    (h : Adds true source (index + 2) [node] []) :
    Adds false (p.groupSource index source) (index + 1) [.capture (index + 1) node]
      [(Group.nameOf p.name index, index + 1)] :=
  h.named (isGroupName_nameOf p.name index)

/-- A turn of a repeating placeholder. -/
theorem adds_turn (hpattern : p.effectivePattern = defaultPattern) (group : Nat) :
    Adds false ("(?:".toList ++ p.turnSource ++ [')']) group [p.turnNode] [] := by
  have hitem : Adds true ("(?:".toList ++ defaultPattern.toList ++ [')']) group [itemNode] [] :=
    (adds_item group).grouped.weaken
  have hturn := (adds_slash p.prefixed group).append hitem (by decide)
  rw [turnSource, hpattern]
  exact hturn.grouped

/-- The sign of a quantifier repeats what stands before it. -/
theorem adds_symbol (q : Quantifier) {source : List Char} {group : Nat} {node : Node}
    {names : List (String × Nat)} (h : Adds false source group [node] names) :
    Adds true (source ++ [q.symbol]) group [q.repeated node] names := by
  cases q with
  | optional => exact h.repeated '?' 0 (some 1) rfl fun _ _ => rfl
  | oneOrMore => exact h.repeated '+' 1 none rfl fun _ _ => rfl
  | zeroOrMore => exact h.repeated '*' 0 none rfl fun _ _ => rfl

/-- Placeholders without a pattern of their own are read as their trees. -/
theorem adds_regexSource (hpattern : p.pattern = none) :
    Adds true (p.regexSource index).toList (index + 1) (p.nodes index)
      (groupNames index [p]) := by
  have hdefault : p.effectivePattern = defaultPattern := by
    rw [effectivePattern, hpattern]
    rfl
  have hcapture := adds_capture p index (adds_item (index + 2))
  have hfront := (adds_slash p.prefixed (index + 1)).append hcapture.weaken
    (by simp [groupSource_eq])
  cases hquantifier : p.quantifier with
  | none =>
    rw [toList_regexSource_of_eq_none hquantifier, hdefault, nodes_of_eq_none hquantifier]
    exact hfront
  | some q =>
    by_cases hrepeating : q.isRepeating
    · rw [toList_regexSource_of_isRepeating hquantifier hrepeating,
        nodes_of_isRepeating hquantifier hrepeating]
      exact (adds_capture p index (adds_symbol q (adds_turn hdefault (index + 2)))).weaken
    · rw [Bool.not_eq_true] at hrepeating
      rw [toList_regexSource_of_not_isRepeating hquantifier hrepeating, hdefault,
        nodes_of_not_isRepeating hquantifier hrepeating]
      exact adds_symbol q hfront.grouped

end Placeholder

/-! ### Segments -/

namespace Segment

mutual

/-- A segment does not begin with the sign that makes repetitions lazy. -/
theorem head?_regexSource_ne {options : Options} {index : Nat} {rest : List Char}
    (hrest : rest.head? ≠ some '?') : (seg : Segment) →
    (∀ t ∈ seg.texts, options.literal t = escape t) →
    ((seg.regexSource options index).toList ++ rest).head? ≠ some '?'
  | text s prefixed, hliteral => by
    rw [regexSource, hliteral s (by simp [texts])]
    cases prefixed with
    | true => simp [slash]
    | false =>
      rw [slash, if_neg (by decide), String.empty_append]
      exact head?_escape_ne s hrest
  | placeholder p, _ => by
    rw [regexSource, Placeholder.regexSource]
    cases p.quantifier with
    | none => cases hprefixed : p.prefixed <;> simp [slash]
    | some q => cases hrepeating : q.isRepeating <;> simp [hrepeating]
  | compound runs, hliteral => by
    rw [texts] at hliteral
    rw [regexSource]
    exact head?_regexSourceOf_ne hrest runs hliteral

theorem head?_regexSourceOf_ne {options : Options} {index : Nat} {rest : List Char}
    (hrest : rest.head? ≠ some '?') : (segs : List Segment) →
    (∀ t ∈ textsOf segs, options.literal t = escape t) →
    ((regexSourceOf options index segs).toList ++ rest).head? ≠ some '?'
  | [], _ => hrest
  | run :: runs, hliteral => by
    rw [textsOf] at hliteral
    obtain ⟨hliteral, hliterals⟩ := List.forall_mem_append.mp hliteral
    rw [regexSourceOf, String.toList_append, List.append_assoc]
    exact head?_regexSource_ne (head?_regexSourceOf_ne hrest runs hliterals) run hliteral

end

mutual

/-- A segment is read as its trees. -/
theorem adds_regexSource {options : Options} {index : Nat} : (seg : Segment) →
    (∀ q ∈ seg.placeholders, q.pattern = none) →
    (∀ t ∈ seg.texts, options.literal t = escape t) →
    Adds true (seg.regexSource options index).toList (index + 1) (seg.nodes index)
      (Placeholder.groupNames index seg.placeholders)
  | text s prefixed, _, hliteral => by
    rw [regexSource, nodes, hliteral s (by simp [texts]), String.toList_append, charNodes,
      String.toList_append, List.map_append]
    have hhead : ((escape s).toList ++ []).head? ≠ some '?' := head?_escape_ne s (by simp)
    rw [List.append_nil] at hhead
    exact (adds_slash prefixed (index + 1)).append (adds_escape s) hhead
  | placeholder p, hpattern, _ => by
    rw [regexSource, nodes]
    exact Placeholder.adds_regexSource (hpattern p (by simp [placeholders]))
  | compound runs, hpattern, hliteral => by
    rw [regexSource, nodes]
    exact adds_regexSourceOf runs hpattern hliteral

/-- Segments are read one by one. -/
theorem adds_regexSourceOf {options : Options} {index : Nat} : (segs : List Segment) →
    (∀ q ∈ placeholdersOf segs, q.pattern = none) →
    (∀ t ∈ textsOf segs, options.literal t = escape t) →
    Adds true (regexSourceOf options index segs).toList (index + 1) (nodesOf index segs)
      (Placeholder.groupNames index (placeholdersOf segs))
  | [], _, _ => adds_nil true (index + 1)
  | run :: runs, hpattern, hliteral => by
    rw [placeholdersOf] at hpattern
    rw [textsOf] at hliteral
    obtain ⟨hpattern, hpatterns⟩ := List.forall_mem_append.mp hpattern
    obtain ⟨hliteral, hliterals⟩ := List.forall_mem_append.mp hliteral
    rw [regexSourceOf, String.toList_append, nodesOf, placeholdersOf,
      Placeholder.groupNames_append]
    -- What follows must not begin with a question mark, which would make a repetition lazy.
    refine (adds_regexSource run hpattern hliteral).append ?_ ?_
    · rw [Placeholder.length_groupNames, Nat.add_right_comm]
      exact adds_regexSourceOf runs hpatterns hliterals
    · have hhead : ((regexSourceOf options (index + run.placeholders.length) runs).toList ++
          []).head? ≠ some '?' := head?_regexSourceOf_ne (by simp) runs hliterals
      rwa [List.append_nil] at hhead

end

end Segment

/-- The regular expression of a plain path has the tree of the path, and a group for each
placeholder. -/
theorem Path.IsPlain.compilePattern_eq {options : Options} {p : Path} {regex : Regex}
    (hplain : p.IsPlain options) (h : compilePattern (p.regexSource options) = .ok regex) :
    regex.program = p.node.program ∧
      regex.names = (Placeholder.groupNames 0 p.placeholders).reverse ∧
      ((Placeholder.groupNames 0 p.placeholders).map Prod.fst).Nodup := by
  have hadds : Adds true (Segment.regexSourceOf options 0 p.segments).toList 1 _ _ :=
    Segment.adds_regexSourceOf p.segments hplain.pattern hplain.literal
  have hsource : p.regexSource options = String.ofList
      ('^' :: (Segment.regexSourceOf options 0 p.segments).toList ++ ['$']) := by
    apply String.toList_injective
    simp [regexSource]
  obtain ⟨node, hparse, hprogram⟩ := exists_parse_of_compilePattern h
  rw [hsource] at hparse
  obtain ⟨rfl, hnames, hnodup⟩ := hadds.parse_eq hparse
  exact ⟨hprogram, hnames, hnodup⟩

end Reroute
