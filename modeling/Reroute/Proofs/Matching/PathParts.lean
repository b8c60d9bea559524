import Reroute.Proofs.Matching.PathTree
import Reroute.Proofs.Regex.Part

/-!
# The parts of the regular expression of a path

Where every declared pattern and every literal text is a regular expression of its own, the
regular expression of a path is made of parts, one for each segment: whatever patterns and
texts are, they do not change how anything around them is read.

## Main definitions

* `Path.IsSelfContained` — patterns and literal texts are regular expressions of their own
* `Placeholder.groupNamesOf` — the names of the groups of some placeholders

## Main results

* `Segment.partwise_regexSourceOf` — segments are parts of a kind if what they are made of is
* `Placeholder.readsAs_regexSource`, `Path.IsSelfContained.readsAs` — placeholders and whole paths
  are parts
* `Path.regexSource_eq` — the regular expression of a path is a part between anchors
-/

set_option autoImplicit false

namespace Reroute

open Regex

/-! ### Literal text -/

/-- Every declared pattern is a regular expression of its own, and so is every literal text
that is not escaped; that is not an alternative of others either. -/
structure Path.IsSelfContained (options : Options) (p : Path) : Prop where
  pattern : ∀ q ∈ p.placeholders, ∀ t, q.pattern = some t → Regex.IsSelfContained t
  literal : options.escapeLiterals = false →
    ∀ t ∈ Segment.textsOf p.segments, Regex.IsSequence t

theorem readToken?_of_not_isMeta {x : Char} (hx : isMeta x = false) (rest : List Char) :
    readToken? x rest = some (.operand (Flags.literal {} x), rest) := by
  have hne (y : Char) (hy : isMeta y = true) : x ≠ y := by
    rintro rfl
    rw [hx] at hy
    cases hy
  unfold readToken?
  split
  all_goals first
    | exact absurd rfl (hne _ rfl)
    | rfl

theorem readsAs_escaped (x : Char) : ReadsAs true (if isMeta x then ['\\', x] else [x]) [] := by
  by_cases hx : isMeta x
  · rw [if_pos hx]
    have htoken (rest : List Char) :
        readToken? '\\' ([x] ++ rest) = some (.operand (Flags.literal {} x), rest) := by
      change (readEscape {} (x :: rest)).toOption.map _ = _
      rw [readEscape_of_isMeta hx]
      rfl
    exact readsAs_operand htoken
  · rw [if_neg hx]
    exact readsAs_operand fun rest => readToken?_of_not_isMeta (Bool.eq_false_iff.mpr hx) rest

theorem separated_escaped (x : Char) (rest : List Char) :
    Separated ((if isMeta x then ['\\', x] else [x]) ++ rest) := by
  by_cases hx : isMeta x
  · rw [if_pos hx]
    exact separated_cons (by decide) _
  · rw [if_neg hx]
    refine separated_cons ⟨?_, ?_⟩ _
    all_goals
      rintro rfl
      exact hx rfl

theorem separated_escape (text : String) {rest : List Char} (hrest : Separated rest) :
    Separated ((escape text).toList ++ rest) := by
  rw [escape, String.toList_ofList]
  cases text.toList with
  | nil => exact hrest
  | cons x text =>
    rw [List.flatMap_cons, List.append_assoc]
    exact separated_escaped x _

/-- Escaped text is a part. -/
theorem readsAs_escape (text : String) : ReadsAs false (escape text).toList [] := by
  rw [escape, String.toList_ofList]
  induction text.toList with
  | nil => exact readsAs_nil
  | cons x text ih =>
    rw [List.flatMap_cons]
    refine (readsAs_escaped x).weaken.append ih fun rest hrest => ?_
    cases text with
    | nil => exact hrest
    | cons y text =>
      rw [List.flatMap_cons, List.append_assoc]
      exact separated_escaped y _

theorem readsAs_slash (prefixed : Bool) : ReadsAs false (slash prefixed).toList [] := by
  cases prefixed with
  | false => exact readsAs_nil
  | true => exact (readsAs_operand fun rest => readToken?_of_not_isMeta rfl rest).weaken

/-! ### Placeholders -/

namespace Placeholder

/-- The names of the groups for some placeholders that `index` others precede. -/
def groupNamesOf (index : Nat) (ps : List Placeholder) : List String :=
  (groupNames index ps).map Prod.fst

variable {p : Placeholder} {index : Nat}

/-- What a placeholder matches between slashes is a part between parentheses. -/
theorem readsWithin_effectivePattern (h : ∀ t, p.pattern = some t → Regex.IsSelfContained t) :
    ReadsWithin p.effectivePattern.toList [] := by
  rw [effectivePattern]
  cases hpattern : p.pattern with
  | some t => exact (h t hpattern).readsWithin
  | none =>
    have htoken (rest : List Char) :
        readToken? '[' ("^/]".toList ++ rest) = some (.operand (.set notSlash), rest) := by
      change (readClass {} ('^' :: '/' :: ']' :: rest)).toOption.map _ = _
      rw [readClass_notSlash]
      rfl
    have hclass : ReadsAs true "[^/]".toList [] := readsAs_operand htoken
    exact (hclass.repeated '+' 1 none rfl fun _ => rfl).within

/-- The sign of a quantifier repeats what stands before it. -/
theorem readsAs_symbol (q : Quantifier) {source : List Char} {names : List String}
    (h : ReadsAs true source names) : ReadsAs false (source ++ [q.symbol]) names := by
  cases q with
  | optional => exact h.repeated '?' 0 (some 1) rfl fun _ => rfl
  | oneOrMore => exact h.repeated '+' 1 none rfl fun _ => rfl
  | zeroOrMore => exact h.repeated '*' 0 none rfl fun _ => rfl

theorem separated_groupSource (p : Placeholder) (index : Nat) (source rest : List Char) :
    Separated (p.groupSource index source ++ rest) :=
  separated_cons (by decide) _

/-- A placeholder is a part with one group. -/
theorem readsAs_regexSource (h : ∀ t, p.pattern = some t → Regex.IsSelfContained t) :
    ReadsAs false (p.regexSource index).toList (groupNamesOf index [p]) := by
  have hname := isGroupName_nameOf p.name index
  have hpattern := readsWithin_effectivePattern h
  have hslash := readsAs_slash p.prefixed
  have hfront : ReadsAs false _ [Group.nameOf p.name index] :=
    hslash.append (hpattern.named hname).weaken fun rest _ =>
      p.separated_groupSource index p.effectivePattern.toList rest
  cases hquantifier : p.quantifier with
  | none =>
    rw [toList_regexSource_of_eq_none hquantifier]
    exact hfront
  | some q =>
    by_cases hrepeating : q.isRepeating
    · have hturn : ReadsAs true ("(?:".toList ++ p.turnSource ++ [')']) [] :=
        (hslash.append hpattern.grouped.weaken fun rest _ =>
          separated_cons (by decide) _).within.grouped
      rw [toList_regexSource_of_isRepeating hquantifier hrepeating]
      exact ((readsAs_symbol q hturn).within.named hname).weaken
    · rw [toList_regexSource_of_not_isRepeating hquantifier (Bool.eq_false_iff.mpr hrepeating)]
      exact readsAs_symbol q hfront.within.grouped

theorem separated_regexSource (p : Placeholder) (index : Nat) (rest : List Char) :
    Separated ((p.regexSource index).toList ++ rest) := by
  rw [regexSource]
  cases p.quantifier with
  | none => cases hprefixed : p.prefixed <;> simp [Separated, slash]
  | some q => cases hrepeating : q.isRepeating <;> simp [Separated, hrepeating]

theorem groupNamesOf_append (index : Nat) (ps qs : List Placeholder) :
    groupNamesOf index (ps ++ qs) =
      groupNamesOf index ps ++ groupNamesOf (index + ps.length) qs := by
  rw [groupNamesOf, groupNames_append, List.map_append]
  rfl

end Placeholder

/-! ### Segments -/

/-- Literal text is a part. -/
theorem Options.readsAs_literal {options : Options} {t : String}
    (h : options.escapeLiterals = false → Regex.IsSequence t) :
    ReadsAs false (options.literal t).toList [] := by
  unfold Options.literal
  split_ifs with hescape
  · exact readsAs_escape t
  · exact (h (Bool.eq_false_iff.mpr hescape)).readsAs

theorem Options.separated_literal {options : Options} {t : String}
    (h : options.escapeLiterals = false → Regex.IsSequence t) {rest : List Char}
    (hrest : Separated rest) : Separated ((options.literal t).toList ++ rest) := by
  unfold Options.literal
  split_ifs with hescape
  · exact separated_escape t hrest
  · exact (h (Bool.eq_false_iff.mpr hescape)).separated hrest

/-- What holds of some kind of part holds of parts one after the other. A part belongs to
some placeholders, which `index` others precede. -/
structure IsPartwise (P : Nat → List Placeholder → List Char → Prop) : Prop where
  nil : ∀ index, P index [] []
  append : ∀ {index : Nat} {ps qs : List Placeholder} {source source' : List Char},
    P index ps source → P (index + ps.length) qs source' →
      (∀ rest, Separated rest → Separated (source' ++ rest)) →
        P index (ps ++ qs) (source ++ source')
  slash : ∀ index prefixed, P index [] (slash prefixed).toList

namespace Segment

variable {options : Options} {P : Nat → List Placeholder → List Char → Prop}

mutual

/-- No segment begins with what the token before it would take for its own. -/
theorem separated_regexSource {index : Nat} {rest : List Char} (hrest : Separated rest) :
    (seg : Segment) →
    (∀ t ∈ seg.texts, ∀ rest, Separated rest → Separated ((options.literal t).toList ++ rest)) →
    Separated ((seg.regexSource options index).toList ++ rest)
  | text s prefixed, hliteral => by
    rw [regexSource, String.toList_append, List.append_assoc]
    have hs : Separated ((options.literal s).toList ++ rest) :=
      hliteral s (by simp [texts]) rest hrest
    cases prefixed with
    | true => exact separated_cons (by decide) _
    | false => exact hs
  | placeholder p, _ => p.separated_regexSource index rest
  | compound runs, hliteral => separated_regexSourceOf hrest runs hliteral

theorem separated_regexSourceOf {index : Nat} {rest : List Char} (hrest : Separated rest) :
    (segs : List Segment) →
    (∀ t ∈ textsOf segs, ∀ rest, Separated rest → Separated ((options.literal t).toList ++ rest)) →
    Separated ((regexSourceOf options index segs).toList ++ rest)
  | [], _ => hrest
  | run :: runs, hliteral => by
    obtain ⟨hliteral, hliterals⟩ := List.forall_mem_append.mp hliteral
    rw [regexSourceOf, String.toList_append, List.append_assoc]
    exact separated_regexSource (separated_regexSourceOf hrest runs hliterals) run hliteral

end

mutual

/-- A segment is a part if its placeholders and its literal texts are. -/
theorem partwise_regexSource (hP : IsPartwise P) {index : Nat} : (seg : Segment) →
    (∀ q ∈ seg.placeholders, ∀ index, P index [q] (q.regexSource index).toList) →
    (∀ t ∈ seg.texts, ∀ index, P index [] (options.literal t).toList) →
    (∀ t ∈ seg.texts, ∀ rest, Separated rest → Separated ((options.literal t).toList ++ rest)) →
    P index seg.placeholders (seg.regexSource options index).toList
  | text s prefixed, _, hliteral, hsep => by
    rw [regexSource, String.toList_append]
    exact hP.append (hP.slash index prefixed) (hliteral s (by simp [texts]) index)
      (hsep s (by simp [texts]))
  | placeholder p, hplaceholder, _, _ => hplaceholder p (by simp [placeholders]) index
  | compound runs, hplaceholder, hliteral, hsep =>
    partwise_regexSourceOf hP runs hplaceholder hliteral hsep

/-- And so are segments one after the other. -/
theorem partwise_regexSourceOf (hP : IsPartwise P) {index : Nat} : (segs : List Segment) →
    (∀ q ∈ placeholdersOf segs, ∀ index, P index [q] (q.regexSource index).toList) →
    (∀ t ∈ textsOf segs, ∀ index, P index [] (options.literal t).toList) →
    (∀ t ∈ textsOf segs, ∀ rest, Separated rest → Separated ((options.literal t).toList ++ rest)) →
    P index (placeholdersOf segs) (regexSourceOf options index segs).toList
  | [], _, _, _ => hP.nil index
  | run :: runs, hplaceholder, hliteral, hsep => by
    obtain ⟨hplaceholder, hplaceholders⟩ := List.forall_mem_append.mp hplaceholder
    obtain ⟨hliteral, hliterals⟩ := List.forall_mem_append.mp hliteral
    obtain ⟨hsep, hseps⟩ := List.forall_mem_append.mp hsep
    rw [regexSourceOf, String.toList_append, placeholdersOf]
    exact hP.append (partwise_regexSource hP run hplaceholder hliteral hsep)
      (partwise_regexSourceOf hP runs hplaceholders hliterals hseps) fun rest hrest =>
        separated_regexSourceOf hrest runs hseps

end

end Segment

theorem isPartwise_readsAs :
    IsPartwise fun index ps source => ReadsAs false source (Placeholder.groupNamesOf index ps) where
  nil _ := readsAs_nil
  append h h' hsep := by
    rw [Placeholder.groupNamesOf_append]
    exact h.append h' hsep
  slash _ prefixed := readsAs_slash prefixed

/-! ### Whole paths -/

/-- The regular expression of a path stands between anchors. -/
theorem Path.regexSource_eq (options : Options) (p : Path) :
    p.regexSource options = String.ofList
      ('^' :: ((Segment.regexSourceOf options 0 p.segments).toList ++ ['$'])) := by
  apply String.toList_injective
  simp [regexSource]

/-- What stands between the anchors is one part, with a group for each placeholder. -/
theorem Path.IsSelfContained.readsAs {options : Options} {p : Path}
    (h : p.IsSelfContained options) :
    ReadsAs false (Segment.regexSourceOf options 0 p.segments).toList
      (Placeholder.groupNamesOf 0 p.placeholders) := by
  refine Segment.partwise_regexSourceOf isPartwise_readsAs p.segments
    (fun q hq index => Placeholder.readsAs_regexSource (h.pattern q hq))
    (fun t ht index => Options.readsAs_literal fun hescape => h.literal hescape t ht)
    fun t ht rest hrest => Options.separated_literal (fun hescape => h.literal hescape t ht) hrest

end Reroute
