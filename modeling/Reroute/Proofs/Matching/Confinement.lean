import Reroute.Proofs.Bindings
import Reroute.Proofs.Matching.Extract
import Reroute.Proofs.Matching.GroupNames
import Reroute.Proofs.Regex.Retention

/-!
# Patterns stay inside their groups

The regular expression of a path is read as a whole; nobody looks at a declared pattern alone.
Where every pattern closes what it opens, that is enough: a path that can be compiled has only
patterns that can be compiled themselves, and a group of its own for every placeholder. A class
that is opened in one pattern and closed in another one swallows what is between them.

## Main definitions

* `Regex.IsHarmless` — text that drops nothing around it
* `Path.IsBalanced` — patterns close what they open, and literal text drops nothing

## Main results

* `PathMatcher.patterns_stay_inside` — every pattern is compiled, and every group is there
-/

set_option autoImplicit false

namespace Reroute

open Regex

/-! ### Literal text -/

/-- Text that sets no flags, names no groups and drops nothing: it does not begin with a
repetition of what is before it, and repeats nothing no times. It may open groups that other
text closes. -/
structure Regex.IsHarmless (text : String) : Prop where
  separated : Separated text.toList
  tokens : ∃ tokens, Tokens text.toList tokens ∧ ∀ token ∈ tokens, token.Keeps

namespace Regex.IsHarmless

variable {text : String}

theorem separated_append (h : IsHarmless text) {rest : List Char} (hrest : Separated rest) :
    Separated (text.toList ++ rest) := by
  have hseparated := h.separated
  cases htext : text.toList with
  | nil => exact hrest
  | cons x xs =>
    rw [htext] at hseparated
    exact hseparated

theorem isKept (h : IsHarmless text) : IsKept text.toList [] [] := by
  obtain ⟨tokens, htokens, hkeeps⟩ := h.tokens
  exact isKept_of_tokens htokens hkeeps

end Regex.IsHarmless

/-- Every declared pattern closes what it opens. Literal text that is not escaped is harmless. -/
structure Path.IsBalanced (options : Options) (p : Path) : Prop where
  pattern : ∀ q ∈ p.placeholders, ∀ t, q.pattern = some t → Regex.IsBalanced t
  literal : options.escapeLiterals = false →
    ∀ t ∈ Segment.textsOf p.segments, Regex.IsHarmless t

theorem exists_tokens_escape (text : List Char) :
    ∃ tokens, Tokens (text.flatMap fun x => if isMeta x then ['\\', x] else [x]) tokens ∧
      ∀ token ∈ tokens, token.Keeps := by
  induction text with
  | nil => exact ⟨[], .nil, by simp⟩
  | cons x text ih =>
    obtain ⟨tokens, htokens, hkeeps⟩ := ih
    refine ⟨.operand (Flags.literal {} x) :: tokens, ?_, List.forall_mem_cons.mpr ⟨trivial, hkeeps⟩⟩
    rw [List.flatMap_cons]
    by_cases hx : isMeta x
    · rw [if_pos hx]
      refine .cons ?_ htokens
      change (readEscape {} (x :: _)).toOption.map _ = _
      rw [readEscape_of_isMeta hx]
      rfl
    · rw [if_neg hx]
      exact .cons (readToken?_of_not_isMeta (Bool.eq_false_iff.mpr hx) _) htokens

/-- Escaped text is harmless, whatever it says. -/
theorem isHarmless_escape (text : String) : Regex.IsHarmless (escape text) := by
  have hseparated : Separated ((escape text).toList ++ []) :=
    separated_escape text ⟨by simp, by simp⟩
  rw [List.append_nil] at hseparated
  refine ⟨hseparated, ?_⟩
  rw [escape, String.toList_ofList]
  exact exists_tokens_escape text.toList

theorem Path.IsBalanced.isHarmless_literal {options : Options} {p : Path}
    (h : p.IsBalanced options) {t : String} (ht : t ∈ Segment.textsOf p.segments) :
    Regex.IsHarmless (options.literal t) := by
  unfold Options.literal
  split_ifs with hescape
  · exact isHarmless_escape t
  · exact h.literal (Bool.eq_false_iff.mpr hescape) t ht

theorem isKept_slash (prefixed : Bool) : IsKept (slash prefixed).toList [] [] := by
  cases prefixed with
  | false => exact isKept_nil
  | true =>
    exact isKept_of_tokens (.cons (readToken?_of_not_isMeta rfl []) .nil) (by simp [Token.Keeps])

/-! ### Placeholders -/

namespace Placeholder

variable {p : Placeholder} {index : Nat}

/-- The pattern that is used if none is declared closes its class. -/
theorem isBalanced_effectivePattern (h : ∀ t, p.pattern = some t → Regex.IsBalanced t) :
    Regex.IsBalanced p.effectivePattern := by
  rw [effectivePattern]
  cases hpattern : p.pattern with
  | some t => exact h t hpattern
  | none =>
    have hclass : readToken? '[' ['^', '/', ']', '+'] = some (.operand (.set notSlash), ['+']) := by
      change (readClass {} ['^', '/', ']', '+']).toOption.map _ = _
      rw [readClass_notSlash]
      rfl
    exact ⟨_, .cons hclass (.cons rfl .nil), rfl⟩

/-- The end of a group. -/
theorem isKept_closing : IsKept [')'] [] [] :=
  isKept_of_tokens (.cons rfl .nil) (by simp [Token.Keeps])

/-- The end of a group that is repeated. -/
theorem isKept_closing_symbol (q : Quantifier) : IsKept [')', q.symbol] [] [] := by
  cases q with
  | optional => exact isKept_of_tokens (.cons rfl (.cons rfl .nil)) (by simp [Token.Keeps])
  | oneOrMore => exact isKept_of_tokens (.cons rfl (.cons rfl .nil)) (by simp [Token.Keeps])
  | zeroOrMore => exact isKept_of_tokens (.cons rfl (.cons rfl .nil)) (by simp [Token.Keeps])

theorem separated_slash (prefixed : Bool) {rest : List Char} (hrest : Separated rest) :
    Separated ((slash prefixed).toList ++ rest) := by
  cases prefixed with
  | false => exact hrest
  | true => exact separated_cons (by decide) rest

/-- A placeholder is a part with its group and its pattern. -/
theorem isKept_regexSource (h : ∀ t, p.pattern = some t → Regex.IsBalanced t) :
    IsKept (p.regexSource index).toList (groupNamesOf index [p]) [p.effectivePattern] := by
  have hname := isOpening_named (isGroupName_nameOf p.name index)
  have hpattern := isBalanced_effectivePattern h
  have hgroup : IsKept (p.groupSource index p.effectivePattern.toList)
      [Group.nameOf p.name index] [p.effectivePattern] := hpattern.isKept_between hname
  have hfront := (isKept_slash p.prefixed).append hgroup fun rest _ =>
    p.separated_groupSource index p.effectivePattern.toList rest
  cases hquantifier : p.quantifier with
  | none =>
    rw [toList_regexSource_of_eq_none hquantifier]
    exact hfront
  | some q =>
    by_cases hrepeating : q.isRepeating
    · -- The named group is around all turns, and each turn has the pattern in a group of its own.
      have hturn : IsKept p.turnSource [] [p.effectivePattern] :=
        (isKept_slash p.prefixed).append (hpattern.isKept_between isOpening_plain) fun rest _ =>
          separated_cons (by decide) _
      have hturns : IsKept ("(?:".toList ++ p.turnSource ++ [')', q.symbol]) []
          [p.effectivePattern] :=
        hturn.enclosed isOpening_plain (isKept_closing_symbol q) fun rest _ => by
          rw [turnSource, List.append_assoc]
          exact separated_slash p.prefixed (separated_cons (by decide) _)
      rw [toList_regexSource_of_isRepeating hquantifier hrepeating, List.append_assoc]
      exact hturns.enclosed hname isKept_closing fun rest _ => separated_cons (by decide) _
    · rw [toList_regexSource_of_not_isRepeating hquantifier (Bool.eq_false_iff.mpr hrepeating),
        List.append_assoc]
      exact hfront.enclosed isOpening_plain (isKept_closing_symbol q) fun rest _ => by
        rw [List.append_assoc]
        exact separated_slash p.prefixed (p.separated_groupSource index _ _)

end Placeholder

/-! ### Whole paths -/

theorem isPartwise_isKept :
    IsPartwise fun index ps source =>
      IsKept source (Placeholder.groupNamesOf index ps) (ps.map (·.effectivePattern)) where
  nil _ := isKept_nil
  append h h' hsep := by
    rw [Placeholder.groupNamesOf_append, List.map_append]
    exact h.append h' hsep
  slash _ prefixed := isKept_slash prefixed

/-- The regular expression of a path has a group for each placeholder, with its pattern. -/
theorem Path.IsBalanced.isKept {options : Options} {p : Path} (h : p.IsBalanced options) :
    IsKept (p.regexSource options).toList (p.groups.map Group.name)
      (p.placeholders.map (·.effectivePattern)) := by
  have hsep : ∀ t ∈ Segment.textsOf p.segments, ∀ rest, Separated rest →
      Separated ((options.literal t).toList ++ rest) :=
    fun t ht rest hrest => (h.isHarmless_literal ht).separated_append hrest
  have hsource : IsKept (Segment.regexSourceOf options 0 p.segments).toList
      (Placeholder.groupNamesOf 0 p.placeholders) (p.placeholders.map (·.effectivePattern)) :=
    Segment.partwise_regexSourceOf isPartwise_isKept p.segments
      (fun q hq index => Placeholder.isKept_regexSource (h.pattern q hq))
      (fun t ht _ => (h.isHarmless_literal ht).isKept) hsep
  rw [p.regexSource_eq, String.toList_ofList, p.map_name_groups]
  exact hsource.anchored fun rest hrest => Segment.separated_regexSourceOf hrest p.segments hsep

namespace PathMatcher

variable {options : Options} {p : Path} {m : PathMatcher}

/-- A path whose patterns close what they open and that can be compiled has only patterns that
can be compiled on their own, declared or not. Its regular expression has one group with a name
for each placeholder, in order, and no other; where such a group begins and ends is remembered
by the program, so that a variable can get its value. -/
theorem patterns_stay_inside (h : p.IsBalanced options)
    (hcompile : PathMatcher.compile options p = .ok m) :
    (∀ q ∈ p.placeholders, ∃ regex, Regex.compile q.effectivePattern = .ok regex) ∧
      m.groups = p.groups ∧
      m.regex.names.map Prod.fst = (m.groups.map Group.name).reverse ∧
      (m.groups.map Group.name).Nodup ∧
      ∀ g ∈ m.groups, ∃ index, m.regex.names.lookup g.name = some index ∧
        Inst.save (2 * index) ∈ m.regex.program ∧
        Inst.save (2 * index + 1) ∈ m.regex.program := by
  obtain ⟨hregex, hgroups, -⟩ := eq_of_compile hcompile
  obtain ⟨node, hparse, hprogram⟩ := exists_parse_of_compilePattern hregex
  obtain ⟨hnames, hnodup, hopened, hpatterns⟩ := h.isKept.of_parse hparse
  rw [hgroups, hprogram]
  refine ⟨fun q hq => hpatterns _ (List.mem_map_of_mem hq), rfl, hnames, ?_, fun g hg => ?_⟩
  · rwa [hnames, List.nodup_reverse] at hnodup
  · obtain ⟨index, hindex, hsave⟩ := hopened g.name (List.mem_map_of_mem hg)
    refine ⟨index, ?_, hsave⟩
    have hlookup : m.regex.names.reverse.reverse.lookup g.name = some index :=
      lookup_reverse_of_mem (by rwa [List.map_reverse, List.nodup_reverse])
        (List.mem_reverse.mpr hindex)
    rwa [List.reverse_reverse] at hlookup

/-- A version that is one of two alternatives: literal text opens the group of both, and closes
it again. -/
theorem patterns_stay_inside_version :
    ∃ p m, Grammar.fullPath.parseFull "/(v:major(\\d+)|latest)/:file" = .ok p ∧ p.IsBalanced {} ∧
      PathMatcher.compile {} p = .ok m ∧ (∃ regex, Regex.compile "\\d+" = .ok regex) ∧
      m.groups.map Group.name = ["major", "file"] ∧
      ∃ index, m.regex.names.lookup "major" = some index ∧
        Inst.save (2 * index) ∈ m.regex.program := by
  obtain ⟨p, hparse, h⟩ := exists_ok_of_any
    (r := Grammar.fullPath.parseFull "/(v:major(\\d+)|latest)/:file")
    (f := fun p =>
      p = ⟨[.compound [.text "(v" true, .placeholder ⟨"major", none, some "\\d+", false⟩,
          .text "|latest)" false], .placeholder { name := "file" }], []⟩ &&
        (PathMatcher.compile {} p).toOption.any fun _ => true)
    (by decide +kernel)
  rw [Bool.and_eq_true, decide_eq_true_eq] at h
  obtain ⟨rfl, h⟩ := h
  obtain ⟨m, hcompile, -⟩ := exists_ok_of_any h
  have hpattern : Regex.IsBalanced "\\d+" := ⟨_, .cons rfl (.cons rfl .nil), rfl⟩
  -- The group of both alternatives begins in one literal and ends in the other.
  have hopening : Regex.IsHarmless "(v" :=
    ⟨separated_cons (by decide) _, _, .cons rfl (.cons rfl .nil), by simp [Token.Keeps]⟩
  have hclosing : Regex.IsHarmless "|latest)" :=
    ⟨separated_cons (by decide) _, _, .cons rfl (.cons rfl (.cons rfl (.cons rfl (.cons rfl
      (.cons rfl (.cons rfl (.cons rfl .nil))))))), by simp [Token.Keeps]⟩
  have hbalanced : Path.IsBalanced {}
      ⟨[.compound [.text "(v" true, .placeholder ⟨"major", none, some "\\d+", false⟩,
        .text "|latest)" false], .placeholder { name := "file" }], []⟩ := by
    refine ⟨fun q hq t ht => ?_, fun _ t ht => ?_⟩
    · obtain rfl | hq := List.mem_cons.mp hq
      · obtain rfl := Option.some.inj ht
        exact hpattern
      · obtain rfl := List.mem_singleton.mp hq
        cases ht
    · obtain rfl | ht := List.mem_cons.mp ht
      · exact hopening
      · obtain rfl := List.mem_singleton.mp ht
        exact hclosing
  obtain ⟨hpatterns, hgroups, -, -, hopened⟩ := patterns_stay_inside hbalanced hcompile
  have hnames : m.groups.map Group.name = ["major", "file"] := by
    rw [hgroups]
    decide +kernel
  obtain ⟨index, hindex, hsave, -⟩ :=
    hopened ⟨"major", "major", false⟩ (by rw [hgroups]; decide +kernel)
  exact ⟨_, m, hparse, hbalanced, hcompile, hpatterns _ List.mem_cons_self, hnames, index, hindex,
    hsave⟩

/-- A class that is opened in one pattern and closed in the next one, whether or not literal
text is escaped: the first pattern cannot be compiled, but the path can, and its second variable
has no group. -/
theorem not_patterns_stay_inside :
    ∃ p, Grammar.fullPath.parseFull "/:a([)/:b(])" = .ok p ∧
      p.placeholders.map (·.pattern) = [some "[", some "]"] ∧
      (¬∃ regex, Regex.compile "[" = .ok regex) ∧
      ∀ escapeLiterals, ∃ m, PathMatcher.compile { escapeLiterals } p = .ok m ∧
        m.groups.map Group.name = ["a", "b"] ∧ m.regex.names.lookup "b" = none := by
  obtain ⟨p, hparse, h⟩ := exists_ok_of_any (r := Grammar.fullPath.parseFull "/:a([)/:b(])")
    (f := fun p => p.placeholders.map (·.pattern) = [some "[", some "]"] &&
      [false, true].all fun escapeLiterals =>
        (PathMatcher.compile { escapeLiterals } p).toOption.any fun m =>
          m.groups.map Group.name = ["a", "b"] && m.regex.names.lookup "b" = none)
    (by decide +kernel)
  rw [Bool.and_eq_true, decide_eq_true_eq] at h
  refine ⟨p, hparse, h.1, ?_, fun escapeLiterals => ?_⟩
  · rintro ⟨regex, hregex⟩
    have hnone : (Regex.compile "[").toOption.isNone = true := by decide +kernel
    rw [hregex] at hnone
    cases hnone
  · obtain ⟨m, hcompile, hm⟩ :=
      exists_ok_of_any (List.all_eq_true.mp h.2 escapeLiterals (by cases escapeLiterals <;> simp))
    rw [Bool.and_eq_true, decide_eq_true_eq, decide_eq_true_eq] at hm
    exact ⟨m, hcompile, hm.1, hm.2⟩

end PathMatcher

end Reroute
