import Reroute.Proofs.Matching.Extract
import Reroute.Proofs.Matching.PathParts
import Reroute.Proofs.Regex.Search
import Reroute.Grammar.Path

/-!
# Where the source of a rule matches

The regular expression of a path stands between anchors. They hold what is between them to
whole texts as long as it is one part; an alternative of its own would leave an anchor behind.

## Main results

* `PathMatcher.span?_of_find?` — where a match begins and ends
-/

set_option autoImplicit false

namespace Reroute

open Regex

variable {options : Options} {p : Path} {m : PathMatcher} {regex : Regex} {found : Match}
  {text : String}

/-- The tree of a self-contained path is between those of the anchors. -/
theorem Path.IsSelfContained.exists_nodes (h : p.IsSelfContained options)
    (hregex : compilePattern (p.regexSource options) = .ok regex) :
    ∃ nodes, regex.program = (Node.concat (.look .start :: nodes ++ [.look .end])).program ∧
      (Node.concat (.look .start :: nodes ++ [.look .end])).hasGroup 0 = false := by
  obtain ⟨node, hparse, hprogram⟩ := exists_parse_of_compilePattern hregex
  have hzero := hasGroup_zero_of_parse hparse
  rw [p.regexSource_eq] at hparse
  obtain ⟨-, nodes, rfl⟩ := h.readsAs.parse_eq hparse
  exact ⟨nodes, hprogram, hzero⟩

/-- A match of a self-contained path goes from the beginning of a text to its end. -/
theorem Path.IsSelfContained.span?_eq (h : p.IsSelfContained options)
    (hregex : compilePattern (p.regexSource options) = .ok regex)
    (hfound : regex.find? text = some found) : found.span? 0 = some (0, text.length) := by
  obtain ⟨nodes, hprogram, hzero⟩ := h.exists_nodes hregex
  rw [Regex.find?, hprogram] at hfound
  obtain ⟨slots, hslots, rfl⟩ := Option.map_eq_some_iff.mp hfound
  obtain ⟨a, c, ha, hmatches⟩ := matches_of_searchProgram hslots
  obtain ⟨t, hpath, rfl⟩ := Node.matches_capture.mp hmatches
  obtain ⟨rfl, rfl, -⟩ := (Node.matches_anchored ha).mp hpath
  have hfirst : t.lookup 0 = some 0 := by
    have hgroup : (Node.concat (.look .start :: nodes ++ [.look .end])).hasGroup (0 / 2) = false :=
      hzero
    rw [hpath.lookup_eq hgroup]
    rfl
  have hslots : ((1, text.toList.toArray.size) :: t).lookup (2 * 0) = some 0 := hfirst
  rw [Match.span?, hslots]
  simp [String.length_toList]

namespace PathMatcher

/-- Let the patterns and literal texts of a path be regular expressions of their own. Wherever
its regular expression is found in a text, it spans the text from the beginning to the end, so
no URL matches because of a part of its path only. -/
theorem span?_of_find? (h : p.IsSelfContained options)
    (hcompile : PathMatcher.compile options p = .ok m) :
    (∀ text found, m.regex.find? text = some found → found.span? 0 = some (0, text.length)) ∧
      ∀ u : Url, m.isMatch u →
        ∃ found, m.regex.find? u.path = some found ∧ found.span? 0 = some (0, u.path.length) := by
  have hspan (text : String) (found : Match) (hfound : m.regex.find? text = some found) :
      found.span? 0 = some (0, text.length) :=
    h.span?_eq (eq_of_compile hcompile).1 hfound
  refine ⟨hspan, fun u hmatch => ?_⟩
  rw [isMatch, Bool.and_eq_true] at hmatch
  obtain ⟨found, hfound⟩ := Option.isSome_iff_exists.mp hmatch.1
  exact ⟨found, hfound, hspan u.path found hfound⟩

/-- Alternatives in a group of literal text, and in a declared pattern. -/
theorem span?_of_find?_versions :
    ∃ p m, Grammar.fullPath.parseFull "/v(1|2)/:id(x|y)" = .ok p ∧ p.IsSelfContained {} ∧
      PathMatcher.compile {} p = .ok m ∧
      ∃ found, m.regex.find? "/v2/y" = some found ∧ found.span? 0 = some (0, 5) := by
  obtain ⟨p, hparse, h⟩ := exists_ok_of_any
    (r := Grammar.fullPath.parseFull "/v(1|2)/:id(x|y)")
    (f := fun p =>
      p = ⟨[.text "v(1|2)" true, .placeholder { name := "id", pattern := some "x|y" }], []⟩ &&
        (PathMatcher.compile {} p).toOption.any fun m => (m.regex.find? "/v2/y").isSome)
    (by decide +kernel)
  rw [Bool.and_eq_true, decide_eq_true_eq] at h
  obtain ⟨rfl, h⟩ := h
  obtain ⟨m, hcompile, h⟩ := exists_ok_of_any h
  obtain ⟨found, hfound⟩ := Option.isSome_iff_exists.mp h
  have hpattern : Regex.IsSelfContained "x|y" := by
    obtain ⟨regex, hregex, -⟩ := exists_ok_of_any (r := Regex.compile "x|y")
      (f := fun _ => true) (by decide +kernel)
    exact ⟨⟨regex, hregex⟩, _, .cons rfl (.cons rfl (.cons rfl .nil))⟩
  have hliteral : Regex.IsSequence "v(1|2)" := by
    obtain ⟨regex, hregex, -⟩ := exists_ok_of_any (r := Regex.compile "v(1|2)")
      (f := fun _ => true) (by decide +kernel)
    have hbranches : (Builder.run { rest := "v(1|2)".toList }).toOption.all
        (·.branches.isEmpty) := by decide +kernel
    refine ⟨⟨⟨regex, hregex⟩, _, .cons rfl (.cons rfl (.cons rfl (.cons rfl (.cons rfl
      (.cons rfl .nil)))))⟩, fun r hrun => ?_⟩
    rw [hrun] at hbranches
    exact List.isEmpty_iff.mp hbranches
  have hself : Path.IsSelfContained {}
      ⟨[.text "v(1|2)" true, .placeholder { name := "id", pattern := some "x|y" }], []⟩ := by
    refine ⟨fun q hq t ht => ?_, fun _ t ht => ?_⟩
    · obtain rfl := List.mem_singleton.mp hq
      obtain rfl := Option.some.inj ht
      exact hpattern
    · obtain rfl := List.mem_singleton.mp ht
      exact hliteral
  exact ⟨_, m, hparse, hself, hcompile, found, hfound,
    (span?_of_find? hself hcompile).1 _ _ hfound⟩

/-- What can be tested of the first match of a path in that of a URL. -/
theorem exists_span?_of_any {text : String} {u : Url} {span : Nat × Nat}
    (h : (Grammar.fullPath.parseFull text).toOption.any fun p =>
      (PathMatcher.compile options p).toOption.any fun m =>
        m.isMatch u && (m.regex.find? u.path).any fun found => found.span? 0 = some span) :
    ∃ p m found, Grammar.fullPath.parseFull text = .ok p ∧
      PathMatcher.compile options p = .ok m ∧ m.isMatch u ∧ m.regex.find? u.path = some found ∧
        found.span? 0 = some span := by
  obtain ⟨p, hparse, h⟩ := exists_ok_of_any h
  obtain ⟨m, hcompile, h⟩ := exists_ok_of_any h
  obtain ⟨hmatch, h⟩ := Bool.and_eq_true_iff.mp h
  obtain ⟨found, hfound, hspan⟩ := (Option.any_eq_true _ _).mp h
  exact ⟨p, m, found, hparse, hcompile, hmatch, hfound, of_decide_eq_true hspan⟩

/-- A bar of literal text parts the anchors, and so does one of a pattern that closes its
group. -/
theorem span?_ne_of_bar :
    (∃ p m found, Grammar.fullPath.parseFull "/a|b" = .ok p ∧ PathMatcher.compile {} p = .ok m ∧
        m.isMatch ⟨"https", none, false, "/ax", none, none⟩ ∧
        m.regex.find? "/ax" = some found ∧ found.span? 0 = some (0, 2)) ∧
      ∃ p m found, Grammar.fullPath.parseFull "/:x(a\\\\)|(b)" = .ok p ∧
        PathMatcher.compile { escapeLiterals := true } p = .ok m ∧
        m.isMatch ⟨"https", none, false, "/xb", none, none⟩ ∧
        m.regex.find? "/xb" = some found ∧ found.span? 0 = some (2, 3) :=
  ⟨exists_span?_of_any (by decide +kernel), exists_span?_of_any (by decide +kernel)⟩

end PathMatcher

end Reroute
