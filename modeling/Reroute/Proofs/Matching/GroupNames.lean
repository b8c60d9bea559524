import Reroute.Grammar.Path
import Reroute.Proofs.Matching.Extract
import Reroute.Proofs.Matching.PathParts

/-!
# Names of groups

Every placeholder of a path has a group. It is named after the variable if that is possible,
and after its position if not, so two groups may have one name for three reasons: they are
named after the same variable, or one is named after its position and a variable happens to be
named like that. A regular expression does not use a name twice.

## Main results

* `Group.nameOf_eq_nameOf_iff` — when two groups have the same name
* `PathMatcher.compile_eq_error_of_not_nodup` — no two groups of a path have the same name
* `PathMatcher.groups_faithful` — what this means for the variables of a path
-/

set_option autoImplicit false

namespace Reroute

open Regex

/-! ### Two names -/

namespace Group

variable {x y : String} {i j : Nat}

theorem positionalName_injective : Function.Injective positionalName := by
  intro i j h
  have htext : "__".toList ++ (toString i).toList = "__".toList ++ (toString j).toList := by
    simpa [positionalName] using congrArg String.toList h
  have hdigits := List.append_cancel_left htext
  rw [Nat.toString_eq_repr, Nat.toString_eq_repr, Nat.toList_repr, Nat.toList_repr] at hdigits
  have hnumber := congrArg (fun digits => Nat.ofDigitChars 10 digits 0) hdigits
  simpa using hnumber

theorem ne_positionalName (hx : ¬isValidName x) (i : Nat) : x ≠ positionalName i := by
  rintro rfl
  exact hx (isValidName_positionalName i)

/-- Two groups at different places have the same name if they are named after the same variable,
or if one is named after its position and the other after a variable of that name. -/
theorem nameOf_eq_nameOf_iff (h : i ≠ j) :
    nameOf x i = nameOf y j ↔
      x = y ∧ isValidName x ∨ ¬isValidName x ∧ y = positionalName i ∨
        ¬isValidName y ∧ x = positionalName j := by
  by_cases hx : isValidName x
  · by_cases hy : isValidName y
    · rw [nameOf_of_isValidName hx, nameOf_of_isValidName hy]
      simp [hx, hy]
    · have hne : x ≠ y := fun heq => hy (heq ▸ hx)
      rw [nameOf_of_isValidName hx, nameOf_of_not_isValidName hy]
      simp [hx, hy, hne]
  · by_cases hy : isValidName y
    · rw [nameOf_of_not_isValidName hx, nameOf_of_isValidName hy]
      simp [hx, hy, eq_comm]
    · -- Both are named after their positions, which differ.
      rw [nameOf_of_not_isValidName hx, nameOf_of_not_isValidName hy]
      simp [hx, positionalName_injective.ne h, ne_positionalName hx, ne_positionalName hy]

end Group

/-! ### The names in a path -/

section Names

variable {p : Path}

theorem Path.map_name_groups (p : Path) :
    p.groups.map Group.name = Placeholder.groupNamesOf 0 p.placeholders := by
  rw [Path.groups, Placeholder.groupNamesOf, Placeholder.groupNames, List.map_map, List.map_map]
  rfl

/-- The group of a placeholder is named after its variable or its position. -/
theorem Path.name_eq_nameOf {i : Nat} {g : Group} (h : p.groups[i]? = some g) :
    g.name = Group.nameOf g.variableName i := by
  rw [Path.groups, List.getElem?_map, List.getElem?_zipIdx] at h
  obtain ⟨⟨q, k⟩, hq, rfl⟩ := Option.map_eq_some_iff.mp h
  obtain ⟨q', -, hq'⟩ := Option.map_eq_some_iff.mp hq
  obtain ⟨rfl, rfl⟩ := Prod.mk.inj hq'
  rw [Nat.zero_add]

/-- Groups are named after their variables if all of these can be names of groups. -/
theorem Path.map_name_groups_of_isValidName
    (h : ∀ q ∈ p.placeholders, Group.isValidName q.name) :
    p.groups.map Group.name = p.placeholders.map (·.name) := by
  calc p.groups.map Group.name = p.placeholders.zipIdx.map fun q => q.1.name := by
        rw [Path.groups, List.map_map]
        refine List.map_congr_left fun q hmem => ?_
        exact Group.nameOf_of_isValidName (h q.1 (List.fst_mem_of_mem_zipIdx hmem))
    _ = (p.placeholders.zipIdx.map Prod.fst).map (·.name) := (List.map_map ..).symm
    _ = p.placeholders.map (·.name) := by rw [List.zipIdx_map_fst]

end Names

/-! ### Compiling -/

namespace PathMatcher

variable {options : Options} {p : Path}

/-- A path with groups that have the same name is refused. -/
theorem compile_eq_error_of_not_nodup (h : p.IsSelfContained options)
    (hnames : ¬(p.groups.map Group.name).Nodup) :
    PathMatcher.compile options p = .error ⟨p.regexSource options⟩ := by
  cases hparse : parse (p.regexSource options) with
  | error e => rw [compile, compilePattern, Regex.compile, hparse]; rfl
  | ok result =>
    rw [p.regexSource_eq] at hparse
    rw [p.map_name_groups] at hnames
    exact absurd (h.readsAs.parse_eq hparse).1 hnames

/-- A path whose groups have different names is not refused for a name that is used again. -/
theorem compile_ne_duplicate_of_nodup (h : p.IsSelfContained options)
    (hnames : (p.groups.map Group.name).Nodup) :
    Regex.compile (p.regexSource options) ≠ .error .duplicateGroupName := by
  rw [p.map_name_groups] at hnames
  intro hcompile
  refine h.readsAs.parse_ne_duplicate hnames ?_
  rw [← p.regexSource_eq]
  cases hparse : parse (p.regexSource options) with
  | error e =>
    rw [Regex.compile, hparse] at hcompile
    cases hcompile
    rfl
  | ok result =>
    rw [Regex.compile, hparse] at hcompile
    cases hcompile

/-- Variables whose names can be names of groups give their groups these names, so that groups
share a name where placeholders share a variable. Other variables give up their names: their
groups share a name only with those of variables that are named like a position. A path is
refused for groups that share a name, and not if there are none. -/
theorem groups_faithful (p : Path) :
    (∀ (i j : Nat) (g g' : Group), p.groups[i]? = some g → p.groups[j]? = some g' → i ≠ j →
      (g.name = g'.name ↔
        g.variableName = g'.variableName ∧ Group.isValidName g.variableName ∨
          ¬Group.isValidName g.variableName ∧ g'.variableName = Group.positionalName i ∨
          ¬Group.isValidName g'.variableName ∧ g.variableName = Group.positionalName j)) ∧
      ((∀ q ∈ p.placeholders, Group.isValidName q.name) →
        p.groups.map Group.name = p.placeholders.map (·.name)) ∧
      ∀ options, p.IsSelfContained options →
        ((p.groups.map Group.name).Nodup →
          Regex.compile (p.regexSource options) ≠ .error .duplicateGroupName) ∧
        (¬(p.groups.map Group.name).Nodup →
          PathMatcher.compile options p = .error ⟨p.regexSource options⟩) := by
  refine ⟨fun i j g g' hg hg' hne => ?_, Path.map_name_groups_of_isValidName, fun options h =>
    ⟨compile_ne_duplicate_of_nodup h, compile_eq_error_of_not_nodup h⟩⟩
  rw [Path.name_eq_nameOf hg, Path.name_eq_nameOf hg']
  exact Group.nameOf_eq_nameOf_iff hne

/-- A variable that is used twice, and two variables one of which gives up its name. -/
theorem groups_faithful_of_two :
    (∃ p, Grammar.fullPath.parseFull "/:a/:a" = .ok p ∧ p.IsSelfContained {} ∧
        p.groups.map Group.name = p.placeholders.map (·.name) ∧
        PathMatcher.compile {} p = .error ⟨"^/(?P<a>[^/]+)/(?P<a>[^/]+)$"⟩) ∧
      ∃ p g g', Grammar.fullPath.parseFull "/:a/:1" = .ok p ∧ p.IsSelfContained {} ∧
        p.groups[0]? = some g ∧ p.groups[1]? = some g' ∧ g.name ≠ g'.name ∧
        Regex.compile (p.regexSource {}) ≠ .error .duplicateGroupName := by
  have hself (x y : String) :
      Path.IsSelfContained {} ⟨[.placeholder { name := x }, .placeholder { name := y }], []⟩ := by
    refine ⟨fun q hq t ht => ?_, fun _ t ht => nomatch ht⟩
    obtain rfl | hq := List.mem_cons.mp hq
    · cases ht
    · obtain rfl := List.mem_singleton.mp hq
      cases ht
  constructor
  · obtain ⟨p, hparse, h⟩ := exists_ok_of_any (r := Grammar.fullPath.parseFull "/:a/:a")
      (f := fun p => p = ⟨[.placeholder { name := "a" }, .placeholder { name := "a" }], []⟩)
      (by decide +kernel)
    obtain ⟨-, hvalid, hcompile⟩ := groups_faithful p
    obtain rfl := of_decide_eq_true h
    exact ⟨_, hparse, hself _ _, hvalid (by decide),
      (hcompile {} (hself _ _)).2 (by decide +kernel)⟩
  · obtain ⟨p, hparse, h⟩ := exists_ok_of_any (r := Grammar.fullPath.parseFull "/:a/:1")
      (f := fun p => p = ⟨[.placeholder { name := "a" }, .placeholder { name := "1" }], []⟩)
      (by decide +kernel)
    obtain ⟨hiff, -, hcompile⟩ := groups_faithful p
    obtain rfl := of_decide_eq_true h
    refine ⟨_, _, _, hparse, hself _ _, rfl, rfl, ?_,
      (hcompile {} (hself _ _)).1 (by decide +kernel)⟩
    rw [ne_eq, hiff 0 1 _ _ rfl rfl (by decide)]
    decide +kernel

/-- A variable that is used twice and is not refused, as its groups are named after their
positions; two variables that are, as one is named like the position of the other; and a
variable that is used twice in two patterns that are not regular expressions of their own. -/
theorem not_groups_faithful :
    (∃ p m, Grammar.fullPath.parseFull "/:1/:1" = .ok p ∧ PathMatcher.compile {} p = .ok m ∧
        m.groups.map (fun g => (g.variableName, g.name)) = [("1", "__0"), ("1", "__1")]) ∧
      (∃ p, Grammar.fullPath.parseFull "/:1/:__0" = .ok p ∧
        p.groups.map (fun g => (g.variableName, g.name)) = [("1", "__0"), ("__0", "__0")] ∧
        Regex.compile (p.regexSource {}) = .error .duplicateGroupName) ∧
      ∃ p m, Grammar.fullPath.parseFull "/:a(x[)/:a(])" = .ok p ∧
        PathMatcher.compile {} p = .ok m ∧
        m.groups.map (fun g => (g.variableName, g.name)) = [("a", "a"), ("a", "a")] := by
  refine ⟨?_, ?_, ?_⟩
  · obtain ⟨p, hparse, h⟩ := exists_ok_of_any (r := Grammar.fullPath.parseFull "/:1/:1")
      (f := fun p => (PathMatcher.compile {} p).toOption.any fun m =>
        m.groups.map (fun g => (g.variableName, g.name)) = [("1", "__0"), ("1", "__1")])
      (by decide +kernel)
    obtain ⟨m, hcompile, hgroups⟩ := exists_ok_of_any h
    exact ⟨p, m, hparse, hcompile, of_decide_eq_true hgroups⟩
  · obtain ⟨p, hparse, h⟩ := exists_ok_of_any (r := Grammar.fullPath.parseFull "/:1/:__0")
      (f := fun p => p = ⟨[.placeholder { name := "1" }, .placeholder { name := "__0" }], []⟩)
      (by decide +kernel)
    obtain rfl := of_decide_eq_true h
    refine ⟨_, hparse, by decide +kernel, ?_⟩
    have hrefused : (match Regex.compile (Path.regexSource {}
        ⟨[.placeholder { name := "1" }, .placeholder { name := "__0" }], []⟩) with
      | .error e => e == .duplicateGroupName
      | .ok _ => false) = true := by decide +kernel
    split at hrefused
    · rename_i hcompile
      rw [hcompile, eq_of_beq hrefused]
    · cases hrefused
  · obtain ⟨p, hparse, h⟩ := exists_ok_of_any
      (r := Grammar.fullPath.parseFull "/:a(x[)/:a(])")
      (f := fun p => (PathMatcher.compile {} p).toOption.any fun m =>
        m.groups.map (fun g => (g.variableName, g.name)) = [("a", "a"), ("a", "a")])
      (by decide +kernel)
    obtain ⟨m, hcompile, hgroups⟩ := exists_ok_of_any h
    exact ⟨p, m, hparse, hcompile, of_decide_eq_true hgroups⟩

end PathMatcher

end Reroute
