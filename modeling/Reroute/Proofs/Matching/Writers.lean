import Mathlib.Data.List.Forall2
import Reroute.Proofs.Matching.Extract
import Reroute.Proofs.Regex.Search

/-!
# Who writes a variable

Whatever the patterns and texts of a source are, it binds the variables that it names and no
others, and the last placeholder or query constraint with a variable says what kind of value the
variable has.

## Main definitions

* `Regex.OccursIn` — a regular expression matches somewhere in a text
* `Segment.emit`, `Segment.emitAll` — write a regular expression and note its groups on the way
* `Writer`, `Path.lastWriter?` — who writes a variable last
* `Writer.Gives`, `Bindings.IsReadOff` — the values that a writer gives, and the bindings that a
  source makes

## Main results

* `Regex.isMatch_iff_occursIn` — a search finds what occurs
* `Segment.emitAll_eq` — the groups of a path are those that are noted
* `PathMatcher.extract_isReadOff` — what is read off a URL, and when
-/

set_option autoImplicit false

namespace Reroute

open Regex

/-! ### Occurrences -/

/-- The tree that `source` stands for matches somewhere in a text. -/
def Regex.OccursIn (source text : String) : Prop :=
  ∃ node names, parse source = .ok (node, names) ∧
    ∃ first last slots, first ≤ text.toList.toArray.size ∧
      (Node.capture 0 node).Matches text.toList.toArray first [] last slots

/-- A search finds what occurs, and nothing else. -/
theorem Regex.isMatch_iff_occursIn {source text : String} {regex : Regex}
    (h : compilePattern source = .ok regex) : regex.isMatch text ↔ OccursIn source text := by
  obtain ⟨node, hparse, hprogram⟩ := exists_parse_of_compilePattern h
  rw [isMatch, find?, Option.isSome_map, hprogram]
  constructor
  · intro hfound
    obtain ⟨slots, hslots⟩ := Option.isSome_iff_exists.mp hfound
    obtain ⟨first, last, hfirst, hmatches⟩ := matches_of_searchProgram hslots
    exact ⟨node, regex.names, hparse, first, last, slots, hfirst, hmatches⟩
  · rintro ⟨node', names, hparse', first, last, slots, hfirst, hmatches⟩
    rw [hparse] at hparse'
    obtain ⟨rfl, -⟩ := Prod.mk.inj (Except.ok.inj hparse')
    exact isSome_searchProgram hfirst hmatches

theorem source_of_compilePattern {source : String} {regex : Regex}
    (h : compilePattern source = .ok regex) : regex.source = source := by
  rw [compilePattern, Regex.compile] at h
  cases hparse : parse source with
  | error e =>
    rw [hparse] at h
    cases h
  | ok result =>
    rw [hparse] at h
    obtain rfl := Except.ok.inj h
    rfl

/-! ### Groups that are noted on the way -/

/-- The group of a placeholder that `index` others precede. -/
def Placeholder.group (q : Placeholder) (index : Nat) : Group where
  name := Group.nameOf q.name index
  variableName := q.name
  repeating := q.isRepeating

namespace Segment

mutual

/-- Write the regular expression of a segment, and note the group of every placeholder when it is
written, behind those that were noted before. -/
def emit (options : Options) (noted : List Group) : Segment → String × List Group
  | text s prefixed => (slash prefixed ++ options.literal s, noted)
  | placeholder q => (q.regexSource noted.length, noted ++ [q.group noted.length])
  | compound runs => emitAll options noted runs

/-- Write the regular expression of some segments, and note their groups. -/
def emitAll (options : Options) (noted : List Group) : List Segment → String × List Group
  | [] => ("", noted)
  | run :: runs =>
    let written := run.emit options noted
    let others := emitAll options written.2 runs
    (written.1 ++ others.1, others.2)

end

/-- The groups of some placeholders, with `index` others before them. -/
def groupsFrom (index : Nat) (qs : List Placeholder) : List Group :=
  (qs.zipIdx index).map fun (q, i) => q.group i

theorem length_groupsFrom (index : Nat) (qs : List Placeholder) :
    (groupsFrom index qs).length = qs.length := by
  simp [groupsFrom]

theorem groupsFrom_append (index : Nat) (qs qs' : List Placeholder) :
    groupsFrom index (qs ++ qs') = groupsFrom index qs ++ groupsFrom (index + qs.length) qs' := by
  rw [groupsFrom, List.zipIdx_append, List.map_append]
  rfl

section Emit

variable {options : Options}

mutual

/-- As many groups are noted as there are placeholders, in their order. -/
theorem emit_eq (noted : List Group) : (seg : Segment) →
    seg.emit options noted = (seg.regexSource options noted.length,
      noted ++ groupsFrom noted.length seg.placeholders)
  | text s prefixed => by simp [emit, regexSource, placeholders, groupsFrom]
  | placeholder q => by simp [emit, regexSource, placeholders, groupsFrom]
  | compound runs => by rw [emit, regexSource, placeholders, emitAll_eq noted runs]

/-- So it is for several segments, of which each counts the placeholders of those before. -/
theorem emitAll_eq (noted : List Group) : (segs : List Segment) →
    emitAll options noted segs = (regexSourceOf options noted.length segs,
      noted ++ groupsFrom noted.length (placeholdersOf segs))
  | [] => by simp [emitAll, regexSourceOf, placeholdersOf, groupsFrom]
  | seg :: segs => by
    have hothers := emitAll_eq (noted ++ groupsFrom noted.length seg.placeholders) segs
    rw [List.length_append, length_groupsFrom] at hothers
    rw [emitAll, emit_eq noted seg]
    dsimp only
    rw [hothers, regexSourceOf, placeholdersOf, groupsFrom_append, List.append_assoc]

end

end Emit

end Segment

/-- The regular expression of a path and its groups come of one walk through its segments. -/
theorem Path.emitAll_segments (options : Options) (p : Path) :
    Segment.emitAll options [] p.segments =
      (Segment.regexSourceOf options 0 p.segments, p.groups) := by
  rw [Segment.emitAll_eq, List.nil_append]
  rfl

/-- The groups have the variables and the shapes of the placeholders. -/
theorem Path.map_groups (p : Path) :
    (p.groups.map fun g => (g.variableName, g.repeating)) =
      p.placeholders.map fun q => (q.name, q.isRepeating) := by
  rw [groups, List.map_map]
  exact map_zipIdx_eq fun _ _ _ => rfl

/-! ### Writers -/

theorem isSome_lookup_reverse_iff {α : Type} {entries : List (String × α)} {name : String} :
    (entries.reverse.lookup name).isSome ↔ name ∈ entries.map Prod.fst := by
  constructor
  · intro h
    by_contra hname
    rw [lookup_reverse_eq_none hname] at h
    cases h
  · intro h
    rw [← List.mem_reverse, ← List.map_reverse] at h
    exact Option.isSome_iff_exists.mpr (exists_lookup_of_mem h)

/-- What writes a variable when a source is matched. -/
inductive Writer where
  | placeholder (q : Placeholder)
  | query (q : Query)
deriving DecidableEq, Repr

/-- A placeholder that repeats gives a list of items between slashes. Another one gives text
without slashes, or such a list as well if its pattern lets slashes in. A query constraint gives
the first value of its parameter, or no text if there is no parameter. -/
def Writer.Gives (u : Url) : Writer → Value → Prop
  | .placeholder _, .list items => ∀ item ∈ items, IsItem item.toList
  | .placeholder q, .text s => q.isRepeating = false ∧ '/' ∉ s.toList
  | .placeholder _, .number _ | .placeholder _, .bool _ => False
  | .query q, v => v = .text ((u.queryValue? q.name).getD "")

/-- The variables of a path and its query, with who writes them, in order. -/
def Path.writers (p : Path) : List (String × Writer) :=
  p.placeholders.map (fun q => (q.name, .placeholder q)) ++
    p.queries.filterMap fun q => q.boundName?.map fun x => (x, .query q)

/-- Who writes a variable last. -/
def Path.lastWriter? (p : Path) (x : String) : Option Writer :=
  p.writers.reverse.lookup x

theorem Path.map_fst_writers (p : Path) : p.writers.map Prod.fst = p.variableNames := by
  rw [writers, variableNames, List.map_append, List.map_map, List.map_filterMap]
  congr 2
  funext q
  cases q.boundName? <;> rfl

/-- The variables of a source are those that have a last writer. -/
theorem Path.isSome_lastWriter?_iff {p : Path} {x : String} :
    (p.lastWriter? x).isSome ↔ x ∈ p.variableNames := by
  rw [lastWriter?, isSome_lookup_reverse_iff, map_fst_writers]

/-- The bindings have the variables of the source and no others, none of them is a reference, and
each of them is of the kind that its last writer gives. -/
structure Bindings.IsReadOff (b : Bindings) (p : Path) (u : Url) : Prop where
  mem_names_iff (x : String) : x ∈ b.names ↔ x ∈ p.variableNames
  get?_ne_ref (x y : String) : b.get? x ≠ some (.ref y)
  exists_gives (x : String) (w : Writer) (h : p.lastWriter? x = some w) :
    ∃ v, b.get? x = some (.value v) ∧ w.Gives u v

section Values

variable {p : Path} {u : Url} {found : Match}

theorem Path.mem_of_lastWriter?_query {x : String} {q : Query}
    (h : p.lastWriter? x = some (.query q)) : q ∈ p.queries ∧ q.target = .var x := by
  obtain ⟨front, back, hwriters, -⟩ := List.lookup_eq_some_iff.mp h
  have hmem : (x, Writer.query q) ∈ p.writers := by
    rw [← List.mem_reverse, hwriters]
    simp
  rw [writers, List.mem_append, List.mem_map, List.mem_filterMap] at hmem
  rcases hmem with ⟨_, -, hq⟩ | ⟨q', hq', hbound⟩
  · cases hq
  · obtain ⟨y, hy, heq⟩ := Option.map_eq_some_iff.mp hbound
    obtain ⟨rfl, hwriter⟩ := Prod.mk.inj heq
    obtain rfl := Writer.query.inj hwriter
    exact ⟨hq', Query.boundName?_eq_some.mp hy⟩

theorem isItem_of_mem_pieces {s item : String} (h : item ∈ Group.pieces s) :
    IsItem item.toList := by
  obtain ⟨part, hpart, rfl⟩ := List.mem_map.mp h
  rw [List.mem_filter] at hpart
  rw [String.toList_ofList]
  refine ⟨by simpa using hpart.2, fun hslash => ?_⟩
  simpa using Text.forall_mem_splitBy part hpart.1 '/' hslash

/-- Whatever the group of a placeholder has matched, the value is one that it gives. -/
theorem Writer.gives_valueOf (q : Placeholder) (captured : Option String) :
    (Writer.placeholder q).Gives u (q.valueOf captured) := by
  unfold Placeholder.valueOf
  cases captured with
  | none =>
    cases hrepeating : q.isRepeating with
    | true => exact fun item hitem => absurd hitem List.not_mem_nil
    | false => exact ⟨hrepeating, List.not_mem_nil⟩
  | some s =>
    dsimp only
    -- Text becomes a list if the placeholder repeats, and if there is a slash in it.
    split_ifs with hlist
    · exact fun item hitem => isItem_of_mem_pieces hitem
    · rw [Bool.or_eq_true, not_or, Bool.not_eq_true] at hlist
      exact ⟨hlist.1, by simpa using hlist.2⟩

/-- A path and its query write, one after the other, what their writers give. -/
theorem Path.forall₂_gives (p : Path) (found : Match) (u : Url) :
    List.Forall₂ (fun write value => value.1 = write.1 ∧ Writer.Gives u write.2 value.2)
      p.writers (p.pathValues found ++ p.queryValues u) := by
  rw [writers, pathValues, queryValues]
  apply List.rel_append
  -- Every placeholder writes, whatever its group has matched.
  · have hplaceholders : p.placeholders.map (fun q => (q.name, Writer.placeholder q)) =
        p.placeholders.zipIdx.map fun entry => (entry.1.name, Writer.placeholder entry.1) :=
      (map_zipIdx_eq fun _ _ _ => rfl).symm
    rw [hplaceholders, List.forall₂_map_left_iff, List.forall₂_map_right_iff, List.forall₂_same]
    rintro ⟨q, i⟩ -
    exact ⟨rfl, Writer.gives_valueOf q _⟩
  -- Of the query constraints, those with a variable do.
  · induction p.queries with
    | nil => exact .nil
    | cons q qs ih =>
      rw [List.filterMap_cons, List.filterMap_cons, Query.value?]
      cases q.boundName? with
      | none => exact ih
      | some x => exact .cons ⟨rfl, rfl⟩ ih

/-- Of two lists that name the same one after the other, what is found first for a name is
related as the entries are. -/
theorem exists_lookup_of_forall₂ {α β : Type} {R : α → β → Prop} {xs : List (String × α)}
    {ys : List (String × β)} (h : List.Forall₂ (fun x y => y.1 = x.1 ∧ R x.2 y.2) xs ys)
    {name : String} {a : α} (ha : xs.lookup name = some a) :
    ∃ b, ys.lookup name = some b ∧ R a b := by
  induction h with
  | nil => cases ha
  | @cons x y xs ys hxy _ ih =>
    rw [List.lookup_cons] at ha ⊢
    rw [hxy.1]
    cases hname : name == x.1 with
    | true =>
      rw [hname] at ha
      obtain rfl := Option.some.inj ha
      exact ⟨y.2, rfl, hxy.2⟩
    | false =>
      rw [hname] at ha
      exact ih ha

/-- What a path and its query write are bindings of the kinds that are expected. -/
theorem Path.isReadOff_ofValues (p : Path) (found : Match) (u : Url) :
    (Bindings.ofValues (p.pathValues found ++ p.queryValues u)).IsReadOff p u where
  mem_names_iff x := by
    rw [Bindings.mem_names_iff, ← @Path.map_fst_values p found u, ← isSome_lookup_reverse_iff,
      ← Option.isSome_iff_exists, Bindings.get?_ofValues, Option.isSome_map]
  get?_ne_ref x y := by
    rw [Bindings.get?_ofValues]
    cases (p.pathValues found ++ p.queryValues u).reverse.lookup x <;> simp
  exists_gives x w h := by
    obtain ⟨v, hv, hgives⟩ := exists_lookup_of_forall₂
      (List.forall₂_reverse_iff.mpr (p.forall₂_gives found u)) h
    exact ⟨v, by rw [Bindings.get?_ofValues, hv]; rfl, hgives⟩

end Values

/-! ### Queries that are met -/

theorem exists_of_mem_of_mapM_eq_ok {α β ε : Type} {f : α → Except ε β} {xs : List α}
    {ys : List β} (h : xs.mapM f = .ok ys) {x : α} (hx : x ∈ xs) : ∃ y ∈ ys, f x = .ok y := by
  induction xs generalizing ys with
  | nil => cases hx
  | cons x' xs ih =>
    obtain ⟨y, ys', hy, hys', rfl⟩ := exists_of_mapM_cons h
    rcases List.mem_cons.mp hx with rfl | hx
    · exact ⟨y, List.mem_cons_self, hy⟩
    · obtain ⟨z, hz, hfx⟩ := ih hys' hx
      exact ⟨z, List.mem_cons_of_mem _ hz, hfx⟩

namespace PathMatcher

variable {options : Options} {p : Path} {m : PathMatcher} {u : Url}

/-- A URL that matches has a parameter for every variable of the query, with some text in which
the pattern of the variable occurs. -/
theorem exists_queryValue?_of_isMatch (hcompile : PathMatcher.compile options p = .ok m)
    (hmatch : m.isMatch u) {q : Query} (hq : q ∈ p.queries) {x : String}
    (htarget : q.target = .var x) :
    ∃ s, u.queryValue? q.name = some s ∧ s ≠ "" ∧ OccursIn q.effectivePattern s := by
  obtain ⟨-, -, hchecks⟩ := eq_of_compile hcompile
  obtain ⟨check, hmem, hcheck⟩ := exists_of_mem_of_mapM_eq_ok hchecks hq
  rw [isMatch, Bool.and_eq_true, List.all_eq_true] at hmatch
  have hholds := hmatch.2 check hmem
  obtain ⟨value, hliteral, -⟩ | ⟨y, regex, -, hregex, rfl⟩ := QueryCheck.eq_of_compile hcheck
  · rw [htarget] at hliteral
    cases hliteral
  · rw [QueryCheck.holds] at hholds
    cases hvalue : u.queryValue? q.name with
    | none =>
      rw [hvalue] at hholds
      cases hholds
    | some s =>
      rw [hvalue, Bool.and_eq_true] at hholds
      refine ⟨s, rfl, ?_, (isMatch_iff_occursIn hregex).mp hholds.2⟩
      rintro rfl
      cases hholds.1

/-- Let a path be compiled, whatever its patterns and literal texts are. Its regular expression
and its groups come of one walk, and the groups have the variables and the shapes of the
placeholders, in order. Something is read off a URL exactly if the regular expression occurs in
the path of the URL, and so it is if the URL matches. What is read off are values for the
variables of the path and its query, for each of the kind that its last writer gives; and where
the URL matches, a variable that a query constraint writes has some text in which the pattern of
the constraint occurs. -/
theorem extract_isReadOff (hcompile : PathMatcher.compile options p = .ok m) (u : Url) :
    (m.regex.source, m.groups) = ("^" ++ (Segment.emitAll options [] p.segments).1 ++ "$",
      (Segment.emitAll options [] p.segments).2) ∧
    (m.groups.map fun g => (g.variableName, g.repeating)) =
      p.placeholders.map (fun q => (q.name, q.isRepeating)) ∧
    ((m.extract u).isSome ↔ m.regex.isMatch u.path) ∧
    (m.regex.isMatch u.path ↔ OccursIn (p.regexSource options) u.path) ∧
    (m.isMatch u → (m.extract u).isSome) ∧
    ∀ b, m.extract u = some b → b.IsReadOff p u ∧
      (m.isMatch u → ∀ x q, p.lastWriter? x = some (.query q) →
        ∃ s, b.get? x = some (.value (.text s)) ∧ u.queryValue? q.name = some s ∧ s ≠ "" ∧
          OccursIn q.effectivePattern s) := by
  obtain ⟨hregex, hgroups, -⟩ := eq_of_compile hcompile
  have hextract := extract_of_compile hcompile u
  have hsome : (m.extract u).isSome ↔ m.regex.isMatch u.path := by
    rw [hextract, Option.isSome_map, Regex.isMatch]
  refine ⟨?_, ?_, hsome, isMatch_iff_occursIn hregex, fun hmatch => ?_, fun b hb => ?_⟩
  · rw [Path.emitAll_segments, source_of_compilePattern hregex, hgroups, Path.regexSource]
  · rw [hgroups, Path.map_groups]
  · rw [isMatch, Bool.and_eq_true] at hmatch
    exact hsome.mpr hmatch.1
  · rw [hextract] at hb
    obtain ⟨found, -, rfl⟩ := Option.map_eq_some_iff.mp hb
    have hread := p.isReadOff_ofValues found u
    -- The last writer gives the value, and the match has seen the pattern in it.
    refine ⟨hread, fun hmatch x q hlast => ?_⟩
    obtain ⟨hq, htarget⟩ := Path.mem_of_lastWriter?_query hlast
    obtain ⟨s, hs, hne, hoccurs⟩ := exists_queryValue?_of_isMatch hcompile hmatch hq htarget
    obtain ⟨v, hv, rfl⟩ := hread.exists_gives x _ hlast
    rw [hs] at hv
    exact ⟨s, hv, hs, hne, hoccurs⟩

/-- The first of two parameters takes the place of what the path gives the variable. -/
theorem extract_isReadOff_of_parameters :
    ∃ m b,
      PathMatcher.compile {}
          { segments :=
              [.placeholder { name := "1", pattern := some "[a-z]+" },
                .placeholder { name := "rest", quantifier := some .zeroOrMore }]
            queries := [⟨"page", .var "1", some "^[0-9]+$"⟩, ⟨"lang", .literal "en", none⟩] } =
        .ok m ∧
      m.extract ⟨"https", none, false, "/x/a/b", some "lang=en&page=2&page=3", none⟩ = some b ∧
      ∃ s, b.get? "1" = some (.value (.text s)) ∧ s ≠ "" ∧ OccursIn "^[0-9]+$" s := by
  obtain ⟨m, hcompile, hmatch⟩ := exists_ok_of_any
    (r := PathMatcher.compile {}
      { segments :=
          [.placeholder { name := "1", pattern := some "[a-z]+" },
            .placeholder { name := "rest", quantifier := some .zeroOrMore }]
        queries := [⟨"page", .var "1", some "^[0-9]+$"⟩, ⟨"lang", .literal "en", none⟩] })
    (f := (·.isMatch ⟨"https", none, false, "/x/a/b", some "lang=en&page=2&page=3", none⟩))
    (by decide +kernel)
  obtain ⟨-, -, -, -, hsome, hread⟩ := extract_isReadOff hcompile
    ⟨"https", none, false, "/x/a/b", some "lang=en&page=2&page=3", none⟩
  obtain ⟨b, hb⟩ := Option.isSome_iff_exists.mp (hsome hmatch)
  obtain ⟨s, hs, -, hne, hoccurs⟩ := (hread b hb).2 hmatch "1"
    ⟨"page", .var "1", some "^[0-9]+$"⟩ (by decide)
  exact ⟨m, b, hcompile, hb, s, hs, hne, hoccurs⟩

end PathMatcher

end Reroute
