import Reroute.Proofs.Bindings
import Reroute.Proofs.Grammar.Shape
import Reroute.Proofs.Matching.Extract
import Reroute.Proofs.Matching.PathParts
import Reroute.Proofs.Regex.Item
import Reroute.Proofs.Regex.Search

/-!
# Variables that take no list

A variable that takes no list and declares no pattern is an item of the regular expression of
its path. As long as no literal text has blanks skipped, no slash gets into such a variable,
whatever groups, classes and alternatives literal text opens around it.

## Main definitions

* `Placeholder.itemNames` — the groups of the variables that take no list
* `PathMatcher.CapturesItems` — no slash gets into these groups

## Main results

* `Regex.not_mem_capturedText` — a group around anything but slashes holds no slash
* `Path.hasItems_regexSource` — the regular expression of a path has its variables as items
* `PathMatcher.capturesItems` — no URL gives a slash to a variable that takes no list
-/

set_option autoImplicit false

namespace Reroute

open Regex

/-! ### Groups that hold no slash -/

section Groups

variable {text : Array Char} {s t : Slots} {p q k : Nat} {node : Node}

theorem Regex.Node.IsSlashless.recognizes (h : node.IsSlashless) (text : Array Char) :
    ∃ L : List Char → Prop, node.Recognizes text L ∧ ∀ w, L w → '/' ∉ w := by
  obtain ⟨greedy, chars, rfl, hslash⟩ := h
  refine ⟨_, (Node.recognizes_set text chars).plus, ?_⟩
  rintro _ ⟨ws, -, hws, rfl⟩ hmem
  obtain ⟨w, hw, hmem⟩ := List.mem_flatten.mp hmem
  obtain ⟨x, hx, rfl⟩ := hws w hw
  obtain rfl := List.mem_singleton.mp hmem
  rw [hslash] at hx
  cases hx

/-- What another group remembers does not matter. -/
theorem Regex.capturedText_cons_of_ne {slot : Nat} (h : slot / 2 ≠ k) :
    capturedText text ((slot, p) :: s) k = capturedText text s k := by
  refine capturedText_congr fun slot' hslot => ?_
  have hne : (slot' == slot) = false := by
    rw [beq_eq_false_iff_ne]
    rintro rfl
    exact h hslot
  rw [List.lookup_cons, hne]

/-- A group that is around anything but slashes, wherever it stands in a tree, holds no slash
behind the tree if it held none before. -/
theorem Regex.not_mem_capturedText (hgroups : node.EachGroup fun i body => i = k → body.IsSlashless)
    (h : node.Matches text p s q t)
    (hs : ∀ w, capturedText text s k = some w → '/' ∉ w.toList) :
    ∀ w, capturedText text t k = some w → '/' ∉ w.toList := by
  induction h with
  | empty | char | set | look | timesZero | upToStop => exact hs
  | @capture p s q t index body hbody ih =>
    obtain ⟨hbodyless, hgroups⟩ := hgroups
    by_cases hindex : index = k
    · -- The group itself has matched last.
      subst hindex
      obtain ⟨L, hL, hslash⟩ := (hbodyless rfl).recognizes text
      obtain ⟨v, hv, hspans, heq⟩ := (matches_capture_of_recognizes hL).mp (.capture hbody)
      rw [heq, capturedText_cons hspans]
      rintro _ ⟨⟩
      rw [String.toList_ofList]
      exact hslash v hv
    · rw [capturedText_cons_of_ne (by omega)]
      refine ih hgroups ?_
      rwa [capturedText_cons_of_ne (by omega)]
  | seq _ _ ih ih' => exact ih' hgroups.2 (ih hgroups.1 hs)
  | altFirst _ ih => exact ih hgroups.1 hs
  | altSecond _ ih => exact ih hgroups.2 hs
  | timesSucc _ _ ih ih' | upToNext _ _ ih ih' | plusNext _ _ ih ih' =>
    exact ih' hgroups (ih hgroups hs)
  | plusOnce _ ih => exact ih hgroups hs

/-- The items of a regular expression give no slash in any text. -/
theorem Regex.not_mem_named? {source text : String} {regex : Regex} {names : List String}
    (hitems : HasItems names source.toList) (hregex : compilePattern source = .ok regex)
    {found : Match} (hfound : regex.find? text = some found) {name : String}
    (hname : name ∈ names) : ∀ w, found.named? name = some w → '/' ∉ w.toList := by
  obtain ⟨node, hparse, hprogram⟩ := exists_parse_of_compilePattern hregex
  obtain ⟨hnodup, hgroups⟩ := hitems.exists_of_parse hparse
  obtain ⟨index, hzero, hmem, hgroups⟩ := hgroups name hname
  have hlookup : regex.names.lookup name = some index := by
    rw [← List.reverse_reverse regex.names]
    exact lookup_reverse_of_mem (by simpa using hnodup) (by simpa using hmem)
  rw [Regex.find?, hprogram] at hfound
  obtain ⟨slots, hslots, rfl⟩ := Option.map_eq_some_iff.mp hfound
  obtain ⟨p, q, -, hmatches⟩ := matches_of_searchProgram hslots
  rw [Match.named?, hlookup]
  have hwhole : (Node.capture 0 node).EachGroup fun i body => i = index → body.IsSlashless :=
    ⟨fun heq => absurd heq.symm hzero, hgroups⟩
  -- Before the search no group has matched.
  exact not_mem_capturedText hwhole hmatches nofun

end Groups

/-! ### Placeholders -/

section Placeholders

variable {names : List String} {rest : List Char} {index : Nat}

/-- The names of the groups for those of some placeholders that take no list. -/
def Placeholder.itemNames (index : Nat) (ps : List Placeholder) : List String :=
  ((ps.zipIdx index).filter fun (q, _) => !q.isRepeating).map fun (q, i) => Group.nameOf q.name i

theorem Placeholder.itemNames_append (index : Nat) (ps qs : List Placeholder) :
    itemNames index (ps ++ qs) = itemNames index ps ++ itemNames (index + ps.length) qs := by
  rw [itemNames, List.zipIdx_append, List.filter_append, List.map_append]
  rfl

theorem isPlainName_nameOf (name : String) (index : Nat) :
    IsPlainName (Group.nameOf name index) := by
  refine ⟨isGroupName_nameOf name index, ?_⟩
  have hvalid := Group.isValidName_nameOf name index
  rw [Group.isValidName] at hvalid
  cases hname : (Group.nameOf name index).toList with
  | nil => simp
  | cons x rest =>
    rw [hname, Bool.and_eq_true] at hvalid
    refine List.forall_mem_cons.mpr ⟨?_, by simpa using hvalid.2⟩
    have hx : x.isAlpha ∨ x = '_' := by simpa using hvalid.1
    exact hx.imp_left fun halpha => by simp [Char.isAlphanum, halpha]

theorem hasItems_slash (prefixed : Bool) (h : HasItems names rest) :
    HasItems names ((slash prefixed).toList ++ rest) := by
  refine h.append_ordinary ?_
  cases prefixed <;> simp [slash, IsOrdinary]

namespace Placeholder

variable {p : Placeholder}

theorem toList_effectivePattern (h : p.pattern = none) :
    p.effectivePattern.toList = "[^/]+".toList := by
  rw [effectivePattern, h]
  rfl

theorem itemNames_of_isRepeating (h : p.isRepeating) (index : Nat) : itemNames index [p] = [] := by
  simp [itemNames, h]

theorem itemNames_of_not_isRepeating (h : p.isRepeating = false) (index : Nat) :
    itemNames index [p] = [Group.nameOf p.name index] := by
  simp [itemNames, h]

/-- The group of a placeholder that declares no pattern is an item. -/
theorem groupSource_eq_itemSource (p : Placeholder) (index : Nat) :
    p.groupSource index "[^/]+".toList = itemSource (Group.nameOf p.name index) := by
  rw [groupSource_eq, itemSource]
  simp

theorem hasItems_groupSource (p : Placeholder) (index : Nat) (h : HasItems names rest) :
    HasItems (Group.nameOf p.name index :: names)
      (p.groupSource index "[^/]+".toList ++ rest) :=
  groupSource_eq_itemSource p index ▸ .item (isPlainName_nameOf p.name index) h

/-- A placeholder without a pattern is an item, unless it takes a list. With a slash or a sign
it may stand behind any text. -/
theorem mayFollow_regexSource (hpattern : p.pattern = none)
    (hfront : p.prefixed ∨ p.quantifier ≠ none) (h : HasItems names rest) :
    MayFollow (itemNames index [p] ++ names) ((p.regexSource index).toList ++ rest) := by
  cases hquantifier : p.quantifier with
  | none =>
    have hprefixed : p.prefixed := hfront.resolve_right (· hquantifier)
    rw [itemNames_of_not_isRepeating (isRepeating_of_eq_none hquantifier),
      toList_regexSource_of_eq_none hquantifier, toList_effectivePattern hpattern, hprefixed]
    exact HasItems.mayFollow_cons (by decide) (by decide) (hasItems_groupSource p index h)
  | some q =>
    by_cases hrepeating : q.isRepeating
    · have hsymbol : ∀ x ∈ "[^/]+".toList ++ [')', ')', q.symbol, ')'], IsOrdinary x := by
        cases q <;> simp [Quantifier.symbol, IsOrdinary]
      rw [itemNames_of_isRepeating (by rwa [isRepeating_of_eq_some hquantifier]),
        toList_regexSource_of_isRepeating hquantifier hrepeating, groupSource_eq, turnSource,
        toList_effectivePattern hpattern]
      have hturn := (h.append_ordinary hsymbol).grouped.hasItems
      have hturns := (hasItems_slash p.prefixed hturn).grouped.hasItems
      simpa using hturns.named (isPlainName_nameOf p.name index)
    · have hsymbol : ∀ x ∈ [')', q.symbol], IsOrdinary x := by
        cases q <;> simp [Quantifier.symbol, IsOrdinary]
      rw [Bool.not_eq_true] at hrepeating
      rw [itemNames_of_not_isRepeating (by rwa [isRepeating_of_eq_some hquantifier]),
        toList_regexSource_of_not_isRepeating hquantifier hrepeating,
        toList_effectivePattern hpattern]
      have hgroup := hasItems_groupSource p index (h.append_ordinary hsymbol)
      simpa using (hasItems_slash p.prefixed hgroup).grouped

/-- A placeholder begins with a parenthesis or a slash. -/
theorem head?_regexSource (p : Placeholder) (index : Nat) (rest : List Char) :
    ∀ x ∈ ((p.regexSource index).toList ++ rest).head?, x ≠ '?' ∧ x.isAlpha = false := by
  rw [regexSource]
  cases p.quantifier with
  | none => cases hprefixed : p.prefixed <;> simp [slash]
  | some q => cases hrepeating : q.isRepeating <;> simp [hrepeating]

/-- A placeholder without a pattern is an item, unless it takes a list. -/
theorem hasItems_regexSource (hpattern : p.pattern = none) (h : HasItems names rest) :
    HasItems (itemNames index [p] ++ names) ((p.regexSource index).toList ++ rest) := by
  by_cases hfront : p.prefixed ∨ p.quantifier ≠ none
  · exact (mayFollow_regexSource hpattern hfront h).hasItems
  · rw [not_or, not_not] at hfront
    obtain ⟨hprefixed, hquantifier⟩ := hfront
    rw [itemNames_of_not_isRepeating (isRepeating_of_eq_none hquantifier),
      toList_regexSource_of_eq_none hquantifier, toList_effectivePattern hpattern,
      Bool.eq_false_iff.mpr hprefixed]
    exact hasItems_groupSource p index h

end Placeholder

/-! ### Segments -/

theorem hasItems_escape (text : String) (h : HasItems names rest) :
    HasItems names ((escape text).toList ++ rest) := by
  rw [escape, String.toList_ofList]
  induction text.toList with
  | nil => exact h
  | cons x text ih =>
    rw [List.flatMap_cons, List.append_assoc]
    by_cases hx : isMeta x
    · rw [if_pos hx]
      exact .escaped x ih
    · rw [if_neg hx]
      refine .cons ⟨?_, ?_⟩ ih
      all_goals
        rintro rfl
        exact hx rfl

/-- Literal text that is escaped or keeps blanks may stand before items. If it ends in a
backslash, what follows may be escaped. -/
theorem Options.hasItems_literal {options : Options} {text : String}
    (ht : options.escapeLiterals = false → keepsBlanks text.toList) (h : HasItems names rest)
    (hhead : ∀ x ∈ rest.head?, x ≠ '?' ∧ x.isAlpha = false)
    (hlast : text.toList.getLast? = some '\\' → HasItems names ('\\' :: rest)) :
    HasItems names ((options.literal text).toList ++ rest) := by
  unfold literal
  split_ifs with hescape
  · exact hasItems_escape text h
  · exact h.append_text (ht (Bool.eq_false_iff.mpr hescape)) hhead hlast

namespace Segment

variable {options : Options}

/-- The runs of one segment, of which the placeholders declare no pattern, and literal text is
escaped or keeps blanks. -/
structure AreItems (options : Options) (runs : List Segment) : Prop where
  isRun : ∀ r ∈ runs, ∃ prefixed, r.IsRun prefixed
  isChain : runs.IsChain MayPrecede
  pattern : ∀ q ∈ placeholdersOf runs, q.pattern = none
  literal : options.escapeLiterals = false → ∀ t ∈ textsOf runs, keepsBlanks t.toList

theorem AreItems.tail {r : Segment} {runs : List Segment} (h : AreItems options (r :: runs)) :
    AreItems options runs where
  isRun := (List.forall_mem_cons.mp h.isRun).2
  isChain := h.isChain.tail
  pattern q hq := h.pattern q (List.mem_append_right _ hq)
  literal hescape t ht := h.literal hescape t (List.mem_append_right _ ht)

/-- Literal text may stand before the other runs: they do not begin with more of it, nor with a
variable if it ends in a backslash. -/
theorem hasItems_text {s : String} {prefixed : Bool} {runs : List Segment}
    (h : AreItems options (text s prefixed :: runs)) (hrest : MayFollow names rest)
    (hitems : HasItems (Placeholder.itemNames index (placeholdersOf runs) ++ names)
      ((regexSourceOf options index runs).toList ++ rest)) :
    HasItems (Placeholder.itemNames index (placeholdersOf runs) ++ names)
      ((options.literal s).toList ++ ((regexSourceOf options index runs).toList ++ rest)) := by
  have hs : options.escapeLiterals = false → keepsBlanks s.toList := fun hescape =>
    h.literal hescape s (by simp [textsOf, texts])
  cases runs with
  | nil => exact Options.hasItems_literal hs hitems hrest.head fun _ => hrest.escaped
  | cons r runs =>
    have hprecedes : (text s prefixed).MayPrecede r := (List.isChain_cons_cons.mp h.isChain).1
    cases r with
    | text => exact hprecedes.elim
    | compound =>
      obtain ⟨prefixed, hrun⟩ := h.isRun _ (List.mem_cons_of_mem _ List.mem_cons_self)
      exact hrun.elim
    | placeholder p =>
      refine Options.hasItems_literal hs hitems ?_ fun hlast => absurd hlast hprecedes
      rw [regexSourceOf, regexSource, String.toList_append, List.append_assoc]
      exact p.head?_regexSource index _

/-- Runs behind one slash. If the first one has the slash, they may stand behind any text. -/
theorem hasItems_regexSourceOf_runs (hrest : MayFollow names rest) : (runs : List Segment) →
    AreItems options runs → (index : Nat) →
    HasItems (Placeholder.itemNames index (placeholdersOf runs) ++ names)
        ((regexSourceOf options index runs).toList ++ rest) ∧
      ((∀ r ∈ runs.head?, r.IsRun true) →
        MayFollow (Placeholder.itemNames index (placeholdersOf runs) ++ names)
          ((regexSourceOf options index runs).toList ++ rest))
  | [], _, index => ⟨hrest.hasItems, fun _ => hrest⟩
  | text s prefixed :: runs, h, index => by
    have hitems := hasItems_text h hrest (hasItems_regexSourceOf_runs hrest runs h.tail index).1
    rw [regexSourceOf, regexSource, String.toList_append, String.toList_append, List.append_assoc,
      List.append_assoc]
    refine ⟨hasItems_slash prefixed hitems, fun hhead => ?_⟩
    obtain rfl : prefixed = true := (hhead _ rfl).1
    exact hitems.mayFollow_cons (by decide) (by decide)
  | placeholder p :: runs, h, index => by
    have hitems := (hasItems_regexSourceOf_runs hrest runs h.tail (index + 1)).1
    have hpattern : p.pattern = none := h.pattern p List.mem_cons_self
    rw [regexSourceOf, regexSource, placeholdersOf, placeholders, String.toList_append,
      List.append_assoc, Placeholder.itemNames_append, List.append_assoc]
    refine ⟨Placeholder.hasItems_regexSource hpattern hitems, fun hhead => ?_⟩
    exact Placeholder.mayFollow_regexSource hpattern (.inl (hhead _ rfl).1) hitems
  | compound _ :: _, h, _ => by
    obtain ⟨prefixed, hrun⟩ := h.isRun _ List.mem_cons_self
    exact hrun.elim

theorem AreRuns.isRun {runs : List Segment} (h : AreRuns runs) :
    ∀ r ∈ runs, ∃ prefixed, r.IsRun prefixed := by
  cases runs with
  | nil => simp
  | cons r runs =>
    exact List.forall_mem_cons.mpr ⟨⟨true, h.head r rfl⟩, fun s hs => ⟨false, h.tail s hs⟩⟩

/-- A segment of a path that was read may stand behind any text: the first of its runs has the
slash. -/
theorem mayFollow_regexSource (hrest : MayFollow names rest) {seg : Segment}
    (hshape : seg.IsWellShaped) (hpattern : ∀ q ∈ seg.placeholders, q.pattern = none)
    (hliteral : options.escapeLiterals = false → ∀ t ∈ seg.texts, keepsBlanks t.toList)
    (index : Nat) :
    MayFollow (Placeholder.itemNames index seg.placeholders ++ names)
      ((seg.regexSource options index).toList ++ rest) := by
  have hsingle (hrun : seg.IsRun true) :
      MayFollow (Placeholder.itemNames index seg.placeholders ++ names)
        ((seg.regexSource options index).toList ++ rest) := by
    have hitems : AreItems options [seg] :=
      ⟨fun r hr => ⟨true, List.mem_singleton.mp hr ▸ hrun⟩, List.isChain_singleton seg,
        by simpa [placeholdersOf] using hpattern, by simpa [textsOf] using hliteral⟩
    have h := (hasItems_regexSourceOf_runs hrest [seg] hitems index).2 (by simpa using hrun)
    simpa [placeholdersOf, regexSourceOf] using h
  cases seg with
  | text | placeholder => exact hsingle hshape
  | compound runs =>
    have hitems : AreItems options runs := ⟨hshape.isRun, hshape.isChain, hpattern, hliteral⟩
    exact (hasItems_regexSourceOf_runs hrest runs hitems index).2 hshape.head

theorem mayFollow_regexSourceOf (hrest : MayFollow names rest) : (segs : List Segment) →
    (∀ seg ∈ segs, seg.IsWellShaped) → (∀ q ∈ placeholdersOf segs, q.pattern = none) →
    (options.escapeLiterals = false → ∀ t ∈ textsOf segs, keepsBlanks t.toList) → (index : Nat) →
    MayFollow (Placeholder.itemNames index (placeholdersOf segs) ++ names)
      ((regexSourceOf options index segs).toList ++ rest)
  | [], _, _, _, _ => hrest
  | seg :: segs, hshape, hpattern, hliteral, index => by
    obtain ⟨hseg, hsegs⟩ := List.forall_mem_cons.mp hshape
    obtain ⟨hpattern, hpatterns⟩ := List.forall_mem_append.mp hpattern
    have hmore := mayFollow_regexSourceOf hrest segs hsegs hpatterns
      (fun hescape t ht => hliteral hescape t (List.mem_append_right _ ht))
      (index + seg.placeholders.length)
    rw [regexSourceOf, placeholdersOf, String.toList_append, List.append_assoc,
      Placeholder.itemNames_append, List.append_assoc]
    exact mayFollow_regexSource hmore hseg hpattern
      (fun hescape t ht => hliteral hescape t (List.mem_append_left _ ht)) index

end Segment

end Placeholders

/-! ### Whole paths -/

/-- The regular expression of a path that was read has the variables that take no list as its
items, if no placeholder declares a pattern and literal text is escaped or keeps blanks. -/
theorem Path.hasItems_regexSource {options : Options} {p : Path} (hshape : p.IsWellShaped)
    (hpattern : ∀ q ∈ p.placeholders, q.pattern = none)
    (hliteral : options.escapeLiterals = false →
      ∀ t ∈ Segment.textsOf p.segments, keepsBlanks t.toList) :
    HasItems (Placeholder.itemNames 0 p.placeholders) (p.regexSource options).toList := by
  have hend : MayFollow [] ['$'] := HasItems.nil.mayFollow_cons (by decide) (by decide)
  have hsegments := Segment.mayFollow_regexSourceOf hend p.segments hshape.segments hpattern
    hliteral 0
  rw [List.append_nil] at hsegments
  rw [p.regexSource_eq, String.toList_ofList]
  exact hsegments.hasItems.cons (by decide)

namespace PathMatcher

variable {options : Options} {p : Path} {m : PathMatcher}

/-- No slash gets into what a group matches in the path of a URL, unless its variable takes a
list. -/
def CapturesItems (m : PathMatcher) (u : Url) : Prop :=
  ∀ found, m.regex.find? u.path = some found → ∀ g ∈ m.groups, g.repeating = false →
    ∀ s, found.named? g.name = some s → '/' ∉ s.toList

/-- Let the placeholders of a path that was read declare no pattern, and let its literal text be
escaped or keep blanks. Whatever the text opens and closes, and whichever URL is matched, no slash
gets into a variable that takes no list. -/
theorem capturesItems (hcompile : PathMatcher.compile options p = .ok m) (hshape : p.IsWellShaped)
    (hpattern : ∀ q ∈ p.placeholders, q.pattern = none)
    (hliteral : options.escapeLiterals = false →
      ∀ t ∈ Segment.textsOf p.segments, keepsBlanks t.toList) (u : Url) : m.CapturesItems u := by
  obtain ⟨hregex, hgroups, -⟩ := eq_of_compile hcompile
  intro found hfound g hg hrepeating
  refine not_mem_named? (p.hasItems_regexSource hshape hpattern hliteral) hregex hfound ?_
  rw [hgroups, Path.groups] at hg
  obtain ⟨⟨q, i⟩, hmem, rfl⟩ := List.mem_map.mp hg
  exact List.mem_map.mpr ⟨(q, i), List.mem_filter.mpr ⟨hmem, by simpa using hrepeating⟩, rfl⟩

end PathMatcher

end Reroute
