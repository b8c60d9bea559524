import Mathlib.Data.List.Basic
import Reroute.Proofs.Matching.PathTree
import Reroute.Target

/-!
# What placeholders match and become

The tree of a placeholder matches a text exactly if a value that fits the placeholder
becomes that text, and then the group of the placeholder gives back such a value.

## Main definitions

* `IsItem` — a text that stands between slashes
* `Placeholder.Fits` — the values that a URL can give a placeholder
* `Placeholder.valueOf` — the value that a group gives

## Main results

* `Group.pieces_join` — a list that was written behind slashes is read again
* `Placeholder.fits_of_matches` — what a placeholder matches gives a value that fits,
  and becomes what was matched
* `Placeholder.exists_matches` — what a value becomes is matched
-/

set_option autoImplicit false

namespace Reroute

open Regex

/-! ### Items -/

/-- Some text, without slashes. -/
def IsItem (w : List Char) : Prop :=
  w ≠ [] ∧ '/' ∉ w

instance : DecidablePred IsItem :=
  fun w => inferInstanceAs (Decidable (w ≠ [] ∧ '/' ∉ w))

section Pieces

variable {s : String} {items : List String}

/-- Text without slashes is one piece, if it is not empty. -/
theorem Group.pieces_of_notMem (h : '/' ∉ s.toList) :
    Group.pieces s = if s = "" then [] else [s] := by
  have hsplit : Text.splitBy (· = '/') s.toList = [s.toList] := by
    apply Text.splitBy_eq_singleton
    intro x hx
    rw [decide_eq_false_iff_not]
    rintro rfl
    exact h hx
  rw [Group.pieces, hsplit]
  by_cases hempty : s = ""
  · simp [hempty]
  · have hne : s.toList ≠ [] := by simpa using hempty
    simp [hempty]

/-- Parts that were written behind slashes are found again, behind an empty one. -/
theorem Group.splitBy_join (h : ∀ item ∈ items, '/' ∉ item.toList) :
    Text.splitBy (· = '/') (String.join (items.map ("/" ++ ·))).toList =
      [] :: items.map String.toList := by
  have hjoin : (String.join (items.map ("/" ++ ·))).toList =
      Text.joinWith '/' ([] :: items.map String.toList) := by
    rw [Text.joinWith_cons_eq, String.toList_join, List.flatMap_map, List.flatMap_map,
      List.nil_append]
    simp only [String.toList_append]
    rfl
  rw [hjoin]
  refine Text.splitBy_joinWith (by simp) ?_
  intro part hpart
  rcases List.mem_cons.mp hpart with rfl | hpart
  · simp
  · obtain ⟨item, hitem, rfl⟩ := List.mem_map.mp hpart
    exact h item hitem

/-- A list that was written behind slashes is read again. -/
theorem Group.pieces_join (h : ∀ item ∈ items, IsItem item.toList) :
    Group.pieces (String.join (items.map ("/" ++ ·))) = items := by
  have hfilter : (items.map String.toList).filter (!·.isEmpty) = items.map String.toList := by
    rw [List.filter_eq_self]
    intro part hpart
    obtain ⟨item, hitem, rfl⟩ := List.mem_map.mp hpart
    simpa using (h item hitem).1
  -- The empty part in front is dropped.
  rw [Group.pieces, Group.splitBy_join fun item hitem => (h item hitem).2,
    List.filter_cons_of_neg (by simp), hfilter, List.map_map]
  simp [Function.comp_def]

end Pieces

/-! ### Values -/

namespace Placeholder

variable {p : Placeholder} {items : List String}

theorem quantifier_of_not_isRepeating (h : p.isRepeating = false) :
    p.quantifier = none ∨ p.quantifier = some .optional := by
  rw [isRepeating] at h
  rcases hquantifier : p.quantifier with _ | _ | _ | _
  · exact .inl rfl
  · exact .inr rfl
  · rw [hquantifier] at h
    cases h
  · rw [hquantifier] at h
    cases h

/-- The values that a URL can give a placeholder without a pattern of its own. -/
def Fits (p : Placeholder) : Value → Prop
  | .text s => p.isRepeating = false ∧ '/' ∉ s.toList ∧ (p.quantifier = none → s ≠ "")
  | .list items =>
    p.isRepeating ∧ (∀ item ∈ items, IsItem item.toList) ∧
      (p.quantifier = some .oneOrMore → items ≠ [])
  | .number _ | .bool _ => False

instance (p : Placeholder) : DecidablePred p.Fits
  | .text s =>
    inferInstanceAs (Decidable (p.isRepeating = false ∧ '/' ∉ s.toList ∧
      (p.quantifier = none → s ≠ "")))
  | .list items =>
    inferInstanceAs (Decidable (p.isRepeating ∧ (∀ item ∈ items, IsItem item.toList) ∧
      (p.quantifier = some .oneOrMore → items ≠ [])))
  | .number _ | .bool _ => inferInstanceAs (Decidable False)

/-- The value that a group gives when `captured` is what it matched, if it took part. -/
def valueOf (p : Placeholder) (captured : Option String) : Value :=
  match captured with
  | some s =>
    if p.isRepeating || s.toList.contains '/' then .list (Group.pieces s) else .text s
  | none => if p.isRepeating then .list [] else .text ""

/-- What a list becomes. -/
def joined (p : Placeholder) (items : List String) : String :=
  String.join (items.map (slash p.prefixed ++ ·))

/-- Text without slashes is the value of a placeholder that takes no list. -/
theorem valueOf_some_of_notMem (hrepeating : p.isRepeating = false) {s : String}
    (hs : '/' ∉ s.toList) : p.valueOf (some s) = .text s := by
  simp [valueOf, hrepeating, hs]

theorem renderValue_text (hrepeating : p.isRepeating = false) {s : String} (hs : s ≠ "") :
    p.renderValue (.text s) = .ok (slash p.prefixed ++ s) := by
  simp [renderValue, hrepeating, hs, Value.toText]

theorem renderValue_list (hrepeating : p.isRepeating) (items : List String) :
    p.renderValue (.list items) = .ok (p.joined items) := by
  simp [renderValue, hrepeating, joined]

/-- A list that fits is read again, though its items may have grown together. -/
theorem exists_valueOf_joined (hfits : p.Fits (.list items)) :
    ∃ items', p.valueOf (some (p.joined items)) = .list items' ∧ p.Fits (.list items') ∧
      p.joined items' = p.joined items := by
  obtain ⟨hrepeating, hitems, hsome⟩ := hfits
  have hvalue : p.valueOf (some (p.joined items)) = .list (Group.pieces (p.joined items)) := by
    simp [valueOf, hrepeating]
  refine ⟨Group.pieces (p.joined items), hvalue, ?_⟩
  cases hprefixed : p.prefixed with
  | true =>
    have hjoined : p.joined items = String.join (items.map ("/" ++ ·)) := by
      simp [joined, hprefixed, slash]
    rw [hjoined, Group.pieces_join hitems]
    exact ⟨⟨hrepeating, hitems, hsome⟩, hjoined⟩
  | false =>
    -- Without slashes there is one item at most.
    have hjoined : p.joined items = String.join items := by
      simp [joined, hprefixed, slash]
    have hslash : '/' ∉ (String.join items).toList := by
      rw [String.toList_join, List.mem_flatMap]
      rintro ⟨item, hitem, hmem⟩
      exact (hitems item hitem).2 hmem
    rw [hjoined, Group.pieces_of_notMem hslash]
    by_cases hempty : String.join items = ""
    · rw [if_pos hempty, hempty]
      refine ⟨⟨hrepeating, by simp, fun hquantifier => ?_⟩, by simp [joined]⟩
      obtain ⟨item, hitem⟩ := List.exists_mem_of_ne_nil items (hsome hquantifier)
      have hnil : (String.join items).toList = [] := by rw [hempty]; rfl
      rw [String.toList_join, List.flatMap_eq_nil_iff] at hnil
      exact absurd (hnil item hitem) (hitems item hitem).1
    · rw [if_neg hempty]
      refine ⟨⟨hrepeating, ?_, by simp⟩, by simp [joined, hprefixed, slash]⟩
      intro item hitem
      obtain rfl := List.mem_singleton.mp hitem
      exact ⟨fun h => hempty (String.toList_eq_nil_iff.mp h), hslash⟩

end Placeholder

/-! ### Groups -/

section Captured

variable {text : Array Char} {s t : Slots} {group a b : Nat}

/-- What a group has matched, if it took part. -/
def capturedText (text : Array Char) (slots : Slots) (group : Nat) : Option String :=
  Match.text? { text, names := [], slots } group

theorem capturedText_congr (h : ∀ slot, slot / 2 = group → t.lookup slot = s.lookup slot) :
    capturedText text t group = capturedText text s group := by
  have hfirst := h (2 * group) (by omega)
  have hlast := h (2 * group + 1) (by omega)
  simp only [capturedText, Match.text?, Match.span?, hfirst, hlast]

theorem capturedText_eq_none (h : s.lookup (2 * group) = none) :
    capturedText text s group = none := by
  simp only [capturedText, Match.text?, Match.span?, h]
  rfl

/-- A group that matched last gives the text between its places. -/
theorem capturedText_cons {w : List Char} (h : Spans text a w b) :
    capturedText text ((2 * group + 1, b) :: (2 * group, a) :: s) group =
      some (String.ofList w) := by
  have hfirst : (2 * group == 2 * group + 1) = false := by
    rw [beq_eq_false_iff_ne]
    omega
  simp only [capturedText, Match.text?, Match.span?, List.lookup_cons, hfirst, beq_self_eq_true,
    Option.map_some, h.extract_eq]

theorem matches_capture_of_recognizes {body : Node} {L : List Char → Prop}
    (h : body.Recognizes text L) :
    (Node.capture group body).Matches text a s b t ↔
      ∃ w, L w ∧ Spans text a w b ∧ t = (2 * group + 1, b) :: (2 * group, a) :: s := by
  rw [Node.matches_capture]
  constructor
  · rintro ⟨u, hbody, rfl⟩
    obtain ⟨w, hw, hspans, rfl⟩ := (h _ _ _ _).mp hbody
    exact ⟨w, hw, hspans, rfl⟩
  · rintro ⟨w, hw, hspans, rfl⟩
    exact ⟨_, (h _ _ _ _).mpr ⟨w, hw, hspans, rfl⟩, rfl⟩

end Captured

/-! ### Matching -/

theorem recognizes_itemNode (text : Array Char) : itemNode.Recognizes text IsItem := by
  -- A text without slashes is cut into its characters, which the class contains.
  refine (Node.recognizes_set text notSlash).plus.congr fun w => ?_
  constructor
  · rintro ⟨ws, hne, hws, rfl⟩
    constructor
    · intro hempty
      obtain ⟨v, hv⟩ := List.exists_mem_of_ne_nil ws hne
      obtain ⟨x, -, rfl⟩ := hws v hv
      exact absurd (List.flatten_eq_nil_iff.mp hempty _ hv) (by simp)
    · intro hmem
      obtain ⟨v, hv, hslash⟩ := List.mem_flatten.mp hmem
      obtain ⟨x, hx, rfl⟩ := hws v hv
      obtain rfl := List.mem_singleton.mp hslash
      rw [contains_notSlash] at hx
      exact absurd hx (by decide)
  · rintro ⟨hne, hslash⟩
    refine ⟨w.map fun x => [x], by simpa using hne, ?_, ?_⟩
    · intro v hv
      obtain ⟨x, hx, rfl⟩ := List.mem_map.mp hv
      refine ⟨x, ?_, rfl⟩
      rw [contains_notSlash, bne_iff_ne]
      rintro rfl
      exact hslash hx
    · rw [← List.flatMap_def, List.flatMap_singleton']

namespace Placeholder

variable {p : Placeholder} {text : Array Char} {s t : Slots} {index a b : Nat}

theorem recognizes_turnNode (p : Placeholder) (text : Array Char) :
    p.turnNode.Recognizes text fun w =>
      ∃ v, IsItem v ∧ w = (slash p.prefixed).toList ++ v := by
  have hslash := Node.recognizes_chars text (slash p.prefixed).toList
  have hitem : (Node.concat [itemNode]).Recognizes text IsItem := recognizes_itemNode text
  refine (hslash.concat_append hitem).congr fun w => ?_
  constructor
  · rintro ⟨u, v, rfl, hv, rfl⟩
    exact ⟨v, hv, rfl⟩
  · rintro ⟨v, hv, rfl⟩
    exact ⟨_, v, rfl, hv, rfl⟩

theorem toList_joined (p : Placeholder) (items : List String) :
    (p.joined items).toList =
      (items.map fun item => (slash p.prefixed).toList ++ item.toList).flatten := by
  rw [joined, String.toList_join, List.flatMap_map, List.flatMap_def]
  simp only [String.toList_append]

theorem exists_items {front : List Char} {ws : List (List Char)}
    (h : ∀ w ∈ ws, ∃ v, IsItem v ∧ w = front ++ v) :
    ∃ items : List String, (∀ item ∈ items, IsItem item.toList) ∧
      ws = items.map fun item => front ++ item.toList := by
  induction ws with
  | nil => exact ⟨[], by simp, rfl⟩
  | cons w ws ih =>
    obtain ⟨⟨v, hv, rfl⟩, hws⟩ := List.forall_mem_cons.mp h
    obtain ⟨items, hitems, rfl⟩ := ih hws
    refine ⟨String.ofList v :: items, List.forall_mem_cons.mpr ⟨?_, hitems⟩, ?_⟩
    · rwa [String.toList_ofList]
    · rw [List.map_cons, String.toList_ofList]

/-- Turns one after the other match what non-empty lists become. -/
theorem recognizes_turns (p : Placeholder) (text : Array Char) :
    (Node.plus true p.turnNode).Recognizes text fun w =>
      ∃ items, items ≠ [] ∧ (∀ item ∈ items, IsItem item.toList) ∧
        w = (p.joined items).toList := by
  refine (recognizes_turnNode p text).plus.congr fun w => ?_
  constructor
  · rintro ⟨ws, hne, hws, rfl⟩
    obtain ⟨items, hitems, rfl⟩ := exists_items hws
    exact ⟨items, by simpa using hne, hitems, (toList_joined p items).symm⟩
  · rintro ⟨items, hne, hitems, rfl⟩
    refine ⟨_, by simpa using hne, ?_, toList_joined p items⟩
    intro w hw
    obtain ⟨item, hitem, rfl⟩ := List.mem_map.mp hw
    exact ⟨item.toList, hitems item hitem, rfl⟩

/-- The repetition of a placeholder matches what lists that fit become. -/
theorem recognizes_repeated {q : Quantifier} (hquantifier : p.quantifier = some q)
    (hrepeating : q.isRepeating) (text : Array Char) :
    (q.repeated p.turnNode).Recognizes text fun w =>
      ∃ items, p.Fits (.list items) ∧ w = (p.joined items).toList := by
  have hisRepeating : p.isRepeating := by rwa [isRepeating_of_eq_some hquantifier]
  cases q with
  | optional => cases hrepeating
  | oneOrMore =>
    refine (recognizes_turns p text).congr fun w => exists_congr fun items => ?_
    simp [Fits, hisRepeating, hquantifier, and_assoc, and_left_comm]
  | zeroOrMore =>
    -- The empty list becomes the empty text, for which no turn is taken.
    refine (recognizes_turns p text).upTo_one.congr fun w => ?_
    constructor
    · rintro (rfl | ⟨items, -, hitems, rfl⟩)
      · exact ⟨[], ⟨hisRepeating, by simp, by simp [hquantifier]⟩, by simp [joined]⟩
      · exact ⟨items, ⟨hisRepeating, hitems, by simp [hquantifier]⟩, rfl⟩
    · rintro ⟨items, ⟨-, hitems, -⟩, rfl⟩
      by_cases hempty : items = []
      · left
        simp [hempty, joined]
      · exact .inr ⟨items, hempty, hitems, rfl⟩

/-- An item behind its slash, and the group that it is remembered by. -/
theorem matches_front_capture {group : Nat} :
    (Node.concat (charNodes (slash p.prefixed) ++ [.capture group itemNode])).Matches text a s b t ↔
      ∃ c w, IsItem w ∧ Spans text a (slash p.prefixed).toList c ∧ Spans text c w b ∧
        t = (2 * group + 1, b) :: (2 * group, c) :: s := by
  rw [Node.matches_concat_append]
  have hitem := recognizes_itemNode text
  constructor
  · rintro ⟨c, u, hfront, hcapture⟩
    obtain ⟨hspans, rfl⟩ := Node.matches_concat_map_char.mp hfront
    obtain ⟨w, hw, hspans', rfl⟩ := (matches_capture_of_recognizes hitem).mp hcapture
    exact ⟨c, w, hw, hspans, hspans', rfl⟩
  · rintro ⟨c, w, hw, hspans, hspans', rfl⟩
    exact ⟨c, s, Node.matches_concat_map_char.mpr ⟨hspans, rfl⟩,
      (matches_capture_of_recognizes hitem).mpr ⟨w, hw, hspans', rfl⟩⟩

/-- The tree of a placeholder that takes no list and must be filled in. -/
theorem fits_of_matches_front (hrepeating : p.isRepeating = false)
    (h : (Node.concat (charNodes (slash p.prefixed) ++
      [.capture (index + 1) itemNode])).Matches text a s b t) :
    ∃ v, p.valueOf (capturedText text t (index + 1)) = v ∧ p.Fits v ∧
      ∃ r, p.renderValue v = .ok r ∧ Spans text a r.toList b := by
  obtain ⟨c, w, ⟨hne, hslash⟩, hspans, hspans', rfl⟩ := matches_front_capture.mp h
  have hmem : '/' ∉ (String.ofList w).toList := by rwa [String.toList_ofList]
  have hempty : String.ofList w ≠ "" := by
    rwa [Ne, ← String.toList_eq_nil_iff, String.toList_ofList]
  rw [capturedText_cons hspans', valueOf_some_of_notMem hrepeating hmem]
  refine ⟨_, rfl, ⟨hrepeating, hmem, fun _ => hempty⟩, _, renderValue_text hrepeating hempty, ?_⟩
  rw [String.toList_append, String.toList_ofList]
  exact hspans.append hspans'

/-- The tree of a placeholder that takes a list. -/
theorem fits_of_matches_turns {q : Quantifier} (hquantifier : p.quantifier = some q)
    (hq : q.isRepeating)
    (h : (Node.capture (index + 1) (q.repeated p.turnNode)).Matches text a s b t) :
    ∃ v, p.valueOf (capturedText text t (index + 1)) = v ∧ p.Fits v ∧
      ∃ r, p.renderValue v = .ok r ∧ Spans text a r.toList b := by
  have hrepeating : p.isRepeating := by rwa [isRepeating_of_eq_some hquantifier]
  obtain ⟨_, ⟨items, hfits, rfl⟩, hspans, rfl⟩ :=
    (matches_capture_of_recognizes (recognizes_repeated hquantifier hq text)).mp h
  obtain ⟨items', hvalue, hfits', hjoined⟩ := exists_valueOf_joined hfits
  rw [capturedText_cons hspans, String.ofList_toList, hvalue]
  exact ⟨_, rfl, hfits', _, renderValue_list hrepeating items', by rwa [hjoined]⟩

/-- What a placeholder matches gives a value that fits, and becomes what was matched. -/
theorem fits_of_matches (h : (Node.concat (p.nodes index)).Matches text a s b t)
    (hs : s.lookup (2 * (index + 1)) = none) :
    ∃ v, p.valueOf (capturedText text t (index + 1)) = v ∧ p.Fits v ∧
      ∃ r, p.renderValue v = .ok r ∧ Spans text a r.toList b := by
  cases hquantifier : p.quantifier with
  | none =>
    rw [nodes_of_eq_none hquantifier] at h
    exact fits_of_matches_front (isRepeating_of_eq_none hquantifier) h
  | some q =>
    by_cases hq : q.isRepeating
    · rw [nodes_of_isRepeating hquantifier hq] at h
      exact fits_of_matches_turns hquantifier hq h
    · have hrepeating : p.isRepeating = false := by
        rw [isRepeating_of_eq_some hquantifier]
        exact Bool.eq_false_iff.mpr hq
      obtain rfl : q = .optional := by
        rcases quantifier_of_not_isRepeating hrepeating with h' | h'
        · cases hquantifier.symm.trans h'
        · exact Option.some.inj (hquantifier.symm.trans h')
      rw [nodes_of_not_isRepeating hquantifier rfl] at h
      rcases Node.matches_upTo_one.mp h with ⟨rfl, rfl⟩ | h
      · -- The group took no part.
        rw [capturedText_eq_none hs]
        refine ⟨.text "", by simp [valueOf, hrepeating], ⟨hrepeating, by simp, ?_⟩, "", ?_, ?_⟩
        · simp [hquantifier]
        · simp [renderValue, hrepeating, hquantifier]
        · exact spans_nil.mpr rfl
      · exact fits_of_matches_front hrepeating h

/-- What a text that fits becomes is matched. -/
theorem exists_matches_text {item r : String} (hfits : p.Fits (.text item))
    (hr : p.renderValue (.text item) = .ok r) (hspans : Spans text a r.toList b) (s : Slots) :
    ∃ t, (Node.concat (p.nodes index)).Matches text a s b t := by
  obtain ⟨hrepeating, hslash, hne⟩ := hfits
  by_cases hempty : item = ""
  · -- Only what is optional may be empty, and then it is left out.
    subst hempty
    obtain hquantifier : p.quantifier = some .optional :=
      (quantifier_of_not_isRepeating hrepeating).resolve_left fun h => hne h rfl
    obtain rfl : r = "" := by simpa [renderValue, hrepeating, hquantifier] using hr.symm
    obtain rfl := spans_nil.mp hspans
    rw [nodes_of_not_isRepeating hquantifier rfl]
    exact ⟨s, .upToStop⟩
  · rw [renderValue_text hrepeating hempty] at hr
    obtain rfl := Except.ok.inj hr
    rw [String.toList_append] at hspans
    obtain ⟨c, hspans, hspans'⟩ := spans_append.mp hspans
    have hitem : IsItem item.toList := ⟨by rwa [Ne, String.toList_eq_nil_iff], hslash⟩
    have hfront : (Node.concat (charNodes (slash p.prefixed) ++
        [.capture (index + 1) itemNode])).Matches text a s b _ :=
      matches_front_capture.mpr ⟨c, item.toList, hitem, hspans, hspans', rfl⟩
    rcases quantifier_of_not_isRepeating hrepeating with hquantifier | hquantifier
    · rw [nodes_of_eq_none hquantifier]
      exact ⟨_, hfront⟩
    · rw [nodes_of_not_isRepeating hquantifier rfl]
      exact ⟨_, Node.matches_upTo_one.mpr (.inr hfront)⟩

/-- What a list that fits becomes is matched. -/
theorem exists_matches_list {items : List String} {r : String} (hfits : p.Fits (.list items))
    (hr : p.renderValue (.list items) = .ok r) (hspans : Spans text a r.toList b) (s : Slots) :
    ∃ t, (Node.concat (p.nodes index)).Matches text a s b t := by
  have hrepeating := hfits.1
  rw [renderValue_list hrepeating] at hr
  obtain rfl := Except.ok.inj hr
  cases hquantifier : p.quantifier with
  | none =>
    rw [isRepeating_of_eq_none hquantifier] at hrepeating
    cases hrepeating
  | some q =>
    rw [isRepeating_of_eq_some hquantifier] at hrepeating
    rw [nodes_of_isRepeating hquantifier hrepeating]
    exact ⟨_, (matches_capture_of_recognizes
      (recognizes_repeated hquantifier hrepeating text)).mpr ⟨_, ⟨items, hfits, rfl⟩, hspans, rfl⟩⟩

/-- What a value that fits becomes is matched. -/
theorem exists_matches {v : Value} {r : String} (hfits : p.Fits v) (hr : p.renderValue v = .ok r)
    (hspans : Spans text a r.toList b) (s : Slots) :
    ∃ t, (Node.concat (p.nodes index)).Matches text a s b t := by
  cases v with
  | text item => exact exists_matches_text hfits hr hspans s
  | list items => exact exists_matches_list hfits hr hspans s
  | number n => exact hfits.elim
  | bool x => exact hfits.elim

end Placeholder

end Reroute
