import Mathlib.Data.List.Basic
import Reroute.Regex.Program

/-!
# What regular expressions match

A tree matches the text between two places, and on the way it remembers places under
numbers. This is said without regard to the order in which a search tries things: a
tree may match in several ways.

## Main definitions

* `Regex.Slots` — what is remembered, the latest first
* `Regex.Spans` — the text between two positions
* `Node.Matches` — a tree matches between two positions
* `Node.Recognizes` — what a tree that remembers nothing matches

## Main results

* `Node.matches_concat_append` — nodes one after the other match texts one after the
  other
* `Node.matches_anchored` — what is between anchors matches whole texts
* `Node.Matches.lookup_eq` — only groups of the tree are remembered
* `Node.Recognizes.plus` — a repetition matches texts one after the other
-/

set_option autoImplicit false

namespace Reroute.Regex

/-- What is remembered on the way through a text, the latest first. -/
abbrev Slots : Type := List (Nat × Nat)

/-! ### Texts between positions -/

section Spans

variable {text : Array Char} {p q r : Nat} {v w : List Char}

/-- `w` is what stands between two positions of a text. -/
def Spans (text : Array Char) : Nat → List Char → Nat → Prop
  | p, [], q => p = q
  | p, x :: w, q => text[p]? = some x ∧ Spans text (p + 1) w q

@[simp] theorem spans_nil : Spans text p [] q ↔ p = q := Iff.rfl

theorem spans_cons {x : Char} :
    Spans text p (x :: w) q ↔ text[p]? = some x ∧ Spans text (p + 1) w q := Iff.rfl

theorem spans_singleton {x : Char} : Spans text p [x] q ↔ text[p]? = some x ∧ q = p + 1 := by
  rw [spans_cons, spans_nil, eq_comm (a := q)]

theorem spans_append : Spans text p (v ++ w) q ↔ ∃ r, Spans text p v r ∧ Spans text r w q := by
  induction v generalizing p with
  | nil => simp
  | cons x v ih =>
    simp only [List.cons_append, spans_cons, ih]
    constructor
    · rintro ⟨hx, r, hv, hw⟩
      exact ⟨r, ⟨hx, hv⟩, hw⟩
    · rintro ⟨r, ⟨hx, hv⟩, hw⟩
      exact ⟨hx, r, hv, hw⟩

theorem Spans.append (hv : Spans text p v q) (hw : Spans text q w r) : Spans text p (v ++ w) r :=
  spans_append.mpr ⟨q, hv, hw⟩

theorem Spans.length_eq (h : Spans text p w q) : q = p + w.length := by
  induction w generalizing p with
  | nil => exact h.symm
  | cons x w ih =>
    have := ih h.2
    rw [List.length_cons]
    omega

/-- A position with a character is within the text. -/
theorem lt_size_of_any {f : Char → Bool} (h : text[p]?.any f) : p < text.size := by
  by_contra hge
  rw [Array.getElem?_eq_none (Nat.not_lt.mp hge)] at h
  cases h

theorem lt_size_of_eq_some {x : Char} (h : text[p]? = some x) : p < text.size :=
  lt_size_of_any (f := fun _ => true) (by rw [h]; rfl)

/-- The text is a part of the whole. -/
theorem Spans.drop_eq (h : Spans text p w q) : text.toList.drop p = w ++ text.toList.drop q := by
  induction w generalizing p with
  | nil => rw [spans_nil.mp h, List.nil_append]
  | cons x w ih =>
    obtain ⟨hx, hw⟩ := h
    have hlt : p < text.toList.length := lt_size_of_eq_some hx
    have hget : text.toList[p] = x := by
      rw [Array.getElem_toList]
      exact (Array.getElem?_eq_some_iff.mp hx).2
    rw [List.drop_eq_getElem_cons hlt, hget, ih hw, List.cons_append]

/-- What is cut out of a text between two positions. -/
theorem Spans.extract_eq (h : Spans text p w q) : (text.extract p q).toList = w := by
  rw [Array.toList_extract, List.extract_eq_take_drop, h.drop_eq, h.length_eq,
    Nat.add_sub_cancel_left, List.take_left]

/-- Between the beginning and the end stands the whole text. -/
theorem Spans.toList_eq (h : Spans text 0 w text.size) : text.toList = w := by
  have := h.drop_eq
  rwa [List.drop_zero, ← Array.length_toList, List.drop_length, List.append_nil] at this

theorem spans_toList (text : Array Char) : Spans text 0 text.toList text.size := by
  -- The induction is on what is left of the text.
  suffices h : ∀ w p, text.toList.drop p = w → p ≤ text.size → Spans text p w text.size from
    h _ 0 rfl (Nat.zero_le _)
  intro w
  induction w with
  | nil =>
    intro p hp hle
    have := List.drop_eq_nil_iff.mp hp
    rw [Array.length_toList] at this
    exact Nat.le_antisymm hle this
  | cons x w ih =>
    intro p hp hle
    have hlt : p < text.toList.length := by
      by_contra hge
      rw [List.drop_eq_nil_of_le (by omega)] at hp
      cases hp
    rw [List.drop_eq_getElem_cons hlt] at hp
    obtain ⟨hx, hw⟩ := List.cons.inj hp
    have hsize : p < text.size := by simpa using hlt
    refine ⟨?_, ih (p + 1) hw hsize⟩
    rw [Array.getElem?_eq_getElem hsize, ← hx, Array.getElem_toList]

end Spans

/-! ### Trees -/

namespace Node

/-- A tree matches between the positions `p` and `q`, and what is remembered by then
grows from `s` to `t`. -/
inductive Matches (text : Array Char) : Node → Nat → Slots → Nat → Slots → Prop where
  | empty {p s} : Matches text .empty p s p s
  | char {p s x} (h : text[p]? = some x) : Matches text (.char x) p s (p + 1) s
  | set {p s chars} (h : text[p]?.any chars.contains) : Matches text (.set chars) p s (p + 1) s
  | look {p s condition} (h : condition.holds (before text p) text[p]?) :
      Matches text (.look condition) p s p s
  | capture {p s q t index body} (h : Matches text body p ((2 * index, p) :: s) q t) :
      Matches text (.capture index body) p s q ((2 * index + 1, q) :: t)
  | seq {p s q t r u first second} (h : Matches text first p s q t)
      (h' : Matches text second q t r u) : Matches text (.seq first second) p s r u
  | altFirst {p s q t first second} (h : Matches text first p s q t) :
      Matches text (.alt first second) p s q t
  | altSecond {p s q t first second} (h : Matches text second p s q t) :
      Matches text (.alt first second) p s q t
  | timesZero {p s body} : Matches text (.times 0 body) p s p s
  | timesSucc {p s q t r u count body} (h : Matches text body p s q t)
      (h' : Matches text (.times count body) q t r u) :
      Matches text (.times (count + 1) body) p s r u
  | upToStop {p s count greedy body} : Matches text (.upTo count greedy body) p s p s
  | upToNext {p s q t r u count greedy body} (h : Matches text body p s q t)
      (h' : Matches text (.upTo count greedy body) q t r u) :
      Matches text (.upTo (count + 1) greedy body) p s r u
  | plusOnce {p s q t greedy body} (h : Matches text body p s q t) :
      Matches text (.plus greedy body) p s q t
  | plusNext {p s q t r u greedy body} (h : Matches text body p s q t)
      (h' : Matches text (.plus greedy body) q t r u) :
      Matches text (.plus greedy body) p s r u

variable {text : Array Char} {p q : Nat} {s t : Slots}

theorem matches_empty : empty.Matches text p s q t ↔ p = q ∧ s = t := by
  constructor
  · rintro ⟨⟩
    exact ⟨rfl, rfl⟩
  · rintro ⟨rfl, rfl⟩
    exact .empty

theorem matches_char {x : Char} :
    (char x).Matches text p s q t ↔ Spans text p [x] q ∧ s = t := by
  rw [spans_singleton]
  constructor
  · rintro ⟨⟩
    exact ⟨⟨‹_›, rfl⟩, rfl⟩
  · rintro ⟨⟨h, rfl⟩, rfl⟩
    exact .char h

theorem matches_set {chars : CharSet} :
    (set chars).Matches text p s q t ↔
      ∃ x, chars.contains x ∧ Spans text p [x] q ∧ s = t := by
  simp only [spans_singleton]
  constructor
  · rintro ⟨⟩
    rename_i h
    cases hx : text[p]? with
    | none => simp [hx] at h
    | some x => exact ⟨x, by simpa [hx] using h, ⟨rfl, rfl⟩, rfl⟩
  · rintro ⟨x, hcontains, ⟨hx, rfl⟩, rfl⟩
    exact .set (by rw [hx]; exact hcontains)

theorem matches_look {condition : Look} :
    (look condition).Matches text p s q t ↔
      condition.holds (before text p) text[p]? ∧ p = q ∧ s = t := by
  constructor
  · rintro ⟨⟩
    exact ⟨‹_›, rfl, rfl⟩
  · rintro ⟨h, rfl, rfl⟩
    exact .look h

theorem matches_capture {index : Nat} {body : Node} :
    (capture index body).Matches text p s q t ↔
      ∃ u, body.Matches text p ((2 * index, p) :: s) q u ∧ t = (2 * index + 1, q) :: u := by
  constructor
  · rintro ⟨⟩
    exact ⟨_, ‹_›, rfl⟩
  · rintro ⟨u, h, rfl⟩
    exact .capture h

theorem matches_seq {first second : Node} :
    (seq first second).Matches text p s q t ↔
      ∃ r u, first.Matches text p s r u ∧ second.Matches text r u q t := by
  constructor
  · rintro ⟨⟩
    exact ⟨_, _, ‹_›, ‹_›⟩
  · rintro ⟨r, u, h, h'⟩
    exact .seq h h'

/-- What is optional is left out or taken. -/
theorem matches_upTo_one {greedy : Bool} {body : Node} :
    (upTo 1 greedy body).Matches text p s q t ↔
      p = q ∧ s = t ∨ body.Matches text p s q t := by
  constructor
  · intro h
    cases h with
    | upToStop => exact .inl ⟨rfl, rfl⟩
    | upToNext h h' =>
      cases h' with
      | upToStop => exact .inr h
  · rintro (⟨rfl, rfl⟩ | h)
    · exact .upToStop
    · exact .upToNext h .upToStop

theorem matches_concat_cons {node : Node} {nodes : List Node} :
    (concat (node :: nodes)).Matches text p s q t ↔
      ∃ r u, node.Matches text p s r u ∧ (concat nodes).Matches text r u q t := by
  cases nodes with
  | nil => simp [concat, matches_empty]
  | cons node' nodes => exact matches_seq

/-- Nodes one after the other match texts one after the other. -/
theorem matches_concat_append {nodes nodes' : List Node} :
    (concat (nodes ++ nodes')).Matches text p s q t ↔
      ∃ r u, (concat nodes).Matches text p s r u ∧ (concat nodes').Matches text r u q t := by
  induction nodes generalizing p s with
  | nil =>
    rw [List.nil_append]
    constructor
    · exact fun h => ⟨p, s, .empty, h⟩
    · rintro ⟨r, u, h, h'⟩
      obtain ⟨rfl, rfl⟩ := matches_empty.mp h
      exact h'
  | cons node nodes ih =>
    simp only [List.cons_append, matches_concat_cons, ih]
    constructor
    · rintro ⟨r, u, h, r', u', h', h''⟩
      exact ⟨r', u', ⟨r, u, h, h'⟩, h''⟩
    · rintro ⟨r', u', ⟨r, u, h, h'⟩, h''⟩
      exact ⟨r, u, h, r', u', h', h''⟩

/-- Characters one after the other match themselves. -/
theorem matches_concat_map_char {w : List Char} :
    (concat (w.map char)).Matches text p s q t ↔ Spans text p w q ∧ s = t := by
  induction w generalizing p s with
  | nil => exact matches_empty
  | cons x w ih =>
    rw [List.map_cons, matches_concat_cons, ← List.singleton_append, spans_append]
    simp only [matches_char, ih]
    constructor
    · rintro ⟨r, u, ⟨hx, rfl⟩, hw, rfl⟩
      exact ⟨⟨r, hx, hw⟩, rfl⟩
    · rintro ⟨⟨r, hx, hw⟩, rfl⟩
      exact ⟨r, s, ⟨hx, rfl⟩, hw, rfl⟩

/-- A match goes forward and stays within the text. -/
theorem Matches.le {node : Node} (h : node.Matches text p s q t) (hp : p ≤ text.size) :
    p ≤ q ∧ q ≤ text.size := by
  induction h with
  | empty | look | timesZero | upToStop => exact ⟨Nat.le_refl _, hp⟩
  | @char p s x h => exact ⟨Nat.le_succ p, lt_size_of_eq_some h⟩
  | @set p s chars h => exact ⟨Nat.le_succ p, lt_size_of_any h⟩
  | capture _ ih => exact ih hp
  | altFirst _ ih | altSecond _ ih | plusOnce _ ih => exact ih hp
  | seq _ _ ih ih' | timesSucc _ _ ih ih' | upToNext _ _ ih ih' | plusNext _ _ ih ih' =>
    obtain ⟨hpq, hq⟩ := ih hp
    obtain ⟨hqr, hr⟩ := ih' hq
    exact ⟨Nat.le_trans hpq hqr, hr⟩

/-- Between anchors a tree matches whole texts only. -/
theorem matches_anchored {nodes : List Node} (hp : p ≤ text.size) :
    (concat (.look .start :: nodes ++ [.look .end])).Matches text p s q t ↔
      p = 0 ∧ q = text.size ∧ (concat nodes).Matches text p s q t := by
  have hstart : Look.start.holds (before text p) text[p]? ↔ p = 0 := by
    by_cases hzero : p = 0
    · simp [Look.holds, before, hzero]
    · have hsome : text[p - 1]? = some text[p - 1] := Array.getElem?_eq_getElem (by omega)
      simp [Look.holds, before, hzero, hsome]
  have hend (q : Nat) : Look.end.holds (before text q) text[q]? ↔ text.size ≤ q := by
    simp [Look.holds]
  rw [List.cons_append, matches_concat_cons]
  -- The anchors match nothing, but at the ends of the text only.
  constructor
  · rintro ⟨r, u, hfirst, h⟩
    obtain ⟨hlook, rfl, rfl⟩ := matches_look.mp hfirst
    obtain ⟨q', t', hnodes, hlast⟩ := matches_concat_append.mp h
    obtain ⟨hlook', rfl, rfl⟩ := matches_look.mp hlast
    exact ⟨hstart.mp hlook, Nat.le_antisymm (hnodes.le hp).2 ((hend q').mp hlook'), hnodes⟩
  · rintro ⟨hzero, hsize, h⟩
    refine ⟨p, s, matches_look.mpr ⟨hstart.mpr hzero, rfl, rfl⟩, ?_⟩
    refine matches_concat_append.mpr ⟨q, t, h, ?_⟩
    exact matches_look.mpr ⟨(hend q).mpr (Nat.le_of_eq hsize.symm), rfl, rfl⟩

/-- Only groups of the tree are remembered. -/
theorem Matches.lookup_eq {node : Node} (h : node.Matches text p s q t) {slot : Nat}
    (hslot : node.hasGroup (slot / 2) = false) : t.lookup slot = s.lookup slot := by
  induction h with
  | empty | char | set | look | timesZero | upToStop => rfl
  | @capture p s q t index body _ ih =>
    simp only [hasGroup, Bool.or_eq_false_iff, decide_eq_false_iff_not] at hslot
    have hfirst : (slot == 2 * index) = false := by
      rw [beq_eq_false_iff_ne]
      omega
    have hlast : (slot == 2 * index + 1) = false := by
      rw [beq_eq_false_iff_ne]
      omega
    -- Neither place that the group remembers is the one that is looked up.
    rw [List.lookup_cons, hlast]
    simpa only [List.lookup_cons, hfirst] using ih hslot.2
  | seq _ _ ih ih' =>
    simp only [hasGroup, Bool.or_eq_false_iff] at hslot
    rw [ih' hslot.2, ih hslot.1]
  | altFirst _ ih =>
    simp only [hasGroup, Bool.or_eq_false_iff] at hslot
    exact ih hslot.1
  | altSecond _ ih =>
    simp only [hasGroup, Bool.or_eq_false_iff] at hslot
    exact ih hslot.2
  | plusOnce _ ih => exact ih hslot
  | timesSucc _ _ ih ih' | upToNext _ _ ih ih' | plusNext _ _ ih ih' =>
    rw [ih' hslot, ih hslot]

/-! ### Trees without groups -/

variable {L L' : List Char → Prop} {node : Node}

/-- A tree matches the texts of `L`, and remembers nothing. -/
def Recognizes (text : Array Char) (node : Node) (L : List Char → Prop) : Prop :=
  ∀ p s q t, node.Matches text p s q t ↔ ∃ w, L w ∧ Spans text p w q ∧ s = t

theorem Recognizes.congr (h : Recognizes text node L) (hL : ∀ w, L w ↔ L' w) :
    Recognizes text node L' := by
  intro p s q t
  rw [h p s q t]
  exact exists_congr fun w => and_congr_left' (hL w)

theorem recognizes_chars (text : Array Char) (w : List Char) :
    Recognizes text (concat (w.map char)) (· = w) := by
  intro p s q t
  rw [matches_concat_map_char]
  constructor
  · intro h
    exact ⟨w, rfl, h⟩
  · rintro ⟨w, rfl, h⟩
    exact h

theorem recognizes_set (text : Array Char) (chars : CharSet) :
    Recognizes text (set chars) fun w => ∃ x, chars.contains x ∧ w = [x] := by
  intro p s q t
  rw [matches_set]
  constructor
  · rintro ⟨x, hx, h⟩
    exact ⟨[x], ⟨x, hx, rfl⟩, h⟩
  · rintro ⟨w, ⟨x, hx, rfl⟩, h⟩
    exact ⟨x, hx, h⟩

theorem Recognizes.concat_append {nodes nodes' : List Node}
    (h : Recognizes text (concat nodes) L) (h' : Recognizes text (concat nodes') L') :
    Recognizes text (concat (nodes ++ nodes')) fun w => ∃ u v, L u ∧ L' v ∧ w = u ++ v := by
  intro p s q t
  rw [matches_concat_append]
  constructor
  · rintro ⟨r, s', hfirst, hsecond⟩
    obtain ⟨u, hu, hspans, rfl⟩ := (h _ _ _ _).mp hfirst
    obtain ⟨v, hv, hspans', rfl⟩ := (h' _ _ _ _).mp hsecond
    exact ⟨u ++ v, ⟨u, v, hu, hv, rfl⟩, hspans.append hspans', rfl⟩
  · rintro ⟨w, ⟨u, v, hu, hv, rfl⟩, hspans, rfl⟩
    obtain ⟨r, hspans, hspans'⟩ := spans_append.mp hspans
    exact ⟨r, s, (h _ _ _ _).mpr ⟨u, hu, hspans, rfl⟩, (h' _ _ _ _).mpr ⟨v, hv, hspans', rfl⟩⟩

theorem Recognizes.upTo_one {greedy : Bool} (h : Recognizes text node L) :
    Recognizes text (upTo 1 greedy node) fun w => w = [] ∨ L w := by
  intro p s q t
  rw [matches_upTo_one, h p s q t]
  constructor
  · rintro (⟨hspans, hs⟩ | ⟨w, hw, hspans⟩)
    · exact ⟨[], .inl rfl, hspans, hs⟩
    · exact ⟨w, .inr hw, hspans⟩
  · rintro ⟨w, rfl | hw, hspans⟩
    · exact .inl hspans
    · exact .inr ⟨w, hw, hspans⟩

/-- A repetition matches texts one after the other. -/
theorem Recognizes.plus {greedy : Bool} (h : Recognizes text node L) :
    Recognizes text (plus greedy node) fun w =>
      ∃ ws : List (List Char), ws ≠ [] ∧ (∀ v ∈ ws, L v) ∧ w = ws.flatten := by
  intro p s q t
  constructor
  · intro hmatches
    generalize hrepeated : Node.plus greedy node = repeated at hmatches
    -- The induction is on the turns of the repetition.
    induction hmatches with
    | plusOnce hturn _ =>
      cases hrepeated
      obtain ⟨w, hw, hspans, hs⟩ := (h _ _ _ _).mp hturn
      exact ⟨w, ⟨[w], by simp, by simpa using hw, by simp⟩, hspans, hs⟩
    | plusNext hturn _ _ ih =>
      cases hrepeated
      obtain ⟨w, hw, hspans, rfl⟩ := (h _ _ _ _).mp hturn
      obtain ⟨_, ⟨ws, _, hws, rfl⟩, hspans', hs⟩ := ih rfl
      exact ⟨w ++ ws.flatten, ⟨w :: ws, by simp, List.forall_mem_cons.mpr ⟨hw, hws⟩, by simp⟩,
        hspans.append hspans', hs⟩
    | _ => cases hrepeated
  · rintro ⟨_, ⟨ws, hne, hws, rfl⟩, hspans, rfl⟩
    induction ws generalizing p with
    | nil => exact absurd rfl hne
    | cons w ws ih =>
      obtain ⟨hw, hws⟩ := List.forall_mem_cons.mp hws
      rw [List.flatten_cons] at hspans
      obtain ⟨r, hspans, hspans'⟩ := spans_append.mp hspans
      have hturn := (h p s r s).mpr ⟨w, hw, hspans, rfl⟩
      by_cases hlast : ws = []
      · subst hlast
        obtain rfl := spans_nil.mp hspans'
        exact .plusOnce hturn
      · exact .plusNext hturn (ih r hlast hws hspans')

end Node

end Reroute.Regex
