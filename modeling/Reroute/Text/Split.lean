/-!
# Splitting and joining

A text is cut at every separator, so there is one part more than there are
separators, and parts may be empty. Joining puts the separators back.

## Main definitions

* `splitBy`, `joinWith` — cut at separators, and put together with one

## Main results

* `joinWith_splitBy` — a text cut at one character is put together again
* `splitBy_joinWith` — parts without separators are found again
-/

set_option autoImplicit false

namespace Reroute.Text

/-- The parts of a text between separators; there is always one. -/
def splitBy (isSeparator : Char → Bool) : List Char → List (List Char)
  | [] => [[]]
  | x :: rest =>
    if isSeparator x then [] :: splitBy isSeparator rest
    else
      match splitBy isSeparator rest with
      | [] => [[x]]
      | part :: parts => (x :: part) :: parts

/-- Texts with a separator between them. -/
def joinWith (separator : Char) : List (List Char) → List Char
  | [] => []
  | [part] => part
  | part :: next :: parts => part ++ separator :: joinWith separator (next :: parts)

theorem splitBy_ne_nil (isSeparator : Char → Bool) (text : List Char) :
    splitBy isSeparator text ≠ [] := by
  cases text with
  | nil => simp [splitBy]
  | cons x rest =>
    rw [splitBy]
    split
    · simp
    · split <;> simp

/-- Cutting depends on the characters that a text has. -/
theorem splitBy_congr {p q : Char → Bool} {text : List Char} (h : ∀ x ∈ text, p x = q x) :
    splitBy p text = splitBy q text := by
  induction text with
  | nil => rfl
  | cons x rest ih =>
    rw [splitBy, splitBy, h x List.mem_cons_self, ih fun y hy => h y (List.mem_cons_of_mem _ hy)]

/-- Parts hold no separators. -/
theorem forall_mem_splitBy {isSeparator : Char → Bool} {text : List Char} :
    ∀ part ∈ splitBy isSeparator text, ∀ x ∈ part, isSeparator x = false := by
  induction text with
  | nil => simp [splitBy]
  | cons y rest ih =>
    rw [splitBy]
    by_cases hy : isSeparator y
    · simpa [hy] using ih
    · cases hs : splitBy isSeparator rest with
      | nil => exact absurd hs (splitBy_ne_nil _ _)
      | cons part parts =>
        rw [hs] at ih
        simpa [hy] using ih

/-- The parts are what remains without the separators. -/
theorem flatten_splitBy (isSeparator : Char → Bool) (text : List Char) :
    (splitBy isSeparator text).flatten = text.filter (!isSeparator ·) := by
  induction text with
  | nil => rfl
  | cons y rest ih =>
    rw [splitBy, List.filter_cons]
    by_cases hy : isSeparator y
    · simp [hy, ih]
    · cases hs : splitBy isSeparator rest with
      | nil => exact absurd hs (splitBy_ne_nil _ _)
      | cons part parts =>
        rw [hs] at ih
        simp [hy, ← ih]

theorem joinWith_cons_cons (separator x : Char) (part : List Char) (parts : List (List Char)) :
    joinWith separator ((x :: part) :: parts) = x :: joinWith separator (part :: parts) := by
  cases parts <;> rfl

/-- Every part but the first stands behind a separator. -/
theorem joinWith_cons_eq (separator : Char) (part : List Char) (parts : List (List Char)) :
    joinWith separator (part :: parts) = part ++ parts.flatMap (separator :: ·) := by
  induction parts generalizing part with
  | nil => simp [joinWith]
  | cons next parts ih => simp [joinWith, ih]

/-- Every part but the last stands before a separator. -/
theorem joinWith_concat (separator : Char) (parts : List (List Char)) (part : List Char) :
    joinWith separator (parts ++ [part]) = parts.flatMap (· ++ [separator]) ++ part := by
  induction parts with
  | nil => rfl
  | cons first parts ih =>
    cases parts with
    | nil => simp [joinWith]
    | cons next parts =>
      simp only [List.cons_append, joinWith] at ih ⊢
      simp [ih]

theorem intercalate_eq_joinWith (separator : Char) (parts : List (List Char)) :
    [separator].intercalate parts = joinWith separator parts := by
  induction parts with
  | nil => rfl
  | cons part parts ih =>
    cases parts with
    | nil => simp [joinWith]
    | cons next parts => simpa [joinWith] using ih

theorem forall_mem_joinWith {separator : Char} {p : Char → Prop} (hseparator : p separator)
    {parts : List (List Char)} (h : ∀ part ∈ parts, ∀ x ∈ part, p x) :
    ∀ x ∈ joinWith separator parts, p x := by
  cases parts with
  | nil => simp [joinWith]
  | cons part parts =>
    rw [joinWith_cons_eq]
    simp only [List.mem_append, List.mem_flatMap, List.mem_cons]
    rintro x (hx | ⟨other, hother, rfl | hx⟩)
    · exact h part List.mem_cons_self x hx
    · exact hseparator
    · exact h other (List.mem_cons_of_mem _ hother) x hx

/-- A text that was cut at one character is put together again. -/
theorem joinWith_splitBy (separator : Char) (text : List Char) :
    joinWith separator (splitBy (· = separator) text) = text := by
  induction text with
  | nil => rfl
  | cons x rest ih =>
    rw [splitBy]
    cases h : splitBy (· = separator) rest with
    | nil => exact absurd h (splitBy_ne_nil _ _)
    | cons part parts =>
      rw [h] at ih
      by_cases hx : x = separator
      · simp [hx, joinWith, ih]
      · simp [hx, joinWith_cons_cons, ih]

/-- Nothing is cut where there is no separator. -/
theorem splitBy_append {isSeparator : Char → Bool} {part : List Char}
    (h : ∀ x ∈ part, isSeparator x = false) (text : List Char) :
    splitBy isSeparator (part ++ text) =
      (part ++ (splitBy isSeparator text).headD []) :: (splitBy isSeparator text).tail := by
  induction part with
  | nil =>
    cases hs : splitBy isSeparator text with
    | nil => exact absurd hs (splitBy_ne_nil _ _)
    | cons _ _ => simp [hs]
  | cons x part ih =>
    rw [List.cons_append, splitBy, ih fun y hy => h y (List.mem_cons_of_mem _ hy)]
    simp [h x List.mem_cons_self]

/-- A text without separators is one part. -/
theorem splitBy_eq_singleton {isSeparator : Char → Bool} {text : List Char}
    (h : ∀ x ∈ text, isSeparator x = false) : splitBy isSeparator text = [text] := by
  have := splitBy_append h []
  simpa [splitBy] using this

/-- Cutting what was joined cuts each part. -/
theorem splitBy_joinWith_eq_flatMap (separator : Char) {parts : List (List Char)}
    (hne : parts ≠ []) :
    splitBy (· = separator) (joinWith separator parts) =
      parts.flatMap (splitBy (· = separator)) := by
  induction parts with
  | nil => exact absurd rfl hne
  | cons part rest ih =>
    cases rest with
    | nil => simp [joinWith]
    | cons next rest =>
      rw [joinWith, List.flatMap_cons, ← ih (by simp)]
      generalize joinWith separator (next :: rest) = text
      clear hne ih
      induction part with
      | nil => simp [splitBy]
      | cons x part ih =>
        rw [List.cons_append, splitBy, splitBy, ih]
        cases hs : splitBy (· = separator) part with
        | nil => exact absurd hs (splitBy_ne_nil _ _)
        | cons first others => by_cases hx : x = separator <;> simp [hx]

/-- Parts that hold no separator are found again when a text is cut at it. -/
theorem splitBy_joinWith {separator : Char} {parts : List (List Char)} (hne : parts ≠ [])
    (h : ∀ part ∈ parts, separator ∉ part) :
    splitBy (· = separator) (joinWith separator parts) = parts := by
  have hsingle : ∀ part ∈ parts, splitBy (· = separator) part = [part] := by
    intro part hpart
    apply splitBy_eq_singleton
    intro x hx
    rw [decide_eq_false_iff_not]
    rintro rfl
    exact h part hpart hx
  rw [splitBy_joinWith_eq_flatMap separator hne, List.flatMap_def, List.map_congr_left hsingle,
    ← List.flatMap_def, List.flatMap_singleton']

end Reroute.Text
