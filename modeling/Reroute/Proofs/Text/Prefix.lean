import Mathlib.Data.List.TakeWhile

/-!
# Beginnings of texts

The longest beginning of a text in which all characters pass a test ends at the first one that
does not. What stands behind that one does not matter.

## Main results

* `Text.takeWhile_append_of_head?` — the beginning is not made longer by text that begins with
  a character that fails the test
* `Text.dropWhile_append_of_cons` — if something is left, text may be put behind it
-/

set_option autoImplicit false

namespace Reroute.Text

variable {p : Char → Bool} {x : Char} {text rest : List Char}

theorem takeWhile_append_of_head? (hrest : ∀ x ∈ rest.head?, p x = false) :
    (text ++ rest).takeWhile p = text.takeWhile p := by
  induction text with
  | nil =>
    cases rest with
    | nil => rfl
    | cons x rest => simp [hrest x rfl]
  | cons x text ih => rw [List.cons_append, List.takeWhile_cons, List.takeWhile_cons, ih]

theorem takeWhile_append_cons_of_neg (hx : p x = false) :
    (text ++ x :: rest).takeWhile p = text.takeWhile p :=
  takeWhile_append_of_head? (by simpa using hx)

theorem takeWhile_append_of_all (htext : ∀ x ∈ text, p x)
    (hrest : ∀ x ∈ rest.head?, p x = false) : (text ++ rest).takeWhile p = text := by
  rw [takeWhile_append_of_head? hrest, List.takeWhile_eq_self_iff.mpr htext]

theorem dropWhile_append_of_cons {t : List Char} (h : text.dropWhile p = x :: rest) :
    (text ++ t).dropWhile p = x :: (rest ++ t) ∧ (text ++ t).takeWhile p = text.takeWhile p := by
  induction text with
  | nil => cases h
  | cons y text ih =>
    rw [List.cons_append, List.dropWhile_cons, List.takeWhile_cons, List.takeWhile_cons]
    rw [List.dropWhile_cons] at h
    split_ifs at h ⊢ with hy
    · exact ⟨(ih h).1, by rw [(ih h).2]⟩
    · cases h
      exact ⟨rfl, rfl⟩

end Reroute.Text
