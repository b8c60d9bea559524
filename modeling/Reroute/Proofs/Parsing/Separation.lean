import Mathlib.Data.List.Basic
import Reroute.Proofs.Parsing.Reading

/-!
# Items with separators

A list with separators is an item and then, as often as possible, a separator with an
item behind it. The parser for such lists keeps the end of the last item instead, so
that a separator without an item is given back.

## Main results

* `Parser.reads_separatedBy` — a list with separators is one item and a repetition
-/

set_option autoImplicit false

namespace Reroute.Parsing.Parser

variable {α β : Type} {item : Parser α} {separator : Parser β} {c d : Cursor}

/-- The parser never ends before the place where it began, when that is no earlier
than `c`. -/
def StaysFrom (p : Parser α) (c : Cursor) : Prop :=
  ∀ d v e, d.left ≤ c.left → p.Reads d v e → e.left ≤ d.left

/-- The parser never succeeds without reading something. -/
def Consumes (p : Parser α) : Prop :=
  ∀ c v d, p.Reads c v d → d.left < c.left

/-- A separator and the item behind it. -/
abbrev behindSeparator (item : Parser α) (separator : Parser β) : Parser α := do
  let _ ← separator
  item

theorem separatedFrom_of_failsAt {committed : Cursor} (h : item.FailsAt c) :
    separatedFrom item separator committed c = ([], committed) := by
  obtain ⟨stop, error, hrun⟩ := failsAt_iff.mp h
  rw [separatedFrom, hrun]

/-- Behind its first item a list with separators is a repetition. The place that the
separator led back to is where the repetition is when its next turn fails. Neither parser has to
behave but at the places that it comes to, and those satisfy an invariant. -/
theorem separatedFrom_of_reads {I : Cursor → Prop}
    (hitem : ∀ c v d, I c → item.Reads c v d → I d ∧ d.left ≤ c.left)
    (hseparator : ∀ c w d, I c → separator.Reads c w d → I d ∧ d.left < c.left)
    (hc : I c) {v : α} (h : item.Reads c v d) (committed : Cursor) :
    separatedFrom item separator committed c =
      (v :: (manyFrom (behindSeparator item separator) d).1,
        (manyFrom (behindSeparator item separator) d).2) := by
  -- The induction is on what is left of the text, as each separator takes something away.
  induction hn : c.left using Nat.strongRecOn generalizing c d v committed with
  | ind n ih =>
    subst hn
    obtain ⟨hd, hdc⟩ := hitem c v d hc h
    rw [separatedFrom, show item.run c = .success v d from h, manyFrom, run_bind]
    dsimp only
    cases hsep : separator.run d with
    | failure stop error => rfl
    | success w e =>
      obtain ⟨he, hed⟩ := hseparator d w e hd hsep
      have hec : e.left < c.left := Nat.lt_of_lt_of_le hed hdc
      dsimp only
      rw [if_pos ⟨hed, hec⟩]
      cases hrun : item.run e with
      | failure stop error =>
        -- The separator is given back.
        rw [separatedFrom_of_failsAt (failsAt_iff.mpr ⟨stop, error, hrun⟩)]
      | success u f =>
        obtain ⟨-, hfe⟩ := hitem e u f he hrun
        rw [ih _ hec he hrun d rfl]
        dsimp only
        rw [if_pos (Nat.lt_of_le_of_lt hfe hed)]

/-- A list with separators is empty where no item begins; else it is one item and, as
often as possible, a separator with an item behind it. -/
theorem reads_separatedBy (hitem : item.StaysFrom c) (hseparator : separator.Consumes)
    {vs : List α} :
    (separatedBy item separator).Reads c vs d ↔
      (vs = [] ∧ c = d ∧ item.FailsAt c) ∨
        ∃ v ws e, vs = v :: ws ∧ item.Reads c v e ∧
          Repeats (behindSeparator item separator) e ws d := by
  have hreads : (separatedBy item separator).Reads c vs d ↔
      separatedFrom item separator c c = (vs, d) := by
    simp [Reads, separatedBy, Prod.ext_iff]
  rw [hreads]
  by_cases hfail : item.FailsAt c
  · rw [separatedFrom_of_failsAt hfail]
    constructor
    · intro h
      obtain ⟨rfl, rfl⟩ := Prod.ext_iff.mp h
      exact .inl ⟨rfl, rfl, hfail⟩
    · rintro (⟨rfl, rfl, -⟩ | ⟨v, ws, e, -, read, -⟩)
      · rfl
      · exact absurd read (hfail v e)
  · obtain ⟨v, e, read⟩ : ∃ v e, item.Reads c v e := by
      simpa [FailsAt] using hfail
    rw [separatedFrom_of_reads (I := fun d => d.left ≤ c.left)
      (fun d v e hd read => ⟨Nat.le_trans (hitem d v e hd read) hd, hitem d v e hd read⟩)
      (fun d w e hd read => ⟨Nat.le_trans (Nat.le_of_lt (hseparator d w e read)) hd,
        hseparator d w e read⟩) (Nat.le_refl _) read]
    constructor
    · intro h
      obtain ⟨rfl, rfl⟩ := Prod.ext_iff.mp h
      exact .inr ⟨v, _, e, rfl, read, repeats_manyFrom _ e⟩
    · rintro (⟨-, -, hfails⟩ | ⟨w, ws, f, rfl, read', hrepeats⟩)
      · exact absurd hfails hfail
      -- Behind the first item the loop is that of `many`, which has one result.
      · obtain ⟨rfl, rfl⟩ := read.unique read'
        rw [← manyFrom_eq_iff] at hrepeats
        rw [hrepeats]

end Reroute.Parsing.Parser
