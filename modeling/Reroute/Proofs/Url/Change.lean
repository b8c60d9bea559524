import Reroute.Proofs.Url.Roundtrip

/-!
# URLs that are changed

Changing the path or the query of a URL of the web, or taking its fragment away, leaves its
scheme and its authority as they are, and its parts are still found again.

## Main definitions

* `Url.Arises` — URLs that are read, or come from such by changing them

## Main results

* `Url.IsSettled.setPath`, `Url.IsSettled.setQuery`, `Url.IsSettled.dropFragment` — the parts of
  a changed URL are found again
* `Url.Arises.isSettled` — so are those of every URL of the web that arises
-/

set_option autoImplicit false

namespace Reroute.Url

variable {u : Url}

/-! ### Schemes -/

theorem scheme_setPath (u : Url) (text : String) : (u.setPath text).scheme = u.scheme := by
  rw [setPath]
  split <;> rfl

theorem scheme_setQuery (u : Url) (query : Option String) :
    (u.setQuery query).scheme = u.scheme :=
  rfl

theorem scheme_dropFragment (u : Url) : u.dropFragment.scheme = u.scheme := by
  rw [dropFragment]
  split <;> rfl

/-! ### URLs of the web -/

namespace IsSettled

/-- A URL of the web has a path of segments. -/
theorem isOpaque (h : u.IsSettled) : u.isOpaque = false := by
  obtain ⟨a, ha, -⟩ := h.authority
  simp [Url.isOpaque, printAuthority, ha]

/-- The path of a URL of the web leads from the first slash on. -/
theorem setPath_eq (h : u.IsSettled) (text : String) :
    u.setPath text = { u with path := (readPath u.scheme true text.toList).1 } := by
  obtain ⟨a, ha, hsettled⟩ := h.authority
  have hhost : a.host.isEmpty = false := Host.isEmpty_of_print hsettled.isFound_host.ne_nil
  rw [Url.setPath, h.isOpaque, ha]
  simp [hhost]

theorem dropFragment_eq (h : u.IsSettled) : u.dropFragment = { u with fragment := none } := by
  rw [Url.dropFragment, h.isOpaque]
  rfl

theorem setPath (h : u.IsSettled) (text : String) : (u.setPath text).IsSettled := by
  rw [h.setPath_eq]
  exact { h with path := isSettledPath_readPath h.scheme.isSpecial h.scheme.ne_file _ }

theorem setQuery (h : u.IsSettled) (query : Option String) : (u.setQuery query).IsSettled := by
  refine { h with query := fun text htext => ?_ }
  obtain ⟨query, -, rfl⟩ := Option.map_eq_some_iff.mp htext
  rw [String.toList_ofList, h.scheme.isSpecial]
  exact isFreeOf_percentEncode (sparesBytes_inQuerySet true) _

theorem dropFragment (h : u.IsSettled) : u.dropFragment.IsSettled := by
  rw [h.dropFragment_eq]
  refine { h with fragment := ?_ }
  rintro _ ⟨⟩

end IsSettled

/-! ### Changing them again and again -/

/-- URLs that are read, and what becomes of them as their parts are changed. -/
inductive Arises : Url → Prop
  | read {text : String} {u : Url} (h : parse text = .ok u) : Arises u
  | setPath {u : Url} (h : Arises u) (text : String) : Arises (u.setPath text)
  | setQuery {u : Url} (h : Arises u) (query : Option String) : Arises (u.setQuery query)
  | dropFragment {u : Url} (h : Arises u) : Arises u.dropFragment

/-- However often it is changed, the parts of a URL of the web are found again. -/
theorem Arises.isSettled (h : u.Arises) (hweb : IsWeb u.scheme) : u.IsSettled := by
  induction h with
  | read h => exact isSettled_of_parse h hweb
  | setPath h text ih =>
    rw [scheme_setPath] at hweb
    exact (ih hweb).setPath text
  | setQuery h query ih =>
    rw [scheme_setQuery] at hweb
    exact (ih hweb).setQuery query
  | dropFragment h ih =>
    rw [scheme_dropFragment] at hweb
    exact (ih hweb).dropFragment

end Reroute.Url
