import Mathlib.Data.List.Basic
import Reroute.Proofs.Url.Percent
import Reroute.Url.Form

/-!
# Forms are read as they were written

Whatever names and values are listed in a query, the query lists these and nothing else. For
what separates names, values and pairs is encoded where it belongs to a name or a value.

## Main definitions

* `Form.encodeChar` — a character of a name or value in form encoding
* `Form.SparesForm` — sets that have no character of an encoded name or value

## Main results

* `Form.isFreeOf_serialize` — a form has nothing that is encoded in a query
* `Form.decode_encode` — a name or value is read as it was written
* `Form.parse_serialize` — so are all names and values of a form
-/

set_option autoImplicit false

namespace Reroute.Url.Form

open Text

/-! ### Encoded names and values -/

/-- A character of a name or value in form encoding. -/
def encodeChar (x : Char) : List Char :=
  if isPlain x then [x]
  else if x = ' ' then ['+']
  else (utf8Encode x).flatMap percentByte

theorem encode_eq (text : String) : encode text = text.toList.flatMap encodeChar := rfl

/-- A set has no character that a form writes in a name or value. -/
structure SparesForm (set : Char → Bool) : Prop extends SparesBytes set where
  plus : set '+' = false
  plain : ∀ x, isPlain x → set x = false

variable {set : Char → Bool}

/-- A name or value in form encoding has nothing of such a set. -/
theorem isFreeOf_encode (h : SparesForm set) (text : String) : IsFreeOf set (encode text) := by
  intro x hx
  obtain ⟨y, -, hx⟩ := List.mem_flatMap.mp hx
  by_cases hy : isPlain y
  · rw [if_pos hy, List.mem_singleton] at hx
    exact hx ▸ h.plain y hy
  · rw [if_neg hy] at hx
    by_cases hblank : y = ' '
    · rw [if_pos hblank, List.mem_singleton] at hx
      exact hx ▸ h.plus
    · rw [if_neg hblank] at hx
      exact isFreeOf_flatMap_percentByte h.toSparesBytes _ x hx

theorem toNat_lt_of_isPlain {x : Char} (h : isPlain x) : x.toNat < 0x80 := by
  simp only [isPlain, Bool.or_eq_true, decide_eq_true_eq] at h
  rcases h with (((h | rfl) | rfl) | rfl) | rfl
  · exact toNat_lt_of_isAlphanum h
  all_goals decide

/-- What a form writes as it is stands in a query as it is. -/
theorem sparesForm_inQuerySet (special : Bool) : SparesForm (inQuerySet special) := by
  refine ⟨sparesBytes_inQuerySet special, ?_, fun x hx => ?_⟩
  · cases special <;> decide
  · refine forall_toNat_lt (p := fun x => isPlain x → inQuerySet special x = false) ?_
      (toNat_lt_of_isPlain hx) hx
    cases special <;> decide

/-- A sign that no byte and no plain character is written with. -/
theorem sparesForm_beq {sign : Char} (hbytes : SparesBytes (· == sign)) (hplus : '+' ≠ sign)
    (hplain : isPlain sign = false) : SparesForm (· == sign) := by
  refine ⟨hbytes, beq_eq_false_iff_ne.mpr hplus, fun x hx => beq_eq_false_iff_ne.mpr ?_⟩
  rintro rfl
  rw [hplain] at hx
  cases hx

theorem sparesForm_ampersand : SparesForm (· == '&') :=
  sparesForm_beq ⟨by decide, by decide⟩ (by decide) (by decide)

theorem sparesForm_equals : SparesForm (· == '=') :=
  sparesForm_beq ⟨by decide, by decide⟩ (by decide) (by decide)

theorem notMem_encode {sign : Char} (h : SparesForm (· == sign)) (text : String) :
    sign ∉ encode text := by
  intro hmem
  have hfree : (sign == sign) = false := isFreeOf_encode h text sign hmem
  rw [beq_self_eq_true] at hfree
  cases hfree

/-- A pair has nothing of a set that neither its parts nor the sign between them belong to. -/
theorem isFreeOf_writePair (h : SparesForm set) (hequals : set '=' = false)
    (pair : String × String) : IsFreeOf set (writePair pair) := by
  have hsign : IsFreeOf set ['='] := List.forall_mem_singleton.mpr hequals
  exact (isFreeOf_encode h pair.1).append (hsign.append (isFreeOf_encode h pair.2))

/-- The query of a form has nothing that is encoded in a query. -/
theorem isFreeOf_serialize (special : Bool) (pairs : List (String × String)) :
    IsFreeOf (inQuerySet special) (serialize pairs).toList := by
  rw [serialize, String.toList_ofList]
  apply forall_mem_joinWith
  · cases special <;> decide
  intro part hpart
  obtain ⟨pair, -, rfl⟩ := List.mem_map.mp hpart
  exact isFreeOf_writePair (sparesForm_inQuerySet special) (by cases special <;> decide) pair

/-! ### Decoding -/

/-- A blank where a form has a plus sign. -/
def unplus (x : Char) : Char :=
  if x = '+' then ' ' else x

/-- The bytes of a text have no plus sign, so they stay as they are. -/
theorem map_unplus_flatMap_percentByte (bytes : List UInt8) :
    (bytes.flatMap percentByte).map unplus = bytes.flatMap percentByte := by
  have hplus : SparesBytes (· == '+') := ⟨by decide, by decide⟩
  have hkeep : ∀ x ∈ bytes.flatMap percentByte, unplus x = x := by
    intro x hx
    exact if_neg (beq_eq_false_iff_ne.mp (isFreeOf_flatMap_percentByte hplus bytes x hx))
  rw [List.map_congr_left hkeep, List.map_id']

/-- A character is read as it was written. A plus sign of its own was encoded, so none is taken
for a blank. -/
theorem percentDecode_encodeChar_append (x : Char) (rest : List Char) :
    percentDecode ((encodeChar x).map unplus ++ rest) = utf8Encode x ++ percentDecode rest := by
  rw [encodeChar]
  split
  case isTrue hplain =>
    have hplus : x ≠ '+' := by
      rintro rfl
      cases hplain
    have hpercent : x ≠ '%' := by
      rintro rfl
      cases hplain
    rw [List.map_singleton, List.singleton_append, unplus, if_neg hplus,
      percentDecode_cons_of_ne hpercent]
  case isFalse hplain =>
    split
    case isTrue hblank =>
      rw [hblank, List.map_singleton, List.singleton_append, unplus, if_pos rfl,
        percentDecode_cons_of_ne (by decide)]
    case isFalse hblank =>
      rw [map_unplus_flatMap_percentByte, percentDecode_flatMap_percentByte]

theorem percentDecode_flatMap_encodeChar (text : List Char) :
    percentDecode ((text.flatMap encodeChar).map unplus) = text.flatMap utf8Encode := by
  induction text with
  | nil => rfl
  | cons x rest ih =>
    rw [List.flatMap_cons, List.map_append, percentDecode_encodeChar_append, ih,
      List.flatMap_cons]

/-- A name or value is read as it was written, whatever characters it has. -/
theorem decode_encode (text : String) : decode (encode text) = text := by
  have hdecode (text : List Char) :
      decode text = String.ofList (utf8Decode (percentDecode (text.map unplus))) := rfl
  rw [hdecode, encode_eq, percentDecode_flatMap_encodeChar, utf8Decode_flatMap_utf8Encode,
    String.ofList_toList]

/-! ### Pairs -/

/-- A name ends at the first equals sign, as those that it has are encoded. -/
theorem readPair_writePair (pair : String × String) : readPair (writePair pair) = pair := by
  have hname : ∀ x ∈ encode pair.1, (x != '=') = true := by
    intro x hx
    rw [bne_iff_ne]
    rintro rfl
    exact notMem_encode sparesForm_equals pair.1 hx
  rw [readPair, writePair, List.takeWhile_append_of_pos hname, List.dropWhile_append_of_pos hname]
  simp [decode_encode]

/-- The names and values of a form are read as they were written. -/
theorem parse_serialize (pairs : List (String × String)) : parse (serialize pairs) = pairs := by
  rw [parse, serialize, String.toList_ofList]
  by_cases hpairs : pairs = []
  · subst hpairs
    rfl
  have hfree : ∀ part ∈ pairs.map writePair, '&' ∉ part := by
    intro part hpart hmem
    obtain ⟨pair, -, rfl⟩ := List.mem_map.mp hpart
    have := isFreeOf_writePair sparesForm_ampersand (by decide) pair '&' hmem
    cases this
  -- Every pair has an equals sign, so none of them is dropped for being empty.
  rw [splitBy_joinWith (by simpa using hpairs) hfree, List.filter_eq_self.mpr, List.map_map]
  · have hpair : readPair ∘ writePair = id := funext readPair_writePair
    rw [hpair, List.map_id]
  · intro part hpart
    obtain ⟨pair, -, rfl⟩ := List.mem_map.mp hpart
    simp [writePair]

end Reroute.Url.Form
