import Reroute.Proofs.Text.Utf8
import Reroute.Url.Percent

/-!
# Encoded text

What a part of a URL must not have is encoded, and what stands for it may be there as it
is. So encoding is done once: it changes nothing in a text that is encoded.

## Main definitions

* `IsFreeOf` — text without characters of a set
* `SparesBytes` — sets that have no character of an encoded byte

## Main results

* `isFreeOf_percentEncode`, `percentEncode_of_isFreeOf` — encoded text is free of what is
  encoded, and such text stays as it is
* `utf8Decode_percentDecode` — text without percent signs stays as it is when it is decoded
* `percentDecode_flatMap_percentByte` — bytes are read as they were written
-/

set_option autoImplicit false

namespace Reroute.Url

open Text

/-! ### Characters of ASCII -/

/-- What holds of the first numbers holds of their characters. -/
theorem forall_toNat_lt {bound : Nat} {p : Char → Prop} (h : ∀ n < bound, p (Char.ofNat n))
    {x : Char} (hx : x.toNat < bound) : p x := by
  have := h x.toNat hx
  rwa [Char.ofNat_toNat] at this

theorem toNat_ofNat {n : Nat} (h : n.isValidChar) : (Char.ofNat n).toNat = n := by
  rw [Char.ofNat, dif_pos h]
  rfl

theorem toNat_lt_of_isAlphanum {x : Char} (h : x.isAlphanum) : x.toNat < 0x80 := by
  delta Char.isAlphanum Char.isAlpha Char.isUpper Char.isLower at h
  simp only [Char.isDigit, Bool.or_eq_true, Bool.and_eq_true, decide_eq_true_eq,
    UInt32.le_iff_toNat_le, ge_iff_le] at h
  have hupper : 'Z'.val.toNat < 0x80 := by decide
  have hlower : 'z'.val.toNat < 0x80 := by decide
  have hdigit : '9'.val.toNat < 0x80 := by decide
  rw [Char.toNat]
  omega

/-! ### Encoding -/

/-- A text has no character of a set. -/
def IsFreeOf (encoded : Char → Bool) (text : List Char) : Prop :=
  ∀ x ∈ text, encoded x = false

instance (encoded : Char → Bool) : DecidablePred (IsFreeOf encoded) :=
  fun text => decidable_of_iff (text.all fun x => !encoded x) (by simp [IsFreeOf])

section Encoding

variable {encoded : Char → Bool} {text other : List Char}

theorem IsFreeOf.append (h : IsFreeOf encoded text) (hother : IsFreeOf encoded other) :
    IsFreeOf encoded (text ++ other) := by
  intro x hx
  exact (List.mem_append.mp hx).elim (h x) (hother x)

@[simp] theorem percentEncode_nil : percentEncode encoded [] = [] := rfl

/-- Text without anything to encode stays as it is. -/
theorem percentEncode_of_isFreeOf (h : IsFreeOf encoded text) :
    percentEncode encoded text = text := by
  induction text with
  | nil => rfl
  | cons x rest ih =>
    have ih := ih fun y hy => h y (List.mem_cons_of_mem _ hy)
    rw [percentEncode] at ih ⊢
    rw [List.flatMap_cons, ih, h x List.mem_cons_self]
    rfl

/-- A set has neither the percent sign nor a digit of a byte. -/
structure SparesBytes (encoded : Char → Bool) : Prop where
  percent : encoded '%' = false
  digit : ∀ n < 16, encoded (upperHexDigit n) = false

/-- A byte is written without characters of such a set. -/
theorem isFreeOf_flatMap_percentByte (h : SparesBytes encoded) (bytes : List UInt8) :
    IsFreeOf encoded (bytes.flatMap percentByte) := by
  intro x hx
  obtain ⟨byte, -, hx⟩ := List.mem_flatMap.mp hx
  have hbyte := byte.toNat_lt
  rw [percentByte, List.mem_cons, List.mem_cons, List.mem_singleton] at hx
  rcases hx with rfl | rfl | rfl
  · exact h.percent
  · exact h.digit _ (by omega)
  · exact h.digit _ (by omega)

/-- Nothing of the set is left where all of it is encoded. -/
theorem isFreeOf_percentEncode (h : SparesBytes encoded) (text : List Char) :
    IsFreeOf encoded (percentEncode encoded text) := by
  intro x hx
  obtain ⟨y, -, hx⟩ := List.mem_flatMap.mp hx
  by_cases hy : encoded y
  · rw [if_pos hy] at hx
    exact isFreeOf_flatMap_percentByte h _ x hx
  · rw [if_neg hy, List.mem_singleton] at hx
    rw [hx]
    exact Bool.eq_false_iff.mpr hy

/-- What a text has not, it has not when it is encoded either. -/
theorem IsFreeOf.percentEncode {other : Char → Bool} (hother : SparesBytes other)
    (h : IsFreeOf other text) : IsFreeOf other (percentEncode encoded text) := by
  intro x hx
  obtain ⟨y, hy, hx⟩ := List.mem_flatMap.mp hx
  split at hx
  · exact isFreeOf_flatMap_percentByte hother _ x hx
  · rw [List.mem_singleton] at hx
    exact hx ▸ h y hy

end Encoding

/-! ### Decoding -/

/-- A character that is no percent sign stands for its own bytes. -/
theorem percentDecode_cons_of_ne {x : Char} (h : x ≠ '%') (rest : List Char) :
    percentDecode (x :: rest) = utf8Encode x ++ percentDecode rest := by
  rw [percentDecode]
  rintro a b rest' rfl
  exact absurd rfl h

theorem percentDecode_of_notMem {text : List Char} (h : '%' ∉ text) :
    percentDecode text = text.flatMap utf8Encode := by
  induction text with
  | nil => rfl
  | cons x rest ih =>
    rw [List.mem_cons, not_or] at h
    rw [percentDecode_cons_of_ne (Ne.symm h.1), ih h.2, List.flatMap_cons]

/-- A byte is read as it was written. -/
theorem percentDecode_percentByte_append (byte : UInt8) (rest : List Char) :
    percentDecode (percentByte byte ++ rest) = byte :: percentDecode rest := by
  have hbyte := byte.toNat_lt
  have hvalue : 16 * (byte.toNat / 16) + byte.toNat % 16 = byte.toNat := by omega
  rw [percentByte, List.cons_append, List.cons_append, List.singleton_append, percentDecode,
    hexValue?_upperHexDigit (by omega), hexValue?_upperHexDigit (by omega)]
  dsimp only
  rw [hvalue, UInt8.ofNat_toNat]

/-- Bytes are read as they were written. -/
theorem percentDecode_flatMap_percentByte (bytes : List UInt8) (rest : List Char) :
    percentDecode (bytes.flatMap percentByte ++ rest) = bytes ++ percentDecode rest := by
  induction bytes with
  | nil => rfl
  | cons byte bytes ih =>
    rw [List.flatMap_cons, List.append_assoc, percentDecode_percentByte_append, ih,
      List.cons_append]

/-- Text without percent signs stays as it is. -/
theorem utf8Decode_percentDecode {text : List Char} (h : '%' ∉ text) :
    utf8Decode (percentDecode text) = text := by
  rw [percentDecode_of_notMem h, utf8Decode_flatMap_utf8Encode]

/-! ### The sets -/

theorem sparesBytes_inFragmentSet : SparesBytes inFragmentSet :=
  ⟨by decide, by decide⟩

theorem sparesBytes_inQuerySet (special : Bool) : SparesBytes (inQuerySet special) := by
  cases special
  · exact ⟨by decide, by decide⟩
  · exact ⟨by decide, by decide⟩

theorem sparesBytes_inPathSet : SparesBytes inPathSet :=
  ⟨by decide, by decide⟩

theorem sparesBytes_inUserInfoSet : SparesBytes inUserInfoSet :=
  ⟨by decide, by decide⟩

section Sets

variable {x : Char}

/-- A blank and all characters before it are encoded everywhere but in opaque paths. -/
theorem lt_toNat_of_inControlSet (h : inControlSet x = false) (hx : x ≠ ' ') :
    0x20 < x.toNat := by
  have hne : x.toNat ≠ 0x20 := fun heq => hx (Char.toNat_inj.mp heq)
  rw [inControlSet, Bool.or_eq_false_iff, decide_eq_false_iff_not] at h
  omega

theorem lt_toNat_of_inFragmentSet (h : inFragmentSet x = false) : 0x20 < x.toNat := by
  rw [inFragmentSet, Bool.or_eq_false_iff] at h
  apply lt_toNat_of_inControlSet h.1
  rintro rfl
  exact absurd h.2 (by decide)

theorem lt_toNat_of_inPathSet (h : inPathSet x = false) : 0x20 < x.toNat := by
  rw [inPathSet, Bool.or_eq_false_iff] at h
  exact lt_toNat_of_inFragmentSet h.1

theorem lt_toNat_of_inUserInfoSet (h : inUserInfoSet x = false) : 0x20 < x.toNat := by
  rw [inUserInfoSet, Bool.or_eq_false_iff] at h
  exact lt_toNat_of_inPathSet h.1

theorem lt_toNat_of_inQuerySet {special : Bool} (h : inQuerySet special x = false) :
    0x20 < x.toNat := by
  rw [inQuerySet, Bool.or_eq_false_iff, Bool.or_eq_false_iff] at h
  apply lt_toNat_of_inControlSet h.1.1
  rintro rfl
  exact absurd h.1.2 (by decide)

end Sets

end Reroute.Url
