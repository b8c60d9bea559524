import Reroute.Proofs.Url.Domain
import Reroute.Url.Parse

/-!
# Hosts in an authority

A host is written so that it is found again where it stands: nothing in it ends the
authority, separates a user from it, or begins the number behind it.

## Main definitions

* `Host.IsFound` — text that is found again as the host of an authority

## Main results

* `Host.isFound_print` — a host that was read is written as such text
-/

set_option autoImplicit false

namespace Reroute.Url

open Text

/-! ### Digits -/

/-- Digits have values less than the base. -/
theorem exists_of_mem_toDigits {base n : Nat} (hbase : 1 < base) {x : Char}
    (hx : x ∈ Nat.toDigits base n) : ∃ d < base, x = Nat.digitChar d := by
  induction n using Nat.strongRecOn with
  | _ n ih =>
    by_cases hn : n < base
    · rw [Nat.toDigits_of_lt_base hn, List.mem_singleton] at hx
      exact ⟨n, hn, hx⟩
    · rw [Nat.toDigits_of_base_le hbase (by omega), List.mem_append, List.mem_singleton] at hx
      rcases hx with hx | rfl
      · exact ih (n / base) (Nat.div_lt_self (by omega) hbase) hx
      · exact ⟨n % base, Nat.mod_lt _ (by omega), rfl⟩

theorem notMem_toDigits {base : Nat} (hbase : 1 < base) {x : Char}
    (h : ∀ d < base, x ≠ Nat.digitChar d) (n : Nat) : x ∉ Nat.toDigits base n := by
  intro hx
  obtain ⟨d, hd, rfl⟩ := exists_of_mem_toDigits hbase hx
  exact h d hd rfl

namespace Host

/-- The bytes of an address of 32 bits, the most significant one first. -/
def bytes (address : Nat) : List Nat :=
  [3, 2, 1, 0].map fun i => address >>> (8 * i) % 256

theorem toList_printIPv4 (address : Nat) :
    (printIPv4 address).toList = joinWith '.' ((bytes address).map (Nat.toDigits 10)) := by
  rw [printIPv4, String.toList_intercalate, List.map_map, bytes, List.map_map,
    ← intercalate_eq_joinWith]
  simp

theorem toList_printGroups (groups : List Nat) :
    (printGroups groups).toList = joinWith ':' (groups.map (Nat.toDigits 16)) := by
  rw [printGroups, String.toList_intercalate, List.map_map, ← intercalate_eq_joinWith]
  simp [Function.comp_def, lowerHex]

/-! ### What is found again -/

/-- A text is found again as the host of an authority, whatever user and number stand before
and behind it. -/
structure IsFound (text : List Char) : Prop where
  ne_nil : text ≠ []
  lt_toNat : ∀ x ∈ text, 0x20 < x.toNat
  endsAuthority : IsFreeOf (endsAuthority true) text
  notMem : '@' ∉ text
  splitHost : ∀ rest, rest = [] ∨ rest.head? = some ':' →
    splitHost false (text ++ rest) = (text, rest)

section Found

variable {text rest : List Char}

theorem splitHost_eq_nil (h : rest = [] ∨ rest.head? = some ':') :
    Url.splitHost false rest = ([], rest) := by
  cases rest with
  | nil => rfl
  | cons x rest =>
    obtain rfl : x = ':' := by simpa using h
    rfl

/-- What no domain may have tells hosts from what stands around them. -/
theorem IsFound.of_isForbidden (hne : text ≠ []) (h : IsFreeOf Domain.isForbidden text) :
    IsFound text := by
  have hset : ∀ x ∈ text, 0x20 < x.toNat ∧ Url.endsAuthority true x = false ∧ x ≠ '@' ∧
      x ≠ ':' ∧ x ≠ '[' := by
    intro x hx
    have hx := h x hx
    simp only [Domain.isForbidden, Bool.or_eq_false_iff, decide_eq_false_iff_not, Nat.not_le,
      List.contains_eq_mem, List.mem_cons, List.not_mem_nil, or_false, not_or] at hx
    simp [Url.endsAuthority, isSeparator, hx]
  refine ⟨hne, fun x hx => (hset x hx).1, fun x hx => (hset x hx).2.1,
    fun hmem => (hset _ hmem).2.2.1 rfl, fun rest hrest => ?_⟩
  clear h hne
  induction text with
  | nil => exact splitHost_eq_nil hrest
  | cons x text ih =>
    obtain ⟨hx, htext⟩ := List.forall_mem_cons.mp hset
    obtain ⟨-, -, -, hcolon, hbracket⟩ := hx
    rw [List.cons_append, Url.splitHost]
    simp [hcolon, hbracket, ih htext]

/-- Within brackets nothing but the closing one ends the host. -/
theorem splitHost_true (h : ']' ∉ text) (hrest : rest = [] ∨ rest.head? = some ':') :
    Url.splitHost true (text ++ ']' :: rest) = (text ++ [']'], rest) := by
  induction text with
  | nil =>
    rw [List.nil_append, Url.splitHost]
    simp [splitHost_eq_nil hrest]
  | cons x text ih =>
    rw [List.mem_cons, not_or] at h
    have hx : (x != ']') = true := bne_iff_ne.mpr fun heq => h.1 heq.symm
    rw [List.cons_append, Url.splitHost, hx]
    simp [ih h.2]

/-- Brackets keep the colons of an address together. -/
theorem IsFound.brackets (h : ∀ x ∈ text, x = ':' ∨ ∃ d < 16, x = Nat.digitChar d) :
    IsFound ('[' :: (text ++ [']'])) := by
  have hinner : ∀ x ∈ text, 0x20 < x.toNat ∧ Url.endsAuthority true x = false ∧ x ≠ '@' ∧
      x ≠ ']' := by
    have hdigit : ∀ d < 16, 0x20 < (Nat.digitChar d).toNat ∧
        Url.endsAuthority true (Nat.digitChar d) = false ∧ Nat.digitChar d ≠ '@' ∧
        Nat.digitChar d ≠ ']' := by
      decide
    intro x hx
    rcases h x hx with rfl | ⟨d, hd, rfl⟩
    · decide
    · exact hdigit d hd
  have hset : ∀ x ∈ '[' :: (text ++ [']']), 0x20 < x.toNat ∧ Url.endsAuthority true x = false ∧
      x ≠ '@' := by
    rw [List.forall_mem_cons, List.forall_mem_append, List.forall_mem_singleton]
    exact ⟨by decide, fun x hx => ⟨(hinner x hx).1, (hinner x hx).2.1, (hinner x hx).2.2.1⟩,
      by decide⟩
  refine ⟨by simp, fun x hx => (hset x hx).1, fun x hx => (hset x hx).2.1,
    fun hmem => (hset _ hmem).2.2 rfl, fun rest hrest => ?_⟩
  have hnot : ']' ∉ text := fun hmem => (hinner _ hmem).2.2.2 rfl
  have hsplit := splitHost_true hnot hrest
  rw [List.cons_append, List.append_assoc, List.singleton_append, Url.splitHost]
  simp [hsplit]

end Found

/-- Bytes are written with digits and dots. -/
theorem forall_mem_printIPv4 (address : Nat) :
    ∀ x ∈ (printIPv4 address).toList, x = '.' ∨ ∃ d < 10, x = Nat.digitChar d := by
  rw [toList_printIPv4]
  refine forall_mem_joinWith (p := fun x => x = '.' ∨ ∃ d < 10, x = Nat.digitChar d) (.inl rfl) ?_
  intro part hpart x hx
  obtain ⟨n, -, rfl⟩ := List.mem_map.mp hpart
  exact .inr (exists_of_mem_toDigits (by decide) hx)

theorem isForbidden_printIPv4 (address : Nat) :
    IsFreeOf Domain.isForbidden (printIPv4 address).toList := by
  have hdigit : ∀ d < 10, Domain.isForbidden (Nat.digitChar d) = false := by decide
  intro x hx
  rcases forall_mem_printIPv4 address x hx with rfl | ⟨d, hd, rfl⟩
  · rfl
  · exact hdigit d hd

theorem isFound_printIPv4 (address : Nat) : IsFound (printIPv4 address).toList := by
  apply IsFound.of_isForbidden _ (isForbidden_printIPv4 address)
  rw [toList_printIPv4]
  simp [bytes, joinWith]

/-- Groups are written with digits and colons. -/
theorem forall_mem_printGroups (groups : List Nat) :
    ∀ x ∈ (printGroups groups).toList, x = ':' ∨ ∃ d < 16, x = Nat.digitChar d := by
  rw [toList_printGroups]
  refine forall_mem_joinWith (p := fun x => x = ':' ∨ ∃ d < 16, x = Nat.digitChar d) (.inl rfl) ?_
  intro part hpart x hx
  obtain ⟨group, -, rfl⟩ := List.mem_map.mp hpart
  exact .inr (exists_of_mem_toDigits (by decide) hx)

theorem isFound_printIPv6 (groups : List Nat) : IsFound (print (.ipv6 groups)).toList := by
  have hset : ∀ x ∈ (printIPv6 groups).toList, x = ':' ∨ ∃ d < 16, x = Nat.digitChar d := by
    unfold printIPv6
    dsimp only
    split
    · exact forall_mem_printGroups groups
    · rw [String.toList_append, String.toList_append, List.forall_mem_append,
        List.forall_mem_append]
      exact ⟨⟨forall_mem_printGroups _, by simp⟩, forall_mem_printGroups _⟩
  rw [print, String.toList_append, String.toList_append]
  exact .brackets hset

/-! ### Hosts that were read -/

theorem eq_of_parseBracketed {text : List Char} {host : Host}
    (h : parseBracketed text = .ok host) :
    ∃ inner groups, ipv6? inner = some groups ∧ host = .ipv6 groups := by
  rw [parseBracketed] at h
  split at h
  · split at h
    · rename_i groups hgroups
      exact ⟨_, groups, hgroups, (Except.ok.inj h).symm⟩
    · cases h
  · cases h

/-- A host is an address in brackets, or comes from a name in ASCII. -/
theorem eq_of_parse {text : List Char} {host : Host} (h : parse text = .ok host) :
    (∃ inner groups, ipv6? inner = some groups ∧ host = .ipv6 groups) ∨
      ∃ name domain, Domain.toAscii? name = some domain ∧ domain ≠ [] ∧
        ((∃ address, ipv4? domain = some address ∧ host = .ipv4 address) ∨
          (endsInNumber domain = false ∧ host = .name (String.ofList domain))) := by
  unfold parse at h
  split at h
  · exact .inl (eq_of_parseBracketed h)
  · split at h
    · cases h
    · rename_i domain hdomain
      split at h
      · cases h
      · rename_i hne
        refine .inr ⟨_, domain, hdomain, by simpa using hne, ?_⟩
        split at h
        · split at h
          · rename_i address haddress
            exact .inl ⟨address, haddress, (Except.ok.inj h).symm⟩
          · cases h
        · rename_i hnumber
          exact .inr ⟨Bool.eq_false_iff.mpr hnumber, (Except.ok.inj h).symm⟩

/-- A host that was read is written so that it is found again. -/
theorem isFound_print {text : List Char} {host : Host} (h : parse text = .ok host) :
    IsFound host.print.toList := by
  rcases eq_of_parse h with ⟨inner, groups, -, rfl⟩ |
    ⟨name, domain, hdomain, hne, ⟨address, -, rfl⟩ | ⟨-, rfl⟩⟩
  · exact isFound_printIPv6 groups
  · exact isFound_printIPv4 address
  · rw [print, String.toList_ofList]
    exact .of_isForbidden hne (Domain.isFreeOf_of_toAscii hdomain)

theorem isEmpty_of_print {host : Host} (h : host.print.toList ≠ []) : host.isEmpty = false := by
  cases host with
  | name text =>
    have hne : text ≠ "" := by simpa [print] using h
    simpa [isEmpty] using hne
  | ipv4 address => rfl
  | ipv6 groups => rfl

theorem isEmpty_of_parse {text : List Char} {host : Host} (h : parse text = .ok host) :
    host.isEmpty = false :=
  isEmpty_of_print (isFound_print h).ne_nil

/-- Text without forbidden characters is read as the name that it is in ASCII. -/
theorem parse_of_isForbidden {text : List Char} (h : IsFreeOf Domain.isForbidden text) :
    parse text =
      match Domain.toAscii? text with
      | none => .error .invalidDomain
      | some domain =>
        if domain.isEmpty then .error .emptyHost
        else if endsInNumber domain then
          match ipv4? domain with
          | some address => .ok (.ipv4 address)
          | none => .error .invalidIPv4
        else
          .ok (.name (String.ofList domain)) := by
  have hdecode : utf8Decode (percentDecode text) = text :=
    utf8Decode_percentDecode fun hmem => absurd (h _ hmem) (by decide)
  unfold parse
  split
  · exact absurd (h '[' List.mem_cons_self) (by decide)
  · generalize utf8Decode (percentDecode text) = decoded at hdecode
    subst hdecode
    rfl

end Host

end Reroute.Url
