import Mathlib.Algebra.Group.Nat.Defs
import Reroute.Proofs.Url.Folding
import Reroute.Proofs.Url.Host

/-!
# Hosts that are read again

The text of an address is read as this address, and so is a name without labels beyond
ASCII. The longest run of zeros that is left out of an address is filled in again.

## Main definitions

* `Host.IsPlain` — addresses, and names without labels beyond ASCII

## Main results

* `Host.ipv4_printIPv4`, `Host.ipv6_printIPv6` — addresses are read again
* `Host.parse_print_of_isPlain` — so is every plain host that was read
-/

set_option autoImplicit false

namespace Reroute.Url.Host

open Text

/-! ### Addresses of four bytes -/

/-- The parts of an address fill 32 bits. -/
theorem lt_of_parts {first : List Nat} {last : Nat} (hlength : first.length ≤ 3)
    (hlast : last < 1 <<< (8 * (4 - first.length))) (hfirst : ∀ n ∈ first, n ≤ 255) :
    first.zipIdx.foldl (fun sum (n, i) => sum + n <<< (8 * (3 - i))) last < 0x100000000 := by
  rcases first with _ | ⟨a, _ | ⟨b, _ | ⟨c, _ | ⟨d, rest⟩⟩⟩⟩
  · exact hlast
  · change last < 0x1000000 at hlast
    change last + a <<< 24 < 0x100000000
    simp only [List.forall_mem_cons] at hfirst
    omega
  · change last < 0x10000 at hlast
    change last + a <<< 24 + b <<< 16 < 0x100000000
    simp only [List.forall_mem_cons] at hfirst
    omega
  · change last < 0x100 at hlast
    change last + a <<< 24 + b <<< 16 + c <<< 8 < 0x100000000
    simp only [List.forall_mem_cons] at hfirst
    omega
  · simp only [List.length_cons] at hlength
    omega

theorem lt_of_ipv4OfParts {parts : List Nat} {address : Nat}
    (h : ipv4OfParts? parts = some address) : address < 0x100000000 := by
  rw [ipv4OfParts?] at h
  split at h
  · cases h
  · dsimp only at h
    split at h
    · cases h
    · rename_i hbounds
      obtain rfl := Option.some.inj h
      simp only [not_or, Nat.not_lt, Nat.not_le, Bool.not_eq_true, List.any_eq_false,
        decide_eq_false_iff_not] at hbounds
      exact lt_of_parts hbounds.1 hbounds.2.1 fun n hn => by simpa using hbounds.2.2 n hn

/-- The bytes of an address stand for this address. -/
theorem ipv4OfParts_bytes {address : Nat} (h : address < 0x100000000) :
    ipv4OfParts? (bytes address) = some address := by
  simp [bytes, ipv4OfParts?, Nat.shiftRight_eq_div_pow, Nat.shiftLeft_eq]
  omega

theorem splitBy_printIPv4 (address : Nat) :
    splitBy (· = '.') (printIPv4 address).toList = (bytes address).map (Nat.toDigits 10) := by
  rw [toList_printIPv4]
  apply splitBy_joinWith (by simp [bytes])
  intro part hpart
  obtain ⟨n, -, rfl⟩ := List.mem_map.mp hpart
  exact notMem_toDigits (by decide) (by decide) n

theorem labels_printIPv4 (address : Nat) :
    labels (printIPv4 address).toList = (bytes address).map (Nat.toDigits 10) := by
  rw [labels, splitBy_printIPv4]
  simp [bytes, Nat.toDigits_ne_nil]

theorem endsInNumber_printIPv4 (address : Nat) :
    endsInNumber (printIPv4 address).toList = true := by
  have hdigits : (Nat.toDigits 10 (address % 256)).all Char.isDigit = true := by
    rw [List.all_eq_true]
    exact fun x hx => Nat.isDigit_of_mem_toDigits (by decide) (by decide) hx
  rw [endsInNumber, labels_printIPv4]
  simp only [bytes, List.map_cons, List.map_nil, Nat.mul_zero, Nat.shiftRight_zero]
  simp [hdigits, Nat.toDigits_ne_nil]

/-- An address of four bytes is read again. -/
theorem ipv4_printIPv4 {address : Nat} (h : address < 0x100000000) :
    ipv4? (printIPv4 address).toList = some address := by
  have hnumber : ∀ n < 256, ipv4Number? (Nat.toDigits 10 n) = some n := by decide +kernel
  have hnumbers : ((bytes address).map (Nat.toDigits 10)).mapM ipv4Number? =
      some (bytes address) := by
    refine Domain.mapM_map_eq_some fun n hn => ?_
    obtain ⟨i, -, rfl⟩ := List.mem_map.mp hn
    exact hnumber _ (Nat.mod_lt _ (by decide))
  rw [ipv4?, labels_printIPv4, hnumbers, Option.bind_some, ipv4OfParts_bytes h]

/-- The text of an address is a name that is led to itself. -/
theorem toAscii_printIPv4 (address : Nat) :
    Domain.toAscii? (printIPv4 address).toList = some (printIPv4 address).toList := by
  have hdigit : ∀ d < 10, Domain.isUnfolded (Nat.digitChar d) = false := by decide
  apply Domain.toAscii_of_isUnfolded _ (isForbidden_printIPv4 address)
  · intro label hlabel hfirst
    rw [splitBy_printIPv4] at hlabel
    obtain ⟨n, -, rfl⟩ := List.mem_map.mp hlabel
    have hmem : 'x' ∈ Nat.toDigits 10 n :=
      (List.isPrefixOf_iff_prefix.mp hfirst).subset List.mem_cons_self
    exact notMem_toDigits (by decide) (by decide) n hmem
  · intro x hx
    rcases forall_mem_printIPv4 address x hx with rfl | ⟨d, hd, rfl⟩
    · rfl
    · exact hdigit d hd

/-! ### Addresses of eight groups -/

theorem lt_of_hexValue {x : Char} {d : Nat} (h : hexValue? x = some d) : d < 16 := by
  have htoNat (y z : Char) (h : y ≤ z) : y.toNat ≤ z.toNat := UInt32.le_iff_toNat_le.mp h
  rw [hexValue?] at h
  split at h
  case isTrue hx =>
    have : x.toNat ≤ 0x39 := htoNat _ _ hx.2
    obtain rfl := Option.some.inj h
    have : '0'.toNat = 0x30 := rfl
    omega
  split at h
  case isTrue hx =>
    have : x.toNat ≤ 0x66 := htoNat _ _ hx.2
    obtain rfl := Option.some.inj h
    have : 'a'.toNat = 0x61 := rfl
    omega
  split at h
  case isTrue hx =>
    have : x.toNat ≤ 0x46 := htoNat _ _ hx.2
    obtain rfl := Option.some.inj h
    have : 'A'.toNat = 0x41 := rfl
    omega
  · cases h

/-- A number of few digits is small. -/
theorem lt_of_digitsValue {digits : List Char} {n value : Nat}
    (h : digits.foldlM (fun value x => (hexValue? x).map fun d => 16 * value + d) n = some value) :
    value < (n + 1) * 16 ^ digits.length := by
  induction digits generalizing n with
  | nil =>
    obtain rfl := Option.some.inj h
    simp
  | cons x digits ih =>
    rw [List.foldlM_cons] at h
    simp only [Option.bind_eq_bind, Option.bind_eq_some_iff, Option.map_eq_some_iff] at h
    obtain ⟨_, ⟨d, hd, rfl⟩, h⟩ := h
    have hlt := lt_of_hexValue hd
    calc value < (16 * n + d + 1) * 16 ^ digits.length := ih h
      _ ≤ ((n + 1) * 16) * 16 ^ digits.length := Nat.mul_le_mul_right _ (by omega)
      _ = (n + 1) * 16 ^ (x :: digits).length := by
        rw [List.length_cons, Nat.pow_succ, Nat.mul_assoc, Nat.mul_comm 16]

theorem lt_of_hexGroup {digits : List Char} {group : Nat} (h : hexGroup? digits = some group) :
    group < 0x10000 := by
  rw [hexGroup?] at h
  split at h
  · cases h
  · rename_i hlength
    have hvalue := lt_of_digitsValue h
    have hpow : 16 ^ digits.length ≤ 16 ^ 4 := Nat.pow_le_pow_right (by decide) (by omega)
    omega

/-- Digits are read again. -/
theorem digitsValue_toDigits (n : Nat) :
    digitsValue? hexValue? 16 (Nat.toDigits 16 n) = some n := by
  have hdigit : ∀ d < 16, hexValue? (Nat.digitChar d) = some d := by decide
  induction n using Nat.strongRecOn with
  | _ n ih =>
    by_cases hn : n < 16
    · rw [Nat.toDigits_of_lt_base hn, digitsValue?]
      simp [hdigit n hn]
    · have ih := ih (n / 16) (by omega)
      rw [digitsValue?] at ih
      rw [Nat.toDigits_of_base_le (by decide) (by omega), digitsValue?, List.foldlM_append, ih]
      simp [hdigit (n % 16) (by omega)]
      omega

theorem hexGroup_toDigits {group : Nat} (h : group < 0x10000) :
    hexGroup? (Nat.toDigits 16 group) = some group := by
  have hlength : (Nat.toDigits 16 group).length ≤ 4 :=
    (Nat.length_toDigits_le_iff (by decide) (by decide)).mpr h
  rw [hexGroup?, if_neg, digitsValue_toDigits]
  rw [not_or]
  exact ⟨Nat.toDigits_ne_nil, by omega⟩

theorem forall_lt_of_mapM {parts : List (List Char)} {groups : List Nat}
    (h : parts.mapM hexGroup? = some groups) : ∀ group ∈ groups, group < 0x10000 := by
  intro group hgroup
  obtain ⟨part, -, hpart⟩ := Domain.exists_of_mem_mapM h hgroup
  exact lt_of_hexGroup hpart

theorem forall_lt_of_dottedGroups {text : List Char} {groups : List Nat}
    (h : dottedGroups? text = some groups) : ∀ group ∈ groups, group < 0x10000 := by
  rw [dottedGroups?] at h
  split at h
  · rename_i a b c d hbytes
    have hlt (n : Nat) (hn : n ∈ [a, b, c, d]) : n < 256 := by
      obtain ⟨part, -, hpart⟩ := Domain.exists_of_mem_mapM hbytes hn
      rw [decimalByte?] at hpart
      split at hpart
      · cases hpart
      · exact of_decide_eq_true (Option.filter_eq_some_iff.mp hpart).2
    obtain rfl := Option.some.inj h
    have ha := hlt a (by simp)
    have hb := hlt b (by simp)
    have hc := hlt c (by simp)
    have hd := hlt d (by simp)
    rw [List.forall_mem_cons, List.forall_mem_singleton]
    omega
  · cases h

theorem forall_lt_of_groups {dotted : Bool} {text : List Char} {groups : List Nat}
    (h : groups? dotted text = some groups) : ∀ group ∈ groups, group < 0x10000 := by
  rw [groups?] at h
  split at h
  · cases h
  · split at h
    · simp only [Option.bind_eq_bind, Option.bind_eq_some_iff, Option.pure_def,
        Option.some.injEq] at h
      obtain ⟨first, hfirst, final, hfinal, rfl⟩ := h
      rw [List.forall_mem_append]
      exact ⟨forall_lt_of_mapM hfirst, forall_lt_of_dottedGroups hfinal⟩
    · exact forall_lt_of_mapM h

/-- Two colons stand for the groups that are missing. -/
theorem ipv6_of_splitDoubleColon {text first last : List Char}
    (h : splitDoubleColon? text = some (first, last)) :
    ipv6? text =
      (if first = [] then some [] else groups? false first).bind fun before =>
        (if last = [] then some [] else groups? true last).bind fun behind =>
          if before.length + behind.length ≤ 7 then
            some (before ++ List.replicate (8 - before.length - behind.length) 0 ++ behind)
          else
            none := by
  rw [ipv6?, h]
  by_cases hfirst : first = []
  all_goals
    by_cases hlast : last = []
    all_goals simp [hfirst, hlast]

/-- An address that was read has eight groups of 16 bits. -/
theorem length_of_ipv6 {text : List Char} {groups : List Nat} (h : ipv6? text = some groups) :
    groups.length = 8 ∧ ∀ group ∈ groups, group < 0x10000 := by
  cases hsplit : splitDoubleColon? text with
  | none =>
    rw [ipv6?, hsplit] at h
    obtain ⟨hgroups, hlength⟩ := Option.filter_eq_some_iff.mp h
    exact ⟨of_decide_eq_true hlength, forall_lt_of_groups hgroups⟩
  | some parts =>
    rw [ipv6_of_splitDoubleColon hsplit] at h
    -- The zeros between the two parts fill the address up to eight groups.
    have hpart (dotted : Bool) (part : List Char) (groups : List Nat)
        (h : (if part = [] then some [] else groups? dotted part) = some groups) :
        ∀ group ∈ groups, group < 0x10000 := by
      split at h
      · obtain rfl := Option.some.inj h
        simp
      · exact forall_lt_of_groups h
    obtain ⟨before, hbefore, h⟩ := Option.bind_eq_some_iff.mp h
    obtain ⟨behind, hbehind, h⟩ := Option.bind_eq_some_iff.mp h
    split at h
    · obtain rfl := Option.some.inj h
      constructor
      · simp only [List.length_append, List.length_replicate]
        omega
      · rw [List.forall_mem_append, List.forall_mem_append]
        refine ⟨⟨hpart _ _ _ hbefore, fun group hgroup => ?_⟩, hpart _ _ _ hbehind⟩
        rw [List.eq_of_mem_replicate hgroup]
        decide
    · cases h

/-- Groups are read again. -/
theorem groups_printGroups {groups : List Nat} (hne : groups ≠ []) (dotted : Bool)
    (h : ∀ group ∈ groups, group < 0x10000) :
    groups? dotted (printGroups groups).toList = some groups := by
  have hfree : ∀ part ∈ groups.map (Nat.toDigits 16), ':' ∉ part ∧ '.' ∉ part := by
    intro part hpart
    obtain ⟨group, -, rfl⟩ := List.mem_map.mp hpart
    constructor
    all_goals exact notMem_toDigits (by decide) (by decide) group
  have hmapM : (groups.map (Nat.toDigits 16)).mapM hexGroup? = some groups :=
    Domain.mapM_map_eq_some fun group hgroup => hexGroup_toDigits (h group hgroup)
  rw [groups?, toList_printGroups,
    splitBy_joinWith (by simpa using hne) fun part hpart => (hfree part hpart).1]
  split
  · rename_i hlast
    simp [hne] at hlast
  · rename_i last hlast
    have hdot : last.contains '.' = false := by
      have := (hfree last (List.mem_of_getLast? hlast)).2
      simpa using this
    rw [hdot, Bool.and_false, if_neg (by decide), hmapM]

/-! ### The longest run of zeros -/

/-- The run that is left out consists of zeros. -/
theorem exists_of_longestZeroRun {groups : List Nat} {start length : Nat}
    (h : longestZeroRun groups = (start, length)) :
    ∃ before behind, groups = before ++ List.replicate length 0 ++ behind ∧
      before.length = start := by
  induction groups generalizing start length with
  | nil =>
    obtain ⟨rfl, rfl⟩ := Prod.mk.inj h
    exact ⟨[], [], rfl, rfl⟩
  | cons group groups ih =>
    rw [longestZeroRun] at h
    dsimp only at h
    split at h
    · obtain ⟨rfl, rfl⟩ := Prod.mk.inj h
      obtain ⟨before, behind, heq, hlength⟩ := ih rfl
      refine ⟨group :: before, behind, ?_, by simp [hlength]⟩
      rw [List.cons_append, List.cons_append, ← heq]
    · obtain ⟨rfl, rfl⟩ := Prod.mk.inj h
      refine ⟨[], (group :: groups).dropWhile (· = 0), ?_, rfl⟩
      have hzeros : List.replicate (zeroRun (group :: groups)) 0 =
          (group :: groups).takeWhile (· = 0) :=
        (List.eq_replicate_of_mem fun n hn =>
          of_decide_eq_true (List.all_eq_true.mp List.all_takeWhile n hn)).symm
      rw [List.nil_append, hzeros, List.takeWhile_append_dropWhile]

/-! ### Double colons -/

theorem splitDoubleColon_cons {x : Char} {rest : List Char}
    (h : x ≠ ':' ∨ rest.head? ≠ some ':') :
    splitDoubleColon? (x :: rest) =
      (splitDoubleColon? rest).map fun (first, last) => (x :: first, last) := by
  rw [splitDoubleColon?]
  rintro rest' rfl rfl
  simp at h

theorem splitDoubleColon_append {part : List Char} (h : ':' ∉ part) (rest : List Char) :
    splitDoubleColon? (part ++ rest) =
      (splitDoubleColon? rest).map fun (first, last) => (part ++ first, last) := by
  induction part with
  | nil => simp
  | cons x part ih =>
    rw [List.mem_cons, not_or] at h
    rw [List.cons_append, splitDoubleColon_cons (.inl (Ne.symm h.1)), ih h.2, Option.map_map]
    rfl

/-- Groups begin with a digit. -/
theorem exists_of_printGroups (group : Nat) (groups : List Nat) :
    ∃ x rest, (printGroups (group :: groups)).toList = x :: rest ∧ x ≠ ':' := by
  obtain ⟨x, digits, hdigits⟩ :=
    List.exists_cons_of_ne_nil (Nat.toDigits_ne_nil (b := 16) (n := group))
  have hcolon : ':' ∉ Nat.toDigits 16 group := notMem_toDigits (by decide) (by decide) group
  rw [hdigits, List.mem_cons, not_or] at hcolon
  rw [toList_printGroups, List.map_cons, joinWith_cons_eq, hdigits]
  exact ⟨x, _, rfl, Ne.symm hcolon.1⟩

/-- There are no two colons in a row between groups. -/
theorem splitDoubleColon_printGroups (groups : List Nat) (rest : List Char) :
    splitDoubleColon? ((printGroups groups).toList ++ rest) =
      (splitDoubleColon? rest).map fun (first, last) =>
        ((printGroups groups).toList ++ first, last) := by
  have hcolon (group : Nat) : ':' ∉ Nat.toDigits 16 group :=
    notMem_toDigits (by decide) (by decide) group
  induction groups with
  | nil => simp [toList_printGroups, joinWith]
  | cons group groups ih =>
    rcases groups with _ | ⟨next, groups⟩
    · rw [toList_printGroups]
      exact splitDoubleColon_append (hcolon group) rest
    · have hjoin : (printGroups (group :: next :: groups)).toList =
          Nat.toDigits 16 group ++ ':' :: (printGroups (next :: groups)).toList := by
        rw [toList_printGroups, toList_printGroups]
        rfl
      have hhead : ((printGroups (next :: groups)).toList ++ rest).head? ≠ some ':' := by
        obtain ⟨x, digits, hdigits, hx⟩ := exists_of_printGroups next groups
        simpa [hdigits] using hx
      rw [hjoin, List.append_assoc, List.cons_append, splitDoubleColon_append (hcolon group),
        splitDoubleColon_cons (.inr hhead), ih, Option.map_map, Option.map_map]
      simp [Function.comp_def]

/-- An address of eight groups is read again. -/
theorem ipv6_printIPv6 {groups : List Nat} (hlength : groups.length = 8)
    (h : ∀ group ∈ groups, group < 0x10000) : ipv6? (printIPv6 groups).toList = some groups := by
  have hpart (dotted : Bool) (groups : List Nat) (h : ∀ group ∈ groups, group < 0x10000) :
      (if (printGroups groups).toList = [] then some [] else
        groups? dotted (printGroups groups).toList) = some groups := by
    rcases groups with _ | ⟨group, groups⟩
    · rfl
    · obtain ⟨x, rest, hrest, -⟩ := exists_of_printGroups group groups
      rw [if_neg (by simp [hrest]), groups_printGroups (List.cons_ne_nil _ _) dotted h]
  rw [printIPv6]
  split
  rename_i start length hrun
  split
  -- Where no zeros are left out, there is no second colon to look for.
  · have hne : groups ≠ [] := List.ne_nil_of_length_eq_add_one hlength
    have hsplit := splitDoubleColon_printGroups groups []
    rw [List.append_nil] at hsplit
    simp [ipv6?, hsplit, splitDoubleColon?, groups_printGroups hne true h, hlength]
  · obtain ⟨before, behind, rfl, rfl⟩ := exists_of_longestZeroRun hrun
    have hsplit : splitDoubleColon? ((printGroups before).toList ++
        ("::".toList ++ (printGroups behind).toList)) =
          some ((printGroups before).toList, (printGroups behind).toList) := by
      rw [splitDoubleColon_printGroups]
      simp [splitDoubleColon?]
    rw [List.forall_mem_append, List.forall_mem_append] at h
    -- As many zeros were left out as are missing of eight groups.
    simp only [List.length_append, List.length_replicate] at hlength
    have hbefore : (before ++ List.replicate length 0 ++ behind).take before.length = before := by
      rw [List.append_assoc, List.take_left]
    have hbehind : (before ++ List.replicate length 0 ++ behind).drop (before.length + length) =
        behind := List.drop_left' (by simp)
    rw [hbefore, hbehind, String.toList_append, String.toList_append, List.append_assoc,
      ipv6_of_splitDoubleColon hsplit, hpart false before h.1.1, hpart true behind h.2,
      Option.bind_some, Option.bind_some, if_pos (by omega),
      show 8 - before.length - behind.length = length by omega]

/-! ### Hosts -/

/-- Addresses are plain, and so are names without labels beyond ASCII. -/
def IsPlain : Host → Prop
  | name text => Domain.IsPlain text.toList
  | ipv4 _ | ipv6 _ => True

instance : DecidablePred IsPlain
  | name text => inferInstanceAs (Decidable (Domain.IsPlain text.toList))
  | ipv4 _ | ipv6 _ => .isTrue trivial

/-- What is written of a plain host that was read is read as this host. -/
theorem parse_print_of_isPlain {text : List Char} {host : Host} (h : parse text = .ok host)
    (hplain : host.IsPlain) : parse host.print.toList = .ok host := by
  rcases eq_of_parse h with ⟨inner, groups, hgroups, rfl⟩ |
    ⟨name, domain, hdomain, hne, ⟨address, haddress, rfl⟩ | ⟨hnumber, rfl⟩⟩
  · obtain ⟨hlength, hlt⟩ := length_of_ipv6 hgroups
    simp [print, parse, parseBracketed, ipv6_printIPv6 hlength hlt]
  · obtain ⟨parts, -, hparts⟩ := Option.bind_eq_some_iff.mp haddress
    rw [print, parse_of_isForbidden (isForbidden_printIPv4 address), toAscii_printIPv4]
    simp [endsInNumber_printIPv4, ipv4_printIPv4 (lt_of_ipv4OfParts hparts),
      (isFound_printIPv4 address).ne_nil]
  · rw [IsPlain, String.toList_ofList] at hplain
    rw [print, String.toList_ofList, parse_of_isForbidden (Domain.isFreeOf_of_toAscii hdomain),
      Domain.toAscii_of_isPlain hdomain hplain]
    simp [hne, hnumber]

end Reroute.Url.Host
