import Mathlib.Data.List.TakeWhile
import Reroute.Proofs.Url.Host

/-!
# Authorities that are read again

An authority that was read is written so that user and number are found again where they
stand. Only the host is another matter: its text is read like any other host.

## Main definitions

* `Authority.IsSettled` — authorities whose parts are found again

## Main results

* `Authority.isSettled_of_readAuthority` — what was read is such an authority
* `Authority.readAuthority_printWith` — it is read again with whatever host is read where its
  host is written
-/

set_option autoImplicit false

namespace Reroute.Url

open Text

/-! ### Users -/

/-- The last at sign separates a user from the host. -/
theorem splitUser_append {host : List Char} (h : '@' ∉ host) (user : List Char) :
    splitUser (user ++ '@' :: host) = (some user, host) := by
  have hhost : ((user ++ '@' :: host).reverse.takeWhile (· != '@')).reverse = host := by
    have hpos : ∀ x ∈ host.reverse, (x != '@') = true := by
      intro x hx
      rw [bne_iff_ne]
      rintro rfl
      exact h (List.mem_reverse.mp hx)
    rw [List.reverse_append, List.reverse_cons, List.append_assoc,
      List.takeWhile_append_of_pos hpos]
    simp
  have hlength : (user ++ '@' :: host).length - host.length - 1 = user.length := by
    rw [List.length_append, List.length_cons]
    omega
  rw [splitUser, hhost, hlength]
  simp

theorem splitUser_of_notMem {host : List Char} (h : '@' ∉ host) :
    splitUser host = (none, host) := by
  simp [splitUser, h]

theorem isFreeOf_of_readUser {user : List Char} {username password : String}
    (h : readUser user = (username, password)) :
    IsFreeOf inUserInfoSet username.toList ∧ IsFreeOf inUserInfoSet password.toList := by
  obtain ⟨rfl, rfl⟩ := Prod.mk.inj h
  rw [String.toList_ofList, String.toList_ofList]
  exact ⟨isFreeOf_percentEncode sparesBytes_inUserInfoSet _,
    isFreeOf_percentEncode sparesBytes_inUserInfoSet _⟩

section User

variable {username password : String}

theorem forall_ne_colon (h : IsFreeOf inUserInfoSet username.toList) :
    ∀ x ∈ username.toList, (x != ':') = true := by
  intro x hx
  rw [bne_iff_ne]
  rintro rfl
  exact absurd (h ':' hx) (by decide)

/-- A name and a password are found again on both sides of a colon. -/
theorem readUser_append (husername : IsFreeOf inUserInfoSet username.toList)
    (hpassword : IsFreeOf inUserInfoSet password.toList) :
    readUser (username.toList ++ ':' :: password.toList) = (username, password) := by
  have hpos := forall_ne_colon husername
  rw [readUser, List.takeWhile_append_of_pos hpos, List.dropWhile_append_of_pos hpos]
  simp [percentEncode_of_isFreeOf husername, percentEncode_of_isFreeOf hpassword]

/-- A name alone is found again. -/
theorem readUser_toList (h : IsFreeOf inUserInfoSet username.toList) :
    readUser username.toList = (username, "") := by
  have hpos := forall_ne_colon h
  rw [readUser, List.takeWhile_eq_self_iff.mpr hpos, List.dropWhile_eq_nil_iff.mpr hpos]
  simp [percentEncode_of_isFreeOf h]

end User

/-! ### Numbers -/

/-- A number that was read is one of 16 bits that the scheme does not imply. -/
theorem le_of_readPortNumber {scheme : String} {text rest : List Char} {n : Nat}
    (h : readPortNumber scheme text = .ok (some n, rest)) :
    n ≤ 65535 ∧ specialSchemes.lookup scheme ≠ some (some n) := by
  rw [readPortNumber] at h
  split at h
  · cases h
  split at h
  · cases h
  split at h
  · cases h
  · rename_i hle _ himplied
    obtain ⟨hn, -⟩ := Prod.mk.inj (Except.ok.inj h)
    obtain rfl := Option.some.inj hn
    rw [not_or] at himplied
    exact ⟨by omega, himplied.2⟩

/-- Such a number is read again. -/
theorem readPortNumber_toDigits {scheme : String} {n : Nat} (hle : n ≤ 65535)
    (himplied : specialSchemes.lookup scheme ≠ some (some n)) :
    readPortNumber scheme (Nat.toDigits 10 n) = .ok (some n, []) := by
  have hdigits : ∀ x ∈ Nat.toDigits 10 n, x.isDigit = true :=
    fun x hx => Nat.isDigit_of_mem_toDigits (by decide) (by decide) hx
  have htake : (Nat.toDigits 10 n).takeWhile Char.isDigit = Nat.toDigits 10 n :=
    List.takeWhile_eq_self_iff.mpr hdigits
  have hdrop : (Nat.toDigits 10 n).dropWhile Char.isDigit = [] :=
    List.dropWhile_eq_nil_iff.mpr hdigits
  rw [readPortNumber, htake, hdrop, Nat.ofDigitChars_ten_toDigits]
  simp [himplied, Nat.toDigits_ne_nil, Nat.not_lt.mpr hle]

namespace Authority

/-! ### Authorities -/

/-- User, host and number are found again where they stand. -/
structure IsSettled (scheme : String) (a : Authority) : Prop where
  username : IsFreeOf inUserInfoSet a.username.toList
  password : IsFreeOf inUserInfoSet a.password.toList
  host : ∃ text, Host.parse text = .ok a.host
  portNumber : ∀ n, a.portNumber = some n →
    n ≤ 65535 ∧ specialSchemes.lookup scheme ≠ some (some n)

variable {scheme : String} {a : Authority} {host : List Char}

theorem IsSettled.isFound_host (h : a.IsSettled scheme) : Host.IsFound a.host.print.toList := by
  obtain ⟨text, htext⟩ := h.host
  exact Host.isFound_print htext

/-- What an authority is read from. -/
theorem exists_of_readAuthority (hspecial : isSpecial scheme) {text before : List Char}
    {isLast : Bool} (h : readAuthority scheme text isLast = .ok (a, before)) :
    (∃ user, readUser user = (a.username, a.password)) ∧
      (∃ host, Host.parse host = .ok a.host) ∧
      (a.portNumber = none ∨ ∃ rest, readPortNumber scheme rest = .ok (a.portNumber, before)) := by
  rw [readAuthority] at h
  dsimp only at h
  rw [if_pos hspecial] at h
  -- The user, the host and the number of the port are checked in this order.
  split at h
  · cases h
  split at h
  · cases h
  cases hhost : Host.parse (splitHost false (splitUser text).2).1 with
  | error e =>
    rw [hhost] at h
    cases h
  | ok host =>
    rw [hhost] at h
    simp only [bind, Except.bind, pure, Except.pure] at h
    split at h
    · cases h
    split at h
    · split at h
      · cases h
      · rename_i found hfound
        obtain ⟨rfl, rfl⟩ := Prod.mk.inj (Except.ok.inj h)
        exact ⟨⟨_, rfl⟩, ⟨_, hhost⟩, .inr ⟨_, hfound⟩⟩
    · obtain ⟨rfl, rfl⟩ := Prod.mk.inj (Except.ok.inj h)
      exact ⟨⟨_, rfl⟩, ⟨_, hhost⟩, .inl rfl⟩

/-- An authority that was read has parts that are found again. -/
theorem isSettled_of_readAuthority (hspecial : isSpecial scheme) {text before : List Char}
    {isLast : Bool} (h : readAuthority scheme text isLast = .ok (a, before)) :
    a.IsSettled scheme := by
  obtain ⟨⟨user, huser⟩, hhost, hnumber⟩ := exists_of_readAuthority hspecial h
  obtain ⟨husername, hpassword⟩ := isFreeOf_of_readUser huser
  refine ⟨husername, hpassword, hhost, fun n hn => ?_⟩
  rw [hn] at hnumber
  rcases hnumber with hnone | ⟨rest, hrest⟩
  · cases hnone
  · exact le_of_readPortNumber hrest

/-- What is written behind the host. -/
def printNumber (a : Authority) : List Char :=
  match a.portNumber with
  | some n => ':' :: Nat.toDigits 10 n
  | none => []

/-- The authority with its host written in some way or other. -/
def printWith (a : Authority) (host : List Char) : List Char :=
  a.printUser.toList ++ (host ++ a.printNumber)

theorem toList_print (a : Authority) : a.print.toList = a.printWith a.host.print.toList := by
  rw [print, printWith, printNumber]
  cases a.portNumber <;> simp [Nat.repr_eq_ofList_toDigits]

/-- A number has digits only. -/
theorem forall_mem_printNumber (a : Authority) :
    ∀ x ∈ a.printNumber, 0x20 < x.toNat ∧ endsAuthority true x = false ∧ x ≠ '@' := by
  have hdigit : ∀ d < 10, 0x20 < (Nat.digitChar d).toNat ∧
      endsAuthority true (Nat.digitChar d) = false ∧ Nat.digitChar d ≠ '@' := by
    decide
  rw [printNumber]
  split
  · rw [List.forall_mem_cons]
    refine ⟨by decide, fun x hx => ?_⟩
    obtain ⟨d, hd, rfl⟩ := exists_of_mem_toDigits (by decide) hx
    exact hdigit d hd
  · simp

/-- What ends an authority is encoded in a user. -/
theorem forall_mem_of_inUserInfoSet {text : List Char} (h : IsFreeOf inUserInfoSet text) :
    ∀ x ∈ text, 0x20 < x.toNat ∧ endsAuthority true x = false := by
  intro x hx
  refine ⟨lt_toNat_of_inUserInfoSet (h x hx), Bool.eq_false_iff.mpr fun hend => ?_⟩
  simp only [endsAuthority, isSeparator, Bool.or_eq_true, decide_eq_true_eq, Bool.true_and] at hend
  rcases hend with ((rfl | rfl) | rfl) | rfl
  all_goals exact absurd (h _ hx) (by decide)

theorem IsSettled.forall_mem_printUser (h : a.IsSettled scheme) :
    ∀ x ∈ a.printUser.toList, 0x20 < x.toNat ∧ endsAuthority true x = false := by
  have husername := forall_mem_of_inUserInfoSet h.username
  have hpassword := forall_mem_of_inUserInfoSet h.password
  have hsigns : ∀ x ∈ [':', '@'], 0x20 < x.toNat ∧ endsAuthority true x = false := by
    simp [endsAuthority, isSeparator]
  rw [printUser]
  intro x hx
  split at hx
  · cases hx
  split at hx
  all_goals simp only [String.toList_append, List.mem_append] at hx
  · rcases hx with hx | hx
    · exact husername x hx
    · exact hsigns x (List.mem_cons_of_mem _ hx)
  · rcases hx with ((hx | hx) | hx) | hx
    · exact husername x hx
    · exact hsigns x (List.mem_append_left ['@'] hx)
    · exact hpassword x hx
    · exact hsigns x (List.mem_cons_of_mem _ hx)

/-- Nothing that is written of an authority ends it. -/
theorem IsSettled.forall_mem_printWith (h : a.IsSettled scheme) (hhost : Host.IsFound host) :
    ∀ x ∈ a.printWith host, 0x20 < x.toNat ∧ endsAuthority true x = false := by
  rw [printWith, List.forall_mem_append, List.forall_mem_append]
  exact ⟨h.forall_mem_printUser, fun x hx => ⟨hhost.lt_toNat x hx, hhost.endsAuthority x hx⟩,
    fun x hx => ⟨(a.forall_mem_printNumber x hx).1, (a.forall_mem_printNumber x hx).2.1⟩⟩

theorem printWith_ne_nil (a : Authority) (hhost : Host.IsFound host) : a.printWith host ≠ [] := by
  simp [printWith, hhost.ne_nil]

/-- The user is found again before a host. -/
theorem IsSettled.exists_splitUser (h : a.IsSettled scheme) (hhost : '@' ∉ host) :
    ∃ user, splitUser (a.printUser.toList ++ host) = (user, host) ∧ user ≠ some [] ∧
      readUser (user.getD []) = (a.username, a.password) := by
  rw [printUser]
  by_cases hpassword : a.password = ""
  · rw [hpassword]
    by_cases husername : a.username = ""
    · rw [husername]
      exact ⟨none, splitUser_of_notMem hhost, by simp, rfl⟩
    · refine ⟨some a.username.toList, ?_, by simpa using husername, readUser_toList h.username⟩
      rw [if_neg (by simp [husername]), if_pos (by rfl), String.toList_append, List.append_assoc]
      exact splitUser_append hhost _
  · refine ⟨some (a.username.toList ++ ':' :: a.password.toList), ?_, by simp,
      readUser_append h.username h.password⟩
    rw [if_neg (by simp [hpassword]), if_neg (by simp [hpassword])]
    simp only [String.toList_append, List.append_assoc]
    rw [← splitUser_append hhost, List.append_assoc]
    rfl

/-- An authority is read again, with whatever host is read where its host is written. -/
theorem readAuthority_printWith (hspecial : isSpecial scheme) (h : a.IsSettled scheme)
    (hhost : Host.IsFound host) (isLast : Bool) :
    readAuthority scheme (a.printWith host) isLast =
      (Host.parse host).map fun host => ({ a with host }, []) := by
  -- No other `@` stands behind the one that ends the user.
  have hnot : '@' ∉ host ++ a.printNumber := by
    rw [List.mem_append, not_or]
    exact ⟨hhost.notMem, fun hmem => (a.forall_mem_printNumber _ hmem).2.2 rfl⟩
  obtain ⟨user, hsplit, huser, hread⟩ := h.exists_splitUser hnot
  have hnumber : a.printNumber = [] ∨ a.printNumber.head? = some ':' := by
    rw [printNumber]
    split
    · exact .inr rfl
    · exact .inl rfl
  rw [readAuthority, printWith, hsplit]
  dsimp only
  rw [if_neg fun hc => huser hc.1, hread, hhost.splitHost _ hnumber]
  dsimp only
  rw [if_pos hspecial, if_neg hhost.ne_nil]
  cases hparse : Host.parse host with
  | error e => rfl
  | ok found =>
    simp only [bind, Except.bind, pure, Except.pure, Except.map]
    rw [if_neg (by simp [Host.isEmpty_of_parse hparse]), printNumber]
    cases hn : a.portNumber with
    | none => rfl
    | some n => simp [readPortNumber_toDigits (h.portNumber n hn).1 (h.portNumber n hn).2]

end Authority

end Reroute.Url
