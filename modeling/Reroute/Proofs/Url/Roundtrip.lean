import Reroute.Proofs.Url.Authority
import Reroute.Proofs.Url.Trail

/-!
# URLs that are read again

A URL of the web that was read is written so that each part is found again where it stands.
So its text is read as the same URL, as long as its host is read as the same host.

## Main definitions

* `IsWeb` — the schemes of the web
* `Url.IsSettled` — URLs of the web whose parts are found again

## Main results

* `isSettled_of_parse` — a URL of the web that was read is such a URL
* `Url.IsSettled.parse_print` — its text is read as this URL, with whatever host the text of
  its host is read as
-/

set_option autoImplicit false

namespace Reroute.Url

open Text

/-- The schemes of the web. -/
def IsWeb (scheme : String) : Prop :=
  scheme = "http" ∨ scheme = "https"

instance : DecidablePred IsWeb :=
  fun scheme => inferInstanceAs (Decidable (scheme = "http" ∨ scheme = "https"))

theorem IsWeb.isSpecial {scheme : String} (h : IsWeb scheme) : isSpecial scheme := by
  rcases h with rfl | rfl
  · rfl
  · rfl

theorem IsWeb.ne_file {scheme : String} (h : IsWeb scheme) : scheme ≠ "file" := by
  rcases h with rfl | rfl
  · decide
  · decide

/-- Each part of a URL of the web is such that it is found again where it stands. -/
structure IsSettled (u : Url) : Prop where
  scheme : IsWeb u.scheme
  authority : ∃ a, u.authority = some a ∧ a.IsSettled u.scheme
  isGuarded : u.isGuarded = false
  path : IsSettledPath u.path
  query : ∀ query, u.query = some query → IsFreeOf (inQuerySet true) query.toList
  fragment : ∀ fragment, u.fragment = some fragment → IsFreeOf inFragmentSet fragment.toList

/-! ### Query and fragment -/

section QueryAndFragment

variable {u : Url} {text : List Char}

theorem isFreeOf_query {query : String} (h : (withQueryAndFragment u text).query = some query) :
    IsFreeOf (inQuerySet (isSpecial u.scheme)) query.toList := by
  rw [withQueryAndFragment] at h
  dsimp only at h
  split at h
  · obtain rfl := Option.some.inj h
    rw [String.toList_ofList]
    exact isFreeOf_percentEncode (sparesBytes_inQuerySet _) _
  · cases h

theorem isFreeOf_fragment {fragment : String}
    (h : (withQueryAndFragment u text).fragment = some fragment) :
    IsFreeOf inFragmentSet fragment.toList := by
  rw [withQueryAndFragment] at h
  dsimp only at h
  split at h
  · obtain rfl := Option.some.inj h
    rw [String.toList_ofList]
    exact isFreeOf_percentEncode sparesBytes_inFragmentSet _
  · cases h

end QueryAndFragment

/-! ### What was read -/

section Parse

variable {u : Url} {scheme : String} {text : List Char}

theorem scheme_of_parseFileWithHost (h : parseFileWithHost text = .ok u) : u.scheme = "file" := by
  rw [parseFileWithHost] at h
  simp only [bind, Except.bind, pure, Except.pure] at h
  repeat' split at h
  all_goals cases h <;> rfl

theorem scheme_of_parseFile (h : parseFile text = .ok u) : u.scheme = "file" := by
  rw [parseFile] at h
  dsimp only at h
  split at h
  · split at h
    · split at h
      · split at h
        · exact scheme_of_parseFileWithHost h
        · obtain rfl := Except.ok.inj h
          rfl
      · obtain rfl := Except.ok.inj h
        rfl
    · obtain rfl := Except.ok.inj h
      rfl
  · obtain rfl := Except.ok.inj h
    rfl

theorem scheme_parseWithoutAuthority : (parseWithoutAuthority scheme text).scheme = scheme := by
  rw [parseWithoutAuthority]
  dsimp only
  split <;> rfl

/-- What a URL with an authority is read from. -/
theorem exists_of_parseWithAuthority (h : parseWithAuthority scheme text = .ok u) :
    ∃ authority isLast a before path rest, readAuthority scheme authority isLast = .ok (a, before) ∧
      u = withQueryAndFragment
        ⟨scheme, some a, false, (readPath scheme true path).1, none, none⟩ rest := by
  rw [parseWithAuthority] at h
  dsimp only at h
  cases hread : readAuthority scheme
      (dropIgnored (text.takeWhile (!endsAuthority (isSpecial scheme) ·)))
      (text.dropWhile (!endsAuthority (isSpecial scheme) ·)).isEmpty with
  | error e =>
    rw [hread] at h
    cases h
  | ok found =>
    rw [hread] at h
    exact ⟨_, _, found.1, found.2, _, _, hread, (Except.ok.inj h).symm⟩

theorem scheme_of_parseWithAuthority (h : parseWithAuthority scheme text = .ok u) :
    u.scheme = scheme := by
  obtain ⟨authority, isLast, a, before, path, rest, -, rfl⟩ := exists_of_parseWithAuthority h
  rfl

theorem isSettled_of_parseWithAuthority (hweb : IsWeb scheme)
    (h : parseWithAuthority scheme text = .ok u) : u.IsSettled := by
  obtain ⟨authority, isLast, a, before, path, rest, hread, rfl⟩ := exists_of_parseWithAuthority h
  refine ⟨hweb, ⟨a, rfl, Authority.isSettled_of_readAuthority hweb.isSpecial hread⟩, rfl,
    isSettledPath_readPath hweb.isSpecial hweb.ne_file path, fun query hquery => ?_,
    fun fragment => isFreeOf_fragment⟩
  have := isFreeOf_query hquery
  rwa [hweb.isSpecial] at this

/-- A URL of the web that was read has parts that are found again. -/
theorem isSettled_of_parse {text : String} (h : parse text = .ok u) (hweb : IsWeb u.scheme) :
    u.IsSettled := by
  rw [parse] at h
  dsimp only at h
  split at h
  · cases h
  split at h
  · exact absurd (scheme_of_parseFile h) hweb.ne_file
  split at h
  · rw [scheme_of_parseWithAuthority h] at hweb
    exact isSettled_of_parseWithAuthority hweb h
  · rename_i hspecial
    refine absurd ?_ hspecial
    split at h
    · rw [← scheme_of_parseWithAuthority h]
      exact hweb.isSpecial
    · obtain rfl := Except.ok.inj h
      rw [scheme_parseWithoutAuthority] at hweb
      exact hweb.isSpecial

end Parse

/-! ### Reading again -/

theorem splitScheme_of_isWeb {scheme : String} (h : IsWeb scheme) (rest : List Char) :
    splitScheme? (scheme.toList ++ ':' :: rest) = some (scheme, rest) := by
  rcases h with rfl | rfl
  · rfl
  · rfl

/-- What is written behind the path. -/
def printRest (u : Url) : List Char :=
  (printPart "?" u.query).toList ++ (printPart "#" u.fragment).toList

/-- The URL with an authority whose host is written in some way or other. -/
def printWith (u : Url) (a : Authority) (host : List Char) : List Char :=
  u.scheme.toList ++ ':' :: '/' :: '/' :: (a.printWith host ++ (u.path.toList ++ u.printRest))

section

variable {u : Url}

theorem toList_print {a : Authority} (ha : u.authority = some a) :
    u.print.toList = u.printWith a a.host.print.toList := by
  rw [printWith, ← Authority.toList_print]
  simp [print, printAuthority, ha, printRest]

/-- What is written behind the path begins with a sign that no path has. -/
theorem printRest_eq_nil_or (u : Url) :
    u.printRest = [] ∨ u.printRest.head? = some '?' ∨ u.printRest.head? = some '#' := by
  rw [printRest]
  cases u.query with
  | some query => simp [printPart]
  | none =>
    cases u.fragment with
    | some fragment => simp [printPart]
    | none => simp [printPart]

/-- A path is found again before a query and a fragment. -/
theorem splitPath_append (h : IsSettledPath u.path) :
    splitPath (u.path.toList ++ u.printRest) = (u.path.toList, u.printRest) := by
  have hpath : ∀ x ∈ u.path.toList, (x != '?' && x != '#') = true := by
    intro x hx
    rw [Bool.and_eq_true, bne_iff_ne, bne_iff_ne]
    constructor
    all_goals
      rintro rfl
      exact absurd (h.isFreeOf _ hx) (by decide)
  have hrest : u.printRest.takeWhile (fun x => x != '?' && x != '#') = [] ∧
      u.printRest.dropWhile (fun x => x != '?' && x != '#') = u.printRest := by
    cases hrest : u.printRest with
    | nil => exact ⟨rfl, rfl⟩
    | cons x rest =>
      have hx := printRest_eq_nil_or u
      rw [hrest] at hx
      obtain rfl | rfl : x = '?' ∨ x = '#' := by simpa using hx
      · exact ⟨rfl, rfl⟩
      · exact ⟨rfl, rfl⟩
  rw [splitPath, List.takeWhile_append_of_pos hpath, List.dropWhile_append_of_pos hpath, hrest.1,
    hrest.2, List.append_nil]

/-- Nothing is left out where there is nothing to leave out. -/
theorem dropWhile_of_lt {text : List Char} (h : ∀ x ∈ text, 0x20 < x.toNat) :
    text.dropWhile (·.toNat ≤ 0x20) = text := by
  cases text with
  | nil => rfl
  | cons x rest =>
    apply List.dropWhile_cons_of_neg
    simpa using h x List.mem_cons_self

namespace IsSettled

/-- No number sign is left in a query. -/
theorem forall_mem_printPart_query (h : u.IsSettled) :
    ∀ x ∈ (printPart "?" u.query).toList, (x != '#') = true := by
  cases hquery : u.query with
  | none => simp [printPart]
  | some query =>
    rw [printPart, String.toList_append, List.forall_mem_append]
    refine ⟨by simp, fun x hx => ?_⟩
    rw [bne_iff_ne]
    rintro rfl
    exact absurd (h.query query hquery _ hx) (by decide)

/-- Query and fragment are found again, whatever the authority. -/
theorem withQueryAndFragment_printRest (h : u.IsSettled) (authority : Option Authority) :
    withQueryAndFragment ⟨u.scheme, authority, false, u.path, none, none⟩ u.printRest =
      { u with authority } := by
  have hbefore := h.forall_mem_printPart_query
  have hquery : (u.printRest.takeWhile (· != '#')).dropWhile (· != '?') =
      (printPart "?" u.query).toList := by
    rw [printRest, List.takeWhile_append_of_pos hbefore]
    cases u.query with
    | none => cases u.fragment <;> simp [printPart]
    | some query => cases u.fragment <;> simp [printPart]
  have hfragment : u.printRest.dropWhile (· != '#') = (printPart "#" u.fragment).toList := by
    rw [printRest, List.dropWhile_append_of_pos hbefore]
    cases u.fragment <;> simp [printPart]
  rw [withQueryAndFragment]
  dsimp only
  rw [hquery, hfragment]
  obtain ⟨scheme, _, isGuarded, path, query, fragment⟩ := u
  congr 1
  · exact h.isGuarded.symm
  · cases query with
    | none => rfl
    | some query =>
      -- Nothing in a query is ignored, and nothing in it is encoded again.
      have hfree := h.query query rfl
      have hignored := dropIgnored_of_lt fun x hx => lt_toNat_of_inQuerySet (hfree x hx)
      have hspecial := h.scheme.isSpecial
      dsimp only at hspecial
      simp [printPart, hignored, hspecial, percentEncode_of_isFreeOf hfree]
  · cases fragment with
    | none => rfl
    | some fragment =>
      have hfree := h.fragment fragment rfl
      have hignored := dropIgnored_of_lt fun x hx => lt_toNat_of_inFragmentSet (hfree x hx)
      simp [printPart, hignored, percentEncode_of_isFreeOf hfree]

variable {a : Authority} {host : List Char}

/-- Nothing in the text is ignored, or left out at its ends. -/
theorem forall_mem_printWith (h : u.IsSettled) (ha : a.IsSettled u.scheme)
    (hhost : Host.IsFound host) : ∀ x ∈ u.printWith a host, 0x20 < x.toNat := by
  have hscheme : ∀ x ∈ u.scheme.toList, 0x20 < x.toNat := by
    rcases h.scheme with hscheme | hscheme <;> simp [hscheme]
  have hquery : ∀ x ∈ (printPart "?" u.query).toList, 0x20 < x.toNat := by
    cases hquery : u.query with
    | none => simp [printPart]
    | some query =>
      rw [printPart, String.toList_append, List.forall_mem_append]
      exact ⟨by simp, fun x hx => lt_toNat_of_inQuerySet (h.query query hquery x hx)⟩
  have hfragment : ∀ x ∈ (printPart "#" u.fragment).toList, 0x20 < x.toNat := by
    cases hfragment : u.fragment with
    | none => simp [printPart]
    | some fragment =>
      rw [printPart, String.toList_append, List.forall_mem_append]
      exact ⟨by simp, fun x hx => lt_toNat_of_inFragmentSet (h.fragment fragment hfragment x hx)⟩
  rw [printWith, printRest]
  simp only [List.forall_mem_append, List.forall_mem_cons]
  exact ⟨hscheme, by decide, by decide, by decide,
    fun x hx => (ha.forall_mem_printWith hhost x hx).1,
    fun x hx => lt_toNat_of_inPathSet (h.path.isFreeOf x hx), hquery, hfragment⟩

/-- Behind the scheme a URL is read again, with whatever host is read where its host is
written. -/
theorem parseWithAuthority_printWith (h : u.IsSettled) (ha : a.IsSettled u.scheme)
    (hhost : Host.IsFound host) :
    parseWithAuthority u.scheme (a.printWith host ++ (u.path.toList ++ u.printRest)) =
      (Host.parse host).map fun host => { u with authority := some { a with host } } := by
  have hpos : ∀ x ∈ a.printWith host, (!endsAuthority (isSpecial u.scheme) x) = true := by
    intro x hx
    rw [h.scheme.isSpecial, (ha.forall_mem_printWith hhost x hx).2]
    rfl
  -- The path begins with a slash, so the authority ends there.
  have hpath : (u.path.toList ++ u.printRest).takeWhile (!endsAuthority (isSpecial u.scheme) ·) =
      [] ∧ (u.path.toList ++ u.printRest).dropWhile (!endsAuthority (isSpecial u.scheme) ·) =
        u.path.toList ++ u.printRest := by
    obtain ⟨rest, hrest⟩ := h.path.exists_toList_eq
    rw [hrest, h.scheme.isSpecial]
    exact ⟨rfl, rfl⟩
  have hignored : dropIgnored (a.printWith host) = a.printWith host :=
    dropIgnored_of_lt fun x hx => (ha.forall_mem_printWith hhost x hx).1
  rw [parseWithAuthority]
  dsimp only
  rw [List.takeWhile_append_of_pos hpos, List.dropWhile_append_of_pos hpos, hpath.1, hpath.2,
    List.append_nil, hignored, Authority.readAuthority_printWith h.scheme.isSpecial ha hhost]
  cases Host.parse host with
  | error e => rfl
  | ok found =>
    simp only [bind, Except.bind, pure, Except.pure, Except.map, List.nil_append,
      splitPath_append h.path, readPath_of_isSettledPath h.scheme.isSpecial h.scheme.ne_file h.path]
    rw [h.withQueryAndFragment_printRest]

/-- A URL of the web is read again, with whatever host is read where its host is written. -/
theorem parse_printWith (h : u.IsSettled) (ha : a.IsSettled u.scheme)
    (hhost : Host.IsFound host) :
    parse (String.ofList (u.printWith a host)) =
      (Host.parse host).map fun host => { u with authority := some { a with host } } := by
  have htrim : (((u.printWith a host).dropWhile (·.toNat ≤ 0x20)).reverse.dropWhile
      (·.toNat ≤ 0x20)).reverse = u.printWith a host := by
    have hprint := h.forall_mem_printWith ha hhost
    rw [dropWhile_of_lt hprint, dropWhile_of_lt fun x hx => hprint x (List.mem_reverse.mp hx),
      List.reverse_reverse]
  rw [parse, String.toList_ofList]
  dsimp only
  rw [htrim, printWith, splitScheme_of_isWeb h.scheme]
  dsimp only
  rw [if_neg h.scheme.ne_file, if_pos h.scheme.isSpecial,
    ← h.parseWithAuthority_printWith ha hhost]
  congr 1
  -- The authority does not begin with a slash, so only those before it are left out.
  obtain ⟨x, rest, hx⟩ := List.exists_cons_of_ne_nil (a.printWith_ne_nil hhost)
  have hfirst := ha.forall_mem_printWith hhost x (hx ▸ List.mem_cons_self)
  have hstop : (isSeparator true x || isIgnored x) = false := by
    rw [isIgnored_of_lt hfirst.1, Bool.or_false]
    have := hfirst.2
    simp only [endsAuthority, Bool.or_eq_false_iff] at this
    exact this.1.1
  rw [hx, List.dropWhile_cons_of_pos (by decide), List.dropWhile_cons_of_pos (by decide),
    List.cons_append, List.dropWhile_cons_of_neg (by simp [hstop])]

theorem isSettled_authority (h : u.IsSettled) (ha : u.authority = some a) :
    a.IsSettled u.scheme := by
  obtain ⟨b, hb, hsettled⟩ := h.authority
  obtain rfl := Option.some.inj (hb.symm.trans ha)
  exact hsettled

/-- The text of a URL of the web is read as this URL, with whatever host the text of its host
is read as. -/
theorem parse_print (h : u.IsSettled) (ha : u.authority = some a) :
    parse u.print = (Host.parse a.host.print.toList).map fun host =>
      { u with authority := some { a with host } } := by
  have hsettled := h.isSettled_authority ha
  rw [← h.parse_printWith hsettled hsettled.isFound_host, ← toList_print ha, String.ofList_toList]

/-- So it is read as this URL exactly if the text of the host is read as the host. -/
theorem parse_print_eq_iff (h : u.IsSettled) (ha : u.authority = some a) :
    parse u.print = .ok u ↔ Host.parse a.host.print.toList = .ok a.host := by
  rw [h.parse_print ha]
  cases Host.parse a.host.print.toList with
  | error e => simp [Except.map]
  | ok host =>
    obtain ⟨scheme, authority, isGuarded, path, query, fragment⟩ := u
    obtain ⟨username, password, host', portNumber⟩ := a
    subst ha
    simp [Except.map]

end IsSettled

end

end Reroute.Url
