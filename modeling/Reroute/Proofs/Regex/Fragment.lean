import Reroute.Proofs.Regex.Token
import Reroute.Regex.Basic

/-!
# Regular expressions within others

A regular expression that sets no flags and names no groups reads in the middle of another one
just as it reads alone, unless groups get too deep there. The reader that is in the middle does
the same as one that began with the part, only with more around it: of what was there before,
no group is closed and nothing is repeated.

## Main definitions

* `Regex.IsSelfContained`, `Regex.IsSequence` — regular expressions that can be put into others
* `Builder.stack`, `Regex.Mirrors` — the open groups of a reader, and those of one in the middle

## Main results

* `Regex.apply_of_mirrors`, `Regex.run_of_tokens` — a token, and all of them, in the middle
* `Regex.IsSelfContained.run_eq` — a whole regular expression in the middle
-/

set_option autoImplicit false

namespace Reroute.Regex

variable {b c d e r next : Builder} {x : Char} {rest t text : List Char} {tokens : List Token}

/-! ### Steps -/

theorem run_of_skip (hskip : b.flags.skip b.rest = x :: rest) :
    b.run =
      match b.step x rest with
      | .error e => .error e
      | .ok next => if next.rest.length < b.rest.length then next.run else .error .unsupported := by
  have hrun := Builder.run.eq_1 b
  rw [hskip] at hrun
  exact hrun

theorem run_cons (hflags : b.flags = {}) (hrest : b.rest = x :: rest) :
    b.run =
      match b.step x rest with
      | .error e => .error e
      | .ok next => if next.rest.length < b.rest.length then next.run else .error .unsupported :=
  run_of_skip (by rw [hflags, hrest, skip_default])

/-- The reader goes on behind a step that leaves less to read. -/
theorem run_eq_of_step (hflags : b.flags = {}) (hrest : b.rest = x :: rest)
    (hstep : b.step x rest = .ok next) (hlt : next.rest.length < b.rest.length) :
    b.run = next.run := by
  rw [run_cons hflags hrest, hstep]
  exact if_pos hlt

theorem run_eq_error (hflags : b.flags = {}) (hrest : b.rest = x :: rest) {e : Error}
    (hstep : b.step x rest = .error e) : b.run = .error e := by
  rw [run_cons hflags hrest, hstep]

/-- A reader that gets to the end has taken its next step, which leaves less to read. -/
theorem exists_step_of_skip (h : b.run = .ok r) (hskip : b.flags.skip b.rest = x :: rest) :
    ∃ next, b.step x rest = .ok next ∧ next.rest.length < b.rest.length ∧ next.run = .ok r := by
  rw [run_of_skip hskip] at h
  cases hstep : b.step x rest with
  | error e =>
    rw [hstep] at h
    cases h
  | ok next =>
    rw [hstep] at h
    dsimp only at h
    split_ifs at h with hlt
    exact ⟨next, rfl, hlt, h⟩

theorem exists_step_of_run (h : b.run = .ok r) (hflags : b.flags = {})
    (hrest : b.rest = x :: rest) :
    ∃ next, b.step x rest = .ok next ∧ next.rest.length < b.rest.length ∧ next.run = .ok r :=
  exists_step_of_skip h (by rw [hflags, hrest, skip_default])

theorem run_of_step (h : b.run = .ok r) (hflags : b.flags = {}) (hrest : b.rest = x :: rest)
    (hstep : b.step x rest = .ok next) : next.run = .ok r := by
  obtain ⟨next', hstep', -, hrun⟩ := exists_step_of_run h hflags hrest
  obtain rfl : next = next' := Except.ok.inj (hstep.symm.trans hstep')
  exact hrun

/-! ### Open groups -/

/-- What is around the place of a reader: the group that is being read, and those around it. -/
def Builder.stack (b : Builder) : List Frame :=
  ⟨none, b.flags, b.branches, b.items⟩ :: b.outer

/-- The same group for a reader that began with a part of a text and for one in the middle:
if there is something to repeat for the one, there is for the other. -/
def Frame.Mirrors (f g : Frame) : Prop :=
  f.flags = {} ∧ g.flags = {} ∧ f.items.length ≤ g.items.length

/-- As long as there are no alternatives, the pieces of the part stand behind those that were
there before it. -/
def Frame.Continues (c : Builder) (f g : Frame) : Prop :=
  f.branches = [] →
    g.branches = c.branches ∧ ∃ pieces, pieces.length = f.items.length ∧ g.items = pieces ++ c.items

/-- The open groups of a reader that began with a part of a text, and those of a reader that
came to the part as `c`. -/
def Mirrors (c : Builder) : List Frame → List Frame → Prop
  | [f], g :: gs => f.Mirrors g ∧ f.Continues c g ∧ gs = c.outer
  | f :: f' :: fs, g :: gs => f.Mirrors g ∧ Mirrors c (f' :: fs) gs
  | _, _ => False

section Mirrors

variable {f g f' g' : Frame} {fs gs : List Frame}

/-- The innermost group changes for both. -/
theorem Mirrors.update (h : Mirrors c (f :: fs) (g :: gs)) (hmirrors : f.Mirrors g → f'.Mirrors g')
    (hcontinues : f.Continues c g → f'.Continues c g') : Mirrors c (f' :: fs) (g' :: gs) := by
  cases fs with
  | nil => exact ⟨hmirrors h.1, hcontinues h.2.1, h.2.2⟩
  | cons _ _ => exact ⟨hmirrors h.1, h.2⟩

theorem Mirrors.head (h : Mirrors c (f :: fs) (g :: gs)) : f.Mirrors g := by
  cases fs with
  | nil => exact h.1
  | cons _ _ => exact h.1

theorem Mirrors.exists_cons (h : Mirrors c fs gs) : ∃ g gs', gs = g :: gs' := by
  match fs, gs, h with
  | [_], g :: gs, _ => exact ⟨g, gs, rfl⟩
  | _ :: _ :: _, g :: gs, _ => exact ⟨g, gs, rfl⟩

/-- One more piece for both. -/
theorem Mirrors.push (h : Mirrors c (f :: fs) (g :: gs)) (p q : Piece)
    (capture capture' : Option Nat) :
    Mirrors c (⟨capture, f.flags, f.branches, p :: f.items⟩ :: fs)
      (⟨capture', g.flags, g.branches, q :: g.items⟩ :: gs) := by
  refine h.update (fun ⟨hf, hg, hle⟩ => ⟨hf, hg, Nat.succ_le_succ hle⟩) fun hcontinues hnil => ?_
  obtain ⟨hbranches, pieces, hlength, hitems⟩ := hcontinues hnil
  exact ⟨hbranches, q :: pieces, congrArg Nat.succ hlength, congrArg (q :: ·) hitems⟩

/-- The last piece is replaced for both. -/
theorem Mirrors.replace {p q : Piece} {ps qs : List Piece} (h : Mirrors c (f :: fs) (g :: gs))
    (hf : f.items = p :: ps) (hg : g.items = q :: qs) (p' q' : Piece)
    (capture capture' : Option Nat) :
    Mirrors c (⟨capture, f.flags, f.branches, p' :: ps⟩ :: fs)
      (⟨capture', g.flags, g.branches, q' :: qs⟩ :: gs) := by
  refine h.update (fun ⟨hflags, hflags', hle⟩ => ⟨hflags, hflags', ?_⟩) fun hcontinues hnil => ?_
  · rw [hf, hg] at hle
    exact hle
  · -- The piece of the part is the last one that stands behind those from before.
    obtain ⟨hbranches, pieces, hlength, hitems⟩ := hcontinues hnil
    rw [hf] at hlength
    obtain ⟨q'', pieces, rfl⟩ := List.exists_cons_of_length_eq_add_one hlength
    rw [hg, List.cons_append, List.cons.injEq] at hitems
    exact ⟨hbranches, q' :: pieces, hlength, congrArg (q' :: ·) hitems.2⟩

end Mirrors

/-- A group that is opened in the middle has more groups around it. -/
theorem openGroup_of_mirrors {capture capture' : Option Nat} {rest' : List Char}
    (h : Mirrors c d.stack e.stack) (hd : d.openGroup capture d.flags rest = .ok next) :
    e.openGroup capture' e.flags rest' = .error .tooDeep ∨
      ∃ next', e.openGroup capture' e.flags rest' = .ok next' ∧ next'.names = e.names ∧
        Mirrors c next.stack next'.stack := by
  obtain ⟨hf, hg, -⟩ := h.head
  rw [Builder.openGroup] at hd ⊢
  split_ifs at hd
  cases hd
  split_ifs
  · exact .inr ⟨_, rfl, rfl, ⟨hf, hg, Nat.le_refl _⟩, h.update id id⟩
  · exact .inl rfl

/-- A token does the same in the middle of a text. -/
theorem apply_of_mirrors {token : Token} (h : Mirrors c d.stack e.stack)
    (hd : token.apply d rest = .ok next) (rest' : List Char) :
    token.apply e rest' = .error .tooDeep ∨
      ∃ next', token.apply e rest' = .ok next' ∧ next'.names = e.names ∧
        Mirrors c next.stack next'.stack := by
  cases token with
  | operand node =>
    cases hd
    exact .inr ⟨_, rfl, rfl, h.push _ _ none none⟩
  | bar =>
    cases hd
    refine .inr ⟨_, rfl, rfl, h.update (fun ⟨hf, hg, _⟩ => ⟨hf, hg, Nat.zero_le _⟩) ?_⟩
    rintro - ⟨⟩
  | opening remembered =>
    cases remembered with
    | true =>
      exact openGroup_of_mirrors (d := { d with groups := d.groups + 1 })
        (e := { e with groups := e.groups + 1 }) h hd
    | false => exact openGroup_of_mirrors h hd
  | closing =>
    rw [Token.apply, Builder.closeGroup] at hd ⊢
    cases houter : d.outer with
    | nil =>
      rw [houter] at hd
      cases hd
    | cons f fs =>
      rw [houter] at hd
      cases hd
      rw [Builder.stack, houter, Builder.stack] at h
      -- The group around the one that ends is open for the other reader as well.
      obtain ⟨g, gs, houter'⟩ := h.2.exists_cons
      rw [houter'] at h ⊢
      exact .inr ⟨_, rfl, rfl, h.2.push _ _ none none⟩
  | repetition least most isLazy =>
    have hle : d.items.length ≤ e.items.length := h.head.2.2
    rw [Token.apply] at hd ⊢
    cases hitems : d.items with
    | nil =>
      rw [hitems] at hd
      cases hd
    | cons p ps =>
      -- So there is something to repeat in the middle too.
      obtain ⟨q, qs, hitems'⟩ :=
        List.exists_cons_of_length_pos (Nat.lt_of_lt_of_le (by simp [hitems]) hle)
      rw [hitems] at hd
      rw [hitems']
      dsimp only at hd ⊢
      split_ifs at hd ⊢
      cases hd
      exact .inr ⟨_, rfl, rfl, h.replace hitems hitems' _ _ none none⟩

/-- A text in the middle is read like the text alone. -/
theorem run_of_tokens (htokens : Tokens text tokens) (ht : Separated t)
    (h : Mirrors c d.stack e.stack) (hd : d.rest = text) (he : e.rest = text ++ t)
    (hrun : d.run = .ok r) :
    e.run = .error .tooDeep ∨
      ∃ f : Builder, e.run = f.run ∧ f.rest = t ∧ f.names = e.names ∧
        Mirrors c r.stack f.stack := by
  induction htokens generalizing d e with
  | nil =>
    have hflags : d.flags = {} := h.head.1
    rw [Builder.run, hflags, hd] at hrun
    cases hrun
    rw [Builder.stack, hflags] at h
    exact .inr ⟨e, rfl, he, rfl, h⟩
  | @cons x rest rest' token tokens first _ ih =>
    obtain ⟨hf, hg, -⟩ := h.head
    obtain ⟨next, hstep, hlt, hrun⟩ := exists_step_of_run hrun hf hd
    rw [step_eq_apply hf first] at hstep
    rw [rest_of_apply hstep, hd] at hlt
    -- The token is the same one with `t` at the end, and both readers take it or one is too deep.
    have first' := readToken?_append ht first
    obtain hdeep | ⟨next', hstep', hnames, hnext⟩ := apply_of_mirrors h hstep (rest' ++ t)
    · exact .inl (run_eq_error hg he ((step_eq_apply hg first').trans hdeep))
    · have hrun' : e.run = next'.run :=
        run_eq_of_step hg he ((step_eq_apply hg first').trans hstep')
          (by
            rw [rest_of_apply hstep', he, List.length_append, List.length_append]
            exact Nat.add_lt_add_right hlt _)
      obtain hdeep | ⟨f, hf, hrest, hnames', hmirrors⟩ :=
        ih hnext (rest_of_apply hstep) (rest_of_apply hstep') hrun
      · exact .inl (hrun'.trans hdeep)
      · exact .inr ⟨f, hrun'.trans hf, hrest, hnames'.trans hnames, hmirrors⟩

/-! ### Regular expressions on their own -/

/-- A regular expression on its own, which sets no flags and names no groups. -/
structure IsSelfContained (text : String) : Prop where
  compiles : ∃ regex, compile text = .ok regex
  tokens : ∃ tokens, Tokens text.toList tokens

/-- A self-contained regular expression without alternatives, other than in its groups. -/
structure IsSequence (text : String) : Prop extends IsSelfContained text where
  branches : ∀ r, Builder.run { rest := text.toList } = .ok r → r.branches = []

/-- What is read is read to its end, has all its groups closed, and keeps to the limits. -/
theorem parse_eq_ok_iff {text : String} {node : Node} {names : List (String × Nat)} :
    parse text = .ok (node, names) ↔
      ∃ r, Builder.run { rest := text.toList } = .ok r ∧ r.outer = [] ∧
        r.inner.height ≤ maxHeight ∧ r.inner.total r.groups r.names ≤ maxFootprint ∧
        r.inner.node = node ∧ r.names = names := by
  unfold parse
  cases Builder.run { rest := text.toList } with
  | error e =>
    constructor
    · rintro ⟨⟩
    · rintro ⟨r, ⟨⟩, -⟩
  | ok r =>
    change (if r.outer.isEmpty then
      if maxHeight < r.inner.height then Except.error Error.tooDeep
      else if maxFootprint < r.inner.total r.groups r.names then Except.error Error.tooLarge
      else Except.ok (r.inner.node, r.names)
      else Except.error Error.unclosedGroup) = _ ↔ _
    split_ifs with houter hheight htotal
    · simp [Nat.not_le.mpr hheight]
    · simp [Nat.not_le.mpr htotal]
    · simp [List.isEmpty_iff.mp houter, Nat.not_lt.mp hheight, Nat.not_lt.mp htotal]
    · simp [mt List.isEmpty_iff.mpr houter]

/-- What can be compiled is read to its end, and all its groups are closed. -/
theorem exists_run_of_compile {text : String} {regex : Regex} (h : compile text = .ok regex) :
    ∃ r, Builder.run { rest := text.toList } = .ok r ∧ r.outer = [] := by
  unfold compile at h
  cases hparse : parse text with
  | error e =>
    rw [hparse] at h
    cases h
  | ok result =>
    obtain ⟨r, hrun, houter, -⟩ := parse_eq_ok_iff.mp hparse
    exact ⟨r, hrun, houter⟩

/-- There is nothing to repeat at the beginning of a regular expression. -/
theorem IsSelfContained.separated {text : String} (h : IsSelfContained text) (ht : Separated t) :
    Separated (text.toList ++ t) := by
  obtain ⟨regex, hcompile⟩ := h.compiles
  obtain ⟨r, hrun, -⟩ := exists_run_of_compile hcompile
  cases htext : text.toList with
  | nil => exact ht
  | cons x rest =>
    rw [htext, run_cons rfl rfl] at hrun
    refine separated_cons ⟨?_, ?_⟩ _
    all_goals
      rintro rfl
      cases hrun

/-- A self-contained regular expression reads in the middle of another one like alone: what
was there before stays as it was. -/
theorem IsSelfContained.run_eq {text : String} (h : IsSelfContained text) (ht : Separated t)
    (hflags : b.flags = {}) (hrest : b.rest = text.toList ++ t) :
    b.run = .error .tooDeep ∨
      ∃ r f : Builder, Builder.run { rest := text.toList } = .ok r ∧ b.run = f.run ∧
        f.rest = t ∧ f.flags = {} ∧ f.names = b.names ∧ f.outer = b.outer ∧
          (r.branches = [] → f.branches = b.branches ∧ ∃ pieces, f.items = pieces ++ b.items) := by
  obtain ⟨regex, hcompile⟩ := h.compiles
  obtain ⟨tokens, htokens⟩ := h.tokens
  obtain ⟨r, hrun, houter⟩ := exists_run_of_compile hcompile
  have hmirrors : Mirrors b (Builder.stack { rest := text.toList }) b.stack :=
    ⟨⟨rfl, hflags, Nat.zero_le _⟩, fun _ => ⟨rfl, [], rfl, rfl⟩, rfl⟩
  obtain hdeep | ⟨f, hf, hrest', hnames, hmirrors⟩ :=
    run_of_tokens htokens ht hmirrors rfl hrest hrun
  · exact .inl hdeep
  · rw [Builder.stack, houter] at hmirrors
    obtain ⟨⟨-, hflags', -⟩, hcontinues, houter'⟩ := hmirrors
    refine .inr ⟨r, f, hrun, hf, hrest', hflags', hnames, houter', fun hnil => ?_⟩
    obtain ⟨hbranches, pieces, -, hitems⟩ := hcontinues hnil
    exact ⟨hbranches, pieces, hitems⟩

end Reroute.Regex
