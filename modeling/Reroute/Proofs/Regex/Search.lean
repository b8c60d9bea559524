import Mathlib.Data.List.Basic
import Reroute.Regex.Basic
import Reroute.Proofs.Regex.Program

/-!
# What a search finds

A search finds a match if there is one, although it goes to every place only once. What
it has seen without success is closed: no step leads out of it but to what is still on
the stack. So when the stack is empty, nothing that was seen leads to success.

## Main definitions

* `Regex.IsPlace` — a thread is within the program and the text
* `Regex.SearchClosed` — no step leads out of what was seen but to the stack

## Main results

* `Regex.reaches_of_explore` — what is found was reached
* `Regex.searchClosed_explore` — what was seen in vain is closed
* `Regex.matches_of_searchProgram`, `Regex.isSome_searchProgram` — the search of a tree
  finds matches only, and finds one if there is any
-/

set_option autoImplicit false

namespace Reroute.Regex

variable {program : Array Inst} {text : Array Char} {t u v : Thread} {seen : Array Bool}

/-! ### What is found -/

/-- What a search of a stack finds was reached from the stack. -/
theorem reaches_of_explore {stack : List Thread} {slots : Slots}
    (h : (explore program text seen stack).1 = some slots) :
    ∃ t ∈ stack, ∃ u, Reaches program text t u ∧ program[u.address]? = some .accept ∧
      u.slots = slots := by
  fun_induction explore program text seen stack with
  -- An empty stack finds nothing.
  | case1 => cases h
  -- A place that was seen is left out.
  | case2 seen t stack _ _ ih =>
    obtain ⟨v, hv, hreached⟩ := ih h
    exact ⟨v, List.mem_cons_of_mem t hv, hreached⟩
  -- The thread on top accepts, or its successors take its place.
  | case3 seen t stack _ _ haccept =>
    exact ⟨t, List.mem_cons_self, t, reaches_refl, haccept, Option.some.inj h⟩
  | case4 seen t stack _ _ _ ih =>
    obtain ⟨v, hv, u, hreached, haccept, hslots⟩ := ih h
    rcases List.mem_append.mp hv with hv | hv
    · exact ⟨t, List.mem_cons_self, u, (reaches_of_mem hv).trans hreached, haccept, hslots⟩
    · exact ⟨v, List.mem_cons_of_mem t hv, u, hreached, haccept, hslots⟩
  -- There is no such place.
  | case5 seen t stack _ ih =>
    obtain ⟨v, hv, hreached⟩ := ih h
    exact ⟨v, List.mem_cons_of_mem t hv, hreached⟩

theorem reaches_of_exploreFrom {positions : List Nat} {slots : Slots}
    (h : exploreFrom program text seen positions = some slots) :
    ∃ p ∈ positions, ∃ u, Reaches program text ⟨0, p, []⟩ u ∧
      program[u.address]? = some .accept ∧ u.slots = slots := by
  induction positions generalizing seen with
  | nil => cases h
  | cons p positions ih =>
    rw [exploreFrom] at h
    split at h
    · rename_i found _ heq
      have hfound : (explore program text seen [⟨0, p, []⟩]).1 = some slots :=
        (congrArg Prod.fst heq).trans h
      obtain ⟨t, ht, hreached⟩ := reaches_of_explore hfound
      obtain rfl := List.mem_singleton.mp ht
      exact ⟨p, List.mem_cons_self, hreached⟩
    · obtain ⟨q, hq, hreached⟩ := ih h
      exact ⟨q, List.mem_cons_of_mem p hq, hreached⟩

/-! ### Places -/

/-- The thread is within the program and the text. -/
def IsPlace (program : Array Inst) (text : Array Char) (t : Thread) : Prop :=
  t.address < program.size ∧ t.position ≤ text.size

/-- Two threads are at the same place. -/
def SamePlace (t u : Thread) : Prop :=
  t.address = u.address ∧ t.position = u.position

/-- No instruction leads out of the program. -/
def IsClosedProgram (program : Array Inst) : Prop :=
  ∀ (a : Nat) (inst : Inst), program[a]? = some inst → ∀ b ∈ inst.targets a, b < program.size

/-- Places are told apart by their numbers. -/
theorem samePlace_of_place_eq (ht : IsPlace program text t) (hu : IsPlace program text u)
    (h : place program t = place program u) : SamePlace t u := by
  have haddress (v : Thread) (hv : v.address < program.size) :
      place program v % program.size = v.address := by
    rw [place, Nat.add_comm, Nat.add_mul_mod_self_right, Nat.mod_eq_of_lt hv]
  have hposition (v : Thread) (hv : v.address < program.size) :
      place program v / program.size = v.position := by
    rw [place, Nat.add_comm, Nat.add_mul_div_right _ _ (by omega), Nat.div_eq_of_lt hv,
      Nat.zero_add]
  constructor
  · rw [← haddress t ht.1, h, haddress u hu.1]
  · rw [← hposition t ht.1, h, hposition u hu.1]

theorem SamePlace.place_eq (h : SamePlace t u) : place program t = place program u := by
  rw [place, place, h.1, h.2]

theorem IsPlace.place_lt (h : IsPlace program text t) :
    place program t < (text.size + 1) * program.size := by
  obtain ⟨haddress, hposition⟩ := h
  have hmul : t.position * program.size ≤ text.size * program.size :=
    Nat.mul_le_mul_right _ hposition
  rw [place, Nat.succ_mul]
  omega

/-- Where a thread goes does not depend on what it remembers. -/
theorem SamePlace.exists_successor (h : SamePlace t u) (hv : v ∈ successors program text t) :
    ∃ w ∈ successors program text u, SamePlace v w := by
  obtain ⟨a, p, s⟩ := t
  obtain ⟨b, q, s'⟩ := u
  obtain ⟨rfl, rfl⟩ : a = b ∧ p = q := h
  -- Both have successors at the same places, in the same order.
  have hmap : (successors program text ⟨a, p, s⟩).map (fun x => (x.address, x.position)) =
      (successors program text ⟨a, p, s'⟩).map (fun x => (x.address, x.position)) := by
    unfold successors
    cases program[a]? with
    | none => rfl
    | some inst =>
      cases inst with
      | char | set | look =>
        dsimp only
        split_ifs <;> rfl
      | accept | save | split | jump => rfl
  have hmem : (v.address, v.position) ∈
      (successors program text ⟨a, p, s'⟩).map (fun x => (x.address, x.position)) :=
    hmap ▸ List.mem_map_of_mem hv
  obtain ⟨w, hw, heq⟩ := List.mem_map.mp hmem
  obtain ⟨haddress, hposition⟩ := Prod.ext_iff.mp heq
  exact ⟨w, hw, haddress.symm, hposition.symm⟩

/-- Threads that begin within the program and the text stay there. -/
theorem IsPlace.successor (hprogram : IsClosedProgram program) (ht : IsPlace program text t)
    (hu : u ∈ successors program text t) : IsPlace program text u := by
  obtain ⟨inst, hinst⟩ : ∃ inst, program[t.address]? = some inst :=
    ⟨_, Array.getElem?_eq_getElem ht.1⟩
  refine ⟨hprogram _ _ hinst _ (address_mem_targets hinst hu), ?_⟩
  -- Only where there is a character a thread goes on in the text.
  unfold successors at hu
  rw [hinst] at hu
  cases inst with
  | accept => cases hu
  | char x =>
    dsimp only at hu
    split_ifs at hu with hx
    · obtain rfl := List.mem_singleton.mp hu
      exact lt_size_of_eq_some hx
    · cases hu
  | set chars =>
    dsimp only at hu
    split_ifs at hu with hx
    · obtain rfl := List.mem_singleton.mp hu
      exact lt_size_of_any hx
    · cases hu
  | look =>
    dsimp only at hu
    split_ifs at hu
    · obtain rfl := List.mem_singleton.mp hu
      exact ht.2
    · cases hu
  | save | jump =>
    obtain rfl := List.mem_singleton.mp hu
    exact ht.2
  | split => rcases List.mem_pair.mp hu with rfl | rfl <;> exact ht.2

/-! ### What was seen -/

/-- A thread has been at this place. -/
def Seen (program : Array Inst) (seen : Array Bool) (t : Thread) : Prop :=
  seen[place program t]? = some true

/-- No thread that was seen accepts, and no step leads from one that was seen but to
another or to the stack. -/
def SearchClosed (program : Array Inst) (text : Array Char) (seen : Array Bool)
    (stack : List Thread) : Prop :=
  ∀ t, IsPlace program text t → Seen program seen t → program[t.address]? ≠ some .accept ∧
    ∀ u ∈ successors program text t, Seen program seen u ∨ ∃ v ∈ stack, SamePlace u v

theorem SamePlace.isSeen (h : SamePlace t u) (hu : Seen program seen u) : Seen program seen t := by
  rwa [Seen, h.place_eq]

theorem seen_set_self (h : place program t < seen.size) :
    Seen program (seen.set (place program t) true) t := by
  simp [Seen, h]

theorem Seen.set {i : Nat} (hi : i < seen.size) (h : Seen program seen u) :
    Seen program (seen.set i true) u := by
  rw [Seen, Array.getElem?_set]
  split_ifs
  · rfl
  · exact h

theorem place_eq_or_seen_of_set {i : Nat} (hi : i < seen.size)
    (h : Seen program (seen.set i true) u) : place program u = i ∨ Seen program seen u := by
  rw [Seen, Array.getElem?_set] at h
  split_ifs at h with heq
  · exact .inl heq.symm
  · exact .inr h

/-- A place that was seen is taken off the stack. -/
theorem SearchClosed.pop {stack : List Thread} (h : SearchClosed program text seen (t :: stack))
    (ht : Seen program seen t) : SearchClosed program text seen stack := by
  intro u hu hseen
  obtain ⟨haccept, hsteps⟩ := h u hu hseen
  refine ⟨haccept, fun v hv => ?_⟩
  rcases hsteps v hv with hv | ⟨w, hw, hsame⟩
  · exact .inl hv
  · rcases List.mem_cons.mp hw with rfl | hw
    · exact .inl (hsame.isSeen ht)
    · exact .inr ⟨w, hw, hsame⟩

/-- A place that is seen is replaced on the stack by where it leads. -/
theorem SearchClosed.push {stack : List Thread} (h : SearchClosed program text seen (t :: stack))
    (ht : IsPlace program text t) (hlt : place program t < seen.size)
    (haccept : program[t.address]? ≠ some .accept) :
    SearchClosed program text (seen.set (place program t) true)
      (successors program text t ++ stack) := by
  intro u hu hseen
  rcases place_eq_or_seen_of_set hlt hseen with heq | hseen
  -- Where the new place leads was put on the stack, and what led to it leads to a seen place.
  · have hsame : SamePlace u t := samePlace_of_place_eq hu ht heq
    refine ⟨hsame.1 ▸ haccept, fun v hv => .inr ?_⟩
    obtain ⟨w, hw, hvw⟩ := hsame.exists_successor hv
    exact ⟨w, List.mem_append_left _ hw, hvw⟩
  · obtain ⟨haccept, hsteps⟩ := h u hu hseen
    refine ⟨haccept, fun v hv => ?_⟩
    rcases hsteps v hv with hv | ⟨w, hw, hsame⟩
    · exact .inl (hv.set hlt)
    · rcases List.mem_cons.mp hw with rfl | hw
      · exact .inl (hsame.isSeen (seen_set_self hlt))
      · exact .inr ⟨w, List.mem_append_right _ hw, hsame⟩

/-- A search in vain has seen the whole stack, and what it has seen is closed. -/
theorem searchClosed_explore (hprogram : IsClosedProgram program) {stack : List Thread}
    (hsize : seen.size = (text.size + 1) * program.size)
    (hstack : ∀ t ∈ stack, IsPlace program text t)
    (hclosed : SearchClosed program text seen stack)
    (h : (explore program text seen stack).1 = none) :
    (explore program text seen stack).2.size = seen.size ∧
      SearchClosed program text (explore program text seen stack).2 [] ∧
      (∀ t, Seen program seen t → Seen program (explore program text seen stack).2 t) ∧
      ∀ t ∈ stack, Seen program (explore program text seen stack).2 t := by
  -- The invariant is that what was seen is closed up to the stack.
  fun_induction explore program text seen stack with
  | case1 seen => exact ⟨rfl, hclosed, fun _ => id, by simp⟩
  | case2 seen t stack hlt hseen ih =>
    have ht : Seen program seen t := by rw [Seen, Array.getElem?_eq_getElem hlt, hseen]
    obtain ⟨hsize', hclosed', hmono, hall⟩ :=
      ih hsize (fun u hu => hstack u (List.mem_cons_of_mem t hu)) (hclosed.pop ht) h
    exact ⟨hsize', hclosed', hmono, List.forall_mem_cons.mpr ⟨hmono t ht, hall⟩⟩
  | case3 => cases h
  | case4 seen t stack hlt _ haccept ih =>
    obtain ⟨ht, hrest⟩ := List.forall_mem_cons.mp hstack
    obtain ⟨hsize', hclosed', hmono, hall⟩ :=
      ih (by rw [Array.size_set, hsize])
        (List.forall_mem_append.mpr ⟨fun u hu => ht.successor hprogram hu, hrest⟩)
        (hclosed.push ht hlt haccept) h
    rw [Array.size_set] at hsize'
    refine ⟨hsize', hclosed', fun u hu => hmono u (hu.set hlt), List.forall_mem_cons.mpr ⟨?_, ?_⟩⟩
    · exact hmono t (seen_set_self hlt)
    · exact (List.forall_mem_append.mp hall).2
  | case5 seen t stack hge ih =>
    -- Every thread of the stack is at a place.
    obtain ⟨ht, -⟩ := List.forall_mem_cons.mp hstack
    exact absurd (hsize ▸ ht.place_lt) hge

/-- From what was seen in vain nothing leads to success. -/
theorem SearchClosed.not_accept (h : SearchClosed program text seen [])
    (hprogram : IsClosedProgram program) (ht : IsPlace program text t)
    (hseen : Seen program seen t) (hreaches : Reaches program text t u) :
    program[u.address]? ≠ some .accept := by
  obtain ⟨k, hrun⟩ := hreaches
  induction k generalizing t with
  | zero =>
    obtain rfl : t = u := hrun
    exact (h t ht hseen).1
  | succ k ih =>
    obtain ⟨v, hv, hrun⟩ := hrun
    have hseen : Seen program seen v := by
      simpa using (h t ht hseen).2 v hv
    exact ih (ht.successor hprogram hv) hseen hrun

theorem not_accept_of_exploreFrom (hprogram : IsClosedProgram program) (hpos : 0 < program.size)
    {positions : List Nat} (hsize : seen.size = (text.size + 1) * program.size)
    (hpositions : ∀ p ∈ positions, p ≤ text.size) (hclosed : SearchClosed program text seen [])
    (h : exploreFrom program text seen positions = none) :
    ∀ p ∈ positions, ∀ u, Reaches program text ⟨0, p, []⟩ u →
      program[u.address]? ≠ some .accept := by
  induction positions generalizing seen with
  | nil => simp
  | cons p positions ih =>
    obtain ⟨hp, hrest⟩ := List.forall_mem_cons.mp hpositions
    have hplace : IsPlace program text ⟨0, p, []⟩ := ⟨hpos, hp⟩
    -- What was seen from the positions before stays closed with one more thread.
    have hstart : SearchClosed program text seen [⟨0, p, []⟩] := fun t ht hseen =>
      ⟨(hclosed t ht hseen).1, fun u hu => .inl (by simpa using (hclosed t ht hseen).2 u hu)⟩
    rw [exploreFrom] at h
    split at h
    · cases h
    · rename_i seen' heq
      have hexplored := searchClosed_explore hprogram hsize (by simpa using hplace) hstart
        (congrArg Prod.fst heq)
      rw [heq] at hexplored
      obtain ⟨hsize', hclosed', -, hall⟩ := hexplored
      refine List.forall_mem_cons.mpr ⟨fun u hu => ?_, ih (hsize'.trans hsize) hrest hclosed' h⟩
      exact hclosed'.not_accept hprogram hplace (hall _ (List.mem_singleton.mpr rfl)) hu

/-! ### Trees -/

namespace Node

variable {node : Node}

theorem placed_program : Placed node.program 0 ((capture 0 node).code 0 ++ [.accept]) :=
  placed_toArray _

theorem size_program : node.program.size = (capture 0 node).size + 1 := by
  rw [program, List.size_toArray, List.length_append, length_code]
  rfl

theorem getElem?_program_end : node.program[(capture 0 node).size]? = some .accept := by
  have hplaced : Placed node.program 0 ((capture 0 node).code 0 ++ [.accept]) := placed_program
  have h := (placed_append.mp hplaced).2
  rw [length_code, Nat.zero_add] at h
  exact h.1

theorem isClosedProgram : IsClosedProgram node.program := by
  intro a inst hinst b hb
  have hleads : LeadsUpTo (capture 0 node).size 0 ((capture 0 node).code 0 ++ [.accept]) := by
    refine leadsUpTo_append.mpr ⟨?_, by simp [LeadsUpTo, Inst.targets]⟩
    have h := (capture 0 node).leadsUpTo_code 0
    rwa [Nat.zero_add] at h
  have hle : b ≤ (capture 0 node).size := by
    rw [program, List.getElem?_toArray] at hinst
    exact hleads.targets_le hinst b (by rwa [Nat.zero_add])
  rw [size_program]
  omega

theorem accept_not_mem_copies {block : Nat → List Inst} {size : Nat}
    (h : ∀ a, Inst.accept ∉ block a) (count a : Nat) :
    Inst.accept ∉ copies block size count a := by
  induction count generalizing a with
  | zero => exact List.not_mem_nil
  | succ count ih =>
    rw [copies, List.mem_append]
    rintro (hmem | hmem)
    · exact h a hmem
    · exact ih _ hmem

theorem accept_ne_loop {greedy : Bool} {on out : Nat} : Inst.accept ≠ .loop greedy on out := by
  cases greedy <;> simp [Inst.loop]

theorem accept_not_mem_code (node : Node) (a : Nat) : Inst.accept ∉ node.code a := by
  induction node generalizing a with
  | empty | char | set | look => simp [code]
  | capture index body ih => simp [code, ih]
  | seq first second ih ih' | alt first second ih ih' => simp [code, ih, ih']
  | times count body ih => exact accept_not_mem_copies ih count a
  | upTo count greedy body ih =>
    exact accept_not_mem_copies (fun a => by simp [accept_ne_loop, ih]) count a
  | plus greedy body ih => simp [code, accept_ne_loop, ih]

/-- The only instruction that accepts is the last one. -/
theorem address_of_accept {a : Nat} (h : node.program[a]? = some .accept) :
    a = (capture 0 node).size := by
  rw [program, List.getElem?_toArray] at h
  rcases Nat.lt_or_ge a ((capture 0 node).code 0).length with hlt | hge
  · rw [List.getElem?_append_left hlt] at h
    exact absurd (List.mem_of_getElem? h) ((capture 0 node).accept_not_mem_code 0)
  · rw [List.getElem?_append_right hge] at h
    rw [length_code] at hge h
    by_contra hne
    rw [List.getElem?_eq_none (by rw [List.length_singleton]; omega)] at h
    cases h

/-- A thread that accepts goes nowhere. -/
theorem eq_of_run_of_accept {k : Nat} (haccept : program[t.address]? = some .accept)
    (h : Run program text k t u) : t = u := by
  cases k with
  | zero => exact h
  | succ k =>
    obtain ⟨v, hv, -⟩ := h
    rw [successors, haccept] at hv
    cases hv

end Node

open Node

/-- What the search of a tree finds is a match of the tree. -/
theorem matches_of_searchProgram {node : Node} {slots : Slots}
    (h : searchProgram node.program text = some slots) :
    ∃ p q, p ≤ text.size ∧ (Node.capture 0 node).Matches text p [] q slots := by
  -- The run gets to the only instruction that accepts, and so through the code of the tree.
  obtain ⟨p, hp, u, ⟨k, hrun⟩, haccept, rfl⟩ := reaches_of_exploreFrom h
  have hu := address_of_accept haccept
  obtain ⟨j, v, -, hv, hmatches, hrun⟩ :=
    matches_of_run (placed_append.mp placed_program).1 rfl (by omega) hrun
  have hv : node.program[v.address]? = some .accept := by
    rw [hv, Nat.zero_add, getElem?_program_end]
  obtain rfl := eq_of_run_of_accept hv hrun
  exact ⟨p, v.position, Nat.lt_succ_iff.mp (List.mem_range.mp hp), hmatches⟩

/-- The search of a tree finds a match if there is one. -/
theorem isSome_searchProgram {node : Node} {p q : Nat} {slots : Slots} (hp : p ≤ text.size)
    (h : (Node.capture 0 node).Matches text p [] q slots) :
    (searchProgram node.program text).isSome := by
  -- Otherwise a thread that is led through the code would have been seen in vain.
  by_contra hnone
  rw [Option.not_isSome_iff_eq_none] at hnone
  have hclosed : SearchClosed node.program text
      (Array.replicate ((text.size + 1) * node.program.size) false) [] := by
    intro t ht hseen
    rw [Seen, Array.getElem?_replicate] at hseen
    split_ifs at hseen
    cases hseen
  have hreaches := h.reaches (placed_append.mp placed_program).1
  refine not_accept_of_exploreFrom isClosedProgram (by rw [size_program]; omega)
    (Array.size_replicate) (fun p hp => ?_) hclosed hnone p ?_ _ hreaches ?_
  · exact Nat.lt_succ_iff.mp (List.mem_range.mp hp)
  · exact List.mem_range.mpr (Nat.lt_succ_of_le hp)
  · dsimp only
    rw [Nat.zero_add, getElem?_program_end]

end Reroute.Regex
