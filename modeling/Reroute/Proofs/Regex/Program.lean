import Mathlib.Data.List.Basic
import Reroute.Proofs.Regex.Matching

/-!
# What programs match

The code of a tree is entered at its beginning and left at its end only. A thread gets
from the one to the other exactly if the tree matches between its positions then.

## Main definitions

* `Regex.Placed` — a program holds code from an address on
* `Regex.Run`, `Regex.Reaches` — a thread goes somewhere, in a number of steps

## Main results

* `Node.matches_of_run` — a thread that leaves the code of a tree has found a match
* `Node.Matches.reaches` — what a tree matches leads a thread through its code
* `Node.leadsUpTo_code` — code leads nowhere but to itself and to its end
-/

set_option autoImplicit false

namespace Reroute.Regex

variable {program : Array Inst} {text : Array Char} {a : Nat} {t u v : Thread}

/-! ### Code in a program -/

/-- The program holds the code from the address on. -/
def Placed (program : Array Inst) : Nat → List Inst → Prop
  | _, [] => True
  | a, inst :: code => program[a]? = some inst ∧ Placed program (a + 1) code

theorem placed_cons {inst : Inst} {code : List Inst} :
    Placed program a (inst :: code) ↔
      program[a]? = some inst ∧ Placed program (a + 1) code := Iff.rfl

theorem placed_append {code code' : List Inst} :
    Placed program a (code ++ code') ↔
      Placed program a code ∧ Placed program (a + code.length) code' := by
  induction code generalizing a with
  | nil => simp [Placed]
  | cons inst code ih =>
    rw [List.cons_append, placed_cons, placed_cons, ih, List.length_cons, and_assoc,
      Nat.add_assoc, Nat.add_comm 1]

theorem placed_toArray (code : List Inst) : Placed code.toArray 0 code := by
  -- The induction is on what is left of the code behind some front part.
  suffices h : ∀ front rest : List Inst, Placed (front ++ rest).toArray front.length rest from
    h [] code
  intro front rest
  induction rest generalizing front with
  | nil => trivial
  | cons inst rest ih =>
    have hrest := ih (front ++ [inst])
    rw [List.append_assoc, List.singleton_append, List.length_append] at hrest
    exact ⟨by simp, hrest⟩

namespace Node

attribute [local simp] size copies code

theorem length_copies {block : Nat → List Inst} {size : Nat} (h : ∀ a, (block a).length = size)
    (count a : Nat) : (copies block size count a).length = count * size := by
  induction count generalizing a with
  | zero => simp
  | succ count ih => rw [copies, List.length_append, h, ih, Nat.succ_mul, Nat.add_comm]

/-- A tree has as many instructions as its size says. -/
theorem length_code (node : Node) (a : Nat) : (node.code a).length = node.size := by
  induction node generalizing a with
  | empty | char | set | look => rfl
  | capture index body ih => simp [ih]
  | seq first second ih ih' => simp [ih, ih']
  | alt first second ih ih' =>
    simp only [code, size, List.length_cons, List.length_append, ih, ih']
    omega
  | times count body ih => exact length_copies ih count a
  | upTo count greedy body ih => exact length_copies (fun a => by simp [ih]) count a
  | plus greedy body ih => simp [ih]

section Placed

variable {body first second : Node} {count : Nat} {greedy : Bool}

theorem placed_capture {index : Nat} :
    Placed program a ((capture index body).code a) ↔
      program[a]? = some (.save (2 * index)) ∧ Placed program (a + 1) (body.code (a + 1)) ∧
        program[a + 1 + body.size]? = some (.save (2 * index + 1)) := by
  rw [code, placed_cons, placed_append, length_code, placed_cons]
  simp [Placed]

theorem placed_seq :
    Placed program a ((seq first second).code a) ↔
      Placed program a (first.code a) ∧
        Placed program (a + first.size) (second.code (a + first.size)) := by
  rw [code, placed_append, length_code]

theorem placed_alt :
    Placed program a ((alt first second).code a) ↔
      program[a]? = some (.split (a + 1) (a + first.size + 2)) ∧
        Placed program (a + 1) (first.code (a + 1)) ∧
        program[a + 1 + first.size]? = some (.jump (a + first.size + 2 + second.size)) ∧
        Placed program (a + first.size + 2) (second.code (a + first.size + 2)) := by
  have haddress : a + 1 + first.size + 1 = a + first.size + 2 := by omega
  rw [code, placed_cons, placed_append, length_code, placed_cons, haddress]

theorem placed_times_succ :
    Placed program a ((times (count + 1) body).code a) ↔
      Placed program a (body.code a) ∧
        Placed program (a + body.size) ((times count body).code (a + body.size)) := by
  rw [code, copies, placed_append, length_code, code]

/-- The way out of each turn is where the turns that are left end. -/
theorem placed_upTo_succ :
    Placed program a ((upTo (count + 1) greedy body).code a) ↔
      program[a]? = some (.loop greedy (a + 1) (a + (upTo (count + 1) greedy body).size)) ∧
        Placed program (a + 1) (body.code (a + 1)) ∧
        Placed program (a + (body.size + 1))
          ((upTo count greedy body).code (a + (body.size + 1))) := by
  have hout : a + (count + 1) * (body.size + 1) =
      a + (body.size + 1) + count * (body.size + 1) := by
    rw [Nat.succ_mul]
    omega
  rw [code, copies, placed_append, placed_cons, List.length_cons, length_code, and_assoc, code,
    size, hout]

theorem placed_plus :
    Placed program a ((plus greedy body).code a) ↔
      Placed program a (body.code a) ∧
        program[a + body.size]? = some (.loop greedy a (a + body.size + 1)) := by
  rw [code, placed_append, length_code, placed_cons]
  simp [Placed]

end Placed

end Node

/-! ### Steps of threads -/

theorem mem_successors_save {slot : Nat} (h : program[t.address]? = some (.save slot)) :
    u ∈ successors program text t ↔
      u = ⟨t.address + 1, t.position, (slot, t.position) :: t.slots⟩ := by
  simp [successors, h]

theorem mem_successors_jump {target : Nat} (h : program[t.address]? = some (.jump target)) :
    u ∈ successors program text t ↔ u = ⟨target, t.position, t.slots⟩ := by
  simp [successors, h]

theorem mem_successors_split {first second : Nat}
    (h : program[t.address]? = some (.split first second)) :
    u ∈ successors program text t ↔
      u = ⟨first, t.position, t.slots⟩ ∨ u = ⟨second, t.position, t.slots⟩ := by
  simp [successors, h]

/-- Whether a repetition is greedy matters for the order only. -/
theorem mem_successors_loop {greedy : Bool} {on out : Nat}
    (h : program[t.address]? = some (.loop greedy on out)) :
    u ∈ successors program text t ↔
      u = ⟨on, t.position, t.slots⟩ ∨ u = ⟨out, t.position, t.slots⟩ := by
  cases greedy with
  | true => exact mem_successors_split h
  | false => exact (mem_successors_split h).trans or_comm

/-- A thread goes to another place in `k` steps. -/
def Run (program : Array Inst) (text : Array Char) : (k : Nat) → Thread → Thread → Prop
  | 0, t, u => t = u
  | k + 1, t, u => ∃ v ∈ successors program text t, Run program text k v u

theorem Run.trans {j k : Nat} (h : Run program text j t u) (h' : Run program text k u v) :
    Run program text (j + k) t v := by
  induction j generalizing t with
  | zero =>
    obtain rfl : t = u := h
    rwa [Nat.zero_add]
  | succ j ih =>
    obtain ⟨w, hw, h⟩ := h
    rw [Nat.succ_add]
    exact ⟨w, hw, ih h⟩

/-- A thread that is to get further has to take a step. -/
theorem Run.exists_step {k : Nat} (h : Run program text k t u) (hlt : t.address < u.address) :
    ∃ j, k = j + 1 ∧ ∃ v ∈ successors program text t, Run program text j v u := by
  cases k with
  | zero =>
    obtain rfl : t = u := h
    exact absurd hlt (Nat.lt_irrefl _)
  | succ k => exact ⟨k, rfl, h⟩

/-! ### From runs to matches -/

namespace Node

/-- A thread that leaves the code of `node` at `a` has found a match of `node`. -/
def LeavesMatching (program : Array Inst) (text : Array Char) (node : Node) (a : Nat) : Prop :=
  ∀ {k : Nat} {t u : Thread}, t.address = a → a + node.size ≤ u.address →
    Run program text k t u → ∃ j v, j ≤ k ∧ v.address = a + node.size ∧
      node.Matches text t.position t.slots v.position v.slots ∧ Run program text j v u

section Leaving

variable {body first second : Node}

/-- Code of a single instruction that only lets matching threads through. -/
theorem leavesMatching_of_step {node : Node} (hsize : node.size = 1)
    (h : ∀ {t u : Thread}, t.address = a → u ∈ successors program text t →
      u.address = a + 1 ∧ node.Matches text t.position t.slots u.position u.slots) :
    LeavesMatching program text node a := by
  intro k t u ht hu hrun
  rw [hsize] at hu ⊢
  obtain ⟨j, rfl, v, hv, hrun⟩ := hrun.exists_step (by omega)
  obtain ⟨hav, hmatches⟩ := h ht hv
  exact ⟨j, v, Nat.le_succ j, hav, hmatches, hrun⟩

theorem leavesMatching_capture {index : Nat}
    (hbody : ∀ a, Placed program a (body.code a) → LeavesMatching program text body a)
    (h : Placed program a ((capture index body).code a)) :
    LeavesMatching program text (capture index body) a := by
  intro k t u ht hu hrun
  rw [size] at hu ⊢
  obtain ⟨hopen, hcode, hclose⟩ := placed_capture.mp h
  subst ht
  obtain ⟨i, rfl, v, hv, hrun⟩ := hrun.exists_step (by omega)
  rw [mem_successors_save hopen] at hv
  subst hv
  obtain ⟨j, w, hj, hw, hmatches, hrun⟩ := hbody _ hcode rfl (by omega) hrun
  obtain ⟨j, rfl, x, hx, hrun⟩ := hrun.exists_step (by omega)
  rw [mem_successors_save (hw ▸ hclose)] at hx
  subst hx
  exact ⟨j, ⟨w.address + 1, w.position, _⟩, by omega, by simp only [hw]; omega,
    .capture hmatches, hrun⟩

theorem leavesMatching_seq
    (hfirst : ∀ a, Placed program a (first.code a) → LeavesMatching program text first a)
    (hsecond : ∀ a, Placed program a (second.code a) → LeavesMatching program text second a)
    (h : Placed program a ((seq first second).code a)) :
    LeavesMatching program text (seq first second) a := by
  intro k t u ht hu hrun
  rw [size] at hu ⊢
  obtain ⟨h, h'⟩ := placed_seq.mp h
  obtain ⟨i, v, hi, hv, hmatches, hrun⟩ := hfirst _ h ht (by omega) hrun
  obtain ⟨j, w, hj, hw, hmatches', hrun⟩ := hsecond _ h' hv (by omega) hrun
  exact ⟨j, w, by omega, by omega, .seq hmatches hmatches', hrun⟩

theorem leavesMatching_alt
    (hfirst : ∀ a, Placed program a (first.code a) → LeavesMatching program text first a)
    (hsecond : ∀ a, Placed program a (second.code a) → LeavesMatching program text second a)
    (h : Placed program a ((alt first second).code a)) :
    LeavesMatching program text (alt first second) a := by
  intro k t u ht hu hrun
  rw [size] at hu ⊢
  obtain ⟨hsplit, h, hjump, h'⟩ := placed_alt.mp h
  subst ht
  obtain ⟨i, rfl, v, hv, hrun⟩ := hrun.exists_step (by omega)
  rcases (mem_successors_split hsplit).mp hv with rfl | rfl
  -- Behind the first alternative there is a jump over the second one.
  · obtain ⟨j, w, hj, hw, hmatches, hrun⟩ := hfirst _ h rfl (by omega) hrun
    obtain ⟨j, rfl, x, hx, hrun⟩ := hrun.exists_step (by omega)
    rw [mem_successors_jump (hw ▸ hjump)] at hx
    subst hx
    exact ⟨j, ⟨t.address + first.size + 2 + second.size, w.position, w.slots⟩, by omega,
      by dsimp only; omega, .altFirst hmatches, hrun⟩
  · obtain ⟨j, w, hj, hw, hmatches, hrun⟩ := hsecond _ h' rfl (by omega) hrun
    exact ⟨j, w, by omega, by omega, .altSecond hmatches, hrun⟩

theorem leavesMatching_times {count : Nat}
    (hbody : ∀ a, Placed program a (body.code a) → LeavesMatching program text body a)
    (h : Placed program a ((times count body).code a)) :
    LeavesMatching program text (times count body) a := by
  induction count generalizing a with
  | zero =>
    intro k t u ht hu hrun
    exact ⟨k, t, Nat.le_refl k, by simp [ht, size], .timesZero, hrun⟩
  | succ count ih =>
    intro k t u ht hu hrun
    rw [size, Nat.succ_mul] at hu ⊢
    obtain ⟨h, h'⟩ := placed_times_succ.mp h
    obtain ⟨i, v, hi, hv, hmatches, hrun⟩ := hbody _ h ht (by omega) hrun
    obtain ⟨j, w, hj, hw, hmatches', hrun⟩ := ih h' hv (by rw [size]; omega) hrun
    rw [size] at hw
    exact ⟨j, w, by omega, by omega, .timesSucc hmatches hmatches', hrun⟩

theorem leavesMatching_upTo {count : Nat} {greedy : Bool}
    (hbody : ∀ a, Placed program a (body.code a) → LeavesMatching program text body a)
    (h : Placed program a ((upTo count greedy body).code a)) :
    LeavesMatching program text (upTo count greedy body) a := by
  induction count generalizing a with
  | zero =>
    intro k t u ht hu hrun
    exact ⟨k, t, Nat.le_refl k, by simp [ht, size], .upToStop, hrun⟩
  | succ count ih =>
    intro k t u ht hu hrun
    obtain ⟨hloop, h, h'⟩ := placed_upTo_succ.mp h
    rw [size, Nat.succ_mul] at hu hloop ⊢
    subst ht
    obtain ⟨i, rfl, v, hv, hrun⟩ := hrun.exists_step (by omega)
    -- Either one more turn is taken, or the rest of the turns is skipped.
    rcases (mem_successors_loop hloop).mp hv with rfl | rfl
    · obtain ⟨i, v, hi, hv, hmatches, hrun⟩ := hbody _ h rfl (by omega) hrun
      obtain ⟨j, w, hj, hw, hmatches', hrun⟩ := ih h' (by omega) (by rw [size]; omega) hrun
      rw [size] at hw
      exact ⟨j, w, by omega, by omega, .upToNext hmatches hmatches', hrun⟩
    · exact ⟨i, ⟨t.address + (count * (body.size + 1) + (body.size + 1)), t.position, t.slots⟩,
        Nat.le_succ i, rfl, .upToStop, hrun⟩

theorem leavesMatching_plus {greedy : Bool}
    (hbody : ∀ a, Placed program a (body.code a) → LeavesMatching program text body a)
    (h : Placed program a ((plus greedy body).code a)) :
    LeavesMatching program text (plus greedy body) a := by
  intro k
  obtain ⟨hcode, hloop⟩ := placed_plus.mp h
  -- Every further turn leaves fewer steps.
  induction k using Nat.strongRecOn with
  | ind k ih =>
    intro t u ht hu hrun
    rw [size] at hu ⊢
    obtain ⟨i, v, hi, hv, hmatches, hrun⟩ := hbody _ hcode ht (by omega) hrun
    obtain ⟨j, rfl, w, hw, hrun⟩ := hrun.exists_step (by omega)
    rcases (mem_successors_loop (hv ▸ hloop)).mp hw with rfl | rfl
    · obtain ⟨j', w, hj, hw, hmatches', hrun⟩ := ih j (by omega) rfl (by rw [size]; omega) hrun
      exact ⟨j', w, by omega, hw, .plusNext hmatches hmatches', hrun⟩
    · exact ⟨j, ⟨v.address + 1, v.position, v.slots⟩, by omega, by simp only [hv]; omega,
        .plusOnce hmatches, hrun⟩

end Leaving

/-- A thread that leaves the code of a tree has found a match of the tree. -/
theorem matches_of_run {node : Node} (h : Placed program a (node.code a)) :
    LeavesMatching program text node a := by
  induction node generalizing a with
  -- The empty code is left where it is entered.
  | empty => exact fun {k t u} ht _ hrun => ⟨k, t, Nat.le_refl k, ht, .empty, hrun⟩
  | char x =>
    refine leavesMatching_of_step rfl fun {t u} ht hu => ?_
    subst ht
    obtain ⟨hx, rfl⟩ : text[t.position]? = some x ∧ u = ⟨t.address + 1, t.position + 1, t.slots⟩ :=
      by simpa [successors, h.1] using hu
    exact ⟨rfl, .char hx⟩
  | set chars =>
    refine leavesMatching_of_step rfl fun {t u} ht hu => ?_
    subst ht
    obtain ⟨hx, rfl⟩ : text[t.position]?.any chars.contains ∧
        u = ⟨t.address + 1, t.position + 1, t.slots⟩ := by
      simpa only [successors, h.1, List.mem_ite_nil_right, List.mem_singleton] using hu
    exact ⟨rfl, .set hx⟩
  | look condition =>
    refine leavesMatching_of_step rfl fun {t u} ht hu => ?_
    subst ht
    obtain ⟨hx, rfl⟩ : condition.holds (before text t.position) text[t.position]? ∧
        u = ⟨t.address + 1, t.position, t.slots⟩ := by
      simpa only [successors, h.1, List.mem_ite_nil_right, List.mem_singleton] using hu
    exact ⟨rfl, .look hx⟩
  | capture index body ih => exact leavesMatching_capture (fun _ => ih) h
  | seq first second ih ih' => exact leavesMatching_seq (fun _ => ih) (fun _ => ih') h
  | alt first second ih ih' => exact leavesMatching_alt (fun _ => ih) (fun _ => ih') h
  | times count body ih => exact leavesMatching_times (fun _ => ih) h
  | upTo count greedy body ih => exact leavesMatching_upTo (fun _ => ih) h
  | plus greedy body ih => exact leavesMatching_plus (fun _ => ih) h

end Node

/-! ### From matches to runs -/

/-- A thread goes to another place in some number of steps. -/
def Reaches (program : Array Inst) (text : Array Char) (t u : Thread) : Prop :=
  ∃ k, Run program text k t u

theorem reaches_refl : Reaches program text t t :=
  ⟨0, rfl⟩

theorem reaches_of_mem (h : u ∈ successors program text t) : Reaches program text t u :=
  ⟨1, u, h, rfl⟩

theorem Reaches.trans (h : Reaches program text t u) (h' : Reaches program text u v) :
    Reaches program text t v := by
  obtain ⟨j, hrun⟩ := h
  obtain ⟨k, hrun'⟩ := h'
  exact ⟨j + k, hrun.trans hrun'⟩

section Jumps

variable {p : Nat} {s : Slots}

theorem reaches_save {slot : Nat} (h : program[a]? = some (.save slot)) :
    Reaches program text ⟨a, p, s⟩ ⟨a + 1, p, (slot, p) :: s⟩ :=
  reaches_of_mem ((mem_successors_save h).mpr rfl)

theorem reaches_jump {target : Nat} (h : program[a]? = some (.jump target)) :
    Reaches program text ⟨a, p, s⟩ ⟨target, p, s⟩ :=
  reaches_of_mem ((mem_successors_jump h).mpr rfl)

theorem reaches_split {first second target : Nat} (h : program[a]? = some (.split first second))
    (htarget : target = first ∨ target = second) :
    Reaches program text ⟨a, p, s⟩ ⟨target, p, s⟩ := by
  refine reaches_of_mem ((mem_successors_split h).mpr ?_)
  rcases htarget with rfl | rfl
  · exact .inl rfl
  · exact .inr rfl

theorem reaches_loop {greedy : Bool} {on out target : Nat}
    (h : program[a]? = some (.loop greedy on out)) (htarget : target = on ∨ target = out) :
    Reaches program text ⟨a, p, s⟩ ⟨target, p, s⟩ := by
  refine reaches_of_mem ((mem_successors_loop h).mpr ?_)
  rcases htarget with rfl | rfl
  · exact .inl rfl
  · exact .inr rfl

end Jumps

namespace Node

/-- What a tree matches leads a thread through its code. -/
theorem Matches.reaches {node : Node} {p q : Nat} {s s' : Slots}
    (h : node.Matches text p s q s') (hplaced : Placed program a (node.code a)) :
    Reaches program text ⟨a, p, s⟩ ⟨a + node.size, q, s'⟩ := by
  -- The induction is on the match; each case follows the layout of the code.
  induction h generalizing a with
  | empty => exact reaches_refl
  | char hx =>
    exact reaches_of_mem (by simp [successors, hplaced.1, hx, size])
  | set hx | look hx =>
    exact reaches_of_mem (by simp only [successors, hplaced.1, hx, if_true]; simp [size])
  | @capture p s q t index body _ ih =>
    obtain ⟨hopen, hcode, hclose⟩ := placed_capture.mp hplaced
    rw [size, show a + (body.size + 2) = a + 1 + body.size + 1 by omega]
    exact ((reaches_save hopen).trans (ih hcode)).trans (reaches_save hclose)
  | seq _ _ ih ih' =>
    obtain ⟨h, h'⟩ := placed_seq.mp hplaced
    rw [size, ← Nat.add_assoc]
    exact (ih h).trans (ih' h')
  | @altFirst p s q t first second _ ih =>
    obtain ⟨hsplit, h, hjump, -⟩ := placed_alt.mp hplaced
    rw [size, show a + (first.size + second.size + 2) = a + first.size + 2 + second.size by omega]
    exact ((reaches_split hsplit (.inl rfl)).trans (ih h)).trans (reaches_jump hjump)
  | @altSecond p s q t first second _ ih =>
    obtain ⟨hsplit, -, -, h'⟩ := placed_alt.mp hplaced
    rw [size, show a + (first.size + second.size + 2) = a + first.size + 2 + second.size by omega]
    exact (reaches_split hsplit (.inr rfl)).trans (ih h')
  | timesZero =>
    rw [size, Nat.zero_mul]
    exact reaches_refl
  | timesSucc _ _ ih ih' =>
    obtain ⟨h, h'⟩ := placed_times_succ.mp hplaced
    rw [size, Nat.succ_mul, Nat.add_comm (_ * _), ← Nat.add_assoc]
    exact (ih h).trans (ih' h')
  | @upToStop p s count greedy body =>
    cases count with
    | zero =>
      rw [size, Nat.zero_mul]
      exact reaches_refl
    | succ count =>
      obtain ⟨hloop, -⟩ := placed_upTo_succ.mp hplaced
      exact reaches_loop hloop (.inr rfl)
  | @upToNext p s q t r u count greedy body _ _ ih ih' =>
    obtain ⟨hloop, h, h'⟩ := placed_upTo_succ.mp hplaced
    have hturn := (reaches_loop hloop (.inl rfl)).trans (ih h)
    rw [show a + 1 + body.size = a + (body.size + 1) by omega] at hturn
    rw [size, Nat.succ_mul, Nat.add_comm (_ * _), ← Nat.add_assoc]
    exact hturn.trans (ih' h')
  | @plusOnce p s q t greedy body _ ih =>
    obtain ⟨h, hloop⟩ := placed_plus.mp hplaced
    exact (ih h).trans (reaches_loop hloop (.inr rfl))
  | @plusNext p s q t r u greedy body _ _ ih ih' =>
    -- The last instruction leads back to where the code begins.
    obtain ⟨h, hloop⟩ := placed_plus.mp hplaced
    have hturn := (ih h).trans (reaches_loop hloop (.inl rfl))
    exact hturn.trans (ih' hplaced)

end Node

/-! ### Where code leads -/

/-- The addresses to which an instruction leads from the address `a`. -/
def Inst.targets (a : Nat) : Inst → List Nat
  | accept => []
  | char _ | set _ | look _ | save _ => [a + 1]
  | split first second => [first, second]
  | jump target => [target]

theorem address_mem_targets {inst : Inst} (h : program[t.address]? = some inst)
    (hu : u ∈ successors program text t) : u.address ∈ inst.targets t.address := by
  unfold successors at hu
  rw [h] at hu
  cases inst with
  | accept => cases hu
  | char | set | look =>
    dsimp only at hu
    split_ifs at hu
    · obtain rfl := List.mem_singleton.mp hu
      exact List.mem_singleton.mpr rfl
    · cases hu
  | save | jump =>
    obtain rfl := List.mem_singleton.mp hu
    exact List.mem_singleton.mpr rfl
  | split => rcases List.mem_pair.mp hu with rfl | rfl <;> simp [Inst.targets]

/-- Every instruction of some code leads to addresses up to `last`. -/
def LeadsUpTo (last : Nat) : Nat → List Inst → Prop
  | _, [] => True
  | a, inst :: code => (∀ b ∈ inst.targets a, b ≤ last) ∧ LeadsUpTo last (a + 1) code

theorem leadsUpTo_append {last : Nat} {code code' : List Inst} :
    LeadsUpTo last a (code ++ code') ↔
      LeadsUpTo last a code ∧ LeadsUpTo last (a + code.length) code' := by
  induction code generalizing a with
  | nil => simp [LeadsUpTo]
  | cons inst code ih =>
    rw [List.cons_append, LeadsUpTo, LeadsUpTo, ih, List.length_cons, and_assoc, Nat.add_assoc,
      Nat.add_comm 1]

theorem LeadsUpTo.mono {last last' : Nat} {code : List Inst} (h : LeadsUpTo last a code)
    (hle : last ≤ last') : LeadsUpTo last' a code := by
  induction code generalizing a with
  | nil => trivial
  | cons inst code ih => exact ⟨fun b hb => Nat.le_trans (h.1 b hb) hle, ih h.2⟩

theorem LeadsUpTo.targets_le {last i : Nat} {code : List Inst} (h : LeadsUpTo last a code)
    {inst : Inst} (hi : code[i]? = some inst) : ∀ b ∈ inst.targets (a + i), b ≤ last := by
  induction code generalizing a i with
  | nil => simp at hi
  | cons inst' code ih =>
    cases i with
    | zero =>
      obtain rfl : inst' = inst := by simpa using hi
      exact h.1
    | succ i =>
      rw [Nat.add_comm i, ← Nat.add_assoc]
      exact ih h.2 (by simpa using hi)

theorem leadsUpTo_loop {greedy : Bool} {on out last : Nat} (hon : on ≤ last) (hout : out ≤ last) :
    ∀ b ∈ (Inst.loop greedy on out).targets a, b ≤ last := by
  cases greedy <;> simp [Inst.loop, Inst.targets, hon, hout]

namespace Node

/-- Blocks of code one after the other lead nowhere behind `last` if none of them does. -/
theorem leadsUpTo_copies {block : Nat → List Inst} {size last count : Nat}
    (hlength : ∀ a, (block a).length = size)
    (hblock : ∀ a, a + size ≤ last → LeadsUpTo last a (block a)) (h : a + count * size ≤ last) :
    LeadsUpTo last a (copies block size count a) := by
  induction count generalizing a with
  | zero => trivial
  | succ count ih =>
    rw [Nat.succ_mul] at h
    rw [copies, leadsUpTo_append, hlength]
    exact ⟨hblock a (by omega), ih (by omega)⟩

/-- Code leads nowhere but to itself and to its end. -/
theorem leadsUpTo_code (node : Node) (a : Nat) : LeadsUpTo (a + node.size) a (node.code a) := by
  induction node generalizing a with
  | empty => trivial
  | char | set | look => simp [LeadsUpTo, code, size, Inst.targets]
  | capture index body ih =>
    rw [code, LeadsUpTo, leadsUpTo_append]
    have hle : a + 1 + body.size ≤ a + (capture index body).size := by
      rw [size]
      omega
    refine ⟨?_, (ih (a + 1)).mono hle, ?_⟩
    · simp [Inst.targets, size]
    · rw [length_code]
      simp [LeadsUpTo, Inst.targets, size]
      omega
  | seq first second ih ih' =>
    rw [code, leadsUpTo_append, length_code]
    exact ⟨(ih a).mono (by rw [size]; omega), (ih' (a + first.size)).mono (by rw [size]; omega)⟩
  | alt first second ih ih' =>
    rw [code, LeadsUpTo, leadsUpTo_append, LeadsUpTo, length_code]
    have haddress : a + 1 + first.size + 1 = a + first.size + 2 := by omega
    refine ⟨?_, (ih _).mono (by rw [size]; omega), ?_, ?_⟩
    · simp [Inst.targets, size]
      omega
    · simp [Inst.targets, size]
      omega
    · rw [haddress]
      exact (ih' _).mono (by rw [size]; omega)
  | times count body ih =>
    exact leadsUpTo_copies (length_code body) (fun a hle => (ih a).mono hle) (Nat.le_refl _)
  | upTo count greedy body ih =>
    -- Every turn has the same way out, which is behind the last of them.
    refine leadsUpTo_copies (fun a => by simp [length_code]) (fun a hle => ?_) (Nat.le_refl _)
    exact ⟨leadsUpTo_loop (by omega) (Nat.le_refl _), (ih (a + 1)).mono (by omega)⟩
  | plus greedy body ih =>
    rw [code, leadsUpTo_append, length_code]
    exact ⟨(ih a).mono (by rw [size]; omega),
      leadsUpTo_loop (by rw [size]; omega) (by rw [size]; omega), trivial⟩

end Node

end Reroute.Regex
