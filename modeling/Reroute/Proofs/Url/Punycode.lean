import Reroute.Url.Punycode

/-!
# The length of encoded labels

Where the characters of a label lie far apart, so that the distances between them are large,
each of them takes three digits.

## Main results

* `Punycode.three_le_length_writeDistance` — large distances take three digits
* `Punycode.length_encode_ge` — a label whose characters lie apart is long in ASCII
-/

set_option autoImplicit false

namespace Reroute.Url.Punycode

/-- A large distance takes three digits, whatever the bias. -/
theorem three_le_length_writeDistance (bias place : Nat) {d : Nat} (h : 911 ≤ d) :
    3 ≤ (writeDistance bias place d).length := by
  have hpos := threshold_pos bias place
  have hle := threshold_le bias place
  have hle' := threshold_le bias (place + 36)
  -- What is left behind the first digit is not below any threshold.
  have hrest : 26 ≤ (d - threshold bias place) / (36 - threshold bias place) := by
    rw [Nat.le_div_iff_mul_le (by omega)]
    omega
  rw [writeDistance, if_neg (by omega), writeDistance, if_neg (by omega), writeDistance]
  split <;> simp

section Write

variable {n : Nat} {label front back : List Char}

theorem foldl_pass_of_lt (basic : Nat) (h : ∀ x ∈ front, x.toNat < n) (w : Writer) :
    front.foldl (Writer.pass basic n) w = { w with distance := w.distance + front.length } := by
  induction front generalizing w with
  | nil => rfl
  | cons x rest ih =>
    obtain ⟨hx, hrest⟩ := List.forall_mem_cons.mp h
    rw [List.foldl_cons, ih hrest, Writer.pass, if_pos hx]
    simp only [List.length_cons, Nat.add_assoc, Nat.add_comm 1]

theorem foldl_pass_of_gt (basic : Nat) (h : ∀ x ∈ back, n < x.toNat) (w : Writer) :
    back.foldl (Writer.pass basic n) w = w := by
  induction back with
  | nil => rfl
  | cons x rest ih =>
    obtain ⟨hx, hrest⟩ := List.forall_mem_cons.mp h
    rw [List.foldl_cons, Writer.pass, if_neg (by omega), if_neg (by omega), ih hrest]

/-- Where the characters ascend, one of them is written in each pass. -/
theorem foldl_pass_of_ascending (basic : Nat) {x : Char} (hfront : ∀ y ∈ front, y.toNat < x.toNat)
    (hback : ∀ y ∈ back, x.toNat < y.toNat) (w : Writer) :
    (((front ++ x :: back).foldl (Writer.pass basic x.toNat) w).length = w.length + 1) ∧
      ((front ++ x :: back).foldl (Writer.pass basic x.toNat) w).written.length =
        (writeDistance w.bias 36 (w.distance + front.length)).length + w.written.length := by
  rw [List.foldl_append, foldl_pass_of_lt basic hfront, List.foldl_cons,
    foldl_pass_of_gt basic hback,
    Writer.pass, if_neg (by omega), if_pos rfl]
  simp

/-- Behind the first 38 characters each takes three digits. -/
theorem length_written_write_ge (basic : Nat)
    (hlabel : label.Pairwise fun x y => x.toNat + 25 ≤ y.toNat) (heq : front ++ back = label)
    {w : Writer} (hw : w.length = front.length) (start : Nat)
    (hstart : front = [] ∨ ∀ x ∈ back, start + 24 ≤ x.toNat) :
    w.written.length + 3 * (back.length - (38 - front.length)) ≤
      (Writer.write basic label w start (back.map Char.toNat)).written.length := by
  induction back generalizing front w start with
  | nil => simp [Writer.write]
  | cons x back ih =>
    obtain ⟨-, hback, hacross⟩ := List.pairwise_append.mp (heq ▸ hlabel)
    obtain ⟨hbehind, -⟩ := List.pairwise_cons.mp hback
    have hbefore (y : Char) (hy : y ∈ front) : y.toNat < x.toNat := by
      have := hacross y hy x List.mem_cons_self
      omega
    have hafter (y : Char) (hy : y ∈ back) : x.toNat < y.toNat := by
      have := hbehind y hy
      omega
    rw [List.map_cons, Writer.write]
    -- The pass begins with the distance grown by the gap before `x`; all else is as it was.
    generalize hmoved : ({ w with
      distance := w.distance + (x.toNat - start) * (w.length + 1) } : Writer) = moved
    have hdistance : moved.distance = w.distance + (x.toNat - start) * (w.length + 1) := by
      rw [← hmoved]
    have hmoved : moved.length = w.length ∧ moved.written = w.written := by
      rw [← hmoved]
      exact ⟨rfl, rfl⟩
    obtain ⟨hlength, hwritten⟩ := foldl_pass_of_ascending basic hbefore hafter moved
    rw [heq] at hlength hwritten
    generalize label.foldl (Writer.pass basic x.toNat) moved = passed at hlength hwritten ⊢
    have heq' : front ++ [x] ++ back = label := by simpa using heq
    have hnext := ih heq' (w := { passed with distance := passed.distance + 1 })
      (by simp [hlength, hmoved.1, hw]) (x.toNat + 1)
      (.inr fun y hy => by have := hbehind y hy; omega)
    dsimp only at hnext
    rw [hwritten, hmoved.2, List.length_append, List.length_singleton] at hnext
    refine Nat.le_trans ?_ hnext
    rw [List.length_cons]
    -- For each character in front the distance has grown by the gap once.
    by_cases hlong : 38 ≤ front.length
    · have hgap := hstart.resolve_left (by rintro rfl; simp at hlong) x List.mem_cons_self
      have hlarge : 24 * 39 ≤ (x.toNat - start) * (w.length + 1) :=
        Nat.mul_le_mul (by omega) (by omega)
      have := three_le_length_writeDistance moved.bias 36 (d := moved.distance + front.length)
        (by omega)
      omega
    · omega

end Write

theorem eraseDups_of_ascending {numbers : List Nat} (h : numbers.Pairwise (· < ·)) :
    numbers.eraseDups = numbers := by
  induction numbers with
  | nil => rfl
  | cons n numbers ih =>
    obtain ⟨hn, hnumbers⟩ := List.pairwise_cons.mp h
    have hfilter : numbers.filter (fun m => !(m == n)) = numbers := by
      rw [List.filter_eq_self]
      intro m hm
      have := hn m hm
      simp
      omega
    rw [List.eraseDups_cons, hfilter, ih hnumbers]

/-- A label whose characters ascend with at least 24 others between any two takes three digits
for each character but the first 38. -/
theorem length_encode_ge {label : List Char}
    (hlabel : label.Pairwise fun x y => x.toNat + 25 ≤ y.toNat)
    (hfirst : ∀ x ∈ label, firstNumber ≤ x.toNat) :
    3 * (label.length - 38) ≤ (encode label).length := by
  have hbasic : label.filter (·.toNat < firstNumber) = [] := by
    rw [List.filter_eq_nil_iff]
    intro x hx
    have := hfirst x hx
    simp only [decide_eq_true_eq]
    omega
  have hascending : (label.map Char.toNat).Pairwise (· < ·) := by
    rw [List.pairwise_map]
    exact hlabel.imp fun h => by omega
  have hnumbers : ((label.map Char.toNat).filter (firstNumber ≤ ·)).mergeSort.eraseDups =
      label.map Char.toNat := by
    have hfilter : (label.map Char.toNat).filter (firstNumber ≤ ·) = label.map Char.toNat := by
      simpa [List.filter_eq_self] using hfirst
    rw [hfilter, List.mergeSort_of_pairwise (hascending.imp fun h => by simp; omega),
      eraseDups_of_ascending hascending]
  have hwrite := length_written_write_ge 0 hlabel (List.nil_append label)
    (w := { length := 0 }) rfl firstNumber (.inl rfl)
  rw [encode, hbasic, hnumbers]
  simpa using hwrite

end Reroute.Url.Punycode
