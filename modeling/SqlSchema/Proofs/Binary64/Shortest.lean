import Mathlib.Data.Nat.Log
import SqlSchema.Binary64.Write
import SqlSchema.Proofs.Binary64.Nearest

/-!
# The digits of a large whole number

A large double precision number is written as a whole number that it covers. Seventeen digits and zeros behind them are
always enough for that (`exists_shortest`). A number of at most fifteen digits and zeros is the only one on its grid that
is covered, so it is written itself (`shortest_of_covers`).
-/

namespace SqlSchema.Binary64

section Grid

variable {m e : Nat}

private theorem scale_eq (e : Nat) : 4 * 2 ^ ((e : Int) - 2).toNat = 2 ^ (-((e : Int) - 2)).toNat * 2 ^ e := by
  match e with
  | 0 => rfl
  | 1 => rfl
  | e + 2 =>
    rw [show ((e + 2 : Nat) : Int) - 2 = e by omega, Int.toNat_natCast, Int.toNat_neg_natCast, Nat.pow_zero,
      Nat.one_mul, Nat.pow_add, Nat.mul_comm]

/-- Comparing with an end of the interval, after both sides have been scaled to whole numbers. -/
private theorem scaled_le_iff {a s t gap x : Nat} (scale : 4 * s = t * gap) (pos : 0 < t) :
    (a * s ≤ x * t ↔ a * gap ≤ 4 * x) ∧ (x * t ≤ a * s ↔ 4 * x ≤ a * gap) := by
  have left : 4 * (a * s) = t * (a * gap) := by rw [Nat.mul_left_comm, scale, Nat.mul_left_comm]
  have right : 4 * (x * t) = t * (4 * x) := by rw [← Nat.mul_assoc, Nat.mul_comm]
  constructor
  · rw [← Nat.mul_le_mul_left_iff (by decide : 0 < 4), left, right, Nat.mul_le_mul_left_iff pos]
  · rw [← Nat.mul_le_mul_left_iff (by decide : 0 < 4), left, right, Nat.mul_le_mul_left_iff pos]

/-- The interval holds the decimals that the number covers. -/
theorem contains_natCast (full : IsFull m) (d p : Nat) :
    (interval m e).contains d p = true ↔ Covers m e (d * 10 ^ p) := by
  have pos : 0 < 2 ^ (-((e : Int) - 2)).toNat := Nat.two_pow_pos _
  have normal : (e : Int) ≠ minExponent := by
    unfold minExponent
    omega
  have large : 2 ^ e ≤ m * 2 ^ e := Nat.le_mul_of_pos_left _ (Nat.lt_of_lt_of_le (by decide) full.1)
  have above : (4 * m + 2) * 2 ^ e = 4 * (m * 2 ^ e) + 2 * 2 ^ e := by rw [Nat.add_mul, Nat.mul_assoc]
  have below (k : Nat) : (4 * m - k) * 2 ^ e = 4 * (m * 2 ^ e) - k * 2 ^ e := by rw [Nat.sub_mul, Nat.mul_assoc]
  have low_end (a : Nat) := (scaled_le_iff (a := a) (x := d * 10 ^ p) (scale_eq e) pos).1
  have high_end (a : Nat) := (scaled_le_iff (a := a) (x := d * 10 ^ p) (scale_eq e) pos).2
  unfold Interval.contains interval commonScale Covers
  simp only [Int.toNat_natCast, Int.toNat_neg_natCast, Nat.pow_eq, Nat.pow_zero, Nat.mul_one, Bool.and_eq_true,
    decide_eq_true_eq, and_iff_left normal, ← Nat.not_le, low_end, high_end, above]
  by_cases power : m = 2 ^ 52
  · have even : m % 2 = 0 := by omega
    simp only [if_pos power, if_pos even, below, Bool.and_eq_true, decide_eq_true_eq]
    omega
  · by_cases even : m % 2 = 0
    · simp only [if_neg power, if_pos even, below, Bool.and_eq_true, decide_eq_true_eq]
      omega
    · simp only [if_neg power, if_neg even, below, Bool.and_eq_true, decide_eq_true_eq]
      omega

/-- On the grid of step `10 ^ p` a neighbour of the number stands for it, if it covers one of them. -/
theorem onGrid?_cases (full : IsFull m) (p : Nat) :
    (∃ d, (interval m e).onGrid? p = some (d, (p : Int)) ∧ Covers m e (d * 10 ^ p) ∧
        (d = m * 2 ^ e / 10 ^ p ∨ d = m * 2 ^ e / 10 ^ p + 1)) ∨
      (interval m e).onGrid? p = none ∧ ¬Covers m e (m * 2 ^ e / 10 ^ p * 10 ^ p) ∧
        ¬Covers m e ((m * 2 ^ e / 10 ^ p + 1) * 10 ^ p) := by
  have pos : 0 < 2 ^ (-((e : Int) - 2)).toNat := Nat.two_pow_pos _
  have quotient : 4 * m * 2 ^ ((e : Int) - 2).toNat / (10 ^ p * 2 ^ (-((e : Int) - 2)).toNat) =
      m * 2 ^ e / 10 ^ p := by
    rw [Nat.mul_right_comm, scale_eq, Nat.mul_assoc, Nat.mul_comm, Nat.mul_comm (2 ^ e) m,
      Nat.mul_div_mul_right _ _ pos]
  have covered (d : Nat) := contains_natCast (e := e) full d p
  unfold Interval.onGrid?
  have parts : commonScale (interval m e).centre (interval m e).exponent 1 p =
      (4 * m * 2 ^ ((e : Int) - 2).toNat, 10 ^ p * 2 ^ (-((e : Int) - 2)).toNat) := by
    unfold commonScale interval
    simp only [Int.toNat_natCast, Int.toNat_neg_natCast, Nat.pow_eq, Nat.pow_zero, Nat.mul_one, Nat.one_mul]
  rw [parts]
  dsimp only
  rw [quotient]
  split
  · rename_i here next
    left
    split
    · exact ⟨_, rfl, (covered _).mp here, .inl rfl⟩
    · exact ⟨_, rfl, (covered _).mp next, .inr rfl⟩
  · rename_i here next
    exact .inl ⟨_, rfl, (covered _).mp here, .inl rfl⟩
  · rename_i here next
    exact .inl ⟨_, rfl, (covered _).mp next, .inr rfl⟩
  · rename_i here next
    refine .inr ⟨rfl, ?_, ?_⟩
    · rw [← covered, here]
      decide
    · rw [← covered, next]
      decide

end Grid

/-! ### The search -/

/-- The coarsest grid that is tried, where a step is about as large as the number. -/
def coarsest (e : Nat) : Nat := (53 + e) * 30103 / 100000 + 1

/-- The two numbers of a grid between which a number lies. -/
private theorem grid_bounds (v p : Nat) : v / 10 ^ p * 10 ^ p ≤ v ∧ v < (v / 10 ^ p + 1) * 10 ^ p := by
  refine ⟨Nat.div_mul_le_self v _, ?_⟩
  rw [Nat.mul_comm]
  exact Nat.lt_mul_div_succ v (Nat.pow_pos (by decide))

section Search

variable {m e : Nat}

private theorem exists_findSome?_range {α : Type} {f : Nat → Option α} {n k : Nat} (tried : k < n) (hit : f k ≠ none) :
    ∃ i a, i ≤ k ∧ f i = some a ∧ (List.range n).findSome? f = some a := by
  induction n with
  | zero => omega
  | succ n ih =>
    rw [List.range_succ, List.findSome?_append]
    by_cases earlier : k < n
    · obtain ⟨i, a, le, value, found⟩ := ih earlier
      exact ⟨i, a, le, value, by rw [found]; rfl⟩
    · obtain rfl : k = n := by omega
      cases prior : (List.range k).findSome? f with
      | some a =>
        obtain ⟨i, mem, value⟩ := List.exists_of_findSome?_eq_some prior
        exact ⟨i, a, (List.mem_range.mp mem).le, value, rfl⟩
      | none =>
        obtain ⟨a, value⟩ := Option.ne_none_iff_exists'.mp hit
        exact ⟨k, a, le_rfl, value, by simp [value]⟩

theorem shortest_natCast (full : IsFull m) :
    shortest m e = ((List.range 22).findSome? fun i : Nat =>
      (interval m e).onGrid? ((coarsest e : Int) - i)).getD (0, 0) := by
  have coarse : (Int.ofNat m.log2 + 1 + (e : Int)) * 30103 / 100000 + 1 = (coarsest e : Int) := by
    rw [full.log2]
    unfold coarsest
    push_cast
    omega
  unfold shortest
  simp only [coarse]
  rfl

/-- The digits stand for a number that is covered, on a grid no finer than any that is tried and has one. -/
theorem exists_shortest_onGrid (full : IsFull m) {p : Nat} (tried : p ≤ coarsest e) (reached : coarsest e < p + 22)
    (hit : (interval m e).onGrid? p ≠ none) :
    ∃ d q : Nat, shortest m e = (d, (q : Int)) ∧ p ≤ q ∧ Covers m e (d * 10 ^ q) ∧ d ≤ m * 2 ^ e / 10 ^ q + 1 := by
  have grid {i : Nat} (le : i ≤ coarsest e) : (coarsest e : Int) - i = (coarsest e - i : Nat) := by omega
  have hit' : (interval m e).onGrid? ((coarsest e : Int) - (coarsest e - p : Nat)) ≠ none := by
    rw [grid (Nat.sub_le _ _), Nat.sub_sub_self tried]
    exact hit
  obtain ⟨i, found, early, value, search⟩ := exists_findSome?_range
    (f := fun i : Nat => (interval m e).onGrid? ((coarsest e : Int) - i)) (by omega : coarsest e - p < 22) hit'
  rw [grid (early.trans (Nat.sub_le _ _))] at value
  rcases onGrid?_cases full (coarsest e - i) with ⟨d, here, covers, neighbour⟩ | ⟨nothing, -⟩
  · refine ⟨d, coarsest e - i, ?_, by omega, covers, by omega⟩
    rw [shortest_natCast full, search, Option.getD_some]
    exact Option.some.inj (value.symm.trans here)
  · rw [nothing] at value
    cases value

/-! ### Powers of two and ten -/

private theorem le_of_ten_pow_lt {p b : Nat} (h : 10 ^ p < 2 ^ b) : 93 * p < 28 * b := by
  have power : 2 ^ (93 * p) < 2 ^ (28 * b) :=
    calc
      2 ^ (93 * p) = (2 ^ 93) ^ p := Nat.pow_mul 2 93 p
      _ ≤ (10 ^ 28) ^ p := Nat.pow_le_pow_left (by decide) p
      _ = (10 ^ p) ^ 28 := Nat.pow_right_comm 10 28 p
      _ < (2 ^ b) ^ 28 := Nat.pow_lt_pow_left h (by decide)
      _ = 2 ^ (28 * b) := by rw [Nat.mul_comm, Nat.pow_mul]
  exact (Nat.pow_lt_pow_iff_right (by decide)).mp power

private theorem le_of_two_pow_le {b q : Nat} (h : 2 ^ b ≤ 10 ^ q) : 3 * b ≤ 10 * q := by
  have power : 2 ^ (3 * b) ≤ 2 ^ (10 * q) :=
    calc
      2 ^ (3 * b) = (2 ^ b) ^ 3 := by rw [Nat.mul_comm, Nat.pow_mul]
      _ ≤ (10 ^ q) ^ 3 := Nat.pow_le_pow_left h 3
      _ = (10 ^ 3) ^ q := Nat.pow_right_comm 10 q 3
      _ ≤ (2 ^ 10) ^ q := Nat.pow_le_pow_left (by decide) q
      _ = 2 ^ (10 * q) := (Nat.pow_mul 2 10 q).symm
  exact (Nat.pow_le_pow_iff_right (by decide)).mp power

/-! ### Seventeen digits -/

/-- There is a coarsest grid among those that are fine enough. -/
private theorem exists_fine (m : Nat) {e : Nat} (wide : 0 < e) : ∃ p, Fine m e (10 ^ p) ∧ ¬Fine m e (10 ^ (p + 1)) := by
  by_contra none
  have fine (p : Nat) : Fine m e (10 ^ p) := by
    induction p with
    | zero =>
      have : 2 ^ 1 ≤ 2 ^ e := Nat.pow_le_pow_right (by decide) wide
      unfold Fine
      split <;> omega
    | succ p ih =>
      by_contra coarse
      exact none ⟨p, ih, coarse⟩
  have too_fine := fine e
  have : 2 ^ e ≤ 10 ^ e := Nat.pow_le_pow_left (by decide) e
  unfold Fine at too_fine
  split at too_fine <;> omega

/-- A number is written with at most seventeen digits and zeros, which stand for a number that it covers. -/
theorem exists_shortest (full : IsFull m) (wide : 0 < e) (narrow : e ≤ 971) :
    ∃ d p : Nat, shortest m e = (d, (p : Int)) ∧ Covers m e (d * 10 ^ p) ∧ d < 10 ^ 17 := by
  obtain ⟨p, fine, coarse⟩ := exists_fine m wide
  have step_lt : 10 ^ p < 2 ^ e := by
    unfold Fine at fine
    split at fine <;> omega
  have gap_le : 2 ^ (e - 1) ≤ 10 ^ (p + 1) := by
    have half : 2 ^ (e - 1) * 2 = 2 ^ e := Nat.two_pow_pred_mul_two wide
    unfold Fine at coarse
    split at coarse <;> omega
  have few := le_of_ten_pow_lt step_lt
  have many := le_of_two_pow_le gap_le
  have hit : (interval m e).onGrid? p ≠ none := by
    rcases onGrid?_cases (e := e) full p with ⟨d, found, -⟩ | ⟨-, here, next⟩
    · simp [found]
    · obtain ⟨low, high⟩ := grid_bounds (m * 2 ^ e) p
      exact absurd (fine.covers low high) (not_or_intro here next)
  obtain ⟨d, q, digits, coarser, covers, few⟩ :=
    exists_shortest_onGrid full (by unfold coarsest; omega) (by unfold coarsest; omega) hit
  refine ⟨d, q, digits, covers, ?_⟩
  -- The digits grow as the grid gets finer, so those on the grid that is fine enough bound them.
  have finer : m * 2 ^ e / 10 ^ q ≤ m * 2 ^ e / 10 ^ p :=
    Nat.div_le_div_left (Nat.pow_le_pow_right (by decide) coarser) (Nat.pow_pos (by decide))
  have most : m * 2 ^ e ≤ 10 ^ p * (10 * 2 ^ 53) := by
    have size : m * 2 ^ e ≤ 2 ^ 53 * 2 ^ e := Nat.mul_le_mul_right _ full.2.le
    unfold Fine at coarse
    rw [Nat.pow_succ] at coarse
    split at coarse
    · rename_i power
      rw [power]
      omega
    · omega
  have bound : m * 2 ^ e / 10 ^ p ≤ 10 * 2 ^ 53 := Nat.div_le_of_le_mul most
  omega

/-! ### Fifteen digits -/

section Short

variable {k j d : Nat}

/-- A step of the grid of a number of at most fifteen digits is larger than a gap. -/
theorem Covers.gap_lt (full : IsFull m) (covers : Covers m e (k * 10 ^ j)) (short : k < 10 ^ 15) : 2 ^ e < 10 ^ j := by
  have size := (covers.bounds full).1
  have few : k * 10 ^ j ≤ 10 ^ 15 * 10 ^ j := Nat.mul_le_mul_right _ short.le
  have pos := Nat.two_pow_pos e
  omega

private theorem lt_succ_of_gap_lt (gap : 2 ^ e < 10 ^ j) (hk : Covers m e (k * 10 ^ j)) (hd : Covers m e (d * 10 ^ j)) :
    d < k + 1 := by
  have near := hk.le_add hd
  refine Nat.lt_of_mul_lt_mul_right (a := 10 ^ j) ?_
  rw [Nat.add_one_mul]
  omega

/-- On a grid whose steps are larger than a gap no two numbers are covered by the same one. -/
theorem Covers.eq_of_gap_lt (gap : 2 ^ e < 10 ^ j) (hk : Covers m e (k * 10 ^ j)) (hd : Covers m e (d * 10 ^ j)) :
    d = k :=
  Nat.le_antisymm (Nat.le_of_lt_succ (lt_succ_of_gap_lt gap hk hd)) (Nat.le_of_lt_succ (lt_succ_of_gap_lt gap hd hk))

/-- On such a grid the number that is covered is next to the one that covers it, where the search looks. -/
theorem Covers.onGrid?_ne_none (full : IsFull m) (gap : 2 ^ e < 10 ^ j) (covers : Covers m e (k * 10 ^ j)) :
    (interval m e).onGrid? j ≠ none := by
  rcases onGrid?_cases (e := e) full j with ⟨d, found, -⟩ | ⟨-, here, next⟩
  · simp [found]
  · obtain ⟨floor, ceiling⟩ := grid_bounds (m * 2 ^ e) j
    obtain ⟨near, near'⟩ := covers.near
    have above : k * 10 ^ j < (m * 2 ^ e / 10 ^ j + 2) * 10 ^ j := by
      rw [Nat.add_mul] at ceiling ⊢
      omega
    have below : m * 2 ^ e / 10 ^ j * 10 ^ j < (k + 1) * 10 ^ j := by
      rw [Nat.add_one_mul]
      omega
    have := Nat.lt_of_mul_lt_mul_right above
    have := Nat.lt_of_mul_lt_mul_right below
    obtain rfl | rfl : k = m * 2 ^ e / 10 ^ j ∨ k = m * 2 ^ e / 10 ^ j + 1 := by omega
    · exact absurd covers here
    · exact absurd covers next

/-- A number of at most fifteen digits and zeros behind them is written itself. -/
theorem shortest_of_covers (full : IsFull m) (narrow : e ≤ 971) (covers : Covers m e (k * 10 ^ j))
    (short : k < 10 ^ 15) (last : ¬10 ∣ k) : shortest m e = (k, (j : Int)) := by
  obtain ⟨low, high⟩ := covers.bounds full
  have gap := covers.gap_lt full short
  have positive : 0 < k := Nat.pos_of_ne_zero fun zero => last (zero ▸ Nat.dvd_zero 10)
  have step_lt : 10 ^ j < 2 ^ (53 + e) :=
    calc
      10 ^ j ≤ k * 10 ^ j := Nat.le_mul_of_pos_left _ positive
      _ < 2 ^ 53 * 2 ^ e := high
      _ = 2 ^ (53 + e) := (Nat.pow_add 2 53 e).symm
  have size_le : 2 ^ (51 + e) ≤ 10 ^ (15 + j) :=
    calc
      2 ^ (51 + e) = 2 ^ 51 * 2 ^ e := Nat.pow_add 2 51 e
      _ ≤ k * 10 ^ j := low
      _ ≤ 10 ^ 15 * 10 ^ j := Nat.mul_le_mul_right _ short.le
      _ = 10 ^ (15 + j) := (Nat.pow_add 10 15 j).symm
  have few := le_of_ten_pow_lt step_lt
  have many := le_of_two_pow_le size_le
  obtain ⟨d, q, digits, coarser, other, -⟩ := exists_shortest_onGrid full (by unfold coarsest; omega)
    (by unfold coarsest; omega) (covers.onGrid?_ne_none full gap)
  -- A coarser grid would make the last digit a zero.
  obtain ⟨i, rfl⟩ := Nat.exists_eq_add_of_le coarser
  rw [Nat.pow_add, Nat.mul_left_comm, Nat.mul_comm] at other
  have same := covers.eq_of_gap_lt gap other
  cases i with
  | zero => rw [digits, ← same, Nat.pow_zero, Nat.mul_one, Nat.add_zero]
  | succ i => exact absurd ⟨d * 10 ^ i, by rw [← same, Nat.pow_succ, ← Nat.mul_assoc, Nat.mul_comm]⟩ last

end Short

end Search

end SqlSchema.Binary64
