import Mathlib.Algebra.Order.Ring.Nat
import SqlSchema.Binary64.Read

/-!
# Large whole numbers as double precision numbers

From `2 ^ 53` on the double precision numbers are whole and have gaps, in which a whole number goes to the nearest of
them. A significand `m` of 53 bits and an exponent `e` cover the numbers that do so (`Covers`), and a whole number
below `limit` is read as the double precision number that covers it, a larger one as an infinity
(`exists_ofDecimal_whole`).
-/

namespace SqlSchema.Binary64

/-- The whole number from which on reading gives an infinity, half a gap above the largest finite number. -/
def limit : Nat := (2 ^ 54 - 1) * 2 ^ 970

/-- A whole number has `m * 2 ^ e` as its nearest double precision number: it lies at most half a gap away, where the
gap below a power of two is half as wide as the one above it, and exactly half a gap away only if `m` is even. -/
def Covers (m e x : Nat) : Prop :=
  if m = 2 ^ 52 then 4 * (m * 2 ^ e) ≤ 4 * x + 2 ^ e ∧ 2 * x ≤ 2 * (m * 2 ^ e) + 2 ^ e
  else if m % 2 = 0 then 2 * (m * 2 ^ e) ≤ 2 * x + 2 ^ e ∧ 2 * x ≤ 2 * (m * 2 ^ e) + 2 ^ e
  else 2 * (m * 2 ^ e) < 2 * x + 2 ^ e ∧ 2 * x < 2 * (m * 2 ^ e) + 2 ^ e

/-- A significand of 53 bits, as every finite number from `2 ^ 52` on has. -/
def IsFull (m : Nat) : Prop := 2 ^ 52 ≤ m ∧ m < 2 ^ 53

theorem IsFull.log2 {m : Nat} (full : IsFull m) : m.log2 = 52 :=
  (Nat.log2_eq_iff (by have := full.1; omega)).mpr full

section Covers

variable {m e x y : Nat}

theorem Covers.near (h : Covers m e x) : 2 * (m * 2 ^ e) ≤ 2 * x + 2 ^ e ∧ 2 * x ≤ 2 * (m * 2 ^ e) + 2 ^ e := by
  unfold Covers at h
  split at h
  · omega
  · split at h <;> omega

/-- Two numbers with the same nearest one are no further apart than a gap. -/
theorem Covers.le_add (hx : Covers m e x) (hy : Covers m e y) : y ≤ x + 2 ^ e := by
  have := hx.near
  have := hy.near
  omega

/-- The size of the numbers that are covered. -/
theorem Covers.bounds (full : IsFull m) (h : Covers m e x) : 2 ^ 51 * 2 ^ e ≤ x ∧ x < 2 ^ 53 * 2 ^ e := by
  obtain ⟨near, near'⟩ := h.near
  have low : 2 ^ 52 * 2 ^ e ≤ m * 2 ^ e := Nat.mul_le_mul_right _ full.1
  have high : m * 2 ^ e ≤ (2 ^ 53 - 1) * 2 ^ e := Nat.mul_le_mul_right _ (by have := full.2; omega)
  have pos := Nat.two_pow_pos e
  omega

/-- A grid is so fine that one of its steps reaches into the numbers covered. -/
def Fine (m e step : Nat) : Prop := if m = 2 ^ 52 then 4 * step < 3 * 2 ^ e else step < 2 ^ e

theorem Fine.covers {step d : Nat} (fine : Fine m e step) (low : d * step ≤ m * 2 ^ e)
    (high : m * 2 ^ e < (d + 1) * step) : Covers m e (d * step) ∨ Covers m e ((d + 1) * step) := by
  unfold Fine at fine
  rw [Nat.add_one_mul] at high ⊢
  unfold Covers
  by_cases power : m = 2 ^ 52
  · simp only [if_pos power] at fine ⊢
    omega
  · simp only [if_neg power] at fine ⊢
    split <;> omega

end Covers

/-! ### Reading -/

/-- Rounding to a whole number goes down or up, from halfway to the even one. -/
theorem divEven_cases (a b : Nat) :
    divEven a b = a / b ∧ 2 * (a % b) ≤ b ∧ (2 * (a % b) = b → a / b % 2 = 0) ∨
      divEven a b = a / b + 1 ∧ b ≤ 2 * (a % b) ∧ (2 * (a % b) = b → a / b % 2 = 1) := by
  unfold divEven
  dsimp only
  split
  · exact .inl ⟨rfl, by omega, by omega⟩
  · split
    · exact .inr ⟨rfl, by omega, by omega⟩
    · rcases Nat.mod_two_eq_zero_or_one (a / b) with even | odd
      · exact .inl ⟨by omega, by omega, fun _ => even⟩
      · exact .inr ⟨by omega, by omega, fun _ => odd⟩

private theorem four_mul_two_pow_le {k e : Nat} (h : k + 2 ≤ e) : 4 * 2 ^ k ≤ 2 ^ e :=
  calc
    4 * 2 ^ k = 2 ^ (k + 2) := by rw [Nat.pow_add, Nat.mul_comm]
    _ ≤ 2 ^ e := Nat.pow_le_pow_right (by decide) h

private theorem two_pow_le_two_mul {k e : Nat} (h : e ≤ k + 1) : 2 ^ e ≤ 2 * 2 ^ k :=
  calc
    2 ^ e ≤ 2 ^ (k + 1) := Nat.pow_le_pow_right (by decide) h
    _ = 2 * 2 ^ k := Nat.pow_succ'

section Reading

variable {n e : Nat}

/-- Rounding to 53 bits gives the number that covers what is rounded, which may have become a power of two. -/
theorem covers_divEven (low : 2 ^ (e + 52) ≤ n) (high : n < 2 ^ (e + 53)) :
    IsFull (divEven n (2 ^ e)) ∧ Covers (divEven n (2 ^ e)) e n ∨
      divEven n (2 ^ e) = 2 ^ 53 ∧ Covers (2 ^ 52) (e + 1) n := by
  have pos := Nat.two_pow_pos e
  have least : 2 ^ 52 ≤ n / 2 ^ e := (Nat.le_div_iff_mul_le pos).mpr (by rw [← Nat.pow_add, Nat.add_comm]; exact low)
  have most : n / 2 ^ e < 2 ^ 53 := Nat.div_lt_of_lt_mul (by rw [← Nat.pow_add]; exact high)
  have parts := Nat.div_add_mod n (2 ^ e)
  have rest := Nat.mod_lt n pos
  rw [Nat.mul_comm] at parts
  unfold Covers IsFull
  rw [Nat.pow_succ]
  rcases divEven_cases n (2 ^ e) with ⟨down, near, tie⟩ | ⟨up, near, tie⟩
  · rw [down]
    refine .inl ⟨⟨least, most⟩, ?_⟩
    split
    · omega
    · split <;> omega
  · rw [up]
    have next := Nat.add_one_mul (n / 2 ^ e) (2 ^ e)
    by_cases carry : n / 2 ^ e + 1 = 2 ^ 53
    · have top : n / 2 ^ e = 2 ^ 53 - 1 := by omega
      rw [top] at parts
      rw [if_pos rfl]
      exact .inr ⟨carry, by omega, by omega⟩
    · refine .inl ⟨⟨by omega, by omega⟩, ?_⟩
      rw [if_neg (by omega)]
      split <;> omega

theorem scaleDown_one (n e : Nat) : scaleDown n 1 e = divEven n (2 ^ e) := by
  unfold scaleDown
  rw [Int.toNat_natCast, Int.toNat_neg_natCast, Nat.pow_eq, Nat.pow_eq, Nat.pow_zero, Nat.mul_one, Nat.one_mul]

/-- How a whole number of more than 53 bits is rounded. -/
theorem ofRatio_one (negative : Bool) (bits : n.log2 = e + 53) :
    ofRatio negative n 1 =
      let rounded : Nat × Nat :=
        if divEven n (2 ^ (e + 1)) = 2 ^ 53 then (2 ^ 52, e + 2) else (divEven n (2 ^ (e + 1)), e + 1)
      if maxExponent < rounded.2 then .infinite negative else .finite negative rounded.1 rounded.2 := by
  have positive : n ≠ 0 := by
    rintro rfl
    simp at bits
  have rough : Int.ofNat n.log2 - Int.ofNat (Nat.log2 1) - 53 = (e : Int) := by
    rw [bits, show Nat.log2 1 = 0 by decide]
    simp
  have full : 2 ^ 53 * (1 * 2 ^ e) ≤ n * 2 ^ 0 := by
    have := (Nat.log2_eq_iff positive).mp bits
    rw [Nat.one_mul, ← Nat.pow_add, Nat.pow_zero, Nat.mul_one, Nat.add_comm]
    exact this.1
  have exponent : max ((e : Int) + 1) minExponent = ((e + 1 : Nat) : Int) := by
    unfold minExponent
    omega
  unfold ofRatio
  simp only [rough, Int.toNat_natCast, Int.toNat_neg_natCast, Nat.pow_eq]
  rw [if_neg (by simp [positive]), if_pos full, exponent, scaleDown_one]
  split <;> rfl

/-- A whole number of more than 53 bits is rounded to the number that covers it, unless that is out of range. -/
theorem exists_ofRatio_one (negative : Bool) (large : 2 ^ 53 ≤ n) :
    ∃ m e : Nat, IsFull m ∧ Covers m e n ∧
      ofRatio negative n 1 = if maxExponent < e then .infinite negative else .finite negative m e := by
  have positive : n ≠ 0 := by omega
  obtain ⟨e, bits⟩ : ∃ e, n.log2 = e + 53 := Nat.exists_eq_add_of_le' ((Nat.le_log2 positive).mpr large)
  obtain ⟨low, high⟩ := (Nat.log2_eq_iff positive).mp bits
  rw [show e + 53 = e + 1 + 52 by omega] at low high
  rw [ofRatio_one negative bits]
  rcases covers_divEven low high with ⟨full, covers⟩ | ⟨carry, covers⟩
  · have no_carry : divEven n (2 ^ (e + 1)) ≠ 2 ^ 53 := full.2.ne
    exact ⟨_, e + 1, full, covers, by simp only [if_neg no_carry]⟩
  · exact ⟨2 ^ 52, e + 2, ⟨le_rfl, by decide⟩, covers, by simp only [if_pos carry]⟩

/-- The exponent is in range exactly below `limit`. -/
theorem Covers.maxExponent_lt_iff {m : Nat} (full : IsFull m) (covers : Covers m e n) :
    maxExponent < e ↔ limit ≤ n := by
  obtain ⟨least, most⟩ := full
  obtain ⟨near, near'⟩ := covers.near
  unfold maxExponent limit
  have above (h : 971 < (e : Int)) : 4 * 2 ^ 970 ≤ 2 ^ e := four_mul_two_pow_le (by omega)
  have within (h : ¬971 < (e : Int)) : 2 ^ e ≤ 2 * 2 ^ 970 := two_pow_le_two_mul (by omega)
  generalize 2 ^ 970 = half at *
  constructor
  · intro beyond
    have gap := above beyond
    unfold Covers at covers
    by_cases power : m = 2 ^ 52
    · rw [if_pos power, power] at covers
      omega
    · have more : (2 ^ 52 + 1) * 2 ^ e ≤ m * 2 ^ e := Nat.mul_le_mul_right _ (by omega)
      omega
  · intro large
    by_contra small
    have gap := within small
    have pos := Nat.two_pow_pos e
    unfold Covers at covers
    by_cases last : m = 2 ^ 53 - 1
    · rw [last, if_neg (by decide), if_neg (by decide)] at covers
      omega
    · have less : m * 2 ^ e ≤ (2 ^ 53 - 2) * 2 ^ e := Nat.mul_le_mul_right _ (by omega)
      omega

/-- The exponents of the numbers that cover large whole numbers in range. -/
theorem Covers.exponent_bounds {m : Nat} (full : IsFull m) (covers : Covers m e n) (large : 2 ^ 53 ≤ n)
    (small : n < limit) : 0 < e ∧ e ≤ 971 := by
  constructor
  · by_contra zero
    obtain rfl : e = 0 := by omega
    have size := (covers.bounds full).2
    omega
  · have in_range := mt (covers.maxExponent_lt_iff full).mp (Nat.not_le.mpr small)
    unfold maxExponent at in_range
    omega

private theorem length_toDigits_le {k : Nat} (pos : 0 < k) (h : n < 10 ^ k) : (Nat.toDigits 10 n).length ≤ k :=
  (Nat.length_toDigits_le_iff (by decide) pos).mpr h

theorem length_toDigits_of_lt_limit (small : n < limit) : (Nat.toDigits 10 n).length ≤ 310 := by
  have bound : limit ≤ 10 ^ 310 := by decide +kernel
  exact length_toDigits_le (by decide) (small.trans_le bound)

/-- Reading a large whole number gives the finite number that covers it or, from `limit` on, an infinity. -/
theorem exists_ofDecimal_whole (negative : Bool) (large : 2 ^ 53 ≤ n) :
    ∃ m e : Nat, IsFull m ∧ Covers m e n ∧
      ofDecimal negative ⟨n, 0⟩ = if n < limit then .finite negative m e else .infinite negative := by
  obtain ⟨m, e, full, covers, rounded⟩ := exists_ofRatio_one negative large
  refine ⟨m, e, full, covers, ?_⟩
  have in_range : (if maxExponent < (e : Int) then infinite negative else finite negative m e) =
      if n < limit then .finite negative m e else .infinite negative := by
    rw [← ite_not]
    simp only [covers.maxExponent_lt_iff full, Nat.not_le]
  have positive : n ≠ 0 := by omega
  rw [← in_range]
  unfold ofDecimal
  simp only [Int.add_zero]
  rw [if_neg (by simp [positive])]
  split
  · rename_i long
    have beyond : limit ≤ n := by
      by_contra small
      have short := length_toDigits_of_lt_limit (Nat.not_le.mp small)
      exact absurd (Int.ofNat_le.mpr short) (Int.not_le.mpr long)
    rw [if_pos ((covers.maxExponent_lt_iff full).mpr beyond)]
  · rw [← rounded]
    simp

end Reading

end SqlSchema.Binary64
