import Mathlib.Data.List.TakeWhile
import Mathlib.Data.Nat.Factorization.Basic
import SqlSchema.Proofs.Binary64.Shortest
import SqlSchema.Proofs.Catalog.Literals

/-!
# Whole numbers as defaults

A default that is a whole number keeps its value as long as it fits 64 bits. Beyond that it is taken as a double
precision number, which is written with the digits that tell it from its neighbours and zeros for the rest, so of a
longer number only the first digits are kept; and a number too large for that comes back as no number at all
(`wholeNumbers_written`).
-/

namespace SqlSchema

namespace Text

/-- The whole number that decimal digits with an optional sign denote. -/
def wholeValue? (cs : List Char) : Option Int :=
  match cs with
  | '+' :: ds => (digitsValue? ds).map Int.ofNat
  | '-' :: ds => (digitsValue? ds).map fun n => -Int.ofNat n
  | _ => (digitsValue? cs).map Int.ofNat

/-- A text of decimal digits with an optional sign denotes the whole number. -/
def Denotes (text : String) (n : Int) : Prop := wholeValue? text.toList = some n

instance (text : String) (n : Int) : Decidable (Denotes text n) := inferInstanceAs (Decidable (_ = _))

variable {ds : List Char} {m : Nat}

theorem digitsValue?_eq_some_iff : digitsValue? ds = some m ↔
    ds ≠ [] ∧ (∀ c ∈ ds, c.isDigit = true) ∧ ds.foldl (fun n c => n * 10 + (c.toNat - '0'.toNat)) 0 = m := by
  unfold digitsValue?
  split
  · rename_i other
    simp only [reduceCtorEq, false_iff]
    rintro ⟨some_digit, digits, -⟩
    simp only [Bool.or_eq_true, List.isEmpty_iff, Bool.not_eq_true', List.all_eq_false] at other
    obtain rfl | ⟨c, mem, no_digit⟩ := other
    · exact some_digit rfl
    · exact no_digit (digits c mem)
  · rename_i digits
    simp only [Bool.or_eq_true, List.isEmpty_iff, Bool.not_eq_true', not_or, Bool.not_eq_false, List.all_eq_true]
      at digits
    rw [Option.some.injEq]
    exact ⟨fun value => ⟨digits.1, digits.2, value⟩, fun h => h.2.2⟩

/-- Zeros behind a numeral multiply its value by a power of ten. -/
theorem digitsValue?_zeros (h : digitsValue? ds = some m) (p : Nat) :
    digitsValue? (ds ++ List.replicate p '0') = some (m * 10 ^ p) := by
  obtain ⟨some_digit, digits, value⟩ := digitsValue?_eq_some_iff.mp h
  have zeros : (List.replicate p '0').foldl (fun n c => n * 10 + (c.toNat - '0'.toNat)) m = m * 10 ^ p := by
    induction p with
    | zero => rw [List.replicate_zero, List.foldl_nil, Nat.pow_zero, Nat.mul_one]
    | succ p ih =>
      rw [List.replicate_succ', List.foldl_append, ih, Nat.pow_succ, ← Nat.mul_assoc]
      rfl
  refine digitsValue?_eq_some_iff.mpr ⟨List.append_ne_nil_of_left_ne_nil some_digit _, ?_, ?_⟩
  · intro c mem
    rcases List.mem_append.mp mem with mem | mem
    · exact digits c mem
    · rw [List.eq_of_mem_replicate mem]
      rfl
  · rw [List.foldl_append, value, zeros]

theorem wholeValue?_digits (h : digitsValue? ds = some m) :
    wholeValue? ds = some (m : Int) ∧ wholeValue? ('-' :: ds) = some (-(m : Int)) := by
  obtain ⟨some_digit, digits, -⟩ := digitsValue?_eq_some_iff.mp h
  obtain ⟨c, cs, rfl⟩ := List.exists_cons_of_ne_nil some_digit
  have digit := digits c List.mem_cons_self
  constructor
  · unfold wholeValue?
    split
    · rename_i first
      obtain ⟨rfl, -⟩ := List.cons.inj first
      cases digit
    · rename_i first
      obtain ⟨rfl, -⟩ := List.cons.inj first
      cases digit
    · rw [h]
      rfl
  · show (digitsValue? (c :: cs)).map _ = _
    rw [h]
    rfl

/-- A whole number is written as digits, which a sign may stand in front of. -/
theorem wholeValue?_cases {cs : List Char} {n : Int} (h : wholeValue? cs = some n) :
    ∃ ds m, digitsValue? ds = some m ∧
      (cs = ds ∧ n = m ∨ cs = '+' :: ds ∧ n = m ∨ cs = '-' :: ds ∧ n = -(m : Int)) := by
  unfold wholeValue? at h
  split at h
  all_goals
    obtain ⟨m, value, rfl⟩ := Option.map_eq_some_iff.mp h
  · exact ⟨_, m, value, .inr (.inl ⟨rfl, rfl⟩)⟩
  · exact ⟨_, m, value, .inr (.inr ⟨rfl, rfl⟩)⟩
  · exact ⟨_, m, value, .inl ⟨rfl, rfl⟩⟩

/-- A whole number fits 64 bits. -/
def Fits (n : Int) : Prop := -(2 ^ 63) ≤ n ∧ n < 2 ^ 63

instance : DecidablePred Fits := fun n => inferInstanceAs (Decidable (-(2 ^ 63) ≤ n ∧ n < 2 ^ 63))

theorem readInteger?_eq_wholeValue? (cs : List Char) :
    readInteger? cs = (wholeValue? cs).bind fun n => if Fits n then some n else none := rfl

end Text

open Text

/-! ### Reading -/

theorem Binary64.readUnsigned?_digits {ds : List Char} {m : Nat} (h : digitsValue? ds = some m) (negative : Bool) :
    readUnsigned? negative ds = some (ofDecimal negative ⟨m, 0⟩) := by
  have digits := (digitsValue?_eq_some_iff.mp h).2.1
  have decimal : readDecimal? ds = some ⟨m, 0⟩ := by
    unfold readDecimal?
    rw [List.takeWhile_eq_self_iff.mpr digits, List.dropWhile_eq_nil_iff.mpr digits]
    simp [h, readExponent?]
  rw [readUnsigned?, decimal]

namespace Default

variable {text : String} {n : Int}

private theorem read?_of_wholeValue? {cs : List Char} (h : wholeValue? cs = some n) (nonzero : n ≠ 0) :
    Binary64.read? (String.ofList cs) = some (Binary64.ofDecimal (decide (n < 0)) ⟨n.natAbs, 0⟩) := by
  obtain ⟨ds, m, value, shape⟩ := wholeValue?_cases h
  have unsigned := Binary64.readUnsigned?_digits value
  unfold Binary64.read?
  rw [String.toList_ofList]
  have positive : decide ((m : Int) < 0) = false := by
    simp
  rcases shape with ⟨rfl, rfl⟩ | ⟨rfl, rfl⟩ | ⟨rfl, rfl⟩
  · rw [positive, Int.natAbs_natCast]
    have digits := (digitsValue?_eq_some_iff.mp value).2.1
    split
    · cases digits _ List.mem_cons_self
    · cases digits _ List.mem_cons_self
    · exact unsigned false
  · rw [positive, Int.natAbs_natCast]
    exact unsigned false
  · have negative : decide (-(m : Int) < 0) = true := by
      simp only [decide_eq_true_eq]
      omega
    rw [negative, Int.natAbs_neg, Int.natAbs_natCast]
    exact unsigned true

private theorem exists_startsNumber {cs : List Char} (h : wholeValue? cs = some n) :
    ∃ c rest, cs = c :: rest ∧ StartsNumber c ∧ ∀ e ∈ rest, e.isDigit = true := by
  obtain ⟨ds, m, value, shape⟩ := wholeValue?_cases h
  obtain ⟨some_digit, digits, -⟩ := digitsValue?_eq_some_iff.mp value
  rcases shape with ⟨rfl, -⟩ | ⟨rfl, -⟩ | ⟨rfl, -⟩
  · obtain ⟨c, rest, rfl⟩ := List.exists_cons_of_ne_nil some_digit
    obtain ⟨digit, digits⟩ := List.forall_mem_cons.mp digits
    exact ⟨c, rest, rfl, .inl digit, digits⟩
  · exact ⟨_, _, rfl, .inr (.inr rfl), digits⟩
  · exact ⟨_, _, rfl, .inr (.inl rfl), digits⟩

/-- A whole number is read as an integer if it fits 64 bits, and as a double precision number else. -/
theorem ofCatalog?_of_denotes (numeral : Denotes text n) :
    ofCatalog? text =
      some (if Fits n then .integer n else .float (.ofDecimal (decide (n < 0)) ⟨n.natAbs, 0⟩)) := by
  obtain ⟨c, rest, chars, start, digits⟩ := exists_startsNumber numeral
  have integer := readInteger?_eq_wholeValue? text.toList
  rw [numeral, Option.bind_some] at integer
  unfold Denotes at numeral
  rw [ofCatalog?]
  rw [chars] at integer numeral ⊢
  rw [core_of_number start digits]
  by_cases fits : Fits n
  · rw [if_pos fits] at integer ⊢
    exact ofCore?_of_readInteger? start integer
  · rw [if_neg fits] at integer ⊢
    have nonzero : n ≠ 0 := by
      rintro rfl
      exact fits (by decide)
    have numeric : (c :: rest).all isNumeric = true := by
      have first : isNumeric c = true := by
        rcases start with digit | rfl | rfl
        · simp [isNumeric, digit]
        · decide
        · decide
      rw [List.all_cons, first, Bool.true_and, List.all_eq_true]
      intro e mem
      simp [isNumeric, digits e mem]
    exact ofCore?_of_read? start integer numeric (read?_of_wholeValue? numeral nonzero)

/-! ### Writing -/

theorem denotes_toString (fits : Fits n) : Denotes (toString n) n := by
  obtain ⟨c, cs, chars, -, -, read⟩ := exists_number n
  have integer := read fits.1 fits.2
  rw [readInteger?_eq_wholeValue?, Option.bind_eq_some_iff] at integer
  obtain ⟨k, value, bounds⟩ := integer
  split at bounds
  · cases bounds
    rw [Denotes, chars, value]
  · cases bounds

theorem denotes_write {m p d : Nat} {e : Int} (negative : Bool) (nonzero : m ≠ 0)
    (digits : Binary64.shortest m e = (d, (p : Int))) :
    Denotes (Binary64.write (.finite negative m e))
      (if negative then -((d * 10 ^ p : Nat) : Int) else (d * 10 ^ p : Nat)) := by
  have value := wholeValue?_digits (digitsValue?_zeros (digitsValue?_toDigits d) p)
  have body : Binary64.positional d p = Nat.toDigits 10 d ++ List.replicate p '0' := by
    unfold Binary64.positional
    rw [if_pos (by omega), Int.toNat_natCast]
  unfold Binary64.write Denotes
  simp only [if_neg nonzero, digits, body, String.toList_ofList]
  cases negative
  · exact value.1
  · exact value.2

theorem not_denotes_infinite (negative : Bool) (k : Int) : ¬Denotes (Binary64.write (.infinite negative)) k := by
  cases negative <;> exact nofun

/-- A whole number is written with at most `c` digits and zeros behind them. -/
def HasDigits (c : Nat) (n : Int) : Prop := ∃ k j, n.natAbs = k * 10 ^ j ∧ k < 10 ^ c

theorem HasDigits.exists_last {c : Nat} (h : HasDigits c n) (nonzero : n ≠ 0) :
    ∃ k j, n.natAbs = k * 10 ^ j ∧ k < 10 ^ c ∧ ¬10 ∣ k := by
  obtain ⟨k, j, value, short⟩ := h
  have positive : k ≠ 0 := by
    rintro rfl
    omega
  obtain ⟨i, last, no_zero, rfl⟩ := Nat.exists_eq_pow_mul_and_not_dvd positive 10 (by decide)
  refine ⟨last, i + j, ?_, ?_, no_zero⟩
  · rw [value, Nat.pow_add, Nat.mul_comm (10 ^ i), Nat.mul_assoc]
  · exact Nat.lt_of_le_of_lt (Nat.le_mul_of_pos_left _ (Nat.pow_pos (by decide))) short

/-- What is written for a whole number in the range of double precision that does not fit 64 bits. -/
theorem exists_denotes_write (wide : ¬Fits n) (small : n.natAbs < Binary64.limit) :
    ∃ k, Denotes (Binary64.write (.ofDecimal (decide (n < 0)) ⟨n.natAbs, 0⟩)) k ∧
      2 ^ 51 * (k - n).natAbs ≤ n.natAbs ∧ HasDigits 17 k ∧ (HasDigits 15 n → k = n) := by
  have large : 2 ^ 53 ≤ n.natAbs := by
    unfold Fits at wide
    omega
  obtain ⟨m, e, full, covers, read⟩ := Binary64.exists_ofDecimal_whole (decide (n < 0)) large
  obtain ⟨positive, narrow⟩ := covers.exponent_bounds full large small
  obtain ⟨d, p, digits, near, few⟩ := Binary64.exists_shortest full positive narrow
  have written := denotes_write (decide (n < 0)) (by have := full.1; omega) digits
  obtain ⟨k, signed⟩ : ∃ k : Int, k = if decide (n < 0) then -((d * 10 ^ p : Nat) : Int) else (d * 10 ^ p : Nat) :=
    ⟨_, rfl⟩
  rw [read, if_pos small]
  rw [← signed] at written
  have sides : n < 0 ∧ k = -((d * 10 ^ p : Nat) : Int) ∨ 0 ≤ n ∧ k = (d * 10 ^ p : Nat) := by
    by_cases sign : n < 0
    · exact .inl ⟨sign, by simpa [sign] using signed⟩
    · exact .inr ⟨by omega, by simpa [sign] using signed⟩
  refine ⟨k, written, ?_, ⟨d, p, by omega, few⟩, fun short => ?_⟩
  · -- Both numbers are covered, and a gap is a small part of either.
    have := covers.le_add near
    have := near.le_add covers
    have := (covers.bounds full).1
    omega
  · obtain ⟨a, j, value, short, last⟩ := short.exists_last (by omega)
    rw [value] at covers
    have same := digits.symm.trans (Binary64.shortest_of_covers full narrow covers short last)
    obtain ⟨rfl, exponent⟩ := Prod.mk.inj same
    obtain rfl := Int.ofNat_inj.mp exponent
    omega

/-- A default that is a whole number is written as the same number if it fits 64 bits. If it does not and is in the
range of double precision, it is written as a whole number of at most seventeen digits and zeros behind them, which is
off by at most one part in `2 ^ 51` and by nothing if fifteen digits and zeros are enough for the number read. Beyond
the range what is written is no number. -/
theorem wholeNumbers_written (numeral : Denotes text n) :
    ∃ v, ofCatalog? text = some v ∧ ∀ d : Dialect,
      (Fits n → Denotes (d.defaultLiteral v) n) ∧
      (¬Fits n → n.natAbs < Binary64.limit →
        ∃ k, Denotes (d.defaultLiteral v) k ∧ 2 ^ 51 * (k - n).natAbs ≤ n.natAbs ∧ HasDigits 17 k ∧
          (HasDigits 15 n → k = n)) ∧
      (Binary64.limit ≤ n.natAbs → ∀ k, ¬Denotes (d.defaultLiteral v) k) := by
  refine ⟨_, ofCatalog?_of_denotes numeral, fun d => ⟨fun fits => ?_, fun wide small => ?_, fun beyond => ?_⟩⟩
  · rw [if_pos fits]
    exact denotes_toString fits
  · rw [if_neg wide]
    exact exists_denotes_write wide small
  · have large : 2 ^ 63 < n.natAbs := by
      have : 2 ^ 63 < Binary64.limit := by decide +kernel
      omega
    have wide : ¬Fits n := by
      unfold Fits
      omega
    obtain ⟨m, e, -, -, read⟩ := Binary64.exists_ofDecimal_whole (n := n.natAbs) (decide (n < 0)) (by omega)
    rw [if_neg wide, read, if_neg (Nat.not_lt.mpr beyond)]
    exact not_denotes_infinite _

theorem longNumeral_written : ∃ v, ofCatalog? "-250000000000000000000000000" = some v ∧
    ∀ d : Dialect, Denotes (d.defaultLiteral v) (-250000000000000000000000000) := by
  have numeral : Denotes "-250000000000000000000000000" (-250000000000000000000000000) := by decide
  obtain ⟨v, read, written⟩ := wholeNumbers_written numeral
  refine ⟨v, read, fun d => ?_⟩
  obtain ⟨k, denoted, -, -, same⟩ := (written d).2.1 (by decide) (by decide +kernel)
  rwa [same ⟨25, 25, by decide, by decide⟩] at denoted

/-- The largest unsigned 64-bit number comes back as another one. -/
theorem unsignedMaximum_changed : Denotes "18446744073709551615" 18446744073709551615 ∧
    ∀ d ∈ Dialect.all, (ofCatalog? "18446744073709551615").map d.defaultLiteral = some "18446744073709552000" ∧
      ¬Denotes "18446744073709552000" 18446744073709551615 := by
  decide +kernel

end Default

end SqlSchema
