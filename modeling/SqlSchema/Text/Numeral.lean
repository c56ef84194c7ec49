/-!
# Numerals

Reading decimal numerals into bounded whole numbers, and writing hexadecimal ones. A numeral is a run of digits,
with an optional sign where one is allowed; a value outside the bounds is refused, not wrapped.
-/

namespace SqlSchema.Text

/-- The value of a run of decimal digits; `none` for an empty run or another character. -/
def digitsValue? (cs : List Char) : Option Nat :=
  if cs.isEmpty || !cs.all Char.isDigit then none
  else some (cs.foldl (fun n c => n * 10 + (c.toNat - '0'.toNat)) 0)

/-- A whole number from `0` to `2 ^ 32 - 1`, with an optional plus sign. -/
def readCount? (cs : List Char) : Option Nat :=
  let digits := match cs with
    | '+' :: rest => rest
    | _ => cs
  (digitsValue? digits).bind fun n => if n < 4294967296 then some n else none

/-- A whole number from `-2 ^ 63` to `2 ^ 63 - 1`, with an optional sign. -/
def readInteger? (cs : List Char) : Option Int :=
  let value : Option Int := match cs with
    | '+' :: rest => (digitsValue? rest).map Int.ofNat
    | '-' :: rest => (digitsValue? rest).map fun n => -Int.ofNat n
    | _ => (digitsValue? cs).map Int.ofNat
  value.bind fun n => if -9223372036854775808 ≤ n ∧ n < 9223372036854775808 then some n else none

theorem isDigit_of_mem_toDigits {n : Nat} {c : Char} (h : c ∈ Nat.toDigits 10 n) : c.isDigit = true :=
  Nat.isDigit_of_mem_toDigits (by omega) (by omega) h

/-- A number is read back from its digits. -/
theorem digitsValue?_toDigits (n : Nat) : digitsValue? (Nat.toDigits 10 n) = some n := by
  have digits : (Nat.toDigits 10 n).all Char.isDigit = true := by
    rw [List.all_eq_true]
    exact fun c hc => isDigit_of_mem_toDigits hc
  have some_digit : (Nat.toDigits 10 n).isEmpty = false := by
    rw [List.isEmpty_eq_false_iff]
    exact Nat.toDigits_ne_nil
  have value : (Nat.toDigits 10 n).foldl (fun n c => n * 10 + (c.toNat - '0'.toNat)) 0 = n := by
    have known := Nat.ofDigitChars_ten_toDigits (n := n)
    rw [Nat.ofDigitChars_eq_foldl] at known
    simpa only [Nat.mul_comm] using known
  unfold digitsValue?
  rw [digits, some_digit, value]
  rfl

theorem readCount?_toDigits {n : Nat} (h : n < 4294967296) : readCount? (Nat.toDigits 10 n) = some n := by
  have no_sign : ∀ rest, Nat.toDigits 10 n ≠ '+' :: rest := by
    intro rest signed
    have digit : '+'.isDigit = true := isDigit_of_mem_toDigits (n := n) (by simp [signed])
    cases digit
  unfold readCount?
  split
  · rename_i rest signed
    exact absurd signed (no_sign rest)
  · simp only [digitsValue?_toDigits, Option.bind_some, if_pos h]

/-- The digits of `n` to the base sixteen, small letters, without padding. -/
def hexDigits (n : Nat) : List Char := Nat.toDigits 16 n

/-- The digits of `n` to the base sixteen, padded with zeros to `width`. -/
def hexPadded (width n : Nat) : List Char :=
  List.replicate (width - (hexDigits n).length) '0' ++ hexDigits n

end SqlSchema.Text
