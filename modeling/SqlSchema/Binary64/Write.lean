import SqlSchema.Binary64.Basic

/-!
# Writing a number

A finite number is written with the fewest decimal digits that read back as the same number, and of those with the
nearest; always positionally, and without a point when it is whole. The search tries coarser grids of decimals first:
on the grid of step `10 ^ p` only the two neighbours of the number can lie in its rounding interval.
-/

namespace SqlSchema.Binary64

/-- A positive finite number as `4 * significand * 2 ^ (exponent - 2)`, so that the ends of its rounding interval are
whole multiples of the same power of two. -/
structure Interval where
  centre : Nat
  low : Nat
  high : Nat
  exponent : Int
  /-- Whether the ends round to the number too. -/
  closed : Bool
deriving DecidableEq, Repr

/-- The decimals that round to `m * 2 ^ e`. Below a power of two the numbers lie twice as close. -/
def interval (m : Nat) (e : Int) : Interval :=
  { centre := 4 * m
    low := if m = Nat.pow 2 52 && e ≠ minExponent then 4 * m - 1 else 4 * m - 2
    high := 4 * m + 2
    exponent := e - 2
    closed := m % 2 = 0 }

/-- The numbers `x * 2 ^ e` and `d * 10 ^ p`, both multiplied so that they are whole. -/
def commonScale (x : Nat) (e : Int) (d : Nat) (p : Int) : Nat × Nat :=
  (x * Nat.pow 2 e.toNat * Nat.pow 10 (-p).toNat, d * Nat.pow 10 p.toNat * Nat.pow 2 (-e).toNat)

/-- Whether the decimal `d * 10 ^ p` rounds to the number of the interval. -/
def Interval.contains (i : Interval) (d : Nat) (p : Int) : Bool :=
  let (low, x) := commonScale i.low i.exponent d p
  let (high, _) := commonScale i.high i.exponent d p
  if i.closed then low ≤ x && x ≤ high else low < x && x < high

/-- The decimal on the grid of step `10 ^ p` that stands for the number, if one does. -/
def Interval.onGrid? (i : Interval) (p : Int) : Option (Nat × Int) :=
  let (v, step) := commonScale i.centre i.exponent 1 p
  let d := v / step
  match i.contains d p, i.contains (d + 1) p with
  | true, true => some (if 2 * (v - d * step) < step then d else d + 1, p)
  | true, false => some (d, p)
  | false, true => some (d + 1, p)
  | false, false => none

/-- The fewest digits that stand for `m * 2 ^ e`, as a whole number and a power of ten. Seventeen digits always do. -/
def shortest (m : Nat) (e : Int) : Nat × Int :=
  let bits := Int.ofNat m.log2 + 1 + e
  let coarse := bits * 30103 / 100000 + 1
  ((List.range 22).findSome? fun i => (interval m e).onGrid? (coarse - Int.ofNat i)).getD (0, 0)

/-- A whole number of digits times a power of ten, written positionally without zeros at the end of a fraction. -/
def positional (d : Nat) (p : Int) : List Char :=
  let digits := Nat.toDigits 10 d
  if 0 ≤ p then digits ++ List.replicate p.toNat '0'
  else
    let places := (-p).toNat
    let padded := List.replicate (places + 1 - digits.length) '0' ++ digits
    let whole := padded.take (padded.length - places)
    let fraction := ((padded.drop (padded.length - places)).reverse.dropWhile (· == '0')).reverse
    if fraction.isEmpty then whole else whole ++ '.' :: fraction

/-- The text of a number. -/
def write : Binary64 → String
  | .nan => "NaN"
  | .infinite negative => if negative then "-inf" else "inf"
  | .finite negative m e =>
    let body := if m = 0 then ['0'] else
      let (d, p) := shortest m e
      positional d p
    String.ofList (if negative then '-' :: body else body)

end SqlSchema.Binary64
