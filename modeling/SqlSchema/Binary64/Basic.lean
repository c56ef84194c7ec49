/-!
# Binary floating point numbers

A `Binary64` is a double precision number given by its parts: a finite one is a significand times a power of two.
`ofRatio` rounds an exact quotient to the nearest number, a half to the even significand, and is the only way in which
a finite number arises, so significands stay below `2 ^ 53` and exponents between `-1074` and `971`.
-/

namespace SqlSchema

/-- A double precision number: `± significand * 2 ^ exponent`, an infinity, or no number. -/
inductive Binary64 where
  | finite (negative : Bool) (significand : Nat) (exponent : Int)
  | infinite (negative : Bool)
  | nan
deriving DecidableEq, Repr

namespace Binary64

/-- The least exponent, that of the subnormal numbers. -/
def minExponent : Int := -1074

/-- The exponent of the largest finite numbers. -/
def maxExponent : Int := 971

/-- The quotient `a / b` to the nearest whole number, a half to the even one. -/
def divEven (a b : Nat) : Nat :=
  let q := a / b
  let twice := 2 * (a % b)
  if twice < b then q else if b < twice then q + 1 else q + q % 2

/-- The number `num / den / 2 ^ e`, rounded to a whole number. -/
def scaleDown (num den : Nat) (e : Int) : Nat :=
  divEven (num * Nat.pow 2 (-e).toNat) (den * Nat.pow 2 e.toNat)

/-- Zero with a sign. -/
def zero (negative : Bool) : Binary64 := .finite negative 0 minExponent

/-- The number nearest to `num / den`. -/
def ofRatio (negative : Bool) (num den : Nat) : Binary64 :=
  if num = 0 || den = 0 then zero negative
  else
    let rough : Int := Int.ofNat num.log2 - Int.ofNat den.log2 - 53
    let isFull := Nat.pow 2 53 * (den * Nat.pow 2 rough.toNat) ≤ num * Nat.pow 2 (-rough).toNat
    let exact := if isFull then rough + 1 else rough
    let e := max exact minExponent
    let m := scaleDown num den e
    let (m, e) := if m = Nat.pow 2 53 then (Nat.pow 2 52, e + 1) else (m, e)
    if maxExponent < e then .infinite negative else .finite negative m e

end Binary64

end SqlSchema
