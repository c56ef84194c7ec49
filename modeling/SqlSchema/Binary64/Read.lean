import SqlSchema.Binary64.Basic
import SqlSchema.Text.Ascii
import SqlSchema.Text.Numeral

/-!
# Reading a number

A number is written as an optional sign and either a word for infinity or for the undefined number, case aside, or
digits with an optional point among or beside them and an optional decimal exponent. At least one digit has to stand
before the exponent. The value is the nearest double precision number of the exact decimal.
-/

namespace SqlSchema.Binary64

open Text

/-- A decimal `digits * 10 ^ exponent`. -/
structure Decimal where
  digits : Nat
  exponent : Int
deriving DecidableEq, Repr

/-- The number nearest to a decimal. An exponent far outside the range decides the answer by itself, so that no
huge power of ten is formed. -/
def ofDecimal (negative : Bool) (d : Decimal) : Binary64 :=
  let magnitude := Int.ofNat (Nat.toDigits 10 d.digits).length + d.exponent
  if d.digits = 0 || magnitude < -330 then zero negative
  else if 310 < magnitude then .infinite negative
  else ofRatio negative (d.digits * Nat.pow 10 d.exponent.toNat) (Nat.pow 10 (-d.exponent).toNat)

/-- The exponent that follows the digits: nothing, or the letter E with an optionally signed numeral. -/
def readExponent? : List Char → Option Int
  | [] => some 0
  | c :: rest =>
    if c = 'e' || c = 'E' then
      match rest with
      | '+' :: ds => (digitsValue? ds).map Int.ofNat
      | '-' :: ds => (digitsValue? ds).map fun n => -Int.ofNat n
      | ds => (digitsValue? ds).map Int.ofNat
    else none

/-- A decimal without its sign. -/
def readDecimal? (cs : List Char) : Option Decimal :=
  let whole := cs.takeWhile Char.isDigit
  let rest := cs.dropWhile Char.isDigit
  let (fraction, rest) := match rest with
    | '.' :: after => (after.takeWhile Char.isDigit, after.dropWhile Char.isDigit)
    | _ => ([], rest)
  match digitsValue? (whole ++ fraction), readExponent? rest with
  | some digits, some e => some ⟨digits, e - Int.ofNat fraction.length⟩
  | _, _ => none

/-- A number without its sign. -/
def readUnsigned? (negative : Bool) (cs : List Char) : Option Binary64 :=
  match readDecimal? cs with
  | some d => some (ofDecimal negative d)
  | none =>
    let word := lower (String.ofList cs)
    if word = "inf" || word = "infinity" then some (.infinite negative)
    else if word = "nan" then some .nan
    else none

/-- The number written in a text, if it is one. -/
def read? (s : String) : Option Binary64 :=
  match s.toList with
  | '+' :: rest => readUnsigned? false rest
  | '-' :: rest => readUnsigned? true rest
  | cs => readUnsigned? false cs

end SqlSchema.Binary64
