import SqlSchema.Text.Ascii
import SqlSchema.Text.Blank
import SqlSchema.Text.Numeral
import SqlSchema.Text.Split

/-!
# Names of native types

A native type name is made of words and of arguments in parentheses, such as `NUMBER(12,2)` or
`CHAR(4) FOR BIT DATA`. Two names denote the same type if their words are the same (`typeWords`); the numbers among
the arguments (`typeArguments`) say which parameters it has.
-/

namespace SqlSchema

/-- The characters outside all brackets, round or square; `depth` counts the brackets that are open. -/
def outsideBrackets (depth : Nat) : List Char → List Char
  | [] => []
  | c :: rest =>
    if c = '(' || c = '[' then outsideBrackets (depth + 1) rest
    else if c = ')' || c = ']' then outsideBrackets (depth - 1) rest
    else if depth = 0 then c :: outsideBrackets depth rest
    else outsideBrackets depth rest

/-- The words of a type name outside brackets, in capitals and with one space between. -/
def typeWords (name : String) : String :=
  " ".intercalate ((Text.words ((outsideBrackets 0 name.toList).map Char.toUpper)).map String.ofList)

/-- The numbers among the arguments in the first parentheses of a type name. -/
def typeArguments (name : String) : List Nat :=
  match name.toList.dropWhile (· ≠ '(') with
  | [] => []
  | _ :: rest =>
    (Text.splitOn ',' (rest.takeWhile (· ≠ ')'))).filterMap fun argument =>
      Text.readCount? (Text.trimChars argument)

end SqlSchema
