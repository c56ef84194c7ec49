/-!
# JSON text

A `Json` value keeps what the text says: a number is the literal as written and a string is its body as written, so
a reader decides itself which literals it takes (`count?`, `text?`) and pays no heed to the parts it skips. The
members of an object stand in the order of the text, repetitions included.
-/

namespace SqlSchema

/-- A JSON value, with numbers and strings as they were written. -/
inductive Json where
  | null
  | bool (value : Bool)
  | number (literal : List Char)
  | string (body : List Char)
  | array (items : List Json)
  | object (members : List (List Char × Json))
deriving Inhabited

namespace Json

/-- The characters between tokens. -/
def isSpace (c : Char) : Bool := c = ' ' || c = '\n' || c = '\t' || c = '\r'

/-- The value of a hexadecimal digit. -/
def hexValue? (c : Char) : Option Nat :=
  if c.isDigit then some (c.toNat - '0'.toNat)
  else if 'a' ≤ c && c ≤ 'f' then some (c.toNat - 'a'.toNat + 10)
  else if 'A' ≤ c && c ≤ 'F' then some (c.toNat - 'A'.toNat + 10)
  else none

/-- The value of four hexadecimal digits. -/
def hexQuad? : List Char → Option Nat
  | [a, b, c, d] => do
    let a ← hexValue? a
    let b ← hexValue? b
    let c ← hexValue? c
    let d ← hexValue? d
    some (((a * 16 + b) * 16 + c) * 16 + d)
  | _ => none

/-- The body of a string after its opening quote, as written, and what follows the closing quote. -/
def stringBody? : List Char → Option (List Char × List Char)
  | [] => none
  | '"' :: rest => some ([], rest)
  | '\\' :: 'u' :: a :: b :: c :: d :: rest =>
    if (hexQuad? [a, b, c, d]).isSome then
      (stringBody? rest).map fun (body, after) => ('\\' :: 'u' :: a :: b :: c :: d :: body, after)
    else none
  | '\\' :: c :: rest =>
    if c ∈ ['"', '\\', '/', 'b', 'f', 'n', 'r', 't'] then
      (stringBody? rest).map fun (body, after) => ('\\' :: c :: body, after)
    else none
  | c :: rest =>
    if c.toNat < 0x20 || c = '\\' then none
    else (stringBody? rest).map fun (body, after) => (c :: body, after)

/-- A run of digits, which may not be empty, and the rest. -/
def digits? (cs : List Char) : Option (List Char × List Char) :=
  let ds := cs.takeWhile Char.isDigit
  if ds.isEmpty then none else some (ds, cs.dropWhile Char.isDigit)

/-- The digits before the point: a zero alone or a run that does not start with one. -/
def wholePart? : List Char → Option (List Char × List Char)
  | '0' :: rest => if (rest.takeWhile Char.isDigit).isEmpty then some (['0'], rest) else none
  | cs => digits? cs

/-- The point and the digits after it, if there is a point. -/
def fractionPart? : List Char → Option (List Char × List Char)
  | '.' :: rest => (digits? rest).map fun (ds, after) => ('.' :: ds, after)
  | cs => some ([], cs)

/-- The decimal exponent, if there is one. -/
def exponentPart? : List Char → Option (List Char × List Char)
  | c :: rest =>
    if c = 'e' || c = 'E' then
      match rest with
      | '+' :: ds => (digits? ds).map fun (ds, after) => (c :: '+' :: ds, after)
      | '-' :: ds => (digits? ds).map fun (ds, after) => (c :: '-' :: ds, after)
      | ds => (digits? ds).map fun (ds, after) => (c :: ds, after)
    else some ([], c :: rest)
  | [] => some ([], [])

/-- A number literal and the rest. -/
def number? (cs : List Char) : Option (List Char × List Char) := do
  let (sign, rest) := match cs with
    | '-' :: rest => (['-'], rest)
    | _ => ([], cs)
  let (whole, rest) ← wholePart? rest
  let (fraction, rest) ← fractionPart? rest
  let (exponent, rest) ← exponentPart? rest
  some (sign ++ whole ++ fraction ++ exponent, rest)

mutual

/-- A value at the start of the characters, and the rest. Each step takes one unit of fuel. -/
def value? : Nat → List Char → Option (Json × List Char)
  | 0, _ => none
  | fuel + 1, cs =>
    match cs.dropWhile isSpace with
    | 'n' :: 'u' :: 'l' :: 'l' :: rest => some (.null, rest)
    | 't' :: 'r' :: 'u' :: 'e' :: rest => some (.bool true, rest)
    | 'f' :: 'a' :: 'l' :: 's' :: 'e' :: rest => some (.bool false, rest)
    | '"' :: rest => (stringBody? rest).map fun (body, after) => (.string body, after)
    | '[' :: rest =>
      match rest.dropWhile isSpace with
      | ']' :: after => some (.array [], after)
      | _ => (items? fuel rest).map fun (items, after) => (.array items, after)
    | '\x7b' :: rest =>
      match rest.dropWhile isSpace with
      | '\x7d' :: after => some (.object [], after)
      | _ => (members? fuel rest).map fun (members, after) => (.object members, after)
    | other => (number? other).map fun (literal, after) => (.number literal, after)

/-- The items of an array up to its closing bracket. -/
def items? : Nat → List Char → Option (List Json × List Char)
  | 0, _ => none
  | fuel + 1, cs =>
    match value? fuel cs with
    | none => none
    | some (item, rest) =>
      match rest.dropWhile isSpace with
      | ']' :: after => some ([item], after)
      | ',' :: more => (items? fuel more).map fun (items, after) => (item :: items, after)
      | _ => none

/-- The members of an object up to its closing brace. -/
def members? : Nat → List Char → Option (List (List Char × Json) × List Char)
  | 0, _ => none
  | fuel + 1, cs =>
    match cs.dropWhile isSpace with
    | '"' :: rest =>
      match stringBody? rest with
      | none => none
      | some (key, rest) =>
        match rest.dropWhile isSpace with
        | ':' :: rest =>
          match value? fuel rest with
          | none => none
          | some (member, rest) =>
            match rest.dropWhile isSpace with
            | '\x7d' :: after => some ([(key, member)], after)
            | ',' :: more =>
              (members? fuel more).map fun (members, after) => ((key, member) :: members, after)
            | _ => none
        | _ => none
    | _ => none

end

/-- The value that a whole text denotes, blanks around it aside. Two units of fuel for each character are enough: an
opening bracket takes two steps, and each further item or member has its comma. -/
def parse? (s : String) : Option Json :=
  match value? (2 * s.toList.length + 2) s.toList with
  | some (j, rest) => if (rest.dropWhile isSpace).isEmpty then some j else none
  | none => none

end Json

end SqlSchema
