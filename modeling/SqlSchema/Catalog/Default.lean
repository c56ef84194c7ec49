import SqlSchema.Binary64.Read
import SqlSchema.Column
import SqlSchema.Text.Blank
import SqlSchema.Text.Numeral

/-!
# Defaults as expressions

A catalog reports a default as an expression. Parentheses around the whole of it are dropped; a literal that is left,
perhaps with a cast, is the value it denotes, `NULL` is no default, and all else stays an expression.
-/

namespace SqlSchema.Default

open Text

/-- Whether parentheses outside of string literals are balanced, `depth` of them being open. -/
def balanced : List Char → Nat → Bool → Bool
  | [], depth, _ => depth == 0
  | c :: cs, depth, inText =>
    if c = '\'' then balanced cs depth (!inText)
    else if inText then balanced cs depth inText
    else if c = '(' then balanced cs (depth + 1) inText
    else if c = ')' then
      match depth with
      | 0 => false
      | outer + 1 => balanced cs outer inText
    else balanced cs depth inText

/-- What stands between parentheses that enclose the whole expression. -/
def enclosed? : List Char → Option (List Char)
  | '(' :: rest =>
    if rest.getLast? = some ')' && balanced rest.dropLast 0 false then some rest.dropLast else none
  | _ => none

theorem length_lt_of_enclosed? {cs inner : List Char} (h : enclosed? cs = some inner) :
    inner.length < cs.length := by
  unfold enclosed? at h
  split at h
  · split at h
    · cases h
      simp only [List.length_dropLast, List.length_cons]
      omega
    · cases h
  · cases h

theorem length_trimChars_le (cs : List Char) : (trimChars cs).length ≤ cs.length := by
  have h₁ := (List.dropWhile_sublist isBlank (l := cs)).length_le
  have h₂ := (List.dropWhile_sublist isBlank (l := (trimLeft cs).reverse)).length_le
  simp only [trimChars, trimRight, List.length_reverse] at *
  simp only [trimLeft] at *
  omega

/-- The expression without blanks and parentheses around it. -/
def core (cs : List Char) : List Char :=
  match h : enclosed? (trimChars cs) with
  | none => trimChars cs
  | some inner =>
    have := length_lt_of_enclosed? h
    have := length_trimChars_le cs
    core inner
termination_by cs.length

/-- The value of a string literal without its opening quote, and what follows the closing one. -/
def literalBody? : List Char → Option (List Char × List Char)
  | [] => none
  | '\'' :: '\'' :: rest => (literalBody? rest).map fun (value, after) => ('\'' :: value, after)
  | '\'' :: rest => some ([], rest)
  | c :: rest => (literalBody? rest).map fun (value, after) => (c :: value, after)

/-- The value of a string literal, behind which a cast may stand. -/
def literalText? : List Char → Option String
  | '\'' :: rest =>
    match literalBody? rest with
    | some (value, after) =>
      let cast := trimChars after
      if cast.isEmpty || [':', ':'].isPrefixOf cast then some (String.ofList value) else none
    | none => none
  | _ => none

/-- The characters of a numeral with a point or an exponent. -/
def isNumeric (c : Char) : Bool := c.isDigit || c = '+' || c = '-' || c = '.' || c = 'e' || c = 'E'

/-- The value of an expression without blanks and parentheses around it. -/
def ofCore? (cs : List Char) : Option Default :=
  let word := String.ofList cs
  if cs.isEmpty || sameName word "NULL" then none
  else if let some s := literalText? cs then some (.text s)
  else if sameName word "TRUE" then some (.boolean true)
  else if sameName word "FALSE" then some (.boolean false)
  else if let some n := readInteger? cs then some (.integer n)
  else if let (true, some x) := (cs.all isNumeric, Binary64.read? word) then some (.float x)
  else some (.expression word)

/-- The default that a catalog reports by an expression, if it amounts to one. -/
def ofCatalog? (expression : String) : Option Default := ofCore? (core expression.toList)

/-- Whether a reported default takes the values of a sequence. -/
def fromSequence (expression : String) : Bool :=
  startsWithName (String.ofList (trimLeft expression.toList)) "nextval("

end SqlSchema.Default
