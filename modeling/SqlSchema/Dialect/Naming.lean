import SqlSchema.Dialect.Basic
import SqlSchema.Text.Bytes
import SqlSchema.Text.Numeral

/-!
# Names in a dialect

A name that a dialect reserves is written with an ending that makes it an ordinary one (`escape`), and a name that is
made up from others is cut to what the engine takes, with a fingerprint of the whole so that different names stay
different (`fit`). `render` writes a name into a statement: escaped, and if names are quoted, folded as the engine
folds a name that is not and put between delimiters.
-/

namespace SqlSchema.Dialect

/-- The ending of an escaped name. -/
def escapeEnding : String := "_attribute"

/-- Whether the dialect reserves a name. -/
def isReserved (d : Dialect) (name : String) : Bool := d.reserved.contains name

/-- The name that stands for `name` in statements. A name with the ending is taken as escaped already. -/
def escape (d : Dialect) (name : String) : String :=
  if Text.endsWith (Text.lower name) escapeEnding || !d.isReserved name then name else name ++ escapeEnding

/-- The fingerprint of a name in eight hexadecimal digits. -/
def fingerprintDigits (name : String) : List Char := Text.hexPadded 8 (Text.fingerprint name).toNat

/-- The name cut to what the engine takes. -/
def fit (d : Dialect) (name : String) : String :=
  match d.maxNameSize with
  | none => name
  | some max =>
    if Text.size name ≤ max then name
    else
      let digits := fingerprintDigits name
      String.ofList (Text.takeBytes (max - (digits.length + 1)) name.toList ++ '_' :: digits)

/-- The letters of a quoted name as the engine keeps them. -/
def fold (d : Dialect) (name : String) : String :=
  match d.nameCase with
  | .asDeclared => name
  | .upper => Text.upper name
  | .lower => Text.lower name

/-- The text of a name in a statement. -/
def render (d : Dialect) (quoted : Bool) (name : String) : String :=
  if quoted then d.quote.quote (d.fold (d.escape name)) else d.escape name

end SqlSchema.Dialect
