import SqlSchema.Json.Basic
import SqlSchema.Text.Numeral

/-!
# Reading records from JSON

Decoders take a JSON value to a value of another type or refuse it. A record is written as an object, whose unknown
members are skipped and whose known members may not be repeated, or as an array of its fields in order, where fields
may be missing at the end. `record?` gives for each field of the record its value, if one is written.
-/

namespace SqlSchema.Json

/-- The half of a surrogate pair that a code unit is, as `some (isLow, offset)`. -/
def surrogate? (unit : Nat) : Option (Bool × Nat) :=
  if 0xd800 ≤ unit && unit < 0xdc00 then some (false, unit - 0xd800)
  else if 0xdc00 ≤ unit && unit < 0xe000 then some (true, unit - 0xdc00)
  else none

/-- The characters that the body of a string denotes; `none` if half of a surrogate pair stands alone. -/
def unescape? : List Char → Option (List Char)
  | [] => some []
  | '\\' :: 'u' :: a :: b :: c :: d :: rest =>
    match hexQuad? [a, b, c, d] with
    | none => none
    | some unit =>
      match surrogate? unit with
      | none => (unescape? rest).map (Char.ofNat unit :: ·)
      | some (true, _) => none
      | some (false, high) =>
        match rest with
        | '\\' :: 'u' :: a :: b :: c :: d :: rest =>
          match (hexQuad? [a, b, c, d]).bind surrogate? with
          | some (true, low) => (unescape? rest).map (Char.ofNat (0x10000 + high * 0x400 + low) :: ·)
          | _ => none
        | _ => none
  | '\\' :: c :: rest =>
    let plain := match c with
      | 'b' => '\x08'
      | 'f' => '\x0c'
      | 'n' => '\n'
      | 'r' => '\r'
      | 't' => '\t'
      | other => other
    (unescape? rest).map (plain :: ·)
  | c :: rest => (unescape? rest).map (c :: ·)

/-- A text. -/
def text? : Json → Option String
  | .string body => (unescape? body).map String.ofList
  | _ => none

/-- A truth value. -/
def flag? : Json → Option Bool
  | .bool b => some b
  | _ => none

/-- A whole number from `0` to `2 ^ 32 - 1`, written with digits alone. -/
def count? : Json → Option Nat
  | .number literal => if literal.all Char.isDigit then Text.readCount? literal else none
  | _ => none

/-- A list whose items are all accepted. -/
def list? {α : Type} (item? : Json → Option α) : Json → Option (List α)
  | .array items => items.mapM item?
  | _ => none

/-- A value that may be null. -/
def nullable? {α : Type} (value? : Json → Option α) : Json → Option (Option α)
  | .null => some none
  | j => (value? j).map some

/-- One of several words, written as a text or as an object with the word as its one member, a null. -/
def choice? {α : Type} (choices : List (String × α)) : Json → Option α
  | .object [(key, .null)] => (text? (.string key)).bind (choices.lookup ·)
  | j => (text? j).bind (choices.lookup ·)

/-- The value of the one member of that name, `some none` if there is none, and `none` if it is repeated. -/
def member? (name : String) (members : List (String × Json)) : Option (Option Json) :=
  match members.filter (·.1 == name) with
  | [] => some none
  | [m] => some (some m.2)
  | _ => none

/-- The values of the fields of a record, in the order of `fields`. -/
def record? (fields : List String) : Json → Option (List (Option Json))
  | .object members => do
    let named ← members.mapM fun (key, j) => (text? (.string key)).map (·, j)
    fields.mapM fun name => member? name named
  | .array items =>
    if items.length ≤ fields.length then
      some (items.map some ++ List.replicate (fields.length - items.length) none)
    else none
  | _ => none

/-- The value of a field that may be missing. -/
def optional {α : Type} (value? : Json → Option α) (default : α) : Option Json → Option α
  | none => some default
  | some j => value? j

/-- The value of a field that may not be missing. -/
def required {α : Type} (value? : Json → Option α) : Option Json → Option α
  | none => none
  | some j => value? j

end SqlSchema.Json
