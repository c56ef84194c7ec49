import SqlSchema.ColumnType.Params
import SqlSchema.Dialect.Basic
import SqlSchema.Dialect.TypeName

/-!
# Column types of native types

A catalog reports the native type of a column by its name and perhaps its size, precision and scale. `ofNative?` finds
the column type that the dialect spells so. Where several types share a spelling, the first of these preferences that
some rule meets decides: the numbers in the spelling are those of the column, the type is named like the native type,
the spelling takes parameters and there are some, the spelling has no numbers, and any rule. A name that no rule
spells may be a common name of a type (`commonTypeNames`).
-/

namespace SqlSchema

/-- What is known of the parameters of a native type. -/
structure NativeParams where
  size : Option Nat
  precision : Option Nat
  scale : Option Nat
deriving DecidableEq, Repr

namespace NativeParams

/-- Whether the numbers in a spelling are the parameters of the column: its precision, or else its size, and its
scale, which is no scale where the spelling has only one number. -/
def matchesNumbers (n : NativeParams) : List Nat → Bool
  | [] => false
  | first :: rest =>
    (n.precision.or n.size) == some first &&
      match rest with
      | [] => n.scale.getD 0 == 0
      | scale :: _ => n.scale == some scale

/-- The value of a parameter of a type, as far as the type wants it; `none` if the type needs it and it is not
known. -/
def pick (t : ColumnType) (param : Param) (value : Option Nat) : Option (Option Nat) :=
  match t.need param with
  | .required => value.map some
  | .optional => some value
  | .forbidden => some none

/-- The parameters of a column of the type, if they suit it. A scale of zero is the same as none. -/
def paramsFor? (n : NativeParams) (t : ColumnType) : Option TypeParams := do
  let length ← pick t .length n.size
  let precision ← pick t .precision n.precision
  let scale ← if precision.isSome then pick t .scale n.scale else some none
  let params : TypeParams := { length, precision, scale := scale.filter (0 < ·) }
  match params.check t with
  | .ok () => some params
  | .error _ => none

end NativeParams

/-- Names of types that several engines use, whatever their dialect spells. -/
def commonTypeNames : List (String × ColumnType) :=
  [("BIGSERIAL", .bigint), ("BOOL", .boolean), ("BYTEA", .blob), ("CHARACTER", .char),
    ("CHARACTER VARYING", .varchar), ("DATETIME", .timestamp), ("DATETIME2", .timestamp), ("DEC", .decimal),
    ("DOUBLE PRECISION", .double), ("FLOAT4", .real), ("FLOAT8", .double), ("IMAGE", .blob), ("INT", .integer),
    ("INT2", .smallint), ("INT4", .integer), ("INT8", .bigint), ("LONGBLOB", .blob), ("LONGTEXT", .clob),
    ("MEDIUMBLOB", .blob), ("MEDIUMINT", .integer), ("MEDIUMTEXT", .clob),
    ("NATIONAL CHARACTER VARYING", .nvarchar), ("NTEXT", .nclob), ("NUMBER", .numeric), ("NVARCHAR2", .nvarchar),
    ("SERIAL", .integer), ("SERIAL8", .bigint), ("TEXT", .clob), ("TIME WITHOUT TIME ZONE", .time),
    ("TIMESTAMP WITHOUT TIME ZONE", .timestamp), ("VARCHAR2", .varchar)]

namespace Dialect

/-- The preferences among rules that spell the same words, the strongest first. -/
def preferences (words : String) (hasParams : Bool) (n : NativeParams) : List (TypeRule → Bool) :=
  [fun r => n.matchesNumbers (typeArguments r.template),
    fun r => r.type.name == words,
    fun r => hasParams && r.template.toList.contains '$',
    fun r => (typeArguments r.template).isEmpty,
    fun _ => true]

/-- The first rule that meets a preference and whose type the parameters suit. -/
def preferred? (rules : List TypeRule) (n : NativeParams) (meets : TypeRule → Bool) :
    Option (ColumnType × TypeParams) :=
  (rules.filter meets).findSome? fun r => (n.paramsFor? r.type).map (r.type, ·)

/-- The column type and parameters of a native type, whose name may carry its parameters; those given beside the name
take precedence. -/
def ofNative? (d : Dialect) (name : String) (size precision scale : Option Nat) :
    Option (ColumnType × TypeParams) :=
  let words := typeWords name
  let arguments := typeArguments name
  let n : NativeParams :=
    { size := size.or arguments[0]?, precision := precision.or arguments[0]?, scale := scale.or arguments[1]? }
  let hasParams := !arguments.isEmpty || size.isSome || precision.isSome
  let rules := d.typeRules.filter fun r => typeWords r.template == words
  let common := (commonTypeNames.lookup words).or (ColumnType.ofName? words)
  ((preferences words hasParams n).findSome? (preferred? rules n)).or
    (common.bind fun t => (n.paramsFor? t).map (t, ·))

end Dialect

end SqlSchema
