import SqlSchema.Text.Ascii
import SqlSchema.Text.Blank

/-!
# Column types

A column type is one of twenty-six abstract types, independent of the engine that stores the column. A type says for
each of its three parameters, length, precision and scale, whether it needs the parameter; a dialect only decides how
the type is spelled. `ofName?` reads back the name of every type (`ofName?_name`).
-/

namespace SqlSchema

/-- An engine-independent column type. -/
inductive ColumnType where
  | bigint | binary | bit | blob | boolean | char | clob | date | decimal | double | float | integer | long
  | longVarbinary | longVarchar | nchar | nclob | numeric | nvarchar | real | smallint | time | timestamp | tinyint
  | varbinary | varchar
deriving DecidableEq, Repr

/-- A parameter of a column type. -/
inductive Param where
  | length | precision | scale
deriving DecidableEq, Repr

/-- What a column type makes of a parameter. -/
inductive Need where
  | required | optional | forbidden
deriving DecidableEq, Repr

namespace Param

/-- All parameters, in the order in which they are checked. -/
def all : List Param := [.length, .precision, .scale]

/-- The name of a parameter in messages. -/
def name : Param → String
  | .length => "length"
  | .precision => "precision"
  | .scale => "scale"

theorem mem_all (p : Param) : p ∈ all := by
  cases p <;> decide

end Param

namespace ColumnType

/-- All column types, in alphabetical order. -/
def all : List ColumnType :=
  [.bigint, .binary, .bit, .blob, .boolean, .char, .clob, .date, .decimal, .double, .float, .integer, .long,
    .longVarbinary, .longVarchar, .nchar, .nclob, .numeric, .nvarchar, .real, .smallint, .time, .timestamp, .tinyint,
    .varbinary, .varchar]

theorem mem_all (t : ColumnType) : t ∈ all := by
  cases t <;> decide

/-- The name of a column type. -/
def name : ColumnType → String
  | .bigint => "BIGINT"
  | .binary => "BINARY"
  | .bit => "BIT"
  | .blob => "BLOB"
  | .boolean => "BOOLEAN"
  | .char => "CHAR"
  | .clob => "CLOB"
  | .date => "DATE"
  | .decimal => "DECIMAL"
  | .double => "DOUBLE"
  | .float => "FLOAT"
  | .integer => "INTEGER"
  | .long => "LONG"
  | .longVarbinary => "LONGVARBINARY"
  | .longVarchar => "LONGVARCHAR"
  | .nchar => "NCHAR"
  | .nclob => "NCLOB"
  | .numeric => "NUMERIC"
  | .nvarchar => "NVARCHAR"
  | .real => "REAL"
  | .smallint => "SMALLINT"
  | .time => "TIME"
  | .timestamp => "TIMESTAMP"
  | .tinyint => "TINYINT"
  | .varbinary => "VARBINARY"
  | .varchar => "VARCHAR"

/-- The column type of that name, blanks around it and case aside. -/
def ofName? (s : String) : Option ColumnType :=
  all.find? fun t => Text.sameName t.name (Text.trim s)

theorem ofName?_name (t : ColumnType) : ofName? t.name = some t := by
  cases t <;> decide

/-- What the type makes of a parameter: texts and binary strings of a declared size need a length, exact numbers a
precision. -/
def need : ColumnType → Param → Need
  | .char, .length | .nchar, .length | .varchar, .length | .nvarchar, .length | .binary, .length
  | .varbinary, .length => .required
  | .decimal, .precision | .numeric, .precision => .required
  | .decimal, .scale | .numeric, .scale | .float, .precision => .optional
  | _, _ => .forbidden

/-- The parameters that the type needs. -/
def requiredParams (t : ColumnType) : List Param := Param.all.filter fun p => t.need p = .required

theorem mem_requiredParams {t : ColumnType} {p : Param} : p ∈ t.requiredParams ↔ t.need p = .required := by
  simp [requiredParams, Param.mem_all]

/-- Whether a column of the type can be an identity. -/
def isIntegral : ColumnType → Bool
  | .bigint | .integer | .long | .smallint | .tinyint => true
  | _ => false

/-- Whether the type has 64-bit values, so that an identity of it needs a wide counter. -/
def isWide : ColumnType → Bool
  | .bigint | .long => true
  | _ => false

theorem isIntegral_of_isWide {t : ColumnType} (h : t.isWide = true) : t.isIntegral = true := by
  cases t <;> simp_all [isWide, isIntegral]

end ColumnType

end SqlSchema
