import SqlSchema.Column
import SqlSchema.RowType.Naming
import SqlSchema.RowType.Options

/-!
# Fields of row types

Each column of a table is a field of its row type. The field's type follows from that of the column, and it has a
constant for the column's name, a function that reads it and one that changes it.
-/

namespace SqlSchema.RowType

/-- How the values of a column are held. -/
inductive Holding where
  /-- By a type whose values are copied. -/
  | copied (type : String)
  | text
  | bytes
deriving DecidableEq, Repr

namespace Holding

/-- How the values of a column type are held. Exact numbers keep their digits as text. -/
def ofType : ColumnType → Holding
  | .bigint | .long => .copied "i64"
  | .integer => .copied "i32"
  | .smallint => .copied "i16"
  | .tinyint => .copied "i8"
  | .bit | .boolean => .copied "bool"
  | .double | .float => .copied "f64"
  | .real => .copied "f32"
  | .date => .copied "chrono::NaiveDate"
  | .time => .copied "chrono::NaiveTime"
  | .timestamp => .copied "chrono::NaiveDateTime"
  | .binary | .varbinary | .longVarbinary | .blob => .bytes
  | .decimal | .numeric | .char | .varchar | .nchar | .nvarchar | .longVarchar | .clob | .nclob => .text

/-- The type of a value that is held. -/
def owned : Holding → String
  | .copied type => type
  | .text => "String"
  | .bytes => "Vec<u8>"

/-- The type of a value that is read. -/
def borrowed : Holding → String
  | .copied type => type
  | .text => "&str"
  | .bytes => "&[u8]"

end Holding

/-- The type of a value that may be missing. -/
def orNothing (nullable : Bool) (type : String) : String := if nullable then "Option<" ++ type ++ ">" else type

/-- A field of a row type. -/
structure Field where
  /-- The name of the column. -/
  column : String
  holding : Holding
  nullable : Bool
deriving DecidableEq, Repr

namespace Field

/-- The field for a column. -/
def ofColumn (c : Column) : Field := ⟨c.name, .ofType c.type, c.nullable⟩

/-- The name of the field as a word. -/
def word (f : Field) : String := snake f.column

/-- The name of the field, which is also that of the function that reads it. -/
def ident (f : Field) : String := escape f.word

/-- The name of the function that changes the field. -/
def setterName (f : Field) : String := "set_" ++ f.word

/-- The name of the constant for the name of the column. -/
def constantName (f : Field) (style : ConstantStyle) : String :=
  escape (match style with
    | .upper => Text.upper f.word
    | .lower => f.word
    | .camel => camel f.word
    | .asDeclared => sanitize f.column)

/-- The type of the field. -/
def type (f : Field) : String := orNothing f.nullable f.holding.owned

/-- The expression that reads the field. -/
def reading (f : Field) : String :=
  let own := "self." ++ f.ident
  match f.holding, f.nullable with
  | .copied _, _ => own
  | _, false => "&" ++ own
  | _, true => own ++ ".as_deref()"

/-- The declaration of the field. -/
def declaration (f : Field) (isPublic : Bool) : String :=
  "    " ++ (if isPublic then "pub " else "") ++ f.ident ++ ": " ++ f.type ++ ",\n"

/-- The function that reads the field. -/
def getter (f : Field) : String :=
  "    pub fn " ++ f.ident ++ "(&self) -> " ++ orNothing f.nullable f.holding.borrowed ++ " \x7b\n        " ++
    f.reading ++ "\n    \x7d\n"

/-- The function that changes the field. -/
def setter (f : Field) (chaining : Bool) : String :=
  "    pub fn " ++ f.setterName ++ "(&mut self, value: " ++ f.type ++ ")" ++
    (if chaining then " -> &mut Self" else "") ++ " \x7b\n        self." ++ f.ident ++ " = value;\n" ++
    (if chaining then "        self\n" else "") ++ "    \x7d\n"

/-- The characters of a string literal that denote a character of the text. -/
def literalChar (c : Char) : List Char := if c = '\\' || c = '"' then ['\\', c] else [c]

/-- The string literal for the name of the column. -/
def nameLiteral (f : Field) : String :=
  String.ofList (['"'] ++ f.column.toList.flatMap literalChar ++ ['"'])

/-- The constant for the name of the column, inside the type or outside of it. Inside, the lifetime is spelled out. -/
def constant (f : Field) (style : ConstantStyle) (inside : Bool) : String :=
  let indent := if inside then "    " else ""
  (if style = .upper then "" else indent ++ "#[allow(non_upper_case_globals)]\n") ++ indent ++ "pub const " ++
    f.constantName style ++ ": " ++ (if inside then "&'static str" else "&str") ++ " = " ++ f.nameLiteral ++ ";\n"

end Field

end SqlSchema.RowType
