import SqlSchema.ColumnType.Basic
import SqlSchema.Text.Bytes
import SqlSchema.Text.Shown

/-!
# Invalid models

A `ModelError` is a reason why a column, a table or a set of tables is not accepted: a constructor per reason, with
the names that the reason is about. `message` is its wording; a reason that a column gives for its parameters is
quoted whole inside the reason of the column.
-/

namespace SqlSchema

/-- Why a model is not accepted. -/
inductive ModelError where
  /-- No column type has that name. -/
  | unknownType (text : String)
  | missingParam (type : ColumnType) (param : Param)
  | forbiddenParam (type : ColumnType) (param : Param)
  | zeroParam (type : ColumnType) (param : Param)
  | scaleExceedsPrecision (type : ColumnType) (scale precision : Nat)
  /-- The dialect has no spelling for the type. -/
  | unmappedType (dialect : String) (type : ColumnType)
  | blankName (kind : String)
  | nulInName (kind name : String)
  | longName (kind name : String)
  /-- A fault of a column's parameters. -/
  | inColumn (column : String) (cause : ModelError)
  | identityNotIntegral (column : String) (type : ColumnType)
  | identityWithDefault (column : String)
  | duplicateColumn (table column : String)
  /-- The name of a constraint is that of the table or of another constraint. -/
  | constraintNameTaken (kind name table : String)
  | constraintWithoutColumns (kind name table : String)
  | foreignKeyArity (name : String) (columns referenced : Nat)
  | tableWithoutColumns (table : String)
  | unknownColumn (kind name table column : String)
  /-- Two names of a table are told apart in the model but not in the dialect. -/
  | renderedAlike (kind first second table escaped dialect : String)
  /-- A row identity has to be the whole primary key. -/
  | identityNotSoleKey (dialect column table : String)
  | unknownReferencedColumn (name table column : String)
  | unknownReferencedTable (name table referenced : String)
  | duplicateTable (table : String)
  /-- The tables from which a cycle of foreign keys is reached. -/
  | foreignKeyCycle (tables : List String)
  | primaryKeyAddedLater (column table : String)
  | identityAddedLater (dialect column : String)
deriving DecidableEq, Repr

namespace ModelError

/-- A name between single quotes. -/
def quoted (s : String) : String := "'" ++ s ++ "'"

/-- What every message about a model starts with. -/
def heading : String := "Invalid model definition: "

/-- The wording of a reason, without the heading. -/
def detail : ModelError → String
  | .unknownType text => "unknown type token " ++ quoted text
  | .missingParam t p => t.name ++ " requires a " ++ p.name ++ " parameter"
  | .forbiddenParam t p => t.name ++ " does not accept a " ++ p.name ++ " parameter"
  | .zeroParam t p => t.name ++ " " ++ p.name ++ " must be at least 1"
  | .scaleExceedsPrecision t s p => t.name ++ " scale " ++ toString s ++ " exceeds precision " ++ toString p
  | .unmappedType d t => d ++ " has no type mapping for " ++ t.name
  | .blankName kind => kind ++ " name cannot be empty"
  | .nulInName kind name => kind ++ " name contains a NUL byte: " ++ Text.shown name
  | .longName kind name =>
    kind ++ " name exceeds 128 bytes (" ++ toString (Text.size name) ++ " bytes): " ++ Text.shown name
  | .inColumn c e => "column " ++ quoted c ++ ": " ++ heading ++ e.detail
  | .identityNotIntegral c t =>
    "column " ++ quoted c ++ ": auto-increment requires an integral type, got " ++ t.name
  | .identityWithDefault c => "column " ++ quoted c ++ ": auto-increment columns cannot declare a default"
  | .duplicateColumn t c => "table " ++ quoted t ++ " already has a column named " ++ quoted c
  | .constraintNameTaken kind n t => kind ++ " name " ++ quoted n ++ " is already used in table " ++ quoted t
  | .constraintWithoutColumns kind n t => kind ++ " " ++ quoted n ++ " on table " ++ quoted t ++ " has no columns"
  | .foreignKeyArity n a b =>
    "foreign key " ++ quoted n ++ " has " ++ toString a ++ " columns but references " ++ toString b
  | .tableWithoutColumns t => "table " ++ quoted t ++ " has no columns"
  | .unknownColumn kind n t c =>
    kind ++ " " ++ quoted n ++ " on table " ++ quoted t ++ " references unknown column " ++ quoted c
  | .renderedAlike kind a b t escaped d =>
    kind ++ " names " ++ quoted a ++ " and " ++ quoted b ++ " of table " ++ quoted t ++ " both render as " ++
      quoted escaped ++ " in " ++ d
  | .identityNotSoleKey d c t =>
    d ++ " supports auto-increment only on a single-column primary key; column " ++ quoted c ++ " of table " ++
      quoted t ++ " is not one"
  | .unknownReferencedColumn n t c =>
    "foreign key " ++ quoted n ++ " references unknown column " ++ quoted (t ++ "." ++ c)
  | .unknownReferencedTable n t r =>
    "foreign key " ++ quoted n ++ " on " ++ quoted t ++ " references unknown table " ++ quoted r
  | .duplicateTable t => "table " ++ quoted t ++ " is defined more than once"
  | .foreignKeyCycle ts => "foreign keys form a cycle between tables: " ++ ", ".intercalate ts
  | .primaryKeyAddedLater c t => "cannot add primary key column " ++ quoted c ++ " to existing table " ++ quoted t
  | .identityAddedLater d c => d ++ " cannot add auto-increment column " ++ quoted c ++ " to an existing table"

/-- The message that reports a reason. -/
def message (e : ModelError) : String := heading ++ e.detail

end ModelError

end SqlSchema
