import SqlSchema.Table

/-!
# Statements

A statement says what is created, added, commented on or dropped, by the names under which the model declares it;
how names are spelled is settled only when the statement is written as SQL. A statement that a dialect writes by a
template of its own carries the template.
-/

namespace SqlSchema

/-- What stands behind the name of a column in its definition. -/
inductive TypePart where
  /-- A type of the dialect. -/
  | clause (text : String)
  /-- A type that numbers the rows by itself. -/
  | serial (text : String)
  /-- The declaration that makes the column the row number and the primary key. -/
  | rowid
deriving DecidableEq, Repr

/-- What makes the engine fill a column, apart from its type. -/
inductive Generation where
  | keyword (keyword : String)
  /-- A default that takes the next value of the sequence of the column. -/
  | fromSequence (template : String)
deriving DecidableEq, Repr

/-- The definition of a column in a statement. -/
structure ColumnDefinition where
  table : String
  name : String
  type : TypePart
  default : Option Default
  generation : Option Generation
  notNull : Bool
  check : Option String
  /-- A comment that is part of the definition. -/
  comment : Option String
deriving DecidableEq, Repr

/-- A part of the definition of a table. -/
inductive TableElement where
  | column (definition : ColumnDefinition)
  | primaryKey (columns : List String)
  | foreignKey (f : ForeignKey)
deriving DecidableEq, Repr

/-- A statement about one table. -/
inductive Statement where
  /-- Creates the sequence of an identity column. -/
  | createSequence (template table column : String)
  | createTable (table : String) (elements : List TableElement) (tail comment : Option String)
  | addPrimaryKey (template table : String) (columns : List String)
  | commentOnTable (table text : String)
  | commentOnColumn (table column text : String)
  | createIndex (table name : String) (columns : List String) (unique : Bool)
  | addUnique (template table name : String) (columns : List String)
  | addForeignKey (template table : String) (f : ForeignKey)
  | addColumn (template table : String) (definition : ColumnDefinition)
  | setDefault (template table column : String) (value : Default)
  | setNotNull (template table column : String)
  | dropForeignKey (template table name : String)
  | dropUnique (template table name : String)
  | dropIndex (template table name : String)
  | dropColumn (template table column : String)
  | dropTable (template table : String)
  /-- Drops the sequence of an identity column. -/
  | dropSequence (template table column : String)
deriving DecidableEq, Repr

namespace Statement

/-- The table that a statement is about. -/
def table : Statement → String
  | .createSequence _ t _ | .createTable t _ _ _ | .addPrimaryKey _ t _ | .commentOnTable t _
  | .commentOnColumn t _ _ | .createIndex t _ _ _ | .addUnique _ t _ _ | .addForeignKey _ t _ | .addColumn _ t _
  | .setDefault _ t _ _ | .setNotNull _ t _ | .dropForeignKey _ t _ | .dropUnique _ t _ | .dropIndex _ t _
  | .dropColumn _ t _ | .dropTable _ t | .dropSequence _ t _ => t

end Statement

namespace TableElement

/-- The definition of a column, if the element is one. -/
def definition? : TableElement → Option ColumnDefinition
  | .column d => some d
  | _ => none

/-- The columns of a primary key that stands in the definition of a table. -/
def primaryKey? : TableElement → Option (List String)
  | .primaryKey columns => some columns
  | _ => none

/-- A foreign key that stands in the definition of a table. -/
def foreignKey? : TableElement → Option ForeignKey
  | .foreignKey f => some f
  | _ => none

end TableElement

end SqlSchema
