import SqlSchema.Constraint
import SqlSchema.Error

/-!
# Catalogs

A catalog is what an engine reports of its tables: names and native types as text, defaults as expressions, and
constraints that may have no name. A `CatalogSource` answers questions about one table at a time and may fail; a
`Catalog` holds all tables at once and is such a source (`Catalog.source`), in which tables are found by their names,
case aside.
-/

namespace SqlSchema

/-- A column as a catalog reports it. -/
structure ReportedColumn where
  name : String := ""
  /-- The native type, perhaps with its parameters. -/
  typeName : String := ""
  /-- The length, where it is reported beside the type. -/
  size : Option Nat := none
  precision : Option Nat := none
  scale : Option Nat := none
  nullable : Bool := true
  /-- The default as an SQL expression. -/
  default : Option String := none
  /-- Whether the engine makes up the values. -/
  numbered : Bool := false
  comment : Option String := none
deriving DecidableEq, Repr

/-- A primary key as a catalog reports it. -/
structure ReportedKey where
  name : Option String := none
  columns : List String
deriving DecidableEq, Repr

/-- A foreign key as a catalog reports it. -/
structure ReportedForeignKey where
  name : Option String := none
  columns : List String := []
  refTable : String := ""
  refColumns : List String := []
  onDelete : Option RefAction := none
  onUpdate : Option RefAction := none
deriving DecidableEq, Repr

/-- An index as a catalog reports it. -/
structure ReportedIndex where
  name : Option String := none
  columns : List String := []
  unique : Bool := false
  /-- Whether the index stands for a unique constraint. -/
  constraint : Bool := false
deriving DecidableEq, Repr

/-- A table as a catalog reports it. -/
structure ReportedTable where
  name : String := ""
  comment : Option String := none
  columns : List ReportedColumn := []
  primaryKey : Option ReportedKey := none
  foreignKeys : List ReportedForeignKey := []
  indexes : List ReportedIndex := []
deriving DecidableEq, Repr

/-- What an engine reports of its tables. -/
structure Catalog where
  tables : List ReportedTable := []
deriving DecidableEq, Repr

/-- Answers to questions about the tables of an engine; each may fail. -/
structure CatalogSource where
  tableNames : Except ReadCause (List String)
  columns : String → Except ReadCause (List ReportedColumn)
  primaryKey : String → Except ReadCause (Option ReportedKey)
  foreignKeys : String → Except ReadCause (List ReportedForeignKey)
  indexes : String → Except ReadCause (List ReportedIndex)
  comment : String → Except ReadCause (Option String)

namespace Catalog

/-- The first table of that name. -/
def table? (c : Catalog) (name : String) : Option ReportedTable :=
  c.tables.find? fun t => Text.sameName t.name name

/-- A part of the first table of that name. -/
def ask {α : Type} (c : Catalog) (part : ReportedTable → α) (name : String) : Except ReadCause α :=
  match c.table? name with
  | some t => .ok (part t)
  | none => .error (.unknownTable name)

/-- The answers that a catalog gives. -/
def source (c : Catalog) : CatalogSource where
  tableNames := .ok (c.tables.map (·.name))
  columns := c.ask (·.columns)
  primaryKey := c.ask (·.primaryKey)
  foreignKeys := c.ask (·.foreignKeys)
  indexes := c.ask (·.indexes)
  comment := c.ask (·.comment)

theorem ask_of_table? {α : Type} {c : Catalog} {part : ReportedTable → α} {name : String} {t : ReportedTable}
    (h : c.table? name = some t) : c.ask part name = .ok (part t) := by
  simp [ask, h]

end Catalog

end SqlSchema
