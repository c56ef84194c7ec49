import SqlSchema.Catalog.Basic
import SqlSchema.Json.Decode

/-!
# Catalogs in JSON

A catalog is read from the text of a record of tables. Except for the list of tables and the columns of a primary key
every field may be missing; only fields that a catalog may leave open can be null.
-/

namespace SqlSchema

open Json

/-- A text that may be null. -/
private def openText? : Json → Option (Option String) := nullable? text?

/-- A count that may be null. -/
private def openCount? : Json → Option (Option Nat) := nullable? count?

/-- A list of texts. -/
private def texts? : Json → Option (List String) := list? text?

/-- An action, by its name, that may be null. -/
private def openAction? : Json → Option (Option RefAction) :=
  nullable? (choice? (RefAction.all.map fun a => (a.name, a)))

/-- The column that a JSON value describes. -/
def ReportedColumn.ofJson? (j : Json) : Option ReportedColumn := do
  match ← record? ["name", "type_name", "size", "precision", "scale", "nullable", "default", "auto_increment",
      "comment"] j with
  | [name, typeName, size, precision, scale, nullable, default, numbered, comment] =>
    some {
      name := ← optional text? "" name
      typeName := ← optional text? "" typeName
      size := ← optional openCount? none size
      precision := ← optional openCount? none precision
      scale := ← optional openCount? none scale
      nullable := ← optional flag? true nullable
      default := ← optional openText? none default
      numbered := ← optional flag? false numbered
      comment := ← optional openText? none comment }
  | _ => none

/-- The primary key that a JSON value describes. -/
def ReportedKey.ofJson? (j : Json) : Option ReportedKey := do
  match ← record? ["name", "columns"] j with
  | [name, columns] => some { name := ← optional openText? none name, columns := ← required texts? columns }
  | _ => none

/-- The foreign key that a JSON value describes. -/
def ReportedForeignKey.ofJson? (j : Json) : Option ReportedForeignKey := do
  match ← record? ["name", "columns", "referenced_table", "referenced_columns", "on_delete", "on_update"] j with
  | [name, columns, refTable, refColumns, onDelete, onUpdate] =>
    some {
      name := ← optional openText? none name
      columns := ← optional texts? [] columns
      refTable := ← optional text? "" refTable
      refColumns := ← optional texts? [] refColumns
      onDelete := ← optional openAction? none onDelete
      onUpdate := ← optional openAction? none onUpdate }
  | _ => none

/-- The index that a JSON value describes. -/
def ReportedIndex.ofJson? (j : Json) : Option ReportedIndex := do
  match ← record? ["name", "columns", "unique", "constraint"] j with
  | [name, columns, unique, constraint] =>
    some {
      name := ← optional openText? none name
      columns := ← optional texts? [] columns
      unique := ← optional flag? false unique
      constraint := ← optional flag? false constraint }
  | _ => none

/-- The table that a JSON value describes. -/
def ReportedTable.ofJson? (j : Json) : Option ReportedTable := do
  match ← record? ["name", "comment", "columns", "primary_key", "foreign_keys", "indexes"] j with
  | [name, comment, columns, primaryKey, foreignKeys, indexes] =>
    some {
      name := ← optional text? "" name
      comment := ← optional openText? none comment
      columns := ← optional (list? ReportedColumn.ofJson?) [] columns
      primaryKey := ← optional (nullable? ReportedKey.ofJson?) none primaryKey
      foreignKeys := ← optional (list? ReportedForeignKey.ofJson?) [] foreignKeys
      indexes := ← optional (list? ReportedIndex.ofJson?) [] indexes }
  | _ => none

namespace Catalog

/-- The catalog that a JSON value describes. -/
def ofJson? (j : Json) : Option Catalog := do
  match ← record? ["tables"] j with
  | [tables] => some { tables := ← required (list? ReportedTable.ofJson?) tables }
  | _ => none

/-- The catalog that a JSON text describes. -/
def parse (text : String) : Except Failure Catalog :=
  match (Json.parse? text).bind ofJson? with
  | some c => .ok c
  | none => .error .catalogText

end Catalog

end SqlSchema
