import SqlSchema.Catalog.Basic
import SqlSchema.Dialect.Spelling
import SqlSchema.Table

/-!
# What a catalog reports of a table

`ReportedTable.ofTable` is the report that an engine gives of a table once it is created: types and defaults as the
dialect writes them, and unique constraints as unique indexes that are marked as constraints.
-/

namespace SqlSchema

/-- The report of a column. -/
def ReportedColumn.ofColumn (d : Dialect) (c : Column) : Except ModelError ReportedColumn := do
  let typeName ← d.typeClause c.type c.params
  .ok {
    name := c.name
    typeName
    nullable := c.nullable
    default := c.default.map d.defaultLiteral
    numbered := c.isIdentity
    comment := c.comment }

/-- The report of a foreign key. -/
def ReportedForeignKey.ofForeignKey (f : ForeignKey) : ReportedForeignKey :=
  ⟨some f.name, f.columns, f.refTable, f.refColumns, f.onDelete, f.onUpdate⟩

/-- The report of an index. -/
def ReportedIndex.ofIndex (i : Index) : ReportedIndex := ⟨some i.name, i.columns, i.unique, false⟩

/-- The report of a unique constraint. -/
def ReportedIndex.ofUnique (u : Unique) : ReportedIndex := ⟨some u.name, u.columns, true, true⟩

namespace ReportedTable

/-- The report of the primary key of a table. -/
def keyOf (t : Table) : Option ReportedKey :=
  if t.keyColumns.isEmpty then none else some { columns := t.keyColumns.map (·.name) }

/-- The report of a table, or why one of its types cannot be written. -/
def ofTable (d : Dialect) (t : Table) : Except ModelError ReportedTable := do
  let columns ← t.columns.mapM (ReportedColumn.ofColumn d)
  .ok {
    name := t.name
    comment := t.comment
    columns
    primaryKey := keyOf t
    foreignKeys := t.foreignKeys.map ReportedForeignKey.ofForeignKey
    indexes := t.indexes.map ReportedIndex.ofIndex ++ t.uniques.map ReportedIndex.ofUnique }

end ReportedTable

end SqlSchema
