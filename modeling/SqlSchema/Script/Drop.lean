import SqlSchema.Script.Order
import SqlSchema.Script.Text

/-!
# Dropping tables

What was created is dropped the other way round: foreign keys, then indexes and unique constraints, then tables, then
sequences. Of several tables, those that refer to others are dropped before them, unless the references form a cycle.
-/

namespace SqlSchema

/-- The statements that drop a table, by phase. -/
structure DropPhases where
  foreignKeys : List Statement := []
  indexes : List Statement := []
  tables : List Statement := []
  sequences : List Statement := []
deriving DecidableEq, Repr

/-- The statements of several tables, phase by phase. -/
def DropPhases.statements (ps : List DropPhases) : List Statement :=
  ps.flatMap (·.foreignKeys) ++ ps.flatMap (·.indexes) ++ ps.flatMap (·.tables) ++ ps.flatMap (·.sequences)

namespace Table

/-- The statements that drop foreign keys of the table which were added to it. -/
def dropForeignKeys (d : Dialect) (t : Table) (fs : List ForeignKey) : List Statement :=
  match d.foreignKey with
  | .inline => []
  | .alter _ drop => fs.map fun f => .dropForeignKey drop t.name f.name

/-- The statement that drops an index. -/
def dropIndex (d : Dialect) (t : Table) (i : Index) : Statement := .dropIndex d.dropIndex t.name i.name

/-- The statement that drops a unique constraint. -/
def dropUnique (d : Dialect) (t : Table) (u : Unique) : Statement :=
  match d.unique with
  | .alter _ drop => .dropUnique drop t.name u.name
  | .index => .dropIndex d.dropIndex t.name u.name

/-- The statements that drop the sequences of identity columns. -/
def dropSequences (d : Dialect) (t : Table) (cs : List Column) : List Statement :=
  match d.identity with
  | .sequence _ drop _ => (cs.filter (·.isIdentity)).map fun c => .dropSequence drop t.name c.name
  | _ => []

/-- The statements that drop the table, by phase. -/
def dropPhases (d : Dialect) (t : Table) : DropPhases where
  foreignKeys := t.dropForeignKeys d t.foreignKeys
  indexes := t.indexes.map (t.dropIndex d) ++ t.uniques.map (t.dropUnique d)
  tables := [.dropTable d.dropTable t.name]
  sequences := t.dropSequences d t.columns

/-- The statements that drop the table. -/
def drop (d : Dialect) (t : Table) : List Statement := DropPhases.statements [t.dropPhases d]

end Table

namespace Schema

/-- The tables in the order in which they are dropped. -/
def droppingOrder (tables : List Table) : List Table :=
  match dependencyOrder tables with
  | .ok order => pick tables order.reverse
  | .error _ => tables.reverse

/-- The statements that drop the tables. -/
def drop (d : Dialect) (tables : List Table) : List Statement :=
  DropPhases.statements ((droppingOrder tables).map (Table.dropPhases d))

/-- The texts of the statements that drop the tables. -/
def dropSql (s : Style) (tables : List Table) : List String := (drop s.dialect tables).map (Statement.sql s)

end Schema

end SqlSchema
