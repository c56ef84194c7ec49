import SqlSchema.Script.Create
import SqlSchema.Script.Drop

/-!
# Adding and dropping columns

A column can be added to a table that exists unless it is part of the primary key or is its row number. Where the
statement that adds a column cannot give it a default or forbid nulls, further statements do. Before a column is
dropped, the constraints of its table that are about it are.
-/

namespace SqlSchema.Table

/-- The statements that add the column at its place in the definition of the table, or by a split. -/
def addColumnStatements (d : Dialect) (t : Table) (c : Column) : Except ModelError (List Statement) :=
  match d.splitAdd with
  | some split =>
    if c.default.isSome || !c.nullable then do
      let definition ← c.definition d t.name true
      .ok (.addColumn d.addColumn t.name definition ::
        (c.default.toList.map (.setDefault split.setDefault t.name c.name) ++
          if c.nullable then [] else [.setNotNull split.setNotNull t.name c.name]))
    else do
      let definition ← c.definition d t.name false
      .ok [.addColumn d.addColumn t.name definition]
  | none => do
    let definition ← c.definition d t.name false
    .ok [.addColumn d.addColumn t.name definition]

/-- The statements that add a column of the table to the table as it was without it. -/
def addColumnScript (d : Dialect) (t : Table) (c : Column) : Except ModelError (List Statement) := do
  if c.inKey then .error (.primaryKeyAddedLater c.name t.name)
  if c.isIdentity && d.identity = .rowid then .error (.identityAddedLater d.name c.name)
  let sequences := { t with columns := [c] }.createSequences d
  let added ← t.addColumnStatements d c
  let comments := if d.comments = .statement then c.comment.toList.map (.commentOnColumn t.name c.name) else []
  .ok (sequences ++ added ++ comments)

/-- Whether a list of columns holds the column. -/
def covers (columns : List String) (c : Column) : Bool := columns.any (Text.sameName · c.name)

/-- The statements that drop a column of the table. -/
def dropColumnScript (d : Dialect) (t : Table) (c : Column) : List Statement :=
  t.dropForeignKeys d (t.foreignKeys.filter fun f => covers f.columns c) ++
    (t.indexes.filter fun i => covers i.columns c).map (t.dropIndex d) ++
    (t.uniques.filter fun u => covers u.columns c).map (t.dropUnique d) ++
    [.dropColumn d.dropColumn t.name c.name] ++ t.dropSequences d [c]

end SqlSchema.Table
