import SqlSchema.Script.Check
import SqlSchema.Script.Text

/-!
# Creating tables

The statements that create a table fall into phases: the sequences of its identity columns; the table itself with a
primary key that is added to it and comments; its indexes; its unique constraints; its foreign keys. For several tables
each phase is done for all of them before the next begins. Where foreign keys stand in the definition of a table, the
tables they refer to come first.
-/

namespace SqlSchema

namespace Column

/-- The type of the column in a statement. -/
def typePart (d : Dialect) (c : Column) : Except ModelError TypePart :=
  match c.isIdentity, d.identity with
  | true, .rowid => .ok .rowid
  | true, .serial narrow wide => .ok (.serial (if c.type.isWide then wide else narrow))
  | _, _ => (d.typeClause c.type c.params).map .clause

/-- What makes the engine fill the column, apart from its type. -/
def generation (d : Dialect) (c : Column) : Option Generation :=
  if c.isIdentity then
    match d.identity with
    | .keyword keyword => some (.keyword keyword)
    | .sequence _ _ (some template) => some (.fromSequence template)
    | _ => none
  else none

/-- The definition of the column. A bare definition leaves out what follow-up statements set, the declared default and
that there are no nulls. -/
def definition (d : Dialect) (table : String) (c : Column) (bare : Bool) : Except ModelError ColumnDefinition := do
  let type ← c.typePart d
  .ok
    { table
      name := c.name
      type
      default := if bare then none else c.default
      generation := c.generation d
      notNull := !bare && !c.nullable && type ≠ .rowid
      check := c.check
      comment := if d.comments = .inline then c.comment else none }

end Column

/-- The statements that create a table, by phase. -/
structure CreatePhases where
  sequences : List Statement := []
  tables : List Statement := []
  indexes : List Statement := []
  uniques : List Statement := []
  foreignKeys : List Statement := []
deriving DecidableEq, Repr

/-- The statements of several tables, phase by phase. -/
def CreatePhases.statements (ps : List CreatePhases) : List Statement :=
  ps.flatMap (·.sequences) ++ ps.flatMap (·.tables) ++ ps.flatMap (·.indexes) ++ ps.flatMap (·.uniques) ++
    ps.flatMap (·.foreignKeys)

namespace Table

/-- The names of the columns of the primary key. -/
def keyNames (t : Table) : List String := t.keyColumns.map (·.name)

/-- Whether the definition of an identity column already declares the primary key. -/
def keyIsRowid (d : Dialect) (t : Table) : Bool := d.identity = .rowid && t.columns.any (·.isIdentity)

/-- Whether the table has a primary key that is declared apart from its columns. -/
def declaresKey (d : Dialect) (t : Table) : Bool := !t.keyColumns.isEmpty && !t.keyIsRowid d

/-- The sequences of the identity columns. -/
def createSequences (d : Dialect) (t : Table) : List Statement :=
  match d.identity with
  | .sequence create _ _ => (t.columns.filter (·.isIdentity)).map fun c => .createSequence create t.name c.name
  | _ => []

/-- The primary key in the definition of the table. -/
def keyElements (d : Dialect) (t : Table) : List TableElement :=
  if t.declaresKey d && d.primaryKey = .inline then [.primaryKey t.keyNames] else []

/-- The primary key as a statement of its own. -/
def keyStatements (d : Dialect) (t : Table) : List Statement :=
  match d.primaryKey with
  | .inline => []
  | .alter add _ => if t.declaresKey d then [.addPrimaryKey add t.name t.keyNames] else []

/-- The foreign keys in the definition of the table. -/
def foreignKeyElements (d : Dialect) (t : Table) : List TableElement :=
  if d.foreignKey = .inline then t.foreignKeys.map .foreignKey else []

/-- The foreign keys as statements of their own. -/
def foreignKeyStatements (d : Dialect) (t : Table) : List Statement :=
  match d.foreignKey with
  | .inline => []
  | .alter add _ => t.foreignKeys.map (.addForeignKey add t.name)

/-- The comments as statements of their own. -/
def commentStatements (d : Dialect) (t : Table) : List Statement :=
  if d.comments = .statement then
    t.comment.toList.map (.commentOnTable t.name) ++
      t.columns.flatMap fun c => c.comment.toList.map (.commentOnColumn t.name c.name)
  else []

/-- The statement of a unique constraint. -/
def uniqueStatement (d : Dialect) (t : Table) (u : Unique) : Statement :=
  match d.unique with
  | .alter add _ => .addUnique add t.name u.name u.columns
  | .index => .createIndex t.name u.name u.columns true

/-- The statements that create the table, by phase. -/
def createPhases (d : Dialect) (t : Table) : Except ModelError CreatePhases := do
  let definitions ← t.columns.mapM fun c => c.definition d t.name false
  let elements := definitions.map .column ++ t.keyElements d ++ t.foreignKeyElements d
  let comment := if d.comments = .inline then t.comment else none
  .ok
    { sequences := t.createSequences d
      tables := .createTable t.name elements (t.tail.or d.tableTail) comment ::
        (t.keyStatements d ++ t.commentStatements d)
      indexes := t.indexes.map fun i => .createIndex t.name i.name i.columns i.unique
      uniques := t.uniques.map (t.uniqueStatement d)
      foreignKeys := t.foreignKeyStatements d }

/-- The statements that create the table. Foreign keys to other tables are taken on trust. -/
def create (d : Dialect) (t : Table) : Except ModelError (List Statement) := do
  d.checkTable t
  (t.foreignKeys.filter fun f => Text.sameName f.refTable t.name).forM (checkReferences t)
  let phases ← t.createPhases d
  .ok (CreatePhases.statements [phases])

end Table

namespace Schema

/-- The tables in the order in which they are created. -/
def creationOrder (d : Dialect) (tables : List Table) : Except ModelError (List Table) :=
  if d.foreignKey = .inline then
    match dependencyOrder tables with
    | .ok order => .ok (pick tables order)
    | .error stuck => .error (.foreignKeyCycle ((pick tables stuck).map (·.name)))
  else .ok tables

/-- The statements that create the tables. -/
def create (d : Dialect) (tables : List Table) : Except ModelError (List Statement) := do
  check d tables
  let ordered ← creationOrder d tables
  let phases ← ordered.mapM (Table.createPhases d)
  .ok (CreatePhases.statements phases)

/-- The texts of the statements that create the tables. -/
def createSql (s : Style) (tables : List Table) : Except ModelError (List String) :=
  (create s.dialect tables).map (·.map (Statement.sql s))

end Schema

end SqlSchema
