import SqlSchema.Catalog.Basic
import SqlSchema.Catalog.Default
import SqlSchema.Dialect.Native
import SqlSchema.Table

/-!
# Reading tables from a catalog

A table is made from what a source reports of it by the edits that any table is made by, so that what is read is a
table like others. Constraints without a name get one from the table and their number. All tables are read or none:
the first failure is the answer.
-/

namespace SqlSchema

/-- Whether a reported column numbers the rows, if its type can. -/
def ReportedColumn.isNumbered (c : ReportedColumn) : Bool := c.numbered || c.default.any Default.fromSequence

/-- The column of a table that a reported column of that type is. -/
def ReportedColumn.toColumn (c : ReportedColumn) (t : ColumnType) (p : TypeParams) (inKey : Bool) : Column :=
  let isIdentity := c.isNumbered && t.isIntegral
  { name := c.name
    type := t
    params := p
    nullable := c.nullable && !inKey
    inKey
    isIdentity
    default := if isIdentity then none else c.default.bind Default.ofCatalog?
    comment := c.comment }

/-- An action that says more than taking no action. -/
def RefAction.effective? (a : Option RefAction) : Option RefAction := a.filter (· ≠ .noAction)

/-- A name made up for the `n`th constraint of a kind. -/
def madeUpName (kind table : String) (n : Nat) : String := kind ++ "_" ++ table ++ "_" ++ toString n

/-- The foreign key that a reported one is. -/
def ReportedForeignKey.toForeignKey (f : ReportedForeignKey) (table : String) (n : Nat) : ForeignKey where
  name := f.name.getD (madeUpName "FK" table n)
  columns := f.columns
  refTable := f.refTable
  refColumns := f.refColumns
  onDelete := RefAction.effective? f.onDelete
  onUpdate := RefAction.effective? f.onUpdate

/-- Whether a reported index is a unique constraint. -/
def ReportedIndex.isUnique (i : ReportedIndex) : Bool := i.unique && i.constraint

/-- The edits that add the reported indexes, which follow `indexes` indexes and `uniques` unique constraints. -/
def indexEdits (table : String) : Nat → Nat → List ReportedIndex → List TableEdit
  | _, _, [] => []
  | indexes, uniques, i :: rest =>
    if i.isUnique then
      .unique ⟨i.name.getD (madeUpName "UK" table (uniques + 1)), i.columns⟩ ::
        indexEdits table indexes (uniques + 1) rest
    else
      .index ⟨i.name.getD (madeUpName "IDX" table (indexes + 1)), i.columns, i.unique⟩ ::
        indexEdits table (indexes + 1) uniques rest

/-- The edits that add the reported foreign keys. -/
def foreignKeyEdits (table : String) (fs : List ReportedForeignKey) : List TableEdit :=
  fs.mapIdx fun n f => .foreignKey (f.toForeignKey table (n + 1))

namespace CatalogSource

/-- An answer of the source about a part of a table. -/
def ask {α : Type} (part : CatalogPart) (table : String) (answer : Except ReadCause α) : Except ReadFailure α :=
  answer.mapError (.part part table)

/-- All that a source reports of a table. -/
def report (s : CatalogSource) (name : String) : Except ReadFailure ReportedTable := do
  let columns ← ask .columns name (s.columns name)
  let primaryKey ← ask .primaryKey name (s.primaryKey name)
  let foreignKeys ← ask .foreignKeys name (s.foreignKeys name)
  let indexes ← ask .indexes name (s.indexes name)
  let comment ← ask .comment name (s.comment name)
  .ok { name, comment, columns, primaryKey, foreignKeys, indexes }

end CatalogSource

namespace ReportedTable

/-- The names of the columns of the primary key. -/
def keyNames (r : ReportedTable) : List String := (r.primaryKey.map (·.columns)).getD []

/-- Whether a list of names holds a name, case aside. -/
def lists (names : List String) (name : String) : Bool := names.any (Text.sameName · name)

/-- Refuses a primary key with a column that the table does not have. -/
def checkKey (r : ReportedTable) : Except ReadFailure Unit :=
  match r.keyNames.find? fun key => !lists (r.columns.map (·.name)) key with
  | some key => .error (.keyColumn r.name key)
  | none => .ok ()

/-- The column of a table that one of the reported columns is. -/
def column (d : Dialect) (r : ReportedTable) (c : ReportedColumn) : Except ReadFailure Column :=
  match d.ofNative? c.typeName c.size c.precision c.scale with
  | some (t, p) => .ok (c.toColumn t p (lists r.keyNames c.name))
  | none => .error (.nativeType r.name c.name c.typeName d.name)

/-- The edits that add what is reported beside the columns. -/
def laterEdits (r : ReportedTable) : List TableEdit :=
  foreignKeyEdits r.name r.foreignKeys ++ indexEdits r.name 0 0 r.indexes ++ r.comment.toList.map .comment

/-- The table that is reported. -/
def toTable (d : Dialect) (r : ReportedTable) : Except ReadFailure Table := do
  let invalid := ReadFailure.table r.name
  let start ← (Table.new? r.name).mapError invalid
  r.checkKey
  let withColumns ← r.columns.foldlM
    (fun t c => do (t.addColumn (← r.column d c)).mapError invalid) start
  (r.laterEdits.foldlM Table.edit? withColumns).mapError invalid

end ReportedTable

namespace CatalogSource

/-- The table of that name. -/
def readTable (s : CatalogSource) (d : Dialect) (name : String) : Except ReadFailure Table := do
  (← s.report name).toTable d

/-- All tables of the source, in its order. -/
def readTables (s : CatalogSource) (d : Dialect) : Except ReadFailure (List Table) := do
  let names ← s.tableNames.mapError .tableNames
  names.mapM (s.readTable d)

end CatalogSource

end SqlSchema
