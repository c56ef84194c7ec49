import SqlSchema.Column
import SqlSchema.Constraint

/-!
# Tables

A table has columns in order, and constraints under names of their own. Tables are made from `Table.new?` by edits,
each of which either changes the table or is refused and leaves it as it was (`Table.edit`, `Table.editAll`). Within a
table names are compared as SQL does, without regard to case.
-/

namespace SqlSchema

/-- A table. -/
structure Table where
  name : String
  columns : List Column := []
  foreignKeys : List ForeignKey := []
  indexes : List Index := []
  uniques : List Unique := []
  comment : Option String := none
  /-- What stands behind the definition instead of what the dialect puts there. -/
  tail : Option String := none
deriving DecidableEq, Repr

/-- A step in making a table. -/
inductive TableEdit where
  | column (c : Column)
  | foreignKey (f : ForeignKey)
  | index (i : Index)
  | unique (u : Unique)
  | comment (text : String)
  | tail (text : String)
deriving DecidableEq, Repr

namespace Table

/-- A table without columns, if the name is valid. -/
def new? (name : String) : Except ModelError Table := do
  Identifier.check "table" name
  .ok { name }

/-- The first column of that name. -/
def column? (t : Table) (name : String) : Option Column :=
  t.columns.find? fun c => Text.sameName c.name name

/-- The columns of the primary key, in order of declaration. -/
def keyColumns (t : Table) : List Column := t.columns.filter (·.inKey)

/-- A constraint with its kind, name and local columns. -/
structure Declared where
  kind : ConstraintKind
  name : String
  columns : List String
deriving DecidableEq, Repr

/-- The constraints of the table: foreign keys, then indexes, then unique constraints. -/
def constraints (t : Table) : List Declared :=
  t.foreignKeys.map (fun f => ⟨.foreignKey, f.name, f.columns⟩) ++
    t.indexes.map (fun i => ⟨.index, i.name, i.columns⟩) ++ t.uniques.map (fun u => ⟨.unique, u.name, u.columns⟩)

/-- Refuses the name of a further constraint that is invalid or taken by the table or one of its constraints. -/
def checkConstraintName (t : Table) (kind : ConstraintKind) (name : String) : Except ModelError Unit := do
  Identifier.check kind.label name
  if Text.sameName name t.name || t.constraints.any (fun c => Text.sameName c.name name) then
    .error (.constraintNameTaken kind.label name t.name)
  else .ok ()

/-- Refuses a list of columns of a constraint that is empty or holds an invalid name. -/
def checkColumnList (t : Table) (kind : ConstraintKind) (name : String) (columns : List String) :
    Except ModelError Unit :=
  if columns.isEmpty then .error (.constraintWithoutColumns kind.label name t.name)
  else columns.forM (Identifier.check "column")

/-- The table with a further column. -/
def addColumn (t : Table) (c : Column) : Except ModelError Table := do
  if (t.column? c.name).isSome then .error (.duplicateColumn t.name c.name)
  c.accept
  .ok { t with columns := t.columns ++ [c] }

/-- The table with a further foreign key. -/
def addForeignKey (t : Table) (f : ForeignKey) : Except ModelError Table := do
  t.checkConstraintName .foreignKey f.name
  t.checkColumnList .foreignKey f.name f.columns
  Identifier.check "referenced table" f.refTable
  if f.columns.length ≠ f.refColumns.length then
    .error (.foreignKeyArity f.name f.columns.length f.refColumns.length)
  .ok { t with foreignKeys := t.foreignKeys ++ [f] }

/-- The table with a further index. -/
def addIndex (t : Table) (i : Index) : Except ModelError Table := do
  t.checkConstraintName .index i.name
  t.checkColumnList .index i.name i.columns
  .ok { t with indexes := t.indexes ++ [i] }

/-- The table with a further unique constraint. -/
def addUnique (t : Table) (u : Unique) : Except ModelError Table := do
  t.checkConstraintName .unique u.name
  t.checkColumnList .unique u.name u.columns
  .ok { t with uniques := t.uniques ++ [u] }

/-- The table after an edit, or why the edit is refused. -/
def edit? (t : Table) : TableEdit → Except ModelError Table
  | .column c => t.addColumn c
  | .foreignKey f => t.addForeignKey f
  | .index i => t.addIndex i
  | .unique u => t.addUnique u
  | .comment text => .ok { t with comment := some text }
  | .tail text => .ok { t with tail := some text }

/-- The table after an edit; a refused edit changes nothing. -/
def edit (t : Table) (e : TableEdit) : Table :=
  match t.edit? e with
  | .ok changed => changed
  | .error _ => t

/-- The table after edits in order; those that are refused change nothing. -/
def editAll (t : Table) (edits : List TableEdit) : Table := edits.foldl edit t

/-- The table after edits in order, the first refusal of which ends the work. -/
def build? (name : String) (edits : List TableEdit) : Except ModelError Table := do
  edits.foldlM edit? (← new? name)

/-- The tables that edits make from a table without columns. -/
inductive Reachable : Table → Prop where
  | new {name : String} {t : Table} (h : new? name = .ok t) : Reachable t
  | edit {t : Table} (h : Reachable t) (e : TableEdit) : Reachable (t.edit e)

theorem edit_of_error {t : Table} {e : TableEdit} {why : ModelError} (h : t.edit? e = .error why) :
    t.edit e = t := by
  simp [edit, h]

theorem edit_of_ok {t changed : Table} {e : TableEdit} (h : t.edit? e = .ok changed) : t.edit e = changed := by
  simp [edit, h]

end Table

end SqlSchema
