import SqlSchema.Dialect.Naming
import SqlSchema.Script.Order

/-!
# What a dialect refuses

Before a table is created its columns and constraints are checked: it has a column, its constraints are about columns
that it has, its names stay different when they are written, and a row identity is the whole primary key. In a set of
tables, names of tables differ and foreign keys refer to tables and columns of the set.
-/

namespace SqlSchema

/-- The first of the names that comes after another with the same key, behind that other. -/
def clashFrom? (key : String → String) (seen : List String) : List String → Option (String × String)
  | [] => none
  | n :: rest =>
    match seen.find? fun earlier => key earlier = key n with
    | some earlier => some (earlier, n)
    | none => clashFrom? key (seen ++ [n]) rest

namespace Dialect

/-- What of a name tells it apart from others in statements. -/
def writtenKey (d : Dialect) (name : String) : String := Text.lower (d.escape name)

/-- Refuses names of a table that are different in the model and the same in statements. -/
def checkWritten (d : Dialect) (table kind : String) (names : List String) : Except ModelError Unit :=
  match clashFrom? d.writtenKey [] names with
  | none => .ok ()
  | some (first, second) => .error (.renderedAlike kind first second table (d.escape second) d.name)

/-- Refuses a constraint that is about a column that the table does not have. -/
def checkLocalColumns (t : Table) (c : Table.Declared) : Except ModelError Unit :=
  c.columns.forM fun column =>
    if (t.column? column).isSome then .ok () else .error (.unknownColumn c.kind.label c.name t.name column)

/-- Refuses a row identity that is not the whole primary key. -/
def checkRowIdentity (d : Dialect) (t : Table) : Except ModelError Unit :=
  if d.identity = .rowid then
    (t.columns.filter (·.isIdentity)).forM fun c =>
      if t.keyColumns.map (·.name) = [c.name] then .ok () else .error (.identityNotSoleKey d.name c.name t.name)
  else .ok ()

/-- Refuses a table that cannot be created. -/
def checkTable (d : Dialect) (t : Table) : Except ModelError Unit := do
  if t.columns.isEmpty then .error (.tableWithoutColumns t.name)
  t.constraints.forM (checkLocalColumns t)
  d.checkWritten t.name "column" (t.columns.map (·.name))
  d.checkWritten t.name "constraint" (t.constraints.map (·.name))
  d.checkRowIdentity t

end Dialect

/-- Refuses a foreign key that refers to a column that its table does not have. -/
def checkReferences (target : Table) (f : ForeignKey) : Except ModelError Unit :=
  f.refColumns.forM fun column =>
    if (target.column? column).isSome then .ok () else .error (.unknownReferencedColumn f.name target.name column)

namespace Schema

/-- The first table of that name. -/
def table? (tables : List Table) (name : String) : Option Table :=
  tables.find? fun t => Text.sameName t.name name

/-- Refuses a table whose name an earlier one has; `seen` are the earlier names. -/
def checkNamesFrom (seen : List String) : List Table → Except ModelError Unit
  | [] => .ok ()
  | t :: rest =>
    if seen.any (Text.sameName · t.name) then .error (.duplicateTable t.name)
    else checkNamesFrom (seen ++ [t.name]) rest

/-- Refuses tables two of which have the same name. -/
def checkNames (tables : List Table) : Except ModelError Unit := checkNamesFrom [] tables

/-- Refuses a foreign key of a table that refers to nothing in the set. -/
def checkForeignKey (tables : List Table) (t : Table) (f : ForeignKey) : Except ModelError Unit :=
  match table? tables f.refTable with
  | none => .error (.unknownReferencedTable f.name t.name f.refTable)
  | some target => checkReferences target f

/-- Refuses tables that cannot be created together. -/
def check (d : Dialect) (tables : List Table) : Except ModelError Unit := do
  checkNames tables
  tables.forM fun t => do
    d.checkTable t
    t.foreignKeys.forM (checkForeignKey tables t)

end Schema

end SqlSchema
