import SqlSchema.Dialect.Basic

/-!
# What most dialects share

The spellings of types that follow the names of the types, and the statements that add and drop columns and
constraints in most engines. A dialect is described by its differences from these.
-/

namespace SqlSchema.Dialect

/-- The spelling of a type by its name, with a length or precision where it has one. -/
def standardSpelling : ColumnType → String
  | .binary => "BINARY($l)"
  | .char => "CHAR($l)"
  | .decimal => "DECIMAL($p[,$s])"
  | .float => "FLOAT[($p)]"
  | .long => "BIGINT"
  | .nchar => "NCHAR($l)"
  | .numeric => "NUMERIC($p[,$s])"
  | .nvarchar => "NVARCHAR($l)"
  | .varbinary => "VARBINARY($l)"
  | .varchar => "VARCHAR($l)"
  | t => t.name

/-- One rule for each type. -/
def rulesOf (spelling : ColumnType → String) (overflow : ColumnType → Option Overflow) : List TypeRule :=
  ColumnType.all.map fun t => { type := t, template := spelling t, overflow := overflow t }

/-- No spelling has a limit on lengths. -/
def noOverflow : ColumnType → Option Overflow := fun _ => none

/-- Adds a foreign key. -/
def addForeignKeyStandard : String :=
  "ALTER TABLE $t ADD CONSTRAINT $n FOREIGN KEY ($c) REFERENCES $r ($v)$a"

/-- Adds a unique constraint. -/
def addUniqueStandard : String := "ALTER TABLE $t ADD CONSTRAINT $n UNIQUE ($c)"

/-- Drops a constraint of any kind. -/
def dropConstraintStandard : String := "ALTER TABLE $t DROP CONSTRAINT $n"

/-- Adds a column. -/
def addColumnStandard : String := "ALTER TABLE $t ADD COLUMN $d"

/-- Adds a column without saying that it is one. -/
def addColumnShort : String := "ALTER TABLE $t ADD $d"

/-- Drops a column. -/
def dropColumnStandard : String := "ALTER TABLE $t DROP COLUMN $c"

/-- The identity column of the SQL standard. -/
def generatedIdentity : String := "GENERATED BY DEFAULT AS IDENTITY"

theorem exists_rule_rulesOf (spelling : ColumnType → String) (overflow : ColumnType → Option Overflow)
    (t : ColumnType) : ⟨t, spelling t, overflow t⟩ ∈ rulesOf spelling overflow :=
  List.mem_map.mpr ⟨t, ColumnType.mem_all t, rfl⟩

end SqlSchema.Dialect
