import SqlSchema.Dialect.Standard

/-!
# Dialects of embedded engines

H2, HyperSQL, Derby, SQLite and DuckDB, engines that run inside the program that uses them.
-/

namespace SqlSchema.Dialect

/-- H2 2. -/
def h2 : Dialect where
  id := "h2"
  name := "H2"
  aliases := ["h2database"]
  types := rulesOf standardSpelling noOverflow
  quote := .double
  nameCase := .upper
  reserved := .h2
  identity := .keyword "AUTO_INCREMENT"
  foreignKey := .alter addForeignKeyStandard dropConstraintStandard
  unique := .alter addUniqueStandard dropConstraintStandard
  addColumn := addColumnStandard
  dropColumn := dropColumnStandard
  comments := .statement
  dropTable := "DROP TABLE IF EXISTS $t CASCADE"
  dropIndex := "DROP INDEX IF EXISTS $n"
  dropsIfExists := true
  paging := .limitOffset
  trueLiteral := "TRUE"
  falseLiteral := "FALSE"
  maxNameSize := some 256

/-- The spellings of HyperSQL, which has no types for national characters. -/
def hsqldbSpelling : ColumnType → String
  | .nchar => "CHAR($l)"
  | .nclob => "CLOB"
  | .nvarchar => "VARCHAR($l)"
  | t => standardSpelling t

/-- HyperSQL 2. -/
def hsqldb : Dialect where
  id := "hsqldb"
  name := "HSQLDB"
  aliases := ["hsql"]
  types := rulesOf hsqldbSpelling noOverflow
  quote := .double
  nameCase := .upper
  reserved := .hsqldb
  identity := .keyword generatedIdentity
  foreignKey := .alter addForeignKeyStandard dropConstraintStandard
  unique := .alter addUniqueStandard dropConstraintStandard
  addColumn := addColumnStandard
  dropColumn := dropColumnStandard
  comments := .statement
  dropTable := "DROP TABLE IF EXISTS $t CASCADE"
  dropIndex := "DROP INDEX $n IF EXISTS"
  dropsIfExists := true
  paging := .limitOffset
  trueLiteral := "TRUE"
  falseLiteral := "FALSE"
  maxNameSize := some 128

/-- The spellings of Derby, where a binary string is a character string for bit data. -/
def derbySpelling : ColumnType → String
  | .binary => "CHAR($l) FOR BIT DATA"
  | .bit | .tinyint => "SMALLINT"
  | .longVarbinary => "LONG VARCHAR FOR BIT DATA"
  | .longVarchar => "LONG VARCHAR"
  | .nchar => "CHAR($l)"
  | .nclob => "CLOB"
  | .nvarchar => "VARCHAR($l)"
  | .varbinary => "VARCHAR($l) FOR BIT DATA"
  | t => standardSpelling t

/-- Derby 10. A new column gets its default and loses its nulls by further statements. -/
def derby : Dialect where
  id := "derby"
  name := "Derby"
  aliases := ["derby10", "javadb"]
  types := rulesOf derbySpelling noOverflow
  quote := .double
  nameCase := .upper
  reserved := .derby
  identity := .keyword generatedIdentity
  foreignKey := .alter addForeignKeyStandard dropConstraintStandard
  unique := .alter addUniqueStandard dropConstraintStandard
  onUpdate := false
  addColumn := addColumnStandard
  dropColumn := dropColumnStandard
  splitAdd := some
    { setDefault := "ALTER TABLE $t ALTER COLUMN $c SET DEFAULT $v"
      setNotNull := "ALTER TABLE $t ALTER COLUMN $c NOT NULL" }
  comments := .unsupported
  dropTable := "DROP TABLE $t"
  dropIndex := "DROP INDEX $n"
  dropsIfExists := false
  paging := .offsetFetch false
  trueLiteral := "TRUE"
  falseLiteral := "FALSE"
  maxNameSize := some 128

/-- The spellings of SQLite. It keeps the names of types as they are declared, so they can be read back. -/
def sqliteSpelling : ColumnType → String
  | .longVarchar => "TEXT"
  | t => standardSpelling t

/-- SQLite 3. Foreign keys cannot be added to a table later. -/
def sqlite : Dialect where
  id := "sqlite"
  name := "SQLite"
  aliases := ["sqlite3"]
  types := rulesOf sqliteSpelling noOverflow
  quote := .double
  nameCase := .asDeclared
  reserved := .sqlite
  identity := .rowid
  foreignKey := .inline
  unique := .index
  addColumn := addColumnStandard
  dropColumn := dropColumnStandard
  comments := .unsupported
  dropTable := "DROP TABLE IF EXISTS $t"
  dropIndex := "DROP INDEX IF EXISTS $n"
  dropsIfExists := true
  paging := .limitOffset
  trueLiteral := "1"
  falseLiteral := "0"
  maxNameSize := none

/-- The spellings of DuckDB, which has one type for texts and one for binary strings of any length. -/
def duckdbSpelling : ColumnType → String
  | .binary | .longVarbinary | .varbinary => "BLOB"
  | .clob | .longVarchar | .nclob => "VARCHAR"
  | .float => "FLOAT"
  | .nchar => "CHAR($l)"
  | .nvarchar => "VARCHAR($l)"
  | t => standardSpelling t

/-- DuckDB 1. Constraints cannot be added to a table later, and an identity takes its values from a sequence. -/
def duckdb : Dialect where
  id := "duckdb"
  name := "DuckDB"
  aliases := []
  types := rulesOf duckdbSpelling noOverflow
  quote := .double
  nameCase := .asDeclared
  reserved := .duckdb
  identity := .sequence "CREATE SEQUENCE $n START 1" "DROP SEQUENCE IF EXISTS $n" (some "nextval('$n')")
  foreignKey := .inline
  unique := .index
  onDelete := false
  onUpdate := false
  addColumn := addColumnStandard
  dropColumn := dropColumnStandard
  comments := .statement
  dropTable := "DROP TABLE IF EXISTS $t"
  dropIndex := "DROP INDEX IF EXISTS $n"
  dropsIfExists := true
  paging := .limitOffset
  trueLiteral := "TRUE"
  falseLiteral := "FALSE"
  maxNameSize := none

end SqlSchema.Dialect
