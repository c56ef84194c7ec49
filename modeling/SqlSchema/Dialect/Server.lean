import SqlSchema.Dialect.Standard

/-!
# Dialects of database servers

The MySQL family, PostgreSQL, Oracle, SQL Server, Db2 and Informix. Two versions of one engine share its spellings and
differ in what the newer one brought.
-/

namespace SqlSchema.Dialect

/-- The spellings of the MySQL family. -/
def mysqlSpelling : ColumnType → String
  | .blob | .longVarbinary => "LONGBLOB"
  | .boolean => "TINYINT(1)"
  | .clob | .longVarchar | .nclob => "LONGTEXT"
  | .numeric => "DECIMAL($p[,$s])"
  | .real => "FLOAT"
  | .timestamp => "DATETIME"
  | t => standardSpelling t

/-- A longer text of the MySQL family has a type of its own. -/
def mysqlOverflow : ColumnType → Option Overflow
  | .varchar => some ⟨65535, "LONGTEXT"⟩
  | _ => none

/-- MySQL 5. -/
def mysql : Dialect where
  id := "mysql"
  name := "MySQL"
  aliases := ["mysql5", "mysql57"]
  types := rulesOf mysqlSpelling mysqlOverflow
  quote := .backtick
  nameCase := .asDeclared
  reserved := .mysql
  identity := .keyword "AUTO_INCREMENT"
  foreignKey := .alter addForeignKeyStandard "ALTER TABLE $t DROP FOREIGN KEY $n"
  unique := .alter addUniqueStandard "ALTER TABLE $t DROP INDEX $n"
  addColumn := addColumnStandard
  dropColumn := dropColumnStandard
  comments := .inline
  dropTable := "DROP TABLE IF EXISTS $t"
  dropIndex := "DROP INDEX $n ON $t"
  dropsIfExists := true
  paging := .limitOffset
  tableTail := some "ENGINE=InnoDB"
  trueLiteral := "TRUE"
  falseLiteral := "FALSE"
  maxNameSize := some 64

/-- MySQL 8, with times of day to the microsecond. -/
def mysql8 : Dialect :=
  { mysql with
    id := "mysql8"
    name := "MySQL 8"
    aliases := ["mysql80"]
    typeOverrides := [{ type := .timestamp, template := "DATETIME(6)" }]
    tableTail := some "ENGINE=InnoDB DEFAULT CHARSET=utf8mb4" }

/-- MariaDB 10. -/
def mariadb : Dialect :=
  { mysql with
    id := "mariadb"
    name := "MariaDB"
    aliases := ["mariadb10"] }

/-- The spellings of PostgreSQL, which has one type for long texts and one for binary strings. -/
def postgresqlSpelling : ColumnType → String
  | .binary | .blob | .longVarbinary | .varbinary => "BYTEA"
  | .clob | .longVarchar | .nclob => "TEXT"
  | .decimal => "NUMERIC($p[,$s])"
  | .double => "DOUBLE PRECISION"
  | .nchar => "CHAR($l)"
  | .nvarchar => "VARCHAR($l)"
  | .tinyint => "SMALLINT"
  | t => standardSpelling t

/-- Drops a constraint, if there is one. -/
def dropConstraintIfExists : String := "ALTER TABLE $t DROP CONSTRAINT IF EXISTS $n"

/-- PostgreSQL from version 10. -/
def postgresql : Dialect where
  id := "postgresql"
  name := "PostgreSQL"
  aliases := ["postgres", "pg", "pgsql"]
  types := rulesOf postgresqlSpelling noOverflow
  quote := .double
  nameCase := .lower
  reserved := .postgresql
  identity := .keyword generatedIdentity
  foreignKey := .alter addForeignKeyStandard dropConstraintIfExists
  unique := .alter addUniqueStandard dropConstraintIfExists
  addColumn := addColumnStandard
  dropColumn := dropColumnStandard
  comments := .statement
  dropTable := "DROP TABLE IF EXISTS $t CASCADE"
  dropIndex := "DROP INDEX IF EXISTS $n"
  dropsIfExists := true
  paging := .limitOffset
  trueLiteral := "TRUE"
  falseLiteral := "FALSE"
  maxNameSize := some 63

/-- The spellings of Oracle, where every exact number is a `NUMBER`. -/
def oracleSpelling : ColumnType → String
  | .bigint | .long => "NUMBER(19)"
  | .binary | .varbinary => "RAW($l)"
  | .bit | .boolean => "NUMBER(1)"
  | .decimal | .numeric => "NUMBER($p[,$s])"
  | .double => "BINARY_DOUBLE"
  | .integer => "NUMBER(10)"
  | .longVarbinary => "BLOB"
  | .longVarchar => "CLOB"
  | .nvarchar => "NVARCHAR2($l)"
  | .real => "BINARY_FLOAT"
  | .smallint => "NUMBER(5)"
  | .time => "DATE"
  | .tinyint => "NUMBER(3)"
  | .varchar => "VARCHAR2($l)"
  | t => standardSpelling t

/-- Longer strings of Oracle are large objects. -/
def oracleOverflow : ColumnType → Option Overflow
  | .binary | .varbinary => some ⟨2000, "BLOB"⟩
  | .nvarchar => some ⟨2000, "NCLOB"⟩
  | .varchar => some ⟨4000, "CLOB"⟩
  | _ => none

/-- Oracle 12 and later. -/
def oracle12c : Dialect where
  id := "oracle12c"
  name := "Oracle 12c"
  aliases := ["oracle18c", "oracle19c"]
  types := rulesOf oracleSpelling oracleOverflow
  quote := .double
  nameCase := .upper
  reserved := .oracle
  identity := .keyword generatedIdentity
  foreignKey := .alter addForeignKeyStandard dropConstraintStandard
  unique := .alter addUniqueStandard dropConstraintStandard
  onUpdate := false
  addColumn := addColumnShort
  dropColumn := dropColumnStandard
  comments := .statement
  dropTable := "DROP TABLE $t CASCADE CONSTRAINTS"
  dropIndex := "DROP INDEX $n"
  dropsIfExists := false
  paging := .offsetFetch false
  trueLiteral := "1"
  falseLiteral := "0"
  maxNameSize := some 128

/-- Oracle 10 and 11, where an identity has a sequence beside it and queries are paged by counting rows. -/
def oracle10g : Dialect :=
  { oracle12c with
    id := "oracle10g"
    name := "Oracle 10g"
    aliases := ["oracle", "oracle11g"]
    identity := .sequence "CREATE SEQUENCE $n START WITH 1 INCREMENT BY 1" "DROP SEQUENCE $n" none
    paging := .rownum
    maxNameSize := some 30 }

/-- The spellings of SQL Server. -/
def sqlServerSpelling : ColumnType → String
  | .blob | .longVarbinary => "VARBINARY(MAX)"
  | .boolean => "BIT"
  | .clob | .longVarchar => "VARCHAR(MAX)"
  | .double => "FLOAT(53)"
  | .integer => "INT"
  | .nclob => "NVARCHAR(MAX)"
  | .timestamp => "DATETIME2"
  | t => standardSpelling t

/-- Longer strings of SQL Server have a length of `MAX`. -/
def sqlServerOverflow : ColumnType → Option Overflow
  | .binary | .varbinary => some ⟨8000, "VARBINARY(MAX)"⟩
  | .nvarchar => some ⟨4000, "NVARCHAR(MAX)"⟩
  | .varchar => some ⟨8000, "VARCHAR(MAX)"⟩
  | _ => none

/-- SQL Server 2012 and later. An offset is taken only behind an order. -/
def sqlServer2012 : Dialect where
  id := "sqlserver2012"
  name := "SQL Server 2012"
  aliases := ["sqlserver", "mssql", "sqlserver2016"]
  types := rulesOf sqlServerSpelling sqlServerOverflow
  quote := .bracket
  nameCase := .asDeclared
  reserved := .sqlServer
  identity := .keyword "IDENTITY(1,1)"
  foreignKey := .alter addForeignKeyStandard dropConstraintStandard
  unique := .alter addUniqueStandard dropConstraintStandard
  addColumn := addColumnShort
  dropColumn := dropColumnStandard
  comments := .unsupported
  dropTable := "DROP TABLE $t"
  dropIndex := "DROP INDEX $n ON $t"
  dropsIfExists := false
  paging := .offsetFetch true
  trueLiteral := "1"
  falseLiteral := "0"
  maxNameSize := some 128

/-- SQL Server 2005 and 2008, which have one type for dates and times and number the rows of a page. -/
def sqlServer2005 : Dialect :=
  { sqlServer2012 with
    id := "sqlserver2005"
    name := "SQL Server 2005"
    aliases := ["sqlserver2008", "mssql2005"]
    typeOverrides :=
      [{ type := .date, template := "DATETIME" }, { type := .time, template := "DATETIME" },
        { type := .timestamp, template := "DATETIME" }]
    dropIndex := "DROP INDEX $t.$n"
    paging := .rowNumber "ORDER BY (SELECT NULL)" }

/-- The spellings of Db2. -/
def db2Spelling : ColumnType → String
  | .binary => "CHAR($l) FOR BIT DATA"
  | .bit | .boolean | .tinyint => "SMALLINT"
  | .longVarbinary => "BLOB"
  | .longVarchar => "CLOB"
  | .nchar => "GRAPHIC($l)"
  | .nclob => "DBCLOB"
  | .nvarchar => "VARGRAPHIC($l)"
  | .varbinary => "VARCHAR($l) FOR BIT DATA"
  | t => standardSpelling t

/-- Db2 for Linux, Unix and Windows. -/
def db2 : Dialect where
  id := "db2"
  name := "DB2"
  aliases := ["db2luw"]
  types := rulesOf db2Spelling noOverflow
  quote := .double
  nameCase := .upper
  reserved := .db2
  identity := .keyword generatedIdentity
  foreignKey := .alter addForeignKeyStandard "ALTER TABLE $t DROP FOREIGN KEY $n"
  unique := .alter addUniqueStandard "ALTER TABLE $t DROP UNIQUE $n"
  onUpdate := false
  addColumn := addColumnStandard
  dropColumn := dropColumnStandard
  splitAdd := some
    { setDefault := "ALTER TABLE $t ALTER COLUMN $c SET DEFAULT $v"
      setNotNull := "ALTER TABLE $t ALTER COLUMN $c SET NOT NULL" }
  comments := .statement
  dropTable := "DROP TABLE $t"
  dropIndex := "DROP INDEX $n"
  dropsIfExists := false
  paging := .rowNumber ""
  trueLiteral := "1"
  falseLiteral := "0"
  maxNameSize := some 128

/-- The spellings of Informix. -/
def informixSpelling : ColumnType → String
  | .bigint | .long => "INT8"
  | .binary | .longVarbinary | .varbinary => "BYTE"
  | .bit | .tinyint => "SMALLINT"
  | .double => "FLOAT"
  | .float | .real => "SMALLFLOAT"
  | .longVarchar | .nclob => "TEXT"
  | .numeric => "DECIMAL($p[,$s])"
  | .time => "DATETIME HOUR TO SECOND"
  | .timestamp => "DATETIME YEAR TO FRACTION(5)"
  | t => standardSpelling t

/-- A longer text of Informix has a type of its own. -/
def informixOverflow : ColumnType → Option Overflow
  | .varchar => some ⟨255, "LVARCHAR($l)"⟩
  | _ => none

/-- Informix from version 11. The name of a constraint stands behind it. -/
def informix : Dialect where
  id := "informix"
  name := "Informix"
  aliases := ["ifx"]
  types := rulesOf informixSpelling informixOverflow
  quote := .double
  nameCase := .asDeclared
  reserved := .informix
  identity := .serial "SERIAL" "SERIAL8"
  primaryKey := .alter "ALTER TABLE $t ADD CONSTRAINT PRIMARY KEY ($c) CONSTRAINT $n" dropConstraintStandard
  foreignKey := .alter
    "ALTER TABLE $t ADD CONSTRAINT FOREIGN KEY ($c) REFERENCES $r ($v)$a CONSTRAINT $n" dropConstraintStandard
  unique := .alter "ALTER TABLE $t ADD CONSTRAINT UNIQUE ($c) CONSTRAINT $n" dropConstraintStandard
  onUpdate := false
  addColumn := addColumnShort
  dropColumn := "ALTER TABLE $t DROP $c"
  comments := .unsupported
  dropTable := "DROP TABLE $t"
  dropIndex := "DROP INDEX $n"
  dropsIfExists := false
  paging := .skipFirst
  trueLiteral := "'t'"
  falseLiteral := "'f'"
  maxNameSize := some 128

end SqlSchema.Dialect
