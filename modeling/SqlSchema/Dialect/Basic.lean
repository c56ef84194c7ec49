import SqlSchema.ColumnType.Basic
import SqlSchema.Dialect.Reserved
import SqlSchema.Identifier

/-!
# Dialects

A dialect is a description of how one engine writes SQL: plain data that the other modules interpret. Statements are
templates with these slots: `$t` a table, `$n` a constraint, an index or a sequence, `$c` a column or a list of
columns, `$r` a referenced table, `$v` a list of referenced columns or a literal, `$d` the definition of a column, `$a`
the actions of a foreign key. In the spelling of a type, `$l` is the length, `$p` the precision and `$s` the scale.
-/

namespace SqlSchema

/-- The spelling of a type whose length is beyond what its usual spelling takes. -/
structure Overflow where
  maxLength : Nat
  template : String
deriving DecidableEq, Repr

/-- How a dialect spells a column type. -/
structure TypeRule where
  type : ColumnType
  template : String
  overflow : Option Overflow := none
deriving DecidableEq, Repr

/-- What becomes of the letters of a name that is quoted. -/
inductive NameCase where
  | asDeclared | upper | lower
deriving DecidableEq, Repr

/-- How a column is declared in which the engine numbers the rows. -/
inductive Identity where
  /-- By a keyword behind the type. -/
  | keyword (keyword : String)
  /-- By making the column a name of the row number. The column has to be the primary key. -/
  | rowid
  /-- By a type of its own. -/
  | serial (narrow wide : String)
  /-- By a sequence that is created before the table. `default` takes values from it, where the engine can. -/
  | sequence (create drop : String) (default : Option String)
deriving DecidableEq, Repr

/-- Where a primary or foreign key is declared. -/
inductive Placement where
  /-- In the definition of the table. -/
  | inline
  /-- By statements that alter the table. -/
  | alter (add drop : String)
deriving DecidableEq, Repr

/-- Where a unique constraint is declared. -/
inductive UniquePlacement where
  /-- By statements that alter the table. -/
  | alter (add drop : String)
  /-- As a unique index. -/
  | index
deriving DecidableEq, Repr

/-- The statements that give a new column its default and forbid nulls, where the statement that adds it cannot. -/
structure SplitAdd where
  setDefault : String
  setNotNull : String
deriving DecidableEq, Repr

/-- How comments on tables and columns are stored. -/
inductive CommentStyle where
  | inline | statement | unsupported
deriving DecidableEq, Repr

/-- How a query is cut to one page. -/
inductive Paging where
  /-- A limit and an offset behind the query. -/
  | limitOffset
  /-- An offset and a fetch clause behind the query. -/
  | offsetFetch (requiresOrder : Bool)
  /-- A query around it that numbers the rows; `emptyOrder` is the order of a query that has none. -/
  | rowNumber (emptyOrder : String)
  /-- Queries around it that compare the row count. -/
  | rownum
  /-- A skip and a first clause in front of the selected columns. -/
  | skipFirst
deriving DecidableEq, Repr

/-- How one engine writes SQL. -/
structure Dialect where
  /-- The name in the registry. -/
  id : String
  /-- The name in messages. -/
  name : String
  /-- Further names in the registry. -/
  aliases : List String
  types : List TypeRule
  /-- Rules that stand in for those of `types` on the same type. -/
  typeOverrides : List TypeRule := []
  quote : QuoteStyle
  nameCase : NameCase
  reserved : ReservedWords
  identity : Identity
  primaryKey : Placement := .inline
  foreignKey : Placement
  unique : UniquePlacement
  /-- Whether a foreign key can say what happens on deletion. -/
  onDelete : Bool := true
  /-- Whether a foreign key can say what happens on a change. -/
  onUpdate : Bool := true
  addColumn : String
  dropColumn : String
  splitAdd : Option SplitAdd := none
  comments : CommentStyle
  dropTable : String
  dropIndex : String
  /-- Whether dropping what does not exist is no error. -/
  dropsIfExists : Bool
  paging : Paging
  /-- What stands behind the definition of a table. -/
  tableTail : Option String := none
  trueLiteral : String
  falseLiteral : String
  /-- The longest name that the engine takes, in bytes, if it has a limit. -/
  maxNameSize : Option Nat
deriving DecidableEq, Repr

namespace Dialect

/-- The rules in force: the overrides, then the rules that they do not replace. -/
def typeRules (d : Dialect) : List TypeRule :=
  d.typeOverrides ++ d.types.filter fun r => !d.typeOverrides.any fun o => o.type = r.type

/-- The rule that spells a type. -/
def typeRule? (d : Dialect) (t : ColumnType) : Option TypeRule := d.typeRules.find? fun r => r.type = t

/-- The literal of a truth value. -/
def booleanLiteral (d : Dialect) (b : Bool) : String := if b then d.trueLiteral else d.falseLiteral

theorem type_of_typeRule? {d : Dialect} {t : ColumnType} {r : TypeRule} (h : d.typeRule? t = some r) :
    r.type = t := by
  simpa using List.find?_some h

end Dialect

end SqlSchema
