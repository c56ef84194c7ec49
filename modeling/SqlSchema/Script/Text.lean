import SqlSchema.Dialect.Naming
import SqlSchema.Dialect.Spelling
import SqlSchema.Script.Statement

/-!
# Statements as SQL

`Statement.sql` writes a statement in a style: a dialect, with names quoted or not. Every name goes through
`Style.name`; the names of sequences and of separate primary keys, which the model does not have, are made up from
those of their table and column (`Style.madeUp`).
-/

namespace SqlSchema

/-- How a script is written. -/
structure Style where
  dialect : Dialect
  /-- Whether names are put between delimiters. -/
  quoted : Bool := false
deriving DecidableEq, Repr

namespace Style

/-- The text of a name. -/
def name (s : Style) (n : String) : String := s.dialect.render s.quoted n

/-- The text of a list of names. -/
def names (s : Style) (ns : List String) : String := ", ".intercalate (ns.map s.name)

/-- The text of a name that the model does not have, cut to what the engine takes. -/
def madeUp (s : Style) (n : String) : String := s.name (s.dialect.fit (s.dialect.escape n))

/-- The sequence of an identity column. -/
def sequenceName (s : Style) (table column : String) : String := s.madeUp (table ++ "_" ++ column ++ "_seq")

/-- The constraint that adds a primary key. -/
def keyName (s : Style) (table : String) : String := s.madeUp ("PK_" ++ table)

/-- The actions of a foreign key that the dialect allows. -/
def actions (s : Style) (f : ForeignKey) : String :=
  let onDelete := if s.dialect.onDelete then f.onDelete else none
  let onUpdate := if s.dialect.onUpdate then f.onUpdate else none
  (onDelete.map fun a => " ON DELETE " ++ a.sql).getD "" ++ (onUpdate.map fun a => " ON UPDATE " ++ a.sql).getD ""

end Style

/-- The text of what stands behind the name of a column. -/
def TypePart.sql : TypePart → String
  | .clause text => text
  | .serial text => text
  | .rowid => "INTEGER PRIMARY KEY AUTOINCREMENT"

namespace ColumnDefinition

/-- The text of what makes the engine fill a column. -/
def generationSql (s : Style) (d : ColumnDefinition) : String :=
  match d.generation with
  | none => ""
  | some (.keyword keyword) => " " ++ keyword
  | some (.fromSequence template) =>
    " DEFAULT " ++ Template.fillWith template [('n', s.sequenceName d.table d.name)]

/-- The text of a column definition. -/
def sql (s : Style) (d : ColumnDefinition) : String :=
  s.name d.name ++ " " ++ d.type.sql ++
    (d.default.map fun v => " DEFAULT " ++ s.dialect.defaultLiteral v).getD "" ++
    d.generationSql s ++
    (if d.notNull then " NOT NULL" else "") ++
    (d.check.map fun e => " CHECK (" ++ e ++ ")").getD "" ++
    (d.comment.map fun c => " COMMENT " ++ Text.literal c).getD ""

end ColumnDefinition

/-- The text of a part of the definition of a table. -/
def TableElement.sql (s : Style) : TableElement → String
  | .column d => d.sql s
  | .primaryKey columns => "PRIMARY KEY (" ++ s.names columns ++ ")"
  | .foreignKey f =>
    "CONSTRAINT " ++ s.name f.name ++ " FOREIGN KEY (" ++ s.names f.columns ++ ") REFERENCES " ++
      s.name f.refTable ++ " (" ++ s.names f.refColumns ++ ")" ++ s.actions f

theorem TableElement.sql_column (s : Style) (d : ColumnDefinition) : (TableElement.column d).sql s = d.sql s := rfl

namespace Statement

/-- The text of a statement, without a terminator. -/
def sql (s : Style) : Statement → String
  | .createSequence template t c => Template.fillWith template [('n', s.sequenceName t c)]
  | .createTable t elements tail comment =>
    "CREATE TABLE " ++ s.name t ++ " (" ++ ", ".intercalate (elements.map (TableElement.sql s)) ++ ")" ++
      (tail.map fun x => " " ++ x).getD "" ++ (comment.map fun x => " COMMENT=" ++ Text.literal x).getD ""
  | .addPrimaryKey template t columns =>
    Template.fillWith template [('t', s.name t), ('n', s.keyName t), ('c', s.names columns)]
  | .commentOnTable t text => "COMMENT ON TABLE " ++ s.name t ++ " IS " ++ Text.literal text
  | .commentOnColumn t c text =>
    "COMMENT ON COLUMN " ++ s.name t ++ "." ++ s.name c ++ " IS " ++ Text.literal text
  | .createIndex t n columns unique =>
    "CREATE " ++ (if unique then "UNIQUE " else "") ++ "INDEX " ++ s.name n ++ " ON " ++ s.name t ++ " (" ++
      s.names columns ++ ")"
  | .addUnique template t n columns =>
    Template.fillWith template [('t', s.name t), ('n', s.name n), ('c', s.names columns)]
  | .addForeignKey template t f =>
    Template.fillWith template
      [('t', s.name t), ('n', s.name f.name), ('c', s.names f.columns), ('r', s.name f.refTable),
        ('v', s.names f.refColumns), ('a', s.actions f)]
  | .addColumn template t d => Template.fillWith template [('t', s.name t), ('d', d.sql s)]
  | .setDefault template t c v =>
    Template.fillWith template [('t', s.name t), ('c', s.name c), ('v', s.dialect.defaultLiteral v)]
  | .setNotNull template t c => Template.fillWith template [('t', s.name t), ('c', s.name c)]
  | .dropForeignKey template t n | .dropUnique template t n | .dropIndex template t n =>
    Template.fillWith template [('t', s.name t), ('n', s.name n)]
  | .dropColumn template t c => Template.fillWith template [('t', s.name t), ('c', s.name c)]
  | .dropTable template t => Template.fillWith template [('t', s.name t)]
  | .dropSequence template t c => Template.fillWith template [('n', s.sequenceName t c)]

theorem sql_createTable (s : Style) (t : String) (elements : List TableElement) (tail comment : Option String) :
    (createTable t elements tail comment).sql s =
      "CREATE TABLE " ++ s.name t ++ " (" ++ ", ".intercalate (elements.map (TableElement.sql s)) ++ ")" ++
        (tail.map fun x => " " ++ x).getD "" ++ (comment.map fun x => " COMMENT=" ++ Text.literal x).getD "" := rfl

theorem sql_createIndex (s : Style) (t n : String) (columns : List String) (unique : Bool) :
    (createIndex t n columns unique).sql s =
      "CREATE " ++ (if unique then "UNIQUE " else "") ++ "INDEX " ++ s.name n ++ " ON " ++ s.name t ++ " (" ++
        s.names columns ++ ")" := rfl

end Statement

end SqlSchema
