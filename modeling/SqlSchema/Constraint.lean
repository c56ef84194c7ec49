import SqlSchema.Text.Ascii
import SqlSchema.Text.Blank

/-!
# Constraints of a table

Foreign keys, indexes and unique constraints, each with a name and the columns of its table that it is about.
-/

namespace SqlSchema

/-- What happens to the rows of a foreign key when the row that they refer to changes or goes. -/
inductive RefAction where
  | noAction | restrict | cascade | setNull | setDefault
deriving DecidableEq, Repr

namespace RefAction

/-- All actions. -/
def all : List RefAction := [.noAction, .restrict, .cascade, .setNull, .setDefault]

/-- The words of an action in SQL. -/
def sql : RefAction → String
  | .noAction => "NO ACTION"
  | .restrict => "RESTRICT"
  | .cascade => "CASCADE"
  | .setNull => "SET NULL"
  | .setDefault => "SET DEFAULT"

/-- The name of an action, its words joined by underscores. -/
def name : RefAction → String
  | .noAction => "NO_ACTION"
  | .restrict => "RESTRICT"
  | .cascade => "CASCADE"
  | .setNull => "SET_NULL"
  | .setDefault => "SET_DEFAULT"

/-- The action that a catalog reports by its words or its name, blanks around it and case aside. -/
def ofSql? (s : String) : Option RefAction :=
  let words := (Text.upper (Text.trim s)).toList.map fun c => if c = '_' then ' ' else c
  all.find? fun a => a.sql.toList == words

theorem ofSql?_sql (a : RefAction) : ofSql? a.sql = some a := by
  cases a <;> decide

theorem ofSql?_name (a : RefAction) : ofSql? a.name = some a := by
  cases a <;> decide

end RefAction

/-- A foreign key: `columns` of the table refer to `refColumns` of `refTable`. -/
structure ForeignKey where
  name : String
  columns : List String := []
  refTable : String := ""
  refColumns : List String := []
  onDelete : Option RefAction := none
  onUpdate : Option RefAction := none
deriving DecidableEq, Repr

/-- An index, which may forbid equal rows. -/
structure Index where
  name : String
  columns : List String := []
  unique : Bool := false
deriving DecidableEq, Repr

/-- A constraint that forbids rows that are equal in its columns. -/
structure Unique where
  name : String
  columns : List String := []
deriving DecidableEq, Repr

/-- The kind of a named constraint. -/
inductive ConstraintKind where
  | foreignKey | index | unique
deriving DecidableEq, Repr

/-- The kind of a constraint in messages. -/
def ConstraintKind.label : ConstraintKind → String
  | .foreignKey => "foreign key"
  | .index => "index"
  | .unique => "unique constraint"

end SqlSchema
