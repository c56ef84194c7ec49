import SqlSchema.CommandLine.Arguments
import SqlSchema.Dialect.Registry
import SqlSchema.Query.Page
import SqlSchema.Text.Numeral

/-!
# Commands

The program lists the known dialects, cuts a query to a page, or gives the statements for the schema of a database. An
`Outcome` is what a run of the program shows. Arguments that are no command are a misuse, which has a status of its own.
-/

namespace SqlSchema.CommandLine

/-- What the program is asked to do. -/
inductive Command where
  | dialects
  | paginate (dialect : String) (page size : Int) (query : String)
  /-- The statements for the schema of a database. -/
  | statements (database dialect : String)
deriving DecidableEq, Repr

/-- What a run of the program shows. -/
structure Outcome where
  status : Nat
  stdout : String := ""
  stderr : String := ""
deriving DecidableEq, Repr

/-- The options in front of a command. -/
def generalOptions : List OptionSpec :=
  [{ name := "database", short := some 'd' }, { name := "verbose", short := some 'v', hasValue := false }]

/-- The option for the dialect. -/
def dialectOption : OptionSpec := { name := "dialect", short := some 'D' }

/-- The options of the command that cuts a query. -/
def pageOptions : List OptionSpec :=
  [dialectOption, { name := "page", short := some 'p' }, { name := "size", short := some 's' }]

/-- The options of the command that gives statements. -/
def statementOptions : List OptionSpec :=
  [dialectOption, { name := "drop", hasValue := false }, { name := "quote", short := some 'q', hasValue := false },
    { name := "show-sql", hasValue := false }]

/-- The whole number that an option gives, or the usual one. -/
def Arguments.integer? (a : Arguments) (name : String) (usual : Int) : Option Int :=
  match a.value? name with
  | none => some usual
  | some value => Text.readInteger? value.toList

/-- The command that arguments ask for. -/
def Command.ofArguments? (arguments : List String) : Option Command := do
  let general ← readArguments? generalOptions true arguments
  match general.operands with
  | "dialects" :: rest =>
    let a ← readArguments? [] false rest
    if a.operands.isEmpty then some .dialects else none
  | "paginate" :: rest =>
    let a ← readArguments? pageOptions false rest
    match a.operands with
    | [query] =>
      some (.paginate (← a.value? "dialect") (← a.integer? "page" 1) (← a.integer? "size" 20) query)
    | _ => none
  | "ddl" :: rest =>
    let a ← readArguments? statementOptions false rest
    let database := (general.value? "database").getD "sqlite:db.sqlite3"
    if a.operands.isEmpty then some (.statements database ((a.value? "dialect").getD "sqlite")) else none
  | _ => none

/-- The text filled with blanks to a width. -/
def padded (width : Nat) (s : String) : String :=
  s ++ String.ofList (List.replicate (width - s.length) ' ')

/-- The line that lists a dialect. -/
def dialectLine (d : Dialect) : String :=
  padded 14 d.id ++ " " ++ padded 22 d.name ++ " " ++ ", ".intercalate d.aliases ++ "\n"

/-- What a failure shows. -/
def failed (message : String) : Outcome := { status := 1, stderr := "Error: " ++ message ++ "\n" }

/-- What a command shows. There is no engine to read a database with, so that statements cannot be given. -/
def Command.run : Command → Outcome
  | .dialects => { status := 0, stdout := String.join (Dialect.all.map dialectLine) }
  | .paginate id page size query =>
    match (Dialect.resolve id).bind fun d => Query.paginate d page size query with
    | .ok sql => { status := 0, stdout := sql ++ "\n" }
    | .error f => failed f.message
  | .statements database id =>
    match Dialect.resolve id with
    | .ok _ => failed ("connecting to " ++ database)
    | .error f => failed f.message

/-- What the program shows for its arguments. -/
def run (arguments : List String) : Outcome :=
  match Command.ofArguments? arguments with
  | some c => c.run
  | none => { status := 2, stderr := "Error: these arguments are no command\n" }

end SqlSchema.CommandLine
