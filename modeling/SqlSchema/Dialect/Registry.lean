import SqlSchema.Dialect.Embedded
import SqlSchema.Dialect.Server
import SqlSchema.Error

/-!
# The known dialects

Dialects are looked up by an identifier or an alias, of which only ASCII letters and digits count, case aside; the
word `dialect` may stand behind it.
-/

namespace SqlSchema.Dialect

/-- The known dialects, in the order in which they are listed. -/
def all : List Dialect :=
  [h2, hsqldb, derby, mysql, mysql8, mariadb, postgresql, sqlite, duckdb, oracle10g, oracle12c, sqlServer2005,
    sqlServer2012, db2, informix]

/-- What of an identifier counts in a look-up. -/
def lookupKey (id : String) : String :=
  let compact := String.ofList ((id.toList.filter Char.isAlphanum).map Char.toLower)
  match Text.dropEnd? compact "dialect" with
  | some stem => if stem.isEmpty then compact else stem
  | none => compact

/-- Whether the dialect goes by an identifier. -/
def isCalled (d : Dialect) (id : String) : Bool := (d.id :: d.aliases).any fun name => lookupKey name == lookupKey id

/-- The known dialect that goes by an identifier. -/
def ofId? (id : String) : Option Dialect := all.find? (·.isCalled id)

/-- The known dialect that goes by an identifier, or the failure to find one. -/
def resolve (id : String) : Except Failure Dialect :=
  match ofId? id with
  | some d => .ok d
  | none => .error (.unknownDialect id)

end SqlSchema.Dialect
