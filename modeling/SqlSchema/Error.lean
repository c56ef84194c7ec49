import SqlSchema.ModelError

/-!
# Failures of the operations

Beside an invalid model, an operation may fail for a dialect that is not known, a page that does not exist, a catalog
that cannot be read, or options, catalogs and files that cannot be taken.
-/

namespace SqlSchema

/-- What of a table is read from a catalog. -/
inductive CatalogPart where
  | columns | primaryKey | foreignKeys | indexes | comment
deriving DecidableEq, Repr

/-- The part in messages. -/
def CatalogPart.label : CatalogPart → String
  | .columns => "columns"
  | .primaryKey => "primary key"
  | .foreignKeys => "foreign keys"
  | .indexes => "indexes"
  | .comment => "comment"

/-- What lies behind a failure to read a catalog. -/
inductive ReadCause where
  /-- The source of the catalog failed with a message of its own. -/
  | source (message : String)
  | unknownTable (name : String)
  | model (e : ModelError)
deriving DecidableEq, Repr

/-- The wording of a cause. -/
def ReadCause.message : ReadCause → String
  | .source message => message
  | .unknownTable name => "Unknown table: " ++ name
  | .model e => e.message

/-- Where the reading of a catalog failed. -/
inductive ReadFailure where
  | tableNames (cause : ReadCause)
  | part (part : CatalogPart) (table : String) (cause : ReadCause)
  /-- What was read of the table is no valid model. -/
  | table (table : String) (cause : ModelError)
  | keyColumn (table column : String)
  /-- The dialect has no column type for a native type. -/
  | nativeType (table column type dialect : String)
deriving DecidableEq, Repr

namespace ReadFailure

/-- The wording of a failure, without the heading and the cause. -/
def detail : ReadFailure → String
  | .tableNames _ => "failed to list tables"
  | .part p t _ => "failed to read " ++ p.label ++ " of table " ++ ModelError.quoted t
  | .table t _ => "table " ++ ModelError.quoted t ++ " cannot be modeled"
  | .keyColumn t c =>
    "primary key of table " ++ ModelError.quoted t ++ " names unknown column " ++ ModelError.quoted c
  | .nativeType t c type d =>
    "column " ++ ModelError.quoted (t ++ "." ++ c) ++ " has type " ++ ModelError.quoted type ++ " with no " ++ d ++
      " mapping"

/-- What lies behind a failure, if something does. -/
def cause? : ReadFailure → Option ReadCause
  | .tableNames cause | .part _ _ cause => some cause
  | .table _ e => some (.model e)
  | .keyColumn .. | .nativeType .. => none

end ReadFailure

/-- A failure of an operation. -/
inductive Failure where
  | model (e : ModelError)
  | unknownDialect (id : String)
  | invalidPage (page size : Int)
  | reading (f : ReadFailure)
  /-- Options that are not well-formed. -/
  | options
  /-- A catalog text that is not well-formed. -/
  | catalogText
  /-- A file that cannot be written. -/
  | file
deriving DecidableEq, Repr

/-- The message of a failure; failures about texts and files have only a heading. -/
def Failure.message : Failure → String
  | .model e => e.message
  | .unknownDialect id => "Unknown dialect: " ++ id
  | .invalidPage page size => "Invalid page request: page " ++ toString page ++ ", size " ++ toString size
  | .reading f => "Introspection failed: " ++ f.detail
  | .options => "Invalid emitter configuration"
  | .catalogText => "Invalid catalog"
  | .file => "IO error"

end SqlSchema
