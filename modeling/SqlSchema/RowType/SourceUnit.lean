import SqlSchema.RowType.Field
import SqlSchema.Table
import SqlSchema.Text.Blank
import SqlSchema.Text.Split

/-!
# Source units of row types

A source unit is a file in Rust that holds the row type of one table: a comment, imports, constants, the type itself
and its functions, as the options ask for them.
-/

namespace SqlSchema.RowType

/-- A source unit. -/
structure SourceUnit where
  table : String
  /-- The name of the row type. -/
  typeName : String
  /-- The modules that lead to the unit. -/
  modulePath : List String
  /-- The name of the module that the unit is. -/
  moduleName : String
  content : String
deriving DecidableEq, Repr

/-- The name of the file that holds a unit. -/
def SourceUnit.fileName (u : SourceUnit) : String := u.moduleName ++ ".rs"

/-- Whether `c` separates the modules of a path. -/
def separatesModules (c : Char) : Bool := c = '.' || c = ':' || c = '/'

/-- The parts of a path of modules. Parts that are empty do not count. -/
def pathParts (package : String) : List String :=
  let parts := Text.splitOn '.' (package.toList.map fun c => if separatesModules c then '.' else c)
  (parts.filter (!·.isEmpty)).map fun part => sanitize (String.ofList part)

/-- The text with every occurrence of `slot`, which is not empty, replaced. -/
def replaceSlot (slot value : List Char) : Nat → List Char → List Char
  | _, [] => []
  | skipped + 1, _ :: cs => replaceSlot slot value skipped cs
  | 0, c :: cs =>
    if slot.isPrefixOf (c :: cs) then value ++ replaceSlot slot value (slot.length - 1) cs
    else c :: replaceSlot slot value 0 cs

namespace Options

/-- The lines of the imports. -/
def importLines (o : Options) : String :=
  let extra := Text.trim (o.imports.getD "")
  (if o.bare then "" else "use serde::\x7bDeserialize, Serialize\x7d;\n") ++
    (if extra.isEmpty then "" else extra ++ "\n")

/-- What is derived for the type. -/
def deriveLine (o : Options) : String :=
  "#[derive(Debug, Clone, PartialEq" ++ (if o.bare then "" else ", Serialize, Deserialize") ++ ")]\n"

/-- The line that opens the type. -/
def headerLine (o : Options) (typeName : String) : String :=
  let header := String.ofList (Text.trimRight (replaceSlot nameSlot.toList typeName.toList 0 o.header.toList))
  header ++ (if Text.endsWith header "\x7b" then "" else " \x7b") ++ "\n"

/-- The constants that stand in front of the type. -/
def outerConstants (o : Options) (fs : List Field) : String :=
  if o.constants && o.constantsOutside then
    "\n" ++ String.join (fs.map (·.constant o.constantStyle false))
  else ""

/-- The declarations of the fields. -/
def fieldLines (o : Options) (fs : List Field) : String :=
  if o.fields then String.join (fs.map (·.declaration o.publicFields)) else ""

/-- What the type has beside its fields: the constants together, then the functions one by one. -/
def members (o : Options) (fs : List Field) : List String :=
  (if o.constants && !o.constantsOutside then [String.join (fs.map (·.constant o.constantStyle true))] else []) ++
    (if o.accessors && o.fields then fs.flatMap fun f => [f.getter, f.setter o.chaining] else [])

/-- The block of what the type has beside its fields. -/
def memberBlock (o : Options) (typeName : String) (fs : List Field) : String :=
  let members := o.members fs
  if members.isEmpty then ""
  else "\nimpl " ++ typeName ++ " \x7b\n" ++ "\n".intercalate members ++ "\x7d\n"

/-- The comment in front of the unit. -/
def unitComment (table : String) : String := "//! Row type for table \x60" ++ table ++ "\x60.\n"

/-- The comment in front of the type. -/
def typeComment (table : String) : String := "\n/// Row of table \x60" ++ table ++ "\x60.\n"

/-- The text of the unit for a table with these fields. -/
def content (o : Options) (table : String) (fs : List Field) : String :=
  let imports := o.importLines
  unitComment table ++ (if imports.isEmpty then "" else "\n" ++ imports) ++ o.outerConstants fs ++
    typeComment table ++ o.deriveLine ++ o.headerLine (RowType.typeName table) ++ o.fieldLines fs ++ "\x7d\n" ++
    o.memberBlock (RowType.typeName table) fs

end Options

/-- The unit for a table. -/
def emit (o : Options) (t : Table) : SourceUnit where
  table := t.name
  typeName := typeName t.name
  modulePath := (o.package.map pathParts).getD []
  moduleName := moduleName t.name
  content := o.content t.name (t.columns.map Field.ofColumn)

/-- The units for the tables that are not excluded. -/
def emitAll (o : Options) (ts : List Table) : List SourceUnit :=
  (ts.filter fun t => !o.excludes t.name).map (emit o)

end SqlSchema.RowType
