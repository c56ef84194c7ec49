import SqlSchema.Error
import SqlSchema.Json.Decode
import SqlSchema.Text.Ascii

/-!
# Options of row types

What a source unit for the rows of a table holds and how it is named. Options are read from the text of a record in
which every field may be missing.
-/

namespace SqlSchema.RowType

/-- How the constant for the name of a column is named. -/
inductive ConstantStyle where
  /-- As in `FIRST_NAME`. -/
  | upper
  /-- As in `first_name`. -/
  | lower
  /-- As in `firstName`. -/
  | camel
  /-- The name as it is, as far as it can be. -/
  | asDeclared
deriving DecidableEq, Repr

namespace ConstantStyle

/-- The styles by their names. -/
def byName : List (String × ConstantStyle) :=
  [("upper", .upper), ("lower", .lower), ("camel", .camel), ("normal", .asDeclared)]

/-- The name of a style. -/
def name : ConstantStyle → String
  | .upper => "upper"
  | .lower => "lower"
  | .camel => "camel"
  | .asDeclared => "normal"

theorem lookup_name (s : ConstantStyle) : byName.lookup s.name = some s := by
  cases s <;> decide

end ConstantStyle

/-- What stands for the name of the type in the header of a unit. -/
def nameSlot : String := "$ClassName"

/-- What the units for row types hold. -/
structure Options where
  /-- Tables that get no unit, case aside. -/
  excluded : List String := []
  /-- The path of modules to the unit. -/
  package : Option String := none
  /-- Lines behind the usual imports. -/
  imports : Option String := none
  /-- Leaves out the usual imports and what needs them. -/
  bare : Bool := false
  /-- The header of the type, with a slot for its name. -/
  header : String := "pub struct " ++ nameSlot
  /-- Whether there is a constant for the name of each column. -/
  constants : Bool := true
  /-- Puts the constants in front of the type instead of into it. -/
  constantsOutside : Bool := false
  constantStyle : ConstantStyle := .upper
  fields : Bool := true
  /-- Whether fields have functions that read and change them. -/
  accessors : Bool := true
  publicFields : Bool := false
  /-- Makes the functions that change a field give back the row. -/
  chaining : Bool := false
deriving DecidableEq, Repr

namespace Options

open Json

/-- The options that a JSON value describes. -/
def ofJson? (j : Json) : Option Options := do
  match ← record? ["exclude_tables", "package_name", "imports", "remove_default_imports", "class_definition",
      "field_flags", "field_flags_static", "field_flags_style", "fields", "getter_setters", "public_field",
      "link_style"] j with
  | [excluded, package, imports, bare, header, constants, outside, style, fields, accessors, publicFields, chaining] =>
    let usual : Options := {}
    some {
      excluded := ← optional (list? text?) usual.excluded excluded
      package := ← optional (nullable? text?) usual.package package
      imports := ← optional (nullable? text?) usual.imports imports
      bare := ← optional flag? usual.bare bare
      header := ← optional text? usual.header header
      constants := ← optional flag? usual.constants constants
      constantsOutside := ← optional flag? usual.constantsOutside outside
      constantStyle := ← optional (choice? ConstantStyle.byName) usual.constantStyle style
      fields := ← optional flag? usual.fields fields
      accessors := ← optional flag? usual.accessors accessors
      publicFields := ← optional flag? usual.publicFields publicFields
      chaining := ← optional flag? usual.chaining chaining }
  | _ => none

/-- The options that a JSON text describes. -/
def parse (text : String) : Except Failure Options :=
  match (Json.parse? text).bind ofJson? with
  | some o => .ok o
  | none => .error .options

/-- Whether a table gets no unit. -/
def excludes (o : Options) (table : String) : Bool := o.excluded.any (Text.sameName · table)

end Options

end SqlSchema.RowType
