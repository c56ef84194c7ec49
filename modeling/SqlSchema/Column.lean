import SqlSchema.Binary64.Basic
import SqlSchema.ColumnType.Params
import SqlSchema.Identifier

/-!
# Columns

A column has a name, a type with its parameters, and what the table says about its values. Columns are made from
`Column.new` by edits in any order and may be unfinished in between; `Column.check` finds the first fault of a finished
one and finds none exactly when it is `WellFormed` (`check_eq_ok_iff`).
-/

namespace SqlSchema

/-- The value that a column takes when a row does not give one. -/
inductive Default where
  | null
  | boolean (value : Bool)
  | integer (value : Int)
  | float (value : Binary64)
  | text (value : String)
  /-- An SQL expression, taken as it is. -/
  | expression (sql : String)
deriving DecidableEq, Repr

/-- A column of a table. -/
structure Column where
  name : String
  type : ColumnType
  params : TypeParams := {}
  nullable : Bool := true
  /-- Whether the column belongs to the primary key. -/
  inKey : Bool := false
  /-- Whether the engine numbers the rows in this column. -/
  isIdentity : Bool := false
  default : Option Default := none
  comment : Option String := none
  /-- A condition on the values, an SQL expression taken as it is. -/
  check : Option String := none
deriving DecidableEq, Repr

/-- A step in making a column. -/
inductive ColumnEdit where
  | length (n : Nat)
  | precision (n : Nat)
  | scale (n : Nat)
  /-- Replaces all parameters. -/
  | params (p : TypeParams)
  | notNull
  | nullable
  /-- Puts the column into the primary key, which also makes it not nullable. -/
  | inKey
  | identity
  | default (value : Default)
  | comment (text : String)
  | check (sql : String)
deriving DecidableEq, Repr

namespace Column

/-- A nullable column with nothing but a name and a type. -/
def new (name : String) (type : ColumnType) : Column := { name, type }

/-- The column after an edit. -/
def edit (c : Column) : ColumnEdit → Column
  | .length n => { c with params := { c.params with length := some n } }
  | .precision n => { c with params := { c.params with precision := some n } }
  | .scale n => { c with params := { c.params with scale := some n } }
  | .params p => { c with params := p }
  | .notNull => { c with nullable := false }
  | .nullable => { c with nullable := true }
  | .inKey => { c with inKey := true, nullable := false }
  | .identity => { c with isIdentity := true }
  | .default value => { c with default := some value }
  | .comment text => { c with comment := some text }
  | .check sql => { c with check := some sql }

/-- The column after edits, in order. -/
def edits (c : Column) (es : List ColumnEdit) : Column := es.foldl edit c

/-- What a column of a table satisfies. -/
structure WellFormed (c : Column) : Prop where
  name_valid : Identifier.Valid c.name
  params_suitable : c.params.Suitable c.type
  identity_integral : c.isIdentity = true → c.type.isIntegral = true
  identity_without_default : c.isIdentity = true → c.default = none

/-- The fault of a column that numbers the rows. -/
def identityFault (c : Column) : Option ModelError :=
  if c.isIdentity && !c.type.isIntegral then some (.identityNotIntegral c.name c.type)
  else if c.isIdentity && c.default.isSome then some (.identityWithDefault c.name)
  else none

/-- Refuses a column that is not well-formed, for the first fault found. -/
def accept (c : Column) : Except ModelError Unit := do
  Identifier.check "column" c.name
  (c.params.check c.type).mapError (.inColumn c.name)
  match c.identityFault with
  | some fault => .error fault
  | none => .ok ()

private theorem identityFault_eq_none_iff {c : Column} :
    c.identityFault = none ↔
      (c.isIdentity = true → c.type.isIntegral = true) ∧ (c.isIdentity = true → c.default = none) := by
  unfold identityFault
  cases c.isIdentity <;> cases c.type.isIntegral <;> cases c.default <;> simp

theorem accept_eq_ok_iff {c : Column} : c.accept = .ok () ↔ c.WellFormed := by
  have params : (c.params.check c.type).mapError (ModelError.inColumn c.name) = .ok () ↔
      c.params.check c.type = .ok () := by
    cases c.params.check c.type with
    | error why => exact ⟨nofun, nofun⟩
    | ok _ => exact ⟨fun _ => rfl, fun _ => rfl⟩
  have parts : c.accept = .ok () ↔ Identifier.check "column" c.name = .ok () ∧
      c.params.check c.type = .ok () ∧ c.identityFault = none := by
    rw [← params]
    unfold accept
    cases Identifier.check "column" c.name <;> cases (c.params.check c.type).mapError (ModelError.inColumn c.name) <;>
      cases c.identityFault <;> simp [bind, Except.bind]
  rw [parts, Identifier.check_eq_ok_iff, TypeParams.check_eq_ok_iff, identityFault_eq_none_iff]
  constructor
  · rintro ⟨name, params, integral, default⟩
    exact ⟨name, params, integral, default⟩
  · rintro ⟨name, params, integral, default⟩
    exact ⟨name, params, integral, default⟩

end Column

end SqlSchema
