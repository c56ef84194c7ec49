import SqlSchema.Catalog.Basic
import SqlSchema.Catalog.CreateText

/-!
# Names for reported foreign keys

An engine that does not report the names of foreign keys may still give the statement in which they were declared.
`attachNames` gives each key the name of the first clause that matches it and is not yet given away, and puts the keys
into the order of their clauses; keys without a clause come last and stay as they are.
-/

namespace SqlSchema

open CreateText

/-- Whether two lists hold the same names in the same order. -/
def sameNames (a b : List String) : Bool := a.isEqv b Text.sameName

namespace CreateText.ForeignKeyClause

/-- Whether a clause may be the declaration of a key: they agree on the table and the columns. -/
def declares (c : ForeignKeyClause) (f : ReportedForeignKey) : Bool :=
  Text.sameName c.refTable f.refTable && sameNames c.columns f.columns

end CreateText.ForeignKeyClause

/-- A key and where it was declared, if a clause for it is found. -/
structure PlacedKey where
  offset : Option Nat
  key : ReportedForeignKey
deriving DecidableEq, Repr

/-- The keys with the names of clauses, each of which is given away once. -/
def placeKeys : List ForeignKeyClause → List ReportedForeignKey → List PlacedKey
  | _, [] => []
  | clauses, f :: fs =>
    match clauses.find? (·.declares f) with
    | some c =>
      ⟨some c.offset, { f with name := some c.name }⟩ :: placeKeys (clauses.eraseP (·.declares f)) fs
    | none => ⟨none, f⟩ :: placeKeys clauses fs

/-- Whether a key is declared no later than another; keys without a clause come last. -/
def PlacedKey.notAfter (a b : PlacedKey) : Bool :=
  match a.offset, b.offset with
  | some m, some n => m ≤ n
  | none, some _ => false
  | _, none => true

/-- The keys with the names of clauses, in the order of the clauses. -/
def attachNames (fs : List ReportedForeignKey) (clauses : List ForeignKeyClause) : List ReportedForeignKey :=
  ((placeKeys clauses fs).mergeSort PlacedKey.notAfter).map (·.key)

end SqlSchema
