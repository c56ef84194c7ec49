import SqlSchema.Proofs.Table.Edits

/-!
# The names in a table

Names come into a table as its own, as those of columns and constraints, and in the lists of columns of constraints.
Whatever edits make the table, each of them is valid, except that nothing looks at the columns that a foreign key refers
to: those are valid exactly if they were so in each foreign key that was accepted (`stored_names_valid`).
-/

namespace SqlSchema

/-- What a name in a table is the name of. -/
inductive NameRole where
  | table
  | column
  | constraint (kind : ConstraintKind)
  /-- A column in the list of a constraint of the table. -/
  | localColumn (kind : ConstraintKind)
  | referencedTable
  | referencedColumn
deriving DecidableEq, Repr

namespace Table

/-- The table holds a name in a role. -/
inductive HoldsName (t : Table) : NameRole → String → Prop where
  | table : HoldsName t .table t.name
  | column {c : Column} (mem : c ∈ t.columns) : HoldsName t .column c.name
  | constraint {k : Declared} (mem : k ∈ t.constraints) : HoldsName t (.constraint k.kind) k.name
  | localColumn {k : Declared} (mem : k ∈ t.constraints) {n : String} (listed : n ∈ k.columns) :
      HoldsName t (.localColumn k.kind) n
  | referencedTable {f : ForeignKey} (mem : f ∈ t.foreignKeys) : HoldsName t .referencedTable f.refTable
  | referencedColumn {f : ForeignKey} (mem : f ∈ t.foreignKeys) {n : String} (listed : n ∈ f.refColumns) :
      HoldsName t .referencedColumn n

variable {t : Table} {role : NameRole} {n : String}

/-- Names in all roles but one are looked at before they come into a table. -/
theorem WellFormed.valid_of_holdsName (h : t.WellFormed) (holds : t.HoldsName role n)
    (other : role ≠ .referencedColumn) : Identifier.Valid n := by
  cases holds with
  | table => exact h.name_valid
  | column mem => exact (h.columns_wellFormed _ mem).name_valid
  | constraint mem => exact (h.constraint_valid _ mem).1
  | localColumn mem listed => exact (h.constraint_columns _ mem).2 n listed
  | referencedTable mem => exact (h.references _ mem).table_valid
  | referencedColumn mem listed => exact absurd rfl other

theorem WellFormed.names_valid_iff (h : t.WellFormed) :
    (∀ role n, t.HoldsName role n → Identifier.Valid n) ↔
      ∀ f ∈ t.foreignKeys, ∀ n ∈ f.refColumns, Identifier.Valid n := by
  constructor
  · intro valid f mem n listed
    exact valid _ n (.referencedColumn mem listed)
  · intro valid role n holds
    by_cases other : role = .referencedColumn
    · subst other
      cases holds with
      | referencedColumn mem listed => exact valid _ mem n listed
    · exact h.valid_of_holdsName holds other

/-- The foreign keys of a table that was made by edits are those that were accepted. -/
private theorem mem_foreignKeys_editAll {name : String} (valid : Identifier.Valid name) (edits : List TableEdit)
    (f : ForeignKey) :
    f ∈ (editAll { name } edits).foreignKeys ↔ TableEdit.foreignKey f ∈ accepted { name } edits := by
  have start : WellFormed { name } := wellFormed_of_new? (new?_of_valid valid)
  have made := (foldlM_edit?_eq_ok_iff start).mp (foldlM_accepted { name } edits)
  have keys : (editAll { name } edits).foreignKeys = (accepted { name } edits).filterMap TableEdit.foreignKey? := by
    rw [made.1, foldl_extend]
    rfl
  rw [keys, List.mem_filterMap]
  constructor
  · rintro ⟨e, mem, adds⟩
    cases e with
    | foreignKey g =>
      obtain rfl := Option.some.inj adds
      exact mem
    | _ => cases adds
  · intro mem
    exact ⟨_, mem, rfl⟩

/-- Whatever edits are tried on a table without columns, the names that it then holds are valid, but for the columns that
its foreign keys refer to. All of them are exactly if each foreign key that was accepted refers to columns of valid
names. -/
theorem stored_names_valid {name : String} (valid : Identifier.Valid name) (edits : List TableEdit) :
    new? name = .ok { name } ∧
      (∀ role n, (editAll { name } edits).HoldsName role n → role ≠ .referencedColumn → Identifier.Valid n) ∧
      ((∀ role n, (editAll { name } edits).HoldsName role n → Identifier.Valid n) ↔
        ∀ f, .foreignKey f ∈ accepted { name } edits → ∀ n ∈ f.refColumns, Identifier.Valid n) := by
  have new := new?_of_valid valid
  have whole := (wellFormed_of_new? new).editAll edits
  refine ⟨new, fun role n holds other => whole.valid_of_holdsName holds other, ?_⟩
  rw [whole.names_valid_iff]
  simp only [mem_foreignKeys_editAll valid]

/-- Edits of a table of invoices. The index is refused, as one of its columns has no name. -/
def invoiceEdits : List TableEdit :=
  [.column { name := "order_id", type := .bigint }, .index { name := "ix_order", columns := ["order_id", " "] },
    .foreignKey { name := "fk_order", columns := ["order_id"], refTable := "orders", refColumns := ["id"] }]

theorem names_of_invoice_valid :
    Identifier.Valid "invoice" ∧ (accepted { name := "invoice" } invoiceEdits).length = 2 ∧
      ∀ role n, (editAll { name := "invoice" } invoiceEdits).HoldsName role n → Identifier.Valid n := by
  have named : Identifier.check "table" "invoice" = .ok () := by decide +kernel
  have valid : Identifier.Valid "invoice" := Identifier.check_eq_ok_iff.mp named
  refine ⟨valid, by decide +kernel, (stored_names_valid valid invoiceEdits).2.2.mpr ?_⟩
  intro f mem n listed
  have checked : ∀ e ∈ accepted { name := "invoice" } invoiceEdits, ∀ f ∈ e.foreignKey?, ∀ n ∈ f.refColumns,
      Identifier.check "column" n = .ok () := by decide +kernel
  exact Identifier.check_eq_ok_iff.mp (checked _ mem f rfl n listed)

/-- A foreign key that refers to a column without a name. -/
def namelessReference : ForeignKey :=
  { name := "fk_order", columns := ["order_id"], refTable := "orders", refColumns := [""] }

/-- It is accepted, and the name that is none stays in the table. -/
theorem nameless_reference_stored :
    Identifier.Valid "invoice" ∧
      (editAll { name := "invoice" } [.foreignKey namelessReference]).HoldsName .referencedColumn "" ∧
      ¬Identifier.Valid "" := by
  have named : Identifier.check "table" "invoice" = .ok () := by decide +kernel
  have stored : (editAll { name := "invoice" } [.foreignKey namelessReference]).foreignKeys = [namelessReference] := by
    decide +kernel
  refine ⟨Identifier.check_eq_ok_iff.mp named, ?_, fun valid => valid.not_blank rfl⟩
  have mem : namelessReference ∈ (editAll { name := "invoice" } [.foreignKey namelessReference]).foreignKeys := by
    rw [stored]
    exact List.mem_singleton_self _
  exact .referencedColumn mem (List.mem_singleton_self _)

end Table

end SqlSchema
