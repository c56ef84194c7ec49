import SqlSchema.Dialect.Server
import SqlSchema.Proofs.Catalog.Faithful
import SqlSchema.Proofs.Names

/-!
# The entries of a catalog

A catalog lists its tables by position and finds them by name, case aside. So what it answers for an entry is what the
first entry of that name says, under the name of the entry itself (`Catalog.answer`). Where no two entries have the same
name, case aside, it answers each with what it says (`answer_eq_self`), and what is read are the entries one by one
(`readTables_eq_ok_iff_toTable`).
-/

namespace SqlSchema.Catalog

variable {c : Catalog} {d : Dialect} {r : ReportedTable} {tables : List Table}

/-- What the catalog answers for an entry. -/
def answer (c : Catalog) (r : ReportedTable) : ReportedTable := { (c.table? r.name).getD r with name := r.name }

/-- No two entries have the same name, case aside. -/
def NamesApart (c : Catalog) : Prop := c.tables.Pairwise fun a b => Text.sameName a.name b.name = false

instance (c : Catalog) : Decidable c.NamesApart := List.instDecidablePairwise c.tables

theorem answer_of_table? {first : ReportedTable} (found : c.table? r.name = some first) :
    c.answer r = { first with name := r.name } := by
  simp [answer, found]

/-- Where names differ, each entry is the first of its name. -/
theorem table?_of_mem (apart : c.NamesApart) (mem : r ∈ c.tables) : c.table? r.name = some r :=
  (Text.find?_sameName_eq_some_iff apart).mpr ⟨mem, Text.sameName_refl r.name⟩

theorem answer_eq_self (apart : c.NamesApart) (mem : r ∈ c.tables) : c.answer r = r :=
  answer_of_table? (table?_of_mem apart mem)

theorem exists_table?_of_mem (mem : r ∈ c.tables) : ∃ first, c.table? r.name = some first := by
  rw [← Option.isSome_iff_exists, table?, List.find?_isSome]
  exact ⟨r, mem, Text.sameName_refl r.name⟩

/-- What the catalog reports for the name of an entry is its answer for the entry. -/
theorem reports_iff (mem : r ∈ c.tables) {q : ReportedTable} : c.source.Reports r.name q ↔ q = c.answer r := by
  obtain ⟨first, found⟩ := exists_table?_of_mem mem
  have answered : ∀ {α : Type} (part : ReportedTable → α), c.ask part r.name = .ok (part first) :=
    fun part => ask_of_table? found
  rw [answer_of_table? found]
  constructor
  · rintro ⟨name, columns, primaryKey, foreignKeys, indexes, comment⟩
    simp only [source, answered, Except.ok.injEq] at columns primaryKey foreignKeys indexes comment
    rw [columns, primaryKey, foreignKeys, indexes, comment, ← name]
  · rintro rfl
    exact ⟨rfl, answered (·.columns), answered (·.primaryKey), answered (·.foreignKeys), answered (·.indexes),
      answered (·.comment)⟩

/-- A catalog is read by its answers for its entries. -/
theorem readTables_eq_ok_iff_answer : c.source.readTables d = .ok tables ↔
    List.Forall₂ (fun r t => (c.answer r).toTable d = .ok t) c.tables tables := by
  have names : c.source.tableNames = .ok (c.tables.map (·.name)) := rfl
  rw [CatalogSource.readTables_eq_ok_iff, names]
  simp only [Except.ok.injEq, exists_eq_left', List.forall₂_map_left_iff]
  refine Outcome.forall₂_congr_of_mem fun r mem t => ?_
  simp only [reports_iff mem, exists_eq_left, ReportedTable.toTable_eq_ok_iff]

/-- Where names differ, the entries of a catalog are read one by one. -/
theorem readTables_eq_ok_iff_toTable (apart : c.NamesApart) : c.source.readTables d = .ok tables ↔
    List.Forall₂ (fun r t => r.toTable d = .ok t) c.tables tables := by
  rw [readTables_eq_ok_iff_answer]
  refine Outcome.forall₂_congr_of_mem fun r mem t => ?_
  rw [answer_eq_self apart mem]

private theorem readAs_iff_toTable {q : ReportedTable} {t : Table} (read : q.toTable d = .ok t) :
    r.ReadAs d t ↔ r.toTable d = q.toTable d := by
  rw [read, ReportedTable.toTable_eq_ok_iff]
  exact (and_iff_left (ReportedTable.toTable_eq_ok_iff.mp read).2).symm

/-- Of a catalog that is read, each table says what the catalog answers for its entry. So the tables describe their own
entries exactly if every entry reads like the first one of its name, and they do wherever no two entries have the same
name, case aside. -/
theorem tables_describe_entries (read : c.source.readTables d = .ok tables) :
    List.Forall₂ (fun r t => (c.answer r).ReadAs d t) c.tables tables ∧
      (List.Forall₂ (ReportedTable.ReadAs d) c.tables tables ↔
        ∀ r ∈ c.tables, r.toTable d = (c.answer r).toTable d) ∧
      (c.NamesApart → List.Forall₂ (ReportedTable.ReadAs d) c.tables tables) := by
  have answered := readTables_eq_ok_iff_answer.mp read
  have own : List.Forall₂ (ReportedTable.ReadAs d) c.tables tables ↔
      ∀ r ∈ c.tables, r.toTable d = (c.answer r).toTable d :=
    Outcome.forall₂_iff_forall_mem answered fun r t read => readAs_iff_toTable read
  refine ⟨answered.imp fun r t read => (ReportedTable.toTable_eq_ok_iff.mp read).1, own, fun apart => ?_⟩
  exact own.mpr fun r mem => by rw [answer_eq_self apart mem]

/-- Invoices and what they list. -/
def invoices : Catalog where
  tables :=
    [{ name := "Invoice"
       columns := [{ name := "id", typeName := "bigint", nullable := false, default := some "nextval('s')" }]
       primaryKey := some { columns := ["ID"] }
       comment := some "issued" },
      { name := "invoice_line"
        columns := [{ name := "invoice", typeName := "int8" }, { name := "text", typeName := "varchar(80)" }]
        foreignKeys := [{ columns := ["invoice"], refTable := "invoice", refColumns := ["id"] }]
        indexes := [{ columns := ["invoice"], unique := true }] }]

theorem tables_describe_invoices : ∃ tables, invoices.source.readTables .postgresql = .ok tables ∧
    invoices.NamesApart ∧ List.Forall₂ (ReportedTable.ReadAs .postgresql) invoices.tables tables := by
  have some_tables : (invoices.source.readTables .postgresql).toOption.isSome = true := by decide +kernel
  have apart : invoices.NamesApart := by decide +kernel
  cases read : invoices.source.readTables .postgresql with
  | error why =>
    rw [read] at some_tables
    cases some_tables
  | ok tables =>
    have ⟨_, _, own⟩ := tables_describe_entries read
    exact ⟨tables, rfl, apart, own apart⟩

/-- Two tables with names that only their case tells apart. -/
def customers : Catalog where
  tables :=
    [{ name := "Customer"
       columns := [{ name := "id", typeName := "INTEGER", nullable := false }]
       primaryKey := some { columns := ["id"] } },
      { name := "customer", columns := [{ name := "since", typeName := "DATE" }], comment := some "by year" }]

/-- The second of the two is read as a table with the column of the first. -/
theorem customers_mixed_up : (customers.tables.map (·.name)).Nodup ∧
    ∃ tables, customers.source.readTables .postgresql = .ok tables ∧
      ¬List.Forall₂ (ReportedTable.ReadAs .postgresql) customers.tables tables := by
  refine ⟨by decide +kernel, ?_⟩
  have columns : (customers.source.readTables .postgresql).toOption.map (·.map fun t => t.columns.map (·.name)) =
      some [["id"], ["id"]] := by decide +kernel
  cases read : customers.source.readTables .postgresql with
  | error why =>
    rw [read] at columns
    cases columns
  | ok tables =>
    rw [read] at columns
    refine ⟨tables, rfl, fun own => ?_⟩
    have reported : customers.tables.map (fun r => r.columns.map (·.name)) =
        tables.map fun t => t.columns.map (·.name) :=
      Outcome.map_eq_map own fun r t table =>
        Outcome.map_eq_map table.columns fun x c column => column.name.symm
    have found : tables.map (fun t => t.columns.map (·.name)) = [["id"], ["id"]] := Option.some.inj columns
    rw [found] at reported
    revert reported
    decide +kernel

end SqlSchema.Catalog
