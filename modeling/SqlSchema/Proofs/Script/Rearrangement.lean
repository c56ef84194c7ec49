import Mathlib.Data.List.Perm.Basic
import SqlSchema.Proofs.Interleaving
import SqlSchema.Proofs.Names
import SqlSchema.Proofs.Script.CreationOrder

/-!
# One script and the scripts of its tables

A script that creates several tables holds what the scripts of the single tables hold and only arranges it anew: the
statements of each table keep their order, and the phases of all tables are put together (`script_rearranges`). The
tables are created in another order than they are declared in where foreign keys are inline, so the phases of the
script are those of the declared tables up to a permutation (`exists_phases`).
-/

namespace SqlSchema

namespace Statement

/-- Whether a statement creates a table, adds its primary key or comments on it. -/
def definesTable : Statement → Bool
  | .createTable .. | .addPrimaryKey .. | .commentOnTable .. | .commentOnColumn .. => true
  | _ => false

end Statement

/-! ### The script of one table -/

namespace Table

variable {d : Dialect} {t : Table} {p : CreatePhases}

/-- The statements of the indexes. -/
def indexStatements (t : Table) : List Statement :=
  t.indexes.map fun i => .createIndex t.name i.name i.columns i.unique

/-- The statements of the unique constraints. -/
def uniqueStatements (d : Dialect) (t : Table) : List Statement := t.uniques.map (t.uniqueStatement d)

theorem indexes_of_createPhases (h : t.createPhases d = .ok p) : p.indexes = t.indexStatements := by
  obtain ⟨definitions, -, rfl⟩ := eq_of_createPhases h
  rfl

theorem uniques_of_createPhases (h : t.createPhases d = .ok p) : p.uniques = t.uniqueStatements d := by
  obtain ⟨definitions, -, rfl⟩ := eq_of_createPhases h
  rfl

theorem foreignKeys_of_createPhases (h : t.createPhases d = .ok p) : p.foreignKeys = t.foreignKeyStatements d := by
  obtain ⟨definitions, -, rfl⟩ := eq_of_createPhases h
  rfl

theorem definesTable_of_mem_keyStatements {st : Statement} (h : st ∈ t.keyStatements d) : st.definesTable = true := by
  obtain ⟨_, _, -, -, rfl⟩ := mem_keyStatements.mp h
  rfl

theorem definesTable_of_mem_commentStatements {st : Statement} (h : st ∈ t.commentStatements d) :
    st.definesTable = true := by
  obtain ⟨-, ⟨text, -, rfl⟩ | ⟨c, -, text, -, rfl⟩⟩ := mem_commentStatements.mp h <;> rfl

theorem definesTable_of_mem_tables (h : t.createPhases d = .ok p) {st : Statement} (hst : st ∈ p.tables) :
    st.definesTable = true := by
  obtain ⟨definitions, -, rfl⟩ := eq_of_createPhases h
  rcases List.mem_cons.mp hst with rfl | hst
  · rfl
  · rcases List.mem_append.mp hst with hst | hst
    · exact definesTable_of_mem_keyStatements hst
    · exact definesTable_of_mem_commentStatements hst

/-- When a table is created on its own, and by which statements. -/
theorem create_eq_ok_iff {own : List Statement} :
    t.create d = .ok own ↔ t.Creatable d ∧
      (∀ f ∈ t.foreignKeys, Text.sameName f.refTable t.name = true → ∀ n ∈ f.refColumns, t.Has n) ∧
      ∃ p, t.createPhases d = .ok p ∧ own = CreatePhases.statements [p] := by
  unfold create
  rw [Outcome.then_eq_ok_iff, Outcome.then_eq_ok_iff, Outcome.bind_eq_ok_iff, Outcome.forM_eq_ok_iff,
    Dialect.checkTable_eq_ok_iff]
  simp only [List.mem_filter, and_imp, checkReferences_eq_ok_iff, Except.ok.injEq, eq_comm (b := own)]

end Table

/-! ### The script of several tables -/

theorem CreatePhases.interleaves_statements (ps : List CreatePhases) :
    Interleaves (ps.map fun p => statements [p]) (statements ps) := by
  have phases := ((((Interleaves.flatMap ps (·.sequences)).append_map (.flatMap ps (·.tables))).append_map
    (.flatMap ps (·.indexes))).append_map (.flatMap ps (·.uniques))).append_map (.flatMap ps (·.foreignKeys))
  simpa [statements] using phases

namespace Schema

variable {d : Dialect} {tables : List Table} {script : List Statement}

/-- What a script satisfies that creates several tables by the statements that create each of them. -/
structure Rearranges (d : Dialect) (tables : List Table) (script : List Statement) : Prop where
  /-- Each table can be created on its own. The script consists of the statements which do so, those of each table in
  their order. -/
  interleaves : ∃ scripts, List.Forall₂ (fun t own => t.create d = .ok own) tables scripts ∧
    Interleaves scripts script ∧ script.Perm scripts.flatten ∧ ∀ own ∈ scripts, own.Sublist script
  /-- Sequences come first, then tables with their keys and comments, then indexes, then unique constraints, then
  foreign keys. -/
  phases : ∃ sequences definitions indexes uniques foreignKeys,
    script = sequences ++ definitions ++ indexes ++ uniques ++ foreignKeys ∧
      Interleaves (tables.map (Table.createSequences d)) sequences ∧ (∀ st ∈ sequences, st.createsSequence = true) ∧
      (∀ st ∈ definitions, st.definesTable = true) ∧
      Interleaves (tables.map Table.indexStatements) indexes ∧
      Interleaves (tables.map (Table.uniqueStatements d)) uniques ∧
      Interleaves (tables.map (Table.foreignKeyStatements d)) foreignKeys ∧
      ∀ st ∈ foreignKeys, st.reference?.isSome = true

/-- The phases of a script are those of the tables as they are declared, in the order in which tables are created. -/
theorem exists_phases (h : create d tables = .ok script) :
    ∃ ps qs, script = CreatePhases.statements ps ∧ qs.Perm ps ∧
      List.Forall₂ (fun t p => t.createPhases d = .ok p) tables qs := by
  obtain ⟨-, ordered, ps, order, phases, rfl⟩ := exists_of_create h
  obtain ⟨qs, made, same⟩ := List.perm_comp_forall₂ (creationOrder_perm order).symm (Outcome.mapM_eq_ok_iff.mp phases)
  exact ⟨ps, qs, rfl, same, made⟩

/-- A set of tables that is created has tables that are created on their own. -/
theorem create_of_createPhases (h : create d tables = .ok script) {t : Table} (ht : t ∈ tables) {p : CreatePhases}
    (phases : t.createPhases d = .ok p) : t.create d = .ok (CreatePhases.statements [p]) := by
  obtain ⟨checked, -⟩ := exists_of_create h
  obtain ⟨apart, each⟩ := check_eq_ok_iff.mp checked
  refine Table.create_eq_ok_iff.mpr ⟨(each t ht).1, ?_, p, phases, rfl⟩
  intro f hf own
  obtain ⟨r, found, columns⟩ := (each t ht).2 f hf
  obtain ⟨hr, same⟩ := mem_of_table? found
  have itself : r = t := Text.eq_of_sameName apart hr ht (Text.sameName_trans same own)
  exact itself ▸ columns

section Phases

variable {ps qs : List CreatePhases} {part : CreatePhases → List Statement} {own : Table → List Statement}

private theorem interleaves_phase (made : List.Forall₂ (fun t p => t.createPhases d = .ok p) tables qs)
    (same : qs.Perm ps) (owned : ∀ t p, t.createPhases d = .ok p → part p = own t) :
    Interleaves (tables.map own) (ps.flatMap part) := by
  have by_table : tables.map own = qs.map part := Outcome.map_eq_map made fun t p phases => (owned t p phases).symm
  rw [by_table]
  exact (Interleaves.flatMap ps part).of_perm (same.symm.map part)

private theorem forall_mem_phase {q : Statement → Prop}
    (made : List.Forall₂ (fun t p => t.createPhases d = .ok p) tables qs) (same : qs.Perm ps)
    (each : ∀ (t : Table) p, t.createPhases d = .ok p → ∀ st ∈ part p, q st) : ∀ st ∈ ps.flatMap part, q st := by
  intro st hst
  obtain ⟨p, hp, hst⟩ := List.mem_flatMap.mp hst
  obtain ⟨t, -, phases⟩ := Outcome.exists_of_mem_right made (same.mem_iff.mpr hp)
  exact each t p phases st hst

end Phases

private theorem rearranges_of_create (h : create d tables = .ok script) : Rearranges d tables script := by
  obtain ⟨ps, qs, rfl, same, made⟩ := exists_phases h
  constructor
  · have interleaved : Interleaves (qs.map fun p => CreatePhases.statements [p]) (CreatePhases.statements ps) :=
      (CreatePhases.interleaves_statements ps).of_perm (same.symm.map _)
    refine ⟨_, ?_, interleaved, interleaved.perm, fun own mem => interleaved.sublist mem⟩
    have each : List.Forall₂ (fun t p => t ∈ tables ∧ t.createPhases d = .ok p) tables qs :=
      (List.forall₂_and_left _ _).mpr ⟨fun t ht => ht, made⟩
    exact List.forall₂_map_right_iff.mpr (each.imp fun t p ⟨ht, phases⟩ => create_of_createPhases h ht phases)
  · refine ⟨_, _, _, _, _, rfl, interleaves_phase made same fun t p => Table.sequences_of_createPhases,
      forall_mem_phase made same ?_,
      forall_mem_phase made same fun t p phases st => Table.definesTable_of_mem_tables phases,
      interleaves_phase made same fun t p => Table.indexes_of_createPhases,
      interleaves_phase made same fun t p => Table.uniques_of_createPhases,
      interleaves_phase made same fun t p => Table.foreignKeys_of_createPhases, forall_mem_phase made same ?_⟩
    · intro t p phases st hst
      rw [Table.sequences_of_createPhases phases] at hst
      obtain ⟨_, _, _, -, c, -, -, rfl⟩ := Table.mem_createSequences.mp hst
      rfl
    · intro t p phases st hst
      rw [Table.foreignKeys_of_createPhases phases] at hst
      obtain ⟨-, f, -, reference⟩ := Table.adds_of_mem_foreignKeyStatements hst
      rw [reference, Option.isSome_some]

/-- The script that creates a set of tables is made of the scripts that create its tables one by one. -/
theorem script_rearranges {s : Style} {texts : List String} (h : createSql s tables = .ok texts) :
    ∃ script, create s.dialect tables = .ok script ∧ texts = script.map (Statement.sql s) ∧
      Rearranges s.dialect tables script := by
  obtain ⟨script, created, written⟩ := Outcome.map_eq_ok_iff.mp h
  exact ⟨script, created, written.symm, rearranges_of_create created⟩

/-- The tables are created in another order than declared, as the first refers to the second. -/
theorem script_of_orders_rearranges :
    ∃ texts, createSql ⟨.duckdb, false⟩ [orders, people] = .ok texts ∧ texts.length = 5 ∧
      ∃ script, create .duckdb [orders, people] = .ok script ∧ texts = script.map (Statement.sql ⟨.duckdb, false⟩) ∧
        Rearranges .duckdb [orders, people] script := by
  have created : (createSql ⟨.duckdb, false⟩ [orders, people]).map List.length = .ok 5 := by decide +kernel
  obtain ⟨texts, h, five⟩ := Outcome.map_eq_ok_iff.mp created
  have rearranged := script_rearranges h
  exact ⟨texts, h, five, rearranged⟩

end Schema

end SqlSchema
