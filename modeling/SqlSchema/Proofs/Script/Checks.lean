import Mathlib.Data.List.Pairwise
import SqlSchema.Proofs.Outcome
import SqlSchema.Script.Check

/-!
# What the checks of tables find

A table passes the checks of a dialect exactly when it is `Creatable` (`checkTable_eq_ok_iff`), and a set of tables
passes them exactly when its names differ, each table is creatable and each foreign key finds its table and columns in
the set (`Schema.check_eq_ok_iff`).
-/

namespace SqlSchema

/-- No name clashes exactly when the key tells all of them apart, from each other and from those seen before. -/
theorem clashFrom?_eq_none_iff {key : String → String} {seen names : List String} :
    clashFrom? key seen names = none ↔
      names.Pairwise (fun a b => key a ≠ key b) ∧ ∀ a ∈ seen, ∀ b ∈ names, key a ≠ key b := by
  induction names generalizing seen with
  | nil => simp [clashFrom?]
  | cons n rest ih =>
    unfold clashFrom?
    split
    · rename_i earlier found
      have clash : key earlier = key n := by simpa using List.find?_some found
      have before : earlier ∈ seen := List.mem_of_find?_eq_some found
      simp only [reduceCtorEq, false_iff, not_and]
      intro _ apart
      exact apart earlier before n (by simp) clash
    · rename_i none_found
      have fresh : ∀ a ∈ seen, key a ≠ key n := by
        intro a ha
        simpa using List.find?_eq_none.mp none_found a ha
      rw [ih, List.pairwise_cons]
      constructor
      · rintro ⟨apart, earlier⟩
        refine ⟨⟨fun b hb => earlier n (by simp) b hb, apart⟩, ?_⟩
        intro a ha b hb
        rcases List.mem_cons.mp hb with rfl | hb
        · exact fresh a ha
        · exact earlier a (by simp [ha]) b hb
      · rintro ⟨⟨first, apart⟩, earlier⟩
        refine ⟨apart, ?_⟩
        intro a ha b hb
        rcases List.mem_append.mp ha with ha | ha
        · exact earlier a ha b (by simp [hb])
        · rw [List.mem_singleton] at ha
          subst ha
          exact first b hb

namespace Table

/-- Whether the table has a column of that name, case aside. -/
def Has (t : Table) (name : String) : Prop := ∃ c ∈ t.columns, Text.sameName c.name name = true

theorem isSome_column?_iff {t : Table} {name : String} : (t.column? name).isSome = true ↔ t.Has name := by
  simp [column?, Has]

/-- A check for columns goes through if the table has them all. -/
theorem forM_column?_eq_ok_iff {t : Table} {names : List String} {why : String → ModelError} :
    (names.forM fun n => if (t.column? n).isSome then (.ok () : Except ModelError Unit) else .error (why n)) = .ok () ↔
      ∀ n ∈ names, t.Has n := by
  rw [Outcome.forM_eq_ok_iff]
  simp only [← isSome_column?_iff]
  refine forall₂_congr fun n _ => ?_
  split <;> simp_all

/-- What a table satisfies that a dialect creates. -/
structure Creatable (d : Dialect) (t : Table) : Prop where
  has_columns : t.columns ≠ []
  constraint_columns : ∀ k ∈ t.constraints, ∀ n ∈ k.columns, t.Has n
  columns_apart : (t.columns.map (·.name)).Pairwise fun a b => d.writtenKey a ≠ d.writtenKey b
  constraints_apart : (t.constraints.map (·.name)).Pairwise fun a b => d.writtenKey a ≠ d.writtenKey b
  rowid_is_key : d.identity = .rowid → ∀ c ∈ t.columns, c.isIdentity = true → t.keyColumns.map (·.name) = [c.name]

end Table

namespace Dialect

variable {d : Dialect} {t : Table}

theorem checkWritten_eq_ok_iff {kind : String} {names : List String} :
    d.checkWritten t.name kind names = .ok () ↔ names.Pairwise fun a b => d.writtenKey a ≠ d.writtenKey b := by
  have none_seen : clashFrom? d.writtenKey [] names = none ↔
      names.Pairwise fun a b => d.writtenKey a ≠ d.writtenKey b := by
    rw [clashFrom?_eq_none_iff]
    simp
  rw [← none_seen]
  unfold checkWritten
  split <;> simp_all

theorem checkLocalColumns_eq_ok_iff {k : Table.Declared} :
    checkLocalColumns t k = .ok () ↔ ∀ n ∈ k.columns, t.Has n :=
  Table.forM_column?_eq_ok_iff

theorem checkRowIdentity_eq_ok_iff :
    d.checkRowIdentity t = .ok () ↔
      (d.identity = .rowid → ∀ c ∈ t.columns, c.isIdentity = true → t.keyColumns.map (·.name) = [c.name]) := by
  unfold checkRowIdentity
  split
  · rename_i rowid
    rw [Outcome.forM_eq_ok_iff]
    simp only [rowid, List.mem_filter, and_imp, true_implies]
    refine forall₃_congr fun c _ _ => ?_
    split <;> simp_all
  · rename_i other
    simp [other]

theorem checkTable_eq_ok_iff : d.checkTable t = .ok () ↔ t.Creatable d := by
  unfold checkTable
  rw [Outcome.guard_eq_ok_iff]
  simp only [Outcome.then_eq_ok_iff, Outcome.forM_eq_ok_iff, checkLocalColumns_eq_ok_iff, checkWritten_eq_ok_iff,
    checkRowIdentity_eq_ok_iff, List.isEmpty_iff]
  exact ⟨fun ⟨columns, locals, names, constraints, rowid⟩ => ⟨columns, locals, names, constraints, rowid⟩,
    fun ⟨columns, locals, names, constraints, rowid⟩ => ⟨columns, locals, names, constraints, rowid⟩⟩

end Dialect

theorem checkReferences_eq_ok_iff {target : Table} {f : ForeignKey} :
    checkReferences target f = .ok () ↔ ∀ n ∈ f.refColumns, target.Has n :=
  Table.forM_column?_eq_ok_iff

namespace Schema

variable {d : Dialect} {tables : List Table}

theorem checkNamesFrom_eq_ok_iff {seen : List String} :
    checkNamesFrom seen tables = .ok () ↔
      tables.Pairwise (fun t u => Text.sameName t.name u.name = false) ∧
        ∀ n ∈ seen, ∀ t ∈ tables, Text.sameName n t.name = false := by
  induction tables generalizing seen with
  | nil => simp [checkNamesFrom]
  | cons t rest ih =>
    unfold checkNamesFrom
    split
    · rename_i taken
      obtain ⟨n, hn, same⟩ := List.any_eq_true.mp taken
      simp only [reduceCtorEq, false_iff, not_and]
      intro _ apart
      have := apart n hn t (by simp)
      simp [same] at this
    · rename_i free
      have fresh : ∀ n ∈ seen, Text.sameName n t.name = false := by simpa using free
      rw [ih, List.pairwise_cons]
      constructor
      · rintro ⟨apart, earlier⟩
        refine ⟨⟨fun u hu => earlier t.name (by simp) u hu, apart⟩, ?_⟩
        intro n hn u hu
        rcases List.mem_cons.mp hu with rfl | hu
        · exact fresh n hn
        · exact earlier n (by simp [hn]) u hu
      · rintro ⟨⟨first, apart⟩, earlier⟩
        refine ⟨apart, ?_⟩
        intro n hn u hu
        rcases List.mem_append.mp hn with hn | hn
        · exact earlier n hn u (by simp [hu])
        · rw [List.mem_singleton] at hn
          subst hn
          exact first u hu

/-- Whether no two tables have the same name. -/
def NamesApart (tables : List Table) : Prop := tables.Pairwise fun t u => Text.sameName t.name u.name = false

theorem checkNames_eq_ok_iff : checkNames tables = .ok () ↔ NamesApart tables := by
  unfold checkNames NamesApart
  rw [checkNamesFrom_eq_ok_iff]
  simp

theorem checkForeignKey_eq_ok_iff {t : Table} {f : ForeignKey} :
    checkForeignKey tables t f = .ok () ↔ ∃ r, table? tables f.refTable = some r ∧ ∀ n ∈ f.refColumns, r.Has n := by
  unfold checkForeignKey
  split
  · rename_i missing
    simp [missing]
  · rename_i target found
    simp [found, checkReferences_eq_ok_iff]

theorem check_eq_ok_iff :
    check d tables = .ok () ↔ NamesApart tables ∧ ∀ t ∈ tables, t.Creatable d ∧
      ∀ f ∈ t.foreignKeys, ∃ r, table? tables f.refTable = some r ∧ ∀ n ∈ f.refColumns, r.Has n := by
  unfold check
  rw [Outcome.then_eq_ok_iff, Outcome.forM_eq_ok_iff, checkNames_eq_ok_iff]
  simp only [Outcome.then_eq_ok_iff, Outcome.forM_eq_ok_iff, Dialect.checkTable_eq_ok_iff,
    checkForeignKey_eq_ok_iff]

/-! ### Tables by name -/

theorem mem_of_table? {name : String} {t : Table} (h : table? tables name = some t) :
    t ∈ tables ∧ Text.sameName t.name name = true :=
  ⟨List.mem_of_find?_eq_some h, by simpa using List.find?_some h⟩

end Schema

end SqlSchema
