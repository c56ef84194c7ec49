import SqlSchema.Dialect.Registry
import SqlSchema.Dialect.Spelling
import SqlSchema.Proofs.Evaluation

/-!
# What the known dialects have in common

Every known dialect has a rule for every column type (`exists_typeRule?`), so a type with suitable parameters always
has a type clause (`exists_typeClause`). Only SQLite numbers rows by making a column a name of the row number
(`identity_eq_rowid_iff`), and only SQLite and DuckDB declare foreign keys in the definition of a table
(`foreignKey_eq_inline_iff`).
-/

namespace SqlSchema

/-- The statement that creates the sequence of an identity column, if there is one. -/
def Identity.create? : Identity → Option String
  | .sequence create _ _ => some create
  | _ => none

namespace Dialect

variable {d : Dialect}

/-- The overrides of a dialect take no type away. -/
theorem exists_typeRule?_of_mem {r : TypeRule} (h : r ∈ d.types) : ∃ rule, d.typeRule? r.type = some rule := by
  rw [← Option.isSome_iff_exists, typeRule?, List.find?_isSome]
  by_cases overridden : d.typeOverrides.any fun o => o.type = r.type
  · obtain ⟨o, ho, same⟩ := List.any_eq_true.mp overridden
    exact ⟨o, List.mem_append_left _ ho, same⟩
  · refine ⟨r, List.mem_append_right _ (List.mem_filter.mpr ⟨h, ?_⟩), by simp⟩
    simpa using overridden

theorem exists_rulesOf (known : d ∈ all) : ∃ spelling overflow, d.types = rulesOf spelling overflow := by
  simp only [all, List.mem_cons, List.not_mem_nil, or_false] at known
  rcases known with rfl | rfl | rfl | rfl | rfl | rfl | rfl | rfl | rfl | rfl | rfl | rfl | rfl | rfl | rfl <;>
    exact ⟨_, _, rfl⟩

theorem exists_typeRule? (known : d ∈ all) (t : ColumnType) : ∃ rule, d.typeRule? t = some rule := by
  obtain ⟨spelling, overflow, types⟩ := exists_rulesOf known
  have rule := exists_rule_rulesOf spelling overflow t
  rw [← types] at rule
  exact exists_typeRule?_of_mem rule

theorem exists_typeClause (known : d ∈ all) {t : ColumnType} {p : TypeParams} (suitable : p.Suitable t) :
    ∃ text, d.typeClause t p = .ok text := by
  obtain ⟨rule, found⟩ := exists_typeRule? known t
  exact ⟨_, typeClause_eq_ok_iff.mpr ⟨suitable, rule, found, rfl⟩⟩

theorem identity_eq_rowid_iff (known : d ∈ all) : d.identity = .rowid ↔ d = .sqlite := by
  have each : ∀ d ∈ all, d.identity = .rowid ↔ d = .sqlite := by decide +kernel
  exact each d known

theorem foreignKey_eq_inline_iff (known : d ∈ all) : d.foreignKey = .inline ↔ d = .sqlite ∨ d = .duckdb := by
  have each : ∀ d ∈ all, d.foreignKey = .inline ↔ d = .sqlite ∨ d = .duckdb := by decide +kernel
  exact each d known

end Dialect

end SqlSchema
