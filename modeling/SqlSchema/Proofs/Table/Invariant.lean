import SqlSchema.Proofs.Outcome
import SqlSchema.Table

/-!
# What edits keep true of a table

Every table that edits make is `WellFormed` (`Reachable.wellFormed`): its columns are well-formed and have different
names, and so have its constraints, none of which has the name of the table or is about no columns. An edit succeeds
exactly when the column is new and well-formed (`addColumn_eq_ok_iff`) or the table `Admits` the constraint
(`addForeignKey_eq_ok_iff` and the like).
-/

namespace SqlSchema.Table

variable {t changed : Table}

/-- What a further constraint of a table satisfies. -/
structure Admits (t : Table) (k : Declared) : Prop where
  name_valid : Identifier.Valid k.name
  not_table : Text.sameName k.name t.name = false
  name_free : ∀ other ∈ t.constraints, Text.sameName other.name k.name = false
  has_columns : k.columns ≠ []
  columns_valid : ∀ n ∈ k.columns, Identifier.Valid n

/-- The two sides of a foreign key fit together. -/
structure RefersProperly (f : ForeignKey) : Prop where
  table_valid : Identifier.Valid f.refTable
  arity : f.columns.length = f.refColumns.length

theorem addColumn_eq_ok_iff {c : Column} :
    t.addColumn c = .ok changed ↔ (∀ other ∈ t.columns, Text.sameName other.name c.name = false) ∧ c.WellFormed ∧
      changed = { t with columns := t.columns ++ [c] } := by
  unfold addColumn column?
  rw [Outcome.guard_eq_ok_iff, Outcome.then_eq_ok_iff, Column.accept_eq_ok_iff, Except.ok.injEq, eq_comm (b := changed)]
  simp

private theorem checkConstraintName_eq_ok_iff {kind : ConstraintKind} {name : String} :
    t.checkConstraintName kind name = .ok () ↔ Identifier.Valid name ∧ Text.sameName name t.name = false ∧
      ∀ other ∈ t.constraints, Text.sameName other.name name = false := by
  unfold checkConstraintName
  rw [Outcome.then_eq_ok_iff, Identifier.check_eq_ok_iff]
  refine and_congr_right fun _ => ?_
  split
  · rename_i taken
    rw [Bool.or_eq_true, List.any_eq_true] at taken
    simp only [reduceCtorEq, false_iff, not_and]
    intro other free
    rcases taken with same | ⟨k, mem, same⟩
    · rw [other] at same
      exact absurd same (by decide)
    · rw [free k mem] at same
      exact absurd same (by decide)
  · rename_i free
    simpa using free

private theorem checkColumnList_eq_ok_iff {kind : ConstraintKind} {name : String} {columns : List String} :
    t.checkColumnList kind name columns = .ok () ↔ columns ≠ [] ∧ ∀ n ∈ columns, Identifier.Valid n := by
  unfold checkColumnList
  split
  · simp_all
  · rename_i some_columns
    rw [Outcome.forM_eq_ok_iff]
    simp only [Identifier.check_eq_ok_iff]
    simp_all

/-- The two checks that any constraint goes through. -/
private theorem admits_iff {k : Declared} :
    t.checkConstraintName k.kind k.name = .ok () ∧ t.checkColumnList k.kind k.name k.columns = .ok () ↔
      t.Admits k := by
  rw [checkConstraintName_eq_ok_iff, checkColumnList_eq_ok_iff]
  exact ⟨fun ⟨⟨valid, table, free⟩, columns, names⟩ => ⟨valid, table, free, columns, names⟩,
    fun ⟨valid, table, free, columns, names⟩ => ⟨⟨valid, table, free⟩, columns, names⟩⟩

theorem addForeignKey_eq_ok_iff {f : ForeignKey} :
    t.addForeignKey f = .ok changed ↔ t.Admits ⟨.foreignKey, f.name, f.columns⟩ ∧ RefersProperly f ∧
      changed = { t with foreignKeys := t.foreignKeys ++ [f] } := by
  unfold addForeignKey
  rw [Outcome.then_eq_ok_iff, Outcome.then_eq_ok_iff, Outcome.then_eq_ok_iff, Outcome.guard_eq_ok_iff,
    Identifier.check_eq_ok_iff, ← and_assoc, ← admits_iff, Except.ok.injEq]
  constructor
  · rintro ⟨checked, table, arity, rfl⟩
    exact ⟨checked, ⟨table, by simpa using arity⟩, rfl⟩
  · rintro ⟨checked, ⟨table, arity⟩, rfl⟩
    exact ⟨checked, table, by simpa using arity, rfl⟩

theorem addIndex_eq_ok_iff {i : Index} :
    t.addIndex i = .ok changed ↔ t.Admits ⟨.index, i.name, i.columns⟩ ∧
      changed = { t with indexes := t.indexes ++ [i] } := by
  unfold addIndex
  rw [Outcome.then_eq_ok_iff, Outcome.then_eq_ok_iff, ← and_assoc, ← admits_iff, Except.ok.injEq]
  exact and_congr_right fun _ => eq_comm

theorem addUnique_eq_ok_iff {u : Unique} :
    t.addUnique u = .ok changed ↔ t.Admits ⟨.unique, u.name, u.columns⟩ ∧
      changed = { t with uniques := t.uniques ++ [u] } := by
  unfold addUnique
  rw [Outcome.then_eq_ok_iff, Outcome.then_eq_ok_iff, ← and_assoc, ← admits_iff, Except.ok.injEq]
  exact and_congr_right fun _ => eq_comm

/-- What edits keep true of a table. -/
structure WellFormed (t : Table) : Prop where
  name_valid : Identifier.Valid t.name
  columns_wellFormed : ∀ c ∈ t.columns, c.WellFormed
  columns_apart : t.columns.Pairwise fun a b => Text.sameName a.name b.name = false
  constraint_valid : ∀ k ∈ t.constraints, Identifier.Valid k.name ∧ Text.sameName k.name t.name = false
  constraint_columns : ∀ k ∈ t.constraints, k.columns ≠ [] ∧ ∀ n ∈ k.columns, Identifier.Valid n
  constraints_apart : t.constraints.Pairwise fun a b => Text.sameName a.name b.name = false
  references : ∀ f ∈ t.foreignKeys, RefersProperly f

theorem wellFormed_of_new? {name : String} (h : new? name = .ok t) : t.WellFormed := by
  unfold new? at h
  rw [Outcome.then_eq_ok_iff, Identifier.check_eq_ok_iff] at h
  obtain ⟨valid, made⟩ := h
  cases made
  exact ⟨valid, by simp, by simp, by simp [constraints], by simp [constraints], by simp [constraints], by simp⟩

theorem new?_of_valid {name : String} (valid : Identifier.Valid name) : new? name = .ok { name } := by
  unfold new?
  rw [Outcome.then_eq_ok_iff, Identifier.check_eq_ok_iff]
  exact ⟨valid, rfl⟩

/-! ### The constraints and a further one -/

theorem constraints_perm_of_foreignKey (f : ForeignKey) :
    (constraints { t with foreignKeys := t.foreignKeys ++ [f] }).Perm
      (⟨.foreignKey, f.name, f.columns⟩ :: t.constraints) := by
  simp only [constraints, List.map_append, List.map_cons, List.map_nil, List.append_assoc]
  exact List.perm_middle

theorem constraints_perm_of_index (i : Index) :
    (constraints { t with indexes := t.indexes ++ [i] }).Perm (⟨.index, i.name, i.columns⟩ :: t.constraints) := by
  simp only [constraints, List.map_append, List.map_cons, List.map_nil, List.append_assoc, List.singleton_append]
  rw [← List.append_assoc, ← List.append_assoc]
  exact List.perm_middle

theorem constraints_perm_of_unique (u : Unique) :
    (constraints { t with uniques := t.uniques ++ [u] }).Perm (⟨.unique, u.name, u.columns⟩ :: t.constraints) := by
  simp only [constraints, List.map_append, List.map_cons, List.map_nil]
  rw [← List.append_assoc]
  exact List.perm_append_singleton _ _

/-- A further constraint keeps the constraints in order, wherever among the others it comes to stand. -/
private theorem WellFormed.of_admits {k : Declared} (h : t.WellFormed) (admitted : t.Admits k)
    (name : changed.name = t.name) (columns : changed.columns = t.columns)
    (perm : changed.constraints.Perm (k :: t.constraints)) (references : ∀ f ∈ changed.foreignKeys, RefersProperly f) :
    changed.WellFormed where
  name_valid := name ▸ h.name_valid
  columns_wellFormed := columns ▸ h.columns_wellFormed
  columns_apart := columns ▸ h.columns_apart
  constraint_valid := by
    intro other mem
    rw [name]
    rcases List.mem_cons.mp (perm.mem_iff.mp mem) with rfl | mem
    · exact ⟨admitted.name_valid, admitted.not_table⟩
    · exact h.constraint_valid other mem
  constraint_columns := by
    intro other mem
    rcases List.mem_cons.mp (perm.mem_iff.mp mem) with rfl | mem
    · exact ⟨admitted.has_columns, admitted.columns_valid⟩
    · exact h.constraint_columns other mem
  constraints_apart := by
    rw [perm.pairwise_iff fun {a b} apart => by rwa [Text.sameName_comm], List.pairwise_cons]
    refine ⟨fun other mem => ?_, h.constraints_apart⟩
    rw [Text.sameName_comm]
    exact admitted.name_free other mem
  references := references

theorem WellFormed.addColumn {c : Column} (h : t.WellFormed) (added : t.addColumn c = .ok changed) :
    changed.WellFormed := by
  obtain ⟨fresh, valid, rfl⟩ := addColumn_eq_ok_iff.mp added
  refine ⟨h.name_valid, ?_, ?_, h.constraint_valid, h.constraint_columns, h.constraints_apart, h.references⟩
  · intro other mem
    rcases List.mem_append.mp mem with mem | mem
    · exact h.columns_wellFormed other mem
    · rw [List.mem_singleton] at mem
      exact mem ▸ valid
  · rw [List.pairwise_append]
    refine ⟨h.columns_apart, List.pairwise_singleton _ _, ?_⟩
    intro other mem c' mem'
    rw [List.mem_singleton] at mem'
    exact mem' ▸ fresh other mem

theorem WellFormed.addForeignKey {f : ForeignKey} (h : t.WellFormed) (added : t.addForeignKey f = .ok changed) :
    changed.WellFormed := by
  obtain ⟨admitted, proper, rfl⟩ := addForeignKey_eq_ok_iff.mp added
  refine h.of_admits admitted rfl rfl (constraints_perm_of_foreignKey f) ?_
  intro other mem
  rcases List.mem_append.mp mem with mem | mem
  · exact h.references other mem
  · rw [List.mem_singleton] at mem
    exact mem ▸ proper

theorem WellFormed.addIndex {i : Index} (h : t.WellFormed) (added : t.addIndex i = .ok changed) :
    changed.WellFormed := by
  obtain ⟨admitted, rfl⟩ := addIndex_eq_ok_iff.mp added
  exact h.of_admits admitted rfl rfl (constraints_perm_of_index i) h.references

theorem WellFormed.addUnique {u : Unique} (h : t.WellFormed) (added : t.addUnique u = .ok changed) :
    changed.WellFormed := by
  obtain ⟨admitted, rfl⟩ := addUnique_eq_ok_iff.mp added
  exact h.of_admits admitted rfl rfl (constraints_perm_of_unique u) h.references

/-- One successful edit. -/
theorem WellFormed.edit? {e : TableEdit} (h : t.WellFormed) (edited : t.edit? e = .ok changed) :
    changed.WellFormed := by
  cases e with
  | column c => exact h.addColumn edited
  | foreignKey f => exact h.addForeignKey edited
  | index i => exact h.addIndex edited
  | unique u => exact h.addUnique edited
  | comment text =>
    cases edited
    exact ⟨h.1, h.2, h.3, h.4, h.5, h.6, h.7⟩
  | tail text =>
    cases edited
    exact ⟨h.1, h.2, h.3, h.4, h.5, h.6, h.7⟩

private theorem Reachable.foldlM {edits : List TableEdit} (h : Reachable t)
    (made : edits.foldlM edit? t = .ok changed) : Reachable changed := by
  induction edits generalizing t with
  | nil =>
    cases made
    exact h
  | cons e edits ih =>
    rw [List.foldlM_cons, Outcome.bind_eq_ok_iff] at made
    obtain ⟨next, edited, made⟩ := made
    refine ih ?_ made
    rw [← edit_of_ok edited]
    exact h.edit e

theorem reachable_of_build? (name : String) (edits : List TableEdit) (made : build? name edits = .ok t) :
    Reachable t := by
  obtain ⟨start, new, made⟩ := Outcome.bind_eq_ok_iff.mp made
  exact (Reachable.new new).foldlM made

/-- Edits, refused ones among them, make well-formed tables only. -/
theorem Reachable.wellFormed (h : Reachable t) : t.WellFormed := by
  induction h with
  | new h => exact wellFormed_of_new? h
  | @edit t _ e ih =>
    cases edited : t.edit? e with
    | ok changed =>
      rw [edit_of_ok edited]
      exact ih.edit? edited
    | error why =>
      -- a refused edit leaves the table as it was
      rw [edit_of_error edited]
      exact ih

end SqlSchema.Table
