import SqlSchema.Proofs.Dialect.Known
import SqlSchema.Proofs.Names
import SqlSchema.Proofs.Script.CreationOrder
import SqlSchema.Proofs.Table.Parts

/-!
# Which sets of tables are created

A known dialect creates exactly the `Acceptable` sets of tables, and what it refuses it refuses for a reason that
`ConcernsTables`: the types of columns that edits have made never fail (`createSql_ok_iff_acceptable`).

The last of the conditions, that references form no cycle, is about tables, while the order of creation is found for
their positions; `exists_dependencyOrder_iff` goes from one to the other.
-/

namespace SqlSchema

/-- Whether a reason is about tables, the names in them and the references between them, and not about the type of a
column. -/
def ModelError.ConcernsTables : ModelError → Prop
  | .duplicateTable .. | .tableWithoutColumns .. | .unknownColumn .. | .renderedAlike .. | .identityNotSoleKey ..
  | .unknownReferencedTable .. | .unknownReferencedColumn .. | .foreignKeyCycle .. => True
  | _ => False

namespace Schema

variable {d : Dialect} {tables : List Table}

/-- Whether a table of the set refers to another one. -/
def RefersTo (tables : List Table) (t u : Table) : Prop :=
  t ∈ tables ∧ u ∈ tables ∧ t ≠ u ∧ ∃ f ∈ t.foreignKeys, Text.sameName u.name f.refTable = true

/-- What a set of tables satisfies that the dialect creates. -/
structure Acceptable (d : Dialect) (tables : List Table) : Prop where
  names_apart : NamesApart tables
  has_columns : ∀ t ∈ tables, t.columns ≠ []
  constraint_columns : ∀ t ∈ tables, ∀ k ∈ t.constraints, ∀ n ∈ k.columns, t.Has n
  columns_apart : ∀ t ∈ tables,
    t.columns.Pairwise fun a b => Text.sameName (d.escape a.name) (d.escape b.name) = false
  constraints_apart : ∀ t ∈ tables,
    t.constraints.Pairwise fun a b => Text.sameName (d.escape a.name) (d.escape b.name) = false
  referenced : ∀ t ∈ tables, ∀ f ∈ t.foreignKeys,
    ∃ r ∈ tables, Text.sameName r.name f.refTable = true ∧ ∀ n ∈ f.refColumns, r.Has n
  identity_is_key : d = .sqlite → ∀ t ∈ tables, ∀ c ∈ t.columns, c.isIdentity = true → t.keyColumns = [c]
  no_cycle : d = .sqlite ∨ d = .duckdb → ∀ t, ¬Relation.TransGen (RefersTo tables) t t

/-! ### Positions and tables -/

theorem table?_eq_some_iff (apart : NamesApart tables) {name : String} {t : Table} :
    table? tables name = some t ↔ t ∈ tables ∧ Text.sameName t.name name = true :=
  Text.find?_sameName_eq_some_iff apart

private theorem position?_eq_some_iff (apart : NamesApart tables) {name : String} {i : Nat} {t : Table}
    (ht : tables[i]? = some t) : position? tables name = some i ↔ Text.sameName t.name name = true := by
  obtain ⟨hi, rfl⟩ := List.getElem?_eq_some_iff.mp ht
  constructor
  · intro found
    obtain ⟨r, hr, same⟩ := table?_of_position? found
    rw [ht] at hr
    cases hr
    exact same
  · intro same
    refine List.findIdx?_eq_some_iff_getElem.mpr ⟨hi, same, ?_⟩
    intro j hj taken
    have other := List.pairwise_iff_getElem.mp apart j i (by omega) hi hj
    rw [Text.sameName_comm] at same
    rw [Text.sameName_trans taken same] at other
    cases other

/-- A dependency between positions is a reference between the tables there. -/
private theorem mem_dependencies_iff (apart : NamesApart tables) {i j : Nat} {t u : Table} (ht : tables[i]? = some t)
    (hu : tables[j]? = some u) : j ∈ dependencies tables i ↔ RefersTo tables t u := by
  have distinct : j ≠ i ↔ t ≠ u := by
    constructor
    · rintro other rfl
      obtain ⟨hi, at_i⟩ := List.getElem?_eq_some_iff.mp ht
      obtain ⟨hj, at_j⟩ := List.getElem?_eq_some_iff.mp hu
      have nodup : tables.Nodup := apart.imp fun {a b} h => by
        rintro rfl
        simp at h
      exact other ((List.Nodup.getElem_inj_iff nodup).mp (at_j.trans at_i.symm))
    · rintro other rfl
      rw [ht] at hu
      exact other (Option.some.inj hu)
  rw [mem_dependencies ht, distinct]
  simp only [position?_eq_some_iff apart hu]
  exact ⟨fun ⟨other, refers⟩ => ⟨List.mem_of_getElem? ht, List.mem_of_getElem? hu, other, refers⟩,
    fun ⟨_, _, other, refers⟩ => ⟨other, refers⟩⟩

private theorem refersTo_of_waitsFor (apart : NamesApart tables) {i j : Nat} {t : Table} (ht : tables[i]? = some t)
    (chain : WaitsFor (dependencies tables) i j) :
    ∃ u, tables[j]? = some u ∧ Relation.TransGen (RefersTo tables) t u := by
  induction chain with
  | single dep =>
    have hu := List.getElem?_eq_getElem (dependencies_lt dep)
    exact ⟨_, hu, .single ((mem_dependencies_iff apart ht hu).mp dep)⟩
  | tail _ dep ih =>
    obtain ⟨r, hr, path⟩ := ih
    have hu := List.getElem?_eq_getElem (dependencies_lt dep)
    exact ⟨_, hu, path.tail ((mem_dependencies_iff apart hr hu).mp dep)⟩

private theorem dependency_of_refersTo (apart : NamesApart tables) {t u : Table} (refers : RefersTo tables t u) :
    tables.idxOf u ∈ dependencies tables (tables.idxOf t) := by
  have ⟨ht, hu, _⟩ := refers
  exact (mem_dependencies_iff apart (List.getElem?_idxOf ht) (List.getElem?_idxOf hu)).mpr refers

private theorem waitsFor_of_refersTo (apart : NamesApart tables) {t u : Table}
    (path : Relation.TransGen (RefersTo tables) t u) :
    WaitsFor (dependencies tables) (tables.idxOf t) (tables.idxOf u) := by
  induction path with
  | single refers => exact .single (dependency_of_refersTo apart refers)
  | tail _ refers ih => exact ih.tail (dependency_of_refersTo apart refers)

/-- The positions wait for each other in a cycle exactly when the tables refer to each other in one. -/
private theorem cycle_iff (apart : NamesApart tables) :
    (∃ i < tables.length, WaitsFor (dependencies tables) i i) ↔ ∃ t, Relation.TransGen (RefersTo tables) t t := by
  constructor
  · rintro ⟨i, hi, cycle⟩
    obtain ⟨u, hu, path⟩ := refersTo_of_waitsFor apart (List.getElem?_eq_getElem hi) cycle
    rw [List.getElem?_eq_getElem hi] at hu
    cases hu
    exact ⟨_, path⟩
  · rintro ⟨t, path⟩
    obtain ⟨u, refers, -⟩ := Relation.TransGen.head'_iff.mp path
    exact ⟨tables.idxOf t, List.idxOf_lt_length_of_mem refers.1, waitsFor_of_refersTo apart path⟩

theorem exists_dependencyOrder_iff (apart : NamesApart tables) :
    (∃ order, dependencyOrder tables = .ok order) ↔ ∀ t, ¬Relation.TransGen (RefersTo tables) t t := by
  unfold dependencyOrder
  rw [← not_exists, ← cycle_iff apart, arrange_range_ok_iff fun i _ j dep => dependencies_lt dep]
  simp only [not_exists, not_and]

/-! ### Acceptance -/

private theorem writtenKey_ne_iff {a b : String} :
    d.writtenKey a ≠ d.writtenKey b ↔ Text.sameName (d.escape a) (d.escape b) = false := by
  rw [← Bool.not_eq_true, Text.sameName_iff]
  rfl

/-- The names of the key columns tell which columns they are. -/
private theorem keyColumns_eq_iff {t : Table} {c : Column} (wellFormed : t.WellFormed) (hc : c ∈ t.columns) :
    t.keyColumns.map (·.name) = [c.name] ↔ t.keyColumns = [c] := by
  constructor
  · intro names
    obtain ⟨k, keys, same⟩ := List.map_eq_singleton_iff.mp names
    have hk : k ∈ t.columns := (List.mem_filter.mp (keys ▸ List.mem_singleton_self k : k ∈ t.keyColumns)).1
    have only : k = c := Text.eq_of_sameName wellFormed.columns_apart hk hc (by rw [same, Text.sameName_refl])
    rw [keys, only]
  · intro keys
    rw [keys, List.map_cons, List.map_nil]

private theorem check_eq_ok_of_acceptable (known : d ∈ Dialect.all) (h : Acceptable d tables) :
    check d tables = .ok () := by
  rw [check_eq_ok_iff]
  refine ⟨h.names_apart, fun t ht => ⟨?_, ?_⟩⟩
  · constructor
    · exact h.has_columns t ht
    · exact h.constraint_columns t ht
    · exact List.pairwise_map.mpr ((h.columns_apart t ht).imp writtenKey_ne_iff.mpr)
    · exact List.pairwise_map.mpr ((h.constraints_apart t ht).imp writtenKey_ne_iff.mpr)
    · intro rowid c hc numbered
      rw [h.identity_is_key ((Dialect.identity_eq_rowid_iff known).mp rowid) t ht c hc numbered]
      rfl
  · intro f hf
    obtain ⟨r, hr, same, columns⟩ := h.referenced t ht f hf
    exact ⟨r, (table?_eq_some_iff h.names_apart).mpr ⟨hr, same⟩, columns⟩

theorem creationOrder_ok_iff (known : d ∈ Dialect.all) (apart : NamesApart tables) :
    (∃ ordered, creationOrder d tables = .ok ordered) ↔
      (d = .sqlite ∨ d = .duckdb → ∀ t, ¬Relation.TransGen (RefersTo tables) t t) := by
  rw [← Dialect.foreignKey_eq_inline_iff known, ← exists_dependencyOrder_iff apart]
  unfold creationOrder
  split
  · rename_i inline
    split
    · rename_i order arranged
      simp [inline, arranged]
    · rename_i stuck arranged
      simp [inline, arranged]
  · rename_i apart_from_it
    simp [apart_from_it]

/-- Columns that edits have made always have a definition. -/
theorem exists_createPhases (known : d ∈ Dialect.all) {t : Table} (wellFormed : t.WellFormed) :
    ∃ phases, t.createPhases d = .ok phases := by
  -- only the type of a column can fail, and suitable parameters are all that it takes
  have definitions : ∀ c ∈ t.columns, ∃ definition, c.definition d t.name false = .ok definition := by
    intro c hc
    obtain ⟨text, clause⟩ := Dialect.exists_typeClause known (wellFormed.columns_wellFormed c hc).params_suitable
    have type : ∃ type, c.typePart d = .ok type := by
      unfold Column.typePart
      split
      · exact ⟨_, rfl⟩
      · exact ⟨_, rfl⟩
      · exact ⟨.clause text, Outcome.map_eq_ok_iff.mpr ⟨text, clause, rfl⟩⟩
    obtain ⟨type, found⟩ := type
    exact ⟨_, Outcome.bind_eq_ok_iff.mpr ⟨type, found, rfl⟩⟩
  obtain ⟨ds, defined⟩ := Outcome.exists_mapM_eq_ok definitions
  exact ⟨_, Outcome.bind_eq_ok_iff.mpr ⟨ds, defined, rfl⟩⟩

theorem create_ok_iff (known : d ∈ Dialect.all) (made : ∀ t ∈ tables, t.Reachable) :
    (∃ script, create d tables = .ok script) ↔ Acceptable d tables := by
  constructor
  · rintro ⟨script, created⟩
    obtain ⟨checked, ordered, ps, order, -, -⟩ := exists_of_create created
    obtain ⟨apart, each⟩ := check_eq_ok_iff.mp checked
    constructor
    · exact apart
    · exact fun t ht => (each t ht).1.has_columns
    · exact fun t ht => (each t ht).1.constraint_columns
    · exact fun t ht => (List.pairwise_map.mp (each t ht).1.columns_apart).imp writtenKey_ne_iff.mp
    · exact fun t ht => (List.pairwise_map.mp (each t ht).1.constraints_apart).imp writtenKey_ne_iff.mp
    · intro t ht f hf
      obtain ⟨r, found, columns⟩ := (each t ht).2 f hf
      exact ⟨r, (mem_of_table? found).1, (mem_of_table? found).2, columns⟩
    · intro sqlite t ht c hc numbered
      have rowid := (Dialect.identity_eq_rowid_iff known).mpr sqlite
      exact (keyColumns_eq_iff (made t ht).wellFormed hc).mp ((each t ht).1.rowid_is_key rowid c hc numbered)
    · exact (creationOrder_ok_iff known apart).mp ⟨ordered, order⟩
  · intro h
    have checked := check_eq_ok_of_acceptable known h
    obtain ⟨ordered, order⟩ := (creationOrder_ok_iff known h.names_apart).mpr h.no_cycle
    have phases : ∀ t ∈ ordered, ∃ phases, t.createPhases d = .ok phases := by
      intro t ht
      have wellFormed := (made t ((creationOrder_perm order).mem_iff.mp ht)).wellFormed
      exact exists_createPhases known wellFormed
    obtain ⟨ps, created⟩ := Outcome.exists_mapM_eq_ok phases
    refine ⟨CreatePhases.statements ps, ?_⟩
    unfold create
    rw [Outcome.then_eq_ok_iff, Outcome.bind_eq_ok_iff]
    exact ⟨checked, ordered, order, Outcome.bind_eq_ok_iff.mpr ⟨ps, created, rfl⟩⟩

/-! ### Refusal -/

private theorem concernsTables_of_checkTable {t : Table} {why : ModelError} (h : d.checkTable t = .error why) :
    why.ConcernsTables := by
  unfold Dialect.checkTable at h
  rw [Outcome.guard_eq_error_iff] at h
  simp only [Outcome.bind_eq_error_iff] at h
  rcases h with ⟨-, rfl⟩ | ⟨-, h | ⟨-, -, h | ⟨-, -, h | ⟨-, -, h⟩⟩⟩⟩
  · trivial
  · obtain ⟨k, -, h⟩ := Outcome.exists_of_forM_eq_error h
    obtain ⟨n, -, h⟩ := Outcome.exists_of_forM_eq_error h
    split at h <;> cases h
    trivial
  · unfold Dialect.checkWritten at h
    split at h <;> cases h
    trivial
  · unfold Dialect.checkWritten at h
    split at h <;> cases h
    trivial
  · unfold Dialect.checkRowIdentity at h
    split at h
    · obtain ⟨c, -, h⟩ := Outcome.exists_of_forM_eq_error h
      split at h <;> cases h
      trivial
    · cases h

private theorem concernsTables_of_checkForeignKey {t : Table} {f : ForeignKey} {why : ModelError}
    (h : checkForeignKey tables t f = .error why) : why.ConcernsTables := by
  unfold checkForeignKey at h
  split at h
  · cases h
    trivial
  · obtain ⟨n, -, h⟩ := Outcome.exists_of_forM_eq_error h
    split at h <;> cases h
    trivial

private theorem concernsTables_of_checkNamesFrom {seen : List String} {why : ModelError}
    (h : checkNamesFrom seen tables = .error why) : why.ConcernsTables := by
  induction tables generalizing seen with
  | nil => cases h
  | cons t rest ih =>
    unfold checkNamesFrom at h
    split at h
    · cases h
      trivial
    · exact ih h

theorem concernsTables_of_check {why : ModelError} (h : check d tables = .error why) : why.ConcernsTables := by
  unfold check at h
  rcases Outcome.bind_eq_error_iff.mp h with h | ⟨-, -, h⟩
  · exact concernsTables_of_checkNamesFrom h
  · obtain ⟨t, -, h⟩ := Outcome.exists_of_forM_eq_error h
    rcases Outcome.bind_eq_error_iff.mp h with h | ⟨-, -, h⟩
    · exact concernsTables_of_checkTable h
    · obtain ⟨f, -, h⟩ := Outcome.exists_of_forM_eq_error h
      exact concernsTables_of_checkForeignKey h

/-- No refusal comes from the type of a column. -/
theorem concernsTables_of_create (known : d ∈ Dialect.all) (made : ∀ t ∈ tables, t.Reachable) {why : ModelError}
    (h : create d tables = .error why) : why.ConcernsTables := by
  unfold create at h
  simp only [Outcome.bind_eq_error_iff] at h
  rcases h with h | ⟨-, -, h | ⟨ordered, order, h | ⟨-, -, ⟨⟩⟩⟩⟩
  · exact concernsTables_of_check h
  · unfold creationOrder at h
    split at h
    · split at h <;> cases h
      trivial
    · cases h
  · -- that the phases of a table cannot be made does not come up
    obtain ⟨t, ht, h⟩ := Outcome.exists_of_mapM_eq_error h
    have wellFormed := (made t ((creationOrder_perm order).mem_iff.mp ht)).wellFormed
    obtain ⟨phases, created⟩ := exists_createPhases known wellFormed
    rw [created] at h
    cases h

/-- A known dialect creates a set of tables exactly when it is acceptable, and refuses any other for a reason that
concerns its tables; that a column has no definition does not come up. -/
theorem createSql_ok_iff_acceptable {s : Style} (known : s.dialect ∈ Dialect.all)
    (made : ∀ t ∈ tables, t.Reachable) :
    ((∃ texts, createSql s tables = .ok texts) ↔ Acceptable s.dialect tables) ∧
      (¬Acceptable s.dialect tables → ∃ why, createSql s tables = .error why ∧ why.ConcernsTables) ∧
      ∀ t ∈ tables, ∃ phases, t.createPhases s.dialect = .ok phases := by
  refine ⟨?_, ?_, fun t ht => exists_createPhases known (made t ht).wellFormed⟩
  · rw [← create_ok_iff known made]
    simp only [createSql, Outcome.map_eq_ok_iff]
    constructor
    · rintro ⟨-, script, created, -⟩
      exact ⟨script, created⟩
    · rintro ⟨script, created⟩
      exact ⟨_, script, created, rfl⟩
  · intro unacceptable
    cases h : create s.dialect tables with
    | ok script => exact absurd ((create_ok_iff known made).mp ⟨script, h⟩) unacceptable
    | error why =>
      exact ⟨why, Outcome.map_eq_error_iff.mpr h, concernsTables_of_create known made h⟩

theorem orders_acceptable :
    (∃ texts, createSql ⟨.sqlite, true⟩ [orders, people] = .ok texts) ∧ Acceptable .sqlite [orders, people] := by
  have known : Dialect.sqlite ∈ Dialect.all := by decide +kernel
  have made : ∀ t ∈ [orders, people], t.Reachable := by decide +kernel
  have created : (createSql ⟨.sqlite, true⟩ [orders, people]).map List.length = .ok 3 := by decide +kernel
  obtain ⟨texts, h, -⟩ := Outcome.map_eq_ok_iff.mp created
  have ⟨accepted, _⟩ := createSql_ok_iff_acceptable (s := ⟨.sqlite, true⟩) known made
  exact ⟨⟨texts, h⟩, accepted.mp ⟨texts, h⟩⟩

end Schema

end SqlSchema
