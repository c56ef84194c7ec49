import SqlSchema.Dialect.Server
import SqlSchema.Proofs.Interleaving
import SqlSchema.Proofs.Script.Acceptance
import SqlSchema.Script.Drop

/-!
# Dropping several tables

Any set of tables can be dropped, whether or not it can be created. The script holds what the scripts of the single
tables hold and leaves nothing behind that they have (`Table.DroppedBy`). Foreign keys are dropped before indexes,
indexes before tables and tables before sequences; and if tables have different names and do not refer to each other in
a cycle, a table is dropped before those to which it refers (`dropSql_orderly`).
-/

namespace SqlSchema

/-- What a statement drops: a foreign key, an index or a unique constraint, a table, or a sequence. -/
inductive Dropped where
  | foreignKey | index | table | sequence
deriving DecidableEq, Repr

namespace Statement

/-- What a statement drops, if it drops something beside a column. -/
def dropped? : Statement → Option Dropped
  | .dropForeignKey .. => some .foreignKey
  | .dropIndex .. | .dropUnique .. => some .index
  | .dropTable .. => some .table
  | .dropSequence .. => some .sequence
  | _ => none

end Statement

namespace Table

variable {d : Dialect} {t : Table} {st : Statement}

/-- The statements that drop a table and what was created for it by statements of its own. -/
inductive DroppedBy (d : Dialect) (t : Table) : Statement → Prop where
  | foreignKey {add drop : String} (placed : d.foreignKey = .alter add drop) {f : ForeignKey}
      (mem : f ∈ t.foreignKeys) : DroppedBy d t (.dropForeignKey drop t.name f.name)
  | index {i : Index} (mem : i ∈ t.indexes) : DroppedBy d t (.dropIndex d.dropIndex t.name i.name)
  | unique {add drop : String} (placed : d.unique = .alter add drop) {u : Unique} (mem : u ∈ t.uniques) :
      DroppedBy d t (.dropUnique drop t.name u.name)
  /-- The index that stands in for a unique constraint. -/
  | uniqueIndex (placed : d.unique = .index) {u : Unique} (mem : u ∈ t.uniques) :
      DroppedBy d t (.dropIndex d.dropIndex t.name u.name)
  | table : DroppedBy d t (.dropTable d.dropTable t.name)
  | sequence {create drop : String} {default : Option String} (numbered : d.identity = .sequence create drop default)
      {c : Column} (mem : c ∈ t.columns) (identity : c.isIdentity = true) :
      DroppedBy d t (.dropSequence drop t.name c.name)

/-- The statements that drop the indexes and the unique constraints. -/
def dropIndexes (d : Dialect) (t : Table) : List Statement :=
  t.indexes.map (t.dropIndex d) ++ t.uniques.map (t.dropUnique d)

theorem mem_dropForeignKeys {fs : List ForeignKey} :
    st ∈ t.dropForeignKeys d fs ↔ ∃ add drop, d.foreignKey = .alter add drop ∧
      ∃ f ∈ fs, st = .dropForeignKey drop t.name f.name := by
  unfold dropForeignKeys
  cases placed : d.foreignKey with
  | inline => simp
  | alter add drop => simp [eq_comm]

theorem dropUnique_eq_iff {u : Unique} :
    t.dropUnique d u = st ↔ (∃ add drop, d.unique = .alter add drop ∧ st = .dropUnique drop t.name u.name) ∨
      (d.unique = .index ∧ st = .dropIndex d.dropIndex t.name u.name) := by
  unfold dropUnique
  cases placed : d.unique with
  | alter add drop => simp [eq_comm]
  | index => simp [eq_comm]

theorem mem_dropSequences {cs : List Column} :
    st ∈ t.dropSequences d cs ↔ ∃ create drop default, d.identity = .sequence create drop default ∧
      ∃ c ∈ cs, c.isIdentity = true ∧ st = .dropSequence drop t.name c.name := by
  unfold dropSequences
  split
  · rename_i create drop default numbered
    simp only [List.mem_map, List.mem_filter]
    constructor
    · rintro ⟨c, ⟨hc, identity⟩, rfl⟩
      exact ⟨create, drop, default, numbered, c, hc, identity, rfl⟩
    · rintro ⟨_, _, _, same, c, hc, identity, rfl⟩
      rw [numbered] at same
      cases same
      exact ⟨c, ⟨hc, identity⟩, rfl⟩
  · rename_i other
    constructor
    · intro h
      cases h
    · rintro ⟨create, drop, default, numbered, -⟩
      exact absurd numbered (other create drop default)

theorem dropped?_of_mem_dropForeignKeys {fs : List ForeignKey} (h : st ∈ t.dropForeignKeys d fs) :
    st.dropped? = some .foreignKey := by
  obtain ⟨_, _, -, f, -, rfl⟩ := mem_dropForeignKeys.mp h
  rfl

theorem dropped?_of_mem_dropIndexes (h : st ∈ t.dropIndexes d) : st.dropped? = some .index := by
  rcases List.mem_append.mp h with h | h
  · obtain ⟨i, -, rfl⟩ := List.mem_map.mp h
    rfl
  · obtain ⟨u, -, dropped⟩ := List.mem_map.mp h
    obtain ⟨_, _, -, rfl⟩ | ⟨-, rfl⟩ := dropUnique_eq_iff.mp dropped <;> rfl

theorem dropped?_of_mem_dropSequences {cs : List Column} (h : st ∈ t.dropSequences d cs) :
    st.dropped? = some .sequence := by
  obtain ⟨_, _, _, -, c, -, -, rfl⟩ := mem_dropSequences.mp h
  rfl

theorem drop_eq (d : Dialect) (t : Table) : t.drop d =
    t.dropForeignKeys d t.foreignKeys ++ t.dropIndexes d ++ [.dropTable d.dropTable t.name] ++
      t.dropSequences d t.columns := by
  simp [drop, DropPhases.statements, dropPhases, dropIndexes]

/-- The script that drops a table consists of the statements that do so and no others. -/
theorem mem_drop_iff : st ∈ t.drop d ↔ t.DroppedBy d st := by
  simp only [drop_eq, dropIndexes, List.mem_append, List.mem_singleton, List.mem_map, dropUnique_eq_iff]
  constructor
  · rintro (((key | ⟨i, hi, rfl⟩ | ⟨u, hu, ⟨_, _, placed, rfl⟩ | ⟨placed, rfl⟩⟩) | rfl) | sequence)
    · obtain ⟨_, _, placed, f, hf, rfl⟩ := mem_dropForeignKeys.mp key
      exact .foreignKey placed hf
    · exact .index hi
    · exact .unique placed hu
    · exact .uniqueIndex placed hu
    · exact .table
    · obtain ⟨_, _, _, numbered, c, hc, identity, rfl⟩ := mem_dropSequences.mp sequence
      exact .sequence numbered hc identity
  · intro dropped
    cases dropped with
    | foreignKey placed mem => exact .inl (.inl (.inl (mem_dropForeignKeys.mpr ⟨_, _, placed, _, mem, rfl⟩)))
    | index mem => exact .inl (.inl (.inr (.inl ⟨_, mem, rfl⟩)))
    | unique placed mem => exact .inl (.inl (.inr (.inr ⟨_, mem, .inl ⟨_, _, placed, rfl⟩⟩)))
    | uniqueIndex placed mem => exact .inl (.inl (.inr (.inr ⟨_, mem, .inr ⟨placed, rfl⟩⟩)))
    | table => exact .inl (.inr rfl)
    | sequence numbered mem identity =>
      exact .inr (mem_dropSequences.mpr ⟨_, _, _, numbered, _, mem, identity, rfl⟩)

end Table

theorem DropPhases.interleaves_statements (ps : List DropPhases) :
    Interleaves (ps.map fun p => statements [p]) (statements ps) := by
  have phases := (((Interleaves.flatMap ps (·.foreignKeys)).append_map (.flatMap ps (·.indexes))).append_map
    (.flatMap ps (·.tables))).append_map (.flatMap ps (·.sequences))
  simpa [statements] using phases

namespace Schema

variable {d : Dialect} {tables : List Table}

/-- What a script satisfies that drops several tables in a good order. -/
structure DropsOrderly (d : Dialect) (tables : List Table) (script : List Statement) : Prop where
  /-- The script consists of the statements that drop each table, those of each table in their order. -/
  interleaves : Interleaves (tables.map (Table.drop d)) script
  /-- Each table is dropped once, and no other. -/
  dropped_perm : (script.filter (·.dropped? = some .table)).Perm (tables.map fun t => .dropTable d.dropTable t.name)
  /-- Whatever was created by a statement of its own for a table is dropped, and nothing else. -/
  complete : ∀ st, st ∈ script ↔ ∃ t ∈ tables, t.DroppedBy d st
  /-- Foreign keys are dropped first, then indexes and unique constraints, then tables, then sequences. -/
  phases : ∃ foreignKeys indexes definitions sequences, script = foreignKeys ++ indexes ++ definitions ++ sequences ∧
    Interleaves (tables.map fun t => t.dropForeignKeys d t.foreignKeys) foreignKeys ∧
    (∀ st ∈ foreignKeys, st.dropped? = some .foreignKey) ∧
    Interleaves (tables.map (Table.dropIndexes d)) indexes ∧ (∀ st ∈ indexes, st.dropped? = some .index) ∧
    definitions.Perm (tables.map fun t => .dropTable d.dropTable t.name) ∧
    (∀ st ∈ definitions, st.dropped? = some .table) ∧
    Interleaves (tables.map fun t => t.dropSequences d t.columns) sequences ∧
    ∀ st ∈ sequences, st.dropped? = some .sequence
  /-- Without cycles, a table is dropped before the other tables to which it refers. -/
  referencing_first : NamesApart tables → (∀ t, ¬Relation.TransGen (RefersTo tables) t t) →
    ∀ t u, RefersTo tables t u →
      Precedes script (· = .dropTable d.dropTable t.name) (· = .dropTable d.dropTable u.name)

theorem droppingOrder_perm (tables : List Table) : (droppingOrder tables).Perm tables := by
  unfold droppingOrder
  split
  · rename_i order arranged
    exact pick_perm ((List.reverse_perm order).trans (perm_of_arrange arranged))
  · exact List.reverse_perm tables

/-- The phases of a script that drops tables. -/
private theorem drop_eq (d : Dialect) (tables : List Table) :
    drop d tables = (droppingOrder tables).flatMap (fun t => t.dropForeignKeys d t.foreignKeys) ++
      (droppingOrder tables).flatMap (Table.dropIndexes d) ++
      (droppingOrder tables).map (fun t => .dropTable d.dropTable t.name) ++
      (droppingOrder tables).flatMap fun t => t.dropSequences d t.columns := by
  rw [List.map_eq_flatMap]
  simp only [drop, DropPhases.statements, List.flatMap_map]
  rfl

section Phases

variable {phase : Table → List Statement} {ts : List Table} {what : Dropped}

private theorem dropped?_of_mem_phase
    (each : ∀ {t : Table} {st : Statement}, st ∈ phase t → st.dropped? = some what) :
    ∀ st ∈ ts.flatMap phase, st.dropped? = some what := by
  intro st hst
  obtain ⟨t, -, hst⟩ := List.mem_flatMap.mp hst
  exact each hst

private theorem dropped?_of_mem_definitions :
    ∀ st ∈ ts.map fun t => Statement.dropTable d.dropTable t.name, st.dropped? = some .table := by
  intro st hst
  obtain ⟨t, -, rfl⟩ := List.mem_map.mp hst
  rfl

/-- Only the statements of one phase drop what that phase drops. -/
private theorem filter_dropped? {script : List Statement} {other : Dropped}
    (each : ∀ st ∈ script, st.dropped? = some what) :
    script.filter (·.dropped? = some other) = if what = other then script else [] := by
  split
  · rename_i same
    exact List.filter_eq_self.mpr fun st hst => by simp [each st hst, same]
  · rename_i different
    exact List.filter_eq_nil_iff.mpr fun st hst => by simp [each st hst, different]

/-- The order in which tables are dropped does not matter for what a phase consists of. -/
private theorem interleaves_dropPhase (tables : List Table) (phase : Table → List Statement) :
    Interleaves (tables.map phase) ((droppingOrder tables).flatMap phase) :=
  (Interleaves.flatMap (droppingOrder tables) phase).of_perm ((droppingOrder_perm tables).map phase)

end Phases

/-- Each table is dropped once, and no other. -/
private theorem dropped_perm_drop (d : Dialect) (tables : List Table) :
    ((drop d tables).filter (·.dropped? = some .table)).Perm (tables.map fun t => .dropTable d.dropTable t.name) := by
  have foreignKeys : ∀ st ∈ (droppingOrder tables).flatMap fun t => t.dropForeignKeys d t.foreignKeys,
      st.dropped? = some .foreignKey := dropped?_of_mem_phase Table.dropped?_of_mem_dropForeignKeys
  have indexes : ∀ st ∈ (droppingOrder tables).flatMap (Table.dropIndexes d), st.dropped? = some .index :=
    dropped?_of_mem_phase Table.dropped?_of_mem_dropIndexes
  have sequences : ∀ st ∈ (droppingOrder tables).flatMap fun t => t.dropSequences d t.columns,
      st.dropped? = some .sequence := dropped?_of_mem_phase Table.dropped?_of_mem_dropSequences
  rw [drop_eq, List.filter_append, List.filter_append, List.filter_append, filter_dropped? foreignKeys,
    filter_dropped? indexes, filter_dropped? dropped?_of_mem_definitions, filter_dropped? sequences]
  simpa using (droppingOrder_perm tables).map fun t => Statement.dropTable d.dropTable t.name

/-- A script of the statements that drop each table leaves nothing behind. -/
private theorem mem_iff_of_interleaves {script : List Statement}
    (interleaved : Interleaves (tables.map (Table.drop d)) script) (st : Statement) :
    st ∈ script ↔ ∃ t ∈ tables, t.DroppedBy d st := by
  simp only [interleaved.perm.mem_iff, List.mem_flatten, List.mem_map, exists_exists_and_eq_and, Table.mem_drop_iff]

/-- Without cycles, the tables to which a table refers come behind it in the order in which tables are dropped. -/
private theorem exists_droppingOrder_split (apart : NamesApart tables)
    (acyclic : ∀ t, ¬Relation.TransGen (RefersTo tables) t t) {t u : Table} (refers : RefersTo tables t u) :
    ∃ before after, droppingOrder tables = before ++ t :: after ∧ u ∈ after := by
  obtain ⟨order, arranged⟩ := (exists_dependencyOrder_iff apart).mpr acyclic
  obtain ⟨ht, hu, other, f, hf, same⟩ := refers
  obtain ⟨before, after, split, earlier⟩ := referenced_before arranged ht
  refine ⟨after.reverse, before.reverse, ?_, ?_⟩
  · have reversed : pick tables order.reverse = (pick tables order).reverse := List.filterMap_reverse
    rw [droppingOrder, arranged]
    simp [reversed, split]
  · have named_apart : Text.sameName u.name t.name = false := by
      by_contra taken
      rw [Bool.not_eq_false] at taken
      exact other (Text.eq_of_sameName apart hu ht taken).symm
    exact List.mem_reverse.mpr (earlier f hf u ((table?_eq_some_iff apart).mpr ⟨hu, same⟩) named_apart)

private theorem referencing_dropped_first (apart : NamesApart tables)
    (acyclic : ∀ t, ¬Relation.TransGen (RefersTo tables) t t) {t u : Table} (refers : RefersTo tables t u) :
    Precedes (drop d tables) (· = .dropTable d.dropTable t.name) (· = .dropTable d.dropTable u.name) := by
  obtain ⟨before, after, split, behind⟩ := exists_droppingOrder_split apart acyclic refers
  have names : NamesApart (before ++ [t] ++ after) := by
    have ordered := namesApart_of_perm apart (droppingOrder_perm tables)
    rwa [split, List.append_cons] at ordered
  have different : ∀ x ∈ before ++ [t], ∀ y ∈ after, x.name ≠ y.name := by
    intro x hx y hy equal
    have other := (List.pairwise_append.mp names).2.2 x hx y hy
    rw [equal, Text.sameName_refl] at other
    cases other
  -- the script is cut behind the statement that drops `t`
  rw [drop_eq, split, List.append_cons before t after, List.map_append, ← List.append_assoc, List.append_assoc]
  refine precedes_of_cut ?_ ?_
  · rintro st hst rfl
    simp only [List.mem_append] at hst
    rcases hst with (hst | hst) | hst
    · cases dropped?_of_mem_phase Table.dropped?_of_mem_dropForeignKeys _ hst
    · cases dropped?_of_mem_phase Table.dropped?_of_mem_dropIndexes _ hst
    · obtain ⟨x, hx, equal⟩ := List.mem_map.mp hst
      exact different x hx u behind (Statement.dropTable.inj equal).2
  · rintro st hst rfl
    rcases List.mem_append.mp hst with hst | hst
    · obtain ⟨y, hy, equal⟩ := List.mem_map.mp hst
      exact different t (by simp) y hy (Statement.dropTable.inj equal).2.symm
    · cases dropped?_of_mem_phase Table.dropped?_of_mem_dropSequences _ hst

/-- Tables are dropped by the statements that drop each of them, all of them and phase by phase, and those that refer to
others first unless they do so in a cycle. -/
theorem dropSql_orderly (s : Style) (tables : List Table) :
    ∃ script, dropSql s tables = script.map (Statement.sql s) ∧ DropsOrderly s.dialect tables script := by
  have interleaved : Interleaves (tables.map (Table.drop s.dialect)) (drop s.dialect tables) := by
    have phases := DropPhases.interleaves_statements ((droppingOrder tables).map (Table.dropPhases s.dialect))
    rw [List.map_map] at phases
    exact phases.of_perm ((droppingOrder_perm tables).map _)
  refine ⟨drop s.dialect tables, rfl, interleaved, dropped_perm_drop s.dialect tables,
    mem_iff_of_interleaves interleaved, ?_, ?_⟩
  · exact ⟨_, _, _, _, drop_eq s.dialect tables,
      interleaves_dropPhase tables _, dropped?_of_mem_phase Table.dropped?_of_mem_dropForeignKeys,
      interleaves_dropPhase tables _, dropped?_of_mem_phase Table.dropped?_of_mem_dropIndexes,
      (droppingOrder_perm tables).map _, dropped?_of_mem_definitions,
      interleaves_dropPhase tables _, dropped?_of_mem_phase Table.dropped?_of_mem_dropSequences⟩
  · intro apart acyclic t u refers
    exact referencing_dropped_first apart acyclic refers

/-- The table of orders is dropped first, as orders refer to people. -/
theorem dropSql_of_orders_orderly :
    NamesApart [people, orders] ∧ (∀ t, ¬Relation.TransGen (RefersTo [people, orders]) t t) ∧
      RefersTo [people, orders] orders people ∧
      ∃ script, dropSql ⟨.oracle10g, true⟩ [people, orders] = script.map (Statement.sql ⟨.oracle10g, true⟩) ∧
        script.length = 6 ∧ DropsOrderly .oracle10g [people, orders] script ∧
        Precedes script (· = .dropTable Dialect.oracle10g.dropTable "order")
          (· = .dropTable Dialect.oracle10g.dropTable "person") := by
  have apart : NamesApart [people, orders] := checkNames_eq_ok_iff.mp (by decide +kernel)
  have acyclic := (exists_dependencyOrder_iff apart).mp ⟨[0, 1], by decide +kernel⟩
  have refers : RefersTo [people, orders] orders people :=
    ⟨by simp, by simp, by decide +kernel, _, List.mem_cons_self, by decide +kernel⟩
  have six : (dropSql ⟨.oracle10g, true⟩ [people, orders]).length = 6 := by decide +kernel
  obtain ⟨script, written, orderly⟩ := dropSql_orderly ⟨.oracle10g, true⟩ [people, orders]
  rw [written, List.length_map] at six
  exact ⟨apart, acyclic, refers, script, written, six, orderly, orderly.referencing_first apart acyclic _ _ refers⟩

end Schema

end SqlSchema
