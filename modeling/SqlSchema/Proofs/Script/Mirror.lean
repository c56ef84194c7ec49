import SqlSchema.Dialect.Server
import SqlSchema.Proofs.Dialect.WrittenNames
import SqlSchema.Proofs.Script.Rearrangement
import SqlSchema.Script.Drop

/-!
# Creating and dropping mirror each other

What a table has is created by its creation, or by a statement of its own as an `Object`: a sequence, an index, a unique
constraint or a foreign key. The script that drops the table has one statement for each object and one for the table,
and each is written with the names with which the object was created (`drop_mirrors_create`), so nothing is left behind.
-/

namespace SqlSchema

/-! ### Objects -/

/-- What is created and dropped by statements of its own, under the names that stand in the statements. -/
inductive Object where
  | sequence (name : String)
  /-- An index, also one that stands in for a unique constraint. -/
  | index (table name : String)
  | unique (table name : String)
  | foreignKey (table name : String)
deriving DecidableEq, Repr

namespace Object

/-- The texts that create an object. -/
inductive CreatedBy (d : Dialect) : Object → String → Prop where
  | sequence {create drop : String} {default : Option String} (numbered : d.identity = .sequence create drop default)
      (name : String) : CreatedBy d (.sequence name) (Template.fillWith create [('n', name)])
  | index (unique : Bool) (table name columns : String) :
      CreatedBy d (.index table name)
        ("CREATE " ++ (if unique then "UNIQUE " else "") ++ "INDEX " ++ name ++ " ON " ++ table ++ " (" ++ columns ++ ")")
  | unique {add drop : String} (placed : d.unique = .alter add drop) (table name columns : String) :
      CreatedBy d (.unique table name) (Template.fillWith add [('t', table), ('n', name), ('c', columns)])
  | foreignKey {add drop : String} (placed : d.foreignKey = .alter add drop)
      (table name columns refTable refColumns actions : String) :
      CreatedBy d (.foreignKey table name)
        (Template.fillWith add
          [('t', table), ('n', name), ('c', columns), ('r', refTable), ('v', refColumns), ('a', actions)])

/-- The text that drops an object. -/
inductive DroppedBy (d : Dialect) : Object → String → Prop where
  | sequence {create drop : String} {default : Option String} (numbered : d.identity = .sequence create drop default)
      (name : String) : DroppedBy d (.sequence name) (Template.fillWith drop [('n', name)])
  | index (table name : String) :
      DroppedBy d (.index table name) (Template.fillWith d.dropIndex [('t', table), ('n', name)])
  | unique {add drop : String} (placed : d.unique = .alter add drop) (table name : String) :
      DroppedBy d (.unique table name) (Template.fillWith drop [('t', table), ('n', name)])
  | foreignKey {add drop : String} (placed : d.foreignKey = .alter add drop) (table name : String) :
      DroppedBy d (.foreignKey table name) (Template.fillWith drop [('t', table), ('n', name)])

/-- The name of an object. -/
def name : Object → String
  | .sequence n | .index _ n | .unique _ n | .foreignKey _ n => n

end Object

namespace Table

/-- The sequences of the identity columns, where the dialect has such. -/
def sequenceObjects (s : Style) (t : Table) : List Object :=
  match s.dialect.identity with
  | .sequence .. => (t.columns.filter (·.isIdentity)).map fun c => .sequence (s.sequenceName t.name c.name)
  | _ => []

/-- The indexes of the table. -/
def indexObjects (s : Style) (t : Table) : List Object :=
  t.indexes.map fun i => .index (s.name t.name) (s.name i.name)

/-- The unique constraints of the table, which are indexes in some dialects. -/
def uniqueObjects (s : Style) (t : Table) : List Object :=
  match s.dialect.unique with
  | .alter .. => t.uniques.map fun u => .unique (s.name t.name) (s.name u.name)
  | .index => t.uniques.map fun u => .index (s.name t.name) (s.name u.name)

/-- The foreign keys of the table that do not stand in its definition. -/
def foreignKeyObjects (s : Style) (t : Table) : List Object :=
  match s.dialect.foreignKey with
  | .inline => []
  | .alter .. => t.foreignKeys.map fun f => .foreignKey (s.name t.name) (s.name f.name)

variable {s : Style} {t : Table}

/-- The statements that create objects and those that drop them, each in the order of the objects. -/
def Matched (s : Style) (objects : List Object) (created dropped : List Statement) : Prop :=
  List.Forall₂ (Object.CreatedBy s.dialect) objects (created.map (Statement.sql s)) ∧
    List.Forall₂ (Object.DroppedBy s.dialect) objects (dropped.map (Statement.sql s))

private theorem matched_map {α : Type} {items : List α} {object : α → Object} {create drop : α → Statement}
    (created : ∀ x, (object x).CreatedBy s.dialect ((create x).sql s))
    (dropped : ∀ x, (object x).DroppedBy s.dialect ((drop x).sql s)) :
    Matched s (items.map object) (items.map create) (items.map drop) := by
  simp only [Matched, List.map_map, List.forall₂_map_left_iff, List.forall₂_map_right_iff, List.forall₂_same]
  exact ⟨fun x _ => created x, fun x _ => dropped x⟩

theorem matched_sequences :
    Matched s (t.sequenceObjects s) (t.createSequences s.dialect) (t.dropSequences s.dialect t.columns) := by
  unfold sequenceObjects createSequences dropSequences
  cases numbered : s.dialect.identity with
  | sequence create drop default => exact matched_map (fun c => .sequence numbered _) fun c => .sequence numbered _
  | _ => exact ⟨.nil, .nil⟩

private theorem matched_indexes :
    Matched s (t.indexObjects s) t.indexStatements (t.indexes.map (t.dropIndex s.dialect)) :=
  matched_map (fun i => .index i.unique _ _ _) fun _ => .index _ _

private theorem matched_uniques :
    Matched s (t.uniqueObjects s) (t.uniqueStatements s.dialect) (t.uniques.map (t.dropUnique s.dialect)) := by
  unfold uniqueObjects uniqueStatements uniqueStatement dropUnique
  cases placed : s.dialect.unique with
  | alter add drop => exact matched_map (fun u => .unique placed _ _ _) fun u => .unique placed _ _
  | index => exact matched_map (fun u => .index true _ _ _) fun u => .index _ _

private theorem matched_foreignKeys :
    Matched s (t.foreignKeyObjects s) (t.foreignKeyStatements s.dialect)
      (t.dropForeignKeys s.dialect t.foreignKeys) := by
  unfold foreignKeyObjects foreignKeyStatements dropForeignKeys
  cases placed : s.dialect.foreignKey with
  | inline => exact ⟨.nil, .nil⟩
  | alter add drop => exact matched_map (fun f => .foreignKey placed _ _ _ _ _ _) fun f => .foreignKey placed _ _

/-! ### Both scripts -/

/-- The script that creates a table and the one that drops it have statements for the same objects. -/
structure Mirrored (s : Style) (t : Table) (created dropped : List Statement) : Prop where
  created_eq : ∃ sequences definitions indexes uniques foreignKeys,
    created = sequences ++ definitions ++ indexes ++ uniques ++ foreignKeys ∧
      (∀ st ∈ definitions, st.definesTable = true) ∧
      List.Forall₂ (Object.CreatedBy s.dialect) (t.sequenceObjects s) (sequences.map (Statement.sql s)) ∧
      List.Forall₂ (Object.CreatedBy s.dialect) (t.indexObjects s) (indexes.map (Statement.sql s)) ∧
      List.Forall₂ (Object.CreatedBy s.dialect) (t.uniqueObjects s) (uniques.map (Statement.sql s)) ∧
      List.Forall₂ (Object.CreatedBy s.dialect) (t.foreignKeyObjects s) (foreignKeys.map (Statement.sql s))
  /-- The constraints are dropped before the table, and the sequences behind it. -/
  dropped_eq : ∃ foreignKeys indexes uniques definition sequences,
    dropped = foreignKeys ++ indexes ++ uniques ++ definition :: sequences ∧
      definition.sql s = Template.fillWith s.dialect.dropTable [('t', s.name t.name)] ∧
      List.Forall₂ (Object.DroppedBy s.dialect) (t.sequenceObjects s) (sequences.map (Statement.sql s)) ∧
      List.Forall₂ (Object.DroppedBy s.dialect) (t.indexObjects s) (indexes.map (Statement.sql s)) ∧
      List.Forall₂ (Object.DroppedBy s.dialect) (t.uniqueObjects s) (uniques.map (Statement.sql s)) ∧
      List.Forall₂ (Object.DroppedBy s.dialect) (t.foreignKeyObjects s) (foreignKeys.map (Statement.sql s))
  /-- No constraint is dropped in the place of another. -/
  objects_nodup : (t.foreignKeyObjects s ++ t.indexObjects s ++ t.uniqueObjects s).Nodup

private theorem names_foreignKeyObjects :
    ((t.foreignKeyObjects s).map Object.name).Sublist (t.foreignKeys.map fun f => s.name f.name) := by
  unfold foreignKeyObjects
  split
  · exact List.nil_sublist _
  · rw [List.map_map]
    exact List.Sublist.refl _

private theorem names_indexObjects : (t.indexObjects s).map Object.name = t.indexes.map fun i => s.name i.name := by
  rw [indexObjects, List.map_map]
  rfl

private theorem names_uniqueObjects : (t.uniqueObjects s).map Object.name = t.uniques.map fun u => s.name u.name := by
  unfold uniqueObjects
  split <;> rw [List.map_map] <;> rfl

/-- As the names of constraints differ when they are written, so do the objects. -/
private theorem objects_nodup (creatable : t.Creatable s.dialect) :
    (t.foreignKeyObjects s ++ t.indexObjects s ++ t.uniqueObjects s).Nodup := by
  have written : (t.constraints.map fun k => s.name k.name).Nodup := by
    have keys := List.pairwise_map.mp creatable.constraints_apart
    refine List.pairwise_map.mpr (keys.imp fun {a b} other same => other ?_)
    exact Dialect.sameName_render_iff.mp (Text.sameName_iff.mpr (congrArg Text.lower same))
  have by_kind : (t.constraints.map fun k => s.name k.name) = (t.foreignKeys.map fun f => s.name f.name) ++
      (t.indexes.map fun i => s.name i.name) ++ t.uniques.map fun u => s.name u.name := by
    simp [constraints, Function.comp_def]
  have names : ((t.foreignKeyObjects s ++ t.indexObjects s ++ t.uniqueObjects s).map Object.name).Nodup := by
    rw [by_kind] at written
    rw [List.map_append, List.map_append, names_indexObjects, names_uniqueObjects]
    exact ((names_foreignKeyObjects.append_right _).append_right _).nodup written
  exact names.of_map

/-- Whatever the script of a table creates by a statement of its own, the script that drops the table drops by one
statement with the same names. -/
theorem drop_mirrors_create {created : List Statement} (h : t.create s.dialect = .ok created) :
    Mirrored s t created (t.drop s.dialect) := by
  obtain ⟨creatable, -, p, phases, rfl⟩ := create_eq_ok_iff.mp h
  constructor
  · refine ⟨p.sequences, p.tables, p.indexes, p.uniques, p.foreignKeys, by simp [CreatePhases.statements],
      fun st => definesTable_of_mem_tables phases, ?_, ?_, ?_, ?_⟩
    · rw [sequences_of_createPhases phases]
      exact matched_sequences.1
    · rw [indexes_of_createPhases phases]
      exact matched_indexes.1
    · rw [uniques_of_createPhases phases]
      exact matched_uniques.1
    · rw [foreignKeys_of_createPhases phases]
      exact matched_foreignKeys.1
  · exact ⟨t.dropForeignKeys s.dialect t.foreignKeys, t.indexes.map (t.dropIndex s.dialect),
      t.uniques.map (t.dropUnique s.dialect), .dropTable s.dialect.dropTable t.name,
      t.dropSequences s.dialect t.columns, by simp [drop, DropPhases.statements, dropPhases], rfl,
      matched_sequences.2, matched_indexes.2, matched_uniques.2, matched_foreignKeys.2⟩
  · exact objects_nodup creatable

/-- Payments of people, with an object of each kind. -/
def payments : Table where
  name := "Payment"
  columns :=
    [{ name := "id", type := .bigint, nullable := false, inKey := true, isIdentity := true },
      { name := "buyer", type := .bigint }, { name := "order", type := .bigint }]
  foreignKeys := [{ name := "fk_buyer", columns := ["buyer"], refTable := "person", refColumns := ["id"] }]
  indexes := [{ name := "ix_buyer", columns := ["buyer"], unique := true }]
  uniques := [{ name := "uq_order", columns := ["Order"] }]

theorem drop_mirrors_create_payments :
    ∃ created, payments.create .oracle10g = .ok created ∧ created.length = 5 ∧
      Mirrored ⟨.oracle10g, true⟩ payments created (payments.drop .oracle10g) := by
  have five : (payments.create .oracle10g).map List.length = .ok 5 := by decide +kernel
  obtain ⟨created, h, five⟩ := Outcome.map_eq_ok_iff.mp five
  have mirrored := drop_mirrors_create (s := ⟨.oracle10g, true⟩) h
  exact ⟨created, h, five, mirrored⟩

end Table

end SqlSchema
