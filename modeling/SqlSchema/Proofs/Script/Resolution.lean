import SqlSchema.Proofs.Dialect.Known
import SqlSchema.Proofs.Dialect.Templates
import SqlSchema.Proofs.Dialect.WrittenNames
import SqlSchema.Proofs.Script.CreationOrder

/-!
# References in a script

A script that creates tables resolves: whatever column a statement lists is one column of the table as it is created,
and whatever it refers to is created (`script_resolves`). The model finds columns and tables by their names, case aside;
that the text is resolved in the same way is because names are the same in statements exactly if they have one
`writtenKey`, and the columns of a table have different ones.
-/

namespace SqlSchema

/-! ### What statements refer to -/

namespace Statement

/-- The columns that a statement defines in the creation of a table. -/
def definitions : Statement → List ColumnDefinition
  | .createTable _ elements _ _ => elements.filterMap TableElement.definition?
  | _ => []

/-- The lists of columns of its own table that a statement names. -/
def columnLists : Statement → List (List String)
  | .createTable _ elements _ _ =>
    elements.filterMap TableElement.primaryKey? ++ (elements.filterMap TableElement.foreignKey?).map (·.columns)
  | .addPrimaryKey _ _ columns | .createIndex _ _ columns _ | .addUnique _ _ _ columns => [columns]
  | .addForeignKey _ _ f => [f.columns]
  | _ => []

/-- The foreign keys that a statement declares. -/
def foreignKeys : Statement → List ForeignKey
  | .createTable _ elements _ _ => elements.filterMap TableElement.foreignKey?
  | .addForeignKey _ _ f => [f]
  | _ => []

end Statement

/-- The text of a list of columns. -/
def Style.columnList (s : Style) (columns : List String) : String := "(" ++ s.names columns ++ ")"

/-- The text of what a foreign key refers to. -/
def Style.reference (s : Style) (f : ForeignKey) : String :=
  "REFERENCES " ++ s.name f.refTable ++ " " ++ s.columnList f.refColumns

/-! ### Statements made from templates -/

/-- The statement that adds a key, if one does. -/
def Placement.add? : Placement → Option String
  | .inline => none
  | .alter add _ => some add

/-- The statement that adds a unique constraint, if one does. -/
def UniquePlacement.add? : UniquePlacement → Option String
  | .alter add _ => some add
  | .index => none

namespace Dialect

/-- The statements that add keys and constraints. -/
def additions (d : Dialect) : List String :=
  d.primaryKey.add?.toList ++ d.unique.add?.toList ++ d.foreignKey.add?.toList

end Dialect

section Filled

variable {s : Style} {template : String} {value : Char → Option String}

private theorem holds_columnList (known : s.dialect ∈ Dialect.all) (adds : template ∈ s.dialect.additions)
    {columns : List String} (listed : value 'c' = some (s.names columns)) :
    Text.Holds (Template.fill template value) (s.columnList columns) := by
  have each : ∀ d ∈ Dialect.all, ∀ template ∈ d.additions,
      Template.texts [("(", 'c')] ")" <:+: Template.pieces template.toList := by
    simp only [Template.texts, Template.plain, Text.toList_eq_chars]
    decide +kernel
  have found : ∀ part ∈ [("(", 'c')], (value part.2).isSome = true := by simp [listed]
  simpa [listed, Style.columnList] using Template.holds_texts found (each _ known template adds)

private theorem holds_reference (known : s.dialect ∈ Dialect.all) (adds : template ∈ s.dialect.foreignKey.add?)
    {f : ForeignKey} (table : value 'r' = some (s.name f.refTable))
    (columns : value 'v' = some (s.names f.refColumns)) :
    Text.Holds (Template.fill template value) (s.reference f) := by
  have each : ∀ d ∈ Dialect.all, ∀ template ∈ d.foreignKey.add?,
      Template.texts [("REFERENCES ", 'r'), (" (", 'v')] ")" <:+: Template.pieces template.toList := by
    simp only [Template.texts, Template.plain, Text.toList_eq_chars]
    decide +kernel
  have text : s.reference f = "REFERENCES " ++ s.name f.refTable ++ (" (" ++ s.names f.refColumns) ++ ")" := by
    rw [Style.reference, Style.columnList, ← String.toList_inj]
    simp
  have found : ∀ part ∈ [("REFERENCES ", 'r'), (" (", 'v')], (value part.2).isSome = true := by simp [table, columns]
  rw [text]
  simpa [table, columns] using Template.holds_texts found (each _ known template adds)

end Filled

/-! ### The creation of a table -/

section Creation

variable {s : Style} {t : String} {elements : List TableElement} {tail comment : Option String}

private theorem definition?_eq_some_iff {e : TableElement} {d : ColumnDefinition} :
    e.definition? = some d ↔ e = .column d := by
  cases e <;> simp [TableElement.definition?]

private theorem primaryKey?_eq_some_iff {e : TableElement} {columns : List String} :
    e.primaryKey? = some columns ↔ e = .primaryKey columns := by
  cases e <;> simp [TableElement.primaryKey?]

private theorem foreignKey?_eq_some_iff {e : TableElement} {f : ForeignKey} :
    e.foreignKey? = some f ↔ e = .foreignKey f := by
  cases e <;> simp [TableElement.foreignKey?]

private theorem mem_columnLists_createTable {columns : List String} :
    columns ∈ (Statement.createTable t elements tail comment).columnLists ↔
      .primaryKey columns ∈ elements ∨ ∃ f, .foreignKey f ∈ elements ∧ f.columns = columns := by
  simp only [Statement.columnLists, List.mem_append, List.mem_map, List.mem_filterMap, primaryKey?_eq_some_iff,
    foreignKey?_eq_some_iff, exists_eq_right]

theorem mem_foreignKeys_createTable {f : ForeignKey} :
    f ∈ (Statement.createTable t elements tail comment).foreignKeys ↔ .foreignKey f ∈ elements := by
  simp only [Statement.foreignKeys, List.mem_filterMap, foreignKey?_eq_some_iff, exists_eq_right]

private theorem mem_definitions_createTable {d : ColumnDefinition} :
    d ∈ (Statement.createTable t elements tail comment).definitions ↔ .column d ∈ elements := by
  simp only [Statement.definitions, List.mem_filterMap, definition?_eq_some_iff, exists_eq_right]

theorem holds_element {e : TableElement} (he : e ∈ elements) :
    Text.Holds ((Statement.createTable t elements tail comment).sql s) (e.sql s) := by
  have within : Text.Holds (", ".intercalate (elements.map (TableElement.sql s))) (e.sql s) :=
    Text.holds_intercalate (List.mem_map_of_mem he)
  rw [Statement.sql_createTable, String.append_assoc, String.append_assoc]
  exact Text.Holds.trans ⟨_, _, rfl⟩ within

theorem sql_primaryKey (columns : List String) :
    (TableElement.primaryKey columns).sql s = "PRIMARY KEY " ++ s.columnList columns := by
  have text : (TableElement.primaryKey columns).sql s = "PRIMARY KEY (" ++ s.names columns ++ ")" := rfl
  rw [text, Style.columnList, ← String.toList_inj]
  simp

theorem sql_foreignKey (f : ForeignKey) : (TableElement.foreignKey f).sql s =
    "CONSTRAINT " ++ s.name f.name ++ " FOREIGN KEY " ++ s.columnList f.columns ++ " " ++ s.reference f ++
      s.actions f := by
  have text : (TableElement.foreignKey f).sql s =
      "CONSTRAINT " ++ s.name f.name ++ " FOREIGN KEY (" ++ s.names f.columns ++ ") REFERENCES " ++
        s.name f.refTable ++ " (" ++ s.names f.refColumns ++ ")" ++ s.actions f := rfl
  rw [text, Style.reference, Style.columnList, Style.columnList, ← String.toList_inj]
  simp

end Creation

/-! ### Statements about one table -/

/-- What a statement refers to is declared by the table and stands in the text. -/
structure Statement.RefersWithin (s : Style) (t : Table) (st : Statement) : Prop where
  table_eq : st.table = t.name
  columnLists_declared : ∀ columns ∈ st.columnLists, columns = t.keyNames ∨ columns ∈ t.constraints.map (·.columns)
  columnLists_written : ∀ columns ∈ st.columnLists, Text.Holds (st.sql s) (s.columnList columns)
  foreignKeys_declared : ∀ f ∈ st.foreignKeys, f ∈ t.foreignKeys
  foreignKeys_written : ∀ f ∈ st.foreignKeys, Text.Holds (st.sql s) (s.reference f)

namespace Table

variable {s : Style} {t : Table} {p : CreatePhases} {st : Statement}

/-- The statement that creates a table with the given definitions of its columns. -/
def creation (d : Dialect) (t : Table) (definitions : List ColumnDefinition) : Statement :=
  .createTable t.name (definitions.map .column ++ t.keyElements d ++ t.foreignKeyElements d) (t.tail.or d.tableTail)
    (if d.comments = .inline then t.comment else none)

/-- The statements of a table. -/
theorem cases_of_mem_statements {d : Dialect} (h : t.createPhases d = .ok p)
    (hst : st ∈ CreatePhases.statements [p]) :
    st ∈ t.createSequences d ∨ (∃ definitions, st = t.creation d definitions) ∨ st ∈ t.keyStatements d ∨
      st ∈ t.commentStatements d ∨ (∃ i ∈ t.indexes, st = .createIndex t.name i.name i.columns i.unique) ∨
      (∃ u ∈ t.uniques, st = t.uniqueStatement d u) ∨ st ∈ t.foreignKeyStatements d := by
  obtain ⟨definitions, -, rfl⟩ := eq_of_createPhases h
  simp only [CreatePhases.statements, List.flatMap_cons, List.flatMap_nil, List.append_nil, List.mem_append,
    List.mem_cons, List.mem_map, eq_comm (b := st)] at hst
  rcases hst with (((sequence | creation | key | comment) | index) | unique) | foreign
  · exact .inl sequence
  · exact .inr (.inl ⟨definitions, creation⟩)
  · exact .inr (.inr (.inl key))
  · exact .inr (.inr (.inr (.inl comment)))
  · exact .inr (.inr (.inr (.inr (.inl index))))
  · exact .inr (.inr (.inr (.inr (.inr (.inl unique)))))
  · exact .inr (.inr (.inr (.inr (.inr (.inr foreign)))))

private theorem mem_columns_constraints {columns : List String} : columns ∈ t.constraints.map (·.columns) ↔
    (∃ f ∈ t.foreignKeys, f.columns = columns) ∨ (∃ i ∈ t.indexes, i.columns = columns) ∨
      ∃ u ∈ t.uniques, u.columns = columns := by
  simp [constraints, Function.comp_def]

private theorem refersWithin_of_nothing (table : st.table = t.name) (lists : st.columnLists = [])
    (keys : st.foreignKeys = []) : st.RefersWithin s t := by
  constructor <;> simp [table, lists, keys]

private theorem eq_of_mem_keyElements {d : Dialect} {e : TableElement} (h : e ∈ t.keyElements d) :
    e = .primaryKey t.keyNames := by
  unfold keyElements at h
  split at h
  · exact List.mem_singleton.mp h
  · cases h

private theorem exists_of_mem_foreignKeyElements {d : Dialect} {e : TableElement} (h : e ∈ t.foreignKeyElements d) :
    ∃ f ∈ t.foreignKeys, e = .foreignKey f := by
  unfold foreignKeyElements at h
  split at h
  · obtain ⟨f, hf, rfl⟩ := List.mem_map.mp h
    exact ⟨f, hf, rfl⟩
  · cases h

private theorem refersWithin_creation (definitions : List ColumnDefinition) :
    (t.creation s.dialect definitions).RefersWithin s t := by
  have key : ∀ columns, TableElement.primaryKey columns ∈ definitions.map .column ++ t.keyElements s.dialect ++
      t.foreignKeyElements s.dialect → columns = t.keyNames := by
    intro columns h
    rw [List.append_assoc, List.mem_append, List.mem_append, List.mem_map] at h
    rcases h with ⟨_, -, ⟨⟩⟩ | h | h
    · exact TableElement.primaryKey.inj (eq_of_mem_keyElements h)
    · obtain ⟨_, -, ⟨⟩⟩ := exists_of_mem_foreignKeyElements h
  have foreign : ∀ f, TableElement.foreignKey f ∈ definitions.map .column ++ t.keyElements s.dialect ++
      t.foreignKeyElements s.dialect → f ∈ t.foreignKeys := by
    intro f h
    rw [List.append_assoc, List.mem_append, List.mem_append, List.mem_map] at h
    rcases h with ⟨_, -, ⟨⟩⟩ | h | h
    · cases eq_of_mem_keyElements h
    · obtain ⟨_, hf, ⟨⟩⟩ := exists_of_mem_foreignKeyElements h
      exact hf
  constructor
  · rfl
  · intro columns h
    rcases mem_columnLists_createTable.mp h with declared | ⟨f, declared, rfl⟩
    · exact .inl (key columns declared)
    · exact .inr (mem_columns_constraints.mpr (.inl ⟨f, foreign f declared, rfl⟩))
  · intro columns h
    rcases mem_columnLists_createTable.mp h with declared | ⟨f, declared, rfl⟩
    · refine (holds_element declared).trans ⟨"PRIMARY KEY ", "", ?_⟩
      rw [sql_primaryKey, String.append_empty]
    · refine (holds_element declared).trans ⟨"CONSTRAINT " ++ s.name f.name ++ " FOREIGN KEY ", " " ++
        (s.reference f ++ s.actions f), ?_⟩
      simp only [sql_foreignKey, String.append_assoc]
  · intro f h
    exact foreign f (mem_foreignKeys_createTable.mp h)
  · intro f h
    exact (holds_element (mem_foreignKeys_createTable.mp h)).trans ⟨_, _, sql_foreignKey f⟩

private theorem refersWithin_of_columnList {columns : List String} (table : st.table = t.name)
    (lists : st.columnLists = [columns]) (keys : st.foreignKeys = [])
    (declared : columns = t.keyNames ∨ columns ∈ t.constraints.map (·.columns))
    (written : Text.Holds (st.sql s) (s.columnList columns)) : st.RefersWithin s t := by
  constructor
  · exact table
  · simpa [lists] using declared
  · simpa [lists] using written
  · simp [keys]
  · simp [keys]

private theorem refersWithin_addPrimaryKey (known : s.dialect ∈ Dialect.all) (h : st ∈ t.keyStatements s.dialect) :
    st.RefersWithin s t := by
  obtain ⟨add, drop, placement, -, rfl⟩ := mem_keyStatements.mp h
  have adds : add ∈ s.dialect.additions := by simp [Dialect.additions, placement, Placement.add?]
  exact refersWithin_of_columnList rfl rfl rfl (.inl rfl) (holds_columnList known adds rfl)

private theorem refersWithin_comment (h : st ∈ t.commentStatements s.dialect) : st.RefersWithin s t := by
  obtain ⟨-, ⟨text, -, rfl⟩ | ⟨c, -, text, -, rfl⟩⟩ := mem_commentStatements.mp h <;>
    exact refersWithin_of_nothing rfl rfl rfl

private theorem refersWithin_createIndex {name : String} {columns : List String} (unique : Bool)
    (declared : columns ∈ t.constraints.map (·.columns)) :
    (Statement.createIndex t.name name columns unique).RefersWithin s t := by
  refine refersWithin_of_columnList rfl rfl rfl (.inr declared) ?_
  refine ⟨"CREATE " ++ (if unique then "UNIQUE " else "") ++ "INDEX " ++ s.name name ++ " ON " ++ s.name t.name ++ " ",
    "", ?_⟩
  rw [Statement.sql_createIndex, Style.columnList, ← String.toList_inj]
  simp

private theorem refersWithin_uniqueStatement (known : s.dialect ∈ Dialect.all) {u : Unique} (hu : u ∈ t.uniques) :
    (t.uniqueStatement s.dialect u).RefersWithin s t := by
  have declared : u.columns ∈ t.constraints.map (·.columns) := mem_columns_constraints.mpr (.inr (.inr ⟨u, hu, rfl⟩))
  unfold uniqueStatement
  split
  · rename_i add drop placement
    have adds : add ∈ s.dialect.additions := by simp [Dialect.additions, placement, UniquePlacement.add?]
    exact refersWithin_of_columnList rfl rfl rfl (.inr declared) (holds_columnList known adds rfl)
  · exact refersWithin_createIndex true declared

private theorem refersWithin_foreignKey (known : s.dialect ∈ Dialect.all) (h : st ∈ t.foreignKeyStatements s.dialect) :
    st.RefersWithin s t := by
  obtain ⟨add, drop, placement, f, hf, rfl⟩ := mem_foreignKeyStatements.mp h
  have adds : add ∈ s.dialect.foreignKey.add? := by simp [placement, Placement.add?]
  have adds_list : add ∈ s.dialect.additions := by simp [Dialect.additions, placement, Placement.add?]
  have declared : f.columns ∈ t.constraints.map (·.columns) := mem_columns_constraints.mpr (.inl ⟨f, hf, rfl⟩)
  constructor
  · rfl
  · exact List.forall_mem_singleton.mpr (.inr declared)
  · exact List.forall_mem_singleton.mpr (holds_columnList known adds_list rfl)
  · exact List.forall_mem_singleton.mpr hf
  · exact List.forall_mem_singleton.mpr (holds_reference known adds rfl rfl)

/-- Every statement of a table refers to what the table declares. -/
theorem refersWithin_of_mem (known : s.dialect ∈ Dialect.all) (h : t.createPhases s.dialect = .ok p)
    (hst : st ∈ CreatePhases.statements [p]) : st.RefersWithin s t := by
  rcases cases_of_mem_statements h hst with hst | ⟨definitions, rfl⟩ | hst | hst | ⟨i, hi, rfl⟩ | ⟨u, hu, rfl⟩ | hst
  · obtain ⟨_, _, _, -, c, -, -, rfl⟩ := mem_createSequences.mp hst
    exact refersWithin_of_nothing rfl rfl rfl
  · exact refersWithin_creation definitions
  · exact refersWithin_addPrimaryKey known hst
  · exact refersWithin_comment hst
  · exact refersWithin_createIndex i.unique (mem_columns_constraints.mpr (.inr (.inl ⟨i, hi, rfl⟩)))
  · exact refersWithin_uniqueStatement known hu
  · exact refersWithin_foreignKey known hst

/-- The creation of a table defines its columns and nothing else. -/
theorem definitions_creation {d : Dialect} {definitions : List ColumnDefinition} :
    (t.creation d definitions).definitions = definitions := by
  have key : (t.keyElements d).filterMap TableElement.definition? = [] := by
    refine List.filterMap_eq_nil_iff.mpr fun e he => ?_
    rw [eq_of_mem_keyElements he]
    rfl
  have foreign : (t.foreignKeyElements d).filterMap TableElement.definition? = [] := by
    refine List.filterMap_eq_nil_iff.mpr fun e he => ?_
    obtain ⟨f, -, rfl⟩ := exists_of_mem_foreignKeyElements he
    rfl
  have columns : (definitions.map TableElement.column).filterMap TableElement.definition? = definitions := by
    rw [List.filterMap_map]
    exact List.filterMap_some
  rw [creation, Statement.definitions, List.filterMap_append, List.filterMap_append, key, foreign, columns,
    List.append_nil, List.append_nil]

/-- The statement that creates a table defines its columns under their names. -/
theorem exists_creation (h : t.createPhases s.dialect = .ok p) :
    ∃ creation ∈ CreatePhases.statements [p], creation.created? = some t.name ∧
      creation.definitions.map (·.name) = t.columns.map (·.name) := by
  obtain ⟨definitions, defined, rfl⟩ := eq_of_createPhases h
  refine ⟨t.creation s.dialect definitions, by simp [CreatePhases.statements, creation], rfl, ?_⟩
  rw [definitions_creation]
  have named : List.Forall₂ (fun c x => x.name = c.name) t.columns definitions := by
    refine (Outcome.mapM_eq_ok_iff.mp defined).imp fun c x made => ?_
    obtain ⟨type, -, made⟩ := Outcome.bind_eq_ok_iff.mp made
    cases made
    rfl
  exact (Outcome.map_eq_map named fun c x same => same.symm).symm

/-- A name that is the same as the name of a column is written like one of the columns alone. -/
theorem countP_sameName (creatable : t.Creatable s.dialect) {n : String} (has : t.Has n) :
    (t.columns.map (·.name)).countP (fun m => Text.sameName (s.name m) (s.name n)) = 1 := by
  obtain ⟨c, hc, same⟩ := has
  have key : (fun m => Text.sameName (s.name m) (s.name n)) =
      fun m => (s.dialect.writtenKey m == s.dialect.writtenKey n) := by
    funext m
    rw [Bool.eq_iff_iff, beq_iff_eq]
    exact Dialect.sameName_render_iff
  have apart : ((t.columns.map (·.name)).map s.dialect.writtenKey).Nodup := List.pairwise_map.mpr creatable.columns_apart
  have there : s.dialect.writtenKey n ∈ (t.columns.map (·.name)).map s.dialect.writtenKey := by
    rw [← Dialect.writtenKey_eq_of_sameName same]
    exact List.mem_map_of_mem (List.mem_map_of_mem hc)
  have counted := List.count_eq_one_of_mem apart there
  rw [List.count, List.countP_map] at counted
  rw [key]
  exact counted

private theorem has_of_mem_keyNames {n : String} (h : n ∈ t.keyNames) : t.Has n := by
  obtain ⟨c, hc, rfl⟩ := List.mem_map.mp h
  exact ⟨c, (List.mem_filter.mp hc).1, Text.sameName_refl _⟩

end Table

/-! ### The script -/

namespace Schema

/-- What a script satisfies in which all references resolve. -/
structure Resolves (s : Style) (script : List Statement) : Prop where
  /-- No two tables are created under one name. -/
  created_once : (script.filterMap Statement.created?).Pairwise fun a b => Text.sameName a b = false
  /-- A table is created under its name, and the definition of a column starts with the name of the column. -/
  definitions_written : ∀ st ∈ script, ∀ t, st.created? = some t →
    (∃ back, st.sql s = "CREATE TABLE " ++ s.name t ++ " (" ++ back) ∧
      ∀ d ∈ st.definitions, Text.Holds (st.sql s) (d.sql s) ∧ ∃ back, d.sql s = s.name d.name ++ " " ++ back
  /-- The columns that a statement lists are written in parentheses, and each is one column of the table as it is
  created. -/
  columns_resolve : ∀ st ∈ script, ∀ columns ∈ st.columnLists, Text.Holds (st.sql s) (s.columnList columns) ∧
    ∃ creation ∈ script, creation.created? = some st.table ∧ ∀ n ∈ columns,
      creation.definitions.countP (fun d => Text.sameName (s.name d.name) (s.name n)) = 1
  /-- The table to which a foreign key refers is created, and has each column to which it refers. -/
  references_resolve : ∀ st ∈ script, ∀ f ∈ st.foreignKeys, Text.Holds (st.sql s) (s.reference f) ∧
    ∃ creation ∈ script, ∃ t, creation.created? = some t ∧ Text.sameName (s.name t) (s.name f.refTable) = true ∧
      ∀ n ∈ f.refColumns, creation.definitions.countP (fun d => Text.sameName (s.name d.name) (s.name n)) = 1
  /-- Where names are quoted and folded, the same name is written with the same letters. -/
  exact_when_folded : s.quoted = true → s.dialect.nameCase ≠ .asDeclared → ∀ a b : String,
    Text.sameName (s.name a) (s.name b) = true → s.name a = s.name b

variable {s : Style} {tables : List Table}

private theorem definitions_written {st : Statement} {t : String} (h : st.created? = some t) :
    (∃ back, st.sql s = "CREATE TABLE " ++ s.name t ++ " (" ++ back) ∧
      ∀ d ∈ st.definitions, Text.Holds (st.sql s) (d.sql s) ∧ ∃ back, d.sql s = s.name d.name ++ " " ++ back := by
  cases st <;> cases h
  rename_i elements tail comment
  constructor
  · rw [Statement.sql_createTable, String.append_assoc, String.append_assoc, String.append_assoc]
    exact ⟨_, rfl⟩
  · intro d hd
    have written := @holds_element s t elements tail comment _ (mem_definitions_createTable.mp hd)
    refine ⟨TableElement.sql_column s d ▸ written, ?_⟩
    unfold ColumnDefinition.sql
    rw [String.append_assoc, String.append_assoc, String.append_assoc, String.append_assoc, String.append_assoc]
    exact ⟨_, rfl⟩

/-- The statements of several tables are those of each of them. -/
private theorem mem_statements_iff {ps : List CreatePhases} {st : Statement} :
    st ∈ CreatePhases.statements ps ↔ ∃ p ∈ ps, st ∈ CreatePhases.statements [p] := by
  simp only [CreatePhases.statements, List.mem_append, List.mem_flatMap, List.mem_singleton, exists_eq_left]
  simp only [and_or_left, exists_or]

private theorem resolves_of_create (known : s.dialect ∈ Dialect.all) {script : List Statement}
    (h : create s.dialect tables = .ok script) : Resolves s script := by
  obtain ⟨checked, ordered, ps, order, phases, rfl⟩ := exists_of_create h
  obtain ⟨apart, each⟩ := check_eq_ok_iff.mp checked
  have perm : ordered.Perm tables := creationOrder_perm order
  have owned : ∀ st ∈ CreatePhases.statements ps, ∃ t ∈ tables, st.RefersWithin s t := by
    intro st hst
    obtain ⟨p, hp, hst⟩ := mem_statements_iff.mp hst
    obtain ⟨t, ht, made⟩ := Outcome.exists_of_mem_of_mapM_eq_ok phases hp
    exact ⟨t, perm.mem_iff.mp ht, Table.refersWithin_of_mem known made hst⟩
  have creation : ∀ t ∈ tables, ∃ creation ∈ CreatePhases.statements ps, creation.created? = some t.name ∧
      ∀ n, t.Has n → creation.definitions.countP (fun d => Text.sameName (s.name d.name) (s.name n)) = 1 := by
    intro t ht
    obtain ⟨p, hp, made⟩ := Outcome.exists_of_mem_right (Outcome.mapM_eq_ok_iff.mp phases).flip (perm.mem_iff.mpr ht)
    obtain ⟨creation, there, created, names⟩ := Table.exists_creation made
    refine ⟨creation, mem_statements_iff.mpr ⟨p, hp, there⟩, created, fun n has => ?_⟩
    have single := Table.countP_sameName (each t ht).1 has
    rwa [← names, List.countP_map] at single
  constructor
  · rw [CreatePhases.created_perm phases]
    exact List.pairwise_map.mpr (namesApart_of_perm apart perm)
  · intro st _ t created
    exact definitions_written created
  · intro st hst columns listed
    obtain ⟨t, ht, within⟩ := owned st hst
    obtain ⟨creation, there, created, single⟩ := creation t ht
    refine ⟨within.columnLists_written columns listed, creation, there, within.table_eq ▸ created, fun n hn => ?_⟩
    refine single n ?_
    rcases within.columnLists_declared columns listed with rfl | declared
    · exact Table.has_of_mem_keyNames hn
    · obtain ⟨k, hk, rfl⟩ := List.mem_map.mp declared
      exact (each t ht).1.constraint_columns k hk n hn
  · intro st hst f declared
    obtain ⟨t, ht, within⟩ := owned st hst
    obtain ⟨r, found, columns⟩ := (each t ht).2 f (within.foreignKeys_declared f declared)
    obtain ⟨hr, same⟩ := mem_of_table? found
    obtain ⟨creation, there, created, single⟩ := creation r hr
    exact ⟨within.foreignKeys_written f declared, creation, there, r.name, created,
      Dialect.sameName_render_iff.mpr (Dialect.writtenKey_eq_of_sameName same), fun n hn => single n (columns n hn)⟩
  · intro quoted folds a b same
    unfold Style.name at same ⊢
    rw [quoted] at same ⊢
    exact Dialect.render_eq_of_sameName folds same

/-- The script that a known dialect creates a set of tables by resolves, whether names are quoted or not. -/
theorem script_resolves (known : s.dialect ∈ Dialect.all) {texts : List String} (h : createSql s tables = .ok texts) :
    ∃ script, create s.dialect tables = .ok script ∧ texts = script.map (Statement.sql s) ∧ Resolves s script := by
  obtain ⟨script, created, written⟩ := Outcome.map_eq_ok_iff.mp h
  exact ⟨script, created, written.symm, resolves_of_create known created⟩

/-- The index is declared on `BUYER` and written on the column as it is defined. -/
theorem script_of_orders_resolves :
    Dialect.postgresql ∈ Dialect.all ∧ ∃ texts, createSql ⟨.postgresql, true⟩ [orders, people] = .ok texts ∧
      "CREATE INDEX \"ix_buyer\" ON \"order_attribute\" (\"buyer\")" ∈ texts ∧
      ∃ script, create .postgresql [orders, people] = .ok script ∧
        texts = script.map (Statement.sql ⟨.postgresql, true⟩) ∧ Resolves ⟨.postgresql, true⟩ script := by
  have known : Dialect.postgresql ∈ Dialect.all := by decide +kernel
  have created : (createSql ⟨.postgresql, true⟩ [orders, people]).map
      (·.contains "CREATE INDEX \"ix_buyer\" ON \"order_attribute\" (\"buyer\")") = .ok true := by decide +kernel
  obtain ⟨texts, h, index⟩ := Outcome.map_eq_ok_iff.mp created
  have resolves := script_resolves (s := ⟨.postgresql, true⟩) known h
  exact ⟨known, texts, h, List.contains_iff_mem.mp index, resolves⟩

end Schema

end SqlSchema
