import SqlSchema.Proofs.Script.Rearrangement
import SqlSchema.Proofs.Script.Resolution
import SqlSchema.Proofs.Table.Parts

/-!
# The columns and the key of a created table

The statement that creates a table defines each column once, in order (`definition_eq_ok_iff` says by what). A column
gets its values from one source at most, as an identity column declares no default and a dialect has one way to number
rows. The primary key is declared once in the script: in the definition of the table, by a statement of its own, or by the
row number, which only works because a row number is refused that is not the whole key (`columns_and_key_defined_once`).
-/

namespace SqlSchema

/-! ### Sources of values -/

/-- What fills a column in a row that gives no value for it. -/
inductive ValueSource where
  /-- The default that the column declares. -/
  | declared (value : Default)
  | keyword (word : String)
  | serial (type : String)
  | rowid
  | sequence (template : String)
deriving DecidableEq, Repr

/-- The text of a source in the definition of a column. -/
def ValueSource.sql (s : Style) (table column : String) : ValueSource → String
  | .declared v => " DEFAULT " ++ s.dialect.defaultLiteral v
  | .keyword word => " " ++ word
  | .serial type => type
  | .rowid => "INTEGER PRIMARY KEY AUTOINCREMENT"
  | .sequence template => " DEFAULT " ++ Template.fillWith template [('n', s.sequenceName table column)]

/-- How an engine fills an identity column, if the definition of the column says so. -/
def Identity.source? (wide : Bool) : Identity → Option ValueSource
  | .keyword word => some (.keyword word)
  | .rowid => some .rowid
  | .serial narrow wideType => some (.serial (if wide then wideType else narrow))
  | .sequence _ _ default => default.map .sequence

/-- What fills a column of the model: an identity column is filled by the engine, any other by its default. -/
def Column.source? (d : Dialect) (c : Column) : Option ValueSource :=
  if c.isIdentity then d.identity.source? c.type.isWide else c.default.map .declared

/-- The source that the type of a column is. -/
def TypePart.source? : TypePart → Option ValueSource
  | .clause _ => none
  | .serial text => some (.serial text)
  | .rowid => some .rowid

/-- The text of a type that does not fill the column. -/
def TypePart.clauseSql : TypePart → String
  | .clause text => text
  | .serial _ | .rowid => ""

/-- The source of values behind the type. -/
def Generation.source : Generation → ValueSource
  | .keyword word => .keyword word
  | .fromSequence template => .sequence template

namespace ColumnDefinition

/-- All that fills the column, in the order in which it is written. -/
def sources (x : ColumnDefinition) : List ValueSource :=
  x.type.source?.toList ++ (x.default.map ValueSource.declared).toList ++ (x.generation.map Generation.source).toList

/-- The text of the condition and the comment of a definition. -/
def remarkSql (x : ColumnDefinition) : String :=
  (x.check.map fun e => " CHECK (" ++ e ++ ")").getD "" ++ (x.comment.map fun c => " COMMENT " ++ Text.literal c).getD ""

/-- The text of a definition, by what it says. -/
theorem sql_eq (s : Style) (x : ColumnDefinition) :
    x.sql s = s.name x.name ++ " " ++ x.type.clauseSql ++
      String.join (x.sources.map (ValueSource.sql s x.table x.name)) ++ (if x.notNull then " NOT NULL" else "") ++
      x.remarkSql := by
  have type : x.type.sql =
      x.type.clauseSql ++ String.join (x.type.source?.toList.map (ValueSource.sql s x.table x.name)) := by
    cases x.type <;> simp [TypePart.sql, TypePart.clauseSql, TypePart.source?, ValueSource.sql]
  have default : (x.default.map fun v => " DEFAULT " ++ s.dialect.defaultLiteral v).getD "" =
      String.join ((x.default.map ValueSource.declared).toList.map (ValueSource.sql s x.table x.name)) := by
    cases x.default <;> simp [ValueSource.sql]
  have generation : x.generationSql s =
      String.join ((x.generation.map Generation.source).toList.map (ValueSource.sql s x.table x.name)) := by
    unfold generationSql
    rcases x.generation with _ | word | template <;> simp [Generation.source, ValueSource.sql]
  unfold sql sources remarkSql
  rw [type, default, generation, List.map_append, List.map_append, String.join_append, String.join_append]
  simp only [String.append_assoc]

theorem holds_rowid (s : Style) (x : ColumnDefinition) (h : x.type = .rowid) :
    Text.Holds (x.sql s) (s.name x.name ++ " INTEGER PRIMARY KEY AUTOINCREMENT") := by
  unfold sql
  rw [h, TypePart.sql]
  refine ⟨"", (x.default.map fun v => " DEFAULT " ++ s.dialect.defaultLiteral v).getD "" ++ x.generationSql s ++
    (if x.notNull then " NOT NULL" else "") ++ (x.check.map fun e => " CHECK (" ++ e ++ ")").getD "" ++
    (x.comment.map fun c => " COMMENT " ++ Text.literal c).getD "", ?_⟩
  rw [← String.toList_inj]
  simp

end ColumnDefinition

/-! ### Definitions of columns -/

namespace Column

variable {s : Style} {d : Dialect} {c : Column} {table : String} {bare : Bool} {x : ColumnDefinition}

theorem definition_eq_ok_iff : c.definition d table bare = .ok x ↔ ∃ type, c.typePart d = .ok type ∧
    x = { table, name := c.name, type, default := if bare then none else c.default, generation := c.generation d
          notNull := !bare && !c.nullable && type ≠ .rowid, check := c.check
          comment := if d.comments = .inline then c.comment else none } := by
  unfold definition
  rw [Outcome.bind_eq_ok_iff]
  simp only [Except.ok.injEq, eq_comm (b := x)]

/-- A column takes its values from the source that the model gives it and from no other. -/
theorem sources_of_definition (h : c.definition d table false = .ok x) (plain : c.isIdentity = true → c.default = none) :
    x.sources = (c.source? d).toList := by
  obtain ⟨type, typed, rfl⟩ := definition_eq_ok_iff.mp h
  unfold ColumnDefinition.sources source? generation
  unfold typePart at typed
  cases numbered : c.isIdentity with
  | false =>
    rw [numbered] at typed
    obtain ⟨text, -, rfl⟩ := Outcome.map_eq_ok_iff.mp typed
    simp [TypePart.source?]
  | true =>
    rw [numbered] at typed
    cases identity : d.identity with
    | rowid =>
      rw [identity] at typed
      cases typed
      simp [plain numbered, TypePart.source?, Identity.source?]
    | serial narrow wide =>
      rw [identity] at typed
      cases typed
      simp [plain numbered, TypePart.source?, Identity.source?]
    | keyword word =>
      rw [identity] at typed
      obtain ⟨text, -, rfl⟩ := Outcome.map_eq_ok_iff.mp typed
      simp [plain numbered, TypePart.source?, Identity.source?, Generation.source]
    | sequence create drop default =>
      rw [identity] at typed
      obtain ⟨text, -, rfl⟩ := Outcome.map_eq_ok_iff.mp typed
      cases default <;> simp [plain numbered, TypePart.source?, Identity.source?, Generation.source]

/-- When a definition makes its column the row number. -/
theorem type_eq_rowid_iff (h : c.definition d table bare = .ok x) :
    x.type = .rowid ↔ c.isIdentity = true ∧ d.identity = .rowid := by
  obtain ⟨type, typed, rfl⟩ := definition_eq_ok_iff.mp h
  unfold typePart at typed
  split at typed
  · rename_i numbered identity
    cases typed
    simp [numbered, identity]
  · rename_i numbered identity
    cases typed
    simp [identity]
  · rename_i other _
    obtain ⟨text, -, rfl⟩ := Outcome.map_eq_ok_iff.mp typed
    simpa using other

/-- How a column of a table is defined when the table is created. -/
structure DefinedBy (s : Style) (table : String) (c : Column) (x : ColumnDefinition) : Prop where
  name_eq : x.name = c.name
  table_eq : x.table = table
  sources_eq : x.sources = (c.source? s.dialect).toList
  one_source : x.sources.length ≤ 1
  /-- Nulls are forbidden where the column forbids them, unless it is the row number. -/
  notNull_iff : x.notNull = true ↔ c.nullable = false ∧ x.type ≠ .rowid
  written : x.sql s = s.name c.name ++ " " ++ x.type.clauseSql ++
    String.join (x.sources.map (ValueSource.sql s table c.name)) ++ (if x.notNull then " NOT NULL" else "") ++ x.remarkSql

theorem definedBy_of_definition (wellFormed : c.WellFormed) (h : c.definition s.dialect table false = .ok x) :
    c.DefinedBy s table x := by
  have sources := sources_of_definition h wellFormed.identity_without_default
  have text := ColumnDefinition.sql_eq s x
  obtain ⟨type, -, rfl⟩ := definition_eq_ok_iff.mp h
  constructor
  · rfl
  · rfl
  · exact sources
  · rw [sources]
    exact Option.length_toList_le
  · simp
  · exact text

end Column

/-! ### Declarations of the primary key -/

/-- The primary key that the definition of a column declares, by its columns. -/
def ColumnDefinition.declaredKey? (x : ColumnDefinition) : Option (List String) :=
  if x.type = .rowid then some [x.name] else none

/-- The primary key that a part of the definition of a table declares. -/
def TableElement.declaredKey? : TableElement → Option (List String)
  | .column x => x.declaredKey?
  | .primaryKey columns => some columns
  | .foreignKey _ => none

/-- The primary keys that a statement declares. -/
def Statement.declaredKeys : Statement → List (List String)
  | .createTable _ elements _ _ => elements.filterMap TableElement.declaredKey?
  | .addPrimaryKey _ _ columns => [columns]
  | _ => []

namespace Table

variable {s : Style} {d : Dialect} {t : Table} {script : List Statement} {definitions : List ColumnDefinition}

/-- The definitions of the columns of a table. -/
def Defined (d : Dialect) (t : Table) (definitions : List ColumnDefinition) : Prop :=
  List.Forall₂ (fun c x => c.definition d t.name false = .ok x) t.columns definitions

/-- The statements behind the creation of a table, its key and its comments. -/
def laterStatements (d : Dialect) (t : Table) : List Statement :=
  t.indexStatements ++ t.uniqueStatements d ++ t.foreignKeyStatements d

theorem eq_of_mem_laterStatements {st : Statement} (h : st ∈ t.laterStatements d) :
    (∃ n columns unique, st = .createIndex t.name n columns unique) ∨
      (∃ add n columns, st = .addUnique add t.name n columns) ∨ ∃ add f, st = .addForeignKey add t.name f := by
  simp only [laterStatements, List.mem_append] at h
  rcases h with (h | h) | h
  · obtain ⟨i, -, rfl⟩ := List.mem_map.mp h
    exact .inl ⟨_, _, _, rfl⟩
  · obtain ⟨u, -, rfl⟩ := List.mem_map.mp h
    unfold uniqueStatement
    split
    · exact .inr (.inl ⟨_, _, _, rfl⟩)
    · exact .inl ⟨_, _, _, rfl⟩
  · obtain ⟨_, _, -, f, -, rfl⟩ := mem_foreignKeyStatements.mp h
    exact .inr (.inr ⟨_, _, rfl⟩)

/-- The statements of a table that is created on its own. -/
theorem eq_of_create (h : t.create d = .ok script) : t.Creatable d ∧ ∃ definitions, t.Defined d definitions ∧
    script = t.createSequences d ++ t.creation d definitions :: (t.keyStatements d ++ t.commentStatements d) ++
      t.laterStatements d := by
  obtain ⟨creatable, -, p, phases, rfl⟩ := create_eq_ok_iff.mp h
  obtain ⟨definitions, defined, rfl⟩ := eq_of_createPhases phases
  refine ⟨creatable, definitions, Outcome.mapM_eq_ok_iff.mp defined, ?_⟩
  simp [CreatePhases.statements, creation, laterStatements, indexStatements, uniqueStatements]

/-- The key that is declared in the definition of the table, apart from its columns. -/
def keysInside (d : Dialect) (t : Table) : List (List String) :=
  if t.declaresKey d && d.primaryKey = .inline then [t.keyNames] else []

theorem keyElements_eq : t.keyElements d = (t.keysInside d).map .primaryKey := by
  unfold keyElements keysInside
  split <;> rfl

private theorem foreignKeyElements_eq :
    t.foreignKeyElements d = (if d.foreignKey = .inline then t.foreignKeys else []).map .foreignKey := by
  unfold foreignKeyElements
  split <;> rfl

theorem declaredKeys_creation : (t.creation d definitions).declaredKeys =
    definitions.filterMap ColumnDefinition.declaredKey? ++ t.keysInside d := by
  have columns : (definitions.map TableElement.column).filterMap TableElement.declaredKey? =
      definitions.filterMap ColumnDefinition.declaredKey? := List.filterMap_map
  have key : ((t.keysInside d).map TableElement.primaryKey).filterMap TableElement.declaredKey? = t.keysInside d := by
    rw [List.filterMap_map]
    exact List.filterMap_some
  have foreign (fs : List ForeignKey) : (fs.map TableElement.foreignKey).filterMap TableElement.declaredKey? = [] := by
    simp [TableElement.declaredKey?]
  rw [creation, Statement.declaredKeys, List.filterMap_append, List.filterMap_append, columns, keyElements_eq, key,
    foreignKeyElements_eq, foreign, List.append_nil]

/-- The text of the creation of a table: the definitions of its columns, its key if declared here, and the foreign keys
that are. -/
theorem sql_creation : ∃ foreign back, (∀ x ∈ foreign, ∃ rest, x = "CONSTRAINT " ++ rest) ∧
    (t.creation s.dialect definitions).sql s = "CREATE TABLE " ++ s.name t.name ++ " (" ++
      ", ".intercalate (definitions.map (·.sql s) ++
        (t.keysInside s.dialect).map (fun columns => "PRIMARY KEY " ++ s.columnList columns) ++ foreign) ++ ")" ++
      back := by
  have inside : ∀ x ∈ (t.foreignKeyElements s.dialect).map (TableElement.sql s), ∃ rest, x = "CONSTRAINT " ++ rest := by
    rw [foreignKeyElements_eq, List.map_map, List.forall_mem_map]
    intro f _
    rw [Function.comp_apply, sql_foreignKey, String.append_assoc, String.append_assoc, String.append_assoc,
      String.append_assoc, String.append_assoc]
    exact ⟨_, rfl⟩
  have columns : (definitions.map TableElement.column).map (TableElement.sql s) = definitions.map (·.sql s) :=
    List.map_map
  have keys : (t.keyElements s.dialect).map (TableElement.sql s) =
      (t.keysInside s.dialect).map fun columns => "PRIMARY KEY " ++ s.columnList columns := by
    rw [keyElements_eq, List.map_map]
    exact List.map_congr_left fun columns _ => sql_primaryKey columns
  refine ⟨_, ((t.tail.or s.dialect.tableTail).map fun x => " " ++ x).getD "" ++
    ((if s.dialect.comments = .inline then t.comment else none).map fun x => " COMMENT=" ++ Text.literal x).getD "",
    inside, ?_⟩
  rw [creation, Statement.sql_createTable, String.append_assoc, List.map_append, List.map_append, columns, keys]

/-- Where the key is the row number, one column is, and it is the key. -/
private theorem filterMap_identities (creatable : t.Creatable d) (rowid : d.identity = .rowid) :
    (t.columns.filter (·.isIdentity)).map (fun c => [c.name]) = if t.keyIsRowid d then [t.keyNames] else [] := by
  have key : ∀ c ∈ t.columns.filter (·.isIdentity), t.keyNames = [c.name] := by
    intro c hc
    obtain ⟨mem, numbered⟩ := List.mem_filter.mp hc
    exact creatable.rowid_is_key rowid c mem numbered
  have some_identity : t.keyIsRowid d = !(t.columns.filter (·.isIdentity)).isEmpty := by
    rw [keyIsRowid, rowid, decide_eq_true rfl, Bool.true_and, Bool.eq_iff_iff]
    simp
  have apart : (t.columns.filter (·.isIdentity)).Pairwise fun a b => d.writtenKey a.name ≠ d.writtenKey b.name :=
    (List.pairwise_map.mp creatable.columns_apart).filter _
  rw [some_identity]
  generalize t.columns.filter (·.isIdentity) = identities at key apart ⊢
  rcases identities with _ | ⟨c, _ | ⟨b, rest⟩⟩
  · rfl
  · simp [key c List.mem_cons_self]
  · -- two such columns would have one name
    have same := (key c List.mem_cons_self).symm.trans (key b (List.mem_cons_of_mem c List.mem_cons_self))
    rw [List.singleton_inj] at same
    exact absurd (congrArg d.writtenKey same) (List.rel_of_pairwise_cons apart List.mem_cons_self)

/-- The definitions of columns declare the key exactly if it is the row number. -/
private theorem declaredKeys_of_defined (creatable : t.Creatable d) (defined : t.Defined d definitions) :
    definitions.filterMap ColumnDefinition.declaredKey? = if t.keyIsRowid d then [t.keyNames] else [] := by
  have by_column {cs : List Column} {xs : List ColumnDefinition}
      (defined : List.Forall₂ (fun c x => c.definition d t.name false = .ok x) cs xs) :
      xs.filterMap ColumnDefinition.declaredKey? =
        (cs.filter fun c => c.isIdentity && d.identity = .rowid).map fun c => [c.name] := by
    induction defined with
    | nil => rfl
    | @cons c x cs xs first _ ih =>
      have rowid := Column.type_eq_rowid_iff first
      have named : x.name = c.name := by
        obtain ⟨type, -, rfl⟩ := Column.definition_eq_ok_iff.mp first
        rfl
      rw [List.filterMap_cons, ih, ColumnDefinition.declaredKey?, named]
      by_cases here : c.isIdentity = true ∧ d.identity = .rowid
      · simp [rowid.mpr here, here]
      · rw [if_neg (mt rowid.mp here), List.filter_cons_of_neg (by simpa using here)]
  rw [by_column defined]
  by_cases rowid : d.identity = .rowid
  · rw [← filterMap_identities creatable rowid]
    simp [rowid]
  · simp [keyIsRowid, rowid]

private theorem declaredKeys_apart :
    t.keysInside d ++ (t.keyStatements d).flatMap Statement.declaredKeys =
      if t.declaresKey d then [t.keyNames] else [] := by
  unfold keysInside keyStatements
  cases d.primaryKey with
  | inline => cases t.declaresKey d <;> rfl
  | alter add drop => cases t.declaresKey d <;> rfl

/-- A table with a key declares it in one way, either by the row number or apart from its columns. -/
private theorem declaredKeys_either (creatable : t.Creatable d) :
    (if t.keyIsRowid d then [t.keyNames] else []) ++ (if t.declaresKey d then [t.keyNames] else []) =
      if t.keyNames = [] then [] else [t.keyNames] := by
  have no_key : t.keyNames = [] ↔ t.keyColumns = [] := List.map_eq_nil_iff
  cases rowid : t.keyIsRowid d with
  | true =>
    obtain ⟨numbered, some_identity⟩ := Bool.and_eq_true_iff.mp rowid
    obtain ⟨c, hc, identity⟩ := List.any_eq_true.mp some_identity
    have key : t.keyNames = [c.name] := creatable.rowid_is_key (of_decide_eq_true numbered) c hc identity
    simp [declaresKey, rowid, key]
  | false => by_cases keyless : t.keyColumns = [] <;> simp [declaresKey, rowid, no_key, keyless]

/-- A script declares the key of its table, if there is one, and declares it once. -/
theorem declaredKeys_of_create (h : t.create d = .ok script) :
    script.flatMap Statement.declaredKeys = if t.keyNames = [] then [] else [t.keyNames] := by
  obtain ⟨creatable, definitions, defined, rfl⟩ := eq_of_create h
  have sequences : (t.createSequences d).flatMap Statement.declaredKeys = [] :=
    List.flatMap_eq_nil_iff.mpr fun st hst => by
      obtain ⟨_, _, _, -, c, -, -, rfl⟩ := mem_createSequences.mp hst
      rfl
  have comments : (t.commentStatements d).flatMap Statement.declaredKeys = [] :=
    List.flatMap_eq_nil_iff.mpr fun st hst => by
      obtain ⟨-, ⟨text, -, rfl⟩ | ⟨c, -, text, -, rfl⟩⟩ := mem_commentStatements.mp hst <;> rfl
  have later : (t.laterStatements d).flatMap Statement.declaredKeys = [] :=
    List.flatMap_eq_nil_iff.mpr fun st hst => by
      obtain ⟨_, _, _, rfl⟩ | ⟨_, _, _, rfl⟩ | ⟨_, _, rfl⟩ := eq_of_mem_laterStatements hst <;> rfl
  simp only [List.flatMap_append, List.flatMap_cons, sequences, comments, later, List.append_nil, List.nil_append]
  rw [declaredKeys_creation, declaredKeys_of_defined creatable defined, List.append_assoc, declaredKeys_apart,
    declaredKeys_either creatable]

end Table

/-! ### The script of a table -/

/-- Whether a statement declares the primary key in its text: as a clause of its own, or by a column that is the row
number. -/
def Statement.WritesKey (s : Style) (st : Statement) (columns : List String) : Prop :=
  Text.Holds (st.sql s) ("PRIMARY KEY " ++ s.columnList columns) ∨
    ∃ n, columns = [n] ∧ Text.Holds (st.sql s) (s.name n ++ " INTEGER PRIMARY KEY AUTOINCREMENT")

private theorem holds_primaryKey {s : Style} (known : s.dialect ∈ Dialect.all) {template : String}
    (adds : template ∈ s.dialect.primaryKey.add?) {value : Char → Option String} {columns : List String}
    (listed : value 'c' = some (s.names columns)) :
    Text.Holds (Template.fill template value) ("PRIMARY KEY " ++ s.columnList columns) := by
  have each : ∀ d ∈ Dialect.all, ∀ template ∈ d.primaryKey.add?,
      Template.texts [("PRIMARY KEY (", 'c')] ")" <:+: Template.pieces template.toList := by
    simp only [Template.texts, Template.plain, Text.toList_eq_chars]
    decide +kernel
  have text : "PRIMARY KEY " ++ s.columnList columns = "PRIMARY KEY (" ++ s.names columns ++ ")" := by
    rw [Style.columnList, ← String.toList_inj]
    simp
  have found : ∀ part ∈ [("PRIMARY KEY (", 'c')], (value part.2).isSome = true := by simp [listed]
  rw [text]
  simpa [listed] using Template.holds_texts found (each _ known template adds)

namespace Table

variable {s : Style} {t : Table} {script : List Statement}

private theorem writesKey_creation {definitions : List ColumnDefinition} {columns : List String}
    (h : columns ∈ (t.creation s.dialect definitions).declaredKeys) :
    (t.creation s.dialect definitions).WritesKey s columns := by
  rw [declaredKeys_creation, List.mem_append] at h
  rcases h with h | h
  · obtain ⟨x, hx, declared⟩ := List.mem_filterMap.mp h
    obtain ⟨rowid, named⟩ := Option.ite_none_right_eq_some.mp declared
    cases named
    have part : TableElement.column x ∈ definitions.map .column ++ t.keyElements s.dialect ++
        t.foreignKeyElements s.dialect :=
      List.mem_append_left _ (List.mem_append_left _ (List.mem_map_of_mem hx))
    refine .inr ⟨x.name, rfl, (holds_element part).trans ?_⟩
    rw [TableElement.sql_column]
    exact x.holds_rowid s rowid
  · have part : TableElement.primaryKey columns ∈ definitions.map .column ++ t.keyElements s.dialect ++
        t.foreignKeyElements s.dialect := by
      rw [keyElements_eq]
      exact List.mem_append_left _ (List.mem_append_right _ (List.mem_map_of_mem h))
    refine .inl ((holds_element part).trans ⟨"", "", ?_⟩)
    simp [sql_primaryKey]

theorem writesKey_of_mem (known : s.dialect ∈ Dialect.all) (h : t.create s.dialect = .ok script)
    {st : Statement} (hst : st ∈ script) {columns : List String} (declared : columns ∈ st.declaredKeys) :
    st.WritesKey s columns := by
  obtain ⟨-, definitions, -, rfl⟩ := eq_of_create h
  simp only [List.mem_append, List.mem_cons] at hst
  rcases hst with (hst | rfl | hst | hst) | hst
  · obtain ⟨_, _, _, -, c, -, -, rfl⟩ := mem_createSequences.mp hst
    cases declared
  · exact writesKey_creation declared
  · obtain ⟨add, drop, placement, -, rfl⟩ := mem_keyStatements.mp hst
    rw [List.mem_singleton.mp declared]
    exact .inl (holds_primaryKey known (by simp [placement, Placement.add?]) rfl)
  · obtain ⟨-, ⟨text, -, rfl⟩ | ⟨c, -, text, -, rfl⟩⟩ := mem_commentStatements.mp hst <;> cases declared
  · obtain ⟨_, _, _, rfl⟩ | ⟨_, _, _, rfl⟩ | ⟨_, _, rfl⟩ := eq_of_mem_laterStatements hst <;> cases declared

/-- What a script satisfies that defines the columns and the key of a table once. -/
structure DefinesOnce (s : Style) (t : Table) (script : List Statement) : Prop where
  created_once : script.filterMap Statement.created? = [t.name]
  /-- The definitions in the text are those of the columns, in order; keys and foreign keys may follow. -/
  columns_once : ∃ creation ∈ script, creation.created? = some t.name ∧
    List.Forall₂ (Column.DefinedBy s t.name) t.columns creation.definitions ∧
    ∃ keys foreign back, creation.declaredKeys = creation.definitions.filterMap ColumnDefinition.declaredKey? ++ keys ∧
      (∀ x ∈ foreign, ∃ rest, x = "CONSTRAINT " ++ rest) ∧
      creation.sql s = "CREATE TABLE " ++ s.name t.name ++ " (" ++
        ", ".intercalate (creation.definitions.map (·.sql s) ++
          keys.map (fun columns => "PRIMARY KEY " ++ s.columnList columns) ++ foreign) ++ ")" ++ back
  /-- The key is declared once if there is one, with all of its columns in order. -/
  key_once : script.flatMap Statement.declaredKeys = if t.keyNames = [] then [] else [t.keyNames]
  key_written : ∀ st ∈ script, ∀ columns ∈ st.declaredKeys, st.WritesKey s columns

/-- However a known dialect places keys and numbers rows, each column is defined once and so is the key. -/
theorem columns_and_key_defined_once (known : s.dialect ∈ Dialect.all) (made : t.Reachable)
    (h : t.create s.dialect = .ok script) : DefinesOnce s t script := by
  obtain ⟨creatable, -, p, phases, single⟩ := create_eq_ok_iff.mp h
  obtain ⟨-, definitions, defined, parts⟩ := eq_of_create h
  constructor
  · have created := @CreatePhases.created_perm s.dialect [t] [p] (by simp [phases])
    rwa [← single] at created
  · refine ⟨t.creation s.dialect definitions, by simp [parts], rfl, ?_, t.keysInside s.dialect, ?_⟩
    · rw [definitions_creation]
      have wellFormed := made.wellFormed.columns_wellFormed
      have both := (Outcome.forall₂_congr_of_mem fun c hc x => (and_iff_left (wellFormed c hc)).symm).mp defined
      exact both.imp fun c x both => Column.definedBy_of_definition both.2 both.1
    · obtain ⟨foreign, back, constraints, text⟩ := @sql_creation s t definitions
      rw [definitions_creation]
      exact ⟨foreign, back, declaredKeys_creation, constraints, text⟩
  · exact declaredKeys_of_create h
  · exact fun st hst columns declared => writesKey_of_mem known h hst declared

/-- Whether a ticket is urgent, which it is not unless it is said so. -/
def ticketUrgency : Column := { name := "urgent", type := .boolean, nullable := false, default := some (.boolean false) }

/-- Tickets that the engine numbers. -/
def tickets : Table where
  name := "ticket"
  columns := [{ name := "id", type := .bigint, nullable := false, inKey := true, isIdentity := true }, ticketUrgency]

theorem columns_and_key_of_tickets_defined_once :
    Dialect.sqlite ∈ Dialect.all ∧ tickets.Reachable ∧ ∃ script, tickets.create .sqlite = .ok script ∧
      script.map (Statement.sql ⟨.sqlite, false⟩) =
        ["CREATE TABLE ticket (id INTEGER PRIMARY KEY AUTOINCREMENT, urgent BOOLEAN DEFAULT 0 NOT NULL)"] ∧
      DefinesOnce ⟨.sqlite, false⟩ tickets script := by
  have known : Dialect.sqlite ∈ Dialect.all := by decide +kernel
  have made : tickets.Reachable := by decide +kernel
  have created : (tickets.create .sqlite).map (·.map (Statement.sql ⟨.sqlite, false⟩)) =
      .ok ["CREATE TABLE ticket (id INTEGER PRIMARY KEY AUTOINCREMENT, urgent BOOLEAN DEFAULT 0 NOT NULL)"] := by
    decide +kernel
  obtain ⟨script, h, text⟩ := Outcome.map_eq_ok_iff.mp created
  have once := columns_and_key_defined_once (s := ⟨.sqlite, false⟩) known made h
  exact ⟨known, made, script, h, text, once⟩

end Table

end SqlSchema
