import SqlSchema.Proofs.Dialect.MadeUpNames
import SqlSchema.Proofs.Script.Rearrangement
import SqlSchema.Proofs.Script.Resolution
import SqlSchema.Proofs.Table.Parts

/-!
# Names that a script gives

A script names tables, sequences, constraints and indexes. A set of tables is checked for equal names as they are
declared, and the columns and constraints of each table for equal names as they are written. So names that the script
gives may still be equal: two tables, or a table and one of its constraints, that the dialect confuses, and made-up
names that meet another name after they are put together and cut. There is no other way (`script_gives_names_once_iff`).
-/

namespace SqlSchema

/-! ### The names of a statement -/

namespace Statement

/-- The constraints and indexes that a statement names, as it writes their names. -/
def givenNames (s : Style) (st : Statement) : List String :=
  st.foreignKeys.map (fun f => s.name f.name) ++
    match st with
    | .addPrimaryKey _ t _ => [s.keyName t]
    | .createIndex _ n _ _ | .addUnique _ _ n _ => [s.name n]
    | _ => []

/-- The sequence that a statement creates, as it writes its name. -/
def sequenceName? (s : Style) : Statement → Option String
  | .createSequence _ t c => some (s.sequenceName t c)
  | _ => none

/-- The names that a statement gives stand in its text behind what they are names of. -/
structure NamesWritten (s : Style) (st : Statement) : Prop where
  table : ∀ t ∈ st.created?, Text.Holds (st.sql s) ("TABLE " ++ s.name t)
  sequence : ∀ n ∈ st.sequenceName? s, Text.Holds (st.sql s) ("SEQUENCE " ++ n)
  given : ∀ n ∈ st.givenNames s, Text.Holds (st.sql s) ("CONSTRAINT " ++ n) ∨ Text.Holds (st.sql s) ("INDEX " ++ n)

end Statement

section Written

variable {s : Style} {t : Table} {p : CreatePhases} {st : Statement}

private theorem holds_constraint (known : s.dialect ∈ Dialect.all) {template name : String}
    {value : Char → Option String} (adds : template ∈ s.dialect.additions) (found : value 'n' = some name) :
    Text.Holds (Template.fill template value) ("CONSTRAINT " ++ name) := by
  have each : ∀ d ∈ Dialect.all, ∀ template ∈ d.additions,
      Template.texts [("CONSTRAINT ", 'n')] "" <:+: Template.pieces template.toList := by
    simp only [Template.texts, Template.plain, Text.toList_eq_chars]
    decide +kernel
  have filled : ∀ part ∈ [("CONSTRAINT ", 'n')], (value part.2).isSome = true := by simp [found]
  simpa [found] using Template.holds_texts filled (each _ known template adds)

private theorem holds_sequence (known : s.dialect ∈ Dialect.all) {create name : String}
    {value : Char → Option String} (creates : create ∈ s.dialect.identity.create?) (found : value 'n' = some name) :
    Text.Holds (Template.fill create value) ("SEQUENCE " ++ name) := by
  have each : ∀ d ∈ Dialect.all, ∀ create ∈ d.identity.create?,
      Template.texts [("SEQUENCE ", 'n')] "" <:+: Template.pieces create.toList := by
    simp only [Template.texts, Template.plain, Text.toList_eq_chars]
    decide +kernel
  have filled : ∀ part ∈ [("SEQUENCE ", 'n')], (value part.2).isSome = true := by simp [found]
  simpa [found] using Template.holds_texts filled (each _ known create creates)

private theorem namesWritten_createTable (t : String) (elements : List TableElement) (tail comment : Option String) :
    (Statement.createTable t elements tail comment).NamesWritten s := by
  constructor
  · rintro _ ⟨⟩
    refine ⟨"CREATE ", " (" ++ (", ".intercalate (elements.map (TableElement.sql s)) ++ (")" ++
      ((tail.map fun x => " " ++ x).getD "" ++ (comment.map fun x => " COMMENT=" ++ Text.literal x).getD ""))), ?_⟩
    rw [Statement.sql_createTable, ← String.toList_inj]
    simp
  · rintro _ ⟨⟩
  · intro n given
    obtain ⟨f, declared, rfl⟩ : ∃ f ∈ (Statement.createTable t elements tail comment).foreignKeys, s.name f.name = n := by
      simpa [Statement.givenNames] using given
    refine .inl ((holds_element (mem_foreignKeys_createTable.mp declared)).trans ?_)
    refine ⟨"", " FOREIGN KEY " ++ s.columnList f.columns ++ " " ++ s.reference f ++ s.actions f, ?_⟩
    rw [sql_foreignKey, ← String.toList_inj]
    simp

/-- A statement that gives one name writes it. -/
private theorem namesWritten_of_given {n : String} (creates : st.created? = none) (sequence : st.sequenceName? s = none)
    (given : st.givenNames s = [n])
    (written : Text.Holds (st.sql s) ("CONSTRAINT " ++ n) ∨ Text.Holds (st.sql s) ("INDEX " ++ n)) :
    st.NamesWritten s := by
  constructor
  · simp [creates]
  · simp [sequence]
  · rw [given]
    exact List.forall_mem_singleton.mpr written

private theorem namesWritten_createIndex (t n : String) (columns : List String) (unique : Bool) :
    (Statement.createIndex t n columns unique).NamesWritten s := by
  refine namesWritten_of_given rfl rfl rfl (.inr ?_)
  refine ⟨"CREATE " ++ (if unique then "UNIQUE " else ""), " ON " ++ s.name t ++ " (" ++ s.names columns ++ ")", ?_⟩
  rw [Statement.sql_createIndex, ← String.toList_inj]
  simp

private theorem namesWritten_addPrimaryKey (known : s.dialect ∈ Dialect.all) (h : st ∈ t.keyStatements s.dialect) :
    st.NamesWritten s := by
  obtain ⟨add, drop, placement, -, rfl⟩ := Table.mem_keyStatements.mp h
  have adds : add ∈ s.dialect.additions := by simp [Dialect.additions, placement, Placement.add?]
  exact namesWritten_of_given rfl rfl rfl (.inl (holds_constraint known adds rfl))

private theorem namesWritten_comment (h : st ∈ t.commentStatements s.dialect) : st.NamesWritten s := by
  obtain ⟨-, ⟨text, -, rfl⟩ | ⟨c, -, text, -, rfl⟩⟩ := Table.mem_commentStatements.mp h <;>
    exact ⟨nofun, nofun, nofun⟩

private theorem namesWritten_uniqueStatement (known : s.dialect ∈ Dialect.all) (u : Unique) :
    (t.uniqueStatement s.dialect u).NamesWritten s := by
  unfold Table.uniqueStatement
  split
  · rename_i add drop placement
    have adds : add ∈ s.dialect.additions := by simp [Dialect.additions, placement, UniquePlacement.add?]
    exact namesWritten_of_given rfl rfl rfl (.inl (holds_constraint known adds rfl))
  · exact namesWritten_createIndex t.name u.name u.columns true

private theorem namesWritten_foreignKey (known : s.dialect ∈ Dialect.all) (h : st ∈ t.foreignKeyStatements s.dialect) :
    st.NamesWritten s := by
  obtain ⟨add, drop, placement, f, -, rfl⟩ := Table.mem_foreignKeyStatements.mp h
  have adds : add ∈ s.dialect.additions := by simp [Dialect.additions, placement, Placement.add?]
  exact namesWritten_of_given rfl rfl rfl (.inl (holds_constraint known adds rfl))

private theorem namesWritten_createSequence (known : s.dialect ∈ Dialect.all) (h : st ∈ t.createSequences s.dialect) :
    st.NamesWritten s := by
  obtain ⟨create, drop, default, identity, c, -, -, rfl⟩ := Table.mem_createSequences.mp h
  refine ⟨nofun, ?_, nofun⟩
  rintro _ ⟨⟩
  exact holds_sequence known (by rw [identity]; rfl) rfl

theorem Table.namesWritten_of_mem (known : s.dialect ∈ Dialect.all) (h : t.createPhases s.dialect = .ok p)
    (hst : st ∈ CreatePhases.statements [p]) : st.NamesWritten s := by
  rcases cases_of_mem_statements h hst with hst | ⟨_, rfl⟩ | hst | hst | ⟨_, -, rfl⟩ | ⟨u, -, rfl⟩ | hst
  · exact namesWritten_createSequence known hst
  · exact namesWritten_createTable _ _ _ _
  · exact namesWritten_addPrimaryKey known hst
  · exact namesWritten_comment hst
  · exact namesWritten_createIndex _ _ _ _
  · exact namesWritten_uniqueStatement known u
  · exact namesWritten_foreignKey known hst

end Written

/-! ### The names of a table -/

namespace Table

variable {s : Style} {t : Table} {p : CreatePhases}

/-- The names that the creation of a table gives: that of a key of its own, and those of the declared constraints. -/
def allNames (s : Style) (t : Table) : List String :=
  (t.keyStatements s.dialect).flatMap (Statement.givenNames s) ++ t.constraints.map fun k => s.name k.name

private theorem givenNames_createSequences : (t.createSequences s.dialect).flatMap (Statement.givenNames s) = [] := by
  rw [List.flatMap_eq_nil_iff]
  intro st hst
  obtain ⟨_, _, _, -, c, -, -, rfl⟩ := mem_createSequences.mp hst
  rfl

private theorem givenNames_commentStatements :
    (t.commentStatements s.dialect).flatMap (Statement.givenNames s) = [] := by
  rw [List.flatMap_eq_nil_iff]
  intro st hst
  obtain ⟨-, ⟨text, -, rfl⟩ | ⟨c, -, text, -, rfl⟩⟩ := mem_commentStatements.mp hst <;> rfl

private theorem givenNames_uniqueStatement (u : Unique) :
    (t.uniqueStatement s.dialect u).givenNames s = [s.name u.name] := by
  unfold uniqueStatement
  split <;> rfl

private theorem givenNames_creation (definitions : List ColumnDefinition) (tail comment : Option String) :
    (Statement.createTable t.name (definitions.map .column ++ t.keyElements s.dialect ++
      t.foreignKeyElements s.dialect) tail comment).givenNames s =
      ((t.foreignKeyElements s.dialect).filterMap TableElement.foreignKey?).map fun f => s.name f.name := by
  have columns : (definitions.map TableElement.column).filterMap TableElement.foreignKey? = [] := by
    simp [TableElement.foreignKey?]
  have key : (t.keyElements s.dialect).filterMap TableElement.foreignKey? = [] := by
    unfold keyElements
    split <;> rfl
  have names (elements : List TableElement) : (Statement.createTable t.name elements tail comment).givenNames s =
      (elements.filterMap TableElement.foreignKey?).map fun f => s.name f.name := List.append_nil _
  rw [names, List.filterMap_append, List.filterMap_append, columns, key, List.nil_append, List.nil_append]

/-- Foreign keys are named once, in the definition of the table or behind it. -/
private theorem givenNames_foreignKeys :
    t.foreignKeys.map (fun f => s.name f.name) =
      ((t.foreignKeyElements s.dialect).filterMap TableElement.foreignKey?).map (fun f => s.name f.name) ∧
        (t.foreignKeyStatements s.dialect).flatMap (Statement.givenNames s) = [] ∨
    ((t.foreignKeyElements s.dialect).filterMap TableElement.foreignKey?).map (fun f => s.name f.name) = [] ∧
      (t.foreignKeyStatements s.dialect).flatMap (Statement.givenNames s) =
        t.foreignKeys.map fun f => s.name f.name := by
  unfold foreignKeyElements foreignKeyStatements
  cases placement : s.dialect.foreignKey with
  | inline => exact .inl ⟨by simp [TableElement.foreignKey?, Function.comp_def], rfl⟩
  | alter add drop =>
    refine .inr ⟨rfl, ?_⟩
    rw [List.flatMap_map, List.map_eq_flatMap]
    rfl

theorem givenNames_perm (h : t.createPhases s.dialect = .ok p) :
    ((CreatePhases.statements [p]).flatMap (Statement.givenNames s)).Perm (t.allNames s) := by
  have declared : (t.constraints.map fun k => s.name k.name) = t.foreignKeys.map (fun f => s.name f.name) ++
      (t.indexes.map (fun i => s.name i.name) ++ t.uniques.map fun u => s.name u.name) := by
    simp [constraints, Function.comp_def]
  have indexes : t.indexStatements.flatMap (Statement.givenNames s) = t.indexes.map fun i => s.name i.name := by
    rw [indexStatements, List.flatMap_map, List.map_eq_flatMap]
    rfl
  have uniques : (t.uniqueStatements s.dialect).flatMap (Statement.givenNames s) =
      t.uniques.map fun u => s.name u.name := by
    rw [uniqueStatements, List.flatMap_map, List.map_eq_flatMap]
    simp only [givenNames_uniqueStatement]
  obtain ⟨definitions, -, rfl⟩ := eq_of_createPhases h
  simp only [CreatePhases.statements, List.flatMap_cons, List.flatMap_nil, List.append_nil, List.flatMap_append]
  rw [← indexStatements, ← uniqueStatements, givenNames_createSequences, givenNames_commentStatements,
    givenNames_creation, indexes, uniques, allNames, declared]
  rcases @givenNames_foreignKeys s t with ⟨inline, none_later⟩ | ⟨none_inline, later⟩
  · rw [← inline, none_later]
    simpa using List.perm_append_comm_assoc _ _ _
  · rw [none_inline, later]
    have behind : (t.indexes.map (fun i => s.name i.name) ++ t.uniques.map (fun u => s.name u.name) ++
        t.foreignKeys.map fun f => s.name f.name).Perm (t.foreignKeys.map (fun f => s.name f.name) ++
          (t.indexes.map (fun i => s.name i.name) ++ t.uniques.map fun u => s.name u.name)) := List.perm_append_comm
    simpa using behind.append_left _

theorem filterMap_sequenceName?_createSequences :
    (t.createSequences s.dialect).filterMap (Statement.sequenceName? s) =
      if s.dialect.usesSequences then
        (t.columns.filter (·.isIdentity)).map fun c => s.sequenceName t.name c.name
      else [] := by
  unfold createSequences Dialect.usesSequences
  cases s.dialect.identity with
  | sequence create drop default =>
    rw [List.filterMap_map]
    show List.filterMap (some ∘ fun c : Column => s.sequenceName t.name c.name) _ = List.map _ _
    rw [List.filterMap_eq_map]
  | keyword keyword => rfl
  | rowid => rfl
  | serial narrow wide => rfl

/-- The sequences that the creation of a table creates, by their names. -/
theorem filterMap_sequenceName? (h : t.createPhases s.dialect = .ok p) :
    (CreatePhases.statements [p]).filterMap (Statement.sequenceName? s) =
      (t.createSequences s.dialect).filterMap (Statement.sequenceName? s) := by
  have tables : p.tables.filterMap (Statement.sequenceName? s) = [] := by
    refine List.filterMap_eq_nil_iff.mpr fun st hst => ?_
    have defines := definesTable_of_mem_tables h hst
    cases st <;> first | rfl | cases defines
  have indexes : p.indexes.filterMap (Statement.sequenceName? s) = [] := by
    rw [indexes_of_createPhases h]
    simp [indexStatements, Statement.sequenceName?]
  have uniques : p.uniques.filterMap (Statement.sequenceName? s) = [] := by
    rw [uniques_of_createPhases h]
    refine List.filterMap_eq_nil_iff.mpr fun st hst => ?_
    obtain ⟨u, -, rfl⟩ := List.mem_map.mp hst
    unfold uniqueStatement
    split <;> rfl
  have foreignKeys : p.foreignKeys.filterMap (Statement.sequenceName? s) = [] := by
    rw [foreignKeys_of_createPhases h]
    refine List.filterMap_eq_nil_iff.mpr fun st hst => ?_
    obtain ⟨-, f, -, reference⟩ := adds_of_mem_foreignKeyStatements hst
    cases st <;> first | rfl | cases reference
  simp only [CreatePhases.statements, List.flatMap_cons, List.flatMap_nil, List.append_nil, List.filterMap_append,
    tables, indexes, uniques, foreignKeys, sequences_of_createPhases h]

/-- A table has no primary key of its own, or one whose name is made up. -/
private theorem keyStatements_cases :
    t.keyStatements s.dialect = [] ∨ s.dialect.primaryKey ≠ .inline ∧ t.keyStatements s.dialect ≠ [] ∧
      (t.keyStatements s.dialect).flatMap (Statement.givenNames s) = [s.keyName t.name] := by
  unfold keyStatements
  cases s.dialect.primaryKey with
  | inline => exact .inl rfl
  | alter add drop =>
    cases t.declaresKey s.dialect with
    | true => exact .inr ⟨nofun, by simp, rfl⟩
    | false => exact .inl rfl

/-- When the names that the creation of a table gives differ from each other and from the name of the table. -/
theorem allNames_apart_iff (known : s.dialect ∈ Dialect.all) (creatable : t.Creatable s.dialect)
    (wellFormed : t.WellFormed) :
    (t.allNames s).Pairwise (fun a b => Text.sameName a b = false) ∧
        (∀ n ∈ t.allNames s, Text.sameName n (s.name t.name) = false) ↔
      (∀ k ∈ t.constraints, ¬s.dialect.Confuses k.name t.name) ∧
        (t.keyStatements s.dialect ≠ [] → ∀ n ∈ t.name :: t.constraints.map (·.name),
          Text.sameName n (s.dialect.fit (wholeKeyName t.name)) = false) := by
  have declared : (t.constraints.map fun k => s.name k.name).Pairwise fun a b => Text.sameName a b = false := by
    have apart := List.pairwise_map.mp creatable.constraints_apart
    refine List.pairwise_map.mpr (apart.imp fun {a b} other => ?_)
    rw [← Bool.not_eq_true]
    exact fun same => other (Dialect.sameName_render_iff.mp same)
  have not_table : (∀ n ∈ t.constraints.map fun k => s.name k.name, Text.sameName n (s.name t.name) = false) ↔
      ∀ k ∈ t.constraints, ¬s.dialect.Confuses k.name t.name := by
    rw [List.forall_mem_map]
    exact forall₂_congr fun k hk => Style.sameName_name_eq_false_iff known (wellFormed.constraint_valid k hk).2
  unfold allNames
  rcases @keyStatements_cases s t with no_key | ⟨-, some_key, names⟩
  · rw [no_key, List.flatMap_nil, List.nil_append, not_table]
    simp [declared]
  · have key (n : String) : Text.sameName (s.keyName t.name) (s.name n) = false ↔
        Text.sameName n (s.dialect.fit (wholeKeyName t.name)) = false := by
      rw [Text.sameName_comm, ← Bool.not_eq_true, ← Bool.not_eq_true, Style.sameName_keyName_iff known]
    rw [names, List.singleton_append, List.pairwise_cons, List.forall_mem_cons, not_table, List.forall_mem_map, key,
      List.forall_mem_cons, List.forall_mem_map]
    simp only [key]
    constructor
    · rintro ⟨⟨apart, -⟩, table, kept⟩
      exact ⟨kept, fun _ => ⟨table, apart⟩⟩
    · rintro ⟨kept, keys⟩
      obtain ⟨table, apart⟩ := keys some_key
      exact ⟨⟨apart, declared⟩, table, kept⟩

end Table

/-! ### The names of a script -/

namespace Schema

variable {s : Style} {tables : List Table} {script : List Statement}

/-- The names of the constraints and indexes of a table that the script gives. -/
def namesOn (s : Style) (script : List Statement) (table : String) : List String :=
  (script.filter (·.table = table)).flatMap (Statement.givenNames s)

/-- What a script satisfies that gives no name twice. -/
structure GivesNamesOnce (s : Style) (script : List Statement) : Prop where
  tables_apart : (script.filterMap Statement.created?).Pairwise fun a b => Text.sameName (s.name a) (s.name b) = false
  sequences_apart : (script.filterMap (Statement.sequenceName? s)).Pairwise fun a b => Text.sameName a b = false
  /-- The constraints and indexes of one table have different names. -/
  constraints_apart : ∀ t ∈ script.filterMap Statement.created?,
    (namesOn s script t).Pairwise fun a b => Text.sameName a b = false
  constraints_not_table : ∀ t ∈ script.filterMap Statement.created?, ∀ n ∈ namesOn s script t,
    Text.sameName n (s.name t) = false

/-- The tables and columns whose rows sequences number. -/
def numbered (d : Dialect) (tables : List Table) : List (String × String) :=
  if d.usesSequences then tables.flatMap fun t => (t.columns.filter (·.isIdentity)).map fun c => (t.name, c.name)
  else []

/-- What tables satisfy whose names a dialect keeps apart, also from names that it makes up. -/
structure Unconfused (d : Dialect) (tables : List Table) : Prop where
  tables_kept : tables.Pairwise fun t u => ¬d.Confuses t.name u.name
  constraints_kept : ∀ t ∈ tables, ∀ k ∈ t.constraints, ¬d.Confuses k.name t.name
  sequences_kept : (numbered d tables).Pairwise fun a b =>
    Text.sameName (d.fit (wholeSequenceName a.1 a.2)) (d.fit (wholeSequenceName b.1 b.2)) = false
  keys_kept : ∀ t ∈ tables, t.keyStatements d ≠ [] → ∀ n ∈ t.name :: t.constraints.map (·.name),
    Text.sameName n (d.fit (wholeKeyName t.name)) = false

private theorem statements_perm {ps qs : List CreatePhases} (same : qs.Perm ps) :
    (CreatePhases.statements ps).Perm (qs.flatMap fun p => CreatePhases.statements [p]) := by
  rw [List.flatMap_def]
  exact ((CreatePhases.interleaves_statements ps).of_perm (same.symm.map _)).perm

/-- The statements of a script that are about one of its tables are those that create the table on its own. -/
theorem filter_table_perm (known : d ∈ Dialect.all) (h : create d tables = .ok script) {t : Table} (ht : t ∈ tables) :
    ∃ p, t.createPhases d = .ok p ∧ (script.filter (·.table = t.name)).Perm (CreatePhases.statements [p]) := by
  obtain ⟨checked, -⟩ := exists_of_create h
  obtain ⟨apart, -⟩ := check_eq_ok_iff.mp checked
  obtain ⟨ps, qs, rfl, same, made⟩ := exists_phases h
  have whole := statements_perm same
  -- the statements of the other tables are left out, as their names are others
  obtain ⟨before, after, rfl⟩ := List.append_of_mem ht
  obtain ⟨us, p, ws, rfl, hu, hp, hw⟩ := Outcome.mapM_append_cons_eq_ok (Outcome.mapM_eq_ok_iff.mpr made)
  have table_eq {u : Table} {q : CreatePhases} (phases : u.createPhases d = .ok q) :
      ∀ st ∈ CreatePhases.statements [q], st.table = u.name := fun st hst =>
    (@Table.refersWithin_of_mem ⟨d, false⟩ u q st known phases hst).table_eq
  have others {us : List Table} {qs : List CreatePhases} (made : us.mapM (Table.createPhases d) = .ok qs)
      (other : ∀ u ∈ us, u.name ≠ t.name) :
      (qs.flatMap fun q => CreatePhases.statements [q]).filter (·.table = t.name) = [] := by
    rw [List.filter_eq_nil_iff]
    intro st hst
    obtain ⟨q, hq, hst⟩ := List.mem_flatMap.mp hst
    obtain ⟨u, hu, phases⟩ := Outcome.exists_of_mem_of_mapM_eq_ok made hq
    rw [table_eq phases st hst]
    simpa using other u hu
  have differ {u : Table} (no : Text.sameName u.name t.name = false) : u.name ≠ t.name := by
    intro equal
    rw [equal, Text.sameName_refl] at no
    cases no
  obtain ⟨-, behind, across⟩ := List.pairwise_append.mp apart
  have in_front := others hu fun u mem => differ (across u mem t List.mem_cons_self)
  have in_back := others hw fun u mem => differ (Text.sameName_comm _ _ ▸ List.rel_of_pairwise_cons behind mem)
  have own : (CreatePhases.statements [p]).filter (·.table = t.name) = CreatePhases.statements [p] :=
    List.filter_eq_self.mpr fun st hst => by simpa using table_eq hp st hst
  refine ⟨p, hp, (whole.filter _).trans ?_⟩
  rw [List.flatMap_append, List.flatMap_cons, List.filter_append, List.filter_append, in_front, in_back, own,
    List.nil_append, List.append_nil]

theorem created_perm_of_create {d : Dialect} (h : create d tables = .ok script) :
    (script.filterMap Statement.created?).Perm (tables.map (·.name)) := by
  obtain ⟨-, ordered, ps, order, phases, rfl⟩ := exists_of_create h
  rw [CreatePhases.created_perm phases]
  exact (creationOrder_perm order).map _

theorem sequences_perm_of_create (h : create s.dialect tables = .ok script) :
    (script.filterMap (Statement.sequenceName? s)).Perm
      ((numbered s.dialect tables).map fun x => s.sequenceName x.1 x.2) := by
  obtain ⟨ps, qs, rfl, same, made⟩ := exists_phases h
  refine ((statements_perm same).filterMap _).trans (List.Perm.of_eq ?_)
  rw [List.filterMap_flatMap, numbered]
  have each := Outcome.flatMap_eq_flatMap made fun t p phases => (Table.filterMap_sequenceName? phases).symm
  rw [← each]
  simp only [Table.filterMap_sequenceName?_createSequences]
  split
  · simp [List.map_flatMap, Function.comp_def]
  · simp

theorem namesOn_perm (known : s.dialect ∈ Dialect.all) (h : create s.dialect tables = .ok script) {t : Table}
    (ht : t ∈ tables) : (namesOn s script t.name).Perm (t.allNames s) := by
  obtain ⟨p, phases, own⟩ := filter_table_perm known h ht
  exact (own.flatMap_right _).trans (Table.givenNames_perm phases)

private theorem pairwise_sameName_iff {xs ys : List String} (perm : xs.Perm ys) :
    xs.Pairwise (fun a b => Text.sameName a b = false) ↔ ys.Pairwise fun a b => Text.sameName a b = false :=
  perm.pairwise_iff fun {a b} other => by rwa [Text.sameName_comm]

private theorem sequences_apart_iff (known : s.dialect ∈ Dialect.all) (h : create s.dialect tables = .ok script) :
    (script.filterMap (Statement.sequenceName? s)).Pairwise (fun a b => Text.sameName a b = false) ↔
      (numbered s.dialect tables).Pairwise fun a b =>
        Text.sameName (s.dialect.fit (wholeSequenceName a.1 a.2)) (s.dialect.fit (wholeSequenceName b.1 b.2)) =
          false := by
  rw [pairwise_sameName_iff (sequences_perm_of_create h), List.pairwise_map]
  unfold numbered
  split
  · simp only [← Bool.not_eq_true, Style.sameName_sequenceName_iff known]
  · simp

private theorem tables_apart_iff (known : s.dialect ∈ Dialect.all) (h : create s.dialect tables = .ok script) :
    (script.filterMap Statement.created?).Pairwise (fun a b => Text.sameName (s.name a) (s.name b) = false) ↔
      tables.Pairwise fun t u => ¬s.dialect.Confuses t.name u.name := by
  obtain ⟨checked, -⟩ := exists_of_create h
  have apart := (check_eq_ok_iff.mp checked).1
  rw [(created_perm_of_create h).pairwise_iff fun {a b} other => by rwa [Text.sameName_comm], List.pairwise_map]
  constructor
  · intro written
    exact (apart.and written).imp fun ⟨other, written⟩ => (Style.sameName_name_eq_false_iff known other).mp written
  · intro kept
    exact (apart.and kept).imp fun ⟨other, kept⟩ => (Style.sameName_name_eq_false_iff known other).mpr kept

private theorem names_on_tables_iff (known : s.dialect ∈ Dialect.all) (made : ∀ t ∈ tables, t.Reachable)
    (h : create s.dialect tables = .ok script) :
    (∀ t ∈ script.filterMap Statement.created?, (namesOn s script t).Pairwise (fun a b => Text.sameName a b = false) ∧
        ∀ n ∈ namesOn s script t, Text.sameName n (s.name t) = false) ↔
      ∀ t ∈ tables, (∀ k ∈ t.constraints, ¬s.dialect.Confuses k.name t.name) ∧
        (t.keyStatements s.dialect ≠ [] → ∀ n ∈ t.name :: t.constraints.map (·.name),
          Text.sameName n (s.dialect.fit (wholeKeyName t.name)) = false) := by
  obtain ⟨checked, -⟩ := exists_of_create h
  have each := (check_eq_ok_iff.mp checked).2
  have listed (n : String) : n ∈ script.filterMap Statement.created? ↔ n ∈ tables.map (·.name) :=
    (created_perm_of_create h).mem_iff
  simp only [listed, List.forall_mem_map]
  refine forall₂_congr fun t ht => ?_
  have names := namesOn_perm known h ht
  rw [pairwise_sameName_iff names, ← Table.allNames_apart_iff known (each t ht).1 (made t ht).wellFormed]
  simp only [names.mem_iff]

private theorem givesNamesOnce_iff (known : s.dialect ∈ Dialect.all) (made : ∀ t ∈ tables, t.Reachable)
    (h : create s.dialect tables = .ok script) : GivesNamesOnce s script ↔ Unconfused s.dialect tables := by
  have on_tables := names_on_tables_iff known made h
  constructor
  · rintro ⟨tables, sequences, constraints, not_table⟩
    have names := on_tables.mp fun t created => ⟨constraints t created, not_table t created⟩
    exact ⟨(tables_apart_iff known h).mp tables, fun t ht => (names t ht).1, (sequences_apart_iff known h).mp sequences,
      fun t ht => (names t ht).2⟩
  · rintro ⟨tables, constraints, sequences, keys⟩
    have names := on_tables.mpr fun t ht => ⟨constraints t ht, keys t ht⟩
    exact ⟨(tables_apart_iff known h).mpr tables, (sequences_apart_iff known h).mpr sequences,
      fun t created => (names t created).1, fun t created => (names t created).2⟩

private theorem namesWritten_of_create (known : s.dialect ∈ Dialect.all) (h : create s.dialect tables = .ok script) :
    ∀ st ∈ script, st.NamesWritten s := by
  intro st hst
  obtain ⟨ps, qs, rfl, same, made⟩ := exists_phases h
  obtain ⟨q, hq, hst⟩ := List.mem_flatMap.mp ((statements_perm same).mem_iff.mp hst)
  obtain ⟨t, -, phases⟩ := Outcome.exists_of_mem_right made hq
  exact Table.namesWritten_of_mem known phases hst

/-- The script of tables gives each name once, in the texts of its statements, unless the dialect confuses two names of
the tables or a made-up name with another one. -/
theorem script_gives_names_once_iff (known : s.dialect ∈ Dialect.all) (made : ∀ t ∈ tables, t.Reachable)
    {texts : List String} (h : createSql s tables = .ok texts) :
    ∃ script, create s.dialect tables = .ok script ∧ texts = script.map (Statement.sql s) ∧
      (∀ st ∈ script, st.NamesWritten s) ∧ (GivesNamesOnce s script ↔ Unconfused s.dialect tables) := by
  obtain ⟨script, created, written⟩ := Outcome.map_eq_ok_iff.mp h
  exact ⟨script, created, written.symm, namesWritten_of_create known created, givesNamesOnce_iff known made created⟩

theorem script_of_orders_gives_names_once :
    Dialect.informix ∈ Dialect.all ∧ (∀ t ∈ [orders, people], t.Reachable) ∧
      Unconfused .informix [orders, people] ∧
      ∃ texts script, createSql ⟨.informix, true⟩ [orders, people] = .ok texts ∧
        create .informix [orders, people] = .ok script ∧ texts = script.map (Statement.sql ⟨.informix, true⟩) ∧
        (∀ st ∈ script, st.NamesWritten ⟨.informix, true⟩) ∧ GivesNamesOnce ⟨.informix, true⟩ script := by
  have known : Dialect.informix ∈ Dialect.all := by decide +kernel
  have made : ∀ t ∈ [orders, people], t.Reachable := by decide +kernel
  have unconfused : Unconfused .informix [orders, people] := by
    constructor <;> decide +kernel
  have created : (createSql ⟨.informix, true⟩ [orders, people]).map List.length = .ok 7 := by decide +kernel
  obtain ⟨texts, h, -⟩ := Outcome.map_eq_ok_iff.mp created
  have ⟨script, create, written, names, once⟩ := @script_gives_names_once_iff ⟨.informix, true⟩ _ known made texts h
  exact ⟨known, made, unconfused, texts, script, h, create, written, names, once.mpr unconfused⟩

/-- Two tables one of which has the other's name with the ending of reserved names. -/
def orderAttributes : List Table :=
  [{ name := "order", columns := [{ name := "id", type := .bigint }] },
    { name := "order_attribute", columns := [{ name := "value", type := .bigint }] }]

/-- The second table is created under the name that the first one has in statements. -/
theorem order_attribute_created_twice :
    Dialect.postgresql ∈ Dialect.all ∧ (∀ t ∈ orderAttributes, t.Reachable) ∧
      createSql ⟨.postgresql, false⟩ orderAttributes =
        .ok ["CREATE TABLE order_attribute (id BIGINT)", "CREATE TABLE order_attribute (value BIGINT)"] ∧
      ∃ script, create .postgresql orderAttributes = .ok script ∧ ¬GivesNamesOnce ⟨.postgresql, false⟩ script := by
  refine ⟨by decide +kernel, by decide +kernel, by decide +kernel, ?_⟩
  have created : (create .postgresql orderAttributes).map (·.filterMap Statement.created?) =
      .ok ["order", "order_attribute"] := by decide +kernel
  obtain ⟨script, h, tables⟩ := Outcome.map_eq_ok_iff.mp created
  refine ⟨script, h, fun once => ?_⟩
  have apart := once.tables_apart
  rw [tables] at apart
  exact absurd apart (by decide +kernel)

/-- The sequences of two identity columns under one name. -/
example : (createSql ⟨.duckdb, false⟩
    [{ name := "a_b", columns := [{ name := "c", type := .bigint, isIdentity := true }] },
      { name := "a", columns := [{ name := "b_c", type := .bigint, isIdentity := true }] }]).map (·.take 2) =
    .ok ["CREATE SEQUENCE a_b_c_seq START 1", "CREATE SEQUENCE a_b_c_seq START 1"] := by decide +kernel

/-- An index under the name that is made up for the primary key. -/
example : ((create .informix
    [{ name := "t", columns := [{ name := "id", type := .bigint, nullable := false, inKey := true }],
       indexes := [{ name := "pk_t", columns := ["id"] }] }]).map fun script =>
    namesOn ⟨.informix, false⟩ script "t") = .ok ["PK_t", "pk_t"] := by decide +kernel

end Schema

end SqlSchema
