import SqlSchema.Proofs.Script.Definitions
import SqlSchema.Script.Alter

/-!
# Columns added later

A column that is added to a table that exists is declared as it is when the table is created with it
(`column_added_as_created`): with the same sequence and comment, and under the same definition. Where the definition is
split, the first statement takes the definition of the column made nullable and without default, which is again one that
a creation writes (`relax`), and the statements behind it set what was left out.
-/

namespace SqlSchema

/-! ### The texts of added columns -/

namespace Style

open Template

variable {s : Style} {t c : String}

theorem sql_addColumn (known : s.dialect ∈ Dialect.all) (x : ColumnDefinition) : ∃ keyword ∈ ["", "COLUMN "],
    (Statement.addColumn s.dialect.addColumn t x).sql s =
      "ALTER TABLE " ++ s.name t ++ " ADD " ++ keyword ++ x.sql s := by
  have each : ∀ d ∈ Dialect.all, ∃ keyword ∈ ["", "COLUMN "], pieces d.addColumn.toList =
      texts [("ALTER TABLE ", 't'), (" ADD " ++ keyword, 'd')] "" := by
    simp only [texts, plain, Text.toList_eq_chars]
    decide +kernel
  obtain ⟨keyword, listed, split⟩ := each _ known
  have text : (Statement.addColumn s.dialect.addColumn t x).sql s =
      fill s.dialect.addColumn ([('t', s.name t), ('d', x.sql s)].lookup ·) := rfl
  refine ⟨keyword, listed, ?_⟩
  rw [text, fill_texts (by simp [List.lookup_cons]) split]
  simp [List.lookup_cons, String.append_assoc]

variable {split : SplitAdd}

theorem sql_setDefault (known : s.dialect ∈ Dialect.all) (splits : s.dialect.splitAdd = some split) (v : Default) :
    (Statement.setDefault split.setDefault t c v).sql s =
      "ALTER TABLE " ++ s.name t ++ " ALTER COLUMN " ++ s.name c ++ " SET DEFAULT " ++ s.dialect.defaultLiteral v := by
  have each : ∀ d ∈ Dialect.all, ∀ split ∈ d.splitAdd, pieces split.setDefault.toList =
      texts [("ALTER TABLE ", 't'), (" ALTER COLUMN ", 'c'), (" SET DEFAULT ", 'v')] "" := by
    simp only [texts, plain, Text.toList_eq_chars]
    decide +kernel
  have text : (Statement.setDefault split.setDefault t c v).sql s = fill split.setDefault
      ([('t', s.name t), ('c', s.name c), ('v', s.dialect.defaultLiteral v)].lookup ·) := rfl
  rw [text, fill_texts (by simp [List.lookup_cons]) (each _ known split splits)]
  simp [List.lookup_cons, String.append_assoc]

theorem sql_setNotNull (known : s.dialect ∈ Dialect.all) (splits : s.dialect.splitAdd = some split) :
    ∃ keyword ∈ ["", "SET "], (Statement.setNotNull split.setNotNull t c).sql s =
      "ALTER TABLE " ++ s.name t ++ " ALTER COLUMN " ++ s.name c ++ (" " ++ keyword ++ "NOT NULL") := by
  have each : ∀ d ∈ Dialect.all, ∀ split ∈ d.splitAdd, ∃ keyword ∈ ["", "SET "], pieces split.setNotNull.toList =
      texts [("ALTER TABLE ", 't'), (" ALTER COLUMN ", 'c')] (" " ++ keyword ++ "NOT NULL") := by
    simp only [texts, plain, Text.toList_eq_chars]
    decide +kernel
  obtain ⟨keyword, listed, pieces⟩ := each _ known split splits
  have text : (Statement.setNotNull split.setNotNull t c).sql s =
      fill split.setNotNull ([('t', s.name t), ('c', s.name c)].lookup ·) := rfl
  refine ⟨keyword, listed, ?_⟩
  rw [text, fill_texts (by simp [List.lookup_cons]) pieces]
  simp [List.lookup_cons, String.append_assoc]

end Style

/-! ### Statements about one column -/

/-- Whether a statement creates the sequence of a column of that name. -/
def Statement.numbers (column : String) : Statement → Bool
  | .createSequence _ _ c => c = column
  | _ => false

/-- Whether a statement comments on a column of that name. -/
def Statement.commentsOn (column : String) : Statement → Bool
  | .commentOnColumn _ c _ => c = column
  | _ => false

/-- The definition under which a script creates a column of a table, the only one with its name. -/
def CreatesColumn (s : Style) (script : List Statement) (table column : String) (x : ColumnDefinition) : Prop :=
  ∃ creation, script.filter (·.created? = some table) = [creation] ∧
    creation.definitions.filter (·.name = column) = [x] ∧ Text.Holds (creation.sql s) (x.sql s)

namespace Table

variable {s : Style} {d : Dialect} {t : Table} {c : Column} {created : List Statement}

private theorem filter_columns (creatable : t.Creatable d) (hc : c ∈ t.columns) :
    t.columns.filter (fun x => x.name = c.name) = [c] := by
  refine Outcome.filter_eq_singleton ?_ hc
  exact (List.pairwise_map.mp creatable.columns_apart).imp fun {a b} apart same => apart (congrArg d.writtenKey same)

/-- The statements of a script with a property that no keys, indexes and constraints have. -/
private theorem filter_create (h : t.create d = .ok created) {p : Statement → Bool}
    (key : ∀ add, p (.addPrimaryKey add t.name t.keyNames) = false)
    (index : ∀ n columns unique, p (.createIndex t.name n columns unique) = false)
    (unique : ∀ add n columns, p (.addUnique add t.name n columns) = false)
    (foreign : ∀ add f, p (.addForeignKey add t.name f) = false) :
    ∃ definitions, t.Defined d definitions ∧ created.filter p = (t.createSequences d).filter p ++
      [t.creation d definitions].filter p ++ (t.commentStatements d).filter p := by
  obtain ⟨-, definitions, defined, rfl⟩ := eq_of_create h
  have keys : (t.keyStatements d).filter p = [] := List.filter_eq_nil_iff.mpr fun st hst => by
    obtain ⟨add, _, -, -, rfl⟩ := mem_keyStatements.mp hst
    simp [key]
  have later : (t.laterStatements d).filter p = [] := List.filter_eq_nil_iff.mpr fun st hst => by
    obtain ⟨_, _, _, rfl⟩ | ⟨_, _, _, rfl⟩ | ⟨_, _, rfl⟩ := eq_of_mem_laterStatements hst <;>
      simp [index, unique, foreign]
  refine ⟨definitions, defined, ?_⟩
  rw [List.append_cons, List.filter_append, List.filter_append, List.filter_append, List.filter_append, keys, later]
  simp

theorem filter_numbers (h : t.create d = .ok created) (hc : c ∈ t.columns) :
    created.filter (Statement.numbers c.name) = { t with columns := [c] }.createSequences d := by
  obtain ⟨definitions, -, parts⟩ := filter_create h (p := Statement.numbers c.name) (fun _ => rfl) (fun _ _ _ => rfl)
    (fun _ _ _ => rfl) fun _ _ => rfl
  have comments : (t.commentStatements d).filter (Statement.numbers c.name) = [] :=
    List.filter_eq_nil_iff.mpr fun st hst => by
      obtain ⟨-, ⟨text, -, rfl⟩ | ⟨c, -, text, -, rfl⟩⟩ := mem_commentStatements.mp hst <;> exact Bool.false_ne_true
  have creation : [t.creation d definitions].filter (Statement.numbers c.name) = [] := rfl
  rw [parts, comments, creation, List.append_nil, List.append_nil]
  unfold createSequences
  split
  · rename_i create _ _ _
    have named : (Statement.numbers c.name ∘ fun x : Column => Statement.createSequence create t.name x.name) =
        fun x => decide (x.name = c.name) := rfl
    rw [List.filter_map, named, List.filter_filter]
    simp only [Bool.and_comm]
    rw [← List.filter_filter, filter_columns (eq_of_create h).1 hc]
  · rfl

theorem filter_commentsOn (h : t.create d = .ok created) (hc : c ∈ t.columns) :
    created.filter (Statement.commentsOn c.name) =
      if d.comments = .statement then c.comment.toList.map (.commentOnColumn t.name c.name) else [] := by
  obtain ⟨definitions, -, parts⟩ := filter_create h (p := Statement.commentsOn c.name) (fun _ => rfl) (fun _ _ _ => rfl)
    (fun _ _ _ => rfl) fun _ _ => rfl
  have sequences : (t.createSequences d).filter (Statement.commentsOn c.name) = [] :=
    List.filter_eq_nil_iff.mpr fun st hst => by
      obtain ⟨_, _, _, -, c, -, -, rfl⟩ := mem_createSequences.mp hst
      exact Bool.false_ne_true
  have creation : [t.creation d definitions].filter (Statement.commentsOn c.name) = [] := rfl
  rw [parts, sequences, creation, List.nil_append, List.nil_append]
  unfold commentStatements
  split
  · have table : (t.comment.toList.map (Statement.commentOnTable t.name)).filter (Statement.commentsOn c.name) = [] := by
      cases t.comment <;> rfl
    have named : ∀ x : Column, ∀ st ∈ x.comment.toList.map (Statement.commentOnColumn t.name x.name),
        st.commentsOn c.name = decide (x.name = c.name) := by
      intro x st hst
      obtain ⟨text, -, rfl⟩ := List.mem_map.mp hst
      rfl
    rw [List.filter_append, table, List.nil_append, Outcome.filter_flatMap_of_forall named,
      filter_columns (eq_of_create h).1 hc, List.flatMap_singleton]
  · rfl

/-- The script that creates a table creates each column under one definition. -/
private theorem createsColumn_of_create (h : t.create s.dialect = .ok created) (hc : c ∈ t.columns) :
    ∃ x, c.definition s.dialect t.name false = .ok x ∧ CreatesColumn s created t.name c.name x := by
  obtain ⟨definitions, defined, parts⟩ := filter_create h (p := fun st => st.created? = some t.name) (fun _ => rfl)
    (fun _ _ _ => rfl) (fun _ _ _ => rfl) fun _ _ => rfl
  have sequences : (t.createSequences s.dialect).filter (fun st => st.created? = some t.name) = [] :=
    List.filter_eq_nil_iff.mpr fun st hst => by
      obtain ⟨_, _, _, -, c, -, -, rfl⟩ := mem_createSequences.mp hst
      exact Bool.false_ne_true
  have comments : (t.commentStatements s.dialect).filter (fun st => st.created? = some t.name) = [] :=
    List.filter_eq_nil_iff.mpr fun st hst => by
      obtain ⟨-, ⟨text, -, rfl⟩ | ⟨c, -, text, -, rfl⟩⟩ := mem_commentStatements.mp hst <;> exact Bool.false_ne_true
  have creation : [t.creation s.dialect definitions].filter (fun st => st.created? = some t.name) =
      [t.creation s.dialect definitions] := by simp [Table.creation, Statement.created?]
  rw [sequences, comments, creation, List.nil_append, List.append_nil] at parts
  have named : ∀ x y, Column.definition s.dialect t.name x false = .ok y →
      decide (x.name = c.name) = decide (y.name = c.name) := by
    intro x y made
    obtain ⟨type, -, rfl⟩ := Column.definition_eq_ok_iff.mp made
    rfl
  have only := Outcome.forall₂_filter defined named
  rw [filter_columns (eq_of_create h).1 hc] at only
  obtain ⟨x, made, single⟩ : ∃ x, c.definition s.dialect t.name false = .ok x ∧
      definitions.filter (fun y => y.name = c.name) = [x] := by
    obtain ⟨x, rest, made, nothing, single⟩ := List.forall₂_cons_left_iff.mp only
    rw [List.forall₂_nil_left_iff] at nothing
    exact ⟨x, made, nothing ▸ single⟩
  refine ⟨x, made, t.creation s.dialect definitions, parts, by rwa [definitions_creation], ?_⟩
  have there : x ∈ definitions := by
    refine (List.mem_filter (p := fun y => y.name = c.name)).mp ?_ |>.1
    rw [single]
    exact List.mem_singleton_self x
  rw [← TableElement.sql_column]
  exact holds_element (List.mem_append_left _ (List.mem_append_left _ (List.mem_map_of_mem there)))

end Table

/-! ### Relaxed columns -/

/-- The column without what a split sets later. -/
def Column.relaxed (c : Column) : Column := { c with nullable := true, default := none }

/-- What a split takes is the whole definition of the relaxed column. -/
theorem Column.definition_relaxed {d : Dialect} {c : Column} {table : String} :
    c.relaxed.definition d table false = c.definition d table true := rfl

namespace Table

variable {s : Style} {d : Dialect} {t : Table} {c : Column} {created script : List Statement}

/-- The table with the column of that name made nullable and without default. -/
def relax (t : Table) (column : String) : Table :=
  { t with columns := t.columns.map fun c => if c.name = column then c.relaxed else c }

private theorem relaxed_mem_relax (hc : c ∈ t.columns) : c.relaxed ∈ (t.relax c.name).columns :=
  List.mem_map.mpr ⟨c, hc, if_pos rfl⟩

section MapColumns

variable {f : Column → Column} (name : ∀ c, (f c).name = c.name)

include name

private theorem has_map_columns {n : String} (has : t.Has n) : Has { t with columns := t.columns.map f } n := by
  obtain ⟨c, hc, same⟩ := has
  exact ⟨f c, List.mem_map_of_mem hc, by rwa [name]⟩

/-- Whether a table can be created does not depend on the types, nulls and defaults of its columns. -/
private theorem creatable_map_columns (inKey : ∀ c, (f c).inKey = c.inKey)
    (isIdentity : ∀ c, (f c).isIdentity = c.isIdentity) (creatable : t.Creatable d) :
    Creatable d { t with columns := t.columns.map f } := by
  have names : (t.columns.map f).map (·.name) = t.columns.map (·.name) := by
    rw [List.map_map]
    exact List.map_congr_left fun c _ => name c
  have keys : ((t.columns.map f).filter (·.inKey)).map (·.name) = (t.columns.filter (·.inKey)).map (·.name) := by
    have same : (fun c : Column => c.inKey) ∘ f = (·.inKey) := funext inKey
    rw [List.filter_map, List.map_map, same]
    exact List.map_congr_left fun c _ => name c
  constructor
  · simpa using creatable.has_columns
  · exact fun k hk n hn => has_map_columns name (creatable.constraint_columns k hk n hn)
  · rw [names]
    exact creatable.columns_apart
  · exact creatable.constraints_apart
  · intro rowid c' hc' numbered
    obtain ⟨c, hc, rfl⟩ := List.mem_map.mp hc'
    rw [isIdentity] at numbered
    rw [name, keyColumns, keys]
    exact creatable.rowid_is_key rowid c hc numbered

end MapColumns

private theorem exists_create_relax (h : t.create d = .ok created) (column : String) :
    ∃ reduced, (t.relax column).create d = .ok reduced := by
  obtain ⟨creatable, references, p, phases, -⟩ := create_eq_ok_iff.mp h
  obtain ⟨definitions, defined, -⟩ := eq_of_createPhases phases
  have name : ∀ c : Column, (if c.name = column then c.relaxed else c).name = c.name := by
    intro c
    split <;> rfl
  have kept : (t.relax column).Creatable d := by
    refine creatable_map_columns name ?_ ?_ creatable
    · intro c
      split <;> rfl
    · intro c
      split <;> rfl
  have typed : ∀ c ∈ (t.relax column).columns, ∃ x, c.definition d t.name false = .ok x := by
    intro c' hc'
    obtain ⟨c, hc, rfl⟩ := List.mem_map.mp hc'
    obtain ⟨x, -, made⟩ := Outcome.exists_of_mem_right (Outcome.mapM_eq_ok_iff.mp defined).flip hc
    obtain ⟨type, typed, -⟩ := Column.definition_eq_ok_iff.mp made
    split
    · exact ⟨_, Column.definition_eq_ok_iff.mpr ⟨type, typed, rfl⟩⟩
    · exact ⟨x, made⟩
  obtain ⟨reduced, defined⟩ := Outcome.exists_mapM_eq_ok typed
  have referred : ∀ f ∈ t.foreignKeys, Text.sameName f.refTable t.name = true → ∀ n ∈ f.refColumns,
      (t.relax column).Has n := fun f hf same n hn => has_map_columns name (references f hf same n hn)
  obtain ⟨q, phases⟩ : ∃ q, (t.relax column).createPhases d = .ok q :=
    ⟨_, Outcome.bind_eq_ok_iff.mpr ⟨reduced, defined, rfl⟩⟩
  exact ⟨_, create_eq_ok_iff.mpr ⟨kept, referred, q, phases, rfl⟩⟩

/-! ### Adding a column -/

/-- The texts that add a column to a table, against the script that creates the table with it. -/
inductive AddedBy (s : Style) (t : Table) (c : Column) (created : List Statement) : List String → Prop where
  | whole {x : ColumnDefinition} {add : String}
      (direct : s.dialect.splitAdd = none ∨ c.nullable = true ∧ c.default = none)
      (defined : CreatesColumn s created t.name c.name x) (spelling : add ∈ ["", "COLUMN "]) :
      AddedBy s t c created ["ALTER TABLE " ++ s.name t.name ++ " ADD " ++ add ++ x.sql s]
  /-- First the relaxed column, then its default and that there are no nulls. -/
  | split {reduced : List Statement} {x : ColumnDefinition} {add set : String} (splits : s.dialect.splitAdd ≠ none)
      (needed : ¬(c.nullable = true ∧ c.default = none)) (relaxed : (t.relax c.name).create s.dialect = .ok reduced)
      (defined : CreatesColumn s reduced t.name c.name x) (spelling : add ∈ ["", "COLUMN "])
      (set_spelling : set ∈ ["", "SET "]) :
      AddedBy s t c created (("ALTER TABLE " ++ s.name t.name ++ " ADD " ++ add ++ x.sql s) ::
        (c.default.toList.map (fun v => "ALTER TABLE " ++ s.name t.name ++ " ALTER COLUMN " ++ s.name c.name ++
            " SET DEFAULT " ++ s.dialect.defaultLiteral v) ++
          if c.nullable then [] else
            ["ALTER TABLE " ++ s.name t.name ++ " ALTER COLUMN " ++ s.name c.name ++ (" " ++ set ++ "NOT NULL")]))

theorem addColumnStatements_of_direct {x : ColumnDefinition}
    (direct : d.splitAdd = none ∨ c.nullable = true ∧ c.default = none)
    (made : c.definition d t.name false = .ok x) :
    t.addColumnStatements d c = .ok [.addColumn d.addColumn t.name x] := by
  unfold addColumnStatements
  rw [made]
  split
  · rename_i split splits
    rcases direct with none_at_all | ⟨nulls, no_default⟩
    · cases none_at_all.symm.trans splits
    · simp [nulls, no_default, bind, Except.bind]
  · rfl

/-- The definition that a split takes first is the whole one of the relaxed column. -/
theorem addColumnStatements_of_split {split : SplitAdd} {x : ColumnDefinition} (splits : d.splitAdd = some split)
    (needed : ¬(c.nullable = true ∧ c.default = none)) (made : c.relaxed.definition d t.name false = .ok x) :
    t.addColumnStatements d c = .ok (.addColumn d.addColumn t.name x ::
      (c.default.toList.map (.setDefault split.setDefault t.name c.name) ++
        if c.nullable then [] else [.setNotNull split.setNotNull t.name c.name])) := by
  have later : (c.default.isSome || !c.nullable) = true := by
    cases nulls : c.nullable <;> cases default : c.default <;> simp_all
  unfold addColumnStatements
  rw [Column.definition_relaxed] at made
  simp only [splits, later, if_true, made, bind, Except.bind]

private theorem exists_addColumnStatements (known : s.dialect ∈ Dialect.all) (h : t.create s.dialect = .ok created)
    (hc : c ∈ t.columns) : ∃ added, t.addColumnStatements s.dialect c = .ok added ∧
      AddedBy s t c created (added.map (Statement.sql s)) := by
  by_cases direct : s.dialect.splitAdd = none ∨ c.nullable = true ∧ c.default = none
  · obtain ⟨x, made, defined⟩ := createsColumn_of_create h hc
    obtain ⟨add, spelling, text⟩ := Style.sql_addColumn (t := t.name) known x
    refine ⟨_, addColumnStatements_of_direct direct made, ?_⟩
    rw [List.map_singleton, text]
    exact .whole direct defined spelling
  · rw [not_or] at direct
    obtain ⟨split, splits⟩ := Option.ne_none_iff_exists'.mp direct.1
    obtain ⟨reduced, relaxed⟩ := exists_create_relax h c.name
    obtain ⟨x, made, defined⟩ := createsColumn_of_create relaxed (relaxed_mem_relax hc)
    obtain ⟨add, spelling, text⟩ := Style.sql_addColumn (t := t.name) known x
    obtain ⟨set, set_spelling, not_null⟩ := Style.sql_setNotNull (t := t.name) (c := c.name) known splits
    have default : (c.default.toList.map (.setDefault split.setDefault t.name c.name)).map (Statement.sql s) =
        c.default.toList.map fun v => "ALTER TABLE " ++ s.name t.name ++ " ALTER COLUMN " ++ s.name c.name ++
          " SET DEFAULT " ++ s.dialect.defaultLiteral v := by
      rw [List.map_map]
      exact List.map_congr_left fun v _ => Style.sql_setDefault known splits v
    refine ⟨_, addColumnStatements_of_split splits direct.2 made, ?_⟩
    rw [List.map_cons, List.map_append, text, default, apply_ite (List.map (Statement.sql s)), List.map_nil,
      List.map_singleton, not_null]
    exact .split direct.1 direct.2 relaxed defined spelling set_spelling

theorem addColumnScript_eq_ok_iff : t.addColumnScript d c = .ok script ↔
    c.inKey = false ∧ ¬(c.isIdentity = true ∧ d.identity = .rowid) ∧ ∃ added, t.addColumnStatements d c = .ok added ∧
      script = { t with columns := [c] }.createSequences d ++ added ++
        if d.comments = .statement then c.comment.toList.map (.commentOnColumn t.name c.name) else [] := by
  unfold addColumnScript
  rw [Outcome.guard_eq_ok_iff, Outcome.guard_eq_ok_iff, Outcome.bind_eq_ok_iff]
  simp only [Bool.not_eq_true, Bool.and_eq_true, decide_eq_true_eq, Except.ok.injEq, eq_comm (b := script)]

theorem addColumnScript_of_refused (refused : c.inKey = true ∨ c.isIdentity = true ∧ d.identity = .rowid) :
    t.addColumnScript d c =
      .error (if c.inKey then .primaryKeyAddedLater c.name t.name else .identityAddedLater d.name c.name) := by
  unfold addColumnScript
  rw [Outcome.guard_eq_error_iff]
  cases key : c.inKey with
  | true => simp
  | false =>
    have numbered : (c.isIdentity && decide (d.identity = .rowid)) = true := by simpa [key] using refused
    rw [Outcome.guard_eq_error_iff]
    exact .inr ⟨Bool.false_ne_true, .inl ⟨numbered, rfl⟩⟩

/-- A column added to a known dialect is declared as it is when the table is created with it, unless it belongs to the
key or is the row number, which is refused. -/
theorem column_added_as_created (known : s.dialect ∈ Dialect.all) :
    (∀ created, t.create s.dialect = .ok created → ∀ c ∈ t.columns, c.inKey = false →
      ¬(c.isIdentity = true ∧ s.dialect.identity = .rowid) → ∃ script added, t.addColumnScript s.dialect c = .ok script ∧
        script = created.filter (Statement.numbers c.name) ++ added ++ created.filter (Statement.commentsOn c.name) ∧
        AddedBy s t c created (added.map (Statement.sql s))) ∧
    ∀ c : Column, c.inKey = true ∨ c.isIdentity = true ∧ s.dialect.identity = .rowid →
      t.addColumnScript s.dialect c =
        .error (if c.inKey then .primaryKeyAddedLater c.name t.name else .identityAddedLater s.dialect.name c.name) := by
  refine ⟨fun created h c hc key numbered => ?_, fun c => addColumnScript_of_refused⟩
  obtain ⟨added, made, texts⟩ := exists_addColumnStatements known h hc
  refine ⟨_, added, addColumnScript_eq_ok_iff.mpr ⟨key, numbered, added, made, rfl⟩, ?_, texts⟩
  rw [filter_numbers h hc, filter_commentsOn h hc]

theorem ticketUrgency_added_as_created :
    Dialect.derby ∈ Dialect.all ∧ ∃ created script added, tickets.create .derby = .ok created ∧
      tickets.addColumnScript .derby ticketUrgency = .ok script ∧
      script = created.filter (Statement.numbers "urgent") ++ added ++ created.filter (Statement.commentsOn "urgent") ∧
      script.map (Statement.sql ⟨.derby, false⟩) =
        ["ALTER TABLE ticket ADD COLUMN urgent BOOLEAN", "ALTER TABLE ticket ALTER COLUMN urgent SET DEFAULT FALSE",
          "ALTER TABLE ticket ALTER COLUMN urgent NOT NULL"] ∧
      AddedBy ⟨.derby, false⟩ tickets ticketUrgency created (added.map (Statement.sql ⟨.derby, false⟩)) := by
  have known : Dialect.derby ∈ Dialect.all := by decide +kernel
  have accepted : (tickets.create .derby).map List.length = .ok 1 := by decide +kernel
  have texts : (tickets.addColumnScript .derby ticketUrgency).map (·.map (Statement.sql ⟨.derby, false⟩)) =
      .ok ["ALTER TABLE ticket ADD COLUMN urgent BOOLEAN", "ALTER TABLE ticket ALTER COLUMN urgent SET DEFAULT FALSE",
        "ALTER TABLE ticket ALTER COLUMN urgent NOT NULL"] := by decide +kernel
  obtain ⟨created, h, -⟩ := Outcome.map_eq_ok_iff.mp accepted
  obtain ⟨script, added, made, parts, as_created⟩ := (column_added_as_created (s := ⟨.derby, false⟩) known).1 created h
    ticketUrgency (by decide) rfl (by decide)
  rw [made] at texts
  exact ⟨known, created, script, added, h, made, parts, Except.ok.inj texts, as_created⟩

end Table

end SqlSchema
