import SqlSchema.Proofs.Outcome
import SqlSchema.Script.Create
import SqlSchema.Script.Drop

/-!
# Tables with the same scripts

A script depends on less than the tables it is made from: of the type of a column only its spelling is written, and of
a default only its literal. Tables that agree in all else are `Alike`, and sets of them are created and dropped by the
same texts, or refused for the same reason (`Schema.createSql_eq_of_alike`, `Schema.dropSql_eq_of_alike`).
-/

namespace SqlSchema

/-- What a dialect writes of the columns is the same. -/
structure Column.Alike (d : Dialect) (a b : Column) : Prop where
  name : a.name = b.name
  typePart : a.typePart d = b.typePart d
  nullable : a.nullable = b.nullable
  inKey : a.inKey = b.inKey
  isIdentity : a.isIdentity = b.isIdentity
  default : a.default.map d.defaultLiteral = b.default.map d.defaultLiteral
  comment : a.comment = b.comment
  check : a.check = b.check

/-- What a dialect writes of the tables is the same. -/
structure Table.Alike (d : Dialect) (t u : Table) : Prop where
  name : t.name = u.name
  columns : List.Forall₂ (Column.Alike d) t.columns u.columns
  foreignKeys : t.foreignKeys = u.foreignKeys
  indexes : t.indexes = u.indexes
  uniques : t.uniques = u.uniques
  comment : t.comment = u.comment
  tail : t.tail = u.tail

section Lists

variable {α β : Type} {r : α → β → Prop} {xs : List α} {ys : List β}

private theorem rel_getElem? (h : List.Forall₂ r xs ys) (i : Nat) : Option.Rel r xs[i]? ys[i]? := by
  induction h generalizing i with
  | nil => exact .none
  | cons hab _ ih =>
    cases i with
    | zero => exact .some hab
    | succ i => exact ih i

private theorem both_or_neither {x : Option α} {y : Option β} (h : Option.Rel r x y) :
    x = none ∧ y = none ∨ ∃ a b, x = some a ∧ y = some b ∧ r a b := by
  cases h with
  | none => exact .inl ⟨rfl, rfl⟩
  | some hab => exact .inr ⟨_, _, rfl, rfl, hab⟩

end Lists

namespace Table.Alike

variable {d : Dialect} {t u : Table}

theorem names (h : t.Alike d u) : t.columns.map (·.name) = u.columns.map (·.name) :=
  Outcome.map_eq_map h.columns fun _ _ alike => alike.name

private theorem keyColumns (h : t.Alike d u) : List.Forall₂ (Column.Alike d) t.keyColumns u.keyColumns :=
  Outcome.forall₂_filter h.columns fun _ _ alike => alike.inKey

private theorem identities (h : t.Alike d u) :
    List.Forall₂ (Column.Alike d) (t.columns.filter (·.isIdentity)) (u.columns.filter (·.isIdentity)) :=
  Outcome.forall₂_filter h.columns fun _ _ alike => alike.isIdentity

private theorem keyNames (h : t.Alike d u) : t.keyNames = u.keyNames :=
  Outcome.map_eq_map h.keyColumns fun _ _ alike => alike.name

private theorem constraints (h : t.Alike d u) : t.constraints = u.constraints := by
  unfold Table.constraints
  rw [h.foreignKeys, h.indexes, h.uniques]

private theorem isSome_column? (h : t.Alike d u) (name : String) :
    (t.column? name).isSome = (u.column? name).isSome := by
  have any : ∀ v : Table, (v.column? name).isSome = (v.columns.map (·.name)).any (Text.sameName · name) := by
    intro v
    unfold column?
    rw [List.isSome_find?, List.any_map]
    rfl
  rw [any t, any u, h.names]

/-! ### Checks -/

theorem checkTable (h : t.Alike d u) : d.checkTable t = d.checkTable u := by
  have some_columns : t.columns.isEmpty = u.columns.isEmpty := by
    rw [← List.isEmpty_map (f := (·.name)), h.names, List.isEmpty_map]
  have locals : Dialect.checkLocalColumns t = Dialect.checkLocalColumns u := by
    funext k
    unfold Dialect.checkLocalColumns
    simp only [h.isSome_column?, h.name]
  have rowid : d.checkRowIdentity t = d.checkRowIdentity u := by
    unfold Dialect.checkRowIdentity
    split
    · refine Outcome.forM_eq_forM (h.identities.imp fun a b alike => ?_)
      have keys : t.keyColumns.map (·.name) = u.keyColumns.map (·.name) := h.keyNames
      rw [keys, alike.name, h.name]
    · rfl
  unfold Dialect.checkTable
  rw [some_columns, locals, rowid, h.names, h.constraints, h.name]

theorem checkReferences (h : t.Alike d u) (f : ForeignKey) :
    SqlSchema.checkReferences t f = SqlSchema.checkReferences u f := by
  unfold SqlSchema.checkReferences
  simp only [h.isSome_column?, h.name]

/-! ### Statements -/

private theorem any_isIdentity (h : t.Alike d u) : t.columns.any (·.isIdentity) = u.columns.any (·.isIdentity) := by
  have flags : t.columns.map (·.isIdentity) = u.columns.map (·.isIdentity) :=
    Outcome.map_eq_map h.columns fun _ _ alike => alike.isIdentity
  have any : ∀ v : Table, v.columns.any (·.isIdentity) = (v.columns.map (·.isIdentity)).any id := by simp
  rw [any t, any u, flags]

private theorem declaresKey (h : t.Alike d u) : t.declaresKey d = u.declaresKey d := by
  have some_key : t.keyColumns.isEmpty = u.keyColumns.isEmpty := by
    rw [← List.isEmpty_map (f := (·.name)), ← List.isEmpty_map (f := (·.name)) (l := u.keyColumns)]
    exact congrArg List.isEmpty h.keyNames
  unfold Table.declaresKey Table.keyIsRowid
  rw [some_key, h.any_isIdentity]

private theorem createSequences (h : t.Alike d u) : t.createSequences d = u.createSequences d := by
  unfold Table.createSequences
  split
  · refine Outcome.map_eq_map h.identities fun a b alike => ?_
    rw [alike.name, h.name]
  · rfl

private theorem keyStatements (h : t.Alike d u) : t.keyStatements d = u.keyStatements d := by
  unfold Table.keyStatements
  rw [h.declaresKey, h.keyNames, h.name]

private theorem commentStatements (h : t.Alike d u) : t.commentStatements d = u.commentStatements d := by
  have columns : (t.columns.flatMap fun c => c.comment.toList.map (Statement.commentOnColumn t.name c.name)) =
      u.columns.flatMap fun c => c.comment.toList.map (Statement.commentOnColumn u.name c.name) := by
    refine Outcome.flatMap_eq_flatMap h.columns fun a b alike => ?_
    rw [alike.name, alike.comment, h.name]
  unfold Table.commentStatements
  rw [columns, h.comment, h.name]

private theorem uniqueStatement (h : t.Alike d u) : t.uniqueStatement d = u.uniqueStatement d := by
  funext x
  unfold Table.uniqueStatement
  rw [h.name]

private theorem foreignKeyStatements (h : t.Alike d u) : t.foreignKeyStatements d = u.foreignKeyStatements d := by
  unfold Table.foreignKeyStatements
  rw [h.name, h.foreignKeys]

private theorem laterElements (h : t.Alike d u) :
    t.keyElements d ++ t.foreignKeyElements d = u.keyElements d ++ u.foreignKeyElements d := by
  unfold Table.keyElements Table.foreignKeyElements
  rw [h.declaresKey, h.keyNames, h.foreignKeys]

theorem dropPhases (h : t.Alike d u) : t.dropPhases d = u.dropPhases d := by
  have foreign_keys : t.dropForeignKeys d t.foreignKeys = u.dropForeignKeys d u.foreignKeys := by
    unfold Table.dropForeignKeys
    rw [h.name, h.foreignKeys]
  have indexes : t.dropIndex d = u.dropIndex d := by
    funext i
    unfold Table.dropIndex
    rw [h.name]
  have uniques : t.dropUnique d = u.dropUnique d := by
    funext x
    unfold Table.dropUnique
    rw [h.name]
  have sequences : t.dropSequences d t.columns = u.dropSequences d u.columns := by
    unfold Table.dropSequences
    split
    · refine Outcome.map_eq_map h.identities fun a b alike => ?_
      rw [alike.name, h.name]
    · rfl
  unfold Table.dropPhases
  rw [foreign_keys, indexes, uniques, sequences, h.indexes, h.uniques, h.name]

end Table.Alike

/-! ### Texts -/

/-- The phases are written the same. -/
structure CreatePhases.SameTexts (s : Style) (p q : CreatePhases) : Prop where
  sequences : p.sequences.map (Statement.sql s) = q.sequences.map (Statement.sql s)
  tables : p.tables.map (Statement.sql s) = q.tables.map (Statement.sql s)
  indexes : p.indexes.map (Statement.sql s) = q.indexes.map (Statement.sql s)
  uniques : p.uniques.map (Statement.sql s) = q.uniques.map (Statement.sql s)
  foreignKeys : p.foreignKeys.map (Statement.sql s) = q.foreignKeys.map (Statement.sql s)

private theorem CreatePhases.statements_texts {s : Style} {ps qs : List CreatePhases}
    (h : List.Forall₂ (SameTexts s) ps qs) :
    (statements ps).map (Statement.sql s) = (statements qs).map (Statement.sql s) := by
  have phase : ∀ part : CreatePhases → List Statement,
      (∀ p q, SameTexts s p q → (part p).map (Statement.sql s) = (part q).map (Statement.sql s)) →
        (ps.flatMap part).map (Statement.sql s) = (qs.flatMap part).map (Statement.sql s) := by
    intro part same
    rw [List.map_flatMap, List.map_flatMap]
    exact Outcome.flatMap_eq_flatMap h same
  unfold statements
  simp only [List.map_append]
  rw [phase _ fun _ _ same => same.sequences, phase _ fun _ _ same => same.tables,
    phase _ fun _ _ same => same.indexes, phase _ fun _ _ same => same.uniques,
    phase _ fun _ _ same => same.foreignKeys]

private theorem agree_definition {s : Style} {a b : Column} (h : a.Alike s.dialect b) (table : String) (bare : Bool) :
    Outcome.Agree (fun x y => x.sql s = y.sql s) (a.definition s.dialect table bare)
      (b.definition s.dialect table bare) := by
  unfold Column.definition
  rw [h.typePart]
  refine (Outcome.Agree.refl (fun _ => rfl) _).bind ?_
  rintro type _ rfl
  have generation : a.generation s.dialect = b.generation s.dialect := by
    unfold Column.generation
    rw [h.isIdentity]
  have default : ((if bare then none else a.default).map fun v => " DEFAULT " ++ s.dialect.defaultLiteral v) =
      (if bare then none else b.default).map fun v => " DEFAULT " ++ s.dialect.defaultLiteral v := by
    split
    · rfl
    · have literals := congrArg (Option.map (" DEFAULT " ++ ·)) h.default
      rwa [Option.map_map, Option.map_map] at literals
  -- the two definitions differ in their defaults alone, and these are written the same
  show ColumnDefinition.sql s _ = ColumnDefinition.sql s _
  unfold ColumnDefinition.sql ColumnDefinition.generationSql
  simp only [default, generation, h.name, h.nullable, h.check, h.comment]

private theorem sql_createTable_congr {s : Style} {xs ys : List TableElement}
    (h : xs.map (TableElement.sql s) = ys.map (TableElement.sql s)) {table : String} {tail comment : Option String} :
    (Statement.createTable table xs tail comment).sql s = (Statement.createTable table ys tail comment).sql s := by
  rw [Statement.sql_createTable, Statement.sql_createTable, h]

private theorem agree_createPhases {s : Style} {t u : Table} (h : t.Alike s.dialect u) :
    Outcome.Agree (CreatePhases.SameTexts s) (t.createPhases s.dialect) (u.createPhases s.dialect) := by
  have definitions : Outcome.Agree (List.Forall₂ fun x y => x.sql s = y.sql s)
      (t.columns.mapM fun c => c.definition s.dialect t.name false)
      (u.columns.mapM fun c => c.definition s.dialect u.name false) := by
    rw [h.name]
    exact Outcome.Agree.mapM (h.columns.imp fun _ _ alike => agree_definition alike u.name false)
  unfold Table.createPhases
  refine definitions.bind fun xs ys same => ?_
  have elements : (xs.map TableElement.column ++ t.keyElements s.dialect ++ t.foreignKeyElements s.dialect).map
        (TableElement.sql s) =
      (ys.map TableElement.column ++ u.keyElements s.dialect ++ u.foreignKeyElements s.dialect).map
        (TableElement.sql s) := by
    have columns : (xs.map TableElement.column).map (TableElement.sql s) =
        (ys.map TableElement.column).map (TableElement.sql s) := by
      rw [List.map_map, List.map_map]
      exact Outcome.map_eq_map same fun _ _ text => text
    rw [List.append_assoc, List.append_assoc, h.laterElements, List.map_append, columns, ← List.map_append]
  show CreatePhases.SameTexts s _ _
  refine ⟨?_, ?_, ?_, ?_, ?_⟩
  · rw [h.createSequences]
  · rw [List.map_cons, List.map_cons, sql_createTable_congr elements, h.keyStatements, h.commentStatements, h.name,
      h.tail, h.comment]
  · simp only [h.indexes, h.name]
  · simp only [h.uniques, h.uniqueStatement]
  · rw [h.foreignKeyStatements]

/-! ### Sets of tables -/

namespace Schema

variable {d : Dialect} {tables others : List Table}

private theorem rel_table? (h : List.Forall₂ (Table.Alike d) tables others) (name : String) :
    Option.Rel (Table.Alike d) (table? tables name) (table? others name) := by
  induction h with
  | nil => exact .none
  | @cons t u tables others alike _ ih =>
    unfold table? at ih ⊢
    rw [List.find?_cons, List.find?_cons, alike.name]
    split
    · exact .some alike
    · exact ih

private theorem checkNamesFrom_eq (h : List.Forall₂ (Table.Alike d) tables others) (seen : List String) :
    checkNamesFrom seen tables = checkNamesFrom seen others := by
  induction h generalizing seen with
  | nil => rfl
  | @cons t u tables others alike _ ih =>
    unfold checkNamesFrom
    rw [alike.name, ih]

private theorem checkForeignKey_eq (h : List.Forall₂ (Table.Alike d) tables others) {t u : Table} (alike : t.Alike d u)
    (f : ForeignKey) : checkForeignKey tables t f = checkForeignKey others u f := by
  unfold checkForeignKey
  rcases both_or_neither (rel_table? h f.refTable) with ⟨hr, hr'⟩ | ⟨r, r', hr, hr', same⟩
  · rw [hr, hr', alike.name]
  · rw [hr, hr']
    exact same.checkReferences f

theorem check_eq_of_alike (h : List.Forall₂ (Table.Alike d) tables others) : check d tables = check d others := by
  unfold check checkNames
  rw [checkNamesFrom_eq h]
  congr 1
  funext _
  refine Outcome.forM_eq_forM (h.imp fun t u alike => ?_)
  rw [alike.checkTable, alike.foreignKeys]
  congr 1
  funext _
  congr 1
  funext f
  exact checkForeignKey_eq h alike f

private theorem position?_eq (h : List.Forall₂ (Table.Alike d) tables others) (name : String) :
    position? tables name = position? others name := by
  have by_names : ∀ ts : List Table,
      position? ts name = (ts.map (·.name)).findIdx? (Text.sameName · name) := by
    intro ts
    rw [List.findIdx?_map]
    rfl
  rw [by_names, by_names, Outcome.map_eq_map h fun _ _ alike => alike.name]

theorem dependencyOrder_eq_of_alike (h : List.Forall₂ (Table.Alike d) tables others) :
    dependencyOrder tables = dependencyOrder others := by
  have deps : dependencies tables = dependencies others := by
    funext i
    unfold dependencies
    rcases both_or_neither (rel_getElem? h i) with ⟨ht, hu⟩ | ⟨t, u, ht, hu, alike⟩
    · rw [ht, hu]
    · rw [ht, hu]
      simp only [alike.foreignKeys, position?_eq h]
  unfold dependencyOrder
  rw [deps, h.length_eq]

private theorem forall₂_pick (h : List.Forall₂ (Table.Alike d) tables others) (positions : List Nat) :
    List.Forall₂ (Table.Alike d) (pick tables positions) (pick others positions) := by
  induction positions with
  | nil => exact .nil
  | cons i positions ih =>
    unfold pick at ih ⊢
    rw [List.filterMap_cons, List.filterMap_cons]
    rcases both_or_neither (rel_getElem? h i) with ⟨ht, hu⟩ | ⟨t, u, ht, hu, alike⟩
    · rw [ht, hu]
      exact ih
    · rw [ht, hu]
      exact .cons alike ih

private theorem agree_creationOrder (h : List.Forall₂ (Table.Alike d) tables others) :
    Outcome.Agree (List.Forall₂ (Table.Alike d)) (creationOrder d tables) (creationOrder d others) := by
  unfold creationOrder
  rw [dependencyOrder_eq_of_alike h]
  split
  · split
    · rename_i order _
      exact forall₂_pick h order
    · rename_i stuck _
      have names := Outcome.map_eq_map (forall₂_pick h stuck) fun _ _ alike => alike.name
      exact congrArg ModelError.foreignKeyCycle names
  · exact h

/-- Alike tables are created by the same texts, or refused for the same reason. -/
theorem createSql_eq_of_alike {s : Style} (h : List.Forall₂ (Table.Alike s.dialect) tables others) :
    createSql s tables = createSql s others := by
  unfold createSql create
  rw [check_eq_of_alike h]
  refine Outcome.Agree.map_eq ((Outcome.Agree.refl (fun _ => rfl) _).bind fun _ _ _ => ?_)
  refine (agree_creationOrder h).bind fun ts us alike => ?_
  refine (Outcome.Agree.mapM (alike.imp fun _ _ => agree_createPhases)).bind fun ps qs same => ?_
  exact CreatePhases.statements_texts same

private theorem forall₂_droppingOrder (h : List.Forall₂ (Table.Alike d) tables others) :
    List.Forall₂ (Table.Alike d) (droppingOrder tables) (droppingOrder others) := by
  unfold droppingOrder
  rw [dependencyOrder_eq_of_alike h]
  split
  · exact forall₂_pick h _
  · exact List.forall₂_reverse_iff.mpr h

/-- Alike tables are dropped by the same texts. -/
theorem dropSql_eq_of_alike {s : Style} (h : List.Forall₂ (Table.Alike s.dialect) tables others) :
    dropSql s tables = dropSql s others := by
  unfold dropSql drop
  rw [Outcome.map_eq_map (forall₂_droppingOrder h) fun _ _ alike => alike.dropPhases]

end Schema

end SqlSchema
