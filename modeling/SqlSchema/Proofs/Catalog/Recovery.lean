import SqlSchema.Proofs.Catalog.StatementParts
import SqlSchema.Proofs.Script.Rearrangement
import SqlSchema.Proofs.Table.Parts

/-!
# Tables recovered from the text that creates them

SQLite keeps the statement by which a table was created, and the foreign keys and the identity column are read back from
its text. Where names are plain and there are neither literals nor expressions, what is read is what was declared, and
nothing besides (`create_text_recovers`). A reader passes over all parts that are not followed by the keyword of a
declaration, and these keywords stand in the elements that declare something only.
-/

namespace SqlSchema

open CreateText

namespace CreateText

variable {quoted : Bool} {w : String} {p : Part} {ps qs gap : List Part} {e : TableElement}

/-! ### Parts without the keyword of a declaration -/

/-- Where neither the parts passed over nor the next four are a keyword, it does not stand four parts behind any of
those passed over. -/
private theorem letters_ne_of_free (free : Free w gap) (next : Free w (ps.take 4)) {k : Nat} (hk : k < gap.length) :
    ((gap ++ ps).drop (k + 1))[3]?.map Part.letters ≠ some w.toList := by
  intro declares
  obtain ⟨p, found, letters⟩ := Option.map_eq_some_iff.mp declares
  rw [List.getElem?_drop] at found
  have inside : ((gap ++ ps).take (gap.length + 4))[k + 1 + 3]? = some p := by
    rw [List.getElem?_take_of_lt (by omega), found]
  rw [List.take_length_add_append] at inside
  exact free.append next p (List.mem_of_getElem? inside) letters

theorem clausesFrom_gap (h : Spaced (gap ++ ps)) (free : Free "foreign" gap) (next : Free "foreign" (ps.take 4))
    (offset : Nat) : ∃ later, clausesFrom 0 offset (textOf (gap ++ ps)) = clausesFrom 0 later (textOf ps) := by
  have skipped := clausesFrom_skip h gap.length (fun k hk declares => letters_ne_of_free free next hk declares) offset
  rwa [List.drop_left] at skipped

theorem firstIdentity?_gap (h : Spaced (gap ++ ps)) (free : Free "primary" gap) (next : Free "primary" (ps.take 4)) :
    firstIdentity? (textOf (gap ++ ps)) = firstIdentity? (textOf ps) := by
  have skipped := firstIdentity?_skip h gap.length fun k hk declares => letters_ne_of_free free next hk declares.primary
  rwa [List.drop_left] at skipped

/-! ### Foreign keys -/

/-- What a clause says apart from where it stands. -/
def ForeignKeyClause.facts (c : ForeignKeyClause) : String × List String × String := (c.name, c.columns, c.refTable)

/-- What is read of a foreign key. -/
def written (f : ForeignKey) : String × List String × String :=
  (Dialect.sqlite.escape f.name, f.columns.map Dialect.sqlite.escape, Dialect.sqlite.escape f.refTable)

theorem clausesFrom_foreignKey {f : ForeignKey} (plain : PlainElement (.foreignKey f))
    (h : Spaced (elementParts quoted (.foreignKey f) ++ ps)) (offset : Nat) :
    ∃ c later, c.facts = written f ∧ clausesFrom 0 offset (textOf (elementParts quoted (.foreignKey f) ++ ps)) =
      c :: clausesFrom 0 later (textOf (referenceParts quoted f ++ ps)) := by
  cases plain with
  | foreignKey name has_columns columns refTable refColumns =>
    rw [elementParts, List.append_assoc] at h ⊢
    have names : ∀ p ∈ f.columns.map (namePart quoted), p.IsName := by
      intro p hp
      obtain ⟨n, hn, rfl⟩ := List.mem_map.mp hp
      exact isName_namePart (columns n hn).1 (columns n hn).2
    have read := foreignKeyClause?_textOf h (isName_namePart name.1 name.2) (isName_namePart refTable.1 refTable.2)
      (by simpa using has_columns) names offset
    rw [textOf_append] at read ⊢
    obtain ⟨later, clauses⟩ := clausesFrom_of_clause (by simp [clauseParts, Part.chars]) read
    refine ⟨_, later, ?_, clauses⟩
    simp [ForeignKeyClause.facts, written, content_namePart]

theorem clausesFrom_foreignKeys {fs : List ForeignKey} (plain : ∀ f ∈ fs, PlainElement (.foreignKey f))
    (free : Free "foreign" gap) (h : Spaced (gap ++ (further quoted (fs.map .foreignKey) ++ [Part.mark ')'])))
    (offset : Nat) :
    (clausesFrom 0 offset (textOf (gap ++ (further quoted (fs.map .foreignKey) ++ [Part.mark ')'])))).map
      ForeignKeyClause.facts = fs.map written := by
  induction fs generalizing gap offset with
  | nil =>
    have all : Free "foreign" (gap ++ [Part.mark ')']) :=
      free.append (free_marks foreign_mem_telling [')'])
    have spaced : Spaced ((gap ++ [Part.mark ')']) ++ []) := by simpa [further] using h
    obtain ⟨later, none⟩ := clausesFrom_gap spaced all .nil offset
    rw [List.append_nil] at none
    exact congrArg (List.map ForeignKeyClause.facts) none
  | cons f fs ih =>
    have plain_f := plain f List.mem_cons_self
    obtain ⟨rest, hrest⟩ : ∃ r, r = further quoted (fs.map .foreignKey) ++ [.mark ')'] := ⟨_, rfl⟩
    have shape : gap ++ (further quoted ((f :: fs).map .foreignKey) ++ [Part.mark ')']) =
        (gap ++ [Part.comma, .blank]) ++ (elementParts quoted (.foreignKey f) ++ rest) := by
      rw [hrest]
      simp [further]
    rw [shape] at h ⊢
    have free_front := free.append (free_marks foreign_mem_telling [',', ' '])
    have free_start : Free "foreign" ((elementParts quoted (.foreignKey f) ++ rest).take 4) := by
      cases plain_f with
      | foreignKey name _ _ _ _ =>
        have each : (Part.word "CONSTRAINT".toList).letters ≠ "foreign".toList ∧
            Part.blank.letters ≠ "foreign".toList := by decide
        exact .cons each.1 (.cons each.2 (.cons (letters_namePart_ne name.1 (by decide)) (.cons each.2 .nil)))
    obtain ⟨here, skipped⟩ := clausesFrom_gap h free_front free_start offset
    obtain ⟨c, later, facts, clauses⟩ := clausesFrom_foreignKey plain_f h.of_append_right here
    have spaced : Spaced (referenceParts quoted f ++ rest) := by
      have after := h.of_append_right
      rw [elementParts, List.append_assoc] at after
      exact after.of_append_right
    have free_reference : Free "foreign" (referenceParts quoted f) := by
      cases plain_f with
      | foreignKey _ _ _ _ refColumns => exact free_referenceParts (by decide) refColumns
    rw [hrest] at spaced clauses skipped ⊢
    rw [skipped, clauses, List.map_cons, List.map_cons, facts,
      ih (fun g hg => plain g (List.mem_cons_of_mem f hg)) free_reference spaced later]

/-! ### The identity column -/

theorem firstIdentity?_of_declaration {cs name : List Char} (read : identityDeclaration? cs = some name) :
    firstIdentity? cs = some name := by
  cases cs with
  | nil => cases read
  | cons c cs => rw [firstIdentity?, read, Option.some_or]

theorem firstIdentity?_column {d : ColumnDefinition} (plain : PlainElement (.column d)) (rowid : d.type = .rowid)
    (h : Spaced (elementParts quoted (.column d) ++ ps)) :
    firstIdentity? (textOf (elementParts quoted (.column d) ++ ps)) = some (namePart quoted d.name).chars := by
  cases plain with
  | column name nonempty _ _ _ _ _ =>
    have shape : elementParts quoted (.column d) ++ ps = namePart quoted d.name ::
        (rowidParts ++ (spacedWords (if d.notNull then ["NOT", "NULL"] else []) ++ ps)) := by
      rw [elementParts, rowid, List.cons_append, List.append_assoc]
      rfl
    rw [shape] at h ⊢
    exact firstIdentity?_of_declaration (identityDeclaration?_textOf h (isName_namePart name nonempty))

/-- A primary key that is declared apart from the columns, behind a comma, is not taken for an identity column. -/
theorem firstIdentity?_eq_none (h : Spaced (gap ++ [Part.comma, .blank] ++ p :: ps)) (free : Free "primary" gap)
    (behind : Free "primary" ps) : firstIdentity? (textOf (gap ++ [Part.comma, .blank] ++ p :: ps)) = none := by
  have none : ∀ k, ¬DeclaresIdentity ((gap ++ [Part.comma, .blank] ++ p :: ps).drop (k + 1)) := by
    intro k declares
    obtain ⟨q, found, letters⟩ := Option.map_eq_some_iff.mp declares.primary
    have integer := declares.integer
    rw [List.getElem?_drop] at found integer
    have front := free.append (free_marks primary_mem_telling [',', ' '])
    rcases Nat.lt_trichotomy (k + 1 + 3) (gap ++ [Part.comma, .blank]).length with before | here | after
    · rw [List.getElem?_append_left before] at found
      exact front q (List.mem_of_getElem? found) letters
    · -- two parts before the keyword stands the comma
      have comma : (gap ++ [Part.comma, .blank] ++ p :: ps)[k + 1 + 1]? = some .comma := by
        have place : k + 1 + 1 = gap.length := by
          rw [List.length_append, List.length_cons, List.length_singleton] at here
          omega
        rw [place, List.append_assoc, List.getElem?_append_right (by omega), Nat.sub_self]
        rfl
      rw [comma] at integer
      exact absurd (Option.some.inj integer) (by decide)
    · rw [List.getElem?_append_right (by omega)] at found
      obtain ⟨m, hm⟩ := Nat.exists_eq_add_of_lt (Nat.sub_pos_of_lt after)
      rw [hm, Nat.zero_add, List.getElem?_cons_succ] at found
      exact behind q (List.mem_of_getElem? found) letters
  rw [firstIdentity?_skip h (gap ++ [Part.comma, .blank] ++ p :: ps).length fun k _ => none k, List.drop_length]
  rfl

/-! ### The statement that creates a table -/

variable {name : String} {before after elements : List TableElement}

theorem foreignKeyClauses_createTable {fs : List ForeignKey} (plain_name : PlainName name) (nonempty : name ≠ "")
    (plain : ∀ x ∈ before ++ e :: fs.map .foreignKey, PlainElement x)
    (others : ∀ x ∈ before ++ [e], "foreign" ∉ tells x) :
    (foreignKeyClauses ((Statement.createTable name (before ++ e :: fs.map .foreignKey) none none).sql
      ⟨.sqlite, quoted⟩)).map ForeignKeyClause.facts = fs.map written := by
  have spaced := spaced_statementParts quoted plain_name nonempty plain
  rw [foreignKeyClauses, toList_sql_createTable plain_name plain, statementParts_append_cons, ← List.append_assoc]
  rw [statementParts_append_cons, ← List.append_assoc] at spaced
  simp only [List.mem_append, List.mem_cons, List.mem_map] at plain others
  have free := free_partsBefore quoted plain_name foreign_mem_telling fun x hx =>
    ⟨plain x (.inl hx), others x (.inl hx)⟩
  have free_last := free_elementParts quoted (plain e (.inr (.inl rfl))) foreign_mem_telling
    (others e (.inr (.inl rfl)))
  exact clausesFrom_foreignKeys (fun f hf => plain _ (.inr (.inr ⟨f, hf, rfl⟩))) (free.append free_last) spaced 0

theorem identityColumn?_createTable {d : ColumnDefinition} (plain_name : PlainName name) (nonempty : name ≠ "")
    (plain : ∀ x ∈ before ++ .column d :: after, PlainElement x) (others : ∀ x ∈ before, "primary" ∉ tells x)
    (rowid : d.type = .rowid) :
    identityColumn? ((Statement.createTable name (before ++ .column d :: after) none none).sql ⟨.sqlite, quoted⟩) =
      some (Dialect.sqlite.escape d.name) := by
  have spaced := spaced_statementParts quoted plain_name nonempty plain
  have column := plain (.column d) (by simp)
  have free := free_partsBefore quoted plain_name primary_mem_telling fun x hx =>
    ⟨plain x (List.mem_append_left _ hx), others x hx⟩
  rw [identityColumn?, toList_sql_createTable plain_name plain, statementParts_append_cons]
  rw [statementParts_append_cons] at spaced
  cases column with
  | column name_plain name_nonempty _ _ _ _ _ =>
    have next : Free "primary"
        ((elementParts quoted (.column d) ++ (further quoted after ++ [Part.mark ')'])).take 4) := by
      have each : (Part.word "INTEGER".toList).letters ≠ "primary".toList ∧
          Part.blank.letters ≠ "primary".toList := by decide
      rw [elementParts, rowid]
      exact .cons (letters_namePart_ne name_plain (by decide)) (.cons each.2 (.cons each.1 (.cons each.2 .nil)))
    rw [firstIdentity?_gap spaced free next, firstIdentity?_column (plain _ (by simp)) rowid spaced.of_append_right,
      Option.map_some,
      (isName_namePart name_plain name_nonempty).unquoteChars (valid_namePart name_plain (namePart_ne name_nonempty)),
      content_namePart, String.ofList_toList]

theorem identityColumn?_createTable_eq_none (plain_name : PlainName name) (nonempty : name ≠ "")
    (plain : ∀ x ∈ elements, PlainElement x) (some_element : elements ≠ [])
    (others : ∀ x ∈ elements, "primary" ∉ tells x) :
    identityColumn? ((Statement.createTable name elements none none).sql ⟨.sqlite, quoted⟩) = none := by
  obtain ⟨e, after, rfl⟩ := List.exists_cons_of_ne_nil some_element
  have spaced := spaced_statementParts quoted plain_name nonempty plain
  have shape := statementParts_append_cons quoted name [] e after
  rw [List.nil_append] at shape
  have free_front : Free "primary" (partsBefore quoted name []) :=
    free_partsBefore quoted plain_name primary_mem_telling (by simp)
  have free_first := free_elementParts quoted (plain e (by simp)) primary_mem_telling (others e (by simp))
  have free_rest := free_further quoted primary_mem_telling fun x (hx : x ∈ after) =>
    ⟨plain x (List.mem_cons_of_mem e hx), others x (List.mem_cons_of_mem e hx)⟩
  have free : Free "primary" (statementParts quoted name (e :: after)) := by
    rw [shape]
    exact free_front.append (free_first.append free_rest)
  have whole : Spaced (statementParts quoted name (e :: after) ++ []) := by rwa [List.append_nil]
  have skipped := firstIdentity?_gap whole free .nil
  rw [List.append_nil] at skipped
  rw [identityColumn?, toList_sql_createTable plain_name plain, skipped]
  rfl

theorem identityColumn?_createTable_of_primaryKey {ns : List String} (plain_name : PlainName name)
    (nonempty : name ≠ "") (plain : ∀ x ∈ before ++ .primaryKey ns :: after, PlainElement x)
    (some_element : before ≠ []) (others : ∀ x ∈ before ++ after, "primary" ∉ tells x) :
    identityColumn? ((Statement.createTable name (before ++ .primaryKey ns :: after) none none).sql ⟨.sqlite, quoted⟩) =
      none := by
  obtain ⟨before, e, rfl⟩ := List.eq_nil_or_concat' before |>.resolve_left some_element
  have spaced := spaced_statementParts quoted plain_name nonempty plain
  have front : partsBefore quoted name (before ++ [e]) =
      partsBefore quoted name before ++ elementParts quoted e ++ [.comma, .blank] := by
    simp [partsBefore]
  have key : elementParts quoted (.primaryKey ns) =
      .word "PRIMARY".toList :: (spacedWords ["KEY"] ++ listParts quoted ns) := rfl
  rw [identityColumn?, toList_sql_createTable plain_name plain, statementParts_append_cons, front, key,
    List.cons_append]
  rw [statementParts_append_cons, front, key, List.cons_append] at spaced
  simp only [List.mem_append, List.mem_cons, List.not_mem_nil, or_false] at plain others
  have free := free_partsBefore quoted plain_name primary_mem_telling fun x (hx : x ∈ before) =>
    ⟨plain x (.inl (.inl hx)), others x (.inl (.inl hx))⟩
  have free_last := free_elementParts quoted (plain e (.inl (.inr rfl))) primary_mem_telling
    (others e (.inl (.inr rfl)))
  have free_rest := free_further quoted primary_mem_telling fun x (hx : x ∈ after) =>
    ⟨plain x (.inr (.inr hx)), others x (.inr hx)⟩
  have free_key : Free "primary" (spacedWords ["KEY"] ++ listParts quoted ns) := by
    cases plain (.primaryKey ns) (.inr (.inl rfl)) with
    | primaryKey names =>
      exact (free_words primary_mem_telling (by decide)).append (free_listParts quoted primary_mem_telling names)
  rw [firstIdentity?_eq_none spaced (free.append free_last) (free_key.append free_rest)]
  rfl

end CreateText

namespace Table

variable {quoted : Bool} {t : Table} {script : List Statement} {definitions : List ColumnDefinition}

/-- A table in which there are plain names and neither literals nor expressions. -/
structure Plain (t : Table) : Prop where
  name : PlainName t.name
  columns : ∀ c ∈ t.columns, PlainName c.name ∧ c.default = none ∧ c.check = none
  foreignKeys : ∀ f ∈ t.foreignKeys,
    PlainName f.name ∧ PlainName f.refTable ∧ (∀ n ∈ f.columns, PlainName n) ∧ ∀ n ∈ f.refColumns, PlainName n
  tail : t.tail = none

/-- The statements of SQLite that create a table. -/
theorem script_of_create_sqlite (created : t.create .sqlite = .ok script) (no_tail : t.tail = none) :
    ∃ definitions others, t.columns.mapM (fun c => c.definition .sqlite t.name false) = .ok definitions ∧
      script = .createTable t.name (definitions.map .column ++ (t.keyElements .sqlite ++ t.foreignKeys.map .foreignKey))
        none none :: others ∧
      ∀ st ∈ others, st.created? = none := by
  obtain ⟨-, -, p, phases, rfl⟩ := create_eq_ok_iff.mp created
  obtain ⟨definitions, made, rfl⟩ := eq_of_createPhases phases
  have sequences : t.createSequences .sqlite = [] := rfl
  have elements : t.foreignKeyElements .sqlite = t.foreignKeys.map .foreignKey := if_pos rfl
  have keys : t.keyStatements .sqlite = [] := rfl
  have comments : t.commentStatements .sqlite = [] := if_neg (by decide)
  have references : t.foreignKeyStatements .sqlite = [] := rfl
  have tail : t.tail.or Dialect.sqlite.tableTail = none := by
    rw [no_tail]
    rfl
  have comment : (if Dialect.sqlite.comments = .inline then t.comment else none) = none := if_neg (by decide)
  refine ⟨definitions, t.indexes.map (fun i => .createIndex t.name i.name i.columns i.unique) ++
    t.uniques.map (t.uniqueStatement .sqlite), made, ?_, fun st hst => ?_⟩
  · simp [CreatePhases.statements, sequences, elements, keys, comments, references, tail, comment]
  · rcases List.mem_append.mp hst with hst | hst
    · obtain ⟨i, -, rfl⟩ := List.mem_map.mp hst
      rfl
    · obtain ⟨u, -, rfl⟩ := List.mem_map.mp hst
      rfl

theorem type_of_definition {table : String} {c : Column} {d : ColumnDefinition}
    (made : c.definition .sqlite table false = .ok d) :
    d.name = c.name ∧ PlainType d.type ∧ (d.type = .rowid ↔ c.isIdentity = true) := by
  obtain ⟨type, clause, made⟩ := Outcome.bind_eq_ok_iff.mp made
  cases made
  refine ⟨rfl, ?_⟩
  unfold Column.typePart at clause
  cases identity : c.isIdentity with
  | true =>
    rw [identity] at clause
    cases clause
    exact ⟨trivial, by simp⟩
  | false =>
    rw [identity] at clause
    obtain ⟨text, found, rfl⟩ := Outcome.map_eq_ok_iff.mp clause
    exact ⟨typeClause_sqlite found, by simp⟩

theorem plainElement_of_definition {table : String} {c : Column} {d : ColumnDefinition}
    (made : c.definition .sqlite table false = .ok d) (name : PlainName c.name) (nonempty : c.name ≠ "")
    (no_default : c.default = none) (no_check : c.check = none) : PlainElement (.column d) := by
  have kind := (type_of_definition made).2.1
  obtain ⟨type, clause, made⟩ := Outcome.bind_eq_ok_iff.mp made
  cases made
  have no_generation : c.generation .sqlite = none := by
    unfold Column.generation
    split <;> rfl
  exact .column name nonempty kind no_default no_generation no_check rfl

theorem definitions_ne_nil {columns : List Column} {table : String}
    (has_columns : columns ≠ []) (made : columns.mapM (fun c => c.definition .sqlite table false) = .ok definitions) :
    definitions ≠ [] := by
  rintro rfl
  exact has_columns (List.forall₂_nil_right_iff.mp (Outcome.mapM_eq_ok_iff.mp made))

theorem tells_definition {columns : List Column} {table : String}
    (made : columns.mapM (fun c => c.definition .sqlite table false) = .ok definitions)
    (no_identity : ∀ c ∈ columns, ¬c.isIdentity = true) : ∀ e ∈ definitions.map .column, tells e = [] := by
  intro e he
  obtain ⟨d, hd, rfl⟩ := List.mem_map.mp he
  obtain ⟨c, hc, made⟩ := Outcome.exists_of_mem_of_mapM_eq_ok made hd
  exact if_neg fun rowid => no_identity c hc ((type_of_definition made).2.2.mp rowid)

theorem plainElement_of_mem (wellFormed : t.WellFormed) (plain : t.Plain)
    (made : t.columns.mapM (fun c => c.definition .sqlite t.name false) = .ok definitions) :
    ∀ e ∈ definitions.map .column ++ (t.keyElements .sqlite ++ t.foreignKeys.map .foreignKey), PlainElement e := by
  intro e he
  rcases List.mem_append.mp he with he | he
  · obtain ⟨d, hd, rfl⟩ := List.mem_map.mp he
    obtain ⟨c, hc, made⟩ := Outcome.exists_of_mem_of_mapM_eq_ok made hd
    obtain ⟨name, no_default, no_check⟩ := plain.columns c hc
    have nonempty := ne_empty_of_valid (wellFormed.columns_wellFormed c hc).name_valid
    exact plainElement_of_definition made name nonempty no_default no_check
  · rcases List.mem_append.mp he with he | he
    · unfold keyElements at he
      split at he
      · rw [List.mem_singleton.mp he]
        refine .primaryKey fun n hn => ?_
        obtain ⟨c, hc, rfl⟩ := List.mem_map.mp hn
        exact (plain.columns c (List.mem_of_mem_filter hc)).1
      · cases he
    · obtain ⟨f, hf, rfl⟩ := List.mem_map.mp he
      obtain ⟨name, refTable, columns, refColumns⟩ := plain.foreignKeys f hf
      have declared : (⟨.foreignKey, f.name, f.columns⟩ : Declared) ∈ t.constraints := by
        simp only [constraints, List.mem_append, List.mem_map]
        exact .inl (.inl ⟨f, hf, rfl⟩)
      have names := wellFormed.constraint_columns _ declared
      exact .foreignKey ⟨name, ne_empty_of_valid (wellFormed.constraint_valid _ declared).1⟩ names.1
        (fun n hn => ⟨columns n hn, ne_empty_of_valid (names.2 n hn)⟩)
        ⟨refTable, ne_empty_of_valid (wellFormed.references f hf).table_valid⟩ refColumns

theorem keyElements_cases (d : Dialect) (t : Table) :
    t.keyElements d = [] ∨ ∃ ns, t.keyElements d = [.primaryKey ns] := by
  unfold keyElements
  split
  · exact .inr ⟨_, rfl⟩
  · exact .inl rfl

theorem foreignKeyClauses_of_definitions (wellFormed : t.WellFormed) (plain : t.Plain) (has_columns : t.columns ≠ [])
    (made : t.columns.mapM (fun c => c.definition .sqlite t.name false) = .ok definitions) :
    (foreignKeyClauses ((Statement.createTable t.name (definitions.map .column ++ (t.keyElements .sqlite ++
        t.foreignKeys.map .foreignKey)) none none).sql ⟨.sqlite, quoted⟩)).map ForeignKeyClause.facts =
      t.foreignKeys.map written := by
  have elements := plainElement_of_mem wellFormed plain made
  have no_foreign : ∀ e ∈ definitions.map .column ++ t.keyElements .sqlite, "foreign" ∉ tells e := by
    intro e he
    rcases List.mem_append.mp he with he | he
    · obtain ⟨d, -, rfl⟩ := List.mem_map.mp he
      rw [tells]
      split <;> decide
    · obtain none | ⟨ns, single⟩ := keyElements_cases .sqlite t
      · rw [none] at he
        cases he
      · rw [single] at he
        rw [List.mem_singleton.mp he, tells]
        decide
  -- the last element in front of the foreign keys is a column or the primary key
  obtain ⟨before, e, last⟩ := (List.eq_nil_or_concat' (definitions.map TableElement.column ++
    t.keyElements .sqlite)).resolve_left (by simp [definitions_ne_nil has_columns made])
  rw [last] at no_foreign
  rw [← List.append_assoc, last, List.append_assoc] at elements ⊢
  exact foreignKeyClauses_createTable plain.name (ne_empty_of_valid wellFormed.name_valid) elements no_foreign

theorem identityColumn?_of_definitions (wellFormed : t.WellFormed) (plain : t.Plain) (has_columns : t.columns ≠ [])
    (made : t.columns.mapM (fun c => c.definition .sqlite t.name false) = .ok definitions) :
    identityColumn? ((Statement.createTable t.name (definitions.map .column ++ (t.keyElements .sqlite ++
        t.foreignKeys.map .foreignKey)) none none).sql ⟨.sqlite, quoted⟩) =
      (t.columns.find? (·.isIdentity)).map fun c => Dialect.sqlite.escape c.name := by
  have nonempty := ne_empty_of_valid wellFormed.name_valid
  have elements := plainElement_of_mem wellFormed plain made
  cases found : t.columns.find? (·.isIdentity) with
  | some c =>
    obtain ⟨identity, front, back, split, quiet⟩ := List.find?_eq_some_iff_append.mp found
    rw [split] at made
    obtain ⟨us, d, ws, rfl, made_front, made_column, -⟩ := Outcome.mapM_append_cons_eq_ok made
    obtain ⟨same, -, rowid⟩ := type_of_definition made_column
    have no_primary := tells_definition made_front fun c hc => by simpa using quiet c hc
    rw [List.map_append, List.map_cons, List.append_assoc, List.cons_append] at elements ⊢
    rw [identityColumn?_createTable plain.name nonempty elements (fun e he => by simp [no_primary e he])
      (rowid.mpr identity), same, Option.map_some]
  | none =>
    have no_column := tells_definition made fun c hc => by simpa using List.find?_eq_none.mp found c hc
    have no_primary : ∀ e ∈ definitions.map .column ++ t.foreignKeys.map .foreignKey, "primary" ∉ tells e := by
      intro e he
      rcases List.mem_append.mp he with he | he
      · simp [no_column e he]
      · obtain ⟨f, -, rfl⟩ := List.mem_map.mp he
        rw [tells]
        decide
    have some_definition := definitions_ne_nil has_columns made
    obtain none | ⟨ns, single⟩ := keyElements_cases .sqlite t
    · rw [none, List.nil_append] at elements ⊢
      exact identityColumn?_createTable_eq_none plain.name nonempty elements (by simp [some_definition]) no_primary
    · rw [single, List.singleton_append] at elements ⊢
      exact identityColumn?_createTable_of_primaryKey plain.name nonempty elements (by simpa using some_definition)
        no_primary

/-- The statement of SQLite that creates a table of plain names is the only one in its script that creates a table, and
its foreign keys and its identity column are read back from it: every foreign key once, in order, and the names that
the statement has for it; and the identity column if there is one. -/
theorem create_text_recovers (quoted : Bool) (reachable : t.Reachable) (plain : t.Plain)
    (created : t.create .sqlite = .ok script) :
    ∃ creation others, script = creation :: others ∧ creation.created? = some t.name ∧
      (∀ st ∈ others, st.created? = none) ∧
      (foreignKeyClauses (creation.sql ⟨.sqlite, quoted⟩)).map ForeignKeyClause.facts = t.foreignKeys.map written ∧
      (foreignKeyClauses (creation.sql ⟨.sqlite, quoted⟩)).Pairwise (·.offset < ·.offset) ∧
      identityColumn? (creation.sql ⟨.sqlite, quoted⟩) =
        (t.columns.find? (·.isIdentity)).map fun c => Dialect.sqlite.escape c.name := by
  obtain ⟨creatable, -⟩ := create_eq_ok_iff.mp created
  obtain ⟨definitions, others, made, rfl, rest⟩ := script_of_create_sqlite created plain.tail
  exact ⟨_, others, rfl, rfl, rest,
    foreignKeyClauses_of_definitions reachable.wellFormed plain creatable.has_columns made,
    (clausesFrom_ordered 0 0 _).2,
    identityColumn?_of_definitions reachable.wellFormed plain creatable.has_columns made⟩

/-- A table that numbers its rows, with names made of keywords and a reference to a table whose name is reserved. -/
def assignments : Table where
  name := "constraint_foreign_key"
  columns :=
    [{ name := "key_integer", type := .varchar, params := { length := some 20 }, nullable := false },
      { name := "integer_primary", type := .bigint, nullable := false, inKey := true, isIdentity := true }]
  foreignKeys :=
    [{ name := "foreign", columns := ["key_integer"], refTable := "order", refColumns := ["id"],
       onDelete := some .setNull }]
  indexes := [{ name := "primary key", columns := ["key_integer"] }]
  comment := some "CONSTRAINT a FOREIGN KEY (b) REFERENCES c"

theorem assignments_recovered :
    assignments.Reachable ∧ assignments.Plain ∧ ∃ creation others,
      assignments.create .sqlite = .ok (creation :: others) ∧
      (foreignKeyClauses (creation.sql ⟨.sqlite, true⟩)).map ForeignKeyClause.facts =
        [("foreign_attribute", ["key_integer"], "order_attribute")] ∧
      identityColumn? (creation.sql ⟨.sqlite, true⟩) = some "integer_primary" := by
  have reachable : assignments.Reachable := by decide +kernel
  have plain : assignments.Plain := ⟨by decide, by decide, by decide, rfl⟩
  have accepted : (assignments.create .sqlite).map List.length = .ok 2 := by decide +kernel
  obtain ⟨script, created, -⟩ := Outcome.map_eq_ok_iff.mp accepted
  obtain ⟨creation, others, rfl, -, -, keys, -, column⟩ := create_text_recovers true reachable plain created
  refine ⟨reachable, plain, creation, others, created, ?_, ?_⟩
  · rw [keys]
    decide +kernel
  · rw [column]
    decide +kernel

end Table

end SqlSchema
