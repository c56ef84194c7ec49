import SqlSchema.Proofs.Script.PlainTexts
import SqlSchema.Proofs.Script.Rearrangement
import SqlSchema.Proofs.Table.Parts

/-!
# Quoted scripts

Two tables of one shape differ in nothing but the texts of their names, comments and text defaults. Where names are
quoted their scripts consist of the same tokens, so that no such text ends the token in which it is written
(`script_tokens_eq`). The exception is DuckDB, which takes the values of an identity column from a sequence that it
names inside of a literal: there the names of the table and of the column must hold no apostrophe.
-/

namespace SqlSchema

/-! ### Tables of one shape -/

/-- The same default, or two texts. Expressions are taken as they are and have no shape. -/
inductive Default.SameShape : Default → Default → Prop where
  | same {v : Default} (value : ∀ sql, v ≠ .expression sql) : SameShape v v
  | text (a b : String) : SameShape (.text a) (.text b)

/-- Columns that differ in nothing but the texts of their names, comments and defaults. A check is taken as it is, so
neither has one. -/
structure Column.SameShape (a b : Column) : Prop where
  type : a.type = b.type
  params : a.params = b.params
  nullable : a.nullable = b.nullable
  inKey : a.inKey = b.inKey
  isIdentity : a.isIdentity = b.isIdentity
  default : Option.Rel Default.SameShape a.default b.default
  comment : a.comment.isSome = b.comment.isSome
  no_check : a.check = none ∧ b.check = none

/-- Foreign keys over equally many columns, with the same actions. -/
structure ForeignKey.SameShape (f g : ForeignKey) : Prop where
  columns : f.columns.length = g.columns.length
  refColumns : f.refColumns.length = g.refColumns.length
  onDelete : f.onDelete = g.onDelete
  onUpdate : f.onUpdate = g.onUpdate

/-- Indexes over equally many columns, both unique or neither. -/
structure Index.SameShape (i j : Index) : Prop where
  columns : i.columns.length = j.columns.length
  unique : i.unique = j.unique

/-- Tables that differ in nothing but the texts of names, comments and text defaults. -/
structure Table.SameShape (t u : Table) : Prop where
  columns : List.Forall₂ Column.SameShape t.columns u.columns
  foreignKeys : List.Forall₂ ForeignKey.SameShape t.foreignKeys u.foreignKeys
  indexes : List.Forall₂ Index.SameShape t.indexes u.indexes
  uniques : List.Forall₂ (fun x y : Unique => x.columns.length = y.columns.length) t.uniques u.uniques
  comment : t.comment.isSome = u.comment.isSome
  no_tail : t.tail = none ∧ u.tail = none

/-! ### Parts of statements -/

section Parts

open QuoteStyle Lexing

variable {s : Style} {q : QuoteStyle} {a b : String}

/-- What stands in statements between names, types and values. -/
private def words : List String :=
  ["", " ", " (", "(", ")", ", ", ".", "CREATE TABLE ", "CREATE ", "UNIQUE ", "INDEX ", " ON ", "PRIMARY KEY (",
    "CONSTRAINT ", " FOREIGN KEY (", ") REFERENCES ", " ON DELETE ", " ON UPDATE ", " DEFAULT ", " NOT NULL",
    " COMMENT ", " COMMENT=", "COMMENT ON TABLE ", "COMMENT ON COLUMN ", " IS ", "NULL",
    "INTEGER PRIMARY KEY AUTOINCREMENT", "nextval("]

private theorem alike_word (h : a ∈ words) : q.Alike a a := by
  have each : ∀ w ∈ words, Text.isPlain w = true := by
    simp only [Text.isPlain, Text.toList_eq_chars]
    decide +kernel
  exact alike_of_isPlain (each a h)

private theorem alike_name (quoted : s.quoted = true) (m n : String) : s.dialect.quote.Alike (s.name m) (s.name n) := by
  unfold Style.name Dialect.render
  rw [quoted, if_pos rfl, if_pos rfl]
  exact alike_quote _ _

private theorem alike_names (quoted : s.quoted = true) {ms ns : List String} (same : ms.length = ns.length) :
    s.dialect.quote.Alike (s.names ms) (s.names ns) := by
  have pairs : List.Forall₂ (fun _ _ => True) ms ns := List.forall₂_iff_get.mpr ⟨same, fun _ _ _ => trivial⟩
  refine .intercalate (alike_word (by simp [words])) ?_
  exact Outcome.forall₂_map_map pairs fun m n _ => alike_name quoted m n

/-- A text that both have or neither. -/
private theorem alike_optional {α : Type} {x y : Option α} {r : α → α → Prop} (rel : Option.Rel r x y)
    {f : α → String} (each : ∀ a b, r a b → q.Alike (f a) (f b)) :
    q.Alike ((x.map f).getD "") ((y.map f).getD "") := by
  cases rel with
  | some related => exact each _ _ related
  | none => exact .refl_empty

private theorem rel_of_isSome {α : Type} {x y : Option α} (same : x.isSome = y.isSome) :
    Option.Rel (fun _ _ => True) x y := by
  cases x <;> cases y <;> first | exact .none | exact .some trivial | cases same

private theorem rel_lookup {xs ys : List (Char × String)}
    (h : List.Forall₂ (fun x y => x.1 = y.1 ∧ q.Alike x.2 y.2) xs ys) (letter : Char) :
    Option.Rel q.Alike (xs.lookup letter) (ys.lookup letter) := by
  induction h with
  | nil => exact .none
  | @cons x y xs ys first _ ih =>
    rw [List.lookup_cons, List.lookup_cons, ← first.1]
    split
    · exact .some first.2
    · exact ih

/-! ### Types and values -/

private theorem alike_default (known : s.dialect ∈ Dialect.all) {v w : Default} (shape : v.SameShape w) :
    s.dialect.quote.Alike (s.dialect.defaultLiteral v) (s.dialect.defaultLiteral w) := by
  cases shape with
  | text a b => exact alike_literal a b
  | same value =>
    cases v with
    | null => exact (alike_word (by simp [words]) : s.dialect.quote.Alike "NULL" "NULL")
    | boolean b =>
      refine Dialect.alike_of_mem_words known ?_
      cases b <;> simp [Dialect.words, Dialect.defaultLiteral, Dialect.booleanLiteral]
    | integer n => exact alike_of_isPlain (Text.isPlain_toString n)
    | float x => exact alike_of_isPlain x.isPlain_write
    | text a => exact alike_literal a a
    | expression sql => exact absurd rfl (value sql)

private theorem alike_typePart (known : s.dialect ∈ Dialect.all) {c : Column} {type : TypePart}
    (h : c.typePart s.dialect = .ok type) : s.dialect.quote.Alike type.sql type.sql := by
  unfold Column.typePart at h
  split at h
  · cases h
    show s.dialect.quote.Alike "INTEGER PRIMARY KEY AUTOINCREMENT" "INTEGER PRIMARY KEY AUTOINCREMENT"
    exact alike_word (by simp [words])
  · rename_i narrow wide _ identity
    cases h
    refine Dialect.alike_of_mem_words known ?_
    show (if c.type.isWide then wide else narrow) ∈ s.dialect.words
    split <;> simp [Dialect.words, identity, Identity.words]
  · obtain ⟨text, clause, rfl⟩ := Outcome.map_eq_ok_iff.mp h
    exact alike_of_isPlain (Dialect.isPlain_typeClause known clause)

/-! ### Columns -/

section Columns

variable {c d : Column} {table table' : String}

/-- Where the name of the sequence of an identity column is written into a literal, the names that it is made from hold
no apostrophe. -/
def SafeInLiteral (dialect : Dialect) (table : String) (c : Column) : Prop :=
  c.isIdentity = true → dialect.identity.default?.isSome = true → '\'' ∉ table.toList ∧ '\'' ∉ c.name.toList

private theorem mem_of_mem_escape {dialect : Dialect} {name : String} (h : '\'' ∈ (dialect.escape name).toList) :
    '\'' ∈ name.toList := by
  have ending : '\'' ∉ Dialect.escapeEnding.toList := by decide
  unfold Dialect.escape at h
  split at h
  · exact h
  · rw [String.toList_append, List.mem_append] at h
    exact h.resolve_right ending

private theorem not_mem_sequenceName (quoted : s.quoted = true) (duckdb : s.dialect = .duckdb)
    (safe : '\'' ∉ table.toList ∧ '\'' ∉ c.name.toList) : '\'' ∉ (s.sequenceName table c.name).toList := by
  have no_limit : ∀ n, Dialect.duckdb.fit n = n := fun _ => rfl
  have as_declared : ∀ n, Dialect.duckdb.fold n = n := fun _ => rfl
  have delimited : ∀ n, '\'' ∈ (Dialect.duckdb.quote.quote n).toList → '\'' ∈ n.toList := by
    intro n h
    rw [QuoteStyle.toList_quote] at h
    rcases List.mem_cons.mp h with opening | h
    · exact absurd opening (by decide)
    · rcases List.mem_append.mp h with within | closing
      · exact Text.mem_double_iff.mp within
      · exact absurd (List.mem_singleton.mp closing) (by decide)
  intro h
  unfold Style.sequenceName Style.madeUp Style.name Dialect.render at h
  rw [quoted, if_pos rfl, duckdb, no_limit, as_declared] at h
  have whole := mem_of_mem_escape (mem_of_mem_escape (delimited _ h))
  have seams : '\'' ∉ "_".toList ∧ '\'' ∉ "_seq".toList := by decide
  simp only [String.toList_append, List.mem_append] at whole
  rcases whole with ((h | h) | h) | h
  · exact safe.1 h
  · exact seams.1 h
  · exact safe.2 h
  · exact seams.2 h

/-- The default that takes the values of a sequence is a call with the name in a literal, unless the literal ends
early. -/
private theorem fill_nextval {name : String} (safe : '\'' ∉ name.toList) :
    Template.fillWith "nextval('$n')" [('n', name)] = "nextval(" ++ Text.literal name ++ ")" := by
  have split : Template.pieces "nextval('$n')".toList = Template.texts [("nextval('", 'n')] "')" := by decide +kernel
  rw [Template.fillWith, Template.fill_texts (by simp [List.lookup_cons]) split, ← String.toList_inj]
  simp [List.lookup_cons, Text.delimited, Text.double_of_not_mem safe]

private theorem alike_fromSequence (known : s.dialect ∈ Dialect.all) (quoted : s.quoted = true) {template : String}
    (takes : s.dialect.identity.default? = some template)
    (safe : '\'' ∉ table.toList ∧ '\'' ∉ c.name.toList) (safe' : '\'' ∉ table'.toList ∧ '\'' ∉ d.name.toList) :
    s.dialect.quote.Alike (Template.fillWith template [('n', s.sequenceName table c.name)])
      (Template.fillWith template [('n', s.sequenceName table' d.name)]) := by
  obtain ⟨duckdb, rfl⟩ := Dialect.default?_eq_nextval known takes
  rw [fill_nextval (not_mem_sequenceName quoted duckdb safe), fill_nextval (not_mem_sequenceName quoted duckdb safe')]
  exact .append (.append (alike_word (by simp [words])) (alike_literal _ _)) (alike_word (by simp [words]))

private theorem alike_generation (known : s.dialect ∈ Dialect.all) (quoted : s.quoted = true) (shape : c.SameShape d)
    (safe : SafeInLiteral s.dialect table c) (safe' : SafeInLiteral s.dialect table' d) {x y : ColumnDefinition}
    (names : x.table = table ∧ x.name = c.name) (names' : y.table = table' ∧ y.name = d.name)
    (generation : x.generation = c.generation s.dialect) (generation' : y.generation = d.generation s.dialect) :
    s.dialect.quote.Alike (x.generationSql s) (y.generationSql s) := by
  unfold ColumnDefinition.generationSql
  rw [generation, generation', names.1, names.2, names'.1, names'.2]
  unfold Column.generation
  rw [← shape.isIdentity]
  by_cases identity : c.isIdentity = true
  · rw [if_pos identity]
    cases way : s.dialect.identity with
    | keyword word =>
      have listed : word ∈ s.dialect.words := by simp [Dialect.words, way, Identity.words]
      exact .append (alike_word (by simp [words])) (Dialect.alike_of_mem_words known listed)
    | rowid => exact .refl_empty
    | serial narrow wide => exact .refl_empty
    | sequence create drop default =>
      cases default with
      | none => exact .refl_empty
      | some template =>
        have takes : s.dialect.identity.default? = some template := by rw [way]; rfl
        have some_default : s.dialect.identity.default?.isSome = true := by rw [takes]; rfl
        exact .append (alike_word (by simp [words])) (alike_fromSequence known quoted takes
          (safe identity some_default) (safe' (shape.isIdentity ▸ identity) some_default))
  · rw [if_neg identity]
    exact .refl_empty

private theorem alike_definition (known : s.dialect ∈ Dialect.all) (quoted : s.quoted = true) (shape : c.SameShape d)
    (safe : SafeInLiteral s.dialect table c) (safe' : SafeInLiteral s.dialect table' d) {x y : ColumnDefinition}
    (hx : c.definition s.dialect table false = .ok x) (hy : d.definition s.dialect table' false = .ok y) :
    s.dialect.quote.Alike (x.sql s) (y.sql s) := by
  obtain ⟨type, hc, ⟨⟩⟩ := Outcome.bind_eq_ok_iff.mp hx
  obtain ⟨type', hd, ⟨⟩⟩ := Outcome.bind_eq_ok_iff.mp hy
  have same_type : c.typePart s.dialect = d.typePart s.dialect := by
    unfold Column.typePart
    rw [shape.isIdentity, shape.type, shape.params]
  obtain rfl : type = type' := by
    rw [same_type, hd] at hc
    exact (Except.ok.inj hc).symm
  have comments : Option.Rel (fun _ _ => True) (if s.dialect.comments = .inline then c.comment else none)
      (if s.dialect.comments = .inline then d.comment else none) := by
    split
    · exact rel_of_isSome shape.comment
    · exact .none
  have default : s.dialect.quote.Alike ((c.default.map fun v => " DEFAULT " ++ s.dialect.defaultLiteral v).getD "")
      ((d.default.map fun v => " DEFAULT " ++ s.dialect.defaultLiteral v).getD "") :=
    alike_optional shape.default fun _ _ same => .append (alike_word (by simp [words])) (alike_default known same)
  have comment := alike_optional (q := s.dialect.quote) comments (f := fun text => " COMMENT " ++ Text.literal text)
    fun _ _ _ => .append (alike_word (by simp [words])) (alike_literal _ _)
  have not_null : ∀ b : Bool, s.dialect.quote.Alike (if b then " NOT NULL" else "") (if b then " NOT NULL" else "") := by
    intro b
    cases b
    · exact .refl_empty
    · exact alike_word (by simp [words])
  have check : s.dialect.quote.Alike ((c.check.map fun e => " CHECK (" ++ e ++ ")").getD "")
      ((d.check.map fun e => " CHECK (" ++ e ++ ")").getD "") := by
    rw [shape.no_check.1, shape.no_check.2]
    exact .refl_empty
  unfold ColumnDefinition.sql
  refine .append (.append (.append (.append (.append (.append (.append ?_ ?_) ?_) default) ?_) ?_) check) comment
  · exact alike_name quoted _ _
  · exact alike_word (by simp [words])
  · exact alike_typePart known hc
  · exact alike_generation known quoted shape safe safe' ⟨rfl, rfl⟩ ⟨rfl, rfl⟩ rfl rfl
  · rw [shape.nullable]
    exact not_null _

end Columns

/-! ### Statements -/

section Statements

variable {t u : Table}

/-- Statements that are written alike, one by one. -/
private abbrev WrittenAlike (s : Style) : List Statement → List Statement → Prop :=
  List.Forall₂ fun x y => s.dialect.quote.Alike (x.sql s) (y.sql s)

/-- The templates of the statements that create something. -/
private theorem alike_fillWith (known : s.dialect ∈ Dialect.all) {template : String}
    (creates : template ∈ s.dialect.creations) {xs ys : List (Char × String)}
    (values : List.Forall₂ (fun x y => x.1 = y.1 ∧ s.dialect.quote.Alike x.2 y.2) xs ys) :
    s.dialect.quote.Alike (Template.fillWith template xs) (Template.fillWith template ys) := by
  exact Template.alike_fill (Dialect.isFlat_of_creates known creates) (rel_lookup values)

private theorem alike_actions {f g : ForeignKey} (shape : f.SameShape g) : q.Alike (s.actions f) (s.actions g) := by
  have each : ∀ action : RefAction, q.Alike action.sql action.sql := by
    intro action
    refine alike_of_isPlain ?_
    cases action <;> decide
  have part : ∀ (x : Option RefAction) (front : String), q.Alike front front →
      q.Alike ((x.map fun a => front ++ a.sql).getD "") ((x.map fun a => front ++ a.sql).getD "") := by
    intro x front plain
    cases x with
    | none => exact .refl_empty
    | some action => exact .append plain (each action)
  unfold Style.actions
  rw [shape.onDelete, shape.onUpdate]
  exact .append (part _ " ON DELETE " (alike_word (by simp [words])))
    (part _ " ON UPDATE " (alike_word (by simp [words])))

private theorem alike_foreignKey (quoted : s.quoted = true) {f g : ForeignKey} (shape : f.SameShape g) :
    s.dialect.quote.Alike ((TableElement.foreignKey f).sql s) ((TableElement.foreignKey g).sql s) := by
  unfold TableElement.sql
  refine .append
    (.append (.append (.append (.append (.append (.append (.append (.append ?_ ?_) ?_) ?_) ?_) ?_) ?_) ?_) ?_)
    (alike_actions shape)
  · exact alike_word (by simp [words])
  · exact alike_name quoted _ _
  · exact alike_word (by simp [words])
  · exact alike_names quoted shape.columns
  · exact alike_word (by simp [words])
  · exact alike_name quoted _ _
  · exact alike_word (by simp [words])
  · exact alike_names quoted shape.refColumns
  · exact alike_word (by simp [words])

private theorem keyNames_length (shape : t.SameShape u) : t.keyNames.length = u.keyNames.length := by
  unfold Table.keyNames Table.keyColumns
  rw [List.length_map, List.length_map]
  exact (Outcome.forall₂_filter shape.columns fun _ _ same => same.inKey).length_eq

private theorem declaresKey_eq (shape : t.SameShape u) (d : Dialect) : t.declaresKey d = u.declaresKey d := by
  have empty : t.keyColumns.isEmpty = u.keyColumns.isEmpty := by
    have same := keyNames_length shape
    unfold Table.keyNames at same
    rw [List.length_map, List.length_map] at same
    rw [Bool.eq_iff_iff, List.isEmpty_iff_length_eq_zero, List.isEmpty_iff_length_eq_zero, same]
  have identity : t.columns.any (·.isIdentity) = u.columns.any (·.isIdentity) := by
    have flags := Outcome.map_eq_map shape.columns fun _ _ same => same.isIdentity
    have any : ∀ v : Table, v.columns.any (·.isIdentity) = (v.columns.map (·.isIdentity)).any id := by simp
    rw [any t, any u, flags]
  unfold Table.declaresKey Table.keyIsRowid
  rw [empty, identity]

private theorem writtenAlike_sequences (known : s.dialect ∈ Dialect.all) (quoted : s.quoted = true)
    (shape : t.SameShape u) : WrittenAlike s (t.createSequences s.dialect) (u.createSequences s.dialect) := by
  unfold Table.createSequences
  split
  · rename_i create drop default identity
    have creates : create ∈ s.dialect.creations := by simp [Dialect.creations, identity, Identity.create?]
    refine Outcome.forall₂_map_map (Outcome.forall₂_filter shape.columns fun _ _ same => same.isIdentity) fun c d _ => ?_
    exact alike_fillWith known creates (.cons ⟨rfl, alike_name quoted _ _⟩ .nil)
  · exact .nil

private theorem writtenAlike_key (known : s.dialect ∈ Dialect.all) (quoted : s.quoted = true) (shape : t.SameShape u) :
    WrittenAlike s (t.keyStatements s.dialect) (u.keyStatements s.dialect) := by
  unfold Table.keyStatements
  rw [declaresKey_eq shape]
  split
  · exact .nil
  · rename_i add drop placement
    have adds : add ∈ s.dialect.additions := by simp [Dialect.additions, placement, Placement.add?]
    split
    · refine .cons (alike_fillWith known (List.mem_append_left _ adds) ?_) .nil
      exact .cons ⟨rfl, alike_name quoted _ _⟩ (.cons ⟨rfl, alike_name quoted _ _⟩
        (.cons ⟨rfl, alike_names quoted (keyNames_length shape)⟩ .nil))
    · exact .nil

private theorem writtenAlike_comments (quoted : s.quoted = true) (shape : t.SameShape u) :
    WrittenAlike s (t.commentStatements s.dialect) (u.commentStatements s.dialect) := by
  have each : ∀ {x y : Option String} (same : x.isSome = y.isSome) {f g : String → Statement},
      (∀ a b, s.dialect.quote.Alike ((f a).sql s) ((g b).sql s)) →
        WrittenAlike s (x.toList.map f) (y.toList.map g) := by
    intro x y same f g alike
    cases x <;> cases y <;> first | exact .nil | exact .cons (alike _ _) .nil | cases same
  unfold Table.commentStatements
  split
  · refine List.rel_append (each shape.comment fun a b => ?_) (List.rel_flatMap shape.columns fun c d same => ?_)
    · unfold Statement.sql
      refine .append (.append (.append ?_ ?_) ?_) (alike_literal _ _)
      · exact alike_word (by simp [words])
      · exact alike_name quoted _ _
      · exact alike_word (by simp [words])
    · refine each same.comment fun a b => ?_
      unfold Statement.sql
      refine .append (.append (.append (.append (.append ?_ ?_) ?_) ?_) ?_) (alike_literal _ _)
      · exact alike_word (by simp [words])
      · exact alike_name quoted _ _
      · exact alike_word (by simp [words])
      · exact alike_name quoted _ _
      · exact alike_word (by simp [words])
  · exact .nil

private theorem alike_createIndex (quoted : s.quoted = true) (tables names : String × String)
    {columns columns' : List String} (same : columns.length = columns'.length) (unique : Bool) :
    s.dialect.quote.Alike ((Statement.createIndex tables.1 names.1 columns unique).sql s)
      ((Statement.createIndex tables.2 names.2 columns' unique).sql s) := by
  unfold Statement.sql
  refine .append (.append (.append (.append (.append (.append (.append (.append ?_ ?_) ?_) ?_) ?_) ?_) ?_)
    (alike_names quoted same)) ?_
  · exact alike_word (by simp [words])
  · cases unique
    · exact .refl_empty
    · exact alike_word (by simp [words])
  · exact alike_word (by simp [words])
  · exact alike_name quoted _ _
  · exact alike_word (by simp [words])
  · exact alike_name quoted _ _
  · exact alike_word (by simp [words])
  · exact alike_word (by simp [words])

private theorem alike_uniqueStatement (known : s.dialect ∈ Dialect.all) (quoted : s.quoted = true) {x y : Unique}
    (same : x.columns.length = y.columns.length) :
    s.dialect.quote.Alike ((t.uniqueStatement s.dialect x).sql s) ((u.uniqueStatement s.dialect y).sql s) := by
  unfold Table.uniqueStatement
  split
  · rename_i add drop placement
    have adds : add ∈ s.dialect.additions := by simp [Dialect.additions, placement, UniquePlacement.add?]
    refine alike_fillWith known (List.mem_append_left _ adds) ?_
    exact .cons ⟨rfl, alike_name quoted _ _⟩ (.cons ⟨rfl, alike_name quoted _ _⟩
      (.cons ⟨rfl, alike_names quoted same⟩ .nil))
  · exact alike_createIndex quoted (t.name, u.name) (x.name, y.name) same true

private theorem writtenAlike_foreignKeys (known : s.dialect ∈ Dialect.all) (quoted : s.quoted = true)
    (shape : t.SameShape u) : WrittenAlike s (t.foreignKeyStatements s.dialect) (u.foreignKeyStatements s.dialect) := by
  unfold Table.foreignKeyStatements
  split
  · exact .nil
  · rename_i add drop placement
    have adds : add ∈ s.dialect.additions := by simp [Dialect.additions, placement, Placement.add?]
    refine Outcome.forall₂_map_map shape.foreignKeys fun f g same => ?_
    refine alike_fillWith known (List.mem_append_left _ adds) ?_
    exact .cons ⟨rfl, alike_name quoted _ _⟩ (.cons ⟨rfl, alike_name quoted _ _⟩
      (.cons ⟨rfl, alike_names quoted same.columns⟩ (.cons ⟨rfl, alike_name quoted _ _⟩
        (.cons ⟨rfl, alike_names quoted same.refColumns⟩ (.cons ⟨rfl, alike_actions same⟩ .nil)))))

/-- The parts of the definition of a table besides its columns. -/
private theorem alike_laterElements (quoted : s.quoted = true) (shape : t.SameShape u) :
    List.Forall₂ (fun x y : TableElement => s.dialect.quote.Alike (x.sql s) (y.sql s))
      (t.keyElements s.dialect ++ t.foreignKeyElements s.dialect)
      (u.keyElements s.dialect ++ u.foreignKeyElements s.dialect) := by
  unfold Table.keyElements Table.foreignKeyElements
  rw [declaresKey_eq shape]
  refine List.rel_append ?_ ?_
  · split
    · refine .cons (.append (.append ?_ (alike_names quoted (keyNames_length shape))) ?_) .nil
      · exact alike_word (by simp [words])
      · exact alike_word (by simp [words])
    · exact .nil
  · split
    · exact Outcome.forall₂_map_map shape.foreignKeys fun _ _ same => alike_foreignKey quoted same
    · exact .nil

private theorem alike_createTable (known : s.dialect ∈ Dialect.all) (quoted : s.quoted = true) (shape : t.SameShape u)
    {xs ys : List TableElement}
    (elements : List.Forall₂ (fun x y : TableElement => s.dialect.quote.Alike (x.sql s) (y.sql s)) xs ys) :
    s.dialect.quote.Alike
      ((Statement.createTable t.name xs (t.tail.or s.dialect.tableTail)
        (if s.dialect.comments = .inline then t.comment else none)).sql s)
      ((Statement.createTable u.name ys (u.tail.or s.dialect.tableTail)
        (if s.dialect.comments = .inline then u.comment else none)).sql s) := by
  have texts : List.Forall₂ s.dialect.quote.Alike (xs.map (TableElement.sql s)) (ys.map (TableElement.sql s)) :=
    Outcome.forall₂_map_map elements fun _ _ alike => alike
  have comments : Option.Rel (fun _ _ => True) (if s.dialect.comments = .inline then t.comment else none)
      (if s.dialect.comments = .inline then u.comment else none) := by
    split
    · exact rel_of_isSome shape.comment
    · exact .none
  have tail : (s.dialect.tableTail.map fun x => " " ++ x).getD "" ∈ s.dialect.words := by simp [Dialect.words]
  have comment := alike_optional (q := s.dialect.quote) comments (f := fun text => " COMMENT=" ++ Text.literal text)
    fun _ _ _ => .append (alike_word (by simp [words])) (alike_literal _ _)
  unfold Statement.sql
  rw [shape.no_tail.1, shape.no_tail.2, Option.none_or]
  refine .append (.append (.append (.append (.append (.append ?_ ?_) ?_) ?_) ?_)
    (Dialect.alike_of_mem_words known tail)) comment
  · exact alike_word (by simp [words])
  · exact alike_name quoted _ _
  · exact alike_word (by simp [words])
  · exact .intercalate (alike_word (by simp [words])) texts
  · exact alike_word (by simp [words])

/-- Where names are written into literals, those that the names of sequences are made from hold no apostrophe. -/
def Table.SafeInLiterals (d : Dialect) (t : Table) : Prop := ∀ c ∈ t.columns, SafeInLiteral d t.name c

private theorem alike_definitions (known : s.dialect ∈ Dialect.all) (quoted : s.quoted = true) {cs ds : List Column}
    (shape : List.Forall₂ Column.SameShape cs ds) (safe : ∀ c ∈ cs, SafeInLiteral s.dialect t.name c)
    (safe' : ∀ d ∈ ds, SafeInLiteral s.dialect u.name d) {xs ys : List ColumnDefinition}
    (hx : List.Forall₂ (fun c x => c.definition s.dialect t.name false = .ok x) cs xs)
    (hy : List.Forall₂ (fun d y => d.definition s.dialect u.name false = .ok y) ds ys) :
    List.Forall₂ (fun x y : ColumnDefinition => s.dialect.quote.Alike (x.sql s) (y.sql s)) xs ys := by
  induction shape generalizing xs ys with
  | nil =>
    cases hx
    cases hy
    exact .nil
  | cons same _ ih =>
    cases hx with
    | cons hx hxs =>
      cases hy with
      | cons hy hys =>
        have first := alike_definition known quoted same (safe _ List.mem_cons_self) (safe' _ List.mem_cons_self) hx hy
        exact .cons first (ih (fun c hc => safe c (List.mem_cons_of_mem _ hc))
          (fun d hd => safe' d (List.mem_cons_of_mem _ hd)) hxs hys)

private theorem writtenAlike_phases (known : s.dialect ∈ Dialect.all) (quoted : s.quoted = true)
    (shape : t.SameShape u) (safe : t.SafeInLiterals s.dialect) (safe' : u.SafeInLiterals s.dialect)
    {x y : CreatePhases} (hx : t.createPhases s.dialect = .ok x) (hy : u.createPhases s.dialect = .ok y) :
    WrittenAlike s (CreatePhases.statements [x]) (CreatePhases.statements [y]) := by
  obtain ⟨xs, hxs, rfl⟩ := Table.eq_of_createPhases hx
  obtain ⟨ys, hys, rfl⟩ := Table.eq_of_createPhases hy
  have definitions := alike_definitions known quoted shape.columns safe safe' (Outcome.mapM_eq_ok_iff.mp hxs)
    (Outcome.mapM_eq_ok_iff.mp hys)
  have elements : List.Forall₂ (fun x y : TableElement => s.dialect.quote.Alike (x.sql s) (y.sql s))
      (xs.map .column ++ t.keyElements s.dialect ++ t.foreignKeyElements s.dialect)
      (ys.map .column ++ u.keyElements s.dialect ++ u.foreignKeyElements s.dialect) := by
    rw [List.append_assoc, List.append_assoc]
    refine List.rel_append ?_ (alike_laterElements quoted shape)
    exact Outcome.forall₂_map_map definitions fun _ _ alike => alike
  have indexes : WrittenAlike s (t.indexes.map fun i => .createIndex t.name i.name i.columns i.unique)
      (u.indexes.map fun i => .createIndex u.name i.name i.columns i.unique) := by
    refine Outcome.forall₂_map_map shape.indexes fun i j same => ?_
    rw [same.unique]
    exact alike_createIndex quoted (t.name, u.name) (i.name, j.name) same.columns j.unique
  have uniques : WrittenAlike s (t.uniques.map (t.uniqueStatement s.dialect))
      (u.uniques.map (u.uniqueStatement s.dialect)) :=
    Outcome.forall₂_map_map shape.uniques fun _ _ same => alike_uniqueStatement known quoted same
  have tables : WrittenAlike s
      (.createTable t.name (xs.map .column ++ t.keyElements s.dialect ++ t.foreignKeyElements s.dialect)
        (t.tail.or s.dialect.tableTail) (if s.dialect.comments = .inline then t.comment else none) ::
        (t.keyStatements s.dialect ++ t.commentStatements s.dialect))
      (.createTable u.name (ys.map .column ++ u.keyElements s.dialect ++ u.foreignKeyElements s.dialect)
        (u.tail.or s.dialect.tableTail) (if s.dialect.comments = .inline then u.comment else none) ::
        (u.keyStatements s.dialect ++ u.commentStatements s.dialect)) :=
    .cons (alike_createTable known quoted shape elements)
      (List.rel_append (writtenAlike_key known quoted shape) (writtenAlike_comments quoted shape))
  unfold CreatePhases.statements
  simp only [List.flatMap_singleton]
  exact List.rel_append (List.rel_append (List.rel_append (List.rel_append
    (writtenAlike_sequences known quoted shape) tables) indexes) uniques) (writtenAlike_foreignKeys known quoted shape)

/-- The scripts of tables of one shape consist of the same tokens. So no name, comment or text default ends the token in
which it is written. -/
theorem script_tokens_eq {d : Dialect} (known : d ∈ Dialect.all) (shape : t.SameShape u) (safe : t.SafeInLiterals d)
    (safe' : u.SafeInLiterals d) {script script' : List Statement} (h : t.create d = .ok script)
    (h' : u.create d = .ok script') :
    script.map (fun st => d.quote.tokens (st.sql ⟨d, true⟩)) =
      script'.map fun st => d.quote.tokens (st.sql ⟨d, true⟩) := by
  obtain ⟨-, -, x, hx, rfl⟩ := Table.create_eq_ok_iff.mp h
  obtain ⟨-, -, y, hy, rfl⟩ := Table.create_eq_ok_iff.mp h'
  have alike := writtenAlike_phases (s := ⟨d, true⟩) known rfl shape safe safe' hx hy
  exact Outcome.map_eq_map alike fun _ _ alike => alike.tokens_eq

/-- A table that holds a number of its own, a name and a remark. -/
def remarks (table key column standard comment : String) : Table where
  name := table
  columns :=
    [{ name := key, type := .bigint, nullable := false, inKey := true, isIdentity := true },
      { name := column, type := .varchar, params := { length := some 20 }, default := some (.text standard) }]
  foreignKeys := [{ name := "fk" ++ column, columns := [key], refTable := column, refColumns := [table] }]
  comment := some comment

theorem remarks_tokens_eq :
    Dialect.postgresql ∈ Dialect.all ∧
      ∃ script script', (remarks "t" "id" "remark" "none" "remarks").create .postgresql = .ok script ∧
        (remarks "t\"; DROP TABLE u; --" "i'd" "\"\"" "', (" "it's").create .postgresql = .ok script' ∧
        script.map (fun st => QuoteStyle.double.tokens (st.sql ⟨.postgresql, true⟩)) =
          script'.map fun st => QuoteStyle.double.tokens (st.sql ⟨.postgresql, true⟩) := by
  have known : Dialect.postgresql ∈ Dialect.all := by decide +kernel
  have created : ((remarks "t" "id" "remark" "none" "remarks").create .postgresql).map List.length = .ok 3 := by
    decide +kernel
  have created' : ((remarks "t\"; DROP TABLE u; --" "i'd" "\"\"" "', (" "it's").create .postgresql).map List.length =
      .ok 3 := by decide +kernel
  obtain ⟨script, h, -⟩ := Outcome.map_eq_ok_iff.mp created
  obtain ⟨script', h', -⟩ := Outcome.map_eq_ok_iff.mp created'
  have shape : (remarks "t" "id" "remark" "none" "remarks").SameShape
      (remarks "t\"; DROP TABLE u; --" "i'd" "\"\"" "', (" "it's") :=
    ⟨.cons ⟨rfl, rfl, rfl, rfl, rfl, .none, rfl, rfl, rfl⟩ (.cons ⟨rfl, rfl, rfl, rfl, rfl, .some (.text _ _), rfl, rfl,
      rfl⟩ .nil), .cons ⟨rfl, rfl, rfl, rfl⟩ .nil, .nil, .nil, rfl, rfl, rfl⟩
  have safe : ∀ t : Table, t.SafeInLiterals .postgresql := fun _ _ _ _ default => absurd default (by decide)
  exact ⟨known, script, script', h, h', script_tokens_eq known shape (safe _) (safe _) h h'⟩

/-- A table of nothing but numbers that the engine gives. -/
def numbers (table : String) : Table :=
  { name := table, columns := [{ name := "id", type := .bigint, isIdentity := true }] }

/-- An apostrophe in the name of a table ends the literal with the name of the sequence. -/
theorem apostrophe_ends_literal :
    Dialect.duckdb ∈ Dialect.all ∧ (∀ t ∈ [numbers "a'b", numbers "ab"], t.Reachable) ∧
      (numbers "a'b").SameShape (numbers "ab") ∧
      ∃ script script', (numbers "a'b").create .duckdb = .ok script ∧ (numbers "ab").create .duckdb = .ok script' ∧
        script.map (Statement.sql ⟨.duckdb, true⟩) =
          ["CREATE SEQUENCE \"a'b_id_seq\" START 1",
            "CREATE TABLE \"a'b\" (\"id\" BIGINT DEFAULT nextval('\"a'b_id_seq\"'))"] ∧
        script.map (fun st => QuoteStyle.double.tokens (st.sql ⟨.duckdb, true⟩)) ≠
          script'.map fun st => QuoteStyle.double.tokens (st.sql ⟨.duckdb, true⟩) := by
  have known : Dialect.duckdb ∈ Dialect.all := by decide +kernel
  have made : ∀ t ∈ [numbers "a'b", numbers "ab"], t.Reachable := by decide +kernel
  have shape : (numbers "a'b").SameShape (numbers "ab") :=
    ⟨.cons ⟨rfl, rfl, rfl, rfl, rfl, .none, rfl, rfl, rfl⟩ .nil, .nil, .nil, .nil, rfl, rfl, rfl⟩
  have written : ((numbers "a'b").create .duckdb).map (·.map (Statement.sql ⟨.duckdb, true⟩)) =
      .ok ["CREATE SEQUENCE \"a'b_id_seq\" START 1",
        "CREATE TABLE \"a'b\" (\"id\" BIGINT DEFAULT nextval('\"a'b_id_seq\"'))"] := by decide +kernel
  have written' : ((numbers "ab").create .duckdb).map (·.map (Statement.sql ⟨.duckdb, true⟩)) =
      .ok ["CREATE SEQUENCE \"ab_id_seq\" START 1",
        "CREATE TABLE \"ab\" (\"id\" BIGINT DEFAULT nextval('\"ab_id_seq\"'))"] := by decide +kernel
  obtain ⟨script, h, texts⟩ := Outcome.map_eq_ok_iff.mp written
  obtain ⟨script', h', texts'⟩ := Outcome.map_eq_ok_iff.mp written'
  refine ⟨known, made, shape, script, script', h, h', texts, fun same => ?_⟩
  have tokens : ∀ sts : List Statement, sts.map (fun st => QuoteStyle.double.tokens (st.sql ⟨.duckdb, true⟩)) =
      (sts.map (Statement.sql ⟨.duckdb, true⟩)).map QuoteStyle.double.tokens := by simp
  rw [tokens, tokens, texts, texts'] at same
  simp only [List.map_cons, List.map_nil, QuoteStyle.tokens, Text.toList_eq_chars] at same
  exact absurd same (by decide +kernel)

end Statements

end Parts

end SqlSchema
