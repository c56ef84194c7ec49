import Mathlib.Data.List.Forall2
import SqlSchema.Catalog.Reading
import SqlSchema.Proofs.Table.Parts

/-!
# What is read of a catalog

What a table says of its columns and constraints and what is reported of them are set side by side (`ReadAs`). A report
is read as a table exactly when the two agree and edits make the table (`ReportedTable.toTable_eq_ok_iff`). So all tables
of a source are read, in its order and each one faithfully, or the source is `Faulty` and reading it fails as such
(`CatalogSource.readTables_faithful`).
-/

namespace SqlSchema

variable {d : Dialect}

/-! ### Columns -/

theorem Text.startsWithName_iff {s start : String} :
    startsWithName s start = true ↔
      ∃ word rest, s.toList = word ++ rest ∧ sameName (String.ofList word) start = true := by
  unfold startsWithName
  rw [List.isPrefixOf_iff_prefix, toList_lower, toList_lower]
  constructor
  · rintro ⟨rest, whole⟩
    obtain ⟨word, after, split, same, -⟩ := List.map_eq_append_iff.mp whole.symm
    refine ⟨word, after, split, ?_⟩
    rw [sameName_iff, ← String.toList_inj, toList_lower, toList_lower, String.toList_ofList, same]
  · rintro ⟨word, rest, split, same⟩
    rw [sameName_iff, ← String.toList_inj, toList_lower, toList_lower, String.toList_ofList] at same
    rw [split, List.map_append, same]
    exact List.prefix_append _ _

namespace Default

/-- The expression starts with a call of `nextval`, in whatever case and behind whatever blanks. -/
def CallsNextValue (expression : String) : Prop :=
  ∃ blanks word rest, expression.toList = blanks ++ (word ++ rest) ∧ (∀ c ∈ blanks, Text.isBlank c = true) ∧
    Text.sameName (String.ofList word) "nextval(" = true

/-- No blank is folded to another character. -/
private theorem isBlank_eq_false_of_toLower {c : Char} : c.toLower = 'n' → Text.isBlank c = false :=
  Text.forall_of_ascii (p := fun c => c.toLower = 'n' → Text.isBlank c = false) (by decide)
    (fun _ wide same => absurd ((Text.toLower_of_wide wide).symm.trans same) (Text.ne_of_wide wide (by decide))) c

theorem fromSequence_iff {expression : String} : fromSequence expression = true ↔ CallsNextValue expression := by
  unfold fromSequence
  rw [Text.startsWithName_iff, String.toList_ofList]
  constructor
  · rintro ⟨word, rest, split, same⟩
    refine ⟨expression.toList.takeWhile Text.isBlank, word, rest, ?_, ?_, same⟩
    · rw [← split]
      exact List.takeWhile_append_dropWhile.symm
    · exact List.all_eq_true.mp List.all_takeWhile
  · rintro ⟨blanks, word, rest, split, all_blank, same⟩
    refine ⟨word, rest, ?_, same⟩
    have folded : word.map Char.toLower = 'n' :: "extval(".toList := by
      rw [Text.sameName_iff, ← String.toList_inj, Text.toList_lower, String.toList_ofList] at same
      exact same
    cases word with
    | nil => cases folded
    | cons c word =>
      have first := isBlank_eq_false_of_toLower (List.cons.inj folded).1
      rw [split, Text.trimLeft_append_of_all_blank all_blank]
      exact List.dropWhile_cons_of_neg (by simp [first])

end Default

/-- The column says what is reported of it in a table with these names of key columns. -/
structure ReportedColumn.ReadAs (d : Dialect) (key : List String) (r : ReportedColumn) (c : Column) : Prop where
  name : c.name = r.name
  type : d.ofNative? r.typeName r.size r.precision r.scale = some (c.type, c.params)
  inKey_iff : c.inKey = true ↔ ∃ k ∈ key, Text.sameName k r.name = true
  nullable_iff : c.nullable = true ↔ r.nullable = true ∧ c.inKey = false
  isIdentity_iff : c.isIdentity = true ↔
    c.type.isIntegral = true ∧ (r.numbered = true ∨ ∃ e ∈ r.default, Default.CallsNextValue e)
  /-- An identity column has no default; another one has the one that is reported, unless that says nothing. -/
  default : c.default = if c.isIdentity = true then none else r.default.bind Default.ofCatalog?
  comment : c.comment = r.comment
  check : c.check = none

private theorem ReportedColumn.isNumbered_iff {r : ReportedColumn} :
    r.isNumbered = true ↔ r.numbered = true ∨ ∃ e ∈ r.default, Default.CallsNextValue e := by
  unfold ReportedColumn.isNumbered
  rw [Bool.or_eq_true]
  simp only [Option.any_eq_true, Default.fromSequence_iff, Option.mem_def]

theorem ReportedTable.column_eq_ok_iff {r : ReportedTable} {x : ReportedColumn} {c : Column} :
    r.column d x = .ok c ↔ x.ReadAs d r.keyNames c := by
  unfold ReportedTable.column
  constructor
  · intro read
    split at read
    · rename_i t p found
      cases read
      refine ⟨rfl, found, ?_, ?_, ?_, rfl, rfl, rfl⟩
      · show lists r.keyNames x.name = true ↔ _
        simp [lists]
      · show (x.nullable && !lists r.keyNames x.name) = true ↔ x.nullable = true ∧ lists r.keyNames x.name = false
        simp
      · show (x.isNumbered && t.isIntegral) = true ↔ t.isIntegral = true ∧ _
        rw [Bool.and_eq_true, ReportedColumn.isNumbered_iff, and_comm]
    · cases read
  · intro read
    have inKey : lists r.keyNames x.name = c.inKey := by
      rw [Bool.eq_iff_iff, read.inKey_iff]
      simp [lists]
    have nullable : (x.nullable && !c.inKey) = c.nullable := by
      rw [Bool.eq_iff_iff, read.nullable_iff]
      simp
    have isIdentity : (x.isNumbered && c.type.isIntegral) = c.isIdentity := by
      rw [Bool.eq_iff_iff, read.isIdentity_iff, Bool.and_eq_true, ReportedColumn.isNumbered_iff, and_comm]
    rw [read.type]
    show Except.ok (x.toColumn c.type c.params (lists r.keyNames x.name)) = .ok c
    congr 1
    unfold ReportedColumn.toColumn
    rw [inKey]
    simp only [nullable, isIdentity, ← read.default, ← read.name, ← read.comment, ← read.check]

/-! ### Constraints -/

/-- The foreign key says what is reported of it; `madeUp` is its name if none is reported. -/
structure ReportedForeignKey.ReadAs (madeUp : String) (r : ReportedForeignKey) (f : ForeignKey) : Prop where
  name : f.name = r.name.getD madeUp
  columns : f.columns = r.columns
  refTable : f.refTable = r.refTable
  refColumns : f.refColumns = r.refColumns
  onDelete : ∀ a, f.onDelete = some a ↔ r.onDelete = some a ∧ a ≠ .noAction
  onUpdate : ∀ a, f.onUpdate = some a ↔ r.onUpdate = some a ∧ a ≠ .noAction

/-- The unique constraint says what is reported of it; `madeUp` is its name if none is reported. -/
structure ReportedIndex.ReadAsUnique (madeUp : String) (r : ReportedIndex) (u : Unique) : Prop where
  name : u.name = r.name.getD madeUp
  columns : u.columns = r.columns

/-- The index says what is reported of it; `madeUp` is its name if none is reported. -/
structure ReportedIndex.ReadAsIndex (madeUp : String) (r : ReportedIndex) (i : Index) : Prop where
  name : i.name = r.name.getD madeUp
  columns : i.columns = r.columns
  unique : i.unique = r.unique

private theorem effective?_eq_iff {a b : Option RefAction} :
    b = RefAction.effective? a ↔ ∀ x, b = some x ↔ a = some x ∧ x ≠ .noAction := by
  unfold RefAction.effective?
  constructor
  · rintro rfl x
    simp [Option.filter_eq_some_iff]
  · intro same
    ext x
    simp [same, Option.filter_eq_some_iff]

theorem ReportedForeignKey.readAs_iff {r : ReportedForeignKey} {table : String} {n : Nat} {f : ForeignKey} :
    r.ReadAs (madeUpName "FK" table n) f ↔ f = r.toForeignKey table n := by
  constructor
  · rintro ⟨name, columns, refTable, refColumns, onDelete, onUpdate⟩
    rw [← effective?_eq_iff] at onDelete onUpdate
    unfold ReportedForeignKey.toForeignKey
    rw [← name, ← columns, ← refTable, ← refColumns, ← onDelete, ← onUpdate]
  · rintro rfl
    exact ⟨rfl, rfl, rfl, rfl, effective?_eq_iff.mp rfl, effective?_eq_iff.mp rfl⟩

theorem ReportedIndex.readAsUnique_iff {r : ReportedIndex} {madeUp : String} {u : Unique} :
    r.ReadAsUnique madeUp u ↔ u = ⟨r.name.getD madeUp, r.columns⟩ := by
  constructor
  · rintro ⟨name, columns⟩
    rw [← name, ← columns]
  · rintro rfl
    exact ⟨rfl, rfl⟩

theorem ReportedIndex.readAsIndex_iff {r : ReportedIndex} {madeUp : String} {i : Index} :
    r.ReadAsIndex madeUp i ↔ i = ⟨r.name.getD madeUp, r.columns, r.unique⟩ := by
  constructor
  · rintro ⟨name, columns, unique⟩
    rw [← name, ← columns, ← unique]
  · rintro rfl
    exact ⟨rfl, rfl, rfl⟩

/-- Entries that depend on what they come from and its number are made in order. -/
private theorem forall₂_zipIdx_iff {α β : Type} {R : α → Nat → β → Prop} {make : Nat → α → β}
    (each : ∀ x n y, R x n y ↔ y = make n x) (xs : List α) (ys : List β) :
    List.Forall₂ (fun p y => R p.1 p.2 y) xs.zipIdx ys ↔ ys = xs.mapIdx make := by
  have entries : (fun (p : α × Nat) y => R p.1 p.2 y) = fun p y => make p.2 p.1 = y := by
    funext p y
    rw [each, eq_iff_iff, eq_comm]
  rw [entries, List.mapIdx_eq_zipIdx_map, ← List.forall₂_map_left_iff (R := (· = ·)), List.forall₂_eq_eq_eq, eq_comm]

private theorem uniques_indexEdits (table : String) (indexes uniques : Nat) (rs : List ReportedIndex) :
    (indexEdits table indexes uniques rs).filterMap TableEdit.unique? =
      (rs.filter (·.isUnique)).mapIdx fun n r =>
        ⟨r.name.getD (madeUpName "UK" table (uniques + n + 1)), r.columns⟩ := by
  induction rs generalizing indexes uniques with
  | nil => rfl
  | cons r rs ih =>
    unfold indexEdits
    split
    · rename_i unique
      rw [List.filter_cons_of_pos unique, List.mapIdx_cons, List.filterMap_cons_some (by rfl), ih]
      simp only [Nat.add_zero, Nat.add_assoc, Nat.add_comm 1]
    · rename_i other
      rw [List.filter_cons_of_neg other, List.filterMap_cons_none rfl, ih]

private theorem indexes_indexEdits (table : String) (indexes uniques : Nat) (rs : List ReportedIndex) :
    (indexEdits table indexes uniques rs).filterMap TableEdit.index? =
      (rs.filter (!·.isUnique)).mapIdx fun n r =>
        ⟨r.name.getD (madeUpName "IDX" table (indexes + n + 1)), r.columns, r.unique⟩ := by
  induction rs generalizing indexes uniques with
  | nil => rfl
  | cons r rs ih =>
    unfold indexEdits
    split
    · rename_i unique
      rw [List.filter_cons_of_neg (by simp [unique]), List.filterMap_cons_none rfl, ih]
    · rename_i other
      rw [List.filter_cons_of_pos (by simp [other]), List.mapIdx_cons, List.filterMap_cons_some (by rfl), ih]
      simp only [Nat.add_zero, Nat.add_assoc, Nat.add_comm 1]

/-- Edits that add indexes and unique constraints add nothing else. -/
private theorem others_indexEdits {α : Type} (item? : TableEdit → Option α) (index : ∀ i, item? (.index i) = none)
    (unique : ∀ u, item? (.unique u) = none) (table : String) (indexes uniques : Nat) (rs : List ReportedIndex) :
    (indexEdits table indexes uniques rs).filterMap item? = [] := by
  induction rs generalizing indexes uniques with
  | nil => rfl
  | cons r rs ih =>
    unfold indexEdits
    split
    · rw [List.filterMap_cons_none (unique _), ih]
    · rw [List.filterMap_cons_none (index _), ih]

private theorem filterMap_foreignKeyEdits {α : Type} (item? : TableEdit → Option α) (table : String)
    (rs : List ReportedForeignKey) : (foreignKeyEdits table rs).filterMap item? =
      (rs.mapIdx fun n r => r.toForeignKey table (n + 1)).filterMap fun f => item? (.foreignKey f) := by
  have edits : foreignKeyEdits table rs = (rs.mapIdx fun n r => r.toForeignKey table (n + 1)).map .foreignKey := by
    unfold foreignKeyEdits
    exact List.ext_getElem (by simp) fun i _ _ => by simp
  rw [edits, List.filterMap_map]
  rfl

/-! ### Tables -/

namespace ReportedTable

/-- The table says what is reported of it. Constraints without a name are numbered among those of their kind. -/
structure ReadAs (d : Dialect) (r : ReportedTable) (t : Table) : Prop where
  name : t.name = r.name
  key_known : ∀ key ∈ r.keyNames, ∃ c ∈ r.columns, Text.sameName c.name key = true
  columns : List.Forall₂ (ReportedColumn.ReadAs d r.keyNames) r.columns t.columns
  foreignKeys : List.Forall₂ (fun p f => p.1.ReadAs (madeUpName "FK" r.name (p.2 + 1)) f) r.foreignKeys.zipIdx
    t.foreignKeys
  uniques : List.Forall₂ (fun p u => p.1.ReadAsUnique (madeUpName "UK" r.name (p.2 + 1)) u)
    (r.indexes.filter fun i => i.unique && i.constraint).zipIdx t.uniques
  indexes : List.Forall₂ (fun p i => p.1.ReadAsIndex (madeUpName "IDX" r.name (p.2 + 1)) i)
    (r.indexes.filter fun i => !(i.unique && i.constraint)).zipIdx t.indexes
  comment : t.comment = r.comment
  tail : t.tail = none

variable {r : ReportedTable} {t : Table}

theorem checkKey_eq_ok_iff :
    r.checkKey = .ok () ↔ ∀ key ∈ r.keyNames, ∃ c ∈ r.columns, Text.sameName c.name key = true := by
  have all_known : (r.keyNames.find? fun key => !lists (r.columns.map (·.name)) key) = none ↔
      ∀ key ∈ r.keyNames, ∃ c ∈ r.columns, Text.sameName c.name key = true := by
    simp [lists]
  rw [← all_known]
  unfold checkKey
  split <;> simp_all

/-- Columns that are added as they are read are those that are read, added one after the other. -/
private theorem foldlM_columns_eq_ok_iff {xs : List ReportedColumn} {start : Table} :
    xs.foldlM (fun t x => do (t.addColumn (← r.column d x)).mapError (ReadFailure.table r.name)) start = .ok t ↔
      ∃ cs, List.Forall₂ (ReportedColumn.ReadAs d r.keyNames) xs cs ∧
        (cs.map TableEdit.column).foldlM Table.edit? start = .ok t := by
  induction xs generalizing start with
  | nil =>
    constructor
    · rintro ⟨rfl⟩
      exact ⟨[], .nil, rfl⟩
    · rintro ⟨cs, read, done⟩
      cases read
      cases done
      rfl
  | cons x xs ih =>
    simp only [List.foldlM_cons, Outcome.bind_eq_ok_iff, ih, column_eq_ok_iff, Outcome.mapError_eq_ok_iff,
      List.forall₂_cons_left_iff]
    constructor
    · rintro ⟨next, ⟨c, read, added⟩, cs, rest, done⟩
      refine ⟨c :: cs, ⟨c, cs, read, rest, rfl⟩, ?_⟩
      rw [List.map_cons, List.foldlM_cons, Outcome.bind_eq_ok_iff]
      exact ⟨next, added, done⟩
    · rintro ⟨_, ⟨c, cs, read, rest, rfl⟩, done⟩
      rw [List.map_cons, List.foldlM_cons, Outcome.bind_eq_ok_iff] at done
      obtain ⟨next, added, done⟩ := done
      exact ⟨next, ⟨c, read, added⟩, cs, rest, done⟩

/-- A report is read by the edits for its columns and for the rest of it, once its key is checked. -/
theorem toTable_eq_ok_iff_build? :
    r.toTable d = .ok t ↔ r.checkKey = .ok () ∧ ∃ cs, List.Forall₂ (ReportedColumn.ReadAs d r.keyNames) r.columns cs ∧
      Table.build? r.name (cs.map .column ++ r.laterEdits) = .ok t := by
  unfold toTable Table.build?
  simp only [Outcome.bind_eq_ok_iff, Outcome.mapError_eq_ok_iff, foldlM_columns_eq_ok_iff, List.foldlM_append]
  constructor
  · rintro ⟨start, new, ⟨⟩, key, withColumns, ⟨cs, read, added⟩, later⟩
    exact ⟨key, cs, read, start, new, withColumns, added, later⟩
  · rintro ⟨key, cs, read, start, new, withColumns, added, later⟩
    exact ⟨start, new, (), key, withColumns, ⟨cs, read, added⟩, later⟩

/-- The parts of the table that the edits for a report make. -/
private theorem foldl_extend_edits (r : ReportedTable) (cs : List Column) :
    (cs.map TableEdit.column ++ r.laterEdits).foldl Table.extend { name := r.name } =
      { name := r.name
        columns := cs
        foreignKeys := r.foreignKeys.mapIdx fun n f => f.toForeignKey r.name (n + 1)
        indexes := (r.indexes.filter (!·.isUnique)).mapIdx fun n i =>
          ⟨i.name.getD (madeUpName "IDX" r.name (n + 1)), i.columns, i.unique⟩
        uniques := (r.indexes.filter (·.isUnique)).mapIdx fun n i =>
          ⟨i.name.getD (madeUpName "UK" r.name (n + 1)), i.columns⟩
        comment := r.comment } := by
  rw [Table.foldl_extend]
  unfold laterEdits
  have no_columns := others_indexEdits TableEdit.column? (fun _ => rfl) (fun _ => rfl)
  have no_keys := others_indexEdits TableEdit.foreignKey? (fun _ => rfl) (fun _ => rfl)
  have no_comment := others_indexEdits TableEdit.comment? (fun _ => rfl) (fun _ => rfl)
  have no_tail := others_indexEdits TableEdit.tail? (fun _ => rfl) (fun _ => rfl)
  simp only [List.filterMap_append, filterMap_foreignKeyEdits, List.filterMap_map, uniques_indexEdits,
    indexes_indexEdits, no_columns, no_keys, no_comment, no_tail]
  cases r.comment <;>
    simp [TableEdit.column?, TableEdit.foreignKey?, TableEdit.index?, TableEdit.unique?, TableEdit.comment?,
      TableEdit.tail?, Function.comp_def]

/-- A report is read as the table that says what it says, if edits make such a table. -/
theorem toTable_eq_ok_iff : r.toTable d = .ok t ↔ r.ReadAs d t ∧ t.Reachable := by
  rw [toTable_eq_ok_iff_build?, checkKey_eq_ok_iff, Table.reachable_iff_wellFormed]
  have foreignKeys := forall₂_zipIdx_iff
    (fun x n f => @ReportedForeignKey.readAs_iff x r.name (n + 1) f) r.foreignKeys t.foreignKeys
  have uniques := forall₂_zipIdx_iff
    (fun x n u => @ReportedIndex.readAsUnique_iff x (madeUpName "UK" r.name (n + 1)) u)
    (r.indexes.filter (·.isUnique)) t.uniques
  have indexes := forall₂_zipIdx_iff
    (fun x n i => @ReportedIndex.readAsIndex_iff x (madeUpName "IDX" r.name (n + 1)) i)
    (r.indexes.filter (!·.isUnique)) t.indexes
  constructor
  · rintro ⟨known, cs, read, made⟩
    obtain ⟨parts, wellFormed⟩ := Table.build?_eq_ok_iff.mp made
    rw [foldl_extend_edits] at parts
    subst parts
    exact ⟨⟨rfl, known, read, foreignKeys.mpr rfl, uniques.mpr rfl, indexes.mpr rfl, rfl, rfl⟩, wellFormed⟩
  · rintro ⟨read, wellFormed⟩
    refine ⟨read.key_known, t.columns, read.columns, Table.build?_eq_ok_iff.mpr ⟨?_, wellFormed⟩⟩
    rw [foldl_extend_edits, ← foreignKeys.mp read.foreignKeys, ← uniques.mp read.uniques,
      ← indexes.mp read.indexes, ← read.name, ← read.comment, ← read.tail]

end ReportedTable

/-! ### Sources -/

namespace CatalogSource

/-- The source reports that of the table with the name. -/
structure Reports (s : CatalogSource) (table : String) (r : ReportedTable) : Prop where
  name : r.name = table
  columns : s.columns table = .ok r.columns
  primaryKey : s.primaryKey table = .ok r.primaryKey
  foreignKeys : s.foreignKeys table = .ok r.foreignKeys
  indexes : s.indexes table = .ok r.indexes
  comment : s.comment table = .ok r.comment

/-- The source lists a table of that name. -/
def Lists (s : CatalogSource) (name : String) : Prop := ∃ names, s.tableNames = .ok names ∧ name ∈ names

/-- What keeps tables from being read: an answer that fails, a type that the dialect does not have, or a report that no
table can say. -/
inductive Faulty (s : CatalogSource) (d : Dialect) : Prop where
  | tableNames {why : ReadCause} (failed : s.tableNames = .error why)
  | columns {name : String} {why : ReadCause} (listed : s.Lists name) (failed : s.columns name = .error why)
  | primaryKey {name : String} {why : ReadCause} (listed : s.Lists name) (failed : s.primaryKey name = .error why)
  | foreignKeys {name : String} {why : ReadCause} (listed : s.Lists name) (failed : s.foreignKeys name = .error why)
  | indexes {name : String} {why : ReadCause} (listed : s.Lists name) (failed : s.indexes name = .error why)
  | comment {name : String} {why : ReadCause} (listed : s.Lists name) (failed : s.comment name = .error why)
  | nativeType {name : String} {columns : List ReportedColumn} {c : ReportedColumn} (listed : s.Lists name)
      (answer : s.columns name = .ok columns) (mem : c ∈ columns)
      (unknown : d.ofNative? c.typeName c.size c.precision c.scale = none)
  | table {name : String} {r : ReportedTable} (listed : s.Lists name) (reported : s.Reports name r)
      (none_agrees : ∀ t : Table, r.ReadAs d t → ¬t.Reachable)

variable {s : CatalogSource} {name : String} {r : ReportedTable} {t : Table}

theorem report_eq_ok_iff : s.report name = .ok r ↔ s.Reports name r := by
  unfold report ask
  simp only [Outcome.bind_eq_ok_iff, Outcome.mapError_eq_ok_iff]
  constructor
  · rintro ⟨columns, hc, primaryKey, hk, foreignKeys, hf, indexes, hi, comment, ht, made⟩
    cases made
    exact ⟨rfl, hc, hk, hf, hi, ht⟩
  · rintro ⟨rfl, hc, hk, hf, hi, ht⟩
    exact ⟨_, hc, _, hk, _, hf, _, hi, _, ht, rfl⟩

theorem readTable_eq_ok_iff : s.readTable d name = .ok t ↔ ∃ r, s.Reports name r ∧ r.ReadAs d t ∧ t.Reachable := by
  unfold readTable
  simp only [Outcome.bind_eq_ok_iff, report_eq_ok_iff, ReportedTable.toTable_eq_ok_iff]

theorem readTables_eq_ok_iff {tables : List Table} :
    s.readTables d = .ok tables ↔ ∃ names, s.tableNames = .ok names ∧
      List.Forall₂ (fun name t => ∃ r, s.Reports name r ∧ r.ReadAs d t ∧ t.Reachable) names tables := by
  unfold readTables
  simp only [Outcome.bind_eq_ok_iff, Outcome.mapError_eq_ok_iff, Outcome.mapM_eq_ok_iff, readTable_eq_ok_iff]

/-- If the report of a listed table fails, one of the answers does. -/
private theorem faulty_of_report (listed : s.Lists name) {why : ReadFailure} (failed : s.report name = .error why) :
    s.Faulty d := by
  cases columns : s.columns name with
  | error why => exact .columns listed columns
  | ok cs =>
  cases primaryKey : s.primaryKey name with
  | error why => exact .primaryKey listed primaryKey
  | ok key =>
  cases foreignKeys : s.foreignKeys name with
  | error why => exact .foreignKeys listed foreignKeys
  | ok fs =>
  cases indexes : s.indexes name with
  | error why => exact .indexes listed indexes
  | ok is =>
  cases comment : s.comment name with
  | error why => exact .comment listed comment
  | ok text =>
    have reported : s.Reports name ⟨name, text, cs, key, fs, is⟩ :=
      ⟨rfl, columns, primaryKey, foreignKeys, indexes, comment⟩
    rw [report_eq_ok_iff.mpr reported] at failed
    cases failed

private theorem faulty_of_readTable (listed : s.Lists name) {why : ReadFailure}
    (failed : s.readTable d name = .error why) : s.Faulty d := by
  rcases Outcome.bind_eq_error_iff.mp failed with report | ⟨r, report, unread⟩
  · exact faulty_of_report listed report
  · refine .table listed (report_eq_ok_iff.mp report) fun t agrees reachable => ?_
    rw [ReportedTable.toTable_eq_ok_iff.mpr ⟨agrees, reachable⟩] at unread
    cases unread

private theorem faulty_of_readTables {why : ReadFailure} (failed : s.readTables d = .error why) : s.Faulty d := by
  unfold readTables at failed
  cases names : s.tableNames with
  | error why => exact .tableNames names
  | ok listed =>
    rw [names] at failed
    obtain ⟨name, mem, unread⟩ := Outcome.exists_of_mapM_eq_error failed
    exact faulty_of_readTable ⟨listed, names, mem⟩ unread

/-- Where all tables are read, each table that is listed is reported as a table says. -/
private theorem exists_of_lists {tables : List Table} (read : s.readTables d = .ok tables) (listed : s.Lists name) :
    ∃ r t, s.Reports name r ∧ r.ReadAs d t ∧ t.Reachable := by
  obtain ⟨names, answer, each⟩ := readTables_eq_ok_iff.mp read
  obtain ⟨names', answer', mem⟩ := listed
  rw [answer] at answer'
  cases answer'
  obtain ⟨t, -, r, agrees⟩ := Outcome.exists_of_mem_right each.flip mem
  exact ⟨r, t, agrees⟩

private theorem not_faulty_of_readTables {tables : List Table} (read : s.readTables d = .ok tables) :
    ¬s.Faulty d := by
  intro faulty
  cases faulty with
  | tableNames failed =>
    obtain ⟨names, answer, -⟩ := readTables_eq_ok_iff.mp read
    cases failed.symm.trans answer
  | columns listed failed =>
    obtain ⟨r, t, reported, -⟩ := exists_of_lists read listed
    cases failed.symm.trans reported.columns
  | primaryKey listed failed =>
    obtain ⟨r, t, reported, -⟩ := exists_of_lists read listed
    cases failed.symm.trans reported.primaryKey
  | foreignKeys listed failed =>
    obtain ⟨r, t, reported, -⟩ := exists_of_lists read listed
    cases failed.symm.trans reported.foreignKeys
  | indexes listed failed =>
    obtain ⟨r, t, reported, -⟩ := exists_of_lists read listed
    cases failed.symm.trans reported.indexes
  | comment listed failed =>
    obtain ⟨r, t, reported, -⟩ := exists_of_lists read listed
    cases failed.symm.trans reported.comment
  | nativeType listed answer mem unknown =>
    obtain ⟨r, t, reported, agrees, -⟩ := exists_of_lists read listed
    cases answer.symm.trans reported.columns
    obtain ⟨c, -, column⟩ := Outcome.exists_of_mem_right agrees.columns.flip mem
    cases unknown.symm.trans column.type
  | @table name r listed reported none_agrees =>
    obtain ⟨r', t, reported', agrees, reachable⟩ := exists_of_lists read listed
    have same : r' = r := by
      have report := report_eq_ok_iff.mpr reported
      rw [report_eq_ok_iff.mpr reported'] at report
      exact Except.ok.inj report
    exact none_agrees t (same ▸ agrees) reachable

/-- The tables of a source are read exactly as its reports say, in its order, or reading fails, which happens for a
faulty source and for no other. -/
theorem readTables_faithful (s : CatalogSource) (d : Dialect) :
    (∀ tables, s.readTables d = .ok tables ↔ ∃ names, s.tableNames = .ok names ∧
      List.Forall₂ (fun name t => ∃ r, s.Reports name r ∧ r.ReadAs d t ∧ t.Reachable) names tables) ∧
      ((∃ why, (s.readTables d).mapError Failure.reading = .error (.reading why)) ↔ s.Faulty d) := by
  refine ⟨fun tables => readTables_eq_ok_iff, ?_⟩
  cases read : s.readTables d with
  | ok tables =>
    refine iff_of_false ?_ (not_faulty_of_readTables read)
    rintro ⟨why, ⟨⟩⟩
  | error why => exact iff_of_true ⟨why, rfl⟩ (faulty_of_readTables read)

end CatalogSource

end SqlSchema
