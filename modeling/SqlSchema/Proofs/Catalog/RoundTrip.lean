import SqlSchema.Catalog.OfTable
import SqlSchema.Catalog.Reading
import SqlSchema.Proofs.Catalog.Entries
import SqlSchema.Proofs.Catalog.Literals
import SqlSchema.Proofs.Dialect.Known
import SqlSchema.Proofs.Names
import SqlSchema.Proofs.Script.Alike
import SqlSchema.Proofs.Script.CreationOrder
import SqlSchema.Proofs.Table.Parts

/-!
# Tables through a catalog

What a catalog reports of a table is less than the table: the column type is only spelled, a default is an expression,
and conditions on the values are left out. A table that `Survives` is read back from its report as one that is alike:
each of its columns is (`exists_kept`), and the edits that are made of the rest of the report are the parts of the table
(`laterEdits_tableReport`). So a set of such tables that is created and read back is created and dropped by the same
scripts as before (`Schema.scripts_survive_catalog`).
-/

namespace SqlSchema

/-- Whether the spelling of the type of a column is read as a type with the same spelling, which numbers rows in the
same way if the column does. -/
def Column.KeepsType (d : Dialect) (c : Column) : Prop :=
  ∀ text, d.typeClause c.type c.params = .ok text → ∃ t p, d.ofNative? text none none none = some (t, p) ∧
    d.typeClause t p = .ok text ∧ (c.isIdentity = true → t.isIntegral = true ∧ t.isWide = c.type.isWide)

/-- A column of which a catalog keeps all that the dialect writes. -/
structure Column.Survives (d : Dialect) (c : Column) : Prop where
  type : c.KeepsType d
  default : ∀ v ∈ c.default, v.IsLiteral
  check : c.check = none
  key_not_null : c.inKey = true → c.nullable = false

/-- A table of which a catalog keeps all that the dialect writes. -/
structure Table.Survives (d : Dialect) (t : Table) : Prop where
  columns : ∀ c ∈ t.columns, c.Survives d
  tail : t.tail = none
  actions : ∀ f ∈ t.foreignKeys, f.onDelete ≠ some .noAction ∧ f.onUpdate ≠ some .noAction

section Decidable

variable (d : Dialect)

instance (c : Column) : Decidable (c.KeepsType d) :=
  match clause : d.typeClause c.type c.params with
  | .error why => isTrue fun text h => by
    rw [clause] at h
    cases h
  | .ok text =>
    match found : d.ofNative? text none none none with
    | none => isFalse fun h => by
      obtain ⟨t, p, found', -⟩ := h text clause
      rw [found] at found'
      cases found'
    | some (t, p) =>
      decidable_of_iff (d.typeClause t p = .ok text ∧
        (c.isIdentity = true → t.isIntegral = true ∧ t.isWide = c.type.isWide)) <| by
        constructor
        · rintro ⟨spelled, identity⟩ text' clause'
          rw [clause] at clause'
          cases clause'
          exact ⟨t, p, found, spelled, identity⟩
        · intro h
          obtain ⟨t', p', found', spelled, identity⟩ := h text clause
          rw [found] at found'
          cases found'
          exact ⟨spelled, identity⟩

instance (c : Column) : Decidable (c.Survives d) :=
  decidable_of_iff (c.KeepsType d ∧ (∀ v ∈ c.default, v.IsLiteral) ∧ c.check = none ∧
    (c.inKey = true → c.nullable = false))
    ⟨fun h => ⟨h.1, h.2.1, h.2.2.1, h.2.2.2⟩, fun h => ⟨h.type, h.default, h.check, h.key_not_null⟩⟩

instance (t : Table) : Decidable (t.Survives d) :=
  decidable_of_iff ((∀ c ∈ t.columns, c.Survives d) ∧ t.tail = none ∧
    ∀ f ∈ t.foreignKeys, f.onDelete ≠ some .noAction ∧ f.onUpdate ≠ some .noAction)
    ⟨fun h => ⟨h.1, h.2.1, h.2.2⟩, fun h => ⟨h.columns, h.tail, h.actions⟩⟩

end Decidable

variable {d : Dialect}

/-! ### Columns -/

private theorem fromSequence_of_default (known : d ∈ Dialect.all) {c : Column} (survives : c.Survives d) :
    (c.default.map d.defaultLiteral).any Default.fromSequence = false := by
  cases stated : c.default with
  | none => rfl
  | some v =>
    rw [Option.map_some, Option.any_some]
    exact (Default.ofCatalog?_defaultLiteral known (survives.default v stated)).1

private theorem default_survives (known : d ∈ Dialect.all) {c : Column} (survives : c.Survives d) :
    ((c.default.map d.defaultLiteral).bind Default.ofCatalog?).map d.defaultLiteral =
      c.default.map d.defaultLiteral := by
  cases stated : c.default with
  | none => rfl
  | some v =>
    rw [Option.map_some, Option.bind_some]
    exact (Default.ofCatalog?_defaultLiteral known (survives.default v stated)).2

/-- The type of a column is written alike if its spelling is the same and, where the rows are numbered, its width. -/
private theorem typePart_eq {a b : Column} (identity : a.isIdentity = b.isIdentity)
    (clause : d.typeClause a.type a.params = d.typeClause b.type b.params)
    (width : b.isIdentity = true → a.type.isWide = b.type.isWide) : a.typePart d = b.typePart d := by
  unfold Column.typePart
  rw [identity]
  split
  · rfl
  · rename_i numbered _
    rw [width numbered]
  · rw [clause]

/-- The report of a column whose type is written as `text`. -/
private def reportOf (d : Dialect) (c : Column) (text : String) : ReportedColumn where
  name := c.name
  typeName := text
  nullable := c.nullable
  default := c.default.map d.defaultLiteral
  numbered := c.isIdentity
  comment := c.comment

private theorem ofColumn_eq_reportOf {c : Column} {text : String} (clause : d.typeClause c.type c.params = .ok text) :
    ReportedColumn.ofColumn d c = .ok (reportOf d c text) :=
  Outcome.bind_eq_ok_iff.mpr ⟨text, clause, rfl⟩

section Reading

variable {c : Column} {text : String} {t : ColumnType} {p : TypeParams}

private theorem isIdentity_toColumn (known : d ∈ Dialect.all) (survives : c.Survives d)
    (integral : c.isIdentity = true → t.isIntegral = true) :
    ((reportOf d c text).toColumn t p c.inKey).isIdentity = c.isIdentity := by
  show ((c.isIdentity || (c.default.map d.defaultLiteral).any Default.fromSequence) && t.isIntegral) = c.isIdentity
  rw [fromSequence_of_default known survives, Bool.or_false]
  cases flag : c.isIdentity with
  | false => rfl
  | true => exact integral flag

private theorem default_toColumn (known : d ∈ Dialect.all) (wellFormed : c.WellFormed) (survives : c.Survives d)
    (identity : ((reportOf d c text).toColumn t p c.inKey).isIdentity = c.isIdentity) :
    ((reportOf d c text).toColumn t p c.inKey).default.map d.defaultLiteral = c.default.map d.defaultLiteral := by
  have read : ((reportOf d c text).toColumn t p c.inKey).default =
      if ((reportOf d c text).toColumn t p c.inKey).isIdentity = true then none
      else (c.default.map d.defaultLiteral).bind Default.ofCatalog? := rfl
  rw [read, identity]
  by_cases flag : c.isIdentity = true
  · rw [if_pos flag, wellFormed.identity_without_default flag]
  · rw [if_neg flag]
    exact default_survives known survives

private theorem nullable_toColumn (survives : c.Survives d) :
    ((reportOf d c text).toColumn t p c.inKey).nullable = c.nullable := by
  show (c.nullable && !c.inKey) = c.nullable
  cases key : c.inKey with
  | false => rw [Bool.not_false, Bool.and_true]
  | true => rw [survives.key_not_null key, Bool.false_and]

end Reading

/-- A column, its report, and the column that is read from the report. -/
private structure Column.Kept (d : Dialect) (c : Column) (r : ReportedColumn) (read : Column) : Prop where
  reported : ReportedColumn.ofColumn d c = .ok r
  found : ∃ t p, d.ofNative? r.typeName r.size r.precision r.scale = some (t, p) ∧ r.toColumn t p c.inKey = read
  name : r.name = c.name
  alike : read.Alike d c
  wellFormed : read.WellFormed

private theorem exists_kept (known : d ∈ Dialect.all) {c : Column} (wellFormed : c.WellFormed)
    (survives : c.Survives d) : ∃ pair : ReportedColumn × Column, c.Kept d pair.1 pair.2 := by
  obtain ⟨text, clause⟩ := Dialect.exists_typeClause known wellFormed.params_suitable
  obtain ⟨t, p, found, spelled, identity⟩ := survives.type text clause
  -- an identity column is read without a default, so that it stays one is settled first
  have same_flag : ((reportOf d c text).toColumn t p c.inKey).isIdentity = c.isIdentity :=
    isIdentity_toColumn known survives fun flag => (identity flag).1
  refine ⟨(reportOf d c text, (reportOf d c text).toColumn t p c.inKey), ofColumn_eq_reportOf clause,
    ⟨t, p, found, rfl⟩, rfl, ?_, ?_⟩
  · refine ⟨rfl, ?_, nullable_toColumn survives, rfl, same_flag, ?_, rfl, survives.check.symm⟩
    · exact typePart_eq same_flag (spelled.trans clause.symm) fun flag => (identity flag).2
    · exact default_toColumn known wellFormed survives same_flag
  · refine ⟨wellFormed.name_valid, ?_, ?_, ?_⟩
    · exact TypeParams.check_eq_ok_iff.mp (Outcome.then_eq_ok_iff.mp spelled).1
    · intro flag
      exact (identity (same_flag.symm.trans flag)).1
    · intro flag
      exact if_pos flag

/-! ### Constraints -/

private theorem effective?_eq_self {a : Option RefAction} (h : a ≠ some .noAction) : RefAction.effective? a = a := by
  cases a with
  | none => rfl
  | some action =>
    refine Option.filter_some_pos ?_
    simpa using h

private theorem toForeignKey_ofForeignKey {f : ForeignKey}
    (actions : f.onDelete ≠ some .noAction ∧ f.onUpdate ≠ some .noAction) (table : String) (n : Nat) :
    (ReportedForeignKey.ofForeignKey f).toForeignKey table n = f := by
  have onDelete := effective?_eq_self actions.1
  have onUpdate := effective?_eq_self actions.2
  unfold ReportedForeignKey.toForeignKey ReportedForeignKey.ofForeignKey
  rw [onDelete, onUpdate]
  rfl

private theorem foreignKeyEdits_ofForeignKey {fs : List ForeignKey}
    (actions : ∀ f ∈ fs, f.onDelete ≠ some .noAction ∧ f.onUpdate ≠ some .noAction) (table : String) :
    foreignKeyEdits table (fs.map ReportedForeignKey.ofForeignKey) = fs.map TableEdit.foreignKey := by
  unfold foreignKeyEdits
  refine List.ext_getElem (by simp) fun i hi hj => ?_
  rw [List.getElem_mapIdx, List.getElem_map, List.getElem_map]
  rw [toForeignKey_ofForeignKey (actions _ (List.getElem_mem _))]

private theorem indexEdits_ofUnique (table : String) (indexes uniques : Nat) (us : List Unique) :
    indexEdits table indexes uniques (us.map ReportedIndex.ofUnique) = us.map TableEdit.unique := by
  induction us generalizing uniques with
  | nil => rfl
  | cons u us ih =>
    rw [List.map_cons, List.map_cons, ← ih (uniques + 1)]
    rfl

private theorem indexEdits_ofIndex (table : String) (indexes uniques : Nat) (is : List Index) (us : List Unique) :
    indexEdits table indexes uniques (is.map ReportedIndex.ofIndex ++ us.map ReportedIndex.ofUnique) =
      is.map TableEdit.index ++ us.map TableEdit.unique := by
  induction is generalizing indexes with
  | nil => exact indexEdits_ofUnique table indexes uniques us
  | cons i is ih =>
    have index : (ReportedIndex.ofIndex i).isUnique = false := Bool.and_false _
    rw [List.map_cons, List.map_cons, List.cons_append, List.cons_append, ← ih (indexes + 1), indexEdits, index]
    rfl

/-! ### Tables -/

namespace ReportedTable

/-- The report of a table lists the columns of its key. -/
private theorem lists_keyNames {t : Table} (wellFormed : t.WellFormed) {c : Column} (hc : c ∈ t.columns) :
    lists (t.keyColumns.map (·.name)) c.name = c.inKey := by
  unfold lists
  rw [List.any_map]
  cases key : c.inKey with
  | true => exact List.any_eq_true.mpr ⟨c, List.mem_filter.mpr ⟨hc, key⟩, Text.sameName_refl c.name⟩
  | false =>
    rw [List.any_eq_false]
    intro k hk same
    obtain ⟨hk, in_key⟩ := List.mem_filter.mp hk
    rw [Text.eq_of_sameName wellFormed.columns_apart hk hc same, key] at in_key
    cases in_key

private theorem keyNames_of_keyOf {t : Table} {r : ReportedTable} (key : r.primaryKey = keyOf t) :
    r.keyNames = t.keyColumns.map (·.name) := by
  unfold keyNames keyOf at *
  rw [key]
  split
  · rename_i none_in_key
    rw [List.isEmpty_iff.mp none_in_key]
    rfl
  · rfl

/-- The report of a table is read as the table of the columns that are read, if it is well-formed. -/
theorem toTable_eq_ok {r : ReportedTable} {u : Table} (wellFormed : u.WellFormed) (name : r.name = u.name)
    (key : r.checkKey = .ok ()) (columns : List.Forall₂ (fun c read => r.column d c = .ok read) r.columns u.columns)
    (later : r.laterEdits = u.laterParts) : r.toTable d = .ok u := by
  rw [toTable_eq_ok_iff_build?]
  refine ⟨key, u.columns, columns.imp fun _ _ => column_eq_ok_iff.mp, ?_⟩
  rw [name, later]
  exact wellFormed.build?_parts

end ReportedTable

/-- A table, its report, and the table that is read from the report. -/
private structure Table.Kept (d : Dialect) (t : Table) (r : ReportedTable) (read : Table) : Prop where
  reported : ReportedTable.ofTable d t = .ok r
  found : r.toTable d = .ok read
  name : r.name = t.name
  alike : read.Alike d t

/-- The report of a table whose columns are reported as `columns`. -/
private def tableReport (t : Table) (columns : List ReportedColumn) : ReportedTable where
  name := t.name
  comment := t.comment
  columns
  primaryKey := ReportedTable.keyOf t
  foreignKeys := t.foreignKeys.map ReportedForeignKey.ofForeignKey
  indexes := t.indexes.map ReportedIndex.ofIndex ++ t.uniques.map ReportedIndex.ofUnique

private theorem laterEdits_tableReport {t : Table} (survives : t.Survives d) (columns : List ReportedColumn)
    (read : List Column) : (tableReport t columns).laterEdits = ({ t with columns := read } : Table).laterParts := by
  have reported : (tableReport t columns).laterEdits =
      foreignKeyEdits t.name (t.foreignKeys.map ReportedForeignKey.ofForeignKey) ++
        indexEdits t.name 0 0 (t.indexes.map ReportedIndex.ofIndex ++ t.uniques.map ReportedIndex.ofUnique) ++
        t.comment.toList.map .comment := rfl
  rw [reported, foreignKeyEdits_ofForeignKey survives.actions, indexEdits_ofIndex]
  unfold Table.laterParts
  rw [survives.tail, Option.toList_none, List.map_nil, List.append_nil]

section Columns

variable {t : Table} {pairs : List (ReportedColumn × Column)}

private theorem alike_of_kept (kept : List.Forall₂ (fun c pair => c.Kept d pair.1 pair.2) t.columns pairs) :
    ({ t with columns := pairs.map (·.2) } : Table).Alike d t := by
  refine ⟨rfl, ?_, rfl, rfl, rfl, rfl, rfl⟩
  exact List.forall₂_map_left_iff.mpr (kept.flip.imp fun _ _ column => column.alike)

private theorem wellFormed_of_kept (wellFormed : t.WellFormed)
    (kept : List.Forall₂ (fun c pair => c.Kept d pair.1 pair.2) t.columns pairs) :
    ({ t with columns := pairs.map (·.2) } : Table).WellFormed := by
  refine ⟨wellFormed.name_valid, ?_, ?_, wellFormed.constraint_valid, wellFormed.constraint_columns,
    wellFormed.constraints_apart, wellFormed.references⟩
  · intro read mem
    obtain ⟨pair, hp, rfl⟩ := List.mem_map.mp mem
    obtain ⟨c, -, column⟩ := Outcome.exists_of_mem_right kept hp
    exact column.wellFormed
  · exact Text.apart_of_map_eq (alike_of_kept kept).names wellFormed.columns_apart

private theorem checkKey_of_kept (kept : List.Forall₂ (fun c pair => c.Kept d pair.1 pair.2) t.columns pairs) :
    (tableReport t (pairs.map (·.1))).checkKey = .ok () := by
  refine ReportedTable.checkKey_eq_ok_iff.mpr fun key mem => ?_
  rw [ReportedTable.keyNames_of_keyOf (t := t) rfl, List.mem_map] at mem
  obtain ⟨c, in_key, rfl⟩ := mem
  obtain ⟨pair, hp, column⟩ := Outcome.exists_of_mem_right kept.flip (List.mem_filter.mp in_key).1
  exact ⟨pair.1, List.mem_map_of_mem hp, column.name ▸ Text.sameName_refl pair.1.name⟩

private theorem column_of_kept (wellFormed : t.WellFormed)
    (kept : List.Forall₂ (fun c pair => c.Kept d pair.1 pair.2) t.columns pairs) :
    List.Forall₂ (fun c read => (tableReport t (pairs.map (·.1))).column d c = .ok read) (pairs.map (·.1))
      (pairs.map (·.2)) := by
  rw [List.forall₂_map_left_iff, List.forall₂_map_right_iff, List.forall₂_same]
  intro pair mem
  obtain ⟨c, hc, column⟩ := Outcome.exists_of_mem_right kept mem
  obtain ⟨type, params, found, read⟩ := column.found
  unfold ReportedTable.column
  rw [found, ReportedTable.keyNames_of_keyOf (t := t) rfl, column.name, ReportedTable.lists_keyNames wellFormed hc]
  exact congrArg Except.ok read

end Columns

/-- A well-formed table that survives is reported, and its report is read as a table that is alike. -/
private theorem exists_kept_table (known : d ∈ Dialect.all) {t : Table} (wellFormed : t.WellFormed)
    (survives : t.Survives d) : ∃ pair : ReportedTable × Table, t.Kept d pair.1 pair.2 := by
  obtain ⟨pairs, kept⟩ := Outcome.exists_forall₂ fun c hc =>
    exists_kept known (wellFormed.columns_wellFormed c hc) (survives.columns c hc)
  refine ⟨(tableReport t (pairs.map (·.1)), { t with columns := pairs.map (·.2) }), ?_, ?_, rfl, alike_of_kept kept⟩
  · have columns : t.columns.mapM (ReportedColumn.ofColumn d) = .ok (pairs.map (·.1)) := by
      rw [Outcome.mapM_eq_ok_iff, List.forall₂_map_right_iff]
      exact kept.imp fun _ _ column => column.reported
    exact Outcome.bind_eq_ok_iff.mpr ⟨_, columns, rfl⟩
  · exact ReportedTable.toTable_eq_ok (wellFormed_of_kept wellFormed kept) rfl (checkKey_of_kept kept)
      (column_of_kept wellFormed kept) (laterEdits_tableReport survives _ _)

/-! ### Catalogs -/

namespace Schema

variable {tables : List Table}

private theorem exists_kept_tables (known : d ∈ Dialect.all) (made : ∀ t ∈ tables, t.Reachable)
    (survives : ∀ t ∈ tables, t.Survives d) :
    ∃ pairs : List (ReportedTable × Table), List.Forall₂ (fun t pair => t.Kept d pair.1 pair.2) tables pairs :=
  Outcome.exists_forall₂ fun t ht => exists_kept_table known (made t ht).wellFormed (survives t ht)

/-- Tables that edits have made and that survive are reported, read back from the catalog of the reports, and then
created and dropped as they were, in whatever style the scripts are written. -/
theorem scripts_survive_catalog (known : d ∈ Dialect.all) (made : ∀ t ∈ tables, t.Reachable)
    (apart : NamesApart tables) (survives : ∀ t ∈ tables, t.Survives d) :
    ∃ reports read, tables.mapM (ReportedTable.ofTable d) = .ok reports ∧
      (Catalog.source ⟨reports⟩).readTables d = .ok read ∧
      ∀ quoted, createSql ⟨d, quoted⟩ read = createSql ⟨d, quoted⟩ tables ∧
        dropSql ⟨d, quoted⟩ read = dropSql ⟨d, quoted⟩ tables := by
  obtain ⟨pairs, kept⟩ := exists_kept_tables known made survives
  have alike : List.Forall₂ (Table.Alike d) (pairs.map (·.2)) tables :=
    List.forall₂_map_left_iff.mpr (kept.flip.imp fun _ _ table => table.alike)
  have names : (pairs.map (·.1)).map (·.name) = tables.map (·.name) := by
    rw [List.map_map]
    exact (Outcome.map_eq_map kept fun t pair table => table.name.symm).symm
  have reports_apart : (pairs.map (·.1)).Pairwise fun a b => Text.sameName a.name b.name = false :=
    Text.apart_of_map_eq names apart
  refine ⟨pairs.map (·.1), pairs.map (·.2), ?_, ?_, fun quoted => ⟨?_, ?_⟩⟩
  · rw [Outcome.mapM_eq_ok_iff, List.forall₂_map_right_iff]
    exact kept.imp fun _ _ table => table.reported
  · refine (Catalog.readTables_eq_ok_iff_toTable (c := ⟨_⟩) reports_apart).mpr ?_
    rw [List.forall₂_map_left_iff, List.forall₂_map_right_iff, List.forall₂_same]
    intro pair mem
    obtain ⟨t, -, table⟩ := Outcome.exists_of_mem_right kept mem
    exact table.found
  · exact createSql_eq_of_alike (s := ⟨d, quoted⟩) alike
  · exact dropSql_eq_of_alike (s := ⟨d, quoted⟩) alike

/-- Articles on sale. Where a truth value is a number, it is read back as one. -/
def articles : Table where
  name := "article"
  columns :=
    [{ name := "code", type := .varchar, params := { length := some 12 }, nullable := false, inKey := true },
      { name := "price", type := .decimal, params := { precision := some 10, scale := some 2 },
        default := some (.integer 0) },
      { name := "unit", type := .char, params := { length := some 8 }, default := some (.text "piece"),
        comment := some "what is counted" },
      { name := "on_sale", type := .boolean, nullable := false, default := some (.boolean true) }]
  uniques := [{ name := "uq_unit", columns := ["code", "unit"] }]

theorem scripts_of_articles_survive_catalog :
    (∀ t ∈ [orders, people, articles], t.Survives .oracle12c) ∧
      ∃ reports read, [orders, people, articles].mapM (ReportedTable.ofTable .oracle12c) = .ok reports ∧
        (Catalog.source ⟨reports⟩).readTables .oracle12c = .ok read ∧
        ∀ quoted,
          createSql ⟨.oracle12c, quoted⟩ read = createSql ⟨.oracle12c, quoted⟩ [orders, people, articles] ∧
          dropSql ⟨.oracle12c, quoted⟩ read = dropSql ⟨.oracle12c, quoted⟩ [orders, people, articles] := by
  have known : Dialect.oracle12c ∈ Dialect.all := by decide +kernel
  have made : ∀ t ∈ [orders, people, articles], t.Reachable := by decide +kernel
  have apart : NamesApart [orders, people, articles] := by
    unfold NamesApart
    decide +kernel
  have survives : ∀ t ∈ [orders, people, articles], t.Survives .oracle12c := by decide +kernel
  have survived := scripts_survive_catalog known made apart survives
  exact ⟨survives, survived⟩

end Schema

end SqlSchema
