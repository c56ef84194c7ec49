import SqlSchema.Dialect.Server
import SqlSchema.Proofs.Catalog.Entries

/-!
# Constraints that a catalog gives no name

A constraint that is reported without a name gets one that is made up of its kind, the table and its number. No two
made-up names of a table are the same (`madeUp_apart`), but one may be too long, or may be given to another constraint.
A sound report is read unless that happens (`wellFormed_iff`), so the tables of a catalog that reports nothing else
amiss are read exactly if it happens to none of them (`tables_read_iff_madeUp_fit`).
-/

namespace SqlSchema

variable {d : Dialect} {r : ReportedTable} {t : Table}

instance : DecidablePred Identifier.Valid := fun n => decidable_of_iff _ (@Identifier.check_eq_ok_iff "column" n)

/-! ### Made-up names -/

namespace Text

private theorem map_toLower_toDigits (n : Nat) : (Nat.toDigits 10 n).map Char.toLower = Nat.toDigits 10 n := by
  conv_rhs => rw [← List.map_id (Nat.toDigits 10 n)]
  exact List.map_congr_left fun c hc => toLower_of_isDigit (isDigit_of_mem_toDigits hc)

end Text

theorem toList_madeUpName (kind table : String) (n : Nat) :
    (madeUpName kind table n).toList = kind.toList ++ '_' :: (table.toList ++ '_' :: Nat.toDigits 10 n) := by
  unfold madeUpName
  simp

/-- The numbers of constraints of a kind tell their names apart. -/
theorem sameName_madeUpName_iff {kind table : String} {m n : Nat} :
    Text.sameName (madeUpName kind table m) (madeUpName kind table n) = true ↔ m = n := by
  constructor
  · intro same
    rw [Text.sameName_iff, ← String.toList_inj, Text.toList_lower, Text.toList_lower, toList_madeUpName,
      toList_madeUpName] at same
    simp only [List.map_append, List.map_cons, List.append_cancel_left_eq, List.cons.injEq, true_and,
      Text.map_toLower_toDigits] at same
    have value := congrArg Text.digitsValue? same
    rw [Text.digitsValue?_toDigits, Text.digitsValue?_toDigits] at value
    exact Option.some.inj value
  · rintro rfl
    exact Text.sameName_refl _

/-- The kinds that start a made-up name. -/
def constraintKinds : List String := ["FK", "IDX", "UK"]

theorem sameName_madeUpName_of_ne {k l table : String} (hk : k ∈ constraintKinds) (hl : l ∈ constraintKinds)
    (other : k ≠ l) (m n : Nat) : Text.sameName (madeUpName k table m) (madeUpName l table n) = false := by
  have each : ∀ k ∈ constraintKinds, ∀ l ∈ constraintKinds, k ≠ l →
      (k.toList.map Char.toLower).head? ≠ (l.toList.map Char.toLower).head? := by decide
  have some_letter : ∀ k ∈ constraintKinds, k.toList ≠ [] := by decide
  have start {k : String} (hk : k ∈ constraintKinds) (n : Nat) :
      (Text.lower (madeUpName k table n)).toList.head? = (k.toList.map Char.toLower).head? := by
    rw [Text.toList_lower, toList_madeUpName, List.map_append]
    exact List.head?_append_of_ne_nil _ (by simpa using some_letter k hk)
  rw [← Bool.not_eq_true, Text.sameName_iff]
  intro same
  refine each k hk l hl other ?_
  rw [← start hk m, ← start hl n, same]

/-- A made-up name is longer than that of the table. -/
theorem sameName_madeUpName_table (kind table : String) (n : Nat) :
    Text.sameName (madeUpName kind table n) table = false := by
  rw [← Bool.not_eq_true, Text.sameName_iff]
  intro same
  have lengths := congrArg (fun s => s.toList.length) same
  simp only [Text.toList_lower, toList_madeUpName, List.length_map, List.length_append, List.length_cons] at lengths
  omega

/-- A made-up name is valid unless it is too long. -/
theorem valid_madeUpName_iff {kind table : String} {n : Nat} (hk : kind ∈ constraintKinds)
    (valid : Identifier.Valid table) :
    Identifier.Valid (madeUpName kind table n) ↔ Text.size (madeUpName kind table n) ≤ Identifier.maxSize := by
  have letters : ∀ kind ∈ constraintKinds, '\x00' ∉ kind.toList ∧ kind.toList.head?.any (!Text.isBlank ·) = true := by
    decide
  obtain ⟨no_nul, first⟩ := letters kind hk
  refine ⟨fun h => h.size_le, fun size => ⟨?_, ?_, size⟩⟩
  · rw [toList_madeUpName]
    cases start : kind.toList with
    | nil =>
      rw [start] at first
      cases first
    | cons c cs =>
      rw [start] at first
      have shown : Text.isBlank c = false := by simpa using first
      rw [List.cons_append, Text.trimChars, Text.trimLeft_cons_of_visible shown, ← List.nil_append (c :: _),
        Text.trimRight_append_cons_of_visible shown]
      simp
  · rw [toList_madeUpName]
    simp only [List.mem_append, List.mem_cons, not_or]
    refine ⟨no_nul, by decide, valid.no_nul, by decide, fun digit => ?_⟩
    cases Text.isDigit_of_mem_toDigits digit

/-! ### The names of the constraints of a table -/

/-- A reported constraint by its name, if it has one, and the one that is made up for it otherwise. -/
structure NameSlot where
  given : Option String
  madeUp : String

namespace NameSlot

/-- The name under which the constraint is read. -/
def name (a : NameSlot) : String := a.given.getD a.madeUp

/-- No name is given to two constraints. -/
def GivenApart (a b : NameSlot) : Prop := ∀ m ∈ a.given, ∀ n ∈ b.given, Text.sameName m n = false

/-- The name that is made up for `a`, if one is, is not the one given to `b`. -/
def Spares (a b : NameSlot) : Prop := a.given = none → ∀ n ∈ b.given, Text.sameName n a.madeUp = false

instance (a b : NameSlot) : Decidable (a.GivenApart b) :=
  inferInstanceAs (Decidable (∀ m ∈ a.given, ∀ n ∈ b.given, Text.sameName m n = false))

instance (a b : NameSlot) : Decidable (a.Spares b) :=
  inferInstanceAs (Decidable (a.given = none → ∀ n ∈ b.given, Text.sameName n a.madeUp = false))

theorem pairwise_name_iff {slots : List NameSlot} (given : slots.Pairwise GivenApart)
    (madeUp : slots.Pairwise fun a b => Text.sameName a.madeUp b.madeUp = false) :
    (slots.Pairwise fun a b => Text.sameName a.name b.name = false) ↔ ∀ a ∈ slots, ∀ b ∈ slots, a.Spares b := by
  constructor
  · intro apart a ha b hb unnamed n named
    have other : a ≠ b := by
      rintro rfl
      rw [unnamed] at named
      cases named
    have : Std.Symm fun a b : NameSlot => Text.sameName a.name b.name = false :=
      ⟨fun a b h => by rwa [Text.sameName_comm]⟩
    have names : Text.sameName b.name a.name = false := List.Pairwise.forall apart hb ha (Ne.symm other)
    rw [name, name, unnamed, Option.mem_def.mp named] at names
    exact names
  · intro spared
    refine (given.and madeUp).imp_of_mem fun {a b} ha hb both => ?_
    unfold name
    cases ga : a.given with
    | some m =>
      cases gb : b.given with
      | some n => exact both.1 m ga n gb
      | none => exact spared b hb a ha gb m ga
    | none =>
      cases gb : b.given with
      | some n =>
        rw [Text.sameName_comm]
        exact spared a ha b hb ga n gb
      | none => exact both.2

end NameSlot

namespace ReportedTable

/-- The names of the constraints that are reported: foreign keys, then indexes, then unique constraints. -/
def nameSlots (r : ReportedTable) : List NameSlot :=
  r.foreignKeys.mapIdx (fun n f => ⟨f.name, madeUpName "FK" r.name (n + 1)⟩) ++
    (r.indexes.filter fun i => !(i.unique && i.constraint)).mapIdx (fun n i =>
      ⟨i.name, madeUpName "IDX" r.name (n + 1)⟩) ++
    (r.indexes.filter fun i => i.unique && i.constraint).mapIdx (fun n i => ⟨i.name, madeUpName "UK" r.name (n + 1)⟩)

/-- Each made-up name fits, and none is given to another constraint. -/
def MadeUpFit (r : ReportedTable) : Prop :=
  ∀ a ∈ r.nameSlots, (a.given = none → Text.size a.madeUp ≤ Identifier.maxSize) ∧ ∀ b ∈ r.nameSlots, a.Spares b

instance (r : ReportedTable) : Decidable r.MadeUpFit :=
  inferInstanceAs (Decidable (∀ a ∈ r.nameSlots, (a.given = none → Text.size a.madeUp ≤ Identifier.maxSize) ∧
    ∀ b ∈ r.nameSlots, a.Spares b))

theorem exists_kind_of_mem {a : NameSlot} (h : a ∈ r.nameSlots) :
    ∃ kind ∈ constraintKinds, ∃ n, a.madeUp = madeUpName kind r.name n := by
  simp only [nameSlots, List.mem_append, List.mem_mapIdx] at h
  rcases h with (⟨n, _, rfl⟩ | ⟨n, _, rfl⟩) | ⟨n, _, rfl⟩
  · exact ⟨"FK", by decide, _, rfl⟩
  · exact ⟨"IDX", by decide, _, rfl⟩
  · exact ⟨"UK", by decide, _, rfl⟩

private theorem pairwise_mapIdx {α : Type} (kind table : String) (given : α → Option String) (xs : List α) :
    (xs.mapIdx fun n x => (⟨given x, madeUpName kind table (n + 1)⟩ : NameSlot)).Pairwise
      fun a b => Text.sameName a.madeUp b.madeUp = false := by
  rw [List.pairwise_iff_getElem]
  intro i j hi hj before
  rw [List.getElem_mapIdx, List.getElem_mapIdx, ← Bool.not_eq_true, sameName_madeUpName_iff]
  omega

/-- No two made-up names of a table are the same. -/
theorem madeUp_apart (r : ReportedTable) :
    r.nameSlots.Pairwise fun a b => Text.sameName a.madeUp b.madeUp = false := by
  unfold nameSlots
  refine List.pairwise_append.mpr ⟨List.pairwise_append.mpr ⟨?_, ?_, ?_⟩, ?_, ?_⟩
  · exact pairwise_mapIdx "FK" r.name ReportedForeignKey.name r.foreignKeys
  · exact pairwise_mapIdx "IDX" r.name ReportedIndex.name _
  · intro a ha b hb
    obtain ⟨m, _, rfl⟩ := List.mem_mapIdx.mp ha
    obtain ⟨n, _, rfl⟩ := List.mem_mapIdx.mp hb
    exact sameName_madeUpName_of_ne (by decide) (by decide) (by decide) _ _
  · exact pairwise_mapIdx "UK" r.name ReportedIndex.name _
  · intro a ha b hb
    obtain ⟨n, _, rfl⟩ := List.mem_mapIdx.mp hb
    rcases List.mem_append.mp ha with ha | ha
    · obtain ⟨m, _, rfl⟩ := List.mem_mapIdx.mp ha
      exact sameName_madeUpName_of_ne (by decide) (by decide) (by decide) _ _
    · obtain ⟨m, _, rfl⟩ := List.mem_mapIdx.mp ha
      exact sameName_madeUpName_of_ne (by decide) (by decide) (by decide) _ _

end ReportedTable

/-! ### Sound reports -/

theorem NativeParams.suitable_of_paramsFor? {n : NativeParams} {type : ColumnType} {params : TypeParams}
    (given : n.paramsFor? type = some params) : params.Suitable type := by
  unfold paramsFor? at given
  simp only [Option.bind_eq_bind, Option.bind_eq_some_iff] at given
  obtain ⟨_, -, _, -, given⟩ := given
  -- a scale is looked for behind a precision alone
  split at given <;>
    · obtain ⟨scale, -, checked⟩ := Option.bind_eq_some_iff.mp given
      split at checked
      · rename_i suits
        cases checked
        exact TypeParams.check_eq_ok_iff.mp suits
      · cases checked

theorem Dialect.suitable_of_ofNative? {name : String} {size precision scale : Option Nat} {type : ColumnType}
    {params : TypeParams} (found : d.ofNative? name size precision scale = some (type, params)) :
    params.Suitable type := by
  have of_params {n : NativeParams} {other : ColumnType}
      (h : (n.paramsFor? other).map (other, ·) = some (type, params)) : params.Suitable type := by
    obtain ⟨p, given, pair⟩ := Option.map_eq_some_iff.mp h
    cases pair
    exact NativeParams.suitable_of_paramsFor? given
  unfold ofNative? at found
  rw [Option.or_eq_some_iff] at found
  rcases found with by_rule | ⟨-, by_name⟩
  · obtain ⟨meets, -, preferred⟩ := List.exists_of_findSome?_eq_some by_rule
    obtain ⟨rule, -, found⟩ := List.exists_of_findSome?_eq_some preferred
    exact of_params found
  · obtain ⟨common, -, found⟩ := Option.bind_eq_some_iff.mp by_name
    exact of_params found

/-- A column is well-formed if it says what is reported under a valid name. -/
theorem ReportedColumn.ReadAs.wellFormed {key : List String} {x : ReportedColumn} {c : Column} (read : x.ReadAs d key c)
    (valid : Identifier.Valid x.name) : c.WellFormed where
  name_valid := read.name ▸ valid
  params_suitable := Dialect.suitable_of_ofNative? read.type
  identity_integral numbered := (read.isIdentity_iff.mp numbered).1
  identity_without_default numbered := by rw [read.default, if_pos numbered]

theorem ReportedColumn.exists_readAs (r : ReportedTable) {x : ReportedColumn}
    (known : (d.ofNative? x.typeName x.size x.precision x.scale).isSome = true) :
    ∃ c, x.ReadAs d r.keyNames c := by
  obtain ⟨⟨type, params⟩, found⟩ := Option.isSome_iff_exists.mp known
  have read : r.column d x = .ok (x.toColumn type params (ReportedTable.lists r.keyNames x.name)) := by
    rw [ReportedTable.column, found]
  exact ⟨_, ReportedTable.column_eq_ok_iff.mp read⟩

namespace ReportedTable

/-- Nothing is amiss with what is reported: the names that are present are valid and different, the types are known, the
columns of the key are there, and each constraint has columns that match. -/
structure Sound (d : Dialect) (r : ReportedTable) : Prop where
  name_valid : Identifier.Valid r.name
  column_names_valid : ∀ x ∈ r.columns, Identifier.Valid x.name
  columns_apart : r.columns.Pairwise fun a b => Text.sameName a.name b.name = false
  types_known : ∀ x ∈ r.columns, (d.ofNative? x.typeName x.size x.precision x.scale).isSome = true
  key_known : ∀ key ∈ r.keyNames, ∃ x ∈ r.columns, Text.sameName x.name key = true
  given_valid : ∀ a ∈ r.nameSlots, ∀ n ∈ a.given, Identifier.Valid n ∧ Text.sameName n r.name = false
  given_apart : r.nameSlots.Pairwise NameSlot.GivenApart
  foreignKeys_proper : ∀ f ∈ r.foreignKeys, f.columns ≠ [] ∧ (∀ n ∈ f.columns, Identifier.Valid n) ∧
    Identifier.Valid f.refTable ∧ f.columns.length = f.refColumns.length
  indexes_proper : ∀ i ∈ r.indexes, i.columns ≠ [] ∧ ∀ n ∈ i.columns, Identifier.Valid n

private theorem sound_iff : r.Sound d ↔ Identifier.Valid r.name ∧ (∀ x ∈ r.columns, Identifier.Valid x.name) ∧
    (r.columns.Pairwise fun a b => Text.sameName a.name b.name = false) ∧
    (∀ x ∈ r.columns, (d.ofNative? x.typeName x.size x.precision x.scale).isSome = true) ∧
    (∀ key ∈ r.keyNames, ∃ x ∈ r.columns, Text.sameName x.name key = true) ∧
    (∀ a ∈ r.nameSlots, ∀ n ∈ a.given, Identifier.Valid n ∧ Text.sameName n r.name = false) ∧
    r.nameSlots.Pairwise NameSlot.GivenApart ∧
    (∀ f ∈ r.foreignKeys, f.columns ≠ [] ∧ (∀ n ∈ f.columns, Identifier.Valid n) ∧ Identifier.Valid f.refTable ∧
      f.columns.length = f.refColumns.length) ∧
    ∀ i ∈ r.indexes, i.columns ≠ [] ∧ ∀ n ∈ i.columns, Identifier.Valid n :=
  ⟨fun h => ⟨h.1, h.2, h.3, h.4, h.5, h.6, h.7, h.8, h.9⟩,
    fun ⟨a, b, c, d, e, f, g, h, i⟩ => ⟨a, b, c, d, e, f, g, h, i⟩⟩

instance (d : Dialect) (r : ReportedTable) : Decidable (r.Sound d) := decidable_of_iff _ sound_iff.symm

/-- The constraints of the table are those that are reported, by their names. -/
theorem names_of_readAs (read : r.ReadAs d t) : t.constraints.map (·.name) = r.nameSlots.map NameSlot.name := by
  have foreignKeys := Outcome.map_eq_map read.foreignKeys fun p f agrees => agrees.name.symm
  have indexes := Outcome.map_eq_map read.indexes fun p i agrees => agrees.name.symm
  have uniques := Outcome.map_eq_map read.uniques fun p u agrees => agrees.name.symm
  simp only [Table.constraints, nameSlots, List.map_append, List.mapIdx_eq_zipIdx_map, List.map_map]
  exact congrArg₂ _ (congrArg₂ _ foreignKeys.symm indexes.symm) uniques.symm

/-- The columns of the constraints of the table are those of a reported foreign key or index. -/
theorem columns_of_readAs (read : r.ReadAs d t) {k : Table.Declared} (h : k ∈ t.constraints) :
    (∃ f ∈ r.foreignKeys, k.columns = f.columns) ∨ ∃ i ∈ r.indexes, k.columns = i.columns := by
  simp only [Table.constraints, List.mem_append, List.mem_map] at h
  rcases h with (⟨f, hf, rfl⟩ | ⟨i, hi, rfl⟩) | ⟨u, hu, rfl⟩
  · obtain ⟨p, hp, agrees⟩ := Outcome.exists_of_mem_right read.foreignKeys hf
    exact .inl ⟨p.1, List.fst_mem_of_mem_zipIdx hp, agrees.columns⟩
  · obtain ⟨p, hp, agrees⟩ := Outcome.exists_of_mem_right read.indexes hi
    exact .inr ⟨p.1, List.mem_of_mem_filter (List.fst_mem_of_mem_zipIdx hp), agrees.columns⟩
  · obtain ⟨p, hp, agrees⟩ := Outcome.exists_of_mem_right read.uniques hu
    exact .inr ⟨p.1, List.mem_of_mem_filter (List.fst_mem_of_mem_zipIdx hp), agrees.columns⟩

/-- The name of a constraint of a sound report is valid and not that of the table, unless it is made up and too long. -/
private theorem valid_name_iff (sound : r.Sound d) {a : NameSlot} (h : a ∈ r.nameSlots) :
    Identifier.Valid a.name ∧ Text.sameName a.name r.name = false ↔
      (a.given = none → Text.size a.madeUp ≤ Identifier.maxSize) := by
  unfold NameSlot.name
  cases given : a.given with
  | some n =>
    obtain ⟨valid, other⟩ := sound.given_valid a h n given
    exact iff_of_true ⟨valid, other⟩ nofun
  | none =>
    obtain ⟨kind, known, n, madeUp⟩ := exists_kind_of_mem h
    rw [Option.getD_none, madeUp, valid_madeUpName_iff known sound.name_valid]
    simp [sameName_madeUpName_table]

/-- A table that says what a sound report does is well-formed unless a made-up name is in the way. -/
theorem wellFormed_iff (sound : r.Sound d) (read : r.ReadAs d t) : t.WellFormed ↔ r.MadeUpFit := by
  have names := names_of_readAs read
  have apart_iff : (t.constraints.Pairwise fun a b => Text.sameName a.name b.name = false) ↔
      ∀ a ∈ r.nameSlots, ∀ b ∈ r.nameSlots, a.Spares b := by
    rw [← NameSlot.pairwise_name_iff sound.given_apart r.madeUp_apart]
    exact ⟨Text.apart_of_map_eq names.symm, Text.apart_of_map_eq names⟩
  have valid_iff : (∀ k ∈ t.constraints, Identifier.Valid k.name ∧ Text.sameName k.name t.name = false) ↔
      ∀ a ∈ r.nameSlots, a.given = none → Text.size a.madeUp ≤ Identifier.maxSize := by
    have by_name : (∀ n ∈ t.constraints.map (·.name), Identifier.Valid n ∧ Text.sameName n r.name = false) ↔
        ∀ n ∈ r.nameSlots.map NameSlot.name, Identifier.Valid n ∧ Text.sameName n r.name = false := by rw [names]
    rw [List.forall_mem_map, List.forall_mem_map] at by_name
    rw [read.name, by_name]
    exact forall₂_congr fun a ha => valid_name_iff sound ha
  constructor
  · intro wellFormed a ha
    exact ⟨valid_iff.mp wellFormed.constraint_valid a ha, apart_iff.mp wellFormed.constraints_apart a ha⟩
  · intro fit
    constructor
    · exact read.name ▸ sound.name_valid
    · intro c hc
      obtain ⟨x, hx, agrees⟩ := Outcome.exists_of_mem_right read.columns hc
      exact agrees.wellFormed (sound.column_names_valid x hx)
    · refine Text.apart_of_map_eq ?_ sound.columns_apart
      exact (Outcome.map_eq_map read.columns fun x c agrees => agrees.name.symm).symm
    · exact valid_iff.mpr fun a ha => (fit a ha).1
    · intro k hk
      rcases columns_of_readAs read hk with ⟨f, hf, columns⟩ | ⟨i, hi, columns⟩
      · obtain ⟨some_column, valid, -⟩ := sound.foreignKeys_proper f hf
        exact columns ▸ ⟨some_column, valid⟩
      · exact columns ▸ sound.indexes_proper i hi
    · exact apart_iff.mpr fun a ha => (fit a ha).2
    · intro f hf
      obtain ⟨p, hp, agrees⟩ := Outcome.exists_of_mem_right read.foreignKeys hf
      obtain ⟨-, -, valid, arity⟩ := sound.foreignKeys_proper p.1 (List.fst_mem_of_mem_zipIdx hp)
      refine ⟨agrees.refTable ▸ valid, ?_⟩
      rw [agrees.columns, agrees.refColumns, arity]

/-- A sound report says what some table would. -/
theorem Sound.exists_readAs (sound : r.Sound d) : ∃ t, r.ReadAs d t := by
  obtain ⟨cs, columns⟩ := Outcome.exists_forall₂ fun x hx => ReportedColumn.exists_readAs r (sound.types_known x hx)
  have foreignKeys : ∀ p ∈ r.foreignKeys.zipIdx, ∃ f, p.1.ReadAs (madeUpName "FK" r.name (p.2 + 1)) f :=
    fun p _ => ⟨_, ReportedForeignKey.readAs_iff.mpr rfl⟩
  have uniques : ∀ p ∈ (r.indexes.filter fun i => i.unique && i.constraint).zipIdx,
      ∃ u, p.1.ReadAsUnique (madeUpName "UK" r.name (p.2 + 1)) u :=
    fun p _ => ⟨_, ReportedIndex.readAsUnique_iff.mpr rfl⟩
  have indexes : ∀ p ∈ (r.indexes.filter fun i => !(i.unique && i.constraint)).zipIdx,
      ∃ i, p.1.ReadAsIndex (madeUpName "IDX" r.name (p.2 + 1)) i :=
    fun p _ => ⟨_, ReportedIndex.readAsIndex_iff.mpr rfl⟩
  obtain ⟨fs, foreignKeys⟩ := Outcome.exists_forall₂ foreignKeys
  obtain ⟨us, uniques⟩ := Outcome.exists_forall₂ uniques
  obtain ⟨is, indexes⟩ := Outcome.exists_forall₂ indexes
  exact ⟨{ name := r.name, columns := cs, foreignKeys := fs, indexes := is, uniques := us, comment := r.comment },
    rfl, sound.key_known, columns, foreignKeys, uniques, indexes, rfl, rfl⟩

theorem exists_toTable_iff (sound : r.Sound d) : (∃ t, r.toTable d = .ok t) ↔ r.MadeUpFit := by
  constructor
  · rintro ⟨t, read⟩
    obtain ⟨agrees, made⟩ := toTable_eq_ok_iff.mp read
    exact (wellFormed_iff sound agrees).mp made.wellFormed
  · intro fit
    obtain ⟨t, agrees⟩ := sound.exists_readAs
    have made : t.Reachable := Table.reachable_iff_wellFormed.mpr ((wellFormed_iff sound agrees).mpr fit)
    exact ⟨t, toTable_eq_ok_iff.mpr ⟨agrees, made⟩⟩

end ReportedTable

namespace Catalog

variable {c : Catalog}

/-- The tables of a catalog that reports nothing amiss are read exactly if each made-up name fits and is not the one
that another constraint of its table is given, and the constraints of what is read have different names. -/
theorem tables_read_iff_madeUp_fit (apart : c.NamesApart) (sound : ∀ r ∈ c.tables, r.Sound d) :
    ((∃ tables, c.source.readTables d = .ok tables) ↔ ∀ r ∈ c.tables, r.MadeUpFit) ∧
      ∀ tables, c.source.readTables d = .ok tables → ∀ t ∈ tables,
        t.constraints.Pairwise fun a b => Text.sameName a.name b.name = false := by
  simp only [readTables_eq_ok_iff_toTable apart]
  refine ⟨⟨?_, fun fit => ?_⟩, fun tables read t ht => ?_⟩
  · rintro ⟨tables, read⟩ r hr
    obtain ⟨t, -, made⟩ := Outcome.exists_of_mem_right read.flip hr
    exact (ReportedTable.exists_toTable_iff (sound r hr)).mp ⟨t, made⟩
  · exact Outcome.exists_forall₂ fun r hr => (ReportedTable.exists_toTable_iff (sound r hr)).mpr (fit r hr)
  · obtain ⟨r, -, made⟩ := Outcome.exists_of_mem_right read ht
    exact (ReportedTable.toTable_eq_ok_iff.mp made).2.wellFormed.constraints_apart

/-- Parcels and their legs. Of the constraints of a leg only two have names. -/
def parcels : Catalog where
  tables :=
    [{ name := "parcel"
       columns := [{ name := "id", typeName := "bigint", nullable := false }]
       primaryKey := some { columns := ["id"] } },
      { name := "leg"
        columns := [{ name := "parcel", typeName := "bigint" }, { name := "number", typeName := "int" }]
        foreignKeys := [{ columns := ["parcel"], refTable := "parcel", refColumns := ["id"] },
          { name := some "fk_leg_2", columns := ["number"], refTable := "leg", refColumns := ["number"] }]
        indexes := [{ columns := ["parcel"] }, { name := some "IDX_LEG_3", columns := ["number"] },
          { columns := ["parcel", "number"], unique := true, constraint := true }] }]

theorem parcels_read : parcels.NamesApart ∧ (∀ r ∈ parcels.tables, r.Sound .mysql) ∧
    (∀ r ∈ parcels.tables, r.MadeUpFit) ∧ ∃ tables, parcels.source.readTables .mysql = .ok tables ∧
      ∀ t ∈ tables, t.constraints.Pairwise fun a b => Text.sameName a.name b.name = false := by
  have apart : parcels.NamesApart := by decide +kernel
  have sound : ∀ r ∈ parcels.tables, r.Sound .mysql := by decide +kernel
  have fit : ∀ r ∈ parcels.tables, r.MadeUpFit := by decide +kernel
  have ⟨read_iff, names⟩ := tables_read_iff_madeUp_fit apart sound
  obtain ⟨tables, read⟩ := read_iff.mpr fit
  exact ⟨apart, sound, fit, tables, read, names tables read⟩

/-- Entries of a log with an index that has the name made up for another one. -/
def auditLog : Catalog where
  tables :=
    [{ name := "audit"
       columns := [{ name := "id", typeName := "bigint" }, { name := "at", typeName := "timestamp" }]
       indexes := [{ columns := ["id"] }, { name := some "idx_audit_1", columns := ["at"] }] }]

theorem auditLog_unread : auditLog.NamesApart ∧ (∀ r ∈ auditLog.tables, r.Sound .postgresql) ∧
    ¬∃ tables, auditLog.source.readTables .postgresql = .ok tables := by
  refine ⟨by decide +kernel, by decide +kernel, ?_⟩
  have failed : (auditLog.source.readTables .postgresql).toOption = none := by decide +kernel
  rintro ⟨tables, read⟩
  rw [read] at failed
  cases failed

end Catalog

end SqlSchema
