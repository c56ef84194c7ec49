import SqlSchema.Proofs.Catalog.Entries
import SqlSchema.Proofs.Script.Definitions

/-!
# The order of the columns of a key

A catalog reports the columns of a key in an order of their own, but a table only says of each column whether it belongs
to the key. So a table that is read declares its key with the columns that are reported, in the order in which it has
them (`keyNames_of_readAs`), which is the order of the key only where the key follows the columns
(`keyFollowsColumns_iff`).
-/

namespace SqlSchema

variable {d : Dialect} {r : ReportedTable} {t : Table}

namespace ReportedTable

/-- The columns of the key, in the order in which the table has them. -/
def keyInColumnOrder (r : ReportedTable) : List String := (r.columns.map (·.name)).filter (lists r.keyNames)

/-- The names are the same one by one, case aside. -/
def SameNames (xs ys : List String) : Prop := List.Forall₂ (fun x y => Text.sameName x y = true) xs ys

/-- The key lists its columns in the order in which the table has them. -/
def KeyFollowsColumns (r : ReportedTable) : Prop :=
  ∃ names, names.Sublist (r.columns.map (·.name)) ∧ SameNames names r.keyNames

/-- The key has several columns, no two of which are the same. -/
def HasCompositeKey (r : ReportedTable) : Prop :=
  2 ≤ r.keyNames.length ∧ r.keyNames.Pairwise fun a b => Text.sameName a b = false

theorem lists_iff {names : List String} {n : String} :
    lists names n = true ↔ ∃ m ∈ names, Text.sameName m n = true := by
  simp [lists]

theorem keyNames_of_readAs (read : r.ReadAs d t) : t.keyNames = r.keyInColumnOrder := by
  have inKey := Outcome.forall₂_filter (p := fun x => lists r.keyNames x.name) (q := (·.inKey)) read.columns
    fun x c agrees => by rw [Bool.eq_iff_iff, agrees.inKey_iff, lists_iff]
  have names := Outcome.map_eq_map inKey fun x c agrees => agrees.name.symm
  rw [keyInColumnOrder, List.filter_map]
  exact names.symm

theorem columns_apart_of_readAs (wellFormed : t.WellFormed) (read : r.ReadAs d t) :
    r.columns.Pairwise fun a b => Text.sameName a.name b.name = false :=
  Text.apart_of_map_eq (Outcome.map_eq_map read.columns fun _ _ agrees => agrees.name.symm) wellFormed.columns_apart

private theorem nodup_names (apart : r.columns.Pairwise fun a b => Text.sameName a.name b.name = false) :
    (r.columns.map (·.name)).Nodup := by
  rw [List.nodup_iff_pairwise_ne, List.pairwise_map]
  refine apart.imp fun other same => ?_
  rw [same, Text.sameName_refl] at other
  cases other

/-- Names of different columns are different. -/
private theorem SameNames.nodup {names keys : List String} (same : SameNames names keys)
    (apart : keys.Pairwise fun a b => Text.sameName a b = false) : names.Nodup := by
  induction same with
  | nil => exact List.nodup_nil
  | @cons n key names keys first rest ih =>
    obtain ⟨others, apart⟩ := List.pairwise_cons.mp apart
    refine List.nodup_cons.mpr ⟨fun again => ?_, ih apart⟩
    obtain ⟨other, listed, named⟩ := Outcome.exists_of_mem_right rest.flip again
    rw [Text.sameName_comm] at first
    have equal := Text.sameName_trans first named
    rw [others other listed] at equal
    cases equal

/-- Columns that are named as in the key are those of the key. -/
private theorem mem_keyInColumnOrder_iff (apart : r.columns.Pairwise fun a b => Text.sameName a.name b.name = false)
    {names : List String} (subset : names ⊆ r.columns.map (·.name)) (same : SameNames names r.keyNames) {n : String} :
    n ∈ r.keyInColumnOrder ↔ n ∈ names := by
  rw [keyInColumnOrder, List.mem_filter, lists_iff]
  constructor
  · rintro ⟨column, key, listed, named⟩
    obtain ⟨m, hm, other⟩ := Outcome.exists_of_mem_right same listed
    obtain ⟨x, hx, rfl⟩ := List.mem_map.mp (subset hm)
    obtain ⟨y, hy, rfl⟩ := List.mem_map.mp column
    rwa [← Text.eq_of_sameName apart hx hy (Text.sameName_trans other named)]
  · intro hn
    obtain ⟨key, listed, named⟩ := Outcome.exists_of_mem_right same.flip hn
    exact ⟨subset hn, key, listed, by rwa [Text.sameName_comm]⟩

/-- The columns of the key that a table declares are those that are reported. -/
theorem exists_perm_keyInColumnOrder (read : r.ReadAs d t)
    (columns_apart : r.columns.Pairwise fun a b => Text.sameName a.name b.name = false)
    (apart : r.keyNames.Pairwise fun a b => Text.sameName a b = false) :
    ∃ names, names.Perm r.keyInColumnOrder ∧ SameNames names r.keyNames := by
  have known : ∀ key ∈ r.keyNames, ∃ n, n ∈ r.columns.map (·.name) ∧ Text.sameName n key = true := by
    intro key listed
    obtain ⟨x, hx, named⟩ := read.key_known key listed
    exact ⟨x.name, List.mem_map_of_mem hx, named⟩
  obtain ⟨names, both⟩ := Outcome.exists_forall₂ known
  have same : SameNames names r.keyNames := both.flip.imp fun n key h => h.2
  have subset : names ⊆ r.columns.map (·.name) := fun n hn => by
    obtain ⟨key, -, mem, -⟩ := Outcome.exists_of_mem_right both hn
    exact mem
  have members := fun n => @mem_keyInColumnOrder_iff r columns_apart names subset same n
  have nodup : r.keyInColumnOrder.Nodup := (nodup_names columns_apart).filter _
  exact ⟨names, (List.perm_ext_iff_of_nodup (same.nodup apart) nodup).mpr fun n => (members n).symm, same⟩

/-- A table declares the columns of its key in the order in which they are reported exactly if the key follows the
columns. -/
theorem keyFollowsColumns_iff (apart : r.columns.Pairwise fun a b => Text.sameName a.name b.name = false) :
    SameNames r.keyInColumnOrder r.keyNames ↔ r.KeyFollowsColumns := by
  constructor
  · exact fun same => ⟨_, List.filter_sublist, same⟩
  · rintro ⟨names, sublist, same⟩
    have members := fun n => @mem_keyInColumnOrder_iff r apart names sublist.subset same n
    -- a sublist of the columns with the members of the key is the key
    have within : names.Sublist r.keyInColumnOrder := by
      have all_listed : names.filter (lists r.keyNames) = names :=
        List.filter_eq_self.mpr fun n hn => (List.mem_filter.mp ((members n).mpr hn)).2
      rw [← all_listed]
      exact sublist.filter _
    have nodup : r.keyInColumnOrder.Nodup := (nodup_names apart).filter _
    have short : r.keyInColumnOrder.length ≤ names.length :=
      (List.subperm_of_subset nodup fun n hn => (members n).mp hn).length_le
    rwa [← within.eq_of_length_le short]

/-- What a script says of a key of several columns that is reported. -/
structure DeclaresReportedKey (s : Style) (r : ReportedTable) (script : List Statement) : Prop where
  /-- The key is declared once, by columns in the order in which the table has them. -/
  declared : script.flatMap Statement.declaredKeys = [r.keyInColumnOrder]
  written : ∃ st ∈ script, Text.Holds (st.sql s) ("PRIMARY KEY " ++ s.columnList r.keyInColumnOrder)
  /-- The columns are those that are reported, in whatever order. -/
  reported : ∃ names, names.Perm r.keyInColumnOrder ∧ SameNames names r.keyNames
  in_order_iff : SameNames r.keyInColumnOrder r.keyNames ↔ r.KeyFollowsColumns

theorem declaresReportedKey_of_create {s : Style} {script : List Statement} (known : s.dialect ∈ Dialect.all)
    (read : r.ReadAs s.dialect t) (made : t.Reachable) (composite : r.HasCompositeKey)
    (h : t.create s.dialect = .ok script) : r.DeclaresReportedKey s script := by
  have apart := columns_apart_of_readAs made.wellFormed read
  obtain ⟨names, perm, same⟩ := exists_perm_keyInColumnOrder read apart composite.2
  have several : 2 ≤ r.keyInColumnOrder.length := by
    rw [← perm.length_eq, List.Forall₂.length_eq same]
    exact composite.1
  have some_column : r.keyInColumnOrder ≠ [] := by
    intro none_listed
    rw [none_listed] at several
    cases several
  have declared := Table.declaredKeys_of_create h
  rw [keyNames_of_readAs read, if_neg some_column] at declared
  refine ⟨declared, ?_, ⟨names, perm, same⟩, keyFollowsColumns_iff apart⟩
  have listed : r.keyInColumnOrder ∈ script.flatMap Statement.declaredKeys := by simp [declared]
  obtain ⟨st, hst, here⟩ := List.mem_flatMap.mp listed
  refine ⟨st, hst, ?_⟩
  -- a column alone can be the key by its definition, but several cannot
  rcases Table.writesKey_of_mem known h hst here with clause | ⟨n, alone, -⟩
  · exact clause
  · rw [alone] at several
    exact absurd several (by simp)

end ReportedTable

namespace Catalog

variable {c : Catalog} {s : Style} {tables : List Table}

/-- The script of each table that is read from a catalog declares a composite key once, with the columns that are
reported but in the order in which the table has them. That is the reported order exactly if the key follows the
columns. -/
theorem composite_keys_declared (known : s.dialect ∈ Dialect.all) (apart : c.NamesApart)
    (read : c.source.readTables s.dialect = .ok tables) :
    List.Forall₂ (fun r t => r.HasCompositeKey → ∀ script, t.create s.dialect = .ok script →
      r.DeclaresReportedKey s script) c.tables tables := by
  rw [readTables_eq_ok_iff_toTable apart] at read
  refine read.imp fun r t made composite script h => ?_
  obtain ⟨agrees, reachable⟩ := ReportedTable.toTable_eq_ok_iff.mp made
  exact ReportedTable.declaresReportedKey_of_create known agrees reachable composite h

instance (r : ReportedTable) : Decidable r.HasCompositeKey :=
  inferInstanceAs (Decidable (2 ≤ r.keyNames.length ∧ r.keyNames.Pairwise fun a b => Text.sameName a b = false))

/-- Seats by their tier and number, with a key in another order than the columns, and their bookings, with one in the
same order. -/
def seats : Catalog where
  tables :=
    [{ name := "seat"
       columns := [{ name := "number", typeName := "INTEGER" }, { name := "tier", typeName := "INTEGER" }]
       primaryKey := some { columns := ["tier", "NUMBER"] } },
      { name := "booking"
        columns := [{ name := "day", typeName := "DATE" }, { name := "price", typeName := "INTEGER" },
          { name := "seat", typeName := "INTEGER" }]
        primaryKey := some { columns := ["day", "Seat"] } }]

private theorem keys_of_seats :
    (seats.source.readTables .sqlite).map (·.map fun t =>
      (t.create .sqlite).map (·.flatMap Statement.declaredKeys)) =
      .ok [.ok [["number", "tier"]], .ok [["day", "seat"]]] := by
  decide +kernel

theorem seats_keys_declared : Dialect.sqlite ∈ Dialect.all ∧ seats.NamesApart ∧
    (∀ r ∈ seats.tables, r.HasCompositeKey) ∧ ∃ tables, seats.source.readTables .sqlite = .ok tables ∧
      tables.map (fun t => (t.create .sqlite).map (·.flatMap Statement.declaredKeys)) =
        [.ok [["number", "tier"]], .ok [["day", "seat"]]] ∧
      List.Forall₂ (fun r t => r.HasCompositeKey → ∀ script, t.create .sqlite = .ok script →
        r.DeclaresReportedKey ⟨.sqlite, false⟩ script) seats.tables tables := by
  have known : Dialect.sqlite ∈ Dialect.all := by decide +kernel
  have apart : seats.NamesApart := by decide +kernel
  have composite : ∀ r ∈ seats.tables, r.HasCompositeKey := by decide +kernel
  obtain ⟨tables, read, keys⟩ := Outcome.map_eq_ok_iff.mp keys_of_seats
  exact ⟨known, apart, composite, tables, read, keys, @composite_keys_declared _ ⟨.sqlite, false⟩ _ known apart read⟩

/-- The key of the seats is declared in another order than it is reported. -/
theorem seat_key_reordered : seats.NamesApart ∧ (∀ r ∈ seats.tables, r.HasCompositeKey) ∧
    seats.tables.map (·.keyNames) = [["tier", "NUMBER"], ["day", "Seat"]] ∧
    ∃ tables, seats.source.readTables .sqlite = .ok tables ∧
      tables.map (fun t => (t.create .sqlite).map (·.flatMap Statement.declaredKeys)) =
        [.ok [["number", "tier"]], .ok [["day", "seat"]]] ∧
      ¬ReportedTable.SameNames ["number", "tier"] ["tier", "NUMBER"] := by
  obtain ⟨tables, read, keys⟩ := Outcome.map_eq_ok_iff.mp keys_of_seats
  refine ⟨by decide +kernel, by decide +kernel, by decide, tables, read, keys, ?_⟩
  unfold ReportedTable.SameNames
  decide

end Catalog

end SqlSchema
