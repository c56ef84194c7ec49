import SqlSchema.Proofs.Script.AddedColumns
import SqlSchema.Proofs.Script.Mirror

/-!
# Columns that are dropped

Before a column is dropped, each constraint of its table that lists it is, once, and no other; the sequence that was
created for the column is dropped last (`dropColumnScript_drops_covering`). A foreign key of a table to itself may refer
to a column that it does not list. Such a key is not dropped, and these are the only constraints about the column that
stay behind.
-/

namespace SqlSchema

/-! ### Statements that drop constraints -/

/-- The template that drops constraints of a kind, unless they are part of the definition of their table. -/
def Dialect.dropTemplate? (d : Dialect) : ConstraintKind → Option String
  | .foreignKey =>
    match d.foreignKey with
    | .inline => none
    | .alter _ drop => some drop
  | .index => some d.dropIndex
  | .unique =>
    match d.unique with
    | .alter _ drop => some drop
    | .index => some d.dropIndex

/-- The name of the constraint that a statement drops. -/
def Statement.droppedConstraint? : Statement → Option String
  | .dropForeignKey _ _ n | .dropUnique _ _ n | .dropIndex _ _ n => some n
  | _ => none

/-- Whether a statement drops the constraint of the table. -/
structure Statement.Drops (s : Style) (t : Table) (k : Table.Declared) (st : Statement) : Prop where
  table_eq : st.table = t.name
  name_eq : st.droppedConstraint? = some k.name
  written : ∃ template, s.dialect.dropTemplate? k.kind = some template ∧
    st.sql s = Template.fillWith template [('t', s.name t.name), ('n', s.name k.name)]

namespace Table

variable {s : Style} {d : Dialect} {t : Table} {c : Column} {k : Declared}

/-- Whether a constraint of the table is about the column: it lists the column, or it is a foreign key of the table to
itself that refers to the column. -/
def Concerns (t : Table) (c : Column) (k : Declared) : Prop :=
  covers k.columns c = true ∨ ∃ f ∈ t.foreignKeys, k = ⟨.foreignKey, f.name, f.columns⟩ ∧
    Text.sameName f.refTable t.name = true ∧ covers f.refColumns c = true

/-- The constraints of the table that list the column and can be dropped by statements of their own. -/
def covering (d : Dialect) (t : Table) (c : Column) : List Declared :=
  t.constraints.filter fun k => (d.dropTemplate? k.kind).isSome && covers k.columns c

/-- The statements that drop the constraints that list the column. -/
def dropCovering (d : Dialect) (t : Table) (c : Column) : List Statement :=
  t.dropForeignKeys d (t.foreignKeys.filter fun f => covers f.columns c) ++
    (t.indexes.filter fun i => covers i.columns c).map (t.dropIndex d) ++
    (t.uniques.filter fun u => covers u.columns c).map (t.dropUnique d)

theorem dropColumnScript_eq : t.dropColumnScript d c =
    t.dropCovering d c ++ .dropColumn d.dropColumn t.name c.name :: t.dropSequences d [c] := by
  simp [dropColumnScript, dropCovering]

/-- Constraints of one kind that list the column, each with the statement that drops it. -/
private theorem forall₂_drops {α : Type} {items : List α} {listed : α → List String} {declared : α → Declared}
    {drop : α → Statement} {template : String} (drops : ∀ x, (drop x).Drops s t (declared x))
    (columns : ∀ x, (declared x).columns = listed x)
    (apart : ∀ x, s.dialect.dropTemplate? (declared x).kind = some template) :
    List.Forall₂ (fun k st => st.Drops s t k)
      ((items.map declared).filter fun k => (s.dialect.dropTemplate? k.kind).isSome && covers k.columns c)
      ((items.filter fun x => covers (listed x) c).map drop) := by
  have same : (fun k => (s.dialect.dropTemplate? k.kind).isSome && covers k.columns c) ∘ declared =
      fun x => covers (listed x) c := by
    funext x
    simp [apart, columns]
  rw [List.filter_map, same, List.forall₂_map_left_iff, List.forall₂_map_right_iff, List.forall₂_same]
  exact fun x _ => drops x

private theorem drops_dropUnique (u : Unique) :
    (t.dropUnique s.dialect u).Drops s t ⟨.unique, u.name, u.columns⟩ := by
  unfold dropUnique
  split
  · rename_i add drop placed
    exact ⟨rfl, rfl, drop, by simp [Dialect.dropTemplate?, placed], rfl⟩
  · rename_i placed
    exact ⟨rfl, rfl, s.dialect.dropIndex, by simp [Dialect.dropTemplate?, placed], rfl⟩

private theorem exists_dropTemplate?_unique : ∃ template, s.dialect.dropTemplate? .unique = some template := by
  unfold Dialect.dropTemplate?
  cases s.dialect.unique <;> exact ⟨_, rfl⟩

/-- The constraints that list the column are dropped, each by one statement. -/
private theorem forall₂_dropCovering :
    List.Forall₂ (fun k st => st.Drops s t k) (t.covering s.dialect c) (t.dropCovering s.dialect c) := by
  have foreignKeys : List.Forall₂ (fun k st => st.Drops s t k)
      ((t.foreignKeys.map fun f => (⟨.foreignKey, f.name, f.columns⟩ : Declared)).filter fun k =>
        (s.dialect.dropTemplate? k.kind).isSome && covers k.columns c)
      (t.dropForeignKeys s.dialect (t.foreignKeys.filter fun f => covers f.columns c)) := by
    unfold dropForeignKeys
    cases placed : s.dialect.foreignKey with
    | inline =>
      have none_apart : s.dialect.dropTemplate? .foreignKey = none := by simp [Dialect.dropTemplate?, placed]
      rw [List.filter_map, List.filter_eq_nil_iff.mpr (by simp [none_apart])]
      exact .nil
    | alter add drop =>
      have template : s.dialect.dropTemplate? .foreignKey = some drop := by simp [Dialect.dropTemplate?, placed]
      exact forall₂_drops (fun f => ⟨rfl, rfl, drop, template, rfl⟩) (fun _ => rfl) fun _ => template
  obtain ⟨template, unique⟩ := @exists_dropTemplate?_unique s
  rw [covering, constraints, List.filter_append, List.filter_append]
  exact List.rel_append (List.rel_append foreignKeys
    (forall₂_drops (fun i => ⟨rfl, rfl, s.dialect.dropIndex, rfl, rfl⟩) (fun _ => rfl) fun _ => rfl))
    (forall₂_drops drops_dropUnique (fun _ => rfl) fun _ => unique)

/-! ### The script that drops a column -/

private theorem droppedConstraint?_of_mem_dropSequences {cs : List Column} {st : Statement}
    (h : st ∈ t.dropSequences d cs) : st.droppedConstraint? = none := by
  unfold dropSequences at h
  split at h
  · obtain ⟨c, -, rfl⟩ := List.mem_map.mp h
    rfl
  · cases h

/-- As the constraints of a table have different names, the script drops those that list the column and no others. -/
theorem exists_drops_iff (made : t.Reachable) (hk : k ∈ t.constraints) :
    (∃ st ∈ t.dropColumnScript s.dialect c, st.Drops s t k) ↔
      (s.dialect.dropTemplate? k.kind).isSome = true ∧ covers k.columns c = true := by
  have covering_iff : k ∈ t.covering s.dialect c ↔
      (s.dialect.dropTemplate? k.kind).isSome = true ∧ covers k.columns c = true := by
    rw [covering, List.mem_filter, Bool.and_eq_true, and_iff_right hk]
  rw [← covering_iff, dropColumnScript_eq]
  constructor
  · rintro ⟨st, hst, drops⟩
    rcases List.mem_append.mp hst with hst | hst
    · obtain ⟨other, member, drops_other⟩ := Outcome.exists_of_mem_right forall₂_dropCovering hst
      have same : other.name = k.name := Option.some.inj (drops_other.name_eq.symm.trans drops.name_eq)
      have equal := Text.eq_of_sameName made.wellFormed.constraints_apart (List.mem_filter.mp member).1 hk
        (same ▸ Text.sameName_refl _)
      exact equal ▸ member
    · have nothing : st.droppedConstraint? = none := by
        rcases List.mem_cons.mp hst with rfl | hst
        · rfl
        · exact droppedConstraint?_of_mem_dropSequences hst
      cases nothing.symm.trans drops.name_eq
  · intro member
    obtain ⟨st, hst, drops⟩ := Outcome.exists_of_mem_right forall₂_dropCovering.flip member
    exact ⟨st, List.mem_append_left _ hst, drops⟩

/-- Whether a script drops all that is about the column and can be dropped by statements of its own. -/
def DropsConcerned (s : Style) (t : Table) (c : Column) (script : List Statement) : Prop :=
  ∀ k ∈ t.constraints, (s.dialect.dropTemplate? k.kind).isSome = true → t.Concerns c k → ∃ st ∈ script, st.Drops s t k

/-- Nothing about the column stays behind unless the table refers to the column by a foreign key that does not list
it. -/
theorem dropsConcerned_iff (made : t.Reachable) : DropsConcerned s t c (t.dropColumnScript s.dialect c) ↔
    s.dialect.foreignKey = .inline ∨ ∀ f ∈ t.foreignKeys, Text.sameName f.refTable t.name = true →
      covers f.refColumns c = true → covers f.columns c = true := by
  have apart_iff : (s.dialect.dropTemplate? .foreignKey).isSome = true ↔ s.dialect.foreignKey ≠ .inline := by
    unfold Dialect.dropTemplate?
    cases s.dialect.foreignKey <;> simp
  constructor
  · intro concerned
    rw [or_iff_not_imp_left]
    intro apart f hf itself refers
    have declared : (⟨.foreignKey, f.name, f.columns⟩ : Declared) ∈ t.constraints :=
      List.mem_append_left _ (List.mem_append_left _ (List.mem_map_of_mem hf))
    have dropped := concerned _ declared (apart_iff.mpr apart) (.inr ⟨f, hf, rfl, itself, refers⟩)
    exact ((exists_drops_iff made declared).mp dropped).2
  · rintro listed k hk apart (covered | ⟨f, hf, rfl, itself, refers⟩)
    · exact (exists_drops_iff made hk).mpr ⟨apart, covered⟩
    · rcases listed with inline | listed
      · exact absurd inline (apart_iff.mp apart)
      · exact (exists_drops_iff made hk).mpr ⟨apart, listed f hf itself refers⟩

/-- What a script satisfies that drops a column behind the constraints that list it. -/
structure DropsColumn (s : Style) (t : Table) (c : Column) (script : List Statement) : Prop where
  /-- Each of these constraints is dropped by one statement. Behind the column comes the sequence that a creation of the
  table creates for it. -/
  parts : ∃ constraints sequences,
    script = constraints ++ .dropColumn s.dialect.dropColumn t.name c.name :: sequences ∧
      List.Forall₂ (fun k st => st.Drops s t k) (t.covering s.dialect c) constraints ∧
      List.Forall₂ (Object.DroppedBy s.dialect) (sequenceObjects s { t with columns := [c] })
        (sequences.map (Statement.sql s)) ∧
      ∀ created, t.create s.dialect = .ok created →
        List.Forall₂ (Object.CreatedBy s.dialect) (sequenceObjects s { t with columns := [c] })
          ((created.filter (Statement.numbers c.name)).map (Statement.sql s))
  covering_apart : (t.covering s.dialect c).Pairwise fun a b => Text.sameName a.name b.name = false
  drops_iff : ∀ k ∈ t.constraints, (∃ st ∈ script, st.Drops s t k) ↔
    (s.dialect.dropTemplate? k.kind).isSome = true ∧ covers k.columns c = true
  concerned_iff : DropsConcerned s t c script ↔ s.dialect.foreignKey = .inline ∨ ∀ f ∈ t.foreignKeys,
    Text.sameName f.refTable t.name = true → covers f.refColumns c = true → covers f.columns c = true

/-- Whatever the dialect, a column of a table is dropped behind the constraints that list it and before its sequence. -/
theorem dropColumnScript_drops_covering (made : t.Reachable) (hc : c ∈ t.columns) :
    DropsColumn s t c (t.dropColumnScript s.dialect c) := by
  constructor
  · have matched := @matched_sequences s { t with columns := [c] }
    refine ⟨_, _, dropColumnScript_eq, forall₂_dropCovering, matched.2, fun created h => ?_⟩
    rw [filter_numbers h hc]
    exact matched.1
  · exact made.wellFormed.constraints_apart.filter _
  · exact fun k hk => exists_drops_iff made hk
  · exact dropsConcerned_iff made

/-- The number of a task. -/
def taskNumber : Column := { name := "id", type := .bigint, nullable := false, inKey := true, isIdentity := true }

/-- Tasks that may be parts of other tasks. -/
def tasks : Table where
  name := "task"
  columns := [taskNumber, { name := "whole", type := .bigint }]
  foreignKeys := [{ name := "fk_whole", columns := ["whole"], refTable := "Task", refColumns := ["id"] }]
  indexes := [{ name := "ix_task", columns := ["whole", "ID"] }]

theorem taskNumber_dropped_behind_covering :
    tasks.Reachable ∧ taskNumber ∈ tasks.columns ∧
      (tasks.dropColumnScript .oracle10g taskNumber).map (Statement.sql ⟨.oracle10g, false⟩) =
        ["DROP INDEX ix_task", "ALTER TABLE task DROP COLUMN id", "DROP SEQUENCE task_id_seq"] ∧
      DropsColumn ⟨.oracle10g, false⟩ tasks taskNumber (tasks.dropColumnScript .oracle10g taskNumber) := by
  have made : tasks.Reachable := by decide +kernel
  have column : taskNumber ∈ tasks.columns := List.mem_cons_self
  exact ⟨made, column, by decide +kernel, dropColumnScript_drops_covering (s := ⟨.oracle10g, false⟩) made column⟩

/-- The key that refers to the whole of a task stays behind when the number of tasks is dropped. -/
theorem taskNumber_referred_to_when_dropped :
    tasks.Reachable ∧ taskNumber ∈ tasks.columns ∧
      (tasks.dropColumnScript .postgresql taskNumber).map (Statement.sql ⟨.postgresql, false⟩) =
        ["DROP INDEX IF EXISTS ix_task", "ALTER TABLE task DROP COLUMN id"] ∧
      ¬DropsConcerned ⟨.postgresql, false⟩ tasks taskNumber (tasks.dropColumnScript .postgresql taskNumber) := by
  have made : tasks.Reachable := by decide +kernel
  refine ⟨made, List.mem_cons_self, by decide +kernel, ?_⟩
  rw [dropsConcerned_iff (s := ⟨.postgresql, false⟩) made]
  decide +kernel

end Table

end SqlSchema
