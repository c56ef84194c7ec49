import SqlSchema.Dialect.Embedded
import SqlSchema.Proofs.Script.Arrangement
import SqlSchema.Proofs.Script.Checks
import SqlSchema.Script.Create

/-!
# No statement comes too early

In the script that creates a set of tables every statement finds what it is about: the sequences of a table stand before
its creation and everything else about the table behind it, a foreign key that is added stands behind the creation of
the table to which it refers, and where foreign keys are part of a definition, the table referred to is created first
(`script_never_refers_forward`).

The script is cut at the creation of a table (`exists_cut`): in front of the cut only sequences and statements about
tables that come earlier in the order of creation stand, and behind it only later tables are created.
-/

namespace SqlSchema

namespace Statement

/-- The table that a statement creates, if it creates one. -/
def created? : Statement → Option String
  | .createTable t _ _ _ => some t
  | _ => none

/-- Whether a statement creates a sequence. -/
def createsSequence : Statement → Bool
  | .createSequence .. => true
  | _ => false

/-- The foreign key that a statement adds to its table, if it adds one. -/
def reference? : Statement → Option ForeignKey
  | .addForeignKey _ _ f => some f
  | _ => none

/-- Whether a statement creates the table of that name. -/
def Creates (name : String) (st : Statement) : Prop := ∃ t, st.created? = some t ∧ Text.sameName t name = true

/-- Whether a statement is about the table of that name and takes it to exist. -/
def BuildsOn (name : String) (st : Statement) : Prop :=
  Text.sameName st.table name = true ∧ st.createsSequence = false ∧ st.created? = none

theorem table_of_created? {st : Statement} {t : String} (h : st.created? = some t) : st.table = t := by
  cases st <;> cases h
  rfl

theorem creates_congr {st : Statement} {a b : String} (h : Text.sameName a b = true) :
    st.Creates a ↔ st.Creates b := by
  constructor
  · rintro ⟨t, created, same⟩
    exact ⟨t, created, Text.sameName_trans same h⟩
  · rintro ⟨t, created, same⟩
    rw [Text.sameName_comm] at h
    exact ⟨t, created, Text.sameName_trans same h⟩

theorem not_creates_of_createsSequence {st : Statement} {name : String} (h : st.createsSequence = true) :
    ¬st.Creates name := by
  rintro ⟨t, created, -⟩
  cases st <;> cases h
  cases created

end Statement

/-- All statements of a script with the property `p` stand before all statements with the property `q`. -/
def Precedes (script : List Statement) (p q : Statement → Prop) : Prop :=
  ∀ (i j : Nat) (a b : Statement), script[i]? = some a → script[j]? = some b → p a → q b → i < j

/-- A script that can be cut behind everything with the property `p` and before everything with the property `q`. -/
theorem precedes_of_cut {front back : List Statement} {p q : Statement → Prop} (hq : ∀ st ∈ front, ¬q st)
    (hp : ∀ st ∈ back, ¬p st) : Precedes (front ++ back) p q := by
  intro i j a b ha hb pa qb
  have hi : i < front.length := by
    by_contra outside
    rw [List.getElem?_append_right (by omega)] at ha
    exact hp a (List.mem_of_getElem? ha) pa
  have hj : front.length ≤ j := by
    by_contra outside
    rw [List.getElem?_append_left (by omega)] at hb
    exact hq b (List.mem_of_getElem? hb) qb
  omega

/-! ### The phases of one table -/

namespace Table

variable {d : Dialect} {t : Table} {p : CreatePhases}

/-- What the phases of a table consist of. -/
theorem eq_of_createPhases (h : t.createPhases d = .ok p) :
    ∃ definitions, t.columns.mapM (fun c => c.definition d t.name false) = .ok definitions ∧
      p = { sequences := t.createSequences d
            tables := .createTable t.name (definitions.map .column ++ t.keyElements d ++ t.foreignKeyElements d)
              (t.tail.or d.tableTail) (if d.comments = .inline then t.comment else none) ::
                (t.keyStatements d ++ t.commentStatements d)
            indexes := t.indexes.map fun i => .createIndex t.name i.name i.columns i.unique
            uniques := t.uniques.map (t.uniqueStatement d)
            foreignKeys := t.foreignKeyStatements d } := by
  obtain ⟨definitions, hd, hp⟩ := Outcome.bind_eq_ok_iff.mp h
  cases hp
  exact ⟨definitions, hd, rfl⟩

theorem sequences_of_createPhases (h : t.createPhases d = .ok p) : p.sequences = t.createSequences d := by
  obtain ⟨definitions, -, rfl⟩ := eq_of_createPhases h
  rfl

theorem tables_of_createPhases (h : t.createPhases d = .ok p) :
    ∃ creation, creation.created? = some t.name ∧ creation.reference? = none ∧
      p.tables = creation :: (t.keyStatements d ++ t.commentStatements d) := by
  obtain ⟨definitions, -, rfl⟩ := eq_of_createPhases h
  exact ⟨_, rfl, rfl, rfl⟩

theorem mem_createSequences {st : Statement} :
    st ∈ t.createSequences d ↔ ∃ create drop default, d.identity = .sequence create drop default ∧
      ∃ c ∈ t.columns, c.isIdentity = true ∧ st = .createSequence create t.name c.name := by
  unfold createSequences
  split
  · rename_i create drop default identity
    simp only [List.mem_map, List.mem_filter]
    constructor
    · rintro ⟨c, ⟨hc, numbered⟩, rfl⟩
      exact ⟨create, drop, default, identity, c, hc, numbered, rfl⟩
    · rintro ⟨_, _, _, same, c, hc, numbered, rfl⟩
      rw [identity] at same
      cases same
      exact ⟨c, ⟨hc, numbered⟩, rfl⟩
  · rename_i other
    constructor
    · intro h
      cases h
    · rintro ⟨create, drop, default, identity, -⟩
      exact absurd identity (other create drop default)

theorem mem_keyStatements {st : Statement} :
    st ∈ t.keyStatements d ↔ ∃ add drop, d.primaryKey = .alter add drop ∧ t.declaresKey d = true ∧
      st = .addPrimaryKey add t.name t.keyNames := by
  unfold keyStatements
  cases placement : d.primaryKey with
  | inline => simp
  | alter add drop => cases declares : t.declaresKey d <;> simp

theorem mem_commentStatements {st : Statement} :
    st ∈ t.commentStatements d ↔ d.comments = .statement ∧ ((∃ text ∈ t.comment, st = .commentOnTable t.name text) ∨
      ∃ c ∈ t.columns, ∃ text ∈ c.comment, st = .commentOnColumn t.name c.name text) := by
  unfold commentStatements
  split
  · rename_i placement
    simp only [List.mem_append, List.mem_map, List.mem_flatMap, Option.mem_toList, Option.mem_def, placement, true_and,
      eq_comm (b := st)]
  · rename_i placement
    simp [placement]

theorem mem_foreignKeyStatements {st : Statement} :
    st ∈ t.foreignKeyStatements d ↔ ∃ add drop, d.foreignKey = .alter add drop ∧
      ∃ f ∈ t.foreignKeys, st = .addForeignKey add t.name f := by
  unfold foreignKeyStatements
  cases placement : d.foreignKey with
  | inline => simp
  | alter add drop => simp [eq_comm]

/-- A statement about a table that neither creates it nor a sequence for it. -/
private def Adds (t : Table) (st : Statement) : Prop :=
  st.table = t.name ∧ st.createsSequence = false ∧ st.created? = none

private theorem adds_of_mem_tables {st : Statement} (h : st ∈ t.keyStatements d ++ t.commentStatements d) :
    t.Adds st ∧ st.reference? = none := by
  rcases List.mem_append.mp h with h | h
  · obtain ⟨_, _, -, -, rfl⟩ := mem_keyStatements.mp h
    exact ⟨⟨rfl, rfl, rfl⟩, rfl⟩
  · obtain ⟨-, ⟨text, -, rfl⟩ | ⟨c, -, text, -, rfl⟩⟩ := mem_commentStatements.mp h <;> exact ⟨⟨rfl, rfl, rfl⟩, rfl⟩

private theorem adds_uniqueStatement (u : Unique) :
    t.Adds (t.uniqueStatement d u) ∧ (t.uniqueStatement d u).reference? = none := by
  unfold uniqueStatement
  split <;> exact ⟨⟨rfl, rfl, rfl⟩, rfl⟩

theorem adds_of_mem_foreignKeyStatements {st : Statement} (h : st ∈ t.foreignKeyStatements d) :
    t.Adds st ∧ ∃ f ∈ t.foreignKeys, st.reference? = some f := by
  obtain ⟨_, _, -, f, hf, rfl⟩ := mem_foreignKeyStatements.mp h
  exact ⟨⟨rfl, rfl, rfl⟩, f, hf, rfl⟩

/-- The statements of a table that stand behind the creation of all tables. -/
private theorem adds_of_mem_later {st : Statement} (h : t.createPhases d = .ok p)
    (hst : st ∈ p.indexes ∨ st ∈ p.uniques ∨ st ∈ p.foreignKeys) :
    t.Adds st ∧ ∀ f, st.reference? = some f → f ∈ t.foreignKeys := by
  obtain ⟨definitions, -, rfl⟩ := eq_of_createPhases h
  rcases hst with hst | hst | hst
  · obtain ⟨i, -, rfl⟩ := List.mem_map.mp hst
    exact ⟨⟨rfl, rfl, rfl⟩, by simp [Statement.reference?]⟩
  · obtain ⟨u, -, rfl⟩ := List.mem_map.mp hst
    refine ⟨(adds_uniqueStatement u).1, ?_⟩
    rw [(adds_uniqueStatement u).2]
    simp
  · obtain ⟨adds, f, hf, reference⟩ := adds_of_mem_foreignKeyStatements hst
    refine ⟨adds, ?_⟩
    rw [reference]
    rintro _ ⟨⟩
    exact hf

end Table

/-! ### The phases of several tables -/

namespace CreatePhases

variable {d : Dialect} {ts : List Table} {ps : List CreatePhases} {st : Statement}

private theorem mem_sequences (h : ts.mapM (Table.createPhases d) = .ok ps) :
    st ∈ ps.flatMap (·.sequences) ↔ ∃ t ∈ ts, st ∈ t.createSequences d := by
  have same : ps.flatMap (·.sequences) = ts.flatMap (Table.createSequences d) :=
    Outcome.flatMap_of_mapM_eq_ok h fun _ _ => Table.sequences_of_createPhases
  rw [same, List.mem_flatMap]

private theorem createsSequence_of_mem_sequences (h : ts.mapM (Table.createPhases d) = .ok ps)
    (hst : st ∈ ps.flatMap (·.sequences)) : st.createsSequence = true := by
  obtain ⟨t, -, hst⟩ := (mem_sequences h).mp hst
  obtain ⟨_, _, _, -, c, -, -, rfl⟩ := Table.mem_createSequences.mp hst
  rfl

/-- A statement of the second phase creates one of the tables or is added to it. -/
private theorem creates_or_adds (h : ts.mapM (Table.createPhases d) = .ok ps) (hst : st ∈ ps.flatMap (·.tables)) :
    st.reference? = none ∧ ∃ t ∈ ts, st.created? = some t.name ∨ t.Adds st := by
  obtain ⟨p, hp, hst⟩ := List.mem_flatMap.mp hst
  obtain ⟨t, ht, phases⟩ := Outcome.exists_of_mem_of_mapM_eq_ok h hp
  obtain ⟨creation, creates, no_key, tables⟩ := Table.tables_of_createPhases phases
  rw [tables] at hst
  rcases List.mem_cons.mp hst with rfl | added
  · exact ⟨no_key, t, ht, .inl creates⟩
  · exact ⟨(Table.adds_of_mem_tables added).2, t, ht, .inr (Table.adds_of_mem_tables added).1⟩

/-- What stands behind the creation of all tables. -/
private def later (ps : List CreatePhases) : List Statement :=
  ps.flatMap (·.indexes) ++ ps.flatMap (·.uniques) ++ ps.flatMap (·.foreignKeys)

private theorem statements_eq (ps : List CreatePhases) :
    statements ps = ps.flatMap (·.sequences) ++ ps.flatMap (·.tables) ++ later ps := by
  simp [statements, later]

private theorem adds_of_mem_later (h : ts.mapM (Table.createPhases d) = .ok ps) (hst : st ∈ later ps) :
    ∃ t ∈ ts, t.Adds st ∧ ∀ f, st.reference? = some f → f ∈ t.foreignKeys := by
  have found : ∃ p ∈ ps, st ∈ p.indexes ∨ st ∈ p.uniques ∨ st ∈ p.foreignKeys := by
    simp only [later, List.mem_append, List.mem_flatMap] at hst
    rcases hst with (⟨p, hp, hst⟩ | ⟨p, hp, hst⟩) | ⟨p, hp, hst⟩
    · exact ⟨p, hp, .inl hst⟩
    · exact ⟨p, hp, .inr (.inl hst)⟩
    · exact ⟨p, hp, .inr (.inr hst)⟩
  obtain ⟨p, hp, hst⟩ := found
  obtain ⟨t, ht, phases⟩ := Outcome.exists_of_mem_of_mapM_eq_ok h hp
  exact ⟨t, ht, Table.adds_of_mem_later phases hst⟩

theorem created_perm (h : ts.mapM (Table.createPhases d) = .ok ps) :
    (statements ps).filterMap Statement.created? = ts.map (·.name) := by
  have sequences : (ps.flatMap (·.sequences)).filterMap Statement.created? = [] := by
    rw [List.filterMap_eq_nil_iff]
    intro st hst
    have sequence := createsSequence_of_mem_sequences h hst
    cases st <;> cases sequence
    rfl
  have tables : (ps.flatMap (·.tables)).filterMap Statement.created? = ts.map (·.name) := by
    rw [List.filterMap_flatMap, List.map_eq_flatMap]
    refine Outcome.flatMap_of_mapM_eq_ok h fun t p hp => ?_
    obtain ⟨creation, creates, -, tables⟩ := Table.tables_of_createPhases hp
    rw [tables, List.filterMap_cons_some creates, List.filterMap_eq_nil_iff.mpr]
    intro st hst
    exact (Table.adds_of_mem_tables hst).1.2.2
  have others : (later ps).filterMap Statement.created? = [] := by
    rw [List.filterMap_eq_nil_iff]
    intro st hst
    obtain ⟨t, -, adds, -⟩ := adds_of_mem_later h hst
    exact adds.2.2
  rw [statements_eq, List.filterMap_append, List.filterMap_append, sequences, tables, others]
  simp

/-- The script cut at the creation of a table. -/
private theorem exists_cut {before after : List Table} {t : Table}
    (h : (before ++ t :: after).mapM (Table.createPhases d) = .ok ps) :
    ∃ front creation back, statements ps = front ++ creation :: back ∧ creation.created? = some t.name ∧
      (∀ st ∈ front, st.createsSequence = true ∨ ∃ u ∈ before, st.table = u.name) ∧
      ∀ st ∈ back, st.createsSequence = false ∧ ∀ n, st.created? = some n → ∃ u ∈ after, n = u.name := by
  obtain ⟨us, p, ws, rfl, hu, hp, hw⟩ := Outcome.mapM_append_cons_eq_ok h
  obtain ⟨creation, creates, -, tables⟩ := Table.tables_of_createPhases hp
  -- the cut goes through the second phase, so all sequences are in front of it
  refine ⟨(us ++ p :: ws).flatMap (·.sequences) ++ us.flatMap (·.tables), creation,
    t.keyStatements d ++ t.commentStatements d ++ ws.flatMap (·.tables) ++ later (us ++ p :: ws), ?_, creates, ?_, ?_⟩
  · simp [statements_eq, tables]
  · intro st hst
    rcases List.mem_append.mp hst with hst | hst
    · exact .inl (createsSequence_of_mem_sequences h hst)
    · obtain ⟨-, u, hu, creates | adds⟩ := creates_or_adds hu hst
      · exact .inr ⟨u, hu, Statement.table_of_created? creates⟩
      · exact .inr ⟨u, hu, adds.1⟩
  · intro st hst
    rcases List.mem_append.mp hst with hst | hst
    · rcases List.mem_append.mp hst with hst | hst
      · obtain ⟨adds, -⟩ := Table.adds_of_mem_tables hst
        exact ⟨adds.2.1, by simp [adds.2.2]⟩
      · obtain ⟨-, u, hu, creates | adds⟩ := creates_or_adds hw hst
        · refine ⟨?_, fun n hn => ⟨u, hu, ?_⟩⟩
          · cases st <;> cases creates
            rfl
          · rw [creates] at hn
            exact (Option.some.inj hn).symm
        · exact ⟨adds.2.1, by simp [adds.2.2]⟩
    · obtain ⟨u, -, adds, -⟩ := adds_of_mem_later h hst
      exact ⟨adds.2.1, by simp [adds.2.2]⟩

end CreatePhases

/-! ### The script of a set of tables -/

namespace Schema

/-- What a script satisfies in which no statement comes before what it is about. -/
structure NeverRefersForward (d : Dialect) (tables : List Table) (script : List Statement) : Prop where
  /-- Each table is created once, and nothing else is. -/
  created_perm : (script.filterMap Statement.created?).Perm (tables.map (·.name))
  /-- The sequences of the identity columns stand before the creation of their table. -/
  sequences_first : ∀ create drop default, d.identity = .sequence create drop default → ∀ t ∈ tables,
    ∀ c ∈ t.columns, c.isIdentity = true → .createSequence create t.name c.name ∈ script ∧
      Precedes script (· = .createSequence create t.name c.name) (Statement.Creates t.name)
  /-- All that builds on a table stands behind its creation. -/
  table_first : ∀ t ∈ tables, Precedes script (Statement.Creates t.name) (Statement.BuildsOn t.name)
  /-- A foreign key that is added stands behind the creation of the table to which it refers. -/
  referenced_first : ∀ st ∈ script, ∀ f, st.reference? = some f →
    (∃ r ∈ tables, Text.sameName r.name f.refTable = true) ∧
      Precedes script (Statement.Creates f.refTable) (·.reference? = some f)
  /-- Where foreign keys are part of a definition, the other tables to which a table refers are created before it. -/
  inline_first : d.foreignKey = .inline → ∀ t ∈ tables, ∀ f ∈ t.foreignKeys,
    Text.sameName f.refTable t.name = false → (∃ r ∈ tables, Text.sameName r.name f.refTable = true) ∧
      Precedes script (Statement.Creates f.refTable) (Statement.Creates t.name)

variable {d : Dialect} {tables : List Table}

theorem creationOrder_perm {ordered : List Table} (h : creationOrder d tables = .ok ordered) :
    ordered.Perm tables := by
  unfold creationOrder at h
  split at h
  · split at h
    · rename_i order arranged
      cases h
      exact pick_dependencyOrder_perm arranged
    · cases h
  · cases h
    exact List.Perm.refl _

theorem namesApart_of_perm {ordered : List Table} (h : NamesApart tables) (perm : ordered.Perm tables) :
    NamesApart ordered :=
  (perm.pairwise_iff fun {t u} apart => by rwa [Text.sameName_comm]).mpr h

/-- What the script of a set of tables is made of. -/
theorem exists_of_create {script : List Statement} (h : create d tables = .ok script) :
    check d tables = .ok () ∧ ∃ ordered ps, creationOrder d tables = .ok ordered ∧
      ordered.mapM (Table.createPhases d) = .ok ps ∧ script = CreatePhases.statements ps := by
  unfold create at h
  rw [Outcome.then_eq_ok_iff, Outcome.bind_eq_ok_iff] at h
  obtain ⟨checked, ordered, order, h⟩ := h
  obtain ⟨ps, phases, h⟩ := Outcome.bind_eq_ok_iff.mp h
  cases h
  exact ⟨checked, ordered, ps, order, phases, rfl⟩

section Cut

variable {before after : List Table} {t : Table} {ps : List CreatePhases}

/-- The script cut at the creation of a table: in front of it nothing is done with the table but the creation of its
sequences, and behind it neither the table nor an earlier one is created. -/
private theorem exists_cut (apart : NamesApart (before ++ t :: after))
    (h : (before ++ t :: after).mapM (Table.createPhases d) = .ok ps) :
    ∃ front creation back, CreatePhases.statements ps = front ++ creation :: back ∧
      creation.created? = some t.name ∧ (∀ st ∈ front, ¬st.Creates t.name ∧ ¬st.BuildsOn t.name) ∧
      ∀ st ∈ back, st.createsSequence = false ∧ ∀ r ∈ before ++ [t], ¬st.Creates r.name := by
  obtain ⟨front, creation, back, cut, creates, in_front, behind⟩ := CreatePhases.exists_cut h
  -- the cut is one by positions, and as names differ it is one by names
  obtain ⟨-, later, earlier⟩ := List.pairwise_append.mp apart
  refine ⟨front, creation, back, cut, creates, ?_, ?_⟩
  · intro st hst
    rcases in_front st hst with sequence | ⟨u, hu, about⟩
    · refine ⟨Statement.not_creates_of_createsSequence sequence, fun builds => ?_⟩
      cases sequence.symm.trans builds.2.1
    · have other : Text.sameName u.name t.name = false := earlier u hu t (by simp)
      rw [← about] at other
      refine ⟨?_, ?_⟩
      · rintro ⟨n, created, same⟩
        rw [← Statement.table_of_created? created, other] at same
        cases same
      · intro builds
        rw [builds.1] at other
        cases other
  · intro st hst
    obtain ⟨no_sequence, created_later⟩ := behind st hst
    refine ⟨no_sequence, ?_⟩
    rintro r hr ⟨n, created, same⟩
    obtain ⟨u, hu, rfl⟩ := created_later n created
    have other : Text.sameName r.name u.name = false := by
      rcases List.mem_append.mp hr with hr | hr
      · exact earlier r hr u (by simp [hu])
      · rw [List.mem_singleton] at hr
        subst hr
        exact List.rel_of_pairwise_cons later hu
    rw [Text.sameName_comm, same] at other
    cases other

private theorem sequence_precedes_creation (apart : NamesApart (before ++ t :: after))
    (h : (before ++ t :: after).mapM (Table.createPhases d) = .ok ps) (create column : String) :
    Precedes (CreatePhases.statements ps) (· = .createSequence create t.name column) (Statement.Creates t.name) := by
  obtain ⟨front, creation, back, cut, creates, in_front, behind⟩ := exists_cut apart h
  rw [cut]
  refine precedes_of_cut (fun st hst => (in_front st hst).1) ?_
  rintro st hst rfl
  rcases List.mem_cons.mp hst with rfl | hst
  · cases creates
  · cases (behind _ hst).1

private theorem creation_precedes_rest (apart : NamesApart (before ++ t :: after))
    (h : (before ++ t :: after).mapM (Table.createPhases d) = .ok ps) :
    Precedes (CreatePhases.statements ps) (Statement.Creates t.name) (Statement.BuildsOn t.name) := by
  obtain ⟨front, creation, back, cut, creates, in_front, behind⟩ := exists_cut apart h
  rw [cut, List.append_cons]
  refine precedes_of_cut ?_ fun st hst => (behind st hst).2 t (by simp)
  intro st hst builds
  rcases List.mem_append.mp hst with hst | hst
  · exact (in_front st hst).2 builds
  · rw [List.mem_singleton] at hst
    subst hst
    rw [builds.2.2] at creates
    cases creates

private theorem creation_precedes_later_creation (apart : NamesApart (before ++ t :: after))
    (h : (before ++ t :: after).mapM (Table.createPhases d) = .ok ps) {r : Table} (hr : r ∈ before) :
    Precedes (CreatePhases.statements ps) (Statement.Creates r.name) (Statement.Creates t.name) := by
  obtain ⟨front, creation, back, cut, creates, in_front, behind⟩ := exists_cut apart h
  rw [cut]
  refine precedes_of_cut (fun st hst => (in_front st hst).1) ?_
  intro st hst
  rcases List.mem_cons.mp hst with rfl | hst
  · rintro ⟨n, created, same⟩
    rw [creates] at created
    cases created
    have other := (List.pairwise_append.mp apart).2.2 r hr t (by simp)
    rw [Text.sameName_comm, same] at other
    cases other
  · exact (behind st hst).2 r (by simp [hr])

end Cut

private theorem reference?_of_mem_phases {ordered : List Table} {ps : List CreatePhases}
    (h : ordered.mapM (Table.createPhases d) = .ok ps) {st : Statement}
    (hst : st ∈ ps.flatMap (·.sequences) ++ ps.flatMap (·.tables)) : st.reference? = none := by
  rcases List.mem_append.mp hst with hst | hst
  · have sequence := CreatePhases.createsSequence_of_mem_sequences h hst
    cases st <;> cases sequence
    rfl
  · exact (CreatePhases.creates_or_adds h hst).1

private theorem creation_precedes_reference {ordered : List Table} {ps : List CreatePhases}
    (h : ordered.mapM (Table.createPhases d) = .ok ps) (name : String) (f : ForeignKey) :
    Precedes (CreatePhases.statements ps) (Statement.Creates name) (·.reference? = some f) := by
  rw [CreatePhases.statements_eq]
  refine precedes_of_cut ?_ ?_
  · intro st hst reference
    rw [reference?_of_mem_phases h hst] at reference
    cases reference
  · rintro st hst ⟨n, created, -⟩
    obtain ⟨t, -, adds, -⟩ := CreatePhases.adds_of_mem_later h hst
    rw [adds.2.2] at created
    cases created

/-- A foreign key that the script adds is declared by one of the tables. -/
private theorem declared_of_reference {ordered : List Table} {ps : List CreatePhases}
    (h : ordered.mapM (Table.createPhases d) = .ok ps) {st : Statement} (hst : st ∈ CreatePhases.statements ps)
    {f : ForeignKey} (reference : st.reference? = some f) : ∃ t ∈ ordered, f ∈ t.foreignKeys := by
  rw [CreatePhases.statements_eq] at hst
  rcases List.mem_append.mp hst with hst | hst
  · rw [reference?_of_mem_phases h hst] at reference
    cases reference
  · obtain ⟨t, ht, -, keys⟩ := CreatePhases.adds_of_mem_later h hst
    exact ⟨t, ht, keys f reference⟩

/-- Where foreign keys are part of a definition, the tables come in an order in which the others to which a table refers
are created before it. -/
private theorem creation_precedes_referring {ordered : List Table} {ps : List CreatePhases}
    (order : creationOrder d tables = .ok ordered) (inline : d.foreignKey = .inline) (apart : NamesApart ordered)
    (phases : ordered.mapM (Table.createPhases d) = .ok ps) {t r : Table} (ht : t ∈ tables) {f : ForeignKey}
    (hf : f ∈ t.foreignKeys) (found : table? tables f.refTable = some r)
    (other : Text.sameName f.refTable t.name = false) :
    Precedes (CreatePhases.statements ps) (Statement.Creates f.refTable) (Statement.Creates t.name) := by
  obtain ⟨-, same⟩ := mem_of_table? found
  have distinct : Text.sameName r.name t.name = false := by
    by_contra taken
    rw [Bool.not_eq_false, Text.sameName_comm] at taken
    rw [Text.sameName_comm, Text.sameName_trans taken same] at other
    cases other
  rw [creationOrder, if_pos inline] at order
  split at order
  · rename_i positions arranged
    cases order
    obtain ⟨before, after, split, earlier⟩ := referenced_before arranged ht
    rw [split] at apart phases
    have precedes := creation_precedes_later_creation apart phases (earlier f hf r found distinct)
    intro i j a b ha hb creates creates'
    exact precedes i j a b ha hb ((Statement.creates_congr same).mpr creates) creates'
  · cases order

private theorem neverRefersForward_of_create {script : List Statement} (h : create d tables = .ok script) :
    NeverRefersForward d tables script := by
  obtain ⟨checked, ordered, ps, order, phases, rfl⟩ := exists_of_create h
  obtain ⟨apart, each⟩ := check_eq_ok_iff.mp checked
  have perm : ordered.Perm tables := creationOrder_perm order
  have ordered_apart : NamesApart ordered := namesApart_of_perm apart perm
  have referenced : ∀ t ∈ tables, ∀ f ∈ t.foreignKeys, ∃ r, table? tables f.refTable = some r := by
    intro t ht f hf
    obtain ⟨r, found, -⟩ := (each t ht).2 f hf
    exact ⟨r, found⟩
  constructor
  · rw [CreatePhases.created_perm phases]
    exact perm.map _
  · intro create drop default identity t ht c hc numbered
    obtain ⟨before, after, rfl⟩ := List.append_of_mem (perm.mem_iff.mpr ht)
    refine ⟨?_, sequence_precedes_creation ordered_apart phases create c.name⟩
    have sequence := (CreatePhases.mem_sequences phases).mpr ⟨t, by simp, Table.mem_createSequences.mpr
      ⟨create, drop, default, identity, c, hc, numbered, rfl⟩⟩
    rw [CreatePhases.statements_eq]
    exact List.mem_append_left _ (List.mem_append_left _ sequence)
  · intro t ht
    obtain ⟨before, after, rfl⟩ := List.append_of_mem (perm.mem_iff.mpr ht)
    exact creation_precedes_rest ordered_apart phases
  · intro st hst f reference
    obtain ⟨t, ht, hf⟩ := declared_of_reference phases hst reference
    obtain ⟨r, found⟩ := referenced t (perm.mem_iff.mp ht) f hf
    exact ⟨⟨r, mem_of_table? found⟩, creation_precedes_reference phases f.refTable f⟩
  · intro inline t ht f hf other
    obtain ⟨r, found⟩ := referenced t ht f hf
    exact ⟨⟨r, mem_of_table? found⟩,
      creation_precedes_referring order inline ordered_apart phases ht hf found other⟩

/-- People, whom the engine numbers. -/
def people : Table where
  name := "person"
  columns := [{ name := "id", type := .bigint, nullable := false, inKey := true, isIdentity := true }]
  comment := some "who buys"

/-- Orders of people, some of which follow an earlier order. The table has a reserved word for its name. -/
def orders : Table where
  name := "order"
  columns :=
    [{ name := "id", type := .bigint, nullable := false, inKey := true }, { name := "buyer", type := .bigint },
      { name := "earlier", type := .bigint }]
  foreignKeys :=
    [{ name := "fk_buyer", columns := ["buyer"], refTable := "PERSON", refColumns := ["ID"] },
      { name := "fk_earlier", columns := ["earlier"], refTable := "Order", refColumns := ["id"] }]
  indexes := [{ name := "ix_buyer", columns := ["BUYER"] }]

/-- In the script that creates a set of tables, whatever the style it is written in, no statement comes before what it
is about. -/
theorem script_never_refers_forward {s : Style} {texts : List String} (h : createSql s tables = .ok texts) :
    ∃ script, create s.dialect tables = .ok script ∧ texts = script.map (Statement.sql s) ∧
      NeverRefersForward s.dialect tables script := by
  obtain ⟨script, created, written⟩ := Outcome.map_eq_ok_iff.mp h
  exact ⟨script, created, written.symm, neverRefersForward_of_create created⟩

theorem script_of_orders_never_refers_forward :
    ∃ texts, createSql ⟨.duckdb, true⟩ [orders, people] = .ok texts ∧ texts.length = 5 ∧
      ∃ script, create .duckdb [orders, people] = .ok script ∧ texts = script.map (Statement.sql ⟨.duckdb, true⟩) ∧
        NeverRefersForward .duckdb [orders, people] script := by
  have created : (createSql ⟨.duckdb, true⟩ [orders, people]).map List.length = .ok 5 := by decide +kernel
  obtain ⟨texts, h, five⟩ := Outcome.map_eq_ok_iff.mp created
  have ordered := script_never_refers_forward h
  exact ⟨texts, h, five, ordered⟩

end Schema

end SqlSchema
