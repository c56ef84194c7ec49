import SqlSchema.Proofs.Table.Invariant

/-!
# Tables after any edits

Edits may be refused one by one while others go on. An edit is refused exactly when the table would not be well-formed
with what it adds (`edit?_eq_ok_iff`), and then the table stays as it was. So a table without columns grows, by whatever
edits, to a well-formed table of the items of those edits that were accepted, in order (`editAll_new`).
-/

namespace SqlSchema

namespace TableEdit

/-- The column that an edit adds, if it adds one. -/
def column? : TableEdit → Option Column
  | .column c => some c
  | _ => none

/-- The foreign key that an edit adds, if it adds one. -/
def foreignKey? : TableEdit → Option ForeignKey
  | .foreignKey f => some f
  | _ => none

/-- The index that an edit adds, if it adds one. -/
def index? : TableEdit → Option Index
  | .index i => some i
  | _ => none

/-- The unique constraint that an edit adds, if it adds one. -/
def unique? : TableEdit → Option Unique
  | .unique u => some u
  | _ => none

/-- The comment that an edit puts on the table, if it does. -/
def comment? : TableEdit → Option String
  | .comment text => some text
  | _ => none

/-- The text that an edit puts behind the definition, if it does. -/
def tail? : TableEdit → Option String
  | .tail text => some text
  | _ => none

end TableEdit

namespace Table

variable {t changed : Table}

/-- The table with the item of an edit behind those that it has, or with its text, allowed or not. -/
def extend (t : Table) : TableEdit → Table
  | .column c => { t with columns := t.columns ++ [c] }
  | .foreignKey f => { t with foreignKeys := t.foreignKeys ++ [f] }
  | .index i => { t with indexes := t.indexes ++ [i] }
  | .unique u => { t with uniques := t.uniques ++ [u] }
  | .comment text => { t with comment := some text }
  | .tail text => { t with tail := some text }

/-! ### One edit -/

/-- An edit that is accepted does nothing but add its item. -/
theorem eq_extend_of_edit? {e : TableEdit} (h : t.edit? e = .ok changed) : changed = t.extend e := by
  cases e with
  | column c => exact (addColumn_eq_ok_iff.mp h).2.2
  | foreignKey f => exact (addForeignKey_eq_ok_iff.mp h).2.2
  | index i => exact (addIndex_eq_ok_iff.mp h).2
  | unique u => exact (addUnique_eq_ok_iff.mp h).2
  | comment text => exact (Except.ok.inj h).symm
  | tail text => exact (Except.ok.inj h).symm

/-- A constraint of a well-formed table is admitted by the table without it. -/
private theorem WellFormed.admits_of_perm {k : Declared} (h : changed.WellFormed) (name : changed.name = t.name)
    (perm : changed.constraints.Perm (k :: t.constraints)) : t.Admits k := by
  have mem : k ∈ changed.constraints := perm.mem_iff.mpr List.mem_cons_self
  have apart : (k :: t.constraints).Pairwise fun a b => Text.sameName a.name b.name = false :=
    (perm.pairwise_iff fun {a b} other => by rwa [Text.sameName_comm]).mp h.constraints_apart
  obtain ⟨valid, not_table⟩ := h.constraint_valid k mem
  obtain ⟨some_column, columns⟩ := h.constraint_columns k mem
  refine ⟨valid, name ▸ not_table, ?_, some_column, columns⟩
  intro other there
  rw [Text.sameName_comm]
  exact List.rel_of_pairwise_cons apart there

/-- An edit is refused exactly when the table would not be well-formed with its item. -/
theorem edit?_eq_ok_iff {e : TableEdit} (h : t.WellFormed) :
    t.edit? e = .ok changed ↔ changed = t.extend e ∧ changed.WellFormed := by
  constructor
  · intro edited
    exact ⟨eq_extend_of_edit? edited, h.edit? edited⟩
  · rintro ⟨rfl, whole⟩
    cases e with
    | column c =>
      have apart := List.pairwise_append.mp whole.columns_apart
      have new : c ∈ t.columns ++ [c] := by simp
      exact addColumn_eq_ok_iff.mpr
        ⟨fun other mem => apart.2.2 other mem c (by simp), whole.columns_wellFormed c new, rfl⟩
    | foreignKey f =>
      have new : f ∈ t.foreignKeys ++ [f] := by simp
      exact addForeignKey_eq_ok_iff.mpr
        ⟨whole.admits_of_perm rfl (constraints_perm_of_foreignKey f), whole.references f new, rfl⟩
    | index i => exact addIndex_eq_ok_iff.mpr ⟨whole.admits_of_perm rfl (constraints_perm_of_index i), rfl⟩
    | unique u => exact addUnique_eq_ok_iff.mpr ⟨whole.admits_of_perm rfl (constraints_perm_of_unique u), rfl⟩
    | comment text => rfl
    | tail text => rfl

/-- The step from `t` to `changed` is the whole of an edit, or nothing of one that is refused; it is refused if the
table would not be well-formed with its item, and only then. -/
def AllOrNothing (t : Table) (e : TableEdit) (changed : Table) : Prop :=
  t.edit? e = .ok changed ∧ changed = t.extend e ∧ changed.WellFormed ∨
    (∃ why, t.edit? e = .error why) ∧ changed = t ∧ ¬(t.extend e).WellFormed

theorem name_edit (t : Table) (e : TableEdit) : (t.edit e).name = t.name := by
  cases edited : t.edit? e with
  | ok changed =>
    rw [edit_of_ok edited, eq_extend_of_edit? edited]
    cases e <;> rfl
  | error why => rw [edit_of_error edited]

theorem WellFormed.allOrNothing (h : t.WellFormed) (e : TableEdit) : t.AllOrNothing e (t.edit e) := by
  cases edited : t.edit? e with
  | ok changed =>
    rw [edit_of_ok edited]
    exact .inl ⟨edited, (edit?_eq_ok_iff h).mp edited⟩
  | error why =>
    rw [edit_of_error edited]
    refine .inr ⟨⟨why, edited⟩, rfl, fun whole => ?_⟩
    rw [(edit?_eq_ok_iff h).mpr ⟨rfl, whole⟩] at edited
    cases edited

theorem WellFormed.edit (h : t.WellFormed) (e : TableEdit) : (t.edit e).WellFormed := by
  rcases h.allOrNothing e with ⟨-, -, whole⟩ | ⟨-, same, -⟩
  · exact whole
  · rwa [same]

/-! ### Edits none of which is refused -/

variable {es : List TableEdit}

/-- What holds of all parts of a table holds of some of them. -/
private theorem WellFormed.of_sublist (h : changed.WellFormed) (name : changed.name = t.name)
    (columns : t.columns.Sublist changed.columns) (constraints : t.constraints.Sublist changed.constraints)
    (foreignKeys : t.foreignKeys ⊆ changed.foreignKeys) : t.WellFormed where
  name_valid := name ▸ h.name_valid
  columns_wellFormed c mem := h.columns_wellFormed c (columns.subset mem)
  columns_apart := h.columns_apart.sublist columns
  constraint_valid k mem := name ▸ h.constraint_valid k (constraints.subset mem)
  constraint_columns k mem := h.constraint_columns k (constraints.subset mem)
  constraints_apart := h.constraints_apart.sublist constraints
  references f mem := h.references f (foreignKeys mem)

/-- A table that is well-formed with an item is so without it. -/
theorem WellFormed.of_extend {e : TableEdit} (h : (t.extend e).WellFormed) : t.WellFormed := by
  cases e with
  | column c => exact h.of_sublist rfl (List.sublist_append_left _ _) (List.Sublist.refl _) (List.Subset.refl _)
  | foreignKey f =>
    refine h.of_sublist rfl (List.Sublist.refl _) ?_ (List.subset_append_left _ _)
    have more := (List.sublist_append_left t.foreignKeys [f]).map fun g => Declared.mk .foreignKey g.name g.columns
    exact (more.append_right _).append_right _
  | index i =>
    refine h.of_sublist rfl (List.Sublist.refl _) ?_ (List.Subset.refl _)
    have more := (List.sublist_append_left t.indexes [i]).map fun j => Declared.mk .index j.name j.columns
    exact (more.append_left _).append_right _
  | unique u =>
    refine h.of_sublist rfl (List.Sublist.refl _) ?_ (List.Subset.refl _)
    have more := (List.sublist_append_left t.uniques [u]).map fun x => Declared.mk .unique x.name x.columns
    exact more.append_left _
  | comment text => exact h.of_sublist rfl (List.Sublist.refl _) (List.Sublist.refl _) (List.Subset.refl _)
  | tail text => exact h.of_sublist rfl (List.Sublist.refl _) (List.Sublist.refl _) (List.Subset.refl _)

theorem WellFormed.of_foldl_extend (h : (es.foldl extend t).WellFormed) : t.WellFormed := by
  induction es generalizing t with
  | nil => exact h
  | cons e es ih => exact (ih h).of_extend

/-- Edits go through exactly when the table is well-formed with all their items. -/
theorem foldlM_edit?_eq_ok_iff (h : t.WellFormed) :
    es.foldlM edit? t = .ok changed ↔ changed = es.foldl extend t ∧ changed.WellFormed := by
  induction es generalizing t with
  | nil =>
    constructor
    · rintro ⟨rfl⟩
      exact ⟨rfl, h⟩
    · rintro ⟨rfl, -⟩
      rfl
  | cons e es ih =>
    rw [List.foldlM_cons, Outcome.bind_eq_ok_iff, List.foldl_cons]
    constructor
    · rintro ⟨next, edited, rest⟩
      obtain ⟨rfl, whole⟩ := (edit?_eq_ok_iff h).mp edited
      exact (ih whole).mp rest
    · rintro ⟨rfl, whole⟩
      have next : (t.extend e).WellFormed := whole.of_foldl_extend
      exact ⟨_, (edit?_eq_ok_iff h).mpr ⟨rfl, next⟩, (ih next).mpr ⟨rfl, whole⟩⟩

private theorem name_foldl_extend (t : Table) (es : List TableEdit) : (es.foldl extend t).name = t.name := by
  induction es generalizing t with
  | nil => rfl
  | cons e es ih =>
    rw [List.foldl_cons, ih]
    cases e <;> rfl

theorem build?_eq_ok_iff {name : String} :
    build? name es = .ok t ↔ t = es.foldl extend { name } ∧ t.WellFormed := by
  unfold build?
  rw [Outcome.bind_eq_ok_iff]
  constructor
  · rintro ⟨start, new, made⟩
    have whole := wellFormed_of_new? new
    obtain ⟨-, made_of⟩ := Outcome.then_eq_ok_iff.mp new
    cases made_of
    exact (foldlM_edit?_eq_ok_iff whole).mp made
  · rintro ⟨rfl, whole⟩
    have valid : Identifier.Valid name := by
      have named := whole.name_valid
      rwa [name_foldl_extend] at named
    have new := new?_of_valid valid
    exact ⟨_, new, (foldlM_edit?_eq_ok_iff (wellFormed_of_new? new)).mpr ⟨rfl, whole⟩⟩

/-- The parts of a table after edits none of which is refused. -/
theorem foldl_extend (t : Table) (es : List TableEdit) :
    es.foldl extend t =
      { name := t.name
        columns := t.columns ++ es.filterMap TableEdit.column?
        foreignKeys := t.foreignKeys ++ es.filterMap TableEdit.foreignKey?
        indexes := t.indexes ++ es.filterMap TableEdit.index?
        uniques := t.uniques ++ es.filterMap TableEdit.unique?
        comment := (es.filterMap TableEdit.comment?).getLast?.or t.comment
        tail := (es.filterMap TableEdit.tail?).getLast?.or t.tail } := by
  induction es generalizing t with
  | nil => simp
  | cons e es ih =>
    rw [List.foldl_cons, ih]
    cases e <;> simp [extend, TableEdit.column?, TableEdit.foreignKey?, TableEdit.index?, TableEdit.unique?,
      TableEdit.comment?, TableEdit.tail?, List.filterMap_cons, List.getLast?_cons]

/-! ### Edits some of which may be refused -/

/-- The edits that are accepted when they are tried in order. -/
def accepted (t : Table) : List TableEdit → List TableEdit
  | [] => []
  | e :: es =>
    match t.edit? e with
    | .ok changed => e :: changed.accepted es
    | .error _ => t.accepted es

theorem editAll_cons (t : Table) (e : TableEdit) (es : List TableEdit) :
    t.editAll (e :: es) = (t.edit e).editAll es := rfl

theorem editAll_concat (t : Table) (es : List TableEdit) (e : TableEdit) :
    t.editAll (es ++ [e]) = (t.editAll es).edit e := by
  simp [editAll]

theorem WellFormed.editAll (h : t.WellFormed) (es : List TableEdit) : (t.editAll es).WellFormed := by
  induction es generalizing t with
  | nil => exact h
  | cons e es ih => exact ih (h.edit e)

theorem name_editAll (t : Table) (es : List TableEdit) : (t.editAll es).name = t.name := by
  induction es generalizing t with
  | nil => rfl
  | cons e es ih => exact (ih (t.edit e)).trans (name_edit t e)

theorem accepted_sublist (t : Table) (es : List TableEdit) : (t.accepted es).Sublist es := by
  induction es generalizing t with
  | nil => exact .slnil
  | cons e es ih =>
    unfold accepted
    split
    · exact (ih _).cons_cons e
    · exact (ih t).cons e

/-- The accepted edits do the same without the refused ones between them, and none of them is refused. -/
theorem foldlM_accepted (t : Table) (es : List TableEdit) : (t.accepted es).foldlM edit? t = .ok (t.editAll es) := by
  induction es generalizing t with
  | nil => rfl
  | cons e es ih =>
    unfold accepted
    rw [editAll_cons]
    split
    · rename_i changed edited
      rw [List.foldlM_cons, edited, edit_of_ok edited]
      exact ih changed
    · rename_i why edited
      rw [edit_of_error edited]
      exact ih t

/-- What is left of edits are the items of the accepted ones. -/
theorem editAll_eq_foldl_extend (t : Table) (es : List TableEdit) : t.editAll es = (t.accepted es).foldl extend t := by
  induction es generalizing t with
  | nil => rfl
  | cons e es ih =>
    unfold accepted
    rw [editAll_cons, ih]
    split
    · rename_i changed edited
      rw [edit_of_ok edited, List.foldl_cons, ← eq_extend_of_edit? edited]
    · rename_i why edited
      rw [edit_of_error edited]

/-- Of a part of the table to which each edit adds what it has for it, edits make what was there and then what the
accepted ones have for it. -/
private theorem items_editAll {α : Type} (items : Table → List α) (item? : TableEdit → Option α)
    (step : ∀ t e, items (extend t e) = items t ++ (item? e).toList) (t : Table) (es : List TableEdit) :
    items (t.editAll es) = items t ++ (t.accepted es).filterMap item? := by
  rw [editAll_eq_foldl_extend]
  generalize t.accepted es = done
  induction done generalizing t with
  | nil => simp
  | cons e done ih =>
    rw [List.foldl_cons, ih, step]
    cases h : item? e <;> simp [h]

/-- Of a text of the table that each edit may put in the place of the one before, the last accepted one stays. -/
private theorem text_editAll (text : Table → Option String) (text? : TableEdit → Option String)
    (step : ∀ t e, text (extend t e) = (text? e).or (text t)) (t : Table) (es : List TableEdit) :
    text (t.editAll es) = ((t.accepted es).filterMap text?).getLast?.or (text t) := by
  rw [editAll_eq_foldl_extend]
  generalize t.accepted es = done
  induction done generalizing t with
  | nil => simp
  | cons e done ih =>
    rw [List.foldl_cons, ih, step]
    cases h : text? e <;> simp [h, List.getLast?_cons]

/-- What edits, refused ones among them, make of a table without columns. -/
structure GrownBy (name : String) (edits : List TableEdit) (t : Table) : Prop where
  wellFormed : t.WellFormed
  name_eq : t.name = name
  /-- The items are those of the accepted edits, in the order of the edits. -/
  accepted_sublist : (accepted { name } edits).Sublist edits
  columns_eq : t.columns = (accepted { name } edits).filterMap TableEdit.column?
  foreignKeys_eq : t.foreignKeys = (accepted { name } edits).filterMap TableEdit.foreignKey?
  indexes_eq : t.indexes = (accepted { name } edits).filterMap TableEdit.index?
  uniques_eq : t.uniques = (accepted { name } edits).filterMap TableEdit.unique?
  comment_eq : t.comment = ((accepted { name } edits).filterMap TableEdit.comment?).getLast?
  tail_eq : t.tail = ((accepted { name } edits).filterMap TableEdit.tail?).getLast?
  /-- The refused edits leave no trace: the accepted ones alone make the same table. -/
  build?_accepted : build? name (accepted { name } edits) = .ok t
  /-- Each edit is done as a whole or leaves the table exactly as it was. -/
  each : ∀ before e after, edits = before ++ e :: after →
    (editAll { name } before).AllOrNothing e (editAll { name } (before ++ [e]))

/-- Whatever edits are tried on a table without columns, it stays well-formed, its items are those of the accepted
edits in order, and a refused edit changes nothing. -/
theorem editAll_new {name : String} (valid : Identifier.Valid name) (edits : List TableEdit) :
    new? name = .ok { name } ∧ GrownBy name edits (editAll { name } edits) := by
  have new := new?_of_valid valid
  have start : WellFormed { name } := wellFormed_of_new? new
  refine ⟨new, ?_⟩
  constructor
  · exact start.editAll edits
  · exact name_editAll _ edits
  · exact accepted_sublist _ edits
  · exact items_editAll (·.columns) TableEdit.column? (fun t e => by cases e <;> simp [extend, TableEdit.column?]) _ _
  · exact items_editAll (·.foreignKeys) TableEdit.foreignKey?
      (fun t e => by cases e <;> simp [extend, TableEdit.foreignKey?]) _ _
  · exact items_editAll (·.indexes) TableEdit.index? (fun t e => by cases e <;> simp [extend, TableEdit.index?]) _ _
  · exact items_editAll (·.uniques) TableEdit.unique? (fun t e => by cases e <;> simp [extend, TableEdit.unique?]) _ _
  · rw [text_editAll (·.comment) TableEdit.comment? (fun t e => by cases e <;> simp [extend, TableEdit.comment?])]
    exact Option.or_none
  · rw [text_editAll (·.tail) TableEdit.tail? (fun t e => by cases e <;> simp [extend, TableEdit.tail?])]
    exact Option.or_none
  · exact Outcome.bind_eq_ok_iff.mpr ⟨_, new, foldlM_accepted _ edits⟩
  · intro before e after _
    rw [editAll_concat]
    exact (start.editAll before).allOrNothing e

/-- Edits of a table of payments. The second column, the index and the foreign key are refused: a column of that name
is there, the unique constraint has the name, and two columns cannot refer to one. -/
def paymentEdits : List TableEdit :=
  [.column { name := "id", type := .bigint, isIdentity := true }, .column { name := "ID", type := .date },
    .column { name := "amount", type := .decimal, params := { precision := some 9, scale := some 2 } },
    .unique { name := "UQ_Amount", columns := ["amount"] }, .index { name := "uq_amount", columns := ["amount"] },
    .foreignKey { name := "fk_user", columns := ["id", "amount"], refTable := "user", refColumns := ["id"] },
    .comment "in cents", .comment "in full"]

theorem editAll_new_paymentEdits :
    Identifier.Valid "payment" ∧ (accepted { name := "payment" } paymentEdits).length = 5 ∧
      new? "payment" = .ok { name := "payment" } ∧
      GrownBy "payment" paymentEdits (editAll { name := "payment" } paymentEdits) := by
  have checked : Identifier.check "table" "payment" = .ok () := by decide +kernel
  have valid : Identifier.Valid "payment" := Identifier.check_eq_ok_iff.mp checked
  have ⟨new, grown⟩ := editAll_new valid paymentEdits
  exact ⟨valid, by decide +kernel, new, grown⟩

end Table

end SqlSchema
