import SqlSchema.Column
import SqlSchema.Proofs.Outcome

/-!
# Columns after any edits

Of each part of a column the last edit about it decides (`madeBy_edits`). The key and the identity cannot be taken back,
and a column that is accepted is well-formed whatever the order of its edits. The exception is a column of the primary
key: it takes no NULL unless an edit allows NULL behind all edits that forbid it (`accepted_edits_sound`).
-/

namespace SqlSchema

namespace ColumnEdit

/-- What an edit sets a parameter of the type to, if it does. -/
def param? (param : Param) : ColumnEdit → Option (Option Nat)
  | .length n => if param = .length then some (some n) else none
  | .precision n => if param = .precision then some (some n) else none
  | .scale n => if param = .scale then some (some n) else none
  | .params p => some (p.get param)
  | _ => none

/-- The default that an edit gives, if it gives one. -/
def default? : ColumnEdit → Option Default
  | .default value => some value
  | _ => none

/-- The comment that an edit puts on the column, if it does. -/
def comment? : ColumnEdit → Option String
  | .comment text => some text
  | _ => none

/-- The condition that an edit puts on the values, if it does. -/
def check? : ColumnEdit → Option String
  | .check sql => some sql
  | _ => none

/-- The edits allow NULL behind all those that forbid it. -/
def AllowNull (es : List ColumnEdit) : Prop :=
  ∃ before after, es = before ++ .nullable :: after ∧ .notNull ∉ after ∧ .inKey ∉ after

theorem allowNull_cons {e : ColumnEdit} {es : List ColumnEdit} :
    AllowNull (e :: es) ↔ e = .nullable ∧ .notNull ∉ es ∧ .inKey ∉ es ∨ AllowNull es := by
  constructor
  · rintro ⟨before, after, split, free⟩
    cases before with
    | nil =>
      obtain ⟨rfl, rfl⟩ := List.cons.inj split
      exact .inl ⟨rfl, free⟩
    | cons b before =>
      obtain ⟨rfl, rfl⟩ := List.cons.inj split
      exact .inr ⟨before, after, rfl, free⟩
  · rintro (⟨rfl, free⟩ | ⟨before, after, rfl, free⟩)
    · exact ⟨[], es, rfl, free⟩
    · exact ⟨e :: before, after, rfl, free⟩

end ColumnEdit

namespace Column

variable {name : String} {type : ColumnType} {es : List ColumnEdit}

theorem edits_cons (c : Column) (e : ColumnEdit) (es : List ColumnEdit) :
    c.edits (e :: es) = (c.edit e).edits es := rfl

/-- Of a part of the column that each edit sets or leaves alone, the last edit that sets it decides. -/
private theorem part_edits {α : Type} (part : Column → α) (set? : ColumnEdit → Option α)
    (step : ∀ c e, part (edit c e) = (set? e).getD (part c)) (c : Column) (es : List ColumnEdit) :
    part (c.edits es) = (es.filterMap set?).getLast?.getD (part c) := by
  induction es generalizing c with
  | nil => rfl
  | cons e es ih =>
    rw [edits_cons, ih, step]
    cases h : set? e <;> simp [h, List.getLast?_cons]

/-- Of a part that edits give and that none takes away, the last one given is there. -/
private theorem given_edits {α : Type} (part : Column → Option α) (given? : ColumnEdit → Option α)
    (step : ∀ c e, part (edit c e) = (given? e).or (part c)) (c : Column) (es : List ColumnEdit) :
    part (c.edits es) = (es.filterMap given?).getLast?.or (part c) := by
  have last := part_edits part (fun e => (given? e).map some)
    (fun c e => by rw [step]; cases given? e <;> rfl) c es
  rw [last, ← List.map_filterMap, List.getLast?_map]
  cases (es.filterMap given?).getLast? <;> rfl

/-- A mark that edits set and that none takes away is there once an edit has set it. -/
private theorem mark_edits (mark : Column → Bool) (e : ColumnEdit)
    (step : ∀ c f, mark (edit c f) = true ↔ f = e ∨ mark c = true) (c : Column) (es : List ColumnEdit) :
    mark (c.edits es) = true ↔ e ∈ es ∨ mark c = true := by
  induction es generalizing c with
  | nil => simp [edits]
  | cons f es ih =>
    rw [edits_cons, ih, step, List.mem_cons, eq_comm (a := e)]
    exact or_left_comm.trans or_assoc.symm

/-- A column takes NULL if its edits allow it in the end, or if it did before and none forbids it. -/
theorem nullable_edits (c : Column) (es : List ColumnEdit) :
    (c.edits es).nullable = true ↔
      ColumnEdit.AllowNull es ∨ c.nullable = true ∧ .notNull ∉ es ∧ .inKey ∉ es := by
  induction es generalizing c with
  | nil => simp [edits, ColumnEdit.AllowNull]
  | cons e es ih =>
    rw [edits_cons, ih, ColumnEdit.allowNull_cons]
    cases e with
    | nullable =>
      simp only [edit, true_and]
      constructor
      · rintro (later | free)
        · exact .inl (.inr later)
        · exact .inl (.inl free)
      · rintro ((free | later) | ⟨-, forbidden⟩)
        · exact .inr free
        · exact .inl later
        · exact .inr ⟨fun mem => forbidden.1 (List.mem_cons_of_mem _ mem),
            fun mem => forbidden.2 (List.mem_cons_of_mem _ mem)⟩
    | _ => simp [edit]

/-- What edits, in whatever order, make of a new column. -/
structure MadeBy (name : String) (type : ColumnType) (es : List ColumnEdit) (c : Column) : Prop where
  name_eq : c.name = name
  type_eq : c.type = type
  params_eq : ∀ param, c.params.get param = (es.filterMap (ColumnEdit.param? param)).getLast?.join
  inKey_iff : c.inKey = true ↔ .inKey ∈ es
  isIdentity_iff : c.isIdentity = true ↔ .identity ∈ es
  default_eq : c.default = (es.filterMap ColumnEdit.default?).getLast?
  comment_eq : c.comment = (es.filterMap ColumnEdit.comment?).getLast?
  check_eq : c.check = (es.filterMap ColumnEdit.check?).getLast?
  nullable_iff : c.nullable = true ↔ ColumnEdit.AllowNull es ∨ .notNull ∉ es ∧ .inKey ∉ es

private theorem name_edits (c : Column) (es : List ColumnEdit) : (c.edits es).name = c.name := by
  induction es generalizing c with
  | nil => rfl
  | cons e es ih => exact (ih (c.edit e)).trans (by cases e <;> rfl)

private theorem type_edits (c : Column) (es : List ColumnEdit) : (c.edits es).type = c.type := by
  induction es generalizing c with
  | nil => rfl
  | cons e es ih => exact (ih (c.edit e)).trans (by cases e <;> rfl)

theorem madeBy_edits (name : String) (type : ColumnType) (es : List ColumnEdit) :
    MadeBy name type es ((new name type).edits es) := by
  constructor
  · exact name_edits _ es
  · exact type_edits _ es
  · intro param
    rw [part_edits (fun c => c.params.get param) (ColumnEdit.param? param)
      (fun c e => by cases e <;> cases param <;> rfl)]
    cases param <;> cases (es.filterMap (ColumnEdit.param? _)).getLast? <;> rfl
  · rw [mark_edits (·.inKey) .inKey (fun c e => by cases e <;> simp [edit])]
    simp [new]
  · rw [mark_edits (·.isIdentity) .identity (fun c e => by cases e <;> simp [edit])]
    simp [new]
  · rw [given_edits (·.default) ColumnEdit.default? (fun c e => by cases e <;> rfl)]
    exact Option.or_none
  · rw [given_edits (·.comment) ColumnEdit.comment? (fun c e => by cases e <;> rfl)]
    exact Option.or_none
  · rw [given_edits (·.check) ColumnEdit.check? (fun c e => by cases e <;> rfl)]
    exact Option.or_none
  · rw [nullable_edits]
    simp [new]

/-- A column is accepted exactly if the edits, in whatever order, make a well-formed one. If it is in the primary key it
takes no NULL, unless its edits allow NULL in the end. -/
theorem accepted_edits_sound (name : String) (type : ColumnType) (es : List ColumnEdit) :
    (((new name type).edits es).accept = .ok () ↔ ((new name type).edits es).WellFormed) ∧
      MadeBy name type es ((new name type).edits es) ∧
      (((new name type).edits es).inKey = true →
        (((new name type).edits es).nullable = false ↔ ¬ColumnEdit.AllowNull es)) := by
  have made := madeBy_edits name type es
  refine ⟨accept_eq_ok_iff, made, ?_⟩
  intro key
  have forbidden := made.inKey_iff.mp key
  rw [← Bool.not_eq_true, made.nullable_iff, or_iff_left fun free => free.2 forbidden]

/-- A column of the primary key is accepted that takes NULL. -/
theorem key_allows_null_again :
    ((new "id" .integer).edits [.inKey, .nullable]).accept = .ok () ∧
      (new "id" .integer).edits [.inKey, .nullable] =
        { name := "id", type := .integer, nullable := true, inKey := true } := by
  decide +kernel

/-- The other way round the same two edits forbid NULL. -/
example : (new "id" .integer).edits [.nullable, .inKey] =
    { name := "id", type := .integer, nullable := false, inKey := true } := by
  rfl

end Column

end SqlSchema
