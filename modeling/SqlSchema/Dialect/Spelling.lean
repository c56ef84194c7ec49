import SqlSchema.Binary64.Write
import SqlSchema.Column
import SqlSchema.Dialect.Basic
import SqlSchema.Dialect.Template

/-!
# Types and values in a dialect

`typeClause` writes a column type with its parameters as a dialect spells it: it fills one of the templates of the
type's rule with parameters that suit the type (`typeClause_eq_ok_iff`). `defaultLiteral` writes the value of a default.
-/

namespace SqlSchema.Dialect

/-- The templates of a rule. -/
def templatesOf (r : TypeRule) : List String := r.template :: (r.overflow.map (·.template)).toList

/-- The template for parameters: the usual one, or the one for lengths beyond its limit. -/
def templateFor (r : TypeRule) (p : TypeParams) : String :=
  match r.overflow, p.length with
  | some o, some length => if o.maxLength < length then o.template else r.template
  | _, _ => r.template

/-- The values of the slots of a type template. -/
def paramSlot (p : TypeParams) : Char → Option String
  | 'l' => p.length.map toString
  | 'p' => p.precision.map toString
  | 's' => p.scale.map toString
  | _ => none

/-- The type clause of a column, or why the column has none. -/
def typeClause (d : Dialect) (t : ColumnType) (p : TypeParams) : Except ModelError String := do
  p.check t
  match d.typeRule? t with
  | none => .error (.unmappedType d.name t)
  | some r => .ok (Template.fill (templateFor r p) (paramSlot p))

/-- The value of a slot is a number. -/
theorem exists_of_paramSlot {p : TypeParams} {letter : Char} {text : String} (h : paramSlot p letter = some text) :
    ∃ n : Nat, text = toString n := by
  have shown : ∀ x : Option Nat, x.map toString = some text → ∃ n : Nat, text = toString n := fun x shown => by
    obtain ⟨n, -, rfl⟩ := Option.map_eq_some_iff.mp shown
    exact ⟨n, rfl⟩
  unfold paramSlot at h
  split at h
  · exact shown _ h
  · exact shown _ h
  · exact shown _ h
  · cases h

/-- The template for lengths beyond the limit is used for them only. -/
theorem templateFor_cases (r : TypeRule) (p : TypeParams) :
    templateFor r p = r.template ∨
      ∃ o l, r.overflow = some o ∧ p.length = some l ∧ o.maxLength < l ∧ templateFor r p = o.template := by
  unfold templateFor
  split
  · rename_i o l spare length
    split
    · rename_i beyond
      exact .inr ⟨o, l, spare, length, beyond, rfl⟩
    · exact .inl rfl
  · exact .inl rfl

theorem templateFor_mem (r : TypeRule) (p : TypeParams) : templateFor r p ∈ templatesOf r := by
  rcases templateFor_cases r p with usual | ⟨o, l, spare, -, -, used⟩
  · rw [usual]
    exact List.mem_cons_self
  · rw [used]
    simp [templatesOf, spare]

theorem typeClause_eq_ok_iff {d : Dialect} {t : ColumnType} {p : TypeParams} {text : String} :
    d.typeClause t p = .ok text ↔
      p.Suitable t ∧ ∃ r, d.typeRule? t = some r ∧ text = Template.fill (templateFor r p) (paramSlot p) := by
  rw [← TypeParams.check_eq_ok_iff]
  unfold typeClause
  constructor
  · intro h
    cases checked : p.check t with
    | error fault =>
      rw [checked] at h
      cases h
    | ok =>
      rw [checked] at h
      cases found : d.typeRule? t with
      | none =>
        rw [found] at h
        cases h
      | some r =>
        rw [found] at h
        cases h
        exact ⟨rfl, r, rfl, rfl⟩
  · rintro ⟨checked, r, found, rfl⟩
    rw [checked, found]
    rfl

/-- The SQL text of a default. -/
def defaultLiteral (d : Dialect) : Default → String
  | .null => "NULL"
  | .boolean b => d.booleanLiteral b
  | .integer n => toString n
  | .float x => x.write
  | .text s => Text.literal s
  | .expression sql => sql

end SqlSchema.Dialect
