import SqlSchema.ModelError

/-!
# Parameters of a column type

The values of length, precision and scale that a column gives to its type. `TypeParams.check` finds the first fault
of the values, if they have one; it finds none exactly when they are `Suitable`: every parameter is as the type needs
it, lengths and precisions are positive, and the scale is at most the precision (`check_eq_ok_iff`).
-/

namespace SqlSchema

/-- The values given to the parameters of a type. -/
structure TypeParams where
  length : Option Nat := none
  precision : Option Nat := none
  scale : Option Nat := none
deriving DecidableEq, Repr, Inhabited

namespace TypeParams

/-- The value of a parameter. -/
def get (p : TypeParams) : Param → Option Nat
  | .length => p.length
  | .precision => p.precision
  | .scale => p.scale

/-- The fault of one parameter. -/
def faultOf (p : TypeParams) (t : ColumnType) (param : Param) : Option ModelError :=
  match t.need param, p.get param with
  | .required, none => some (.missingParam t param)
  | .forbidden, some _ => some (.forbiddenParam t param)
  | _, some 0 => if param = .scale then none else some (.zeroParam t param)
  | _, _ => none

/-- The fault of the scale against the precision. -/
def scaleFault (p : TypeParams) (t : ColumnType) : Option ModelError :=
  match p.precision, p.scale with
  | some precision, some scale =>
    if precision < scale then some (.scaleExceedsPrecision t scale precision) else none
  | _, _ => none

/-- Refuses values that do not suit the type, for the first fault found. -/
def check (p : TypeParams) (t : ColumnType) : Except ModelError Unit :=
  match (Param.all.findSome? (p.faultOf t)).or (p.scaleFault t) with
  | some fault => .error fault
  | none => .ok ()

/-- Values that suit a type. -/
structure Suitable (p : TypeParams) (t : ColumnType) : Prop where
  given : ∀ param, t.need param = .required → (p.get param).isSome
  allowed : ∀ param, t.need param = .forbidden → p.get param = none
  positive : ∀ param, param ≠ .scale → p.get param ≠ some 0
  scale_le : ∀ precision scale, p.precision = some precision → p.scale = some scale → scale ≤ precision

private theorem faultOf_eq_none_iff {p : TypeParams} {t : ColumnType} {param : Param} :
    p.faultOf t param = none ↔
      (t.need param = .required → (p.get param).isSome) ∧ (t.need param = .forbidden → p.get param = none) ∧
        (param ≠ .scale → p.get param ≠ some 0) := by
  unfold faultOf
  cases t.need param <;> rcases p.get param with _ | _ | n <;> cases param <;> simp

private theorem scaleFault_eq_none_iff {p : TypeParams} {t : ColumnType} :
    p.scaleFault t = none ↔
      ∀ precision scale, p.precision = some precision → p.scale = some scale → scale ≤ precision := by
  unfold scaleFault
  cases p.precision <;> cases p.scale <;> simp

theorem check_eq_ok_iff {p : TypeParams} {t : ColumnType} : p.check t = .ok () ↔ p.Suitable t := by
  have faults : (Param.all.findSome? (p.faultOf t)).or (p.scaleFault t) = none ↔
      (∀ param, p.faultOf t param = none) ∧ p.scaleFault t = none := by
    rw [Option.or_eq_none_iff, List.findSome?_eq_none_iff]
    simp [Param.mem_all]
  constructor
  · intro h
    have none_found : (Param.all.findSome? (p.faultOf t)).or (p.scaleFault t) = none := by
      unfold check at h
      split at h
      · cases h
      · assumption
    obtain ⟨each, scale⟩ := faults.mp none_found
    exact ⟨fun q => (faultOf_eq_none_iff.mp (each q)).1, fun q => (faultOf_eq_none_iff.mp (each q)).2.1,
      fun q => (faultOf_eq_none_iff.mp (each q)).2.2, scaleFault_eq_none_iff.mp scale⟩
  · intro h
    have none_found := faults.mpr ⟨fun q => faultOf_eq_none_iff.mpr ⟨h.given q, h.allowed q, h.positive q⟩,
      scaleFault_eq_none_iff.mpr h.scale_le⟩
    simp [check, none_found]

end TypeParams

end SqlSchema
