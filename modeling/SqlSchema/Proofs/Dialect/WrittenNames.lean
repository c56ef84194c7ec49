import SqlSchema.Script.Check

/-!
# Names that are written alike

What a statement shows of a name is, case aside, its `writtenKey`, between delimiters if names are quoted
(`lower_render`). Names that are the same in the model are therefore the same in statements, and names that are the same
in statements have one key (`sameName_render_iff`). Where the dialect folds the names it quotes, they are then written
with the same letters (`render_eq_of_sameName`).
-/

namespace SqlSchema

/-! ### Case -/

namespace Text

theorem upper_eq_of_sameName {a b : String} (h : sameName a b = true) : upper a = upper b := by
  rw [← upper_lower a, ← upper_lower b, sameName_iff.mp h]

/-- A character is doubled before its case is changed or after, if its case does not matter. -/
theorem double_map {f : Char → Char} {c : Char} (alone : ∀ x, f x = c ↔ x = c) (cs : List Char) :
    double c (cs.map f) = (double c cs).map f := by
  have fixed : f c = c := (alone c).mpr rfl
  induction cs with
  | nil => rfl
  | cons x cs ih =>
    rw [List.map_cons, double_cons, double_cons, ih, List.map_append]
    by_cases same : x = c
    · rw [if_pos same, if_pos ((alone x).mpr same), List.map_cons, List.map_singleton, fixed]
    · rw [if_neg same, if_neg (fun h => same ((alone x).mp h)), List.map_singleton]

theorem double_injective (c : Char) : Function.Injective (double c) := by
  intro cs ds h
  induction cs generalizing ds with
  | nil =>
    cases ds with
    | nil => rfl
    | cons y ds =>
      rw [double_nil, double_cons] at h
      split at h <;> simp at h
  | cons x cs ih =>
    cases ds with
    | nil =>
      rw [double_nil, double_cons] at h
      split at h <;> simp at h
    | cons y ds =>
      rw [double_cons, double_cons] at h
      by_cases hx : x = c
      · by_cases hy : y = c
        · rw [if_pos hx, if_pos hy] at h
          rw [hx, hy, ih (List.append_cancel_left h)]
        · rw [if_pos hx, if_neg hy] at h
          exact absurd (List.cons.inj h).1.symm hy
      · by_cases hy : y = c
        · rw [if_neg hx, if_pos hy] at h
          exact absurd (List.cons.inj h).1 hx
        · rw [if_neg hx, if_neg hy] at h
          obtain ⟨same, rest⟩ := List.cons.inj h
          rw [same, ih rest]

private theorem delimited_map {f : Char → Char} {opening closing : Char} (first : f opening = opening)
    (alone : ∀ x, f x = closing ↔ x = closing) (cs : List Char) :
    delimited opening closing (cs.map f) = (delimited opening closing cs).map f := by
  rw [delimited, delimited, double_map alone, List.map_cons, List.map_append, List.map_singleton, first,
    (alone closing).mpr rfl]

theorem toLower_eq_iff {c : Char} (other : c.isAlpha = false) (x : Char) : x.toLower = c ↔ x = c := by
  constructor
  · rintro rfl
    have kept : x.toLower.isAlpha = false → x.toLower = x :=
      forall_of_ascii (p := fun x => x.toLower.isAlpha = false → x.toLower = x) (by decide)
        (fun _ wide _ => toLower_of_wide wide) x
    exact (kept other).symm
  · rintro rfl
    exact toLower_of_isUpper_eq_false (Bool.or_eq_false_iff.mp other).1

end Text

/-! ### Delimiters -/

namespace QuoteStyle

variable (style : QuoteStyle)

theorem isAlpha_opening : style.opening.isAlpha = false := by
  cases style <;> decide

theorem isAlpha_closing : style.closing.isAlpha = false := by
  cases style <;> decide

theorem lower_quote (name : String) : Text.lower (style.quote name) = style.quote (Text.lower name) := by
  rw [← String.toList_inj, Text.toList_lower, toList_quote, toList_quote, Text.toList_lower]
  exact (Text.delimited_map ((Text.toLower_eq_iff style.isAlpha_opening _).mpr rfl)
    (Text.toLower_eq_iff style.isAlpha_closing) _).symm

theorem quote_injective : Function.Injective style.quote := by
  intro a b h
  have texts := congrArg String.toList h
  simp only [toList_quote, Text.delimited, List.cons.injEq, List.append_cancel_right_eq, true_and] at texts
  exact String.toList_inj.mp (Text.double_injective _ texts)

end QuoteStyle

/-! ### Names in statements -/

namespace Dialect

variable {d : Dialect} {quoted : Bool} {a b : String}

theorem isReserved_eq_of_sameName (h : Text.sameName a b = true) : d.isReserved a = d.isReserved b := by
  rw [isReserved, isReserved, ReservedWords.contains, ReservedWords.contains, Text.upper_eq_of_sameName h]

/-- Names that are the same in the model are the same in statements. -/
theorem writtenKey_eq_of_sameName (h : Text.sameName a b = true) : d.writtenKey a = d.writtenKey b := by
  unfold writtenKey escape
  rw [Text.sameName_iff.mp h, isReserved_eq_of_sameName h]
  split
  · exact Text.sameName_iff.mp h
  · rw [Text.lower_append, Text.lower_append, Text.sameName_iff.mp h]

private theorem lower_fold (name : String) : Text.lower (d.fold name) = Text.lower name := by
  unfold fold
  split
  · rfl
  · exact Text.lower_upper name
  · exact Text.lower_lower name

/-- What is written of a name, case aside. -/
theorem lower_render (name : String) :
    Text.lower (d.render quoted name) = if quoted then d.quote.quote (d.writtenKey name) else d.writtenKey name := by
  unfold render
  cases quoted with
  | true => rw [if_pos rfl, if_pos rfl, QuoteStyle.lower_quote, lower_fold, writtenKey]
  | false => rw [if_neg Bool.false_ne_true, if_neg Bool.false_ne_true, writtenKey]

theorem sameName_render_iff :
    Text.sameName (d.render quoted a) (d.render quoted b) = true ↔ d.writtenKey a = d.writtenKey b := by
  rw [Text.sameName_iff, lower_render, lower_render]
  cases quoted with
  | true => exact d.quote.quote_injective.eq_iff
  | false => exact Iff.rfl

/-- A dialect that folds the names it quotes writes names that are the same with the same letters. -/
theorem render_eq_of_sameName (folds : d.nameCase ≠ .asDeclared)
    (h : Text.sameName (d.render true a) (d.render true b) = true) : d.render true a = d.render true b := by
  have keys : Text.lower (d.escape a) = Text.lower (d.escape b) := sameName_render_iff.mp h
  have folded : d.fold (d.escape a) = d.fold (d.escape b) := by
    unfold fold
    split
    · rename_i declared
      exact absurd declared folds
    · exact Text.upper_eq_of_sameName (Text.sameName_iff.mpr keys)
    · exact keys
  rw [render, render, if_pos rfl, if_pos rfl, folded]

end Dialect

end SqlSchema
