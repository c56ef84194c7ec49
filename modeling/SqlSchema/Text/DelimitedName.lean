import SqlSchema.Text.Split

/-!
# Names between delimiters

A name that stands in a text between delimiters is read up to the first closing one. It may not be empty.
-/

namespace SqlSchema.Text

/-- A name with its delimiters and what follows it; `rest` follows the opening delimiter. -/
def delimitedName? (opening closing : Char) (rest : List Char) : Option (List Char × List Char) :=
  let inside := rest.takeWhile (· ≠ closing)
  match rest.dropWhile (· ≠ closing) with
  | [] => none
  | c :: after => if inside.isEmpty then none else some (opening :: (inside ++ [c]), after)

theorem length_delimitedName_lt {opening closing : Char} {rest name after : List Char}
    (h : delimitedName? opening closing rest = some (name, after)) : after.length < rest.length + 1 := by
  have bound := (List.dropWhile_sublist (fun c => decide (c ≠ closing)) (l := rest)).length_le
  unfold delimitedName? at h
  split at h
  · cases h
  · rename_i c tail hd
    rw [hd] at bound
    dsimp only at h
    split at h
    · cases h
    · cases h
      simp only [List.length_cons] at bound
      omega

theorem delimitedName?_eq_some_iff {opening closing : Char} {rest name after : List Char} :
    delimitedName? opening closing rest = some (name, after) ↔
      ∃ inside, inside ≠ [] ∧ closing ∉ inside ∧ rest = inside ++ closing :: after ∧
        name = opening :: (inside ++ [closing]) := by
  constructor
  · intro read
    have split : rest.takeWhile (· ≠ closing) ++ rest.dropWhile (· ≠ closing) = rest := List.takeWhile_append_dropWhile
    have stops := List.head?_dropWhile_not (· ≠ closing) rest
    have before : closing ∉ rest.takeWhile (· ≠ closing) := fun found => by
      simpa using List.all_eq_true.mp List.all_takeWhile closing found
    unfold delimitedName? at read
    split at read
    · cases read
    · rename_i c tail found
      rw [found] at split stops
      obtain rfl : c = closing := by simpa using stops
      simp only [Option.ite_none_left_eq_some, Option.some.injEq, Prod.mk.injEq, List.isEmpty_iff] at read
      obtain ⟨some_char, rfl, rfl⟩ := read
      exact ⟨_, some_char, before, split.symm, rfl⟩
  · rintro ⟨inside, some_char, no_close, rfl, rfl⟩
    obtain ⟨taken, left⟩ := takeWhile_ne_append_cons no_close after
    unfold delimitedName?
    rw [taken, left]
    simp [some_char]

end SqlSchema.Text
