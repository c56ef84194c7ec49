/-!
# Splitting at a separator

`splitOn sep` cuts characters at every `sep`, so that joining the parts with `sep` gives the characters back
(`intercalate_splitOn`). A part ends at the next separator and nowhere else (`splitOn_append_of_not_mem`), so parts
that hold no separator are found again in what they are joined to (`splitOn_intercalate`). Up to its first separator
a text can be taken by itself (`takeWhile_ne_append_cons`).
-/

namespace SqlSchema.Text

/-- The parts between the separators; there is always at least one. -/
def splitOn (sep : Char) : List Char → List (List Char)
  | [] => [[]]
  | c :: cs =>
    if c = sep then [] :: splitOn sep cs
    else match splitOn sep cs with
      | [] => [[c]]
      | part :: parts => (c :: part) :: parts

theorem splitOn_ne_nil (sep : Char) (cs : List Char) : splitOn sep cs ≠ [] := by
  cases cs with
  | nil => simp [splitOn]
  | cons c cs =>
    simp only [splitOn]
    split
    · simp
    · split <;> simp

theorem intercalate_splitOn (sep : Char) (cs : List Char) : [sep].intercalate (splitOn sep cs) = cs := by
  induction cs with
  | nil => rfl
  | cons c cs ih =>
    simp only [splitOn]
    split
    · rename_i h
      subst h
      cases hs : splitOn c cs with
      | nil => exact absurd hs (splitOn_ne_nil c cs)
      | cons part parts =>
        rw [hs] at ih
        simpa [List.intercalate, List.intersperse] using ih
    · cases hs : splitOn sep cs with
      | nil => exact absurd hs (splitOn_ne_nil sep cs)
      | cons part parts =>
        rw [hs] at ih
        cases parts with
        | nil => simpa [List.intercalate, List.intersperse] using ih
        | cons q qs => simpa [List.intercalate, List.intersperse] using ih

theorem splitOn_of_not_mem {sep : Char} {cs : List Char} (h : sep ∉ cs) : splitOn sep cs = [cs] := by
  induction cs with
  | nil => rfl
  | cons c cs ih =>
    simp only [List.mem_cons, not_or] at h
    simp only [splitOn, if_neg (Ne.symm h.1), ih h.2]

theorem splitOn_append_of_not_mem {sep : Char} {cs : List Char} (h : sep ∉ cs) (ds : List Char) :
    splitOn sep (cs ++ sep :: ds) = cs :: splitOn sep ds := by
  induction cs with
  | nil => simp [splitOn]
  | cons c cs ih =>
    simp only [List.mem_cons, not_or] at h
    simp only [List.cons_append, splitOn, if_neg (Ne.symm h.1), ih h.2]

/-- Parts that hold no separator are found again. -/
theorem splitOn_intercalate {sep : Char} {parts : List (List Char)} (ne : parts ≠ [])
    (h : ∀ part ∈ parts, sep ∉ part) : splitOn sep ([sep].intercalate parts) = parts := by
  induction parts with
  | nil => exact absurd rfl ne
  | cons part parts ih =>
    have here := h part List.mem_cons_self
    cases parts with
    | nil => simpa [List.intercalate] using splitOn_of_not_mem here
    | cons next parts =>
      have rest := ih (by simp) fun q hq => h q (List.mem_cons_of_mem part hq)
      rw [List.intercalate_cons_cons, List.append_assoc, List.singleton_append, splitOn_append_of_not_mem here, rest]

/-! ### The first part -/

/-- As many characters are taken as satisfy `p`, if the one behind them does not. -/
theorem takeWhile_append_of_maximal {p : Char → Bool} {cs rest : List Char} (all : ∀ c ∈ cs, p c = true)
    (maximal : ∀ c ∈ rest.head?, p c = false) : (cs ++ rest).takeWhile p = cs ∧ (cs ++ rest).dropWhile p = rest := by
  rw [List.takeWhile_append_of_pos all, List.dropWhile_append_of_pos all]
  cases rest with
  | nil => simp
  | cons c rest =>
    have stop := maximal c (by simp)
    simp [stop]

/-- What stands in front of the first separator. -/
theorem takeWhile_ne_append_cons {sep : Char} {cs : List Char} (h : sep ∉ cs) (ds : List Char) :
    (cs ++ sep :: ds).takeWhile (· ≠ sep) = cs ∧ (cs ++ sep :: ds).dropWhile (· ≠ sep) = sep :: ds := by
  refine takeWhile_append_of_maximal (fun c hc => ?_) (by simp)
  exact decide_eq_true fun same => h (same ▸ hc)

end SqlSchema.Text
