import SqlSchema.Text.DelimitedName

/-!
# Qualified references

Around a query that is wrapped, its columns are known by another qualifier. `requalify` goes through sort keys from
left to right and wherever two names stand with a point between, as plain or as quoted names, puts the other qualifier
in place of the first.
-/

namespace SqlSchema.Query

/-- Whether a plain name can start with the character. -/
def startsPlainName (c : Char) : Bool := c.isAlpha || c == '_'

/-- Whether the character can stand inside a plain name. -/
def insidePlainName (c : Char) : Bool := c.isAlphanum || c == '_' || c == '$'

/-- The longest name at the start of the characters, and the rest. -/
def namePart? : List Char → Option (List Char × List Char)
  | [] => none
  | c :: rest =>
    if startsPlainName c then some (c :: rest.takeWhile insidePlainName, rest.dropWhile insidePlainName)
    else if c = '"' ∨ c = '\x60' then Text.delimitedName? c c rest
    else if c = '[' then Text.delimitedName? c ']' rest
    else none

/-- A qualified reference at the start of the characters: the name behind the point, and the rest. -/
def qualified? (cs : List Char) : Option (List Char × List Char) :=
  match namePart? cs with
  | some (_, '.' :: rest) => namePart? rest
  | _ => none

theorem length_namePart_lt {cs name after : List Char} (h : namePart? cs = some (name, after)) :
    after.length < cs.length := by
  unfold namePart? at h
  split at h
  · cases h
  · rename_i c rest
    simp only [List.length_cons]
    split at h
    · cases h
      have := (List.dropWhile_sublist insidePlainName (l := rest)).length_le
      omega
    · split at h
      · exact Text.length_delimitedName_lt h
      · split at h
        · exact Text.length_delimitedName_lt h
        · cases h

theorem length_qualified_lt {cs name after : List Char} (h : qualified? cs = some (name, after)) :
    after.length < cs.length := by
  unfold qualified? at h
  split at h
  · rename_i first rest hp
    have h₁ := length_namePart_lt hp
    have h₂ := length_namePart_lt h
    simp only [List.length_cons] at h₁
    omega
  · cases h

/-- The characters with every qualifier replaced by `qualifier`. -/
def requalify (qualifier : List Char) (cs : List Char) : List Char :=
  match cs with
  | [] => []
  | c :: rest =>
    match h : qualified? (c :: rest) with
    | some (name, after) =>
      have : after.length < (c :: rest).length := length_qualified_lt h
      qualifier ++ '.' :: (name ++ requalify qualifier after)
    | none => c :: requalify qualifier rest
termination_by cs.length
decreasing_by
  · assumption
  · exact Nat.lt_succ_self rest.length

end SqlSchema.Query
