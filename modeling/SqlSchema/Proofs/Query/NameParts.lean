import SqlSchema.Proofs.Query.Seams
import SqlSchema.Query.Qualifier

/-!
# Names in a text

The names that stand at the start of a text, without a word on how they are read: a name `NameLeads` what stands behind
it. A qualified reference is one name behind another with a point between (`qualified?_eq_some_iff`), and putting a
qualifier into a text leaves the characters alone at which no reference starts (`requalify_append_of_none`).
-/

namespace SqlSchema.Query

/-- The text is the name with which a text starts that goes on with `after`. -/
inductive NameLeads : List Char → List Char → Prop where
  /-- A plain name that no further character belongs to. -/
  | plain {c : Char} {more after : List Char} (starts : startsPlainName c = true)
      (all : ∀ x ∈ more, insidePlainName x = true) (maximal : ∀ x ∈ after.head?, insidePlainName x = false) :
      NameLeads (c :: more) after
  /-- A name between delimiters, up to the first closing one. -/
  | delimited {c close : Char} {inside after : List Char} (opens : closingOf? c = some close) (no_literal : c ≠ '\'')
      (some_char : inside ≠ []) (first : close ∉ inside) : NameLeads (c :: (inside ++ [close])) after

/-- Whether a name can start with the character. -/
def startsName (c : Char) : Bool := startsPlainName c || c ∈ ['"', '\x60', '[']

section Characters

variable {c close : Char}

theorem insidePlainName_of_startsPlainName (h : startsPlainName c = true) : insidePlainName c = true := by
  simp only [startsPlainName, Bool.or_eq_true, beq_iff_eq] at h
  rcases h with h | rfl
  · simp [insidePlainName, Char.isAlphanum, h]
  · decide

/-- A plain name is made of the characters of a word. -/
theorem isWordChar_of_insidePlainName (h : insidePlainName c = true) : isWordChar c = true := h

theorem closingOf?_of_startsPlainName (h : startsPlainName c = true) : closingOf? c = none :=
  closingOf?_of_isWordChar (isWordChar_of_insidePlainName (insidePlainName_of_startsPlainName h))

theorem startsName_of_closingOf? (opens : closingOf? c = some close) (no_literal : c ≠ '\'') : startsName c = true := by
  unfold closingOf? at opens
  split at opens
  · rename_i quote
    rcases quote with rfl | rfl | rfl
    · exact absurd rfl no_literal
    · decide
    · decide
  · split at opens
    · rename_i bracket
      subst bracket
      decide
    · cases opens

theorem closingOf?_inj {d : Char} (opens : closingOf? c = some close) (opens' : closingOf? d = some close) :
    c = d := by
  grind [closingOf?]

theorem closingOf?_close (opens : closingOf? c = some close) (no_literal : c ≠ '\'') :
    close = '"' ∨ close = '\x60' ∨ close = ']' := by
  refine (closingOf?_eq_some opens).resolve_left ?_
  rintro rfl
  exact no_literal (closingOf?_inj opens (by decide))

end Characters

section Reading

variable {cs name after : List Char}

private theorem namePart?_cons_of_closingOf? {c close : Char} (opens : closingOf? c = some close)
    (no_literal : c ≠ '\'') (rest : List Char) : namePart? (c :: rest) = Text.delimitedName? c close rest := by
  have no_plain : startsPlainName c = false := by
    by_contra starts
    rw [closingOf?_of_startsPlainName (by simpa using starts)] at opens
    cases opens
  unfold closingOf? at opens
  simp only [no_literal, false_or] at opens
  rw [namePart?, no_plain, if_neg Bool.false_ne_true]
  split at opens
  · rename_i quote
    rw [if_pos quote, Option.some.inj opens]
  · rename_i no_quote
    split at opens
    · rename_i bracket
      rw [if_neg no_quote, if_pos bracket, Option.some.inj opens]
    · cases opens

/-- What starts neither a plain name nor a delimited one starts none. -/
theorem namePart?_cons_eq_none {c : Char} (no_plain : startsPlainName c = false)
    (no_quote : closingOf? c = none ∨ c = '\'') (rest : List Char) : namePart? (c :: rest) = none := by
  have others : ¬(c = '"' ∨ c = '\x60') ∧ c ≠ '[' := by
    rcases no_quote with no_quote | rfl
    · refine ⟨?_, ?_⟩ <;> rintro h
      · rcases h with rfl | rfl <;> cases no_quote
      · subst h
        cases no_quote
    · decide
  rw [namePart?, no_plain, if_neg Bool.false_ne_true, if_neg others.1, if_neg others.2]

theorem namePart?_eq_some_iff : namePart? cs = some (name, after) ↔ cs = name ++ after ∧ NameLeads name after := by
  constructor
  · intro read
    cases cs with
    | nil => cases read
    | cons c rest =>
      by_cases starts : startsPlainName c = true
      · rw [namePart?, if_pos starts, Option.some.injEq, Prod.mk.injEq] at read
        obtain ⟨rfl, rfl⟩ := read
        refine ⟨by simp, .plain starts (fun x hx => List.all_eq_true.mp List.all_takeWhile x hx) fun x hx => ?_⟩
        have stops := List.head?_dropWhile_not insidePlainName rest
        rw [Option.mem_def.mp hx] at stops
        exact stops
      · rw [Bool.not_eq_true] at starts
        cases quote : closingOf? c with
        | none =>
          rw [namePart?_cons_eq_none starts (.inl quote)] at read
          cases read
        | some close =>
          by_cases literal : c = '\''
          · rw [namePart?_cons_eq_none starts (.inr literal)] at read
            cases read
          · rw [namePart?_cons_of_closingOf? quote literal, Text.delimitedName?_eq_some_iff] at read
            obtain ⟨inside, some_char, first, rfl, rfl⟩ := read
            exact ⟨by simp, .delimited quote literal some_char first⟩
  · rintro ⟨rfl, leads⟩
    cases leads with
    | @plain c more _ starts all maximal =>
      obtain ⟨taken, dropped⟩ := Text.takeWhile_append_of_maximal all maximal
      rw [List.cons_append, namePart?, if_pos starts, taken, dropped]
    | @delimited c close inside _ opens no_literal some_char first =>
      rw [List.cons_append, namePart?_cons_of_closingOf? opens no_literal, Text.delimitedName?_eq_some_iff]
      exact ⟨inside, some_char, first, by simp, rfl⟩

/-- A qualified reference is a name, a point and a name. -/
theorem qualified?_eq_some_iff :
    qualified? cs = some (name, after) ↔
      ∃ first, cs = first ++ '.' :: (name ++ after) ∧ NameLeads first ('.' :: (name ++ after)) ∧
        NameLeads name after := by
  constructor
  · intro read
    unfold qualified? at read
    split at read
    · rename_i first rest found
      obtain ⟨rfl, leads⟩ := namePart?_eq_some_iff.mp found
      obtain ⟨rfl, column⟩ := namePart?_eq_some_iff.mp read
      exact ⟨first, rfl, leads, column⟩
    · cases read
  · rintro ⟨first, rfl, leads, column⟩
    have found := namePart?_eq_some_iff.mpr ⟨rfl, leads⟩
    unfold qualified?
    rw [found]
    exact namePart?_eq_some_iff.mpr ⟨rfl, column⟩

theorem NameLeads.exists_startsName (h : NameLeads name after) : ∃ c more, name = c :: more ∧ startsName c = true := by
  cases h with
  | plain starts => exact ⟨_, _, rfl, by simp [startsName, starts]⟩
  | delimited opens no_literal => exact ⟨_, _, rfl, startsName_of_closingOf? opens no_literal⟩

end Reading

/-! ### Qualifying -/

section Requalify

variable {qualifier cs ds name after : List Char}

theorem requalify_of_qualified (found : qualified? cs = some (name, after)) :
    requalify qualifier cs = qualifier ++ '.' :: (name ++ requalify qualifier after) := by
  cases cs with
  | nil => cases found
  | cons c cs =>
    rw [requalify]
    split
    · rename_i same
      rw [found, Option.some.injEq, Prod.mk.injEq] at same
      obtain ⟨rfl, rfl⟩ := same
      rfl
    · rename_i missing
      rw [found] at missing
      cases missing

/-- Where no reference starts, nothing changes. -/
theorem requalify_append_of_none (none_starts : ∀ s, s ≠ [] → s <:+ cs → qualified? (s ++ ds) = none) :
    requalify qualifier (cs ++ ds) = cs ++ requalify qualifier ds := by
  induction cs with
  | nil => rfl
  | cons c cs ih =>
    have here : qualified? (c :: (cs ++ ds)) = none := none_starts (c :: cs) (by simp) (List.suffix_refl _)
    have later := ih fun s some_char suffix => none_starts s some_char (suffix.trans (List.suffix_cons c cs))
    rw [List.cons_append, requalify]
    split
    · rename_i found
      rw [here] at found
      cases found
    · rw [later]
      rfl

end Requalify

end SqlSchema.Query
