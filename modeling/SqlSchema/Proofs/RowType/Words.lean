import SqlSchema.RowType.Naming

/-!
# Words and identifiers

Every name becomes a word whatever characters it holds (`isWord_sanitizeChars`, `isWord_snake`), and putting a word into
the style `first_name` a second time changes nothing (`snake_snake`). A word is not yet an identifier, as it may be a
keyword. `escape` makes an identifier of every word (`isIdentifier_escape`); the name of a type needs no raw form, since
it begins with a capital (`isIdentifier_typeName`).
-/

namespace SqlSchema.RowType

/-- Letters, digits and underscores, at least one of them and none in front that is a digit. -/
structure IsWord (cs : List Char) : Prop where
  nonempty : cs ≠ []
  chars : ∀ c ∈ cs, isIdentChar c
  start : ∀ c ∈ cs.head?, c.isDigit = false

instance (cs : List Char) : Decidable (IsWord cs) :=
  decidable_of_iff (cs ≠ [] ∧ cs.all isIdentChar ∧ cs.head?.all (!·.isDigit))
    ⟨fun ⟨nonempty, chars, start⟩ => ⟨nonempty, List.all_eq_true.mp chars, by simpa [Option.all_eq_true] using start⟩,
      fun h => ⟨h.nonempty, List.all_eq_true.mpr h.chars, by simpa [Option.all_eq_true] using h.start⟩⟩

/-- A name for the file of a module: a word that can be written as an identifier, if only in its raw form. -/
structure IsStem (s : String) : Prop where
  word : IsWord s.toList
  not_plain : s ∉ plainKeywords

instance (s : String) : Decidable (IsStem s) :=
  decidable_of_iff (IsWord s.toList ∧ s ∉ plainKeywords)
    ⟨fun ⟨word, not_plain⟩ => ⟨word, not_plain⟩, fun h => ⟨h.word, h.not_plain⟩⟩

/-- An identifier: a word that is no keyword, or the raw form of a keyword that has one. -/
inductive IsIdentifier : String → Prop where
  | word {s : String} (stem : IsStem s) (not_keyword : s ∉ keywords) : IsIdentifier s
  | raw {s : String} (keyword : s ∈ keywords) : IsIdentifier (rawMark ++ s)

variable {c : Char} {cs : List Char} {s : String}

/-! ### Words -/

theorem isIdentChar_iff : isIdentChar c ↔ c.isAlphanum ∨ c = '_' := by
  simp [isIdentChar]

theorem isAlphanum_toLower : c.isAlphanum → c.toLower.isAlphanum :=
  Text.forall_of_ascii (p := fun c => c.isAlphanum → c.toLower.isAlphanum) (by decide)
    (fun _ wide h => (Text.toLower_of_wide wide).symm ▸ h) c

theorem isAlphanum_toUpper : c.isAlphanum → c.toUpper.isAlphanum :=
  Text.forall_of_ascii (p := fun c => c.isAlphanum → c.toUpper.isAlphanum) (by decide)
    (fun _ wide h => (Text.toUpper_of_wide wide).symm ▸ h) c

theorem isIdentChar_toLower (h : isIdentChar c) : isIdentChar c.toLower := by
  rcases isIdentChar_iff.mp h with alphanum | rfl
  · exact isIdentChar_iff.mpr (.inl (isAlphanum_toLower alphanum))
  · decide

theorem isIdentChar_toUpper (h : isIdentChar c) : isIdentChar c.toUpper := by
  rcases isIdentChar_iff.mp h with alphanum | rfl
  · exact isIdentChar_iff.mpr (.inl (isAlphanum_toUpper alphanum))
  · decide

theorem isDigit_eq_false_of_isAlpha : c.isAlpha → c.isDigit = false :=
  Text.forall_of_ascii (p := fun c => c.isAlpha → c.isDigit = false) (by decide)
    (fun _ wide _ => Text.isDigit_of_wide wide) c

theorem isDigit_toLower (c : Char) : c.toLower.isDigit = c.isDigit :=
  Text.forall_of_ascii (by decide) (fun _ wide => congrArg Char.isDigit (Text.toLower_of_wide wide)) c

theorem isDigit_toUpper (c : Char) : c.toUpper.isDigit = c.isDigit :=
  Text.forall_of_ascii (by decide) (fun _ wide => congrArg Char.isDigit (Text.toUpper_of_wide wide)) c

theorem isUpper_toLower (c : Char) : c.toLower.isUpper = false :=
  Text.forall_of_ascii (p := fun c => c.toLower.isUpper = false) (by decide)
    (fun _ wide => (Text.toLower_of_wide wide).symm ▸ Text.isUpper_of_wide wide) c

theorem isLower_toUpper (c : Char) : c.toUpper.isLower = false :=
  Text.forall_of_ascii (p := fun c => c.toUpper.isLower = false) (by decide)
    (fun _ wide => (Text.toUpper_of_wide wide).symm ▸ Text.isLower_of_wide wide) c

theorem IsWord.not_mem (h : IsWord cs) (other : isIdentChar c = false) : c ∉ cs := fun hc => by
  simp [h.chars c hc] at other

theorem isWord_guardStart (h : ∀ c ∈ cs, isIdentChar c) : IsWord (guardStart cs) := by
  cases cs with
  | nil => exact (by decide : IsWord ['_'])
  | cons c cs =>
    simp only [guardStart]
    split
    · exact ⟨List.cons_ne_nil _ _, List.forall_mem_cons.mpr ⟨by decide, h⟩, by simp⟩
    · rename_i no_digit
      exact ⟨List.cons_ne_nil _ _, h, by simpa using no_digit⟩

theorem isWord_sanitizeChars (cs : List Char) : IsWord (sanitizeChars cs) := by
  refine isWord_guardStart fun c hc => ?_
  obtain ⟨d, -, rfl⟩ := List.mem_map.mp hc
  split
  · assumption
  · decide

theorem sanitizeChars_of_isWord (h : IsWord cs) : sanitizeChars cs = cs := by
  have kept : cs.map (fun c => if isIdentChar c then c else '_') = cs :=
    (List.map_congr_left fun c hc => if_pos (h.chars c hc)).trans (List.map_id' cs)
  obtain ⟨c, cs, rfl⟩ := List.exists_cons_of_ne_nil h.nonempty
  have no_digit : c.isDigit = false := h.start c rfl
  simp [sanitizeChars, kept, guardStart, no_digit]

/-! ### The style `first_name` -/

theorem eq_toLower_of_mem_snakeChars {afterSmall : Bool} (h : c ∈ snakeChars afterSmall cs) :
    c = '_' ∨ ∃ d ∈ cs, c = d.toLower := by
  induction cs generalizing afterSmall with
  | nil => simp [snakeChars] at h
  | cons d cs ih =>
    -- what follows the first character comes from the rest of the characters
    have rest {afterSmall} (h : c ∈ snakeChars afterSmall cs) : c = '_' ∨ ∃ e ∈ d :: cs, c = e.toLower :=
      (ih h).imp_right fun ⟨e, he, same⟩ => ⟨e, List.mem_cons_of_mem _ he, same⟩
    simp only [snakeChars] at h
    split at h
    · rcases List.mem_append.mp h with sep | h
      · exact .inl (by split at sep <;> simp_all)
      · rcases List.mem_cons.mp h with rfl | h
        · exact .inr ⟨d, List.mem_cons_self, rfl⟩
        · exact rest h
    · rename_i small
      rcases List.mem_cons.mp h with rfl | h
      · exact .inr ⟨c, List.mem_cons_self, (Text.toLower_of_isUpper_eq_false (Bool.eq_false_iff.mpr small)).symm⟩
      · exact rest h

theorem isUpper_of_mem_snakeChars {afterSmall : Bool} (h : c ∈ snakeChars afterSmall cs) : c.isUpper = false := by
  rcases eq_toLower_of_mem_snakeChars h with rfl | ⟨d, -, rfl⟩
  · decide
  · exact isUpper_toLower d

theorem snakeChars_of_small (h : ∀ c ∈ cs, c.isUpper = false) (afterSmall : Bool) : snakeChars afterSmall cs = cs := by
  induction cs generalizing afterSmall with
  | nil => rfl
  | cons c cs ih =>
    rw [List.forall_mem_cons] at h
    simp [snakeChars, h.1, ih h.2]

theorem head?_snakeChars (cs : List Char) : (snakeChars false cs).head? = cs.head?.map Char.toLower := by
  cases cs with
  | nil => rfl
  | cons c cs =>
    simp only [snakeChars]
    split
    · simp
    · rename_i small
      simp [Text.toLower_of_isUpper_eq_false (Bool.eq_false_iff.mpr small)]

theorem isWord_snakeChars (h : IsWord cs) : IsWord (snakeChars false cs) where
  nonempty none := by
    have first := head?_snakeChars cs
    rw [none, List.head?_nil, eq_comm, Option.map_eq_none_iff, List.head?_eq_none_iff] at first
    exact h.nonempty first
  chars c hc := by
    rcases eq_toLower_of_mem_snakeChars hc with rfl | ⟨d, hd, rfl⟩
    · decide
    · exact isIdentChar_toLower (h.chars d hd)
  start c hc := by
    rw [head?_snakeChars] at hc
    obtain ⟨d, hd, rfl⟩ := Option.map_eq_some_iff.mp hc
    rw [isDigit_toLower, h.start d hd]

theorem toList_snake (name : String) : (snake name).toList = snakeChars false (sanitizeChars name.toList) := by
  simp [snake]

theorem isWord_snake (name : String) : IsWord (snake name).toList := by
  rw [toList_snake]
  exact isWord_snakeChars (isWord_sanitizeChars _)

theorem isUpper_of_mem_snake {name : String} (h : c ∈ (snake name).toList) : c.isUpper = false :=
  isUpper_of_mem_snakeChars (toList_snake name ▸ h)

theorem snake_snake (name : String) : snake (snake name) = snake name := by
  rw [← String.toList_inj, toList_snake (snake name), sanitizeChars_of_isWord (isWord_snake name)]
  exact snakeChars_of_small (fun _ => isUpper_of_mem_snake) false

/-! ### Identifiers -/

theorem isIdentifier_escape (h : IsWord s.toList) : IsIdentifier (escape s) := by
  unfold escape
  split
  · rename_i plain
    have all : ∀ w ∈ plainKeywords, IsStem (w ++ "_") ∧ w ++ "_" ∉ keywords := by decide +kernel
    obtain ⟨stem, not_keyword⟩ := all s (List.contains_iff_mem.mp plain)
    exact .word stem not_keyword
  · rename_i not_plain
    have stem : IsStem s := ⟨h, by simpa using not_plain⟩
    split
    · rename_i keyword
      exact .raw (List.contains_iff_mem.mp keyword)
    · rename_i not_keyword
      exact .word stem (by simpa using not_keyword)

theorem isStem_moduleName (table : String) : IsStem (moduleName table) := by
  simp only [moduleName]
  split
  · rename_i plain
    have all : ∀ w ∈ plainKeywords, IsStem (w ++ "_") := by decide +kernel
    exact all _ (List.contains_iff_mem.mp plain)
  · rename_i not_plain
    exact ⟨isWord_snake table, by simpa using not_plain⟩

/-- No keyword begins like the name of a function that changes a field. -/
theorem set_not_mem_keywords (s : String) : "set_" ++ s ∉ plainKeywords ++ keywords := fun keyword => by
  have none : ∀ w ∈ plainKeywords ++ keywords, ¬ "set_".toList <+: w.toList := by decide +kernel
  exact none _ keyword (by simp)

theorem isIdentifier_set (h : IsWord s.toList) : IsIdentifier ("set_" ++ s) := by
  have kept := set_not_mem_keywords s
  rw [List.mem_append, not_or] at kept
  refine .word ⟨⟨by simp, ?_, by simp⟩, kept.1⟩ kept.2
  rw [String.toList_append, List.forall_mem_append]
  have set_chars : "set_".toList.all isIdentChar := by decide
  exact ⟨List.all_eq_true.mp set_chars, h.chars⟩

/-! ### Names of types -/

theorem isAlphanum_of_mem_joinWords (h : ∀ d ∈ cs, isIdentChar d) {capital : Bool} (hc : c ∈ joinWords capital cs) :
    c.isAlphanum := by
  induction cs generalizing capital with
  | nil => simp [joinWords] at hc
  | cons d cs ih =>
    rw [List.forall_mem_cons] at h
    simp only [joinWords] at hc
    split at hc
    · exact ih h.2 hc
    · rename_i no_sep
      have alphanum : d.isAlphanum := (isIdentChar_iff.mp h.1).resolve_right no_sep
      rcases List.mem_cons.mp hc with rfl | hc
      · split
        · exact isAlphanum_toUpper alphanum
        · exact alphanum
      · exact ih h.2 hc

theorem isLower_of_mem_head?_joinWords (h : c ∈ (joinWords true cs).head?) : c.isLower = false := by
  induction cs with
  | nil => simp [joinWords] at h
  | cons d cs ih =>
    simp only [joinWords] at h
    split at h
    · exact ih h
    · obtain rfl : d.toUpper = c := by simpa using h
      exact isLower_toUpper d

theorem guardTypeName_eq_cons (chars : ∀ c ∈ cs, c.isAlphanum) (start : ∀ c ∈ cs.head?, c.isLower = false) :
    ∃ c rest, guardTypeName cs = c :: rest ∧ c.isUpper ∧ ∀ d ∈ rest, d.isAlphanum := by
  cases cs with
  | nil => exact ⟨'T', [], rfl, by decide, by simp⟩
  | cons c cs =>
    simp only [guardTypeName]
    split
    · exact ⟨'T', c :: cs, rfl, by decide, chars⟩
    · rename_i no_digit
      have alphanum : c.isAlphanum := chars c List.mem_cons_self
      have classes : (c.isUpper || c.isLower || c.isDigit) = true := alphanum
      have capital : c.isUpper := by simpa [start c rfl, no_digit] using classes
      exact ⟨c, cs, rfl, capital, fun d hd => chars d (List.mem_cons_of_mem _ hd)⟩

/-- The only keyword that begins with a capital is `Self`, and a type is not named like it. -/
theorem isIdentifier_typeName (table : String) : IsIdentifier (typeName table) := by
  simp only [typeName]
  obtain ⟨c, rest, name, capital, alphanum⟩ := guardTypeName_eq_cons
    (fun _ => isAlphanum_of_mem_joinWords (isWord_snake table).chars)
    (fun _ => isLower_of_mem_head?_joinWords)
  rw [name]
  split
  · rename_i self
    rw [self]
    exact .word (by decide) (by decide)
  · rename_i not_self
    have only : ∀ w ∈ plainKeywords ++ keywords, w.toList.head?.all Char.isUpper → w = "Self" := by decide +kernel
    have kept : String.ofList (c :: rest) ∉ plainKeywords ++ keywords := fun keyword =>
      not_self (only _ keyword (by simpa using capital))
    rw [List.mem_append, not_or] at kept
    have letter : c.isAlpha := Bool.or_eq_true_iff.mpr (.inl capital)
    refine .word ⟨⟨by simp, ?_, ?_⟩, kept.1⟩ kept.2
    · rw [String.toList_ofList, List.forall_mem_cons]
      exact ⟨by simp [isIdentChar, Char.isAlphanum, letter], fun d hd => by simp [isIdentChar, alphanum d hd]⟩
    · simpa using isDigit_eq_false_of_isAlpha letter

end SqlSchema.RowType
