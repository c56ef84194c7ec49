import SqlSchema.Proofs.Catalog.SpacedText

/-!
# Reading declarations in spaced texts

The declaration of an identity column or of a foreign key leaves a trace among the parts of a text that follow the one
in which it begins (`DeclaresIdentity`, `DeclaresForeignKey`), and a reader skips the parts that are not followed by
such a trace (`firstIdentity?_skip`, `clausesFrom_skip`). Where a declaration stands it is read as it is written
(`identityDeclaration?_textOf`, `foreignKeyClause?_textOf`), and clauses are found from left to right
(`clausesFrom_ordered`).
-/

namespace SqlSchema.CreateText

open Text

variable {p q : Part} {ps qs : List Part} {u r : List Char} {w : List Char}

/-! ### Traces of declarations -/

theorem isSome_blanks?_of_phrase? {w : String} {ws : List String} {cs : List Char}
    (read : phrase? (w :: ws) cs = some r) : (blanks? cs).isSome = true := by
  rw [phrase?_cons] at read
  cases found : blanks? cs with
  | none =>
    rw [found] at read
    cases read
  | some _ => rfl

theorem read_phrase {w v : String} {ws : List String} (h : Spaced ps) (hw : isKeyword w.toList = true)
    (read : phrase? (w :: v :: ws) (textOf ps) = some r) :
    ∃ p qs, ps = .blank :: p :: qs ∧ p.letters = w.toList ∧ phrase? (v :: ws) (textOf qs) = some r := by
  simp only [phrase?_cons w, Option.bind_eq_some_iff] at read
  obtain ⟨behind, ⟨rest, blanks, keyword⟩, read⟩ := read
  obtain ⟨qs, rfl, rfl⟩ := blanks?_textOf h blanks
  have blank := isSome_blanks?_of_phrase? read
  cases qs with
  | nil =>
    obtain ⟨front, split, letters⟩ := keyword?_eq_some_iff.mp keyword
    rw [(List.append_eq_nil_iff.mp split.symm).1] at letters
    rw [← letters] at hw
    cases hw
  | cons p qs =>
    obtain ⟨c, cs, first, -⟩ := h.tail.head.exists_chars
    have found := eq_of_keyword? h.tail hw (by rw [first]; simp) List.suffix_rfl keyword blank
    exact ⟨p, qs, rfl, found.2.2.2 rfl, by rw [← found.2.2.1]; exact read⟩

/-- A keyword stands behind a blank, at the start of a part that is no mark. -/
theorem read_last {w : String} (h : Spaced ps) (hw : isKeyword w.toList = true)
    (read : phrase? [w] (textOf ps) = some r) : ∃ p qs, ps = .blank :: p :: qs ∧ p.isMark = false := by
  simp only [phrase?_cons w, Option.bind_eq_some_iff] at read
  obtain ⟨behind, ⟨rest, blanks, keyword⟩, -⟩ := read
  obtain ⟨qs, rfl, rfl⟩ := blanks?_textOf h blanks
  obtain ⟨front, split, letters⟩ := keyword?_eq_some_iff.mp keyword
  have some_letter : ∃ c rest, front = c :: rest := by
    refine List.exists_cons_of_ne_nil ?_
    rintro rfl
    rw [← letters] at hw
    cases hw
  obtain ⟨c, front, rfl⟩ := some_letter
  cases qs with
  | nil => cases split
  | cons p qs =>
    refine ⟨p, qs, rfl, ?_⟩
    cases h.tail.head with
    | word _ _ => rfl
    | quoted _ => rfl
    | @mark e he =>
      obtain ⟨rfl, -⟩ := List.cons.inj split
      refine absurd ?_ (keywordLetter_not_mem (List.mem_cons_of_mem _ he) hw)
      rw [← letters]
      exact List.mem_cons_self

/-- What follows the name of an identity column in its declaration. -/
structure DeclaresIdentity (ps : List Part) : Prop where
  integer : ps[1]?.map Part.letters = some "integer".toList
  primary : ps[3]?.map Part.letters = some "primary".toList
  behind_key : ps[7]?.map Part.isMark = some false

/-- What follows the keyword with which the declaration of a foreign key begins. -/
def DeclaresForeignKey (ps : List Part) : Prop := ps[3]?.map Part.letters = some "foreign".toList

theorem declares_of_identityDeclaration? (h : Spaced (p :: ps)) (hu : u ≠ []) (suffix : u <:+ p.chars)
    {name : List Char} (read : identityDeclaration? (u ++ textOf ps) = some name) : DeclaresIdentity ps := by
  simp only [identityDeclaration?, Option.bind_eq_bind, Option.bind_eq_some_iff, Prod.exists] at read
  obtain ⟨name, r, named, behind, phrase, last, auto, -⟩ := read
  have blank := isSome_blanks?_of_phrase? phrase
  obtain ⟨-, -, rfl⟩ := eq_of_name? h hu suffix named blank
  obtain ⟨i, qs, rfl, integer, phrase⟩ := read_phrase h.tail (by decide) phrase
  have spaced := h.tail.tail.tail
  obtain ⟨k, qs, rfl, primary, phrase⟩ := read_phrase spaced (by decide) phrase
  have spaced := spaced.tail.tail
  -- one of the further keywords follows, whichever it is
  obtain ⟨w, v, hw, further⟩ : ∃ w v, isKeyword w.toList = true ∧ phrase? ["key", w] (textOf qs) = some v := by
    cases asc : phrase? ["asc"] behind with
    | some v => exact ⟨"asc", v, by decide, phrase?_append phrase asc⟩
    | none =>
      cases desc : phrase? ["desc"] behind with
      | some v => exact ⟨"desc", v, by decide, phrase?_append phrase desc⟩
      | none =>
        rw [asc, desc] at auto
        exact ⟨"autoincrement", last, by decide, phrase?_append phrase auto⟩
  obtain ⟨key, qs, rfl, -, further⟩ := read_phrase spaced (by decide) further
  obtain ⟨a, qs, rfl, name⟩ := read_last spaced.tail.tail hw further
  exact ⟨by simp [integer], by simp [primary], by simp [name]⟩

theorem declares_of_foreignKeyClause? (h : Spaced (p :: ps)) (hu : u ≠ []) (suffix : u <:+ p.chars) {offset : Nat}
    {found : ForeignKeyClause × List Char} (read : foreignKeyClause? offset (u ++ textOf ps) = some found) :
    DeclaresForeignKey ps := by
  simp only [foreignKeyClause?, Option.bind_eq_bind, Option.bind_eq_some_iff, Prod.exists] at read
  obtain ⟨r, keyword, behind, blanks, name, rest, named, after, phrase, -⟩ := read
  obtain ⟨-, -, rfl, -⟩ := eq_of_keyword? h (by decide) hu suffix keyword (by rw [blanks]; rfl)
  obtain ⟨qs, rfl, rfl⟩ := blanks?_textOf h.tail blanks
  have blank := isSome_blanks?_of_phrase? phrase
  cases qs with
  | nil => cases named
  | cons n qs =>
    have spaced := h.tail.tail
    obtain ⟨c, cs, first, -⟩ := spaced.head.exists_chars
    obtain ⟨-, -, rfl⟩ := eq_of_name? spaced (by rw [first]; simp) List.suffix_rfl named blank
    obtain ⟨f, qs, rfl, foreign, -⟩ := read_phrase spaced.tail (by decide) phrase
    simp [DeclaresForeignKey, foreign]

/-! ### Skipping parts -/

theorem firstIdentity?_append {cs rest : List Char}
    (quiet : ∀ u, u ≠ [] → u <:+ cs → identityDeclaration? (u ++ rest) = none) :
    firstIdentity? (cs ++ rest) = firstIdentity? rest := by
  induction cs with
  | nil => rfl
  | cons c cs ih =>
    have here := quiet (c :: cs) (by simp) List.suffix_rfl
    rw [List.cons_append] at here
    rw [List.cons_append, firstIdentity?, here, Option.none_or]
    exact ih fun u hu suffix => quiet u hu (suffix.trans (List.suffix_cons c cs))

/-- Parts in front of the first declaration of an identity column are skipped. -/
theorem firstIdentity?_skip (h : Spaced ps) (n : Nat) (quiet : ∀ k < n, ¬DeclaresIdentity (ps.drop (k + 1))) :
    firstIdentity? (textOf ps) = firstIdentity? (textOf (ps.drop n)) := by
  induction n generalizing ps with
  | zero => rfl
  | succ n ih =>
    cases ps with
    | nil => rfl
    | cons p ps =>
      have skipped : firstIdentity? (textOf (p :: ps)) = firstIdentity? (textOf ps) := by
        refine firstIdentity?_append fun u hu suffix => ?_
        cases read : identityDeclaration? (u ++ textOf ps) with
        | none => exact read
        | some name => exact absurd (declares_of_identityDeclaration? h hu suffix read) (quiet 0 (by omega))
      rw [skipped, List.drop_succ_cons]
      exact ih h.tail fun k hk => quiet (k + 1) (by omega)

theorem clausesFrom_append {cs rest : List Char}
    (quiet : ∀ offset u, u ≠ [] → u <:+ cs → foreignKeyClause? offset (u ++ rest) = none) (offset : Nat) :
    ∃ later, clausesFrom 0 offset (cs ++ rest) = clausesFrom 0 later rest := by
  induction cs generalizing offset with
  | nil => exact ⟨offset, rfl⟩
  | cons c cs ih =>
    have here := quiet offset (c :: cs) (by simp) List.suffix_rfl
    rw [List.cons_append] at here
    rw [List.cons_append, clausesFrom, here]
    exact ih (fun o u hu suffix => quiet o u hu (suffix.trans (List.suffix_cons c cs))) _

/-- Parts in front of the first declaration of a foreign key are skipped. -/
theorem clausesFrom_skip (h : Spaced ps) (n : Nat) (quiet : ∀ k < n, ¬DeclaresForeignKey (ps.drop (k + 1)))
    (offset : Nat) : ∃ later, clausesFrom 0 offset (textOf ps) = clausesFrom 0 later (textOf (ps.drop n)) := by
  induction n generalizing ps offset with
  | zero => exact ⟨offset, rfl⟩
  | succ n ih =>
    cases ps with
    | nil => exact ⟨offset, rfl⟩
    | cons p ps =>
      have skipped : ∃ later, clausesFrom 0 offset (textOf (p :: ps)) = clausesFrom 0 later (textOf ps) := by
        refine clausesFrom_append (fun o u hu suffix => ?_) offset
        cases read : foreignKeyClause? o (u ++ textOf ps) with
        | none => exact read
        | some found => exact absurd (declares_of_foreignKeyClause? h hu suffix read) (quiet 0 (by omega))
      obtain ⟨later, skipped⟩ := skipped
      rw [skipped, List.drop_succ_cons]
      exact ih h.tail (fun k hk => quiet (k + 1) (by omega)) later

/-! ### Clauses in a row -/

theorem offset_of_foreignKeyClause? {offset : Nat} {cs after : List Char} {c : ForeignKeyClause}
    (read : foreignKeyClause? offset cs = some (c, after)) : c.offset = offset := by
  simp only [foreignKeyClause?, Option.bind_eq_bind, Option.bind_eq_some_iff, Prod.exists] at read
  obtain ⟨_, _, _, _, _, _, _, _, _, read⟩ := read
  split at read
  · split at read
    · simp only [Option.bind_eq_some_iff, Prod.exists] at read
      obtain ⟨_, _, _, _, _, _, _, read⟩ := read
      cases read
      rfl
    · cases read
  · cases read

/-- Clauses are found from left to right. -/
theorem clausesFrom_ordered (skipped offset : Nat) (cs : List Char) :
    (∀ c ∈ clausesFrom skipped offset cs, offset ≤ c.offset) ∧
      (clausesFrom skipped offset cs).Pairwise (·.offset < ·.offset) := by
  induction cs generalizing skipped offset with
  | nil => cases skipped <;> exact ⟨nofun, .nil⟩
  | cons e cs ih =>
    have size := Char.utf8Size_pos e
    have weaken : ∀ k, ∀ c ∈ clausesFrom k (offset + e.utf8Size) cs, offset < c.offset := by
      intro k c hc
      have := (ih k (offset + e.utf8Size)).1 c hc
      omega
    cases skipped with
    | succ skipped => exact ⟨fun c hc => (weaken skipped c hc).le, (ih _ _).2⟩
    | zero =>
      rw [clausesFrom]
      split
      · rename_i c after read
        have here := offset_of_foreignKeyClause? read
        refine ⟨fun x hx => ?_, List.pairwise_cons.mpr ⟨fun x hx => ?_, (ih _ _).2⟩⟩
        · rcases List.mem_cons.mp hx with rfl | later
          · exact here.ge
          · exact (weaken _ x later).le
        · rw [here]
          exact weaken _ x hx
      · exact ⟨fun c hc => (weaken 0 c hc).le, (ih _ _).2⟩

theorem clausesFrom_drop (skipped offset : Nat) (cs : List Char) :
    ∃ later, clausesFrom skipped offset cs = clausesFrom 0 later (cs.drop skipped) := by
  induction cs generalizing skipped offset with
  | nil => exact ⟨offset, by cases skipped <;> rfl⟩
  | cons c cs ih =>
    cases skipped with
    | zero => exact ⟨offset, rfl⟩
    | succ skipped => exact ih skipped _

/-- A clause at the start of the characters is found, and then those in what follows it. -/
theorem clausesFrom_of_clause {offset : Nat} {clause after : List Char} {c : ForeignKeyClause} (nonempty : clause ≠ [])
    (read : foreignKeyClause? offset (clause ++ after) = some (c, after)) :
    ∃ later, clausesFrom 0 offset (clause ++ after) = c :: clausesFrom 0 later after := by
  obtain ⟨e, clause, rfl⟩ := List.exists_cons_of_ne_nil nonempty
  rw [List.cons_append] at read ⊢
  rw [clausesFrom, read]
  obtain ⟨later, rest⟩ := clausesFrom_drop ((clause ++ after).length - after.length) (offset + e.utf8Size)
    (clause ++ after)
  refine ⟨later, ?_⟩
  dsimp only
  rw [rest, List.length_append, Nat.add_sub_cancel, List.drop_left]

/-! ### Reading declarations -/

namespace Part

/-- A name that a reader takes as a whole. -/
def IsName : Part → Prop
  | .word cs => ∀ c ∈ cs, isNameChar c = true
  | .quoted cs => cs ≠ []
  | .mark _ => False

/-- The characters of a name without the quotes around it. -/
def content : Part → List Char
  | .word cs => cs
  | .quoted cs => cs
  | .mark c => [c]

/-- The characters of a name are those of plain names and quotes. -/
theorem IsName.chars (name : p.IsName) (valid : p.Valid) : ∀ c ∈ p.chars, isNameChar c = true ∨ c = '"' := by
  intro c hc
  cases valid with
  | word _ _ => exact .inl (name c hc)
  | quoted inside =>
    rcases List.mem_cons.mp hc with rfl | hc
    · exact .inr rfl
    · rcases List.mem_append.mp hc with hc | last
      · exact .inl (inside c hc)
      · exact .inr (List.mem_singleton.mp last)
  | mark _ => cases name

theorem IsName.not_mem (name : p.IsName) (valid : p.Valid) {c : Char} (other : isNameChar c = false)
    (not_quote : c ≠ '"') : c ∉ p.chars := by
  intro hc
  rcases name.chars valid c hc with plain | quote
  · rw [other] at plain
    cases plain
  · exact not_quote quote

theorem IsName.isMark (name : p.IsName) : p.isMark = false := by
  cases p with
  | word _ => rfl
  | quoted _ => rfl
  | mark _ => cases name

theorem IsName.unquoteChars (name : p.IsName) (valid : p.Valid) : unquoteChars p.chars = p.content := by
  cases valid with
  | @word cs nonempty inside =>
    obtain ⟨c, cs, rfl⟩ := List.exists_cons_of_ne_nil nonempty
    have first := (inside c List.mem_cons_self).2
    simp only [openings, List.mem_cons, List.not_mem_nil, or_false, not_or] at first
    have no_closing : closing? c = none := by
      rw [closing?, if_neg (by simp [first.1, first.2.1]), if_neg first.2.2]
    simp only [Part.chars, CreateText.unquoteChars, no_closing, content]
  | @quoted cs inside =>
    have closing : closing? '"' = some '"' := rfl
    simp [Part.chars, CreateText.unquoteChars, closing, content]
  | mark _ => cases name

end Part

theorem name?_textOf (h : Spaced (p :: ps)) (name : p.IsName) :
    name? (textOf (p :: ps)) = some (p.chars, textOf ps) := by
  have nothing := head?_textOf h name.isMark
  cases h.head with
  | @word cs nonempty inside =>
    obtain ⟨c, cs, rfl⟩ := List.exists_cons_of_ne_nil nonempty
    have plain := isWordChar_of_isNameChar (name c List.mem_cons_self)
    have stop := takeWhile_append_of_maximal
      (fun e he => isWordChar_of_isNameChar (name e (List.mem_cons_of_mem c he))) nothing
    rw [textOf_cons, Part.chars, List.cons_append, name?_cons (inside c List.mem_cons_self).2, if_pos plain, stop.1,
      stop.2]
  | quoted inside => exact name?_quoted name inside (textOf ps)
  | mark _ => cases name

theorem blanks?_blank (h : Spaced (.blank :: ps)) : blanks? (textOf (.blank :: ps)) = some (textOf ps) := by
  show some (trimLeft (textOf ps)) = _
  rw [trimLeft_textOf h]

theorem keyword?_textOf {cs : List Char} (letters : cs.map keywordLetter = w) (ps : List Part) :
    keyword? w (textOf (.word cs :: ps)) = some (textOf ps) := keyword?_append letters _

theorem phrase?_textOf {w : String} {cs : List Char} (h : Spaced (.blank :: .word cs :: ps))
    (letters : cs.map keywordLetter = w.toList) (ws : List String) :
    phrase? (w :: ws) (textOf (.blank :: .word cs :: ps)) = phrase? ws (textOf ps) := by
  rw [phrase?_cons, blanks?_blank h, Option.bind_some, keyword?_textOf letters, Option.bind_some]

/-- What makes a column with a name in front number the rows. -/
def rowidParts : List Part := spacedWords ["INTEGER", "PRIMARY", "KEY", "AUTOINCREMENT"]

theorem identityDeclaration?_textOf (h : Spaced (p :: (rowidParts ++ ps))) (name : p.IsName) :
    identityDeclaration? (textOf (p :: (rowidParts ++ ps))) = some p.chars := by
  have named := name?_textOf h name
  have phrase : phrase? ["integer", "primary", "key"] (textOf (rowidParts ++ ps)) =
      some (textOf (.blank :: .word "AUTOINCREMENT".toList :: ps)) := by
    have integer := phrase?_textOf h.tail (w := "integer") (by decide) ["primary", "key"]
    have primary := phrase?_textOf h.tail.tail.tail (w := "primary") (by decide) ["key"]
    have key := phrase?_textOf h.tail.tail.tail.tail.tail (w := "key") (by decide) []
    exact integer.trans (primary.trans key)
  have last : Spaced (.blank :: .word "AUTOINCREMENT".toList :: ps) := h.tail.tail.tail.tail.tail.tail.tail
  have auto := phrase?_textOf last (w := "autoincrement") (by decide) []
  have other : ∀ w ∈ ["asc", "desc"],
      phrase? [w] (textOf (.blank :: .word "AUTOINCREMENT".toList :: ps)) = none := by
    intro w hw
    rw [phrase?_cons, blanks?_blank last, Option.bind_some]
    rcases List.mem_cons.mp hw with rfl | hw
    · rfl
    · rw [List.mem_singleton.mp hw]
      rfl
  simp only [identityDeclaration?, named, Option.bind_eq_bind, Option.bind_some, phrase, other "asc" (by simp),
    other "desc" (by simp), Option.none_or, Option.getD_none, auto]
  rfl

/-- The declaration of a foreign key, up to the table that it refers to. -/
def clauseParts (name : Part) (columns : List Part) (refTable : Part) : List Part :=
  [Part.word "CONSTRAINT".toList, .blank, name] ++ spacedWords ["FOREIGN", "KEY"] ++
    Part.blank :: .mark '(' :: (joined (columns.map fun c => [c]) ++ [Part.mark ')']) ++
    spacedWords ["REFERENCES"] ++ [Part.blank, refTable]

theorem textOf_joined (columns : List Part) (p : Part) :
    textOf (joined ((p :: columns).map fun c => [c])) =
      p.chars ++ columns.flatMap fun c => ',' :: ' ' :: c.chars := by
  have rest : (columns.map fun c => [c]).flatMap (fun f => Part.comma :: Part.blank :: f) =
      columns.flatMap fun c => [.comma, .blank, c] := by
    rw [List.flatMap_map]
  rw [List.map_cons, joined, rest, textOf_append, textOf_cons, textOf_nil, List.append_nil]
  congr 1
  have each : ∀ c : Part, [Part.comma, .blank, c].flatMap Part.chars = ',' :: ' ' :: c.chars := by
    intro c
    simp [Part.comma, Part.blank, Part.chars]
  unfold textOf
  rw [List.flatMap_assoc]
  simp only [each]

private theorem splitOn_joined {columns : List Part} {cs : List Char} (first : ',' ∉ cs)
    (none : ∀ c ∈ columns, ',' ∉ c.chars) :
    splitOn ',' (cs ++ columns.flatMap fun c => ',' :: ' ' :: c.chars) = cs :: columns.map fun c => ' ' :: c.chars := by
  induction columns generalizing cs with
  | nil => simpa using splitOn_of_not_mem first
  | cons c columns ih =>
    have no_comma : ',' ∉ ' ' :: c.chars := by simpa using none c List.mem_cons_self
    have rest := ih no_comma fun e he => none e (List.mem_cons_of_mem c he)
    rw [List.flatMap_cons, List.cons_append, splitOn_append_of_not_mem first, rest, List.map_cons]

private theorem trimChars_name (name : p.IsName) (valid : p.Valid) :
    trimChars p.chars = p.chars ∧ trimChars (' ' :: p.chars) = p.chars := by
  have visible : ∀ c ∈ p.chars, isBlank c = false := by
    intro c hc
    rcases name.chars valid c hc with plain | rfl
    · exact isBlank_of_isNameChar plain
    · decide
  have in_front : trimLeft (' ' :: p.chars) = trimLeft p.chars := rfl
  have trimmed := trimChars_of_no_blank visible
  refine ⟨trimmed, ?_⟩
  rw [trimChars, in_front]
  exact trimmed

/-- The names in a list between parentheses are those of its parts. -/
theorem columnNames_joined {columns : List Part} (nonempty : columns ≠ []) (names : ∀ c ∈ columns, c.IsName ∧ c.Valid) :
    columnNames (textOf (joined (columns.map fun c => [c]))) = columns.map fun c => String.ofList c.content := by
  obtain ⟨p, columns, rfl⟩ := List.exists_cons_of_ne_nil nonempty
  have no_comma : ∀ c ∈ p :: columns, ',' ∉ c.chars := fun c hc =>
    (names c hc).1.not_mem (names c hc).2 (by decide) (by decide)
  rw [columnNames, textOf_joined, splitOn_joined (no_comma p List.mem_cons_self)
    fun c hc => no_comma c (List.mem_cons_of_mem p hc), List.map_cons, List.map_cons, List.map_map]
  have part : ∀ c ∈ p :: columns, String.ofList (unquoteChars (trimChars c.chars)) = String.ofList c.content ∧
      String.ofList (unquoteChars (trimChars (' ' :: c.chars))) = String.ofList c.content := by
    intro c hc
    have trimmed := trimChars_name (names c hc).1 (names c hc).2
    rw [trimmed.1, trimmed.2, (names c hc).1.unquoteChars (names c hc).2]
    exact ⟨rfl, rfl⟩
  rw [(part p List.mem_cons_self).1]
  congr 1
  exact List.map_congr_left fun c hc => (part c (List.mem_cons_of_mem p hc)).2

private theorem not_mem_textOf_joined {columns : List Part} (names : ∀ c ∈ columns, c.IsName ∧ c.Valid) :
    ')' ∉ textOf (joined (columns.map fun c => [c])) := by
  cases columns with
  | nil => exact List.not_mem_nil
  | cons p columns =>
    have none : ∀ c ∈ p :: columns, ')' ∉ c.chars := fun c hc =>
      (names c hc).1.not_mem (names c hc).2 (by decide) (by decide)
    rw [textOf_joined, List.mem_append, List.mem_flatMap]
    rintro (first | ⟨c, hc, later⟩)
    · exact none p List.mem_cons_self first
    · simp only [List.mem_cons, Char.reduceEq, false_or] at later
      exact none c (List.mem_cons_of_mem p hc) later

theorem foreignKeyClause?_textOf {n f : Part} {columns : List Part} (h : Spaced (clauseParts n columns f ++ ps))
    (name : n.IsName) (refTable : f.IsName) (nonempty : columns ≠ []) (names : ∀ c ∈ columns, c.IsName) (offset : Nat) :
    foreignKeyClause? offset (textOf (clauseParts n columns f ++ ps)) = some
      (⟨offset, String.ofList n.content, columns.map (fun c => String.ofList c.content), String.ofList f.content⟩,
        textOf ps) := by
  have valid : ∀ c ∈ columns, c.IsName ∧ c.Valid := by
    intro c hc
    refine ⟨names c hc, h.valid c ?_⟩
    have inside := mem_joined_of_mem (List.mem_map_of_mem (f := fun c => [c]) hc) (List.mem_singleton_self c)
    simp [clauseParts, inside]
  -- the parts behind the opening and the closing parenthesis
  obtain ⟨behind, hbehind⟩ : ∃ b, b = Part.blank :: .word "REFERENCES".toList :: .blank :: f :: ps := ⟨_, rfl⟩
  obtain ⟨inside, hinside⟩ : ∃ i, i = joined (columns.map fun c => [c]) ++ .mark ')' :: behind := ⟨_, rfl⟩
  have shape : clauseParts n columns f ++ ps = .word "CONSTRAINT".toList :: .blank :: n :: .blank ::
      .word "FOREIGN".toList :: .blank :: .word "KEY".toList :: .blank :: .mark '(' :: inside := by
    simp [clauseParts, spacedWords, hinside, hbehind]
  rw [shape] at h ⊢
  have spaced : Spaced behind := by
    have after := h.tail.tail.tail.tail.tail.tail.tail.tail.tail
    rw [hinside] at after
    exact after.of_append_right.tail
  have letters : "CONSTRAINT".toList.map keywordLetter = "constraint".toList := by decide
  have constraint := keyword?_textOf letters
    (.blank :: n :: .blank :: .word "FOREIGN".toList :: .blank :: .word "KEY".toList :: .blank :: .mark '(' :: inside)
  have blanks := blanks?_blank h.tail
  have named := name?_textOf h.tail.tail name
  have phrase := (phrase?_textOf h.tail.tail.tail (w := "foreign") (by decide) ["key"]).trans
    (phrase?_textOf h.tail.tail.tail.tail.tail (w := "key") (by decide) [])
  have opening : trimLeft (textOf (.blank :: .mark '(' :: inside)) = '(' :: textOf inside := rfl
  have closing : (textOf inside).takeWhile (· ≠ ')') = textOf (joined (columns.map fun c => [c])) ∧
      (textOf inside).dropWhile (· ≠ ')') = ')' :: textOf behind := by
    rw [hinside, textOf_append]
    exact takeWhile_ne_append_cons (not_mem_textOf_joined valid) (textOf behind)
  rw [hbehind] at spaced closing
  have references : keyword? "references".toList
      (trimLeft (textOf (.blank :: .word "REFERENCES".toList :: .blank :: f :: ps))) =
        some (textOf (.blank :: f :: ps)) := by
    have trimmed : trimLeft (textOf (.blank :: .word "REFERENCES".toList :: .blank :: f :: ps)) =
        textOf (.word "REFERENCES".toList :: .blank :: f :: ps) := trimLeft_textOf spaced
    rw [trimmed]
    exact keyword?_textOf (by decide) _
  have blanks' := blanks?_blank spaced.tail.tail
  have named' := name?_textOf spaced.tail.tail.tail refTable
  simp only [foreignKeyClause?, constraint, blanks, named, phrase, phrase?_nil, opening, closing.1, closing.2,
    references, blanks', named', Option.bind_eq_bind, Option.bind_some, columnNames_joined nonempty valid,
    name.unquoteChars h.tail.tail.head, refTable.unquoteChars spaced.tail.tail.tail.head]

end SqlSchema.CreateText
