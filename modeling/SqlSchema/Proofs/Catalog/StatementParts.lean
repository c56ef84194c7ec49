import SqlSchema.Dialect.Embedded
import SqlSchema.Proofs.Catalog.Declarations
import SqlSchema.Proofs.Dialect.Templates
import SqlSchema.Proofs.Dialect.WrittenNames
import SqlSchema.Proofs.Names
import SqlSchema.Proofs.Outcome
import SqlSchema.Script.Create

/-!
# The parts of a statement that creates a table

Where names are of ASCII letters, digits and underscores and a table has no literals or expressions (`PlainElement`),
the statement of SQLite that creates it is a text of spaced parts (`toList_sql_createTable`, `spaced_statementParts`).
The keywords that begin a declaration stand in these parts only where something is declared (`free_elementParts`): no
name reads like one of them, since it would be a reserved word and escaped (`letters_namePart_ne`).
-/

namespace SqlSchema.CreateText

/-- A name of ASCII letters, digits and underscores. -/
def PlainName (n : String) : Prop := ∀ c ∈ n.toList, isNameChar c = true

instance : DecidablePred PlainName := fun _ => decidable_of_iff _ List.all_eq_true

/-- The part that a name is in a statement of SQLite. -/
def namePart (quoted : Bool) (n : String) : Part :=
  if quoted then .quoted (Dialect.sqlite.escape n).toList else .word (Dialect.sqlite.escape n).toList

/-- The keywords that tell declarations apart from the rest of a statement. -/
def telling : List String := ["foreign", "primary"]

theorem telling_nonempty : ∀ w ∈ telling, w.toList ≠ [] := by decide

theorem foreign_mem_telling : "foreign" ∈ telling := by decide

theorem primary_mem_telling : "primary" ∈ telling := by decide

/-- Parts none of which is a keyword. -/
def Free (w : String) (ps : List Part) : Prop := ∀ p ∈ ps, p.letters ≠ w.toList

variable {quoted : Bool} {n w : String} {p : Part} {ps qs : List Part}

/-! ### Names -/

theorem escape_cases (d : Dialect) (n : String) :
    d.escape n = n ∧ (Text.endsWith (Text.lower n) Dialect.escapeEnding = true ∨ d.isReserved n = false) ∨
      d.escape n = n ++ Dialect.escapeEnding := by
  unfold Dialect.escape
  split
  · rename_i kept
    exact .inl ⟨rfl, by simpa using kept⟩
  · exact .inr rfl

theorem PlainName.escape (plain : PlainName n) : PlainName (Dialect.sqlite.escape n) := by
  have ending : Dialect.escapeEnding.toList.all isNameChar = true := by decide
  rcases escape_cases Dialect.sqlite n with ⟨kept, -⟩ | escaped
  · rwa [kept]
  · rw [escaped]
    intro c hc
    rw [String.toList_append, List.mem_append] at hc
    rcases hc with hc | hc
    · exact plain c hc
    · exact List.all_eq_true.mp ending c hc

theorem escape_ne_nil (nonempty : n ≠ "") : (Dialect.sqlite.escape n).toList ≠ [] := by
  have chars : n.toList ≠ [] := fun none => nonempty (String.toList_eq_nil_iff.mp none)
  rcases escape_cases Dialect.sqlite n with ⟨kept, -⟩ | escaped
  · rwa [kept]
  · rw [escaped, String.toList_append]
    simp [chars]

theorem ne_empty_of_valid (valid : Identifier.Valid n) : n ≠ "" := by
  rintro rfl
  exact valid.not_blank rfl

theorem chars_namePart (plain : PlainName n) : (Style.name ⟨.sqlite, quoted⟩ n).toList = (namePart quoted n).chars := by
  cases quoted with
  | false =>
    simp only [Style.name, Dialect.render, Bool.false_eq_true, if_false, namePart, Part.chars]
  | true =>
    have no_quote : '"' ∉ (Dialect.sqlite.escape n).toList := fun quote =>
      absurd (plain.escape _ quote) (by decide)
    have text : (Style.name ⟨.sqlite, true⟩ n).toList =
        Text.delimited '"' '"' (Dialect.sqlite.escape n).toList := QuoteStyle.toList_quote _ _
    rw [text, Text.delimited, Text.double_of_not_mem no_quote]
    rfl

theorem namePart_ne (nonempty : n ≠ "") : namePart quoted n ≠ .word [] := by
  cases quoted with
  | true => exact nofun
  | false => exact fun none => escape_ne_nil nonempty (Part.word.inj none)

theorem valid_namePart (plain : PlainName n) (some_part : namePart quoted n ≠ .word []) :
    (namePart quoted n).Valid := by
  cases quoted with
  | true => exact .quoted plain.escape
  | false =>
    refine .word (fun none => some_part (congrArg Part.word none)) fun c hc => ?_
    have name := plain.escape c hc
    exact ⟨isBlank_of_isNameChar name, not_mem_of_isNameChar name (by decide)⟩

theorem isName_namePart (plain : PlainName n) (nonempty : n ≠ "") : (namePart quoted n).IsName := by
  cases quoted with
  | true => exact escape_ne_nil nonempty
  | false => exact plain.escape

theorem content_namePart : (namePart quoted n).content = (Dialect.sqlite.escape n).toList := by
  cases quoted <;> rfl

private theorem keywordLetter_of_isNameChar {c : Char} (h : isNameChar c = true) : keywordLetter c = c.toLower := by
  have ascii := toNat_lt_of_isNameChar h
  have other {d : Char} (wide : 128 ≤ d.toNat) : c ≠ d := (Text.ne_of_wide wide ascii).symm
  rw [keywordLetter, if_neg (other (by decide)), if_neg (other (by decide))]

/-- No name reads like a keyword that begins a declaration: it would be reserved. -/
theorem letters_namePart_ne (plain : PlainName n) (hw : w ∈ telling) : (namePart quoted n).letters ≠ w.toList := by
  have facts : ∀ w ∈ telling, w.toList ≠ [] ∧ Dialect.sqlite.isReserved w = true ∧ Text.lower w = w ∧
      w.toList.contains '_' = false := by decide +kernel
  obtain ⟨nonempty, reserved, small, no_underscore⟩ := facts w hw
  cases quoted with
  | true => exact Ne.symm nonempty
  | false =>
    intro same
    have letters : (namePart false n).letters = (Dialect.sqlite.escape n).toList.map keywordLetter := rfl
    have lower : Text.lower (Dialect.sqlite.escape n) = w := by
      rw [← String.toList_inj, Text.toList_lower, ← same, letters]
      exact List.map_congr_left fun c hc => (keywordLetter_of_isNameChar (plain.escape c hc)).symm
    have ending : ∀ m : String, Text.endsWith (Text.lower m) Dialect.escapeEnding = true → Text.lower m ≠ w := by
      rintro m ends rfl
      have inside : '_' ∈ (Text.lower m).toList := (List.isSuffixOf_iff_suffix.mp ends).mem (by decide)
      rw [List.contains_eq_mem, decide_eq_false_iff_not] at no_underscore
      exact no_underscore inside
    rcases escape_cases Dialect.sqlite n with ⟨kept, ends | free⟩ | escaped
    · rw [kept] at lower
      exact ending n ends lower
    · rw [kept] at lower
      have alike : Text.sameName n w = true := by rw [Text.sameName_iff, lower, small]
      rw [Dialect.isReserved_eq_of_sameName alike, reserved] at free
      cases free
    · rw [escaped] at lower
      refine ending (n ++ Dialect.escapeEnding) ?_ lower
      have small_ending : Text.lower Dialect.escapeEnding = Dialect.escapeEnding := by decide +kernel
      rw [Text.lower_append, small_ending]
      refine List.isSuffixOf_iff_suffix.mpr ?_
      rw [String.toList_append]
      exact List.suffix_append _ _

/-! ### Types -/

/-- Whether a template of a type gives a word that is no keyword that begins a declaration, whatever the parameters. -/
private def makesWord (template : String) : Bool :=
  ((Template.pieces template.toList).all fun piece => piece.atoms.all fun
    | .char c => !Text.isBlank c && !openings.contains c
    | .slot _ => true) &&
  (Template.pieces template.toList).any fun
    | .atom (.char c) => telling.all fun w => !w.toList.contains (keywordLetter c)
    | _ => false

private theorem paramSlot_isNameChar {p : TypeParams} {letter : Char} {text : String}
    (found : Dialect.paramSlot p letter = some text) : ∀ c ∈ text.toList, isNameChar c = true := by
  obtain ⟨m, rfl⟩ := Dialect.exists_of_paramSlot found
  intro c hc
  have digit : c.isDigit = true := Text.isDigit_of_mem_toDigits (n := m) (by simpa using hc)
  simp [isNameChar, Char.isAlphanum, digit]

/-- The type of a column is a word that begins no declaration. -/
theorem typeClause_sqlite {t : ColumnType} {p : TypeParams} {text : String}
    (h : Dialect.sqlite.typeClause t p = .ok text) :
    (Part.word text.toList).Valid ∧ ∀ w ∈ telling, (Part.word text.toList).letters ≠ w.toList := by
  have spellings : ∀ r ∈ Dialect.sqlite.typeRules, r.overflow = none ∧ makesWord r.template = true := by decide +kernel
  obtain ⟨-, r, found, rfl⟩ := Dialect.typeClause_eq_ok_iff.mp h
  obtain ⟨no_overflow, word⟩ := spellings r (List.mem_of_find?_eq_some found)
  have usual : Dialect.templateFor r p = r.template := by
    rw [Dialect.templateFor, no_overflow]
  rw [usual]
  rw [makesWord, Bool.and_eq_true, List.all_eq_true, List.any_eq_true] at word
  obtain ⟨visible, piece, inside, foreign_letter⟩ := word
  obtain ⟨c, rfl, other⟩ : ∃ c, piece = .atom (.char c) ∧ ∀ w ∈ telling, keywordLetter c ∉ w.toList := by
    split at foreign_letter
    · rename_i c
      exact ⟨c, rfl, fun w hw => by simpa using List.all_eq_true.mp foreign_letter w hw⟩
    · cases foreign_letter
  have stands : c ∈ (Template.fill r.template (Dialect.paramSlot p)).toList := Template.mem_fill_of_char inside
  constructor
  · refine .word (List.ne_nil_of_mem stands) fun e he => ?_
    rcases Template.mem_fill he with ⟨piece, inside, char⟩ | ⟨letter, value, shown, he⟩
    · simpa using List.all_eq_true.mp (visible piece inside) _ char
    · have name := paramSlot_isNameChar shown e he
      exact ⟨isBlank_of_isNameChar name, not_mem_of_isNameChar name (by decide)⟩
  · intro w hw same
    refine other w hw ?_
    rw [← same]
    exact List.mem_map_of_mem stands

/-! ### Lists of parts -/

theorem Free.append (h : Free w ps) (k : Free w qs) : Free w (ps ++ qs) := by
  intro p hp
  rcases List.mem_append.mp hp with hp | hp
  · exact h p hp
  · exact k p hp

theorem Free.cons (h : p.letters ≠ w.toList) (k : Free w ps) : Free w (p :: ps) := by
  have first : Free w [p] := by simpa [Free] using h
  exact first.append k

theorem Free.nil : Free w [] := nofun

theorem free_marks (hw : w ∈ telling) (cs : List Char) : Free w (cs.map .mark) := by
  intro p hp
  obtain ⟨c, -, rfl⟩ := List.mem_map.mp hp
  exact Ne.symm (telling_nonempty w hw)

theorem free_words (hw : w ∈ telling) {ws : List String} (h : ∀ v ∈ ws, (Part.word v.toList).letters ≠ w.toList) :
    Free w (spacedWords ws) := by
  intro p hp
  obtain ⟨v, hv, hp⟩ := List.mem_flatMap.mp hp
  rcases List.mem_cons.mp hp with rfl | hp
  · exact Ne.symm (telling_nonempty w hw)
  · rw [List.mem_singleton.mp hp]
    exact h v hv

theorem Free.joined (hw : w ∈ telling) {es : List (List Part)} (h : ∀ e ∈ es, Free w e) : Free w (joined es) := by
  intro p hp
  rcases mem_joined hp with rfl | rfl | ⟨e, he, hp⟩
  · exact Ne.symm (telling_nonempty w hw)
  · exact Ne.symm (telling_nonempty w hw)
  · exact h e he p hp

theorem toList_intercalate {α : Type} {xs : List α} {text : α → String} {parts : α → List Part}
    (h : ∀ x ∈ xs, (text x).toList = textOf (parts x)) :
    (", ".intercalate (xs.map text)).toList = textOf (joined (xs.map parts)) := by
  induction xs with
  | nil => rfl
  | cons x xs ih =>
    have first := h x List.mem_cons_self
    have rest := ih fun y hy => h y (List.mem_cons_of_mem x hy)
    cases xs with
    | nil => simp [joined, String.intercalate_singleton, first]
    | cons y ys =>
      rw [List.map_cons (f := parts), joined_cons (by simp), textOf_append, textOf_cons, textOf_cons, ← rest, ← first,
        List.map_cons, List.map_cons, String.intercalate_cons_cons, String.toList_append, String.toList_append,
        List.append_assoc]
      rfl

/-- The parts of a name that may be empty. -/
def nameParts (quoted : Bool) (n : String) : List Part :=
  if namePart quoted n = .word [] then [] else [namePart quoted n]

theorem nameParts_of_nonempty (nonempty : n ≠ "") : nameParts quoted n = [namePart quoted n] :=
  if_neg (namePart_ne nonempty)

theorem textOf_nameParts (quoted : Bool) (n : String) : textOf (nameParts quoted n) = (namePart quoted n).chars := by
  unfold nameParts
  split
  · rename_i none
    rw [none]
    rfl
  · simp

theorem spaced_nameParts (plain : PlainName n) :
    Spaced (nameParts quoted n) ∧ ∀ p ∈ (nameParts quoted n).head?, p ≠ .blank := by
  unfold nameParts
  split
  · exact ⟨⟨nofun, .nil⟩, nofun⟩
  · rename_i some_part
    refine ⟨.singleton (valid_namePart plain some_part), ?_⟩
    rintro p ⟨⟩ same
    cases quoted <;> cases same

theorem free_nameParts (hw : w ∈ telling) (plain : PlainName n) : Free w (nameParts quoted n) := by
  unfold nameParts
  split
  · exact .nil
  · exact .cons (letters_namePart_ne plain hw) .nil

/-- A list of names in parentheses. -/
def listParts (quoted : Bool) (ns : List String) : List Part :=
  Part.blank :: .mark '(' :: (joined (ns.map (nameParts quoted)) ++ [Part.mark ')'])

theorem spaced_joined_names {ns : List String} (plain : ∀ n ∈ ns, PlainName n) :
    Spaced (joined (ns.map (nameParts quoted))) := by
  refine Spaced.joined fun e he => ?_
  obtain ⟨n, hn, rfl⟩ := List.mem_map.mp he
  exact spaced_nameParts (plain n hn)

theorem textOf_listParts {ns : List String} (plain : ∀ n ∈ ns, PlainName n) :
    textOf (listParts quoted ns) = (" (" ++ Style.names ⟨.sqlite, quoted⟩ ns ++ ")").toList := by
  have names : (Style.names ⟨.sqlite, quoted⟩ ns).toList = textOf (joined (ns.map (nameParts quoted))) := by
    refine toList_intercalate fun n hn => ?_
    rw [textOf_nameParts, chars_namePart (plain n hn)]
  rw [String.toList_append, String.toList_append, names]
  simp [listParts, Part.blank, Part.chars]

theorem free_listParts (quoted : Bool) (hw : w ∈ telling) {ns : List String} (plain : ∀ n ∈ ns, PlainName n) :
    Free w (listParts quoted ns) := by
  have names : Free w (joined (ns.map (nameParts quoted))) := by
    refine Free.joined hw fun e he => ?_
    obtain ⟨n, hn, rfl⟩ := List.mem_map.mp he
    exact free_nameParts hw (plain n hn)
  exact (free_marks hw [' ', '(']).append (names.append (free_marks hw [')']))

theorem listParts_of_nonempty {ns : List String} (nonempty : ∀ n ∈ ns, n ≠ "") :
    listParts quoted ns =
      Part.blank :: .mark '(' :: (joined ((ns.map (namePart quoted)).map fun p => [p]) ++ [Part.mark ')']) := by
  have single : ns.map (nameParts quoted) = (ns.map (namePart quoted)).map fun p => [p] := by
    rw [List.map_map]
    exact List.map_congr_left fun n hn => nameParts_of_nonempty (nonempty n hn)
  rw [listParts, single]

theorem Block.list (h : Block ps) (quoted : Bool) {ns : List String} (plain : ∀ n ∈ ns, PlainName n) :
    Block (ps ++ listParts quoted ns) := h.group (spaced_joined_names plain)

/-! ### Elements of a table -/

/-- The parts of the type of a column. -/
def typeParts : TypePart → List Part
  | .clause text | .serial text => [.blank, .word text.toList]
  | .rowid => rowidParts

/-- The words for what happens on an event. -/
def actionWords (event : String) : Option RefAction → List String
  | none => []
  | some a => "ON" :: event :: (Text.splitOn ' ' a.sql.toList).map String.ofList

/-- The parts of what a foreign key says of the table that it refers to. -/
def referenceParts (quoted : Bool) (f : ForeignKey) : List Part :=
  listParts quoted f.refColumns ++ spacedWords (actionWords "DELETE" f.onDelete ++ actionWords "UPDATE" f.onUpdate)

/-- The parts of an element of a table. -/
def elementParts (quoted : Bool) : TableElement → List Part
  | .column d =>
    namePart quoted d.name :: (typeParts d.type ++ spacedWords (if d.notNull then ["NOT", "NULL"] else []))
  | .primaryKey ns => .word "PRIMARY".toList :: (spacedWords ["KEY"] ++ listParts quoted ns)
  | .foreignKey f =>
    clauseParts (namePart quoted f.name) (f.columns.map (namePart quoted)) (namePart quoted f.refTable) ++
      referenceParts quoted f

/-- The keywords in an element that tell what it declares. -/
def tells : TableElement → List String
  | .column d => if d.type = .rowid then ["primary"] else []
  | .primaryKey _ => ["primary"]
  | .foreignKey _ => ["foreign"]

/-- A type that is one word. -/
def PlainType : TypePart → Prop
  | .clause text | .serial text =>
    (Part.word text.toList).Valid ∧ ∀ w ∈ telling, (Part.word text.toList).letters ≠ w.toList
  | .rowid => True

/-- An element of a table in which there are plain names and nothing but words besides. -/
inductive PlainElement : TableElement → Prop where
  | column {d : ColumnDefinition} (name : PlainName d.name) (nonempty : d.name ≠ "") (type : PlainType d.type)
    (no_default : d.default = none) (no_generation : d.generation = none) (no_check : d.check = none)
    (no_comment : d.comment = none) : PlainElement (.column d)
  | primaryKey {ns : List String} (names : ∀ n ∈ ns, PlainName n) : PlainElement (.primaryKey ns)
  | foreignKey {f : ForeignKey} (name : PlainName f.name ∧ f.name ≠ "") (has_columns : f.columns ≠ [])
    (columns : ∀ n ∈ f.columns, PlainName n ∧ n ≠ "") (refTable : PlainName f.refTable ∧ f.refTable ≠ "")
    (refColumns : ∀ n ∈ f.refColumns, PlainName n) : PlainElement (.foreignKey f)

variable {e : TableElement}

theorem block_namePart (quoted : Bool) (plain : PlainName n) (nonempty : n ≠ "") : Block [namePart quoted n] :=
  .singleton (valid_namePart plain (namePart_ne nonempty)) (isName_namePart plain nonempty).isMark

/-- A keyword that tells nothing. -/
def Quiet (v : String) : Prop :=
  isKeyword v.toList = true ∧ ∀ w ∈ telling, (Part.word v.toList).letters ≠ w.toList

instance : DecidablePred Quiet := fun _ => inferInstanceAs (Decidable (_ ∧ _))

private theorem quiet_actionWords {event : String} (known : event ∈ ["DELETE", "UPDATE"]) (a : Option RefAction) :
    ∀ v ∈ actionWords event a, Quiet v := by
  have each : ∀ event ∈ ["DELETE", "UPDATE"], ∀ a ∈ RefAction.all, ∀ v ∈ actionWords event (some a), Quiet v := by
    decide +kernel
  cases a with
  | none => exact nofun
  | some a => exact each event known a (by cases a <;> decide)

private theorem textOf_actionWords {event : String} (known : event ∈ ["DELETE", "UPDATE"]) (a : Option RefAction) :
    textOf (spacedWords (actionWords event a)) = ((a.map fun a => " ON " ++ event ++ " " ++ a.sql).getD "").toList := by
  have each : ∀ event ∈ ["DELETE", "UPDATE"], ∀ a ∈ RefAction.all,
      textOf (spacedWords (actionWords event (some a))) = (" ON " ++ event ++ " " ++ a.sql).toList := by decide +kernel
  cases a with
  | none => rfl
  | some a => exact each event known a (by cases a <;> decide)

/-- The words for the actions of a foreign key. -/
private theorem quiet_actions (f : ForeignKey) :
    ∀ v ∈ actionWords "DELETE" f.onDelete ++ actionWords "UPDATE" f.onUpdate, Quiet v := by
  intro v hv
  rcases List.mem_append.mp hv with hv | hv
  · exact quiet_actionWords (by decide) f.onDelete v hv
  · exact quiet_actionWords (by decide) f.onUpdate v hv

theorem clauseParts_of_nonempty {f : ForeignKey} (nonempty : ∀ n ∈ f.columns, n ≠ "") :
    clauseParts (namePart quoted f.name) (f.columns.map (namePart quoted)) (namePart quoted f.refTable) =
      [Part.word "CONSTRAINT".toList] ++ Part.blank :: [namePart quoted f.name] ++ spacedWords ["FOREIGN", "KEY"] ++
        listParts quoted f.columns ++ spacedWords ["REFERENCES"] ++ Part.blank :: [namePart quoted f.refTable] := by
  rw [listParts_of_nonempty nonempty]
  rfl

theorem block_elementParts (h : PlainElement e) : Block (elementParts quoted e) := by
  cases h with
  | @column d name nonempty type no_default no_generation no_check no_comment =>
    have typed : Block ([namePart quoted d.name] ++ typeParts d.type) := by
      cases kind : d.type with
      | clause text =>
        rw [kind] at type
        exact (block_namePart quoted name nonempty).next (.singleton type.1 rfl)
      | serial text =>
        rw [kind] at type
        exact (block_namePart quoted name nonempty).next (.singleton type.1 rfl)
      | rowid => exact (block_namePart quoted name nonempty).words _ (by decide)
    have block := typed.words (if d.notNull then ["NOT", "NULL"] else []) (by split <;> decide)
    simpa [elementParts] using block
  | @primaryKey ns names =>
    have primary : Block [.word "PRIMARY".toList] := .singleton (valid_keyword (by decide)) rfl
    have block := (primary.words ["KEY"] (by decide)).list quoted names
    simpa [elementParts] using block
  | @foreignKey f name has_columns columns refTable refColumns =>
    have constraint : Block [.word "CONSTRAINT".toList] := .singleton (valid_keyword (by decide)) rfl
    have keywords := (constraint.next (block_namePart quoted name.1 name.2)).words ["FOREIGN", "KEY"] (by decide)
    have list := keywords.list quoted fun n hn => (columns n hn).1
    have clause := (list.words ["REFERENCES"] (by decide)).next (block_namePart quoted refTable.1 refTable.2)
    rw [← clauseParts_of_nonempty fun n hn => (columns n hn).2] at clause
    have block := (clause.list quoted refColumns).words _ fun v hv => (quiet_actions f v hv).1
    simpa [elementParts, referenceParts] using block

theorem textOf_typeParts (t : TypePart) : textOf (typeParts t) = (" " ++ t.sql).toList := by
  cases t with
  | clause text => simp [typeParts, TypePart.sql, Part.blank, Part.chars]
  | serial text => simp [typeParts, TypePart.sql, Part.blank, Part.chars]
  | rowid => decide +kernel

theorem textOf_referenceParts (quoted : Bool) {f : ForeignKey} (plain : ∀ n ∈ f.refColumns, PlainName n) :
    textOf (referenceParts quoted f) =
      (" (" ++ Style.names ⟨.sqlite, quoted⟩ f.refColumns ++ ")" ++ Style.actions ⟨.sqlite, quoted⟩ f).toList := by
  have split : spacedWords (actionWords "DELETE" f.onDelete ++ actionWords "UPDATE" f.onUpdate) =
      spacedWords (actionWords "DELETE" f.onDelete) ++ spacedWords (actionWords "UPDATE" f.onUpdate) :=
    List.flatMap_append
  rw [referenceParts, split, textOf_append, textOf_append, textOf_listParts plain, textOf_actionWords (by decide),
    textOf_actionWords (by decide), ← String.toList_append, ← String.toList_append]
  rfl

theorem textOf_elementParts (quoted : Bool) (h : PlainElement e) :
    textOf (elementParts quoted e) = (e.sql ⟨.sqlite, quoted⟩).toList := by
  cases h with
  | @column d name nonempty type no_default no_generation no_check no_comment =>
    have sql : ∀ s : Style, d.sql s =
        s.name d.name ++ (" " ++ d.type.sql ++ if d.notNull then " NOT NULL" else "") := by
      intro s
      simp only [ColumnDefinition.sql, ColumnDefinition.generationSql, no_default, no_generation, no_check, no_comment,
        Option.map_none, Option.getD_none, String.append_empty, String.append_assoc]
    have behind : textOf (spacedWords (if d.notNull then ["NOT", "NULL"] else [])) =
        (if d.notNull then " NOT NULL" else "").toList := by
      split <;> decide
    rw [elementParts, textOf_cons, textOf_append, textOf_typeParts, behind, ← chars_namePart name,
      ← String.toList_append, ← String.toList_append, ← sql]
    rfl
  | @primaryKey ns names =>
    have keywords : textOf (.word "PRIMARY".toList :: spacedWords ["KEY"]) = "PRIMARY KEY".toList := by decide
    have sql : ∀ s : Style, (TableElement.primaryKey ns).sql s = "PRIMARY KEY" ++ " (" ++ s.names ns ++ ")" :=
      fun _ => rfl
    rw [elementParts, ← List.cons_append, textOf_append, keywords, textOf_listParts names, ← String.toList_append, sql,
      String.append_assoc, String.append_assoc, String.append_assoc]
  | @foreignKey f name has_columns columns refTable refColumns =>
    have words : textOf (spacedWords ["FOREIGN", "KEY"]) = " FOREIGN KEY".toList ∧
        textOf (spacedWords ["REFERENCES"]) = " REFERENCES".toList ∧
        textOf [.word "CONSTRAINT".toList] = "CONSTRAINT".toList := by decide
    have sql : ∀ s : Style, (TableElement.foreignKey f).sql s = "CONSTRAINT " ++ s.name f.name ++ " FOREIGN KEY (" ++
      s.names f.columns ++ ") REFERENCES " ++ s.name f.refTable ++ " (" ++ s.names f.refColumns ++ ")" ++ s.actions f :=
      fun _ => rfl
    rw [elementParts, clauseParts_of_nonempty fun n hn => (columns n hn).2, sql]
    simp only [textOf_append, textOf_cons .blank, textOf_cons (namePart _ _), textOf_nil, words,
      textOf_listParts fun n hn => (columns n hn).1, textOf_referenceParts quoted refColumns, String.toList_append,
      chars_namePart name.1, chars_namePart refTable.1, List.append_nil, List.append_assoc]
    rfl

/-- What a foreign key says of the table that it refers to declares nothing. -/
theorem free_referenceParts (hw : w ∈ telling) {f : ForeignKey} (plain : ∀ n ∈ f.refColumns, PlainName n) :
    Free w (referenceParts quoted f) :=
  (free_listParts quoted hw plain).append (free_words hw fun v hv => (quiet_actions f v hv).2 w hw)

/-- The keywords that tell declarations apart stand only where something of their kind is declared. -/
theorem free_elementParts (quoted : Bool) (h : PlainElement e) (hw : w ∈ telling) (other : w ∉ tells e) :
    Free w (elementParts quoted e) := by
  have quiet : ∀ v ∈ ["NOT", "NULL", "KEY", "CONSTRAINT", "REFERENCES"], Quiet v := by decide
  have blank : Part.blank.letters ≠ w.toList := Ne.symm (telling_nonempty w hw)
  cases h with
  | @column d name nonempty type no_default no_generation no_check no_comment =>
    have typed : Free w (typeParts d.type) := by
      cases kind : d.type with
      | clause text =>
        rw [kind] at type
        exact .cons blank (.cons (type.2 w hw) .nil)
      | serial text =>
        rw [kind] at type
        exact .cons blank (.cons (type.2 w hw) .nil)
      | rowid =>
        have each : ∀ w ∈ telling, w ∉ ["primary"] → ∀ v ∈ ["INTEGER", "PRIMARY", "KEY", "AUTOINCREMENT"],
            (Part.word v.toList).letters ≠ w.toList := by decide
        rw [tells, if_pos kind] at other
        exact free_words hw (each w hw other)
    refine .cons (letters_namePart_ne name hw) (typed.append (free_words hw fun v hv => (quiet v ?_).2 w hw))
    split at hv
    · exact List.mem_of_mem_take (i := 2) hv
    · cases hv
  | @primaryKey ns names =>
    have primary : ∀ w ∈ telling, w ∉ ["primary"] → (Part.word "PRIMARY".toList).letters ≠ w.toList := by decide
    refine .cons (primary w hw other) ((free_words hw fun v hv => (quiet v ?_).2 w hw).append
      (free_listParts quoted hw names))
    rw [List.mem_singleton.mp hv]
    decide
  | @foreignKey f name has_columns columns refTable refColumns =>
    have foreign : ∀ w ∈ telling, w ∉ ["foreign"] → ∀ v ∈ ["FOREIGN", "KEY"],
        (Part.word v.toList).letters ≠ w.toList := by decide
    rw [elementParts, clauseParts_of_nonempty fun n hn => (columns n hn).2]
    have list := free_listParts quoted hw fun n hn => (columns n hn).1
    have constraint : Free w [.word "CONSTRAINT".toList] := .cons ((quiet "CONSTRAINT" (by decide)).2 w hw) .nil
    have name : Free w (.blank :: [namePart quoted f.name]) := .cons blank (.cons (letters_namePart_ne name.1 hw) .nil)
    have refTable : Free w (.blank :: [namePart quoted f.refTable]) :=
      .cons blank (.cons (letters_namePart_ne refTable.1 hw) .nil)
    have references : Free w (spacedWords ["REFERENCES"]) := by
      refine free_words hw fun v hv => (quiet v ?_).2 w hw
      rw [List.mem_singleton.mp hv]
      decide
    exact (((((constraint.append name).append (free_words hw (foreign w hw other))).append list).append
      references).append refTable).append (free_referenceParts hw refColumns)

/-! ### The statement -/

/-- The parts of the statement that creates a table. -/
def statementParts (quoted : Bool) (table : String) (elements : List TableElement) : List Part :=
  [Part.word "CREATE".toList] ++ spacedWords ["TABLE"] ++ Part.blank :: [namePart quoted table] ++
    Part.blank :: .mark '(' :: (joined (elements.map (elementParts quoted)) ++ [Part.mark ')'])

/-- The parts in front of an element. -/
def partsBefore (quoted : Bool) (table : String) (before : List TableElement) : List Part :=
  [Part.word "CREATE".toList] ++ spacedWords ["TABLE"] ++ Part.blank :: [namePart quoted table] ++
    [Part.blank, .mark '('] ++ before.flatMap fun e => elementParts quoted e ++ [Part.comma, .blank]

/-- The parts of further elements, behind an element. -/
def further (quoted : Bool) (after : List TableElement) : List Part :=
  after.flatMap fun e => .comma :: .blank :: elementParts quoted e

theorem statementParts_append_cons (quoted : Bool) (table : String) (before : List TableElement) (e : TableElement)
    (after : List TableElement) :
    statementParts quoted table (before ++ e :: after) =
      partsBefore quoted table before ++ (elementParts quoted e ++ (further quoted after ++ [Part.mark ')'])) := by
  rw [statementParts, List.map_append, List.map_cons, joined_append_cons, List.flatMap_map, List.flatMap_map]
  simp [partsBefore, further]

theorem free_partsBefore (quoted : Bool) {table : String} (plain : PlainName table) (hw : w ∈ telling)
    {before : List TableElement} (h : ∀ e ∈ before, PlainElement e ∧ w ∉ tells e) :
    Free w (partsBefore quoted table before) := by
  have quiet : ∀ v ∈ ["CREATE", "TABLE"], Quiet v := by decide
  have opening : Free w ([Part.word "CREATE".toList] ++ spacedWords ["TABLE"]) := by
    refine (Free.cons ((quiet "CREATE" (by decide)).2 w hw) .nil).append (free_words hw fun v hv => ?_)
    exact (quiet v (List.mem_cons_of_mem _ hv)).2 w hw
  have named : Free w (.blank :: [namePart quoted table]) :=
    .cons (Ne.symm (telling_nonempty w hw)) (.cons (letters_namePart_ne plain hw) .nil)
  refine ((opening.append named).append (free_marks hw [' ', '('])).append fun p hp => ?_
  obtain ⟨e, he, hp⟩ := List.mem_flatMap.mp hp
  exact (free_elementParts quoted (h e he).1 hw (h e he).2).append (free_marks hw [',', ' ']) p hp

theorem free_further (quoted : Bool) (hw : w ∈ telling) {after : List TableElement}
    (h : ∀ e ∈ after, PlainElement e ∧ w ∉ tells e) :
    Free w (further quoted after ++ [Part.mark ')']) := by
  refine Free.append (fun p hp => ?_) (free_marks hw [')'])
  obtain ⟨e, he, hp⟩ := List.mem_flatMap.mp hp
  exact (free_marks hw [',', ' ']).append (free_elementParts quoted (h e he).1 hw (h e he).2) p hp

theorem spaced_statementParts (quoted : Bool) {table : String} (plain : PlainName table) (nonempty : table ≠ "")
    {elements : List TableElement} (h : ∀ e ∈ elements, PlainElement e) :
    Spaced (statementParts quoted table elements) := by
  have create : Block [.word "CREATE".toList] := .singleton (valid_keyword (by decide)) rfl
  have named := (create.words ["TABLE"] (by decide)).next (block_namePart quoted plain nonempty)
  refine (named.group (Spaced.joined fun ps hps => ?_)).spaced
  obtain ⟨e, he, rfl⟩ := List.mem_map.mp hps
  exact ⟨(block_elementParts (h e he)).spaced, (block_elementParts (h e he)).first_ne⟩

theorem toList_sql_createTable {table : String} (plain : PlainName table) {elements : List TableElement}
    (h : ∀ e ∈ elements, PlainElement e) :
    ((Statement.createTable table elements none none).sql ⟨.sqlite, quoted⟩).toList =
      textOf (statementParts quoted table elements) := by
  have sql : ∀ s : Style, (Statement.createTable table elements none none).sql s =
      "CREATE TABLE" ++ " " ++ s.name table ++ " (" ++ ", ".intercalate (elements.map (TableElement.sql s)) ++ ")" := by
    intro s
    rw [Statement.sql_createTable, Option.map_none, Option.map_none, Option.getD_none, String.append_empty,
      String.append_empty]
    rfl
  have list := toList_intercalate fun e he => (textOf_elementParts quoted (h e he)).symm
  have keywords : textOf ([.word "CREATE".toList] ++ spacedWords ["TABLE"]) = "CREATE TABLE".toList := by decide
  rw [sql, statementParts, textOf_append, textOf_append, keywords]
  simp only [String.toList_append, list, chars_namePart plain, textOf_append, textOf_cons, textOf_nil, List.append_nil,
    List.append_assoc]
  rfl

end SqlSchema.CreateText
