import Mathlib.Data.List.Basic
import SqlSchema.Dialect.Embedded
import SqlSchema.Proofs.Catalog.SpacedText
import SqlSchema.Proofs.Table.Parts
import SqlSchema.Script.Create
import SqlSchema.Script.Text

/-!
# Quoted names in the text of a table

A quoted name holds its closing delimiter twice wherever the name has it. `unquote` cuts off the delimiters around the
name and leaves the doubled ones (`unquote_quote`), and where a name is read from a text it ends at the first closing
delimiter, which for such a name is not the last (`name?_quote_eq_some_iff`). So a name is found again in a text, and
in the declarations that begin with it, exactly if it is `Recoverable` (`quoted_names_recovered_iff`): it has a
character, and none of them is the closing delimiter.
-/

namespace SqlSchema.CreateText

open Text

/-- A name that is found again where it stands between delimiters. -/
structure Recoverable (q : QuoteStyle) (n : String) : Prop where
  some_char : n ≠ ""
  no_closing : q.closing ∉ n.toList

variable {q : QuoteStyle} {n refTable : String} {columns : List String} {cs name rest after : List Char}

theorem closing?_opening (q : QuoteStyle) : closing? q.opening = some q.closing := by
  cases q <;> decide

theorem isBlank_opening (q : QuoteStyle) : isBlank q.opening = false := by
  cases q <;> decide

theorem isBlank_closing (q : QuoteStyle) : isBlank q.closing = false := by
  cases q <;> decide

/-- The delimiters around a name are cut off, and those inside stay doubled. -/
theorem unquoteChars_delimited (q : QuoteStyle) (cs : List Char) :
    unquoteChars (delimited q.opening q.closing cs) = double q.closing cs := by
  rw [delimited, unquoteChars, closing?_opening]
  simp

theorem unquote_quote (q : QuoteStyle) (n : String) : (unquote (q.quote n)).toList = double q.closing n.toList := by
  rw [unquote, String.toList_ofList, QuoteStyle.toList_quote, unquoteChars_delimited]

theorem unquote_quote_eq_self_iff : unquote (q.quote n) = n ↔ q.closing ∉ n.toList := by
  rw [← String.toList_inj, unquote_quote, double_eq_self_iff]

/-! ### Names at the start of a text -/

theorem name?_opening (q : QuoteStyle) (cs : List Char) :
    name? (q.opening :: cs) = delimitedName? q.opening q.closing cs := by
  cases q <;> rfl

theorem name?_delimited_eq_some_iff : name? (delimited q.opening q.closing cs ++ rest) = some (name, after) ↔
    ∃ inside, inside ≠ [] ∧ q.closing ∉ inside ∧
      double q.closing cs ++ q.closing :: rest = inside ++ q.closing :: after ∧
      name = q.opening :: (inside ++ [q.closing]) := by
  rw [delimited_append, name?_opening, delimitedName?_eq_some_iff]

/-- A name without the closing delimiter is read up to its end. -/
theorem name?_quote (h : Recoverable q n) (rest : List Char) :
    name? ((q.quote n).toList ++ rest) = some ((q.quote n).toList, rest) := by
  rw [QuoteStyle.toList_quote, name?_delimited_eq_some_iff, double_of_not_mem h.no_closing, delimited,
    double_of_not_mem h.no_closing]
  exact ⟨n.toList, by simpa using h.some_char, h.no_closing, rfl, rfl⟩

theorem name?_quote_empty (q : QuoteStyle) (rest : List Char) : name? ((q.quote "").toList ++ rest) = none := by
  rw [Option.eq_none_iff_forall_ne_some]
  rintro ⟨name, after⟩ read
  rw [QuoteStyle.toList_quote, name?_delimited_eq_some_iff] at read
  obtain ⟨inside, some_char, no_closing, split, -⟩ := read
  obtain ⟨c, inside, rfl⟩ := List.exists_cons_of_ne_nil some_char
  obtain ⟨rfl, -⟩ := List.cons.inj split
  exact no_closing List.mem_cons_self

/-- Behind what is read of a name with the closing delimiter stands the second of two of them. -/
theorem rest_of_closing_mem (closing : q.closing ∈ n.toList)
    (read : name? ((q.quote n).toList ++ rest) = some (name, after)) : ∃ more, after = q.closing :: more := by
  rw [QuoteStyle.toList_quote, name?_delimited_eq_some_iff] at read
  obtain ⟨inside, -, no_closing, split, -⟩ := read
  obtain ⟨front, back, whole, first⟩ := List.eq_append_cons_of_mem closing
  rw [whole, double_append, double_cons, if_pos rfl, double_of_not_mem first, List.append_assoc, List.append_assoc,
    List.cons_append] at split
  have behind := congrArg (List.dropWhile (· ≠ q.closing)) split
  rw [(takeWhile_ne_append_cons first _).2, (takeWhile_ne_append_cons no_closing _).2, List.cons.injEq] at behind
  exact ⟨_, behind.2.symm⟩

/-- What is read of a name ends where the name ends exactly if the name can be recovered. -/
theorem name?_quote_eq_some_iff :
    name? ((q.quote n).toList ++ rest) = some (name, rest) ↔ Recoverable q n ∧ name = (q.quote n).toList := by
  constructor
  · intro read
    have some_char : n ≠ "" := by
      rintro rfl
      rw [name?_quote_empty] at read
      cases read
    have no_closing : q.closing ∉ n.toList := by
      rw [QuoteStyle.toList_quote, name?_delimited_eq_some_iff] at read
      obtain ⟨inside, -, none_inside, split, -⟩ := read
      rwa [← List.append_cancel_right split, mem_double_iff] at none_inside
    rw [name?_quote ⟨some_char, no_closing⟩] at read
    exact ⟨⟨some_char, no_closing⟩, (Prod.mk.inj (Option.some.inj read)).1.symm⟩
  · rintro ⟨h, rfl⟩
    exact name?_quote h rest

/-- The name at the start of a text, without delimiters around it, and what follows it. -/
def readName? (cs : List Char) : Option (String × List Char) :=
  (name? cs).map fun found => (String.ofList (unquoteChars found.1), found.2)

theorem ofList_unquoteChars_quote (no_closing : q.closing ∉ n.toList) :
    String.ofList (unquoteChars (q.quote n).toList) = n := unquote_quote_eq_self_iff.mpr no_closing

theorem readName?_quote_eq_some_iff :
    readName? ((q.quote n).toList ++ rest) = some (n, rest) ↔ Recoverable q n := by
  rw [readName?, Option.map_eq_some_iff]
  constructor
  · rintro ⟨⟨name, after⟩, read, same⟩
    obtain ⟨-, rfl⟩ := Prod.mk.inj same
    exact (name?_quote_eq_some_iff.mp read).1
  · intro h
    exact ⟨_, name?_quote h rest, by rw [ofList_unquoteChars_quote h.no_closing]⟩

/-! ### Phrases behind a quoted name -/

/-- A word of a phrase is read behind a blank. -/
theorem phrase?_spaced {w f : String} (letters : f.toList.map keywordLetter = w.toList)
    (visible : f.toList.head?.map isBlank = some false) (ws : List String) (cs : List Char) :
    phrase? (w :: ws) (' ' :: (f.toList ++ cs)) = phrase? ws cs := by
  have blanks : blanks? (' ' :: (f.toList ++ cs)) = some (f.toList ++ cs) := by
    obtain ⟨c, first, other⟩ := Option.map_eq_some_iff.mp visible
    obtain ⟨front, whole⟩ := List.head?_eq_some_iff.mp first
    rw [whole]
    exact congrArg some (trimLeft_cons_of_visible other)
  rw [phrase?_cons, blanks, Option.bind_some, keyword?_append letters, Option.bind_some]

/-- Behind what is read of a name that cannot be recovered there is no phrase. -/
theorem phrase?_of_not_recoverable (lost : ¬Recoverable q n)
    (read : name? ((q.quote n).toList ++ rest) = some (name, after)) (w : String) (ws : List String) :
    phrase? (w :: ws) after = none := by
  have closing : q.closing ∈ n.toList := by
    by_contra no_closing
    refine lost ⟨?_, no_closing⟩
    rintro rfl
    rw [name?_quote_empty] at read
    cases read
  obtain ⟨more, rfl⟩ := rest_of_closing_mem closing read
  rw [phrase?_cons, blanks?_cons_of_not_blank (isBlank_closing q)]
  rfl

/-! ### The column that numbers the rows -/

/-- How the definition of a column goes on that numbers the rows of its table. -/
def numbering : List Char := " INTEGER PRIMARY KEY AUTOINCREMENT".toList

/-- The name of the column that a declaration at the start of a text makes number the rows, without delimiters. -/
def readIdentity? (cs : List Char) : Option String :=
  (identityDeclaration? cs).map fun name => String.ofList (unquoteChars name)

theorem readIdentity?_quote (h : Recoverable q n) (rest : List Char) :
    readIdentity? ((q.quote n).toList ++ (numbering ++ rest)) = some n := by
  have declared : identityDeclaration? ((q.quote n).toList ++ (numbering ++ rest)) = some (q.quote n).toList := by
    simp only [identityDeclaration?, name?_quote h]
    rfl
  rw [readIdentity?, declared, Option.map_some, ofList_unquoteChars_quote h.no_closing]

theorem readIdentity?_of_not_recoverable (lost : ¬Recoverable q n) (rest : List Char) :
    readIdentity? ((q.quote n).toList ++ rest) = none := by
  rw [readIdentity?, Option.map_eq_none_iff, Option.eq_none_iff_forall_ne_some]
  intro name read
  simp only [identityDeclaration?, Option.bind_eq_bind, Option.bind_eq_some_iff, Prod.exists] at read
  obtain ⟨_, after, named, behind, phrase, -⟩ := read
  rw [phrase?_of_not_recoverable lost named] at phrase
  cases phrase

theorem readIdentity?_quote_eq_some_iff :
    readIdentity? ((q.quote n).toList ++ (numbering ++ rest)) = some n ↔ Recoverable q n := by
  refine ⟨fun read => ?_, fun h => readIdentity?_quote h rest⟩
  by_contra lost
  rw [readIdentity?_of_not_recoverable lost] at read
  cases read

/-! ### Lists of quoted names -/

/-- The name as it stands between its delimiters. -/
def doubledName (q : QuoteStyle) (n : String) : String := String.ofList (double q.closing n.toList)

/-- A list of quoted names. -/
def quotedList (q : QuoteStyle) (ns : List String) : List Char :=
  [',', ' '].intercalate (ns.map fun n => (q.quote n).toList)

theorem doubledName_eq_self_iff : doubledName q n = n ↔ q.closing ∉ n.toList := by
  rw [← String.toList_inj, doubledName, String.toList_ofList, double_eq_self_iff]

theorem map_doubledName_eq_self_iff : columns.map (doubledName q) = columns ↔ ∀ c ∈ columns, q.closing ∉ c.toList := by
  simp only [← doubledName_eq_self_iff]
  nth_rewrite 2 [← List.map_id columns]
  exact List.map_inj_left

theorem not_mem_quote {c : Char} (other : c ≠ q.opening ∧ c ≠ q.closing) (absent : c ∉ n.toList) :
    c ∉ (q.quote n).toList := by
  rw [QuoteStyle.toList_quote, delimited]
  simp only [List.mem_cons, List.mem_append, List.not_mem_nil, or_false, not_or]
  exact ⟨other.1, mem_double_iff.not.mpr absent, other.2⟩

theorem trimChars_quote (q : QuoteStyle) (n : String) : trimChars (q.quote n).toList = (q.quote n).toList := by
  rw [QuoteStyle.toList_quote, delimited, trimChars, trimLeft_cons_of_visible (isBlank_opening q), ← List.cons_append,
    trimRight_concat_of_visible (isBlank_closing q)]

theorem columnNames_blank (cs : List Char) : columnNames (' ' :: cs) = columnNames cs := by
  obtain ⟨part, parts, split⟩ := List.exists_cons_of_ne_nil (splitOn_ne_nil ',' cs)
  have first : splitOn ',' (' ' :: cs) = (' ' :: part) :: parts := by
    rw [splitOn, split]
    rfl
  rw [columnNames, columnNames, first, split]
  rfl

/-- Names without a comma are found in their list, with their closing delimiters doubled. -/
theorem columnNames_quotedList (nonempty : columns ≠ []) (no_comma : ∀ c ∈ columns, ',' ∉ c.toList) :
    columnNames (quotedList q columns) = columns.map (doubledName q) := by
  have comma : ',' ≠ q.opening ∧ ',' ≠ q.closing := by cases q <;> decide
  have part (c : String) : String.ofList (unquoteChars (trimChars (q.quote c).toList)) = doubledName q c := by
    rw [trimChars_quote, QuoteStyle.toList_quote, unquoteChars_delimited, doubledName]
  induction columns with
  | nil => exact absurd rfl nonempty
  | cons c columns ih =>
    obtain ⟨here, others⟩ := List.forall_mem_cons.mp no_comma
    have absent := not_mem_quote comma here
    cases columns with
    | nil =>
      rw [quotedList, List.map_cons, List.map_nil, List.intercalate_singleton, columnNames, splitOn_of_not_mem absent,
        List.map_cons, List.map_nil, part]
      rfl
    | cons d columns =>
      have rest := ih (by simp) others
      rw [quotedList, List.map_cons, List.map_cons, List.intercalate_cons_cons, List.append_assoc, List.cons_append,
        List.singleton_append, columnNames, splitOn_append_of_not_mem absent, List.map_cons, part, List.map_cons,
        ← rest, ← columnNames_blank]
      rfl

theorem not_mem_quotedList (no_parenthesis : ∀ c ∈ columns, ')' ∉ c.toList) : ')' ∉ quotedList q columns := by
  have parenthesis : ')' ≠ q.opening ∧ ')' ≠ q.closing := by cases q <;> decide
  induction columns with
  | nil => exact List.not_mem_nil
  | cons c columns ih =>
    obtain ⟨here, others⟩ := List.forall_mem_cons.mp no_parenthesis
    have absent := not_mem_quote parenthesis here
    have rest := ih others
    cases columns with
    | nil => simpa [quotedList] using absent
    | cons d columns =>
      rw [quotedList, List.map_cons, List.map_cons, List.intercalate_cons_cons, List.mem_append, List.mem_append]
      rintro ((first | separator) | later)
      · exact absent first
      · simp at separator
      · exact rest later

/-! ### Foreign keys -/

/-- How the declaration of a foreign key with quoted names goes on behind its name. -/
def keyBehindName (q : QuoteStyle) (columns : List String) (refTable : String) : List Char :=
  " FOREIGN KEY (".toList ++ (quotedList q columns ++
    ')' :: ' ' :: ("REFERENCES".toList ++ ' ' :: (q.quote refTable).toList))

/-- The declaration of a foreign key with quoted names. -/
def quotedClause (q : QuoteStyle) (n : String) (columns : List String) (refTable : String) : List Char :=
  "CONSTRAINT".toList ++ ' ' :: ((q.quote n).toList ++ keyBehindName q columns refTable)

theorem blanks?_quote (q : QuoteStyle) (n : String) (cs : List Char) :
    blanks? (' ' :: ((q.quote n).toList ++ cs)) = some ((q.quote n).toList ++ cs) := by
  have first : trimLeft ((q.quote n).toList ++ cs) = (q.quote n).toList ++ cs := by
    rw [QuoteStyle.toList_quote, delimited, List.cons_append]
    exact trimLeft_cons_of_visible (isBlank_opening q)
  exact congrArg some first

theorem keyword?_quotedClause (q : QuoteStyle) (n : String) (columns : List String) (refTable : String)
    (rest : List Char) : keyword? "constraint".toList (quotedClause q n columns refTable ++ rest) =
      some (' ' :: ((q.quote n).toList ++ (keyBehindName q columns refTable ++ rest))) := by
  have letters : "CONSTRAINT".toList.map keywordLetter = "constraint".toList := by decide
  unfold quotedClause
  rw [List.append_assoc, List.cons_append, List.append_assoc, keyword?_append letters]

/-- Behind a name that can be recovered, the declaration is read up to the table that it refers to. -/
theorem foreignKeyClause?_quotedClause (h : Recoverable q n) (nonempty : columns ≠ [])
    (in_list : ∀ c ∈ columns, ',' ∉ c.toList ∧ ')' ∉ c.toList) (offset : Nat) (rest : List Char) :
    foreignKeyClause? offset (quotedClause q n columns refTable ++ rest) =
      (readName? ((q.quote refTable).toList ++ rest)).map fun found =>
        (⟨offset, n, columns.map (doubledName q), found.1⟩, found.2) := by
  obtain ⟨behind, hbehind⟩ : ∃ b, b = ' ' :: ("REFERENCES".toList ++ ' ' :: ((q.quote refTable).toList ++ rest)) :=
    ⟨_, rfl⟩
  have further : keyBehindName q columns refTable ++ rest =
      " FOREIGN KEY (".toList ++ (quotedList q columns ++ ')' :: behind) := by
    unfold keyBehindName
    rw [hbehind]
    simp only [List.append_assoc, List.cons_append]
  have phrase (cs : List Char) : phrase? ["foreign", "key"] (" FOREIGN KEY (".toList ++ cs) =
      some (' ' :: '(' :: cs) := by
    have foreign := phrase?_spaced (w := "foreign") (f := "FOREIGN") (by decide) (by decide) ["key"]
      (' ' :: ("KEY".toList ++ ' ' :: '(' :: cs))
    have key := phrase?_spaced (w := "key") (f := "KEY") (by decide) (by decide) [] (' ' :: '(' :: cs)
    exact foreign.trans key
  have opening (cs : List Char) : trimLeft (' ' :: '(' :: cs) = '(' :: cs := rfl
  have list := takeWhile_ne_append_cons (not_mem_quotedList (q := q) fun c mem => (in_list c mem).2) behind
  have references : keyword? "references".toList (trimLeft behind) =
      some (' ' :: ((q.quote refTable).toList ++ rest)) := by
    have letters : "REFERENCES".toList.map keywordLetter = "references".toList := by decide
    have first : trimLeft behind = "REFERENCES".toList ++ ' ' :: ((q.quote refTable).toList ++ rest) := by
      rw [hbehind]
      rfl
    rw [first, keyword?_append letters]
  simp only [foreignKeyClause?, keyword?_quotedClause, blanks?_quote, name?_quote h, further, phrase, opening, list.1,
    list.2, references, columnNames_quotedList nonempty fun c mem => (in_list c mem).1,
    ofList_unquoteChars_quote h.no_closing, Option.bind_eq_bind, Option.bind_some, readName?]
  cases name? ((q.quote refTable).toList ++ rest) <;> rfl

theorem foreignKeyClause?_of_not_recoverable (lost : ¬Recoverable q n) (offset : Nat) (rest : List Char) :
    foreignKeyClause? offset (quotedClause q n columns refTable ++ rest) = none := by
  rw [Option.eq_none_iff_forall_ne_some]
  intro found read
  simp only [foreignKeyClause?, keyword?_quotedClause, blanks?_quote, Option.bind_eq_bind, Option.bind_some,
    Option.bind_eq_some_iff, Prod.exists] at read
  obtain ⟨_, after, named, behind, phrase, -⟩ := read
  rw [phrase?_of_not_recoverable lost named] at phrase
  cases phrase

theorem foreignKeyClause?_quotedClause_eq_some_iff (nonempty : columns ≠ [])
    (in_list : ∀ c ∈ columns, ',' ∉ c.toList ∧ ')' ∉ c.toList) (offset : Nat) :
    foreignKeyClause? offset (quotedClause q n columns refTable ++ rest) =
        some (⟨offset, n, columns, refTable⟩, rest) ↔
      Recoverable q n ∧ Recoverable q refTable ∧ ∀ c ∈ columns, q.closing ∉ c.toList := by
  by_cases h : Recoverable q n
  · have target : readName? ((q.quote refTable).toList ++ rest) = some (refTable, rest) ↔ Recoverable q refTable :=
      readName?_quote_eq_some_iff
    rw [foreignKeyClause?_quotedClause h nonempty in_list, ← target, ← map_doubledName_eq_self_iff,
      Option.map_eq_some_iff]
    constructor
    · rintro ⟨⟨t, after⟩, read, same⟩
      simp only [Prod.mk.injEq, ForeignKeyClause.mk.injEq, true_and] at same
      obtain ⟨⟨list, rfl⟩, rfl⟩ := same
      exact ⟨h, read, list⟩
    · rintro ⟨-, read, list⟩
      exact ⟨_, read, by rw [list]⟩
  · rw [foreignKeyClause?_of_not_recoverable h]
    exact ⟨nofun, fun all => absurd all.1 h⟩

/-! ### Recovered names -/

/-- Taking off the delimiters undoes quoting up to the doubling of closing delimiters inside. A quoted name is found
again in a text, as the name of a column that numbers the rows and as the names of a foreign key exactly if it can be
recovered. -/
theorem quoted_names_recovered_iff (q : QuoteStyle) (n : String) :
    (unquote (q.quote n)).toList = double q.closing n.toList ∧
    (unquote (q.quote n) = n ↔ q.closing ∉ n.toList) ∧
    ∀ rest,
      (readName? ((q.quote n).toList ++ rest) = some (n, rest) ↔ Recoverable q n) ∧
      (readIdentity? ((q.quote n).toList ++ (numbering ++ rest)) = some n ↔ Recoverable q n) ∧
      ∀ offset columns refTable, columns ≠ [] → (∀ c ∈ columns, ',' ∉ c.toList ∧ ')' ∉ c.toList) →
        (foreignKeyClause? offset (quotedClause q n columns refTable ++ rest) =
            some (⟨offset, n, columns, refTable⟩, rest) ↔
          Recoverable q n ∧ Recoverable q refTable ∧ ∀ c ∈ columns, q.closing ∉ c.toList) :=
  ⟨unquote_quote q n, unquote_quote_eq_self_iff, fun _ => ⟨readName?_quote_eq_some_iff, readIdentity?_quote_eq_some_iff,
    fun offset _ _ nonempty in_list => foreignKeyClause?_quotedClause_eq_some_iff nonempty in_list offset⟩⟩

theorem quoted_key_recovered :
    (["order id"] ≠ [] ∧ ∀ c ∈ ["order id"], ',' ∉ c.toList ∧ ')' ∉ c.toList) ∧
      foreignKeyClause? 12 (quotedClause .double "fk [order]" ["order id"] "the orders" ++ " (id))".toList) =
        some (⟨12, "fk [order]", ["order id"], "the orders"⟩, " (id))".toList) := by
  have listed : ["order id"] ≠ [] ∧ ∀ c ∈ ["order id"], ',' ∉ c.toList ∧ ')' ∉ c.toList := by decide
  have whole := ((quoted_names_recovered_iff .double "fk [order]").2.2 " (id))".toList).2.2
  exact ⟨listed, (whole 12 ["order id"] "the orders" listed.1 listed.2).mpr
    ⟨⟨by decide, by decide⟩, ⟨by decide, by decide⟩, by decide⟩⟩

/-- A table that numbers its rows in a column with a quote in its name. -/
def sizes : Table where
  name := "t"
  columns := [{ name := "a\"b", type := .bigint, nullable := false, inKey := true, isIdentity := true }]

/-- The quote stays doubled when the name is unquoted, and in the text of the table another name is found. -/
theorem quote_in_name_not_undone :
    unquote (QuoteStyle.double.quote "a\"b") = "a\"\"b" ∧ unquote (QuoteStyle.double.quote "a\"b") ≠ "a\"b" ∧
      sizes.Reachable ∧
      (sizes.create .sqlite).map (·.map (Statement.sql ⟨.sqlite, true⟩)) =
        .ok ["CREATE TABLE \"t\" (\"a\"\"b\" INTEGER PRIMARY KEY AUTOINCREMENT)"] ∧
      identityColumn? "CREATE TABLE \"t\" (\"a\"\"b\" INTEGER PRIMARY KEY AUTOINCREMENT)" = some "b" := by
  refine ⟨?_, ?_, ?_, ?_, ?_⟩ <;> decide +kernel

end SqlSchema.CreateText
