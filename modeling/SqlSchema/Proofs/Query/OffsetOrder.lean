import SqlSchema.Proofs.Query.Insertion

/-!
# The order in front of an offset

Where rows can only be skipped in an ordered query, a page has an order outside parentheses in front of its `OFFSET`:
that of the query, at the place where it stands in the query, or the one that is put behind it, which is then the only
one (`offset_stands_behind_order`). The clause that picks the rows holds no `BY`, so no scan takes it for an order.
-/

namespace SqlSchema.Query

/-- The words `ORDER BY`. -/
def orderBy : List Lexeme := [⟨.word, "ORDER".toList⟩, ⟨.blank, [' ']⟩, ⟨.word, "BY".toList⟩]

/-! ### Words that are not there -/

section Words

variable {cs : List Char} {texts : List String} {w : String}

theorem Lexeme.isToken_of_isWord {l : Lexeme} (word : l.IsWord w) : l.isToken = true := by
  simp [isToken, word.1]

/-- The words of a text are among its tokens. -/
theorem not_isWord_of_tokens_eq (read : tokens cs = spelled texts) (others : ∀ t ∈ texts, ¬(Lexeme.ofText t).IsWord w) :
    ∀ l ∈ lexemes cs, ¬l.IsWord w := by
  intro l among word
  have token : l ∈ tokens cs := List.mem_filter.mpr ⟨among, Lexeme.isToken_of_isWord word⟩
  rw [read] at token
  obtain ⟨t, ht, rfl⟩ := List.mem_map.mp token
  exact others t ht word

/-- No number is a word with letters. -/
theorem not_isWord_ofText_toString (n : Nat) {c : Char} (letter : c ∈ (Text.lower w).toList)
    (no_digit : c.isDigit = false) : ¬(Lexeme.ofText (toString n)).IsWord w := by
  rintro ⟨-, same⟩
  rw [ofText_of_word (all_toString n), String.ofList_toList, Text.sameName_iff] at same
  rw [← same, Text.toList_lower] at letter
  obtain ⟨d, hd, rfl⟩ := List.mem_map.mp letter
  have digit := isDigit_of_mem_toString hd
  rw [Text.toLower_of_isDigit digit, digit] at no_digit
  cases no_digit

end Words

/-! ### The clause -/

section Clause

variable (offset count : Nat)

theorem not_by_of_mem_offsetClause {l : Lexeme} (among : l ∈ lexemes (offsetClause offset count).toList) :
    ¬l.IsWord "BY" := by
  refine not_isWord_of_tokens_eq (tokens_offsetClause offset count) ?_ l among
  have number (n : Nat) : ¬(Lexeme.ofText (toString n)).IsWord "BY" :=
    not_isWord_ofText_toString n (c := 'b') (by decide) (by decide)
  simp only [List.forall_mem_cons, List.not_mem_nil, false_implies, implies_true, and_true, number, not_false_eq_true,
    true_and]
  decide

/-- What follows an order that was put behind a query. -/
theorem lexemes_anyKeys_append :
    lexemes (" (SELECT NULL)".toList ++ (offsetClause offset count).toList) =
      lexemes " (SELECT NULL)".toList ++ lexemes (offsetClause offset count).toList :=
  lexemes_append_offsetClause offset count (by decide +kernel)

theorem not_by_of_mem_anyKeys {l : Lexeme}
    (among : l ∈ lexemes (" (SELECT NULL)".toList ++ (offsetClause offset count).toList)) : ¬l.IsWord "BY" := by
  have read : tokens " (SELECT NULL)".toList = spelled ["(", "SELECT", "NULL", ")"] := by decide +kernel
  rw [lexemes_anyKeys_append] at among
  rcases List.mem_append.mp among with among | among
  · exact not_isWord_of_tokens_eq read (by decide) l among
  · exact not_by_of_mem_offsetClause offset count among

theorem trimChars_anyKeys :
    Text.trimChars (" (SELECT NULL)".toList ++ (offsetClause offset count).toList) =
      ("(SELECT NULL)" ++ offsetClause offset count).toList := by
  have left : Text.trimLeft (" (SELECT NULL)".toList ++ (offsetClause offset count).toList) =
      ("(SELECT NULL)" ++ offsetClause offset count).toList := by
    simp [Text.trimLeft, Text.isBlank]
  have last : ("(SELECT NULL)" ++ offsetClause offset count).toList = ("(SELECT NULL) OFFSET " ++ toString offset ++
      " ROWS FETCH NEXT " ++ toString count ++ " ROWS ONL").toList ++ ['Y'] := by
    simp [offsetClause]
  rw [Text.trimChars, left, last, Text.trimRight_concat_of_visible (by decide)]

theorem isToken_of_getLast?_anyKeys (ls : List Lexeme) :
    ∀ l ∈ (ls ++ lexemes (" (SELECT NULL)".toList ++ (offsetClause offset count).toList)).getLast?,
      l.isToken = true := by
  have only : (lexemes " ROWS ONLY".toList).getLast? = some ⟨.word, "ONLY".toList⟩ := by decide +kernel
  intro l last
  rw [lexemes_anyKeys_append, lexemes_offsetClause] at last
  simp only [List.getLast?_append, List.getLast?_cons, only, Option.getD_some, Option.some_or,
    Option.mem_some_iff] at last
  subst last
  rfl

end Clause

/-! ### Orders behind lexemes -/

section Behind

variable {ls ms : List Lexeme}

namespace Scan

/-- Only a `BY` changes the order that was found. -/
theorem order_foldl_of_no_by (no_by : ∀ l ∈ ms, ¬l.IsWord "BY") (s : Scan) : (ms.foldl step s).order = s.order := by
  induction ms generalizing s with
  | nil => rfl
  | cons l ms ih =>
    have other : ¬l.IsWord "BY" := no_by l (by simp)
    rw [List.foldl_cons, ih (fun x hx => no_by x (by simp [hx])), order_step, if_neg fun by_ => other by_.2]

/-- Outside parentheses the words `ORDER BY` are an order. -/
theorem order_foldl_orderBy (top : (ls.foldl step {}).depth = 0) :
    ((ls ++ orderBy).foldl step {}).order = some ⟨tokenEnd ls, extent (ls ++ orderBy)⟩ := by
  have stop := stop_foldl ls
  have position := position_foldl ls
  rw [List.foldl_append, extent_append, ← stop, ← position]
  generalize ls.foldl step {} = s at top
  simp [orderBy, step, word, top, extent, textOf, Nat.add_assoc]

end Scan

private theorem prefix_of_endsInOrderBy (no_by : ∀ l ∈ ms, ¬l.IsWord "BY") {front : List Lexeme}
    {clause : OrderClause} (start : front <+: ls ++ ms) (ends : EndsInOrderBy front clause) : front <+: ls := by
  obtain ⟨back, split⟩ := start
  obtain ⟨before, l, rfl, -, by_, -⟩ := ends
  rcases List.append_eq_append_iff.mp split with ⟨rest, found, -⟩ | ⟨more, found, rest⟩
  · exact ⟨rest, found.symm⟩
  · rcases more.eq_nil_or_concat' with rfl | ⟨more, m, rfl⟩
    · rw [found, List.append_nil]
    · rw [← List.append_assoc] at found
      obtain ⟨-, rfl⟩ := eq_of_append_singleton found
      exact absurd by_ (no_by l (by simp [rest]))

/-- Behind lexemes that have no order, the words `ORDER BY` are one, and the only one as long as no further `BY`
follows. -/
theorem eq_of_endsInOrderBy (none_before : ∀ front clause, front <+: ls → ¬EndsInOrderBy front clause)
    (no_by : ∀ l ∈ ms, ¬l.IsWord "BY") {front : List Lexeme} {clause : OrderClause}
    (start : front <+: ls ++ orderBy ++ ms) (ends : EndsInOrderBy front clause) :
    clause = ⟨tokenEnd ls, extent (ls ++ orderBy)⟩ := by
  let order : Lexeme := ⟨.word, "ORDER".toList⟩
  let blank : Lexeme := ⟨.blank, [' ']⟩
  have parts : ls ++ orderBy = ls ++ [order] ++ [blank] ++ [⟨.word, "BY".toList⟩] := by simp [orderBy, order, blank]
  have start := prefix_of_endsInOrderBy no_by start ends
  rw [parts, List.prefix_concat_iff, List.prefix_concat_iff, List.prefix_concat_iff, ← parts] at start
  rcases start with rfl | rfl | rfl | start
  · rw [parts, endsInOrderBy_append_iff, endsInOrder_append_iff, endsInOrder_append_iff, ← parts] at ends
    obtain ⟨⟨-, ⟨gap, -⟩ | ⟨-, -, begins⟩⟩ | ⟨word, -⟩, -, keys⟩ := ends
    · exact absurd gap (by decide)
    · rw [← begins, ← keys]
    · exact absurd word (by decide)
  · exact absurd (endsInOrderBy_append_iff.mp ends).2.1 (by decide)
  · exact absurd (endsInOrderBy_append_iff.mp ends).2.1 (by decide)
  · exact absurd ends (none_before front clause start)

end Behind

/-! ### Pages -/

section Page

variable {cs ds : List Char}

theorem atTop_append_iff {ls ms : List Lexeme} (noise : ∀ l ∈ ms, l.isToken = false) :
    AtTop (ls ++ ms) ↔ AtTop ls := by
  have none_open : openings ms = 0 := List.countP_eq_zero.mpr fun l hl => by
    have other := noise l hl
    unfold Lexeme.isToken at other
    split at other <;> simp_all
  have none_close : closings ms = 0 := List.countP_eq_zero.mpr fun l hl => by
    have other := noise l hl
    unfold Lexeme.isToken at other
    split at other <;> simp_all
  rw [AtTop, openings_append, closings_append, none_open, none_close]
  rfl

theorem untilLastToken_eq_self {ls : List Lexeme} (last : ∀ l ∈ ls.getLast?, l.isToken = true) :
    untilLastToken ls = ls := by
  refine List.rdropWhile_eq_self_iff.mpr fun some_lexeme => ?_
  have token := last _ (List.getLast?_eq_some_getLast some_lexeme)
  simp [token]

theorem Outline.trimLeft_query_append (some_char : (ofChars cs).query ≠ []) :
    Text.trimLeft ((ofChars cs).query ++ ds) = (ofChars cs).query ++ ds := by
  have visible := trimLeft_query cs
  unfold Text.trimLeft at visible ⊢
  rw [List.dropWhile_append, visible, if_neg (by simpa using some_char)]

/-- A text put behind the last token of a query goes on with its outline. -/
theorem Outline.ofChars_query_append (closed : ∀ l ∈ lexemes (Text.trimLeft cs), l.kind = .quoted → l.Closed)
    (breaks : ∀ c ∈ ds.head?, Lexeme.breaksOff c = true) (some_char : (ofChars cs).query ≠ []) :
    ofChars ((ofChars cs).query ++ ds) = ofLexemes (lexemes (ofChars cs).query ++ lexemes ds) := by
  rw [ofChars_eq_ofLexemes, trimLeft_query_append some_char,
    lexemes_append_of_breaksOff (closed_of_getLast? closed) breaks]

theorem Outline.order_ofLexemes (ls : List Lexeme) : (ofLexemes ls).order = (ls.foldl Scan.step {}).order := rfl

theorem Outline.order_ofChars (cs : List Char) :
    (ofChars cs).order = ((lexemes (ofChars cs).query).foldl Scan.step {}).order :=
  congrArg order (ofChars_eq_ofLexemes_query cs)

theorem tokenEnd_lexemes_query (cs : List Char) :
    tokenEnd (lexemes (Outline.ofChars cs).query) = Text.byteSize (Outline.ofChars cs).query := by
  rw [Outline.lexemes_query, Outline.query_ofChars]
  unfold tokenEnd untilLastToken
  rw [List.rdropWhile_idempotent]
  rfl

private theorem lexemes_orderBy_append (ends : ∀ x ∈ ds.head?, isWordChar x = false) :
    lexemes ("ORDER BY".toList ++ ds) = orderBy ++ lexemes ds := by
  have text : "ORDER BY".toList ++ ds = "ORDER".toList ++ ' ' :: ("BY".toList ++ ds) := by simp
  have order : "ORDER".toList.all isWordChar = true := by decide
  have by_ : "BY".toList.all isWordChar = true := by decide
  rw [text, lexemes_word_append (by decide) (List.all_eq_true.mp order) (by simp [isWordChar]),
    lexemes_cons_of_isBlank (by decide), lexemes_word_append (by decide) (List.all_eq_true.mp by_) ends]
  rfl

/-- The lexemes of a query behind which an order is put. A blank in front of the order goes with the blanks in front of
the query if there is nothing between. -/
private theorem exists_lexemes_ordered (closed : ∀ l ∈ lexemes (Text.trimLeft cs), l.kind = .quoted → l.Closed)
    (ends : ∀ x ∈ ds.head?, isWordChar x = false) :
    ∃ front, (front = lexemes (Outline.ofChars cs).query ∨
        front = lexemes (Outline.ofChars cs).query ++ [⟨.blank, [' ']⟩]) ∧
      lexemes (Text.trimLeft ((Outline.ofChars cs).query ++ ' ' :: ("ORDER BY".toList ++ ds))) =
        front ++ orderBy ++ lexemes ds := by
  by_cases nothing : (Outline.ofChars cs).query = []
  · refine ⟨_, .inl rfl, ?_⟩
    have trimmed : Text.trimLeft (' ' :: ("ORDER BY".toList ++ ds)) = "ORDER BY".toList ++ ds := by
      simp [Text.trimLeft, Text.isBlank]
    rw [nothing, List.nil_append, trimmed, lexemes_orderBy_append ends, isSplit_iff.mp .nil, List.nil_append]
  · refine ⟨_, .inr rfl, ?_⟩
    have blank : lexemes (' ' :: ("ORDER BY".toList ++ ds)) = ⟨.blank, [' ']⟩ :: (orderBy ++ lexemes ds) := by
      rw [lexemes_cons_of_isBlank (by decide), lexemes_orderBy_append ends]
      rfl
    rw [Outline.trimLeft_query_append nothing, lexemes_append_of_breaksOff (closed_of_getLast? closed)
      (by simp [Lexeme.breaksOff, isWordChar]), blank]
    simp

theorem atTop_lexemes_query (balanced : AtTop (lexemes (Text.trimLeft cs))) :
    AtTop (lexemes (Outline.ofChars cs).query) := by
  obtain ⟨trailing, split, noise⟩ := exists_trailing (lexemes (Text.trimLeft cs))
  rw [split] at balanced
  rw [Outline.lexemes_query]
  exact (atTop_append_iff noise).mp balanced

section Scanned

variable (opened : ClosesOnlyOpened (lexemes (Text.trimLeft cs)))
include opened

theorem knows_query : Scan.Knows ((lexemes (Outline.ofChars cs).query).foldl Scan.step {})
    (lexemes (Outline.ofChars cs).query) := by
  obtain ⟨trailing, split, -⟩ := exists_trailing (lexemes (Text.trimLeft cs))
  rw [Outline.lexemes_query]
  rw [split] at opened
  exact Scan.knows_foldl (closesOnlyOpened_of_append opened)

private theorem order_eq_none_iff :
    (Outline.ofChars cs).order = none ↔
      ∀ front clause, front <+: lexemes (Outline.ofChars cs).query → ¬EndsInOrderBy front clause := by
  rw [Outline.order_ofChars, Option.eq_none_iff_forall_ne_some]
  simp only [Ne, (knows_query opened).order]
  rw [← not_exists, ← exists_lastOrderBy]
  constructor
  · rintro missing front clause ⟨back, split⟩ ends
    exact missing ⟨front, back, clause, split.symm, ends⟩
  · rintro missing ⟨front, back, clause, split, ends⟩
    exact missing front clause ⟨back, split.symm⟩ ends

/-- Where a query without an order ends, no parenthesis is open and no order stands before. -/
private theorem at_end_of_unordered (balanced : AtTop (lexemes (Text.trimLeft cs)))
    (unordered : (Outline.ofChars cs).order = none) {front : List Lexeme}
    (front_eq : front = lexemes (Outline.ofChars cs).query ∨
      front = lexemes (Outline.ofChars cs).query ++ [⟨.blank, [' ']⟩]) :
    (front.foldl Scan.step {}).depth = 0 ∧ tokenEnd front = Text.byteSize (Outline.ofChars cs).query ∧
      ∀ before clause, before <+: front → ¬EndsInOrderBy before clause := by
  have depth := (knows_query opened).depth_eq_zero_iff.mpr (atTop_lexemes_query balanced)
  have none_in_query := (order_eq_none_iff opened).mp unordered
  rcases front_eq with rfl | rfl
  · exact ⟨depth, tokenEnd_lexemes_query cs, none_in_query⟩
  · refine ⟨by rwa [List.foldl_append], (tokenEnd_append_other rfl).trans (tokenEnd_lexemes_query cs), ?_⟩
    intro before clause within ends
    rcases List.prefix_concat_iff.mp within with rfl | within
    · exact absurd (endsInOrderBy_append_iff.mp ends).2.1 (by decide)
    · exact none_in_query before clause within ends

end Scanned

section Paged

variable (closed : ∀ l ∈ lexemes (Text.trimLeft cs), l.kind = .quoted → l.Closed)
include closed

private theorem order_behind_ordered {clause : OrderClause} (ordered : (Outline.ofChars cs).order = some clause)
    (offset count : Nat) :
    (Outline.ofChars ((Outline.ofChars cs).query ++ (offsetClause offset count).toList)).order = some clause := by
  have some_char : (Outline.ofChars cs).query ≠ [] := by
    intro nothing
    rw [Outline.ofChars_eq_ofLexemes_query, nothing, isSplit_iff.mp .nil] at ordered
    cases ordered
  rw [Outline.ofChars_query_append closed (breaksOff_offsetClause offset count) some_char]
  rw [Outline.order_ofLexemes, List.foldl_append,
    Scan.order_foldl_of_no_by fun l => not_by_of_mem_offsetClause offset count, ← Outline.order_ofChars, ordered]

private theorem order_behind_unordered (opened : ClosesOnlyOpened (lexemes (Text.trimLeft cs)))
    (balanced : AtTop (lexemes (Text.trimLeft cs))) (unordered : (Outline.ofChars cs).order = none)
    (offset count : Nat) {text : List Char} (text_eq : text = (Outline.ofChars cs).query ++
      ' ' :: ("ORDER BY".toList ++ (" (SELECT NULL)".toList ++ (offsetClause offset count).toList))) :
    ∃ clause, (Outline.ofChars text).order = some clause ∧ clause.start = Text.byteSize (Outline.ofChars cs).query ∧
      (Outline.ofChars text).sortKeys = some ("(SELECT NULL)" ++ offsetClause offset count).toList ∧
      ∀ front other, front <+: lexemes (Text.trimLeft text) → EndsInOrderBy front other → other = clause := by
  have ends : ∀ x ∈ (" (SELECT NULL)".toList ++ (offsetClause offset count).toList).head?, isWordChar x = false := by
    simp [isWordChar]
  obtain ⟨front, front_eq, split⟩ := exists_lexemes_ordered closed ends
  rw [← text_eq] at split
  have no_by := fun l => not_by_of_mem_anyKeys offset count (l := l)
  obtain ⟨depth, start, none_before⟩ := at_end_of_unordered opened balanced unordered front_eq
  have order : (Outline.ofChars text).order = some ⟨tokenEnd front, extent (front ++ orderBy)⟩ := by
    rw [Outline.ofChars_eq_ofLexemes, split, Outline.order_ofLexemes, List.foldl_append,
      Scan.order_foldl_of_no_by no_by, Scan.order_foldl_orderBy depth]
  refine ⟨_, order, start, ?_, ?_⟩
  · have whole : (Outline.ofChars text).query = textOf (front ++ orderBy) ++
        (" (SELECT NULL)".toList ++ (offsetClause offset count).toList) := by
      rw [Outline.query_ofChars, split, untilLastToken_eq_self (isToken_of_getLast?_anyKeys offset count _),
        textOf_append]
      exact congrArg _ (flatMap_text_lexemes _)
    rw [Outline.sortKeys, order, Option.map_some, Option.some_inj, whole, extent, Text.dropBytes_byteSize_append,
      trimChars_anyKeys]
  · intro before other within ends
    rw [split] at within
    exact eq_of_endsInOrderBy none_before no_by within ends

end Paged

end Page

/-- The rows of a page are skipped behind an order outside parentheses. If the query has one, the clause follows the
query, and the scan of the page finds the order at the same place. If not, an order is put between, where the query
ends; the rest of the page are its keys, and there is no other. -/
theorem offset_stands_behind_order {d : Dialect} {page size : Int} {sql : String}
    (strategy : d.paging = .offsetFetch true) (there : Window.Exists page size)
    (closed : ∀ l ∈ lexemes (Text.trimLeft sql.toList), l.kind = .quoted → l.Closed)
    (opened : ClosesOnlyOpened (lexemes (Text.trimLeft sql.toList)))
    (balanced : AtTop (lexemes (Text.trimLeft sql.toList))) :
    ∃ w text, Window.ofPage page size = .ok w ∧ paginate d page size sql = .ok text ∧
      let base := Outline.ofChars sql.toList
      let paged := Outline.ofChars text.toList
      (∀ clause, base.order = some clause →
        text = String.ofList base.query ++ offsetClause w.offset w.size ∧ paged.order = some clause) ∧
      (base.order = none →
        text = String.ofList base.query ++ " ORDER BY (SELECT NULL)" ++ offsetClause w.offset w.size ∧
        ∃ clause, paged.order = some clause ∧ clause.start = Text.byteSize base.query ∧
          paged.sortKeys = some ("(SELECT NULL)" ++ offsetClause w.offset w.size).toList ∧
          ∀ front other, front <+: lexemes (Text.trimLeft text.toList) → EndsInOrderBy front other →
            other = clause) := by
  have window := Window.ofPage_eq_ok_iff.mpr ⟨there, rfl⟩
  refine ⟨_, _, window, paginate_eq_ok_iff.mpr ⟨_, window, rfl⟩, ?_⟩
  generalize ((page - 1) * size).toNat = offset
  generalize size.toNat = count
  have page_eq : (Outline.ofChars sql.toList).picking d.paging (RowClause.ofWindow d.paging ⟨count, offset⟩) =
      String.ofList (Outline.ofChars sql.toList).query ++
        (if (Outline.ofChars sql.toList).order.isNone then " ORDER BY (SELECT NULL)" else "") ++
          offsetClause offset count := by
    rw [strategy, RowClause.ofWindow, Outline.picking_offsetFetch]
    cases (Outline.ofChars sql.toList).order <;> simp [offsetClause, anyOrder, ← String.toList_inj]
  rw [page_eq]
  constructor
  · intro clause ordered
    rw [ordered, Option.isNone_some, if_neg (by decide), String.append_empty]
    refine ⟨rfl, ?_⟩
    rw [String.toList_append, String.toList_ofList]
    exact order_behind_ordered closed ordered offset count
  · intro unordered
    rw [unordered, Option.isNone_none, if_pos rfl]
    exact ⟨rfl, order_behind_unordered closed opened balanced unordered offset count (by simp)⟩

/-- A query that names an order in parentheses, in a text and in a comment only. -/
def nestedOrders : String := "select max(n) over (order by n) 'order by' from t -- order by n\n"

theorem offset_stands_behind_order_of_nestedOrders :
    Window.Exists 3 20 ∧ (∀ l ∈ lexemes (Text.trimLeft nestedOrders.toList), l.kind = .quoted → l.Closed) ∧
      ClosesOnlyOpened (lexemes (Text.trimLeft nestedOrders.toList)) ∧
      AtTop (lexemes (Text.trimLeft nestedOrders.toList)) ∧
      ∃ text, paginate .sqlServer2012 3 20 nestedOrders = .ok text ∧
        (Outline.ofChars text.toList).sortKeys =
          some "(SELECT NULL) OFFSET 40 ROWS FETCH NEXT 20 ROWS ONLY".toList := by
  have there : Window.Exists 3 20 := by simp [Window.Exists, Window.maxRow]
  obtain ⟨quoted, opened, balanced⟩ :
      (lexemes (Text.trimLeft nestedOrders.toList)).filter (·.kind = .quoted) = [⟨.quoted, "'order by'".toList⟩] ∧
        ClosesOnlyOpened (lexemes (Text.trimLeft nestedOrders.toList)) ∧
        AtTop (lexemes (Text.trimLeft nestedOrders.toList)) := by
    unfold AtTop
    decide +kernel
  have closed : ∀ l ∈ lexemes (Text.trimLeft nestedOrders.toList), l.kind = .quoted → l.Closed := by
    intro l among kind
    have found : l ∈ (lexemes (Text.trimLeft nestedOrders.toList)).filter (·.kind = .quoted) :=
      List.mem_filter.mpr ⟨among, by simpa using kind⟩
    rw [quoted, List.mem_singleton] at found
    exact found ▸ ⟨'\'', '\'', "order by".toList, by decide, by decide⟩
  have unordered : (Outline.ofChars nestedOrders.toList).order = none := by decide +kernel
  refine ⟨there, closed, opened, balanced, ?_⟩
  obtain ⟨w, text, window, page, -, put⟩ :=
    offset_stands_behind_order (d := .sqlServer2012) rfl there closed opened balanced
  obtain rfl : w = ⟨20, 40⟩ := (Window.ofPage_eq_ok_iff.mp window).2
  obtain ⟨-, clause, -, -, keys, -⟩ := put unordered
  refine ⟨text, page, keys.trans ?_⟩
  decide +kernel

end SqlSchema.Query
