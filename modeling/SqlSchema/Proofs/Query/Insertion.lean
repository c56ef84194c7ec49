import SqlSchema.Proofs.Query.Trailing
import SqlSchema.Proofs.Query.Windows

/-!
# What paging adds to a query

Apart from the strategy that numbers the rows, a strategy leaves the query as it is up to its last token and puts a
clause behind it, behind its `SELECT`, or around it. The tokens of the page are then those of the query with the words of
the clause in one place (`paginate_inserts_clause`): every seam lies between two lexemes.
-/

namespace SqlSchema.Query

/-- The tokens of a query. -/
def tokens (cs : List Char) : List Lexeme := (lexemes cs).filter Lexeme.isToken

/-- A word or a single character as a lexeme. -/
def Lexeme.ofText (text : String) : Lexeme where
  kind := if text.toList.all isWordChar then .word else singleKind (text.toList.headD ' ')
  text := text.toList

/-- Words and single characters as lexemes. -/
def spelled (texts : List String) : List Lexeme := texts.map Lexeme.ofText

/-- A keyword and a number, where there is one. -/
def numbered (keyword : String) (n : Option Nat) : List String :=
  (n.map fun n => [keyword, toString n]).getD []

/-- The clause that skips rows and fetches the next ones. -/
def offsetClause (offset count : Nat) : String :=
  " OFFSET " ++ toString offset ++ " ROWS FETCH NEXT " ++ toString count ++ " ROWS ONLY"

/-- The tokens `ts` up to their first word, if that is a `SELECT`, and behind it. Only closing parentheses stand before
it, and in a query that closes none but those it has opened, nothing. -/
def SplitsAtSelect (ts before after : List Lexeme) : Prop :=
  ts = before ++ after ∧ ∃ closings select, before = closings ++ [select] ∧
    (∀ l ∈ closings, l.kind = .closing) ∧ select.IsWord "SELECT"

/-- The tokens of a page of a query with the tokens `base`, by the strategy and the clause that picks the rows. -/
inductive Outline.Inserts (o : Outline) (base : List Lexeme) : Paging → RowClause → List Lexeme → Prop where
  | limitOffset {limit : Nat} {offset : Option Nat} :
      Inserts o base .limitOffset (.limitOffset limit offset)
        (base ++ spelled (numbered "LIMIT" (some limit) ++ numbered "OFFSET" offset))
  | offsetFetch {requiresOrder : Bool} {offset count : Nat} :
      Inserts o base (.offsetFetch requiresOrder) (.offsetFetch offset count)
        (base ++ spelled ((if requiresOrder && o.order.isNone then ["ORDER", "BY", "(", "SELECT", "NULL", ")"] else []) ++
          ["OFFSET", toString offset, "ROWS", "FETCH", "NEXT", toString count, "ROWS", "ONLY"]))
  | firstRows {upTo : Nat} :
      Inserts o base .rownum (.rownum upTo none)
        (spelled ["SELECT", "*", "FROM", "("] ++ base ++ spelled [")", "WHERE", "ROWNUM", "<", "=", toString upTo])
  | laterRows {upTo after : Nat} :
      Inserts o base .rownum (.rownum upTo (some after))
        (spelled ["SELECT", "*", "FROM", "(", "SELECT", "paged_", ".", "*", ",", "ROWNUM", "row_num_", "FROM", "("] ++
          base ++ spelled [")", "paged_", "WHERE", "ROWNUM", "<", "=", toString upTo, ")", "WHERE", "row_num_", ">",
            toString after])
  | behindSelect {skip : Option Nat} {first : Nat} {before after : List Lexeme}
      (select : SplitsAtSelect base before after) :
      Inserts o base .skipFirst (.skipFirst skip first)
        (before ++ spelled (numbered "SKIP" skip ++ numbered "FIRST" (some first)) ++ after)
  | aroundOther {skip : Option Nat} {first : Nat} (other : ∀ before after, ¬SplitsAtSelect base before after) :
      Inserts o base .skipFirst (.skipFirst skip first)
        (spelled ("SELECT" :: (numbered "SKIP" skip ++ numbered "FIRST" (some first)) ++ ["*", "FROM", "("]) ++ base ++
          spelled [")", "paged_"])

/-! ### Tokens of texts put together -/

section Tokens

variable {cs ds : List Char} {texts more : List String}

/-- Whether anything can stand behind the text. -/
def EndsFreely (cs : List Char) : Prop := ∀ l ∈ (lexemes cs).getLast?, l.kind = .blank ∨ l.kind = .opening

instance (cs : List Char) : Decidable (EndsFreely cs) :=
  inferInstanceAs (Decidable (∀ l ∈ (lexemes cs).getLast?, l.kind = .blank ∨ l.kind = .opening))

theorem EndsFreely.nil : EndsFreely [] := by
  simp [EndsFreely, isSplit_iff.mp .nil]

theorem EndsFreely.of_blank (last : (lexemes cs).getLast? = some ⟨.blank, [' ']⟩) : EndsFreely cs := by
  simp [EndsFreely, last]

theorem EndsFreely.of_opening (last : (lexemes cs).getLast? = some ⟨.opening, ['(']⟩) : EndsFreely cs := by
  simp [EndsFreely, last]

theorem tokens_append_of_free (free : EndsFreely cs) : tokens (cs ++ ds) = tokens cs ++ tokens ds := by
  rw [tokens, lexemes_append_of_free free, List.filter_append]
  rfl

theorem spelled_append (texts more : List String) : spelled (texts ++ more) = spelled texts ++ spelled more :=
  List.map_append

theorem tokens_nil : tokens [] = spelled [] := by
  rw [tokens, isSplit_iff.mp .nil]
  rfl

theorem tokens_append_eq_spelled (free : EndsFreely cs) (read : tokens cs = spelled texts)
    (rest : tokens ds = spelled more) : tokens (cs ++ ds) = spelled (texts ++ more) := by
  rw [tokens_append_of_free free, read, rest, spelled_append]

theorem all_toString (n : Nat) : (toString n).toList.all isWordChar = true := by
  refine List.all_eq_true.mpr fun c hc => ?_
  simp [isWordChar, Char.isAlphanum, isDigit_of_mem_toString hc]

private theorem toList_toString_ne_nil (n : Nat) : (toString n).toList ≠ [] := by
  simp [Nat.repr]

theorem ofText_of_word {word : String} (all : word.toList.all isWordChar = true) :
    Lexeme.ofText word = ⟨.word, word.toList⟩ := by
  rw [Lexeme.ofText, if_pos all]

theorem lexemes_number_append (n : Nat) (ends : ∀ x ∈ ds.head?, isWordChar x = false) :
    lexemes ((toString n).toList ++ ds) = Lexeme.ofText (toString n) :: lexemes ds := by
  rw [lexemes_word_append (toList_toString_ne_nil n) (List.all_eq_true.mp (all_toString n)) ends,
    ofText_of_word (all_toString n)]

theorem kind_ofText_toString (n : Nat) : (Lexeme.ofText (toString n)).kind = .word := by
  rw [ofText_of_word (all_toString n)]

theorem tokens_number_append (n : Nat) (ends : ∀ x ∈ ds.head?, isWordChar x = false)
    (rest : tokens ds = spelled more) : tokens ((toString n).toList ++ ds) = spelled (toString n :: more) := by
  have token : (Lexeme.ofText (toString n)).isToken = true := by
    rw [Lexeme.isToken, kind_ofText_toString]
  rw [tokens, lexemes_number_append n ends, List.filter_cons_of_pos token]
  exact congrArg _ rest

/-- The lexemes of a keyword and a number, where there is one. -/
private theorem exists_lexemes_withNumber (keyword : String) (n : Option Nat) (ds : List Char)
    (some_char : keyword.toList ≠ []) (all : keyword.toList.all isWordChar = true)
    (ends : ∀ x ∈ ds.head?, isWordChar x = false) :
    ∃ ls, lexemes ((withNumber keyword n).toList ++ ds) = ls ++ lexemes ds ∧
      ls.filter Lexeme.isToken = spelled (numbered keyword n) ∧ ∀ l ∈ ls.getLast?, l.kind = .word := by
  cases n with
  | none => exact ⟨[], rfl, rfl, by simp⟩
  | some n =>
    have text : (withNumber keyword (some n)).toList ++ ds =
        ' ' :: (keyword.toList ++ ' ' :: ((toString n).toList ++ ds)) := by
      simp [withNumber]
    refine ⟨[⟨.blank, [' ']⟩, Lexeme.ofText keyword, ⟨.blank, [' ']⟩] ++ [Lexeme.ofText (toString n)], ?_, ?_, ?_⟩
    · rw [text, lexemes_cons_of_isBlank (by decide),
        lexemes_word_append some_char (List.all_eq_true.mp all) (by simp [isWordChar]),
        lexemes_cons_of_isBlank (by decide), lexemes_number_append n ends, ofText_of_word all]
      rfl
    · show _ = [Lexeme.ofText keyword, Lexeme.ofText (toString n)]
      rw [ofText_of_word all, ofText_of_word (all_toString n)]
      rfl
    · intro l last
      rw [List.getLast?_concat, Option.mem_some_iff] at last
      rw [← last, kind_ofText_toString]

private theorem tokens_withNumber_append {keyword : String} (some_char : keyword.toList ≠ [])
    (all : keyword.toList.all isWordChar = true) (n : Option Nat)
    (ends : ∀ x ∈ ds.head?, isWordChar x = false) (rest : tokens ds = spelled more) :
    tokens ((withNumber keyword n).toList ++ ds) = spelled (numbered keyword n ++ more) := by
  obtain ⟨ls, split, read, -⟩ := exists_lexemes_withNumber keyword n ds some_char all ends
  rw [tokens, split, List.filter_append, read, spelled_append, ← rest]
  rfl

/-- The lexemes of the clause that stands behind a `SELECT`. -/
private theorem exists_lexemes_skipFirst (skip : Option Nat) (first : Nat) (ds : List Char)
    (ends : ∀ x ∈ ds.head?, isWordChar x = false) :
    ∃ ls, lexemes ((withNumber "SKIP" skip).toList ++ ((withNumber "FIRST" (some first)).toList ++ ds)) =
        ls ++ lexemes ds ∧
      ls.filter Lexeme.isToken = spelled (numbered "SKIP" skip ++ numbered "FIRST" (some first)) ∧
      ∀ l ∈ ls.getLast?, l.kind = .word := by
  obtain ⟨front, front_split, front_read, front_last⟩ := exists_lexemes_withNumber "SKIP" skip
    ((withNumber "FIRST" (some first)).toList ++ ds) (by decide) (by decide) (by simp [withNumber, isWordChar])
  obtain ⟨back, back_split, back_read, back_last⟩ := exists_lexemes_withNumber "FIRST" (some first) ds
    (by decide) (by decide) ends
  refine ⟨front ++ back, ?_, ?_, ?_⟩
  · rw [front_split, back_split, List.append_assoc]
  · rw [List.filter_append, front_read, back_read, spelled_append]
  · intro l last
    rw [List.getLast?_append, Option.mem_def, Option.or_eq_some_iff] at last
    rcases last with last | ⟨-, last⟩
    · exact back_last l last
    · exact front_last l last

end Tokens

section OffsetClause

variable (offset count : Nat)

theorem lexemes_offsetClause :
    lexemes (offsetClause offset count).toList =
      lexemes " OFFSET ".toList ++ Lexeme.ofText (toString offset) :: (lexemes " ROWS FETCH NEXT ".toList ++
        Lexeme.ofText (toString count) :: lexemes " ROWS ONLY".toList) := by
  have text : (offsetClause offset count).toList = " OFFSET ".toList ++ ((toString offset).toList ++
      (" ROWS FETCH NEXT ".toList ++ ((toString count).toList ++ " ROWS ONLY".toList))) := by
    simp [offsetClause]
  have front_free : EndsFreely " OFFSET ".toList := .of_blank (by decide +kernel)
  have middle_free : EndsFreely " ROWS FETCH NEXT ".toList := .of_blank (by decide +kernel)
  rw [text, lexemes_append_of_free front_free, lexemes_number_append offset (by simp [isWordChar]),
    lexemes_append_of_free middle_free, lexemes_number_append count (by simp [isWordChar])]

theorem tokens_offsetClause :
    tokens (offsetClause offset count).toList =
      spelled ["OFFSET", toString offset, "ROWS", "FETCH", "NEXT", toString count, "ROWS", "ONLY"] := by
  have number (n : Nat) : (Lexeme.ofText (toString n)).isToken = true := by
    rw [Lexeme.isToken, kind_ofText_toString]
  have front : (lexemes " OFFSET ".toList).filter Lexeme.isToken = spelled ["OFFSET"] := by decide +kernel
  have middle : (lexemes " ROWS FETCH NEXT ".toList).filter Lexeme.isToken = spelled ["ROWS", "FETCH", "NEXT"] := by
    decide +kernel
  have back : (lexemes " ROWS ONLY".toList).filter Lexeme.isToken = spelled ["ROWS", "ONLY"] := by decide +kernel
  rw [tokens, lexemes_offsetClause, List.filter_append, List.filter_cons_of_pos (number offset), List.filter_append,
    List.filter_cons_of_pos (number count), front, middle, back]
  rfl

theorem breaksOff_offsetClause : ∀ c ∈ (offsetClause offset count).toList.head?, Lexeme.breaksOff c = true := by
  simp [offsetClause, Lexeme.breaksOff, isWordChar]

/-- The clause stands by itself behind a parenthesis. -/
theorem lexemes_append_offsetClause {cs : List Char} (last : (lexemes cs).getLast? = some ⟨.closing, [')']⟩) :
    lexemes (cs ++ (offsetClause offset count).toList) = lexemes cs ++ lexemes (offsetClause offset count).toList := by
  refine lexemes_append_of_breaksOff ?_ (breaksOff_offsetClause offset count)
  intro l hl
  rw [last, Option.mem_some_iff] at hl
  subst hl
  trivial

end OffsetClause

/-! ### The leading `SELECT` -/

namespace Scan

variable {ls : List Lexeme}

private theorem atStart_foldl :
    (ls.foldl step {}).atStart = true ↔ ∀ l ∈ ls, l.isToken = true → l.kind = .closing := by
  induction ls using List.reverseRecOn with
  | nil => simp
  | append_singleton ls l ih =>
    rw [List.foldl_append, List.foldl_cons, List.foldl_nil, atStart_step, List.forall_mem_append,
      List.forall_mem_singleton, Bool.and_eq_true, ih]
    refine and_congr_right fun _ => ?_
    cases l.isToken <;> simp

/-- At the start no parenthesis is open, however many are closed. -/
private theorem depth_foldl_of_atStart (start : (ls.foldl step {}).atStart = true) : (ls.foldl step {}).depth = 0 := by
  induction ls using List.reverseRecOn with
  | nil => rfl
  | append_singleton ls l ih =>
    rw [atStart_foldl, List.forall_mem_append, List.forall_mem_singleton] at start
    have not_opening : openings [l] = 0 := by
      refine List.countP_eq_zero.mpr fun x hx => ?_
      rw [List.mem_singleton.mp hx]
      intro opening
      have kind : l.kind = .opening := by simpa using opening
      have := start.2 (by simp [Lexeme.isToken, kind])
      simp [kind] at this
    rw [List.foldl_append, List.foldl_cons, List.foldl_nil, depth_step, ih (atStart_foldl.mpr start.1), not_opening]
    omega

/-- The scan finds the first word that no token but closing parentheses stands before, if it is a `SELECT`. -/
private theorem selectEnd_foldl {n : Nat} :
    (ls.foldl step {}).selectEnd = some n ↔ ∃ front select back, ls = front ++ select :: back ∧
      (∀ l ∈ front, l.isToken = true → l.kind = .closing) ∧ select.IsWord "SELECT" ∧
      n = extent (front ++ [select]) := by
  induction ls using List.reverseRecOn with
  | nil => simp
  | append_singleton ls l ih =>
    rw [List.foldl_append, List.foldl_cons, List.foldl_nil, selectEnd_step]
    by_cases first : (ls.foldl step {}).atStart = true ∧ l.IsWord "SELECT"
    · rw [if_pos ⟨depth_foldl_of_atStart first.1, first⟩, position_foldl, ← extent_singleton, ← extent_append]
      constructor
      · rintro ⟨⟩
        exact ⟨ls, l, [], rfl, atStart_foldl.mp first.1, first.2, rfl⟩
      · rintro ⟨front, select, back, split, closings, word, rfl⟩
        rcases back.eq_nil_or_concat' with rfl | ⟨back, b, rfl⟩
        · obtain ⟨rfl, rfl⟩ := eq_of_append_singleton split
          rfl
        · -- then the start was over before the last lexeme
          have split : ls ++ [l] = (front ++ select :: back) ++ [b] := by simpa using split
          obtain ⟨rfl, -⟩ := eq_of_append_singleton split
          have closing := atStart_foldl.mp first.1 select (by simp) (by simp [Lexeme.isToken, word.1])
          rw [word.1] at closing
          cases closing
    · rw [if_neg fun found => first found.2, ih]
      constructor
      · rintro ⟨front, select, back, rfl, closings, word, rfl⟩
        exact ⟨front, select, back ++ [l], by simp, closings, word, rfl⟩
      · rintro ⟨front, select, back, split, closings, word, rfl⟩
        rcases back.eq_nil_or_concat' with rfl | ⟨back, b, rfl⟩
        · obtain ⟨rfl, rfl⟩ := eq_of_append_singleton split
          exact absurd ⟨atStart_foldl.mpr closings, word⟩ first
        · have split : ls ++ [l] = (front ++ select :: back) ++ [b] := by simpa using split
          obtain ⟨rfl, -⟩ := eq_of_append_singleton split
          exact ⟨front, select, back, rfl, closings, word, rfl⟩

end Scan

/-! ### Seams of a page -/

section Page

variable {cs : List Char}

theorem tokens_query (cs : List Char) :
    tokens (Outline.ofChars cs).query = tokens (Text.trimLeft cs) := by
  obtain ⟨trailing, split, noise⟩ := exists_trailing (lexemes (Text.trimLeft cs))
  have none_behind : trailing.filter Lexeme.isToken = [] := by simpa using noise
  rw [tokens, Outline.lexemes_query, tokens, split, List.filter_append, none_behind, List.append_nil, ← split]

/-- The last token of a query ends by itself if it is no quoted run that is open. -/
theorem closed_of_getLast? (closed : ∀ l ∈ lexemes (Text.trimLeft cs), l.kind = .quoted → l.Closed) :
    ∀ l ∈ (lexemes (Outline.ofChars cs).query).getLast?, l.Closed := by
  rw [Outline.lexemes_query]
  intro l last
  have among : l ∈ lexemes (Text.trimLeft cs) :=
    (List.rdropWhile_prefix _ _).subset (List.mem_of_getLast? last)
  have token := isToken_of_getLast?_untilLastToken last
  by_cases quoted : l.kind = .quoted
  · exact closed l among quoted
  · unfold Lexeme.Closed
    unfold Lexeme.isToken at token
    split <;> simp_all

section Closed

variable (closed : ∀ l ∈ lexemes (Text.trimLeft cs), l.kind = .quoted → l.Closed)
include closed

/-- Text around a query leaves the lexemes of the query as they are. -/
private theorem around_query {front back : List Char} {texts more : List String} (free : EndsFreely front)
    (breaks : ∀ c ∈ back.head?, Lexeme.breaksOff c = true) (front_read : tokens front = spelled texts)
    (back_read : tokens back = spelled more) {page : List Char}
    (page_eq : page = front ++ ((Outline.ofChars cs).query ++ back)) :
    tokens page = spelled texts ++ tokens (Text.trimLeft cs) ++ spelled more ∧
      (lexemes (Outline.ofChars cs).query).Sublist (lexemes page) := by
  have split : lexemes ((Outline.ofChars cs).query ++ back) = lexemes (Outline.ofChars cs).query ++ lexemes back :=
    lexemes_append_of_breaksOff (closed_of_getLast? closed) breaks
  subst page_eq
  constructor
  · rw [tokens_append_of_free free, front_read, tokens, split, List.filter_append, ← tokens_query, ← back_read,
      List.append_assoc]
    rfl
  · rw [lexemes_append_of_free free, split]
    exact (List.sublist_append_left _ _).trans (List.sublist_append_right _ _)

end Closed

/-- Text that ends in a word, put behind the leading `SELECT`, leaves the lexemes of the query as they are. -/
private theorem behind_select {n : Nat} (found : (Outline.ofChars cs).selectEnd = some n) {clause : List Char}
    (starts : clause.head? = some ' ') (ends : ∀ l ∈ (lexemes clause).getLast?, l.kind = .word) :
    ∃ before after, SplitsAtSelect (tokens (Text.trimLeft cs)) before after ∧
      tokens (Text.takeBytes n (Outline.ofChars cs).query ++ (clause ++ Text.dropBytes n (Outline.ofChars cs).query)) =
        before ++ tokens clause ++ after ∧
      (lexemes (Outline.ofChars cs).query).Sublist
        (lexemes (Text.takeBytes n (Outline.ofChars cs).query ++
          (clause ++ Text.dropBytes n (Outline.ofChars cs).query))) := by
  rw [← tokens_query]
  rw [Outline.ofChars_eq_ofLexemes_query] at found
  generalize (Outline.ofChars cs).query = query at found ⊢
  obtain ⟨front, select, back, split, closings, word, rfl⟩ := Scan.selectEnd_foldl.mp found
  have whole : textOf (front ++ [select]) ++ textOf back = query := by
    rw [← textOf_append, List.append_assoc, List.singleton_append, ← split]
    exact flatMap_text_lexemes query
  have taken : Text.takeBytes (extent (front ++ [select])) query = textOf (front ++ [select]) := by
    rw [← whole]
    exact Text.takeBytes_byteSize_append _ _
  have left : Text.dropBytes (extent (front ++ [select])) query = textOf back := by
    rw [← whole]
    exact Text.dropBytes_byteSize_append _ _
  rw [taken, left]
  have query_split : IsSplit query (front ++ select :: back) := isSplit_iff.mpr split
  have select_leads : select.Leads (textOf back) := query_split.leads
  rw [List.append_cons] at query_split
  obtain ⟨until_select, behind⟩ := query_split.of_append
  -- the last word of the clause stands where the `SELECT` stood
  have clause_split : IsSplit (clause ++ textOf back) (lexemes clause ++ back) := by
    refine (isSplit_iff.mpr rfl).append behind fun l last => ?_
    exact select_leads.of_word_leads word.1 (leads_nil_of_getLast? last) (ends l last)
  have page_split := until_select.append clause_split (by
    intro l last
    rw [List.getLast?_concat, Option.mem_some_iff] at last
    subst last
    refine select_leads.of_word word.1 fun c first => ?_
    rw [List.head?_append, starts] at first
    cases first
    decide)
  rw [isSplit_iff] at page_split
  have token : select.isToken = true := by simp [Lexeme.isToken, word.1]
  refine ⟨front.filter Lexeme.isToken ++ [select], back.filter Lexeme.isToken, ?_, ?_, ?_⟩
  · refine ⟨by simp [tokens, split, token], front.filter Lexeme.isToken, select, rfl, ?_, word⟩
    intro l hl
    exact closings l (List.mem_of_mem_filter hl) (List.mem_filter.mp hl).2
  · simp [tokens, page_split, token]
  · rw [page_split, split, List.append_cons]
    exact (List.Sublist.refl _).append (List.sublist_append_right _ _)

/-- Where the scan finds no leading `SELECT`, there is none. -/
theorem not_splitsAtSelect (missing : (Outline.ofChars cs).selectEnd = none) (before after : List Lexeme) :
    ¬SplitsAtSelect (tokens (Text.trimLeft cs)) before after := by
  rintro ⟨split, closings, select, rfl, closing, word⟩
  rw [← tokens_query, tokens] at split
  obtain ⟨_, _, lexemes_split, until_select, -⟩ := List.filter_eq_append_iff.mp split
  obtain ⟨front, rest, rfl, filtered, at_select⟩ := List.filter_eq_append_iff.mp until_select
  obtain ⟨gap, back, rfl, no_token, -, -⟩ := List.filter_eq_cons_iff.mp at_select
  rw [Outline.ofChars_eq_ofLexemes_query] at missing
  have found : (Outline.ofLexemes (lexemes (Outline.ofChars cs).query)).selectEnd =
      some (extent (front ++ gap ++ [select])) := by
    refine Scan.selectEnd_foldl.mpr ⟨front ++ gap, select, _, by simpa using lexemes_split, ?_, word, rfl⟩
    intro l hl token
    rcases List.mem_append.mp hl with hl | hl
    · exact closing l (filtered ▸ List.mem_filter.mpr ⟨hl, token⟩)
    · exact absurd token (no_token l hl)
  rw [missing] at found
  cases found

/-! ### The four ways to pick rows -/

/-- The page of a clause has the tokens of the query and of the clause, and the lexemes of the query. -/
private def Inserted (cs : List Char) (p : Paging) (clause : RowClause) : Prop :=
  let page := ((Outline.ofChars cs).picking p clause).toList
  (Outline.ofChars cs).Inserts (tokens (Text.trimLeft cs)) p clause (tokens page) ∧
    (lexemes (Outline.ofChars cs).query).Sublist (lexemes page)

private theorem head?_withNumber_append {keyword : String} {n : Option Nat} {back : List Char}
    (h : ∀ c ∈ back.head?, c = ' ') : ∀ c ∈ ((withNumber keyword n).toList ++ back).head?, c = ' ' := by
  cases n with
  | none => exact h
  | some n => simp [withNumber]

/-- The page of a query with a leading `SELECT` has the words of the clause behind it. -/
theorem exists_page_behindSelect {n : Nat} (select : (Outline.ofChars cs).selectEnd = some n) (skip : Option Nat)
    (first : Nat) :
    ∃ before after, SplitsAtSelect (tokens (Text.trimLeft cs)) before after ∧
      tokens ((Outline.ofChars cs).picking .skipFirst (.skipFirst skip first)).toList =
        before ++ spelled (numbered "SKIP" skip ++ numbered "FIRST" (some first)) ++ after ∧
      (lexemes (Outline.ofChars cs).query).Sublist
        (lexemes ((Outline.ofChars cs).picking .skipFirst (.skipFirst skip first)).toList) := by
  have starts : ((withNumber "SKIP" skip).toList ++ (withNumber "FIRST" (some first)).toList).head? = some ' ' := by
    cases skip <;> simp [withNumber]
  obtain ⟨ls, split, read, last⟩ := exists_lexemes_skipFirst skip first [] (by simp)
  rw [List.append_nil, isSplit_iff.mp .nil, List.append_nil] at split
  obtain ⟨before, after, at_select, page_read, kept⟩ := behind_select select starts (split ▸ last)
  have page_eq : ((Outline.ofChars cs).picking .skipFirst (.skipFirst skip first)).toList =
      Text.takeBytes n (Outline.ofChars cs).query ++ ((withNumber "SKIP" skip).toList ++
        (withNumber "FIRST" (some first)).toList ++ Text.dropBytes n (Outline.ofChars cs).query) := by
    simp [Outline.picking_skipFirst_behind _ select]
  have clause_read : tokens ((withNumber "SKIP" skip).toList ++ (withNumber "FIRST" (some first)).toList) =
      spelled (numbered "SKIP" skip ++ numbered "FIRST" (some first)) := by
    rw [tokens, split, read]
  rw [page_eq]
  exact ⟨before, after, at_select, by rw [page_read, clause_read], kept⟩

private theorem inserted_behindSelect {n : Nat} (select : (Outline.ofChars cs).selectEnd = some n) (skip : Option Nat)
    (first : Nat) : Inserted cs .skipFirst (.skipFirst skip first) := by
  obtain ⟨before, after, at_select, read, kept⟩ := exists_page_behindSelect select skip first
  rw [Inserted, read]
  exact ⟨.behindSelect at_select, kept⟩

section Picking

variable (closed : ∀ l ∈ lexemes (Text.trimLeft cs), l.kind = .quoted → l.Closed)
include closed

private theorem inserted_limitOffset (limit : Nat) (offset : Option Nat) :
    Inserted cs .limitOffset (.limitOffset limit offset) := by
  have back_read : tokens ((withNumber "LIMIT" (some limit)).toList ++ ((withNumber "OFFSET" offset).toList ++ [])) =
      spelled (numbered "LIMIT" (some limit) ++ (numbered "OFFSET" offset ++ [])) := by
    refine tokens_withNumber_append (by decide) (by decide) _ ?_
      (tokens_withNumber_append (by decide) (by decide) _ (by simp) tokens_nil)
    intro c first
    rw [head?_withNumber_append (by simp) c first]
    decide
  have page_eq : ((Outline.ofChars cs).picking .limitOffset (.limitOffset limit offset)).toList =
      [] ++ ((Outline.ofChars cs).query ++ ((withNumber "LIMIT" (some limit)).toList ++
        ((withNumber "OFFSET" offset).toList ++ []))) := by
    simp [Outline.picking_limitOffset]
  obtain ⟨read, kept⟩ := around_query closed .nil (by simp [withNumber, Lexeme.breaksOff, isWordChar]) tokens_nil
    back_read page_eq
  refine ⟨?_, kept⟩
  rw [read, List.append_nil]
  exact .limitOffset

private theorem inserted_offsetFetch (requiresOrder : Bool) (offset count : Nat) :
    Inserted cs (.offsetFetch requiresOrder) (.offsetFetch offset count) := by
  let ordering := requiresOrder && (Outline.ofChars cs).order.isNone
  let order := if ordering then " " ++ anyOrder else ""
  have order_read : lexemes (order.toList ++ (offsetClause offset count).toList) =
        lexemes order.toList ++ lexemes (offsetClause offset count).toList ∧
      tokens order.toList = spelled (if ordering then ["ORDER", "BY", "(", "SELECT", "NULL", ")"] else []) := by
    cases h : ordering <;> simp only [order, h]
    · exact ⟨by simp [isSplit_iff.mp .nil], tokens_nil⟩
    · exact ⟨lexemes_append_offsetClause _ _ (by decide +kernel), by decide +kernel⟩
  have back_read : tokens (order.toList ++ (offsetClause offset count).toList) =
      spelled ((if ordering then ["ORDER", "BY", "(", "SELECT", "NULL", ")"] else []) ++
        ["OFFSET", toString offset, "ROWS", "FETCH", "NEXT", toString count, "ROWS", "ONLY"]) := by
    rw [spelled_append, ← order_read.2, ← tokens_offsetClause, tokens, order_read.1, List.filter_append]
    rfl
  have breaks : ∀ c ∈ (order.toList ++ (offsetClause offset count).toList).head?, Lexeme.breaksOff c = true := by
    cases h : ordering
    · simpa [order, h] using breaksOff_offsetClause offset count
    · simp [order, h, anyOrder, Lexeme.breaksOff, isWordChar]
  have page_eq : ((Outline.ofChars cs).picking (.offsetFetch requiresOrder) (.offsetFetch offset count)).toList =
      [] ++ ((Outline.ofChars cs).query ++ (order.toList ++ (offsetClause offset count).toList)) := by
    rw [Outline.picking_offsetFetch]
    cases requiresOrder <;> cases h : (Outline.ofChars cs).order.isNone <;>
      simp [order, ordering, h, anyOrder, offsetClause]
  obtain ⟨read, kept⟩ := around_query closed .nil breaks tokens_nil back_read page_eq
  refine ⟨?_, kept⟩
  rw [read]
  exact .offsetFetch

private theorem inserted_rownum (upTo : Nat) (after : Option Nat) : Inserted cs .rownum (.rownum upTo after) := by
  cases after with
  | none =>
    have back_read : tokens (") WHERE ROWNUM <= ".toList ++ ((toString upTo).toList ++ [])) =
        spelled ([")", "WHERE", "ROWNUM", "<", "="] ++ [toString upTo]) :=
      tokens_append_eq_spelled (.of_blank (by decide +kernel)) (by decide +kernel)
        (tokens_number_append upTo (by simp) tokens_nil)
    have front_read : tokens "SELECT * FROM (".toList = spelled ["SELECT", "*", "FROM", "("] := by decide +kernel
    have page_eq : ((Outline.ofChars cs).picking .rownum (.rownum upTo none)).toList = "SELECT * FROM (".toList ++
        ((Outline.ofChars cs).query ++ (") WHERE ROWNUM <= ".toList ++ ((toString upTo).toList ++ []))) := by
      simp [Outline.picking_rownum_none]
    obtain ⟨read, kept⟩ := around_query closed (.of_opening (by decide +kernel)) (by simp [Lexeme.breaksOff, isWordChar])
      front_read back_read page_eq
    refine ⟨?_, kept⟩
    rw [read]
    exact .firstRows
  | some after =>
    have back_read : tokens (") paged_ WHERE ROWNUM <= ".toList ++ ((toString upTo).toList ++
          (") WHERE row_num_ > ".toList ++ ((toString after).toList ++ [])))) =
        spelled ([")", "paged_", "WHERE", "ROWNUM", "<", "="] ++ (toString upTo ::
          ([")", "WHERE", "row_num_", ">"] ++ [toString after]))) := by
      refine tokens_append_eq_spelled (.of_blank (by decide +kernel)) (by decide +kernel) ?_
      refine tokens_number_append upTo (by simp [isWordChar]) ?_
      refine tokens_append_eq_spelled (.of_blank (by decide +kernel)) (by decide +kernel) ?_
      exact tokens_number_append after (by simp) tokens_nil
    have front_read : tokens "SELECT * FROM (SELECT paged_.*, ROWNUM row_num_ FROM (".toList =
        spelled ["SELECT", "*", "FROM", "(", "SELECT", "paged_", ".", "*", ",", "ROWNUM", "row_num_", "FROM", "("] := by
      decide +kernel
    have page_eq : ((Outline.ofChars cs).picking .rownum (.rownum upTo (some after))).toList =
        "SELECT * FROM (SELECT paged_.*, ROWNUM row_num_ FROM (".toList ++ ((Outline.ofChars cs).query ++
          (") paged_ WHERE ROWNUM <= ".toList ++ ((toString upTo).toList ++
            (") WHERE row_num_ > ".toList ++ ((toString after).toList ++ []))))) := by
      simp [Outline.picking_rownum_some, innerName, rowColumn]
    obtain ⟨read, kept⟩ := around_query closed (.of_opening (by decide +kernel)) (by simp [Lexeme.breaksOff, isWordChar])
      front_read back_read page_eq
    refine ⟨?_, kept⟩
    rw [read]
    exact .laterRows

private theorem inserted_aroundOther (other : (Outline.ofChars cs).selectEnd = none) (skip : Option Nat) (first : Nat) :
    Inserted cs .skipFirst (.skipFirst skip first) := by
  let clause := (withNumber "SKIP" skip).toList ++ ((withNumber "FIRST" (some first)).toList ++ " * FROM (".toList)
  obtain ⟨ls, split, read, -⟩ := exists_lexemes_skipFirst skip first " * FROM (".toList (by simp [isWordChar])
  have front_split : lexemes ("SELECT".toList ++ clause) =
      Lexeme.ofText "SELECT" :: ls ++ lexemes " * FROM (".toList := by
    have ends : ∀ x ∈ clause.head?, isWordChar x = false := by
      cases skip <;> simp [clause, withNumber, isWordChar]
    have all : "SELECT".toList.all isWordChar = true := by decide
    rw [lexemes_word_append (by decide) (List.all_eq_true.mp all) ends, split, ofText_of_word all, List.cons_append]
  have free : EndsFreely ("SELECT".toList ++ clause) := by
    have opening : (lexemes " * FROM (".toList).getLast? = some ⟨.opening, ['(']⟩ := by decide +kernel
    intro l last
    rw [front_split, List.getLast?_append, opening, Option.some_or, Option.mem_some_iff] at last
    exact .inr (last ▸ rfl)
  have front_read : tokens ("SELECT".toList ++ clause) =
      spelled ("SELECT" :: (numbered "SKIP" skip ++ numbered "FIRST" (some first)) ++ ["*", "FROM", "("]) := by
    have rest : (lexemes " * FROM (".toList).filter Lexeme.isToken = spelled ["*", "FROM", "("] := by decide +kernel
    rw [tokens, front_split, List.filter_append, List.filter_cons_of_pos (by decide), read, rest,
      spelled_append ("SELECT" :: _)]
    rfl
  have back_read : tokens ") paged_".toList = spelled [")", "paged_"] := by decide +kernel
  have page_eq : ((Outline.ofChars cs).picking .skipFirst (.skipFirst skip first)).toList =
      ("SELECT".toList ++ clause) ++ ((Outline.ofChars cs).query ++ ") paged_".toList) := by
    simp [Outline.picking_skipFirst_around _ other, clause, innerName]
  obtain ⟨page_read, kept⟩ := around_query closed free (by simp [Lexeme.breaksOff, isWordChar]) front_read back_read
    page_eq
  rw [Inserted, page_read]
  exact ⟨.aroundOther (not_splitsAtSelect other), kept⟩

end Picking

end Page

/-- Where the strategy does not number the rows, a page has the tokens of the query, which is read from its first visible
character on, and those of the clause in one place. No lexeme of the query is lost up to its last token, comments and
blanks included. -/
theorem paginate_inserts_clause {d : Dialect} {page size : Int} {sql : String} (there : Window.Exists page size)
    (strategy : ∀ emptyOrder, d.paging ≠ .rowNumber emptyOrder)
    (closed : ∀ l ∈ lexemes (Text.trimLeft sql.toList), l.kind = .quoted → l.Closed) :
    ∃ w text, Window.ofPage page size = .ok w ∧ paginate d page size sql = .ok text ∧
      (Outline.ofChars sql.toList).Inserts (tokens (Text.trimLeft sql.toList)) d.paging
        (RowClause.ofWindow d.paging w) (tokens text.toList) ∧
      (untilLastToken (lexemes (Text.trimLeft sql.toList))).Sublist (lexemes text.toList) := by
  have window := Window.ofPage_eq_ok_iff.mpr ⟨there, rfl⟩
  refine ⟨_, _, window, paginate_eq_ok_iff.mpr ⟨_, window, rfl⟩, ?_⟩
  rw [← Outline.lexemes_query]
  cases paging : d.paging with
  | limitOffset => exact inserted_limitOffset closed _ _
  | offsetFetch requiresOrder => exact inserted_offsetFetch closed requiresOrder _ _
  | rowNumber emptyOrder => exact absurd paging (strategy emptyOrder)
  | rownum => exact inserted_rownum closed _ _
  | skipFirst =>
    cases select : (Outline.ofChars sql.toList).selectEnd with
    | some n => exact inserted_behindSelect select _ _
    | none => exact inserted_aroundOther closed select _ _

/-- A query that ends in a comment. -/
def greeting : String := "select'it''s' ;--b"

theorem paginate_greeting_inserts_clause :
    Window.Exists 2 10 ∧ (∀ l ∈ lexemes (Text.trimLeft greeting.toList), l.kind = .quoted → l.Closed) ∧
      ∃ text, paginate .informix 2 10 greeting = .ok text ∧
        (Outline.ofChars greeting.toList).Inserts [⟨.word, "select".toList⟩, ⟨.quoted, "'it''s'".toList⟩] .skipFirst
          (.skipFirst (some 10) 10) (tokens text.toList) := by
  have split : lexemes (Text.trimLeft greeting.toList) =
      [⟨.word, "select".toList⟩, ⟨.quoted, "'it''s'".toList⟩, ⟨.blank, " ".toList⟩, ⟨.terminator, ";".toList⟩,
        ⟨.lineComment, "--b".toList⟩] := by decide +kernel
  have there : Window.Exists 2 10 := by simp [Window.Exists, Window.maxRow]
  have closed : ∀ l ∈ lexemes (Text.trimLeft greeting.toList), l.kind = .quoted → l.Closed := by
    simp only [split, List.forall_mem_cons, List.not_mem_nil, false_implies, implies_true, and_true, reduceCtorEq,
      true_and]
    exact fun _ => ⟨'\'', '\'', "it's".toList, by decide, by decide⟩
  refine ⟨there, closed, ?_⟩
  obtain ⟨w, text, window, page, inserted, -⟩ :=
    paginate_inserts_clause (d := .informix) there (by simp [Dialect.informix]) closed
  obtain rfl : w = ⟨10, 10⟩ := (Window.ofPage_eq_ok_iff.mp window).2
  rw [tokens, split] at inserted
  exact ⟨text, page, inserted⟩

end SqlSchema.Query
