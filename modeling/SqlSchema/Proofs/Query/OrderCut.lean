import SqlSchema.Proofs.Query.OffsetOrder

/-!
# Cutting a query at its order

Where the rows are numbered, the query is cut in two: what stands before its last order, and the sort keys. Both parts
keep their tokens, up to blank characters at their ends (`order_cuts_query`). Blanks are what Unicode takes for them,
and the end of a line is one. So where only blank characters stand behind a line comment, the end of the comment is cut
off too, and the part ends inside of it.
-/

namespace SqlSchema.Query

/-- Whether the lexeme is blank in the sense of Unicode, be it a token or not. -/
def Lexeme.isBlankChar (l : Lexeme) : Bool := l.text.all Text.isBlank

/-- Whether a line comment is the last of the lexemes up to the last token, blank characters aside. -/
def StrandsComment (ls : List Lexeme) : Prop :=
  ∃ l ∈ ((untilLastToken ls).filter (!·.isBlankChar)).getLast?, l.kind = .lineComment

/-- Whether the text ends neither inside a comment nor inside a quoted run. -/
def EndsOutside (cs : List Char) : Prop := ∀ l ∈ (lexemes cs).getLast?, l.Closed

/-! ### Blanks at the ends of a text -/

section Trimming

variable {cs ds : List Char} {ls : List Lexeme} {l : Lexeme}

/-- Blank characters in front of a text are lexemes of their own. -/
theorem exists_lexemes_trimLeft (cs : List Char) :
    ∃ blanks, lexemes cs = blanks ++ lexemes (Text.trimLeft cs) ∧ ∀ l ∈ blanks, l.isBlankChar = true := by
  induction cs with
  | nil => exact ⟨[], rfl, by simp⟩
  | cons c cs ih =>
    by_cases blank : Text.isBlank c = true
    · obtain ⟨blanks, split, all_blank⟩ := ih
      have dropped : Text.trimLeft (c :: cs) = Text.trimLeft cs := by simp [Text.trimLeft, blank]
      refine ⟨⟨singleKind c, [c]⟩ :: blanks, ?_, ?_⟩
      · rw [lexemes_cons_of_isBlank blank, dropped, split, List.cons_append]
      · rw [List.forall_mem_cons]
        exact ⟨by simp [Lexeme.isBlankChar, blank], all_blank⟩
    · rw [Bool.not_eq_true] at blank
      exact ⟨[], by rw [Text.trimLeft_cons_of_visible blank, List.nil_append], by simp⟩

theorem Lexeme.Leads.lineComment_text (h : l.Leads ds) (comment : l.kind = .lineComment) (behind : ds ≠ []) :
    ∃ inner, '\n' ∉ inner ∧ l.text = '-' :: '-' :: (inner ++ ['\n']) := by
  cases h with
  | lineComment one_line => exact ⟨_, one_line, rfl⟩
  | openLineComment => exact absurd rfl behind
  | single => exact absurd comment (singleKind_ne (by simp))
  | quoted | openQuoted | blockComment | openBlockComment | word => cases comment

end Trimming

/-! ### The end of a part -/

section Part

variable {ls : List Lexeme} {l : Lexeme} {rest : List Char}

/-- A lexeme that is neither blank nor a line comment ends in a visible character, if it does not end with the query. -/
theorem Lexeme.Leads.exists_visible_last (h : l.Leads rest) (closed : l.kind = .quoted → l.Closed)
    (no_comment : l.kind ≠ .lineComment) (visible : l.isBlankChar = false) (ends : l.isToken = true ∨ rest ≠ []) :
    l.Closed ∧ ∃ front c, l.text = front ++ [c] ∧ Text.isBlank c = false := by
  have of_quoted (kind : l.kind = .quoted) : l.Closed ∧ ∃ front c, l.text = front ++ [c] ∧ Text.isBlank c = false := by
    have by_itself := closed kind
    refine ⟨by_itself, ?_⟩
    unfold Lexeme.Closed at by_itself
    rw [kind] at by_itself
    obtain ⟨c, close, inner, opens, text⟩ := by_itself
    refine ⟨c :: Text.double close inner, close, text, ?_⟩
    rcases closingOf?_eq_some opens with rfl | rfl | rfl | rfl <;> decide
  cases h with
  | quoted | openQuoted => exact of_quoted rfl
  | lineComment | openLineComment => exact absurd rfl no_comment
  | @blockComment inner => exact ⟨⟨inner, rfl⟩, '/' :: '*' :: (inner ++ ['*']), '/', by simp, by decide⟩
  | openBlockComment =>
    rcases ends with token | behind
    · cases token
    · exact absurd rfl behind
  | @word c more _ all =>
    refine ⟨trivial, ?_⟩
    obtain ⟨front, last, text⟩ := (List.eq_nil_or_concat' (c :: more)).resolve_left (by simp)
    exact ⟨front, last, text, isBlank_of_isWordChar (all last (by simp [text]))⟩
  | @single c =>
    refine ⟨?_, [], c, rfl, by simpa [Lexeme.isBlankChar] using visible⟩
    unfold Lexeme.Closed
    split
    · exact absurd ‹_› (singleKind_ne (by simp))
    · exact absurd ‹_› (singleKind_ne (by simp))
    · exact absurd ‹_› (singleKind_ne (by simp))
    · trivial

/-- Without the blanks at its end, a text that ends in a line comment ends inside of it. -/
private theorem lexemes_trimRight_lineComment {front : List Lexeme} {inner : List Char}
    (split : IsSplit (textOf (front ++ [l])) (front ++ [l])) (text : l.text = '-' :: '-' :: (inner ++ ['\n']))
    (one_line : '\n' ∉ inner) :
    ∃ left, '\n' ∉ left ∧
      lexemes (Text.trimRight (textOf (front ++ [l]))) = front ++ [⟨.lineComment, '-' :: '-' :: left⟩] := by
  refine ⟨Text.trimRight inner, fun found => one_line ((Text.trimRight_prefix inner).subset found), ?_⟩
  have one_left : '\n' ∉ Text.trimRight inner := fun found => one_line ((Text.trimRight_prefix inner).subset found)
  have whole : textOf (front ++ [l]) = textOf front ++ '-' :: '-' :: (inner ++ ['\n']) := by
    rw [textOf_append, ← text]
    simp [textOf]
  rw [whole, Text.trimRight_append_cons_of_visible (by decide), ← List.nil_append ('-' :: (inner ++ _)),
    Text.trimRight_append_cons_of_visible (by decide), Text.trimRight_append_of_all_blank (by simp [Text.isBlank]),
    List.nil_append]
  have comment : IsSplit ('-' :: '-' :: Text.trimRight inner) [⟨.lineComment, '-' :: '-' :: Text.trimRight inner⟩] := by
    have alone := IsSplit.cons (.openLineComment one_left) .nil
    rwa [List.append_nil] at alone
  refine isSplit_iff.mp (split.of_append.1.append comment ?_)
  intro x last
  obtain ⟨before, rfl⟩ := List.getLast?_eq_some_iff.mp last
  rw [List.append_assoc, List.singleton_append] at split
  refine split.leads.of_head?_eq ?_
  simp [textOf, text]

/-- A part that ends in a line comment loses the end of the line, and no token. -/
private theorem trimRight_of_comment {front : List Lexeme} (split : IsSplit (textOf (front ++ [l])) (front ++ [l]))
    (comment : l.kind = .lineComment) {inner : List Char} (text : l.text = '-' :: '-' :: (inner ++ ['\n']))
    (one_line : '\n' ∉ inner) :
    (front ++ [l]).filter Lexeme.isToken = tokens (Text.trimRight (textOf (front ++ [l]))) ∧
      ¬EndsOutside (Text.trimRight (textOf (front ++ [l]))) := by
  obtain ⟨left, one_left, whole⟩ := lexemes_trimRight_lineComment split text one_line
  have no_token : l.isToken = false := by simp [Lexeme.isToken, comment]
  have inside : ¬(⟨.lineComment, '-' :: '-' :: left⟩ : Lexeme).Closed := by
    rintro ⟨more, same⟩
    simp only [List.cons.injEq, true_and] at same
    exact one_left (by simp [same])
  refine ⟨?_, by simp [EndsOutside, whole, inside]⟩
  rw [tokens, whole, List.filter_append, List.filter_append, List.filter_singleton, List.filter_singleton, no_token]
  rfl

/-- A part that ends in another lexeme and a visible character stays as it is. -/
private theorem trimRight_of_visible {front : List Lexeme} (split : IsSplit (textOf (front ++ [l])) (front ++ [l]))
    (by_itself : l.Closed) {more : List Char} {c : Char} (text : l.text = more ++ [c])
    (visible : Text.isBlank c = false) :
    (front ++ [l]).filter Lexeme.isToken = tokens (Text.trimRight (textOf (front ++ [l]))) ∧
      EndsOutside (Text.trimRight (textOf (front ++ [l]))) := by
  have whole : textOf (front ++ [l]) = (textOf front ++ more) ++ [c] := by
    rw [textOf_append, List.append_assoc, ← text]
    simp [textOf]
  have same : Text.trimRight (textOf (front ++ [l])) = textOf (front ++ [l]) := by
    rw [whole, Text.trimRight_concat_of_visible visible]
  rw [same, tokens, isSplit_iff.mp split]
  simp [EndsOutside, isSplit_iff.mp split, by_itself]

/-- What is left of lexemes without the blank characters at their end. -/
private theorem exists_blank_tail (ls : List Lexeme) : ∃ kept blanks, ls = kept ++ blanks ∧
    (∀ b ∈ blanks, b.isBlankChar = true) ∧ ∀ l ∈ kept.getLast?, l.isBlankChar = false := by
  refine ⟨ls.rdropWhile Lexeme.isBlankChar, ls.rtakeWhile Lexeme.isBlankChar,
    List.rdropWhile_append_rtakeWhile.symm, fun b => List.mem_rtakeWhile_imp, fun l hl => ?_⟩
  have some_lexeme : ls.rdropWhile Lexeme.isBlankChar ≠ [] := by
    intro nothing
    rw [nothing] at hl
    cases hl
  rw [List.getLast?_eq_some_getLast some_lexeme, Option.mem_some_iff] at hl
  rw [← hl]
  simpa using List.rdropWhile_last_not Lexeme.isBlankChar ls some_lexeme

/-- A part of a query keeps its tokens when it is trimmed at the end, up to blank characters that count as tokens. Only
where nothing but such blanks follows a line comment, it then ends inside of a lexeme. -/
theorem trimRight_part (split : IsSplit (textOf ls) ls) (closed : ∀ l ∈ ls, l.kind = .quoted → l.Closed)
    (last : ∀ l ∈ ls.getLast?, l.isToken = true) :
    ∃ cut, (∀ l ∈ cut, l.isBlankChar = true) ∧
      ls.filter Lexeme.isToken = tokens (Text.trimRight (textOf ls)) ++ cut ∧
      (EndsOutside (Text.trimRight (textOf ls)) ↔ ¬StrandsComment ls) := by
  obtain ⟨kept, blanks, rfl, all_blank, visible⟩ := exists_blank_tail ls
  refine ⟨blanks.filter Lexeme.isToken, fun b hb => all_blank b (List.mem_of_mem_filter hb), ?_⟩
  have trimmed : Text.trimRight (textOf (kept ++ blanks)) = Text.trimRight (textOf kept) := by
    rw [textOf_append]
    refine Text.trimRight_append_of_all_blank fun c hc => ?_
    obtain ⟨b, hb, among⟩ := List.mem_flatMap.mp hc
    exact List.all_eq_true.mp (all_blank b hb) c among
  have strands : StrandsComment (kept ++ blanks) ↔
      ∃ l ∈ (kept.filter (!·.isBlankChar)).getLast?, l.kind = .lineComment := by
    have none_visible : blanks.filter (!·.isBlankChar) = [] := by simpa using all_blank
    rw [StrandsComment, untilLastToken_eq_self last, List.filter_append, none_visible, List.append_nil]
  rw [trimmed, strands, List.filter_append, List.append_cancel_right_eq]
  rcases kept.eq_nil_or_concat' with rfl | ⟨front, l, rfl⟩
  · have nothing : lexemes ([] : List Char) = [] := isSplit_iff.mp .nil
    simp [textOf, Text.trimRight, tokens, EndsOutside, nothing]
  · have seen : l.isBlankChar = false := visible l (by simp)
    have last_seen : ((front ++ [l]).filter (!·.isBlankChar)).getLast? = some l := by
      simp [List.filter_append, seen]
    have alone : IsSplit (textOf (front ++ [l])) (front ++ [l]) := split.of_append.1
    rw [last_seen]
    simp only [Option.mem_some_iff, exists_eq_left']
    have ends : l.isToken = true ∨ textOf blanks ≠ [] := by
      cases blanks with
      | nil => exact .inl (last l (by simp))
      | cons b blanks =>
        exact .inr fun nothing => split.leads.text_ne_nil (List.flatMap_eq_nil_iff.mp nothing b (by simp))
    rw [List.append_assoc, List.singleton_append] at split
    by_cases comment : l.kind = .lineComment
    · -- the comment is no token, so blanks follow it, and the end of its line is trimmed off with them
      have behind : textOf blanks ≠ [] := ends.resolve_left (by simp [Lexeme.isToken, comment])
      obtain ⟨inner, one_line, text⟩ := split.leads.lineComment_text comment behind
      obtain ⟨same, inside⟩ := trimRight_of_comment alone comment text one_line
      exact ⟨same, iff_of_false inside (not_not_intro comment)⟩
    · obtain ⟨by_itself, more, c, text, not_blank⟩ :=
        split.leads.exists_visible_last (closed l (by simp)) comment seen ends
      obtain ⟨same, outside⟩ := trimRight_of_visible alone by_itself text not_blank
      exact ⟨same, iff_of_true outside comment⟩

/-- The same where blank characters are trimmed off the front too. -/
theorem trimChars_part (split : IsSplit (textOf ls) ls) (closed : ∀ l ∈ ls, l.kind = .quoted → l.Closed)
    (last : ∀ l ∈ ls.getLast?, l.isToken = true) :
    ∃ cut more, (∀ l ∈ cut ++ more, l.isBlankChar = true) ∧
      ls.filter Lexeme.isToken = cut ++ tokens (Text.trimChars (textOf ls)) ++ more ∧
      (EndsOutside (Text.trimChars (textOf ls)) ↔ ¬StrandsComment ls) := by
  obtain ⟨blanks, parts, all_blank⟩ := exists_lexemes_trimLeft (textOf ls)
  rw [isSplit_iff.mp split] at parts
  have text : textOf (lexemes (Text.trimLeft (textOf ls))) = Text.trimLeft (textOf ls) := flatMap_text_lexemes _
  have last_left : ∀ l ∈ (lexemes (Text.trimLeft (textOf ls))).getLast?, l.isToken = true := by
    intro l hl
    refine last l ?_
    rw [parts, List.getLast?_append, Option.mem_def.mp hl]
    rfl
  have split_left : IsSplit (textOf (lexemes (Text.trimLeft (textOf ls)))) (lexemes (Text.trimLeft (textOf ls))) :=
    isSplit_iff.mpr (by rw [text])
  have closed_left : ∀ l ∈ lexemes (Text.trimLeft (textOf ls)), l.kind = .quoted → l.Closed := fun l hl =>
    closed l (by rw [parts]; simp [hl])
  obtain ⟨cut, cut_blank, same, ends⟩ := trimRight_part split_left closed_left last_left
  rw [text] at same ends
  refine ⟨blanks.filter Lexeme.isToken, cut, ?_, ?_, ends.trans ?_⟩
  · rintro l hl
    rcases List.mem_append.mp hl with hl | hl
    · exact all_blank l (List.mem_of_mem_filter hl)
    · exact cut_blank l hl
  · conv_lhs => rw [parts]
    rw [List.filter_append, same, List.append_assoc]
    rfl
  · have none_visible : blanks.filter (!·.isBlankChar) = [] := by simpa using all_blank
    have visible : ls.filter (!·.isBlankChar) = (lexemes (Text.trimLeft (textOf ls))).filter (!·.isBlankChar) := by
      conv_lhs => rw [parts]
      rw [List.filter_append, none_visible, List.nil_append]
    rw [StrandsComment, StrandsComment, untilLastToken_eq_self last, untilLastToken_eq_self last_left, visible]

end Part

/-! ### The two parts -/

/-- A query with these lexemes is cut at the words `ORDER BY` into its body and the sort keys. -/
structure Outline.CutsAt (o : Outline) (keys : List Char) (before : List Lexeme) (order : Lexeme) (gap : List Lexeme)
    (by_ : Lexeme) (back : List Lexeme) : Prop where
  split : lexemes o.query = before ++ order :: gap ++ by_ :: back
  at_top : AtTop before
  order_word : order.IsWord "ORDER"
  gaps : ∀ g ∈ gap, g.isGap = true
  by_word : by_.IsWord "BY"
  /-- No token is lost or doubled, up to blank characters around the parts. -/
  same_tokens : ∃ cut₁ cut₂ cut₃, (∀ l ∈ cut₁ ++ cut₂ ++ cut₃, l.isBlankChar = true) ∧
    tokens o.query = tokens o.body ++ cut₁ ++ order :: by_ :: (cut₂ ++ tokens keys ++ cut₃)
  body_ends : EndsOutside o.body ↔ ¬StrandsComment before
  keys_end : EndsOutside keys ↔ ¬StrandsComment back

theorem Outline.body_eq_trimRight {o : Outline} {clause : OrderClause} {before more : List Lexeme}
    (ordered : o.order = some clause) (query : o.query = textOf (before ++ more))
    (start : clause.start = tokenEnd before) : o.body = Text.trimRight (textOf (untilLastToken before)) := by
  obtain ⟨trailing, split, -⟩ := exists_trailing before
  have parts : o.query = textOf (untilLastToken before) ++ textOf (trailing ++ more) := by
    rw [query, ← textOf_append, ← List.append_assoc, ← split]
  rw [Outline.body, ordered]
  dsimp only
  rw [start, parts]
  exact congrArg Text.trimRight (Text.takeBytes_byteSize_append _ _)

theorem Outline.sortKeys_eq_trimChars {o : Outline} {clause : OrderClause} {front back : List Lexeme}
    (ordered : o.order = some clause) (query : o.query = textOf (front ++ back))
    (keys : clause.keys = extent front) : o.sortKeys = some (Text.trimChars (textOf back)) := by
  rw [Outline.sortKeys, ordered, Option.map_some, query, keys, textOf_append]
  exact congrArg (some ∘ Text.trimChars) (Text.dropBytes_byteSize_append _ _)

/-- Where the order is found and what is cut off before and behind it. -/
private theorem exists_order_split {cs keys : List Char} (opened : ClosesOnlyOpened (lexemes (Text.trimLeft cs)))
    (found : (Outline.ofChars cs).sortKeys = some keys) :
    ∃ before order gap by_ back, lexemes (Outline.ofChars cs).query = before ++ order :: gap ++ by_ :: back ∧
      AtTop before ∧ order.IsWord "ORDER" ∧ (∀ g ∈ gap, g.isGap = true) ∧ by_.IsWord "BY" ∧
      (Outline.ofChars cs).body = Text.trimRight (textOf (untilLastToken before)) ∧
      keys = Text.trimChars (textOf back) := by
  obtain ⟨clause, ordered, -⟩ := Option.map_eq_some_iff.mp found
  have last : LastOrderBy (lexemes (Outline.ofChars cs).query) clause :=
    ((knows_query opened).order clause).mp ((Outline.order_ofChars cs).symm.trans ordered)
  obtain ⟨_, back, split, ⟨_, by_, rfl, ends_in_order, by_word, keys_at⟩, -⟩ := last
  obtain ⟨before, order, gap, rfl, top, order_word, gaps, start⟩ := ends_in_order
  have query : (Outline.ofChars cs).query = textOf (before ++ order :: gap ++ [by_] ++ back) :=
    (isSplit_iff.mpr split).textOf_eq.symm
  have keys_eq := Outline.sortKeys_eq_trimChars ordered query keys_at
  rw [found, Option.some.injEq] at keys_eq
  have at_order : before ++ order :: gap ++ [by_] ++ back = before ++ (order :: gap ++ by_ :: back) := by simp
  exact ⟨before, order, gap, by_, back, by simp [split], top, order_word, gaps, by_word,
    Outline.body_eq_trimRight ordered (at_order ▸ query) start, keys_eq⟩

/-- A query without an order stays whole. A query with one is cut at the words of the order: body, `ORDER BY` and sort
keys have its tokens, up to blank characters around the parts. A part ends outside comments and quoted runs unless only
blank characters stand behind a line comment at its end. -/
theorem order_cuts_query (cs : List Char) (opened : ClosesOnlyOpened (lexemes (Text.trimLeft cs)))
    (closed : ∀ l ∈ lexemes (Text.trimLeft cs), l.kind = .quoted → l.Closed) :
    ((Outline.ofChars cs).order = none → (Outline.ofChars cs).body = (Outline.ofChars cs).query) ∧
      ∀ keys, (Outline.ofChars cs).sortKeys = some keys →
        ∃ before order gap by_ back, (Outline.ofChars cs).CutsAt keys before order gap by_ back := by
  constructor
  · intro unordered
    rw [Outline.body, unordered]
  · intro keys found
    obtain ⟨before, order, gap, by_, back, split, top, order_word, gaps, by_word, body, keys_eq⟩ :=
      exists_order_split opened found
    have parts : IsSplit (Outline.ofChars cs).query (before ++ (order :: gap ++ by_ :: back)) :=
      isSplit_iff.mpr (by simpa using split)
    have closed_query : ∀ l ∈ lexemes (Outline.ofChars cs).query, l.kind = .quoted → l.Closed := by
      rw [Outline.lexemes_query]
      exact fun l among => closed l ((List.rdropWhile_prefix _ _).subset among)
    rw [split] at closed_query
    -- the body
    have split_before : IsSplit (textOf (untilLastToken before)) (untilLastToken before) := by
      obtain ⟨trailing, before_split, -⟩ := exists_trailing before
      rw [before_split, List.append_assoc] at parts
      exact parts.of_append.1
    have closed_before : ∀ l ∈ untilLastToken before, l.kind = .quoted → l.Closed := fun l hl =>
      closed_query l (by simp [(List.rdropWhile_prefix _ _).subset hl])
    obtain ⟨cut₁, blank₁, same₁, ends₁⟩ :=
      trimRight_part split_before closed_before fun l => isToken_of_getLast?_untilLastToken
    rw [← body, filter_untilLastToken] at same₁
    rw [← body, StrandsComment, untilLastToken_eq_self fun l => isToken_of_getLast?_untilLastToken] at ends₁
    -- the sort keys
    have last_back : ∀ l ∈ back.getLast?, l.isToken = true := by
      intro l hl
      have last_query : l ∈ (untilLastToken (lexemes (Text.trimLeft cs))).getLast? := by
        rw [← Outline.lexemes_query, split, List.getLast?_append, List.getLast?_cons, Option.mem_def.mp hl]
        rfl
      exact isToken_of_getLast?_untilLastToken last_query
    have split_back : IsSplit (textOf back) back := by
      have whole : before ++ (order :: gap ++ by_ :: back) = before ++ order :: gap ++ [by_] ++ back := by simp
      exact (whole ▸ parts).of_append.2
    obtain ⟨cut₂, cut₃, blank₂, same₂, ends₂⟩ :=
      trimChars_part split_back (fun l hl => closed_query l (by simp [hl])) last_back
    rw [← keys_eq] at same₂ ends₂
    refine ⟨before, order, gap, by_, back, split, top, order_word, gaps, by_word, ⟨cut₁, cut₂, cut₃, ?_, ?_⟩, ends₁,
      ends₂⟩
    · rw [List.append_assoc, List.forall_mem_append]
      exact ⟨blank₁, blank₂⟩
    · have gap_tokens : gap.filter Lexeme.isToken = [] := by
        refine List.filter_eq_nil_iff.mpr fun g hg => ?_
        simp [Lexeme.isToken_of_isGap (gaps g hg)]
      rw [tokens, split]
      simp [List.filter_append, Lexeme.isToken_of_isWord order_word,
        Lexeme.isToken_of_isWord by_word, gap_tokens, same₁, same₂]

theorem order_cuts_sortedNames :
    ClosesOnlyOpened (lexemes (Text.trimLeft sortedNames)) ∧
      (∀ l ∈ lexemes (Text.trimLeft sortedNames), l.kind = .quoted → l.Closed) ∧
      (Outline.ofChars sortedNames).body = "select n from (t)".toList ∧
      ∃ before order gap by_ back, (Outline.ofChars sortedNames).CutsAt ['n'] before order gap by_ back := by
  have no_run : ClosesOnlyOpened (lexemes (Text.trimLeft sortedNames)) ∧
      ∀ l ∈ lexemes (Text.trimLeft sortedNames), l.kind ≠ .quoted := by decide +kernel
  have closed : ∀ l ∈ lexemes (Text.trimLeft sortedNames), l.kind = .quoted → l.Closed :=
    fun l hl quoted => absurd quoted (no_run.2 l hl)
  have parts : (Outline.ofChars sortedNames).body = "select n from (t)".toList ∧
      (Outline.ofChars sortedNames).sortKeys = some ['n'] := by decide +kernel
  exact ⟨no_run.1, closed, parts.1, (order_cuts_query sortedNames no_run.1 closed).2 ['n'] parts.2⟩

/-- A query with a no-break space between a line comment and its order. -/
def annotatedOrder : String := "select * from t -- all\n\u00a0order by id"

/-- The space is trimmed off the body, and the end of the comment with it. -/
theorem annotatedOrder_ends_inside_comment :
    ClosesOnlyOpened (lexemes (Text.trimLeft annotatedOrder.toList)) ∧
      (∀ l ∈ lexemes (Text.trimLeft annotatedOrder.toList), l.kind ≠ .quoted) ∧
      (Outline.ofChars annotatedOrder.toList).sortKeys = some "id".toList ∧
      (Outline.ofChars annotatedOrder.toList).body = "select * from t -- all".toList ∧
      ¬EndsOutside (Outline.ofChars annotatedOrder.toList).body := by
  have no_run : ClosesOnlyOpened (lexemes (Text.trimLeft annotatedOrder.toList)) ∧
      ∀ l ∈ lexemes (Text.trimLeft annotatedOrder.toList), l.kind ≠ .quoted := by decide +kernel
  have outline : Outline.ofChars annotatedOrder.toList = ⟨annotatedOrder.toList, some 6, some ⟨25, 33⟩⟩ := by
    decide +kernel
  have parts : (⟨annotatedOrder.toList, some 6, some ⟨25, 33⟩⟩ : Outline).sortKeys = some "id".toList ∧
      (⟨annotatedOrder.toList, some 6, some ⟨25, 33⟩⟩ : Outline).body = "select * from t -- all".toList ∧
      (lexemes "select * from t -- all".toList).getLast? = some ⟨.lineComment, "-- all".toList⟩ := by decide +kernel
  rw [← outline] at parts
  obtain ⟨keys, body, last⟩ := parts
  refine ⟨no_run.1, no_run.2, keys, body, ?_⟩
  rw [body]
  intro outside
  obtain ⟨inner, text⟩ := outside _ last
  have ended : '\n' ∈ "-- all".toList := by
    rw [show "-- all".toList = _ from text]
    simp
  exact absurd ended (by decide)

end SqlSchema.Query
