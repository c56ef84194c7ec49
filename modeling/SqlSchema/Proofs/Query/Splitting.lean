import Mathlib.Data.List.Infix
import SqlSchema.Query.Lexeme
import SqlSchema.Text.Ascii
import SqlSchema.Text.Doubled
import SqlSchema.Text.Split

/-!
# How a query splits

What the lexemes of a query are, without a word on how they are found: each piece `Leads` what stands behind it, by its
own characters and the first of those behind it. A query has exactly one such split, and `lexemes` finds it
(`isSplit_iff`).
-/

namespace SqlSchema.Query

open Text (double)

/-- The lexeme is the first one of a query in which `rest` stands behind it. -/
inductive Lexeme.Leads : Lexeme → List Char → Prop where
  /-- A quoted run up to a closing delimiter that is not doubled. -/
  | quoted {c close : Char} {inner rest : List Char} (opens : closingOf? c = some close)
      (single : rest.head? ≠ some close) : Leads ⟨.quoted, c :: (double close inner ++ [close])⟩ rest
  /-- A quoted run that is not closed. -/
  | openQuoted {c close : Char} {inner : List Char} (opens : closingOf? c = some close) :
      Leads ⟨.quoted, c :: double close inner⟩ []
  | lineComment {inner rest : List Char} (one_line : '\n' ∉ inner) :
      Leads ⟨.lineComment, '-' :: '-' :: (inner ++ ['\n'])⟩ rest
  /-- A comment on the last line. -/
  | openLineComment {inner : List Char} (one_line : '\n' ∉ inner) : Leads ⟨.lineComment, '-' :: '-' :: inner⟩ []
  /-- A block comment up to the first end of one. -/
  | blockComment {inner rest : List Char} (first : ¬['*', '/'] <:+: inner ++ ['*']) :
      Leads ⟨.blockComment, '/' :: '*' :: (inner ++ ['*', '/'])⟩ rest
  /-- A block comment that is not closed. -/
  | openBlockComment {inner : List Char} (no_end : ¬['*', '/'] <:+: inner) :
      Leads ⟨.blockComment, '/' :: '*' :: inner⟩ []
  /-- A word that no further character belongs to. -/
  | word {c : Char} {more rest : List Char} (all : ∀ x ∈ c :: more, isWordChar x = true)
      (maximal : ∀ x ∈ rest.head?, isWordChar x = false) : Leads ⟨.word, c :: more⟩ rest
  /-- A single character that starts nothing longer. -/
  | single {c : Char} {rest : List Char} (no_quote : closingOf? c = none) (no_word : isWordChar c = false)
      (no_line : ¬['-', '-'] <+: c :: rest) (no_block : ¬['/', '*'] <+: c :: rest) : Leads ⟨singleKind c, [c]⟩ rest

/-- The lexemes are those of the query. -/
inductive IsSplit : List Char → List Lexeme → Prop where
  | nil : IsSplit [] []
  | cons {l : Lexeme} {rest : List Char} {ls : List Lexeme} (first : l.Leads rest) (later : IsSplit rest ls) :
      IsSplit (l.text ++ rest) (l :: ls)

/-! ### Quoted runs -/

section Quoted

variable {close c : Char}

theorem quotedTail_doubled (cs : List Char) :
    quotedTail close (close :: close :: cs) =
      (close :: close :: (quotedTail close cs).1, (quotedTail close cs).2) := by
  simp [quotedTail]

theorem quotedTail_cons (h : c ≠ close) (cs : List Char) :
    quotedTail close (c :: cs) = (c :: (quotedTail close cs).1, (quotedTail close cs).2) := by
  cases cs with
  | nil => simp [quotedTail]
  | cons d rest => simp [quotedTail, h]

theorem quotedTail_single {rest : List Char} (single : rest.head? ≠ some close) :
    quotedTail close (close :: rest) = ([close], rest) := by
  cases rest with
  | nil => simp [quotedTail]
  | cons d rest =>
    have other : d ≠ close := by simpa using single
    simp [quotedTail, other]

/-- A run goes on over what is doubled. -/
theorem quotedTail_double_append (close : Char) (inner tail : List Char) :
    quotedTail close (double close inner ++ tail) =
      (double close inner ++ (quotedTail close tail).1, (quotedTail close tail).2) := by
  induction inner with
  | nil => rfl
  | cons c inner ih =>
    rw [Text.double_cons]
    by_cases same : c = close
    · rw [if_pos same]
      show quotedTail close (close :: close :: (double close inner ++ tail)) = _
      rw [quotedTail_doubled, ih]
      rfl
    · rw [if_neg same]
      show quotedTail close (c :: (double close inner ++ tail)) = _
      rw [quotedTail_cons same, ih]
      rfl

private theorem quotedTail_closed (inner : List Char) {rest : List Char} (single : rest.head? ≠ some close) :
    quotedTail close (double close inner ++ close :: rest) = (double close inner ++ [close], rest) := by
  rw [quotedTail_double_append, quotedTail_single single]

private theorem quotedTail_open (inner : List Char) :
    quotedTail close (double close inner) = (double close inner, []) := by
  have h := quotedTail_double_append close inner []
  simpa only [List.append_nil, quotedTail] using h

/-- What follows an opening delimiter is closed or it is not. -/
private theorem closed_or_open (close : Char) (cs : List Char) :
    (∃ inner rest, cs = double close inner ++ close :: rest ∧ rest.head? ≠ some close) ∨
      ∃ inner, cs = double close inner := by
  fun_induction quotedTail close cs with
  | case1 => exact .inr ⟨[], rfl⟩
  | case2 c =>
    by_cases same : c = close
    · exact .inl ⟨[], [], by rw [same]; rfl, by simp⟩
    · exact .inr ⟨[c], by simp [same]⟩
  | case3 rest _ _ _ ih =>
    rcases ih with ⟨inner, after, rfl, single⟩ | ⟨inner, rfl⟩
    · exact .inl ⟨close :: inner, after, by simp, single⟩
    · exact .inr ⟨close :: inner, by simp⟩
  | case4 d rest other => exact .inl ⟨[], d :: rest, rfl, by simpa using other⟩
  | case5 c d rest other _ _ _ ih =>
    rcases ih with ⟨inner, after, split, single⟩ | ⟨inner, split⟩
    · exact .inl ⟨c :: inner, after, by simp [split, other], single⟩
    · exact .inr ⟨c :: inner, by simp [split, other]⟩

end Quoted

/-! ### Comments -/

private theorem lineTail_closed {inner : List Char} (one_line : '\n' ∉ inner) (rest : List Char) :
    lineTail (inner ++ '\n' :: rest) = (inner ++ ['\n'], rest) := by
  induction inner with
  | nil => simp [lineTail]
  | cons c inner ih =>
    rw [List.mem_cons, not_or] at one_line
    rw [List.cons_append, lineTail, if_neg (Ne.symm one_line.1), ih one_line.2]
    rfl

private theorem lineTail_open {inner : List Char} (one_line : '\n' ∉ inner) : lineTail inner = (inner, []) := by
  induction inner with
  | nil => rfl
  | cons c inner ih =>
    rw [List.mem_cons, not_or] at one_line
    rw [lineTail, if_neg (Ne.symm one_line.1), ih one_line.2]

private theorem blockTail_cons {c : Char} {cs : List Char} (h : ¬['*', '/'] <+: c :: cs) :
    blockTail (c :: cs) = (c :: (blockTail cs).1, (blockTail cs).2) := by
  cases cs with
  | nil => simp [blockTail]
  | cons d rest =>
    have no_end : ¬(c = '*' ∧ d = '/') := by
      rintro ⟨rfl, rfl⟩
      exact h (by simp)
    rw [blockTail, if_neg no_end]

private theorem blockTail_open {inner : List Char} (no_end : ¬['*', '/'] <:+: inner) :
    blockTail inner = (inner, []) := by
  induction inner with
  | nil => rfl
  | cons c inner ih =>
    rw [List.infix_cons_iff, not_or] at no_end
    rw [blockTail_cons no_end.1, ih no_end.2]

/-- Only the first character behind a star matters to whether the star starts the end of a comment. -/
private theorem end_prefix_iff (c : Char) (inner rest : List Char) :
    ['*', '/'] <+: c :: (inner ++ '*' :: rest) ↔ ['*', '/'] <+: c :: (inner ++ ['*']) := by
  cases inner <;> simp [List.cons_prefix_cons]

private theorem blockTail_closed {inner : List Char} (first : ¬['*', '/'] <:+: inner ++ ['*']) (rest : List Char) :
    blockTail (inner ++ '*' :: '/' :: rest) = (inner ++ ['*', '/'], rest) := by
  induction inner with
  | nil => simp [blockTail]
  | cons c inner ih =>
    rw [List.cons_append, List.infix_cons_iff, not_or] at first
    have no_end : ¬['*', '/'] <+: c :: (inner ++ '*' :: '/' :: rest) := by
      rw [end_prefix_iff]
      exact first.1
    rw [List.cons_append, blockTail_cons no_end, ih first.2]
    rfl

/-- What follows the opening of a block comment is closed or it is not. -/
private theorem ends_or_open (cs : List Char) :
    (∃ inner rest, cs = inner ++ '*' :: '/' :: rest ∧ ¬['*', '/'] <:+: inner ++ ['*']) ∨ ¬['*', '/'] <:+: cs := by
  induction cs with
  | nil => exact .inr (by simp)
  | cons c cs ih =>
    -- the first end is here, or it is the first one further on, or there is none
    by_cases found : ['*', '/'] <+: c :: cs
    · obtain ⟨rest, split⟩ := found
      exact .inl ⟨[], rest, split.symm, by simp [List.infix_cons_iff]⟩
    · rcases ih with ⟨inner, rest, rfl, first⟩ | no_end
      · refine .inl ⟨c :: inner, rest, rfl, ?_⟩
        rw [end_prefix_iff] at found
        rw [List.cons_append, List.infix_cons_iff, not_or]
        exact ⟨found, first⟩
      · rw [List.infix_cons_iff, not_or]
        exact .inr ⟨found, no_end⟩

/-! ### Lexemes -/

theorem isWordChar_of_wide {c : Char} (wide : 128 ≤ c.toNat) : isWordChar c = false := by
  have other {a : Char} (ascii : a.toNat < 128) : (c == a) = false :=
    beq_eq_false_iff_ne.mpr (Text.ne_of_wide wide ascii)
  rw [isWordChar, Text.isAlphanum_of_wide wide, other (by decide), other (by decide)]
  rfl

theorem closingOf?_of_isWordChar {c : Char} (h : isWordChar c = true) : closingOf? c = none := by
  unfold closingOf?
  split
  · rename_i delimiter
    rcases delimiter with rfl | rfl | rfl <;> cases h
  · split
    · rename_i bracket
      subst bracket
      cases h
    · rfl

/-- What a lexeme is that starts neither a quoted run nor a comment. -/
theorem lexemeAt_of_plain {c : Char} {rest : List Char} (no_quote : closingOf? c = none)
    (no_line : ¬['-', '-'] <+: c :: rest) (no_block : ¬['/', '*'] <+: c :: rest) :
    lexemeAt c rest =
      if isWordChar c then (.word, rest.takeWhile isWordChar, rest.dropWhile isWordChar)
      else (singleKind c, [], rest) := by
  unfold lexemeAt
  rw [no_quote]
  dsimp only
  split
  · exact absurd (by simp) no_line
  · exact absurd (by simp) no_block
  · rfl

private theorem exists_cons_of_leads {l : Lexeme} {rest : List Char} (h : l.Leads rest) :
    ∃ c body, l.text = c :: body ∧ lexemeAt c (body ++ rest) = (l.kind, body, rest) := by
  cases h with
  | quoted opens single =>
    refine ⟨_, _, rfl, ?_⟩
    unfold lexemeAt
    rw [opens, List.append_assoc]
    exact congrArg _ (quotedTail_closed _ single)
  | openQuoted opens =>
    refine ⟨_, _, rfl, ?_⟩
    unfold lexemeAt
    rw [opens, List.append_nil]
    exact congrArg _ (quotedTail_open _)
  | lineComment one_line =>
    refine ⟨_, _, rfl, ?_⟩
    simp [lexemeAt, closingOf?, lineTail_closed one_line]
  | openLineComment one_line =>
    refine ⟨_, _, rfl, ?_⟩
    simp [lexemeAt, closingOf?, lineTail_open one_line]
  | blockComment first =>
    refine ⟨_, _, rfl, ?_⟩
    simp [lexemeAt, closingOf?, blockTail_closed first]
  | openBlockComment no_end =>
    refine ⟨_, _, rfl, ?_⟩
    simp [lexemeAt, closingOf?, blockTail_open no_end]
  | @word c more rest all maximal =>
    -- what starts with the sign of a comment is no word
    rw [List.forall_mem_cons] at all
    obtain ⟨taken, dropped⟩ := Text.takeWhile_append_of_maximal all.2 maximal
    have no_line : ¬['-', '-'] <+: c :: (more ++ rest) := by
      intro found
      rw [← (List.cons_prefix_cons.mp found).1] at all
      cases all.1
    have no_block : ¬['/', '*'] <+: c :: (more ++ rest) := by
      intro found
      rw [← (List.cons_prefix_cons.mp found).1] at all
      cases all.1
    refine ⟨c, more, rfl, ?_⟩
    rw [lexemeAt_of_plain (closingOf?_of_isWordChar all.1) no_line no_block, if_pos all.1, taken, dropped]
  | single no_quote no_word no_line no_block =>
    refine ⟨_, _, rfl, ?_⟩
    rw [List.nil_append, lexemeAt_of_plain no_quote no_line no_block, no_word]
    rfl

private theorem leads_lexemeAt (c : Char) (rest : List Char) :
    Lexeme.Leads ⟨(lexemeAt c rest).1, c :: (lexemeAt c rest).2.1⟩ (lexemeAt c rest).2.2 := by
  cases quote : closingOf? c with
  | some close =>
    have run : lexemeAt c rest = (.quoted, quotedTail close rest) := by
      simp [lexemeAt, quote]
    rw [run]
    rcases closed_or_open close rest with ⟨inner, after, rfl, single⟩ | ⟨inner, rfl⟩
    · rw [quotedTail_closed inner single]
      exact .quoted quote single
    · rw [quotedTail_open inner]
      exact .openQuoted quote
  | none =>
    by_cases line : ['-', '-'] <+: c :: rest
    · obtain ⟨more, split⟩ := line
      cases split
      show Lexeme.Leads ⟨.lineComment, '-' :: '-' :: (lineTail more).1⟩ (lineTail more).2
      by_cases ends : '\n' ∈ more
      · obtain ⟨inner, after, rfl, one_line⟩ := List.eq_append_cons_of_mem ends
        rw [lineTail_closed one_line]
        exact .lineComment one_line
      · rw [lineTail_open ends]
        exact .openLineComment ends
    by_cases block : ['/', '*'] <+: c :: rest
    · obtain ⟨more, split⟩ := block
      cases split
      show Lexeme.Leads ⟨.blockComment, '/' :: '*' :: (blockTail more).1⟩ (blockTail more).2
      rcases ends_or_open more with ⟨inner, after, rfl, first⟩ | no_end
      · rw [blockTail_closed first]
        exact .blockComment first
      · rw [blockTail_open no_end]
        exact .openBlockComment no_end
    -- neither a quoted run nor a comment: the rest is decided by the first character alone
    rw [lexemeAt_of_plain quote line block]
    by_cases word : isWordChar c = true
    · rw [if_pos word]
      refine .word ?_ ?_
      · rw [List.forall_mem_cons]
        exact ⟨word, fun x hx => List.all_eq_true.mp List.all_takeWhile x hx⟩
      · intro x hx
        have stops := List.head?_dropWhile_not isWordChar rest
        rw [Option.mem_def.mp hx] at stops
        exact stops
    · rw [if_neg word]
      exact .single quote (Bool.eq_false_iff.mpr word) line block

/-- The lexemes are the one split of a query. -/
theorem isSplit_iff {cs : List Char} {ls : List Lexeme} : IsSplit cs ls ↔ lexemes cs = ls := by
  constructor
  · intro h
    induction h with
    | nil => rw [lexemes]
    | @cons l rest ls first _ ih =>
      obtain ⟨c, body, text, found⟩ := exists_cons_of_leads first
      rw [text, List.cons_append, lexemes, found, ih, ← text]
  · rintro rfl
    fun_induction lexemes cs with
    | case1 => exact .nil
    | case2 c rest _ ih =>
      have split := IsSplit.cons (leads_lexemeAt c rest) ih
      rwa [List.cons_append, lexemeAt_append] at split

end SqlSchema.Query
