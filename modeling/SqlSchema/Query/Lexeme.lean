/-!
# Lexemes of a query

A query is cut from left to right into lexemes: quoted runs, in which a doubled closing delimiter does not end the
run; comments; words; parentheses; blanks; terminators; and single other characters. A run or a block comment that is
not closed reaches to the end. Nothing is lost: the lexemes put together are the query (`flatMap_text_lexemes`).
-/

namespace SqlSchema.Query

/-- The kinds of lexemes. -/
inductive LexemeKind where
  | quoted | lineComment | blockComment | word | opening | closing | blank | terminator | other
deriving DecidableEq, Repr

/-- A piece of a query. -/
structure Lexeme where
  kind : LexemeKind
  text : List Char
deriving DecidableEq, Repr

/-- Whether a character can be part of a word. -/
def isWordChar (c : Char) : Bool := c.isAlphanum || c == '_' || c == '$'

/-- Whether a character separates lexemes and is nothing else. -/
def isSpace (c : Char) : Bool := c == ' ' || c == '\t' || c == '\n' || c == '\x0c' || c == '\r'

/-- What follows an opening delimiter up to the closing one, and the rest. -/
def quotedTail (close : Char) : List Char → List Char × List Char
  | [] => ([], [])
  | [c] => ([c], [])
  | c :: d :: rest =>
    if c = close then
      if d = close then
        let (run, after) := quotedTail close rest
        (c :: d :: run, after)
      else ([c], d :: rest)
    else
      let (run, after) := quotedTail close (d :: rest)
      (c :: run, after)

/-- What follows the dashes of a line comment up to the end of the line, and the rest. -/
def lineTail : List Char → List Char × List Char
  | [] => ([], [])
  | c :: rest =>
    if c = '\n' then ([c], rest)
    else
      let (comment, after) := lineTail rest
      (c :: comment, after)

/-- What follows the opening of a block comment up to its end, and the rest. -/
def blockTail : List Char → List Char × List Char
  | [] => ([], [])
  | [c] => ([c], [])
  | c :: d :: rest =>
    if c = '*' ∧ d = '/' then ([c, d], rest)
    else
      let (comment, after) := blockTail (d :: rest)
      (c :: comment, after)

theorem quotedTail_append (close : Char) (cs : List Char) :
    (quotedTail close cs).1 ++ (quotedTail close cs).2 = cs := by
  fun_induction quotedTail close cs <;> simp_all

theorem lineTail_append (cs : List Char) : (lineTail cs).1 ++ (lineTail cs).2 = cs := by
  fun_induction lineTail cs <;> simp_all

theorem blockTail_append (cs : List Char) : (blockTail cs).1 ++ (blockTail cs).2 = cs := by
  fun_induction blockTail cs <;> simp_all

/-- The delimiter that closes a quoted run, if the character opens one. -/
def closingOf? (c : Char) : Option Char :=
  if c = '\'' ∨ c = '"' ∨ c = '\x60' then some c else if c = '[' then some ']' else none

/-- The lexeme of one character that opens neither a quoted run, a comment nor a word. -/
def singleKind (c : Char) : LexemeKind :=
  if c = '(' then .opening
  else if c = ')' then .closing
  else if isSpace c then .blank
  else if c = ';' then .terminator
  else .other

/-- The lexeme that starts with `c` when `rest` follows it, without its first character, and what comes after it. -/
def lexemeAt (c : Char) (rest : List Char) : LexemeKind × List Char × List Char :=
  match closingOf? c with
  | some close => (.quoted, quotedTail close rest)
  | none =>
    match c, rest with
    | '-', '-' :: more => (.lineComment, ('-' :: (lineTail more).1, (lineTail more).2))
    | '/', '*' :: more => (.blockComment, ('*' :: (blockTail more).1, (blockTail more).2))
    | _, _ =>
      if isWordChar c then (.word, (rest.takeWhile isWordChar, rest.dropWhile isWordChar))
      else (singleKind c, ([], rest))

theorem lexemeAt_append (c : Char) (rest : List Char) :
    (lexemeAt c rest).2.1 ++ (lexemeAt c rest).2.2 = rest := by
  unfold lexemeAt
  split
  · exact quotedTail_append _ _
  · split
    · simp [lineTail_append]
    · simp [blockTail_append]
    · split <;> simp

/-- The lexemes of a query, in order. -/
def lexemes : List Char → List Lexeme
  | [] => []
  | c :: rest =>
    have : (lexemeAt c rest).2.2.length < (c :: rest).length := by
      have h := congrArg List.length (lexemeAt_append c rest)
      simp only [List.length_append] at h
      simp only [List.length_cons]
      omega
    ⟨(lexemeAt c rest).1, c :: (lexemeAt c rest).2.1⟩ :: lexemes (lexemeAt c rest).2.2
termination_by cs => cs.length
decreasing_by assumption

theorem flatMap_text_lexemes (cs : List Char) : (lexemes cs).flatMap Lexeme.text = cs := by
  fun_induction lexemes cs with
  | case1 => rfl
  | case2 c rest _ ih => simp [ih, lexemeAt_append]

namespace Lexeme

/-- Whether a lexeme is part of what the query says: no comment, blank or terminator. -/
def isToken (l : Lexeme) : Bool :=
  match l.kind with
  | .lineComment | .blockComment | .blank | .terminator => false
  | _ => true

end Lexeme

end SqlSchema.Query
