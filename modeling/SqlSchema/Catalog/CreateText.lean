import SqlSchema.Text.Blank
import SqlSchema.Text.DelimitedName
import SqlSchema.Text.Split
import SqlSchema.Text.WordChar

/-!
# Facts in the text of a `CREATE TABLE`

An engine may report no more than the statement that created a table. `identityColumn?` finds in its text the first
column that is declared as `INTEGER PRIMARY KEY AUTOINCREMENT`, and `foreignKeyClauses` the foreign keys that are
declared by `CONSTRAINT` with a name, from left to right. Keywords are taken wherever they stand, in any case; a name
is a word or stands between delimiters.
-/

namespace SqlSchema.CreateText

open Text

/-- The small letter that a character is a form of. The long s and the Kelvin sign are forms of S and K. -/
def keywordLetter (c : Char) : Char :=
  if c = '\u017f' then 's' else if c = '\u212a' then 'k' else c.toLower

/-- What follows a keyword, given in small letters, at the start of the characters. -/
def keyword? : List Char → List Char → Option (List Char)
  | [], cs => some cs
  | _ :: _, [] => none
  | w :: word, c :: cs => if keywordLetter c = w then keyword? word cs else none

/-- What follows the blanks at the start of the characters, of which there is at least one. -/
def blanks? : List Char → Option (List Char)
  | [] => none
  | c :: cs => if isBlank c then some (trimLeft cs) else none

/-- What follows keywords at the start of the characters, each behind blanks. -/
def phrase? (words : List String) (cs : List Char) : Option (List Char) :=
  words.foldlM (fun rest word => (blanks? rest).bind (keyword? word.toList)) cs

/-- The name at the start of the characters, as it is written, and what follows it. -/
def name? : List Char → Option (List Char × List Char)
  | [] => none
  | c :: rest =>
    if c = '"' ∨ c = '\x60' then delimitedName? c c rest
    else if c = '[' then delimitedName? c ']' rest
    else if isWordChar c then some (c :: rest.takeWhile isWordChar, rest.dropWhile isWordChar)
    else none

/-- The delimiter that closes a name after an opening one. -/
def closing? (c : Char) : Option Char :=
  if c = '"' ∨ c = '\x60' then some c else if c = '[' then some ']' else none

/-- The characters without delimiters around them. -/
def unquoteChars : List Char → List Char
  | [] => []
  | c :: rest =>
    match closing? c with
    | some close => if rest.getLast? = some close then rest.dropLast else c :: rest
    | none => c :: rest

/-- The name without delimiters around it. -/
def unquote (name : String) : String := String.ofList (unquoteChars name.toList)

/-- The name of the column that a declaration at the start of the characters makes number the rows. -/
def identityDeclaration? (cs : List Char) : Option (List Char) := do
  let (name, rest) ← name? cs
  let rest ← phrase? ["integer", "primary", "key"] rest
  let rest := ((phrase? ["asc"] rest).or (phrase? ["desc"] rest)).getD rest
  let _ ← phrase? ["autoincrement"] rest
  some name

/-- The first such column in the characters. -/
def firstIdentity? : List Char → Option (List Char)
  | [] => none
  | c :: cs => (identityDeclaration? (c :: cs)).or (firstIdentity? cs)

/-- The name of the column that numbers the rows of a table, by the statement that created it. -/
def identityColumn? (sql : String) : Option String :=
  (firstIdentity? sql.toList).map fun name => String.ofList (unquoteChars name)

/-- A clause that declares a foreign key by a name. -/
structure ForeignKeyClause where
  /-- The number of bytes in front of the clause. -/
  offset : Nat
  name : String
  columns : List String
  refTable : String
deriving DecidableEq, Repr

/-- The names in a list between parentheses. -/
def columnNames (cs : List Char) : List String :=
  (splitOn ',' cs).map fun part => String.ofList (unquoteChars (trimChars part))

/-- A clause at the start of the characters, behind `offset` bytes, and what follows it. -/
def foreignKeyClause? (offset : Nat) (cs : List Char) : Option (ForeignKeyClause × List Char) := do
  let rest ← keyword? "constraint".toList cs
  let (name, rest) ← name? (← blanks? rest)
  match trimLeft (← phrase? ["foreign", "key"] rest) with
  | '(' :: rest =>
    match rest.dropWhile (· ≠ ')') with
    | _ :: after =>
      let after ← keyword? "references".toList (trimLeft after)
      let (refTable, after) ← name? (← blanks? after)
      some ({
        offset
        name := String.ofList (unquoteChars name)
        columns := columnNames (rest.takeWhile (· ≠ ')'))
        refTable := String.ofList (unquoteChars refTable) }, after)
    | [] => none
  | _ => none

/-- The clauses in the characters behind `offset` bytes, once `skipped` characters of an earlier one are past. -/
def clausesFrom : Nat → Nat → List Char → List ForeignKeyClause
  | _, _, [] => []
  | skipped + 1, offset, c :: cs => clausesFrom skipped (offset + c.utf8Size) cs
  | 0, offset, c :: cs =>
    match foreignKeyClause? offset (c :: cs) with
    | some (clause, after) => clause :: clausesFrom (cs.length - after.length) (offset + c.utf8Size) cs
    | none => clausesFrom 0 (offset + c.utf8Size) cs

/-- The foreign keys of a table that are declared by name, by the statement that created it. -/
def foreignKeyClauses (sql : String) : List ForeignKeyClause := clausesFrom 0 0 sql.toList

end SqlSchema.CreateText
