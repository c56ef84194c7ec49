import SqlSchema.Query.Lexeme
import SqlSchema.Text.Ascii
import SqlSchema.Text.Blank
import SqlSchema.Text.Bytes

/-!
# The outline of a query

What paging has to know of a query: where its last token ends, whether it starts with `SELECT`, and where its last
`ORDER BY` outside parentheses stands. One pass over the lexemes finds all of it. Offsets count bytes.
-/

namespace SqlSchema.Query

/-- The order clause of a query. -/
structure OrderClause where
  /-- Where the last token before the clause ends. -/
  start : Nat
  /-- Where the sort keys begin. -/
  keys : Nat
deriving DecidableEq, Repr

/-- What is known after some lexemes. -/
structure Scan where
  /-- Where the next lexeme starts. -/
  position : Nat := 0
  /-- How many parentheses are open. -/
  depth : Nat := 0
  /-- Where the last token ends. -/
  stop : Nat := 0
  /-- Whether no token but closing parentheses came yet. -/
  atStart : Bool := true
  selectEnd : Option Nat := none
  order : Option OrderClause := none
  /-- Where the last token before the word `ORDER` ends, as long as `BY` may follow. -/
  pending : Option Nat := none
deriving DecidableEq, Repr

namespace Scan

/-- After a word that ends at `after`. -/
def word (s : Scan) (text : List Char) (after : Nat) : Scan :=
  let is (w : String) := Text.sameName (String.ofList text) w
  if s.depth = 0 then
    { s with
      selectEnd := if s.atStart && is "SELECT" then some after else s.selectEnd
      order := if is "BY" then (s.pending.map fun start => ⟨start, after⟩).or s.order else s.order
      pending := if is "ORDER" then some s.stop else none
      atStart := false }
  else { s with atStart := false }

/-- After one more lexeme. A closing parenthesis and what is not a token leave a pending `ORDER` as it is, a terminator
does not. -/
def step (s : Scan) (l : Lexeme) : Scan :=
  let after := s.position + Text.byteSize l.text
  let read : Scan :=
    match l.kind with
    | .lineComment | .blockComment | .blank => s
    | .terminator => { s with pending := none }
    | .opening => { s with depth := s.depth + 1, pending := none, atStart := false, stop := after }
    | .closing => { s with depth := s.depth - 1, stop := after }
    | .quoted | .other => { s with pending := none, atStart := false, stop := after }
    | .word => { s.word l.text after with stop := after }
  { read with position := after }

end Scan

/-- A query up to its last token, with the places that paging is about. -/
structure Outline where
  query : List Char
  /-- Where the `SELECT` ends with which the query starts. -/
  selectEnd : Option Nat
  order : Option OrderClause
deriving DecidableEq, Repr

namespace Outline

/-- The outline of a query. -/
def ofChars (cs : List Char) : Outline :=
  let sql := Text.trimLeft cs
  let s := (lexemes sql).foldl Scan.step {}
  { query := Text.takeBytes s.stop sql, selectEnd := s.selectEnd, order := s.order }

/-- The query without its order clause. -/
def body (o : Outline) : List Char :=
  match o.order with
  | none => o.query
  | some clause => Text.trimRight (Text.takeBytes clause.start o.query)

/-- The sort keys of the order clause. -/
def sortKeys (o : Outline) : Option (List Char) :=
  o.order.map fun clause => Text.trimChars (Text.dropBytes clause.keys o.query)

end Outline

end SqlSchema.Query
