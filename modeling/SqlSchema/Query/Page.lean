import SqlSchema.Dialect.Basic
import SqlSchema.Error
import SqlSchema.Query.Outline
import SqlSchema.Query.Qualifier

/-!
# Pages of a query

A page is a number and a size; it holds the rows from `(page - 1) * size + 1` to `page * size`, which have to be
64-bit numbers. A dialect names these rows by a `RowClause` and puts the clause behind the query, around it or behind
its `SELECT`.
-/

namespace SqlSchema.Query

/-- The rows of a page: `size` rows behind the first `offset`. -/
structure Window where
  size : Nat
  offset : Nat
deriving DecidableEq, Repr

namespace Window

/-- The last row of the page. -/
def stop (w : Window) : Nat := w.offset + w.size

/-- The largest row number, `2 ^ 63 - 1`. -/
def maxRow : Int := 9223372036854775807

/-- The number, if 64 bits hold it. -/
def int64? (n : Int) : Option Int := if -maxRow - 1 ≤ n ∧ n ≤ maxRow then some n else none

/-- The rows of a page, if there can be such a page: the number of its last row is a 64-bit number, and so is each number
on the way to it. -/
def ofPage? (page size : Int) : Option Window :=
  if page < 1 || size < 1 then none
  else do
    let offset ← int64? ((page - 1) * size)
    let _ ← int64? (offset + size)
    some { size := size.toNat, offset := offset.toNat }

/-- The rows of a page, or the failure of a page that cannot be. -/
def ofPage (page size : Int) : Except Failure Window :=
  match ofPage? page size with
  | some w => .ok w
  | none => .error (.invalidPage page size)

/-- Whether the row of that number, counted from one, is on the page. -/
def Contains (w : Window) (row : Nat) : Prop := w.offset < row ∧ row ≤ w.stop

end Window

/-- How rows are picked out of a query. -/
inductive RowClause where
  | limitOffset (limit : Nat) (offset : Option Nat)
  | offsetFetch (offset count : Nat)
  /-- The rows whose number is above `after` and at most `upTo`. -/
  | rowNumber (after upTo : Nat)
  /-- The first `upTo` rows, of which the first `after` are left out. -/
  | rownum (upTo : Nat) (after : Option Nat)
  | skipFirst (skip : Option Nat) (first : Nat)
deriving DecidableEq, Repr

namespace RowClause

/-- Whether the clause picks the row of that number, counted from one. -/
def Picks : RowClause → Nat → Prop
  | .limitOffset limit offset, row => offset.getD 0 < row ∧ row ≤ offset.getD 0 + limit
  | .offsetFetch offset count, row => offset < row ∧ row ≤ offset + count
  | .rowNumber after upTo, row => after < row ∧ row ≤ upTo
  | .rownum upTo after, row => row ≤ upTo ∧ after.getD 0 < row
  | .skipFirst skip first, row => skip.getD 0 < row ∧ row ≤ skip.getD 0 + first

/-- The clause by which a strategy picks the rows of a page. No offset is written for the first page, where the
strategy can do without. -/
def ofWindow (p : Paging) (w : Window) : RowClause :=
  let skipped := if w.offset = 0 then none else some w.offset
  match p with
  | .limitOffset => .limitOffset w.size skipped
  | .offsetFetch _ => .offsetFetch w.offset w.size
  | .rowNumber _ => .rowNumber w.offset w.stop
  | .rownum => .rownum w.stop skipped
  | .skipFirst => .skipFirst skipped w.size

end RowClause

/-- The name of a query inside another. -/
def innerName : String := "paged_"

/-- The column that numbers the rows. -/
def rowColumn : String := "row_num_"

/-- The order of a query that has none, where one is needed. -/
def anyOrder : String := "ORDER BY (SELECT NULL)"

/-- A keyword with a number, where there is one. -/
def withNumber (keyword : String) (n : Option Nat) : String :=
  (n.map fun n => " " ++ keyword ++ " " ++ toString n).getD ""

/-- The order of the rows that are numbered: that of the query, or the given one. -/
def Outline.numberingOrder (o : Outline) (emptyOrder : String) : String :=
  match o.sortKeys with
  | none => emptyOrder
  | some keys => "ORDER BY " ++ String.ofList (requalify innerName.toList keys)

/-- The query with a clause that picks rows, as a strategy writes it. -/
def Outline.picking (o : Outline) (p : Paging) : RowClause → String
  | .limitOffset limit offset =>
    String.ofList o.query ++ withNumber "LIMIT" (some limit) ++ withNumber "OFFSET" offset
  | .offsetFetch offset count =>
    String.ofList o.query ++ (if p = .offsetFetch true && o.order.isNone then " " ++ anyOrder else "") ++
      " OFFSET " ++ toString offset ++ " ROWS FETCH NEXT " ++ toString count ++ " ROWS ONLY"
  | .rowNumber after upTo =>
    let order := o.numberingOrder (match p with | .rowNumber emptyOrder => emptyOrder | _ => "")
    "SELECT * FROM (SELECT " ++ innerName ++ ".*, ROW_NUMBER() OVER (" ++ order ++ ") AS " ++ rowColumn ++
      " FROM (" ++ String.ofList o.body ++ ") " ++ innerName ++ ") numbered_ WHERE " ++ rowColumn ++ " > " ++
      toString after ++ " AND " ++ rowColumn ++ " <= " ++ toString upTo ++ " ORDER BY " ++ rowColumn
  | .rownum upTo none => "SELECT * FROM (" ++ String.ofList o.query ++ ") WHERE ROWNUM <= " ++ toString upTo
  | .rownum upTo (some after) =>
    "SELECT * FROM (SELECT " ++ innerName ++ ".*, ROWNUM " ++ rowColumn ++ " FROM (" ++ String.ofList o.query ++
      ") " ++ innerName ++ " WHERE ROWNUM <= " ++ toString upTo ++ ") WHERE " ++ rowColumn ++ " > " ++
      toString after
  | .skipFirst skip first =>
    let clause := withNumber "SKIP" skip ++ withNumber "FIRST" (some first)
    match o.selectEnd with
    | some n =>
      String.ofList (Text.takeBytes n o.query) ++ clause ++ String.ofList (Text.dropBytes n o.query)
    | none => "SELECT" ++ clause ++ " * FROM (" ++ String.ofList o.query ++ ") " ++ innerName

namespace Outline

variable (o : Outline) (p : Paging)

theorem picking_limitOffset (limit : Nat) (offset : Option Nat) :
    o.picking p (.limitOffset limit offset) =
      String.ofList o.query ++ withNumber "LIMIT" (some limit) ++ withNumber "OFFSET" offset := rfl

theorem picking_offsetFetch (offset count : Nat) :
    o.picking p (.offsetFetch offset count) =
      String.ofList o.query ++ (if p = .offsetFetch true && o.order.isNone then " " ++ anyOrder else "") ++
        " OFFSET " ++ toString offset ++ " ROWS FETCH NEXT " ++ toString count ++ " ROWS ONLY" := rfl

theorem picking_rowNumber (emptyOrder : String) (after upTo : Nat) :
    o.picking (.rowNumber emptyOrder) (.rowNumber after upTo) =
      "SELECT * FROM (SELECT " ++ innerName ++ ".*, ROW_NUMBER() OVER (" ++ o.numberingOrder emptyOrder ++ ") AS " ++
        rowColumn ++ " FROM (" ++ String.ofList o.body ++ ") " ++ innerName ++ ") numbered_ WHERE " ++ rowColumn ++
        " > " ++ toString after ++ " AND " ++ rowColumn ++ " <= " ++ toString upTo ++ " ORDER BY " ++ rowColumn := rfl

theorem picking_rownum_none (upTo : Nat) :
    o.picking p (.rownum upTo none) =
      "SELECT * FROM (" ++ String.ofList o.query ++ ") WHERE ROWNUM <= " ++ toString upTo := rfl

theorem picking_rownum_some (upTo after : Nat) :
    o.picking p (.rownum upTo (some after)) =
      "SELECT * FROM (SELECT " ++ innerName ++ ".*, ROWNUM " ++ rowColumn ++ " FROM (" ++ String.ofList o.query ++
        ") " ++ innerName ++ " WHERE ROWNUM <= " ++ toString upTo ++ ") WHERE " ++ rowColumn ++ " > " ++
        toString after := rfl

variable {o} in
theorem picking_skipFirst_behind {n : Nat} (select : o.selectEnd = some n) (skip : Option Nat) (first : Nat) :
    o.picking p (.skipFirst skip first) =
      String.ofList (Text.takeBytes n o.query) ++ (withNumber "SKIP" skip ++ withNumber "FIRST" (some first)) ++
        String.ofList (Text.dropBytes n o.query) := by
  show (match o.selectEnd with | some _ => _ | none => _) = _
  rw [select]

variable {o} in
theorem picking_skipFirst_around (other : o.selectEnd = none) (skip : Option Nat) (first : Nat) :
    o.picking p (.skipFirst skip first) =
      "SELECT" ++ (withNumber "SKIP" skip ++ withNumber "FIRST" (some first)) ++ " * FROM (" ++
        String.ofList o.query ++ ") " ++ innerName := by
  show (match o.selectEnd with | some _ => _ | none => _) = _
  rw [other]

end Outline

/-- The query that gives one page of the rows of a query. -/
def paginate (d : Dialect) (page size : Int) (sql : String) : Except Failure String := do
  let w ← Window.ofPage page size
  .ok ((Outline.ofChars sql.toList).picking d.paging (RowClause.ofWindow d.paging w))

end SqlSchema.Query
