import SqlSchema.Dialect.Server
import SqlSchema.Proofs.Outcome
import SqlSchema.Proofs.Query.Splitting
import SqlSchema.Query.Page

/-!
# Pages partition the rows

There is a page exactly if its number and its size are positive and its last row is a 64-bit number (`ofPage_eq_ok_iff`).
The text of a page has one of the forms of `Outline.Writes`, by the strategy of the dialect, with numbers behind the
keywords. The numbers can be read in one way only (`Outline.Writes.clause_unique`) and pick the same rows whatever the
form, and the pages of one size hold each row once (`pages_partition_rows`).
-/

namespace SqlSchema.Query

namespace Window

variable {page size : Int} {w : Window}

private theorem int64?_eq_some_iff {n m : Int} : int64? n = some m ↔ (-maxRow - 1 ≤ n ∧ n ≤ maxRow) ∧ n = m := by
  unfold int64?
  split
  · rename_i fits
    rw [Option.some.injEq, and_iff_right fits]
  · rename_i outside
    exact ⟨nofun, fun ⟨fits, _⟩ => absurd fits outside⟩

/-- A page has a number and a size, and its last row has a 64-bit number. -/
def Exists (page size : Int) : Prop := 1 ≤ page ∧ 1 ≤ size ∧ page * size ≤ maxRow

theorem ofPage?_eq_some_iff :
    ofPage? page size = some w ↔ Exists page size ∧ w = ⟨size.toNat, ((page - 1) * size).toNat⟩ := by
  unfold ofPage?
  split
  · rename_i refused
    simp only [Bool.or_eq_true, decide_eq_true_eq] at refused
    simp only [reduceCtorEq, Exists, false_iff]
    omega
  · rename_i positive
    simp only [Bool.or_eq_true, decide_eq_true_eq, not_or, Int.not_lt] at positive
    obtain ⟨page_pos, size_pos⟩ := positive
    have whole : (page - 1) * size + size = page * size := by rw [Int.sub_mul, Int.one_mul, Int.sub_add_cancel]
    have offset_nonneg : 0 ≤ (page - 1) * size := Int.mul_nonneg (by omega) (by omega)
    simp only [Option.bind_eq_bind, Option.bind_eq_some_iff, int64?_eq_some_iff, Option.some.injEq, Exists]
    constructor
    · rintro ⟨_, ⟨-, rfl⟩, _, ⟨⟨-, fits⟩, rfl⟩, rfl⟩
      exact ⟨⟨page_pos, size_pos, whole ▸ fits⟩, rfl⟩
    · rintro ⟨⟨-, -, fits⟩, rfl⟩
      refine ⟨_, ⟨⟨?_, ?_⟩, rfl⟩, _, ⟨⟨?_, ?_⟩, rfl⟩, rfl⟩ <;> unfold maxRow at * <;> omega

theorem ofPage_eq_ok_iff :
    ofPage page size = .ok w ↔ Exists page size ∧ w = ⟨size.toNat, ((page - 1) * size).toNat⟩ := by
  rw [← ofPage?_eq_some_iff]
  unfold ofPage
  split <;> simp_all

theorem ofPage_eq_error_iff {why : Failure} :
    ofPage page size = .error why ↔ ¬Exists page size ∧ why = .invalidPage page size := by
  unfold ofPage
  split
  · rename_i w found
    simp [(ofPage?_eq_some_iff.mp found).1]
  · rename_i missing
    have none_there : ¬Exists page size := by
      intro there
      rw [ofPage?_eq_some_iff.mpr ⟨there, rfl⟩] at missing
      cases missing
    simp [none_there, eq_comm]

theorem contains_iff (h : ofPage page size = .ok w) (row : Nat) :
    w.Contains row ↔ (page - 1) * size + 1 ≤ row ∧ row ≤ page * size := by
  obtain ⟨⟨page_pos, size_pos, -⟩, rfl⟩ := ofPage_eq_ok_iff.mp h
  have whole : (page - 1) * size + size = page * size := by rw [Int.sub_mul, Int.one_mul, Int.sub_add_cancel]
  have offset_nonneg : 0 ≤ (page - 1) * size := Int.mul_nonneg (by omega) (by omega)
  simp only [Contains, stop]
  omega

end Window

/-- The clause behind a `SELECT` that skips rows, if it does, and takes the first ones of the others. -/
def skipFirstText : Option Nat → Nat → String
  | none, first => " FIRST " ++ toString first
  | some skip, first => " SKIP " ++ toString skip ++ " FIRST " ++ toString first

/-- The texts of a page of a query, by the strategy and the clause that picks the rows: the numbers of the clause are
those that stand behind the keywords. -/
inductive Outline.Writes (o : Outline) : Paging → RowClause → String → Prop where
  | limit {limit : Nat} :
      Writes o .limitOffset (.limitOffset limit none) (String.ofList o.query ++ " LIMIT " ++ toString limit)
  | limitOffset {limit offset : Nat} :
      Writes o .limitOffset (.limitOffset limit (some offset))
        (String.ofList o.query ++ " LIMIT " ++ toString limit ++ " OFFSET " ++ toString offset)
  | offsetFetch {requiresOrder : Bool} {offset count : Nat} :
      Writes o (.offsetFetch requiresOrder) (.offsetFetch offset count)
        (String.ofList o.query ++ (if requiresOrder && o.order.isNone then " ORDER BY (SELECT NULL)" else "") ++
          " OFFSET " ++ toString offset ++ " ROWS FETCH NEXT " ++ toString count ++ " ROWS ONLY")
  | rowNumber {emptyOrder : String} {after upTo : Nat} :
      Writes o (.rowNumber emptyOrder) (.rowNumber after upTo)
        ("SELECT * FROM (SELECT paged_.*, ROW_NUMBER() OVER (" ++ o.numberingOrder emptyOrder ++
          ") AS row_num_ FROM (" ++ String.ofList o.body ++ ") paged_) numbered_ WHERE row_num_ > " ++
          toString after ++ " AND row_num_ <= " ++ toString upTo ++ " ORDER BY row_num_")
  | firstRows {upTo : Nat} :
      Writes o .rownum (.rownum upTo none)
        ("SELECT * FROM (" ++ String.ofList o.query ++ ") WHERE ROWNUM <= " ++ toString upTo)
  | laterRows {upTo after : Nat} :
      Writes o .rownum (.rownum upTo (some after))
        ("SELECT * FROM (SELECT paged_.*, ROWNUM row_num_ FROM (" ++ String.ofList o.query ++
          ") paged_ WHERE ROWNUM <= " ++ toString upTo ++ ") WHERE row_num_ > " ++ toString after)
  | behindSelect {skip : Option Nat} {first n : Nat} (select : o.selectEnd = some n) :
      Writes o .skipFirst (.skipFirst skip first)
        (String.ofList (Text.takeBytes n o.query) ++ skipFirstText skip first ++
          String.ofList (Text.dropBytes n o.query))
  | aroundOther {skip : Option Nat} {first : Nat} (other : o.selectEnd = none) :
      Writes o .skipFirst (.skipFirst skip first)
        ("SELECT" ++ skipFirstText skip first ++ " * FROM (" ++ String.ofList o.query ++ ") paged_")

namespace RowClause

variable {p : Paging} {w : Window}

/-- Whether the strategy picks rows by clauses of this form. -/
def Suits (p : Paging) : RowClause → Prop
  | .limitOffset .. => p = .limitOffset
  | .offsetFetch .. => ∃ requiresOrder, p = .offsetFetch requiresOrder
  | .rowNumber .. => ∃ emptyOrder, p = .rowNumber emptyOrder
  | .rownum .. => p = .rownum
  | .skipFirst .. => p = .skipFirst

theorem suits_ofWindow (p : Paging) (w : Window) : (ofWindow p w).Suits p := by
  cases p <;> simp [ofWindow, Suits]

/-- What a strategy leaves out for the first page does not change the rows. -/
theorem picks_ofWindow_iff (row : Nat) : (ofWindow p w).Picks row ↔ w.Contains row := by
  by_cases first : w.offset = 0
  · cases p <;> simp [ofWindow, Picks, Window.Contains, Window.stop, first, and_comm]
  · cases p <;> simp [ofWindow, Picks, Window.Contains, Window.stop, first, and_comm]

end RowClause

/-! ### Numbers read back from the text -/

theorem isDigit_of_mem_toString {n : Nat} {c : Char} (h : c ∈ (toString n).toList) : c.isDigit = true := by
  have digits : (toString n).toList = Nat.toDigits 10 n := by simp [Nat.repr]
  rw [digits] at h
  exact Nat.isDigit_of_mem_toDigits (by omega) (by omega) h

section Numbers

variable {m n : Nat} {cs ds : List Char}

private theorem number_inj (h : (toString m).toList = (toString n).toList) : m = n := by
  have digits : Nat.toDigits 10 m = Nat.toDigits 10 n := by simpa [Nat.repr] using h
  have values := congrArg (fun cs => Nat.ofDigitChars 10 cs 0) digits
  simpa [Nat.ofDigitChars_ten_toDigits] using values

private theorem number_append_inj (hc : ∀ c ∈ cs.head?, c.isDigit = false) (hd : ∀ c ∈ ds.head?, c.isDigit = false)
    (h : (toString m).toList ++ cs = (toString n).toList ++ ds) : m = n ∧ cs = ds := by
  have same : (toString m).toList = (toString n).toList := by
    rw [← (Text.takeWhile_append_of_maximal (fun _ hx => isDigit_of_mem_toString hx) hc).1, h,
      (Text.takeWhile_append_of_maximal (fun _ hx => isDigit_of_mem_toString hx) hd).1]
  refine ⟨number_inj same, ?_⟩
  rw [same] at h
  exact List.append_cancel_left h

private theorem toList_withNumber_some (keyword : String) (n : Nat) :
    (withNumber keyword (some n)).toList = ' ' :: (keyword.toList ++ ' ' :: (toString n).toList) := by
  simp [withNumber]

private theorem withNumber_append_inj {keyword : String} (hc : ∀ c ∈ cs.head?, c.isDigit = false)
    (hd : ∀ c ∈ ds.head?, c.isDigit = false)
    (h : (withNumber keyword (some m)).toList ++ cs = (withNumber keyword (some n)).toList ++ ds) : m = n ∧ cs = ds := by
  simp only [toList_withNumber_some, List.cons_append, List.append_assoc, List.cons.injEq, true_and] at h
  have numbers := List.append_cancel_left h
  simp only [List.cons.injEq, true_and] at numbers
  exact number_append_inj hc hd numbers

private theorem head?_withNumber (keyword : String) (n : Option Nat) :
    ∀ c ∈ (withNumber keyword n).toList.head?, c.isDigit = false := by
  cases n with
  | none => simp [withNumber]
  | some n => simp [toList_withNumber_some]

private theorem withNumber_inj {keyword : String} {a b : Option Nat}
    (h : (withNumber keyword a).toList = (withNumber keyword b).toList) : a = b := by
  cases a with
  | none =>
    cases b with
    | none => rfl
    | some n => simp [withNumber] at h
  | some m =>
    cases b with
    | none => simp [withNumber] at h
    | some n =>
      rw [← List.append_nil (withNumber keyword (some m)).toList,
        ← List.append_nil (withNumber keyword (some n)).toList] at h
      rw [(withNumber_append_inj (by simp) (by simp) h).1]

/-- A number behind what does not end in a digit can be read back, and what it stands behind. -/
private theorem append_number_inj (hc : ∀ c ∈ cs.getLast?, c.isDigit = false) (hd : ∀ c ∈ ds.getLast?, c.isDigit = false)
    (h : cs ++ (toString m).toList = ds ++ (toString n).toList) : cs = ds ∧ m = n := by
  have behind {xs : List Char} (hx : ∀ c ∈ xs.getLast?, c.isDigit = false) (k : Nat) :
      (xs ++ (toString k).toList).reverse.dropWhile Char.isDigit = xs.reverse := by
    rw [List.reverse_append]
    refine (Text.takeWhile_append_of_maximal (fun x hx => ?_) (by simpa using hx)).2
    exact isDigit_of_mem_toString (List.mem_reverse.mp hx)
  have same : cs = ds := by
    rw [← List.reverse_inj, ← behind hc m, h, behind hd n]
  rw [same] at h
  exact ⟨same, number_inj (List.append_cancel_left h)⟩

end Numbers

/-! ### Clauses read back from the text -/

section Clauses

variable {o : Outline} {p : Paging}

private theorem skipFirst_inj {skip skip' : Option Nat} {first first' : Nat}
    (h : (withNumber "SKIP" skip).toList ++ (withNumber "FIRST" (some first)).toList =
      (withNumber "SKIP" skip').toList ++ (withNumber "FIRST" (some first')).toList) :
    skip = skip' ∧ first = first' := by
  cases skip with
  | none =>
    cases skip' with
    | none => exact ⟨rfl, Option.some.inj (withNumber_inj (List.append_cancel_left h))⟩
    | some n => simp [withNumber] at h
  | some m =>
    cases skip' with
    | none => simp [withNumber] at h
    | some n =>
      obtain ⟨rfl, rest⟩ := withNumber_append_inj (head?_withNumber _ _) (head?_withNumber _ _) h
      exact ⟨rfl, Option.some.inj (withNumber_inj rest)⟩

private theorem limitOffset_of_picking_eq {limit limit' : Nat} {offset offset' : Option Nat}
    (h : o.picking p (.limitOffset limit offset) = o.picking p (.limitOffset limit' offset')) :
    limit = limit' ∧ offset = offset' := by
  have text := congrArg String.toList h
  simp only [Outline.picking_limitOffset, String.toList_append, List.append_assoc] at text
  obtain ⟨rfl, rest⟩ :=
    withNumber_append_inj (head?_withNumber _ _) (head?_withNumber _ _) (List.append_cancel_left text)
  exact ⟨rfl, withNumber_inj rest⟩

private theorem offsetFetch_of_picking_eq {offset offset' count count' : Nat}
    (h : o.picking p (.offsetFetch offset count) = o.picking p (.offsetFetch offset' count')) :
    offset = offset' ∧ count = count' := by
  have text := congrArg String.toList h
  simp only [Outline.picking_offsetFetch, String.toList_append, List.append_assoc, List.append_cancel_left_eq] at text
  obtain ⟨rfl, rest⟩ := number_append_inj (by simp) (by simp) text
  simp only [List.append_cancel_left_eq] at rest
  exact ⟨rfl, (number_append_inj (by simp) (by simp) rest).1⟩

private theorem rowNumber_of_picking_eq {emptyOrder : String} {after after' upTo upTo' : Nat}
    (h : o.picking (.rowNumber emptyOrder) (.rowNumber after upTo) =
      o.picking (.rowNumber emptyOrder) (.rowNumber after' upTo')) : after = after' ∧ upTo = upTo' := by
  have text := congrArg String.toList h
  simp only [Outline.picking_rowNumber, String.toList_append, List.append_assoc, List.append_cancel_left_eq] at text
  obtain ⟨rfl, rest⟩ := number_append_inj (by simp) (by simp) text
  simp only [List.append_cancel_left_eq] at rest
  exact ⟨rfl, (number_append_inj (by simp) (by simp) rest).1⟩

private theorem rownum_of_picking_eq {upTo upTo' : Nat} {after after' : Option Nat}
    (h : o.picking p (.rownum upTo after) = o.picking p (.rownum upTo' after')) : upTo = upTo' ∧ after = after' := by
  -- before the last number stands `<=` with the first page and `>` with the others
  have differ {x y z : Nat} : o.picking p (.rownum x none) ≠ o.picking p (.rownum y (some z)) := by
    intro same
    have text := congrArg String.toList same
    simp only [Outline.picking_rownum_none, Outline.picking_rownum_some, String.toList_append] at text
    have ends (front : List Char) {s : String} (last : s.toList.getLast? = some ' ') :
        ∀ c ∈ (front ++ s.toList).getLast?, c.isDigit = false := by
      simp [List.getLast?_append, last]
    have fronts := (append_number_inj (ends _ (by decide)) (ends _ (by decide)) text).1
    have last_two := congrArg (fun cs => cs.reverse.take 2) fronts
    simp at last_two
  cases after with
  | none =>
    cases after' with
    | none =>
      have text := congrArg String.toList h
      simp only [Outline.picking_rownum_none, String.toList_append, List.append_assoc, List.append_cancel_left_eq]
        at text
      exact ⟨number_inj text, rfl⟩
    | some n => exact absurd h differ
  | some m =>
    cases after' with
    | none => exact absurd h.symm differ
    | some n =>
      have text := congrArg String.toList h
      simp only [Outline.picking_rownum_some, String.toList_append, List.append_assoc, List.append_cancel_left_eq]
        at text
      obtain ⟨rfl, rest⟩ := number_append_inj (by simp) (by simp) text
      simp only [List.append_cancel_left_eq] at rest
      exact ⟨rfl, congrArg some (number_inj rest)⟩

private theorem skipFirst_of_picking_eq {skip skip' : Option Nat} {first first' : Nat}
    (h : o.picking p (.skipFirst skip first) = o.picking p (.skipFirst skip' first')) :
    skip = skip' ∧ first = first' := by
  have text := congrArg String.toList h
  cases select : o.selectEnd with
  | none =>
    simp only [Outline.picking_skipFirst_around p select, String.toList_append, List.append_cancel_right_eq,
      List.append_cancel_left_eq] at text
    exact skipFirst_inj text
  | some n =>
    simp only [Outline.picking_skipFirst_behind p select, String.toList_append, List.append_cancel_right_eq,
      List.append_cancel_left_eq] at text
    exact skipFirst_inj text

/-- The clause by which a strategy picks rows can be read back from the text. -/
theorem RowClause.eq_of_picking_eq {a b : RowClause} (ha : a.Suits p) (hb : b.Suits p)
    (h : o.picking p a = o.picking p b) : a = b := by
  cases a with
  | limitOffset =>
    cases b with
    | limitOffset => simpa using limitOffset_of_picking_eq h
    | offsetFetch | rowNumber | rownum | skipFirst => simp_all [Suits]
  | offsetFetch =>
    cases b with
    | offsetFetch => simpa using offsetFetch_of_picking_eq h
    | limitOffset | rowNumber | rownum | skipFirst =>
      obtain ⟨_, rfl⟩ := ha
      simp [Suits] at hb
  | rowNumber =>
    cases b with
    | rowNumber =>
      obtain ⟨emptyOrder, rfl⟩ := ha
      simpa using rowNumber_of_picking_eq h
    | limitOffset | offsetFetch | rownum | skipFirst =>
      obtain ⟨_, rfl⟩ := ha
      simp [Suits] at hb
  | rownum =>
    cases b with
    | rownum => simpa using rownum_of_picking_eq h
    | limitOffset | offsetFetch | rowNumber | skipFirst => simp_all [Suits]
  | skipFirst =>
    cases b with
    | skipFirst => simpa using skipFirst_of_picking_eq h
    | limitOffset | offsetFetch | rowNumber | rownum => simp_all [Suits]

/-! ### Forms of the text -/

private theorem withNumber_skipFirst (skip : Option Nat) (first : Nat) :
    withNumber "SKIP" skip ++ withNumber "FIRST" (some first) = skipFirstText skip first := by
  cases skip <;> simp [withNumber, skipFirstText, ← String.toList_inj]

private theorem orderText (requiresOrder : Bool) (o : Outline) :
    (if Paging.offsetFetch requiresOrder = .offsetFetch true && o.order.isNone then " " ++ anyOrder else "") =
      if requiresOrder && o.order.isNone then " ORDER BY (SELECT NULL)" else "" := by
  have any : " " ++ anyOrder = " ORDER BY (SELECT NULL)" := by decide
  rw [any]
  simp only [Paging.offsetFetch.injEq, Bool.decide_eq_true]

/-- What is written with a clause has the form of the strategy. -/
theorem Outline.writes_picking {clause : RowClause} (suits : clause.Suits p) :
    o.Writes p clause (o.picking p clause) := by
  cases clause with
  | limitOffset limit offset =>
    obtain rfl := suits
    cases offset with
    | none =>
      have text : o.picking .limitOffset (.limitOffset limit none) =
          String.ofList o.query ++ " LIMIT " ++ toString limit := by
        simp [picking_limitOffset, withNumber, ← String.toList_inj]
      exact text ▸ .limit
    | some offset =>
      have text : o.picking .limitOffset (.limitOffset limit (some offset)) =
          String.ofList o.query ++ " LIMIT " ++ toString limit ++ " OFFSET " ++ toString offset := by
        simp [picking_limitOffset, withNumber, ← String.toList_inj]
      exact text ▸ .limitOffset
  | offsetFetch offset count =>
    obtain ⟨requiresOrder, rfl⟩ := suits
    rw [picking_offsetFetch, orderText]
    exact .offsetFetch
  | rowNumber after upTo =>
    obtain ⟨emptyOrder, rfl⟩ := suits
    have text : o.picking (.rowNumber emptyOrder) (.rowNumber after upTo) =
        "SELECT * FROM (SELECT paged_.*, ROW_NUMBER() OVER (" ++ o.numberingOrder emptyOrder ++
          ") AS row_num_ FROM (" ++ String.ofList o.body ++ ") paged_) numbered_ WHERE row_num_ > " ++
          toString after ++ " AND row_num_ <= " ++ toString upTo ++ " ORDER BY row_num_" := by
      simp [picking_rowNumber, innerName, rowColumn, ← String.toList_inj]
    exact text ▸ .rowNumber
  | rownum upTo after =>
    obtain rfl := suits
    cases after with
    | none => exact .firstRows
    | some after =>
      have text : o.picking .rownum (.rownum upTo (some after)) =
          "SELECT * FROM (SELECT paged_.*, ROWNUM row_num_ FROM (" ++ String.ofList o.query ++
            ") paged_ WHERE ROWNUM <= " ++ toString upTo ++ ") WHERE row_num_ > " ++ toString after := by
        simp [picking_rownum_some, innerName, rowColumn, ← String.toList_inj]
      exact text ▸ .laterRows
  | skipFirst skip first =>
    obtain rfl := suits
    cases select : o.selectEnd with
    | none =>
      have text : o.picking .skipFirst (.skipFirst skip first) =
          "SELECT" ++ skipFirstText skip first ++ " * FROM (" ++ String.ofList o.query ++ ") paged_" := by
        rw [picking_skipFirst_around _ select, withNumber_skipFirst]
        simp [innerName, ← String.toList_inj]
      exact text ▸ .aroundOther select
    | some n =>
      rw [picking_skipFirst_behind _ select, withNumber_skipFirst]
      exact .behindSelect select

theorem Outline.Writes.suits {clause : RowClause} {text : String} (h : o.Writes p clause text) : clause.Suits p := by
  cases h <;> simp [RowClause.Suits]

/-- A clause is written in one way. -/
theorem Outline.Writes.text_unique {clause : RowClause} {text other : String} (h : o.Writes p clause text)
    (k : o.Writes p clause other) : text = other := by
  cases h with
  | limit | limitOffset | offsetFetch | rowNumber | firstRows | laterRows =>
    cases k
    rfl
  | behindSelect select =>
    cases k with
    | behindSelect same =>
      obtain rfl := Option.some.inj (select.symm.trans same)
      rfl
    | aroundOther none => cases select.symm.trans none
  | aroundOther none =>
    cases k with
    | behindSelect select => cases select.symm.trans none
    | aroundOther _ => rfl

theorem Outline.writes_iff {clause : RowClause} {text : String} :
    o.Writes p clause text ↔ clause.Suits p ∧ text = o.picking p clause :=
  ⟨fun h => ⟨h.suits, h.text_unique (writes_picking h.suits)⟩, fun ⟨suits, same⟩ => same ▸ writes_picking suits⟩

/-- A text of a page has its numbers from one clause. -/
theorem Outline.Writes.clause_unique {a b : RowClause} {text : String} (ha : o.Writes p a text)
    (hb : o.Writes p b text) : a = b := by
  obtain ⟨suits, rfl⟩ := writes_iff.mp ha
  obtain ⟨suits', same⟩ := writes_iff.mp hb
  exact RowClause.eq_of_picking_eq suits suits' same

end Clauses

/-! ### Rows on pages -/

section Pages

variable {d : Dialect} {page size : Int} {sql : String}

theorem paginate_eq_ok_iff {text : String} :
    paginate d page size sql = .ok text ↔ ∃ w, Window.ofPage page size = .ok w ∧
      text = (Outline.ofChars sql.toList).picking d.paging (RowClause.ofWindow d.paging w) := by
  simp only [paginate, Outcome.bind_eq_ok_iff, Except.ok.injEq, @eq_comm _ text]

theorem paginate_eq_error_iff {why : Failure} :
    paginate d page size sql = .error why ↔
      (page < 1 ∨ size < 1 ∨ Window.maxRow < page * size) ∧ why = .invalidPage page size := by
  have refused : paginate d page size sql = .error why ↔ Window.ofPage page size = .error why := by
    simp [paginate, Outcome.bind_eq_error_iff]
  rw [refused, Window.ofPage_eq_error_iff, Window.Exists, not_and_or, not_and_or, Int.not_le, Int.not_le, Int.not_le]

/-- The text of a page determines its clause, which picks the rows of the page. -/
private theorem exists_clause {text : String} (h : paginate d page size sql = .ok text) :
    ∃ clause : RowClause,
      (∀ other : RowClause, (Outline.ofChars sql.toList).Writes d.paging other text ↔ other = clause) ∧
      ∀ row : Nat, clause.Picks row ↔ (page - 1) * size + 1 ≤ row ∧ row ≤ page * size := by
  obtain ⟨w, there, rfl⟩ := paginate_eq_ok_iff.mp h
  have written : (Outline.ofChars sql.toList).Writes d.paging (RowClause.ofWindow d.paging w) _ :=
    Outline.writes_picking (RowClause.suits_ofWindow _ _)
  refine ⟨RowClause.ofWindow d.paging w, fun other => ⟨fun writes => writes.clause_unique written, ?_⟩, fun row => ?_⟩
  · rintro rfl
    exact written
  · rw [RowClause.picks_ofWindow_iff, Window.contains_iff there]

/-- There is a page, and the clause that is written in it picks the row. -/
def Shows (d : Dialect) (page size : Int) (sql : String) (row : Nat) : Prop :=
  ∃ text, paginate d page size sql = .ok text ∧
    ∃ clause, (Outline.ofChars sql.toList).Writes d.paging clause text ∧ clause.Picks row

theorem shows_iff {row : Nat} :
    Shows d page size sql row ↔
      Window.Exists page size ∧ (page - 1) * size + 1 ≤ row ∧ row ≤ page * size := by
  constructor
  · rintro ⟨text, paged, clause, writes, picked⟩
    obtain ⟨w, there, -⟩ := paginate_eq_ok_iff.mp paged
    obtain ⟨found, unique, rows⟩ := exists_clause paged
    rw [(unique clause).mp writes, rows] at picked
    exact ⟨(Window.ofPage_eq_ok_iff.mp there).1, picked⟩
  · rintro ⟨there, picked⟩
    have window := Window.ofPage_eq_ok_iff.mpr ⟨there, rfl⟩
    have paged : paginate d page size sql = .ok _ := paginate_eq_ok_iff.mpr ⟨_, window, rfl⟩
    obtain ⟨clause, unique, rows⟩ := exists_clause paged
    exact ⟨_, paged, clause, (unique clause).mpr rfl, (rows row).mpr picked⟩

/-- No row is on two pages. -/
private theorem page_unique {other : Int} {row : Nat} (h : Shows d page size sql row)
    (h' : Shows d other size sql row) : page = other := by
  obtain ⟨⟨_, size_pos, _⟩, first, last⟩ := shows_iff.mp h
  obtain ⟨-, first', last'⟩ := shows_iff.mp h'
  have before {i j : Int} (start : (i - 1) * size < row) (stop : row ≤ j * size) : i - 1 < j :=
    Int.lt_of_mul_lt_mul_right (by omega) (by omega : 0 ≤ size)
  have := before (i := page) (j := other) (by omega) last'
  have := before (i := other) (j := page) (by omega) last
  omega

/-- The first pages hold the first rows. -/
private theorem exists_page {count : Int} (size_pos : 1 ≤ size) (fits : count * size ≤ Window.maxRow) (row : Nat) :
    (∃ page, 1 ≤ page ∧ page ≤ count ∧ Shows d page size sql row) ↔ 1 ≤ row ∧ row ≤ count * size := by
  simp only [shows_iff]
  constructor
  · rintro ⟨page, page_pos, within, -, first, last⟩
    have start : 0 ≤ (page - 1) * size := Int.mul_nonneg (by omega) (by omega)
    have stop : page * size ≤ count * size := Int.mul_le_mul_of_nonneg_right within (by omega)
    omega
  · rintro ⟨row_pos, within⟩
    let before : Int := (row - 1) / size
    have start : before * size ≤ row - 1 := Int.ediv_mul_le _ (by omega)
    have stop : (row - 1 : Int) < (before + 1) * size := Int.lt_ediv_add_one_mul_self _ (by omega)
    have before_nonneg : 0 ≤ before := Int.ediv_nonneg (by omega) (by omega)
    have page_le : before + 1 ≤ count := Int.ediv_lt_of_lt_mul (by omega) (by omega)
    have page_fits : (before + 1) * size ≤ count * size := Int.mul_le_mul_of_nonneg_right page_le (by omega)
    refine ⟨before + 1, by omega, page_le, ⟨by omega, size_pos, by omega⟩, ?_, by omega⟩
    rw [Int.add_sub_cancel]
    omega

end Pages

/-- Pages fail by their number and size alone. The text of a page has the form of the strategy with the numbers of one
clause, which picks the rows of the page, and the pages of one size hold each row once, the same in all dialects and for
all queries. -/
theorem pages_partition_rows (d : Dialect) (sql : String) :
    (∀ (page size : Int) (why : Failure), paginate d page size sql = .error why ↔
      (page < 1 ∨ size < 1 ∨ Window.maxRow < page * size) ∧ why = .invalidPage page size) ∧
    (∀ (page size : Int) (text : String), paginate d page size sql = .ok text → ∃ clause : RowClause,
      (∀ other : RowClause, (Outline.ofChars sql.toList).Writes d.paging other text ↔ other = clause) ∧
      ∀ row : Nat, clause.Picks row ↔ (page - 1) * size + 1 ≤ row ∧ row ≤ page * size) ∧
    (∀ (page other size : Int) (row : Nat),
      Shows d page size sql row → Shows d other size sql row → page = other) ∧
    (∀ count size : Int, 1 ≤ size → count * size ≤ Window.maxRow → ∀ row : Nat,
      (∃ page, 1 ≤ page ∧ page ≤ count ∧ Shows d page size sql row) ↔ 1 ≤ row ∧ row ≤ count * size) ∧
    ∀ (d' : Dialect) (sql' : String) (page size : Int) (row : Nat),
      Shows d page size sql row ↔ Shows d' page size sql' row := by
  refine ⟨fun _ _ _ => paginate_eq_error_iff, fun _ _ _ => exists_clause, fun _ _ _ _ => page_unique,
    fun _ _ => exists_page, fun _ _ _ _ _ => ?_⟩
  rw [shows_iff, shows_iff]

theorem pages_partition_rows_oracle10g :
    paginate .oracle10g 922337203685477581 10 "select 1" = .error (.invalidPage 922337203685477581 10) ∧
      (∃ text clause, paginate .oracle10g 3 10 "select 1" = .ok text ∧
        text = "SELECT * FROM (SELECT paged_.*, ROWNUM row_num_ FROM (select 1) paged_ WHERE ROWNUM <= 30) " ++
          "WHERE row_num_ > 20" ∧
        (∀ other, (Outline.ofChars "select 1".toList).Writes .rownum other text ↔ other = clause) ∧
        ∀ row : Nat, clause.Picks row ↔ 21 ≤ row ∧ row ≤ 30) ∧
      ∃ page, 1 ≤ page ∧ page ≤ 922337203685477580 ∧
        Shows .oracle10g page 10 "select 1" 9223372036854775800 := by
  obtain ⟨fails, ranges, -, covers, -⟩ := pages_partition_rows .oracle10g "select 1"
  have paged : paginate .oracle10g 3 10 "select 1" =
      .ok ("SELECT * FROM (SELECT paged_.*, ROWNUM row_num_ FROM (select 1) paged_ WHERE ROWNUM <= 30) " ++
        "WHERE row_num_ > 20") := by decide +kernel
  obtain ⟨clause, unique, rows⟩ := ranges _ _ _ paged
  refine ⟨(fails _ _ _).mpr ⟨by decide, rfl⟩, ⟨_, clause, paged, rfl, unique, fun row => (rows row).trans (by omega)⟩,
    (covers _ _ (by decide) (by decide) _).mpr (by decide)⟩

end SqlSchema.Query
