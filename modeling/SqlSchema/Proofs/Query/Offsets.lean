import SqlSchema.Proofs.Query.ByteScan
import SqlSchema.Query.Page

/-!
# Offsets into a query

The scan remembers where `SELECT` ends, where the last token before `ORDER BY` ends and where the sort keys begin. All
these places are between characters of the query and in this order (`Outline.Placed`), whatever the query is, also one
in which a quoted run, a comment or a parenthesis is not closed. So the query can be cut there to put it onto a page.
-/

namespace SqlSchema

/-! ### Boundaries -/

namespace Text

variable {n m : Nat} {cs : List Char}

theorem isBoundary_byteSize (cs : List Char) : IsBoundary (byteSize cs) cs := ⟨cs, List.prefix_rfl, rfl⟩

theorem IsBoundary.append (h : IsBoundary n cs) (ds : List Char) : IsBoundary n (cs ++ ds) := by
  obtain ⟨front, start, size⟩ := h
  exact ⟨front, start.trans (List.prefix_append cs ds), size⟩

theorem IsBoundary.le_byteSize (h : IsBoundary n cs) : n ≤ byteSize cs := by
  obtain ⟨front, ⟨back, rfl⟩, rfl⟩ := h
  rw [byteSize_append]
  exact Nat.le_add_right _ _

/-- A boundary is one of every start of the text that reaches that far. -/
theorem IsBoundary.takeBytes (h : IsBoundary n cs) (inside : n ≤ m) : IsBoundary n (takeBytes m cs) := by
  obtain ⟨front, start, size⟩ := h
  exact ⟨front, (longestStart_takeBytes m cs).longest front start (size.trans_le inside), size⟩

theorem IsBoundary.byteSize_takeBytes (h : IsBoundary n cs) : byteSize (Text.takeBytes n cs) = n :=
  isBoundary_iff.mp h

theorem slice?_front (h : IsBoundary n cs) : slice? cs 0 n = some (takeBytes n cs) := by
  have found := slice?_append [] (Text.takeBytes n cs) (dropBytes n cs)
  rwa [List.nil_append, takeBytes_append_dropBytes, byteSize_nil, Nat.zero_add, h.byteSize_takeBytes] at found

theorem slice?_back (h : IsBoundary n cs) : slice? cs n (byteSize cs) = some (dropBytes n cs) := by
  have found := slice?_append (Text.takeBytes n cs) (dropBytes n cs) []
  rwa [List.append_nil, ← byteSize_append, takeBytes_append_dropBytes, h.byteSize_takeBytes] at found

end Text

namespace Query

open Text (IsBoundary)

/-! ### What the scan remembers -/

/-- A place between characters that have been seen, behind the `SELECT` but not behind the last token. -/
structure Scan.PlacedBehind (s : Scan) (cs : List Char) (n : Nat) : Prop where
  boundary : IsBoundary n cs
  le_stop : n ≤ s.stop
  started : s.atStart = false
  select_le : ∀ m ∈ s.selectEnd, m ≤ n

/-- The state of the scan is about places between the characters that have been seen. -/
structure Scan.Placed (s : Scan) (cs : List Char) : Prop where
  position : s.position = Text.byteSize cs
  stop : IsBoundary s.stop cs
  selectEnd : ∀ n ∈ s.selectEnd, IsBoundary n cs ∧ n ≤ s.stop ∧ s.atStart = false
  pending : ∀ n ∈ s.pending, s.PlacedBehind cs n
  start : ∀ clause ∈ s.order, s.PlacedBehind cs clause.start
  keys : ∀ clause ∈ s.order, IsBoundary clause.keys cs ∧ clause.start < clause.keys ∧ clause.keys ≤ s.stop

namespace Scan

variable {s : Scan} {l : Lexeme} {cs : List Char}

theorem placed_nil : Placed {} [] where
  position := rfl
  stop := ⟨[], List.prefix_rfl, rfl⟩
  selectEnd := by simp
  pending := by simp
  start := by simp
  keys := by simp

theorem atStart_step_of_not (h : s.atStart = false) : (s.step l).atStart = false := by
  rw [atStart_step, h, Bool.false_and]

theorem selectEnd_step_of_not_atStart (h : s.atStart = false) : (s.step l).selectEnd = s.selectEnd := by
  rw [selectEnd_step, if_neg]
  rintro ⟨-, start, -⟩
  rw [h] at start
  cases start

private theorem stop_step_of_isWord {w : String} (word : l.IsWord w) :
    (s.step l).stop = s.position + Text.byteSize l.text := by
  have token : l.isToken = true := by simp [Lexeme.isToken, word.1]
  rw [stop_step, if_pos token]

private theorem atStart_step_of_isWord {w : String} (word : l.IsWord w) : (s.step l).atStart = false := by
  simp [atStart_step, Lexeme.isToken, word.1]

private theorem not_isWord_select_of_isWord_order (order : l.IsWord "ORDER") : ¬l.IsWord "SELECT" := by
  intro select
  have same := Text.sameName_trans (Text.sameName_comm _ _ ▸ order.2) select.2
  exact absurd same (by decide)

/-- A clause is one that was there before, or `BY` has just been read behind a pending `ORDER`. -/
private theorem order_step_cases {clause : OrderClause} (found : clause ∈ (s.step l).order) :
    clause ∈ s.order ∨ clause.start ∈ s.pending ∧ l.IsWord "BY" ∧
      clause.keys = s.position + Text.byteSize l.text := by
  rw [order_step] at found
  split at found
  · rename_i by_word
    cases pending : s.pending with
    | none =>
      rw [pending] at found
      exact .inl found
    | some n =>
      rw [pending] at found
      cases found
      exact .inr ⟨rfl, by_word.2, rfl⟩
  · exact .inl found

namespace Placed

variable (h : s.Placed cs)

include h

private theorem stop_le_position : s.stop ≤ s.position := h.position ▸ h.stop.le_byteSize

private theorem stop_le_stop_step : s.stop ≤ (s.step l).stop := by
  have := h.stop_le_position
  rw [stop_step]
  split <;> omega

private theorem after_eq : s.position + Text.byteSize l.text = Text.byteSize (cs ++ l.text) := by
  rw [Text.byteSize_append, h.position]

private theorem isBoundary_after : IsBoundary (s.position + Text.byteSize l.text) (cs ++ l.text) :=
  h.after_eq ▸ Text.isBoundary_byteSize _

private theorem stop_append : IsBoundary (s.step l).stop (cs ++ l.text) := by
  rw [stop_step]
  split
  · exact h.isBoundary_after
  · exact h.stop.append _

private theorem selectEnd_append :
    ∀ n ∈ (s.step l).selectEnd, IsBoundary n (cs ++ l.text) ∧ n ≤ (s.step l).stop ∧ (s.step l).atStart = false := by
  intro n found
  rw [selectEnd_step] at found
  split at found
  · rename_i select
    cases found
    rw [stop_step_of_isWord select.2.2, atStart_step_of_isWord select.2.2]
    exact ⟨h.isBoundary_after, le_rfl, rfl⟩
  · obtain ⟨boundary, le_stop, started⟩ := h.selectEnd n found
    exact ⟨boundary.append _, le_stop.trans h.stop_le_stop_step, atStart_step_of_not started⟩

private theorem placedBehind_append {n : Nat} (behind : s.PlacedBehind cs n) :
    (s.step l).PlacedBehind (cs ++ l.text) n where
  boundary := behind.boundary.append _
  le_stop := behind.le_stop.trans h.stop_le_stop_step
  started := atStart_step_of_not behind.started
  select_le := by
    rw [selectEnd_step_of_not_atStart behind.started]
    exact behind.select_le

private theorem pending_append : ∀ n ∈ (s.step l).pending, (s.step l).PlacedBehind (cs ++ l.text) n := by
  intro n found
  rw [pending_step] at found
  split at found
  · exact h.placedBehind_append (h.pending n found)
  · split at found
    · rename_i order
      cases found
      refine ⟨h.stop.append _, h.stop_le_stop_step, atStart_step_of_isWord order, fun m select => ?_⟩
      rw [selectEnd_step, if_neg fun found => not_isWord_select_of_isWord_order order found.2.2] at select
      exact (h.selectEnd m select).2.1
    · cases found

private theorem start_append :
    ∀ clause ∈ (s.step l).order, (s.step l).PlacedBehind (cs ++ l.text) clause.start := by
  intro clause found
  rcases order_step_cases found with old | ⟨pending, -⟩
  · exact h.placedBehind_append (h.start clause old)
  · exact h.placedBehind_append (h.pending clause.start pending)

private theorem keys_append (some_char : l.text ≠ []) : ∀ clause ∈ (s.step l).order,
    IsBoundary clause.keys (cs ++ l.text) ∧ clause.start < clause.keys ∧ clause.keys ≤ (s.step l).stop := by
  intro clause found
  rcases order_step_cases found with old | ⟨pending, by_word, keys⟩
  · obtain ⟨boundary, lt, le_stop⟩ := h.keys clause old
    exact ⟨boundary.append _, lt, le_stop.trans h.stop_le_stop_step⟩
  · have longer : 0 < Text.byteSize l.text := by
      obtain ⟨c, more, text⟩ := List.exists_cons_of_ne_nil some_char
      rw [text, Text.byteSize_cons]
      exact Nat.add_pos_left c.utf8Size_pos _
    have := h.stop_le_position
    have := (h.pending clause.start pending).le_stop
    rw [keys, stop_step_of_isWord by_word]
    exact ⟨h.isBoundary_after, by omega, le_rfl⟩

/-- One more lexeme keeps the places between characters. -/
theorem step (some_char : l.text ≠ []) : (s.step l).Placed (cs ++ l.text) where
  position := h.after_eq
  stop := h.stop_append
  selectEnd := h.selectEnd_append
  pending := h.pending_append
  start := h.start_append
  keys := h.keys_append some_char

end Placed

theorem placed_foldl {ls : List Lexeme} (some_char : ∀ l ∈ ls, l.text ≠ []) :
    Placed (ls.foldl Scan.step {}) (textOf ls) := by
  induction ls using List.reverseRecOn with
  | nil => exact placed_nil
  | append_singleton ls l ih =>
    rw [List.forall_mem_append, List.forall_mem_singleton] at some_char
    rw [List.foldl_append, textOf_append]
    have more : textOf [l] = l.text := List.flatMap_singleton _ _
    rw [more]
    exact (ih some_char.1).step some_char.2

end Scan

/-! ### Outlines -/

namespace Outline

/-- The places of an outline are between characters of its query: the `SELECT` ends before the order clause starts,
and the keys come behind its start and not behind the end of the query. -/
structure Placed (o : Outline) : Prop where
  selectEnd : ∀ n ∈ o.selectEnd, IsBoundary n o.query
  start : ∀ clause ∈ o.order, IsBoundary clause.start o.query
  keys : ∀ clause ∈ o.order, IsBoundary clause.keys o.query
  select_le : ∀ n ∈ o.selectEnd, ∀ clause ∈ o.order, n ≤ clause.start
  start_lt : ∀ clause ∈ o.order, clause.start < clause.keys
  keys_le : ∀ clause ∈ o.order, clause.keys ≤ Text.byteSize o.query

theorem placed_lexemes (cs : List Char) : ((lexemes cs).foldl Scan.step {}).Placed cs := by
  have some_char : ∀ l ∈ lexemes cs, l.text ≠ [] := by
    intro l hl
    obtain ⟨front, back, split⟩ := List.append_of_mem hl
    exact (isSplit_iff.mpr split).leads.text_ne_nil
  have placed := Scan.placed_foldl some_char
  have whole : textOf (lexemes cs) = cs := flatMap_text_lexemes cs
  rwa [whole] at placed

theorem placed_ofChars (cs : List Char) : (ofChars cs).Placed := by
  have placed := placed_lexemes (Text.trimLeft cs)
  have size : Text.byteSize (ofChars cs).query = ((lexemes (Text.trimLeft cs)).foldl Scan.step {}).stop :=
    placed.stop.byteSize_takeBytes
  constructor
  · intro n found
    obtain ⟨boundary, le_stop, -⟩ := placed.selectEnd n found
    exact boundary.takeBytes le_stop
  · intro clause found
    have behind := placed.start clause found
    exact behind.boundary.takeBytes behind.le_stop
  · intro clause found
    obtain ⟨boundary, -, le_stop⟩ := placed.keys clause found
    exact boundary.takeBytes le_stop
  · intro n select clause found
    exact (placed.start clause found).select_le n select
  · intro clause found
    exact (placed.keys clause found).2.1
  · intro clause found
    rw [size]
    exact (placed.keys clause found).2.2

/-! ### Slices of the query -/

/-- The outline of a query by its bytes; nothing if a slice fails. -/
def ofBytes? (cs : List Char) : Option Outline := do
  let sql := Text.trimLeft cs
  let s ← byteScan? sql {}
  let query ← Text.slice? sql 0 s.stop
  some { query, selectEnd := s.selectEnd, order := s.order }

theorem ofBytes?_eq (cs : List Char) : ofBytes? cs = some (ofChars cs) := by
  have scanned := byteScan?_eq [] (Text.trimLeft cs) (s := {}) rfl
  rw [List.nil_append] at scanned
  have query := Text.slice?_front (placed_lexemes (Text.trimLeft cs)).stop
  rw [ofBytes?, scanned, Option.bind_eq_bind, Option.bind_some, query]
  rfl

variable (o : Outline) (p : Paging)

/-- The query without its order clause; nothing if the slice fails. -/
def body? : Option (List Char) :=
  match o.order with
  | none => some o.query
  | some clause => (Text.slice? o.query 0 clause.start).map Text.trimRight

/-- The sort keys, if there is an order clause; nothing if the slice fails. -/
def sortKeys? : Option (Option (List Char)) :=
  match o.order with
  | none => some none
  | some clause =>
    (Text.slice? o.query clause.keys (Text.byteSize o.query)).map fun keys => some (Text.trimChars keys)

/-- The query with a clause that picks rows; nothing if a slice fails. Two strategies slice the query. -/
def picking? : RowClause → Option String
  | .rowNumber after upTo => do
    let keys ← o.sortKeys?
    let body ← o.body?
    let emptyOrder := match p with | .rowNumber emptyOrder => emptyOrder | _ => ""
    let order :=
      match keys with
      | none => emptyOrder
      | some keys => "ORDER BY " ++ String.ofList (requalify innerName.toList keys)
    some ("SELECT * FROM (SELECT " ++ innerName ++ ".*, ROW_NUMBER() OVER (" ++ order ++ ") AS " ++ rowColumn ++
      " FROM (" ++ String.ofList body ++ ") " ++ innerName ++ ") numbered_ WHERE " ++ rowColumn ++ " > " ++
      toString after ++ " AND " ++ rowColumn ++ " <= " ++ toString upTo ++ " ORDER BY " ++ rowColumn)
  | .skipFirst skip first =>
    let clause := withNumber "SKIP" skip ++ withNumber "FIRST" (some first)
    match o.selectEnd with
    | some n => do
      let front ← Text.slice? o.query 0 n
      let back ← Text.slice? o.query n (Text.byteSize o.query)
      some (String.ofList front ++ clause ++ String.ofList back)
    | none => some ("SELECT" ++ clause ++ " * FROM (" ++ String.ofList o.query ++ ") " ++ innerName)
  | other => some (o.picking p other)

variable {o}

theorem body?_eq (h : o.Placed) : o.body? = some o.body := by
  unfold body? body
  cases order : o.order with
  | none => rfl
  | some clause =>
    dsimp only
    rw [Text.slice?_front (h.start clause order)]
    rfl

theorem sortKeys?_eq (h : o.Placed) : o.sortKeys? = some o.sortKeys := by
  unfold sortKeys? sortKeys
  cases order : o.order with
  | none => rfl
  | some clause =>
    dsimp only
    rw [Text.slice?_back (h.keys clause order)]
    rfl

theorem picking?_eq (h : o.Placed) (clause : RowClause) : o.picking? p clause = some (o.picking p clause) := by
  cases clause with
  | limitOffset limit offset => rfl
  | offsetFetch offset count => rfl
  | rownum upTo after => rfl
  | rowNumber after upTo =>
    unfold picking?
    rw [sortKeys?_eq h, body?_eq h]
    rfl
  | skipFirst skip first =>
    unfold picking?
    cases select : o.selectEnd with
    | none => rw [picking_skipFirst_around p select]
    | some n =>
      dsimp only
      rw [Text.slice?_front (h.selectEnd n select), Text.slice?_back (h.selectEnd n select),
        picking_skipFirst_behind p select]
      rfl

end Outline

/-- The query that gives one page, by its bytes; nothing if a slice fails. -/
def paginateBytes? (d : Dialect) (page size : Int) (sql : String) : Option (Except Failure String) :=
  match Window.ofPage page size with
  | .error failure => some (.error failure)
  | .ok w => do
    let o ← Outline.ofBytes? sql.toList
    let text ← o.picking? d.paging (RowClause.ofWindow d.paging w)
    some (.ok text)

/-- The scan of any query goes through its bytes to the end and cuts it between characters only, and what it remembers
are places between characters of the query, in order. So no slice fails that puts the query onto a page. -/
theorem scan_cuts_between_characters (sql : String) :
    let o := Outline.ofChars sql.toList
    Outline.ofBytes? sql.toList = some o ∧ o.Placed ∧ o.body? = some o.body ∧ o.sortKeys? = some o.sortKeys ∧
      ∀ (d : Dialect) (page size : Int), paginateBytes? d page size sql = some (paginate d page size sql) := by
  intro o
  have placed : o.Placed := Outline.placed_ofChars sql.toList
  have scanned : Outline.ofBytes? sql.toList = some o := Outline.ofBytes?_eq sql.toList
  refine ⟨scanned, placed, Outline.body?_eq placed, Outline.sortKeys?_eq placed, fun d page size => ?_⟩
  unfold paginateBytes? paginate
  cases Window.ofPage page size with
  | error failure => rfl
  | ok w =>
    rw [scanned]
    dsimp only
    rw [Option.bind_eq_bind, Option.bind_some, Outline.picking?_eq d.paging placed]
    rfl

end Query

end SqlSchema
