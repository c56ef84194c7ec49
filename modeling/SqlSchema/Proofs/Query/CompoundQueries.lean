import SqlSchema.Proofs.Query.Insertion

/-!
# Pages of compound queries

A clause that is put behind a `SELECT` picks rows of that `SELECT` alone, so in a union only a query around the whole
picks rows of all its members. Which of the two is written depends on the first word of the query and on nothing behind
it: with a leading `SELECT` the query is never put into another one, be it compound or not
(`wrapped_iff_no_leading_select`).
-/

namespace SqlSchema.Query

/-- The clause that skips rows and takes the first ones behind them. -/
def skipFirstClause (w : Window) : String :=
  withNumber "SKIP" (if w.offset = 0 then none else some w.offset) ++ withNumber "FIRST" (some w.size)

/-- The words of `skipFirstClause`. -/
def skipFirstTokens (w : Window) : List Lexeme :=
  spelled (numbered "SKIP" (if w.offset = 0 then none else some w.offset) ++ numbered "FIRST" (some w.size))

/-- A query around another one, of whose rows the clause picks some. -/
def wrapped (clause : String) (query : List Char) : String :=
  "SELECT" ++ clause ++ " * FROM (" ++ String.ofList query ++ ") " ++ innerName

/-- The tokens of several `SELECT`s put together: the first token is a `SELECT`, and there is another one outside
parentheses. -/
structure IsCompound (ts : List Lexeme) (first : Lexeme) (middle : List Lexeme) (second : Lexeme)
    (back : List Lexeme) : Prop where
  split : ts = first :: (middle ++ second :: back)
  starts : first.IsWord "SELECT"
  again : second.IsWord "SELECT"
  top : AtTop (first :: middle)

section Leading

variable {ts rest before after : List Lexeme} {first : Lexeme}

/-- A query that starts with a `SELECT` splits behind it. -/
theorem SplitsAtSelect.eq_of_cons (h : SplitsAtSelect ts before after) (split : ts = first :: rest)
    (word : first.IsWord "SELECT") : before = [first] ∧ after = rest := by
  obtain ⟨whole, closings, select, rfl, closing, -⟩ := h
  rw [split] at whole
  cases closings with
  | nil =>
    obtain ⟨rfl, rfl⟩ := List.cons.inj whole
    exact ⟨rfl, rfl⟩
  | cons c closings =>
    -- what stands first would be a closing parenthesis
    obtain ⟨rfl, -⟩ := List.cons.inj whole
    have kind := closing first List.mem_cons_self
    rw [word.1] at kind
    cases kind

/-- A text that only has the clause in it is shorter than the query around it. -/
theorem insertion_ne_wrapped (clause : String) (query : List Char) (n : Nat) :
    String.ofList (Text.takeBytes n query) ++ clause ++ String.ofList (Text.dropBytes n query) ≠
      wrapped clause query := by
  intro same
  have lengths := congrArg (fun s => s.toList.length) same
  have whole := congrArg List.length (Text.takeBytes_append_dropBytes n query)
  simp only [wrapped, innerName, String.toList_append, String.toList_ofList, List.length_append] at lengths whole
  have select : "SELECT".toList.length = 6 := by decide
  omega

end Leading

variable {cs : List Char} {w : Window}

/-- The page has the clause behind the leading `SELECT` of the query, or else the query in it. -/
private theorem picking_skipFirst_cases (cs : List Char) (w : Window) :
    let page := (Outline.ofChars cs).picking .skipFirst (RowClause.ofWindow .skipFirst w)
    (page ≠ wrapped (skipFirstClause w) (Outline.ofChars cs).query ∧
      ∃ before after, SplitsAtSelect (tokens (Text.trimLeft cs)) before after ∧
        tokens page.toList = before ++ skipFirstTokens w ++ after) ∨
    (page = wrapped (skipFirstClause w) (Outline.ofChars cs).query ∧
      ∀ before after, ¬SplitsAtSelect (tokens (Text.trimLeft cs)) before after) := by
  unfold RowClause.ofWindow
  cases select : (Outline.ofChars cs).selectEnd with
  | some n =>
    obtain ⟨before, after, at_select, read, -⟩ :=
      exists_page_behindSelect select (if w.offset = 0 then none else some w.offset) w.size
    refine .inl ⟨?_, before, after, at_select, read⟩
    dsimp only
    rw [Outline.picking_skipFirst_behind _ select]
    exact insertion_ne_wrapped (skipFirstClause w) _ n
  | none => exact .inr ⟨Outline.picking_skipFirst_around _ select _ _, not_splitsAtSelect select⟩

/-- The query is put into another one exactly if it does not start with a `SELECT`. So a compound query that starts
with one is not, and its page has the clause in the first member: the others come behind it as they are. -/
theorem wrapped_iff_no_leading_select {d : Dialect} {page size : Int} {sql : String} (strategy : d.paging = .skipFirst)
    (there : Window.Exists page size) :
    ∃ w text, Window.ofPage page size = .ok w ∧ paginate d page size sql = .ok text ∧
      let around := wrapped (skipFirstClause w) (Outline.ofChars sql.toList).query
      (text = around ↔ ∀ before after, ¬SplitsAtSelect (tokens (Text.trimLeft sql.toList)) before after) ∧
      ∀ first middle second back,
        IsCompound (tokens (Text.trimLeft sql.toList)) first middle second back →
          text ≠ around ∧ tokens text.toList = first :: skipFirstTokens w ++ middle ++ second :: back := by
  have window := Window.ofPage_eq_ok_iff.mpr ⟨there, rfl⟩
  refine ⟨_, _, window, paginate_eq_ok_iff.mpr ⟨_, window, rfl⟩, ?_⟩
  rw [strategy]
  generalize (⟨size.toNat, ((page - 1) * size).toNat⟩ : Window) = w
  rcases picking_skipFirst_cases sql.toList w with ⟨inside, before, after, at_select, read⟩ | ⟨around, other⟩
  · refine ⟨⟨fun around => absurd around inside, fun other => absurd at_select (other before after)⟩, ?_⟩
    intro first middle second back compound
    obtain ⟨rfl, rfl⟩ := at_select.eq_of_cons compound.split compound.starts
    exact ⟨inside, by rw [read]; simp⟩
  · refine ⟨⟨fun _ => other, fun _ => around⟩, ?_⟩
    intro first middle second back compound
    refine absurd ⟨?_, [], first, rfl, by simp, compound.starts⟩ (other [first] (middle ++ second :: back))
    exact compound.split

/-- A union of two members. -/
def bothNames : String := "select a from t union select b from u"

private theorem isCompound_bothNames :
    IsCompound (tokens (Text.trimLeft bothNames.toList)) ⟨.word, "select".toList⟩ (spelled ["a", "from", "t", "union"])
      ⟨.word, "select".toList⟩ (spelled ["b", "from", "u"]) where
  split := by decide +kernel
  starts := by decide
  again := by decide
  top := by
    unfold AtTop
    decide +kernel

theorem bothNames_paged_in_first_member :
    Window.Exists 2 10 ∧ ∃ text, paginate .informix 2 10 bothNames = .ok text ∧
      tokens text.toList = spelled ["select", "SKIP", "10", "FIRST", "10", "a", "from", "t", "union", "select", "b",
        "from", "u"] := by
  have there : Window.Exists 2 10 := by simp [Window.Exists, Window.maxRow]
  refine ⟨there, ?_⟩
  obtain ⟨w, text, window, page, -, members⟩ :=
    @wrapped_iff_no_leading_select .informix 2 10 bothNames rfl there
  obtain rfl : w = ⟨10, 10⟩ := (Window.ofPage_eq_ok_iff.mp window).2
  obtain ⟨-, read⟩ := members _ _ _ _ isCompound_bothNames
  refine ⟨text, page, read.trans ?_⟩
  decide +kernel

/-- The clause stands in the first member, and no query is put around both. -/
theorem bothNames_not_wrapped :
    (∃ first middle second back, IsCompound (tokens (Text.trimLeft bothNames.toList)) first middle second back) ∧
      paginate .informix 2 10 bothNames = .ok "select SKIP 10 FIRST 10 a from t union select b from u" ∧
      paginate .informix 2 10 bothNames ≠
        .ok (wrapped (skipFirstClause ⟨10, 10⟩) (Outline.ofChars bothNames.toList).query) := by
  have page : paginate .informix 2 10 bothNames = .ok "select SKIP 10 FIRST 10 a from t union select b from u" := by
    decide +kernel
  refine ⟨⟨_, _, _, _, isCompound_bothNames⟩, page, ?_⟩
  rw [page, Ne, Except.ok.injEq]
  decide +kernel

end SqlSchema.Query
