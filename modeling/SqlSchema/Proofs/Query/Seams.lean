import SqlSchema.Proofs.Query.Keywords

/-!
# Seams between queries

Where two texts are put together, the lexemes of the whole are those of the first and then those of the second, unless
the last lexeme of the first goes on into the second (`lexemes_append`). A lexeme sees one character of what stands
behind it, so nothing before the seam changes, and a query can be cut behind any lexeme (`lexemes_textOf_of_append`).
-/

namespace SqlSchema.Query

open Text (double)

namespace Lexeme

/-- Whether the lexeme ends by itself. A quoted run or a comment does not if only the end of the query ends it. -/
def Closed (l : Lexeme) : Prop :=
  match l.kind with
  | .quoted => ∃ c close inner, closingOf? c = some close ∧ l.text = c :: (double close inner ++ [close])
  | .lineComment => ∃ inner, l.text = '-' :: '-' :: (inner ++ ['\n'])
  | .blockComment => ∃ inner, l.text = '/' :: '*' :: (inner ++ ['*', '/'])
  | _ => True

/-- A character with which no lexeme goes on that ends by itself. -/
def breaksOff (c : Char) : Bool := !isWordChar c && c ∉ ['\'', '"', '\x60', ']', '-', '*']

end Lexeme

/-! ### What stands behind a lexeme -/

section Behind

variable {l : Lexeme} {rest other : List Char}

theorem pair_prefix_cons_iff {a b c : Char} : [a, b] <+: c :: rest ↔ a = c ∧ rest.head? = some b := by
  cases rest <;> simp [List.cons_prefix_cons, eq_comm]

/-- A lexeme sees one character of what stands behind it. -/
theorem Lexeme.Leads.of_head?_eq (h : l.Leads rest) (same : other.head? = rest.head?) : l.Leads other := by
  have nothing : rest = [] → other = [] := by
    rintro rfl
    exact List.head?_eq_none_iff.mp same
  cases h with
  | quoted opens single => exact .quoted opens (same ▸ single)
  | openQuoted opens =>
    rw [nothing rfl]
    exact .openQuoted opens
  | lineComment one_line => exact .lineComment one_line
  | openLineComment one_line =>
    rw [nothing rfl]
    exact .openLineComment one_line
  | blockComment first => exact .blockComment first
  | openBlockComment no_end =>
    rw [nothing rfl]
    exact .openBlockComment no_end
  | word all maximal => exact .word all (same ▸ maximal)
  | single no_quote no_word no_line no_block =>
    rw [pair_prefix_cons_iff, ← same, ← pair_prefix_cons_iff] at no_line no_block
    exact .single no_quote no_word no_line no_block

/-- What stands behind a lexeme can be left out. -/
theorem Lexeme.Leads.alone (h : l.Leads rest) : l.Leads [] := by
  cases h with
  | quoted opens _ => exact .quoted opens (by simp)
  | openQuoted opens => exact .openQuoted opens
  | lineComment one_line => exact .lineComment one_line
  | openLineComment one_line => exact .openLineComment one_line
  | blockComment first => exact .blockComment first
  | openBlockComment no_end => exact .openBlockComment no_end
  | word all _ => exact .word all (by simp)
  | single no_quote no_word _ _ =>
    refine .single no_quote no_word ?_ ?_ <;> simp

/-- A closing delimiter that is not doubled does not come from doubling. -/
private theorem double_ne_double_append {c : Char} {cs ds : List Char} : double c cs ≠ double c ds ++ [c] := by
  intro same
  have counts := congrArg (List.count c) same
  rw [List.count_append, Text.count_double, Text.count_double, List.count_singleton_self] at counts
  omega

theorem closingOf?_eq_some {c close : Char} (h : closingOf? c = some close) :
    close = '\'' ∨ close = '"' ∨ close = '\x60' ∨ close = ']' := by
  unfold closingOf? at h
  split at h
  · cases h
    rename_i quote
    rcases quote with rfl | rfl | rfl <;> simp
  · split at h <;> cases h
    simp

private theorem not_wordChar_of_breaksOff {c : Char} (h : Lexeme.breaksOff c = true) : isWordChar c = false := by
  rw [Lexeme.breaksOff, Bool.and_eq_true, Bool.not_eq_true'] at h
  exact h.1

private theorem ne_of_breaksOff {c d : Char} (h : Lexeme.breaksOff c = true)
    (hd : d ∈ ['\'', '"', '\x60', ']', '-', '*']) : c ≠ d := by
  rintro rfl
  rw [Lexeme.breaksOff, Bool.and_eq_true, decide_eq_true_eq] at h
  exact h.2 hd

/-- Behind a lexeme that ends by itself can stand whatever breaks off. -/
theorem Lexeme.Leads.of_breaksOff (h : l.Leads rest) (closed : l.Closed)
    (breaks : ∀ c ∈ other.head?, Lexeme.breaksOff c = true) : l.Leads other := by
  cases h with
  | @quoted c close inner _ opens _ =>
    refine .quoted opens fun next => ne_of_breaksOff (breaks close next) ?_ rfl
    rcases closingOf?_eq_some opens with rfl | rfl | rfl | rfl <;> simp
  | @openQuoted c close inner opens =>
    obtain ⟨d, close', inner', opens', text⟩ := closed
    rw [List.cons.injEq] at text
    obtain ⟨rfl, text⟩ := text
    rw [opens, Option.some.injEq] at opens'
    subst opens'
    exact absurd text double_ne_double_append
  | lineComment one_line => exact .lineComment one_line
  | @openLineComment inner one_line =>
    obtain ⟨inner', text⟩ := closed
    simp only [List.cons.injEq, true_and] at text
    exact absurd (by simp [text]) one_line
  | blockComment first => exact .blockComment first
  | @openBlockComment inner no_end =>
    obtain ⟨inner', text⟩ := closed
    simp only [List.cons.injEq, true_and] at text
    exact absurd (text ▸ (List.suffix_append inner' ['*', '/']).isInfix) no_end
  | word all _ => exact .word all fun x hx => not_wordChar_of_breaksOff (breaks x hx)
  | single no_quote no_word _ _ =>
    refine .single no_quote no_word ?_ ?_ <;> rw [pair_prefix_cons_iff] <;> rintro ⟨-, next⟩
    · exact ne_of_breaksOff (breaks _ next) (by simp) rfl
    · exact ne_of_breaksOff (breaks _ next) (by simp) rfl

theorem singleKind_ne {c : Char} {kind : LexemeKind}
    (long : kind = .quoted ∨ kind = .lineComment ∨ kind = .blockComment ∨ kind = .word) : singleKind c ≠ kind := by
  unfold singleKind
  repeat' split
  all_goals rcases long with rfl | rfl | rfl | rfl <;> decide

/-- Behind a word can stand what does not start with a character of a word. -/
theorem Lexeme.Leads.of_word (h : l.Leads rest) (word : l.kind = .word)
    (ends : ∀ c ∈ other.head?, isWordChar c = false) : l.Leads other := by
  cases h with
  | word all _ => exact .word all ends
  | single => exact absurd word (singleKind_ne (by simp))
  | quoted | openQuoted | lineComment | openLineComment | blockComment | openBlockComment => cases word

/-- No character of a word stands behind one. -/
theorem Lexeme.Leads.not_isWordChar (h : l.Leads rest) (word : l.kind = .word) :
    ∀ x ∈ rest.head?, isWordChar x = false := by
  cases h with
  | word _ maximal => exact maximal
  | single => exact absurd word (singleKind_ne (by simp))
  | quoted | openQuoted | lineComment | openLineComment | blockComment | openBlockComment => cases word

/-- Behind a blank or an opening parenthesis can stand anything. -/
theorem Lexeme.Leads.of_free (h : l.Leads rest) (free : l.kind = .blank ∨ l.kind = .opening) : l.Leads other := by
  cases h with
  | @single c _ no_quote no_word _ _ =>
    refine .single no_quote no_word ?_ ?_ <;> rw [pair_prefix_cons_iff] <;> rintro ⟨rfl, -⟩ <;>
      exact absurd free (by decide)
  | quoted | openQuoted | lineComment | openLineComment | blockComment | openBlockComment | word => simp at free

/-- What follows one word can follow another. -/
theorem Lexeme.Leads.of_word_leads {m : Lexeme} (h : l.Leads rest) (word : l.kind = .word) (m_leads : m.Leads other)
    (m_word : m.kind = .word) : m.Leads rest :=
  m_leads.of_word m_word (h.not_isWordChar word)

end Behind

/-! ### Putting together and cutting -/

section Seam

variable {cs ds : List Char} {ls ms : List Lexeme}

theorem Lexeme.Leads.text_ne_nil {l : Lexeme} (h : l.Leads cs) : l.text ≠ [] := by
  cases h <;> simp

theorem IsSplit.textOf_eq (h : IsSplit cs ls) : textOf ls = cs := by
  rw [← isSplit_iff.mp h]
  exact flatMap_text_lexemes cs

private theorem IsSplit.head?_append (h : IsSplit cs ls) (some_lexeme : ls ≠ []) : (cs ++ ds).head? = cs.head? := by
  cases h with
  | nil => exact absurd rfl some_lexeme
  | cons first _ =>
    obtain ⟨c, more, text⟩ := List.exists_cons_of_ne_nil first.text_ne_nil
    rw [text]
    rfl

/-- Two splits put together are a split where the last lexeme of the first does not go on into the second. -/
theorem IsSplit.append (h : IsSplit cs ls) (later : IsSplit ds ms) (seam : ∀ l ∈ ls.getLast?, l.Leads ds) :
    IsSplit (cs ++ ds) (ls ++ ms) := by
  induction h with
  | nil => exact later
  | @cons l rest ls first others ih =>
    rw [List.append_assoc, List.cons_append]
    by_cases last : ls = []
    · subst last
      cases others
      exact .cons (seam l (by simp)) later
    · refine .cons (first.of_head?_eq (others.head?_append last)) (ih ?_)
      intro x hx
      refine seam x ?_
      rwa [List.getLast?_cons_of_ne_nil last]

/-- A query can be cut behind any of its lexemes. -/
theorem IsSplit.of_append (h : IsSplit cs (ls ++ ms)) : IsSplit (textOf ls) ls ∧ IsSplit (textOf ms) ms := by
  induction ls generalizing cs with
  | nil =>
    rw [List.nil_append] at h
    exact ⟨.nil, h.textOf_eq ▸ h⟩
  | cons l ls ih =>
    rw [List.cons_append] at h
    cases h with
    | @cons _ rest _ first others =>
      obtain ⟨front, back⟩ := ih others
      refine ⟨.cons ?_ front, back⟩
      show l.Leads (textOf ls)
      by_cases last : ls = []
      · subst last
        exact first.alone
      · -- what stands behind the lexeme still starts with the same character
        refine first.of_head?_eq ?_
        rw [← others.textOf_eq, textOf_append, front.head?_append last]

theorem IsSplit.of_cons {l : Lexeme} (h : IsSplit cs (l :: ms)) : l.Leads (textOf ms) ∧ IsSplit (textOf ms) ms := by
  cases h with
  | cons first later =>
    rw [later.textOf_eq]
    exact ⟨first, later⟩

/-- Each lexeme of a query leads what stands behind it. -/
theorem IsSplit.leads {l : Lexeme} (h : IsSplit cs (ls ++ l :: ms)) : l.Leads (textOf ms) := h.of_append.2.of_cons.1

theorem lexemes_append (seam : ∀ l ∈ (lexemes cs).getLast?, l.Leads ds) :
    lexemes (cs ++ ds) = lexemes cs ++ lexemes ds :=
  isSplit_iff.mp ((isSplit_iff.mpr rfl).append (isSplit_iff.mpr rfl) seam)

theorem lexemes_textOf_of_append (h : lexemes cs = ls ++ ms) : lexemes (textOf ls) = ls ∧ lexemes (textOf ms) = ms := by
  obtain ⟨front, back⟩ := (isSplit_iff.mpr h).of_append
  exact ⟨isSplit_iff.mp front, isSplit_iff.mp back⟩

/-- The last lexeme of a query has nothing behind it. -/
theorem leads_nil_of_getLast? {l : Lexeme} (last : l ∈ (lexemes cs).getLast?) : l.Leads [] := by
  obtain ⟨front, split⟩ := List.getLast?_eq_some_iff.mp last
  exact (isSplit_iff.mpr split).leads

/-- What breaks off starts a split of its own behind a lexeme that ends by itself. -/
theorem lexemes_append_of_breaksOff (closed : ∀ l ∈ (lexemes cs).getLast?, l.Closed)
    (breaks : ∀ c ∈ ds.head?, Lexeme.breaksOff c = true) : lexemes (cs ++ ds) = lexemes cs ++ lexemes ds :=
  lexemes_append fun l last => (leads_nil_of_getLast? last).of_breaksOff (closed l last) breaks

theorem lexemes_append_of_free (free : ∀ l ∈ (lexemes cs).getLast?, l.kind = .blank ∨ l.kind = .opening) :
    lexemes (cs ++ ds) = lexemes cs ++ lexemes ds :=
  lexemes_append fun l last => (leads_nil_of_getLast? last).of_free (free l last)

/-- A word is one lexeme if the next character does not go on with it. -/
theorem lexemes_word_append (word : cs ≠ []) (all : ∀ x ∈ cs, isWordChar x = true)
    (ends : ∀ x ∈ ds.head?, isWordChar x = false) : lexemes (cs ++ ds) = ⟨.word, cs⟩ :: lexemes ds := by
  obtain ⟨c, more, rfl⟩ := List.exists_cons_of_ne_nil word
  exact isSplit_iff.mp (.cons (.word all ends) (isSplit_iff.mpr rfl))

end Seam

end SqlSchema.Query
