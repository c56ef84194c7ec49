import SqlSchema.Dialect.Server
import SqlSchema.Proofs.Query.Seams
import SqlSchema.Query.Page

/-!
# What stands behind the last token

A page is made from the query up to its last token. The outline of a query depends on its lexemes up to there alone
(`Outline.ofLexemes_append`), so paging a query that was cut there, or one behind which blanks, terminators and comments
were put, gives the same page (`paginate_eq_of_trailing_noise`).
-/

namespace SqlSchema.Query

/-! ### Lexemes up to the last token -/

section LastToken

variable {ls ms : List Lexeme}

private theorem untilLastToken_append_of_no_token (noise : ∀ l ∈ ms, l.isToken = false) :
    untilLastToken (ls ++ ms) = untilLastToken ls := by
  induction ms using List.reverseRecOn with
  | nil => rw [List.append_nil]
  | append_singleton ms l ih =>
    have last : l.isToken = false := noise l (by simp)
    rw [← List.append_assoc, untilLastToken, List.rdropWhile_concat_pos _ _ _ (by simp [last])]
    exact ih fun x hx => noise x (by simp [hx])

/-- Behind the last token there are no tokens. -/
theorem exists_trailing (ls : List Lexeme) :
    ∃ trailing, ls = untilLastToken ls ++ trailing ∧ ∀ l ∈ trailing, l.isToken = false := by
  induction ls using List.reverseRecOn with
  | nil => exact ⟨[], rfl, by simp⟩
  | append_singleton ls l ih =>
    by_cases token : l.isToken = true
    · refine ⟨[], ?_, by simp⟩
      rw [untilLastToken, List.rdropWhile_concat_neg _ _ _ (by simp [token]), List.append_nil]
    · have other : l.isToken = false := by simpa using token
      obtain ⟨trailing, split, noise⟩ := ih
      have same : untilLastToken (ls ++ [l]) = untilLastToken ls :=
        untilLastToken_append_of_no_token (by simpa using other)
      refine ⟨trailing ++ [l], ?_, ?_⟩
      · rw [same, ← List.append_assoc, ← split]
      · intro x hx
        rcases List.mem_append.mp hx with hx | hx
        · exact noise x hx
        · rwa [List.mem_singleton.mp hx]

theorem filter_untilLastToken (ls : List Lexeme) :
    (untilLastToken ls).filter Lexeme.isToken = ls.filter Lexeme.isToken := by
  obtain ⟨trailing, split, noise⟩ := exists_trailing ls
  have no_token : trailing.filter Lexeme.isToken = [] := by simpa using noise
  conv_rhs => rw [split]
  rw [List.filter_append, no_token, List.append_nil]

theorem isToken_of_getLast?_untilLastToken {l : Lexeme} (last : l ∈ (untilLastToken ls).getLast?) :
    l.isToken = true := by
  have some_lexeme : untilLastToken ls ≠ [] := by
    intro none_there
    rw [none_there] at last
    cases last
  rw [List.getLast?_eq_some_getLast some_lexeme, Option.mem_some_iff] at last
  have token : ¬(!((untilLastToken ls).getLast some_lexeme).isToken) = true :=
    List.rdropWhile_last_not (fun l : Lexeme => !l.isToken) ls some_lexeme
  rw [← last]
  simpa using token

end LastToken

namespace Scan

theorem position_foldl (ls : List Lexeme) : (ls.foldl step {}).position = extent ls := by
  induction ls using List.reverseRecOn with
  | nil => rfl
  | append_singleton ls l ih =>
    rw [List.foldl_append, extent_append, extent_singleton, ← ih]
    rfl

theorem stop_foldl (ls : List Lexeme) : (ls.foldl step {}).stop = tokenEnd ls := by
  induction ls using List.reverseRecOn with
  | nil => rfl
  | append_singleton ls l ih =>
    rw [List.foldl_append, List.foldl_cons, List.foldl_nil, stop_step]
    split
    · rename_i token
      rw [tokenEnd_append_token token, extent_append, extent_singleton, position_foldl]
    · rename_i other
      rw [tokenEnd_append_other (by simpa using other), ih]

/-- Lexemes that are no tokens change neither of the keywords that were found. -/
private theorem foldl_of_no_token {ms : List Lexeme} (noise : ∀ l ∈ ms, l.isToken = false) (s : Scan) :
    (ms.foldl step s).selectEnd = s.selectEnd ∧ (ms.foldl step s).order = s.order := by
  induction ms generalizing s with
  | nil => exact ⟨rfl, rfl⟩
  | cons l ms ih =>
    have other : l.isToken = false := noise l (by simp)
    have no_word : ∀ w, ¬l.IsWord w := by
      rintro w ⟨word, -⟩
      simp [Lexeme.isToken, word] at other
    obtain ⟨select, order⟩ := ih (fun x hx => noise x (by simp [hx])) (s.step l)
    rw [selectEnd_step] at select
    rw [order_step] at order
    simp only [no_word, and_false, if_false] at select order
    exact ⟨select, order⟩

end Scan

/-! ### Outlines of lexemes -/

namespace Outline

/-- The outline of a query with these lexemes. -/
def ofLexemes (ls : List Lexeme) : Outline :=
  let s := ls.foldl Scan.step {}
  { query := textOf (untilLastToken ls), selectEnd := s.selectEnd, order := s.order }

theorem ofChars_eq_ofLexemes (cs : List Char) : ofChars cs = ofLexemes (lexemes (Text.trimLeft cs)) := by
  have whole : textOf (lexemes (Text.trimLeft cs)) = Text.trimLeft cs := flatMap_text_lexemes _
  simp only [ofChars, ofLexemes, Scan.stop_foldl, ← takeBytes_tokenEnd, whole]

/-- The outline of lexemes is that of the lexemes up to the last token. -/
theorem ofLexemes_append {ls ms : List Lexeme} (noise : ∀ l ∈ ms, l.isToken = false) :
    ofLexemes (ls ++ ms) = ofLexemes ls := by
  obtain ⟨select, order⟩ := Scan.foldl_of_no_token noise (ls.foldl Scan.step {})
  simp only [ofLexemes, untilLastToken_append_of_no_token noise, List.foldl_append, select, order]

theorem query_ofChars (cs : List Char) :
    (ofChars cs).query = textOf (untilLastToken (lexemes (Text.trimLeft cs))) := by
  rw [ofChars_eq_ofLexemes]
  rfl

private theorem trimLeft_of_prefix {front cs : List Char} (h : front <+: Text.trimLeft cs) :
    Text.trimLeft front = front := by
  cases front with
  | nil => rfl
  | cons c front =>
    obtain ⟨back, split⟩ := h
    have first := List.head?_dropWhile_not Text.isBlank cs
    rw [show cs.dropWhile Text.isBlank = c :: (front ++ back) from split.symm] at first
    have visible : Text.isBlank c = false := first
    simp [Text.trimLeft, visible]

theorem trimLeft_query (cs : List Char) : Text.trimLeft (ofChars cs).query = (ofChars cs).query := by
  obtain ⟨trailing, split, -⟩ := exists_trailing (lexemes (Text.trimLeft cs))
  have whole : textOf (lexemes (Text.trimLeft cs)) = Text.trimLeft cs := flatMap_text_lexemes _
  have start : (ofChars cs).query <+: Text.trimLeft cs :=
    ⟨textOf trailing, by rw [query_ofChars, ← textOf_append, ← split, whole]⟩
  exact trimLeft_of_prefix start

/-- The query of an outline splits into the lexemes up to the last token. -/
theorem lexemes_query (cs : List Char) :
    lexemes (ofChars cs).query = untilLastToken (lexemes (Text.trimLeft cs)) := by
  obtain ⟨trailing, split, -⟩ := exists_trailing (lexemes (Text.trimLeft cs))
  rw [query_ofChars]
  exact (lexemes_textOf_of_append split).1

theorem ofChars_eq_ofLexemes_query (cs : List Char) : ofChars cs = ofLexemes (lexemes (ofChars cs).query) := by
  obtain ⟨trailing, split, noise⟩ := exists_trailing (lexemes (Text.trimLeft cs))
  rw [lexemes_query, ← ofLexemes_append noise, ← split, ← ofChars_eq_ofLexemes]

theorem ofChars_query (cs : List Char) : ofChars (ofChars cs).query = ofChars cs := by
  rw [ofChars_eq_ofLexemes, trimLeft_query, ← ofChars_eq_ofLexemes_query]

end Outline

/-! ### Noise behind a query -/

/-- Blanks, terminators and comments, not starting with a comment. -/
structure IsNoise (cs : List Char) : Prop where
  starts : ∀ c ∈ cs.head?, isSpace c = true ∨ c = ';'
  no_token : ∀ l ∈ lexemes cs, l.isToken = false

section Noise

variable {cs ds : List Char}

private theorem breaksOff_of_starts {c : Char} (h : isSpace c = true ∨ c = ';') : Lexeme.breaksOff c = true := by
  simp only [isSpace, Bool.or_eq_true, beq_iff_eq] at h
  rcases h with ((((rfl | rfl) | rfl) | rfl) | rfl) | rfl <;> decide

theorem isBlank_of_isWordChar {c : Char} : isWordChar c = true → Text.isBlank c = false :=
  Text.forall_of_ascii (p := fun c => isWordChar c = true → Text.isBlank c = false) (by decide)
    (fun c wide word => by simp [isWordChar_of_wide wide] at word) c

/-- A blank is a lexeme, though not always one that counts as blank. -/
theorem lexemes_cons_of_isBlank {c : Char} (h : Text.isBlank c = true) :
    lexemes (c :: cs) = ⟨singleKind c, [c]⟩ :: lexemes cs := by
  have not_start : ∀ d, Text.isBlank d = false → c ≠ d := by
    rintro d visible rfl
    rw [h] at visible
    cases visible
  have no_word : isWordChar c = false := by
    by_contra word
    rw [Bool.not_eq_false] at word
    exact not_start c (isBlank_of_isWordChar word) rfl
  have no_quote : closingOf? c = none := by
    simp [closingOf?, not_start '\'' (by decide), not_start '"' (by decide), not_start '\x60' (by decide),
      not_start '[' (by decide)]
  refine isSplit_iff.mp (.cons (.single no_quote no_word ?_ ?_) (isSplit_iff.mpr rfl))
  · rintro ⟨_, start⟩
    exact not_start '-' (by decide) (by simpa using congrArg List.head? start.symm)
  · rintro ⟨_, start⟩
    exact not_start '/' (by decide) (by simpa using congrArg List.head? start.symm)

private theorem no_token_trimLeft (noise : ∀ l ∈ lexemes cs, l.isToken = false) :
    ∀ l ∈ lexemes (Text.trimLeft cs), l.isToken = false := by
  induction cs with
  | nil => exact noise
  | cons c cs ih =>
    by_cases blank : Text.isBlank c = true
    · rw [lexemes_cons_of_isBlank blank, List.forall_mem_cons] at noise
      have dropped : Text.trimLeft (c :: cs) = Text.trimLeft cs := by simp [Text.trimLeft, blank]
      rw [dropped]
      exact ih noise.2
    · have kept : Text.trimLeft (c :: cs) = c :: cs := by simp [Text.trimLeft, blank]
      rwa [kept]

theorem Outline.ofChars_append_noise (closed : ∀ l ∈ lexemes (Text.trimLeft cs), l.Closed) (noise : IsNoise ds) :
    ofChars (cs ++ ds) = ofChars cs := by
  by_cases all_blank : Text.trimLeft cs = []
  · have trimmed : Text.trimLeft (cs ++ ds) = Text.trimLeft ds :=
      Text.trimLeft_append_of_all_blank (List.dropWhile_eq_nil_iff.mp all_blank)
    have none_left : lexemes ([] : List Char) = [] := isSplit_iff.mp .nil
    rw [ofChars_eq_ofLexemes, ofChars_eq_ofLexemes cs, trimmed, all_blank, none_left, ← List.nil_append (lexemes _),
      ofLexemes_append (no_token_trimLeft noise.no_token)]
  · have trimmed : Text.trimLeft (cs ++ ds) = Text.trimLeft cs ++ ds := by
      unfold Text.trimLeft at all_blank ⊢
      rw [List.dropWhile_append, if_neg (by simpa using all_blank)]
    have split : lexemes (Text.trimLeft cs ++ ds) = lexemes (Text.trimLeft cs) ++ lexemes ds := by
      refine lexemes_append_of_breaksOff ?_ ?_
      · intro l last
        exact closed l (List.mem_of_getLast? last)
      · intro c first
        exact breaksOff_of_starts (noise.starts c first)
    rw [ofChars_eq_ofLexemes, ofChars_eq_ofLexemes, trimmed, split, ofLexemes_append noise.no_token]

end Noise

/-- Paging goes by the outline of a query alone. -/
theorem paginate_congr (d : Dialect) (page size : Int) {sql other : String}
    (same : Outline.ofChars sql.toList = Outline.ofChars other.toList) :
    paginate d page size sql = paginate d page size other := by
  unfold paginate
  rw [same]

/-- What stands behind the last token of a query is on none of its pages, whether the query is cut there or noise is put
behind it. -/
theorem paginate_eq_of_trailing_noise (d : Dialect) (page size : Int) :
    (∀ sql : String,
      paginate d page size sql = paginate d page size (String.ofList (Outline.ofChars sql.toList).query)) ∧
      ∀ sql noise : String, (∀ l ∈ lexemes (Text.trimLeft sql.toList), l.Closed) → IsNoise noise.toList →
        paginate d page size (sql ++ noise) = paginate d page size sql := by
  constructor
  · intro sql
    refine paginate_congr d page size ?_
    rw [String.toList_ofList, Outline.ofChars_query]
  · intro sql noise closed is_noise
    refine paginate_congr d page size ?_
    rw [String.toList_append, Outline.ofChars_append_noise closed is_noise]

/-- A query whose runs and comments all end by themselves. -/
def annotatedNames : String := "/*a*/select--b\n'c'"

theorem paginate_annotatedNames :
    (∀ l ∈ lexemes (Text.trimLeft annotatedNames.toList), l.Closed) ∧ IsNoise " ;--d".toList ∧
      paginate .informix 2 10 (annotatedNames ++ " ;--d") = .ok "/*a*/select SKIP 10 FIRST 10--b\n'c'" := by
  have split : lexemes (Text.trimLeft annotatedNames.toList) =
      [⟨.blockComment, "/*a*/".toList⟩, ⟨.word, "select".toList⟩, ⟨.lineComment, "--b\n".toList⟩,
        ⟨.quoted, "'c'".toList⟩] := by decide +kernel
  have closed : ∀ l ∈ lexemes (Text.trimLeft annotatedNames.toList), l.Closed := by
    simp only [split, List.forall_mem_cons, List.not_mem_nil, false_implies, implies_true, and_true]
    exact ⟨⟨['a'], by decide⟩, trivial, ⟨['b'], by decide⟩, '\'', '\'', ['c'], by decide, by decide⟩
  have noise : IsNoise " ;--d".toList := ⟨by simp [isSpace], by decide +kernel⟩
  refine ⟨closed, noise, ?_⟩
  rw [(paginate_eq_of_trailing_noise .informix 2 10).2 _ _ closed noise]
  decide +kernel

end SqlSchema.Query
