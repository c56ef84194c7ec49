import SqlSchema.Proofs.Query.ByteScan

/-!
# Quoted runs among the bytes

Whatever a text is, the loop that skips a quoted run stays in step with its doubled delimiters, so a text between
delimiters is skipped as a whole unless one more closing delimiter stands behind it (`skipQuoted_delimited_iff`). The
quoted names of every style are such texts.
-/

namespace SqlSchema

namespace Query

/-! ### Texts between delimiters -/

/-- A closing delimiter ends a run, or it is doubled. -/
theorem quotedTail_closing_cases (close : Char) (rest : List Char) :
    rest.head? ≠ some close ∧ (quotedTail close (close :: rest)).1 = [close] ∨
      rest.head? = some close ∧ ∃ more, (quotedTail close (close :: rest)).1 = close :: close :: more := by
  by_cases doubled : rest.head? = some close
  · obtain ⟨behind, rfl⟩ := List.head?_eq_some_iff.mp doubled
    rw [quotedTail_doubled]
    exact .inr ⟨doubled, _, rfl⟩
  · rw [quotedTail_single doubled]
    exact .inl ⟨doubled, rfl⟩

section Delimited

variable {c close : Char} (opens : closingOf? c = some close) (cs rest : List Char)

include opens

/-- The loop stops right behind a text between delimiters exactly if the last of them is not doubled. -/
theorem skipQuoted_delimited_iff (front : List Char) :
    skipQuoted (Text.bytes (front ++ (Text.delimited c close cs ++ rest))) (Text.byteSize front) close =
      Text.byteSize front + Text.byteSize (Text.delimited c close cs) ↔ rest.head? ≠ some close := by
  have first_size : c.utf8Size = 1 := Text.utf8Size_of_ascii (toNat_lt_of_closingOf? opens).1
  have last_size : close.utf8Size = 1 := Text.utf8Size_of_ascii (toNat_lt_of_closingOf? opens).2
  rw [Text.delimited_append, skipQuoted_append opens, quotedTail_double_append, Text.delimited, Text.byteSize_append,
    Text.byteSize_cons, Text.byteSize_append, Text.byteSize_cons, Text.byteSize_nil, first_size, last_size]
  -- both sides say that the run ends with the one closing delimiter
  obtain ⟨single, run⟩ | ⟨doubled, more, run⟩ := quotedTail_closing_cases close rest
  · simp [run, single, last_size]
  · have longer : 1 < Text.byteSize (close :: close :: more) := by
      rw [Text.byteSize_cons, Text.byteSize_cons, last_size]
      omega
    simp only [run, doubled, ne_eq, not_true_eq_false, iff_false]
    omega

example : skipQuoted ['[', 'a', ']', ']', ']', 'b'] 0 ']' = 5 := by cbv

/-- It is one lexeme of a query under the same condition. -/
theorem lexemes_delimited_iff :
    lexemes (Text.delimited c close cs ++ rest) = ⟨.quoted, Text.delimited c close cs⟩ :: lexemes rest ↔
      rest.head? ≠ some close := by
  constructor
  · intro split
    have first : lexemeAt c (Text.double close cs ++ close :: rest) =
        (.quoted, quotedTail close (Text.double close cs ++ close :: rest)) := by
      simp [lexemeAt, opens]
    rw [Text.delimited_append, Text.delimited, lexemes, first, quotedTail_double_append] at split
    simp only [List.cons.injEq, Lexeme.mk.injEq, true_and, List.append_cancel_left_eq] at split
    obtain ⟨single, -⟩ | ⟨-, more, run⟩ := quotedTail_closing_cases close rest
    · exact single
    · rw [run] at split
      simp at split
  · intro single
    exact isSplit_iff.mp (.cons (.quoted opens single) (isSplit_iff.mpr rfl))

end Delimited

end Query

/-! ### Quoted names -/

namespace QuoteStyle

theorem closingOf?_opening (style : QuoteStyle) : Query.closingOf? style.opening = some style.closing := by
  cases style <;> decide

/-- A quoted name is skipped as a whole, wherever it stands in a text, exactly if the character behind it does not
double its last delimiter: the loop over the bytes stops right behind it, and the name is one lexeme. And no two names
are quoted alike. -/
theorem quoted_names_skipped_whole (style : QuoteStyle) :
    (∀ front name rest : String,
      (Query.skipQuoted (Text.byteChars (front ++ style.quote name ++ rest)) (Text.size front) style.closing =
          Text.size front + Text.size (style.quote name) ↔ rest.toList.head? ≠ some style.closing) ∧
        (Query.lexemes (style.quote name ++ rest).toList =
          ⟨.quoted, (style.quote name).toList⟩ :: Query.lexemes rest.toList ↔
            rest.toList.head? ≠ some style.closing)) ∧
      Function.Injective style.quote := by
  refine ⟨fun front name rest => ⟨?_, ?_⟩, style.quote_injective⟩
  · have bytes : Text.byteChars (front ++ style.quote name ++ rest) =
        Text.bytes (front.toList ++ (Text.delimited style.opening style.closing name.toList ++ rest.toList)) := by
      rw [← Text.byteChars_ofList, ← toList_quote, ← String.toList_append, ← String.toList_append,
        ← String.append_assoc, String.ofList_toList]
    rw [bytes, Text.size, Text.size, toList_quote]
    exact Query.skipQuoted_delimited_iff style.closingOf?_opening name.toList rest.toList front.toList
  · rw [String.toList_append, toList_quote]
    exact Query.lexemes_delimited_iff style.closingOf?_opening name.toList rest.toList

end QuoteStyle

end SqlSchema
