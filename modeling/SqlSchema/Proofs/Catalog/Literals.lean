import Mathlib.Algebra.Group.Int.Defs
import Mathlib.Data.List.Basic
import SqlSchema.Catalog.Default
import SqlSchema.Dialect.Registry
import SqlSchema.Dialect.Spelling

/-!
# Defaults that a catalog keeps

A text, a 64-bit number or a truth value that a known dialect writes as a default is read back from the catalog as a
default that the dialect writes the same (`ofCatalog?_defaultLiteral`). For a truth value that need not be a truth value
again, as some dialects write one as a number or a letter.
-/

namespace SqlSchema.Default

open Text

/-- The defaults that are literals of a text, a 64-bit number or a truth value. -/
inductive IsLiteral : Default → Prop where
  | text (s : String) : IsLiteral (.text s)
  | integer {n : Int} (lower : -(2 ^ 63) ≤ n) (upper : n < 2 ^ 63) : IsLiteral (.integer n)
  | boolean (b : Bool) : IsLiteral (.boolean b)

instance : DecidablePred IsLiteral
  | .text s => isTrue (.text s)
  | .boolean b => isTrue (.boolean b)
  | .integer n =>
    if bounds : -(2 ^ 63) ≤ n ∧ n < 2 ^ 63 then isTrue (.integer bounds.1 bounds.2)
    else isFalse fun (.integer lower upper) => bounds ⟨lower, upper⟩
  | .null => isFalse nofun
  | .float _ => isFalse nofun
  | .expression _ => isFalse nofun

/-! ### Bare expressions -/

theorem sameName_cons_eq_false {c e : Char} {cs es : List Char} (h : c.toLower ≠ e.toLower) :
    sameName (String.ofList (c :: cs)) (String.ofList (e :: es)) = false := by
  rw [← Bool.not_eq_true, sameName_iff]
  intro same
  have chars := congrArg String.toList same
  rw [toList_lower, toList_lower, String.toList_ofList, String.toList_ofList, List.map_cons, List.map_cons] at chars
  exact h (List.cons.inj chars).1

theorem trimChars_concat {c e : Char} {cs : List Char} (first : isBlank c = false)
    (last : isBlank e = false) : trimChars (c :: cs ++ [e]) = c :: cs ++ [e] := by
  have left : trimLeft (c :: cs ++ [e]) = c :: cs ++ [e] := trimLeft_cons_of_visible first
  rw [trimChars, left, trimRight_concat_of_visible last]

theorem core_of_trimmed {cs : List Char} (trimmed : trimChars cs = cs) (bare : enclosed? cs = none) :
    core cs = cs := by
  unfold core
  split
  · exact trimmed
  · rename_i inner enclosed
    rw [trimmed, bare] at enclosed
    cases enclosed

private theorem fromSequence_cons {c : Char} {cs : List Char} (first : isBlank c = false) (other : 'n' ≠ c.toLower) :
    fromSequence (String.ofList (c :: cs)) = false := by
  have shown : trimLeft (c :: cs) = c :: cs := by
    rw [trimLeft, List.dropWhile_cons_of_neg (by simp [first])]
  have start : (lower "nextval(").toList = 'n' :: "extval(".toList := by decide
  unfold fromSequence startsWithName
  simp only [start, toList_lower, String.toList_ofList, shown, List.map_cons]
  rw [List.isPrefixOf_cons_cons, beq_eq_false_iff_ne.mpr other, Bool.false_and]

/-! ### Texts -/

/-- A text is read up to the delimiter that ends it, which is the first that is not doubled. -/
theorem literalBody?_double (cs : List Char) {rest : List Char} (ended : rest.head? ≠ some '\'') :
    literalBody? (double '\'' cs ++ '\'' :: rest) = some (cs, rest) := by
  induction cs with
  | nil =>
    rw [double_nil, List.nil_append, literalBody?]
    rintro next rfl
    exact ended rfl
  | cons c cs ih =>
    rw [double_cons]
    by_cases quote : c = '\''
    · subst quote
      rw [if_pos rfl]
      show (literalBody? (double '\'' cs ++ '\'' :: rest)).map _ = _
      rw [ih]
      rfl
    · rw [if_neg quote, List.singleton_append, List.cons_append, literalBody?, ih]
      · rfl
      · exact fun _ same _ => quote same
      · exact fun same => quote same

/-- A cast behind a literal does not change its value. -/
theorem literalText?_delimited (s : String) {cast : List Char} (typed : cast = [] ∨ [':', ':'] <+: cast) :
    literalText? (delimited '\'' '\'' s.toList ++ cast) = some s := by
  have ended : cast.head? ≠ some '\'' := by
    rcases typed with rfl | ⟨type, rfl⟩ <;> simp
  have value : literalBody? (double '\'' s.toList ++ '\'' :: cast) = some (s.toList, cast) :=
    literalBody?_double s.toList ended
  have shown : ((trimChars cast).isEmpty || [':', ':'].isPrefixOf (trimChars cast)) = true := by
    rcases typed with rfl | ⟨type, rfl⟩
    · rfl
    · have colons : trimChars ([':', ':'] ++ type) = ':' :: ':' :: trimRight type := by
        have colon : isBlank ':' = false := by decide
        show trimRight ([':'] ++ ':' :: type) = _
        exact trimRight_append_cons_of_visible colon
      rw [colons]
      simp
  rw [delimited_append, literalText?, value]
  simp only [shown, if_true, String.ofList_toList]

theorem ofCore?_delimited (s : String) {cast : List Char} (typed : cast = [] ∨ [':', ':'] <+: cast) :
    ofCore? (delimited '\'' '\'' s.toList ++ cast) = some (.text s) := by
  have no_null : sameName (String.ofList (delimited '\'' '\'' s.toList ++ cast)) "NULL" = false :=
    sameName_cons_eq_false (by decide)
  have some_character : (delimited '\'' '\'' s.toList ++ cast).isEmpty = false := rfl
  simp only [ofCore?, some_character, no_null, literalText?_delimited s typed, Bool.or_self, Bool.false_eq_true,
    if_false]

private theorem ofCatalog?_literal (s : String) : ofCatalog? (literal s) = some (.text s) := by
  have trimmed : trimChars (delimited '\'' '\'' s.toList) = delimited '\'' '\'' s.toList :=
    trimChars_concat (by decide) (by decide)
  unfold ofCatalog?
  rw [toList_literal, core_of_trimmed trimmed rfl]
  simpa using ofCore?_delimited s (.inl rfl)

/-! ### Numbers -/

private theorem exists_digit_cons (n : Nat) : ∃ c cs, Nat.toDigits 10 n = c :: cs ∧ c.isDigit = true := by
  obtain ⟨c, cs, digits⟩ := List.exists_cons_of_ne_nil (Nat.toDigits_ne_nil (n := n) (b := 10))
  exact ⟨c, cs, digits, isDigit_of_mem_toDigits (n := n) (by rw [digits]; exact List.mem_cons_self)⟩

/-- The characters with which a number may start. -/
def StartsNumber (c : Char) : Prop := c.isDigit = true ∨ c = '-' ∨ c = '+'

private theorem ne_of_startsNumber {c e : Char} (start : StartsNumber c) (no_digit : e.isDigit = false)
    (no_sign : '-' ≠ e ∧ '+' ≠ e) : c.toLower ≠ e := by
  rcases start with digit | rfl | rfl
  · rw [Text.toLower_of_isDigit digit]
    rintro rfl
    rw [digit] at no_digit
    cases no_digit
  · exact no_sign.1
  · exact no_sign.2

private theorem not_startsNumber {e : Char} (no_digit : e.isDigit = false) (no_sign : '-' ≠ e ∧ '+' ≠ e) :
    ¬StartsNumber e := by
  rintro (digit | rfl | rfl)
  · rw [digit] at no_digit
    cases no_digit
  · exact no_sign.1 rfl
  · exact no_sign.2 rfl

private theorem no_word_of_startsNumber {c : Char} {cs : List Char} (start : StartsNumber c) :
    sameName (String.ofList (c :: cs)) "NULL" = false ∧ literalText? (c :: cs) = none ∧
      sameName (String.ofList (c :: cs)) "TRUE" = false ∧ sameName (String.ofList (c :: cs)) "FALSE" = false := by
  refine ⟨sameName_cons_eq_false (ne_of_startsNumber start (by decide) (by decide)), ?_,
    sameName_cons_eq_false (ne_of_startsNumber start (by decide) (by decide)),
    sameName_cons_eq_false (ne_of_startsNumber start (by decide) (by decide))⟩
  unfold literalText?
  split
  · rename_i first
    obtain ⟨rfl, -⟩ := List.cons.inj first
    exact absurd start (not_startsNumber (by decide) (by decide))
  · rfl

/-- An expression that starts like a number and reads as a 64-bit one. -/
theorem ofCore?_of_readInteger? {c : Char} {cs : List Char} {n : Int} (start : StartsNumber c)
    (read : readInteger? (c :: cs) = some n) : ofCore? (c :: cs) = some (.integer n) := by
  obtain ⟨no_null, no_text, no_true, no_false⟩ := @no_word_of_startsNumber c cs start
  simp only [ofCore?, List.isEmpty_cons, no_null, no_text, no_true, no_false, read, Bool.or_self, Bool.false_eq_true,
    if_false]

/-- An expression that starts like a number and reads as a double precision one only. -/
theorem ofCore?_of_read? {c : Char} {cs : List Char} {x : Binary64} (start : StartsNumber c)
    (long : readInteger? (c :: cs) = none) (numeric : (c :: cs).all isNumeric = true)
    (read : Binary64.read? (String.ofList (c :: cs)) = some x) : ofCore? (c :: cs) = some (.float x) := by
  obtain ⟨no_null, no_text, no_true, no_false⟩ := @no_word_of_startsNumber c cs start
  simp only [ofCore?, List.isEmpty_cons, no_null, no_text, no_true, no_false, long, numeric, read, Bool.or_self,
    Bool.false_eq_true, if_false]

private theorem isBlank_of_startsNumber {c : Char} (start : StartsNumber c) : isBlank c = false := by
  rcases start with digit | rfl | rfl
  · exact isBlank_of_isDigit digit
  · decide
  · decide

theorem enclosed?_of_startsNumber {c : Char} {cs : List Char} (start : StartsNumber c) :
    enclosed? (c :: cs) = none := by
  unfold enclosed?
  split
  · rename_i first
    obtain ⟨rfl, -⟩ := List.cons.inj first
    exact absurd start (not_startsNumber (by decide) (by decide))
  · rfl

/-- A number is neither blank nor in parentheses. -/
theorem core_of_number {c : Char} {cs : List Char} (start : StartsNumber c)
    (digits : ∀ e ∈ cs, e.isDigit = true) : core (c :: cs) = c :: cs := by
  refine core_of_trimmed ?_ (enclosed?_of_startsNumber start)
  rcases cs.eq_nil_or_concat' with rfl | ⟨cs, e, rfl⟩
  · simp [trimChars, trimLeft, trimRight, isBlank_of_startsNumber start]
  · exact trimChars_concat (isBlank_of_startsNumber start) (isBlank_of_startsNumber (.inl (digits e (by simp))))

private theorem readInteger?_toDigits {n : Nat} (upper : (n : Int) < 2 ^ 63) :
    readInteger? (Nat.toDigits 10 n) = some (n : Int) := by
  obtain ⟨c, cs, digits, digit⟩ := exists_digit_cons n
  have value := digitsValue?_toDigits n
  rw [digits] at value ⊢
  have lower : -(2 ^ 63) ≤ (n : Int) := by omega
  unfold readInteger?
  split
  · rename_i first
    obtain ⟨rfl, -⟩ := List.cons.inj first
    cases digit
  · rename_i first
    obtain ⟨rfl, -⟩ := List.cons.inj first
    cases digit
  · rw [value, Option.map_some, Option.bind_some]
    exact if_pos ⟨lower, upper⟩

private theorem readInteger?_neg_toDigits {n : Nat} (lower : -(2 ^ 63) ≤ -(n : Int)) :
    readInteger? ('-' :: Nat.toDigits 10 n) = some (-(n : Int)) := by
  have upper : -(n : Int) < 2 ^ 63 := by omega
  unfold readInteger?
  show ((digitsValue? (Nat.toDigits 10 n)).map fun n => -Int.ofNat n).bind _ = _
  rw [digitsValue?_toDigits, Option.map_some, Option.bind_some]
  exact if_pos ⟨lower, upper⟩

theorem exists_number (n : Int) : ∃ c cs, (toString n).toList = c :: cs ∧ StartsNumber c ∧
    (∀ e ∈ cs, e.isDigit = true) ∧ (-(2 ^ 63) ≤ n → n < 2 ^ 63 → readInteger? (c :: cs) = some n) := by
  have all_digits : ∀ m : Nat, ∀ e ∈ Nat.toDigits 10 m, e.isDigit = true := fun _ _ =>
    isDigit_of_mem_toDigits
  rw [Int.toString_eq_repr, Int.repr_eq_if]
  by_cases sign : 0 ≤ n
  · obtain ⟨m, rfl⟩ := Int.eq_ofNat_of_zero_le sign
    obtain ⟨c, cs, digits, digit⟩ := exists_digit_cons m
    have each := all_digits m
    rw [digits] at each
    refine ⟨c, cs, by simp [digits], .inl digit, fun e he => each e (by simp [he]), fun _ upper => ?_⟩
    rw [← digits]
    exact readInteger?_toDigits upper
  · obtain ⟨m, rfl⟩ : ∃ m : Nat, n = -(m : Int) := ⟨n.natAbs, by omega⟩
    refine ⟨'-', Nat.toDigits 10 m, ?_, .inr (.inl rfl), all_digits m, fun lower _ => readInteger?_neg_toDigits lower⟩
    rw [if_neg sign]
    simp

theorem ofCatalog?_toString {n : Int} (lower : -(2 ^ 63) ≤ n) (upper : n < 2 ^ 63) :
    fromSequence (toString n) = false ∧ ofCatalog? (toString n) = some (.integer n) := by
  obtain ⟨c, cs, chars, start, digits, read⟩ := exists_number n
  constructor
  · rw [← String.ofList_toList (s := toString n), chars]
    exact fromSequence_cons (isBlank_of_startsNumber start)
      (Ne.symm (ne_of_startsNumber start (by decide) (by decide)))
  · unfold ofCatalog?
    rw [chars, core_of_number start digits]
    exact ofCore?_of_readInteger? start (read lower upper)

/-! ### All literals -/

theorem ofCatalog?_defaultLiteral {d : Dialect} (known : d ∈ Dialect.all) {v : Default} (literal : v.IsLiteral) :
    fromSequence (d.defaultLiteral v) = false ∧
      (ofCatalog? (d.defaultLiteral v)).map d.defaultLiteral = some (d.defaultLiteral v) := by
  cases literal with
  | text s =>
    have shown : d.defaultLiteral (.text s) = Text.literal s := rfl
    rw [shown, ofCatalog?_literal]
    exact ⟨fromSequence_cons (by decide) (by decide), rfl⟩
  | @integer n lower upper =>
    obtain ⟨no_sequence, read⟩ := ofCatalog?_toString lower upper
    have shown : d.defaultLiteral (.integer n) = toString n := rfl
    rw [shown, read]
    exact ⟨no_sequence, rfl⟩
  | boolean b =>
    have each : ∀ d ∈ Dialect.all, ∀ b : Bool, fromSequence (d.booleanLiteral b) = false ∧
        (ofCatalog? (d.booleanLiteral b)).map d.defaultLiteral = some (d.booleanLiteral b) := by
      decide +kernel
    exact each d known b

end SqlSchema.Default
