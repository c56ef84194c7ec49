import Mathlib.Data.Bool.AllAny
import Mathlib.Data.List.TakeWhile
import SqlSchema.Proofs.Catalog.Literals

/-!
# Literals in parentheses and with casts

Engines report a default in parentheses, several of them at times, with blanks between them, and behind a text its cast.
What a text between parentheses opens it closes, be it a parenthesis or a literal (`Closed`), so parentheses around it
are found to belong together and the default is read as if they were not there (`core_eq_of_wrapped`). A literal that
holds parentheses, quotes or words such as `NULL` is read as the text it denotes like any other (`literals_read_back`).
-/

namespace SqlSchema.Default

open Text

/-- `outer` is `inner` in parentheses, any number of them, with blanks around it at each level. -/
inductive Wrapped (inner : List Char) : List Char → Prop where
  | blanks {before after : List Char} (front : ∀ c ∈ before, isBlank c = true) (back : ∀ c ∈ after, isBlank c = true) :
      Wrapped inner (before ++ inner ++ after)
  | parentheses {outer before after : List Char} (within : Wrapped inner outer)
      (front : ∀ c ∈ before, isBlank c = true) (back : ∀ c ∈ after, isBlank c = true) :
      Wrapped inner (before ++ '(' :: (outer ++ [')']) ++ after)

/-- A character that neither delimits a literal nor is a parenthesis. -/
def IsPlain (c : Char) : Prop := c ≠ '\'' ∧ c ≠ '(' ∧ c ≠ ')'

instance : DecidablePred IsPlain := fun c => inferInstanceAs (Decidable (c ≠ '\'' ∧ c ≠ '(' ∧ c ≠ ')'))

/-- What may stand right behind a literal, between the same parentheses: nothing, or a cast to a type that is written
without quotes and parentheses. -/
inductive IsCast : List Char → Prop where
  | absent : IsCast []
  | typed {type : List Char} (plain : ∀ c ∈ type, IsPlain c) : IsCast (':' :: ':' :: type)

/-! ### Texts that close what they open -/

/-- After the text as many parentheses are open as before it, and no literal is. -/
def Closed (cs : List Char) : Prop := ∀ depth rest, balanced (cs ++ rest) depth false = balanced rest depth false

variable {cs ds inner outer : List Char}

private theorem balanced_of_plain {c : Char} (plain : IsPlain c) (cs : List Char) (depth : Nat) :
    balanced (c :: cs) depth false = balanced cs depth false := by
  obtain ⟨no_quote, no_opening, no_closing⟩ := plain
  simp [balanced.eq_def (c :: cs), no_quote, no_opening, no_closing]

private theorem balanced_inside {c : Char} (inside : c ≠ '\'') (cs : List Char) (depth : Nat) :
    balanced (c :: cs) depth true = balanced cs depth true := by
  simp [balanced.eq_def (c :: cs), inside]

theorem Closed.append (h : Closed cs) (k : Closed ds) : Closed (cs ++ ds) := fun depth rest => by
  rw [List.append_assoc, h, k]

theorem closed_of_plain (plain : ∀ c ∈ cs, IsPlain c) : Closed cs := by
  intro depth rest
  induction cs with
  | nil => rfl
  | cons c cs ih =>
    rw [List.cons_append, balanced_of_plain (plain c List.mem_cons_self)]
    exact ih fun d hd => plain d (List.mem_cons_of_mem c hd)

theorem Closed.parenthesized (h : Closed cs) : Closed ('(' :: (cs ++ [')'])) := by
  intro depth rest
  have opened : balanced ('(' :: (cs ++ [')']) ++ rest) depth false =
      balanced (cs ++ ')' :: rest) (depth + 1) false := by
    rw [List.cons_append, List.append_assoc]
    rfl
  rw [opened, h]
  rfl

/-- Inside a literal a doubled quote ends it and begins it again. -/
private theorem balanced_double (cs rest : List Char) (depth : Nat) :
    balanced (double '\'' cs ++ rest) depth true = balanced rest depth true := by
  induction cs with
  | nil => rfl
  | cons c cs ih =>
    rw [double_cons]
    by_cases quote : c = '\''
    · rw [if_pos quote]
      exact ih
    · rw [if_neg quote, List.singleton_append, List.cons_append, balanced_inside quote, ih]

theorem closed_delimited (cs : List Char) : Closed (delimited '\'' '\'' cs) := by
  intro depth rest
  have opened : balanced (delimited '\'' '\'' cs ++ rest) depth false =
      balanced (double '\'' cs ++ '\'' :: rest) depth true := by
    rw [delimited_append]
    rfl
  rw [opened, balanced_double]
  rfl

theorem closed_of_isCast (h : IsCast cs) : Closed cs := by
  cases h with
  | absent => exact closed_of_plain (by simp)
  | typed plain =>
    exact closed_of_plain (List.forall_mem_cons.mpr ⟨by decide, List.forall_mem_cons.mpr ⟨by decide, plain⟩⟩)

private theorem isPlain_of_isBlank {c : Char} (h : isBlank c = true) : IsPlain c := by
  refine ⟨?_, ?_, ?_⟩ <;>
    · rintro rfl
      revert h
      decide

theorem closed_of_wrapped (closed : Closed inner) (h : Wrapped inner outer) : Closed outer := by
  have blanks {ds : List Char} (all_blank : ∀ c ∈ ds, isBlank c = true) : Closed ds :=
    closed_of_plain fun c hc => isPlain_of_isBlank (all_blank c hc)
  induction h with
  | blanks front back => exact ((blanks front).append closed).append (blanks back)
  | parentheses within front back ih => exact ((blanks front).append ih.parenthesized).append (blanks back)

/-! ### What parentheses hold -/

private theorem trimChars_append_blanks {before after : List Char} (front : ∀ c ∈ before, isBlank c = true)
    (back : ∀ c ∈ after, isBlank c = true) (cs : List Char) : trimChars (before ++ cs ++ after) = trimChars cs := by
  have left : trimLeft (before ++ cs ++ after) = trimLeft (cs ++ after) := by
    rw [List.append_assoc, trimLeft_append_of_all_blank front]
  rw [trimChars, left, trimChars]
  by_cases blank : ∀ c ∈ cs, isBlank c = true
  · have nothing {ds : List Char} (h : ∀ c ∈ ds, isBlank c = true) : trimLeft ds = [] :=
      List.dropWhile_eq_nil_iff.mpr h
    rw [trimLeft_append_of_all_blank blank, nothing back, nothing blank]
  · have rest : trimLeft (cs ++ after) = trimLeft cs ++ after := by
      have shown : (cs.dropWhile isBlank).isEmpty = false := by simpa [List.dropWhile_eq_nil_iff] using blank
      rw [trimLeft, List.dropWhile_append, shown]
      rfl
    rw [rest, trimRight_append_of_all_blank back]

theorem core_eq (cs : List Char) : core cs = (enclosed? (trimChars cs)).elim (trimChars cs) core := by
  unfold core
  split
  · rename_i bare
    rw [bare]
    rfl
  · rename_i inner enclosed
    exact (congrArg (Option.elim · (trimChars cs) core) enclosed).symm

/-- Parentheses around a text that closes what it opens belong together. -/
private theorem enclosed?_parentheses (closed : Closed cs) : enclosed? ('(' :: (cs ++ [')'])) = some cs := by
  have whole : balanced cs 0 false = true := by
    have empty := closed 0 []
    rwa [List.append_nil] at empty
  rw [enclosed?, List.getLast?_concat, List.dropLast_concat, whole]
  rfl

theorem core_eq_of_wrapped (closed : Closed inner) (h : Wrapped inner outer) : core outer = core inner := by
  induction h with
  | blanks front back => rw [core_eq, core_eq inner, trimChars_append_blanks front back]
  | @parentheses outer _ _ within front back ih =>
    have trimmed : trimChars ('(' :: (outer ++ [')'])) = '(' :: (outer ++ [')']) :=
      trimChars_concat (by decide) (by decide)
    rw [core_eq, trimChars_append_blanks front back, trimmed, enclosed?_parentheses (closed_of_wrapped closed within)]
    exact ih

/-! ### Literals -/

private theorem ofCatalog?_of_wrapped {s expression : String} (closed : Closed s.toList)
    (h : Wrapped s.toList expression.toList) : ofCatalog? expression = ofCatalog? s := by
  unfold ofCatalog?
  rw [core_eq_of_wrapped closed h]

theorem core_delimited (s : String) {cast : List Char} (h : IsCast cast) :
    ∃ rest, (rest = [] ∨ [':', ':'] <+: rest) ∧
      core (delimited '\'' '\'' s.toList ++ cast) = delimited '\'' '\'' s.toList ++ rest := by
  have bare (rest : List Char) : enclosed? (delimited '\'' '\'' s.toList ++ rest) = none := rfl
  cases h with
  | absent =>
    refine ⟨[], .inl rfl, core_of_trimmed ?_ (bare [])⟩
    rw [List.append_nil]
    exact trimChars_concat (by decide) (by decide)
  | @typed type plain =>
    refine ⟨':' :: ':' :: trimRight type, .inr ⟨_, rfl⟩, ?_⟩
    have trimmed : trimChars (delimited '\'' '\'' s.toList ++ ':' :: ':' :: type) =
        delimited '\'' '\'' s.toList ++ ':' :: ':' :: trimRight type := by
      have shown : trimLeft (delimited '\'' '\'' s.toList ++ ':' :: ':' :: type) =
          delimited '\'' '\'' s.toList ++ ':' :: ':' :: type := trimLeft_cons_of_visible (by decide)
      have colons : delimited '\'' '\'' s.toList ++ ':' :: ':' :: type =
          (delimited '\'' '\'' s.toList ++ [':']) ++ ':' :: type := by simp
      rw [trimChars, shown, colons, trimRight_append_cons_of_visible (by decide)]
      simp
    rw [core_eq, trimmed, bare]
    rfl

/-- A text is read as itself, cast or not, however many parentheses are around it. -/
private theorem ofCatalog?_text {s expression : String} {cast : List Char} (h : IsCast cast)
    (wrapped : Wrapped ((Text.literal s).toList ++ cast) expression.toList) :
    ofCatalog? expression = some (.text s) := by
  have closed : Closed (delimited '\'' '\'' s.toList ++ cast) := (closed_delimited s.toList).append (closed_of_isCast h)
  rw [toList_literal] at wrapped
  obtain ⟨rest, typed, core_eq⟩ := core_delimited s h
  rw [ofCatalog?, core_eq_of_wrapped closed wrapped, core_eq, ofCore?_delimited s typed]

private theorem isPlain_of_isDigit {c : Char} (h : c.isDigit = true) : IsPlain c := by
  refine ⟨?_, ?_, ?_⟩ <;>
    · rintro rfl
      cases h

private theorem closed_toString (n : Int) : Closed (toString n).toList := by
  obtain ⟨c, cs, chars, start, digits, -⟩ := exists_number n
  rw [chars]
  refine closed_of_plain (List.forall_mem_cons.mpr ⟨?_, fun e he => isPlain_of_isDigit (digits e he)⟩)
  rcases start with digit | rfl | rfl
  · exact isPlain_of_isDigit digit
  · decide
  · decide

private theorem closed_booleanLiteral {d : Dialect} (known : d ∈ Dialect.all) (b : Bool) :
    Closed (d.booleanLiteral b).toList := by
  have each : ∀ d ∈ Dialect.all, ∀ b : Bool, ((d.booleanLiteral b).toList.all fun c => decide (IsPlain c)) = true ∨
      ∃ letter ∈ ["t", "f"], d.booleanLiteral b = Text.literal letter := by decide +kernel
  rcases each d known b with plain | ⟨letter, -, quoted⟩
  · exact closed_of_plain (List.all_iff_forall_prop.mp plain)
  · rw [quoted, toList_literal]
    exact closed_delimited letter.toList

/-- Whatever blanks and parentheses a catalog puts around the default that a dialect writes, a text is read as itself,
also with a cast behind it, a 64-bit number as itself, and a truth value as a default that the dialect writes the
same. -/
theorem literals_read_back {d : Dialect} (known : d ∈ Dialect.all) (expression : String) :
    (∀ s cast, IsCast cast → Wrapped ((d.defaultLiteral (.text s)).toList ++ cast) expression.toList →
      ofCatalog? expression = some (.text s)) ∧
    (∀ n : Int, -(2 ^ 63) ≤ n → n < 2 ^ 63 → Wrapped (d.defaultLiteral (.integer n)).toList expression.toList →
      ofCatalog? expression = some (.integer n)) ∧
    (∀ b, Wrapped (d.defaultLiteral (.boolean b)).toList expression.toList →
      ∃ v, ofCatalog? expression = some v ∧ d.defaultLiteral v = d.defaultLiteral (.boolean b)) := by
  refine ⟨fun s cast typed wrapped => ofCatalog?_text typed wrapped, fun n lower upper wrapped => ?_,
    fun b wrapped => ?_⟩
  · rw [ofCatalog?_of_wrapped (closed_toString n) wrapped]
    exact (ofCatalog?_toString lower upper).2
  · rw [ofCatalog?_of_wrapped (closed_booleanLiteral known b) wrapped]
    exact Option.map_eq_some_iff.mp (ofCatalog?_defaultLiteral known (.boolean b)).2

theorem wrapped_defaults_read_back :
    Dialect.informix ∈ Dialect.all ∧
      (Wrapped ((Dialect.informix.defaultLiteral (.text "it's (NULL)")).toList ++ "::char varying".toList)
          "((  'it''s (NULL)'::char varying ) )".toList ∧ IsCast "::char varying".toList ∧
        ofCatalog? "((  'it''s (NULL)'::char varying ) )" = some (.text "it's (NULL)")) ∧
      (Wrapped (Dialect.informix.defaultLiteral (.integer (-9223372036854775808))).toList
          "(-9223372036854775808)\n".toList ∧
        ofCatalog? "(-9223372036854775808)\n" = some (.integer (-9223372036854775808))) ∧
      Wrapped (Dialect.informix.defaultLiteral (.boolean true)).toList "( 't' )".toList ∧
        ∃ v, ofCatalog? "( 't' )" = some v ∧ Dialect.informix.defaultLiteral v = "'t'" := by
  have known : Dialect.informix ∈ Dialect.all := by decide +kernel
  have plain : ∀ c ∈ "char varying".toList, IsPlain c := List.all_iff_forall_prop.mp (by decide)
  have cast : IsCast "::char varying".toList := IsCast.typed plain
  have none_blank : ∀ c ∈ ([] : List Char), isBlank c = true := nofun
  have space_blank : ∀ c ∈ [' '], isBlank c = true := List.all_eq_true.mp rfl
  have spaces_blank : ∀ c ∈ [' ', ' '], isBlank c = true := List.all_eq_true.mp rfl
  have newline_blank : ∀ c ∈ ['\n'], isBlank c = true := List.all_eq_true.mp rfl
  have text : Wrapped ((Dialect.informix.defaultLiteral (.text "it's (NULL)")).toList ++ "::char varying".toList)
      "((  'it''s (NULL)'::char varying ) )".toList :=
    .parentheses (.parentheses (.blanks spaces_blank space_blank) none_blank space_blank) none_blank none_blank
  have integer : Wrapped (Dialect.informix.defaultLiteral (.integer (-9223372036854775808))).toList
      "(-9223372036854775808)\n".toList :=
    .parentheses (.blanks none_blank none_blank) none_blank newline_blank
  have boolean : Wrapped (Dialect.informix.defaultLiteral (.boolean true)).toList "( 't' )".toList :=
    .parentheses (.blanks space_blank space_blank) none_blank none_blank
  refine ⟨known, ⟨text, cast, ?_⟩, ⟨integer, ?_⟩, boolean, ?_⟩
  · exact (literals_read_back known _).1 _ _ cast text
  · exact (literals_read_back known _).2.1 _ (by decide) (by decide) integer
  · exact (literals_read_back known _).2.2 true boolean

end SqlSchema.Default
