import Mathlib.Data.List.Nodup
import Mathlib.Data.List.Perm.Basic
import SqlSchema.Proofs.RowType.LegalNames
import SqlSchema.Proofs.Table.Parts

/-!
# Clashes between the names of a unit

Names that differ can become the same word, as `firstName` and `first_name` do, and distinct words can become the same
identifier, as `self` and `self_` do: an identifier is told apart by its word exactly if the words are `SetApart`
(`nodup_map_escape_iff`). The functions of a unit need that no word is another one behind `set_` besides
(`nodup_functionNames_iff`). Words that are set apart keep the constants apart in all styles but `camel`
(`SetApart.constantWords`), and only in that style a constant may begin with a digit
(`Field.isIdentifier_constantName_iff`).
-/

namespace SqlSchema.RowType

variable {a b w : String} {ws : List String}

/-- Words that have distinct identifiers: no two of them are equal, and none is what another one, a keyword without a
raw form, is changed into. -/
structure SetApart (ws : List String) : Prop where
  nodup : ws.Nodup
  no_clash : ∀ w ∈ ws, w ∈ plainKeywords → w ++ "_" ∉ ws

instance (ws : List String) : Decidable (SetApart ws) :=
  decidable_of_iff (ws.Nodup ∧ ∀ w ∈ ws, w ∈ plainKeywords → w ++ "_" ∉ ws)
    ⟨fun ⟨nodup, no_clash⟩ => ⟨nodup, no_clash⟩, fun h => ⟨h.nodup, h.no_clash⟩⟩

/-! ### Identifiers of words -/

theorem escape_of_mem_plainKeywords (h : w ∈ plainKeywords) : escape w = w ++ "_" := by
  simp [escape, h]

theorem escape_append_of_mem_plainKeywords (h : w ∈ plainKeywords) : escape (w ++ "_") = w ++ "_" := by
  have all : ∀ w ∈ plainKeywords, escape (w ++ "_") = w ++ "_" := by simp [plainKeywords, escape, keywords]
  exact all w h

/-- The identifier of a word is a keyword with an underscore behind it, a raw form or the word itself. -/
theorem escape_cases (w : String) :
    (w ∈ plainKeywords ∧ escape w = w ++ "_") ∨ (w ∈ keywords ∧ escape w = rawMark ++ w) ∨ escape w = w := by
  unfold escape
  split
  · rename_i plain
    exact .inl ⟨List.contains_iff_mem.mp plain, rfl⟩
  · split
    · rename_i keyword
      exact .inr (.inl ⟨List.contains_iff_mem.mp keyword, rfl⟩)
    · exact .inr (.inr rfl)

theorem rawMark_append_ne (h : '#' ∉ b.toList) : rawMark ++ a ≠ b := by
  rintro rfl
  simp [rawMark] at h

theorem escape_eq_escape_iff (ha : '#' ∉ a.toList) (hb : '#' ∉ b.toList) :
    escape a = escape b ↔
      a = b ∨ (a ∈ plainKeywords ∧ b = a ++ "_") ∨ (b ∈ plainKeywords ∧ a = b ++ "_") := by
  -- no raw form is a word, nor a word with an underscore behind it
  have not_raw {v w : String} (hw : '#' ∉ w.toList) : rawMark ++ v ≠ w ++ "_" :=
    rawMark_append_ne (by simpa using hw)
  constructor
  · intro same
    -- the identifiers of different kinds are equal only where a word is left as a keyword is changed into it
    rcases escape_cases a with ⟨plain, ea⟩ | ⟨-, ea⟩ | ea <;> rcases escape_cases b with ⟨plain', eb⟩ | ⟨-, eb⟩ | eb <;>
      rw [ea, eb] at same
    · exact .inl (by simpa [← String.toList_inj] using same)
    · exact absurd same.symm (not_raw ha)
    · exact .inr (.inl ⟨plain, same.symm⟩)
    · exact absurd same (not_raw hb)
    · exact .inl (by simpa [← String.toList_inj] using same)
    · exact absurd same (rawMark_append_ne hb)
    · exact .inr (.inr ⟨plain', same⟩)
    · exact absurd same.symm (rawMark_append_ne ha)
    · exact .inl same
  · rintro (rfl | ⟨plain, rfl⟩ | ⟨plain, rfl⟩)
    · rfl
    · rw [escape_of_mem_plainKeywords plain, escape_append_of_mem_plainKeywords plain]
    · rw [escape_of_mem_plainKeywords plain, escape_append_of_mem_plainKeywords plain]

theorem append_underscore_ne (w : String) : w ++ "_" ≠ w := fun same => by
  simpa using congrArg (·.toList.length) same

theorem nodup_map_escape_iff (chars : ∀ w ∈ ws, '#' ∉ w.toList) : (ws.map escape).Nodup ↔ SetApart ws := by
  constructor
  · intro nodup
    refine ⟨nodup.of_map, fun w hw plain clash => ?_⟩
    have same : escape (w ++ "_") = escape w := by
      rw [escape_of_mem_plainKeywords plain, escape_append_of_mem_plainKeywords plain]
    exact append_underscore_ne w (List.inj_on_of_nodup_map nodup clash hw same)
  · intro apart
    refine apart.nodup.map_on fun v hv w hw same => ?_
    rcases (escape_eq_escape_iff (chars v hv) (chars w hw)).mp same with same | ⟨plain, rfl⟩ | ⟨plain, rfl⟩
    · exact same
    · exact absurd hw (apart.no_clash v hv plain)
    · exact absurd hv (apart.no_clash w hw plain)

theorem not_isDigit_of_isIdentifier (h : IsIdentifier w) : ∀ c ∈ w.toList.head?, c.isDigit = false := by
  cases h with
  | word stem _ => exact stem.word.start
  | raw keyword => simp [rawMark]

/-- Escaping does not help a word that begins with a digit. -/
theorem not_isDigit_of_isIdentifier_escape (h : IsIdentifier (escape w)) : ∀ c ∈ w.toList.head?, c.isDigit = false := by
  rcases escape_cases w with ⟨plain, -⟩ | ⟨keyword, -⟩ | same
  · have words : ∀ k ∈ plainKeywords, IsWord k.toList := by decide +kernel
    exact (words w plain).start
  · have words : ∀ k ∈ keywords, IsWord k.toList := by decide +kernel
    exact (words w keyword).start
  · rw [same] at h
    exact not_isDigit_of_isIdentifier h

/-! ### Fields and functions -/

section

variable {fs : List Field}

theorem no_hash_of_mem_words (h : w ∈ fs.map (·.word)) : '#' ∉ w.toList := by
  obtain ⟨f, -, rfl⟩ := List.mem_map.mp h
  exact (isWord_snake f.column).not_mem (by decide)

theorem nodup_idents_iff : (fs.map (·.ident)).Nodup ↔ SetApart (fs.map (·.word)) := by
  have escaped : fs.map (·.ident) = (fs.map (·.word)).map escape := by
    simp only [List.map_map, Function.comp_def, Field.ident]
  rw [escaped, nodup_map_escape_iff fun _ => no_hash_of_mem_words]

theorem nodup_setterNames_iff : (fs.map (·.setterName)).Nodup ↔ (fs.map (·.word)).Nodup := by
  have behind : fs.map (·.setterName) = (fs.map (·.word)).map ("set_" ++ ·) := by
    simp only [List.map_map, Function.comp_def, Field.setterName]
  rw [behind, List.nodup_map_iff]
  intro v w same
  simpa [← String.toList_inj] using same

theorem escape_eq_set_iff : escape w = "set_" ++ a ↔ w = "set_" ++ a := by
  have kept := set_not_mem_keywords a
  rw [List.mem_append, not_or] at kept
  constructor
  · intro same
    rcases escape_cases w with ⟨plain, changed⟩ | ⟨-, raw⟩ | word
    · have none : ∀ w ∈ plainKeywords, ¬ "set_".toList <+: (w ++ "_").toList := by simp [plainKeywords]
      rw [changed] at same
      exact absurd (by simp [same]) (none w plain)
    · rw [raw, ← String.toList_inj] at same
      simp [rawMark] at same
    · exact word.symm.trans same
  · rintro rfl
    simp [escape, kept.1, kept.2]

theorem disjoint_accessors_iff : List.Disjoint (fs.map (·.ident)) (fs.map (·.setterName)) ↔
    ∀ w ∈ fs.map (·.word), "set_" ++ w ∉ fs.map (·.word) := by
  constructor
  · intro disjoint w hw clash
    obtain ⟨f, hf, rfl⟩ := List.mem_map.mp hw
    obtain ⟨g, hg, same⟩ := List.mem_map.mp clash
    exact disjoint (List.mem_map_of_mem hg) (List.mem_map.mpr ⟨f, hf, (escape_eq_set_iff.mpr same).symm⟩)
  · intro apart n ident setter
    obtain ⟨g, hg, rfl⟩ := List.mem_map.mp ident
    obtain ⟨f, hf, same⟩ := List.mem_map.mp setter
    exact apart f.word (List.mem_map_of_mem hf) (List.mem_map.mpr ⟨g, hg, escape_eq_set_iff.mp same.symm⟩)

theorem nodup_accessors_iff : (fs.flatMap fun f => [f.ident, f.setterName]).Nodup ↔
    SetApart (fs.map (·.word)) ∧ ∀ w ∈ fs.map (·.word), "set_" ++ w ∉ fs.map (·.word) := by
  have apart : (fs.flatMap fun f => [f.ident, f.setterName]).Perm (fs.map (·.ident) ++ fs.map (·.setterName)) := by
    rw [List.map_eq_flatMap, List.map_eq_flatMap]
    exact (List.flatMap_append_perm fs (fun f => [f.ident]) fun f => [f.setterName]).symm
  rw [apart.nodup_iff, List.nodup_append', nodup_idents_iff, nodup_setterNames_iff, disjoint_accessors_iff]
  exact ⟨fun ⟨words, _, accessors⟩ => ⟨words, accessors⟩, fun ⟨words, accessors⟩ => ⟨words, words.nodup, accessors⟩⟩

end

/-! ### Constants -/

namespace Field

/-- The word for the name of the constant. -/
def constantWord (f : Field) : ConstantStyle → String
  | .upper => Text.upper f.word
  | .lower => f.word
  | .camel => camel f.word
  | .asDeclared => sanitize f.column

theorem constantName_eq (f : Field) (style : ConstantStyle) : f.constantName style = escape (f.constantWord style) := by
  cases style <;> rfl

end Field

theorem isWord_upper (h : IsWord w.toList) : IsWord (Text.upper w).toList where
  nonempty := by simpa using h.nonempty
  chars c hc := by
    rw [Text.toList_upper] at hc
    obtain ⟨d, hd, rfl⟩ := List.mem_map.mp hc
    exact isIdentChar_toUpper (h.chars d hd)
  start c hc := by
    rw [Text.toList_upper, List.head?_map] at hc
    obtain ⟨d, hd, rfl⟩ := Option.map_eq_some_iff.mp hc
    rw [isDigit_toUpper, h.start d hd]

theorem isWord_sanitize (name : String) : IsWord (sanitize name).toList := by
  simpa [sanitize] using isWord_sanitizeChars name.toList

theorem toList_camel_cases (w : String) :
    (w.toList.dropWhile (· = '_') = [] ∧ (camel w).toList = w.toList) ∨
      ∃ c cs, w.toList.dropWhile (· = '_') = c :: cs ∧ (camel w).toList = c :: joinWords false cs := by
  simp only [camel]
  cases h : w.toList.dropWhile (· = '_') with
  | nil => exact .inl ⟨rfl, by simp [joinWords]⟩
  | cons c cs =>
    have no_sep : c ≠ '_' := by simpa [h] using List.head?_dropWhile_not (· = '_') w.toList
    exact .inr ⟨c, cs, rfl, by simp [joinWords, no_sep]⟩

theorem isIdentChar_of_mem_camel (h : IsWord w.toList) {c : Char} (hc : c ∈ (camel w).toList) : isIdentChar c := by
  have kept : ∀ d ∈ w.toList.dropWhile (· = '_'), isIdentChar d := fun d hd =>
    h.chars d (List.dropWhile_subset _ hd)
  rcases toList_camel_cases w with ⟨-, same⟩ | ⟨d, ds, rest, joined⟩
  · exact h.chars c (same ▸ hc)
  · rw [rest, List.forall_mem_cons] at kept
    rw [joined] at hc
    rcases List.mem_cons.mp hc with rfl | hc
    · exact kept.1
    · exact isIdentChar_iff.mpr (.inl (isAlphanum_of_mem_joinWords kept.2 hc))

/-- In the style `camel` a word begins with the first of its characters that is no underscore. -/
theorem isWord_camel (h : IsWord w.toList) (start : ∀ c ∈ (w.toList.dropWhile (· = '_')).head?, c.isDigit = false) :
    IsWord (camel w).toList := by
  rcases toList_camel_cases w with ⟨-, same⟩ | ⟨d, ds, rest, joined⟩
  · rwa [same]
  · refine ⟨by simp [joined], fun c => isIdentChar_of_mem_camel h, ?_⟩
    simpa [rest, joined] using start

namespace Field

variable {f : Field} {style : ConstantStyle}

theorem no_hash_constantWord (f : Field) (style : ConstantStyle) : '#' ∉ (f.constantWord style).toList := by
  have word := isWord_snake f.column
  cases style with
  | upper => exact (isWord_upper word).not_mem (by decide)
  | lower => exact word.not_mem (by decide)
  | camel => exact fun hash => absurd (isIdentChar_of_mem_camel word hash) (by decide)
  | asDeclared => exact (isWord_sanitize f.column).not_mem (by decide)

/-- Of the styles only `camel` takes away what stands in front of a digit. -/
theorem isIdentifier_constantName_iff : IsIdentifier (f.constantName style) ↔
    (style = .camel → ∀ c ∈ (f.word.toList.dropWhile (· = '_')).head?, c.isDigit = false) := by
  have word : IsWord f.word.toList := isWord_snake f.column
  rw [constantName_eq]
  constructor
  · rintro legal rfl c first
    have start : ∀ c ∈ (camel f.word).toList.head?, c.isDigit = false := not_isDigit_of_isIdentifier_escape legal
    rcases toList_camel_cases f.word with ⟨none, -⟩ | ⟨d, ds, rest, joined⟩
    · simp [none] at first
    · rw [rest] at first
      rw [joined] at start
      exact start c first
  · intro start
    apply isIdentifier_escape
    cases style with
    | upper => exact isWord_upper word
    | lower => exact word
    | camel =>
      have camel_word := isWord_camel word (start rfl)
      rwa [constantWord]
    | asDeclared => exact isWord_sanitize f.column

end Field

theorem nodup_constantNames_iff {fs : List Field} {style : ConstantStyle} :
    (fs.map (·.constantName style)).Nodup ↔ SetApart (fs.map (·.constantWord style)) := by
  have escaped : fs.map (·.constantName style) = (fs.map (·.constantWord style)).map escape := by
    simp only [List.map_map, Function.comp_def, Field.constantName_eq]
  rw [escaped, nodup_map_escape_iff]
  intro w hw
  obtain ⟨f, -, rfl⟩ := List.mem_map.mp hw
  exact f.no_hash_constantWord style

/-! ### Words that keep constants apart -/

theorem lower_upper (small : ∀ c ∈ w.toList, c.isUpper = false) : Text.lower (Text.upper w) = w := by
  rw [← String.toList_inj, Text.toList_lower, Text.toList_upper, List.map_map]
  refine (List.map_congr_left fun c hc => ?_).trans (List.map_id _)
  rw [Function.comp_apply, Text.toLower_toUpper, Text.toLower_of_isUpper_eq_false (small c hc), id]

theorem eq_underscore_of_upper_mem_plainKeywords (small : ∀ c ∈ w.toList, c.isUpper = false)
    (plain : Text.upper w ∈ plainKeywords) : w = "_" := by
  have only : ∀ k ∈ plainKeywords, k.toList.all (!·.isLower) → k = "_" := by simp [plainKeywords]
  have capitals : (Text.upper w).toList.all (!·.isLower) := by
    rw [Text.toList_upper, List.all_map, List.all_eq_true]
    intro c _
    rw [Function.comp_apply, isLower_toUpper, Bool.not_false]
  have underscore : Text.upper w = "_" := only _ plain capitals
  rw [← lower_upper small, underscore]
  simp [Text.lower]

theorem SetApart.map_upper (small : ∀ w ∈ ws, ∀ c ∈ w.toList, c.isUpper = false) (apart : SetApart ws) :
    SetApart (ws.map Text.upper) where
  nodup := apart.nodup.map_on fun v hv w hw same => by
    rw [← lower_upper (small v hv), same, lower_upper (small w hw)]
  no_clash u hu plain clash := by
    obtain ⟨w, hw, rfl⟩ := List.mem_map.mp hu
    obtain ⟨v, hv, same⟩ := List.mem_map.mp clash
    obtain rfl := eq_underscore_of_upper_mem_plainKeywords (small w hw) plain
    have double : v = "_" ++ "_" := by
      rw [← lower_upper (small v hv), same]
      simp [Text.lower]
    exact apart.no_clash "_" hw (by decide) (double ▸ hv)

theorem snake_eq (name : String) : snake name = String.ofList (snakeChars false (sanitize name).toList) := by
  simp [snake, sanitize]

theorem SetApart.map_sanitize {names : List String} (apart : SetApart (names.map snake)) :
    SetApart (names.map sanitize) where
  nodup := by
    have styled : names.map snake = (names.map sanitize).map fun w => String.ofList (snakeChars false w.toList) := by
      rw [List.map_map]
      exact List.map_congr_left fun n _ => snake_eq n
    exact (styled ▸ apart.nodup).of_map
  no_clash s hs plain clash := by
    obtain ⟨n, hn, rfl⟩ := List.mem_map.mp hs
    obtain ⟨m, hm, same⟩ := List.mem_map.mp clash
    have all : ∀ k ∈ plainKeywords, String.ofList (snakeChars false k.toList) ∈ plainKeywords ∧
        String.ofList (snakeChars false (k ++ "_").toList) = String.ofList (snakeChars false k.toList) ++ "_" := by
      simp [plainKeywords, snakeChars]
    obtain ⟨still, behind⟩ := all _ plain
    rw [← snake_eq] at still behind
    rw [← same, ← snake_eq] at behind
    exact apart.no_clash (snake n) (List.mem_map_of_mem hn) still (behind ▸ List.mem_map_of_mem hm)

/-- Fields that have distinct identifiers have distinct constants in every style that keeps the underscores. -/
theorem SetApart.constantWords {fs : List Field} {style : ConstantStyle} (kept : style ≠ .camel)
    (apart : SetApart (fs.map (·.word))) : SetApart (fs.map (·.constantWord style)) := by
  cases style with
  | upper =>
    have styled : fs.map (·.constantWord .upper) = (fs.map (·.word)).map Text.upper := by
      simp only [List.map_map, Function.comp_def, Field.constantWord]
    rw [styled]
    refine apart.map_upper ?_
    rw [List.forall_mem_map]
    exact fun f _ _ => isUpper_of_mem_snake
  | lower => exact apart
  | camel => exact absurd rfl kept
  | asDeclared =>
    have styled : fs.map (·.constantWord .asDeclared) = (fs.map (·.column)).map sanitize := by
      simp only [List.map_map, Function.comp_def, Field.constantWord]
    have words : fs.map (·.word) = (fs.map (·.column)).map snake := by
      simp only [List.map_map, Function.comp_def, Field.word]
    rw [styled]
    exact (words ▸ apart).map_sanitize

/-! ### Names of a unit -/

namespace Options

variable {o : Options} {fs : List Field}

theorem nodup_fieldNames_iff : (o.fieldNames fs).Nodup ↔ (o.fields → SetApart (fs.map (·.word))) := by
  cases fields : o.fields <;> simp [fieldNames, fields, nodup_idents_iff]

theorem nodup_functionNames_iff : (o.functionNames fs).Nodup ↔
    (o.accessors → o.fields → SetApart (fs.map (·.word)) ∧
      ∀ w ∈ fs.map (·.word), "set_" ++ w ∉ fs.map (·.word)) := by
  cases accessors : o.accessors <;> cases fields : o.fields <;>
    simp [functionNames, accessors, fields, nodup_accessors_iff]

theorem nodup_constantNames_iff : (o.constantNames fs).Nodup ↔
    (o.constants → SetApart (fs.map (·.constantWord o.constantStyle))) := by
  cases constants : o.constants <;> simp [constantNames, constants, RowType.nodup_constantNames_iff]

end Options

theorem forall_constantNames_isIdentifier_iff {o : Options} {fs : List Field} :
    (∀ n ∈ o.constantNames fs, IsIdentifier n) ↔ (o.constants → o.constantStyle = .camel →
      ∀ f ∈ fs, ∀ c ∈ (f.word.toList.dropWhile (· = '_')).head?, c.isDigit = false) := by
  cases constants : o.constants with
  | false => simp [Options.constantNames, constants]
  | true =>
    simp only [Options.constantNames, constants, if_true, List.forall_mem_map, Field.isIdentifier_constantName_iff]
    exact ⟨fun each _ camel f hf => each f hf camel, fun each f hf camel => each trivial camel f hf⟩

/-- The fields of a unit have distinct names exactly if the words of the columns are set apart, and its functions have
distinct names exactly if besides no word is another one behind `set_`. The constants have distinct names exactly if
their own words are set apart, which follows from the words of the columns in every style but `camel`. Their names are
identifiers, in the style `camel` exactly if no word has a digit as the first character that is no underscore. -/
theorem declared_names_distinct_iff (o : Options) (t : Table) :
    let fs := fieldsOf t
    let words := fs.map (·.word)
    o.Declares (emit o t) (o.constantNames fs) (o.fieldNames fs) (o.functionNames fs) ∧
    ((o.fieldNames fs).Nodup ↔ (o.fields → SetApart words)) ∧
    ((o.functionNames fs).Nodup ↔
      (o.accessors → o.fields → SetApart words ∧ ∀ w ∈ words, "set_" ++ w ∉ words)) ∧
    ((o.constantNames fs).Nodup ↔ (o.constants → SetApart (fs.map (·.constantWord o.constantStyle)))) ∧
    (o.constantStyle ≠ .camel → SetApart words → (o.constantNames fs).Nodup) ∧
    ((∀ n ∈ o.constantNames fs, IsIdentifier n) ↔ (o.constants → o.constantStyle = .camel →
      ∀ f ∈ fs, ∀ c ∈ (f.word.toList.dropWhile (· = '_')).head?, c.isDigit = false)) :=
  ⟨declares_emit o t, Options.nodup_fieldNames_iff, Options.nodup_functionNames_iff, Options.nodup_constantNames_iff,
    fun kept apart => Options.nodup_constantNames_iff.mpr fun _ => apart.constantWords kept,
    forall_constantNames_isIdentifier_iff⟩

/-- A table with columns that are named in several styles. -/
def members : Table where
  name := "members"
  columns :=
    [{ name := "ID", type := .bigint }, { name := "firstName", type := .clob }, { name := "type", type := .clob }]

theorem members_names_distinct :
    (({} : Options).constantStyle ≠ .camel ∧ SetApart ((fieldsOf members).map (·.word)) ∧
      ∀ w ∈ (fieldsOf members).map (·.word), "set_" ++ w ∉ (fieldsOf members).map (·.word)) ∧
    (({} : Options).functionNames (fieldsOf members)).Nodup ∧ (({} : Options).constantNames (fieldsOf members)).Nodup ∧
    ∀ n ∈ ({} : Options).constantNames (fieldsOf members), IsIdentifier n := by
  have style : ({} : Options).constantStyle ≠ .camel := by decide
  have apart : SetApart ((fieldsOf members).map (·.word)) := by decide +kernel
  have accessors : ∀ w ∈ (fieldsOf members).map (·.word), "set_" ++ w ∉ (fieldsOf members).map (·.word) := by
    decide +kernel
  obtain ⟨-, -, functions, -, constants, legal⟩ := declared_names_distinct_iff {} members
  exact ⟨⟨style, apart, accessors⟩, functions.mpr fun _ _ => ⟨apart, accessors⟩, constants style apart,
    legal.mpr fun _ camel => absurd camel style⟩

/-- A table with two spellings of one name, and with a name that begins with a digit. -/
def people : Table where
  name := "people"
  columns :=
    [{ name := "firstName", type := .clob }, { name := "first_name", type := .clob }, { name := "1st", type := .clob }]

/-- Options with constants in the style `camel`. -/
def camelOptions : Options := { constantStyle := .camel }

/-- Columns with different names have one field, and in the style `camel` a constant begins with a digit. -/
theorem names_of_people_clash :
    people.Reachable ∧ (people.columns.Pairwise fun a b => Text.sameName a.name b.name = false) ∧
      ({} : Options).fieldNames (fieldsOf people) = ["first_name", "first_name", "_1st"] ∧
      ¬(({} : Options).fieldNames (fieldsOf people)).Nodup ∧ ¬(({} : Options).functionNames (fieldsOf people)).Nodup ∧
      ¬(({} : Options).constantNames (fieldsOf people)).Nodup ∧
      camelOptions.constantNames (fieldsOf people) = ["firstName", "firstName", "1st"] ∧ ¬IsIdentifier "1st" := by
  have illegal : ¬IsIdentifier "1st" := fun legal => by
    have start := not_isDigit_of_isIdentifier legal '1' (by decide)
    exact absurd start (by decide)
  refine ⟨?_, ?_, ?_, ?_, ?_, ?_, ?_, illegal⟩ <;> decide +kernel

end SqlSchema.RowType
