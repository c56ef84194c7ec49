import Mathlib.Data.List.Chain
import Mathlib.Data.List.TakeWhile
import SqlSchema.Catalog.CreateText
import SqlSchema.Text.Ascii

/-!
# Reading texts of words, quoted names and marks

The text of a statement without literals falls into parts: words, names between double quotes, and single blanks, commas
and parentheses. The parts are `Spaced` if names do not touch each other and blanks do not either. Then a keyword that
is read anywhere in the text, as far as a blank follows it, is the rest of a word, and a name that is read is the rest
of a word or a whole quoted name (`eq_of_keyword?`, `eq_of_name?`). A `Block` of parts, which begins with a name, can be
put behind another one or together with a list in parentheses.
-/

namespace SqlSchema.CreateText

open Text

/-! ### Keywords and blanks -/

section Characters

/-- Whether a character may stand in a plain name. -/
def isNameChar (c : Char) : Bool := c.isAlphanum || c == '_'

/-- The characters that stand between names. -/
def marks : List Char := [' ', ',', '(', ')']

/-- The characters that open a quoted name. -/
def openings : List Char := ['"', '\x60', '[']

/-- Whether characters are the letters of a keyword. -/
def isKeyword (w : List Char) : Bool := !w.isEmpty && w.all Char.isAlpha

theorem isNameChar_of_wide {c : Char} (wide : 128 ≤ c.toNat) : isNameChar c = false := by
  rw [isNameChar, isAlphanum_of_wide wide, beq_eq_false_iff_ne.mpr (ne_of_wide wide (by decide)), Bool.or_false]

theorem toNat_lt_of_isNameChar {c : Char} (h : isNameChar c = true) : c.toNat < 128 := by
  by_contra large
  rw [isNameChar_of_wide (Nat.le_of_not_lt large)] at h
  cases h

theorem isBlank_of_isNameChar {c : Char} : isNameChar c = true → isBlank c = false :=
  forall_of_ascii (p := fun c => isNameChar c = true → isBlank c = false) (by decide)
    (fun c wide h => by simp [isNameChar_of_wide wide] at h) c

theorem isWordChar_of_isNameChar {c : Char} (h : isNameChar c = true) : isWordChar c = true := by
  rw [isWordChar, if_pos (toNat_lt_of_isNameChar h)]
  exact h

theorem not_mem_of_isNameChar {c : Char} (h : isNameChar c = true) {cs : List Char}
    (others : cs.all (fun e => !isNameChar e) = true) : c ∉ cs := by
  intro hc
  have other := List.all_eq_true.mp others c hc
  rw [h] at other
  cases other

/-- No delimiter is a letter of a keyword. -/
theorem keywordLetter_not_mem {c : Char} (h : c ∈ '"' :: marks) {w : List Char} (hw : isKeyword w = true) :
    keywordLetter c ∉ w := by
  have each : ('"' :: marks).all (fun e => keywordLetter e == e && !e.isAlpha) = true := by decide
  have this := List.all_eq_true.mp each c h
  rw [Bool.and_eq_true, beq_iff_eq] at this
  rw [this.1]
  intro letter
  rw [isKeyword, Bool.and_eq_true] at hw
  have alpha := List.all_eq_true.mp hw.2 c letter
  simp [alpha] at this

theorem keyword?_eq_some_iff {w cs after : List Char} :
    keyword? w cs = some after ↔ ∃ front, cs = front ++ after ∧ front.map keywordLetter = w := by
  induction w generalizing cs with
  | nil =>
    constructor
    · rintro ⟨⟩
      exact ⟨[], rfl, rfl⟩
    · rintro ⟨front, rfl, none⟩
      rw [List.map_eq_nil_iff.mp none]
      rfl
  | cons l w ih =>
    cases cs with
    | nil => simp [keyword?]
    | cons c cs =>
      rw [keyword?]
      constructor
      · intro h
        split at h
        · rename_i letter
          obtain ⟨front, rfl, rfl⟩ := ih.mp h
          exact ⟨c :: front, rfl, by rw [List.map_cons, letter]⟩
        · cases h
      · rintro ⟨front, split, letters⟩
        cases front with
        | nil => cases letters
        | cons e front =>
          obtain ⟨rfl, rfl⟩ := List.cons.inj split
          obtain ⟨first, rest⟩ := List.cons.inj letters
          rw [if_pos first]
          exact ih.mpr ⟨front, rfl, rest⟩

theorem keyword?_append {w front : List Char} (letters : front.map keywordLetter = w) (after : List Char) :
    keyword? w (front ++ after) = some after :=
  keyword?_eq_some_iff.mpr ⟨front, rfl, letters⟩

theorem blanks?_cons_of_not_blank {c : Char} (h : isBlank c = false) (cs : List Char) : blanks? (c :: cs) = none := by
  rw [blanks?, h]
  rfl

theorem phrase?_cons (w : String) (ws : List String) (cs : List Char) :
    phrase? (w :: ws) cs = ((blanks? cs).bind (keyword? w.toList)).bind (phrase? ws) := rfl

theorem phrase?_nil (cs : List Char) : phrase? [] cs = some cs := rfl

theorem phrase?_append {ws vs : List String} {cs behind after : List Char} (first : phrase? ws cs = some behind)
    (second : phrase? vs behind = some after) : phrase? (ws ++ vs) cs = some after := by
  unfold phrase? at first second ⊢
  rw [List.foldlM_append, first]
  exact second

end Characters

/-! ### Parts -/

/-- A part of a statement without literals. -/
inductive Part where
  /-- Characters that are no blanks and open no quoted name. -/
  | word (cs : List Char)
  /-- A name between double quotes. -/
  | quoted (cs : List Char)
  /-- A character between names. -/
  | mark (c : Char)
deriving DecidableEq, Repr

namespace Part

/-- A single blank. -/
def blank : Part := .mark ' '

/-- A single comma. -/
def comma : Part := .mark ','

/-- Whether a part is one of the characters between names. -/
def isMark : Part → Bool
  | .mark _ => true
  | _ => false

/-- The characters of a part. -/
def chars : Part → List Char
  | .word cs => cs
  | .quoted cs => '"' :: (cs ++ ['"'])
  | .mark c => [c]

/-- The letters of a word as keywords have them. Other parts are no keywords. -/
def letters : Part → List Char
  | .word cs => cs.map keywordLetter
  | _ => []

/-- Parts that are read as one: a word has a character, none of them a blank or one that opens a quoted name, and what
stands between quotes is a plain name. -/
inductive Valid : Part → Prop where
  | word {cs : List Char} (nonempty : cs ≠ []) (chars : ∀ c ∈ cs, isBlank c = false ∧ c ∉ openings) : Valid (.word cs)
  | quoted {cs : List Char} (chars : ∀ c ∈ cs, isNameChar c = true) : Valid (.quoted cs)
  | mark {c : Char} (h : c ∈ marks) : Valid (.mark c)

/-- Parts that may stand next to each other: one of them is a mark, and not both are blanks. -/
def Apart (a b : Part) : Prop := (a.isMark = true ∨ b.isMark = true) ∧ (a = blank → b ≠ blank)

end Part

/-- The text of parts. -/
def textOf (ps : List Part) : List Char := ps.flatMap Part.chars

/-- Parts that can be told apart in their text. -/
structure Spaced (ps : List Part) : Prop where
  valid : ∀ p ∈ ps, p.Valid
  apart : ps.IsChain Part.Apart

variable {p q : Part} {ps qs : List Part} {u r : List Char} {w : List Char}

@[simp] theorem textOf_nil : textOf [] = [] := rfl

@[simp] theorem textOf_cons (p : Part) (ps : List Part) : textOf (p :: ps) = p.chars ++ textOf ps := rfl

@[simp] theorem textOf_append (ps qs : List Part) : textOf (ps ++ qs) = textOf ps ++ textOf qs :=
  List.flatMap_append

namespace Spaced

theorem head (h : Spaced (p :: ps)) : p.Valid := h.valid p List.mem_cons_self

theorem tail (h : Spaced (p :: ps)) : Spaced ps :=
  ⟨fun q hq => h.valid q (List.mem_cons_of_mem p hq), h.apart.tail⟩

theorem drop (h : Spaced ps) (n : Nat) : Spaced (ps.drop n) :=
  ⟨fun q hq => h.valid q (List.mem_of_mem_drop hq), h.apart.drop n⟩

theorem of_append_right (h : Spaced (ps ++ qs)) : Spaced qs := by
  have dropped := h.drop ps.length
  rwa [List.drop_left] at dropped

theorem next (h : Spaced (p :: q :: ps)) : p.Apart q := (List.isChain_cons_cons.mp h.apart).1

end Spaced

namespace Part

theorem Valid.exists_chars (h : p.Valid) : ∃ c cs, p.chars = c :: cs ∧ (isBlank c = true → p = blank) := by
  cases h with
  | @word cs nonempty chars =>
    obtain ⟨c, cs, rfl⟩ := List.exists_cons_of_ne_nil nonempty
    refine ⟨c, cs, rfl, fun blank => ?_⟩
    rw [(chars c List.mem_cons_self).1] at blank
    cases blank
  | quoted chars => exact ⟨'"', _, rfl, fun blank => absurd blank (by decide)⟩
  | @mark c h =>
    refine ⟨c, [], rfl, fun blank => ?_⟩
    simp only [marks, List.mem_cons, List.not_mem_nil, or_false] at h
    rcases h with rfl | rfl | rfl | rfl
    · rfl
    · exact absurd blank (by decide)
    · exact absurd blank (by decide)
    · exact absurd blank (by decide)

end Part

theorem trimLeft_textOf (h : Spaced (.blank :: ps)) : trimLeft (textOf ps) = textOf ps := by
  cases ps with
  | nil => rfl
  | cons q ps =>
    obtain ⟨c, cs, chars, only⟩ := h.tail.head.exists_chars
    have other : isBlank c = false := by
      by_contra blank
      exact h.next.2 rfl (only (by simpa using blank))
    rw [textOf_cons, chars, List.cons_append, trimLeft, List.dropWhile_cons, other]
    rfl

/-- The blanks at the start of a text are one part. -/
theorem blanks?_textOf (h : Spaced ps) (read : blanks? (textOf ps) = some r) :
    ∃ qs, ps = .blank :: qs ∧ r = textOf qs := by
  cases ps with
  | nil => cases read
  | cons p qs =>
    obtain ⟨c, cs, first, only⟩ := h.head.exists_chars
    rw [textOf_cons, first, List.cons_append, blanks?] at read
    split at read
    · rename_i blank
      obtain rfl := only blank
      obtain ⟨rfl, rfl⟩ := List.cons.inj first
      cases read
      exact ⟨qs, rfl, trimLeft_textOf h⟩
    · cases read

/-- There are no blanks in a name. -/
theorem isBlank_of_mem_name (valid : p.Valid) (name : p.isMark = false) {c : Char} (hc : c ∈ p.chars) :
    isBlank c = false := by
  cases valid with
  | word nonempty chars => exact (chars c hc).1
  | mark _ => cases name
  | quoted chars =>
    rcases List.mem_cons.mp hc with rfl | hc
    · decide
    · rcases List.mem_append.mp hc with inside | last
      · exact isBlank_of_isNameChar (chars c inside)
      · rw [List.mem_singleton.mp last]
        decide

/-- Behind a name stands a mark. -/
theorem exists_mark_of_next (h : Spaced (p :: q :: ps)) (name : p.isMark = false) : ∃ e ∈ marks, q = .mark e := by
  have next := h.next.1
  rw [name] at next
  cases h.tail.head with
  | word _ _ => simp [Part.isMark] at next
  | quoted _ => simp [Part.isMark] at next
  | @mark e he => exact ⟨e, he, rfl⟩

/-- A keyword does not begin in a mark. -/
private theorem isMark_of_keyword? (valid : p.Valid) (hw : isKeyword w = true) (hu : u ≠ []) (suffix : u <:+ p.chars)
    {cs : List Char} (read : keyword? w (u ++ cs) = some r) : p.isMark = false := by
  cases valid with
  | word _ _ => rfl
  | quoted _ => rfl
  | @mark c hc =>
    obtain rfl : u = [c] := (List.suffix_cons_iff.mp suffix).resolve_right fun none => hu (List.suffix_nil.mp none)
    obtain ⟨front, split, rfl⟩ := keyword?_eq_some_iff.mp read
    cases front with
    | nil => cases hw
    | cons e front =>
      obtain ⟨rfl, -⟩ := List.cons.inj split
      exact absurd List.mem_cons_self (keywordLetter_not_mem (List.mem_cons_of_mem _ hc) hw)

private theorem ne_cons_of_blank (blank : (blanks? r).isSome = true) {c : Char} (visible : isBlank c = false)
    (cs : List Char) : r ≠ c :: cs := by
  rintro rfl
  rw [blanks?_cons_of_not_blank visible] at blank
  cases blank

/-- A keyword that begins in a part and is followed by a blank is what is left of a word. -/
theorem eq_of_keyword? (h : Spaced (p :: ps)) (hw : isKeyword w = true) (hu : u ≠ []) (suffix : u <:+ p.chars)
    (read : keyword? w (u ++ textOf ps) = some r) (blank : (blanks? r).isSome = true) :
    p.isMark = false ∧ u.map keywordLetter = w ∧ r = textOf ps ∧ (u = p.chars → p.letters = w) := by
  have name := isMark_of_keyword? h.head hw hu suffix read
  obtain ⟨front, split, letters⟩ := keyword?_eq_some_iff.mp read
  have no_letter : ∀ c ∈ '"' :: marks, c ∉ front := fun c hc inside =>
    keywordLetter_not_mem hc hw (letters ▸ List.mem_map_of_mem inside)
  -- no character of the part is left behind the keyword, since it would be no blank
  obtain ⟨more, rfl, rest⟩ : ∃ more, front = u ++ more ∧ textOf ps = more ++ r := by
    rcases List.append_eq_append_iff.mp split with whole | ⟨left, hleft, rfl⟩
    · exact whole
    · cases left with
      | nil => exact ⟨[], by simpa using hleft.symm, rfl⟩
      | cons c left =>
        have inside : c ∈ p.chars := suffix.mem (by rw [hleft]; simp)
        exact absurd rfl (ne_cons_of_blank blank (isBlank_of_mem_name h.head name inside) _)
  -- nor does the keyword reach behind the part, where a mark stands
  have none_more : more = [] := by
    cases more with
    | nil => rfl
    | cons c more =>
      cases ps with
      | nil => cases rest
      | cons q ps =>
        obtain ⟨e, mark, rfl⟩ := exists_mark_of_next h name
        obtain ⟨rfl, -⟩ := List.cons.inj rest
        exact absurd (by simp) (no_letter e (List.mem_cons_of_mem _ mark))
  subst none_more
  rw [List.append_nil] at letters no_letter
  refine ⟨name, letters, rest.symm, fun whole => ?_⟩
  cases p with
  | word cs =>
    rw [← letters, whole]
    rfl
  | quoted cs =>
    refine absurd ?_ (no_letter '"' List.mem_cons_self)
    rw [whole]
    exact List.mem_cons_self
  | mark c => cases name

/-- The first quote in the text of parts opens a name, so no blank follows it. -/
theorem blanks?_of_dropWhile (h : Spaced ps) {c : Char} {after : List Char}
    (first : (textOf ps).dropWhile (· ≠ '"') = c :: after) : blanks? after = none := by
  induction ps with
  | nil => cases first
  | cons p ps ih =>
    have skip : ('"' ∉ p.chars) → blanks? after = none := by
      intro none
      have others : ∀ e ∈ p.chars, (decide (e ≠ '"')) = true := by
        intro e he
        exact decide_eq_true fun quote => none (quote ▸ he)
      rw [textOf_cons, List.dropWhile_append_of_pos others] at first
      exact ih h.tail first
    cases h.head with
    | word nonempty chars => exact skip fun quote => (chars _ quote).2 (by decide)
    | @mark e he =>
      refine skip fun quote => ?_
      rw [← List.mem_singleton.mp quote] at he
      exact absurd he (by decide)
    | @quoted cs chars =>
      obtain ⟨-, rfl⟩ := List.cons.inj first
      cases cs with
      | nil => exact blanks?_cons_of_not_blank (by decide) _
      | cons e cs => exact blanks?_cons_of_not_blank (isBlank_of_isNameChar (chars e List.mem_cons_self)) _

/-- Behind a name there is no word character. -/
theorem head?_textOf (h : Spaced (p :: ps)) (name : p.isMark = false) :
    ∀ c ∈ (textOf ps).head?, isWordChar c = false := by
  cases ps with
  | nil => simp
  | cons q ps =>
    obtain ⟨e, he, rfl⟩ := exists_mark_of_next h name
    have each : marks.all (fun e => !isWordChar e) = true := by decide
    simpa [Part.chars] using List.all_eq_true.mp each e he

theorem name?_cons {c : Char} (h : c ∉ openings) (rest : List Char) :
    name? (c :: rest) =
      if isWordChar c then some (c :: rest.takeWhile isWordChar, rest.dropWhile isWordChar) else none := by
  simp only [openings, List.mem_cons, List.not_mem_nil, or_false, not_or] at h
  rw [name?, if_neg (by simp [h.1, h.2.1]), if_neg h.2.2]

theorem name?_quoted {cs : List Char} (nonempty : cs ≠ []) (inside : ∀ c ∈ cs, isNameChar c = true)
    (rest : List Char) : name? ('"' :: (cs ++ ['"']) ++ rest) = some ('"' :: (cs ++ ['"']), rest) := by
  have no_quote : '"' ∉ cs := fun found =>
    not_mem_of_isNameChar (inside _ found) (by decide) (List.mem_singleton_self '"')
  rw [List.cons_append, List.append_assoc, List.singleton_append, name?, if_pos (.inl rfl), delimitedName?_eq_some_iff]
  exact ⟨cs, nonempty, no_quote, rfl, rfl⟩

private theorem eq_of_name?_word {cs : List Char} (h : Spaced (.word cs :: ps)) (hu : u ≠ []) (suffix : u <:+ cs)
    {name : List Char} (read : name? (u ++ textOf ps) = some (name, r)) (blank : (blanks? r).isSome = true) :
    name = u ∧ r = textOf ps := by
  obtain ⟨c, v, rfl⟩ := List.exists_cons_of_ne_nil hu
  cases h.head with
  | word nonempty chars =>
    have inside : ∀ e ∈ c :: v, isBlank e = false ∧ e ∉ openings := fun e he => chars e (suffix.mem he)
    rw [List.cons_append, name?_cons (inside c List.mem_cons_self).2] at read
    split at read
    · obtain ⟨rfl, rfl⟩ := Prod.mk.inj (Option.some.inj read)
      cases left : v.dropWhile isWordChar with
      | nil =>
        have stop := takeWhile_append_of_maximal (List.dropWhile_eq_nil_iff.mp left) (head?_textOf h rfl)
        rw [stop.1, stop.2]
        exact ⟨rfl, rfl⟩
      | cons e after =>
        -- the name stops inside of the part, where there are no blanks
        have within : e ∈ v := (List.dropWhile_suffix isWordChar).mem (by rw [left]; exact List.mem_cons_self)
        refine absurd ?_ (ne_cons_of_blank blank (inside e (List.mem_cons_of_mem c within)).1 (after ++ textOf ps))
        rw [List.dropWhile_append, left]
        rfl
    · cases read

private theorem eq_of_name?_quoted {cs : List Char} (h : Spaced (.quoted cs :: ps)) (hu : u ≠ [])
    (suffix : u <:+ (Part.quoted cs).chars) {name : List Char} (read : name? (u ++ textOf ps) = some (name, r))
    (blank : (blanks? r).isSome = true) : name = u ∧ r = textOf ps := by
  obtain ⟨c, v, rfl⟩ := List.exists_cons_of_ne_nil hu
  cases h.head with
  | quoted chars =>
    rcases List.suffix_cons_iff.mp suffix with whole | rest
    · obtain ⟨rfl, rfl⟩ := List.cons.inj whole
      have nonempty : cs ≠ [] := by
        rintro rfl
        cases read
      rw [name?_quoted nonempty chars] at read
      obtain ⟨rfl, rfl⟩ := Prod.mk.inj (Option.some.inj read)
      exact ⟨rfl, rfl⟩
    · obtain none | ⟨t, split, left⟩ := List.suffix_concat_iff.mp rest
      · cases none
      · cases t with
        | nil =>
          -- the closing quote, up to the next quote, which opens a name
          obtain ⟨rfl, rfl⟩ := List.cons.inj split
          rw [List.cons_append, List.nil_append, name?, if_pos (.inl rfl), delimitedName?] at read
          split at read
          · cases read
          · rename_i e after first
            split at read
            · cases read
            · obtain ⟨-, rfl⟩ := Prod.mk.inj (Option.some.inj read)
              rw [blanks?_of_dropWhile h.tail first] at blank
              cases blank
        | cons e t =>
          -- a name without its opening quote is a word up to the closing one
          rw [List.cons_append] at split
          obtain ⟨rfl, rfl⟩ := List.cons.inj split
          have names : ∀ x ∈ c :: t, isNameChar x = true := fun x hx => chars x (left.mem hx)
          have quote : ∀ x ∈ ('"' :: textOf ps).head?, isWordChar x = false := by
            rintro x ⟨⟩
            decide
          have stop := takeWhile_append_of_maximal
            (fun x hx => isWordChar_of_isNameChar (names x (List.mem_cons_of_mem c hx))) quote
          have word := names c List.mem_cons_self
          rw [List.cons_append, List.append_assoc, List.singleton_append,
            name?_cons (not_mem_of_isNameChar word (by decide)), isWordChar_of_isNameChar word, if_pos rfl,
            stop.2] at read
          exact absurd (Prod.mk.inj (Option.some.inj read)).2.symm (ne_cons_of_blank blank (by decide) _)

/-- A name that begins in a part and is followed by a blank is all that is left of the part. -/
theorem eq_of_name? (h : Spaced (p :: ps)) (hu : u ≠ []) (suffix : u <:+ p.chars) {name : List Char}
    (read : name? (u ++ textOf ps) = some (name, r)) (blank : (blanks? r).isSome = true) :
    p.isMark = false ∧ name = u ∧ r = textOf ps := by
  cases p with
  | word cs => exact ⟨rfl, eq_of_name?_word h hu suffix read blank⟩
  | quoted cs => exact ⟨rfl, eq_of_name?_quoted h hu suffix read blank⟩
  | mark e =>
    have mark : e ∈ marks := by
      cases h.head with
      | mark he => exact he
    have each : marks.all (fun e => !isWordChar e && !openings.contains e) = true := by decide
    have other := List.all_eq_true.mp each e mark
    simp only [Bool.and_eq_true, Bool.not_eq_true', List.contains_eq_mem, decide_eq_false_iff_not] at other
    obtain rfl : u = [e] := (List.suffix_cons_iff.mp suffix).resolve_right fun none => hu (List.suffix_nil.mp none)
    rw [List.cons_append, name?_cons other.2, other.1] at read
    cases read

theorem valid_keyword {cs : List Char} (h : isKeyword cs = true) : (Part.word cs).Valid := by
  rw [isKeyword, Bool.and_eq_true] at h
  refine .word (by simpa using h.1) fun c hc => ?_
  have name : isNameChar c = true := by
    have alpha := List.all_eq_true.mp h.2 c hc
    simp [isNameChar, Char.isAlphanum, alpha]
  exact ⟨isBlank_of_isNameChar name, not_mem_of_isNameChar name (by decide)⟩

/-! ### Putting parts together -/

theorem Spaced.append (h : Spaced ps) (k : Spaced qs) (seam : ∀ p ∈ ps.getLast?, ∀ q ∈ qs.head?, p.Apart q) :
    Spaced (ps ++ qs) := by
  constructor
  · intro p hp
    rcases List.mem_append.mp hp with hp | hp
    · exact h.valid p hp
    · exact k.valid p hp
  · exact List.isChain_append.mpr ⟨h.apart, k.apart, seam⟩

theorem Spaced.singleton (h : p.Valid) : Spaced [p] := ⟨by simpa using h, List.isChain_singleton p⟩

/-- Anything may stand next to a mark that is no blank. -/
theorem Spaced.cons_mark {c : Char} (hc : c ∈ marks) (other : c ≠ ' ') (h : Spaced ps) : Spaced (.mark c :: ps) := by
  refine (Spaced.singleton (.mark hc)).append h ?_
  rintro p ⟨⟩ q -
  exact ⟨.inl rfl, fun same => absurd (Part.mark.inj same) other⟩

theorem Spaced.concat_mark {c : Char} (hc : c ∈ marks) (other : c ≠ ' ') (h : Spaced ps) :
    Spaced (ps ++ [.mark c]) := by
  refine h.append (.singleton (.mark hc)) ?_
  rintro p - q ⟨⟩
  exact ⟨.inr rfl, fun _ same => absurd (Part.mark.inj same) other⟩

theorem Spaced.cons_blank (h : Spaced ps) (first : ∀ p ∈ ps.head?, p ≠ .blank) : Spaced (.blank :: ps) := by
  refine (Spaced.singleton (.mark (by decide))).append h ?_
  rintro p ⟨⟩ q hq
  exact ⟨.inl rfl, fun _ => first q hq⟩

/-- Lists of parts with a comma and a blank between. -/
def joined : List (List Part) → List Part
  | [] => []
  | e :: es => e ++ es.flatMap fun f => .comma :: .blank :: f

theorem joined_cons {es : List (List Part)} (nonempty : es ≠ []) (e : List Part) :
    joined (e :: es) = e ++ .comma :: .blank :: joined es := by
  obtain ⟨f, es, rfl⟩ := List.exists_cons_of_ne_nil nonempty
  simp [joined]

theorem joined_append_cons (es : List (List Part)) (e : List Part) (fs : List (List Part)) :
    joined (es ++ e :: fs) =
      es.flatMap (fun f => f ++ [.comma, .blank]) ++ (e ++ fs.flatMap fun f => .comma :: .blank :: f) := by
  induction es with
  | nil => rfl
  | cons f es ih =>
    rw [List.cons_append, joined_cons (by simp), ih]
    simp

theorem mem_joined {es : List (List Part)} (h : p ∈ joined es) : p = .comma ∨ p = .blank ∨ ∃ e ∈ es, p ∈ e := by
  cases es with
  | nil => cases h
  | cons e es =>
    rcases List.mem_append.mp h with first | later
    · exact .inr (.inr ⟨e, List.mem_cons_self, first⟩)
    · obtain ⟨f, hf, inside⟩ := List.mem_flatMap.mp later
      rcases List.mem_cons.mp inside with rfl | inside
      · exact .inl rfl
      · rcases List.mem_cons.mp inside with rfl | inside
        · exact .inr (.inl rfl)
        · exact .inr (.inr ⟨f, List.mem_cons_of_mem e hf, inside⟩)

theorem mem_joined_of_mem {es : List (List Part)} {e : List Part} (he : e ∈ es) (hp : p ∈ e) : p ∈ joined es := by
  obtain ⟨f, es, rfl⟩ := List.exists_cons_of_ne_nil (List.ne_nil_of_mem he)
  rcases List.mem_cons.mp he with rfl | he
  · exact List.mem_append_left _ hp
  · refine List.mem_append_right _ (List.mem_flatMap.mpr ⟨e, he, ?_⟩)
    exact List.mem_cons_of_mem _ (List.mem_cons_of_mem _ hp)

theorem Spaced.joined {es : List (List Part)} (h : ∀ e ∈ es, Spaced e ∧ ∀ p ∈ e.head?, p ≠ .blank) :
    Spaced (joined es) := by
  cases es with
  | nil => exact ⟨nofun, .nil⟩
  | cons e es =>
    suffices later : ∀ fs : List (List Part), (∀ f ∈ fs, Spaced f ∧ ∀ p ∈ f.head?, p ≠ .blank) → ∀ e, Spaced e →
        Spaced (e ++ fs.flatMap fun f => .comma :: .blank :: f) from
      later es (fun f hf => h f (List.mem_cons_of_mem e hf)) e (h e List.mem_cons_self).1
    intro fs
    induction fs with
    | nil => exact fun _ e spaced => by simpa using spaced
    | cons f fs ih =>
      intro each e spaced
      have first := each f List.mem_cons_self
      have rest := ih (fun g hg => each g (List.mem_cons_of_mem f hg)) (.blank :: f) (first.1.cons_blank first.2)
      refine spaced.append (rest.cons_mark (c := ',') (by decide) (by decide)) ?_
      rintro p - q ⟨⟩
      exact ⟨.inr rfl, fun _ same => absurd (Part.mark.inj same) (by decide)⟩

/-- Parts that begin with a name and do not end with a blank. -/
structure Block (ps : List Part) : Prop where
  spaced : Spaced ps
  nonempty : ps ≠ []
  first : ∀ p ∈ ps.head?, p.isMark = false
  last : ∀ p ∈ ps.getLast?, p ≠ .blank

namespace Block

theorem singleton (valid : p.Valid) (name : p.isMark = false) : Block [p] := by
  refine ⟨.singleton valid, by simp, by simpa using name, ?_⟩
  rintro q ⟨⟩ rfl
  cases name

theorem first_ne (h : Block ps) : ∀ p ∈ ps.head?, p ≠ .blank := by
  rintro p hp rfl
  cases h.first _ hp

theorem spaced_blank (h : Block ps) : Spaced (.blank :: ps) := h.spaced.cons_blank h.first_ne

private theorem head?_append (h : Block ps) (qs : List Part) : ∀ p ∈ (ps ++ qs).head?, p.isMark = false := by
  obtain ⟨p, ps, rfl⟩ := List.exists_cons_of_ne_nil h.nonempty
  exact h.first

/-- Two blocks with a blank between. -/
theorem next (h : Block ps) (k : Block qs) : Block (ps ++ .blank :: qs) := by
  refine ⟨h.spaced.append k.spaced_blank ?_, by simp, h.head?_append _, ?_⟩
  · rintro p hp q ⟨⟩
    exact ⟨.inr rfl, fun same => absurd same (h.last p hp)⟩
  · obtain ⟨q, qs, rfl⟩ := List.exists_cons_of_ne_nil k.nonempty
    rw [List.getLast?_append, List.getLast?_cons_cons]
    have last := k.last
    simpa [List.getLast?_cons] using last

/-- A block and a list in parentheses, with a blank between. -/
theorem group (h : Block ps) (k : Spaced qs) : Block (ps ++ .blank :: .mark '(' :: (qs ++ [.mark ')'])) := by
  have list : Spaced (.mark '(' :: (qs ++ [.mark ')'])) :=
    (k.concat_mark (by decide) (by decide)).cons_mark (by decide) (by decide)
  refine ⟨h.spaced.append (list.cons_blank ?_) ?_, by simp, h.head?_append _, ?_⟩
  · rintro p ⟨⟩ same
    exact absurd (Part.mark.inj same) (by decide)
  · rintro p hp q ⟨⟩
    exact ⟨.inr rfl, fun same => absurd same (h.last p hp)⟩
  · have shape : ps ++ Part.blank :: .mark '(' :: (qs ++ [.mark ')']) =
        (ps ++ Part.blank :: .mark '(' :: qs) ++ [.mark ')'] := by simp
    rw [shape, List.getLast?_concat]
    rintro p ⟨⟩ same
    exact absurd (Part.mark.inj same) (by decide)

end Block

/-- Words, each behind a blank. -/
def spacedWords (ws : List String) : List Part := ws.flatMap fun w => [.blank, .word w.toList]

theorem Block.words (h : Block ps) (ws : List String) (keywords : ∀ w ∈ ws, isKeyword (w.toList) = true) :
    Block (ps ++ spacedWords ws) := by
  induction ws generalizing ps with
  | nil => simpa [spacedWords] using h
  | cons w ws ih =>
    have valid := valid_keyword (keywords w List.mem_cons_self)
    have rest := ih (h.next (.singleton valid rfl)) fun v hv => keywords v (List.mem_cons_of_mem w hv)
    simpa [spacedWords] using rest

end SqlSchema.CreateText
