import SqlSchema.Proofs.Dialect.Templates
import SqlSchema.Proofs.Outcome

/-!
# The split of a template

What the pieces of a template are, without a word on how they are found: each piece `Leads` what stands behind it. A
template has exactly one such split, and `pieces` finds it (`isSplit_iff`). What is written for a piece is said by
`Piece.Gives` in the same way. Filling a template writes for each piece of its split what the piece gives, and it takes
one pass over the characters to do so (`fill_substitutes`).
-/

namespace SqlSchema.Template

/-! ### Splits -/

/-- The characters that an atom is in a template. -/
def Atom.text : Atom → List Char
  | .char c => [c]
  | .slot letter => ['$', letter]

/-- The characters that atoms are in a template. -/
def textOf (as : List Atom) : List Char := as.flatMap Atom.text

/-- The characters that a piece is in a template. -/
def Piece.text : Piece → List Char
  | .atom a => a.text
  | .segment body closed => '[' :: (textOf body ++ if closed then [']'] else [])

/-- The atom is the first one of a template in which `rest` stands behind it, but for brackets. -/
inductive Atom.Leads : Atom → List Char → Prop where
  /-- A character that stands for itself. -/
  | char {c : Char} {rest : List Char} (no_slot : c = '$' → ∀ l ∈ rest.head?, l.isAlpha = false) : Leads (.char c) rest
  | slot {letter : Char} {rest : List Char} (alpha : letter.isAlpha = true) : Leads (.slot letter) rest

/-- The atoms stand in a segment in front of `rest`: none of them ends the segment. -/
inductive Inside (rest : List Char) : List Atom → Prop where
  | nil : Inside rest []
  | cons {a : Atom} {as : List Atom} (no_end : a ≠ .char ']') (first : a.Leads (textOf as ++ rest))
      (later : Inside rest as) : Inside rest (a :: as)

/-- The piece is the first one of a template in which `rest` stands behind it. -/
inductive Piece.Leads : Piece → List Char → Prop where
  | atom {a : Atom} {rest : List Char} (no_segment : a ≠ .char '[') (first : a.Leads rest) : Leads (.atom a) rest
  /-- A segment up to the next closing bracket. -/
  | segment {body : List Atom} {rest : List Char} (inside : Inside (']' :: rest) body) :
      Leads (.segment body true) rest
  /-- A segment that is not closed. -/
  | openSegment {body : List Atom} (inside : Inside [] body) : Leads (.segment body false) []

/-- The pieces are those of the template. -/
inductive IsSplit : List Char → List Piece → Prop where
  | nil : IsSplit [] []
  | cons {p : Piece} {rest : List Char} {ps : List Piece} (first : p.Leads rest) (later : IsSplit rest ps) :
      IsSplit (p.text ++ rest) (p :: ps)

section Split

variable {a : Atom} {cs rest : List Char} {ps : List Piece}

/-- The first atom of a template is its first character or a slot. -/
private theorem exists_atom (c : Char) (cs : List Char) :
    ∃ a rest, c :: cs = Atom.text a ++ rest ∧ a.Leads rest ∧ rest.length ≤ cs.length ∧
      ∀ e, a = .char e → e = c := by
  by_cases slot : c = '$' ∧ ∃ l rest, cs = l :: rest ∧ l.isAlpha = true
  · obtain ⟨rfl, l, rest, rfl, alpha⟩ := slot
    exact ⟨.slot l, rest, rfl, .slot alpha, by simp, by simp⟩
  · refine ⟨.char c, cs, rfl, .char fun dollar l hl => ?_, Nat.le_refl _, by simp⟩
    obtain ⟨rest, rfl⟩ : ∃ rest, cs = l :: rest := List.head?_eq_some_iff.mp hl
    rw [Bool.eq_false_iff]
    exact fun alpha => slot ⟨dollar, l, rest, rfl, alpha⟩

/-- The atoms up to the closing bracket or to the end. -/
private theorem exists_inside (cs : List Char) :
    ∃ body rest, cs = textOf body ++ rest ∧ Inside rest body ∧ rest.length ≤ cs.length ∧
      (rest = [] ∨ ∃ more, rest = ']' :: more) := by
  induction len : cs.length using Nat.strongRecOn generalizing cs with
  | ind n ih =>
    cases cs with
    | nil => exact ⟨[], [], rfl, .nil, by simp, .inl rfl⟩
    | cons c cs =>
      rw [List.length_cons] at len
      by_cases ends : c = ']'
      · subst ends
        exact ⟨[], ']' :: cs, rfl, .nil, by simp [len], .inr ⟨cs, rfl⟩⟩
      · obtain ⟨a, more, split, first, shorter, same⟩ := exists_atom c cs
        obtain ⟨body, rest, rfl, inside, tail_le, tail⟩ := ih more.length (by omega) more rfl
        refine ⟨a :: body, rest, ?_, .cons (fun closing => ends (same _ closing).symm) first inside, by omega, tail⟩
        rw [split]
        simp [textOf]

private theorem exists_split (cs : List Char) : ∃ ps, IsSplit cs ps := by
  induction len : cs.length using Nat.strongRecOn generalizing cs with
  | ind n ih =>
    cases cs with
    | nil => exact ⟨[], .nil⟩
    | cons c cs =>
      rw [List.length_cons] at len
      by_cases bracket : c = '['
      · -- a segment, which is closed or reaches to the end
        subst bracket
        obtain ⟨body, rest, split, inside, shorter, rfl | ⟨rest, rfl⟩⟩ := exists_inside cs
        · have whole : '[' :: cs = (Piece.segment body false).text ++ [] := by simp [Piece.text, split]
          exact ⟨[.segment body false], whole ▸ .cons (.openSegment inside) .nil⟩
        · rw [List.length_cons] at shorter
          obtain ⟨ps, later⟩ := ih rest.length (by omega) rest rfl
          have whole : '[' :: cs = (Piece.segment body true).text ++ rest := by simp [Piece.text, split]
          exact ⟨.segment body true :: ps, whole ▸ .cons (.segment inside) later⟩
      · obtain ⟨a, rest, split, first, shorter, same⟩ := exists_atom c cs
        obtain ⟨ps, later⟩ := ih rest.length (by omega) rest rfl
        have no_segment : a ≠ .char '[' := fun opening => bracket (same _ opening).symm
        exact ⟨.atom a :: ps, split ▸ .cons (.atom no_segment first) later⟩

/-! What reading one atom more does. -/

private theorem piecesFrom_outside (no_segment : a ≠ .char '[') (first : a.Leads rest) :
    piecesFrom none (a.text ++ rest) = .atom a :: piecesFrom none rest := by
  cases first with
  | slot alpha => simp [Atom.text, piecesFrom, alpha]
  | @char c _ no_slot =>
    by_cases dollar : c = '$'
    · subst dollar
      cases rest with
      | nil => simp [Atom.text, piecesFrom]
      | cons l rest =>
        have other : l.isAlpha = false := no_slot rfl l rfl
        simp [Atom.text, piecesFrom, other]
    · have other : c ≠ '[' := by simpa using no_segment
      simp [Atom.text, piecesFrom, dollar]

private theorem piecesFrom_inside (body : List Atom) (no_end : a ≠ .char ']') (first : a.Leads rest) :
    piecesFrom (some body) (a.text ++ rest) = piecesFrom (some (body ++ [a])) rest := by
  cases first with
  | slot alpha => simp [Atom.text, piecesFrom, alpha]
  | @char c _ no_slot =>
    by_cases dollar : c = '$'
    · subst dollar
      cases rest with
      | nil => simp [Atom.text, piecesFrom]
      | cons l rest =>
        have other : l.isAlpha = false := no_slot rfl l rfl
        simp [Atom.text, piecesFrom, other]
    · have other : c ≠ ']' := by simpa using no_end
      simp [Atom.text, piecesFrom, dollar]

private theorem piecesFrom_body {body : List Atom} (inside : Inside rest body) (read : List Atom) :
    piecesFrom (some read) (textOf body ++ rest) = piecesFrom (some (read ++ body)) rest := by
  induction inside generalizing read with
  | nil => simp [textOf]
  | @cons a as no_end first _ ih =>
    have split : textOf (a :: as) ++ rest = a.text ++ (textOf as ++ rest) := by simp [textOf]
    rw [split, piecesFrom_inside read no_end first, ih, List.append_assoc]
    rfl

private theorem piecesFrom_of_leads {p : Piece} (first : p.Leads rest) :
    piecesFrom none (p.text ++ rest) = p :: piecesFrom none rest := by
  cases first with
  | atom no_segment first => exact piecesFrom_outside no_segment first
  | @segment body _ inside =>
    have split : (Piece.segment body true).text ++ rest = '[' :: (textOf body ++ ']' :: rest) := by
      simp [Piece.text]
    rw [split, piecesFrom, piecesFrom_body inside, List.nil_append, piecesFrom]
  | @openSegment body inside =>
    have read := piecesFrom_body inside []
    rw [List.append_nil, List.nil_append] at read
    have split : (Piece.segment body false).text ++ [] = '[' :: textOf body := by simp [Piece.text]
    have opened : piecesFrom none ('[' :: textOf body) = piecesFrom (some []) (textOf body) := by rw [piecesFrom]
    rw [split, opened, read, piecesFrom, piecesFrom]

/-- The pieces are the one split of a template. -/
theorem isSplit_iff : IsSplit cs ps ↔ pieces cs = ps := by
  have found {cs : List Char} {ps : List Piece} (split : IsSplit cs ps) : pieces cs = ps := by
    induction split with
    | nil => rfl
    | cons first _ ih =>
      rw [pieces] at ih ⊢
      rw [piecesFrom_of_leads first, ih]
  refine ⟨found, ?_⟩
  rintro rfl
  obtain ⟨ps, split⟩ := exists_split cs
  rwa [found split]

end Split

/-! ### What is written -/

section Gives

variable {value : Char → Option String} {a : Atom} {p : Piece} {text : List Char}

/-- An atom has a text: a character itself, a slot its value as it stands. -/
inductive Atom.Gives (value : Char → Option String) : Atom → List Char → Prop where
  | char {c : Char} : Gives value (.char c) [c]
  | slot {letter : Char} {text : String} (found : value letter = some text) : Gives value (.slot letter) text.toList

/-- What is written for a piece. -/
inductive Piece.Gives (value : Char → Option String) : Piece → List Char → Prop where
  | atom {a : Atom} {text : List Char} (given : a.Gives value text) : Gives value (.atom a) text
  | emptySlot {letter : Char} (missing : value letter = none) : Gives value (.atom (.slot letter)) []
  | segment {body : List Atom} {closed : Bool} {texts : List (List Char)}
      (given : List.Forall₂ (Atom.Gives value) body texts) : Gives value (.segment body closed) texts.flatten
  /-- A segment in which a slot has no value is left out. -/
  | dropped {body : List Atom} {closed : Bool} {letter : Char} (inside : .slot letter ∈ body)
      (missing : value letter = none) : Gives value (.segment body closed) []

theorem fill?_eq_some_iff : a.fill? value = some text ↔ a.Gives value text := by
  constructor
  · intro filled
    cases a with
    | char c =>
      cases filled
      exact .char
    | slot letter =>
      obtain ⟨_, found, rfl⟩ := Option.map_eq_some_iff.mp filled
      exact .slot found
  · rintro (_ | found)
    · rfl
    · rw [Atom.fill?, found, Option.map_some]

theorem fill?_eq_none_iff : a.fill? value = none ↔ ∃ letter, a = .slot letter ∧ value letter = none := by
  cases a <;> simp [Atom.fill?]

section Segment

variable {body : List Atom} {texts : List (List Char)}

private theorem mapM_fill?_of_gives (given : List.Forall₂ (Atom.Gives value) body texts) :
    body.mapM (Atom.fill? value) = some texts := by
  induction given with
  | nil => rfl
  | cons first _ ih => simp [fill?_eq_some_iff.mpr first, ih]

private theorem mapM_fill?_of_missing {letter : Char} (inside : .slot letter ∈ body) (missing : value letter = none) :
    body.mapM (Atom.fill? value) = none := by
  induction body with
  | nil => cases inside
  | cons a body ih =>
    rcases List.mem_cons.mp inside with rfl | inside
    · simp [Atom.fill?, missing]
    · simp [ih inside]

/-- The atoms have texts, or one of them is a slot without a value. -/
private theorem gives_or_missing (value : Char → Option String) (body : List Atom) :
    (∃ texts, List.Forall₂ (Atom.Gives value) body texts) ∨ ∃ letter, .slot letter ∈ body ∧ value letter = none := by
  induction body with
  | nil => exact .inl ⟨[], .nil⟩
  | cons a body ih =>
    cases here : a.fill? value with
    | none =>
      obtain ⟨letter, rfl, missing⟩ := fill?_eq_none_iff.mp here
      exact .inr ⟨letter, List.mem_cons_self, missing⟩
    | some text =>
      rcases ih with ⟨texts, given⟩ | ⟨letter, inside, missing⟩
      · exact .inl ⟨text :: texts, .cons (fill?_eq_some_iff.mp here) given⟩
      · exact .inr ⟨letter, List.mem_cons_of_mem a inside, missing⟩

end Segment

private theorem fill_of_gives (given : p.Gives value text) : p.fill value = text := by
  cases given with
  | atom given => rw [Piece.fill, fill?_eq_some_iff.mpr given, Option.getD_some]
  | emptySlot missing => rw [Piece.fill, Atom.fill?, missing, Option.map_none, Option.getD_none]
  | segment given => rw [Piece.fill, mapM_fill?_of_gives given, Option.map_some, Option.getD_some]
  | dropped inside missing => rw [Piece.fill, mapM_fill?_of_missing inside missing, Option.map_none, Option.getD_none]

private theorem gives_fill (p : Piece) : p.Gives value (p.fill value) := by
  -- some text is written, and it can only be that one
  have given : ∃ text, p.Gives value text := by
    cases p with
    | atom a =>
      cases here : a.fill? value with
      | none =>
        obtain ⟨letter, rfl, missing⟩ := fill?_eq_none_iff.mp here
        exact ⟨[], .emptySlot missing⟩
      | some text => exact ⟨text, .atom (fill?_eq_some_iff.mp here)⟩
    | segment body closed =>
      rcases gives_or_missing value body with ⟨texts, given⟩ | ⟨letter, inside, missing⟩
      · exact ⟨texts.flatten, .segment given⟩
      · exact ⟨[], .dropped inside missing⟩
  obtain ⟨text, given⟩ := given
  rwa [fill_of_gives given]

theorem gives_iff : p.Gives value text ↔ p.fill value = text :=
  ⟨fill_of_gives, fun filled => filled ▸ gives_fill p⟩

end Gives

/-! ### One pass -/

/-- Where a pass over a template is: outside of segments, or inside of one for which this text is to be written, or
nothing once a slot in it has no value. -/
inductive Place where
  | outside
  | inside (text : Option (List Char))

/-- What a pass over the characters of a template writes from a place on. A character is looked at once, and a dollar
sign together with the one behind it; a value is written and not looked at. -/
def pass (value : Char → Option String) : Place → List Char → List Char
  | .outside, [] => []
  | .inside text, [] => text.getD []
  | .outside, '[' :: rest => pass value (.inside (some [])) rest
  | .inside text, ']' :: rest => text.getD [] ++ pass value .outside rest
  | .outside, '$' :: c :: rest =>
    if c.isAlpha then ((value c).getD "").toList ++ pass value .outside rest
    else '$' :: pass value .outside (c :: rest)
  | .inside text, '$' :: c :: rest =>
    if c.isAlpha then pass value (.inside (text.bind fun cs => (value c).map fun v => cs ++ v.toList)) rest
    else pass value (.inside (text.map (· ++ ['$']))) (c :: rest)
  | .outside, c :: rest => c :: pass value .outside rest
  | .inside text, c :: rest => pass value (.inside (text.map (· ++ [c]))) rest

section Pass

variable {value : Char → Option String}

/-- The text of the atoms of a segment, if each of them has one. -/
def bodyText? (value : Char → Option String) (body : List Atom) : Option (List Char) :=
  (body.mapM (Atom.fill? value)).map List.flatten

private theorem bodyText?_append_singleton (body : List Atom) (a : Atom) :
    bodyText? value (body ++ [a]) = (bodyText? value body).bind fun cs => (a.fill? value).map (cs ++ ·) := by
  unfold bodyText?
  rw [List.mapM_append]
  cases body.mapM (Atom.fill? value) <;> cases here : a.fill? value <;> simp [here]

private theorem bodyText?_char (body : List Atom) (c : Char) :
    bodyText? value (body ++ [.char c]) = (bodyText? value body).map (· ++ [c]) := by
  rw [bodyText?_append_singleton]
  cases bodyText? value body <;> rfl

private theorem bodyText?_slot (body : List Atom) (letter : Char) :
    bodyText? value (body ++ [.slot letter]) =
      (bodyText? value body).bind fun cs => (value letter).map fun v => cs ++ v.toList := by
  rw [bodyText?_append_singleton]
  simp only [Atom.fill?, Option.map_map]
  rfl

/-- The pass writes what is written for the pieces. -/
private theorem pass_eq (read : Option (List Atom)) (cs : List Char) :
    pass value (read.elim .outside fun body => .inside (bodyText? value body)) cs =
      (piecesFrom read cs).flatMap (Piece.fill value) := by
  -- along the pieces, since there an open segment is known by its atoms
  fun_induction piecesFrom read cs with
  | case1 => rfl
  | case2 body => simp [pass, Piece.fill, bodyText?]
  | case3 rest ih => simpa [pass, bodyText?] using ih
  | case4 body rest ih => simpa [pass, Piece.fill, bodyText?] using ih
  | case5 c rest alpha ih =>
    rw [List.flatMap_cons, ← ih]
    cases found : value c <;> simp [pass, alpha, Piece.fill, Atom.fill?, found]
  | case6 c rest other ih => simpa [pass, other, Piece.fill, Atom.fill?] using ih
  | case7 body c rest alpha ih =>
    rw [← ih]
    simp [pass, alpha, bodyText?_slot]
  | case8 body c rest other ih =>
    rw [← ih]
    simp [pass, other, bodyText?_char]
  | case9 c rest no_segment no_slot ih => simpa [pass, no_segment, no_slot, Piece.fill, Atom.fill?] using ih
  | case10 body c rest no_end no_slot ih =>
    rw [← ih]
    simp [pass, bodyText?_char]

theorem pass_eq_fill (template : String) (value : Char → Option String) :
    pass value .outside template.toList = (fill template value).toList := by
  rw [toList_fill]
  exact pass_eq none template.toList

/-- Look-ups give the same for the letters that stand behind a dollar sign. -/
def AgreeOn (cs : List Char) (value other : Char → Option String) : Prop :=
  ∀ letter, letter.isAlpha = true → ['$', letter] <:+: cs → value letter = other letter

private theorem AgreeOn.tail {other : Char → Option String} {c : Char} {cs : List Char}
    (agree : AgreeOn (c :: cs) value other) : AgreeOn cs value other :=
  fun letter alpha inside => agree letter alpha (inside.trans (List.suffix_cons c cs).isInfix)

private theorem AgreeOn.slot {other : Char → Option String} {c : Char} {cs : List Char}
    (agree : AgreeOn ('$' :: c :: cs) value other) (alpha : c.isAlpha = true) : value c = other c :=
  agree c alpha ⟨[], cs, rfl⟩

private theorem pass_congr {other : Char → Option String} {place : Place} {cs : List Char}
    (agree : AgreeOn cs value other) : pass value place cs = pass other place cs := by
  fun_induction pass value place cs with
  | case1 => rfl
  | case2 text => rfl
  | case3 rest ih => rw [pass, ih agree.tail]
  | case4 text rest ih => rw [pass, ih agree.tail]
  | case5 c rest alpha ih => rw [pass, if_pos alpha, agree.slot alpha, ih agree.tail.tail]
  | case6 c rest no_letter ih => rw [pass, if_neg no_letter, ih agree.tail]
  | case7 text c rest alpha ih => rw [pass, if_pos alpha, ← agree.slot alpha, ih agree.tail.tail]
  | case8 text c rest no_letter ih => rw [pass, if_neg no_letter, ih agree.tail]
  | case9 c rest no_segment no_slot ih => rw [pass, ih agree.tail] <;> assumption
  | case10 text c rest no_end no_slot ih => rw [pass, ih agree.tail] <;> assumption

/-- For each piece there is one text to be written. -/
private theorem forall₂_gives_iff {ps : List Piece} {texts : List (List Char)} :
    List.Forall₂ (Piece.Gives value) ps texts ↔ texts = ps.map (Piece.fill value) := by
  induction ps generalizing texts with
  | nil => rw [List.forall₂_nil_left_iff, List.map_nil]
  | cons p ps ih => simp [List.forall₂_cons_left_iff, gives_iff, ih]

/-- A template splits into characters, slots and segments in one way, and for each piece there is one text to be
written. Filling the template writes these texts one behind the other, in one pass over the characters, and only the
letters that stand behind a dollar sign are looked up. -/
theorem fill_substitutes (template : String) (value : Char → Option String) :
    ∃ ps texts, (∀ split, IsSplit template.toList split ↔ split = ps) ∧
      (∀ written, List.Forall₂ (Piece.Gives value) ps written ↔ written = texts) ∧
      (fill template value).toList = texts.flatten ∧ pass value .outside template.toList = texts.flatten ∧
      ∀ other, AgreeOn template.toList value other → fill template other = fill template value := by
  refine ⟨pieces template.toList, (pieces template.toList).map (Piece.fill value), fun split => ?_,
    fun written => forall₂_gives_iff, ?_, ?_, fun other agree => ?_⟩
  · rw [isSplit_iff, eq_comm]
  · rw [toList_fill, List.flatMap_def]
  · rw [pass_eq_fill, toList_fill, List.flatMap_def]
  · rw [← String.toList_inj, ← pass_eq_fill, ← pass_eq_fill, pass_congr agree]

end Pass

/-- The start of a definition, with a slot outside of segments and two segments with a slot. -/
def clause : String := "DEFAULT $v[ FOR $c][ AS [$n]]$"

/-- Values for two of the slots that look like parts of a template. -/
def clauseValues : List (Char × String) := [('v', "'$c'"), ('c', "[a]")]

/-- The values stand there as they are, the segment without a value is left out, and a value for a letter that is no
slot changes nothing. -/
theorem fill_substitutes_in_clause :
    ∃ ps texts, IsSplit clause.toList ps ∧ List.Forall₂ (Piece.Gives (clauseValues.lookup ·)) ps texts ∧
      texts.flatten = "DEFAULT '$c' FOR [a]]$".toList ∧ AgreeOn clause.toList (clauseValues.lookup ·)
        ((('D', "?") :: clauseValues).lookup ·) ∧
      fillWith clause (('D', "?") :: clauseValues) = fillWith clause clauseValues := by
  obtain ⟨ps, texts, split, written, filled, -, congr⟩ := fill_substitutes clause (clauseValues.lookup ·)
  have same : texts.flatten = "DEFAULT '$c' FOR [a]]$".toList := by
    rw [← filled]
    decide +kernel
  have agree : AgreeOn clause.toList (clauseValues.lookup ·) ((('D', "?") :: clauseValues).lookup ·) := by
    intro letter _ inside
    have other : letter ≠ 'D' := by
      rintro rfl
      exact absurd inside (by decide +kernel)
    simp [List.lookup_cons, beq_false_of_ne other]
  exact ⟨ps, texts, (split ps).mpr rfl, (written texts).mpr rfl, same, agree, congr _ agree⟩

end SqlSchema.Template
