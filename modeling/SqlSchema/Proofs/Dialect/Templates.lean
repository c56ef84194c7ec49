import SqlSchema.Dialect.Template

/-!
# Filled templates

Where texts and slots follow each other in a template, the texts and the values follow each other when it is filled
(`fill_texts` for the whole template, `holds_texts` for a part). Each character of a filled template is one of the
template or of a value (`mem_fill`).
-/

namespace SqlSchema

/-! ### Texts in texts -/

/-- Whether one text stands in another. -/
def Text.Holds (whole part : String) : Prop := ∃ front back, whole = front ++ part ++ back

namespace Text

variable {a b c : String}

theorem Holds.refl (a : String) : Holds a a := ⟨"", "", by simp⟩

theorem Holds.trans (h : Holds a b) (k : Holds b c) : Holds a c := by
  obtain ⟨front, back, rfl⟩ := h
  obtain ⟨front', back', rfl⟩ := k
  exact ⟨front ++ front', back' ++ back, by simp [String.append_assoc]⟩

theorem holds_intercalate {separator x : String} {xs : List String} (h : x ∈ xs) :
    Holds (separator.intercalate xs) x := by
  induction xs with
  | nil => cases h
  | cons y ys ih =>
    cases ys with
    | nil =>
      rw [List.mem_singleton.mp h, String.intercalate_singleton]
      exact .refl y
    | cons z zs =>
      rw [String.intercalate_cons_cons]
      rcases List.mem_cons.mp h with rfl | h
      · exact ⟨"", separator ++ separator.intercalate (z :: zs), by simp [String.append_assoc]⟩
      · exact Holds.trans ⟨y ++ separator, "", by simp⟩ (ih h)

end Text

namespace Template

variable {template : String} {value : Char → Option String}

/-! ### Parts of templates -/

/-- The pieces of a text without slots. -/
def plain (text : String) : List Piece := text.toList.map fun c => .atom (.char c)

/-- The piece that a slot is. -/
def slot (letter : Char) : Piece := .atom (.slot letter)

theorem flatMap_plain (text : String) : (plain text).flatMap (Piece.fill value) = text.toList := by
  simp [plain, List.flatMap_map, Piece.fill, Atom.fill?]

theorem fill_slot {c : Char} {text : String} (found : value c = some text) : (slot c).fill value = text.toList := by
  simp [slot, Piece.fill, Atom.fill?, found]

/-- The pieces of texts with a slot behind each, and of a last text. -/
def texts (parts : List (String × Char)) (last : String) : List Piece :=
  (parts.flatMap fun part => plain part.1 ++ [slot part.2]) ++ plain last

section Texts

variable {parts : List (String × Char)} {last : String} (found : ∀ part ∈ parts, (value part.2).isSome = true)

include found

private theorem flatMap_texts : (texts parts last).flatMap (Piece.fill value) =
    (String.join (parts.map fun part => part.1 ++ (value part.2).getD "") ++ last).toList := by
  have filled : ∀ part ∈ parts, (plain part.1 ++ [slot part.2]).flatMap (Piece.fill value) =
      (part.1 ++ (value part.2).getD "").toList := by
    intro part hp
    obtain ⟨text, known⟩ := Option.isSome_iff_exists.mp (found part hp)
    rw [List.flatMap_append, flatMap_plain, List.flatMap_singleton, fill_slot known, known, Option.getD_some,
      String.toList_append]
  rw [texts, List.flatMap_append, flatMap_plain, List.flatMap_assoc, String.toList_append, String.toList_join,
    List.flatMap_map, List.flatMap_def, List.map_congr_left filled, List.flatMap_def]

/-- A template of texts and slots, filled. -/
theorem fill_texts (split : pieces template.toList = texts parts last) :
    fill template value = String.join (parts.map fun part => part.1 ++ (value part.2).getD "") ++ last := by
  rw [← String.toList_inj, toList_fill, split, flatMap_texts found]

/-- Texts and slots in a template, filled. -/
theorem holds_texts (inside : texts parts last <:+: pieces template.toList) :
    Text.Holds (fill template value)
      (String.join (parts.map fun part => part.1 ++ (value part.2).getD "") ++ last) := by
  obtain ⟨front, back, split⟩ := inside
  refine ⟨String.ofList (front.flatMap (Piece.fill value)), String.ofList (back.flatMap (Piece.fill value)), ?_⟩
  rw [← String.toList_inj, toList_fill, ← split, List.flatMap_append, List.flatMap_append, flatMap_texts found]
  simp

end Texts

private theorem piecesFrom_none_cons {c : Char} (no_slot : c ≠ '$') (no_segment : c ≠ '[') (rest : List Char) :
    piecesFrom none (c :: rest) = .atom (.char c) :: piecesFrom none rest := by
  rw [piecesFrom]
  · exact no_segment
  · intro e more h
    exact absurd h no_slot

theorem pieces_append {cs : List Char} (no_slot : '$' ∉ cs) (no_segment : '[' ∉ cs) (rest : List Char) :
    pieces (cs ++ rest) = plain (String.ofList cs) ++ pieces rest := by
  induction cs with
  | nil => simp [plain]
  | cons c cs ih =>
    simp only [List.mem_cons, not_or] at no_slot no_segment
    have ih := ih no_slot.2 no_segment.2
    simp only [pieces, plain, String.toList_ofList] at ih ⊢
    rw [List.cons_append, piecesFrom_none_cons (Ne.symm no_slot.1) (Ne.symm no_segment.1), ih, List.map_cons,
      List.cons_append]

/-- A template without slots and segments is the text that it stands for. -/
theorem fill_eq_self (no_slot : '$' ∉ template.toList) (no_segment : '[' ∉ template.toList) :
    fill template value = template := by
  have split := pieces_append no_slot no_segment []
  rw [List.append_nil, String.ofList_toList] at split
  rw [← String.toList_inj, toList_fill, split, List.flatMap_append, flatMap_plain]
  simp [pieces, piecesFrom]

/-! ### Characters of filled templates -/

/-- The atoms of a piece. -/
def Piece.atoms : Piece → List Atom
  | .atom a => [a]
  | .segment body _ => body

/-- A character of a filled piece stands in the template or in a value. -/
private theorem mem_fill_atom {a : Atom} {cs : List Char} {c : Char} (filled : a.fill? value = some cs) (h : c ∈ cs) :
    a = .char c ∨ ∃ letter text, value letter = some text ∧ c ∈ text.toList := by
  cases a with
  | char e =>
    cases filled
    rw [List.mem_singleton.mp h]
    exact .inl rfl
  | slot letter =>
    obtain ⟨text, found, rfl⟩ := Option.map_eq_some_iff.mp filled
    exact .inr ⟨letter, text, found, h⟩

private theorem exists_of_mem_mapM {body : List Atom} {parts : List (List Char)}
    (filled : body.mapM (Atom.fill? value) = some parts) {cs : List Char} (h : cs ∈ parts) :
    ∃ a ∈ body, a.fill? value = some cs := by
  induction body generalizing parts with
  | nil =>
    cases filled
    cases h
  | cons a body ih =>
    simp only [List.mapM_cons, Option.bind_eq_bind, Option.bind_eq_some_iff, Option.pure_def] at filled
    obtain ⟨first, found, rest, others, whole⟩ := filled
    cases whole
    rcases List.mem_cons.mp h with rfl | h
    · exact ⟨a, List.mem_cons_self, found⟩
    · obtain ⟨b, hb, found⟩ := ih others h
      exact ⟨b, List.mem_cons_of_mem a hb, found⟩

/-- A character outside of segments stands in the text whatever the values are. -/
theorem mem_fill_of_char {c : Char} (h : .atom (.char c) ∈ pieces template.toList) :
    c ∈ (fill template value).toList := by
  rw [toList_fill, List.mem_flatMap]
  exact ⟨_, h, List.mem_singleton_self c⟩

theorem mem_fill {c : Char} (h : c ∈ (fill template value).toList) :
    (∃ p ∈ pieces template.toList, .char c ∈ p.atoms) ∨ ∃ letter text, value letter = some text ∧ c ∈ text.toList := by
  rw [toList_fill, List.mem_flatMap] at h
  obtain ⟨p, hp, h⟩ := h
  suffices found : ∃ a ∈ p.atoms, ∃ cs, a.fill? value = some cs ∧ c ∈ cs by
    obtain ⟨a, ha, cs, filled, hc⟩ := found
    rcases mem_fill_atom filled hc with rfl | within
    · exact .inl ⟨p, hp, ha⟩
    · exact .inr within
  cases p with
  | atom a =>
    cases filled : a.fill? value with
    | none =>
      rw [Piece.fill, filled] at h
      cases h
    | some cs =>
      rw [Piece.fill, filled] at h
      exact ⟨a, List.mem_singleton_self a, cs, filled, h⟩
  | segment body closed =>
    cases filled : body.mapM (Atom.fill? value) with
    | none =>
      rw [Piece.fill, filled] at h
      cases h
    | some parts =>
      rw [Piece.fill, filled] at h
      obtain ⟨cs, hcs, hc⟩ := List.mem_flatten.mp h
      obtain ⟨a, ha, found⟩ := exists_of_mem_mapM filled hcs
      exact ⟨a, ha, cs, found, hc⟩

end Template

end SqlSchema
