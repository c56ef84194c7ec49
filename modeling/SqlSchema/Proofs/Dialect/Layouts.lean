import Mathlib.Data.List.Basic
import SqlSchema.Dialect.Native
import SqlSchema.Dialect.Spelling
import SqlSchema.Proofs.Dialect.Templates

/-!
# Layouts of type spellings

The parameters of a type are a length, or a precision and perhaps a scale (`ParamUse`), and a spelling that takes them
is a text with a place for them in parentheses (`Layout`). Filled with parameters that suit the type, the spelling is
that text around the numbers (`Layout.fill_eq`).

The text is a native type name from which all can be read off again. Its words are those of the spelling
(`Layout.typeWords_write`), its numbers are those of the parameters (`Layout.typeArguments_write`), and from the numbers
come the parameters, but for a scale of zero (`paramsFor?_ofNumbers`).
-/

namespace SqlSchema

/-! ### The parameters of a type -/

/-- The parameters that belong to a type together. -/
inductive ParamUse where
  | nothing | length | precision | precisionAndScale
deriving DecidableEq, Repr

/-- What a type with these parameters makes of each. -/
def ParamUse.need : ParamUse → Param → Need
  | .length, .length => .required
  | .precision, .precision => .optional
  | .precisionAndScale, .precision => .required
  | .precisionAndScale, .scale => .optional
  | _, _ => .forbidden

/-- The parameters of a type. -/
def ColumnType.paramUse : ColumnType → ParamUse
  | .char | .nchar | .varchar | .nvarchar | .binary | .varbinary => .length
  | .decimal | .numeric => .precisionAndScale
  | .float => .precision
  | _ => .nothing

theorem ColumnType.need_eq (t : ColumnType) (q : Param) : t.need q = t.paramUse.need q := by
  cases t <;> cases q <;> rfl

/-- The values that the parameters can have. -/
inductive ParamUse.Takes : ParamUse → TypeParams → Prop
  | nothing : Takes .nothing {}
  | length {l : Nat} (positive : 0 < l) : Takes .length { length := some l }
  | noPrecision : Takes .precision {}
  | precision {n : Nat} (positive : 0 < n) : Takes .precision { precision := some n }
  | noScale {n : Nat} (positive : 0 < n) : Takes .precisionAndScale { precision := some n }
  | scale {n s : Nat} (positive : 0 < n) (le : s ≤ n) :
      Takes .precisionAndScale { precision := some n, scale := some s }

namespace TypeParams

variable {p : TypeParams} {t : ColumnType} {use : ParamUse}

theorem takes_of_suitable (h : p.Suitable t) : t.paramUse.Takes p := by
  have allowed : ∀ q, t.paramUse.need q = .forbidden → p.get q = none := by
    intro q forbidden
    apply h.allowed q
    rw [t.need_eq, forbidden]
  have given : ∀ q, t.paramUse.need q = .required → ∃ n, p.get q = some n := by
    intro q required
    apply Option.isSome_iff_exists.mp
    apply h.given q
    rw [t.need_eq, required]
  have positive : ∀ q n, q ≠ .scale → p.get q = some n → 0 < n := by
    intro q n other found
    have nonzero := h.positive q other
    rw [found] at nonzero
    apply Nat.pos_of_ne_zero
    intro zero
    apply nonzero
    rw [zero]
  have scale_le := h.scale_le
  obtain ⟨length, precision, scale⟩ := p
  cases use : t.paramUse with
  | nothing =>
    rw [use] at allowed
    obtain rfl : length = none := allowed .length rfl
    obtain rfl : precision = none := allowed .precision rfl
    obtain rfl : scale = none := allowed .scale rfl
    exact .nothing
  | length =>
    rw [use] at allowed given
    obtain ⟨l, rfl⟩ : ∃ l, length = some l := given .length rfl
    obtain rfl : precision = none := allowed .precision rfl
    obtain rfl : scale = none := allowed .scale rfl
    exact .length (positive .length l (by decide) rfl)
  | precision =>
    rw [use] at allowed
    obtain rfl : length = none := allowed .length rfl
    obtain rfl : scale = none := allowed .scale rfl
    cases precision with
    | none => exact .noPrecision
    | some n => exact .precision (positive .precision n (by decide) rfl)
  | precisionAndScale =>
    rw [use] at allowed given
    obtain rfl : length = none := allowed .length rfl
    obtain ⟨n, rfl⟩ : ∃ n, precision = some n := given .precision rfl
    have precision_positive := positive .precision n (by decide) rfl
    cases scale with
    | none => exact .noScale precision_positive
    | some s => exact .scale precision_positive (scale_le n s rfl rfl)

theorem suitable_of_takes (h : t.paramUse.Takes p) : p.Suitable t := by
  have need := t.need_eq
  generalize t.paramUse = use at h need
  constructor
  case given =>
    intro q
    rw [need]
    cases h <;> cases q <;> simp [ParamUse.need, get]
  case allowed =>
    intro q
    rw [need]
    cases h <;> cases q <;> simp [ParamUse.need, get]
  case positive =>
    intro q
    cases h <;> cases q <;> simp [get] <;> omega
  case scale_le =>
    intro n s
    cases h <;> simp
    omega

/-- The numbers of the parameters, in the order in which a spelling has them. -/
def numbers (p : TypeParams) : List Nat := (p.length.or p.precision).toList ++ p.scale.toList

theorem exists_param_of_mem_numbers {n : Nat} (h : n ∈ p.numbers) : ∃ q, p.get q = some n := by
  rcases List.mem_append.mp h with first | second
  · rcases Option.or_eq_some_iff.mp (Option.mem_toList.mp first) with length | ⟨-, precision⟩
    · exact ⟨.length, length⟩
    · exact ⟨.precision, precision⟩
  · exact ⟨.scale, Option.mem_toList.mp second⟩

theorem length_numbers_le (p : TypeParams) : p.numbers.length ≤ 2 := by
  have first : (p.length.or p.precision).toList.length ≤ 1 := by
    cases p.length.or p.precision <;> simp
  have second : p.scale.toList.length ≤ 1 := by
    cases p.scale <;> simp
  rw [numbers, List.length_append]
  omega

/-- The second number is the scale. -/
theorem getElem?_numbers_one (h : use.Takes p) : p.numbers[1]? = p.scale := by
  cases h <;> rfl

/-- Without numbers there are no parameters. -/
theorem eq_default_of_numbers (h : use.Takes p) (no_number : p.numbers = []) :
    p = {} ∧ (use = .nothing ∨ use = .precision) := by
  cases h with
  | nothing => exact ⟨rfl, .inl rfl⟩
  | noPrecision => exact ⟨rfl, .inr rfl⟩
  | length | precision | noScale | scale => cases no_number

/-- The parameters with a scale of zero left out. -/
def withoutZeroScale (p : TypeParams) : TypeParams := { p with scale := p.scale.filter (0 < ·) }

theorem withoutZeroScale_eq_self (h : p.scale ≠ some 0) : p.withoutZeroScale = p := by
  obtain ⟨length, precision, scale⟩ := p
  rcases scale with _ | _ | s
  · rfl
  · exact absurd rfl h
  · rfl

theorem takes_withoutZeroScale (h : use.Takes p) : use.Takes p.withoutZeroScale := by
  cases h with
  | nothing => exact .nothing
  | length positive => exact .length positive
  | noPrecision => exact .noPrecision
  | precision positive => exact .precision positive
  | noScale positive => exact .noScale positive
  | @scale n s positive le =>
    cases s with
    | zero => exact .noScale positive
    | succ s => exact .scale positive le

end TypeParams

/-! ### Parameters from numbers -/

namespace NativeParams

variable {p : TypeParams} {t : ColumnType}

/-- What is known of a native type from the numbers in its name. -/
def ofNumbers (ns : List Nat) : NativeParams := { size := ns[0]?, precision := ns[0]?, scale := ns[1]? }

theorem paramsFor?_of_nothing (n : NativeParams) (h : t.paramUse = .nothing) : n.paramsFor? t = some {} := by
  have check : TypeParams.check {} t = .ok () := by
    rw [TypeParams.check_eq_ok_iff]
    apply TypeParams.suitable_of_takes
    rw [h]
    exact .nothing
  simp [paramsFor?, pick, t.need_eq, h, ParamUse.need, check]

/-- The numbers of parameters give the parameters. -/
theorem paramsFor?_ofNumbers (h : t.paramUse.Takes p) :
    (ofNumbers p.numbers).paramsFor? t = some p.withoutZeroScale := by
  have check : p.withoutZeroScale.check t = .ok () :=
    TypeParams.check_eq_ok_iff.mpr (TypeParams.suitable_of_takes (TypeParams.takes_withoutZeroScale h))
  have need := t.need_eq
  generalize t.paramUse = use at h need
  have picked : pick t .length (ofNumbers p.numbers).size = some p.length ∧
      pick t .precision (ofNumbers p.numbers).precision = some p.precision := by
    simp only [pick, need]
    cases h <;> exact ⟨rfl, rfl⟩
  have scale : (p.precision.isSome = true → pick t .scale (ofNumbers p.numbers).scale = some p.scale) ∧
      (p.precision.isSome = false → p.scale = none) := by
    simp only [pick, need]
    cases h <;> simp [ParamUse.need, ofNumbers, TypeParams.numbers]
  simp only [TypeParams.withoutZeroScale] at check ⊢
  simp only [paramsFor?, picked, Option.bind_eq_bind, Option.bind_some]
  split
  · rename_i known
    rw [scale.1 known, Option.bind_some, check]
  · rename_i unknown
    rw [scale.2 (by simpa using unknown)] at check ⊢
    rw [check]

/-- A spelling whose numbers match others has those numbers. Only a scale of zero need not be in the spelling. -/
theorem eq_of_matchesNumbers {ns literal : List Nat} (short : ns.length ≤ 2) (literal_short : literal.length ≤ 2)
    (no_zero : ns[1]? ≠ some 0) (h : (ofNumbers ns).matchesNumbers literal = true) : literal = ns := by
  match literal, ns with
  | [], _ => cases h
  | _ :: _, [] => simp [matchesNumbers, ofNumbers] at h
  | a :: rest, b :: more =>
    simp only [matchesNumbers, ofNumbers, List.getElem?_cons_zero, List.getElem?_cons_succ, Option.or_self,
      Bool.and_eq_true, beq_iff_eq, Option.some.injEq] at h no_zero
    obtain ⟨rfl, h⟩ := h
    match rest, more with
    | [], [] => rfl
    | [], s :: _ =>
      simp only [List.getElem?_cons_zero, Option.getD_some, beq_iff_eq] at h no_zero
      exact absurd (by rw [h]) no_zero
    | _ :: _, [] => simp at h
    | s :: rest, s' :: more =>
      simp only [List.getElem?_cons_zero, beq_iff_eq, Option.some.injEq] at h
      simp only [List.length_cons] at short literal_short
      have no_rest : rest = [] := List.eq_nil_of_length_eq_zero (by omega)
      have no_more : more = [] := List.eq_nil_of_length_eq_zero (by omega)
      rw [h, no_rest, no_more]

end NativeParams

/-! ### Numbers in parentheses -/

/-- Whether a character stands for itself in templates and in native types. -/
def isBare (c : Char) : Bool := c ∉ ['(', ')', '[', ']', '$']

theorem not_mem_of_bare {cs : List Char} (bare : ∀ c ∈ cs, isBare c = true) {c : Char} (special : isBare c = false) :
    c ∉ cs := by
  intro h
  rw [bare c h] at special
  cases special

theorem isBare_of_isDigit {c : Char} (h : c.isDigit = true) : isBare c = true := by
  have no_digit : (['(', ')', '[', ']', '$'].all fun e => !e.isDigit) = true := by decide
  have other : c ∉ ['(', ')', '[', ']', '$'] := by
    intro hc
    have no_digit := List.all_eq_true.mp no_digit c hc
    rw [h] at no_digit
    cases no_digit
  exact decide_eq_true other

/-- Numbers with commas between them. -/
def numerals (ns : List Nat) : List Char := [','].intercalate (ns.map (Nat.toDigits 10))

/-- Numbers in parentheses, or nothing where there are none. -/
def inParens : List Nat → List Char
  | [] => []
  | ns => '(' :: numerals ns ++ [')']

theorem isBare_of_mem_numerals {ns : List Nat} {c : Char} (h : c ∈ numerals ns) : isBare c = true := by
  induction ns with
  | nil => cases h
  | cons n ns ih =>
    cases ns with
    | nil =>
      have digit : c ∈ Nat.toDigits 10 n := by simpa [numerals, List.intercalate] using h
      exact isBare_of_isDigit (Text.isDigit_of_mem_toDigits digit)
    | cons m ns =>
      rw [numerals, List.map_cons, List.map_cons, List.intercalate_cons_cons, List.append_assoc, List.mem_append,
        List.singleton_append, List.mem_cons] at h
      rcases h with digit | rfl | rest
      · exact isBare_of_isDigit (Text.isDigit_of_mem_toDigits digit)
      · decide
      · exact ih rest

/-- The numbers are read again from between the commas. -/
theorem filterMap_splitOn_numerals {ns : List Nat} (ne : ns ≠ []) (bounded : ∀ n ∈ ns, n < 4294967296) :
    ((Text.splitOn ',' (numerals ns)).filterMap fun argument => Text.readCount? (Text.trimChars argument)) = ns := by
  have parts : Text.splitOn ',' (numerals ns) = ns.map (Nat.toDigits 10) := by
    apply Text.splitOn_intercalate (by simpa using ne)
    intro part hpart comma
    obtain ⟨n, -, rfl⟩ := List.mem_map.mp hpart
    cases Text.isDigit_of_mem_toDigits comma
  have read : ∀ n ∈ ns, Text.readCount? (Text.trimChars (Nat.toDigits 10 n)) = some n := by
    intro n hn
    have no_blank : ∀ c ∈ Nat.toDigits 10 n, Text.isBlank c = false := by
      intro c hc
      apply Text.isBlank_of_isDigit
      exact Text.isDigit_of_mem_toDigits hc
    rw [Text.trimChars_of_no_blank no_blank, Text.readCount?_toDigits (bounded n hn)]
  rw [parts, List.filterMap_map]
  calc ns.filterMap ((fun argument => Text.readCount? (Text.trimChars argument)) ∘ Nat.toDigits 10)
      = ns.filterMap some := List.filterMap_congr read
    _ = ns := List.filterMap_some

/-! ### The place of parameters -/

namespace ParamUse

/-- How a template writes the place of parameters. -/
def slots : ParamUse → List Char
  | nothing => []
  | length => ['(', '$', 'l', ')']
  | precision => ['[', '(', '$', 'p', ')', ']']
  | precisionAndScale => ['(', '$', 'p', '[', ',', '$', 's', ']', ')']

/-- The pieces into which that falls. -/
def pieces : ParamUse → List Template.Piece
  | nothing => []
  | length => [.atom (.char '('), .atom (.slot 'l'), .atom (.char ')')]
  | precision => [.segment [.char '(', .slot 'p', .char ')'] true]
  | precisionAndScale =>
    [.atom (.char '('), .atom (.slot 'p'), .segment [.char ',', .slot 's'] true, .atom (.char ')')]

theorem pieces_slots (use : ParamUse) (rest : List Char) :
    Template.pieces (use.slots ++ rest) = use.pieces ++ Template.pieces rest := by
  cases use <;> rfl

theorem flatMap_pieces {use : ParamUse} {p : TypeParams} (takes : use.Takes p) :
    use.pieces.flatMap (Template.Piece.fill (Dialect.paramSlot p)) = inParens p.numbers := by
  cases takes <;>
    simp [pieces, Template.Piece.fill, Template.Atom.fill?, Dialect.paramSlot, TypeParams.numbers, inParens, numerals,
      List.intercalate, List.intersperse]

end ParamUse

/-! ### What stands outside of brackets -/

theorem outsideBrackets_cons_of_bare {c : Char} (bare : isBare c = true) (depth : Nat) (rest : List Char) :
    outsideBrackets depth (c :: rest) =
      if depth = 0 then c :: outsideBrackets depth rest else outsideBrackets depth rest := by
  simp only [isBare, List.mem_cons, List.not_mem_nil, or_false, not_or, decide_eq_true_eq] at bare
  obtain ⟨not_open, not_close, not_open', not_close', -⟩ := bare
  simp only [outsideBrackets, not_open, not_open', not_close, not_close', decide_false, Bool.or_self,
    Bool.false_eq_true, if_false]

theorem outsideBrackets_append {cs : List Char} (bare : ∀ c ∈ cs, isBare c = true) (depth : Nat) (rest : List Char) :
    outsideBrackets depth (cs ++ rest) = (if depth = 0 then cs else []) ++ outsideBrackets depth rest := by
  induction cs with
  | nil => simp
  | cons c cs ih =>
    have ih := ih fun e he => bare e (List.mem_cons_of_mem c he)
    rw [List.cons_append, outsideBrackets_cons_of_bare (bare c List.mem_cons_self), ih]
    by_cases outside : depth = 0 <;> simp [outside]

theorem outsideBrackets_slots (use : ParamUse) (rest : List Char) :
    outsideBrackets 0 (use.slots ++ rest) = outsideBrackets 0 rest := by
  cases use <;> rfl

theorem outsideBrackets_inParens (ns : List Nat) (rest : List Char) :
    outsideBrackets 0 (inParens ns ++ rest) = outsideBrackets 0 rest := by
  cases ns with
  | nil => rfl
  | cons n ns =>
    have bare : ∀ c ∈ numerals (n :: ns), isBare c = true := fun c => isBare_of_mem_numerals
    have inside := outsideBrackets_append bare 1 (')' :: rest)
    simpa [inParens, outsideBrackets] using inside

/-! ### Layouts -/

/-- A text with a place for parameters. -/
structure Layout where
  front : List Char
  use : ParamUse
  back : List Char
  bare_front : ∀ c ∈ front, isBare c = true
  bare_back : ∀ c ∈ back, isBare c = true

namespace Layout

variable {L : Layout} {template text : String} {ns : List Nat}

/-- The template with that layout. -/
def shape (L : Layout) : List Char := L.front ++ L.use.slots ++ L.back

/-- The text with numbers in the place of the parameters. -/
def write (L : Layout) (ns : List Nat) : List Char := L.front ++ inParens ns ++ L.back

/-- The layout of a template, if it has a place for these parameters. -/
def of? (use : ParamUse) (template : String) : Option Layout :=
  let front := template.toList.takeWhile isBare
  let back := (template.toList.dropWhile isBare).drop use.slots.length
  if h : front.all isBare = true ∧ back.all isBare = true ∧ front ++ use.slots ++ back = template.toList then
    some { front, use, back, bare_front := List.all_eq_true.mp h.1, bare_back := List.all_eq_true.mp h.2.1 }
  else none

theorem of?_eq_some {use : ParamUse} (h : of? use template = some L) :
    L.use = use ∧ template.toList = L.shape := by
  simp only [of?] at h
  split at h
  · rename_i parts
    cases h
    exact ⟨rfl, parts.2.2.symm⟩
  · cases h

theorem fill_eq {p : TypeParams} (laid : template.toList = L.shape) (takes : L.use.Takes p) :
    (Template.fill template (Dialect.paramSlot p)).toList = L.write p.numbers := by
  have split : ∀ cs, (∀ c ∈ cs, isBare c = true) → ∀ rest,
      Template.pieces (cs ++ rest) = Template.plain (String.ofList cs) ++ Template.pieces rest := by
    intro cs bare rest
    apply Template.pieces_append
    · exact not_mem_of_bare bare (by decide)
    · exact not_mem_of_bare bare (by decide)
  have back := split L.back L.bare_back []
  rw [List.append_nil] at back
  rw [Template.toList_fill, laid, shape, List.append_assoc, split L.front L.bare_front, ParamUse.pieces_slots, back]
  simp only [List.flatMap_append, Template.flatMap_plain, ParamUse.flatMap_pieces takes, String.toList_ofList, write,
    Template.pieces, Template.piecesFrom, List.append_nil, List.append_assoc]

/-- The parameters are no part of the words. -/
theorem typeWords_write (laid : template.toList = L.shape) (written : text.toList = L.write ns) :
    typeWords text = typeWords template := by
  have words_template : outsideBrackets 0 L.shape = L.front ++ outsideBrackets 0 L.back := by
    rw [shape, List.append_assoc, outsideBrackets_append L.bare_front, if_pos rfl, outsideBrackets_slots]
  have words_text : outsideBrackets 0 (L.write ns) = L.front ++ outsideBrackets 0 L.back := by
    rw [write, List.append_assoc, outsideBrackets_append L.bare_front, if_pos rfl, outsideBrackets_inParens]
  rw [typeWords, typeWords, laid, written, words_template, words_text]

theorem typeArguments_write (ne : ns ≠ []) (bounded : ∀ n ∈ ns, n < 4294967296)
    (written : text.toList = L.write ns) : typeArguments text = ns := by
  have written : text.toList = L.front ++ '(' :: (numerals ns ++ ')' :: L.back) := by
    rw [written, write, inParens]
    · simp
    · exact ne
  have opened : text.toList.dropWhile (· ≠ '(') = '(' :: (numerals ns ++ ')' :: L.back) := by
    rw [written]
    exact (Text.takeWhile_ne_append_cons (not_mem_of_bare L.bare_front (by decide)) _).2
  have inside : (numerals ns ++ ')' :: L.back).takeWhile (· ≠ ')') = numerals ns :=
    (Text.takeWhile_ne_append_cons (not_mem_of_bare (fun _ => isBare_of_mem_numerals) (by decide)) _).1
  simp only [typeArguments, opened, inside, filterMap_splitOn_numerals ne bounded]

end Layout

end SqlSchema
