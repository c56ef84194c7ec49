import SqlSchema.Proofs.Dialect.Known
import SqlSchema.Proofs.Dialect.Templates
import SqlSchema.Proofs.Script.Resolution
import SqlSchema.Proofs.Script.Tokens

/-!
# Texts without delimiters

Numbers and types hold no delimiter of a name or a literal (`isPlain_toString`, `isPlain_write`, `isPlain_typeClause`),
nor do the templates by which a known dialect creates something, outside of their slots (`isFlat_of_creates`). What else
a known dialect puts into statements leaves no literal open (`alike_of_mem_words`), except for the default by which
DuckDB takes values from a sequence, in whose literal a name stands as it is (`default?_eq_nextval`).
-/

namespace SqlSchema

open Lexing

/-- Whether a text holds no delimiter. -/
def Text.isPlain (text : String) : Bool := text.toList.all fun c => !delimiters.contains c

theorem Text.isPlain_iff {text : String} : isPlain text = true ↔ ∀ c ∈ text.toList, c ∉ delimiters := by
  simp [isPlain]

theorem QuoteStyle.alike_of_isPlain {q : QuoteStyle} {a : String} (plain : Text.isPlain a = true) : q.Alike a a :=
  alike_of_plain (Text.isPlain_iff.mp plain)

/-! ### Numbers -/

section Numbers

private theorem not_mem_of_isDigit {c : Char} (digit : c.isDigit = true) : c ∉ delimiters := by
  intro delimiter
  have none : (delimiters.all fun c => !c.isDigit) = true := by decide
  have other := List.all_eq_true.mp none c delimiter
  rw [digit] at other
  cases other

private theorem not_mem_of_toDigits (n : Nat) : ∀ c ∈ Nat.toDigits 10 n, c ∉ delimiters := fun _ hc =>
  not_mem_of_isDigit (Text.isDigit_of_mem_toDigits hc)

theorem Text.isPlain_toString (n : Int) : isPlain (toString n) = true := by
  rw [isPlain_iff, Int.toString_eq_repr, Int.repr_eq_if]
  intro c hc
  split at hc
  · exact not_mem_of_toDigits n.toNat c (by simpa using hc)
  · rw [String.toList_append, List.mem_append] at hc
    rcases hc with sign | hc
    · rw [show ("-" : String).toList = ['-'] from rfl, List.mem_singleton] at sign
      rw [sign]
      decide
    · exact not_mem_of_toDigits (-n).toNat c (by simpa using hc)

private theorem not_mem_of_positional (digits : Nat) (p : Int) :
    ∀ c ∈ Binary64.positional digits p, c ∉ delimiters := by
  have padded : ∀ k, ∀ c ∈ List.replicate k '0' ++ Nat.toDigits 10 digits, c ∉ delimiters := by
    intro k c hc
    rcases List.mem_append.mp hc with zero | digit
    · rw [List.eq_of_mem_replicate zero]
      decide
    · exact not_mem_of_toDigits digits c digit
  intro c hc
  unfold Binary64.positional at hc
  simp only at hc
  split at hc
  · rcases List.mem_append.mp hc with digit | zero
    · exact not_mem_of_toDigits digits c digit
    · rw [List.eq_of_mem_replicate zero]
      decide
  · split at hc
    · exact padded _ c (List.mem_of_mem_take hc)
    · rcases List.mem_append.mp hc with whole | hc
      · exact padded _ c (List.mem_of_mem_take whole)
      · rcases List.mem_cons.mp hc with rfl | fraction
        · decide
        · have behind := List.mem_reverse.mp ((List.dropWhile_sublist _).mem (List.mem_reverse.mp fraction))
          exact padded _ c (List.mem_of_mem_drop behind)

theorem Binary64.isPlain_write (x : Binary64) : Text.isPlain x.write = true := by
  cases x with
  | nan => decide
  | infinite negative => cases negative <;> decide
  | finite negative m e =>
    have body : ∀ c ∈ (if m = 0 then ['0'] else positional (shortest m e).1 (shortest m e).2), c ∉ delimiters := by
      split
      · rw [List.forall_mem_singleton]
        decide
      · exact not_mem_of_positional _ _
    rw [Text.isPlain_iff]
    intro c hc
    unfold write at hc
    simp only [String.toList_ofList] at hc
    split at hc
    · rcases List.mem_cons.mp hc with rfl | hc
      · decide
      · exact body c hc
    · exact body c hc

end Numbers

/-! ### Templates -/

namespace Template

/-- Whether an atom of a template is a slot or a character that is no delimiter. -/
def Atom.isPlain : Atom → Bool
  | .char c => !delimiters.contains c
  | .slot _ => true

/-- Whether a template has no delimiters and no optional parts. -/
def isFlat (template : String) : Bool :=
  (pieces template.toList).all fun
    | .atom a => a.isPlain
    | .segment .. => false

variable {q : QuoteStyle} {template : String}

theorem alike_fill (is_flat : isFlat template = true) {v w : Char → Option String}
    (values : ∀ letter, Option.Rel q.Alike (v letter) (w letter)) : q.Alike (fill template v) (fill template w) := by
  unfold isFlat at is_flat
  unfold fill
  generalize pieces template.toList = ps at is_flat
  induction ps with
  | nil => exact .refl_empty
  | cons p ps ih =>
    rw [List.all_cons, Bool.and_eq_true] at is_flat
    rw [List.flatMap_cons, List.flatMap_cons, String.ofList_append, String.ofList_append]
    refine .append ?_ (ih is_flat.2)
    match p, is_flat.1 with
    | .atom (.char c), plain =>
      refine QuoteStyle.alike_of_plain fun e he => ?_
      simp only [Piece.fill, Atom.fill?, Option.getD_some, String.toList_ofList, List.mem_singleton] at he
      subst he
      simpa [Atom.isPlain] using plain
    | .atom (.slot letter), _ =>
      have related := values letter
      cases found : v letter <;> cases found' : w letter <;> rw [found, found'] at related
      · simpa [Piece.fill, Atom.fill?, found, found'] using .refl_empty
      · cases related
      · cases related
      · cases related with
        | some alike => simpa [Piece.fill, Atom.fill?, found, found'] using alike

end Template

/-! ### What the known dialects write -/

/-- The words by which an identity column is declared. -/
def Identity.words : Identity → List String
  | .keyword word => [word]
  | .serial narrow wide => [narrow, wide]
  | _ => []

/-- The default of an identity column that takes the values of its sequence. -/
def Identity.default? : Identity → Option String
  | .sequence _ _ template => template
  | _ => none

namespace Dialect

/-- The texts of a dialect that stand in statements as they are. -/
def words (d : Dialect) : List String :=
  d.identity.words ++ [d.trueLiteral, d.falseLiteral, (d.tableTail.map fun x => " " ++ x).getD ""]

/-- The templates of the statements that create or add something. -/
def creations (d : Dialect) : List String := d.additions ++ d.identity.create?.toList

variable {d : Dialect} {template text word : String}

/-- A literal of a truth value may stand between apostrophes. -/
theorem alike_of_mem_words (known : d ∈ all) (h : word ∈ d.words) : d.quote.Alike word word := by
  have each : ∀ d ∈ all, ∀ word ∈ d.words, d.quote.Alike word word := by
    simp only [QuoteStyle.Alike, Text.toList_eq_chars]
    decide +kernel
  exact each d known word h

theorem isFlat_of_creates (known : d ∈ all) (creates : template ∈ d.creations) : Template.isFlat template = true := by
  have each : ∀ d ∈ all, ∀ template ∈ d.creations, Template.isFlat template = true := by
    simp only [Template.isFlat, Text.toList_eq_chars]
    decide +kernel
  exact each d known template creates

theorem default?_eq_nextval (known : d ∈ all) (h : d.identity.default? = some template) :
    d = .duckdb ∧ template = "nextval('$n')" := by
  have each : ∀ d ∈ all, ∀ template ∈ d.identity.default?, d = .duckdb ∧ template = "nextval('$n')" := by
    decide +kernel
  exact each d known template h

private theorem not_mem_of_paramSlot {p : TypeParams} {letter : Char} (found : paramSlot p letter = some text) :
    ∀ c ∈ text.toList, c ∉ delimiters := by
  obtain ⟨n, rfl⟩ := exists_of_paramSlot found
  intro c hc
  exact not_mem_of_toDigits n c (by simpa using hc)

theorem isPlain_typeClause (known : d ∈ all) {t : ColumnType} {p : TypeParams} (h : d.typeClause t p = .ok text) :
    Text.isPlain text = true := by
  have spellings : ∀ d ∈ all, ∀ r ∈ d.typeRules, ∀ template ∈ templatesOf r,
      ((Template.pieces template.toList).all fun piece => piece.atoms.all Template.Atom.isPlain) = true := by
    simp only [Text.toList_eq_chars]
    decide +kernel
  obtain ⟨-, r, found, rfl⟩ := typeClause_eq_ok_iff.mp h
  have spelled := spellings d known r (List.mem_of_find?_eq_some found) _ (templateFor_mem r p)
  rw [Text.isPlain_iff]
  intro c hc
  rcases Template.mem_fill hc with ⟨piece, inside, char⟩ | ⟨letter, value, shown, hc⟩
  · have plain := List.all_eq_true.mp spelled piece inside
    simpa [Template.Atom.isPlain] using List.all_eq_true.mp plain _ char
  · exact not_mem_of_paramSlot shown c hc

end Dialect

end SqlSchema
