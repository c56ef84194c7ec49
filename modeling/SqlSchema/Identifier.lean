import SqlSchema.ModelError
import SqlSchema.Text.Blank
import SqlSchema.Text.Doubled

/-!
# Identifiers

A name may enter a model if it is not blank, holds no NUL and takes at most 128 bytes; `Identifier.check` gives the
first of these faults, and none exactly for a `Valid` name (`check_eq_ok_iff`). A quoted name stands between the
delimiters of a `QuoteStyle`, with the closing delimiter doubled inside.
-/

namespace SqlSchema

namespace Identifier

/-- The longest name that a model takes, in bytes. -/
def maxSize : Nat := 128

/-- A name that a model takes. -/
structure Valid (name : String) : Prop where
  not_blank : Text.trimChars name.toList ≠ []
  no_nul : '\x00' ∉ name.toList
  size_le : Text.size name ≤ maxSize

/-- Refuses a name that is not valid; `kind` says in the message what the name is the name of. -/
def check (kind name : String) : Except ModelError Unit :=
  if (Text.trimChars name.toList).isEmpty then .error (.blankName kind)
  else if '\x00' ∈ name.toList then .error (.nulInName kind name)
  else if maxSize < Text.size name then .error (.longName kind name)
  else .ok ()

theorem check_eq_ok_iff {kind name : String} : check kind name = .ok () ↔ Valid name := by
  unfold check
  constructor
  · intro h
    split at h
    · cases h
    · split at h
      · cases h
      · split at h
        · cases h
        · rename_i blank nul long
          exact ⟨by simpa using blank, nul, by omega⟩
  · rintro ⟨blank, nul, long⟩
    simp [blank, nul, long]

end Identifier

/-- The delimiters around quoted names. -/
inductive QuoteStyle where
  | double | backtick | bracket
deriving DecidableEq, Repr

namespace QuoteStyle

/-- The delimiter in front. -/
def opening : QuoteStyle → Char
  | .double => '"'
  | .backtick => '\x60'
  | .bracket => '['

/-- The delimiter at the end. -/
def closing : QuoteStyle → Char
  | .double => '"'
  | .backtick => '\x60'
  | .bracket => ']'

end QuoteStyle

/-- The name between the delimiters of the style. -/
def QuoteStyle.quote (style : QuoteStyle) (name : String) : String :=
  String.ofList (Text.delimited style.opening style.closing name.toList)

@[simp] theorem QuoteStyle.toList_quote (style : QuoteStyle) (name : String) :
    (style.quote name).toList = Text.delimited style.opening style.closing name.toList := by
  simp [QuoteStyle.quote]

end SqlSchema
