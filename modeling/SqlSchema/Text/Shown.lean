import SqlSchema.Text.Numeral
import SqlSchema.Text.Visible

/-!
# Displaying a text unambiguously

`shown s` is the text between double quotes with everything escaped that a reader could not see: a quote and a
backslash by a backslash, the four control characters that have a letter by that letter, and every other character
that is not visible by its code point in hexadecimal.
-/

namespace SqlSchema.Text

/-- How one character is displayed. -/
def shownChar (c : Char) : List Char :=
  if c = '\x00' then ['\\', '0']
  else if c = '\t' then ['\\', 't']
  else if c = '\r' then ['\\', 'r']
  else if c = '\n' then ['\\', 'n']
  else if c = '"' || c = '\\' then ['\\', c]
  else if isVisible c then [c]
  else ['\\', 'u', '\x7b'] ++ hexDigits c.toNat ++ ['\x7d']

/-- The displayed form of a text. -/
def shown (s : String) : String :=
  String.ofList (['"'] ++ s.toList.flatMap shownChar ++ ['"'])

end SqlSchema.Text
