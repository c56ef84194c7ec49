import SqlSchema.Text.Ascii

/-!
# Names in source units

Names of tables and columns may hold any character; in a source unit an identifier is a word of ASCII letters, digits
and underscores. `sanitize` makes a word of a name, `snake`, `camel` and `pascal` put it into the usual styles, and
`escape` keeps it apart from the keywords of Rust, as a raw identifier where there is one.
-/

namespace SqlSchema.RowType

/-- Whether a character can stand in an identifier. -/
def isIdentChar (c : Char) : Bool := c.isAlphanum || c == '_'

/-- The characters with an underscore in front of a digit at the start, and at least an underscore. -/
def guardStart : List Char → List Char
  | [] => ['_']
  | c :: cs => if c.isDigit then '_' :: c :: cs else c :: cs

/-- The characters with an underscore for each that cannot stand in an identifier. -/
def sanitizeChars (cs : List Char) : List Char :=
  guardStart (cs.map fun c => if isIdentChar c then c else '_')

/-- A capital that follows a small letter or a digit starts a new word: characters that follow such a character if
`afterSmall`, in small letters, with an underscore between words. -/
def snakeChars : Bool → List Char → List Char
  | _, [] => []
  | afterSmall, c :: cs =>
    if c.isUpper then (if afterSmall then ['_'] else []) ++ c.toLower :: snakeChars false cs
    else c :: snakeChars (c.isLower || c.isDigit) cs

/-- The words between the underscores put together, each of them with a capital, the first one only if `capital`. -/
def joinWords : Bool → List Char → List Char
  | _, [] => []
  | capital, c :: cs =>
    if c = '_' then joinWords true cs
    else (if capital then c.toUpper else c) :: joinWords false cs

/-- The name as a word of an identifier. -/
def sanitize (name : String) : String := String.ofList (sanitizeChars name.toList)

/-- The name in the style `first_name`. -/
def snake (name : String) : String := String.ofList (snakeChars false (sanitizeChars name.toList))

/-- A name of the style `first_name` in the style `firstName`; one without letters and digits stays as it is. -/
def camel (name : String) : String :=
  let joined := joinWords false (name.toList.dropWhile (· = '_'))
  if joined.isEmpty then name else String.ofList joined

/-- The characters with a letter in front of a digit at the start, and at least a letter. -/
def guardTypeName : List Char → List Char
  | [] => ['T']
  | c :: cs => if c.isDigit then 'T' :: c :: cs else c :: cs

/-- The name of the type for the rows of a table, in the style `FirstName`. -/
def typeName (table : String) : String :=
  let name := String.ofList (guardTypeName (joinWords true (snake table).toList))
  if name = "Self" then name ++ "_" else name

/-- The keywords that have a raw form. -/
def keywords : List String :=
  ["abstract", "as", "async", "await", "become", "box", "break", "const", "continue", "do", "dyn", "else", "enum",
    "extern", "false", "final", "fn", "for", "gen", "if", "impl", "in", "let", "loop", "macro", "match", "mod",
    "move", "mut", "override", "priv", "pub", "ref", "return", "static", "struct", "trait", "true", "try", "type",
    "typeof", "unsafe", "unsized", "use", "virtual", "where", "while", "yield"]

/-- The keywords that have no raw form. -/
def plainKeywords : List String := ["_", "crate", "self", "Self", "super"]

/-- What marks a raw identifier. -/
def rawMark : String := "r#"

/-- The identifier that stands for a word. -/
def escape (word : String) : String :=
  if plainKeywords.contains word then word ++ "_"
  else if keywords.contains word then rawMark ++ word
  else word

/-- The name of the module for a table, which is also that of its file and not raw. -/
def moduleName (table : String) : String :=
  let word := snake table
  if plainKeywords.contains word then word ++ "_" else word

end SqlSchema.RowType
