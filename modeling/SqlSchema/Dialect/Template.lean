/-!
# Templates

A template is literal SQL with slots and optional segments. A slot is a dollar sign and an ASCII letter; a segment
stands between brackets and is kept only if all its slots have values. A template falls into pieces from left to right
in one way (`pieces`), and filling it is putting in the value of each slot as it stands: a value is never looked
through for slots of its own.
-/

namespace SqlSchema

namespace Template

/-- The smallest part of a template: a character that stands for itself or a slot. -/
inductive Atom where
  | char (c : Char)
  | slot (letter : Char)
deriving DecidableEq, Repr

/-- A part of a template outside of which brackets have no meaning. `closed` tells whether the segment has its closing
bracket; without one it reaches to the end. -/
inductive Piece where
  | atom (a : Atom)
  | segment (body : List Atom) (closed : Bool)
deriving DecidableEq, Repr

/-- The pieces of the characters that follow an open segment with the given body, or no open segment. -/
def piecesFrom : Option (List Atom) → List Char → List Piece
  | none, [] => []
  | some body, [] => [.segment body false]
  | none, '[' :: rest => piecesFrom (some []) rest
  | some body, ']' :: rest => .segment body true :: piecesFrom none rest
  | none, '$' :: c :: rest =>
    if c.isAlpha then .atom (.slot c) :: piecesFrom none rest
    else .atom (.char '$') :: piecesFrom none (c :: rest)
  | some body, '$' :: c :: rest =>
    if c.isAlpha then piecesFrom (some (body ++ [.slot c])) rest
    else piecesFrom (some (body ++ [.char '$'])) (c :: rest)
  | none, c :: rest => .atom (.char c) :: piecesFrom none rest
  | some body, c :: rest => piecesFrom (some (body ++ [.char c])) rest

/-- The pieces of a template. -/
def pieces (cs : List Char) : List Piece := piecesFrom none cs

/-- The text of an atom; `none` for a slot without a value. -/
def Atom.fill? (value : Char → Option String) : Atom → Option (List Char)
  | .char c => some [c]
  | .slot letter => (value letter).map String.toList

/-- The text of a piece. -/
def Piece.fill (value : Char → Option String) : Piece → List Char
  | .atom a => (a.fill? value).getD []
  | .segment body _ => ((body.mapM (Atom.fill? value)).map List.flatten).getD []

/-- The template with the slots replaced by their values. -/
def fill (template : String) (value : Char → Option String) : String :=
  String.ofList ((pieces template.toList).flatMap (Piece.fill value))

/-- The template with the slots replaced by the values listed for their letters. -/
def fillWith (template : String) (values : List (Char × String)) : String :=
  fill template (values.lookup ·)

@[simp] theorem toList_fill (template : String) (value : Char → Option String) :
    (fill template value).toList = (pieces template.toList).flatMap (Piece.fill value) := by
  simp [fill]

end Template

end SqlSchema
