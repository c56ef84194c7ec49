import SqlSchema.Error
import SqlSchema.RowType.SourceUnit
import SqlSchema.Text.Bytes

/-!
# Files of source units

Units are written into the directories of their module paths, each of which also gets a file that declares its
modules. A `FileTree` is what a directory holds afterwards: a later write to a path takes the place of an earlier one
(`get?_put_self`) and leaves all other paths as they are (`get?_put_of_ne`).
-/

namespace SqlSchema.RowType

/-- The names that lead to a file or a directory. -/
abbrev Path := List String

/-- Files with their contents, in the order in which they were first written. -/
structure FileTree where
  files : List (Path × String) := []
deriving DecidableEq, Repr

namespace FileTree

/-- The content of a file. -/
def get? (t : FileTree) (path : Path) : Option String := (t.files.find? (·.1 = path)).map (·.2)

/-- The files with one of them put in place. -/
def putFile (path : Path) (content : String) : List (Path × String) → List (Path × String)
  | [] => [(path, content)]
  | file :: files =>
    if path = file.1 then (path, content) :: files else file :: putFile path content files

/-- The tree after a file is written. -/
def put (t : FileTree) (path : Path) (content : String) : FileTree := ⟨putFile path content t.files⟩

theorem get?_put_self (t : FileTree) (path : Path) (content : String) :
    (t.put path content).get? path = some content := by
  obtain ⟨files⟩ := t
  simp only [put, get?]
  induction files with
  | nil => simp [putFile]
  | cons file files ih =>
    simp only [putFile]
    split
    · simp
    · rename_i h
      simp [Ne.symm h, ih]

theorem get?_put_of_ne {t : FileTree} {path other : Path} {content : String} (h : other ≠ path) :
    (t.put path content).get? other = t.get? other := by
  obtain ⟨files⟩ := t
  simp only [put, get?]
  induction files with
  | nil => simp [putFile, Ne.symm h]
  | cons file files ih =>
    simp only [putFile]
    split
    · rename_i same
      simp [← same, Ne.symm h]
    · by_cases k : file.1 = other
      · simp [k]
      · simp [k, ih]

end FileTree

/-- A directory for units and the units in it. -/
structure UnitDirectory where
  path : Path
  units : List SourceUnit
deriving DecidableEq, Repr

/-- Whether a name comes before another one, by their characters. -/
def comesBefore (a b : String) : Bool := a.toList.lex b.toList fun c e => c.toNat < e.toNat

/-- Whether a path comes no later than another one, by their names. -/
def Path.notAfter (a b : Path) : Bool := !b.lex a comesBefore

/-- The directories of units, in the order of their paths, each with its units in the given order. -/
def directories (units : List SourceUnit) : List UnitDirectory :=
  let paths := ((units.map (·.modulePath)).eraseDups).mergeSort Path.notAfter
  paths.map fun path => ⟨path, units.filter (·.modulePath = path)⟩

namespace UnitDirectory

/-- The paths of the units. -/
def unitPaths (d : UnitDirectory) : List Path := d.units.map fun u => d.path ++ [u.fileName]

/-- The text that declares the modules of the directory. -/
def moduleList (d : UnitDirectory) : String :=
  String.join (d.units.map fun u => "pub mod " ++ escape u.moduleName ++ ";\n")

/-- What is written into the directory: its units, then the file that declares them. -/
def writes (d : UnitDirectory) : List (Path × String) :=
  d.units.map (fun u => (d.path ++ [u.fileName], u.content)) ++ [(d.path ++ ["mod.rs"], d.moduleList)]

end UnitDirectory

/-- The most bytes that a file system takes in a name. -/
def maxNameSize : Nat := 255

/-- The most bytes that a file system takes in a path. -/
def maxPathSize : Nat := 4095

/-- Whether a file system takes a path below a directory. -/
def isTaken (directory : String) (path : Path) : Bool :=
  path.all (fun name => Text.size name ≤ maxNameSize) &&
    Text.size ("/".intercalate (directory :: path)) ≤ maxPathSize

/-- What writing units leaves behind. -/
structure Written where
  /-- The paths of the units. -/
  paths : List Path
  tree : FileTree
deriving DecidableEq, Repr

/-- The units written below a directory, which is empty before. -/
def writeUnits (directory : String) (units : List SourceUnit) : Except Failure Written :=
  let dirs := directories units
  let writes := dirs.flatMap (·.writes)
  if writes.all fun w => isTaken directory w.1 then
    .ok { paths := dirs.flatMap (·.unitPaths), tree := writes.foldl (fun t w => t.put w.1 w.2) {} }
  else .error .file

end SqlSchema.RowType
