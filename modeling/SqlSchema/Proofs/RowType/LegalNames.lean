import Mathlib.Data.List.Forall2
import SqlSchema.Proofs.RowType.Words
import SqlSchema.RowType.Files

/-!
# The names that a unit declares

A unit declares a type, constants, fields and functions, each by a text of its own in which the name follows a fixed
lead and ends at a fixed mark (`declares_emit`). The names of the type, of the fields and of the functions are
identifiers, and so are the names by which the file of a directory declares its modules (`declared_names_legal`).
-/

namespace SqlSchema.RowType

/-- The fields of the row type of a table. -/
def fieldsOf (t : Table) : List Field := t.columns.map .ofColumn

/-- The text declares the name: it begins with `lead`, and the name follows up to `stop`. -/
def IsDeclaration (lead stop name text : String) : Prop := ∃ rest, text = lead ++ name ++ stop ++ rest

namespace Options

/-- The names of the constants that a unit declares. -/
def constantNames (o : Options) (fs : List Field) : List String :=
  if o.constants then fs.map (·.constantName o.constantStyle) else []

/-- The names of the fields that a unit declares. -/
def fieldNames (o : Options) (fs : List Field) : List String := if o.fields then fs.map (·.ident) else []

/-- The names of the functions that a unit declares. -/
def functionNames (o : Options) (fs : List Field) : List String :=
  if o.accessors && o.fields then fs.flatMap fun f => [f.ident, f.setterName] else []

/-- What stands in front of the name of a constant. -/
def constantLead (o : Options) : String :=
  let indent := if o.constantsOutside then "" else "    "
  (if o.constantStyle = .upper then "" else indent ++ "#[allow(non_upper_case_globals)]\n") ++ indent ++ "pub const "

/-- What stands in front of the name of a field. -/
def fieldLead (o : Options) : String := "    " ++ if o.publicFields then "pub " else ""

/-- The content of a unit with these texts for its constants, fields and functions. -/
def contentOf (o : Options) (u : SourceUnit) (constants fields functions : List String) : String :=
  let members := (if o.constants && !o.constantsOutside then [String.join constants] else []) ++ functions
  unitComment u.table ++ (if o.importLines.isEmpty then "" else "\n" ++ o.importLines) ++
    (if o.constants && o.constantsOutside then "\n" ++ String.join constants else "") ++ typeComment u.table ++
    o.deriveLine ++ o.headerLine u.typeName ++ String.join fields ++ "\x7d\n" ++
    (if members.isEmpty then ""
      else "\nimpl " ++ u.typeName ++ " \x7b\n" ++ "\n".intercalate members ++ "\x7d\n")

/-- The content of the unit declares these names of constants, fields and functions, in their order. -/
def Declares (o : Options) (u : SourceUnit) (constants fields functions : List String) : Prop :=
  ∃ constantTexts fieldTexts functionTexts,
    u.content = o.contentOf u constantTexts fieldTexts functionTexts ∧
    List.Forall₂ (IsDeclaration o.constantLead ": ") constants constantTexts ∧
    List.Forall₂ (IsDeclaration o.fieldLead ": ") fields fieldTexts ∧
    List.Forall₂ (IsDeclaration "    pub fn " "(") functions functionTexts

end Options

/-! ### The texts of declarations -/

namespace Field

theorem isDeclaration_constant (o : Options) (f : Field) :
    IsDeclaration o.constantLead ": " (f.constantName o.constantStyle)
      (f.constant o.constantStyle (!o.constantsOutside)) := by
  refine ⟨(if o.constantsOutside then "&str" else "&'static str") ++ " = " ++ f.nameLiteral ++ ";\n", ?_⟩
  cases h : o.constantsOutside <;>
    simp only [constant, Options.constantLead, h, Bool.not_true, Bool.not_false, Bool.false_eq_true, if_true, if_false,
      String.append_assoc]

theorem isDeclaration_declaration (o : Options) (f : Field) :
    IsDeclaration o.fieldLead ": " f.ident (f.declaration o.publicFields) :=
  ⟨f.type ++ ",\n", by simp [declaration, Options.fieldLead, String.append_assoc]⟩

/-- What stands behind the name can go on from there. -/
private theorem isDeclaration_of_stop {lead name opening stop more rest : String} (starts : opening = stop ++ more) :
    IsDeclaration lead stop name (lead ++ (name ++ (opening ++ rest))) :=
  ⟨more ++ rest, by simp only [starts, String.append_assoc]⟩

theorem isDeclaration_getter (f : Field) : IsDeclaration "    pub fn " "(" f.ident f.getter := by
  have opening : "(&self) -> " = "(" ++ "&self) -> " := by simp
  unfold getter
  simp only [String.append_assoc]
  exact isDeclaration_of_stop opening

theorem isDeclaration_setter (f : Field) (chaining : Bool) :
    IsDeclaration "    pub fn " "(" f.setterName (f.setter chaining) := by
  have opening : "(&mut self, value: " = "(" ++ "&mut self, value: " := by simp
  unfold setter
  simp only [String.append_assoc]
  exact isDeclaration_of_stop opening

end Field

namespace Options

variable (o : Options) (fs : List Field)

/-- The texts of the constants that a unit declares. -/
def constantTexts : List String :=
  if o.constants then fs.map (·.constant o.constantStyle (!o.constantsOutside)) else []

/-- The texts of the fields that a unit declares. -/
def fieldTexts : List String := if o.fields then fs.map (·.declaration o.publicFields) else []

/-- The texts of the functions that a unit declares. -/
def functionTexts : List String :=
  if o.accessors && o.fields then fs.flatMap fun f => [f.getter, f.setter o.chaining] else []

theorem outerConstants_eq : o.outerConstants fs =
    if o.constants && o.constantsOutside then "\n" ++ String.join (o.constantTexts fs) else "" := by
  unfold outerConstants constantTexts
  cases o.constants <;> cases o.constantsOutside <;>
    simp only [Bool.and_true, Bool.and_false, Bool.not_true, Bool.false_eq_true, if_true, if_false]

theorem fieldLines_eq : o.fieldLines fs = String.join (o.fieldTexts fs) := by
  unfold fieldLines fieldTexts
  split
  · rfl
  · simp only [String.join_nil]

theorem members_eq : o.members fs =
    (if o.constants && !o.constantsOutside then [String.join (o.constantTexts fs)] else []) ++ o.functionTexts fs := by
  unfold members constantTexts functionTexts
  cases o.constants <;> cases o.constantsOutside <;>
    simp only [Bool.and_true, Bool.and_false, Bool.not_true, Bool.not_false, Bool.false_eq_true, if_true, if_false]

end Options

theorem typeName_emit (o : Options) (t : Table) : (emit o t).typeName = typeName t.name := by
  simp only [emit]

theorem moduleName_emit (o : Options) (t : Table) : (emit o t).moduleName = moduleName t.name := by
  simp only [emit]

theorem content_emit (o : Options) (t : Table) :
    (emit o t).content = o.contentOf (emit o t) (o.constantTexts (fieldsOf t)) (o.fieldTexts (fieldsOf t))
      (o.functionTexts (fieldsOf t)) := by
  have content : (emit o t).content = o.content t.name (fieldsOf t) := by simp only [emit, fieldsOf]
  have table : (emit o t).table = t.name := by simp only [emit]
  rw [content]
  unfold Options.content Options.contentOf Options.memberBlock
  rw [table, typeName_emit, Options.outerConstants_eq, Options.fieldLines_eq, Options.members_eq]

theorem declares_emit (o : Options) (t : Table) :
    o.Declares (emit o t) (o.constantNames (fieldsOf t)) (o.fieldNames (fieldsOf t))
      (o.functionNames (fieldsOf t)) := by
  refine ⟨_, _, _, content_emit o t, ?_, ?_, ?_⟩
  · unfold Options.constantNames Options.constantTexts
    split
    · rw [List.forall₂_map_left_iff, List.forall₂_map_right_iff, List.forall₂_same]
      exact fun f _ => f.isDeclaration_constant o
    · exact .nil
  · unfold Options.fieldNames Options.fieldTexts
    split
    · rw [List.forall₂_map_left_iff, List.forall₂_map_right_iff, List.forall₂_same]
      exact fun f _ => f.isDeclaration_declaration o
    · exact .nil
  · unfold Options.functionNames Options.functionTexts
    split
    · induction fieldsOf t with
      | nil => exact .nil
      | cons f fs ih => exact .cons f.isDeclaration_getter (.cons (f.isDeclaration_setter o.chaining) ih)
    · exact .nil

/-! ### Legal names -/

theorem isIdentifier_ident (f : Field) : IsIdentifier f.ident := isIdentifier_escape (isWord_snake f.column)

theorem isIdentifier_setterName (f : Field) : IsIdentifier f.setterName := isIdentifier_set (isWord_snake f.column)

theorem isIdentifier_of_mem_fieldNames {o : Options} {fs : List Field} {n : String} (h : n ∈ o.fieldNames fs) :
    IsIdentifier n := by
  unfold Options.fieldNames at h
  split at h
  · obtain ⟨f, -, rfl⟩ := List.mem_map.mp h
    exact isIdentifier_ident f
  · simp at h

theorem isIdentifier_of_mem_functionNames {o : Options} {fs : List Field} {n : String} (h : n ∈ o.functionNames fs) :
    IsIdentifier n := by
  unfold Options.functionNames at h
  split at h
  · obtain ⟨f, -, accessor⟩ := List.mem_flatMap.mp h
    rcases (by simpa using accessor : n = f.ident ∨ n = f.setterName) with rfl | rfl
    · exact isIdentifier_ident f
    · exact isIdentifier_setterName f
  · simp at h

theorem IsWord.no_extension {s : String} (h : IsWord s.toList) : Text.endsWith s ".rs" = false := by
  rw [Text.endsWith, Bool.eq_false_iff, ne_eq, List.isSuffixOf_iff_suffix]
  exact fun extension => h.not_mem (c := '.') (by decide) (extension.subset (by decide))

theorem mem_of_mem_directories {units : List SourceUnit} {d : UnitDirectory} {u : SourceUnit}
    (hd : d ∈ directories units) (hu : u ∈ d.units) : u ∈ units := by
  obtain ⟨path, -, rfl⟩ := List.mem_map.mp hd
  exact (List.mem_filter.mp hu).1

theorem isStem_moduleName_emit (o : Options) (t : Table) : IsStem (emit o t).moduleName := by
  rw [moduleName_emit]
  exact isStem_moduleName t.name

theorem isStem_of_mem_directories {o : Options} {ts : List Table} {d : UnitDirectory} {u : SourceUnit}
    (hd : d ∈ directories (emitAll o ts)) (hu : u ∈ d.units) : IsStem u.moduleName := by
  obtain ⟨t, -, rfl⟩ := List.mem_map.mp (mem_of_mem_directories hd hu)
  exact isStem_moduleName_emit o t

/-- Whatever characters the names of a table and of its columns hold, the type, the fields and the functions of its
unit are declared under identifiers. The files of a directory have stems that a module can be named by, in which the
extension does not occur once more, and the text that declares the modules names each of them by an identifier. Putting
a name into the style `first_name` twice is like doing it once. -/
theorem declared_names_legal (o : Options) :
    (∀ t, IsIdentifier (emit o t).typeName ∧ IsStem (emit o t).moduleName ∧
      o.Declares (emit o t) (o.constantNames (fieldsOf t)) (o.fieldNames (fieldsOf t))
        (o.functionNames (fieldsOf t)) ∧
      ∀ n ∈ o.fieldNames (fieldsOf t) ++ o.functionNames (fieldsOf t), IsIdentifier n) ∧
    (∀ ts, ∀ d ∈ directories (emitAll o ts), ∃ stems : List String,
      d.unitPaths = stems.map (fun s => d.path ++ [s ++ ".rs"]) ∧
      d.moduleList = String.join (stems.map fun s => "pub mod " ++ escape s ++ ";\n") ∧
      ∀ s ∈ stems, IsStem s ∧ Text.endsWith s ".rs" = false ∧ IsIdentifier (escape s)) ∧
    ∀ name, snake (snake name) = snake name := by
  refine ⟨fun t => ⟨?_, isStem_moduleName_emit o t, declares_emit o t, fun n hn => ?_⟩,
    fun ts d hd => ⟨d.units.map (·.moduleName), ?_, ?_, fun s hs => ?_⟩, snake_snake⟩
  · rw [typeName_emit]
    exact isIdentifier_typeName t.name
  · exact (List.mem_append.mp hn).elim isIdentifier_of_mem_fieldNames isIdentifier_of_mem_functionNames
  · simp only [UnitDirectory.unitPaths, SourceUnit.fileName, List.map_map, Function.comp_def]
  · simp only [UnitDirectory.moduleList, List.map_map, Function.comp_def]
  · obtain ⟨u, hu, rfl⟩ := List.mem_map.mp hs
    have stem := isStem_of_mem_directories hd hu
    exact ⟨stem, stem.word.no_extension, isIdentifier_escape stem.word⟩

/-- A table whose name begins with a digit, with keywords for the names of its columns. -/
def codes : Table where
  name := "2fa"
  columns := [{ name := "type", type := .clob }, { name := "Self", type := .bigint }]

theorem codes_names_legal :
    ⟨[], [emit {} codes]⟩ ∈ directories (emitAll {} [codes]) ∧
    (({} : Options).fieldNames (fieldsOf codes) = ["r#type", "self_"] ∧ IsIdentifier "r#type" ∧ IsIdentifier "self_") ∧
    ∃ stems : List String, UnitDirectory.unitPaths ⟨[], [emit {} codes]⟩ = stems.map (fun s => [] ++ [s ++ ".rs"]) ∧
      ∀ s ∈ stems, IsStem s ∧ Text.endsWith s ".rs" = false ∧ IsIdentifier (escape s) := by
  have directory : ⟨[], [emit {} codes]⟩ ∈ directories (emitAll {} [codes]) := by
    decide +kernel
  have names : ({} : Options).fieldNames (fieldsOf codes) = ["r#type", "self_"] := by decide +kernel
  obtain ⟨units, files, -⟩ := declared_names_legal {}
  have legal := (units codes).2.2.2
  obtain ⟨stems, paths, -, stems_legal⟩ := files [codes] _ directory
  exact ⟨directory, ⟨names, legal _ (by simp [names]), legal _ (by simp [names])⟩, stems, paths, stems_legal⟩

end SqlSchema.RowType
