import SqlSchema.Proofs.RowType.LegalNames
import SqlSchema.Proofs.Table.Parts

/-!
# Comments about the table

The name of a table stands as it is in two places of its unit, each of them behind the two slashes of a line comment.
All else depends on the name only by the name of the type (`content_eq_contentWith`). Taking out the comments therefore
takes out the name, as long as it does not break the line: of two tables that have the same type name and the same
columns, one of which has its name on one line, the units agree outside of these comments exactly if the other name is
on one line too (`units_agree_iff`).
-/

namespace SqlSchema.RowType

/-! ### Line comments -/

/-- The characters without line comments, when the first of them stand inside of a comment or outside. The line breaks
at the ends of comments stay. -/
def dropComments : Bool → List Char → List Char
  | _, [] => []
  | true, c :: cs => if c = '\n' then c :: dropComments false cs else dropComments true cs
  | false, '/' :: '/' :: cs => dropComments true cs
  | false, c :: cs => c :: dropComments false cs

/-- The text without line comments. -/
def withoutComments (text : String) : String := String.ofList (dropComments false text.toList)

section Comments

variable {cs : List Char}

private theorem dropComments_of_one_line (one_line : '\n' ∉ cs) (rest : List Char) :
    dropComments true (cs ++ rest) = dropComments true rest := by
  induction cs with
  | nil => rfl
  | cons c cs ih =>
    rw [List.mem_cons, not_or] at one_line
    rw [List.cons_append, dropComments, if_neg (Ne.symm one_line.1), ih one_line.2]

/-- In a text that opens a comment, what follows is inside of the comment up to the end of the line. -/
private theorem dropComments_append {lead : String} {body : List Char} (opens : lead.toList = '/' :: '/' :: body)
    (one_line : '\n' ∉ body) (text : String) :
    dropComments false (lead ++ text).toList = dropComments true text.toList := by
  rw [String.toList_append, opens, List.cons_append, List.cons_append, dropComments, dropComments_of_one_line one_line]

/-- No line break is taken out. -/
private theorem count_newline_dropComments (inside : Bool) (cs : List Char) :
    (dropComments inside cs).count '\n' = cs.count '\n' := by
  fun_induction dropComments inside cs with
  | case1 => rfl
  | case2 cs ih => simp [ih]
  | case3 c cs no_break ih => simp [ih, no_break]
  | case4 cs ih => simp [ih]
  | case5 c cs no_comment ih => simp [List.count_cons, ih]

private theorem withoutComments_break (text : String) :
    withoutComments ("\n" ++ text) = "\n" ++ withoutComments text := by
  have kept (cs : List Char) : dropComments false ('\n' :: cs) = '\n' :: dropComments false cs := by simp [dropComments]
  have first : "\n".toList = ['\n'] := by decide
  rw [← String.toList_inj, withoutComments, String.toList_append, first, List.singleton_append, kept]
  simp [withoutComments]

end Comments

/-- What is left of a name and the end of its line when the comment is taken out that the name stands in. -/
def leftOver (name : String) : String := String.ofList (dropComments true (name ++ "\x60.\n").toList)

/-- Nothing but the end of the line is left of a name that is on one line. -/
theorem leftOver_eq_iff {name : String} : leftOver name = "\n" ↔ '\n' ∉ name.toList := by
  rw [leftOver, String.toList_append]
  constructor
  · intro left
    have breaks := count_newline_dropComments true (name.toList ++ "\x60.\n".toList)
    rw [← String.toList_inj, String.toList_ofList] at left
    rw [left, List.count_append] at breaks
    have last : "\n".toList.count '\n' = 1 ∧ "\x60.\n".toList.count '\n' = 1 := by decide
    exact List.count_eq_zero.mp (by omega)
  · intro one_line
    have last : dropComments true "\x60.\n".toList = ['\n'] := by decide
    rw [dropComments_of_one_line one_line, last]

theorem withoutComments_unitComment (name : String) :
    withoutComments (Options.unitComment name) = leftOver name := by
  have opens : "//! Row type for table \x60".toList = '/' :: '/' :: "! Row type for table \x60".toList := by simp
  have dropped := dropComments_append opens (by simp) (name ++ "\x60.\n")
  rw [← String.append_assoc] at dropped
  exact congrArg String.ofList dropped

theorem withoutComments_typeComment (name : String) :
    withoutComments (Options.typeComment name) = "\n" ++ leftOver name := by
  have opens : "/// Row of table \x60".toList = '/' :: '/' :: "/ Row of table \x60".toList := by simp
  have dropped := dropComments_append opens (by simp) (name ++ "\x60.\n")
  rw [← String.append_assoc] at dropped
  have lead : "\n/// Row of table \x60" = "\n" ++ "/// Row of table \x60" := by simp
  have text : Options.typeComment name = "\n" ++ ("/// Row of table \x60" ++ name ++ "\x60.\n") :=
    (congrArg (· ++ name ++ "\x60.\n") lead).trans (by simp only [String.append_assoc])
  rw [text, withoutComments_break]
  exact congrArg (fun cs => "\n" ++ String.ofList cs) dropped

/-! ### Units with other comments -/

namespace Options

variable (o : Options)

/-- The imports of a unit and its constants in front of the type. -/
def preamble (fs : List Field) : String :=
  (if o.importLines.isEmpty then "" else "\n" ++ o.importLines) ++ o.outerConstants fs

/-- The type of a unit and its functions. -/
def typeText (type : String) (fs : List Field) : String :=
  o.deriveLine ++ o.headerLine type ++ o.fieldLines fs ++ "\x7d\n" ++ o.memberBlock type fs

/-- The content of a unit in which these are the comments about the table. -/
def contentWith (type : String) (fs : List Field) (unitComment typeComment : String) : String :=
  unitComment ++ o.preamble fs ++ typeComment ++ o.typeText type fs

/-- The content of the unit for a table without the line comments about the table. -/
def uncommented (t : Table) : String :=
  o.contentWith (typeName t.name) (fieldsOf t) (withoutComments (unitComment t.name))
    (withoutComments (typeComment t.name))

end Options

theorem content_eq_contentWith (o : Options) (t : Table) :
    (emit o t).content = o.contentWith (typeName t.name) (fieldsOf t) (Options.unitComment t.name)
      (Options.typeComment t.name) := by
  have content : (emit o t).content = o.content t.name (fieldsOf t) := by simp only [emit, fieldsOf]
  rw [content]
  simp only [Options.content, Options.contentWith, Options.preamble, Options.typeText, String.append_assoc]

/-- A text in which a part occurs twice determines the part. -/
private theorem append_twice_inj {a b front middle back : List Char}
    (same : a ++ front ++ (middle ++ a) ++ back = b ++ front ++ (middle ++ b) ++ back) : a = b := by
  have lengths := congrArg List.length same
  simp only [List.length_append] at lengths
  simp only [List.append_assoc] at same
  exact (List.append_inj same (by omega)).1

theorem uncommented_eq_iff {o : Options} {t other : Table} (type : typeName t.name = typeName other.name)
    (columns : t.columns = other.columns) :
    o.uncommented t = o.uncommented other ↔ leftOver t.name = leftOver other.name := by
  have fields : fieldsOf t = fieldsOf other := by rw [fieldsOf, fieldsOf, columns]
  unfold Options.uncommented
  rw [type, fields, withoutComments_unitComment, withoutComments_unitComment, withoutComments_typeComment,
    withoutComments_typeComment]
  constructor
  · intro same
    simp only [Options.contentWith, ← String.toList_inj, String.toList_append] at same ⊢
    exact append_twice_inj same
  · intro left
    rw [left]

/-- The units of two tables with the same type name and the same columns differ in the two comments alone. Without these
comments they agree exactly if the same is left over of the names, and a name that is on one line leaves nothing but the
end of the line: beside such a name another one agrees exactly if it is on one line too. -/
theorem units_agree_iff (o : Options) {t other : Table} (type : typeName t.name = typeName other.name)
    (columns : t.columns = other.columns) :
    (∀ x ∈ [t, other], (emit o x).content = o.contentWith (typeName t.name) (fieldsOf t)
      (Options.unitComment x.name) (Options.typeComment x.name)) ∧
    (o.uncommented t = o.uncommented other ↔ leftOver t.name = leftOver other.name) ∧
    (∀ name : String, '\n' ∉ name.toList ↔ withoutComments (Options.unitComment name) = "\n") ∧
    ('\n' ∉ other.name.toList → (o.uncommented t = o.uncommented other ↔ '\n' ∉ t.name.toList)) := by
  have fields : fieldsOf other = fieldsOf t := by rw [fieldsOf, fieldsOf, columns]
  refine ⟨?_, uncommented_eq_iff type columns, fun name => ?_, fun one_line => ?_⟩
  · rw [List.forall_mem_cons, List.forall_mem_singleton]
    refine ⟨content_eq_contentWith o t, ?_⟩
    rw [content_eq_contentWith, ← type, fields]
  · rw [withoutComments_unitComment, leftOver_eq_iff]
  · rw [uncommented_eq_iff type columns, leftOver_eq_iff.mpr one_line, leftOver_eq_iff]

/-- A table with slashes and a quotation mark in its name. -/
def slashes : Table where
  name := "a//\"b"
  columns := [{ name := "id", type := .bigint }]

/-- A table whose name has the same letters. -/
def letters : Table where
  name := "a_b"
  columns := [{ name := "id", type := .bigint }]

theorem units_of_letters_agree :
    (slashes.Reachable ∧ letters.Reachable ∧ typeName slashes.name = typeName letters.name ∧
      slashes.columns = letters.columns ∧ '\n' ∉ letters.name.toList ∧ '\n' ∉ slashes.name.toList) ∧
    (emit {} slashes).content ≠ (emit {} letters).content ∧
    ({} : Options).uncommented slashes = ({} : Options).uncommented letters := by
  have type : typeName slashes.name = typeName letters.name := by decide +kernel
  have one_line : '\n' ∉ letters.name.toList ∧ '\n' ∉ slashes.name.toList := by decide +kernel
  obtain ⟨-, -, -, agree⟩ := units_agree_iff {} type rfl
  refine ⟨⟨?_, ?_, type, rfl, one_line⟩, ?_, (agree one_line.1).mpr one_line.2⟩ <;> decide +kernel

/-- A table whose name goes on behind a line break. -/
def twoLines : Table where
  name := "a\npub mod b;//"
  columns := [{ name := "id", type := .bigint }]

/-- A table whose name has the same letters and is on one line. -/
def oneLine : Table where
  name := "a_pub_mod_b"
  columns := [{ name := "id", type := .bigint }]

theorem name_leaves_comment :
    twoLines.Reachable ∧ oneLine.Reachable ∧ typeName twoLines.name = typeName oneLine.name ∧
      twoLines.columns = oneLine.columns ∧
      withoutComments (Options.unitComment twoLines.name) = "\npub mod b;\n" ∧
      ({} : Options).uncommented twoLines ≠ ({} : Options).uncommented oneLine := by
  refine ⟨?_, ?_, ?_, ?_, ?_, ?_⟩ <;> decide +kernel

end SqlSchema.RowType
