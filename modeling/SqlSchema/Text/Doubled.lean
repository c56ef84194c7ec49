/-!
# Doubling a delimiter

Inside a delimited text a closing delimiter is written twice. `double c` does that, and it is the only change: other
characters stay, so the doubling of a concatenation is that of its parts (`double_append`). `literal` is the SQL
literal of a text.
-/

namespace SqlSchema.Text

/-- The characters with every `c` doubled. -/
def double (c : Char) (cs : List Char) : List Char :=
  cs.flatMap fun d => if d = c then [c, c] else [d]

@[simp] theorem double_nil (c : Char) : double c [] = [] := rfl

@[simp] theorem double_cons (c d : Char) (cs : List Char) :
    double c (d :: cs) = (if d = c then [c, c] else [d]) ++ double c cs := by
  simp [double]

@[simp] theorem double_append (c : Char) (cs ds : List Char) :
    double c (cs ++ ds) = double c cs ++ double c ds := by
  simp [double]

theorem double_of_not_mem {c : Char} {cs : List Char} (h : c ∉ cs) : double c cs = cs := by
  induction cs with
  | nil => rfl
  | cons d cs ih =>
    simp only [List.mem_cons, not_or] at h
    simp [Ne.symm h.1, ih h.2]

theorem mem_double_iff {c d : Char} {cs : List Char} : c ∈ double d cs ↔ c ∈ cs := by
  induction cs with
  | nil => rfl
  | cons e cs ih =>
    rw [double_cons, List.mem_append, ih, List.mem_cons]
    by_cases same : e = d <;> simp [same]

theorem count_double (c : Char) (cs : List Char) : (double c cs).count c = 2 * cs.count c := by
  induction cs with
  | nil => rfl
  | cons d cs ih =>
    rw [double_cons, List.count_append, ih]
    by_cases same : d = c
    · simp [same]
      omega
    · simp [same]

/-- Only texts without the delimiter stay as they are. -/
theorem double_eq_self_iff {c : Char} {cs : List Char} : double c cs = cs ↔ c ∉ cs := by
  refine ⟨fun same => ?_, double_of_not_mem⟩
  have counts := congrArg (List.count c) same
  rw [count_double] at counts
  rw [← List.count_eq_zero]
  omega

/-- The characters between delimiters, the closing one doubled inside. -/
def delimited (opening closing : Char) (cs : List Char) : List Char :=
  opening :: (double closing cs ++ [closing])

theorem delimited_append (opening closing : Char) (cs rest : List Char) :
    delimited opening closing cs ++ rest = opening :: (double closing cs ++ closing :: rest) := by
  simp [delimited]

/-- The literal that denotes a text in SQL. -/
def literal (s : String) : String := String.ofList (delimited '\'' '\'' s.toList)

@[simp] theorem toList_literal (s : String) : (literal s).toList = delimited '\'' '\'' s.toList := by
  simp [literal]

end SqlSchema.Text
