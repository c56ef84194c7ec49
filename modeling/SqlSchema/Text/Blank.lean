/-!
# Blank characters

The blank characters are those of Unicode's `White_Space` property. Trimming cuts them from both ends of a text and
`words` splits a text at its runs of blanks.
-/

namespace SqlSchema.Text

/-- Whether `c` is white space in the sense of Unicode. -/
def isBlank (c : Char) : Bool :=
  let n := c.toNat
  (0x9 ≤ n && n ≤ 0xd) || n == 0x20 || n == 0x85 || n == 0xa0 || n == 0x1680 || (0x2000 ≤ n && n ≤ 0x200a) ||
    n == 0x2028 || n == 0x2029 || n == 0x202f || n == 0x205f || n == 0x3000

/-- The characters without the blanks in front. -/
def trimLeft (cs : List Char) : List Char := cs.dropWhile isBlank

/-- The characters without the blanks at the end. -/
def trimRight (cs : List Char) : List Char := (cs.reverse.dropWhile isBlank).reverse

/-- The characters without the blanks at both ends. -/
def trimChars (cs : List Char) : List Char := trimRight (trimLeft cs)

/-- The text without the blanks at both ends. -/
def trim (s : String) : String := String.ofList (trimChars s.toList)

@[simp] theorem toList_trim (s : String) : (trim s).toList = trimChars s.toList := by
  simp [trim]

theorem trimLeft_append_of_all_blank {cs ds : List Char} (h : ∀ c ∈ cs, isBlank c = true) :
    trimLeft (cs ++ ds) = trimLeft ds := by
  induction cs with
  | nil => rfl
  | cons c cs ih =>
    have hc := h c (by simp)
    simp only [trimLeft, List.cons_append, List.dropWhile_cons, hc, ↓reduceIte]
    exact ih fun d hd => h d (by simp [hd])

theorem trimLeft_cons_of_visible {c : Char} {cs : List Char} (visible : isBlank c = false) :
    trimLeft (c :: cs) = c :: cs :=
  List.dropWhile_cons_of_neg (by simp [visible])

theorem trimRight_append_of_all_blank {cs ds : List Char} (h : ∀ d ∈ ds, isBlank d = true) :
    trimRight (cs ++ ds) = trimRight cs := by
  have blank : ∀ d ∈ ds.reverse, isBlank d = true := fun d hd => h d (List.mem_reverse.mp hd)
  have dropped : trimLeft (ds.reverse ++ cs.reverse) = trimLeft cs.reverse := trimLeft_append_of_all_blank blank
  rw [trimRight, List.reverse_append]
  exact congrArg List.reverse dropped

theorem trimRight_append_cons_of_visible {c : Char} {cs ds : List Char} (visible : isBlank c = false) :
    trimRight (cs ++ c :: ds) = cs ++ c :: trimRight ds := by
  have reversed : (cs ++ c :: ds).reverse = ds.reverse ++ (c :: cs.reverse) := by simp
  rw [trimRight, reversed, List.dropWhile_append]
  split
  · rename_i all_blank
    have nothing : ds.reverse.dropWhile isBlank = [] := by simpa using all_blank
    rw [List.dropWhile_cons_of_neg (by simp [visible]), trimRight, nothing]
    simp
  · rw [trimRight]
    simp

theorem trimRight_concat_of_visible {c : Char} {cs : List Char} (visible : isBlank c = false) :
    trimRight (cs ++ [c]) = cs ++ [c] := by
  rw [trimRight_append_cons_of_visible visible]
  rfl

theorem trimRight_prefix (cs : List Char) : trimRight cs <+: cs := by
  have suffix : cs.reverse.dropWhile isBlank <:+ cs.reverse := List.dropWhile_suffix isBlank
  rw [← List.reverse_prefix, List.reverse_reverse] at suffix
  exact suffix

theorem isBlank_of_isDigit {c : Char} (h : c.isDigit = true) : isBlank c = false := by
  have ⟨low, high⟩ := Char.isDigit_iff_toNat.mp h
  change 48 ≤ c.toNat at low
  change c.toNat ≤ 57 at high
  simp only [isBlank, Bool.or_eq_false_iff, Bool.and_eq_false_iff, decide_eq_false_iff_not, beq_eq_false_iff_ne]
  omega

theorem trimChars_of_no_blank {cs : List Char} (h : ∀ c ∈ cs, isBlank c = false) : trimChars cs = cs := by
  have keep : ∀ ds : List Char, (∀ c ∈ ds, isBlank c = false) → ds.dropWhile isBlank = ds := by
    intro ds all
    cases ds with
    | nil => rfl
    | cons c ds => exact List.dropWhile_cons_of_neg (by simp [all c List.mem_cons_self])
  rw [trimChars, trimLeft, keep cs h, trimRight, keep _ fun c hc => h c (List.mem_reverse.mp hc), List.reverse_reverse]

/-- The maximal runs of characters other than blanks, in order. -/
def words (cs : List Char) : List (List Char) :=
  match h : trimLeft cs with
  | [] => []
  | c :: rest =>
    have : (rest.dropWhile (!isBlank ·)).length < cs.length := by
      have h₁ := (List.dropWhile_sublist isBlank (l := cs)).length_le
      have h₂ := (List.dropWhile_sublist (!isBlank ·) (l := rest)).length_le
      simp only [trimLeft] at h
      rw [h] at h₁
      simp only [List.length_cons] at h₁
      omega
    (c :: rest.takeWhile (!isBlank ·)) :: words (rest.dropWhile (!isBlank ·))
termination_by cs.length

end SqlSchema.Text
