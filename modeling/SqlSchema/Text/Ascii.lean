/-!
# Case folding of names

SQL names are compared without regard to the case of the letters A to Z; every other character is kept as it is.
`lower` and `upper` fold those letters, and `sameName` is the equality of names that they give: an equivalence
relation that concatenation respects (`sameName_append`). No other character has a case, so what is to be known of the
case of characters is decided for the first 128 (`forall_of_ascii`).
-/

namespace SqlSchema.Text

/-- The text with A to Z made small. -/
def lower (s : String) : String := String.ofList (s.toList.map Char.toLower)

/-- The text with a to z made capital. -/
def upper (s : String) : String := String.ofList (s.toList.map Char.toUpper)

/-- Equality of names. -/
def sameName (a b : String) : Bool := lower a == lower b

@[simp] theorem toList_lower (s : String) : (lower s).toList = s.toList.map Char.toLower := by
  simp [lower]

@[simp] theorem toList_upper (s : String) : (upper s).toList = s.toList.map Char.toUpper := by
  simp [upper]

/-! ### Letters -/

section Wide

variable {c : Char} (wide : 128 ≤ c.toNat)

include wide

theorem not_val_le_of_wide {a : Char} (ascii : a.toNat < 128) : ¬c.val ≤ a.val := fun le =>
  absurd (UInt32.le_iff_toNat_le.mp le) (Nat.not_le_of_lt (Nat.lt_of_lt_of_le ascii wide))

theorem ne_of_wide {a : Char} (ascii : a.toNat < 128) : c ≠ a := fun same =>
  not_val_le_of_wide wide ascii (same ▸ UInt32.le_refl _)

theorem isUpper_of_wide : c.isUpper = false :=
  decide_eq_false fun capital => not_val_le_of_wide wide (by decide : 'Z'.toNat < 128) capital.2

theorem isLower_of_wide : c.isLower = false :=
  Bool.and_eq_false_iff.mpr (.inr (decide_eq_false (not_val_le_of_wide wide (by decide : 'z'.toNat < 128))))

theorem isDigit_of_wide : c.isDigit = false :=
  Bool.and_eq_false_iff.mpr (.inr (decide_eq_false (not_val_le_of_wide wide (by decide : '9'.toNat < 128))))

theorem isAlphanum_of_wide : c.isAlphanum = false :=
  Bool.or_eq_false_iff.mpr ⟨Bool.or_eq_false_iff.mpr ⟨isUpper_of_wide wide, isLower_of_wide wide⟩, isDigit_of_wide wide⟩

theorem toLower_of_wide : c.toLower = c :=
  dif_neg fun capital => not_val_le_of_wide wide (by decide : 'Z'.toNat < 128) capital.2

theorem toUpper_of_wide : c.toUpper = c :=
  dif_neg fun small => not_val_le_of_wide wide (by decide : 'z'.toNat < 128) small.2

end Wide

/-- What holds of the ASCII characters and of those with a larger code holds of every character. -/
theorem forall_of_ascii {p : Char → Prop} (ascii : ∀ n < 128, p (Char.ofNat n)) (wide : ∀ c : Char, 128 ≤ c.toNat → p c)
    (c : Char) : p c := by
  rcases Nat.lt_or_ge c.toNat 128 with small | large
  · have h := ascii c.toNat small
    rwa [Char.ofNat_toNat] at h
  · exact wide c large

theorem toLower_of_isUpper_eq_false {c : Char} : c.isUpper = false → c.toLower = c :=
  forall_of_ascii (p := fun c => c.isUpper = false → c.toLower = c) (by decide) (fun _ wide _ => toLower_of_wide wide) c

theorem toLower_of_isDigit {c : Char} : c.isDigit = true → c.toLower = c :=
  forall_of_ascii (p := fun c => c.isDigit = true → c.toLower = c) (by decide) (fun _ wide _ => toLower_of_wide wide) c

theorem toLower_toLower (c : Char) : c.toLower.toLower = c.toLower :=
  forall_of_ascii (by decide) (fun _ wide => congrArg Char.toLower (toLower_of_wide wide)) c

theorem toLower_toUpper (c : Char) : c.toUpper.toLower = c.toLower :=
  forall_of_ascii (by decide) (fun _ wide => congrArg Char.toLower (toUpper_of_wide wide)) c

theorem toUpper_toLower (c : Char) : c.toLower.toUpper = c.toUpper :=
  forall_of_ascii (by decide) (fun _ wide => congrArg Char.toUpper (toLower_of_wide wide)) c

/-! ### Names -/

theorem lower_upper (s : String) : lower (upper s) = lower s := by
  rw [← String.toList_inj, toList_lower, toList_upper, List.map_map, toList_lower]
  exact List.map_congr_left fun c _ => toLower_toUpper c

theorem upper_lower (s : String) : upper (lower s) = upper s := by
  rw [← String.toList_inj, toList_upper, toList_lower, List.map_map, toList_upper]
  exact List.map_congr_left fun c _ => toUpper_toLower c

theorem lower_lower (s : String) : lower (lower s) = lower s := by
  rw [← String.toList_inj, toList_lower, toList_lower, List.map_map]
  exact List.map_congr_left fun c _ => toLower_toLower c

theorem lower_append (a b : String) : lower (a ++ b) = lower a ++ lower b := by
  simp [← String.toList_inj]

theorem upper_append (a b : String) : upper (a ++ b) = upper a ++ upper b := by
  simp [← String.toList_inj]

theorem sameName_iff {a b : String} : sameName a b = true ↔ lower a = lower b := by
  simp [sameName]

@[simp] theorem sameName_refl (a : String) : sameName a a = true := by
  simp [sameName]

theorem sameName_comm (a b : String) : sameName a b = sameName b a :=
  Bool.eq_iff_iff.mpr (by rw [sameName_iff, sameName_iff]; exact eq_comm)

theorem sameName_trans {a b c : String} (h : sameName a b = true) (k : sameName b c = true) :
    sameName a c = true := by
  rw [sameName_iff] at *
  exact h.trans k

theorem sameName_append {a b c d : String} (h : sameName a b = true) (k : sameName c d = true) :
    sameName (a ++ c) (b ++ d) = true := by
  rw [sameName_iff] at *
  rw [lower_append, lower_append, h, k]

/-- Whether `s` starts with `start`, case aside. -/
def startsWithName (s start : String) : Bool :=
  (lower start).toList.isPrefixOf (lower s).toList

/-- Whether `s` ends with `tail`. -/
def endsWith (s tail : String) : Bool := tail.toList.isSuffixOf s.toList

/-- The text without its ending `tail`, when it has that ending. -/
def dropEnd? (s tail : String) : Option String :=
  if endsWith s tail then some (String.ofList (s.toList.take (s.toList.length - tail.toList.length)))
  else none

end SqlSchema.Text
