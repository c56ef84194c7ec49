import Mathlib.Data.List.Chain
import SqlSchema.Proofs.Dialect.Known
import SqlSchema.Proofs.Dialect.WrittenNames

/-!
# Escaped names

Reserved words are `Tabulated` if they are in order, in capitals and without the ending of escaped names, as those of
every known dialect are (`tabulated_of_known`). A reserved name is then found, a name is escaped no more than once, and
two names that differ are escaped alike exactly if the dialect `Confuses` them: one is reserved and the other is that
one escaped (`escapes_apart`).
-/

namespace SqlSchema

/-! ### Capitals -/

namespace Text

private theorem toUpper_eq_self {c : Char} : c.toNat < 97 → c.toUpper = c :=
  forall_of_ascii (p := fun c => c.toNat < 97 → c.toUpper = c) (by decide) (fun _ wide _ => toUpper_of_wide wide) c

/-- An ending stays one when the letters are made capital. -/
theorem suffix_upper {n ending : String} (h : ending.toList <:+ n.toList) :
    (upper ending).toList <:+ (upper n).toList := by
  rw [toList_upper, toList_upper]
  exact h.map _

end Text

/-! ### Reserved words -/

/-- What reserved words satisfy that can be looked up and be escaped. -/
structure ReservedWords.Tabulated (r : ReservedWords) : Prop where
  sorted : r.words.Pairwise (· < ·)
  capital : ∀ w ∈ r.words, Text.upper w = w
  unescaped : ∀ w ∈ r.words, Text.endsWith w "_ATTRIBUTE" = false

namespace Dialect

variable {d : Dialect} {a b n : String}

private theorem words_of_known (known : d ∈ all) :
    d.reserved.words.IsChain (fun v w => v.toList < w.toList) ∧
      ∀ w ∈ d.reserved.words, w.toList.all (·.toNat < 97) ∧ ¬"_ATTRIBUTE".toList <:+ w.toList := by
  have each : ∀ d ∈ all, d.reserved.words.IsChain (fun v w => v.toList < w.toList) ∧
      ∀ w ∈ d.reserved.words, w.toList.all (·.toNat < 97) ∧ ¬"_ATTRIBUTE".toList <:+ w.toList := by
    simp only [Text.toList_eq_chars]
    decide +kernel
  exact each d known

theorem tabulated_of_known (known : d ∈ all) : d.reserved.Tabulated := by
  obtain ⟨ordered, words⟩ := words_of_known known
  constructor
  · rw [← List.isChain_map, List.isChain_iff_pairwise, List.pairwise_map] at ordered
    exact ordered
  · intro w hw
    have kept : ∀ c ∈ w.toList, c.toUpper = c := by
      intro c hc
      exact Text.toUpper_eq_self (by simpa using List.all_eq_true.mp (words w hw).1 c hc)
    rw [← String.toList_inj, Text.toList_upper, List.map_congr_left kept, List.map_id']
  · intro w hw
    rw [Text.endsWith, ← Bool.not_eq_true, List.isSuffixOf_iff_suffix]
    exact (words w hw).2

theorem isReserved_iff (tabulated : d.reserved.Tabulated) :
    d.isReserved n = true ↔ Text.upper n ∈ d.reserved.words :=
  ReservedWords.search_eq_true_iff tabulated.sorted

/-- A name is no reserved one if its capitals are no reserved word. -/
theorem isReserved_eq_false (h : ∀ w ∈ d.reserved.words, w ≠ Text.upper n) : d.isReserved n = false := by
  by_contra reserved
  rw [Bool.not_eq_false] at reserved
  exact h _ (ReservedWords.upper_mem_of_contains reserved) rfl

private theorem isReserved_eq_false_of_ending (tabulated : d.reserved.Tabulated)
    (h : "_ATTRIBUTE".toList <:+ (Text.upper n).toList) : d.isReserved n = false := by
  refine isReserved_eq_false ?_
  rintro w hw rfl
  have other := tabulated.unescaped _ hw
  rw [Text.endsWith, List.isSuffixOf_iff_suffix.mpr h] at other
  cases other

private theorem isReserved_append_escapeEnding (tabulated : d.reserved.Tabulated) :
    d.isReserved (n ++ escapeEnding) = false := by
  refine isReserved_eq_false_of_ending tabulated ?_
  rw [Text.upper_append, String.toList_append]
  exact List.suffix_append _ _

/-! ### Escaped names -/

theorem escape_of_not_reserved (h : d.isReserved n = false) : d.escape n = n := by
  unfold escape
  rw [h, Bool.not_false, Bool.or_true, if_pos rfl]

theorem escape_of_reserved (tabulated : d.reserved.Tabulated) (h : d.isReserved n = true) :
    d.escape n = n ++ escapeEnding := by
  unfold escape
  have plain : Text.endsWith (Text.lower n) escapeEnding = false := by
    by_contra ending
    rw [Bool.not_eq_false, Text.endsWith, List.isSuffixOf_iff_suffix] at ending
    have capital := Text.suffix_upper ending
    rw [Text.upper_lower] at capital
    rw [isReserved_eq_false_of_ending tabulated capital] at h
    cases h
  rw [plain, h]
  rfl

theorem isReserved_escape (tabulated : d.reserved.Tabulated) : d.isReserved (d.escape n) = false := by
  cases reserved : d.isReserved n with
  | true =>
    rw [escape_of_reserved tabulated reserved]
    exact isReserved_append_escapeEnding tabulated
  | false => rwa [escape_of_not_reserved reserved]

/-- Whether a dialect writes alike two names that the model tells apart: it reserves one of them, and the other is that
one with the ending of escaped names. -/
def Confuses (d : Dialect) (a b : String) : Prop :=
  d.isReserved a = true ∧ Text.sameName b (a ++ escapeEnding) = true ∨
    d.isReserved b = true ∧ Text.sameName a (b ++ escapeEnding) = true

instance : Decidable (d.Confuses a b) := inferInstanceAs (Decidable (_ ∨ _))

/-- A name is written as its escaped form. -/
private theorem writtenKey_eq_of_escaped (tabulated : d.reserved.Tabulated) (reserved : d.isReserved a = true)
    (h : Text.sameName b (a ++ escapeEnding) = true) : d.writtenKey a = d.writtenKey b := by
  have plain : d.isReserved b = false := by
    rw [isReserved_eq_of_sameName h]
    exact isReserved_append_escapeEnding tabulated
  unfold writtenKey
  rw [escape_of_reserved tabulated reserved, escape_of_not_reserved plain]
  exact (Text.sameName_iff.mp h).symm

theorem writtenKey_eq_iff (tabulated : d.reserved.Tabulated) :
    d.writtenKey a = d.writtenKey b ↔ Text.sameName a b = true ∨ d.Confuses a b := by
  constructor
  · intro same
    unfold writtenKey at same
    cases ha : d.isReserved a with
    | true =>
      rw [escape_of_reserved tabulated ha] at same
      cases hb : d.isReserved b with
      | true =>
        rw [escape_of_reserved tabulated hb, Text.lower_append, Text.lower_append, ← String.toList_inj,
          String.toList_append, String.toList_append] at same
        exact .inl (Text.sameName_iff.mpr (String.toList_inj.mp (List.append_cancel_right same)))
      | false =>
        rw [escape_of_not_reserved hb] at same
        exact .inr (.inl ⟨ha, Text.sameName_iff.mpr same.symm⟩)
    | false =>
      rw [escape_of_not_reserved ha] at same
      cases hb : d.isReserved b with
      | true =>
        rw [escape_of_reserved tabulated hb] at same
        exact .inr (.inr ⟨hb, Text.sameName_iff.mpr same⟩)
      | false =>
        rw [escape_of_not_reserved hb] at same
        exact .inl (Text.sameName_iff.mpr same)
  · rintro (same | ⟨reserved, escaped⟩ | ⟨reserved, escaped⟩)
    · exact writtenKey_eq_of_sameName same
    · exact writtenKey_eq_of_escaped tabulated reserved escaped
    · exact (writtenKey_eq_of_escaped tabulated reserved escaped).symm

/-- A reserved name is a reserved word, case aside. -/
private theorem exists_word_iff (tabulated : d.reserved.Tabulated) :
    d.isReserved a = true ∧ Text.sameName b (a ++ escapeEnding) = true ↔
      ∃ w ∈ d.reserved.words, Text.sameName a w = true ∧ Text.sameName b (w ++ "_attribute") = true := by
  rw [isReserved_iff tabulated]
  constructor
  · rintro ⟨mem, escaped⟩
    have same : Text.sameName a (Text.upper a) = true := Text.sameName_iff.mpr (Text.lower_upper a).symm
    exact ⟨_, mem, same, Text.sameName_trans escaped (Text.sameName_append same (Text.sameName_refl _))⟩
  · rintro ⟨w, hw, same, escaped⟩
    rw [Text.upper_eq_of_sameName same, tabulated.capital w hw]
    rw [Text.sameName_comm] at same
    exact ⟨hw, Text.sameName_trans escaped (Text.sameName_append same (Text.sameName_refl _))⟩

/-- What the escaping of names satisfies that merges no more names than it has to. -/
structure KeepsNamesApart (d : Dialect) : Prop where
  reserved_iff : ∀ n, d.isReserved n = true ↔ Text.upper n ∈ d.reserved.words
  escaped_not_reserved : ∀ n, d.isReserved (d.escape n) = false
  escaped_once : ∀ n, d.escape (d.escape n) = d.escape n
  /-- Names become the same only if they are, or if one is a reserved word and the other that word with the ending. -/
  escaped_alike_iff : ∀ a b, Text.sameName (d.escape a) (d.escape b) = true ↔ Text.sameName a b = true ∨
    ∃ w ∈ d.reserved.words, Text.sameName a w = true ∧ Text.sameName b (w ++ "_attribute") = true ∨
      Text.sameName b w = true ∧ Text.sameName a (w ++ "_attribute") = true

/-- The words that a known dialect reserves are tabulated, and any dialect whose words are escapes names once, to names
that are not reserved, and merges a reserved word with its escaped form alone. -/
theorem escape_keeps_names_apart :
    (∀ d ∈ all, d.reserved.Tabulated) ∧ ∀ d : Dialect, d.reserved.Tabulated → d.KeepsNamesApart := by
  refine ⟨fun d known => tabulated_of_known known, fun d tabulated => ?_⟩
  constructor
  · exact fun n => isReserved_iff tabulated
  · exact fun n => isReserved_escape tabulated
  · exact fun n => escape_of_not_reserved (isReserved_escape tabulated)
  · intro a b
    have keys : Text.sameName (d.escape a) (d.escape b) = true ↔ d.writtenKey a = d.writtenKey b := Text.sameName_iff
    rw [keys, writtenKey_eq_iff tabulated, Confuses, exists_word_iff tabulated, exists_word_iff tabulated]
    simp only [and_or_left, exists_or]

/-- The word is reserved in any case, and its escaped form is the name of another column as it stands. -/
theorem h2_escapes_check :
    Dialect.h2.reserved.Tabulated ∧ Dialect.h2.KeepsNamesApart ∧ Dialect.h2.escape "Check" = "Check_attribute" ∧
      Dialect.h2.escape "CHECK_ATTRIBUTE" = "CHECK_ATTRIBUTE" ∧
      Text.sameName (Dialect.h2.escape "Check") (Dialect.h2.escape "CHECK_ATTRIBUTE") = true := by
  have tabulated := escape_keeps_names_apart.1 .h2 (by decide +kernel)
  have apart := escape_keeps_names_apart.2 .h2 tabulated
  have alike := (apart.escaped_alike_iff "Check" "CHECK_ATTRIBUTE").mpr
    (.inr ⟨"CHECK", by decide +kernel, .inl ⟨by decide, by decide⟩⟩)
  exact ⟨tabulated, apart, by decide +kernel, by decide +kernel, alike⟩

end Dialect

end SqlSchema
