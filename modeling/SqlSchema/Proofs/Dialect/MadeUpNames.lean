import Mathlib.Algebra.Group.Nat.Defs
import SqlSchema.Proofs.Dialect.Escaping
import SqlSchema.Script.Text

/-!
# Names that a dialect makes up

Two names that differ are written alike exactly if the dialect confuses them (`Style.sameName_name_iff`). A known dialect
reserves no name that is made up for a primary key or a sequence, cut or not, so these are confused with none of their
kind (`Style.sameName_keyName_iff`, `Style.sameName_sequenceName_iff`).
-/

namespace SqlSchema

/-- The name of the primary key of a table before it is cut. -/
def wholeKeyName (table : String) : String := "PK_" ++ table

/-- The name of the sequence of an identity column before it is cut. -/
def wholeSequenceName (table column : String) : String := table ++ "_" ++ column ++ "_seq"

variable {d : Dialect} {a b n : String}

/-! ### Texts -/

namespace Text

/-- The digit of `n` to the base sixteen that has `i` digits behind it. -/
def hexDigit (n i : Nat) : Char := Nat.digitChar (n / 16 ^ i % 16)

private theorem hexPadded_succ (w n : Nat) : hexPadded (w + 2) n = hexPadded (w + 1) (n / 16) ++ [hexDigit n 0] := by
  unfold hexPadded hexDigits hexDigit
  rw [Nat.pow_zero, Nat.div_one, Nat.toDigits_eq_if (by decide)]
  split
  · rename_i small
    rw [Nat.div_eq_of_lt small, Nat.toDigits_eq_if (by decide), if_pos (by decide), Nat.mod_eq_of_lt small]
    show List.replicate (w + 1) '0' ++ _ = List.replicate w '0' ++ ['0'] ++ _
    rw [List.replicate_succ']
  · rw [List.length_append, List.length_singleton, ← List.append_assoc]
    congr 3
    omega

/-- A number that is small enough is padded to its digits at all places. -/
theorem hexPadded_eq (w n : Nat) (h : n < 16 ^ (w + 1)) :
    hexPadded (w + 1) n = (List.range (w + 1)).map fun i => hexDigit n (w - i) := by
  induction w generalizing n with
  | zero =>
    have small : n < 16 := by simpa using h
    unfold hexPadded hexDigits
    rw [Nat.toDigits_eq_if (by decide), if_pos small]
    show [Nat.digitChar n] = [Nat.digitChar (n / 1 % 16)]
    rw [Nat.div_one, Nat.mod_eq_of_lt small]
  | succ w ih =>
    have shorter : n / 16 < 16 ^ (w + 1) := by
      rw [Nat.div_lt_iff_lt_mul (by decide), ← Nat.pow_succ]
      exact h
    rw [hexPadded_succ, ih _ shorter, List.range_succ (n := w + 1), List.map_append, List.map_singleton, Nat.sub_self]
    congr 1
    refine List.map_congr_left fun i mem => ?_
    rw [List.mem_range] at mem
    have place : w + 1 - i = w - i + 1 := by omega
    unfold hexDigit
    rw [place, Nat.div_div_eq_div_mul, Nat.pow_succ']

end Text

namespace Dialect

/-! ### Fingerprints -/

/-- The digits of a fingerprint are those at its eight places. -/
theorem fingerprintDigits_eq (n : String) :
    fingerprintDigits n = (List.range 8).map fun i => Text.hexDigit (Text.fingerprint n).toNat (7 - i) :=
  Text.hexPadded_eq 7 _ (Text.fingerprint n).toNat_lt

theorem length_fingerprintDigits (n : String) : (fingerprintDigits n).length = 8 := by
  rw [fingerprintDigits_eq, List.length_map, List.length_range]

private theorem toNat_of_mem_fingerprint {c : Char} (h : c ∈ (fingerprintDigits n).map Char.toUpper) : c.toNat < 71 := by
  have each : ∀ k < 16, (Nat.digitChar k).toUpper.toNat < 71 := by decide
  rw [fingerprintDigits_eq, List.map_map, List.mem_map] at h
  obtain ⟨i, -, rfl⟩ := h
  exact each _ (Nat.mod_lt _ (by decide))

/-! ### Reserved words -/

/-- No reserved word starts like the name of a primary key or ends like that of a sequence, and none ends with as many
characters up to `F` as a fingerprint has digits. -/
private theorem words_unlike_made_up (known : d ∈ all) : ∀ w ∈ d.reserved.words, ¬['P', 'K'] <+: w.toList ∧
    ¬"_SEQ".toList <:+ w.toList ∧ (w.toList.reverse.takeWhile (·.toNat < 71)).length < 8 := by
  have each : ∀ d ∈ all, ∀ w ∈ d.reserved.words, ¬['P', 'K'] <+: w.toList ∧ ¬"_SEQ".toList <:+ w.toList ∧
      (w.toList.reverse.takeWhile (·.toNat < 71)).length < 8 := by
    simp only [Text.toList_eq_chars]
    decide +kernel
  exact each d known

private theorem word_no_fingerprint (known : d ∈ all) {w : String} (h : w ∈ d.reserved.words) {digits : List Char}
    (eight : digits.length = 8) (small : ∀ c ∈ digits, c.toNat < 71) : ¬digits <:+ w.toList := by
  rintro ⟨front, split⟩
  have short := (words_unlike_made_up known w h).2.2
  rw [← split, List.reverse_append, List.takeWhile_append_of_pos] at short
  · rw [List.length_append, List.length_reverse, eight] at short
    omega
  · intro c mem
    simpa using small c (List.mem_reverse.mp mem)

private theorem not_confuses (ha : d.isReserved a = false) (hb : d.isReserved b = false) : ¬d.Confuses a b := by
  rintro (⟨reserved, -⟩ | ⟨reserved, -⟩)
  · rw [ha] at reserved
    cases reserved
  · rw [hb] at reserved
    cases reserved

/-! ### Names that are cut -/

/-- A name that is too long is cut and ends with eight digits behind an underscore. -/
theorem fit_cases (d : Dialect) (n : String) :
    d.fit n = n ∨ ∃ max, d.maxNameSize = some max ∧
      (d.fit n).toList = Text.takeBytes (max - 9) n.toList ++ '_' :: fingerprintDigits n := by
  unfold fit
  split
  · exact .inl rfl
  · rename_i max limit
    split
    · exact .inl rfl
    · refine .inr ⟨max, limit, ?_⟩
      rw [String.toList_ofList, length_fingerprintDigits]

/-- A name that is escaped and then cut is not reserved, so that it is not escaped again. -/
theorem isReserved_fit_escape (known : d ∈ all) (n : String) : d.isReserved (d.fit (d.escape n)) = false := by
  rcases d.fit_cases (d.escape n) with whole | ⟨max, -, cut⟩
  · rw [whole]
    exact isReserved_escape (tabulated_of_known known)
  · refine isReserved_eq_false ?_
    rintro w hw rfl
    have eight : ((fingerprintDigits (d.escape n)).map Char.toUpper).length = 8 := by
      rw [List.length_map, length_fingerprintDigits]
    refine word_no_fingerprint known hw eight (fun c mem => toNat_of_mem_fingerprint mem) ?_
    rw [Text.toList_upper, cut, List.append_cons, List.map_append]
    exact List.suffix_append _ _

/-! ### Names of primary keys -/

private theorem toList_wholeKeyName (table : String) :
    (wholeKeyName table).toList = 'P' :: 'K' :: '_' :: table.toList := by
  rw [wholeKeyName, String.toList_append]
  rfl

private theorem pk_prefix_fit (known : d ∈ all) (table : String) :
    ['P', 'K'] <+: (d.fit (wholeKeyName table)).toList := by
  rcases d.fit_cases (wholeKeyName table) with whole | ⟨max, limit, cut⟩
  · rw [whole, toList_wholeKeyName]
    exact ⟨'_' :: table.toList, rfl⟩
  · have each : ∀ d ∈ all, ∀ max ∈ d.maxNameSize, 2 ≤ max - 9 := by decide +kernel
    have two := each d known max limit
    have one (c : Char) (h : c.utf8Size = 1) (k : Nat) (cs : List Char) (hk : 1 ≤ k) :
        Text.takeBytes k (c :: cs) = c :: Text.takeBytes (k - 1) cs := by
      rw [Text.takeBytes, h, if_pos hk]
    rw [cut, toList_wholeKeyName, one 'P' rfl _ _ (by omega), one 'K' rfl _ _ (by omega)]
    exact ⟨_, rfl⟩

private theorem isReserved_eq_false_of_pk (known : d ∈ all) (h : ['P', 'K'] <+: (Text.upper n).toList) :
    d.isReserved n = false := by
  refine isReserved_eq_false ?_
  rintro w hw rfl
  exact (words_unlike_made_up known _ hw).1 h

/-- No name is written like one that starts like a primary key, unless it is the same. -/
private theorem not_confuses_of_pk (known : d ∈ all) (h : ['P', 'K'] <+: (Text.upper b).toList) :
    ¬d.Confuses a b := by
  rintro (⟨reserved, escaped⟩ | ⟨reserved, -⟩)
  · have start : ['P', 'K'] <+: (Text.upper a).toList := by
      have ending : (Text.upper escapeEnding).toList = '_' :: "ATTRIBUTE".toList := by decide
      rw [Text.upper_eq_of_sameName escaped, Text.upper_append, String.toList_append, ending] at h
      -- the ending starts with neither of the letters
      generalize (Text.upper a).toList = capitals at h ⊢
      rcases capitals with _ | ⟨x, _ | ⟨y, ys⟩⟩
      · simp at h
      · simp at h
      · simpa using h
    rw [isReserved_eq_false_of_pk known start] at reserved
    cases reserved
  · rw [isReserved_eq_false_of_pk known h] at reserved
    cases reserved

/-! ### Names of sequences -/

/-- Whether identity columns have sequences. -/
def usesSequences (d : Dialect) : Bool := d.identity.create?.isSome

private theorem isReserved_wholeSequenceName (known : d ∈ all) (table column : String) :
    d.isReserved (wholeSequenceName table column) = false := by
  refine isReserved_eq_false ?_
  rintro w hw rfl
  refine (words_unlike_made_up known _ hw).2.1 ?_
  rw [wholeSequenceName, Text.upper_append, String.toList_append]
  exact List.suffix_append _ _

private theorem isReserved_fit_wholeSequenceName (known : d ∈ all) (table column : String) :
    d.isReserved (d.fit (wholeSequenceName table column)) = false := by
  have kept := isReserved_fit_escape known (wholeSequenceName table column)
  rwa [escape_of_not_reserved (isReserved_wholeSequenceName known table column)] at kept

end Dialect

/-! ### Names in statements -/

namespace Style

variable {s : Style}

open Dialect

theorem sameName_name_iff (known : s.dialect ∈ all) :
    Text.sameName (s.name a) (s.name b) = true ↔ Text.sameName a b = true ∨ s.dialect.Confuses a b := by
  unfold name
  rw [sameName_render_iff, writtenKey_eq_iff (tabulated_of_known known)]

theorem sameName_name_eq_false_iff (known : s.dialect ∈ all) (other : Text.sameName a b = false) :
    Text.sameName (s.name a) (s.name b) = false ↔ ¬s.dialect.Confuses a b := by
  rw [← Bool.not_eq_true, sameName_name_iff known, other]
  simp

/-- A name is written like that of a primary key exactly if it is the same name, as far as it is not cut. -/
theorem sameName_keyName_iff (known : s.dialect ∈ all) (table : String) :
    Text.sameName (s.name n) (s.keyName table) = true ↔
      Text.sameName n (s.dialect.fit (wholeKeyName table)) = true := by
  have start := pk_prefix_fit known table
  have capital : ['P', 'K'] <+: (Text.upper (s.dialect.fit (wholeKeyName table))).toList := by
    rw [Text.toList_upper]
    exact start.map Char.toUpper
  have plain : s.dialect.escape ("PK_" ++ table) = wholeKeyName table := by
    refine escape_of_not_reserved (isReserved_eq_false_of_pk known ?_)
    rw [Text.upper_append, String.toList_append]
    exact ⟨'_' :: (Text.upper table).toList, rfl⟩
  unfold keyName madeUp
  rw [plain, sameName_name_iff known, or_iff_left (not_confuses_of_pk known capital)]

/-- Sequences are written alike exactly if their names are the same after they are cut. -/
theorem sameName_sequenceName_iff (known : s.dialect ∈ all) (t c u e : String) :
    Text.sameName (s.sequenceName t c) (s.sequenceName u e) = true ↔
      Text.sameName (s.dialect.fit (wholeSequenceName t c)) (s.dialect.fit (wholeSequenceName u e)) = true := by
  have written (t c : String) : s.sequenceName t c = s.name (s.dialect.fit (wholeSequenceName t c)) := by
    have plain := escape_of_not_reserved (isReserved_wholeSequenceName known t c)
    unfold sequenceName madeUp
    rw [← wholeSequenceName, plain]
  have apart := not_confuses (isReserved_fit_wholeSequenceName known t c)
    (isReserved_fit_wholeSequenceName known u e)
  rw [written, written, sameName_name_iff known, or_iff_left apart]

end Style

end SqlSchema
