import SqlSchema.Proofs.Dialect.MadeUpNames

/-!
# Names that fit

A name that is too long for an engine is cut at a boundary between characters and marked with the fingerprint of the
whole. On the bytes of the name that is a search backwards for a boundary and a slice up to it, neither of which can
fail (`fitBytes?_eq`). What comes out fits, and a known dialect does not lengthen it again when it writes the name of a
sequence or of a primary key (`made_up_names_fit`).
-/

namespace SqlSchema

namespace Text

/-! ### The start of a text that fits -/

/-- The longest start of the characters that takes at most `n` bytes. -/
structure LongestStart (n : Nat) (cs front : List Char) : Prop where
  start : front <+: cs
  fits : byteSize front ≤ n
  longest : ∀ other, other <+: cs → byteSize other ≤ n → other <+: front

private theorem byteSize_le_of_prefix {front cs : List Char} (h : front <+: cs) : byteSize front ≤ byteSize cs := by
  obtain ⟨rest, rfl⟩ := h
  rw [byteSize_append]
  omega

theorem longestStart_takeBytes (n : Nat) (cs : List Char) : LongestStart n cs (takeBytes n cs) := by
  refine ⟨⟨dropBytes n cs, takeBytes_append_dropBytes n cs⟩, byteSize_takeBytes_le n cs, ?_⟩
  rintro other ⟨rest, rfl⟩ fits
  induction other generalizing n with
  | nil => exact List.nil_prefix
  | cons c other ih =>
    rw [byteSize_cons] at fits
    rw [List.cons_append, takeBytes, if_pos (by omega)]
    exact (List.prefix_cons_inj c).mpr (ih (n - c.utf8Size) (by omega))

/-! ### The same on bytes -/

theorem size_eq_utf8ByteSize (s : String) : size s = s.utf8ByteSize := by
  have sizes (cs : List Char) : byteSize cs = (String.ofList cs).utf8ByteSize := by
    induction cs with
    | nil => rfl
    | cons c cs ih =>
      rw [byteSize_cons, ih, String.ofList_cons, String.utf8ByteSize_append, String.utf8ByteSize_singleton]
  rw [size, sizes, String.ofList_toList]

/-- The last boundary between characters in the first `n` bytes of a text, looked for backwards from byte to byte;
nothing if the search leaves the text. -/
def boundaryFrom? (s : String) : Nat → Option Nat
  | 0 => if String.Pos.Raw.isValid s ⟨0⟩ then some 0 else none
  | n + 1 => if String.Pos.Raw.isValid s ⟨n + 1⟩ then some (n + 1) else boundaryFrom? s n

/-- A position is a boundary if the bytes in front of it are those of a start of the characters. -/
private theorem isValid_iff {s : String} {n : Nat} :
    String.Pos.Raw.isValid s ⟨n⟩ = true ↔ ∃ front, front <+: s.toList ∧ byteSize front = n := by
  rw [String.Pos.Raw.isValid_eq_true_iff, String.Pos.Raw.isValid_iff_exists_append]
  constructor
  · rintro ⟨first, second, rfl, here⟩
    refine ⟨first.toList, by rw [String.toList_append]; exact List.prefix_append _ _, ?_⟩
    rw [← size, size_eq_utf8ByteSize]
    exact (congrArg String.Pos.Raw.byteIdx here).symm
  · rintro ⟨front, ⟨rest, split⟩, here⟩
    refine ⟨String.ofList front, String.ofList rest, ?_, ?_⟩
    · rw [← String.ofList_append, split, String.ofList_toList]
    · rw [← here, String.Pos.Raw.ext_iff, String.byteIdx_rawEndPos, ← size_eq_utf8ByteSize, size, String.toList_ofList]

/-- The search ends where the longest start that fits does. -/
theorem boundaryFrom?_eq (s : String) (n : Nat) : boundaryFrom? s n = some (byteSize (takeBytes n s.toList)) := by
  induction n with
  | zero =>
    have nothing := (longestStart_takeBytes 0 s.toList).fits
    have here : String.Pos.Raw.isValid s ⟨0⟩ = true := isValid_iff.mpr ⟨[], List.nil_prefix, rfl⟩
    rw [boundaryFrom?, if_pos here, Nat.le_zero.mp nothing]
  | succ n ih =>
    have whole := longestStart_takeBytes (n + 1) s.toList
    have shorter := longestStart_takeBytes n s.toList
    rw [boundaryFrom?]
    split
    · rename_i here
      obtain ⟨front, start, size⟩ := isValid_iff.mp here
      have longer := byteSize_le_of_prefix (whole.longest front start (by omega))
      have := whole.fits
      congr 1
      omega
    · rename_i inside
      have other : byteSize (takeBytes (n + 1) s.toList) ≠ n + 1 := fun size =>
        inside (isValid_iff.mpr ⟨_, whole.start, size⟩)
      have := whole.fits
      have := byteSize_le_of_prefix (shorter.longest _ whole.start (by omega))
      have := byteSize_le_of_prefix (whole.longest _ shorter.start (by have := shorter.fits; omega))
      rw [ih]
      congr 1
      omega

/-- The bytes up to there are a text. -/
private theorem fromUTF8?_extract (s : String) (n : Nat) :
    String.fromUTF8? (s.toUTF8.extract 0 (byteSize (takeBytes n s.toList))) =
      some (String.ofList (takeBytes n s.toList)) := by
  have split : s = String.ofList (takeBytes n s.toList) ++ String.ofList (dropBytes n s.toList) := by
    rw [← String.ofList_append, takeBytes_append_dropBytes, String.ofList_toList]
  have bytes : s.toUTF8.extract 0 (byteSize (takeBytes n s.toList)) =
      (String.ofList (takeBytes n s.toList)).toByteArray := by
    have whole := (congrArg String.toByteArray split).trans String.toByteArray_append
    rw [String.toUTF8, whole]
    refine ByteArray.extract_append_eq_left ?_
    rw [String.size_toByteArray, ← size_eq_utf8ByteSize, size, String.toList_ofList]
  rw [bytes]
  unfold String.fromUTF8?
  rw [dif_pos (String.ofList (takeBytes n s.toList)).isValidUTF8]
  rfl

/-! ### Fingerprints -/

/-- The hash of bytes by the rule FNV-1a in 32 bits. -/
def fnv1a (bytes : List Nat) : Nat :=
  bytes.foldl (fun hash byte => (hash ^^^ byte) * 16777619 % 2 ^ 32) 2166136261

theorem toNat_fingerprint (s : String) :
    (fingerprint s).toNat = fnv1a (s.toUTF8.data.toList.map UInt8.toNat) := by
  unfold fingerprint fnv1a
  rw [List.foldl_map]
  refine (List.foldl_hom UInt32.toNat fun hash byte => ?_).symm
  rw [UInt32.toNat_mul, UInt32.toNat_xor, UInt8.toNat_toUInt32]
  rfl

/-- The digits of a number below `2 ^ 32` to the base sixteen, eight of them. -/
def eightDigits (n : Nat) : List Char := (List.range 8).map fun i => hexDigit n (7 - i)

end Text

namespace Dialect

variable {d : Dialect} {max : Nat}

theorem fingerprintDigits_eq_eightDigits (n : String) :
    fingerprintDigits n = Text.eightDigits (Text.fnv1a (n.toUTF8.data.toList.map UInt8.toNat)) := by
  rw [fingerprintDigits_eq, Text.toNat_fingerprint]
  rfl

/-! ### Names that are cut -/

/-- A name cut on its bytes; nothing if the search for a boundary leaves the name or the slice up to it is no text. -/
def fitBytes? (d : Dialect) (n : String) : Option String :=
  match d.maxNameSize with
  | none => some n
  | some max =>
    if n.utf8ByteSize ≤ max then some n
    else do
      let digits := fingerprintDigits n
      let cut ← Text.boundaryFrom? n (max - (digits.length + 1))
      let front ← String.fromUTF8? (n.toUTF8.extract 0 cut)
      some (front ++ "_" ++ String.ofList digits)

/-- Neither step fails, and the name comes out that the characters give. -/
theorem fitBytes?_eq (d : Dialect) (n : String) : d.fitBytes? n = some (d.fit n) := by
  unfold fitBytes? fit
  cases limit : d.maxNameSize with
  | none => rfl
  | some max =>
    simp only [Text.size_eq_utf8ByteSize]
    split
    · rfl
    · simp only [Text.boundaryFrom?_eq, Option.bind_eq_bind, Option.bind_some, Text.fromUTF8?_extract]
      rw [String.ofList_append, String.ofList_cons, String.append_assoc]
      rfl

/-- What a name of at most `max` bytes satisfies that stands for `n`. -/
structure FitsFor (max : Nat) (n fitted : String) : Prop where
  size_le : fitted.utf8ByteSize ≤ max
  eq_iff : fitted = n ↔ n.utf8ByteSize ≤ max
  /-- A name that is too long is cut to make room for its hash. -/
  cut : max < n.utf8ByteSize → ∃ front, Text.LongestStart (max - 9) n.toList front ∧
    fitted.toList = front ++ '_' :: Text.eightDigits (Text.fnv1a (n.toUTF8.data.toList.map UInt8.toNat))

theorem fit_of_size_le (limit : d.maxNameSize = some max) {n : String} (short : Text.size n ≤ max) : d.fit n = n := by
  unfold fit
  rw [limit]
  exact if_pos short

theorem toList_fit_of_lt_size (limit : d.maxNameSize = some max) {n : String} (long : max < Text.size n) :
    (d.fit n).toList = Text.takeBytes (max - 9) n.toList ++ '_' :: fingerprintDigits n := by
  unfold fit
  simp only [limit, if_neg (Nat.not_le_of_lt long), String.toList_ofList, length_fingerprintDigits]

/-- The digits of a fingerprint take a byte each. -/
private theorem byteSize_fingerprintDigits (n : String) : Text.byteSize (fingerprintDigits n) = 8 := by
  have each : ∀ k < 16, (Nat.digitChar k).utf8Size = 1 := by decide
  have ones (cs : List Char) (one : ∀ c ∈ cs, c.utf8Size = 1) : Text.byteSize cs = cs.length := by
    induction cs with
    | nil => rfl
    | cons c cs ih =>
      rw [Text.byteSize_cons, one c List.mem_cons_self, ih fun e mem => one e (List.mem_cons_of_mem c mem),
        List.length_cons, Nat.add_comm]
  rw [ones, length_fingerprintDigits]
  intro c mem
  rw [fingerprintDigits_eq, List.mem_map] at mem
  obtain ⟨i, -, rfl⟩ := mem
  exact each _ (Nat.mod_lt _ (by decide))

theorem size_fit_le (limit : d.maxNameSize = some max) (room : 9 ≤ max) (n : String) : Text.size (d.fit n) ≤ max := by
  rcases Nat.lt_or_ge max (Text.size n) with long | short
  · have front := (Text.longestStart_takeBytes (max - 9) n.toList).fits
    have underscore : '_'.utf8Size = 1 := rfl
    rw [Text.size, toList_fit_of_lt_size limit long, Text.byteSize_append, Text.byteSize_cons,
      byteSize_fingerprintDigits, underscore]
    omega
  · rwa [fit_of_size_le limit short]

theorem fit_fit (limit : d.maxNameSize = some max) (room : 9 ≤ max) (n : String) : d.fit (d.fit n) = d.fit n :=
  fit_of_size_le limit (size_fit_le limit room n)

theorem fitsFor_fit (limit : d.maxNameSize = some max) (room : 9 ≤ max) (n : String) : FitsFor max n (d.fit n) := by
  refine ⟨?_, ?_, ?_⟩
  · rw [← Text.size_eq_utf8ByteSize]
    exact size_fit_le limit room n
  · rw [← Text.size_eq_utf8ByteSize]
    constructor
    · intro same
      have fits := size_fit_le limit room n
      rwa [same] at fits
    · exact fit_of_size_le limit
  · rw [← Text.size_eq_utf8ByteSize]
    intro long
    refine ⟨_, Text.longestStart_takeBytes (max - 9) n.toList, ?_⟩
    rw [toList_fit_of_lt_size limit long, fingerprintDigits_eq_eightDigits]

end Dialect

/-! ### Names in statements -/

/-- A name that a known dialect makes up is the cut name itself where names are not quoted. -/
theorem Style.madeUp_eq {d : Dialect} (known : d ∈ Dialect.all) (n : String) :
    Style.madeUp { dialect := d } n = d.fit (d.escape n) := by
  have kept := Dialect.escape_of_not_reserved (Dialect.isReserved_fit_escape known n)
  rw [Style.madeUp, Style.name, Dialect.render, if_neg Bool.false_ne_true, kept]

namespace Dialect

/-- A name is cut to what any dialect takes, without fault, to the longest start that leaves room for the hash of the
whole. In a known dialect the names of sequences and primary keys are cut so, and nothing is added to them. -/
theorem made_up_names_fit :
    (∀ (d : Dialect) (max : Nat), d.maxNameSize = some max → 9 ≤ max → ∀ n : String,
      d.fitBytes? n = some (d.fit n) ∧ FitsFor max n (d.fit n) ∧ d.fit (d.fit n) = d.fit n) ∧
    ∀ d ∈ all, ∀ max, d.maxNameSize = some max → ∀ table column : String,
      Style.sequenceName { dialect := d } table column = d.fit (d.escape (wholeSequenceName table column)) ∧
      (Style.sequenceName { dialect := d } table column).utf8ByteSize ≤ max ∧
      Style.keyName { dialect := d } table = d.fit (d.escape (wholeKeyName table)) ∧
      (Style.keyName { dialect := d } table).utf8ByteSize ≤ max := by
  refine ⟨fun d max limit room n => ⟨d.fitBytes?_eq n, fitsFor_fit limit room n, fit_fit limit room n⟩, ?_⟩
  intro d known max limit table column
  have room : 9 ≤ max := by
    have each : ∀ d ∈ all, ∀ max ∈ d.maxNameSize, 9 ≤ max := by decide +kernel
    exact each d known max limit
  have sequence : Style.sequenceName { dialect := d } table column = d.fit (d.escape (wholeSequenceName table column)) :=
    Style.madeUp_eq known _
  have key : Style.keyName { dialect := d } table = d.fit (d.escape (wholeKeyName table)) := Style.madeUp_eq known _
  refine ⟨sequence, ?_, key, ?_⟩
  · rw [sequence]
    exact (fitsFor_fit limit room _).size_le
  · rw [key]
    exact (fitsFor_fit limit room _).size_le

/-- A name of 81 bytes, in which the 54th byte ends no character. -/
def accents : String := String.ofList ('a' :: List.replicate 40 'é')

theorem accents_fit :
    postgresql ∈ all ∧ postgresql.maxNameSize = some 63 ∧ accents.utf8ByteSize = 81 ∧
      postgresql.fitBytes? accents = some (postgresql.fit accents) ∧ FitsFor 63 accents (postgresql.fit accents) ∧
      (postgresql.fit accents).utf8ByteSize = 62 ∧ postgresql.fit (postgresql.fit accents) = postgresql.fit accents ∧
      (Style.sequenceName { dialect := postgresql } accents "id").utf8ByteSize ≤ 63 := by
  have known : postgresql ∈ all := by decide +kernel
  have limit : postgresql.maxNameSize = some 63 := rfl
  obtain ⟨bytes, fits, again⟩ := made_up_names_fit.1 postgresql 63 limit (by decide) accents
  have sequence := (made_up_names_fit.2 postgresql known 63 limit accents "id").2.1
  exact ⟨known, limit, by decide +kernel, bytes, fits, by decide +kernel, again, sequence⟩

end Dialect

end SqlSchema
