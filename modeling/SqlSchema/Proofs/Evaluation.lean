import Mathlib.Data.List.Basic

/-!
# Characters by bytes

The characters of a text are decoded from its bytes, over which the kernel takes long. An ASCII text has a character for
each byte (`toList_eq_byteChars`), so a statement that is decided for all texts of the known dialects is first rewritten
by `toList_eq_chars`.
-/

namespace SqlSchema.Text

/-- The bytes of a text, each taken as a character. -/
def byteChars (s : String) : List Char := s.toByteArray.data.toList.map fun b => Char.ofNat b.toNat

theorem toNat_ofNat_byte (b : UInt8) : (Char.ofNat b.toNat).toNat = b.toNat := by
  have := b.toNat_lt
  have valid : b.toNat.isValidChar := .inl (by omega)
  rw [Char.ofNat, dif_pos valid]
  rfl

/-- The characters of an ASCII text are its bytes. -/
theorem toList_eq_byteChars {s : String} (ascii : ∀ c ∈ byteChars s, c.toNat < 128) : s.toList = byteChars s := by
  have encoded : ∀ b ∈ s.toByteArray.data.toList, String.utf8EncodeChar (Char.ofNat b.toNat) = [b] := by
    intro b hb
    have small : (Char.ofNat b.toNat).val.toNat < 128 := ascii _ (List.mem_map_of_mem hb)
    have value : (Char.ofNat b.toNat).val.toNat = b.toNat := toNat_ofNat_byte b
    have one : (Char.ofNat b.toNat).utf8Size = 1 := by
      rw [Char.utf8Size_eq_one_iff, UInt32.le_iff_toNat_le]
      exact Nat.le_of_lt_succ small
    rw [String.utf8EncodeChar_eq_singleton one, List.singleton_inj, ← UInt8.toNat_inj, UInt32.toNat_toUInt8, value]
    omega
  have bytes : (String.ofList (byteChars s)).toByteArray = s.toByteArray := by
    refine ByteArray.ext (Array.toList_inj.mp ?_)
    rw [String.toByteArray_ofList, List.utf8Encode, List.toList_data_toByteArray, byteChars, List.flatMap_map,
      List.flatMap_congr encoded, List.flatMap_singleton']
  have same := congrArg String.toList (String.toByteArray_inj.mp bytes)
  rw [← same, String.toList_ofList]

/-- The characters of a text, by its bytes if they are ASCII. -/
def chars (s : String) : List Char :=
  if (byteChars s).all (·.toNat < 128) then byteChars s else s.toList

theorem toList_eq_chars (s : String) : s.toList = chars s := by
  unfold chars
  split
  · rename_i ascii
    exact toList_eq_byteChars (by simpa using ascii)
  · rfl

end SqlSchema.Text
