/-!
# Sizes in bytes

Limits on names and offsets into queries count the bytes of UTF-8. `byteSize` measures characters that way, and
`takeBytes n` cuts a text to at most `n` bytes without cutting through a character: what it keeps is a prefix
(`takeBytes_append_dropBytes`) that fits (`byteSize_takeBytes_le`). `fingerprint` is the 32-bit FNV-1a hash of the
bytes, which tells apart texts that were cut to the same prefix.
-/

namespace SqlSchema.Text

/-- The number of bytes of the characters in UTF-8. -/
def byteSize : List Char → Nat
  | [] => 0
  | c :: cs => c.utf8Size + byteSize cs

@[simp] theorem byteSize_nil : byteSize [] = 0 := rfl

@[simp] theorem byteSize_cons (c : Char) (cs : List Char) : byteSize (c :: cs) = c.utf8Size + byteSize cs := rfl

@[simp] theorem byteSize_append (cs ds : List Char) : byteSize (cs ++ ds) = byteSize cs + byteSize ds := by
  induction cs with
  | nil => simp
  | cons c cs ih => simp [ih, Nat.add_assoc]

/-- The longest start of the characters that takes at most `n` bytes. -/
def takeBytes : Nat → List Char → List Char
  | _, [] => []
  | n, c :: cs => if c.utf8Size ≤ n then c :: takeBytes (n - c.utf8Size) cs else []

/-- What `takeBytes n` leaves. -/
def dropBytes : Nat → List Char → List Char
  | _, [] => []
  | n, c :: cs => if c.utf8Size ≤ n then dropBytes (n - c.utf8Size) cs else c :: cs

theorem takeBytes_append_dropBytes (n : Nat) (cs : List Char) : takeBytes n cs ++ dropBytes n cs = cs := by
  induction cs generalizing n with
  | nil => rfl
  | cons c cs ih =>
    simp only [takeBytes, dropBytes]
    split
    · simp [ih]
    · rfl

theorem byteSize_takeBytes_le (n : Nat) (cs : List Char) : byteSize (takeBytes n cs) ≤ n := by
  induction cs generalizing n with
  | nil => simp [takeBytes]
  | cons c cs ih =>
    simp only [takeBytes]
    split
    · have := ih (n - c.utf8Size)
      simp only [byteSize_cons]
      omega
    · simp

/-- Cutting a text at the end of one of its starts gives that start. -/
@[simp] theorem takeBytes_byteSize_append (cs ds : List Char) :
    takeBytes (byteSize cs) (cs ++ ds) = cs := by
  induction cs with
  | nil =>
    cases ds with
    | nil => rfl
    | cons d ds =>
      have := d.utf8Size_pos
      simp only [List.nil_append, takeBytes, byteSize_nil]
      rw [if_neg (by omega)]
  | cons c cs ih =>
    simp only [List.cons_append, takeBytes, byteSize_cons]
    rw [if_pos (by omega), Nat.add_sub_cancel_left, ih]

@[simp] theorem dropBytes_byteSize_append (cs ds : List Char) :
    dropBytes (byteSize cs) (cs ++ ds) = ds := by
  have h := takeBytes_append_dropBytes (byteSize cs) (cs ++ ds)
  rw [takeBytes_byteSize_append] at h
  exact List.append_cancel_left h

/-- The number of bytes of a text. -/
def size (s : String) : Nat := byteSize s.toList

/-- The 32-bit FNV-1a hash of the bytes of a text. -/
def fingerprint (s : String) : UInt32 :=
  s.toUTF8.data.toList.foldl (fun hash b => (hash ^^^ b.toUInt32) * 0x01000193) 0x811c9dc5

end SqlSchema.Text
