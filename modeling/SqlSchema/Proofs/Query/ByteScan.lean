import SqlSchema.Proofs.Dialect.Escaping
import SqlSchema.Proofs.Dialect.FittedNames
import SqlSchema.Proofs.Query.Seams

/-!
# The scan on bytes

The scan of a query can go over its bytes, one turn of a loop after the other. It then stops inside a character that
takes several bytes, each of which is like an other character to it, and it cuts words and comments out of the query at
offsets, which fails inside a character. It never does: from a place between two characters the turns of the loop reach
the end of the next lexeme, and what they know there is what the scan knows after that lexeme (`byteScan?_eq`).

A quoted run is skipped by a loop of its own: a closing delimiter is passed over together with one behind it, and the
first that stands alone ends the run. It skips what is the quoted lexeme at that place (`skipQuoted_append`).
-/

namespace SqlSchema

namespace Text

/-! ### Slices -/

/-- Whether no character goes on over the offset. -/
def IsBoundary (n : Nat) (cs : List Char) : Prop := ∃ front, front <+: cs ∧ byteSize front = n

theorem isBoundary_iff {n : Nat} {cs : List Char} : IsBoundary n cs ↔ byteSize (takeBytes n cs) = n := by
  constructor
  · rintro ⟨front, ⟨back, rfl⟩, rfl⟩
    rw [takeBytes_byteSize_append]
  · intro size
    exact ⟨_, (longestStart_takeBytes n cs).start, size⟩

instance (n : Nat) (cs : List Char) : Decidable (IsBoundary n cs) := decidable_of_iff _ isBoundary_iff.symm

/-- The characters between two offsets; nothing if the offsets are not in order, or one of them is behind the end or
inside a character. -/
def slice? (cs : List Char) (start stop : Nat) : Option (List Char) :=
  if start ≤ stop ∧ IsBoundary start cs ∧ IsBoundary stop cs then
    some (takeBytes (stop - start) (dropBytes start cs))
  else none

theorem slice?_append (front cs back : List Char) :
    slice? (front ++ cs ++ back) (byteSize front) (byteSize front + byteSize cs) = some cs := by
  have start : IsBoundary (byteSize front) (front ++ cs ++ back) :=
    ⟨front, ⟨cs ++ back, (List.append_assoc _ _ _).symm⟩, rfl⟩
  have stop : IsBoundary (byteSize front + byteSize cs) (front ++ cs ++ back) :=
    ⟨front ++ cs, List.prefix_append _ _, byteSize_append _ _⟩
  rw [slice?, if_pos ⟨Nat.le_add_right _ _, start, stop⟩, Nat.add_sub_cancel_left, List.append_assoc,
    dropBytes_byteSize_append, takeBytes_byteSize_append]

example : slice? ['a', 'é', 'b'] 1 3 = some ['é'] ∧ slice? ['a', 'é', 'b'] 1 2 = none := by decide

/-- The offset at which a pattern occurs for the first time. -/
def find? (pattern : List Char) : List Char → Option Nat
  | [] => if pattern.isEmpty then some 0 else none
  | c :: cs => if pattern.isPrefixOf (c :: cs) then some 0 else (find? pattern cs).map (c.utf8Size + ·)

/-! ### Bytes -/

/-- The bytes of a character in UTF-8, each taken as a character. -/
def encoded (c : Char) : List Char := (String.utf8EncodeChar c).map fun b => Char.ofNat b.toNat

/-- The bytes of characters. -/
def bytes (cs : List Char) : List Char := cs.flatMap encoded

/-- They are the bytes of the text. -/
theorem byteChars_ofList (cs : List Char) : byteChars (String.ofList cs) = bytes cs := by
  rw [byteChars, String.toByteArray_ofList, List.utf8Encode, List.toList_data_toByteArray, List.map_flatMap]
  rfl

theorem bytes_cons (c : Char) (cs : List Char) : bytes (c :: cs) = encoded c ++ bytes cs := List.flatMap_cons

theorem bytes_append (cs ds : List Char) : bytes (cs ++ ds) = bytes cs ++ bytes ds := List.flatMap_append

theorem length_encoded (c : Char) : (encoded c).length = c.utf8Size := by
  rw [encoded, List.length_map, String.length_utf8EncodeChar]

theorem length_bytes (cs : List Char) : (bytes cs).length = byteSize cs := by
  induction cs with
  | nil => rfl
  | cons c cs ih => rw [bytes_cons, List.length_append, ih, length_encoded, byteSize_cons]

/-- Behind some of the characters stand the bytes of the others. -/
theorem drop_bytes_append (front cs : List Char) : (bytes (front ++ cs)).drop (byteSize front) = bytes cs := by
  rw [bytes_append, ← length_bytes, List.drop_left]

section Character

variable {c : Char}

theorem utf8Size_of_ascii (ascii : c.toNat < 128) : c.utf8Size = 1 := by
  rw [Char.utf8Size_eq_one_iff, UInt32.le_iff_toNat_le]
  exact Nat.le_of_lt_succ ascii

/-- A character of one byte is its byte. -/
theorem encoded_of_ascii (ascii : c.toNat < 128) : encoded c = [c] := by
  have small : c.val.toNat < 256 := ascii.trans (by decide)
  have code : c.val.toNat % 256 = c.toNat := Nat.mod_eq_of_lt small
  rw [encoded, String.utf8EncodeChar_eq_singleton (utf8Size_of_ascii ascii), List.map_singleton,
    UInt32.toNat_toUInt8, code, Char.ofNat_toNat]

theorem bytes_cons_of_ascii (ascii : c.toNat < 128) (cs : List Char) : bytes (c :: cs) = c :: bytes cs := by
  rw [bytes_cons, encoded_of_ascii ascii, List.singleton_append]

theorem exists_cons_encoded (c : Char) : ∃ b more, encoded c = b :: more := by
  refine List.exists_cons_of_length_pos ?_
  rw [length_encoded]
  exact c.utf8Size_pos

/-- None of several bytes of a character is an ASCII character. -/
theorem le_toNat_of_mem_encoded (wide : 128 ≤ c.toNat) {b : Char} (byte : b ∈ encoded c) : 128 ≤ b.toNat := by
  have large : ¬c.val.toNat ≤ 127 := Nat.not_le_of_lt wide
  have high : ∀ code ∈ String.utf8EncodeChar c, 128 ≤ code.toNat := by
    unfold String.utf8EncodeChar
    dsimp only
    -- two, three or four bytes
    split_ifs
    all_goals
      simp only [List.forall_mem_cons, List.not_mem_nil, false_implies, implies_true, and_true, UInt8.toNat_ofNat']
      omega
  obtain ⟨code, mem, rfl⟩ := List.mem_map.mp byte
  rw [toNat_ofNat_byte]
  exact high code mem

/-- An ASCII character is a byte of no other character. -/
theorem eq_of_mem_encoded {a : Char} (ascii : a.toNat < 128) (byte : a ∈ encoded c) : a = c := by
  rcases Nat.lt_or_ge c.toNat 128 with small | wide
  · rwa [encoded_of_ascii small, List.mem_singleton] at byte
  · exact absurd (le_toNat_of_mem_encoded wide byte) (Nat.not_le_of_lt ascii)

/-- An ASCII character is the first byte just where it is the first character. -/
theorem head?_bytes_eq_iff {a : Char} (ascii : a.toNat < 128) {cs : List Char} :
    (bytes cs).head? = some a ↔ cs.head? = some a := by
  cases cs with
  | nil => exact Iff.rfl
  | cons c cs =>
    obtain ⟨b, more, code⟩ := exists_cons_encoded c
    rw [bytes_cons, code, List.cons_append, List.head?_cons, List.head?_cons, Option.some_inj, Option.some_inj]
    constructor
    · rintro rfl
      exact (eq_of_mem_encoded ascii (code ▸ List.mem_cons_self)).symm
    · rintro rfl
      rw [encoded_of_ascii ascii] at code
      exact (List.head_eq_of_cons_eq code).symm

end Character

theorem takeWhile_bytes {p : Char → Bool} (ascii : ∀ c, p c = true → c.toNat < 128) (cs : List Char) :
    (bytes cs).takeWhile p = bytes (cs.takeWhile p) := by
  induction cs with
  | nil => rfl
  | cons c cs ih =>
    by_cases taken : p c = true
    · rw [bytes_cons_of_ascii (ascii c taken), List.takeWhile_cons_of_pos taken, List.takeWhile_cons_of_pos taken, ih,
        bytes_cons_of_ascii (ascii c taken)]
    · obtain ⟨b, more, code⟩ := exists_cons_encoded c
      have left : ¬p b = true := by
        intro also
        rw [eq_of_mem_encoded (ascii b also) (code ▸ List.mem_cons_self)] at also
        exact taken also
      rw [bytes_cons, code, List.cons_append, List.takeWhile_cons_of_neg left, List.takeWhile_cons_of_neg taken]
      rfl

end Text

namespace Query

/-! ### Runs of bytes -/

section Runs

variable {close : Char} {ds : List Char}

private theorem quotedTail_append_of_not_mem (other : close ∉ ds) (cs : List Char) :
    quotedTail close (ds ++ cs) = (ds ++ (quotedTail close cs).1, (quotedTail close cs).2) := by
  have h := quotedTail_double_append close ds cs
  rwa [Text.double_of_not_mem other] at h

private theorem lineTail_append_of_not_mem (other : '\n' ∉ ds) (cs : List Char) :
    lineTail (ds ++ cs) = (ds ++ (lineTail cs).1, (lineTail cs).2) := by
  induction ds with
  | nil => rfl
  | cons d ds ih =>
    rw [List.mem_cons, not_or] at other
    rw [List.cons_append, lineTail, if_neg (Ne.symm other.1), ih other.2]
    rfl

/-- A quoted run ends at the same place among the bytes. -/
theorem quotedTail_bytes (ascii : close.toNat < 128) (cs : List Char) :
    (quotedTail close (Text.bytes cs)).1 = Text.bytes (quotedTail close cs).1 := by
  have pass {c : Char} (other : c ≠ close) (cs : List Char) :
      (quotedTail close (Text.bytes (c :: cs))).1 = Text.encoded c ++ (quotedTail close (Text.bytes cs)).1 := by
    rw [Text.bytes_cons, quotedTail_append_of_not_mem fun byte => other (Text.eq_of_mem_encoded ascii byte).symm]
  fun_induction quotedTail close cs with
  | case1 => rfl
  | case2 c =>
    by_cases same : c = close
    · rw [same, Text.bytes_cons_of_ascii ascii]
      rfl
    · rw [pass same]
      rfl
  | case3 rest run after run_eq ih =>
    rw [run_eq] at ih
    simp [Text.bytes_cons_of_ascii ascii, quotedTail, ih]
  | case4 d rest other =>
    have single : (Text.bytes (d :: rest)).head? ≠ some close := by
      rw [Ne, Text.head?_bytes_eq_iff ascii]
      exact fun same => other (Option.some.inj same)
    rw [Text.bytes_cons_of_ascii ascii, quotedTail_single single, Text.bytes_cons_of_ascii ascii]
    rfl
  | case5 c d rest other run after run_eq ih =>
    rw [run_eq] at ih
    rw [pass other, ih, Text.bytes_cons]

/-- So does a line. -/
theorem lineTail_bytes (cs : List Char) : (lineTail (Text.bytes cs)).1 = Text.bytes (lineTail cs).1 := by
  have ascii : '\n'.toNat < 128 := by decide
  fun_induction lineTail cs with
  | case1 => rfl
  | case2 rest =>
    rw [Text.bytes_cons_of_ascii ascii, Text.bytes_cons_of_ascii ascii]
    simp [lineTail, Text.bytes]
  | case3 c rest other comment after comment_eq ih =>
    rw [comment_eq] at ih
    rw [Text.bytes_cons, lineTail_append_of_not_mem fun byte => other (Text.eq_of_mem_encoded ascii byte).symm, ih,
      Text.bytes_cons]

end Runs

theorem toNat_lt_of_closingOf? {c close : Char} (opens : closingOf? c = some close) :
    c.toNat < 128 ∧ close.toNat < 128 := by
  unfold closingOf? at opens
  split at opens
  · rename_i delimiter
    cases opens
    rcases delimiter with rfl | rfl | rfl <;> decide
  · split at opens
    · rename_i bracket
      cases opens
      subst bracket
      decide
    · cases opens

/-- The offset behind the closing delimiter of a run that goes on at the offset `i`; the end if there is none. -/
def skipFrom (bytes : List Char) (close : Char) (i : Nat) : Nat :=
  if _ : i < bytes.length then
    if bytes[i] = close then
      if bytes[i + 1]? = some close then skipFrom bytes close (i + 2) else i + 1
    else skipFrom bytes close (i + 1)
  else bytes.length
termination_by bytes.length - i

/-- The offset behind a quoted run that has its opening delimiter at the offset `start`. -/
def skipQuoted (bytes : List Char) (start : Nat) (close : Char) : Nat := skipFrom bytes close (start + 1)

/-- The loop passes over the run that is read from the bytes at its offset. -/
theorem skipFrom_eq {bytes : List Char} {i : Nat} (close : Char) (inside : i ≤ bytes.length) :
    skipFrom bytes close i = i + (quotedTail close (bytes.drop i)).1.length := by
  fun_induction skipFrom bytes close i with
  | case1 i here closes doubled ih =>
    obtain ⟨next, byte⟩ := List.getElem?_eq_some_iff.mp doubled
    have behind : bytes.drop i = close :: close :: bytes.drop (i + 2) := by
      rw [List.drop_eq_getElem_cons here, closes, List.drop_eq_getElem_cons next, byte]
    rw [ih next, behind, quotedTail_doubled, List.length_cons, List.length_cons]
    omega
  | case2 i here closes alone =>
    have single : (bytes.drop (i + 1)).head? ≠ some close := by rwa [List.head?_drop]
    rw [List.drop_eq_getElem_cons here, closes, quotedTail_single single]
    rfl
  | case3 i here other ih =>
    rw [ih here, List.drop_eq_getElem_cons here, quotedTail_cons other, List.length_cons]
    omega
  | case4 i beyond =>
    rw [List.drop_of_length_le (Nat.le_of_not_lt beyond)]
    exact Nat.le_antisymm (Nat.le_of_not_lt beyond) inside

theorem skipQuoted_eq {bytes rest : List Char} {start : Nat} {b : Char} (close : Char)
    (here : bytes.drop start = b :: rest) :
    skipQuoted bytes start close = start + (1 + (quotedTail close rest).1.length) := by
  have inside : start < bytes.length := by
    have := congrArg List.length here
    rw [List.length_drop, List.length_cons] at this
    omega
  have behind : bytes.drop (start + 1) = rest := by
    rw [← List.drop_drop, here]
    rfl
  rw [skipQuoted, skipFrom_eq close inside, behind]
  exact Nat.add_assoc start 1 _

/-- From an opening delimiter the loop passes over the characters of the run. -/
theorem skipQuoted_append {c close : Char} (opens : closingOf? c = some close) (front rest : List Char) :
    skipQuoted (Text.bytes (front ++ c :: rest)) (Text.byteSize front) close =
      Text.byteSize front + (1 + Text.byteSize (quotedTail close rest).1) := by
  obtain ⟨ascii, close_ascii⟩ := toNat_lt_of_closingOf? opens
  have here : (Text.bytes (front ++ c :: rest)).drop (Text.byteSize front) = c :: Text.bytes rest := by
    rw [Text.drop_bytes_append, Text.bytes_cons_of_ascii ascii]
  rw [skipQuoted_eq close here, quotedTail_bytes close_ascii, Text.length_bytes]

/-- The bytes of a block comment behind its opening, up to the first end of one. -/
def commentSize (cs : List Char) : Nat :=
  match Text.find? ['*', '/'] cs with
  | some n => n + 2
  | none => Text.byteSize cs

theorem commentSize_eq (cs : List Char) : commentSize cs = Text.byteSize (blockTail cs).1 := by
  fun_induction blockTail cs with
  | case1 => rfl
  | case2 c => simp [commentSize, Text.find?]
  | case3 c d rest ends =>
    obtain ⟨rfl, rfl⟩ := ends
    rfl
  | case4 c d rest no_end comment after comment_eq ih =>
    rw [comment_eq] at ih
    have no_prefix : ¬['*', '/'].isPrefixOf (c :: d :: rest) = true := by
      rw [List.isPrefixOf_iff_prefix, List.cons_prefix_cons, List.cons_prefix_cons]
      exact fun ends => no_end ⟨ends.1.symm, ends.2.1.symm⟩
    rw [Text.byteSize_cons, ← ih, commentSize, commentSize, Text.find?, if_neg no_prefix]
    cases Text.find? ['*', '/'] (d :: rest) with
    | none => rfl
    | some n => exact Nat.add_assoc _ _ _

/-! ### The loop -/

namespace Scan

/-- After `n` bytes of one kind, which are no word. -/
def advance (s : Scan) (kind : LexemeKind) (n : Nat) : Scan :=
  let after := s.position + n
  let read : Scan :=
    match kind with
    | .lineComment | .blockComment | .blank => s
    | .terminator => { s with pending := none }
    | .opening => { s with depth := s.depth + 1, pending := none, atStart := false, stop := after }
    | .closing => { s with depth := s.depth - 1, stop := after }
    | .quoted | .word | .other => { s with pending := none, atStart := false, stop := after }
  { read with position := after }

theorem position_advance (s : Scan) (kind : LexemeKind) (n : Nat) : (s.advance kind n).position = s.position + n := rfl

theorem step_of_not_word (s : Scan) {l : Lexeme} (other : l.kind ≠ .word) :
    s.step l = s.advance l.kind (Text.byteSize l.text) := by
  obtain ⟨kind, text⟩ := l
  cases kind
  case word => exact absurd rfl other
  all_goals rfl

end Scan

/-- After one turn of the loop, at the byte `b` with the bytes `rest` behind it; nothing if a slice fails. -/
def byteTurn? (cs : List Char) (s : Scan) (b : Char) (rest : List Char) : Option Scan :=
  match closingOf? b with
  | some close => some (s.advance .quoted (skipQuoted (Text.bytes cs) s.position close - s.position))
  | none =>
    if b = '-' ∧ rest.head? = some '-' then some (s.advance .lineComment (lineTail (b :: rest)).1.length)
    else if b = '/' ∧ rest.head? = some '*' then do
      let more ← Text.slice? cs (s.position + 2) (Text.byteSize cs)
      some (s.advance .blockComment (2 + commentSize more))
    else if isWordChar b then do
      let after := s.position + ((b :: rest).takeWhile isWordChar).length
      let text ← Text.slice? cs s.position after
      some { s.word text after with stop := after, position := after }
    else some (s.advance (singleKind b) 1)

/-- Every turn moves on. -/
theorem position_lt_of_byteTurn? {cs rest : List Char} {s next : Scan} {b : Char}
    (here : (Text.bytes cs).drop s.position = b :: rest) (turn : byteTurn? cs s b rest = some next) :
    s.position < next.position := by
  have lineTail_pos : 0 < (lineTail (b :: rest)).1.length := by
    unfold lineTail
    split <;> exact Nat.succ_pos _
  unfold byteTurn? at turn
  split at turn
  · cases turn
    rw [Scan.position_advance, skipQuoted_eq _ here]
    omega
  split_ifs at turn with line block word
  · cases turn
    rw [Scan.position_advance]
    omega
  · obtain ⟨more, -, moved⟩ := Option.bind_eq_some_iff.mp turn
    cases moved
    rw [Scan.position_advance]
    omega
  · obtain ⟨text, -, moved⟩ := Option.bind_eq_some_iff.mp turn
    cases moved
    rw [List.takeWhile_cons_of_pos word, List.length_cons]
    exact Nat.lt_add_of_pos_right (Nat.succ_pos _)
  · cases turn
    exact Nat.lt_succ_self _

/-- The loop over the bytes of a query, from the place where `s` stands. -/
def byteScan? (cs : List Char) (s : Scan) : Option Scan :=
  match _ : (Text.bytes cs).drop s.position with
  | [] => some s
  | b :: rest =>
    match _ : byteTurn? cs s b rest with
    | none => none
    | some next => byteScan? cs next
termination_by (Text.bytes cs).length - s.position
decreasing_by
  rename_i here turn
  have moved := position_lt_of_byteTurn? here turn
  have inside := List.length_pos_of_ne_nil (here ▸ List.cons_ne_nil b rest)
  rw [List.length_drop] at inside
  omega

theorem byteScan?_of_nil {cs : List Char} {s : Scan} (at_end : (Text.bytes cs).drop s.position = []) :
    byteScan? cs s = some s := by
  rw [byteScan?]
  split
  · rfl
  · simp_all

theorem byteScan?_of_cons {cs rest : List Char} {s : Scan} {b : Char}
    (here : (Text.bytes cs).drop s.position = b :: rest) :
    byteScan? cs s = (byteTurn? cs s b rest).bind (byteScan? cs) := by
  rw [byteScan?]
  split
  · simp_all
  · rename_i b' rest' h
    rw [here] at h
    cases h
    split <;> simp_all

/-! ### Turns between boundaries -/

theorem toNat_lt_of_isWordChar {c : Char} (word : isWordChar c = true) : c.toNat < 128 := by
  by_contra large
  rw [isWordChar_of_wide (Nat.le_of_not_lt large)] at word
  cases word

/-- Neither a quoted run nor a comment starts at the character with the others behind it. -/
structure Plain (c : Char) (rest : List Char) : Prop where
  no_quote : closingOf? c = none
  no_line : ¬(c = '-' ∧ rest.head? = some '-')
  no_block : ¬(c = '/' ∧ rest.head? = some '*')

section Plain

variable {c : Char} {rest : List Char}

theorem Plain.bytes (plain : Plain c rest) : Plain c (Text.bytes rest) where
  no_quote := plain.no_quote
  no_line := by
    rw [Text.head?_bytes_eq_iff (by decide)]
    exact plain.no_line
  no_block := by
    rw [Text.head?_bytes_eq_iff (by decide)]
    exact plain.no_block

theorem Plain.lexemeAt_eq (plain : Plain c rest) :
    lexemeAt c rest =
      if isWordChar c then (.word, rest.takeWhile isWordChar, rest.dropWhile isWordChar)
      else (singleKind c, [], rest) := by
  refine lexemeAt_of_plain plain.no_quote (fun line => plain.no_line ?_) (fun block => plain.no_block ?_)
  · exact (pair_prefix_cons_iff.mp line).imp_left Eq.symm
  · exact (pair_prefix_cons_iff.mp block).imp_left Eq.symm

theorem Plain.byteTurn?_eq {cs : List Char} {s : Scan} (plain : Plain c rest) :
    byteTurn? cs s c rest =
      if isWordChar c then do
        let after := s.position + ((c :: rest).takeWhile isWordChar).length
        let text ← Text.slice? cs s.position after
        some { s.word text after with stop := after, position := after }
      else some (s.advance (singleKind c) 1) := by
  unfold byteTurn?
  rw [plain.no_quote]
  dsimp only
  rw [if_neg plain.no_line, if_neg plain.no_block]

end Plain

/-- The first lexeme of a query. -/
def firstLexeme (c : Char) (rest : List Char) : Lexeme := ⟨(lexemeAt c rest).1, c :: (lexemeAt c rest).2.1⟩

section Turn

variable {front rest : List Char} {s : Scan} {c : Char} (at_boundary : s.position = Text.byteSize front)

include at_boundary

private theorem byteTurn?_of_word (plain : Plain c rest) (word : isWordChar c = true) :
    byteTurn? (front ++ c :: rest) s c (Text.bytes rest) = some (s.step (firstLexeme c rest)) := by
  have run : c :: rest = (c :: rest.takeWhile isWordChar) ++ rest.dropWhile isWordChar := by
    rw [List.cons_append, List.takeWhile_append_dropWhile]
  have size : ((c :: Text.bytes rest).takeWhile isWordChar).length =
      Text.byteSize (c :: rest.takeWhile isWordChar) := by
    rw [← Text.bytes_cons_of_ascii (toNat_lt_of_isWordChar word),
      Text.takeWhile_bytes fun _ => toNat_lt_of_isWordChar, Text.length_bytes, List.takeWhile_cons_of_pos word]
  have slice : Text.slice? (front ++ c :: rest) s.position
      (s.position + Text.byteSize (c :: rest.takeWhile isWordChar)) = some (c :: rest.takeWhile isWordChar) := by
    rw [run, ← List.append_assoc, at_boundary]
    exact Text.slice?_append _ _ _
  rw [plain.bytes.byteTurn?_eq, if_pos word, size, firstLexeme, plain.lexemeAt_eq, if_pos word]
  dsimp only
  rw [slice]
  rfl

omit at_boundary in
private theorem byteTurn?_of_lineComment {cs more : List Char} :
    byteTurn? cs s '-' (Text.bytes ('-' :: more)) = some (s.step (firstLexeme '-' ('-' :: more))) := by
  have ascii : '-'.toNat < 128 := by decide
  have starts : (Text.bytes ('-' :: more)).head? = some '-' := (Text.head?_bytes_eq_iff ascii).mpr rfl
  have first : firstLexeme '-' ('-' :: more) = ⟨.lineComment, (lineTail ('-' :: '-' :: more)).1⟩ := by
    simp [firstLexeme, lexemeAt, closingOf?, lineTail]
  have no_quote : closingOf? '-' = none := by decide
  rw [first, Scan.step_of_not_word _ (by simp), byteTurn?, no_quote]
  dsimp only
  rw [if_pos ⟨rfl, starts⟩, ← Text.bytes_cons_of_ascii ascii, lineTail_bytes, Text.length_bytes]

private theorem byteTurn?_of_blockComment {more : List Char} :
    byteTurn? (front ++ '/' :: '*' :: more) s '/' (Text.bytes ('*' :: more)) =
      some (s.step (firstLexeme '/' ('*' :: more))) := by
  have starts : (Text.bytes ('*' :: more)).head? = some '*' := (Text.head?_bytes_eq_iff (by decide)).mpr rfl
  have first : firstLexeme '/' ('*' :: more) = ⟨.blockComment, '/' :: '*' :: (blockTail more).1⟩ := by
    simp [firstLexeme, lexemeAt, closingOf?]
  have no_quote : closingOf? '/' = none := by decide
  have slice : Text.slice? (front ++ '/' :: '*' :: more) (s.position + 2)
      (Text.byteSize (front ++ '/' :: '*' :: more)) = some more := by
    have opened : s.position + 2 = Text.byteSize (front ++ ['/', '*']) := by
      rw [at_boundary, Text.byteSize_append]
      rfl
    have found := Text.slice?_append (front ++ ['/', '*']) more []
    rwa [← Text.byteSize_append, List.append_nil, List.append_assoc, ← opened] at found
  rw [first, Scan.step_of_not_word _ (by simp), byteTurn?, no_quote]
  dsimp only
  have no_dash : ¬('/' = '-' ∧ (Text.bytes ('*' :: more)).head? = some '-') := fun line => absurd line.1 (by decide)
  have size : 2 + Text.byteSize (blockTail more).1 = Text.byteSize ('/' :: '*' :: (blockTail more).1) := by
    have slash : '/'.utf8Size = 1 := rfl
    have star : '*'.utf8Size = 1 := rfl
    rw [Text.byteSize_cons, Text.byteSize_cons, slash, star]
    omega
  rw [if_neg no_dash, if_pos ⟨rfl, starts⟩, slice, ← size, ← commentSize_eq]
  rfl

/-- At an ASCII character one turn is over the whole lexeme. -/
theorem byteTurn?_of_ascii (ascii : c.toNat < 128) :
    byteTurn? (front ++ c :: rest) s c (Text.bytes rest) = some (s.step (firstLexeme c rest)) := by
  have one : c.utf8Size = 1 := Text.utf8Size_of_ascii ascii
  cases quote : closingOf? c with
  | some close =>
    have first : firstLexeme c rest = ⟨.quoted, c :: (quotedTail close rest).1⟩ := by
      simp [firstLexeme, lexemeAt, quote]
    rw [first, Scan.step_of_not_word _ (by simp), byteTurn?, quote, Text.byteSize_cons, one]
    dsimp only
    rw [at_boundary, skipQuoted_append quote, Nat.add_sub_cancel_left]
  | none =>
    by_cases line : c = '-' ∧ rest.head? = some '-'
    · obtain ⟨rfl, head⟩ := line
      obtain ⟨more, rfl⟩ := List.head?_eq_some_iff.mp head
      exact byteTurn?_of_lineComment
    by_cases block : c = '/' ∧ rest.head? = some '*'
    · obtain ⟨rfl, head⟩ := block
      obtain ⟨more, rfl⟩ := List.head?_eq_some_iff.mp head
      exact byteTurn?_of_blockComment at_boundary
    have plain : Plain c rest := ⟨quote, line, block⟩
    by_cases word : isWordChar c = true
    · exact byteTurn?_of_word at_boundary plain word
    · rw [plain.bytes.byteTurn?_eq, if_neg word, firstLexeme, plain.lexemeAt_eq, if_neg word,
        Scan.step_of_not_word _ (singleKind_ne (.inr (.inr (.inr rfl)))), Text.byteSize_cons, one]
      rfl

end Turn

section Wide

variable {c : Char}

private theorem plain_of_wide (wide : 128 ≤ c.toNat) (rest : List Char) : Plain c rest where
  no_quote := by
    cases quote : closingOf? c with
    | some close => exact absurd (toNat_lt_of_closingOf? quote).1 (Nat.not_lt_of_le wide)
    | none => rfl
  no_line := by
    rintro ⟨rfl, -⟩
    exact absurd wide (by decide)
  no_block := by
    rintro ⟨rfl, -⟩
    exact absurd wide (by decide)

private theorem singleKind_of_wide (wide : 128 ≤ c.toNat) : singleKind c = .other := by
  have other {a : Char} (ascii : a.toNat < 128) : c ≠ a := Text.ne_of_wide wide ascii
  have no_space : ¬isSpace c = true := by
    simp [isSpace, other]
  rw [singleKind, if_neg (other (by decide)), if_neg (other (by decide)), if_neg no_space, if_neg (other (by decide))]

/-- A byte that is no ASCII character is a token by itself. -/
theorem byteTurn?_of_wide {cs rest : List Char} {s : Scan} (wide : 128 ≤ c.toNat) :
    byteTurn? cs s c rest = some (s.advance .other 1) := by
  rw [(plain_of_wide wide rest).byteTurn?_eq, isWordChar_of_wide wide, singleKind_of_wide wide]
  rfl

/-- Over such bytes there is one turn for each. -/
theorem byteScan?_of_wide_run {cs rest run : List Char} {s : Scan} (wide : ∀ b ∈ run, 128 ≤ b.toNat)
    (some_byte : run ≠ []) (here : (Text.bytes cs).drop s.position = run ++ rest) :
    byteScan? cs s = byteScan? cs (s.advance .other run.length) := by
  induction run generalizing s with
  | nil => exact absurd rfl some_byte
  | cons b run ih =>
    rw [List.forall_mem_cons] at wide
    rw [List.cons_append] at here
    rw [byteScan?_of_cons here, byteTurn?_of_wide wide.1, Option.bind_some]
    by_cases last : run = []
    · rw [last]
      rfl
    · have next : (Text.bytes cs).drop (s.advance .other 1).position = run ++ rest := by
        rw [Scan.position_advance, ← List.drop_drop, here]
        rfl
      rw [ih wide.2 last next]
      have together : (s.advance .other 1).advance .other run.length = s.advance .other (b :: run).length := by
        rw [List.length_cons, Nat.add_comm]
        simp only [Scan.advance, Nat.add_assoc]
      rw [together]

/-- So they reach the end of a character that takes several bytes. -/
theorem byteScan?_of_wide {front rest : List Char} {s : Scan} (at_boundary : s.position = Text.byteSize front)
    (wide : 128 ≤ c.toNat) :
    byteScan? (front ++ c :: rest) s = byteScan? (front ++ c :: rest) (s.step (firstLexeme c rest)) := by
  have here : (Text.bytes (front ++ c :: rest)).drop s.position = Text.encoded c ++ Text.bytes rest := by
    rw [at_boundary, Text.drop_bytes_append, Text.bytes_cons]
  have some_byte : Text.encoded c ≠ [] := by
    obtain ⟨b, more, code⟩ := Text.exists_cons_encoded c
    rw [code]
    exact List.cons_ne_nil b more
  have first : firstLexeme c rest = ⟨.other, [c]⟩ := by
    rw [firstLexeme, (plain_of_wide wide rest).lexemeAt_eq, isWordChar_of_wide wide, singleKind_of_wide wide]
    rfl
  rw [byteScan?_of_wide_run (fun _ => Text.le_toNat_of_mem_encoded wide) some_byte here, first,
    Scan.step_of_not_word _ (by simp), Text.length_encoded]
  rfl

end Wide

/-- From a boundary the loop goes through the lexemes that are left. -/
theorem byteScan?_eq (front rest : List Char) {s : Scan} (at_boundary : s.position = Text.byteSize front) :
    byteScan? (front ++ rest) s = some ((lexemes rest).foldl Scan.step s) := by
  have remaining := Text.drop_bytes_append front rest
  rw [← at_boundary] at remaining
  fun_induction lexemes rest generalizing front s with
  | case1 => exact byteScan?_of_nil remaining
  | case2 c rest _ ih =>
    have turn : byteScan? (front ++ c :: rest) s = byteScan? (front ++ c :: rest) (s.step (firstLexeme c rest)) := by
      rcases Nat.lt_or_ge c.toNat 128 with ascii | wide
      · rw [Text.bytes_cons_of_ascii ascii] at remaining
        rw [byteScan?_of_cons remaining, byteTurn?_of_ascii at_boundary ascii, Option.bind_some]
      · exact byteScan?_of_wide at_boundary wide
    have split : front ++ c :: rest = (front ++ (firstLexeme c rest).text) ++ (lexemeAt c rest).2.2 := by
      rw [firstLexeme, List.append_assoc, List.cons_append, lexemeAt_append]
    have moved : (s.step (firstLexeme c rest)).position = Text.byteSize (front ++ (firstLexeme c rest).text) := by
      rw [Text.byteSize_append, ← at_boundary]
      rfl
    have later := ih (front ++ (firstLexeme c rest).text) moved (by rw [moved]; exact Text.drop_bytes_append _ _)
    rw [turn, split, later]
    rfl

end Query

end SqlSchema
