import Mathlib.Data.List.DropRight
import Mathlib.Data.List.Infix
import SqlSchema.Proofs.Query.Splitting
import SqlSchema.Query.Outline

/-!
# The keywords of a query

The outline of a query finds the keywords outside parentheses. In terms of the split of the query: where its last token
ends, whether its first token is the word `SELECT`, and which is the last `ORDER` with a `BY` behind it that only blanks
and comments keep apart (`outline_describes_split`).

The scan goes through the lexemes from left to right and at each moment `Knows` just that of the lexemes it has seen.
One more lexeme keeps it so (`Scan.Knows.step`), as long as no parenthesis is closed that is not open.
-/

namespace SqlSchema.Query

/-! ### Parts of a split -/

/-- The text of lexemes. -/
def textOf (ls : List Lexeme) : List Char := ls.flatMap Lexeme.text

/-- The bytes that lexemes take. -/
def extent (ls : List Lexeme) : Nat := Text.byteSize (textOf ls)

/-- The lexemes up to the last token. -/
def untilLastToken (ls : List Lexeme) : List Lexeme := ls.rdropWhile fun l => !l.isToken

/-- Where the last token ends; zero if there is none. -/
def tokenEnd (ls : List Lexeme) : Nat := extent (untilLastToken ls)

/-- Whether the lexeme is the word `w`, case aside. -/
def Lexeme.IsWord (l : Lexeme) (w : String) : Prop := l.kind = .word ∧ Text.sameName (String.ofList l.text) w = true

instance (l : Lexeme) (w : String) : Decidable (l.IsWord w) :=
  inferInstanceAs (Decidable (l.kind = .word ∧ Text.sameName (String.ofList l.text) w = true))

/-- Whether the lexeme is blank or a comment. -/
def Lexeme.isGap (l : Lexeme) : Bool :=
  match l.kind with
  | .lineComment | .blockComment | .blank => true
  | _ => false

theorem Lexeme.isToken_of_isGap {l : Lexeme} (gap : l.isGap = true) : l.isToken = false := by
  unfold isGap at gap
  split at gap <;> simp_all [isToken]

/-- How many parentheses lexemes open. -/
def openings (ls : List Lexeme) : Nat := ls.countP (·.kind = .opening)

/-- How many parentheses lexemes close. -/
def closings (ls : List Lexeme) : Nat := ls.countP (·.kind = .closing)

/-- Whether every parenthesis that is closed is one that was opened before. -/
def ClosesOnlyOpened (ls : List Lexeme) : Prop := ∀ front ∈ ls.inits, closings front ≤ openings front

instance (ls : List Lexeme) : Decidable (ClosesOnlyOpened ls) :=
  inferInstanceAs (Decidable (∀ front ∈ ls.inits, closings front ≤ openings front))

/-- Whether what follows the lexemes stands outside parentheses. -/
def AtTop (ls : List Lexeme) : Prop := openings ls = closings ls

/-- The first token is the word `SELECT`, which ends at `n`. -/
def StartsWithSelect (ls : List Lexeme) (n : Nat) : Prop :=
  ∃ gap l rest, ls = gap ++ l :: rest ∧ (∀ g ∈ gap, g.isToken = false) ∧ l.IsWord "SELECT" ∧ n = extent (gap ++ [l])

/-- The last word of the lexemes is an `ORDER` outside parentheses with only blanks and comments behind it, and the
token before it ends at `n`. -/
def EndsInOrder (ls : List Lexeme) (n : Nat) : Prop :=
  ∃ before order gap, ls = before ++ order :: gap ∧ AtTop before ∧ order.IsWord "ORDER" ∧
    (∀ g ∈ gap, g.isGap = true) ∧ n = tokenEnd before

/-- The lexemes end in the words of the clause. -/
def EndsInOrderBy (ls : List Lexeme) (clause : OrderClause) : Prop :=
  ∃ before l, ls = before ++ [l] ∧ EndsInOrder before clause.start ∧ l.IsWord "BY" ∧ clause.keys = extent ls

/-- The clause is the last one among the lexemes. -/
def LastOrderBy (ls : List Lexeme) (clause : OrderClause) : Prop :=
  ∃ front back, ls = front ++ back ∧ EndsInOrderBy front clause ∧
    ∀ more rest, back = more ++ rest → more ≠ [] → ∀ later, ¬EndsInOrderBy (front ++ more) later

/-- The outline tells where the keywords of the lexemes are. -/
structure Outline.Describes (o : Outline) (ls : List Lexeme) : Prop where
  query : o.query = textOf (untilLastToken ls)
  selectEnd : ∀ n, o.selectEnd = some n ↔ StartsWithSelect ls n
  has_order : o.order.isSome = true ↔ ∃ front back clause, ls = front ++ back ∧ EndsInOrderBy front clause
  order : ∀ clause, o.order = some clause ↔ LastOrderBy ls clause

/-! ### One lexeme more -/

section Append

variable {ls : List Lexeme} {l : Lexeme}

theorem textOf_append (ls more : List Lexeme) : textOf (ls ++ more) = textOf ls ++ textOf more := by
  simp [textOf]

theorem extent_append (ls more : List Lexeme) : extent (ls ++ more) = extent ls + extent more := by
  simp [extent, textOf_append]

theorem extent_singleton (l : Lexeme) : extent [l] = Text.byteSize l.text := by
  simp [extent, textOf]

theorem eq_of_append_singleton {front : List Lexeme} {other : Lexeme} (h : ls ++ [l] = front ++ [other]) :
    ls = front ∧ l = other := by
  obtain ⟨same, last⟩ := List.append_inj' h rfl
  exact ⟨same, List.singleton_inj.mp last⟩

theorem tokenEnd_append_token (token : l.isToken = true) : tokenEnd (ls ++ [l]) = extent (ls ++ [l]) := by
  unfold tokenEnd untilLastToken
  rw [List.rdropWhile_concat_neg _ _ _ (by simp [token])]

theorem tokenEnd_append_other (other : l.isToken = false) : tokenEnd (ls ++ [l]) = tokenEnd ls := by
  unfold tokenEnd untilLastToken
  rw [List.rdropWhile_concat_pos _ _ _ (by simp [other])]

private theorem not_isGap_of_isWord {w : String} (h : l.IsWord w) : l.isGap = false := by
  simp [Lexeme.isGap, h.1]

private theorem startsWithSelect_append_iff {n : Nat} :
    StartsWithSelect (ls ++ [l]) n ↔ StartsWithSelect ls n ∨
      (∀ x ∈ ls, x.isToken = false) ∧ l.IsWord "SELECT" ∧ n = extent (ls ++ [l]) := by
  constructor
  · rintro ⟨gap, select, rest, split, no_token, word, rfl⟩
    rcases rest.eq_nil_or_concat' with rfl | ⟨rest, last, rfl⟩
    · obtain ⟨rfl, rfl⟩ := eq_of_append_singleton split
      exact .inr ⟨no_token, word, rfl⟩
    · have split : ls ++ [l] = (gap ++ select :: rest) ++ [last] := by simpa using split
      obtain ⟨rfl, -⟩ := eq_of_append_singleton split
      exact .inl ⟨gap, select, rest, rfl, no_token, word, rfl⟩
  · rintro (⟨gap, select, rest, rfl, no_token, word, rfl⟩ | ⟨no_token, word, rfl⟩)
    · exact ⟨gap, select, rest ++ [l], by simp, no_token, word, rfl⟩
    · exact ⟨ls, l, [], rfl, no_token, word, rfl⟩

theorem endsInOrder_append_iff {n : Nat} :
    EndsInOrder (ls ++ [l]) n ↔ l.isGap = true ∧ EndsInOrder ls n ∨ l.IsWord "ORDER" ∧ AtTop ls ∧ n = tokenEnd ls := by
  constructor
  · rintro ⟨before, order, gap, split, top, word, gaps, rfl⟩
    rcases gap.eq_nil_or_concat' with rfl | ⟨gap, last, rfl⟩
    · obtain ⟨rfl, rfl⟩ := eq_of_append_singleton split
      exact .inr ⟨word, top, rfl⟩
    · have split : ls ++ [l] = (before ++ order :: gap) ++ [last] := by simpa using split
      obtain ⟨rfl, rfl⟩ := eq_of_append_singleton split
      exact .inl ⟨gaps l (by simp), before, order, gap, rfl, top, word, fun g hg => gaps g (by simp [hg]), rfl⟩
  · rintro (⟨gap_last, before, order, gap, rfl, top, word, gaps, rfl⟩ | ⟨word, top, rfl⟩)
    · refine ⟨before, order, gap ++ [l], by simp, top, word, ?_, rfl⟩
      intro g hg
      rcases List.mem_append.mp hg with hg | hg
      · exact gaps g hg
      · rw [List.mem_singleton.mp hg]
        exact gap_last
    · exact ⟨ls, l, [], rfl, top, word, by simp, rfl⟩

theorem endsInOrderBy_append_iff {clause : OrderClause} :
    EndsInOrderBy (ls ++ [l]) clause ↔
      EndsInOrder ls clause.start ∧ l.IsWord "BY" ∧ clause.keys = extent (ls ++ [l]) := by
  constructor
  · rintro ⟨before, last, split, order, word, keys⟩
    obtain ⟨rfl, rfl⟩ := eq_of_append_singleton split
    exact ⟨order, word, keys⟩
  · rintro ⟨order, word, keys⟩
    exact ⟨ls, l, rfl, order, word, keys⟩

/-- The last clause is the one in which the lexemes end, or else the last one before. -/
private theorem lastOrderBy_append_iff {clause : OrderClause} :
    LastOrderBy (ls ++ [l]) clause ↔ EndsInOrderBy (ls ++ [l]) clause ∨
      (∀ later, ¬EndsInOrderBy (ls ++ [l]) later) ∧ LastOrderBy ls clause := by
  constructor
  · rintro ⟨front, back, split, ends, last⟩
    rcases back.eq_nil_or_concat' with rfl | ⟨back, b, rfl⟩
    · rw [List.append_nil] at split
      rw [split]
      exact .inl ends
    · refine .inr ⟨?_, front, back, ?_, ends, ?_⟩
      · rw [split]
        exact last (back ++ [b]) [] (by simp) (by simp)
      · rw [← List.append_assoc] at split
        exact (eq_of_append_singleton split).1
      · rintro more rest rfl some_more
        exact last more (rest ++ [b]) (by simp) some_more
  · rintro (ends | ⟨no_later, front, back, rfl, ends, last⟩)
    · exact ⟨ls ++ [l], [], by simp, ends, by simp +contextual⟩
    · refine ⟨front, back ++ [l], by simp, ends, ?_⟩
      intro more rest split some_more
      rcases rest.eq_nil_or_concat' with rfl | ⟨rest, r, rfl⟩
      · rw [List.append_nil] at split
        rw [← split, ← List.append_assoc]
        exact no_later
      · rw [← List.append_assoc] at split
        exact last more rest (eq_of_append_singleton split).1 some_more

theorem openings_append (ls more : List Lexeme) : openings (ls ++ more) = openings ls + openings more := by
  simp [openings]

theorem closings_append (ls more : List Lexeme) : closings (ls ++ more) = closings ls + closings more := by
  simp [closings]

theorem closesOnlyOpened_of_append {more : List Lexeme} (h : ClosesOnlyOpened (ls ++ more)) :
    ClosesOnlyOpened ls := by
  intro front prefix_front
  rw [List.mem_inits] at prefix_front
  exact h front ((List.mem_inits _ _).mpr (prefix_front.trans (List.prefix_append _ _)))

private theorem closings_le_openings (h : ClosesOnlyOpened ls) : closings ls ≤ openings ls :=
  h ls ((List.mem_inits _ _).mpr (List.prefix_refl _))

/-- Where parentheses are open, no `ORDER` outside of them is waiting for its `BY`. -/
private theorem atTop_of_endsInOrder {n : Nat} (h : EndsInOrder ls n) : AtTop ls := by
  obtain ⟨before, order, gap, rfl, top, word, gaps, -⟩ := h
  have no_parenthesis : ∀ x ∈ order :: gap, x.kind ≠ .opening ∧ x.kind ≠ .closing := by
    intro x hx
    rcases List.mem_cons.mp hx with rfl | hx
    · rw [word.1]
      decide
    · have gap_x := gaps x hx
      unfold Lexeme.isGap at gap_x
      split at gap_x <;> simp_all
  unfold AtTop at top ⊢
  rw [openings_append, closings_append, top]
  have none_open : openings (order :: gap) = 0 :=
    List.countP_eq_zero.mpr fun x hx => by simpa using (no_parenthesis x hx).1
  have none_close : closings (order :: gap) = 0 :=
    List.countP_eq_zero.mpr fun x hx => by simpa using (no_parenthesis x hx).2
  rw [none_open, none_close]

end Append

theorem exists_lastOrderBy {ls : List Lexeme} :
    (∃ front back clause, ls = front ++ back ∧ EndsInOrderBy front clause) ↔ ∃ clause, LastOrderBy ls clause := by
  constructor
  · induction ls using List.reverseRecOn with
    | nil =>
      rintro ⟨front, back, clause, split, ends⟩
      obtain ⟨rfl, -⟩ := List.append_eq_nil_iff.mp split.symm
      obtain ⟨before, l, split, -⟩ := ends
      simp at split
    | append_singleton ls l ih =>
      rintro ⟨front, back, clause, split, ends⟩
      -- the last clause ends with the last lexeme or is the last one of those before it
      by_cases last : ∃ later, EndsInOrderBy (ls ++ [l]) later
      · obtain ⟨later, ends⟩ := last
        exact ⟨later, lastOrderBy_append_iff.mpr (.inl ends)⟩
      · rcases back.eq_nil_or_concat' with rfl | ⟨back, b, rfl⟩
        · rw [List.append_nil] at split
          exact absurd ⟨clause, split ▸ ends⟩ last
        · rw [← List.append_assoc] at split
          obtain ⟨earlier, found⟩ := ih ⟨front, back, clause, (eq_of_append_singleton split).1, ends⟩
          exact ⟨earlier, lastOrderBy_append_iff.mpr (.inr ⟨not_exists.mp last, found⟩)⟩
  · rintro ⟨clause, front, back, split, ends, -⟩
    exact ⟨front, back, clause, split, ends⟩

/-! ### The scan -/

/-- The state of the scan is about the lexemes seen so far. -/
structure Scan.Knows (s : Scan) (ls : List Lexeme) : Prop where
  position : s.position = extent ls
  depth : s.depth + closings ls = openings ls
  stop : s.stop = tokenEnd ls
  atStart : s.atStart = true ↔ ∀ x ∈ ls, x.isToken = false
  selectEnd : ∀ n, s.selectEnd = some n ↔ StartsWithSelect ls n
  pending : ∀ n, s.pending = some n ↔ EndsInOrder ls n
  order : ∀ clause, s.order = some clause ↔ LastOrderBy ls clause

namespace Scan

variable {s : Scan} {ls : List Lexeme} {l : Lexeme}

theorem knows_nil : Scan.Knows {} [] where
  position := rfl
  depth := rfl
  stop := rfl
  atStart := by simp
  selectEnd := by simp [StartsWithSelect]
  pending := by simp [EndsInOrder]
  order := by
    intro clause
    simp [LastOrderBy, EndsInOrderBy]

/-! What one lexeme changes, field by field. -/

theorem stop_step :
    (s.step l).stop = if l.isToken then s.position + Text.byteSize l.text else s.stop := by
  obtain ⟨kind, text⟩ := l
  cases kind <;> rfl

theorem atStart_step :
    (s.step l).atStart = (s.atStart && (!l.isToken || l.kind = .closing)) := by
  obtain ⟨kind, text⟩ := l
  cases kind <;> simp [step, Lexeme.isToken, word]
  split <;> rfl

theorem depth_step :
    (s.step l).depth = s.depth + openings [l] - closings [l] := by
  obtain ⟨kind, text⟩ := l
  cases kind <;> simp [step, openings, closings, word]
  split <;> rfl

theorem selectEnd_step :
    (s.step l).selectEnd =
      if s.depth = 0 ∧ s.atStart = true ∧ l.IsWord "SELECT" then some (s.position + Text.byteSize l.text)
      else s.selectEnd := by
  obtain ⟨kind, text⟩ := l
  cases kind <;> simp [step, Lexeme.IsWord, word]
  split <;> simp_all

theorem order_step :
    (s.step l).order =
      if s.depth = 0 ∧ l.IsWord "BY" then
        (s.pending.map fun start => ⟨start, s.position + Text.byteSize l.text⟩).or s.order
      else s.order := by
  obtain ⟨kind, text⟩ := l
  cases kind <;> simp [step, Lexeme.IsWord, word]
  split <;> simp_all

theorem pending_step :
    (s.step l).pending =
      if l.isGap = true ∨ l.kind = .closing ∨ l.kind = .word ∧ s.depth ≠ 0 then s.pending
      else if l.IsWord "ORDER" then some s.stop else none := by
  obtain ⟨kind, text⟩ := l
  cases kind <;> simp [step, Lexeme.IsWord, Lexeme.isGap, word]
  split <;> simp_all

namespace Knows

theorem depth_eq_zero_iff (h : s.Knows ls) : s.depth = 0 ↔ AtTop ls := by
  have := h.depth
  unfold AtTop
  omega

private theorem pending_eq_none (h : s.Knows ls) (nested : ¬AtTop ls) : s.pending = none := by
  by_contra waits
  obtain ⟨n, pending⟩ := Option.ne_none_iff_exists'.mp waits
  exact nested (atTop_of_endsInOrder ((h.pending n).mp pending))

/-- At the start no parenthesis is open. -/
private theorem atTop_of_atStart (h : s.Knows ls) (start : s.atStart = true) : AtTop ls := by
  have no_token := h.atStart.mp start
  have none_open : openings ls = 0 := by
    refine List.countP_eq_zero.mpr fun x hx => ?_
    have other := no_token x hx
    unfold Lexeme.isToken at other
    split at other <;> simp_all
  have := h.depth
  unfold AtTop
  omega

private theorem depth_append (h : s.Knows ls) (opened : ClosesOnlyOpened (ls ++ [l])) :
    (s.step l).depth + closings (ls ++ [l]) = openings (ls ++ [l]) := by
  have before := h.depth
  have after := closings_le_openings opened
  rw [openings_append, closings_append] at after ⊢
  rw [depth_step]
  omega

private theorem nested_of_closing (opened : ClosesOnlyOpened (ls ++ [l])) (closing : l.kind = .closing) :
    ¬AtTop ls := by
  have after := closings_le_openings opened
  have one : closings [l] = 1 := by simp [closings, closing]
  have none_open : openings [l] = 0 := by simp [openings, closing]
  rw [openings_append, closings_append] at after
  unfold AtTop
  omega

private theorem stop_append (h : s.Knows ls) : (s.step l).stop = tokenEnd (ls ++ [l]) := by
  rw [stop_step]
  split
  · rename_i token
    rw [tokenEnd_append_token token, extent_append, extent_singleton, h.position]
  · rename_i other
    rw [tokenEnd_append_other (Bool.eq_false_iff.mpr other), h.stop]

private theorem atStart_append (h : s.Knows ls) (opened : ClosesOnlyOpened (ls ++ [l])) :
    (s.step l).atStart = true ↔ ∀ x ∈ ls ++ [l], x.isToken = false := by
  rw [atStart_step, List.forall_mem_append, List.forall_mem_singleton, ← h.atStart]
  by_cases closing : l.kind = .closing
  · -- a closing parenthesis does not end the start, but behind an open one the start is over
    have inside : s.atStart = false := by
      by_contra start
      exact nested_of_closing opened closing (h.atTop_of_atStart (by simpa using start))
    simp [inside]
  · simp [closing]

private theorem selectEnd_append (h : s.Knows ls) (n : Nat) :
    (s.step l).selectEnd = some n ↔ StartsWithSelect (ls ++ [l]) n := by
  rw [selectEnd_step, startsWithSelect_append_iff, ← h.selectEnd, ← h.atStart]
  split
  · -- the lexeme is the first token, so no token before it was the word
    rename_i first
    have none_before : s.selectEnd ≠ some n := by
      intro found
      obtain ⟨gap, select, rest, rfl, -, word, -⟩ := (h.selectEnd n).mp found
      have no_token := h.atStart.mp first.2.1 select (by simp)
      simp [Lexeme.isToken, word.1] at no_token
    rw [extent_append, extent_singleton, ← h.position]
    simp only [Option.some.injEq, none_before, first, false_or, true_and]
    exact eq_comm
  · rename_i later
    have no_select : ¬(s.atStart = true ∧ l.IsWord "SELECT" ∧ n = extent (ls ++ [l])) := by
      rintro ⟨start, word, -⟩
      exact later ⟨h.depth_eq_zero_iff.mpr (h.atTop_of_atStart start), start, word⟩
    simp only [no_select, or_false]

private theorem pending_append (h : s.Knows ls) (opened : ClosesOnlyOpened (ls ++ [l])) (n : Nat) :
    (s.step l).pending = some n ↔ EndsInOrder (ls ++ [l]) n := by
  rw [pending_step, endsInOrder_append_iff, ← h.pending, ← h.depth_eq_zero_iff, ← h.stop]
  by_cases gap : l.isGap = true
  · have no_word : ¬l.IsWord "ORDER" := by
      intro word
      rw [not_isGap_of_isWord word] at gap
      cases gap
    simp [gap, no_word]
  by_cases nested : l.kind = .closing ∨ l.kind = .word ∧ s.depth ≠ 0
  · -- the pending end stays as it is, and inside parentheses there is none
    have none_waits : s.pending = none := by
      refine h.pending_eq_none ?_
      rcases nested with closing | ⟨-, nested⟩
      · exact nested_of_closing opened closing
      · rwa [Ne, h.depth_eq_zero_iff] at nested
    have no_order : ¬(l.IsWord "ORDER" ∧ s.depth = 0 ∧ n = s.stop) := by
      rintro ⟨word, top, -⟩
      rcases nested with closing | ⟨-, nested⟩
      · rw [word.1] at closing
        cases closing
      · exact nested top
    simp [gap, nested, none_waits, no_order]
  · rw [if_neg (by simp [gap, nested])]
    by_cases word : l.IsWord "ORDER"
    · have top : s.depth = 0 := by
        by_contra inside
        exact nested (.inr ⟨word.1, inside⟩)
      simp [gap, word, top, eq_comm]
    · simp [gap, word]

private theorem order_append (h : s.Knows ls) (clause : OrderClause) :
    (s.step l).order = some clause ↔ LastOrderBy (ls ++ [l]) clause := by
  rw [order_step, lastOrderBy_append_iff, ← h.order]
  simp only [endsInOrderBy_append_iff, ← h.pending]
  split
  · -- the lexeme is a `BY` outside parentheses, and ends a clause just if an `ORDER` waits for it
    rename_i top_by
    cases pending : s.pending with
    | none => simp
    | some start =>
      rw [extent_append, extent_singleton, ← h.position]
      obtain ⟨first, keys⟩ := clause
      simp only [Option.map_some, Option.some_or, Option.some.injEq, OrderClause.mk.injEq, top_by.2, true_and]
      constructor
      · rintro ⟨rfl, rfl⟩
        exact .inl ⟨rfl, rfl⟩
      · rintro (⟨rfl, rfl⟩ | ⟨no_later, -⟩)
        · exact ⟨rfl, rfl⟩
        · exact absurd ⟨rfl, rfl⟩ (no_later ⟨start, s.position + Text.byteSize l.text⟩)
  · rename_i other
    have no_by : ∀ later : OrderClause, ¬(s.pending = some later.start ∧ l.IsWord "BY" ∧
        later.keys = extent (ls ++ [l])) := by
      rintro later ⟨pending, word, -⟩
      have top := atTop_of_endsInOrder ((h.pending _).mp pending)
      exact other ⟨h.depth_eq_zero_iff.mpr top, word⟩
    simp [no_by]

/-- The state after one lexeme more is about the lexemes with it. -/
theorem step (h : s.Knows ls) (opened : ClosesOnlyOpened (ls ++ [l])) : (s.step l).Knows (ls ++ [l]) where
  position := by
    rw [extent_append, extent_singleton, ← h.position]
    rfl
  depth := h.depth_append opened
  stop := h.stop_append
  atStart := h.atStart_append opened
  selectEnd := h.selectEnd_append
  pending := h.pending_append opened
  order := h.order_append

end Knows

/-- The state after all lexemes is about all of them. -/
theorem knows_foldl (opened : ClosesOnlyOpened ls) : Scan.Knows (ls.foldl Scan.step {}) ls := by
  induction ls using List.reverseRecOn with
  | nil => exact knows_nil
  | append_singleton ls l ih =>
    rw [List.foldl_append]
    exact (ih (closesOnlyOpened_of_append opened)).step opened

end Scan

theorem takeBytes_tokenEnd (ls : List Lexeme) :
    Text.takeBytes (tokenEnd ls) (textOf ls) = textOf (untilLastToken ls) := by
  obtain ⟨trailing, split⟩ := List.rdropWhile_prefix (fun l : Lexeme => !l.isToken) ls
  have parts : textOf (untilLastToken ls ++ trailing) = textOf ls := congrArg textOf split
  rw [textOf_append] at parts
  rw [← parts]
  exact Text.takeBytes_byteSize_append _ _

/-- The outline of a query is about the one split of the query without the blanks in front: the query ends with its last
token, and the keywords are those that the split shows, unless it closes a parenthesis that is not open. -/
theorem outline_describes_split (cs : List Char) :
    ∃ ls, (∀ other, IsSplit (Text.trimLeft cs) other ↔ other = ls) ∧
      (ClosesOnlyOpened ls → (Outline.ofChars cs).Describes ls) := by
  refine ⟨lexemes (Text.trimLeft cs), fun other => isSplit_iff.trans eq_comm, fun opened => ?_⟩
  have known := Scan.knows_foldl opened
  have whole : textOf (lexemes (Text.trimLeft cs)) = Text.trimLeft cs := flatMap_text_lexemes _
  refine ⟨?_, known.selectEnd, ?_, known.order⟩
  · rw [← takeBytes_tokenEnd, ← known.stop, whole]
    rfl
  · rw [exists_lastOrderBy, Option.isSome_iff_exists]
    exact exists_congr known.order

/-- A query with parentheses and comments between its keywords. -/
def sortedNames : List Char := "select n from (t) -- all\norder /* up */ by n;".toList

theorem outline_describes_sortedNames :
    ClosesOnlyOpened (lexemes sortedNames) ∧ (Outline.ofChars sortedNames).Describes (lexemes sortedNames) ∧
      LastOrderBy (lexemes sortedNames) ⟨17, 42⟩ := by
  have opened : ClosesOnlyOpened (lexemes sortedNames) := by decide +kernel
  have found : (Outline.ofChars sortedNames).order = some ⟨17, 42⟩ := by decide +kernel
  obtain ⟨ls, only, describes⟩ := outline_describes_split sortedNames
  have split : ls = lexemes sortedNames := ((only _).mp (isSplit_iff.mpr rfl)).symm
  subst split
  exact ⟨opened, describes opened, ((describes opened).order _).mp found⟩

end SqlSchema.Query
