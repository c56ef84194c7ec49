import Mathlib.Data.List.Forall2
import SqlSchema.Identifier

/-!
# Tokens between delimiters

A lexer reads a statement from left to right: a literal between apostrophes or a name between the delimiters of a style
is one token, inside of which a closing delimiter stands twice, and every other character is a token of its own. Two
texts are `Alike` if a lexer that is not inside of a token sees the same tokens in both and is not inside of one behind
them. Quoted names are alike whatever they hold (`alike_quote`), and so are literals (`alike_literal`).
-/

namespace SqlSchema

/-- What stands between delimiters. -/
inductive Delimited where
  | literal | name
deriving DecidableEq, Repr

/-- What a lexer sees of a text. -/
inductive Token where
  | char (c : Char)
  /-- All that stands between delimiters, whatever it is. -/
  | whole (kind : Delimited)
  /-- A token without a closing delimiter. -/
  | unclosed (kind : Delimited)
deriving DecidableEq, Repr

/-- Where a lexer is. -/
inductive Lexing where
  | outside
  | inside (kind : Delimited)
  /-- Behind a closing delimiter, which ends the token unless another one follows. -/
  | closed (kind : Delimited)
deriving DecidableEq, Repr

namespace Delimited

/-- The delimiter in front: an apostrophe before a literal, that of the style before a name. -/
def opening (q : QuoteStyle) : Delimited → Char
  | .literal => '\''
  | .name => q.opening

/-- The delimiter behind, which is doubled where it stands between them. -/
def closing (q : QuoteStyle) : Delimited → Char
  | .literal => '\''
  | .name => q.closing

end Delimited

namespace Lexing

variable {q : QuoteStyle}

/-- A character that is in no token yet. -/
def enter (q : QuoteStyle) (c : Char) : List Token × Lexing :=
  if c = '\'' then ([], .inside .literal)
  else if c = q.opening then ([], .inside .name)
  else ([.char c], .outside)

/-- The tokens that end with a character, and where the lexer is behind it. -/
def step (q : QuoteStyle) : Lexing → Char → List Token × Lexing
  | .outside, c => enter q c
  | .inside k, c => ([], if c = k.closing q then .closed k else .inside k)
  | .closed k, c => if c = k.closing q then ([], .inside k) else (.whole k :: (enter q c).1, (enter q c).2)

/-- The tokens that end in the characters, and where the lexer is behind them. -/
def run (q : QuoteStyle) : Lexing → List Char → List Token × Lexing
  | st, [] => ([], st)
  | st, c :: cs => ((st.step q c).1 ++ (run q (st.step q c).2 cs).1, (run q (st.step q c).2 cs).2)

/-- The token that ends with the text. -/
def finish : Lexing → List Token
  | .outside => []
  | .inside k => [.unclosed k]
  | .closed k => [.whole k]

theorem run_append (st : Lexing) (cs ds : List Char) :
    run q st (cs ++ ds) =
      ((run q st cs).1 ++ (run q (run q st cs).2 ds).1, (run q (run q st cs).2 ds).2) := by
  induction cs generalizing st with
  | nil => rfl
  | cons c cs ih => simp only [List.cons_append, run, ih, List.append_assoc]

/-- Where a lexer is not inside of a token. -/
def rests : List Lexing := [.outside, .closed .literal, .closed .name]

/-- Inside of a token a lexer stays there as long as closing delimiters are doubled. -/
theorem run_double (k : Delimited) (cs : List Char) :
    run q (.inside k) (Text.double (k.closing q) cs) = ([], .inside k) := by
  induction cs with
  | nil => rfl
  | cons c cs ih =>
    rw [Text.double_cons, run_append]
    split
    · have twice : run q (.inside k) [k.closing q, k.closing q] = ([], .inside k) := by
        simp [run, step]
      rw [twice, ih]
      rfl
    · rename_i other
      have once : run q (.inside k) [c] = ([], .inside k) := by
        simp [run, step, other]
      rw [once, ih]
      rfl

/-- An opening delimiter leads into a token of its kind, behind another token too. -/
private theorem step_opening (k : Delimited) {st : Lexing} (rest : st ∈ rests) :
    (st.step q (k.opening q)).2 = .inside k := by
  simp only [rests, List.mem_cons, List.not_mem_nil, or_false] at rest
  rcases rest with rfl | rfl | rfl <;> cases k <;> cases q <;> rfl

/-- What stands between delimiters does not matter to a lexer. -/
theorem run_delimited (k : Delimited) {st : Lexing} (rest : st ∈ rests) (cs : List Char) :
    run q st (Text.delimited (k.opening q) (k.closing q) cs) = ((st.step q (k.opening q)).1, .closed k) := by
  have last : run q (.inside k) [k.closing q] = ([], .closed k) := by
    simp [run, step]
  rw [Text.delimited, run, step_opening k rest, run_append, run_double, last, List.append_nil, List.append_nil]

/-- The characters that may be delimiters. -/
def delimiters : List Char := ['\'', '"', '\x60', '[', ']']

theorem run_plain {st : Lexing} (rest : st ∈ rests) {cs : List Char} (plain : ∀ c ∈ cs, c ∉ delimiters) :
    (run q st cs).2 ∈ rests := by
  induction cs generalizing st with
  | nil => exact rest
  | cons c cs ih =>
    have no_delimiter : c ≠ '\'' ∧ c ≠ q.opening ∧ c ≠ q.closing := by
      have other := plain c List.mem_cons_self
      simp only [delimiters, List.mem_cons, List.not_mem_nil, or_false, not_or] at other
      cases q <;> simp_all [QuoteStyle.opening, QuoteStyle.closing]
    have entered : enter q c = ([.char c], .outside) := by
      rw [enter, if_neg no_delimiter.1, if_neg no_delimiter.2.1]
    have next : (st.step q c).2 = .outside := by
      simp only [rests, List.mem_cons, List.not_mem_nil, or_false] at rest
      rcases rest with rfl | rfl | rfl
      · rw [step, entered]
      · exact (congrArg Prod.snd (if_neg no_delimiter.1)).trans (congrArg Prod.snd entered)
      · exact (congrArg Prod.snd (if_neg no_delimiter.2.2)).trans (congrArg Prod.snd entered)
    rw [run, next]
    exact ih (by decide) fun e he => plain e (List.mem_cons_of_mem c he)

end Lexing

namespace QuoteStyle

variable {q : QuoteStyle} {a b a' b' : String}

open Lexing

/-- The tokens of a text in which the delimiters of the style stand around names. -/
def tokens (q : QuoteStyle) (text : String) : List Token :=
  (run q .outside text.toList).1 ++ (run q .outside text.toList).2.finish

example : QuoteStyle.bracket.tokens "[a]]b].'c''[d'" =
    [.whole .name, .char '.', .whole .literal] := by decide

/-- Whether a lexer that is not inside of a token sees the same tokens in both texts, and is not inside of one behind
them. -/
def Alike (q : QuoteStyle) (a b : String) : Prop :=
  ∀ st ∈ rests, run q st a.toList = run q st b.toList ∧ (run q st a.toList).2 ∈ rests

instance : Decidable (q.Alike a b) := inferInstanceAs (Decidable (∀ st ∈ rests, _))

theorem Alike.tokens_eq (h : q.Alike a b) : q.tokens a = q.tokens b := by
  unfold tokens
  rw [(h .outside (by decide)).1]

theorem Alike.refl_empty : q.Alike "" "" := fun _ rest => ⟨rfl, rest⟩

theorem Alike.append (h : q.Alike a b) (k : q.Alike a' b') : q.Alike (a ++ a') (b ++ b') := by
  intro st rest
  obtain ⟨same, there⟩ := h st rest
  obtain ⟨same', there'⟩ := k _ there
  rw [String.toList_append, String.toList_append, run_append, run_append, ← same, ← same']
  exact ⟨rfl, there'⟩

theorem Alike.intercalate {separator : String} (between : q.Alike separator separator) {xs ys : List String}
    (h : List.Forall₂ q.Alike xs ys) : q.Alike (separator.intercalate xs) (separator.intercalate ys) := by
  induction h with
  | nil => exact .refl_empty
  | @cons x y xs ys first rest ih =>
    cases rest with
    | nil => simpa using first
    | cons second rest =>
      rw [String.intercalate_cons_cons, String.intercalate_cons_cons]
      exact (first.append between).append ih

theorem alike_of_delimited (k : Delimited) {cs ds : List Char}
    (first : a.toList = Text.delimited (k.opening q) (k.closing q) cs)
    (second : b.toList = Text.delimited (k.opening q) (k.closing q) ds) : q.Alike a b := by
  intro st rest
  rw [first, second, run_delimited k rest, run_delimited k rest]
  refine ⟨rfl, ?_⟩
  cases k <;> simp [rests]

theorem alike_quote (a b : String) : q.Alike (q.quote a) (q.quote b) :=
  alike_of_delimited .name (toList_quote q a) (toList_quote q b)

theorem alike_literal (a b : String) : q.Alike (Text.literal a) (Text.literal b) :=
  alike_of_delimited .literal (Text.toList_literal a) (Text.toList_literal b)

theorem alike_of_plain (plain : ∀ c ∈ a.toList, c ∉ delimiters) : q.Alike a a :=
  fun _ rest => ⟨rfl, run_plain rest plain⟩

end QuoteStyle

end SqlSchema
