import SqlSchema.Proofs.Query.NameParts

/-!
# References among lexemes

Sort keys are qualified anew without a look at their lexemes: wherever a name, a point and a name stand, be it in a
literal. In `Legible` keys names are told by their characters alone, so there a reference starts at the lexeme of a
qualifier and nowhere else (`qualified?_eq_none`), and what is written are the lexemes with the qualifiers replaced pair
by pair (`requalify_textOf`).
-/

namespace SqlSchema.Query

open Text (double)

/-- The lexeme of a point. -/
def point : Lexeme := ⟨.other, ['.']⟩

/-- Whether the lexeme is a plain name, or a name between delimiters that is not empty. -/
def Lexeme.isName (l : Lexeme) : Bool :=
  match l.kind with
  | .word => l.text.head?.any startsPlainName
  | .quoted => l.text.head? != some '\'' && 2 < l.text.length
  | _ => false

theorem isName_point : point.isName = false := rfl

/-- Whether a name behind which the lexemes stand is a qualifier: a point and a name follow. -/
def Continues (ls : List Lexeme) : Prop := ∃ c rest, ls = point :: c :: rest ∧ c.isName = true

instance : DecidablePred Continues
  | [] => isFalse (by simp [Continues])
  | [_] => isFalse (by simp [Continues])
  | p :: c :: _ => decidable_of_iff (p = point ∧ c.isName = true) (by simp [Continues])

theorem continues_cons_cons {p c : Lexeme} {rest : List Lexeme} :
    Continues (p :: c :: rest) ↔ p = point ∧ c.isName = true := by
  simp [Continues]

theorem not_continues_of_short {ls : List Lexeme} (short : ∀ p c rest, ls = p :: c :: rest → False) :
    ¬Continues ls := fun ⟨c, rest, split, _⟩ => short point c rest split

/-- Whether the characters start with a plain name or the end of a quoted one, and a point and the start of a name
behind. -/
def startsReference : List Char → Bool
  | [] => false
  | c :: rest =>
    (startsPlainName c || c ∈ ['"', '\x60', ']']) &&
      match (if startsPlainName c then rest.dropWhile insidePlainName else rest) with
      | '.' :: next :: _ => startsName next
      | _ => false

/-- Whether no plain name starts inside of the lexeme, and no delimiter is doubled in it. -/
def Lexeme.readsWhole (l : Lexeme) : Bool :=
  match l.kind with
  | .word => l.text.head?.any startsPlainName || !l.text.any startsPlainName
  | .quoted => l.text.head? == some '\'' || !(l.text.getLast?.any (· ∈ l.text.tail.dropLast))
  | _ => true

/-- The names in the lexemes can be told by their characters alone. -/
structure Legible (ls : List Lexeme) : Prop where
  /-- No lexeme has a reference inside, or the end of one name and the start of the other. -/
  hidden : ∀ l ∈ ls, ∀ s, s <:+ l.text → startsReference s = false
  /-- A bracket is closed in the lexeme in which it is opened. -/
  brackets : ∀ l ∈ ls, ∀ s, s <:+ l.text → s.head? = some '[' → ']' ∈ s
  /-- A qualifier is read from its first character to its last, and a name behind a point from its first. -/
  names : ∀ before q c rest, ls = before ++ q :: point :: c :: rest → c.isName = true →
    q.readsWhole = true ∧ (namePart? c.text).isSome = true

/-! ### Ends of lexemes -/

/-- The ways in which a lexeme ends that does not end with the query. -/
inductive Lexeme.EndsIn : Lexeme → Char → Prop where
  | quoted {c e : Char} {inner : List Char} (opens : closingOf? c = some e) :
      EndsIn ⟨.quoted, c :: (double e inner ++ [e])⟩ e
  | comment {l : Lexeme} {e : Char} (ends : e = '\n' ∨ e = '/') : EndsIn l e
  | word {l : Lexeme} {e : Char} (kind : l.kind = .word) (letter : isWordChar e = true) : EndsIn l e
  | single {e : Char} (no_quote : closingOf? e = none) (no_word : isWordChar e = false) :
      EndsIn ⟨singleKind e, [e]⟩ e

section Ends

variable {l : Lexeme} {rest front : List Char} {e c : Char}

theorem Lexeme.Leads.endsIn (h : l.Leads rest) (behind : rest ≠ []) (text : l.text = front ++ [e]) : l.EndsIn e := by
  have same_end (body : List Char) {last : Char} (ends : l.text = body ++ [last]) : last = e := by
    have same := congrArg List.getLast? (ends.symm.trans text)
    simpa using same
  cases h with
  | @quoted c close inner _ opens _ =>
    obtain rfl := same_end (c :: double close inner) rfl
    exact .quoted opens
  | openQuoted | openLineComment | openBlockComment => exact absurd rfl behind
  | @lineComment inner => exact .comment (.inl (same_end ('-' :: '-' :: inner) rfl).symm)
  | @blockComment inner => exact .comment (.inr (same_end ('/' :: '*' :: (inner ++ ['*'])) (by simp)).symm)
  | @word c more _ all _ =>
    have whole : c :: more = front ++ [e] := text
    exact .word rfl (all e (by simp [whole]))
  | @single d _ no_quote no_word _ _ =>
    obtain rfl := same_end [] rfl
    exact .single no_quote no_word

namespace Lexeme.EndsIn

theorem eq_point (h : l.EndsIn '.') : l = point := by
  generalize same : '.' = e at h
  cases h with
  | quoted opens =>
    rcases closingOf?_eq_some opens with rfl | rfl | rfl | rfl <;> cases same
  | comment ends => rcases ends with rfl | rfl <;> cases same
  | word _ letter =>
    subst same
    cases letter
  | single =>
    subst same
    rfl

theorem kind_eq_word (h : l.EndsIn e) (letter : isWordChar e = true) : l.kind = .word := by
  cases h with
  | quoted opens => rcases closingOf?_eq_some opens with rfl | rfl | rfl | rfl <;> cases letter
  | comment ends => rcases ends with rfl | rfl <;> cases letter
  | word kind _ => exact kind
  | single _ no_word =>
    rw [no_word] at letter
    cases letter

/-- A delimiter that ends a lexeme closes it, unless it stands alone. -/
theorem exists_quoted {close : Char} (h : l.EndsIn close) (opens : closingOf? c = some close) (literal : c ≠ '\'')
    (not_alone : closingOf? close = none → 1 < l.text.length) :
    ∃ inner, l = ⟨.quoted, c :: (double close inner ++ [close])⟩ := by
  have delimiter := closingOf?_close opens literal
  cases h with
  | @quoted d _ inner opens' =>
    obtain rfl := closingOf?_inj opens opens'
    exact ⟨inner, rfl⟩
  | comment ends => rcases ends with rfl | rfl <;> simp at delimiter
  | word _ letter => rcases delimiter with rfl | rfl | rfl <;> cases letter
  | single no_quote => simpa using not_alone no_quote

end Lexeme.EndsIn

/-- A lexeme that ends in a point is one. -/
theorem Lexeme.Leads.front_eq_nil (h : l.Leads rest) (behind : rest ≠ []) (text : l.text = front ++ ['.']) :
    front = [] := by
  have alone := congrArg (fun l : Lexeme => l.text.length) (h.endsIn behind text).eq_point
  simpa [text, point] using alone

end Ends

section Starts

variable {l : Lexeme} {rest body : List Char} {c close : Char}

theorem Lexeme.Leads.kind_eq_word (h : l.Leads rest) (text : l.text = c :: body) (letter : isWordChar c = true) :
    l.kind = .word := by
  cases h with
  | quoted opens | openQuoted opens =>
    obtain ⟨rfl, -⟩ := List.cons_eq_cons.mp text
    rw [closingOf?_of_isWordChar letter] at opens
    cases opens
  | lineComment | openLineComment | blockComment | openBlockComment =>
    obtain ⟨rfl, -⟩ := List.cons_eq_cons.mp text
    cases letter
  | word => rfl
  | single _ no_word =>
    obtain ⟨rfl, -⟩ := List.cons_eq_cons.mp text
    rw [no_word] at letter
    cases letter

/-- A delimiter opens a quoted run, which is closed if something stands behind it. -/
theorem Lexeme.Leads.kind_eq_quoted (h : l.Leads rest) (text : l.text = c :: body) (opens : closingOf? c = some close) :
    l.kind = .quoted ∧ (rest = [] ∨ ∃ front, body = front ++ [close]) := by
  cases h with
  | @quoted _ _ inner _ opens' =>
    obtain ⟨rfl, rfl⟩ := List.cons_eq_cons.mp text
    obtain rfl := Option.some.inj (opens.symm.trans opens')
    exact ⟨rfl, .inr ⟨_, rfl⟩⟩
  | openQuoted => exact ⟨rfl, .inl rfl⟩
  | lineComment | openLineComment | blockComment | openBlockComment =>
    obtain ⟨rfl, -⟩ := List.cons_eq_cons.mp text
    cases opens
  | word all =>
    obtain ⟨rfl, -⟩ := List.cons_eq_cons.mp text
    rw [closingOf?_of_isWordChar (all _ (by simp))] at opens
    cases opens
  | single no_quote =>
    obtain ⟨rfl, -⟩ := List.cons_eq_cons.mp text
    rw [no_quote] at opens
    cases opens

end Starts

/-! ### Where references stand -/

section Places

variable {l : Lexeme} {ls more : List Lexeme} {s name after : List Char}

theorem Legible.of_cons (h : Legible (l :: ls)) : Legible ls where
  hidden := fun m among => h.hidden m (List.mem_cons_of_mem _ among)
  brackets := fun m among => h.brackets m (List.mem_cons_of_mem _ among)
  names := fun before q c rest split => h.names (l :: before) q c rest (by rw [split]; rfl)

theorem startsReference_of_close {close next : Char} {rest : List Char}
    (delimiter : close = '"' ∨ close = '\x60' ∨ close = ']') (starts : startsName next = true) :
    startsReference (close :: '.' :: next :: rest) = true := by
  rcases delimiter with rfl | rfl | rfl <;> simp [startsReference, startsPlainName, starts]

/-- Behind a name and a point, the start of a name tells a reference. -/
theorem NameLeads.exists_startsReference {next : Char} {rest : List Char} (h : NameLeads name after)
    (starts : startsName next = true) :
    ∃ s, s <:+ name ++ '.' :: next :: rest ∧ startsReference s = true := by
  cases h with
  | @plain c more _ plain all _ =>
    refine ⟨_, List.suffix_refl _, ?_⟩
    simp [startsReference, plain, List.dropWhile_append_of_pos all, insidePlainName, starts]
  | @delimited c close inside _ opens no_literal _ _ =>
    exact ⟨close :: '.' :: next :: rest, ⟨c :: inside, by simp⟩,
      startsReference_of_close (closingOf?_close opens no_literal) starts⟩

theorem lexemes_point_cons (cs : List Char) : lexemes ('.' :: cs) = point :: lexemes cs :=
  isSplit_iff.mp (.cons (.single (by decide) (by decide) (by simp) (by simp)) (isSplit_iff.mpr rfl))

/-- A lexeme at the start of which a name can be read is one. -/
theorem Lexeme.Leads.isName_of_nameLeads {cs : List Char} (h : l.Leads cs) (leads : NameLeads name after)
    (start : l.text ++ cs = name ++ after) : l.isName = true := by
  obtain ⟨c, body, text⟩ := List.exists_cons_of_ne_nil h.text_ne_nil
  rw [text] at start
  cases leads with
  | plain starts =>
    obtain ⟨rfl, -⟩ := List.cons_eq_cons.mp start
    have word := h.kind_eq_word text (insidePlainName_of_startsPlainName starts)
    simp [isName, word, text, starts]
  | @delimited _ close inside _ opens literal some_char first =>
    obtain ⟨rfl, tail⟩ := List.cons_eq_cons.mp start
    obtain ⟨quoted, ends⟩ := h.kind_eq_quoted text opens
    obtain ⟨d, inside, rfl⟩ := List.exists_cons_of_ne_nil some_char
    have long : 1 < body.length := by
      rcases ends with rfl | ⟨front, rfl⟩
      · have lengths := congrArg List.length tail
        simp only [List.append_eq, List.append_nil, List.length_append, List.length_cons, List.length_nil] at lengths
        omega
      · -- the delimiter that closes the run is not the first character of the name
        have some_front : front ≠ [] := by
          rintro rfl
          have same : close = d := (List.cons_eq_cons.mp tail).1
          exact first (by simp [same])
        have := List.length_pos_iff.mpr some_front
        simp only [List.length_append, List.length_cons, List.length_nil]
        omega
    simp [isName, quoted, text, literal]
    omega

/-- Where a reference goes on behind its point, the lexemes go on with a name. -/
private theorem continues_of_point {rest column : List Char} (split : IsSplit ('.' :: rest) more)
    (second : NameLeads column after) (start : rest = column ++ after) :
    ∃ m others, more = point :: m :: others ∧ m.isName = true := by
  have more_eq := isSplit_iff.mp split
  have later : IsSplit rest (lexemes rest) := isSplit_iff.mpr rfl
  rw [lexemes_point_cons] at more_eq
  generalize lexemes rest = ms at later more_eq
  cases later with
  | nil =>
    obtain ⟨c, body, rfl, -⟩ := second.exists_startsName
    cases start
  | @cons m cs others leads _ => exact ⟨m, others, more_eq.symm, leads.isName_of_nameLeads second start⟩

/-- No quoted text that was opened before ends in front of a point. -/
private theorem not_closed_before_point {before rest : List Char} {quote next : Char}
    (split : IsSplit (before ++ quote :: '.' :: next :: rest) ls) (legible : Legible ls)
    (is_quote : closingOf? quote = some quote) (literal : quote ≠ '\'') (first : quote ∉ before)
    (starts : startsName next = true) : False := by
  generalize whole : before ++ quote :: '.' :: next :: rest = text at split
  induction split generalizing before with
  | nil => simp at whole
  | @cons l behind ls leads later ih =>
    rcases List.append_eq_append_iff.mp whole with ⟨inside, text, found⟩ | ⟨inside, text, found⟩
    · rcases inside with - | ⟨q, - | ⟨p, inside⟩⟩
      · exact @ih [] legible.of_cons (by simp) (by simpa using found)
      · -- the lexeme ends in the delimiter, so it starts with it too
        simp only [List.cons_append, List.nil_append, List.cons.injEq] at found
        obtain ⟨rfl, rfl⟩ := found
        obtain ⟨inner, rfl⟩ := (leads.endsIn (by simp) text).exists_quoted is_quote literal (by simp [is_quote])
        have front : quote :: double quote inner = before := (List.append_inj' text rfl).1
        exact first (by simp [← front])
      · simp only [List.cons_append, List.cons.injEq] at found
        obtain ⟨rfl, rfl, found⟩ := found
        cases inside with
        | nil =>
          rw [List.nil_append] at found
          subst found
          have ends : l.text = before ++ [quote] ++ ['.'] := by simp [text]
          simpa using leads.front_eq_nil (by simp) ends
        | cons n inside =>
          obtain ⟨rfl, -⟩ := List.cons_eq_cons.mp found
          have missing := legible.hidden l (by simp) (quote :: '.' :: next :: inside) ⟨before, text.symm⟩
          rw [startsReference_of_close (closingOf?_close is_quote literal) starts] at missing
          cases missing
    · exact ih legible.of_cons (fun hx => first (by simp [text, hx])) found.symm

section Lexeme

variable (split : IsSplit (l.text ++ textOf more) (l :: more)) (legible : Legible (l :: more))
include split legible

/-- No reference has its point inside of a lexeme. -/
private theorem not_point_inside {inside rest : List Char} {next : Char} (suffix : name ++ '.' :: inside <:+ l.text)
    (first : NameLeads name after) (second : inside ++ textOf more = next :: rest) (starts : startsName next = true) :
    False := by
  cases inside with
  | cons d inside =>
    obtain ⟨rfl, -⟩ := List.cons_eq_cons.mp second
    obtain ⟨t, ends, found⟩ := first.exists_startsReference starts
    have missing := legible.hidden l (by simp) t (ends.trans suffix)
    rw [found] at missing
    cases missing
  | nil =>
    -- the lexeme ends in the point, so no name is in front of it
    have behind : textOf more ≠ [] := by simp [show textOf more = _ from second]
    obtain ⟨front, text⟩ := suffix
    have ends : l.text = front ++ name ++ ['.'] := by simp [← text]
    have nothing := split.of_cons.1.front_eq_nil behind ends
    obtain ⟨c, body, rfl, -⟩ := first.exists_startsName
    simp at nothing

/-- The point behind a lexeme is one of a reference only if the lexeme is a qualifier. -/
private theorem qualifier_of_point_behind {rest column : List Char} (suffix : name <:+ l.text)
    (behind : textOf more = '.' :: rest) (first : NameLeads name ('.' :: rest)) (second : NameLeads column after)
    (start : rest = column ++ after) : l.isName = true ∧ Continues more := by
  have leads := split.of_cons.1
  have some_char : textOf more ≠ [] := by simp [behind]
  obtain ⟨m, others, rfl, column_name⟩ := continues_of_point (behind ▸ split.of_cons.2) second start
  have whole := (legible.names [] l m others rfl column_name).1
  refine ⟨?_, m, others, rfl, column_name⟩
  obtain ⟨front, text⟩ := suffix
  cases first with
  | @plain c body _ starts all _ =>
    obtain ⟨body', e, same⟩ := (List.eq_nil_or_concat' (c :: body)).resolve_left (by simp)
    have letter : isWordChar e = true := by
      have among : e ∈ c :: body := by simp [same]
      rcases List.mem_cons.mp among with rfl | among
      · exact insidePlainName_of_startsPlainName starts
      · exact all e among
    have ends : l.text = front ++ body' ++ [e] := by simp [← text, same]
    have word := (leads.endsIn some_char ends).kind_eq_word letter
    have starting : l.text.any startsPlainName = true := by simp [← text, starts]
    simpa [Lexeme.readsWhole, Lexeme.isName, word, starting] using whole
  | @delimited c close inside _ opens literal inside_some _ =>
    have ends : l.text = front ++ c :: inside ++ [close] := by simp [← text]
    have long : 2 < l.text.length := by
      have some_inside := List.length_pos_iff.mpr inside_some
      simp only [← text, List.length_append, List.length_cons, List.length_nil]
      omega
    obtain ⟨inner, rfl⟩ := (leads.endsIn some_char ends).exists_quoted opens literal fun _ => by omega
    simp [Lexeme.isName, literal] at long ⊢
    omega

/-- No name of a reference goes on behind a lexeme. -/
private theorem not_name_across {c next : Char} {cs rest : List Char} (suffix : s <:+ l.text) (some_char : s ≠ [])
    (behind : textOf more = c :: cs ++ '.' :: next :: rest) (first : NameLeads (s ++ c :: cs) after)
    (starts : startsName next = true) : False := by
  have leads := split.of_cons.1
  have some_behind : textOf more ≠ [] := by simp [behind]
  obtain ⟨front, text⟩ := suffix
  generalize whole : s ++ c :: cs = name at first
  cases first with
  | @plain d body _ plain all _ =>
    -- the lexeme ends in the character of a word, so none can follow
    have letters : ∀ x ∈ s ++ c :: cs, isWordChar x = true := by
      rw [whole, List.forall_mem_cons]
      exact ⟨insidePlainName_of_startsPlainName plain, all⟩
    obtain ⟨s, e, rfl⟩ := (List.eq_nil_or_concat' s).resolve_left some_char
    have ends : l.text = front ++ s ++ [e] := by simp [← text]
    have word := (leads.endsIn some_behind ends).kind_eq_word (letters e (by simp))
    have no_letter := leads.not_isWordChar word c (by simp [behind])
    rw [letters c (by simp)] at no_letter
    cases no_letter
  | @delimited d close inside _ opens literal _ first =>
    obtain ⟨d', s, rfl⟩ := List.exists_cons_of_ne_nil some_char
    obtain ⟨back, e, same⟩ := (List.eq_nil_or_concat' (c :: cs)).resolve_left (by simp)
    rw [same, List.cons_append, ← List.append_assoc, List.cons_eq_cons] at whole
    obtain ⟨rfl, tail⟩ := whole
    obtain ⟨rfl, last⟩ := List.append_inj' tail rfl
    obtain rfl := List.singleton_inj.mp last
    by_cases bracket : d' = '['
    · subst bracket
      obtain rfl : ']' = e := by simpa [closingOf?] using opens
      have closed := legible.brackets l (by simp) ('[' :: s) ⟨front, text⟩ rfl
      exact first (by simpa using Or.inl closed)
    · -- the name goes on up to a closing delimiter, and the point comes behind it
      have quote : d' = e := by
        simp only [closingOf?, literal, bracket, false_or, if_false, Option.ite_none_right_eq_some] at opens
        exact Option.some.inj opens.2
      subst quote
      have later : IsSplit (textOf more) more := split.of_cons.2
      rw [behind, same, List.append_assoc, List.singleton_append] at later
      exact not_closed_before_point later legible.of_cons opens literal (fun found => first (by simp [found])) starts

/-- No reference starts in a lexeme but at a qualifier. -/
theorem qualified?_eq_none (other : ¬(l.isName = true ∧ Continues more)) (suffix : s <:+ l.text) (some_char : s ≠ []) :
    qualified? (s ++ textOf more) = none := by
  rw [Option.eq_none_iff_forall_ne_some]
  rintro ⟨column, after⟩ found
  obtain ⟨first, whole, leads, second⟩ := qualified?_eq_some_iff.mp found
  obtain ⟨next, rest, rfl, starts⟩ := second.exists_startsName
  rw [List.cons_append] at whole leads
  rcases List.append_eq_append_iff.mp whole with ⟨cs, rfl, behind⟩ | ⟨cs, rfl, behind⟩
  · cases cs with
    | nil =>
      rw [List.append_nil] at leads
      exact other (qualifier_of_point_behind split legible suffix behind leads second rfl)
    | cons c cs => exact not_name_across split legible suffix some_char behind leads starts
  · cases cs with
    | nil =>
      rw [List.append_nil] at suffix
      exact other (qualifier_of_point_behind split legible suffix behind.symm leads second rfl)
    | cons c cs =>
      obtain ⟨rfl, tail⟩ := List.cons_eq_cons.mp behind
      exact not_point_inside split legible suffix leads tail.symm starts

end Lexeme

end Places

/-! ### Qualifying the references -/

/-- The lexemes with the qualifiers replaced from left to right, where a name behind a replaced one is no qualifier
itself. -/
def requalifyPairs (qualifier : List Char) : List Lexeme → List Char
  | [] => []
  | q :: p :: c :: rest =>
    if q.isName = true ∧ Continues (p :: c :: rest) then
      qualifier ++ '.' :: (c.text ++ requalifyPairs qualifier rest)
    else q.text ++ requalifyPairs qualifier (p :: c :: rest)
  | l :: rest => l.text ++ requalifyPairs qualifier rest

section Pairs

variable {l q c : Lexeme} {ls rest : List Lexeme} {cs name after qualifier : List Char}

theorem Lexeme.Leads.nameLeads_text (h : l.Leads cs) (behind : cs ≠ []) (name : l.isName = true)
    (whole : l.readsWhole = true) : NameLeads l.text cs := by
  cases h with
  | @quoted c close inner _ opens _ =>
    obtain ⟨literal, long⟩ : c ≠ '\'' ∧ 0 < (double close inner).length := by simpa [isName] using name
    refine .delimited opens literal (List.length_pos_iff.mp long) ?_
    simpa [readsWhole, literal, List.getLast?_cons] using whole
  | openQuoted | openLineComment | openBlockComment => exact absurd rfl behind
  | lineComment | blockComment => cases name
  | @word c more _ all maximal =>
    exact .plain (by simpa [isName] using name) (fun x hx => all x (List.mem_cons_of_mem _ hx)) maximal
  | single =>
    simp only [isName] at name
    split at name
    · exact absurd ‹_› (singleKind_ne (by simp))
    · exact absurd ‹_› (singleKind_ne (by simp))
    · cases name

/-- What is read of a name does not depend on what stands behind its lexeme. -/
theorem Lexeme.Leads.exists_nameLeads (h : l.Leads cs) (opens : (namePart? l.text).isSome = true) :
    ∃ first more, l.text = first ++ more ∧ NameLeads first (more ++ cs) := by
  obtain ⟨⟨first, more⟩, read⟩ := Option.isSome_iff_exists.mp opens
  obtain ⟨text, leads⟩ := namePart?_eq_some_iff.mp read
  refine ⟨first, more, text, ?_⟩
  cases leads with
  | delimited opens literal some_char first => exact .delimited opens literal some_char first
  | @plain d body _ starts all maximal =>
    refine .plain starts all ?_
    cases more with
    | cons x more => exact maximal
    | nil =>
      rw [List.append_nil] at text
      exact h.not_isWordChar (h.kind_eq_word text (insidePlainName_of_startsPlainName starts))

theorem requalify_reference (split : IsSplit (textOf (q :: point :: c :: rest)) (q :: point :: c :: rest))
    (legible : Legible (q :: point :: c :: rest)) (qualifies : q.isName = true) (column : c.isName = true) :
    requalify qualifier (textOf (q :: point :: c :: rest)) =
      qualifier ++ '.' :: (c.text ++ requalify qualifier (textOf rest)) := by
  obtain ⟨whole, opens⟩ := legible.names [] q c rest rfl column
  have q_leads := split.of_cons.1
  have c_leads := split.of_cons.2.of_cons.2.of_cons.1
  have first := q_leads.nameLeads_text (by simp [textOf, point]) qualifies whole
  obtain ⟨name, more, text, second⟩ := c_leads.exists_nameLeads opens
  have later : textOf (point :: c :: rest) = '.' :: (name ++ (more ++ textOf rest)) := by
    simp [textOf, point, text]
  rw [later] at first
  have found : qualified? (textOf (q :: point :: c :: rest)) = some (name, more ++ textOf rest) :=
    qualified?_eq_some_iff.mpr ⟨q.text, by rw [← later]; rfl, first, second⟩
  have none_starts : ∀ s, s ≠ [] → s <:+ more → qualified? (s ++ textOf rest) = none := by
    intro s some_char suffix
    refine qualified?_eq_none split.of_cons.2.of_cons.2 legible.of_cons.of_cons ?_
      (suffix.trans ⟨name, text.symm⟩) some_char
    rintro ⟨-, d, others, rfl, d_name⟩
    -- a name that goes on is read as a whole
    have c_whole := (legible.names [q, point] c d others rfl d_name).1
    have alone := c_leads.nameLeads_text (by simp [textOf, point]) column c_whole
    have read := namePart?_eq_some_iff.mpr ⟨rfl, second⟩
    rw [← List.append_assoc, ← text, namePart?_eq_some_iff.mpr ⟨rfl, alone⟩, Option.some.injEq, Prod.mk.injEq] at read
    have nothing : more = [] := by simpa [read.1] using text
    rw [nothing, List.suffix_nil] at suffix
    exact some_char suffix
  rw [requalify_of_qualified found, requalify_append_of_none none_starts, text, List.append_assoc]

theorem requalify_other (split : IsSplit (textOf (l :: rest)) (l :: rest)) (legible : Legible (l :: rest))
    (other : ¬(l.isName = true ∧ Continues rest)) :
    requalify qualifier (textOf (l :: rest)) = l.text ++ requalify qualifier (textOf rest) :=
  requalify_append_of_none fun _ some_char suffix => qualified?_eq_none split legible other suffix some_char

theorem requalify_textOf (split : IsSplit (textOf ls) ls) (legible : Legible ls) :
    requalify qualifier (textOf ls) = requalifyPairs qualifier ls := by
  fun_induction requalifyPairs qualifier ls with
  | case1 => rw [textOf, List.flatMap_nil, requalify]
  | case2 q p c rest reference ih =>
    obtain ⟨qualifies, rfl, column⟩ := reference.imp_right continues_cons_cons.mp
    rw [requalify_reference split legible qualifies column,
      ih split.of_cons.2.of_cons.2.of_cons.2 legible.of_cons.of_cons.of_cons]
  | case3 q p c rest other ih =>
    rw [requalify_other split legible other, ih split.of_cons.2 legible.of_cons]
  | case4 l rest short ih =>
    have other : ¬(l.isName = true ∧ Continues rest) := fun qualifies => not_continues_of_short short qualifies.2
    rw [requalify_other split legible other, ih split.of_cons.2 legible.of_cons]

end Pairs

end SqlSchema.Query
