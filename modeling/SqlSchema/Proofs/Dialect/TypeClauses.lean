import Mathlib.Tactic.MkIffOfInductiveProp
import SqlSchema.Proofs.Dialect.Known
import SqlSchema.Proofs.Dialect.Layouts

/-!
# Type clauses as native types

The type clauses that a dialect writes are native types that it reads. Where the name of a native type has numbers, the
rule that reads it has the same words and the same numbers, or is named by the words, or has a place for the numbers
(`exists_rule_of_numbers`); the later preferences among the rules never come to decide. So it is enough that the rules
with the same words agree with each other, and that clauses without numbers, of which there are finitely many, are read
(`Legible`). Every rule of every known dialect is legible (`legible`).

What is read from a type clause then has the same clause, except that a scale of zero is left out (`exists_ofNative?`).
A clause is not read only where a spelling for lengths beyond a limit takes the length but has words of its own
(`ofNative?_eq_none_of_isUnread`), as that of the long texts of Informix has (`isUnread_iff`).
-/

namespace SqlSchema.Dialect

open NativeParams (ofNumbers)

variable {d : Dialect} {r s : TypeRule} {t : ColumnType} {p : TypeParams} {text other : String}

/-! ### The search among the rules -/

section Search

variable {rules : List TypeRule} {n : NativeParams} {meets : TypeRule → Bool}

theorem exists_of_preferred? {found : ColumnType × TypeParams} (h : preferred? rules n meets = some found) :
    ∃ r ∈ rules, meets r = true ∧ ∃ q, n.paramsFor? r.type = some q ∧ found = (r.type, q) := by
  obtain ⟨r, hr, chosen⟩ := List.exists_of_findSome?_eq_some h
  obtain ⟨hr, met⟩ := List.mem_filter.mp hr
  obtain ⟨q, suits, rfl⟩ := Option.map_eq_some_iff.mp chosen
  exact ⟨r, hr, met, q, suits, rfl⟩

theorem exists_preferred? (hr : r ∈ rules) (met : meets r = true) (suits : n.paramsFor? r.type = some p) :
    ∃ found, preferred? rules n meets = some found := by
  rw [← Option.isSome_iff_exists, preferred?, List.findSome?_isSome_iff]
  refine ⟨r, ?_, ?_⟩
  · apply List.mem_filter.mpr
    exact ⟨hr, met⟩
  · rw [suits]
    rfl

end Search

/-- The rules with the words of a native type. -/
def rulesFor (d : Dialect) (text : String) : List TypeRule :=
  d.typeRules.filter fun r => typeWords r.template == typeWords text

theorem mem_rulesFor : r ∈ d.rulesFor text ↔ r ∈ d.typeRules ∧ typeWords r.template = typeWords text := by
  simp [rulesFor]

theorem rulesFor_congr (words : typeWords text = typeWords other) : d.rulesFor text = d.rulesFor other := by
  rw [rulesFor, rulesFor, words]

/-- How a native type is read that has nothing beside its name. -/
theorem ofNative?_eq (d : Dialect) (text : String) :
    d.ofNative? text none none none =
      let n := ofNumbers (typeArguments text)
      ((preferences (typeWords text) (!(typeArguments text).isEmpty) n).findSome? (preferred? (d.rulesFor text) n)).or
        (((commonTypeNames.lookup (typeWords text)).or (ColumnType.ofName? (typeWords text))).bind fun t =>
          (n.paramsFor? t).map (t, ·)) := by
  simp [ofNative?, ofNumbers, rulesFor]

/-- Whether a template has a place for parameters. -/
def hasSlot (template : String) : Bool := template.toList.contains '$'

/-- A native type with numbers, for which some rule with its words has a place, is read by a rule with its words: one
with the same numbers, one of the type with that name, or one with a place for numbers. -/
theorem exists_rule_of_numbers (hr : r ∈ d.rulesFor text) (slot : hasSlot r.template = true)
    (numbers : typeArguments text ≠ []) (suits : (ofNumbers (typeArguments text)).paramsFor? r.type = some p) :
    ∃ s ∈ d.rulesFor text, ∃ q, d.ofNative? text none none none = some (s.type, q) ∧
      (ofNumbers (typeArguments text)).paramsFor? s.type = some q ∧
      ((ofNumbers (typeArguments text)).matchesNumbers (typeArguments s.template) = true ∨
        s.type.name = typeWords text ∨ hasSlot s.template = true) := by
  have some_number : (!(typeArguments text).isEmpty) = true := by simpa using numbers
  obtain ⟨last, by_slot⟩ : ∃ last, preferred? (d.rulesFor text) (ofNumbers (typeArguments text))
      (fun s => true && s.template.toList.contains '$') = some last := exists_preferred? hr slot suits
  rw [ofNative?_eq, some_number]
  simp only [preferences, List.findSome?_cons]
  generalize ofNumbers (typeArguments text) = n at *
  -- The search stops at the third preference at the latest, which `r` meets.
  cases by_number : preferred? (d.rulesFor text) n fun s => n.matchesNumbers (typeArguments s.template) with
  | some found =>
    obtain ⟨s, hs, met, q, suits, rfl⟩ := exists_of_preferred? by_number
    exact ⟨s, hs, q, rfl, suits, .inl met⟩
  | none =>
    cases by_name : preferred? (d.rulesFor text) n fun s => s.type.name == typeWords text with
    | some found =>
      obtain ⟨s, hs, met, q, suits, rfl⟩ := exists_of_preferred? by_name
      exact ⟨s, hs, q, rfl, suits, .inr (.inl (by simpa using met))⟩
    | none =>
      obtain ⟨s, hs, met, q, suits, rfl⟩ := exists_of_preferred? by_slot
      rw [by_slot]
      exact ⟨s, hs, q, rfl, suits, .inr (.inr met)⟩

/-- Whether no rule and no common name has the words of a native type. -/
def Unspelled (d : Dialect) (text : String) : Prop :=
  d.rulesFor text = [] ∧ commonTypeNames.lookup (typeWords text) = none ∧ ColumnType.ofName? (typeWords text) = none
deriving Decidable

theorem ofNative?_eq_none (unspelled : d.Unspelled other) (words : typeWords text = typeWords other) :
    d.ofNative? text none none none = none := by
  obtain ⟨no_rule, no_common, no_type⟩ := unspelled
  rw [ofNative?_eq, rulesFor_congr words, no_rule, words, no_common, no_type]
  have unfound : ∀ n meets, preferred? [] n meets = none := by
    intro n meets
    rfl
  simp [preferences, unfound]

/-! ### Legible rules -/

/-- The type clause for what is read from a text. -/
def rewrite? (d : Dialect) (text : String) : Option String :=
  (d.ofNative? text none none none).bind fun found => (d.typeClause found.1 found.2).toOption

theorem exists_of_rewrite? (h : d.rewrite? text = some other) :
    ∃ t p, d.ofNative? text none none none = some (t, p) ∧ d.typeClause t p = .ok other := by
  obtain ⟨⟨t, p⟩, read, written⟩ := Option.bind_eq_some_iff.mp h
  refine ⟨t, p, read, ?_⟩
  cases clause : d.typeClause t p with
  | error fault =>
    simp only [clause] at written
    cases written
  | ok text =>
    simp only [clause] at written
    cases written
    rfl

/-- Whether a rule writes one text, which another rule writes for the numbers in it. -/
def WritesOneOf (s r : TypeRule) : Prop :=
  s.type.paramUse = .nothing ∧ hasSlot s.template = false ∧ (typeArguments s.template).length ≤ 2 ∧
    ∀ L ∈ Layout.of? r.type.paramUse r.template, L.write (typeArguments s.template) = s.template.toList
deriving Decidable

/-- Whether two rules write the same texts. -/
def WritesLike (s r : TypeRule) : Prop :=
  s.template = r.template ∧ s.overflow = r.overflow ∧ s.type.paramUse = r.type.paramUse
deriving Decidable

/-- What it takes of a rule that its clauses are read as what has these clauses. -/
@[mk_iff]
structure Legible (d : Dialect) (r : TypeRule) : Prop where
  in_force : d.typeRule? r.type = some r
  /-- A template has a place for the parameters of the type, or stands for itself. -/
  laid_out : ∀ template ∈ templatesOf r,
    if hasSlot template then (Layout.of? r.type.paramUse template).isSome else '[' ∉ template.toList
  closed : ∀ template ∈ templatesOf r, hasSlot template = false → d.rewrite? template = some template
  /-- The parameters are all left out. -/
  without_numbers : hasSlot r.template = true → r.type.paramUse = .nothing ∨ r.type.paramUse = .precision →
    d.rewrite? (Template.fill r.template (paramSlot {})) = some (Template.fill r.template (paramSlot {}))
  /-- A rule that the numbers of a column may lead to writes what `r` writes for these numbers. -/
  with_numbers : hasSlot r.template = true → ∀ s ∈ d.rulesFor r.template,
    typeArguments s.template ≠ [] → WritesOneOf s r
  /-- A rule that the words or the presence of numbers may lead to writes what `r` writes. -/
  alike : hasSlot r.template = true → ∀ s ∈ d.rulesFor r.template,
    s.type.name = typeWords r.template ∨ hasSlot s.template = true → WritesLike s r
  unspelled : ∀ o ∈ r.overflow, hasSlot o.template = true → d.Unspelled o.template

namespace Legible

theorem exists_layout (legible : d.Legible r) {template : String} (h : template ∈ templatesOf r)
    (slot : hasSlot template = true) : ∃ L, Layout.of? r.type.paramUse template = some L := by
  have laid_out := legible.laid_out template h
  rw [if_pos slot] at laid_out
  exact Option.isSome_iff_exists.mp laid_out

/-- A template without a place for parameters is the text that it stands for. -/
theorem fill_eq_self (legible : d.Legible r) {template : String} (h : template ∈ templatesOf r)
    (no_slot : hasSlot template = false) (value : Char → Option String) : Template.fill template value = template := by
  have no_segment := legible.laid_out template h
  rw [no_slot, if_neg Bool.false_ne_true] at no_segment
  exact Template.fill_eq_self (by simpa [hasSlot] using no_slot) no_segment

theorem typeClause_of_writesOneOf (legible : d.Legible s) (h : WritesOneOf s r) :
    d.typeClause s.type {} = .ok s.template := by
  obtain ⟨nothing, no_slot, -⟩ := h
  have suitable : TypeParams.Suitable {} s.type := by
    apply TypeParams.suitable_of_takes
    rw [nothing]
    exact .nothing
  have usual : templateFor s {} = s.template := by
    cases spare : s.overflow <;> simp [templateFor, spare]
  apply typeClause_eq_ok_iff.mpr
  refine ⟨suitable, s, legible.in_force, ?_⟩
  rw [usual, legible.fill_eq_self List.mem_cons_self no_slot]

theorem typeClause_of_writesLike (legible : d.Legible s) (h : WritesLike s r) (takes : r.type.paramUse.Takes p) :
    d.typeClause s.type p = .ok (Template.fill (templateFor r p) (paramSlot p)) := by
  obtain ⟨template, overflow, use⟩ := h
  have same : templateFor s p = templateFor r p := by
    rw [templateFor, templateFor, template, overflow]
  have suitable : p.Suitable s.type := by
    apply TypeParams.suitable_of_takes
    rw [use]
    exact takes
  rw [← same]
  exact typeClause_eq_ok_iff.mpr ⟨suitable, s, legible.in_force, rfl⟩

/-- A clause with numbers is read. What is read has the same clause, unless there is a scale of zero in it. -/
theorem read_numbers (each : ∀ s ∈ d.typeRules, d.Legible s) (hr : r ∈ d.typeRules)
    (slot : hasSlot r.template = true) (takes : r.type.paramUse.Takes p) (usual : templateFor r p = r.template)
    (some_number : p.numbers ≠ []) (bounded : ∀ n ∈ p.numbers, n < 4294967296) :
    ∃ t q, d.ofNative? (Template.fill r.template (paramSlot p)) none none none = some (t, q) ∧
      (p.scale ≠ some 0 → d.typeClause t q = .ok (Template.fill r.template (paramSlot p))) := by
  have legible := each r hr
  obtain ⟨L, layout⟩ := legible.exists_layout List.mem_cons_self slot
  obtain ⟨use, laid⟩ := Layout.of?_eq_some layout
  have written := L.fill_eq laid (use ▸ takes)
  generalize clause : Template.fill r.template (paramSlot p) = text at written
  have words : typeWords text = typeWords r.template := L.typeWords_write laid written
  have arguments : typeArguments text = p.numbers := L.typeArguments_write some_number bounded written
  have suits : (ofNumbers (typeArguments text)).paramsFor? r.type = some p.withoutZeroScale := by
    rw [arguments, NativeParams.paramsFor?_ofNumbers takes]
  obtain ⟨s, hs, q, read, suits, how⟩ :=
    exists_rule_of_numbers (mem_rulesFor.mpr ⟨hr, words.symm⟩) slot (arguments ▸ some_number) suits
  have legible_s := each s (mem_rulesFor.mp hs).1
  rw [rulesFor_congr words] at hs
  rw [arguments] at suits how
  refine ⟨s.type, q, read, ?_⟩
  intro no_zero
  by_cases same_numbers : (ofNumbers p.numbers).matchesNumbers (typeArguments s.template) = true
  · have literal : typeArguments s.template ≠ [] := by
      intro none_there
      rw [none_there] at same_numbers
      cases same_numbers
    have one_of := legible.with_numbers slot s hs literal
    have ⟨nothing, _, short, whole⟩ := one_of
    have no_zero : p.numbers[1]? ≠ some 0 := by rwa [TypeParams.getElem?_numbers_one takes]
    have numbers := NativeParams.eq_of_matchesNumbers p.length_numbers_le short no_zero same_numbers
    have one_text : text = s.template := by
      rw [← String.toList_inj, written, ← numbers, whole L layout]
    rw [NativeParams.paramsFor?_of_nothing _ nothing] at suits
    cases suits
    rw [one_text]
    exact legible_s.typeClause_of_writesOneOf one_of
  · have named_or_placed := how.resolve_left same_numbers
    rw [words] at named_or_placed
    have like := legible.alike slot s hs named_or_placed
    rw [NativeParams.paramsFor?_ofNumbers (like.2.2 ▸ takes), TypeParams.withoutZeroScale_eq_self no_zero] at suits
    cases suits
    have again := legible_s.typeClause_of_writesLike like takes
    rwa [usual, clause] at again

end Legible

/-! ### Reading clauses -/

/-- The length beyond which the clauses of a type have a spelling that takes parameters but has words of its own. -/
def unreadBeyond? (d : Dialect) (t : ColumnType) : Option Nat :=
  (d.typeRule? t).bind fun r => (r.overflow.filter fun o => hasSlot o.template).map (·.maxLength)

/-- Whether a type with these parameters has such a clause. -/
def IsUnread (d : Dialect) (t : ColumnType) (p : TypeParams) : Prop :=
  ∃ limit l, d.unreadBeyond? t = some limit ∧ p.length = some l ∧ limit < l

section Clauses

variable (each : ∀ s ∈ d.typeRules, d.Legible s)

include each

theorem ofNative?_eq_none_of_isUnread (clause : d.typeClause t p = .ok text) (unread : d.IsUnread t p) :
    d.ofNative? text none none none = none := by
  obtain ⟨limit, l, known, length, beyond⟩ := unread
  obtain ⟨suitable, r, found, rfl⟩ := typeClause_eq_ok_iff.mp clause
  have takes := TypeParams.takes_of_suitable suitable
  rw [← type_of_typeRule? found] at takes
  have legible := each r (List.mem_of_find?_eq_some found)
  obtain ⟨o, spare, rfl⟩ : ∃ o, r.overflow.filter (fun o => hasSlot o.template) = some o ∧ o.maxLength = limit := by
    simpa [unreadBeyond?, found] using known
  obtain ⟨spare, slot⟩ := Option.filter_eq_some_iff.mp spare
  have used : templateFor r p = o.template := by
    simp only [templateFor, spare, length, if_pos beyond]
  obtain ⟨L, layout⟩ := legible.exists_layout (by simp [templatesOf, spare]) slot
  obtain ⟨use, laid⟩ := Layout.of?_eq_some layout
  have written := L.fill_eq laid (use ▸ takes)
  rw [used]
  exact ofNative?_eq_none (legible.unspelled o spare slot) (L.typeWords_write laid written)

theorem exists_ofNative? (clause : d.typeClause t p = .ok text) (bounded : ∀ n ∈ p.numbers, n < 4294967296)
    (readable : ¬d.IsUnread t p) :
    ∃ t' q, d.ofNative? text none none none = some (t', q) ∧
      (p.scale ≠ some 0 → d.typeClause t' q = .ok text) := by
  obtain ⟨suitable, r, found, rfl⟩ := typeClause_eq_ok_iff.mp clause
  have takes := TypeParams.takes_of_suitable suitable
  rw [← type_of_typeRule? found] at takes
  have hr := List.mem_of_find?_eq_some found
  have legible := each r hr
  cases slot : hasSlot (templateFor r p) with
  | false =>
    have used := templateFor_mem r p
    obtain ⟨t', q, read, again⟩ := exists_of_rewrite? (legible.closed _ used slot)
    rw [legible.fill_eq_self used slot]
    refine ⟨t', q, read, ?_⟩
    intro _
    exact again
  | true =>
    rcases templateFor_cases r p with usual | ⟨o, l, spare, length, beyond, used⟩
    · rw [usual] at slot ⊢
      by_cases some_number : p.numbers = []
      · obtain ⟨rfl, use⟩ := TypeParams.eq_default_of_numbers takes some_number
        obtain ⟨t', q, read, again⟩ := exists_of_rewrite? (legible.without_numbers slot use)
        refine ⟨t', q, read, ?_⟩
        intro _
        exact again
      · exact Legible.read_numbers each hr slot takes usual some_number bounded
    · exfalso
      apply readable
      rw [used] at slot
      have limit : d.unreadBeyond? t = some o.maxLength := by
        simp [unreadBeyond?, found, spare, slot]
      exact ⟨o.maxLength, l, limit, length, beyond⟩

end Clauses

/-! ### The known dialects -/

set_option synthInstance.maxSize 1000 in
theorem legible (known : d ∈ all) : ∀ r ∈ d.typeRules, d.Legible r := by
  have each : ∀ d ∈ all, ∀ r ∈ d.typeRules, d.Legible r := by
    simp -zeta only [legible_iff, hasSlot, rulesFor, typeWords, typeArguments, Layout.of?, rewrite?, ofNative?,
      preferences, typeClause, Template.fill, Text.toList_eq_chars]
    decide +kernel
  exact each d known

theorem unreadBeyond?_eq (known : d ∈ all) (t : ColumnType) :
    d.unreadBeyond? t = if d = .informix ∧ t = .varchar then some 255 else none := by
  have each : ∀ d ∈ all, ∀ t ∈ ColumnType.all,
      d.unreadBeyond? t = if d = .informix ∧ t = .varchar then some 255 else none := by decide +kernel
  exact each d known t (ColumnType.mem_all t)

theorem isUnread_iff (known : d ∈ all) :
    d.IsUnread t p ↔ d = .informix ∧ t = .varchar ∧ ∃ l, p.length = some l ∧ 255 < l := by
  unfold IsUnread
  rw [unreadBeyond?_eq known]
  by_cases long_text : d = .informix ∧ t = .varchar
  · simp [long_text]
  · simp only [if_neg long_text, reduceCtorEq, false_and, exists_false, false_iff]
    rintro ⟨informix, varchar, -⟩
    exact long_text ⟨informix, varchar⟩

private theorem numbers_bounded (bounded : ∀ q n, p.get q = some n → n < 4294967296) :
    ∀ n ∈ p.numbers, n < 4294967296 := by
  intro n hn
  obtain ⟨q, given⟩ := TypeParams.exists_param_of_mem_numbers hn
  exact bounded q n given

/-- What a known dialect reads from a type clause is a type with suitable parameters that has the same clause, unless a
scale of zero is written. It need not be the type that was written. All dialects but Informix read every clause. -/
theorem read_clause_written_alike (known : d ∈ all) (suitable : p.Suitable t)
    (bounded : ∀ q n, p.get q = some n → n < 4294967296) (no_zero : p.scale ≠ some 0) :
    ∃ text, d.typeClause t p = .ok text ∧
      (∀ t' p', d.ofNative? text none none none = some (t', p') →
        p'.Suitable t' ∧ d.typeClause t' p' = .ok text) ∧
      (d ≠ .informix → (d.ofNative? text none none none).isSome = true) := by
  obtain ⟨text, clause⟩ := exists_typeClause known suitable
  have found := exists_ofNative? (legible known) clause (numbers_bounded bounded)
  refine ⟨text, clause, ?_, ?_⟩
  · intro t' p' read
    have readable : ¬d.IsUnread t p := by
      intro unread
      rw [ofNative?_eq_none_of_isUnread (legible known) clause unread] at read
      cases read
    obtain ⟨_, _, found, again⟩ := found readable
    rw [read] at found
    cases found
    have again := again no_zero
    exact ⟨(typeClause_eq_ok_iff.mp again).1, again⟩
  · intro other
    have readable : ¬d.IsUnread t p := by
      rw [isUnread_iff known]
      rintro ⟨informix, -⟩
      exact other informix
    obtain ⟨t', q, read, -⟩ := found readable
    rw [read]
    rfl

/-- A number of ten digits in Oracle is read as an integer, which has the same clause. -/
theorem oracle_number_written_alike :
    oracle12c.typeClause .decimal { precision := some 10 } = .ok "NUMBER(10)" ∧
      oracle12c.ofNative? "NUMBER(10)" none none none = some (.integer, {}) ∧
      oracle12c.typeClause .integer {} = .ok "NUMBER(10)" := by
  have suitable : TypeParams.Suitable { precision := some 10 } .decimal := TypeParams.check_eq_ok_iff.mp (by decide)
  have bounded : ∀ q n, TypeParams.get { precision := some 10 } q = some n → n < 4294967296 := by
    intro q n given
    cases q <;> cases given
    decide
  have clause : oracle12c.typeClause .decimal { precision := some 10 } = .ok "NUMBER(10)" := by decide +kernel
  have read : oracle12c.ofNative? "NUMBER(10)" none none none = some (.integer, {}) := by decide +kernel
  have known : oracle12c ∈ all := by simp [all]
  obtain ⟨text, written, alike, -⟩ := read_clause_written_alike known suitable bounded (by decide)
  rw [clause] at written
  cases written
  exact ⟨clause, read, (alike _ _ read).2⟩

/-- A known dialect reads every type clause that it writes but that of a long text of Informix. -/
theorem clause_read_iff (known : d ∈ all) (suitable : p.Suitable t)
    (bounded : ∀ q n, p.get q = some n → n < 4294967296) :
    ∃ text, d.typeClause t p = .ok text ∧
      ((d.ofNative? text none none none).isSome = true ↔
        ¬(d = .informix ∧ t = .varchar ∧ ∃ l, p.length = some l ∧ 255 < l)) := by
  obtain ⟨text, clause⟩ := exists_typeClause known suitable
  refine ⟨text, clause, ?_⟩
  rw [← isUnread_iff known]
  constructor
  · intro read unread
    rw [ofNative?_eq_none_of_isUnread (legible known) clause unread] at read
    cases read
  · intro readable
    obtain ⟨t', q, read, -⟩ := exists_ofNative? (legible known) clause (numbers_bounded bounded) readable
    rw [read]
    rfl

theorem informix_short_text_read : ∃ text, informix.typeClause .varchar { length := some 255 } = .ok text ∧
    (informix.ofNative? text none none none).isSome = true := by
  have suitable : TypeParams.Suitable { length := some 255 } .varchar := TypeParams.check_eq_ok_iff.mp (by decide)
  have bounded : ∀ q n, TypeParams.get { length := some 255 } q = some n → n < 4294967296 := by
    intro q n given
    cases q <;> cases given
    decide
  have known : informix ∈ all := by simp [all]
  obtain ⟨text, clause, read⟩ := clause_read_iff known suitable bounded
  exact ⟨text, clause, read.mpr (by simp)⟩

/-- The words of a text of 300 characters in Informix are no type that Informix knows. -/
theorem informix_long_text_unread : TypeParams.Suitable { length := some 300 } .varchar ∧
    informix.typeClause .varchar { length := some 300 } = .ok "LVARCHAR(300)" ∧
    informix.ofNative? "LVARCHAR(300)" none none none = none :=
  ⟨TypeParams.check_eq_ok_iff.mp (by decide), by decide +kernel, by decide +kernel⟩

end SqlSchema.Dialect
