import SqlSchema.Proofs.Query.References
import SqlSchema.Proofs.Query.Windows

/-!
# The order in which rows are numbered

A query whose rows are numbered is put into another one, in which its columns go by one qualifier. So each reference
among the sort keys, as far as it goes, should be put under that qualifier (`requalifyReferences`). The keys that are
written are those, in legible keys, just if every reference has a single qualifier (`numbered_by_requalified_keys`).
-/

namespace SqlSchema.Query

/-- The lexemes with every reference under one qualifier, however many it has. -/
def requalifyReferences (qualifier : List Char) : List Lexeme → List Char
  | [] => []
  | q :: p :: c :: rest =>
    if q.isName = true ∧ Continues (p :: c :: rest) then
      if Continues rest then requalifyReferences qualifier (c :: rest)
      else qualifier ++ '.' :: (c.text ++ requalifyReferences qualifier rest)
    else q.text ++ requalifyReferences qualifier (p :: c :: rest)
  | l :: rest => l.text ++ requalifyReferences qualifier rest

/-- Whether no reference has a qualifier that is qualified itself. -/
def SingleQualifiers (ls : List Lexeme) : Prop :=
  ∀ a b c, [a, point, b, point, c] <:+: ls → ¬(a.isName = true ∧ b.isName = true ∧ c.isName = true)

/-! ### References with several qualifiers -/

section Several

variable {l q c : Lexeme} {ls rest : List Lexeme} {qualifier : List Char}

theorem requalifyReferences_cons (other : ¬(l.isName = true ∧ Continues ls)) :
    requalifyReferences qualifier (l :: ls) = l.text ++ requalifyReferences qualifier ls := by
  rcases ls with - | ⟨p, - | ⟨c, rest⟩⟩
  · rfl
  · rfl
  · rw [requalifyReferences, if_neg other]

theorem requalifyReferences_qualified (qualifies : q.isName = true) (column : c.isName = true)
    (goes_on : Continues rest) :
    requalifyReferences qualifier (q :: point :: c :: rest) = requalifyReferences qualifier (c :: rest) := by
  rw [requalifyReferences, if_pos ⟨qualifies, continues_cons_cons.mpr ⟨rfl, column⟩⟩, if_pos goes_on]

theorem requalifyReferences_pair (qualifies : q.isName = true) (column : c.isName = true) (ends : ¬Continues rest) :
    requalifyReferences qualifier (q :: point :: c :: rest) =
      qualifier ++ '.' :: (c.text ++ requalifyReferences qualifier rest) := by
  rw [requalifyReferences, if_pos ⟨qualifies, continues_cons_cons.mpr ⟨rfl, column⟩⟩, if_neg ends]

private theorem length_requalifyReferences_cons_le (qualifier : List Char) (column : c.isName = true)
    (goes_on : Continues rest) :
    (requalifyReferences qualifier (c :: rest)).length ≤
      qualifier.length + (requalifyReferences qualifier rest).length := by
  obtain ⟨d, later, rfl, name⟩ := goes_on
  have behind_point : requalifyReferences qualifier (point :: d :: later) =
      '.' :: requalifyReferences qualifier (d :: later) := requalifyReferences_cons (by simp [isName_point])
  rw [behind_point]
  by_cases goes_on : Continues later
  · rw [requalifyReferences_qualified column name goes_on, List.length_cons]
    omega
  · rw [requalifyReferences_pair column name goes_on, requalifyReferences_cons fun qualifies => goes_on qualifies.2]
    simp only [List.length_append, List.length_cons]
    omega

/-- To replace qualifiers pair by pair makes no text shorter. -/
theorem length_requalifyReferences_le (qualifier : List Char) (ls : List Lexeme) :
    (requalifyReferences qualifier ls).length ≤ (requalifyPairs qualifier ls).length := by
  fun_induction requalifyPairs qualifier ls with
  | case1 => rw [requalifyReferences]
  | case2 q p c rest reference ih =>
    obtain ⟨qualifies, rfl, column⟩ := reference.imp_right continues_cons_cons.mp
    by_cases goes_on : Continues rest
    · have shorter := length_requalifyReferences_cons_le qualifier column goes_on
      rw [requalifyReferences_qualified qualifies column goes_on]
      simp only [List.length_append, List.length_cons]
      omega
    · rw [requalifyReferences_pair qualifies column goes_on]
      simp only [List.length_append, List.length_cons]
      omega
  | case3 q p c rest other ih =>
    rw [requalifyReferences_cons other, List.length_append, List.length_append]
    exact Nat.add_le_add_left ih _
  | case4 l rest short ih =>
    rw [requalifyReferences_cons fun qualifies => not_continues_of_short short qualifies.2, List.length_append,
      List.length_append]
    exact Nat.add_le_add_left ih _

private theorem singleQualifiers_cons_iff :
    SingleQualifiers (q :: ls) ↔
      SingleQualifiers ls ∧
        ∀ c rest, ls = point :: c :: rest → q.isName = true → c.isName = true → ¬Continues rest := by
  constructor
  · intro single
    refine ⟨fun a b c among => single a b c (List.infix_cons among), ?_⟩
    rintro b _ rfl first second ⟨c, rest, rfl, third⟩
    exact single q b c (List.prefix_append _ rest).isInfix ⟨first, second, third⟩
  · rintro ⟨later, here⟩ a b c among ⟨first, second, third⟩
    rcases List.infix_cons_iff.mp among with start | within
    · obtain ⟨rest, split⟩ := start
      obtain ⟨rfl, rfl⟩ := List.cons_eq_cons.mp split
      exact here b _ rfl first second ⟨c, rest, rfl, third⟩
    · exact later a b c within ⟨first, second, third⟩

private theorem singleQualifiers_of_not_continues (other : ¬(l.isName = true ∧ Continues ls)) :
    SingleQualifiers (l :: ls) ↔ SingleQualifiers ls := by
  rw [singleQualifiers_cons_iff, and_iff_left]
  rintro c rest rfl name column
  exact absurd ⟨name, c, rest, rfl, column⟩ other

/-- The two ways to replace qualifiers agree just where every reference has one. -/
theorem requalifyPairs_eq_iff :
    requalifyPairs qualifier ls = requalifyReferences qualifier ls ↔ SingleQualifiers ls := by
  fun_induction requalifyPairs qualifier ls with
  | case1 => simp [requalifyReferences, SingleQualifiers]
  | case2 q p c rest reference ih =>
    obtain ⟨qualifies, rfl, column⟩ := reference.imp_right continues_cons_cons.mp
    by_cases goes_on : Continues rest
    · have shorter := length_requalifyReferences_cons_le qualifier column goes_on
      have longer := length_requalifyReferences_le qualifier rest
      rw [requalifyReferences_qualified qualifies column goes_on]
      constructor
      · intro same
        have lengths := congrArg List.length same
        simp only [List.length_append, List.length_cons] at lengths
        omega
      · intro single
        exact absurd goes_on ((singleQualifiers_cons_iff.mp single).2 c rest rfl qualifies column)
    · have ends : ¬(c.isName = true ∧ Continues rest) := fun goes => goes_on goes.2
      rw [requalifyReferences_pair qualifies column goes_on, singleQualifiers_cons_iff,
        singleQualifiers_of_not_continues (by simp [isName_point]), singleQualifiers_of_not_continues ends, ← ih,
        and_iff_left ?_]
      · simp
      · rintro _ _ same - -
        obtain ⟨-, rfl⟩ := List.cons_eq_cons.mp (List.cons_eq_cons.mp same).2
        exact goes_on
  | case3 q p c rest other ih =>
    rw [requalifyReferences_cons other, List.append_cancel_left_eq, ih, singleQualifiers_of_not_continues other]
  | case4 l rest short ih =>
    have other : ¬(l.isName = true ∧ Continues rest) := fun qualifies => not_continues_of_short short qualifies.2
    rw [requalifyReferences_cons other, List.append_cancel_left_eq, ih, singleQualifiers_of_not_continues other]

end Several

/-! ### Pages -/

/-- A query around another whose rows are numbered in the order of the keys. -/
def numberedPage (keys body : List Char) (w : Window) : String :=
  let order := "ORDER BY " ++ String.ofList keys
  "SELECT * FROM (SELECT " ++ innerName ++ ".*, ROW_NUMBER() OVER (" ++ order ++ ") AS " ++ rowColumn ++ " FROM (" ++
    String.ofList body ++ ") " ++ innerName ++ ") numbered_ WHERE " ++ rowColumn ++ " > " ++ toString w.offset ++
    " AND " ++ rowColumn ++ " <= " ++ toString w.stop ++ " ORDER BY " ++ rowColumn

theorem Outline.picking_rowNumber_of_sortKeys {o : Outline} {keys : List Char} (ordered : o.sortKeys = some keys)
    (emptyOrder : String) (w : Window) :
    o.picking (.rowNumber emptyOrder) (RowClause.ofWindow (.rowNumber emptyOrder) w) =
      numberedPage (requalify innerName.toList keys) o.body w := by
  have clause : RowClause.ofWindow (.rowNumber emptyOrder) w = .rowNumber w.offset w.stop := rfl
  have order : o.numberingOrder emptyOrder = "ORDER BY " ++ String.ofList (requalify innerName.toList keys) := by
    rw [numberingOrder, ordered]
  rw [clause, picking_rowNumber, order]
  rfl

/-- The rows are numbered by the sort keys of the query with the qualifiers replaced. If the keys are legible, these are
those of the references among the lexemes, replaced pair by pair, and nothing else changes. So each reference is put
under the new qualifier just if none has two. -/
theorem numbered_by_requalified_keys {d : Dialect} {emptyOrder : String} {page size : Int} {sql : String}
    {keys : List Char} (strategy : d.paging = .rowNumber emptyOrder) (there : Window.Exists page size)
    (ordered : (Outline.ofChars sql.toList).sortKeys = some keys) :
    ∃ w written, Window.ofPage page size = .ok w ∧
      paginate d page size sql = .ok (numberedPage written (Outline.ofChars sql.toList).body w) ∧
      (Legible (lexemes keys) →
        written = requalifyPairs innerName.toList (lexemes keys) ∧
        (written = requalifyReferences innerName.toList (lexemes keys) ↔ SingleQualifiers (lexemes keys))) := by
  have window := Window.ofPage_eq_ok_iff.mpr ⟨there, rfl⟩
  refine ⟨_, requalify innerName.toList keys, window, paginate_eq_ok_iff.mpr ⟨_, window, ?_⟩, fun legible => ?_⟩
  · rw [strategy, Outline.picking_rowNumber_of_sortKeys ordered]
  · have whole : textOf (lexemes keys) = keys := flatMap_text_lexemes keys
    have split : IsSplit (textOf (lexemes keys)) (lexemes keys) := isSplit_iff.mpr (by rw [whole])
    have written : requalify innerName.toList keys = requalifyPairs innerName.toList (lexemes keys) := by
      conv_lhs => rw [← whole]
      exact requalify_textOf split legible
    rw [written]
    exact ⟨rfl, requalifyPairs_eq_iff⟩

/-- A query sorted by references of either kind, with a point in a literal. -/
def sortedByParts : String := "select * from t u order by u.n desc, \"u\".[a b] || '$.a'"

theorem sortedByParts_numbered :
    Window.Exists 2 10 ∧
      (Outline.ofChars sortedByParts.toList).sortKeys = some "u.n desc, \"u\".[a b] || '$.a'".toList ∧
      paginate .sqlServer2005 2 10 sortedByParts =
        .ok (numberedPage "paged_.n desc, paged_.[a b] || '$.a'".toList "select * from t u".toList ⟨10, 10⟩) := by
  have there : Window.Exists 2 10 := by simp [Window.Exists, Window.maxRow]
  have outline : Outline.ofChars sortedByParts.toList = ⟨sortedByParts.toList, some 6, some ⟨17, 26⟩⟩ := by
    decide +kernel
  have parts : (⟨sortedByParts.toList, some 6, some ⟨17, 26⟩⟩ : Outline).sortKeys =
        some "u.n desc, \"u\".[a b] || '$.a'".toList ∧
      (⟨sortedByParts.toList, some 6, some ⟨17, 26⟩⟩ : Outline).body = "select * from t u".toList := by decide +kernel
  rw [← outline] at parts
  obtain ⟨ordered, body⟩ := parts
  have no_reference : ∀ l ∈ lexemes "u.n desc, \"u\".[a b] || '$.a'".toList,
      l.readsWhole = true ∧ (l.isName = true → (namePart? l.text).isSome = true) ∧
        ∀ s ∈ l.text.tails, startsReference s = false ∧ (s.head? = some '[' → ']' ∈ s) := by decide +kernel
  have legible : Legible (lexemes "u.n desc, \"u\".[a b] || '$.a'".toList) := {
    hidden := fun l among s suffix => ((no_reference l among).2.2 s ((List.mem_tails _ _).mpr suffix)).1
    brackets := fun l among s suffix => ((no_reference l among).2.2 s ((List.mem_tails _ _).mpr suffix)).2
    names := fun before q c rest split column =>
      ⟨(no_reference q (by rw [split]; simp)).1, (no_reference c (by rw [split]; simp)).2.1 column⟩ }
  refine ⟨there, ordered, ?_⟩
  obtain ⟨w, written, window, page, keys⟩ := numbered_by_requalified_keys (d := .sqlServer2005) rfl there ordered
  obtain rfl : w = ⟨10, 10⟩ := (Window.ofPage_eq_ok_iff.mp window).2
  rw [page, (keys legible).1, body]
  congr 2
  decide +kernel

/-- A query sorted by a column under two qualifiers, with a literal that looks like a reference. -/
def sortedByPath : String := "select * from dbo.t order by dbo.t.n, nullif(t.k, 'a.b')"

/-- Of the two qualifiers one is left, and the literal is changed. -/
theorem sortedByPath_changes_literal :
    (Outline.ofChars sortedByPath.toList).sortKeys = some "dbo.t.n, nullif(t.k, 'a.b')".toList ∧
      requalifyReferences innerName.toList (lexemes "dbo.t.n, nullif(t.k, 'a.b')".toList) =
        "paged_.n, nullif(paged_.k, 'a.b')".toList ∧
      paginate .sqlServer2005 1 5 sortedByPath =
        .ok (numberedPage "paged_.t.n, nullif(paged_.k, 'paged_.b')".toList "select * from dbo.t".toList ⟨5, 0⟩) ∧
      paginate .sqlServer2005 1 5 sortedByPath ≠
        .ok (numberedPage "paged_.n, nullif(paged_.k, 'a.b')".toList "select * from dbo.t".toList ⟨5, 0⟩) := by
  have outline : Outline.ofChars sortedByPath.toList = ⟨sortedByPath.toList, some 6, some ⟨19, 28⟩⟩ := by
    decide +kernel
  have parts : (⟨sortedByPath.toList, some 6, some ⟨19, 28⟩⟩ : Outline).sortKeys =
        some "dbo.t.n, nullif(t.k, 'a.b')".toList ∧
      (⟨sortedByPath.toList, some 6, some ⟨19, 28⟩⟩ : Outline).body = "select * from dbo.t".toList ∧
      requalify innerName.toList "dbo.t.n, nullif(t.k, 'a.b')".toList =
        "paged_.t.n, nullif(paged_.k, 'paged_.b')".toList := by decide +kernel
  rw [← outline] at parts
  obtain ⟨ordered, body, written⟩ := parts
  have there : Window.Exists 1 5 := by simp [Window.Exists, Window.maxRow]
  have window : Window.ofPage 1 5 = .ok ⟨5, 0⟩ := Window.ofPage_eq_ok_iff.mpr ⟨there, rfl⟩
  have page : paginate .sqlServer2005 1 5 sortedByPath =
      .ok (numberedPage "paged_.t.n, nullif(paged_.k, 'paged_.b')".toList "select * from dbo.t".toList ⟨5, 0⟩) := by
    rw [← written, ← body]
    exact paginate_eq_ok_iff.mpr ⟨_, window, (Outline.picking_rowNumber_of_sortKeys ordered _ _).symm⟩
  refine ⟨ordered, by decide +kernel, page, ?_⟩
  rw [page]
  decide +kernel

end SqlSchema.Query
