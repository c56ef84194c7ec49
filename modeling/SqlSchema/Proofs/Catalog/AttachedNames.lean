import Mathlib.Data.List.Perm.Subperm
import SqlSchema.Catalog.ClauseNames
import SqlSchema.Proofs.Interleaving

/-!
# The names that keys are given

`attachNames` looks for a clause for one key after the other and takes away what it finds. A clause and a key match if
they link the same columns to the same table, case aside (`declares_iff`), so that the keys with one link get the
clauses with that link in turn, until none is left (`clauseOf?`). The keys are then sorted by the offsets of their
clauses. Keys without a clause may as well be sorted as if they stood behind all offsets (`attachNames_eq_before`): the
sort is stable, so that they come last and in the order they had (`attached_names`).
-/

namespace SqlSchema

open CreateText

/-! ### Lists from which the first match is taken -/

section FirstMatch

variable {α : Type} {p q : α → Bool} {l : List α} {x : α}

theorem filter_eraseP_self : (l.eraseP p).filter p = (l.filter p).tail := by
  induction l with
  | nil => rfl
  | cons y l ih =>
    by_cases hit : p y
    · rw [List.eraseP_cons_of_pos hit, List.filter_cons_of_pos hit, List.tail_cons]
    · rw [List.eraseP_cons_of_neg hit, List.filter_cons_of_neg hit, List.filter_cons_of_neg hit, ih]

theorem filter_eraseP (apart : ∀ y, p y = true → ¬q y = true) : (l.eraseP p).filter q = l.filter q := by
  induction l with
  | nil => rfl
  | cons y l ih =>
    by_cases hit : p y
    · rw [List.eraseP_cons_of_pos hit, List.filter_cons_of_neg (apart y hit)]
    · rw [List.eraseP_cons_of_neg hit, List.filter_cons, List.filter_cons, ih]

theorem filter_eq_of_find? (found : l.find? p = some x) : l.filter p = x :: (l.eraseP p).filter p := by
  have first : (l.filter p).head? = some x := by rw [List.head?_filter, found]
  rw [filter_eraseP_self]
  exact (List.cons_head?_tail first).symm

theorem perm_of_find? (found : l.find? p = some x) : l.Perm (x :: l.eraseP p) := by
  obtain ⟨hit, front, back, rfl, misses⟩ := List.find?_eq_some_iff_append.mp found
  have left : (front ++ x :: back).eraseP p = front ++ back := by
    rw [List.eraseP_append_right _ fun y mem => by simpa using misses y mem, List.eraseP_cons_of_pos hit]
  rw [left]
  exact List.perm_middle

end FirstMatch

/-! ### Stable sorting -/

section Sorting

variable {α β : Type} {key : α → Nat} {xs ys : List α}

/-- The list `ys` is `xs` sorted by a number, where entries with the same number keep their order. -/
structure StablySorted (key : α → Nat) (xs ys : List α) : Prop where
  perm : ys.Perm xs
  sorted : ys.Pairwise fun a b => key a ≤ key b
  stable : ∀ n, ys.filter (key · = n) = xs.filter (key · = n)

/-- The list sorted by a number. -/
def sortBy (key : α → Nat) (xs : List α) : List α := xs.mergeSort fun a b => key a ≤ key b

theorem sortBy_perm (key : α → Nat) (xs : List α) : (sortBy key xs).Perm xs := List.mergeSort_perm xs _

private theorem key_trans (a b c : α) (h : decide (key a ≤ key b) = true) (k : decide (key b ≤ key c) = true) :
    decide (key a ≤ key c) = true := by
  rw [decide_eq_true_eq] at *
  omega

private theorem key_total (a b : α) : (decide (key a ≤ key b) || decide (key b ≤ key a)) = true := by
  rw [Bool.or_eq_true, decide_eq_true_eq, decide_eq_true_eq]
  omega

theorem sortBy_sorted (key : α → Nat) (xs : List α) : (sortBy key xs).Pairwise fun a b => key a ≤ key b := by
  have sorted : (sortBy key xs).Pairwise fun a b => decide (key a ≤ key b) = true :=
    List.pairwise_mergeSort key_trans key_total xs
  exact sorted.imp of_decide_eq_true

/-- What is picked from entries with one number only is picked in the order that they had. -/
theorem filterMap_sortBy {pick : α → Option β} {n : Nat} (one : ∀ a, (pick a).isSome = true → key a = n) :
    (sortBy key xs).filterMap pick = xs.filterMap pick := by
  have picked (l : List α) : (l.filter fun a => (pick a).isSome).filterMap pick = l.filterMap pick := by
    rw [List.filterMap_filter]
    congr 1
    funext a
    cases pick a <;> rfl
  have even : (xs.filter fun a => (pick a).isSome).Pairwise fun a b => decide (key a ≤ key b) = true := by
    rw [List.pairwise_iff_forall_sublist]
    intro a b both
    have ha := one a (List.mem_filter.mp (both.subset List.mem_cons_self)).2
    have hb := one b (List.mem_filter.mp (both.subset (List.mem_cons_of_mem a List.mem_cons_self))).2
    rw [decide_eq_true_eq]
    omega
  have kept := (List.sublist_mergeSort key_trans key_total even List.filter_sublist).filterMap pick
  rw [picked] at kept
  exact (kept.eq_of_length ((sortBy_perm key xs).filterMap pick).length_eq.symm).symm

end Sorting

/-! ### Links -/

/-- The table and the columns that a key links, case aside. -/
def ReportedForeignKey.link (f : ReportedForeignKey) : String × List String :=
  (Text.lower f.refTable, f.columns.map Text.lower)

/-- A key without its name. -/
def ReportedForeignKey.nameless (f : ReportedForeignKey) : ReportedForeignKey := { f with name := none }

/-- A key with another name. -/
def ReportedForeignKey.rename (f : ReportedForeignKey) (n : String) : ReportedForeignKey := { f with name := some n }

theorem sameNames_iff {a b : List String} : sameNames a b = true ↔ a.map Text.lower = b.map Text.lower := by
  induction a generalizing b with
  | nil => cases b <;> simp [sameNames]
  | cons x a ih =>
    cases b with
    | nil => simp [sameNames]
    | cons y b =>
      have step : sameNames (x :: a) (y :: b) = (Text.sameName x y && sameNames a b) := rfl
      rw [step, Bool.and_eq_true, Text.sameName_iff, ih, List.map_cons, List.map_cons, List.cons.injEq]

namespace CreateText.ForeignKeyClause

/-- The table and the columns that a clause links, case aside. -/
def link (c : ForeignKeyClause) : String × List String := (Text.lower c.refTable, c.columns.map Text.lower)

theorem declares_iff {c : ForeignKeyClause} {f : ReportedForeignKey} : c.declares f = true ↔ c.link = f.link := by
  rw [declares, Bool.and_eq_true, Text.sameName_iff, sameNames_iff, link, ReportedForeignKey.link, Prod.mk.injEq]

end CreateText.ForeignKeyClause

private theorem declares_eq (f : ReportedForeignKey) :
    (fun c : ForeignKeyClause => c.declares f) = fun c => decide (c.link = f.link) := by
  funext c
  exact Bool.eq_iff_iff.mpr (ForeignKeyClause.declares_iff.trans decide_eq_true_iff.symm)

/-! ### The clause for a key -/

/-- A key and the clause that is given to it, if there is one left. -/
structure Assignment where
  key : ReportedForeignKey
  clause? : Option ForeignKeyClause
deriving DecidableEq, Repr

namespace Assignment

/-- The key and its clause, if it has one. -/
def pair? (a : Assignment) : Option (ReportedForeignKey × ForeignKeyClause) := a.clause?.map (a.key, ·)

/-- The key, if it has no clause. -/
def alone? (a : Assignment) : Option ReportedForeignKey := if a.clause?.isNone then some a.key else none

/-- The key with the name of its clause. -/
def named (a : Assignment) : ReportedForeignKey :=
  match a.clause? with
  | some c => a.key.rename c.name
  | none => a.key

/-- The offset of the clause, or `last` for a key without one. -/
def place (last : Nat) (a : Assignment) : Nat := (a.clause?.map (·.offset)).getD last

end Assignment

variable {fs : List ReportedForeignKey} {clauses : List ForeignKeyClause} {last : Nat}

/-- The clause for a key behind the keys `before`: keys with one link take the clauses with that link in turn. -/
def clauseOf? (clauses : List ForeignKeyClause) (before : List ReportedForeignKey) (f : ReportedForeignKey) :
    Option ForeignKeyClause :=
  (clauses.filter (·.link = f.link))[before.countP (·.link = f.link)]?

/-- The keys with their clauses. -/
def assigned (clauses : List ForeignKeyClause) (fs : List ReportedForeignKey) : List Assignment :=
  fs.mapIdx fun i f => ⟨f, clauseOf? clauses (fs.take i) f⟩

/-- The keys that have clauses, with them. -/
def matched (clauses : List ForeignKeyClause) (fs : List ReportedForeignKey) :
    List (ReportedForeignKey × ForeignKeyClause) :=
  (assigned clauses fs).filterMap Assignment.pair?

/-- The keys that have no clauses. -/
def unmatched (clauses : List ForeignKeyClause) (fs : List ReportedForeignKey) : List ReportedForeignKey :=
  (assigned clauses fs).filterMap Assignment.alone?

/-- The first key takes the first clause with its link, and the others choose from what is left. -/
theorem assigned_cons (clauses : List ForeignKeyClause) (f : ReportedForeignKey) (fs : List ReportedForeignKey) :
    assigned clauses (f :: fs) =
      ⟨f, clauses.find? (·.link = f.link)⟩ :: assigned (clauses.eraseP (·.link = f.link)) fs := by
  have first : clauseOf? clauses [] f = clauses.find? (·.link = f.link) := by
    rw [clauseOf?, List.countP_nil, ← List.head?_eq_getElem?, List.head?_filter]
  have others (before : List ReportedForeignKey) (g : ReportedForeignKey) :
      clauseOf? clauses (f :: before) g = clauseOf? (clauses.eraseP (·.link = f.link)) before g := by
    unfold clauseOf?
    by_cases same : f.link = g.link
    · rw [List.countP_cons_of_pos (by simpa using same), same, filter_eraseP_self, List.getElem?_tail]
    · rw [List.countP_cons_of_neg (by simpa using same), filter_eraseP]
      intro c hit other
      rw [decide_eq_true_eq] at hit other
      exact same (hit.symm.trans other)
  simp only [assigned, List.mapIdx_cons, List.take_zero, List.take_succ_cons, first, others]

/-- The search from key to key gives each key its clause. -/
theorem placeKeys_eq (clauses : List ForeignKeyClause) (fs : List ReportedForeignKey) :
    placeKeys clauses fs = (assigned clauses fs).map fun a => ⟨a.clause?.map (·.offset), a.named⟩ := by
  induction fs generalizing clauses with
  | nil => rfl
  | cons f fs ih =>
    rw [assigned_cons, List.map_cons, ← ih, placeKeys, declares_eq]
    cases found : clauses.find? (·.link = f.link) with
    | some c => rfl
    | none =>
      rw [List.eraseP_of_forall_not (List.find?_eq_none.mp found)]
      rfl

theorem map_key_assigned (clauses : List ForeignKeyClause) (fs : List ReportedForeignKey) :
    (assigned clauses fs).map (·.key) = fs := by
  induction fs generalizing clauses with
  | nil => rfl
  | cons f fs ih => rw [assigned_cons, List.map_cons, ih]

theorem mem_of_mem_assigned {a : Assignment} {c : ForeignKeyClause} (mem : a ∈ assigned clauses fs)
    (given : a.clause? = some c) : c ∈ clauses := by
  obtain ⟨i, _, rfl⟩ := List.mem_mapIdx.mp mem
  exact List.mem_of_mem_filter (List.mem_of_getElem? given)

/-! ### Keys with and without clauses -/

/-- The list of pairs grows by that of the first key. -/
theorem matched_cons (clauses : List ForeignKeyClause) (f : ReportedForeignKey) (fs : List ReportedForeignKey) :
    matched clauses (f :: fs) =
      ((clauses.find? (·.link = f.link)).map (f, ·)).toList ++ matched (clauses.eraseP (·.link = f.link)) fs := by
  rw [matched, matched, assigned_cons, List.filterMap_cons, Assignment.pair?]
  cases clauses.find? (·.link = f.link) <;> rfl

/-- Of the keys with one link as many have clauses as there are clauses with that link, in the order of both. -/
theorem filter_matched (clauses : List ForeignKeyClause) (fs : List ReportedForeignKey) (r : String × List String) :
    (matched clauses fs).filter (·.1.link = r) = (fs.filter (·.link = r)).zip (clauses.filter (·.link = r)) := by
  induction fs generalizing clauses with
  | nil => rfl
  | cons f fs ih =>
    rw [matched_cons, List.filter_append, ih]
    by_cases same : f.link = r
    · subst same
      rw [List.filter_cons_of_pos (by simp)]
      cases found : clauses.find? (·.link = f.link) with
      | some c =>
        rw [filter_eq_of_find? found]
        simp
      | none =>
        have misses := List.find?_eq_none.mp found
        rw [List.eraseP_of_forall_not misses, List.filter_eq_nil_iff.mpr misses]
        simp
    · have rest : (clauses.eraseP (·.link = f.link)).filter (·.link = r) = clauses.filter (·.link = r) := by
        apply filter_eraseP
        intro c hit other
        rw [decide_eq_true_eq] at hit other
        exact same (hit.symm.trans other)
      rw [rest, List.filter_cons_of_neg (by simpa using same)]
      cases clauses.find? (·.link = f.link) <;> simp [same]

/-- No clause is given away twice. -/
theorem matched_subperm (clauses : List ForeignKeyClause) (fs : List ReportedForeignKey) :
    ((matched clauses fs).map (·.2)).Subperm clauses := by
  induction fs generalizing clauses with
  | nil => exact (List.nil_sublist clauses).subperm
  | cons f fs ih =>
    rw [matched_cons, List.map_append]
    cases found : clauses.find? (·.link = f.link) with
    | some c =>
      refine List.Subperm.trans ?_ (perm_of_find? found).symm.subperm
      exact (List.subperm_cons c).mpr (ih _)
    | none => exact (ih _).trans List.eraseP_sublist.subperm

/-- Each key is among those with a clause or among those without one. -/
theorem interleaves_matched (clauses : List ForeignKeyClause) (fs : List ReportedForeignKey) :
    Interleaves [(matched clauses fs).map (·.1), unmatched clauses fs] fs := by
  have each (as : List Assignment) :
      Interleaves [(as.filterMap Assignment.pair?).map (·.1), as.filterMap Assignment.alone?] (as.map (·.key)) := by
    induction as with
    | nil => exact .nil (by simp)
    | cons a as ih =>
      obtain ⟨f, _ | c⟩ := a
      · exact @Interleaves.cons _ [(as.filterMap Assignment.pair?).map Prod.fst] [] _ _ f ih
      · exact @Interleaves.cons _ [] [as.filterMap Assignment.alone?] _ _ f ih
  have whole := each (assigned clauses fs)
  rwa [map_key_assigned] at whole

/-! ### The order of the keys -/

/-- The names attached where keys without a clause are sorted as if theirs stood at `last`. -/
def attachNamesBefore (last : Nat) (fs : List ReportedForeignKey) (clauses : List ForeignKeyClause) :
    List ReportedForeignKey :=
  (sortBy (fun p : PlacedKey => p.offset.getD last) (placeKeys clauses fs)).map (·.key)

/-- Behind all offsets, a key without a clause comes where it comes by itself. -/
theorem attachNames_eq_before (fs : List ReportedForeignKey) (below : ∀ c ∈ clauses, c.offset < last) :
    attachNames fs clauses = attachNamesBefore last fs clauses := by
  have placed : ∀ p ∈ placeKeys clauses fs, ∀ m ∈ p.offset, m < last := by
    intro p mem m here
    rw [placeKeys_eq] at mem
    obtain ⟨a, assigned, rfl⟩ := List.mem_map.mp mem
    obtain ⟨c, given, rfl⟩ := Option.map_eq_some_iff.mp here
    exact below c (mem_of_mem_assigned assigned given)
  have sorted := List.map_mergeSort (r := PlacedKey.notAfter)
    (s := fun a b => decide (a.offset.getD last ≤ b.offset.getD last)) (f := id) (l := placeKeys clauses fs) <| by
      intro a ha b hb
      have lowA := placed a ha
      have lowB := placed b hb
      rw [PlacedKey.notAfter]
      cases atA : a.offset with
      | none =>
        cases atB : b.offset with
        | none => simp [atA, atB]
        | some n => simpa [atA, atB] using lowB n atB
      | some m =>
        cases atB : b.offset with
        | none => simpa [atA, atB] using Nat.le_of_lt (lowA m atA)
        | some n => simp [atA, atB]
  rw [List.map_id, List.map_id] at sorted
  rw [attachNames, attachNamesBefore, sorted, sortBy]

theorem attachNamesBefore_eq (last : Nat) (fs : List ReportedForeignKey) (clauses : List ForeignKeyClause) :
    attachNamesBefore last fs clauses =
      (sortBy (Assignment.place last) (assigned clauses fs)).map Assignment.named := by
  have sorted := List.map_mergeSort (r := fun a b => decide (a.place last ≤ b.place last))
    (s := fun a b : PlacedKey => decide (a.offset.getD last ≤ b.offset.getD last))
    (f := fun a : Assignment => (⟨a.clause?.map (·.offset), a.named⟩ : PlacedKey)) (l := assigned clauses fs)
    fun a _ b _ => rfl
  rw [attachNamesBefore, placeKeys_eq, sortBy, ← sorted, List.map_map]
  rfl

/-- Where keys stand by their places, those without clauses stand behind the others. -/
theorem map_named_of_sorted {as : List Assignment} (sorted : as.Pairwise fun a b => a.place last ≤ b.place last)
    (below : ∀ a ∈ as, ∀ c ∈ a.clause?, c.offset < last) :
    as.map Assignment.named =
      (as.filterMap Assignment.pair?).map (fun p => p.1.rename p.2.name) ++
        as.filterMap Assignment.alone? := by
  induction as with
  | nil => rfl
  | cons a as ih =>
    obtain ⟨first, sorted⟩ := List.pairwise_cons.mp sorted
    have others := ih sorted fun b mem => below b (List.mem_cons_of_mem a mem)
    obtain ⟨f, _ | c⟩ := a
    · -- Nothing behind this key has a clause, as its offset would be smaller.
      have none_left : as.filterMap Assignment.pair? = [] := by
        rw [List.filterMap_eq_nil_iff]
        intro b mem
        rw [Assignment.pair?, Option.map_eq_none_iff, Option.eq_none_iff_forall_ne_some]
        intro c given
        have far := first b mem
        have near := below b (List.mem_cons_of_mem _ mem) c given
        simp only [Assignment.place, given, Option.map_none, Option.getD_none, Option.map_some,
          Option.getD_some] at far
        omega
      rw [none_left, List.map_nil, List.nil_append] at others
      show f :: as.map Assignment.named = (as.filterMap Assignment.pair?).map _ ++ f :: as.filterMap Assignment.alone?
      rw [none_left, List.map_nil, List.nil_append, others]
    · show f.rename c.name :: as.map Assignment.named = _
      rw [others]
      rfl

theorem stablySorted_pairs (last : Nat) (as : List Assignment) :
    StablySorted (·.2.offset) (as.filterMap Assignment.pair?)
      ((sortBy (Assignment.place last) as).filterMap Assignment.pair?) := by
  refine ⟨(sortBy_perm _ as).filterMap _, ?_, ?_⟩
  · refine (sortBy_sorted (Assignment.place last) as).filterMap _ ?_
    intro a b before p hp q hq
    obtain ⟨c, given, rfl⟩ := Option.map_eq_some_iff.mp hp
    obtain ⟨d, given', rfl⟩ := Option.map_eq_some_iff.mp hq
    simpa [Assignment.place, given, given'] using before
  · intro n
    rw [List.filter_filterMap, List.filter_filterMap]
    apply filterMap_sortBy (n := n)
    intro a picked
    obtain ⟨f, _ | c⟩ := a
    · simp [Assignment.pair?] at picked
    · simpa [Assignment.pair?, Assignment.place, Option.filter] using picked

theorem filterMap_alone?_sortBy (last : Nat) (as : List Assignment) :
    (sortBy (Assignment.place last) as).filterMap Assignment.alone? = as.filterMap Assignment.alone? := by
  apply filterMap_sortBy (n := last)
  intro a picked
  obtain ⟨f, _ | c⟩ := a
  · rfl
  · simp [Assignment.alone?] at picked

/-- The names are read off the pairs of keys and clauses, sorted by offsets. -/
theorem exists_sorted_matched (fs : List ReportedForeignKey) (below : ∀ c ∈ clauses, c.offset < last) :
    ∃ order, StablySorted (·.2.offset) (matched clauses fs) order ∧
      attachNames fs clauses = order.map (fun p => p.1.rename p.2.name) ++ unmatched clauses fs := by
  refine ⟨_, stablySorted_pairs last (assigned clauses fs), ?_⟩
  have low : ∀ a ∈ sortBy (Assignment.place last) (assigned clauses fs), ∀ c ∈ a.clause?, c.offset < last :=
    fun a mem c given => below c (mem_of_mem_assigned ((sortBy_perm _ _).mem_iff.mp mem) given)
  rw [attachNames_eq_before fs below, attachNamesBefore_eq, map_named_of_sorted (sortBy_sorted _ _) low,
    filterMap_alone?_sortBy]
  rfl

/-! ### The names -/

/-- Names are attached without loss and no clause is used twice: of the keys with one link the first get the clauses
with that link, in the order of both, as long as there are any; keys with clauses come first, sorted stably by their
offsets, and the others follow as they were. -/
theorem attached_names (fs : List ReportedForeignKey) (clauses : List ForeignKeyClause) (last : Nat)
    (below : ∀ c ∈ clauses, c.offset < last) :
    attachNames fs clauses = attachNamesBefore last fs clauses ∧
    ((attachNames fs clauses).map (·.nameless)).Perm (fs.map (·.nameless)) ∧
    (∃ order, StablySorted (·.2.offset) (matched clauses fs) order ∧
      attachNames fs clauses =
        order.map (fun p => p.1.rename p.2.name) ++ unmatched clauses fs) ∧
    Interleaves [(matched clauses fs).map (·.1), unmatched clauses fs] fs ∧
    (∀ r, (matched clauses fs).filter (·.1.link = r) = (fs.filter (·.link = r)).zip (clauses.filter (·.link = r)) ∧
      (matched clauses fs).countP (·.1.link = r) = min (fs.countP (·.link = r)) (clauses.countP (·.link = r))) ∧
    ((matched clauses fs).map (·.2)).Subperm clauses := by
  refine ⟨attachNames_eq_before fs below, ?_, exists_sorted_matched fs below, interleaves_matched clauses fs, ?_,
    matched_subperm clauses fs⟩
  · have unnamed (a : Assignment) : a.named.nameless = a.key.nameless := by
      obtain ⟨f, _ | c⟩ := a <;> rfl
    have keys : (assigned clauses fs).map (·.named.nameless) = fs.map (·.nameless) := by
      simp only [unnamed]
      nth_rewrite 2 [← map_key_assigned clauses fs]
      rw [List.map_map]
      rfl
    rw [attachNames_eq_before fs below, attachNamesBefore_eq, List.map_map, ← keys]
    exact (sortBy_perm _ _).map _
  · intro r
    have pairs := filter_matched clauses fs r
    refine ⟨pairs, ?_⟩
    rw [List.countP_eq_length_filter, pairs, List.length_zip, List.countP_eq_length_filter,
      List.countP_eq_length_filter]

/-- Three keys of a table, two of which differ in nothing but case. -/
def linkKeys : List ReportedForeignKey :=
  [{ columns := ["ref_id"], refTable := "b", refColumns := ["id"] },
    { columns := ["ref_id"], refTable := "a", refColumns := ["id"] },
    { columns := ["REF_ID"], refTable := "A", refColumns := ["id"] }]

/-- The clauses with names in the statement of that table, which declares the third key without one. -/
def linkClauses : List ForeignKeyClause :=
  [{ offset := 47, name := "fk_link_a", columns := ["ref_id"], refTable := "A" },
    { offset := 106, name := "fk_link_b", columns := ["Ref_Id"], refTable := "b" }]

theorem link_names_attached :
    (∀ c ∈ linkClauses, c.offset < UInt64.size - 1) ∧
      (attachNames linkKeys linkClauses).map (fun f => (f.name, f.refTable)) =
        [(some "fk_link_a", "a"), (some "fk_link_b", "b"), (none, "A")] ∧
      attachNames linkKeys linkClauses = attachNamesBefore (UInt64.size - 1) linkKeys linkClauses ∧
      (matched linkClauses linkKeys).countP (·.1.link = ("a", ["ref_id"])) = 1 ∧
      ((matched linkClauses linkKeys).map (·.2)).Subperm linkClauses := by
  have below : ∀ c ∈ linkClauses, c.offset < UInt64.size - 1 := by decide
  obtain ⟨before, -, -, -, classes, once⟩ := attached_names linkKeys linkClauses (UInt64.size - 1) below
  have placed : placeKeys linkClauses linkKeys =
      [⟨some 106, { name := some "fk_link_b", columns := ["ref_id"], refTable := "b", refColumns := ["id"] }⟩,
        ⟨some 47, { name := some "fk_link_a", columns := ["ref_id"], refTable := "a", refColumns := ["id"] }⟩,
        ⟨none, { columns := ["REF_ID"], refTable := "A", refColumns := ["id"] }⟩] := by
    decide +kernel
  refine ⟨below, ?_, before, (classes ("a", ["ref_id"])).2.trans (by decide +kernel), once⟩
  simp [attachNames, placed, List.mergeSort, List.merge, PlacedKey.notAfter]

end SqlSchema
