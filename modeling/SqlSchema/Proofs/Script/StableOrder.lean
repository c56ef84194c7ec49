import Mathlib.Data.List.Lex
import Mathlib.Data.List.Sort
import SqlSchema.Proofs.Script.Arrangement
import SqlSchema.Script.Create

/-!
# The least order of dependent tables

A table depends on the first table of each name that its foreign keys refer to, itself excepted (`DependsOn`). Of all
orders in which every table stands behind those that it depends on (`RespectsReferences`), `dependencyOrder` finds the
one that keeps most of the order of declaration: the lexicographically least one (`arrange_least`). It gets stuck with
exactly the tables from which a cycle of dependencies is reached (`mem_stuck_iff`).
-/

namespace SqlSchema.Schema

/-! ### Numbers -/

section Numbers

variable {deps : Nat → List Nat} {placed left order other stuck : List Nat}

/-- Taking the first number that is ready, of numbers in increasing order, gives the least of all arrangements. -/
theorem arrange_least (h : arrange deps placed left = .ok order) (increasing : left.Pairwise (· < ·))
    (perm : other.Perm left) (arranged : Arranged deps placed other) :
    order = other ∨ List.Lex (· < ·) order other := by
  fun_induction arrange deps placed left generalizing order other with
  | case1 placed left none_ready empty =>
    cases h
    rw [List.isEmpty_iff.mp empty] at perm
    exact .inl perm.eq_nil.symm
  | case2 placed left none_ready nonempty => cases h
  | case3 placed left i found _ ih =>
    obtain ⟨later, rest, rfl⟩ := Outcome.map_eq_ok_iff.mp h
    obtain ⟨-, skipped, others, split, not_ready⟩ := List.find?_eq_some_iff_append.mp found
    cases arranged with
    | nil =>
      rw [split] at perm
      simp at perm
    | @cons _ rest_other k ready rest_arranged =>
      -- the other order starts with a number that is ready, so with none of those that were skipped
      have hk : k ∈ i :: others := by
        have mem : k ∈ skipped ++ i :: others := split ▸ perm.mem_iff.mp List.mem_cons_self
        refine (List.mem_append.mp mem).resolve_left fun early => ?_
        have blocked := not_ready k early
        simp only [Bool.not_eq_true', List.all_eq_false, List.contains_iff_mem] at blocked
        obtain ⟨j, dep, missing⟩ := blocked
        exact missing (ready j dep)
      rcases List.mem_cons.mp hk with rfl | later_number
      · have rest_perm : rest_other.Perm (left.erase k) :=
          (List.perm_cons k).mp (perm.trans (List.perm_cons_erase (ready_of_find? found).1))
        rcases ih rest (increasing.sublist List.erase_sublist) rest_perm rest_arranged with rfl | less
        · exact .inl rfl
        · exact .inr (.cons less)
      · rw [split] at increasing
        have lt := (List.pairwise_cons.mp (List.pairwise_append.mp increasing).2.1).1 k later_number
        exact .inr (.rel lt)

/-- When numbers are stuck, the others have been put behind what they depend on, and those that are stuck are left in
their order. -/
theorem exists_done_of_arrange (h : arrange deps placed left = .error stuck) :
    stuck.Sublist left ∧ ∃ done, (done ++ stuck).Perm left ∧ Arranged deps placed done := by
  fun_induction arrange deps placed left generalizing stuck with
  | case1 placed left none_ready empty => cases h
  | case2 placed left none_ready nonempty =>
    cases h
    exact ⟨List.Sublist.refl _, [], List.Perm.refl _, .nil⟩
  | case3 placed left k found _ ih =>
    obtain ⟨mem, ready⟩ := ready_of_find? found
    obtain ⟨sublist, done, perm, arranged⟩ := ih (Outcome.map_eq_error_iff.mp h)
    refine ⟨sublist.trans List.erase_sublist, k :: done, ?_, .cons ready arranged⟩
    exact (perm.cons k).trans (List.perm_cons_erase mem).symm

/-- The numbers that are stuck are those from which a cycle is reached. -/
theorem mem_stuck_iff {n : Nat} (bounded : ∀ i < n, ∀ j ∈ deps i, j < n)
    (h : arrange deps [] (List.range n) = .error stuck) {i : Nat} (hi : i < n) :
    i ∈ stuck ↔ ∃ j, Relation.ReflTransGen (fun i j => j ∈ deps i) i j ∧ WaitsFor deps j j := by
  constructor
  · intro mem
    obtain ⟨j, -, path, cycle⟩ := exists_cycle_of_blocked (blocked_of_arrange bounded h) mem
    exact ⟨j, path, cycle⟩
  · rintro ⟨j, path, cycle⟩
    obtain ⟨-, done, perm, arranged⟩ := exists_done_of_arrange h
    have mem : i ∈ done ++ stuck := perm.mem_iff.mpr (List.mem_range.mpr hi)
    refine (List.mem_append.mp mem).resolve_left fun early => ?_
    -- from a number that is done only earlier ones are reached, and none of them waits for itself
    have hj : j ∈ done := by
      rcases Relation.reflTransGen_iff_eq_or_transGen.mp path with rfl | chain
      · exact early
      · exact (arranged.idxOf_lt_of_waitsFor early chain).1
    exact (lt_irrefl _) (arranged.idxOf_lt_of_waitsFor hj cycle).2

end Numbers

/-! ### Tables -/

variable {tables : List Table} {order stuck : List Nat}

/-- The first table of that name stands at that position. -/
def FirstNamed (tables : List Table) (name : String) (j : Nat) : Prop :=
  (∃ u ∈ tables[j]?, Text.sameName u.name name = true) ∧
    ∀ k < j, ∀ v ∈ tables[k]?, Text.sameName v.name name = false

/-- The table at position `i` refers by a foreign key to another one, at position `j`. -/
def DependsOn (tables : List Table) (i j : Nat) : Prop :=
  j ≠ i ∧ ∃ t ∈ tables[i]?, ∃ f ∈ t.foreignKeys, FirstNamed tables f.refTable j

/-- The positions of all tables, each behind those that it depends on. -/
structure RespectsReferences (tables : List Table) (order : List Nat) : Prop where
  perm : order.Perm (List.range tables.length)
  behind : ∀ before i after, order = before ++ i :: after → ∀ j, DependsOn tables i j → j ∈ before

/-- From the table at that position a cycle of dependencies is reached. -/
def ReachesCycle (tables : List Table) (i : Nat) : Prop :=
  ∃ j, Relation.ReflTransGen (DependsOn tables) i j ∧ Relation.TransGen (DependsOn tables) j j

private theorem position?_eq_some_iff_firstNamed {name : String} {j : Nat} :
    position? tables name = some j ↔ FirstNamed tables name j := by
  unfold position? FirstNamed
  rw [List.findIdx?_eq_some_iff_getElem]
  constructor
  · rintro ⟨hj, same, first⟩
    refine ⟨⟨tables[j], List.getElem?_eq_getElem hj, same⟩, ?_⟩
    intro k hk v hv
    obtain ⟨hk', rfl⟩ := List.getElem?_eq_some_iff.mp hv
    simpa using first k hk
  · rintro ⟨⟨u, hu, same⟩, first⟩
    obtain ⟨hj, rfl⟩ := List.getElem?_eq_some_iff.mp hu
    refine ⟨hj, same, ?_⟩
    intro k hk
    have other := first k hk tables[k] (List.getElem?_eq_getElem (hk.trans hj))
    simp [other]

private theorem mem_dependencies_iff_dependsOn {i j : Nat} : j ∈ dependencies tables i ↔ DependsOn tables i j := by
  unfold DependsOn
  cases ht : tables[i]? with
  | none => simp [dependencies, ht]
  | some t =>
    rw [mem_dependencies ht]
    simp [position?_eq_some_iff_firstNamed]

private theorem dependsOn_eq : DependsOn tables = fun i j => j ∈ dependencies tables i := by
  funext i j
  rw [← mem_dependencies_iff_dependsOn]

private theorem reachesCycle_iff {i : Nat} : ReachesCycle tables i ↔
    ∃ j, Relation.ReflTransGen (fun i j => j ∈ dependencies tables i) i j ∧ WaitsFor (dependencies tables) j j := by
  unfold ReachesCycle WaitsFor
  rw [dependsOn_eq]

private theorem lt_of_reachesCycle {i : Nat} (h : ReachesCycle tables i) : i < tables.length := by
  obtain ⟨j, path, cycle⟩ := h
  obtain ⟨k, ⟨-, t, ht, -⟩, -⟩ := Relation.TransGen.head'_iff.mp (Relation.TransGen.trans_right path cycle)
  exact (List.getElem?_eq_some_iff.mp ht).1

/-- What the order of dependencies is found from never leaves the positions of the tables. -/
private theorem dependencies_bounded : ∀ i < tables.length, ∀ j ∈ dependencies tables i, j < tables.length :=
  fun _ _ _ dep => dependencies_lt dep

private theorem respectsReferences_iff : RespectsReferences tables order ↔
    order.Perm (List.range tables.length) ∧ Arranged (dependencies tables) [] order := by
  simp only [arranged_iff, mem_dependencies_iff_dependsOn, List.nil_append]
  exact ⟨fun respects => ⟨respects.perm, respects.behind⟩, fun ⟨perm, behind⟩ => ⟨perm, behind⟩⟩

private theorem respectsReferences_of_dependencyOrder (h : dependencyOrder tables = .ok order) :
    RespectsReferences tables order :=
  respectsReferences_iff.mpr ⟨perm_of_arrange h, arranged_of_arrange h⟩

private theorem least_of_dependencyOrder (h : dependencyOrder tables = .ok order) {other : List Nat}
    (respects : RespectsReferences tables other) : order = other ∨ List.Lex (· < ·) order other := by
  obtain ⟨perm, arranged⟩ := respectsReferences_iff.mp respects
  exact arrange_least h List.pairwise_lt_range perm arranged

private theorem exists_dependencyOrder_iff_acyclic :
    (∃ order, dependencyOrder tables = .ok order) ↔ ∀ i, ¬Relation.TransGen (DependsOn tables) i i := by
  unfold dependencyOrder
  rw [arrange_range_ok_iff dependencies_bounded, dependsOn_eq]
  constructor
  · intro acyclic i cycle
    have reaches : ReachesCycle tables i := by
      rw [reachesCycle_iff]
      exact ⟨i, .refl, cycle⟩
    exact acyclic i (lt_of_reachesCycle reaches) cycle
  · exact fun acyclic i _ => acyclic i

private theorem mem_stuck_iff_reachesCycle (h : dependencyOrder tables = .error stuck) {i : Nat} :
    i ∈ stuck ↔ ReachesCycle tables i := by
  constructor
  · intro mem
    have hi : i < tables.length := List.mem_range.mp ((exists_done_of_arrange h).1.subset mem)
    exact reachesCycle_iff.mpr ((mem_stuck_iff dependencies_bounded h hi).mp mem)
  · intro reaches
    exact (mem_stuck_iff dependencies_bounded h (lt_of_reachesCycle reaches)).mpr (reachesCycle_iff.mp reaches)

private theorem dependencyOrder_eq_ok_iff : dependencyOrder tables = .ok order ↔ RespectsReferences tables order ∧
    ∀ other, RespectsReferences tables other → order = other ∨ List.Lex (· < ·) order other := by
  constructor
  · intro h
    exact ⟨respectsReferences_of_dependencyOrder h, fun other => least_of_dependencyOrder h⟩
  · rintro ⟨respects, least⟩
    cases h : dependencyOrder tables with
    | ok found =>
      rcases least found (respectsReferences_of_dependencyOrder h) with rfl | less
      · rfl
      · rcases least_of_dependencyOrder h respects with rfl | greater
        · rfl
        · exact absurd greater (asymm less)
    | error stuck =>
      -- what respects the references leaves no cycle for the others to wait in
      obtain ⟨nonempty, inside, -⟩ := exists_blocker_of_arrange h
      obtain ⟨i, hi⟩ := List.exists_mem_of_ne_nil stuck nonempty
      obtain ⟨j, path, cycle⟩ := (mem_stuck_iff_reachesCycle h).mp hi
      obtain ⟨-, arranged⟩ := respectsReferences_iff.mp respects
      have hj : j ∈ order := respects.perm.mem_iff.mpr (List.mem_range.mpr (lt_of_reachesCycle ⟨j, .refl, cycle⟩))
      rw [dependsOn_eq] at cycle
      exact absurd (arranged.idxOf_lt_of_waitsFor hj cycle).2 (lt_irrefl _)

private theorem dependencyOrder_eq_error_iff : dependencyOrder tables = .error stuck ↔
    stuck ≠ [] ∧ stuck.Pairwise (· < ·) ∧ ∀ i, i ∈ stuck ↔ ReachesCycle tables i := by
  have facts : ∀ left, dependencyOrder tables = .error left →
      left ≠ [] ∧ left.Pairwise (· < ·) ∧ ∀ i, i ∈ left ↔ ReachesCycle tables i := fun left h =>
    ⟨(exists_blocker_of_arrange h).1, List.pairwise_lt_range.sublist (exists_done_of_arrange h).1,
      fun i => mem_stuck_iff_reachesCycle h⟩
  constructor
  · exact facts stuck
  · rintro ⟨nonempty, increasing, mem⟩
    cases h : dependencyOrder tables with
    | ok order =>
      obtain ⟨i, hi⟩ := List.exists_mem_of_ne_nil stuck nonempty
      obtain ⟨j, -, cycle⟩ := (mem i).mp hi
      exact absurd cycle (exists_dependencyOrder_iff_acyclic.mp ⟨order, h⟩ j)
    | error left =>
      obtain ⟨-, increasing', mem'⟩ := facts left h
      rw [increasing'.eq_of_mem_iff increasing fun i => (mem' i).trans (mem i).symm]

/-- The order of dependencies is the least of all orders that respect the references. It exists exactly if no table
depends on itself by way of others; otherwise stuck are, in the order of declaration, the tables from which a cycle is
reached, and where foreign keys stand in the definitions of tables the creation fails with their names. -/
theorem dependencyOrder_least_or_cyclic (tables : List Table) :
    (∀ order, dependencyOrder tables = .ok order ↔ RespectsReferences tables order ∧
      ∀ other, RespectsReferences tables other → order = other ∨ List.Lex (· < ·) order other) ∧
    ((∃ order, dependencyOrder tables = .ok order) ↔ ∀ i, ¬Relation.TransGen (DependsOn tables) i i) ∧
    (∀ stuck, dependencyOrder tables = .error stuck ↔
      stuck ≠ [] ∧ stuck.Pairwise (· < ·) ∧ ∀ i, i ∈ stuck ↔ ReachesCycle tables i) ∧
    ∀ d why, creationOrder d tables = .error why ↔ d.foreignKey = .inline ∧
      ∃ stuck, dependencyOrder tables = .error stuck ∧ why = .foreignKeyCycle ((pick tables stuck).map (·.name)) := by
  refine ⟨fun order => dependencyOrder_eq_ok_iff, exists_dependencyOrder_iff_acyclic,
    fun stuck => dependencyOrder_eq_error_iff, fun d why => ?_⟩
  unfold creationOrder
  split
  · rename_i inline
    cases dependencyOrder tables with
    | ok order => simp
    | error stuck => simp [inline, eq_comm]
  · rename_i apart
    simp [apart]

end SqlSchema.Schema
