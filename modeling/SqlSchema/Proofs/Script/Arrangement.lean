import Mathlib.Data.Fintype.Card
import Mathlib.Data.Set.Finite.List
import Mathlib.Order.WellFounded
import SqlSchema.Proofs.Outcome
import SqlSchema.Script.Check

/-!
# The order of dependent tables

`arrange` puts numbers into an order in which each stands behind those that it depends on (`Arranged`): what it answers
is such a rearrangement of what it was given (`perm_of_arrange`, `arranged_of_arrange`), and it fails only with numbers
each of which waits for another of them (`exists_blocker_of_arrange`). So it succeeds exactly when no number depends on
itself by a chain of dependencies.
-/

namespace SqlSchema.Schema

variable {deps : Nat → List Nat} {placed left order stuck : List Nat}

/-- Each number stands behind those that it depends on, as far as they were not placed before the first one. -/
inductive Arranged (deps : Nat → List Nat) : List Nat → List Nat → Prop where
  | nil {placed : List Nat} : Arranged deps placed []
  | cons {placed order : List Nat} {i : Nat} (ready : ∀ j ∈ deps i, j ∈ placed)
      (later : Arranged deps (placed ++ [i]) order) : Arranged deps placed (i :: order)

theorem arranged_iff : Arranged deps placed order ↔
    ∀ before i after, order = before ++ i :: after → ∀ j ∈ deps i, j ∈ placed ++ before := by
  constructor
  · intro arranged
    induction arranged with
    | nil =>
      intro before i after split
      simp at split
    | cons ready later ih =>
      intro before i after split j dep
      -- for those behind it the first number is a placed one
      cases before with
      | nil =>
        obtain ⟨rfl, rfl⟩ := List.cons.inj split
        simpa using ready j dep
      | cons first before =>
        obtain ⟨rfl, later_split⟩ := List.cons.inj split
        simpa using ih before i after later_split j dep
  · intro behind
    induction order generalizing placed with
    | nil => exact .nil
    | cons k order ih =>
      refine .cons (fun j dep => ?_) (ih fun before i after split j dep => ?_)
      · simpa using behind [] k order rfl j dep
      · simpa using behind (k :: before) i after (by rw [split, List.cons_append]) j dep

/-- Where nothing was placed before, all that a number depends on stands in front of it. -/
theorem Arranged.mem_of_split (arranged : Arranged deps [] order) {before after : List Nat} {i : Nat}
    (split : order = before ++ i :: after) {j : Nat} (dep : j ∈ deps i) : j ∈ before :=
  arranged_iff.mp arranged before i after split j dep

theorem ready_of_find? {i : Nat} (h : (left.find? fun i => (deps i).all placed.contains) = some i) :
    i ∈ left ∧ ∀ j ∈ deps i, j ∈ placed := by
  refine ⟨List.mem_of_find?_eq_some h, ?_⟩
  have ready := List.find?_some h
  simpa using ready

/-- What is arranged is what was left to arrange. -/
theorem perm_of_arrange (h : arrange deps placed left = .ok order) : order.Perm left := by
  fun_induction arrange deps placed left generalizing order with
  | case1 placed left none_ready empty =>
    cases h
    rw [List.isEmpty_iff.mp empty]
  | case2 placed left none_ready nonempty => cases h
  | case3 placed left i found _ ih =>
    obtain ⟨later, rest, rfl⟩ := Outcome.map_eq_ok_iff.mp h
    exact ((ih rest).cons i).trans (List.perm_cons_erase (ready_of_find? found).1).symm

/-- What is arranged stands behind its dependencies. -/
theorem arranged_of_arrange (h : arrange deps placed left = .ok order) : Arranged deps placed order := by
  fun_induction arrange deps placed left generalizing order with
  | case1 placed left none_ready empty =>
    cases h
    exact .nil
  | case2 placed left none_ready nonempty => cases h
  | case3 placed left i found _ ih =>
    obtain ⟨later, rest, rfl⟩ := Outcome.map_eq_ok_iff.mp h
    exact .cons (ready_of_find? found).2 (ih rest)

/-- The arrangement fails with some of the numbers, each of which depends on something that is neither placed nor
outside of them. -/
theorem exists_blocker_of_arrange (h : arrange deps placed left = .error stuck) :
    stuck ≠ [] ∧ stuck ⊆ left ∧ ∀ i ∈ stuck, ∃ j ∈ deps i, j ∉ placed ∧ (j ∈ left → j ∈ stuck) := by
  fun_induction arrange deps placed left generalizing stuck with
  | case1 placed left none_ready empty => cases h
  | case2 placed left none_ready nonempty =>
    cases h
    refine ⟨by simpa using nonempty, List.Subset.refl _, ?_⟩
    intro i hi
    have blocked := List.find?_eq_none.mp none_ready i hi
    simp only [List.all_eq_true, not_forall] at blocked
    obtain ⟨j, hj, outside⟩ := blocked
    exact ⟨j, hj, by simpa using outside, id⟩
  | case3 placed left k found _ ih =>
    obtain ⟨nonempty, inside, blocked⟩ := ih (Outcome.map_eq_error_iff.mp h)
    refine ⟨nonempty, fun i hi => List.mem_of_mem_erase (inside hi), ?_⟩
    intro i hi
    obtain ⟨j, hj, outside, waits⟩ := blocked i hi
    simp only [List.mem_append, List.mem_singleton, not_or] at outside
    refine ⟨j, hj, outside.1, fun hl => waits ?_⟩
    exact (List.mem_erase_of_ne outside.2).mpr hl

/-- A number that waits for another, perhaps by way of further ones. -/
def WaitsFor (deps : Nat → List Nat) : Nat → Nat → Prop := Relation.TransGen fun i j => j ∈ deps i

/-- In a list whose entries stand behind their dependencies, what an entry waits for comes earlier. -/
theorem Arranged.idxOf_lt_of_waitsFor (arranged : Arranged deps [] order) {i j : Nat} (hi : i ∈ order)
    (chain : WaitsFor deps i j) : j ∈ order ∧ order.idxOf j < order.idxOf i := by
  have step : ∀ i ∈ order, ∀ j ∈ deps i, j ∈ order ∧ order.idxOf j < order.idxOf i := by
    intro i hi j dep
    obtain ⟨before, after, split, fresh⟩ := List.eq_append_cons_of_mem hi
    have earlier : j ∈ before := arranged.mem_of_split split dep
    rw [split, List.idxOf_append_of_mem earlier, List.idxOf_append_of_notMem fresh]
    have := List.idxOf_lt_length_of_mem earlier
    exact ⟨List.mem_append_left _ earlier, by omega⟩
  induction chain with
  | single dep => exact step i hi _ dep
  | tail _ dep ih =>
    obtain ⟨hk, later⟩ := ih
    obtain ⟨hj, earlier⟩ := step _ hk _ dep
    exact ⟨hj, earlier.trans later⟩

/-- Among finitely many numbers each of which depends on another of them, each reaches one that waits for itself. -/
theorem exists_cycle_of_blocked (blocked : ∀ i ∈ stuck, ∃ j ∈ deps i, j ∈ stuck) {i : Nat} (hi : i ∈ stuck) :
    ∃ j ∈ stuck, Relation.ReflTransGen (fun i j => j ∈ deps i) i j ∧ WaitsFor deps j j := by
  by_contra no_cycle
  simp only [not_exists, not_and] at no_cycle
  -- what `i` reaches within the list is finite, so without a cycle some number of it waits for no other
  let reached : Set Nat := {j | j ∈ stuck ∧ Relation.ReflTransGen (fun i j => j ∈ deps i) i j}
  let waits : reached → reached → Prop := fun j k => WaitsFor deps k j
  have : Finite reached := ((List.finite_toSet stuck).subset fun _ h => h.1).to_subtype
  have : IsTrans _ waits := ⟨fun _ _ _ hab hbc => hbc.trans hab⟩
  have : Std.Irrefl waits := ⟨fun j => no_cycle j j.2.1 j.2.2⟩
  have founded : WellFounded waits := Finite.wellFounded_of_trans_of_irrefl waits
  obtain ⟨k, -, least⟩ := founded.has_min Set.univ ⟨⟨i, hi, .refl⟩, trivial⟩
  obtain ⟨j, dep, hj⟩ := blocked k k.2.1
  exact least ⟨j, hj, k.2.2.tail dep⟩ trivial (.single dep)

/-- What is left of the numbers below a bound is blocked by itself. -/
theorem blocked_of_arrange {n : Nat} (bounded : ∀ i < n, ∀ j ∈ deps i, j < n)
    (h : arrange deps [] (List.range n) = .error stuck) : ∀ i ∈ stuck, ∃ j ∈ deps i, j ∈ stuck := by
  obtain ⟨-, inside, blocked⟩ := exists_blocker_of_arrange h
  intro i hi
  obtain ⟨j, dep, -, waiting⟩ := blocked i hi
  have hj : j < n := bounded i (List.mem_range.mp (inside hi)) j dep
  exact ⟨j, dep, waiting (List.mem_range.mpr hj)⟩

/-- Numbers can be arranged exactly when none of them waits for itself. -/
theorem arrange_range_ok_iff {n : Nat} (bounded : ∀ i < n, ∀ j ∈ deps i, j < n) :
    (∃ order, arrange deps [] (List.range n) = .ok order) ↔ ∀ i < n, ¬WaitsFor deps i i := by
  constructor
  · rintro ⟨order, h⟩ i hi cycle
    have mem : i ∈ order := (perm_of_arrange h).mem_iff.mpr (List.mem_range.mpr hi)
    exact (lt_irrefl _) ((arranged_of_arrange h).idxOf_lt_of_waitsFor mem cycle).2
  · intro acyclic
    cases h : arrange deps [] (List.range n) with
    | ok order => exact ⟨order, rfl⟩
    | error stuck =>
      obtain ⟨nonempty, inside, -⟩ := exists_blocker_of_arrange h
      obtain ⟨i, hi⟩ := List.exists_mem_of_ne_nil stuck nonempty
      obtain ⟨j, hj, -, cycle⟩ := exists_cycle_of_blocked (blocked_of_arrange bounded h) hi
      exact absurd cycle (acyclic j (List.mem_range.mp (inside hj)))

/-! ### Tables -/

variable {tables : List Table}

theorem table?_of_position? {name : String} {i : Nat} (h : position? tables name = some i) :
    ∃ r, tables[i]? = some r ∧ Text.sameName r.name name = true := by
  obtain ⟨hi, same, -⟩ := List.findIdx?_eq_some_iff_getElem.mp h
  exact ⟨tables[i], List.getElem?_eq_getElem hi, same⟩

theorem mem_dependencies {i j : Nat} {t : Table} (ht : tables[i]? = some t) :
    j ∈ dependencies tables i ↔ j ≠ i ∧ ∃ f ∈ t.foreignKeys, position? tables f.refTable = some j := by
  simp only [dependencies, ht, List.mem_filter, List.mem_filterMap, decide_eq_true_eq]
  exact and_comm

theorem dependencies_lt {i j : Nat} (h : j ∈ dependencies tables i) : j < tables.length := by
  cases ht : tables[i]? with
  | none => simp [dependencies, ht] at h
  | some t =>
    obtain ⟨-, f, -, found⟩ := (mem_dependencies ht).mp h
    obtain ⟨r, hr, -⟩ := table?_of_position? found
    exact (List.getElem?_eq_some_iff.mp hr).1

theorem pick_append (is js : List Nat) : pick tables (is ++ js) = pick tables is ++ pick tables js := by
  simp [pick]

/-- A rearrangement of all positions picks all tables. -/
theorem pick_perm (h : order.Perm (List.range tables.length)) : (pick tables order).Perm tables := by
  have picked := h.filterMap (tables[·]?)
  rw [← pick, ← pick, pick_range] at picked
  exact picked

theorem pick_dependencyOrder_perm (h : dependencyOrder tables = .ok order) : (pick tables order).Perm tables :=
  pick_perm (perm_of_arrange h)

/-- In the order of dependencies the tables to which a table refers stand before it. -/
theorem referenced_before {t : Table} (h : dependencyOrder tables = .ok order) (ht : t ∈ tables) :
    ∃ before after, pick tables order = before ++ t :: after ∧ ∀ f ∈ t.foreignKeys, ∀ r,
      table? tables f.refTable = some r → Text.sameName r.name t.name = false → r ∈ before := by
  obtain ⟨i, hi, rfl⟩ := List.mem_iff_getElem.mp ht
  have placed : i ∈ order := (perm_of_arrange h).mem_iff.mpr (List.mem_range.mpr hi)
  obtain ⟨before, after, split⟩ := List.append_of_mem placed
  refine ⟨pick tables before, pick tables after, ?_, ?_⟩
  · rw [split, pick_append]
    simp [pick, hi]
  · intro f hf r found other
    rw [table?, List.find?_eq_bind_findIdx?_getElem?, Option.bind_eq_some_iff] at found
    obtain ⟨j, position, hr⟩ := found
    -- a table that refers to itself does not depend on itself
    have apart : j ≠ i := by
      rintro rfl
      rw [List.getElem?_eq_getElem hi] at hr
      cases hr
      simp at other
    have dep : j ∈ dependencies tables i :=
      (mem_dependencies (List.getElem?_eq_getElem hi)).mpr ⟨apart, f, hf, position⟩
    have earlier : j ∈ before := (arranged_of_arrange h).mem_of_split split dep
    exact List.mem_filterMap.mpr ⟨j, earlier, hr⟩

end SqlSchema.Schema
