import SqlSchema.Table

/-!
# The order of tables that refer to each other

A table depends on the tables that its foreign keys refer to, itself excepted. `Schema.dependencyOrder` puts every
table behind those that it depends on and otherwise keeps the order of declaration; if it gets stuck, it tells which
tables are left. Tables are counted from zero.
-/

namespace SqlSchema.Schema

/-- The position of the first table of that name. -/
def position? (tables : List Table) (name : String) : Option Nat :=
  tables.findIdx? fun t => Text.sameName t.name name

/-- The positions of the other tables to which the table at position `i` refers. -/
def dependencies (tables : List Table) (i : Nat) : List Nat :=
  match tables[i]? with
  | none => []
  | some t => (t.foreignKeys.filterMap fun f => position? tables f.refTable).filter (· ≠ i)

/-- Takes from `left`, as long as there is one, the first number all of whose dependencies are placed. Fails with the
numbers that are left. -/
def arrange (deps : Nat → List Nat) (placed left : List Nat) : Except (List Nat) (List Nat) :=
  match h : left.find? fun i => (deps i).all placed.contains with
  | none => if left.isEmpty then .ok [] else .error left
  | some i =>
    have : (left.erase i).length < left.length := by
      have mem := List.mem_of_find?_eq_some h
      have := List.length_erase_of_mem mem
      have := List.length_pos_of_mem mem
      omega
    (arrange deps (placed ++ [i]) (left.erase i)).map (i :: ·)
termination_by left.length

/-- The positions of the tables in an order in which each stands behind its dependencies, or the positions that
cannot be placed. -/
def dependencyOrder (tables : List Table) : Except (List Nat) (List Nat) :=
  arrange (dependencies tables) [] (List.range tables.length)

/-- The tables at the given positions. -/
def pick (tables : List Table) (positions : List Nat) : List Table := positions.filterMap (tables[·]?)

theorem pick_range (tables : List Table) : pick tables (List.range tables.length) = tables := by
  unfold pick
  induction tables with
  | nil => rfl
  | cons t ts ih =>
    rw [List.length_cons, List.range_succ_eq_map, List.filterMap_cons]
    simpa [List.filterMap_map, Function.comp_def] using ih

end SqlSchema.Schema
