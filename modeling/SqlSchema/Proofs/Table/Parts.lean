import SqlSchema.Proofs.Table.Edits

/-!
# A table from its parts

Adding the parts of a well-formed table one after the other to a table without columns gives the table back
(`WellFormed.build?_parts`), as none of these edits is refused. So the well-formed tables are just those that edits make
(`reachable_iff_wellFormed`).
-/

namespace SqlSchema.Table

variable {t u : Table}

/-- The edits that add all but the columns. -/
def laterParts (t : Table) : List TableEdit :=
  t.foreignKeys.map .foreignKey ++ (t.indexes.map .index ++ t.uniques.map .unique) ++ t.comment.toList.map .comment ++
    t.tail.toList.map .tail

/-- The edits that add the parts of a table. -/
def parts (t : Table) : List TableEdit := t.columns.map .column ++ t.laterParts

/-- A table is what its parts make of a table without columns. -/
theorem foldl_extend_parts (t : Table) : t.parts.foldl extend { name := t.name } = t := by
  have text (s : Option String) : s.toList.getLast? = s := by cases s <;> rfl
  rw [foldl_extend]
  simp [parts, laterParts, List.filterMap_map, Function.comp_def, TableEdit.column?, TableEdit.foreignKey?,
    TableEdit.index?, TableEdit.unique?, TableEdit.comment?, TableEdit.tail?, text]

theorem WellFormed.build?_parts (h : u.WellFormed) : build? u.name u.parts = .ok u :=
  build?_eq_ok_iff.mpr ⟨(foldl_extend_parts u).symm, h⟩

/-- The tables that edits make are the well-formed ones. -/
theorem reachable_iff_wellFormed : Reachable t ↔ t.WellFormed :=
  ⟨Reachable.wellFormed, fun h => reachable_of_build? t.name t.parts h.build?_parts⟩

theorem reachable_iff_build?_parts : Reachable t ↔ build? t.name t.parts = .ok t :=
  ⟨fun h => h.wellFormed.build?_parts, reachable_of_build? t.name t.parts⟩

instance : DecidablePred Reachable := fun _ => decidable_of_iff _ reachable_iff_build?_parts.symm

end SqlSchema.Table
