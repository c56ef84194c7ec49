import Mathlib.Data.List.Pairwise
import SqlSchema.Text.Ascii

/-!
# Entries with different names

Where no two entries of a list have the same name, case aside, a name tells which entry is meant (`eq_of_sameName`), and
the entry is found by it (`find?_sameName_eq_some_iff`).
-/

namespace SqlSchema.Text

variable {α β : Type} {name : α → String} {xs : List α}

theorem eq_of_sameName (apart : xs.Pairwise fun a b => sameName (name a) (name b) = false) {a b : α} (ha : a ∈ xs)
    (hb : b ∈ xs) (same : sameName (name a) (name b) = true) : a = b := by
  by_contra other
  have : Std.Symm fun a b : α => sameName (name a) (name b) = false := ⟨fun a b h => by rwa [sameName_comm]⟩
  rw [List.Pairwise.forall apart ha hb other] at same
  cases same

theorem find?_sameName_eq_some_iff (apart : xs.Pairwise fun a b => sameName (name a) (name b) = false) {n : String}
    {a : α} : (xs.find? fun x => sameName (name x) n) = some a ↔ a ∈ xs ∧ sameName (name a) n = true := by
  constructor
  · intro found
    have same := List.find?_some found
    exact ⟨List.mem_of_find?_eq_some found, same⟩
  · rintro ⟨ha, same⟩
    cases found : xs.find? fun x => sameName (name x) n with
    | none => exact absurd same (List.find?_eq_none.mp found a ha)
    | some b =>
      have same' := List.find?_some found
      rw [sameName_comm] at same
      rw [eq_of_sameName apart (List.mem_of_find?_eq_some found) ha (sameName_trans same' same)]

/-- Whether names differ is a matter of the names alone. -/
theorem apart_of_map_eq {other : β → String} {ys : List β} (names : xs.map name = ys.map other)
    (apart : ys.Pairwise fun a b => sameName (other a) (other b) = false) :
    xs.Pairwise fun a b => sameName (name a) (name b) = false := by
  have by_name : (ys.map other).Pairwise fun m n => sameName m n = false := List.pairwise_map.mpr apart
  rw [← names] at by_name
  exact List.pairwise_map.mp by_name

end SqlSchema.Text
