import Mathlib.Data.List.Basic

/-!
# Interleaved lists

`Interleaves parts whole` says that `whole` is put together from the lists `parts`, with the entries of each list in
their order. Such a list is a rearrangement of the lists one behind the other (`Interleaves.perm`) in which each of
them is found again (`Interleaves.sublist`). Where each list is cut into the same number of stretches, the interleaved
first stretches and behind them the interleaved second ones are an interleaving of the whole lists
(`Interleaves.append_map`).
-/

namespace SqlSchema

variable {α β : Type} {parts others : List (List α)} {whole front back : List α}

/-- A list that takes its entries from lists, in the order of each, until nothing is left of any. -/
inductive Interleaves : List (List α) → List α → Prop where
  | nil {parts : List (List α)} (empty : ∀ part ∈ parts, part = []) : Interleaves parts []
  | cons {before after : List (List α)} {part whole : List α} {x : α}
      (rest : Interleaves (before ++ part :: after) whole) : Interleaves (before ++ (x :: part) :: after) (x :: whole)

namespace Interleaves

theorem perm (h : Interleaves parts whole) : whole.Perm parts.flatten := by
  induction h with
  | nil empty => rw [List.flatten_eq_nil_iff.mpr empty]
  | @cons before after part whole x _ ih =>
    have moved : (before ++ (x :: part) :: after).flatten.Perm (x :: (before ++ part :: after).flatten) := by
      simp only [List.flatten_append, List.flatten_cons, List.cons_append]
      exact List.perm_middle
    exact (ih.cons x).trans moved.symm

theorem sublist (h : Interleaves parts whole) {part : List α} (mem : part ∈ parts) : part.Sublist whole := by
  induction h generalizing part with
  | nil empty => rw [empty part mem]
  | @cons before after first whole x _ ih =>
    rcases List.mem_append.mp mem with mem | mem
    · exact (ih (List.mem_append_left _ mem)).cons x
    · rcases List.mem_cons.mp mem with rfl | mem
      · exact (ih (by simp)).cons_cons x
      · exact (ih (by simp [mem])).cons x

/-- The order of the lists does not matter. -/
theorem of_perm (h : Interleaves parts whole) (perm : parts.Perm others) : Interleaves others whole := by
  induction h generalizing others with
  | nil empty => exact .nil fun part mem => empty part (perm.mem_iff.mpr mem)
  | @cons before after part whole x _ ih =>
    have mem : x :: part ∈ others := perm.mem_iff.mp (by simp)
    obtain ⟨before', after', rfl⟩ := List.append_of_mem mem
    have rest : (before ++ after).Perm (before' ++ after') :=
      (List.perm_cons _).mp (List.perm_middle.symm.trans (perm.trans List.perm_middle))
    exact .cons (ih (List.perm_middle.trans ((rest.cons part).trans List.perm_middle.symm)))

theorem cons_nil (h : Interleaves parts whole) : Interleaves ([] :: parts) whole := by
  induction h with
  | nil empty => exact .nil (List.forall_mem_cons.mpr ⟨rfl, empty⟩)
  | @cons before after part whole x _ ih => exact @Interleaves.cons α ([] :: before) after part whole x ih

theorem cons_append (h : Interleaves parts whole) (part : List α) : Interleaves (part :: parts) (part ++ whole) := by
  induction part with
  | nil => exact h.cons_nil
  | cons x part ih => exact @Interleaves.cons α [] parts part (part ++ whole) x ih

/-- Lists one behind the other are interleaved. -/
theorem flatten (parts : List (List α)) : Interleaves parts parts.flatten := by
  induction parts with
  | nil => exact .nil (by simp)
  | cons part parts ih => exact ih.cons_append part

private theorem zipWith_append_of_empty (empty : ∀ part ∈ parts, part = []) (same : parts.length = others.length) :
    List.zipWith (· ++ ·) parts others = others := by
  induction parts generalizing others with
  | nil => exact (List.eq_nil_of_length_eq_zero same.symm).symm
  | cons part parts ih =>
    cases others with
    | nil => cases same
    | cons other others =>
      obtain ⟨rfl, later⟩ := List.forall_mem_cons.mp empty
      rw [List.zipWith_cons_cons, ih later (Nat.succ.inj same), List.nil_append]

theorem append (h : Interleaves parts front) (k : Interleaves others back) (same : parts.length = others.length) :
    Interleaves (List.zipWith (· ++ ·) parts others) (front ++ back) := by
  induction h generalizing others with
  | nil empty =>
    rw [zipWith_append_of_empty empty same]
    exact k
  | @cons before after part whole x _ ih =>
    -- the other lists are cut at the same place
    obtain ⟨before', other, after', rfl, len⟩ :
        ∃ before' other after', others = before' ++ other :: after' ∧ before.length = before'.length := by
      have inside : before.length < others.length := by simp at same; omega
      exact ⟨others.take before.length, others[before.length], others.drop (before.length + 1), by simp, by simp; omega⟩
    have rest := ih k (by simpa using same)
    rw [List.zipWith_append len, List.zipWith_cons_cons] at rest ⊢
    exact .cons rest

/-- Two stretches of each list, the first ones interleaved before the second ones. -/
theorem append_map {xs : List β} {f g : β → List α} (h : Interleaves (xs.map f) front)
    (k : Interleaves (xs.map g) back) : Interleaves (xs.map fun x => f x ++ g x) (front ++ back) := by
  have stretches := h.append k (by simp)
  rwa [List.zipWith_map, List.zipWith_self] at stretches

theorem flatMap (xs : List β) (f : β → List α) : Interleaves (xs.map f) (xs.flatMap f) := by
  rw [List.flatMap_def]
  exact flatten _

end Interleaves

end SqlSchema
