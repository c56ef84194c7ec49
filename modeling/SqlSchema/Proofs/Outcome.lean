import Mathlib.Data.List.Forall2

/-!
# Computations that may fail

When a chain of computations in `Except` gives a result, and with which failure it ends otherwise: for two steps in a
row (`bind_eq_ok_iff`), for the same check of every entry of a list (`forM_eq_ok_iff`) and for the same function on
every entry (`mapM_eq_ok_iff`). Two chains `Agree` if they fail for the same reason or give results that are related.
-/

namespace SqlSchema.Outcome

variable {ε α β : Type}

/-! ### Lists entry by entry -/

section Lists

variable {γ : Type} {r : α → β → Prop} {xs : List α} {ys : List β}

/-- Entries that all have a partner form a list with the list of partners. -/
theorem exists_forall₂ (h : ∀ x ∈ xs, ∃ y, r x y) : ∃ ys, List.Forall₂ r xs ys := by
  induction xs with
  | nil => exact ⟨[], .nil⟩
  | cons x xs ih =>
    obtain ⟨y, first⟩ := h x List.mem_cons_self
    obtain ⟨ys, rest⟩ := ih fun z hz => h z (List.mem_cons_of_mem x hz)
    exact ⟨y :: ys, .cons first rest⟩

theorem exists_of_mem_right (h : List.Forall₂ r xs ys) {y : β} (hy : y ∈ ys) : ∃ x ∈ xs, r x y := by
  induction h with
  | nil => cases hy
  | @cons x z xs ys first _ ih =>
    rcases List.mem_cons.mp hy with rfl | later
    · exact ⟨x, List.mem_cons_self, first⟩
    · obtain ⟨w, hw, related⟩ := ih later
      exact ⟨w, List.mem_cons_of_mem x hw, related⟩

/-- Relations that are the same on the entries of the first list relate the lists alike. -/
theorem forall₂_congr_of_mem {q : α → β → Prop} (same : ∀ a ∈ xs, ∀ b, r a b ↔ q a b) :
    List.Forall₂ r xs ys ↔ List.Forall₂ q xs ys := by
  induction xs generalizing ys with
  | nil => rw [List.forall₂_nil_left_iff, List.forall₂_nil_left_iff]
  | cons x xs ih =>
    have first := same x List.mem_cons_self
    have rest : ∀ zs, List.Forall₂ r xs zs ↔ List.Forall₂ q xs zs :=
      fun zs => ih fun a ha => same a (List.mem_cons_of_mem x ha)
    simp only [List.forall₂_cons_left_iff, first, rest]

/-- Where each pair of partners is in a relation exactly if its first entry has a property, so are the lists. -/
theorem forall₂_iff_forall_mem {p : α → Prop} {q : α → β → Prop} (h : List.Forall₂ r xs ys)
    (each : ∀ a b, r a b → (q a b ↔ p a)) : List.Forall₂ q xs ys ↔ ∀ a ∈ xs, p a := by
  induction h with
  | nil => simp
  | cons first _ ih => rw [List.forall₂_cons, List.forall_mem_cons, each _ _ first, ih]

theorem forall₂_map_map {γ δ : Type} {p : γ → δ → Prop} {f : α → γ} {g : β → δ} (h : List.Forall₂ r xs ys)
    (each : ∀ a b, r a b → p (f a) (g b)) : List.Forall₂ p (xs.map f) (ys.map g) := by
  rw [List.forall₂_map_left_iff, List.forall₂_map_right_iff]
  exact h.imp each

theorem forall₂_filter {p : α → Bool} {q : β → Bool} (h : List.Forall₂ r xs ys)
    (same : ∀ a b, r a b → p a = q b) : List.Forall₂ r (xs.filter p) (ys.filter q) := by
  refine List.rel_filter ?_ h
  intro a b hab
  show p a = true ↔ q b = true
  rw [same a b hab]

theorem map_eq_map {f : α → γ} {g : β → γ} (h : List.Forall₂ r xs ys) (same : ∀ a b, r a b → f a = g b) :
    xs.map f = ys.map g := by
  have mapped : List.Forall₂ (· = ·) (xs.map f) (ys.map g) := List.rel_map same h
  rwa [List.forall₂_eq_eq_eq] at mapped

theorem flatMap_eq_flatMap {f : α → List γ} {g : β → List γ} (h : List.Forall₂ r xs ys)
    (same : ∀ a b, r a b → f a = g b) : xs.flatMap f = ys.flatMap g := by
  rw [List.flatMap_def, List.flatMap_def, map_eq_map h same]

/-- The entries that have a property which all that is made of one entry has or has not together. -/
theorem filter_flatMap_of_forall {f : α → List γ} {p : γ → Bool} {q : α → Bool}
    (same : ∀ a, ∀ c ∈ f a, p c = q a) : (xs.flatMap f).filter p = (xs.filter q).flatMap f := by
  have each : ∀ a, (f a).filter p = if q a then f a else [] := by
    intro a
    rw [List.filter_congr fun c hc => same a c hc]
    cases q a <;> simp
  induction xs with
  | nil => rfl
  | cons x xs ih =>
    rw [List.flatMap_cons, List.filter_append, ih, each x, List.filter_cons]
    cases q x <;> rfl

/-- The only entry with its key, where keys differ. -/
theorem filter_eq_singleton {κ : Type} [DecidableEq κ] {key : α → κ} {x : α}
    (apart : xs.Pairwise fun a b => key a ≠ key b) (hx : x ∈ xs) : xs.filter (fun a => key a = key x) = [x] := by
  obtain ⟨before, after, rfl⟩ := List.append_of_mem hx
  obtain ⟨-, behind, across⟩ := List.pairwise_append.mp apart
  have none_before : before.filter (fun a => key a = key x) = [] := by
    simpa using fun a ha => across a ha x List.mem_cons_self
  have none_after : after.filter (fun a => key a = key x) = [] := by
    simpa using fun a ha => (List.rel_of_pairwise_cons behind ha).symm
  rw [List.filter_append, List.filter_cons_of_pos (by simp), none_before, none_after, List.nil_append]

end Lists

/-! ### Steps in a row -/

theorem bind_eq_ok_iff {x : Except ε α} {f : α → Except ε β} {b : β} :
    (x >>= f) = .ok b ↔ ∃ a, x = .ok a ∧ f a = .ok b := by
  cases x <;> simp [bind, Except.bind]

theorem bind_eq_error_iff {x : Except ε α} {f : α → Except ε β} {e : ε} :
    (x >>= f) = .error e ↔ x = .error e ∨ ∃ a, x = .ok a ∧ f a = .error e := by
  cases x <;> simp [bind, Except.bind]

theorem map_eq_ok_iff {x : Except ε α} {f : α → β} {b : β} : x.map f = .ok b ↔ ∃ a, x = .ok a ∧ f a = b := by
  cases x <;> simp [Except.map]

theorem map_eq_error_iff {x : Except ε α} {f : α → β} {e : ε} : x.map f = .error e ↔ x = .error e := by
  cases x <;> simp [Except.map]

theorem mapError_eq_ok_iff {δ : Type} {x : Except ε α} {f : ε → δ} {a : α} : x.mapError f = .ok a ↔ x = .ok a := by
  cases x with
  | error e => exact ⟨nofun, nofun⟩
  | ok b =>
    constructor
    · rintro ⟨rfl⟩
      rfl
    · rintro ⟨rfl⟩
      rfl

/-- A step that refuses with `e` when `p` holds, before `x` is done. -/
theorem guard_eq_ok_iff {p : Prop} [Decidable p] {e : ε} {k : α → Except ε β} {x : Except ε β} {b : β} :
    (if p then .error e >>= k else x) = .ok b ↔ ¬p ∧ x = .ok b := by
  split <;> simp_all [bind, Except.bind]

theorem guard_eq_error_iff {p : Prop} [Decidable p] {e why : ε} {k : α → Except ε β} {x : Except ε β} :
    (if p then .error e >>= k else x) = .error why ↔ p ∧ e = why ∨ ¬p ∧ x = .error why := by
  split <;> simp_all [bind, Except.bind]

/-- Checks that give nothing but their success. -/
theorem then_eq_ok_iff {x : Except ε Unit} {y : Except ε β} {b : β} :
    (x >>= fun _ => y) = .ok b ↔ x = .ok () ∧ y = .ok b := by
  cases x <;> simp [bind, Except.bind]

theorem forM_eq_ok_iff {xs : List α} {f : α → Except ε Unit} :
    xs.forM f = .ok () ↔ ∀ x ∈ xs, f x = .ok () := by
  induction xs with
  | nil => simp [pure, Except.pure]
  | cons x xs ih =>
    rw [List.forM_eq_forM] at ih ⊢
    rw [List.forM_cons, then_eq_ok_iff, List.forall_mem_cons, ih]

/-- The failure of a check of all entries is that of one of them. -/
theorem exists_of_forM_eq_error {xs : List α} {f : α → Except ε Unit} {e : ε} (h : xs.forM f = .error e) :
    ∃ x ∈ xs, f x = .error e := by
  induction xs with
  | nil => cases h
  | cons x xs ih =>
    rw [List.forM_eq_forM] at ih h
    rw [List.forM_cons, bind_eq_error_iff] at h
    rcases h with h | ⟨_, _, h⟩
    · exact ⟨x, by simp, h⟩
    · obtain ⟨y, hy, hf⟩ := ih h
      exact ⟨y, by simp [hy], hf⟩

theorem mapM_eq_ok_iff {xs : List α} {f : α → Except ε β} {ys : List β} :
    xs.mapM f = .ok ys ↔ List.Forall₂ (fun x y => f x = .ok y) xs ys := by
  induction xs generalizing ys with
  | nil => cases ys <;> simp [pure, Except.pure]
  | cons x xs ih =>
    rw [List.mapM_cons]
    simp only [bind_eq_ok_iff, List.forall₂_cons_left_iff]
    constructor
    · rintro ⟨y, hy, zs, hz, h⟩
      cases h
      exact ⟨y, zs, hy, ih.mp hz, rfl⟩
    · rintro ⟨y, zs, hy, hz, rfl⟩
      exact ⟨y, hy, zs, ih.mpr hz, rfl⟩

theorem exists_of_mapM_eq_error {xs : List α} {f : α → Except ε β} {e : ε} (h : xs.mapM f = .error e) :
    ∃ x ∈ xs, f x = .error e := by
  induction xs with
  | nil => cases h
  | cons x xs ih =>
    rw [List.mapM_cons, bind_eq_error_iff] at h
    rcases h with h | ⟨_, _, h⟩
    · exact ⟨x, by simp, h⟩
    · rw [bind_eq_error_iff] at h
      rcases h with h | ⟨_, _, h⟩
      · obtain ⟨y, hy, hf⟩ := ih h
        exact ⟨y, by simp [hy], hf⟩
      · cases h

theorem exists_of_mem_of_mapM_eq_ok {xs : List α} {f : α → Except ε β} {ys : List β} (h : xs.mapM f = .ok ys)
    {y : β} (hy : y ∈ ys) : ∃ x ∈ xs, f x = .ok y :=
  exists_of_mem_right (mapM_eq_ok_iff.mp h) hy

/-- Where the results have a part that depends on the entry alone, so has the list of results. -/
theorem flatMap_of_mapM_eq_ok {γ : Type} {xs : List α} {f : α → Except ε β} {ys : List β} {g : β → List γ}
    {k : α → List γ} (h : xs.mapM f = .ok ys) (part : ∀ x y, f x = .ok y → g y = k x) :
    ys.flatMap g = xs.flatMap k :=
  (flatMap_eq_flatMap (mapM_eq_ok_iff.mp h) fun x y made => (part x y made).symm).symm

theorem mapM_append_cons_eq_ok {xs zs : List α} {x : α} {f : α → Except ε β} {ys : List β}
    (h : (xs ++ x :: zs).mapM f = .ok ys) :
    ∃ us v ws, ys = us ++ v :: ws ∧ xs.mapM f = .ok us ∧ f x = .ok v ∧ zs.mapM f = .ok ws := by
  rw [List.mapM_append, List.mapM_cons] at h
  simp only [bind_eq_ok_iff] at h
  obtain ⟨us, hu, vs, ⟨v, hv, ws, hw, pair⟩, all⟩ := h
  cases pair
  cases all
  exact ⟨us, v, ws, rfl, hu, hv, hw⟩

/-- A function that succeeds on every entry succeeds on the list. -/
theorem exists_mapM_eq_ok {xs : List α} {f : α → Except ε β} (h : ∀ x ∈ xs, ∃ y, f x = .ok y) :
    ∃ ys, xs.mapM f = .ok ys := by
  obtain ⟨ys, pairs⟩ := exists_forall₂ h
  exact ⟨ys, mapM_eq_ok_iff.mpr pairs⟩

/-! ### Two chains side by side -/

/-- The computations fail for the same reason or give results that are related. -/
def Agree (r : α → β → Prop) : Except ε α → Except ε β → Prop
  | .ok a, .ok b => r a b
  | .error e, .error why => e = why
  | _, _ => False

section Agree

variable {γ δ : Type} {r : α → β → Prop}

theorem Agree.refl {r : α → α → Prop} (h : ∀ a, r a a) (x : Except ε α) : Agree r x x := by
  cases x with
  | ok a => exact h a
  | error e => exact rfl

theorem Agree.bind {q : γ → δ → Prop} {x : Except ε α} {y : Except ε β} {f : α → Except ε γ} {g : β → Except ε δ}
    (h : Agree r x y) (next : ∀ a b, r a b → Agree q (f a) (g b)) : Agree q (x >>= f) (y >>= g) := by
  cases x with
  | ok a =>
    cases y with
    | ok b => exact next a b h
    | error e => exact h.elim
  | error e =>
    cases y with
    | ok b => exact h.elim
    | error why => exact h

theorem Agree.map_eq {f : α → γ} {g : β → γ} {x : Except ε α} {y : Except ε β}
    (h : Agree (fun a b => f a = g b) x y) : x.map f = y.map g := by
  cases x with
  | ok a =>
    cases y with
    | ok b => exact congrArg Except.ok h
    | error e => exact h.elim
  | error e =>
    cases y with
    | ok b => exact h.elim
    | error why => exact congrArg Except.error h

theorem Agree.mapM {xs : List γ} {ys : List δ} {f : γ → Except ε α} {g : δ → Except ε β}
    (h : List.Forall₂ (fun x y => Agree r (f x) (g y)) xs ys) :
    Agree (List.Forall₂ r) (xs.mapM f) (ys.mapM g) := by
  induction h with
  | nil => exact List.Forall₂.nil
  | @cons x y xs ys first _ ih =>
    rw [List.mapM_cons, List.mapM_cons]
    exact first.bind fun a b hab => ih.bind fun as bs rest => List.Forall₂.cons hab rest

theorem forM_eq_forM {xs : List α} {ys : List β} {f : α → Except ε Unit} {g : β → Except ε Unit}
    (h : List.Forall₂ (fun x y => f x = g y) xs ys) : xs.forM f = ys.forM g := by
  induction h with
  | nil => rfl
  | @cons x y xs ys first _ ih =>
    rw [List.forM_eq_forM, List.forM_eq_forM] at ih ⊢
    rw [List.forM_cons, List.forM_cons, first, ih]

end Agree

end SqlSchema.Outcome
