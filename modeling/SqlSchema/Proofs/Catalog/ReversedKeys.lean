import Mathlib.Data.List.Nodup
import SqlSchema.Proofs.Catalog.AttachedNames
import SqlSchema.Proofs.Evaluation

/-!
# Names of keys that are reported from the last to the first

An engine may report foreign keys without their names and in the order opposite to that of their declarations.
`attachNames` then gives back the order of the declarations, but only up to links: among the keys with one link the
last one declared is the first one reported and takes the first name, so that these keys stand in reverse order behind
their names (`Exchanged`, `exists_exchanged`). Each key gets the name of its own clause exactly if the keys of every
link read the same from both ends (`reversed_keys_named_iff`); two keys that link the same columns to different
columns of one table exchange their names (`leg_names_exchanged`).
-/

namespace SqlSchema

open CreateText

/-! ### Lists by the classes of their entries -/

section Classes

variable {α β : Type} [DecidableEq β] {f : α → β} {xs ys : List α}

/-- A list is known by the classes of its entries, in order, and by the entries of each class, in order. -/
theorem eq_of_classes (same : xs.map f = ys.map f) (each : ∀ r, xs.filter (f · = r) = ys.filter (f · = r)) :
    xs = ys := by
  induction xs generalizing ys with
  | nil => exact (List.map_eq_nil_iff.mp same.symm).symm
  | cons x xs ih =>
    cases ys with
    | nil => cases same
    | cons y ys =>
      rw [List.map_cons, List.map_cons, List.cons.injEq] at same
      obtain ⟨head, tail⟩ := same
      have first := each (f x)
      rw [List.filter_cons_of_pos (by simp), List.filter_cons_of_pos (by simp [head])] at first
      obtain ⟨rfl, -⟩ := List.cons.inj first
      congr 1
      refine ih tail fun r => ?_
      have whole := each r
      by_cases hit : f x = r
      · rw [List.filter_cons_of_pos (by simpa using hit), List.filter_cons_of_pos (by simpa using hit)] at whole
        exact (List.cons.inj whole).2
      · rwa [List.filter_cons_of_neg (by simpa using hit), List.filter_cons_of_neg (by simpa using hit)] at whole

theorem perm_of_classes [DecidableEq α] (each : ∀ r, xs.filter (f · = r) = ys.filter (f · = r)) : xs.Perm ys := by
  rw [List.perm_iff_count]
  intro a
  have whole := congrArg (List.count a) (each (f a))
  rwa [List.count_filter (by simp), List.count_filter (by simp)] at whole

end Classes

/-! ### Declared keys -/

/-- A foreign key, as it is reported, and the clause that declares it by a name. -/
structure DeclaredKey where
  key : ReportedForeignKey
  clause : ForeignKeyClause
  /-- The name of a key is not reported. -/
  unnamed : key.name = none
  declares : clause.declares key = true

namespace DeclaredKey

/-- The key with the name of its own clause. -/
def named (d : DeclaredKey) : ReportedForeignKey := d.key.rename d.clause.name

theorem link_clause (d : DeclaredKey) : d.clause.link = d.key.link := ForeignKeyClause.declares_iff.mp d.declares

/-- What an engine reports that begins with the last declaration. -/
def reported (ds : List DeclaredKey) : List ReportedForeignKey := (ds.map (·.key)).reverse

/-- The clauses of the declarations. -/
def clauses (ds : List DeclaredKey) : List ForeignKeyClause := ds.map (·.clause)

/-- The keys with a link, in the order of their declarations. -/
def keysWith (ds : List DeclaredKey) (r : String × List String) : List ReportedForeignKey :=
  (ds.map (·.key)).filter (·.link = r)

/-- The clauses stand in the order of their offsets. -/
def InOrder (ds : List DeclaredKey) : Prop := ds.Pairwise fun d e => d.clause.offset < e.clause.offset

/-- The keys `ks` stand where keys with their links are declared, but those with one link in reverse order. -/
structure Exchanged (ds : List DeclaredKey) (ks : List ReportedForeignKey) : Prop where
  links : ks.map (·.link) = ds.map (·.key.link)
  reversed : ∀ r, ks.filter (·.link = r) = (keysWith ds r).reverse

end DeclaredKey

open DeclaredKey

variable {ds : List DeclaredKey} {ks : List ReportedForeignKey}

theorem filter_reported (ds : List DeclaredKey) (r : String × List String) :
    (reported ds).filter (·.link = r) = (keysWith ds r).reverse := List.filter_reverse

/-- There are as many keys with a link as there are clauses with it. -/
theorem length_filter_reported (ds : List DeclaredKey) (r : String × List String) :
    ((reported ds).filter (·.link = r)).length = ((clauses ds).filter (·.link = r)).length := by
  rw [filter_reported, List.length_reverse, keysWith, clauses, List.filter_map, List.filter_map, List.length_map,
    List.length_map]
  simp only [Function.comp_def, link_clause]

theorem clauses_inOrder (inOrder : InOrder ds) : (clauses ds).Pairwise fun c e => c.offset < e.offset :=
  List.pairwise_map.mpr inOrder

theorem clause_inj (inOrder : InOrder ds) {c e : ForeignKeyClause} (hc : c ∈ clauses ds) (he : e ∈ clauses ds)
    (same : c.offset = e.offset) : c = e := by
  have nodup : ((clauses ds).map (·.offset)).Nodup :=
    List.pairwise_map.mpr ((clauses_inOrder inOrder).imp Nat.ne_of_lt)
  exact List.inj_on_of_nodup_map nodup hc he same

/-! ### Matching keys and clauses -/

variable {fs : List ReportedForeignKey} {cs : List ForeignKeyClause}

theorem link_of_mem_matched {p : ReportedForeignKey × ForeignKeyClause} (mem : p ∈ matched cs fs) :
    p.2.link = p.1.link := by
  have found : p ∈ (matched cs fs).filter (·.1.link = p.1.link) := List.mem_filter.mpr ⟨mem, by simp⟩
  rw [filter_matched] at found
  simpa using (List.mem_filter.mp (List.of_mem_zip found).2).2

/-- Every clause is given to a key. -/
theorem matched_clauses_perm (ds : List DeclaredKey) :
    ((matched (clauses ds) (reported ds)).map (·.2)).Perm (clauses ds) := by
  apply perm_of_classes (f := ForeignKeyClause.link)
  intro r
  have links : (matched (clauses ds) (reported ds)).filter (·.2.link = r) =
      (matched (clauses ds) (reported ds)).filter (·.1.link = r) :=
    List.filter_congr fun p mem => by rw [link_of_mem_matched mem]
  have enough := Nat.le_of_eq (length_filter_reported ds r).symm
  rw [List.filter_map]
  exact (congrArg (List.map (·.2)) (links.trans (filter_matched _ _ r))).trans (List.map_snd_zip enough)

/-- No key is left without a clause. -/
theorem unmatched_reported (ds : List DeclaredKey) : unmatched (clauses ds) (reported ds) = [] := by
  have whole := (interleaves_matched (clauses ds) (reported ds)).perm.length_eq
  have given := (matched_clauses_perm ds).length_eq
  simp only [List.flatten_cons, List.flatten_nil, List.append_nil, List.length_append, List.length_map, reported,
    clauses, List.length_reverse] at whole given
  rw [← List.length_eq_zero_iff, reported, clauses]
  omega

/-! ### The order of the names -/

theorem exists_above (cs : List ForeignKeyClause) : ∃ last, ∀ c ∈ cs, c.offset < last := by
  induction cs with
  | nil => exact ⟨0, nofun⟩
  | cons c cs ih =>
    obtain ⟨last, below⟩ := ih
    refine ⟨max last (c.offset + 1), List.forall_mem_cons.mpr ⟨by omega, fun e mem => ?_⟩⟩
    have low := below e mem
    omega

variable {order : List (ReportedForeignKey × ForeignKeyClause)}

/-- Sorted by their offsets, the clauses stand as they were declared. -/
theorem map_snd_of_sorted (inOrder : InOrder ds)
    (sorted : StablySorted (·.2.offset) (matched (clauses ds) (reported ds)) order) : order.map (·.2) = clauses ds := by
  have all : (order.map (·.2)).Perm (clauses ds) := (sorted.perm.map _).trans (matched_clauses_perm ds)
  have first : (order.map (·.2)).Pairwise fun c e => c.offset ≤ e.offset := List.pairwise_map.mpr sorted.sorted
  have second : (clauses ds).Pairwise fun c e => c.offset ≤ e.offset := (clauses_inOrder inOrder).imp Nat.le_of_lt
  refine List.Perm.eq_of_pairwise ?_ first second all
  intro c e hc he below above
  exact clause_inj inOrder (all.mem_iff.mp hc) he (Nat.le_antisymm below above)

/-- The pairs with one link were in order before they were sorted. -/
theorem filter_of_sorted (inOrder : InOrder ds)
    (sorted : StablySorted (·.2.offset) (matched (clauses ds) (reported ds)) order) (r : String × List String) :
    order.filter (·.1.link = r) = (keysWith ds r).reverse.zip ((clauses ds).filter (·.link = r)) := by
  have perm := sorted.perm.filter (·.1.link = r)
  rw [filter_matched, filter_reported] at perm
  have first : (order.filter (·.1.link = r)).Pairwise fun p q => p.2.offset ≤ q.2.offset := sorted.sorted.filter _
  have second : ((keysWith ds r).reverse.zip ((clauses ds).filter (·.link = r))).Pairwise fun p q =>
      p.2.offset ≤ q.2.offset := by
    have kept : ((clauses ds).filter (·.link = r)).Pairwise fun c e => c.offset ≤ e.offset :=
      ((clauses_inOrder inOrder).imp Nat.le_of_lt).filter _
    have enough := Nat.le_of_eq (length_filter_reported ds r).symm
    rw [filter_reported] at enough
    rw [← List.map_snd_zip enough] at kept
    exact (List.pairwise_map (R := fun c e : ForeignKeyClause => c.offset ≤ e.offset)).mp kept
  refine List.Perm.eq_of_pairwise ?_ first second perm
  intro p q hp hq below above
  have once : (order.map (·.2.offset)).Nodup := by
    have less := clauses_inOrder inOrder
    rw [← map_snd_of_sorted inOrder sorted] at less
    exact List.pairwise_map.mpr ((List.pairwise_map.mp less).imp Nat.ne_of_lt)
  exact List.inj_on_of_nodup_map once (List.mem_of_mem_filter hp) (List.mem_of_mem_filter (perm.mem_iff.mpr hq))
    (Nat.le_antisymm below above)

/-- The names come back in the order of the clauses, and behind those of one link the keys in reverse order. -/
theorem exists_exchanged (inOrder : InOrder ds) :
    ∃ ks, Exchanged ds ks ∧
      attachNames (reported ds) (clauses ds) = List.zipWith .rename ks (ds.map (·.clause.name)) := by
  obtain ⟨last, below⟩ := exists_above (clauses ds)
  obtain ⟨order, sorted, attached⟩ := exists_sorted_matched (reported ds) below
  have placed := map_snd_of_sorted inOrder sorted
  refine ⟨order.map (·.1), ⟨?_, ?_⟩, ?_⟩
  · have links : order.map (·.1.link) = (order.map (·.2)).map (·.link) := by
      rw [List.map_map]
      exact List.map_congr_left fun p mem => (link_of_mem_matched (sorted.perm.mem_iff.mp mem)).symm
    rw [List.map_map]
    refine links.trans ?_
    rw [placed, clauses, List.map_map]
    exact List.map_congr_left fun d _ => d.link_clause
  · intro r
    have enough := Nat.le_of_eq (length_filter_reported ds r)
    rw [filter_reported] at enough
    rw [List.filter_map]
    exact (congrArg (List.map (·.1)) (filter_of_sorted inOrder sorted r)).trans (List.map_fst_zip enough)
  · have names : ds.map (·.clause.name) = order.map (·.2.name) := by
      have clauseNames := congrArg (List.map ForeignKeyClause.name) placed
      rw [clauses, List.map_map, List.map_map] at clauseNames
      exact clauseNames.symm
    rw [attached, unmatched_reported, List.append_nil, names, List.zipWith_map, List.zipWith_self]

/-- Of unnamed keys, a name that is given to them hides nothing. -/
theorem map_nameless_zipWith (unnamed : ∀ k ∈ ks, k.name = none) {names : List String}
    (same : ks.length = names.length) : (List.zipWith ReportedForeignKey.rename ks names).map (·.nameless) = ks := by
  induction ks generalizing names with
  | nil => rfl
  | cons k ks ih =>
    cases names with
    | nil => cases same
    | cons n names =>
      obtain ⟨first, others⟩ := List.forall_mem_cons.mp unnamed
      have nameless : (k.rename n).nameless = k := by
        obtain ⟨name, columns, refTable, refColumns, onDelete, onUpdate⟩ := k
        cases first
        rfl
      rw [List.zipWith_cons_cons, List.map_cons, nameless, ih others (Nat.succ.inj same)]

theorem map_named (ds : List DeclaredKey) :
    ds.map (·.named) = List.zipWith .rename (ds.map (·.key)) (ds.map (·.clause.name)) := by
  rw [List.zipWith_map, List.zipWith_self]
  rfl

namespace DeclaredKey.Exchanged

theorem unnamed (h : Exchanged ds ks) : ∀ k ∈ ks, k.name = none := by
  intro k mem
  have found : k ∈ ks.filter (·.link = k.link) := List.mem_filter.mpr ⟨mem, by simp⟩
  rw [h.reversed, List.mem_reverse] at found
  obtain ⟨d, -, rfl⟩ := List.mem_map.mp (List.mem_of_mem_filter found)
  exact d.unnamed

theorem length_eq (h : Exchanged ds ks) : ks.length = ds.length := by
  simpa using congrArg List.length h.links

/-- The order of declaration is kept exactly if nothing changes within the links. -/
theorem eq_map_key_iff (h : Exchanged ds ks) : ks = ds.map (·.key) ↔ ∀ r, (keysWith ds r).reverse = keysWith ds r := by
  constructor
  · rintro rfl r
    exact (h.reversed r).symm
  · intro even
    have links := h.links
    refine eq_of_classes (f := ReportedForeignKey.link) ?_ fun r => (h.reversed r).trans (even r)
    rw [links, List.map_map]
    rfl

end DeclaredKey.Exchanged

/-- Reported without names from the last to the first, keys come back in the order of the clauses up to links: behind
the names that were declared for the keys of one link stand these keys in reverse order. All of them have the names of
their own clauses exactly if the keys of each link read the same from both ends. -/
theorem reversed_keys_named_iff (ds : List DeclaredKey) (inOrder : InOrder ds) :
    (∃ ks, Exchanged ds ks ∧
      attachNames (reported ds) (clauses ds) = List.zipWith .rename ks (ds.map (·.clause.name))) ∧
    (attachNames (reported ds) (clauses ds) = ds.map (·.named) ↔ ∀ r, (keysWith ds r).reverse = keysWith ds r) := by
  obtain ⟨ks, exchanged, attached⟩ := exists_exchanged inOrder
  refine ⟨⟨ks, exchanged, attached⟩, ?_⟩
  rw [← exchanged.eq_map_key_iff, attached, map_named]
  constructor
  · intro same
    have keys := congrArg (List.map (·.nameless)) same
    rwa [map_nameless_zipWith exchanged.unnamed (by simpa using exchanged.length_eq),
      map_nameless_zipWith (by simpa using fun d _ => d.unnamed) (by simp)] at keys
  · rintro rfl
    rfl

/-- Three keys of a table, two of which are the same but for their names. -/
def tripKeys : List DeclaredKey :=
  [⟨{ columns := ["place"], refTable := "site", refColumns := ["id"] },
      { offset := 40, name := "fk_start", columns := ["place"], refTable := "site" }, rfl, by decide⟩,
    ⟨{ columns := ["driver"], refTable := "person", refColumns := ["id"] },
      { offset := 100, name := "fk_driver", columns := ["Driver"], refTable := "Person" }, rfl, by decide⟩,
    ⟨{ columns := ["place"], refTable := "site", refColumns := ["id"] },
      { offset := 160, name := "fk_end", columns := ["place"], refTable := "site" }, rfl, by decide⟩]

theorem trip_keys_named :
    InOrder tripKeys ∧ attachNames (reported tripKeys) (clauses tripKeys) = tripKeys.map (·.named) := by
  have inOrder : InOrder tripKeys := by
    unfold InOrder
    decide
  refine ⟨inOrder, (reversed_keys_named_iff tripKeys inOrder).2.mpr fun r => ?_⟩
  by_cases site : ("site", ["place"]) = r
  · subst site
    decide +kernel
  by_cases person : ("person", ["driver"]) = r
  · subst person
    decide +kernel
  have links : tripKeys.map (·.key.link) = [("site", ["place"]), ("person", ["driver"]), ("site", ["place"])] := by
    decide +kernel
  have nothing : keysWith tripKeys r = [] := by
    rw [keysWith, List.filter_eq_nil_iff]
    intro k mem
    obtain ⟨d, hd, rfl⟩ := List.mem_map.mp mem
    have found := List.mem_map_of_mem (f := fun d : DeclaredKey => d.key.link) hd
    rw [links] at found
    rw [decide_eq_true_eq]
    rintro rfl
    simp [Ne.symm site, Ne.symm person] at found
  rw [nothing, List.reverse_nil]

/-- The statement of a table with two keys from one column to different columns of one table. -/
def legStatement : String :=
  "CREATE TABLE leg (place INTEGER, CONSTRAINT fk_city FOREIGN KEY (place) REFERENCES site (city), " ++
    "CONSTRAINT fk_zone FOREIGN KEY (place) REFERENCES site (zone))"

/-- These keys with the clauses that are found in the statement. -/
def legKeys : List DeclaredKey :=
  [⟨{ columns := ["place"], refTable := "site", refColumns := ["city"] },
      { offset := 33, name := "fk_city", columns := ["place"], refTable := "site" }, rfl, by decide⟩,
    ⟨{ columns := ["place"], refTable := "site", refColumns := ["zone"] },
      { offset := 96, name := "fk_zone", columns := ["place"], refTable := "site" }, rfl, by decide⟩]

/-- Each of two keys with one link gets the name of the other one. -/
theorem leg_names_exchanged :
    InOrder legKeys ∧ (legKeys.map (·.clause.name)).Nodup ∧ foreignKeyClauses legStatement = clauses legKeys ∧
      (attachNames (reported legKeys) (clauses legKeys)).map (fun f => (f.name, f.refColumns)) =
        [(some "fk_city", ["zone"]), (some "fk_zone", ["city"])] ∧
      attachNames (reported legKeys) (clauses legKeys) ≠ legKeys.map (·.named) := by
  have placed : placeKeys (clauses legKeys) (reported legKeys) =
      [⟨some 33, { name := some "fk_city", columns := ["place"], refTable := "site", refColumns := ["zone"] }⟩,
        ⟨some 96, { name := some "fk_zone", columns := ["place"], refTable := "site", refColumns := ["city"] }⟩] := by
    decide +kernel
  have attached : attachNames (reported legKeys) (clauses legKeys) =
      [{ name := some "fk_city", columns := ["place"], refTable := "site", refColumns := ["zone"] },
        { name := some "fk_zone", columns := ["place"], refTable := "site", refColumns := ["city"] }] := by
    simp [attachNames, placed, List.mergeSort, PlacedKey.notAfter]
  have found : foreignKeyClauses legStatement = clauses legKeys := by
    simp only [foreignKeyClauses, Text.toList_eq_chars]
    decide +kernel
  refine ⟨?_, by decide, found, by rw [attached]; rfl, by rw [attached]; decide⟩
  unfold InOrder
  decide

end SqlSchema
