import SqlSchema.Proofs.RowType.DistinctNames
import SqlSchema.Proofs.RowType.TableComments
import SqlSchema.Text.Split

/-!
# Units in files

Files that are written one after the other hold what was written to their paths last (`FileTree.get?_putAll_of_last`).
The units of some tables go into one directory, and behind them the file that declares their modules, so that nothing of
them is lost exactly if their modules have distinct names and none of them takes the path of that file
(`written_units_kept_iff`).
-/

namespace SqlSchema.RowType

/-! ### Files written in a row -/

namespace FileTree

variable {t : FileTree} {path : Path} {content : String} {writes front back : List (Path × String)}

/-- The tree after files are written in a row. -/
def putAll (t : FileTree) (writes : List (Path × String)) : FileTree := writes.foldl (fun t w => t.put w.1 w.2) t

theorem get?_putAll_of_not_mem (other : path ∉ writes.map (·.1)) : (t.putAll writes).get? path = t.get? path := by
  induction writes generalizing t with
  | nil => rfl
  | cons w writes ih =>
    rw [List.map_cons, List.mem_cons, not_or] at other
    exact (ih other.2).trans (get?_put_of_ne other.1)

/-- A path holds what was written to it last. -/
theorem get?_putAll_of_last (last : path ∉ back.map (·.1)) :
    (t.putAll (front ++ (path, content) :: back)).get? path = some content := by
  unfold putAll
  rw [List.foldl_append, List.foldl_cons]
  exact (get?_putAll_of_not_mem last).trans (get?_put_self _ _ _)

end FileTree

/-! ### The modules that a text declares -/

/-- What stands in front of the name of a module that is declared. -/
def moduleLead : String := "pub mod "

/-- The name of the module that a line declares. -/
def declaredModule? (line : List Char) : Option String :=
  if moduleLead.toList <+: line ∧ [';'] <:+ line then
    some (String.ofList (line.drop moduleLead.toList.length).dropLast)
  else none

/-- The names of the modules that a text declares, each on a line of its own. -/
def declaredModules (text : String) : List String := (Text.splitOn '\n' text.toList).filterMap declaredModule?

private theorem declaredModule?_line (n : String) :
    declaredModule? (moduleLead.toList ++ n.toList ++ [';']) = some n := by
  have starts : moduleLead.toList <+: moduleLead.toList ++ n.toList ++ [';'] :=
    ⟨n.toList ++ [';'], (List.append_assoc _ _ _).symm⟩
  rw [declaredModule?, if_pos ⟨starts, List.suffix_append _ _⟩, List.append_assoc, List.drop_left,
    List.dropLast_concat, String.ofList_toList]

theorem declaredModules_join {names : List String} (one_line : ∀ n ∈ names, '\n' ∉ n.toList) :
    declaredModules (String.join (names.map fun n => moduleLead ++ n ++ ";\n")) = names := by
  induction names with
  | nil => simp [declaredModules, declaredModule?, moduleLead, Text.splitOn]
  | cons n names ih =>
    rw [List.forall_mem_cons] at one_line
    have text : (String.join ((n :: names).map fun n => moduleLead ++ n ++ ";\n")).toList =
        moduleLead.toList ++ n.toList ++ [';'] ++
          '\n' :: (String.join (names.map fun n => moduleLead ++ n ++ ";\n")).toList := by
      simp
    have no_break : '\n' ∉ moduleLead.toList ++ n.toList ++ [';'] := by
      have lead : '\n' ∉ moduleLead.toList := by decide
      simp [lead, one_line.1]
    rw [declaredModules, text, Text.splitOn_append_of_not_mem no_break, List.filterMap_cons, declaredModule?_line]
    exact congrArg (n :: ·) (ih one_line.2)

/-! ### The directory of the units -/

namespace SourceUnit

/-- The file for a unit. -/
def path (u : SourceUnit) : Path := u.modulePath ++ [u.fileName]

/-- The file that declares the modules in the directory of a unit. -/
def listPath (u : SourceUnit) : Path := u.modulePath ++ ["mod.rs"]

theorem fileName_eq_iff {u : SourceUnit} {n : String} : u.fileName = n ++ ".rs" ↔ u.moduleName = n := by
  simp [fileName]

variable {u v : SourceUnit} (together : u.modulePath = v.modulePath)

include together

theorem path_eq_path_iff : u.path = v.path ↔ u.moduleName = v.moduleName := by
  rw [path, path, together, List.append_right_inj, List.singleton_inj]
  exact fileName_eq_iff

/-- A module of that name takes the path of the file that declares the modules. -/
theorem path_eq_listPath_iff : u.path = v.listPath ↔ u.moduleName = "mod" := by
  have file : "mod.rs" = "mod" ++ ".rs" := by simp
  rw [path, listPath, together, List.append_right_inj, List.singleton_inj, file, fileName_eq_iff]

end SourceUnit

/-- What the files hold when all writes succeed. -/
theorem writeUnits_of_taken {units : List SourceUnit} {directory : String}
    (taken : ∀ d ∈ directories units, ∀ w ∈ d.writes, isTaken directory w.1) :
    writeUnits directory units = .ok
      { paths := (directories units).flatMap (·.unitPaths)
        tree := FileTree.putAll {} ((directories units).flatMap (·.writes)) } := by
  rw [writeUnits, if_pos]
  · rfl
  · rw [List.all_eq_true]
    intro w hw
    obtain ⟨d, hd, hw⟩ := List.mem_flatMap.mp hw
    exact taken d hd w hw

/-- The files of the units, in order. -/
def unitWrites (units : List SourceUnit) : List (Path × String) := units.map fun u => (u.path, u.content)

theorem directories_nil : directories [] = [] := by
  simp [directories]

section Together

variable {units : List SourceUnit} {path : Path} (together : ∀ u ∈ units, u.modulePath = path)

include together

theorem directories_of_together (some_unit : units ≠ []) : directories units = [⟨path, units⟩] := by
  obtain ⟨u, us, rfl⟩ := List.exists_cons_of_ne_nil some_unit
  have here := together u List.mem_cons_self
  have none_elsewhere : (us.map (·.modulePath)).filter (fun p => !p == path) = [] := by
    simp only [List.filter_eq_nil_iff, List.forall_mem_map]
    intro v hv
    simp [together v (List.mem_cons_of_mem u hv)]
  have all_here : (u :: us).filter (fun v => decide (v.modulePath = path)) = u :: us :=
    List.filter_eq_self.mpr fun v hv => decide_eq_true (together v hv)
  simp only [directories, List.map_cons, here, List.eraseDups_cons, none_elsewhere, List.eraseDups_nil,
    List.mergeSort_singleton, List.map_nil, all_here]

theorem writes_of_together :
    UnitDirectory.unitPaths ⟨path, units⟩ = units.map (·.path) ∧
      UnitDirectory.writes ⟨path, units⟩ =
        unitWrites units ++ [(path ++ ["mod.rs"], UnitDirectory.moduleList ⟨path, units⟩)] := by
  have paths : ∀ u ∈ units, path ++ [u.fileName] = u.path := fun u hu => by rw [SourceUnit.path, together u hu]
  constructor
  · exact List.map_congr_left paths
  · rw [UnitDirectory.writes, unitWrites]
    congr 1
    exact List.map_congr_left fun u hu => by rw [paths u hu]

theorem nodup_map_path_iff : (units.map (·.path)).Nodup ↔ (units.map (·.moduleName)).Nodup := by
  rw [List.Nodup, List.pairwise_map, List.Nodup, List.pairwise_map]
  exact List.Pairwise.iff_of_mem fun {u v} hu hv =>
    not_congr (SourceUnit.path_eq_path_iff ((together u hu).trans (together v hv).symm))

end Together

theorem modulePath_of_mem_emitAll {o : Options} {ts : List Table} {u : SourceUnit} (h : u ∈ emitAll o ts) :
    u.modulePath = (o.package.map pathParts).getD [] := by
  obtain ⟨t, -, rfl⟩ := List.mem_map.mp h
  simp only [emit]

private theorem append_ne_append {a b : String} {c e : Char} (apart : c ≠ e) (starts : a.toList.head? = some c)
    (other : b.toList.head? = some e) (s t : String) : a ++ s ≠ b ++ t := by
  intro same
  have first := congrArg (·.toList.head?) same
  simp only [String.toList_append, List.head?_append, starts, other, Option.some_or, Option.some.injEq] at first
  exact apart first

/-- The text that declares modules is not the content of a unit, which begins with a comment. -/
theorem content_ne_moduleList {o : Options} {ts : List Table} {u : SourceUnit} (h : u ∈ emitAll o ts)
    {d : UnitDirectory} (some_unit : d.units ≠ []) : u.content ≠ d.moduleList := by
  obtain ⟨t, -, rfl⟩ := List.mem_map.mp h
  obtain ⟨v, vs, units⟩ := List.exists_cons_of_ne_nil some_unit
  obtain ⟨rest, content⟩ : ∃ rest, (emit o t).content = "//! Row type for table \x60" ++ rest := by
    rw [content_eq_contentWith]
    unfold Options.contentWith Options.unitComment
    rw [String.append_assoc, String.append_assoc, String.append_assoc, String.append_assoc]
    exact ⟨_, rfl⟩
  obtain ⟨more, list⟩ : ∃ more, d.moduleList = "pub mod " ++ more := by
    rw [UnitDirectory.moduleList, units, List.map_cons, String.join_cons, String.append_assoc, String.append_assoc]
    exact ⟨_, rfl⟩
  have slash : "//! Row type for table \x60".toList.head? = some '/' := by simp
  have letter : "pub mod ".toList.head? = some 'p' := by simp
  rw [content, list]
  exact append_ne_append (by decide) slash letter rest more

/-! ### What is kept -/

/-- All that is in the units was written: each unit is found under a path of its own, in the order of the units, and
beside it stands a file that declares one module for each unit of the directory. -/
structure Written.Keeps (w : Written) (units : List SourceUnit) : Prop where
  paths_apart : w.paths.Nodup
  contents : List.Forall₂ (fun u path => w.tree.get? path = some u.content) units w.paths
  modules : ∀ u ∈ units, ∃ text, w.tree.get? u.listPath = some text ∧
    declaredModules text = (units.filter (·.modulePath = u.modulePath)).map (escape ·.moduleName) ∧
    (declaredModules text).Nodup

/-- The names of the modules for the tables that get a unit. -/
def Options.moduleNames (o : Options) (ts : List Table) : List String :=
  (ts.filter fun t => !o.excludes t.name).map (moduleName ·.name)

section Kept

variable {o : Options} {ts : List Table}

theorem moduleNames_eq : (emitAll o ts).map (·.moduleName) = o.moduleNames ts := by
  simp only [emitAll, Options.moduleNames, List.map_map, Function.comp_def, moduleName_emit]

private theorem one_line_escape {s : String} (word : IsWord s.toList) : '\n' ∉ (escape s).toList := by
  have kept : '\n' ∉ s.toList := word.not_mem (by decide)
  have mark : '\n' ∉ rawMark.toList := by decide
  rcases escape_cases s with ⟨-, same⟩ | ⟨-, same⟩ | same <;> simp [same, kept, mark]

/-- No two names for files of modules have the same identifier. -/
private theorem escape_inj {s r : String} (hs : IsStem s) (hr : IsStem r) (same : escape s = escape r) : s = r := by
  have no_hash {w : String} (stem : IsStem w) : '#' ∉ w.toList := stem.word.not_mem (by decide)
  rcases (escape_eq_escape_iff (no_hash hs) (no_hash hr)).mp same with same | ⟨plain, -⟩ | ⟨plain, -⟩
  · exact same
  · exact absurd plain hs.not_plain
  · exact absurd plain hr.not_plain

theorem isStem_of_mem_moduleNames {n : String} (h : n ∈ o.moduleNames ts) : IsStem n := by
  obtain ⟨t, -, rfl⟩ := List.mem_map.mp h
  exact isStem_moduleName t.name

theorem declaredModules_moduleList (path : Path) :
    declaredModules (UnitDirectory.moduleList ⟨path, emitAll o ts⟩) = (o.moduleNames ts).map escape := by
  have one_line : ∀ n ∈ (o.moduleNames ts).map escape, '\n' ∉ n.toList := by
    rw [List.forall_mem_map]
    exact fun n hn => one_line_escape (isStem_of_mem_moduleNames hn).word
  rw [← declaredModules_join one_line, ← moduleNames_eq, List.map_map, List.map_map]
  rfl

theorem nodup_map_escape_moduleNames_iff :
    ((o.moduleNames ts).map escape).Nodup ↔ (o.moduleNames ts).Nodup := by
  refine ⟨List.Nodup.of_map escape, fun nodup => nodup.map_on fun n hn m hm same => ?_⟩
  exact escape_inj (isStem_of_mem_moduleNames hn) (isStem_of_mem_moduleNames hm) same

/-! What a path holds when all goes into one directory. -/

section Directory

variable {path : Path} {w : Written} (together : ∀ u ∈ emitAll o ts, u.modulePath = path)
  (tree : w.tree = FileTree.putAll {} (unitWrites (emitAll o ts) ++
    [(path ++ ["mod.rs"], UnitDirectory.moduleList ⟨path, emitAll o ts⟩)]))

include together tree

theorem get?_listPath {u : SourceUnit} (hu : u ∈ emitAll o ts) :
    w.tree.get? u.listPath = some (UnitDirectory.moduleList ⟨path, emitAll o ts⟩) := by
  rw [tree, SourceUnit.listPath, together u hu]
  exact FileTree.get?_putAll_of_last (by simp)

/-- A unit stays as it was written if no later file has its path. -/
theorem get?_path (apart : (o.moduleNames ts).Nodup) (free : "mod" ∉ o.moduleNames ts) {u : SourceUnit}
    (hu : u ∈ emitAll o ts) : w.tree.get? u.path = some u.content := by
  rw [← moduleNames_eq] at apart free
  obtain ⟨front, back, split⟩ := List.append_of_mem hu
  have writes : unitWrites (emitAll o ts) = unitWrites front ++ (u.path, u.content) :: unitWrites back := by
    rw [split, unitWrites, List.map_append, List.map_cons]
    rfl
  have no_unit : u.path ∉ (unitWrites back).map (·.1) := by
    rw [split, List.map_append, List.map_cons] at apart
    have later := (List.nodup_cons.mp apart.of_append_right).1
    intro h
    obtain ⟨_, hw, same⟩ := List.mem_map.mp h
    obtain ⟨v, hv, rfl⟩ := List.mem_map.mp hw
    have hv' : v ∈ emitAll o ts := split ▸ List.mem_append_right front (List.mem_cons_of_mem u hv)
    have together' := (together v hv').trans (together u hu).symm
    exact later (List.mem_map.mpr ⟨v, hv, (SourceUnit.path_eq_path_iff together').mp same⟩)
  have no_list : u.path ≠ path ++ ["mod.rs"] := by
    intro same
    rw [← together u hu] at same
    exact free (List.mem_map.mpr ⟨u, hu, (SourceUnit.path_eq_listPath_iff rfl).mp same⟩)
  rw [tree, writes, List.append_assoc, List.cons_append]
  apply FileTree.get?_putAll_of_last
  rw [List.map_append, List.mem_append, not_or]
  exact ⟨no_unit, by simpa using no_list⟩

end Directory

/-- What is left when all the units go into one directory. -/
theorem keeps_iff_of_tree {path : Path} {w : Written} (together : ∀ u ∈ emitAll o ts, u.modulePath = path)
    (paths : w.paths = (emitAll o ts).map (·.path))
    (tree : w.tree = FileTree.putAll {} (unitWrites (emitAll o ts) ++
      [(path ++ ["mod.rs"], UnitDirectory.moduleList ⟨path, emitAll o ts⟩)])) :
    w.Keeps (emitAll o ts) ↔ (o.moduleNames ts).Nodup ∧ "mod" ∉ o.moduleNames ts := by
  have contents_iff : List.Forall₂ (fun u path => w.tree.get? path = some u.content) (emitAll o ts) w.paths ↔
      ∀ u ∈ emitAll o ts, w.tree.get? u.path = some u.content := by
    rw [paths, List.forall₂_map_right_iff, List.forall₂_same]
  constructor
  · intro kept
    constructor
    · have apart := kept.paths_apart
      rwa [paths, nodup_map_path_iff together, moduleNames_eq] at apart
    · intro is_mod
      rw [← moduleNames_eq, List.mem_map] at is_mod
      obtain ⟨u, hu, named⟩ := is_mod
      have content := contents_iff.mp kept.contents u hu
      rw [(SourceUnit.path_eq_listPath_iff rfl).mpr named, get?_listPath together tree hu] at content
      exact content_ne_moduleList hu (List.ne_nil_of_mem hu) (Option.some.inj content).symm
  · rintro ⟨apart, free⟩
    constructor
    · rwa [paths, nodup_map_path_iff together, moduleNames_eq]
    · exact contents_iff.mpr fun u hu => get?_path together tree apart free hu
    · intro u hu
      have all_here : (emitAll o ts).filter (·.modulePath = u.modulePath) = emitAll o ts :=
        List.filter_eq_self.mpr fun v hv => decide_eq_true ((together v hv).trans (together u hu).symm)
      refine ⟨_, get?_listPath together tree hu, ?_, ?_⟩
      · rw [declaredModules_moduleList, all_here, ← moduleNames_eq, List.map_map]
        rfl
      · rwa [declaredModules_moduleList, nodup_map_escape_moduleNames_iff]

end Kept

/-- Units that are written without a failure lose nothing exactly if the modules have distinct names and none of them
is called like the file that declares them. -/
theorem written_units_kept_iff (o : Options) (ts : List Table) (directory : String)
    (taken : ∀ d ∈ directories (emitAll o ts), ∀ w ∈ d.writes, isTaken directory w.1) :
    ∃ w, writeUnits directory (emitAll o ts) = .ok w ∧ w.paths = (emitAll o ts).map (·.path) ∧
      (w.Keeps (emitAll o ts) ↔ (o.moduleNames ts).Nodup ∧ "mod" ∉ o.moduleNames ts) := by
  refine ⟨_, writeUnits_of_taken taken, ?_⟩
  rcases eq_or_ne (emitAll o ts) [] with none | some_unit
  · have names : o.moduleNames ts = [] := by rw [← moduleNames_eq, none, List.map_nil]
    have kept : Written.Keeps ⟨[], {}⟩ [] := ⟨List.nodup_nil, .nil, fun _ h => absurd h List.not_mem_nil⟩
    rw [none, names, directories_nil]
    exact ⟨rfl, iff_of_true kept ⟨List.nodup_nil, List.not_mem_nil⟩⟩
  · have together : ∀ u ∈ emitAll o ts, u.modulePath = (o.package.map pathParts).getD [] :=
      fun u hu => modulePath_of_mem_emitAll hu
    have one := directories_of_together together some_unit
    obtain ⟨paths, writes⟩ := writes_of_together together
    simp only [one, List.flatMap_cons, List.flatMap_nil, List.append_nil, paths, writes, true_and]
    exact keeps_iff_of_tree together rfl rfl

/-- Options for units below a path of modules. -/
def inRows : Options := { package := some "app.rows" }

/-- A table with a name of one word. -/
def orders : Table where
  name := "Orders"
  columns := [{ name := "id", type := .bigint }]

/-- A table with a name of two words. -/
def orderItems : Table where
  name := "order items"
  columns := [{ name := "id", type := .bigint }]

theorem units_of_orders_kept :
    (∀ d ∈ directories (emitAll inRows [orders, orderItems]), ∀ w ∈ d.writes, isTaken "src" w.1) ∧
    ∃ w, writeUnits "src" (emitAll inRows [orders, orderItems]) = .ok w ∧
      w.paths = [["app", "rows", "orders.rs"], ["app", "rows", "order_items.rs"]] ∧
      w.Keeps (emitAll inRows [orders, orderItems]) := by
  have taken : ∀ d ∈ directories (emitAll inRows [orders, orderItems]), ∀ w ∈ d.writes, isTaken "src" w.1 := by
    decide +kernel
  obtain ⟨w, written, paths, kept⟩ := written_units_kept_iff inRows [orders, orderItems] "src" taken
  exact ⟨taken, w, written, paths.trans (by decide +kernel), kept.mpr (by decide +kernel)⟩

/-- A table that is called like the file for the modules. -/
def modTable : Table where
  name := "mod"
  columns := [{ name := "id", type := .bigint }]

theorem unit_of_mod_overwritten :
    modTable.Reachable ∧ ∃ w, writeUnits "src" (emitAll {} [modTable]) = .ok w ∧ w.paths = [["mod.rs"]] ∧
      w.tree.get? ["mod.rs"] = some "pub mod r#mod;\n" ∧ ¬ w.Keeps (emitAll {} [modTable]) := by
  refine ⟨by decide +kernel, ⟨[["mod.rs"]], ⟨[(["mod.rs"], "pub mod r#mod;\n")]⟩⟩, by decide +kernel, rfl,
    by decide +kernel, ?_⟩
  intro kept
  obtain - | ⟨content, -⟩ := kept.contents
  exact absurd content (by decide +kernel)

end SqlSchema.RowType
