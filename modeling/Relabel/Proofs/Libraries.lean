import Relabel.Proofs.Building
import Relabel.Proofs.Listing
import Relabel.Proofs.Readings
import Relabel.Run.Library

/-!
# Harvests of library trees

The declarations of a tree are put together file by file, in the order of a walk. A component keeps
the place that it got when it was first declared, and has the names of the file that declares it
last: nothing of an earlier file is left in its table. Blacklisted names are in no table. Where
something has to be opened under a path that is too long, the harvest fails.
-/

namespace Relabel

/-- The declarations of a source file with the given bytes. -/
def Harvest.ofBytes (bytes : Bytes) : Declarations :=
  ofText (Text.ofBytes bytes)

/-! ## 1. File after file -/

namespace HarvestSettings

variable (settings : HarvestSettings)

theorem entries_allowed (names : RenameTable) :
    (settings.allowed names).entries = names.entries.filter fun e => e.1 ∉ settings.blacklist := by
  rw [allowed, Table.filterKeys]
  simp

theorem eq_allowed_iff {table names : RenameTable} :
    table = settings.allowed names ↔
      table.entries = names.entries.filter fun e => e.1 ∉ settings.blacklist := by
  rw [← entries_allowed]
  exact ⟨congrArg Table.entries, Table.ext⟩

/-- No blacklisted name is left among what an entity declares. -/
theorem notMem_allowed {bytes : Bytes} {c : Name} {names : RenameTable}
    (h : (Harvest.ofBytes bytes).get? c = some names) {name : Name}
    (hname : name ∈ settings.blacklist) :
    name ∉ (settings.allowed names).keys ∧ name ∉ (settings.allowed names).values := by
  -- a table of declarations takes every name to itself, so what holds of its keys
  -- holds of its values
  rcases Harvest.exists_eq_identity h with ⟨declared, rfl⟩
  have hentry : ∀ e ∈ (settings.allowed (.identity declared)).entries,
      e.1 ∉ settings.blacklist ∧ e.2 = e.1 := by
    intro e he
    rw [entries_allowed, List.mem_filter, decide_eq_true_iff, Table.entries_identity,
      List.mem_map] at he
    rcases he with ⟨⟨own, -, rfl⟩, hallowed⟩
    exact ⟨hallowed, rfl⟩
  refine ⟨fun hkey => ?_, fun hvalue => ?_⟩
  · rcases List.mem_map.mp hkey with ⟨e, he, rfl⟩
    exact (hentry e he).1 hname
  · rcases List.mem_map.mp hvalue with ⟨e, he, rfl⟩
    exact (hentry e he).1 ((hentry e he).2 ▸ hname)

theorem addFile_eq_insertAll (sets declared : Declarations) :
    settings.addFile sets declared =
      sets.insertAll (declared.mapValues settings.allowed).entries := by
  rw [addFile, Table.insertAll, Table.mapValues, List.foldl_map]

theorem keys_addFile (sets declared : Declarations) :
    (settings.addFile sets declared).keys = (sets.keys ++ declared.keys).eraseDups := by
  rw [addFile_eq_insertAll, Table.keys_insertAll, ← Table.keys_mapValues settings.allowed declared]
  rfl

/-- A file has its say about the components that it declares, and leaves the others alone. -/
theorem get?_addFile (sets declared : Declarations) (c : Name) :
    (settings.addFile sets declared).get? c =
      ((declared.get? c).map settings.allowed).or (sets.get? c) := by
  rw [addFile_eq_insertAll, Table.get?_insertAll (Table.nodup _), ← Table.get?_mapValues]
  rfl

/-- What files come to one after the other, by what each of them declares. -/
def library {α : Type} (declared : α → Declarations) (sets : Declarations) (files : List α) :
    Declarations :=
  files.foldl (fun sets file => settings.addFile sets (declared file)) sets

variable {α : Type} (declared : α → Declarations)

theorem keys_library (sets : Declarations) (files : List α) :
    (settings.library declared sets files).keys =
      (sets.keys ++ files.flatMap fun file => (declared file).keys).eraseDups := by
  induction files generalizing sets with
  | nil => rw [library, List.foldl_nil, List.flatMap_nil, List.append_nil, Table.eraseDups_keys]
  | cons file files ih =>
    have hstep : settings.library declared sets (file :: files) =
        settings.library declared (settings.addFile sets (declared file)) files := rfl
    rw [hstep, ih, keys_addFile, eraseDups_eraseDups_append, List.append_assoc, List.flatMap_cons]

theorem get?_library_eq (sets : Declarations) (files : List α) (c : Name) :
    (settings.library declared sets files).get? c =
      ((files.reverse.findSome? fun file => (declared file).get? c).map settings.allowed).or
        (sets.get? c) := by
  -- what is in `sets` counts only where no file has a say, so it has to be general
  induction files generalizing sets with
  | nil => rfl
  | cons file files ih =>
    have hstep : settings.library declared sets (file :: files) =
        settings.library declared (settings.addFile sets (declared file)) files := rfl
    rw [hstep, ih, get?_addFile, List.reverse_cons, List.findSome?_append, Option.map_or,
      Option.or_assoc, List.findSome?_singleton]

/-- The table of a component is that of the last file which declares it. -/
theorem get?_library_eq_some {files : List α} {c : Name} {table : RenameTable} :
    (settings.library declared ∅ files).get? c = some table ↔
      ∃ before file after names, files = before ++ file :: after ∧
        (declared file).get? c = some names ∧
        (∀ later ∈ after, c ∉ (declared later).keys) ∧ table = settings.allowed names := by
  have hempty : (∅ : Declarations).get? c = none := rfl
  rw [get?_library_eq, hempty, Option.or_none, Option.map_eq_some_iff]
  -- the first file of the reversed list is the last of the list
  simp only [List.findSome?_eq_some_iff]
  constructor
  · rintro ⟨names, ⟨later, file, earlier, hfiles, hnames, hlater⟩, rfl⟩
    refine ⟨earlier.reverse, file, later.reverse, names, ?_, hnames, ?_, rfl⟩
    · simpa using congrArg List.reverse hfiles
    · exact fun other hother => Table.get?_eq_none.mp (hlater other (List.mem_reverse.mp hother))
  · rintro ⟨before, file, after, names, rfl, hnames, hafter, rfl⟩
    refine ⟨names, ⟨after.reverse, file, before.reverse, by simp, hnames, ?_⟩, rfl⟩
    exact fun later hlater => Table.get?_eq_none.mpr (hafter later (List.mem_reverse.mp hlater))

end HarvestSettings

open Node Disk

/-! ## 2. Files that are read -/

namespace Disk

/-- A file below a path is read under the two joined, if they are not too long. -/
theorem read_joinPath {disk : Disk} (hplain : disk.root.isPlain = true) {root : Text} {node : Node}
    (hfind : disk.find root = .ok node) {location : Location} {bytes : Bytes}
    (hfile : node.get? location = some (file bytes))
    (hlong : byteLength (joinPath root location) ≤ pathLimit) :
    disk.read (joinPath root location) = .ok bytes := by
  rcases resolve_of_find hfind with ⟨base, hbase⟩
  rw [read, find, resolve_joinPath hplain (by decide) hbase hfile hlong]
  rfl

end Disk

namespace Run

variable (settings : HarvestSettings) (sets : Declarations) {session : Session}

/-- A file that can be read is harvested, and the run goes on from the same disk. -/
theorem outcome_harvestFiles_cons {path : Text} {bytes : Bytes}
    (h : session.disk.read path = .ok bytes) (rest : List Text) :
    ∃ log, outcome (harvestFiles settings sets (path :: rest)) session =
      outcome (harvestFiles settings (settings.addFile sets (Harvest.ofBytes bytes)) rest)
        { session with log } := by
  simp only [harvestFiles, harvestFile, say, outcome_bind, outcome_note, outcome_readSource, h,
    Except.mapError, Except.map, outcome_pure]
  exact ⟨_, rfl⟩

theorem outcome_harvestFiles_cons_of_unread {path : Text} {cause : DiskError}
    (h : session.disk.read path = .error cause) (rest : List Text) :
    ∃ e after, outcome (harvestFiles settings sets (path :: rest)) session = (.error e, after) := by
  simp only [harvestFiles, harvestFile, say, outcome_bind, outcome_note, outcome_readSource, h,
    Except.mapError, Except.map]
  exact ⟨_, _, rfl⟩

theorem outcome_harvestFiles {α : Type} {path : α → Text} {bytes : α → Bytes} {files : List α}
    (hread : ∀ file ∈ files, session.disk.read (path file) = .ok (bytes file)) :
    ∃ log, outcome (harvestFiles settings sets (files.map path)) session =
      (.ok (settings.library (fun file => Harvest.ofBytes (bytes file)) sets files),
        { session with log }) := by
  induction files generalizing sets session with
  | nil => exact ⟨_, rfl⟩
  | cons file files ih =>
    rcases outcome_harvestFiles_cons settings sets (hread file List.mem_cons_self)
      (files.map path) with ⟨log, hout⟩
    rw [List.map_cons, hout]
    exact ih _ fun other hother => hread other (List.mem_cons_of_mem file hother)

theorem exists_error_of_unread {paths : List Text} {path : Text} (hpath : path ∈ paths)
    {cause : DiskError} (hread : session.disk.read path = .error cause) :
    ∃ e after, outcome (harvestFiles settings sets paths) session = (.error e, after) := by
  induction paths generalizing sets session with
  | nil => contradiction
  | cons first rest ih =>
    cases hfirst : session.disk.read first with
    | error cause' => exact outcome_harvestFiles_cons_of_unread settings sets hfirst rest
    | ok bytes =>
      -- a path that cannot be read is not the one that was
      have hrest : path ∈ rest := by
        refine (List.mem_cons.mp hpath).resolve_left ?_
        rintro rfl
        rw [hread] at hfirst
        contradiction
      rcases outcome_harvestFiles_cons settings sets hfirst rest with ⟨log, hout⟩
      rw [hout]
      exact ih _ hrest hread

end Run

/-! ## 3. Trees -/

namespace Run

variable {pattern : Glob} {root : Text} {node : Node}

/-- The files of a tree whose names a pattern stands for, with their bytes, in the
order of a walk. -/
def matchingFiles (pattern : Glob) (root : Text) (node : Node) : List (Location × Bytes) :=
  (matching pattern root node).filterMap fun location =>
    ((node.get? location).bind bytes?).map (location, ·)

theorem mem_matching (hplain : node.isPlain = true) {location : Location} :
    location ∈ matching pattern root node ↔ (∃ bytes, node.get? location = some (file bytes)) ∧
      pattern.standsFor (pathName (joinPath root location)) = true := by
  rw [matching, List.mem_filter, mem_files hplain]

theorem mem_matchingFiles (hplain : node.isPlain = true) {location : Location} {bytes : Bytes} :
    (location, bytes) ∈ matchingFiles pattern root node ↔ node.get? location = some (file bytes) ∧
      pattern.standsFor (pathName (joinPath root location)) = true := by
  simp only [matchingFiles, List.mem_filterMap, Option.map_eq_some_iff, Option.bind_eq_some_iff]
  constructor
  · rintro ⟨found, hfound, old, ⟨child, hchild, hold⟩, heq⟩
    rcases Prod.mk.inj heq with ⟨rfl, rfl⟩
    rcases (mem_matching hplain).mp hfound with ⟨⟨new, hfile⟩, hstands⟩
    rcases Option.some.inj (hchild.symm.trans hfile) with rfl
    rcases Option.some.inj hold with rfl
    exact ⟨hfile, hstands⟩
  · rintro ⟨hfile, hstands⟩
    exact ⟨location, (mem_matching hplain).mpr ⟨⟨bytes, hfile⟩, hstands⟩, bytes, ⟨_, hfile, rfl⟩,
      rfl⟩

theorem map_fst_matchingFiles (hplain : node.isPlain = true) :
    (matchingFiles pattern root node).map Prod.fst = matching pattern root node := by
  have hentry : ∀ location ∈ matching pattern root node,
      (((node.get? location).bind bytes?).map (location, ·)).map Prod.fst = some location := by
    intro location hlocation
    rcases (mem_matching hplain).mp hlocation with ⟨⟨bytes, hfile⟩, -⟩
    rw [hfile]
    rfl
  rw [matchingFiles, List.map_filterMap, List.filterMap_congr hentry, List.filterMap_some]

/-- Whether a harvest of the tree at `root` opens what is at a location: it opens every directory,
and the files with a name that the pattern stands for. -/
def IsOpened (pattern : Glob) (root : Text) (node : Node) (location : Location) : Prop :=
  (∃ entries, node.get? location = some (dir entries)) ∨
    (∃ bytes, node.get? location = some (file bytes)) ∧
      pattern.standsFor (pathName (joinPath root location)) = true

theorem exists_error_of_not_reaches {disk : Disk} (hplain : disk.root.isPlain = true)
    (hreaches : disk.reaches root = false) (settings : HarvestSettings) (pattern : Glob) :
    ∃ e, (Session.run disk (harvestTree settings pattern root)).1 = .error e := by
  rcases outcome_sourceFiles_of_stop hplain hreaches pattern with ⟨e, log, hout⟩
  show ∃ e, (outcome (harvestTree settings pattern root) { disk }).1 = .error e
  rw [harvestTree, outcome_bind, hout]
  exact ⟨e, rfl⟩

section Found

variable {disk : Disk} (hplain : disk.root.isPlain = true) (hfind : disk.find root = .ok node)

include hplain hfind

theorem outcome_sourceFiles_of_find (hreaches : disk.reaches root = true) (pattern : Glob) :
    ∃ log, outcome (sourceFiles root pattern) { disk } =
      (.ok ((matching pattern root node).map (joinPath root)), { disk, log }) := by
  rcases outcome_sourceFiles_of_none { disk } ((stop_walk_eq_none hplain root).mpr hreaches)
    pattern with ⟨log, hout⟩
  have hlisting : (outcome (sourceFiles root pattern) { disk }).1 = _ :=
    run_sourceFiles_of_reaches hplain hfind hreaches pattern
  rw [hout] at hlisting
  exact ⟨log, hout.trans (congrArg (·, _) hlisting)⟩

theorem forall_isOpened_iff :
    (∀ location, IsOpened pattern root node location →
      byteLength (joinPath root location) ≤ pathLimit) ↔
      disk.reaches root = true ∧
        ∀ location ∈ matching pattern root node,
          byteLength (joinPath root location) ≤ pathLimit := by
  have hnode := isPlain_of_find hplain hfind
  rw [reaches_iff hfind hnode]
  constructor
  · intro h
    exact ⟨fun location entries hdir => h location (.inl ⟨entries, hdir⟩),
      fun location hmem => h location (.inr ((mem_matching hnode).mp hmem))⟩
  · rintro ⟨hdirs, hfiles⟩ location (⟨entries, hdir⟩ | hfile)
    · exact hdirs location entries hdir
    · exact hfiles location ((mem_matching hnode).mpr hfile)

theorem harvestTree_eq_library (settings : HarvestSettings)
    (hshort : ∀ location, IsOpened pattern root node location →
      byteLength (joinPath root location) ≤ pathLimit) :
    (Session.run disk (harvestTree settings pattern root)).1 =
      .ok (settings.library (fun f => Harvest.ofBytes f.2) ∅
        (matchingFiles pattern root node)) := by
  have hnode := isPlain_of_find hplain hfind
  rcases (forall_isOpened_iff hplain hfind).mp hshort with ⟨hreaches, hfiles⟩
  rcases outcome_sourceFiles_of_find hplain hfind hreaches pattern with ⟨log, hlisting⟩
  have hread : ∀ f ∈ matchingFiles pattern root node, disk.read (joinPath root f.1) = .ok f.2 := by
    intro f hf
    rcases (mem_matchingFiles hnode).mp hf with ⟨hfile, hstands⟩
    exact read_joinPath hplain hfind hfile
      (hfiles f.1 ((mem_matching hnode).mpr ⟨⟨f.2, hfile⟩, hstands⟩))
  rcases @outcome_harvestFiles settings ∅ ⟨disk, log⟩ (Location × Bytes)
    (fun f => joinPath root f.1) Prod.snd _ hread with ⟨log', hout⟩
  have hpaths : (matchingFiles pattern root node).map (fun f => joinPath root f.1) =
      (matching pattern root node).map (joinPath root) := by
    rw [← map_fst_matchingFiles hnode, List.map_map]
    rfl
  show (outcome (harvestTree settings pattern root) { disk }).1 = _
  rw [harvestTree, outcome_bind, hlisting]
  show (outcome (harvestFiles settings ∅ ((matching pattern root node).map (joinPath root)))
    ⟨disk, log⟩).1 = _
  rw [← hpaths, hout]

theorem exists_error_of_long_path (settings : HarvestSettings) {location : Location}
    (hopened : IsOpened pattern root node location)
    (hlong : pathLimit < byteLength (joinPath root location)) :
    ∃ e, (Session.run disk (harvestTree settings pattern root)).1 = .error e := by
  have hnode := isPlain_of_find hplain hfind
  cases hreaches : disk.reaches root with
  | false => exact exists_error_of_not_reaches hplain hreaches settings pattern
  | true =>
    rcases hopened with ⟨entries, hdir⟩ | hfile
    · -- the walk comes to its end, so every directory can be opened
      have hshort := (reaches_iff hfind hnode).mp hreaches location entries hdir
      omega
    · rcases outcome_sourceFiles_of_find hplain hfind hreaches pattern with ⟨log, hlisting⟩
      rcases @read_of_pathLimit_lt disk _ hlong with ⟨cause, hread⟩
      have hpath : joinPath root location ∈ (matching pattern root node).map (joinPath root) :=
        List.mem_map_of_mem ((mem_matching hnode).mpr hfile)
      rcases @exists_error_of_unread settings ∅ ⟨disk, log⟩ _ _ hpath _ hread with ⟨e, after, hout⟩
      show ∃ e, (outcome (harvestTree settings pattern root) { disk }).1 = .error e
      rw [harvestTree, outcome_bind, hlisting]
      exact ⟨e, congrArg Prod.fst hout⟩

end Found

/-- What files that are read one after the other have to come to. -/
structure KeepsLast (settings : HarvestSettings) (files : List (Location × Bytes))
    (sets : Declarations) : Prop where
  /-- The components that the files declare, each where it comes up first. -/
  keys : sets.keys = (files.flatMap fun f => (Harvest.ofBytes f.2).keys).eraseDups
  /-- What the last file that declares a component has for it, without the blacklisted names. -/
  table : ∀ c table, sets.get? c = some table ↔
    ∃ before f after names, files = before ++ f :: after ∧
      (Harvest.ofBytes f.2).get? c = some names ∧
      (∀ later ∈ after, c ∉ (Harvest.ofBytes later.2).keys) ∧
      table.entries = names.entries.filter fun e => e.1 ∉ settings.blacklist
  /-- No blacklisted name is left. -/
  allowed : ∀ c table, sets.get? c = some table → ∀ name ∈ settings.blacklist,
    name ∉ table.keys ∧ name ∉ table.values

theorem keepsLast_library (settings : HarvestSettings) (files : List (Location × Bytes)) :
    KeepsLast settings files (settings.library (fun f => Harvest.ofBytes f.2) ∅ files) := by
  refine ⟨settings.keys_library _ ∅ files, ?_, ?_⟩
  · intro c table
    rw [HarvestSettings.get?_library_eq_some]
    simp only [settings.eq_allowed_iff]
  · intro c table hget name hname
    rcases (settings.get?_library_eq_some _).mp hget with
      ⟨before, f, after, names, -, hnames, -, rfl⟩
    exact settings.notMem_allowed hnames hname

/-- A harvest of a tree without links has the components that are declared in the files whose names
the pattern stands for, in the order in which they come up when these files are gone through in the
order of paths. A component has the names that the last of the files has for it, without the
blacklisted ones. Where nothing is at the root, or where a directory or such a file has a path that
is too long to be opened, there is no harvest. -/
theorem harvestTree_keeps_last_declarations {disk : Disk} (hplain : disk.root.isPlain = true)
    (root : Text) (settings : HarvestSettings) (pattern : Glob) :
    (∀ node, disk.find root = .ok node →
      ((∀ location, IsOpened pattern root node location →
        byteLength (joinPath root location) ≤ pathLimit) →
        ∃ (files : List (Location × Bytes)) (sets : Declarations),
          (∀ location bytes, (location, bytes) ∈ files ↔ node.get? location = some (file bytes) ∧
            pattern.standsFor (pathName (joinPath root location)) = true) ∧
          (files.map Prod.fst).Pairwise PathLt ∧
          (Session.run disk (harvestTree settings pattern root)).1 = .ok sets ∧
          KeepsLast settings files sets) ∧
      ((∃ location, IsOpened pattern root node location ∧
        pathLimit < byteLength (joinPath root location)) →
        ∃ e, (Session.run disk (harvestTree settings pattern root)).1 = .error e)) ∧
      (disk.exists? root = false →
        ∃ e, (Session.run disk (harvestTree settings pattern root)).1 = .error e) := by
  refine ⟨fun node hfind => ⟨?_, ?_⟩, ?_⟩
  · intro hshort
    have hnode := isPlain_of_find hplain hfind
    refine ⟨matchingFiles pattern root node, _, fun location bytes => mem_matchingFiles hnode, ?_,
      harvestTree_eq_library hplain hfind settings hshort, keepsLast_library settings _⟩
    rw [map_fst_matchingFiles hnode]
    exact (pairwise_files hnode).filter _
  · rintro ⟨location, hopened, hlong⟩
    exact exists_error_of_long_path hplain hfind settings hopened hlong
  · intro hmissing
    refine exists_error_of_not_reaches hplain ?_ settings pattern
    rw [exists?] at hmissing
    rw [reaches]
    cases hfind : disk.find root with
    | error cause => rfl
    | ok node =>
      rw [hfind] at hmissing
      contradiction

/-- The file that comes later in the order of paths has the shorter path. It declares `c`
anew, and an entity with a blacklisted name only; what was declared as `c` before is gone, and
`d` is still there. -/
theorem harvestTree_keeps_last_declarations_redeclared :
    let settings : HarvestSettings := { blacklist := ["Clk".toList] }
    let pattern : Glob := [.anyRun, .literal '.', .literal 'v', .literal 'h', .literal 'd']
    let first := Text.toUtf8
      "entity c is\n  a : in;\n  b : in;\nend entity;\nentity d is\n  x : in;\n".toList
    let second :=
      Text.toUtf8 "entity e is\n  Clk : in;\nentity c is\n  Clk : in;\n  b : in;\n".toList
    let node := Node.dir [("a".toList, .dir [("x.vhd".toList, .file first)]),
      ("a-b.vhd".toList, .file second), ("b.txt".toList, .file first)]
    let disk : Disk := { root := .dir [("s".toList, node)] }
    let root := "s/".toList
    let sets : Declarations :=
      .ofList [("c".toList, .identity ["b".toList]), ("d".toList, .identity ["x".toList]),
        ("e".toList, .identity [])]
    (settings.pattern.toOption = some pattern ∧ disk.root.isPlain = true ∧
        disk.find root = .ok node ∧
        ∀ location, IsOpened pattern root node location →
          byteLength (joinPath root location) ≤ pathLimit) ∧
      (Session.run disk (harvestTree settings pattern root)).1 = .ok sets ∧
      ∃ files : List (Location × Bytes),
        (∀ location bytes, (location, bytes) ∈ files ↔ node.get? location = some (file bytes) ∧
          pattern.standsFor (pathName (joinPath root location)) = true) ∧
        (files.map Prod.fst).Pairwise PathLt ∧ KeepsLast settings files sets := by
  repeat rw [String.toList_ofList]
  intro settings pattern first second node disk root sets
  have hplain : disk.root.isPlain = true := by decide +kernel
  have hfound : disk.find root = .ok node := by rfl
  have hvisits :
      node.visits = [⟨[], true⟩, ⟨["a".toList], true⟩, ⟨["a".toList, "x.vhd".toList], false⟩,
        ⟨["a-b.vhd".toList], false⟩, ⟨["b.txt".toList], false⟩] := by
    rw [visits, sortByName, List.mergeSort_of_pairwise (by decide +kernel)]
    decide +kernel
  have hmatching : matching pattern root node =
      [["a".toList, "x.vhd".toList], ["a-b.vhd".toList]] := by
    rw [matching, files, hvisits]
    decide +kernel
  have hreaches : disk.reaches root = true := by
    rw [reaches, hfound]
    dsimp only
    rw [hvisits]
    decide +kernel
  have hshort :=
    (forall_isOpened_iff hplain hfound).mpr ⟨hreaches, by rw [hmatching]; decide +kernel⟩
  have hsets : (Session.run disk (harvestTree settings pattern root)).1 = .ok sets := by
    rw [harvestTree_eq_library hplain hfound settings hshort, matchingFiles, hmatching]
    decide +kernel
  rcases (harvestTree_keeps_last_declarations hplain root settings pattern).1 node hfound with
    ⟨hharvest, -⟩
  rcases hharvest hshort with ⟨files, sets', hfiles, hordered, hsets', hkeeps⟩
  rcases Except.ok.inj (hsets.symm.trans hsets') with rfl
  exact ⟨⟨by decide +kernel, hplain, hfound, hshort⟩, hsets, files, hfiles, hordered, hkeeps⟩

/-- The walk comes to a file whose path is too long to read it, so there is no harvest. -/
theorem harvestTree_fails_at_long_path :
    let settings : HarvestSettings := { blacklist := [] }
    let pattern : Glob := [.anyRun, .literal '.', .literal 'v', .literal 'h', .literal 'd']
    let bytes := Text.toUtf8 "entity c is\n  a : in;\n".toList
    let disk : Disk := { root := .dir [("a.vhd".toList, .file bytes)] }
    let root := stay 2047
    settings.pattern.toOption = some pattern ∧ disk.root.isPlain = true ∧ disk.exists? root = true ∧
      disk.find root = .ok disk.root ∧ disk.root.get? ["a.vhd".toList] = some (file bytes) ∧
      pattern.standsFor "a.vhd".toList = true ∧
      Harvest.ofBytes bytes = .ofList [("c".toList, .identity ["a".toList])] ∧
      ∃ e, (Session.run disk (harvestTree settings pattern root)).1 = .error e := by
  intro settings pattern bytes disk root
  have hplain : disk.root.isPlain = true := by decide +kernel
  have hfind : disk.find root = .ok disk.root := find_stay rfl (by decide) (by decide)
  have hget : disk.root.get? ["a.vhd".toList] = some (file bytes) := rfl
  have hstands : pattern.standsFor "a.vhd".toList = true := by decide +kernel
  have hjoin : joinPath root ["a.vhd".toList] = root ++ "a.vhd".toList :=
    joinPath_stay (by decide) _
  have hlong : pathLimit < byteLength (joinPath root ["a.vhd".toList]) := by
    rw [hjoin, byteLength_append, byteLength_stay]
    decide
  have hopened : IsOpened pattern root disk.root ["a.vhd".toList] := by
    refine .inr ⟨⟨bytes, hget⟩, ?_⟩
    rw [pathName_joinPath root (isPlain_of_get? hplain hget).2]
    exact hstands
  exact ⟨by decide +kernel, hplain, exists?_of_find hfind, hfind, hget, hstands, by decide +kernel,
    exists_error_of_long_path hplain hfind settings hopened hlong⟩

end Run

end Relabel
