import Mathlib.Data.List.Lex
import Relabel.Proofs.Paths
import Relabel.Proofs.Sessions

/-!
# What a tree is listed as

A walk goes into a directory before it goes on, and over the entries of a directory by name. So it
comes to every file of a plain tree once, in the order in which paths are compared name by name. The
listing is made of those with a name that the pattern stands for; it fails where a directory has a
path that is too long to be opened.
-/

namespace Relabel

namespace Node

/-! ## 1. The order of paths -/

/-- Whether a name comes in front of another one: names are ordered like words, characters
by their numbers. -/
def NameLt : Name → Name → Prop :=
  List.Lex fun c d => c.toNat < d.toNat

/-- Whether a path comes in front of another one when they are compared name by name. -/
def PathLt : List Name → List Name → Prop :=
  List.Lex NameLt

theorem NameLt.ne {a b : Name} (h : NameLt a b) : a ≠ b :=
  List.Lex.to_ne (h.imp fun _ _ hlt heq => hlt.ne (congrArg Char.toNat heq))

theorem PathLt.ne {p q : List Name} (h : PathLt p q) : p ≠ q :=
  List.Lex.to_ne (h.imp fun _ _ => NameLt.ne)

theorem precedes_cons {c d : Char} {a b : Name} :
    precedes (c :: a) (d :: b) = true ↔ c.toNat < d.toNat ∨ c = d ∧ precedes a b = true := by
  rw [precedes]
  by_cases hcd : c = d
  · subst hcd
    simp
  · simp [hcd]

theorem precedes_total (a b : Name) : (precedes a b || precedes b a) = true := by
  induction a generalizing b with
  | nil => rfl
  | cons c a ih =>
    cases b with
    | nil => rfl
    | cons d b =>
      rw [Bool.or_eq_true, precedes_cons, precedes_cons]
      rcases Nat.lt_trichotomy c.toNat d.toNat with hlt | heq | hgt
      · exact .inl (.inl hlt)
      · rcases Char.toNat_inj.mp heq with rfl
        exact (Bool.or_eq_true_iff.mp (ih b)).imp (fun h => .inr ⟨rfl, h⟩) fun h => .inr ⟨rfl, h⟩
      · exact .inr (.inl hgt)

theorem precedes_trans (a b c : Name) (hab : precedes a b = true) (hbc : precedes b c = true) :
    precedes a c = true := by
  induction a generalizing b c with
  | nil => rfl
  | cons x a ih =>
    cases b with
    | nil => contradiction
    | cons y b =>
      cases c with
      | nil => contradiction
      | cons z c =>
        rw [precedes_cons] at hab hbc ⊢
        rcases hab with hxy | ⟨rfl, hab⟩
        · rcases hbc with hyz | ⟨rfl, -⟩
          · exact .inl (hxy.trans hyz)
          · exact .inl hxy
        · exact hbc.imp_right fun ⟨heq, hbc⟩ => ⟨heq, ih b c hab hbc⟩

theorem nameLt_of_precedes {a b : Name} (h : precedes a b = true) (hne : a ≠ b) : NameLt a b := by
  induction a generalizing b with
  | nil =>
    cases b with
    | nil => contradiction
    | cons d b => exact .nil
  | cons c a ih =>
    cases b with
    | nil => contradiction
    | cons d b =>
      rcases precedes_cons.mp h with hlt | ⟨rfl, hab⟩
      · exact .rel hlt
      · exact .cons (ih hab fun heq => hne (congrArg _ heq))

theorem pairwise_sortByName {α : Type} {entries : List (Name × α)}
    (h : (entries.map Prod.fst).Nodup) :
    (sortByName entries).Pairwise fun e f => NameLt e.1 f.1 := by
  have hperm : (sortByName entries).Perm entries := List.mergeSort_perm entries _
  have hdistinct : (sortByName entries).Pairwise fun e f => e.1 ≠ f.1 :=
    List.pairwise_map.mp ((hperm.map Prod.fst).nodup_iff.mpr h)
  have hsorted : (sortByName entries).Pairwise fun e f => precedes e.1 f.1 = true :=
    List.pairwise_mergeSort (fun a b c => precedes_trans a.1 b.1 c.1)
      (fun a b => precedes_total a.1 b.1) entries
  exact hsorted.imp₂ (fun e f => nameLt_of_precedes) hdistinct

/-! ## 2. What a walk comes to -/

/-- A walk over a plain tree comes to each node once, and goes by the order of paths. -/
theorem pairwise_visits {node : Node} (hplain : node.isPlain = true) :
    node.visits.Pairwise fun v w => PathLt v.location w.location := by
  induction node using tree_induction with
  | file bytes => exact List.pairwise_singleton _ _
  | link target => contradiction
  | dir entries ih =>
    rcases isPlain_dir.mp hplain with ⟨hnodup, hentries⟩
    have hnames : ((visitsByEntry entries).map Prod.fst).Nodup := by
      rwa [visitsByEntry_eq_map, List.map_map]
    rw [visits, List.pairwise_cons, List.pairwise_flatMap]
    refine ⟨?_, ?_, ?_⟩
    · -- the directory itself comes first
      intro visit hvisit
      rcases List.mem_flatMap.mp hvisit with ⟨e, -, hbelow⟩
      rcases List.mem_map.mp hbelow with ⟨below, -, rfl⟩
      exact .nil
    · intro e he
      have hmem : e ∈ visitsByEntry entries := (List.mergeSort_perm _ _).mem_iff.mp he
      rw [visitsByEntry_eq_map] at hmem
      rcases List.mem_map.mp hmem with ⟨entry, hentry, rfl⟩
      rw [List.pairwise_map]
      exact (ih entry hentry (hentries entry hentry).2).imp .cons
    · -- what is below an earlier entry comes before what is below a later one
      refine (pairwise_sortByName hnames).imp ?_
      intro e f hlt visit hvisit visit' hvisit'
      rcases List.mem_map.mp hvisit with ⟨below, -, rfl⟩
      rcases List.mem_map.mp hvisit' with ⟨below', -, rfl⟩
      exact .rel hlt

/-- A walk passes over nothing but links. -/
theorem mem_visits_of_get? {node : Node} {visit : Visit}
    (h : if visit.isDirectory then ∃ entries, node.get? visit.location = some (dir entries)
      else ∃ bytes, node.get? visit.location = some (file bytes)) : visit ∈ node.visits := by
  rcases visit with ⟨location, isDirectory⟩
  induction location generalizing node with
  | nil =>
    cases isDirectory with
    | true =>
      rcases h with ⟨entries, hnode⟩
      have hdir : node = dir entries := Option.some.inj hnode
      subst hdir
      exact mem_visits_dir.mpr (.inl rfl)
    | false =>
      rcases h with ⟨bytes, hnode⟩
      have hfile : node = file bytes := Option.some.inj hnode
      subst hfile
      exact List.mem_singleton_self _
  | cons name rest ih =>
    have hbelow : ∃ entries next, node = dir entries ∧ valueAt? name entries = some next ∧
        ⟨rest, isDirectory⟩ ∈ next.visits := by
      cases isDirectory with
      | true =>
        rcases h with ⟨below, hbelow⟩
        rcases exists_of_get?_cons hbelow with ⟨entries, next, hnode, hnext, hrest⟩
        exact ⟨entries, next, hnode, hnext, ih ⟨below, hrest⟩⟩
      | false =>
        rcases h with ⟨bytes, hbytes⟩
        rcases exists_of_get?_cons hbytes with ⟨entries, next, hnode, hnext, hrest⟩
        exact ⟨entries, next, hnode, hnext, ih ⟨bytes, hrest⟩⟩
    rcases hbelow with ⟨entries, next, rfl, hnext, hmem⟩
    exact mem_visits_dir.mpr (.inr ⟨(name, next), mem_of_valueAt? hnext, _, hmem, rfl⟩)

theorem mem_files {node : Node} (hplain : node.isPlain = true) {location : Location} :
    location ∈ node.files ↔ ∃ bytes, node.get? location = some (file bytes) := by
  constructor
  · intro h
    rcases List.mem_map.mp h with ⟨visit, hvisit, rfl⟩
    rcases List.mem_filter.mp hvisit with ⟨hmem, hfile⟩
    have hget := get?_of_mem_visits hplain hmem
    rwa [if_neg (by simpa using hfile)] at hget
  · intro h
    have hmem : ⟨location, false⟩ ∈ node.visits := mem_visits_of_get? h
    exact List.mem_map.mpr ⟨_, List.mem_filter.mpr ⟨hmem, rfl⟩, rfl⟩

theorem pairwise_files {node : Node} (hplain : node.isPlain = true) :
    node.files.Pairwise PathLt := by
  rw [files, List.pairwise_map]
  exact (pairwise_visits hplain).filter _

end Node

open Node

namespace Disk

/-! ## 3. Paths of the files below a path -/

theorem pathName_joinPath (path : Text) {location : Location}
    (hnames : ∀ name ∈ location, IsFileName name) :
    pathName (joinPath path location) = location.getLastD (pathName path) := by
  cases location with
  | nil => rfl
  | cons name rest =>
    rcases exists_pathNames_joinPath path with ⟨front, -, hjoin⟩
    rw [pathName, hjoin _ (List.cons_ne_nil name rest) hnames]
    simp [List.getLastD_eq_getLast?, List.getLast?_cons]

/-- Paths below one path are ordered like the locations. -/
theorem pairwise_joinPath (path : Text) {node : Node} (hplain : node.isPlain = true) :
    (node.files.map (joinPath path)).Pairwise fun p q => PathLt (pathNames p) (pathNames q) := by
  rcases exists_pathNames_joinPath path with ⟨front, -, hjoin⟩
  rw [List.pairwise_map]
  refine (pairwise_files hplain).imp_of_mem ?_
  intro location location' hmem hmem' hlt
  rcases (mem_files hplain).mp hmem with ⟨bytes, hget⟩
  rcases (mem_files hplain).mp hmem' with ⟨bytes', hget'⟩
  have hlast : location' ≠ [] := by
    rintro rfl
    cases hlt
  have hfirst : location ≠ [] := by
    -- a tree that is a file has nothing below it
    rintro rfl
    rcases Option.some.inj hget with rfl
    cases location' with
    | nil => contradiction
    | cons name rest => contradiction
  rw [hjoin location hfirst (isPlain_of_get? hplain hget).2,
    hjoin location' hlast (isPlain_of_get? hplain hget').2]
  exact hlt.append_left NameLt front

/-- A walk comes to its end where every directory can be opened. -/
theorem reaches_iff {disk : Disk} {root : Text} {node : Node} (hfind : disk.find root = .ok node)
    (hplain : node.isPlain = true) :
    disk.reaches root = true ↔ ∀ location entries, node.get? location = some (dir entries) →
      byteLength (joinPath root location) ≤ pathLimit := by
  simp only [reaches, hfind, List.all_eq_true]
  constructor
  · intro h location entries hdir
    have hmem : ⟨location, true⟩ ∈ node.visits := mem_visits_of_get? ⟨entries, hdir⟩
    simpa [goesOn] using h _ hmem
  · intro h visit hvisit
    have hget := get?_of_mem_visits hplain hvisit
    cases hdirectory : visit.isDirectory with
    | false => simp [goesOn, hdirectory]
    | true =>
      rw [hdirectory, if_pos rfl] at hget
      rcases hget with ⟨entries, hdir⟩
      simp [goesOn, h visit.location entries hdir]

theorem met_walk {disk : Disk} (hplain : disk.root.isPlain = true) {root : Text} {node : Node}
    (hfind : disk.find root = .ok node) (hreaches : disk.reaches root = true) :
    (disk.walk root).met =
      node.files.map fun location =>
        ⟨joinPath root location, location.getLastD (pathName root)⟩ := by
  have hall : node.visits.takeWhile (goesOn root) = node.visits := by
    simp only [reaches, hfind, List.all_eq_true] at hreaches
    exact List.takeWhile_eq_self_iff.mpr hreaches
  simp only [walk, walkRoot_eq_find hplain, hfind, hall, files, List.map_map]
  rfl

end Disk

namespace Run

open Disk

/-! ## 4. Listings -/

/-- The locations of the files of a tree whose names a pattern stands for when the tree is at
`root`, in the order of a walk. -/
def matching (pattern : Glob) (root : Text) (node : Node) : List Location :=
  node.files.filter fun location => pattern.standsFor (pathName (joinPath root location))

theorem run_sourceFiles_of_reaches {disk : Disk} (hplain : disk.root.isPlain = true) {root : Text}
    {node : Node} (hfind : disk.find root = .ok node) (hreaches : disk.reaches root = true)
    (pattern : Glob) :
    (Session.run disk (sourceFiles root pattern)).1 =
      .ok ((matching pattern root node).map (joinPath root)) := by
  have hnode := isPlain_of_find hplain hfind
  have hname : ∀ location ∈ node.files,
      location.getLastD (pathName root) = pathName (joinPath root location) := by
    intro location hlocation
    rcases (mem_files hnode).mp hlocation with ⟨bytes, hget⟩
    exact (pathName_joinPath root (isPlain_of_get? hnode hget).2).symm
  have hselected :
      node.files.filter (fun location => pattern.accepts (location.getLastD (pathName root))) =
        matching pattern root node :=
    List.filter_congr fun location hlocation => by
      rw [hname location hlocation, Glob.accepts_eq_standsFor]
  rw [run_sourceFiles ((stop_walk_eq_none hplain root).mpr hreaches),
    met_walk hplain hfind hreaches, select, List.partition_eq_filter_filter, List.filter_map,
    List.map_map, ← hselected]
  rfl

theorem outcome_sourceFiles_of_stop {disk : Disk} (hplain : disk.root.isPlain = true) {root : Text}
    (hreaches : disk.reaches root = false) (pattern : Glob) :
    ∃ e log, outcome (sourceFiles root pattern) { disk } = (.error e, { disk, log }) := by
  rcases exists_stop_walk hplain hreaches with ⟨stop, hstop⟩
  have hstart : (({ disk } : Session).disk.walk root).stop = some stop := hstop
  exact outcome_sourceFiles_of_some hstart pattern

theorem exists_error_of_long_directory {disk : Disk} (hplain : disk.root.isPlain = true)
    {root : Text} {node : Node} (hfind : disk.find root = .ok node) {location : Location}
    {entries : List (Name × Node)} (hdir : node.get? location = some (dir entries))
    (hlong : pathLimit < byteLength (joinPath root location)) (pattern : Glob) :
    ∃ e, (Session.run disk (sourceFiles root pattern)).1 = .error e := by
  cases hreaches : disk.reaches root with
  | true =>
    have hshort :=
      (reaches_iff hfind (isPlain_of_find hplain hfind)).mp hreaches location entries hdir
    omega
  | false =>
    rcases outcome_sourceFiles_of_stop hplain hreaches pattern with ⟨e, log, hout⟩
    exact ⟨e, congrArg Prod.fst hout⟩

/-- A listing of a tree without links has each file at or below the root whose name the pattern
stands for, and nothing else, in the order in which paths are compared name by name. Where a
directory has a path that is too long to be opened, there is no listing. -/
theorem sourceFiles_lists_matching_files {disk : Disk} (hplain : disk.root.isPlain = true)
    {root : Text} (hexists : disk.exists? root = true) (pattern : Glob) :
    ∃ node, disk.find root = .ok node ∧
      ((∀ location entries, node.get? location = some (dir entries) →
          byteLength (joinPath root location) ≤ pathLimit) →
        ∃ locations : List Location,
          (Session.run disk (sourceFiles root pattern)).1 = .ok (locations.map (joinPath root)) ∧
          (∀ location, location ∈ locations ↔
            (∃ bytes, node.get? location = some (file bytes)) ∧
              pattern.standsFor (pathName (joinPath root location)) = true) ∧
          (locations.map (joinPath root)).Nodup ∧ locations.Pairwise PathLt ∧
          (locations.map (joinPath root)).Pairwise fun p q => PathLt (pathNames p) (pathNames q)) ∧
      ((∃ location entries, node.get? location = some (dir entries) ∧
          pathLimit < byteLength (joinPath root location)) →
        ∃ e, (Session.run disk (sourceFiles root pattern)).1 = .error e) := by
  cases hfind : disk.find root with
  | error cause =>
    rw [exists?, hfind] at hexists
    contradiction
  | ok node =>
    have hnode := isPlain_of_find hplain hfind
    refine ⟨node, rfl, ?_, ?_⟩
    · intro hshort
      have hreaches := (reaches_iff hfind hnode).mpr hshort
      have hordered : ((matching pattern root node).map (joinPath root)).Pairwise fun p q =>
          PathLt (pathNames p) (pathNames q) :=
        (pairwise_joinPath root hnode).sublist (List.filter_sublist.map _)
      refine ⟨matching pattern root node, run_sourceFiles_of_reaches hplain hfind hreaches pattern,
        ?_, ?_, ?_, hordered⟩
      · intro location
        rw [matching, List.mem_filter, mem_files hnode]
      · exact hordered.imp fun hlt heq => hlt.ne (congrArg pathNames heq)
      · exact (pairwise_files hnode).filter _
    · rintro ⟨location, entries, hdir, hlong⟩
      exact exists_error_of_long_directory hplain hfind hdir hlong pattern

/-- A directory has a name with which that of a file begins, so the file comes later, though its
path is the lesser text; and a directory has a name that the pattern stands for. -/
theorem sourceFiles_lists_matching_files_by_name :
    let pattern : Glob := [.anyRun, .literal '.', .literal 'v', .literal 'h', .literal 'd']
    let node := Node.dir [("a".toList, .dir [("x.vhd".toList, .file [1])]),
      ("a-b.vhd".toList, .file [2]), ("b.txt".toList, .file [3]), ("c.vhd".toList, .dir [])]
    let disk : Disk := { root := .dir [("s".toList, node)] }
    let root := "s/".toList
    (Glob.parse "*.vhd".toList = .ok pattern ∧ disk.root.isPlain = true ∧ disk.exists? root = true ∧
      (Session.run disk (sourceFiles root pattern)).1 =
        .ok ["s/a/x.vhd".toList, "s/a-b.vhd".toList]) ∧
    ∃ node, disk.find root = .ok node ∧ ∃ locations : List Location,
      (Session.run disk (sourceFiles root pattern)).1 = .ok (locations.map (joinPath root)) ∧
      (∀ location, location ∈ locations ↔
        (∃ bytes, node.get? location = some (file bytes)) ∧
          pattern.standsFor (pathName (joinPath root location)) = true) ∧
      (locations.map (joinPath root)).Nodup ∧ locations.Pairwise PathLt ∧
      (locations.map (joinPath root)).Pairwise fun p q => PathLt (pathNames p) (pathNames q) := by
  intro pattern node disk root
  have hparse : Glob.parse "*.vhd".toList = .ok pattern := by decide +kernel
  have hplain : disk.root.isPlain = true := by decide +kernel
  have hexists : disk.exists? root = true := by decide +kernel
  have hfound : disk.find root = .ok node := by rfl
  have hvisits :
      node.visits = [⟨[], true⟩, ⟨["a".toList], true⟩, ⟨["a".toList, "x.vhd".toList], false⟩,
        ⟨["a-b.vhd".toList], false⟩, ⟨["b.txt".toList], false⟩, ⟨["c.vhd".toList], true⟩] := by
    rw [visits, sortByName, List.mergeSort_of_pairwise (by decide +kernel)]
    decide +kernel
  have hreaches : disk.reaches root = true := by
    rw [reaches, hfound]
    dsimp only
    rw [hvisits]
    decide +kernel
  have hlisting : (Session.run disk (sourceFiles root pattern)).1 =
      .ok ["s/a/x.vhd".toList, "s/a-b.vhd".toList] := by
    rw [run_sourceFiles_of_reaches hplain hfound hreaches, matching, files, hvisits]
    decide +kernel
  rcases sourceFiles_lists_matching_files hplain hexists pattern with ⟨found, hfind, hlists, -⟩
  have hshort := (reaches_iff hfind (isPlain_of_find hplain hfind)).mp hreaches
  exact ⟨⟨hparse, hplain, hexists, hlisting⟩, found, hfind, hlists hshort⟩

/-- One directory with a path that is too long to be opened, and the file in it is not listed. -/
theorem sourceFiles_fails_at_long_directory :
    let pattern : Glob := [.anyRun, .literal '.', .literal 'v', .literal 'h', .literal 'd']
    let bytes := Text.toUtf8 "entity c is\n  a : in;\n".toList
    let disk : Disk := { root := .dir [("dd".toList, .dir [("a.vhd".toList, .file bytes)])] }
    let root := stay 2047
    Glob.parse "*.vhd".toList = .ok pattern ∧ disk.root.isPlain = true ∧ disk.exists? root = true ∧
      disk.find root = .ok disk.root ∧
      disk.root.get? ["dd".toList, "a.vhd".toList] = some (file bytes) ∧
      pattern.standsFor "a.vhd".toList = true ∧
      ∃ e, (Session.run disk (sourceFiles root pattern)).1 = .error e := by
  intro pattern bytes disk root
  have hplain : disk.root.isPlain = true := by decide +kernel
  have hfind : disk.find root = .ok disk.root := find_stay rfl (by decide) (by decide)
  have hjoin : joinPath root ["dd".toList] = root ++ "dd".toList := joinPath_stay (by decide) _
  have hlong : pathLimit < byteLength (joinPath root ["dd".toList]) := by
    rw [hjoin, byteLength_append, byteLength_stay]
    decide
  exact ⟨by decide +kernel, hplain, exists?_of_find hfind, hfind, rfl, by decide +kernel,
    exists_error_of_long_directory hplain hfind rfl hlong pattern⟩

end Run

end Relabel
