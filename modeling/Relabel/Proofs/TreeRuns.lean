import Mathlib.Logic.Function.Iterate
import Relabel.Proofs.Paths
import Relabel.Proofs.Sessions

/-!
# What a run over trees does to the disk

A run over trees takes one step for each source file that its walks list. A step puts the rewritten
bytes in the place of the old ones, and the first step that cannot be taken ends the run. So what
the disk holds afterwards can be told from the disk before and the steps that were taken, however
the trees overlap.
-/

namespace Relabel

namespace Tally

theorem add_assoc (a b c : Tally) : a + b + c = a + (b + c) :=
  congrArg₂ mk (Nat.add_assoc a.processed b.processed c.processed)
    (Nat.add_assoc a.changed b.changed c.changed)

theorem empty_add (a : Tally) : {} + a = a :=
  congrArg₂ mk (Nat.zero_add a.processed) (Nat.zero_add a.changed)

end Tally

namespace Refactoring

open Run Disk

/-! ## 1. The steps of a run -/

/-- The source files at and below a root, as they are listed. -/
def sources (r : Refactoring) (disk : Disk) (root : Text) : List Text :=
  match (Session.run disk (sourceFiles root r.pattern)).1 with
  | .ok paths => paths
  | .error _ => []

/-- The source files of trees, one tree after the other, up to the first that cannot
be walked over. -/
def steps (r : Refactoring) (disk : Disk) (roots : List Text) : List Text :=
  (roots.takeWhile disk.reaches).flatMap (r.sources disk)

/-- The bytes at a location after steps: they are rewritten once for each step on that file. -/
def contentsAt (r : Refactoring) (disk : Disk) (done : List Text) (location : Location) :
    Option Bytes :=
  (fun contents => contents.bind r.rewritten?)^[
    done.countP fun path => disk.locate path = some location] (disk.fileAt? location)

/-- The bytes of the file that a path leads to after steps. -/
def contentsOf (r : Refactoring) (disk : Disk) (done : List Text) (path : Text) : Option Bytes :=
  (disk.locate path).bind (r.contentsAt disk done)

/-- Whether a step cannot be taken after the steps `done`: its path is too long, or the rewritten
text of its file has a character without a byte. -/
def isBlocked (r : Refactoring) (disk : Disk) (done : List Text) (path : Text) : Bool :=
  pathLimit < byteLength path ||
    (r.contentsOf disk done path).any fun bytes => (r.rewritten? bytes).isNone

/-- The steps before the first that cannot be taken, after the steps `done`. -/
def taken (r : Refactoring) (disk : Disk) : List Text → List Text → List Text
  | _, [] => []
  | done, path :: rest =>
      if r.isBlocked disk done path then [] else path :: taken r disk (done ++ [path]) rest

/-- Whether a step after the steps `done` changes the bytes of its file. -/
def isChange (r : Refactoring) (disk : Disk) (done : List Text) (path : Text) : Bool :=
  r.contentsOf disk (done ++ [path]) path ≠ r.contentsOf disk done path

/-- The number of steps after the steps `done` that change the bytes of their file. -/
def changes (r : Refactoring) (disk : Disk) : List Text → List Text → Nat
  | _, [] => 0
  | done, path :: rest =>
      (if r.isChange disk done path then 1 else 0) + changes r disk (done ++ [path]) rest

variable {r : Refactoring} {disk : Disk} {done : List Text}

theorem contentsAt_concat (path : Text) (location : Location) :
    r.contentsAt disk (done ++ [path]) location =
      if disk.locate path = some location then (r.contentsAt disk done location).bind r.rewritten?
      else r.contentsAt disk done location := by
  rw [contentsAt, List.countP_append, List.countP_singleton]
  by_cases hpath : disk.locate path = some location
  · rw [if_pos hpath, if_pos (decide_eq_true hpath), Function.iterate_succ_apply', contentsAt]
  · rw [if_neg hpath, if_neg (by simpa using hpath), Nat.add_zero, contentsAt]

/-- A step rewrites the bytes that it finds. -/
theorem contentsOf_concat (path : Text) :
    r.contentsOf disk (done ++ [path]) path = (r.contentsOf disk done path).bind r.rewritten? := by
  rw [contentsOf, contentsOf]
  cases hpath : disk.locate path with
  | none => rfl
  | some location => rw [Option.bind_some, Option.bind_some, contentsAt_concat, if_pos hpath]

theorem taken_append (xs ys : List Text) :
    r.taken disk done (xs ++ ys) =
      if r.taken disk done xs = xs then xs ++ r.taken disk (done ++ xs) ys
      else r.taken disk done xs := by
  induction xs generalizing done with
  | nil => simp [taken]
  | cons path rest ih =>
    rw [List.cons_append, taken, taken]
    by_cases hblocked : r.isBlocked disk done path = true
    · rw [if_pos hblocked, if_pos hblocked, if_neg (List.cons_ne_nil _ _).symm]
    · rw [if_neg hblocked, if_neg hblocked, ih, List.append_assoc, List.singleton_append]
      by_cases hrest : r.taken disk (done ++ [path]) rest = rest
      · rw [if_pos hrest, if_pos (by rw [hrest]), List.cons_append]
      · rw [if_neg hrest, if_neg fun heq => hrest (List.cons.inj heq).2]

theorem changes_append (xs ys : List Text) :
    r.changes disk done (xs ++ ys) =
      r.changes disk done xs + r.changes disk (done ++ xs) ys := by
  induction xs generalizing done with
  | nil => simp [changes]
  | cons path rest ih =>
    rw [List.cons_append, changes, changes, ih, List.append_assoc, List.singleton_append]
    omega

/-! ## 2. One step -/

/-- A disk that is as `disk` is after the steps `done`. -/
structure After (r : Refactoring) (disk : Disk) (done : List Text) (now : Disk) : Prop where
  shape : now.shape = disk.shape
  contents : ∀ location, now.fileAt? location = r.contentsAt disk done location

theorem After.start (r : Refactoring) (disk : Disk) : r.After disk [] disk :=
  ⟨rfl, fun _ => rfl⟩

variable {now : Disk}

theorem After.locate (hafter : r.After disk done now) (path : Text) :
    now.locate path = disk.locate path := by
  rw [← locate_shape, hafter.shape, locate_shape]

theorem After.walk (hafter : r.After disk done now) (root : Text) :
    now.walk root = disk.walk root := by
  rw [← walk_shape, hafter.shape, walk_shape]

/-- What a step finds in its file. -/
theorem After.read (hafter : r.After disk done now) {path : Text} {location : Location}
    (hpath : disk.locate path = some location) :
    ∃ bytes, now.read path = .ok bytes ∧ r.contentsAt disk done location = some bytes ∧
      r.contentsOf disk done path = some bytes := by
  have hnow := hafter.locate path
  rcases read_of_locate (hnow.trans hpath) with ⟨bytes, hfile, hread⟩
  rw [hafter.contents] at hfile
  refine ⟨bytes, hread, hfile, ?_⟩
  rw [contentsOf, hpath, Option.bind_some, hfile]

/-- A step is taken when the rewritten bytes are in the place of the old ones. -/
theorem After.concat (hafter : r.After disk done now) {path : Text} {location : Location}
    (hpath : disk.locate path = some location) {bytes bytes' : Bytes}
    (hold : r.contentsAt disk done location = some bytes) (hnew : r.rewritten? bytes = some bytes')
    {now' : Disk} (hshape : now'.shape = now.shape)
    (hfiles : ∀ other, now'.fileAt? other =
      if other = location then some bytes' else now.fileAt? other) :
    r.After disk (done ++ [path]) now' := by
  refine ⟨hshape.trans hafter.shape, fun other => ?_⟩
  rw [hfiles, hafter.contents, contentsAt_concat, hpath]
  by_cases hother : other = location
  · rw [if_pos hother, if_pos (congrArg some hother.symm), hother, hold, Option.bind_some, hnew]
  · rw [if_neg hother, if_neg fun heq => hother (Option.some.inj heq).symm]

variable {session : Session}

theorem outcome_file_of_isBlocked (hfilled : r.database.isEmpty = false)
    (hafter : r.After disk done session.disk) {path : Text}
    (hpath : byteLength path ≤ pathLimit → ∃ location, disk.locate path = some location)
    (hblocked : r.isBlocked disk done path = true) :
    ∃ e log, outcome (r.file path) session = (.error e, { session with log }) := by
  by_cases hlong : pathLimit < byteLength path
  · rcases read_of_pathLimit_lt hlong with ⟨cause, hread⟩
    exact outcome_file_of_unread hread
  · rcases hpath (Nat.not_lt.mp hlong) with ⟨location, hlocate⟩
    rcases hafter.read hlocate with ⟨bytes, hread, -, hcontents⟩
    have hnone : r.rewritten? bytes = none := by
      simpa [isBlocked, hlong, hcontents] using hblocked
    exact outcome_file_of_none hfilled hread hnone

theorem outcome_file_of_not_isBlocked (hfilled : r.database.isEmpty = false)
    (hafter : r.After disk done session.disk) {path : Text}
    (hpath : byteLength path ≤ pathLimit → ∃ location, disk.locate path = some location)
    (hblocked : r.isBlocked disk done path = false) :
    ∃ session', outcome (r.file path) session = (.ok (r.isChange disk done path), session') ∧
      r.After disk (done ++ [path]) session'.disk := by
  have hlong : ¬ pathLimit < byteLength path := by
    intro hlong
    simp [isBlocked, hlong] at hblocked
  rcases hpath (Nat.not_lt.mp hlong) with ⟨location, hlocate⟩
  rcases hafter.read hlocate with ⟨bytes, hread, hold, hcontents⟩
  have hsome : ∃ bytes', r.rewritten? bytes = some bytes' := by
    cases hbytes : r.rewritten? bytes with
    | none => simp [isBlocked, hcontents, hbytes] at hblocked
    | some bytes' => exact ⟨bytes', rfl⟩
  rcases hsome with ⟨bytes', hbytes'⟩
  rcases write_of_locate (hafter.locate path ▸ hlocate) bytes' with
    ⟨written, hwrite, hshape, hfiles⟩
  rcases outcome_file_of_some hfilled hread hbytes' hwrite with ⟨log, hout⟩
  have hchange : r.isChange disk done path = decide (bytes' ≠ bytes) := by
    rw [isChange, contentsOf_concat, hcontents, Option.bind_some, hbytes']
    simp only [ne_eq, Option.some.injEq]
  refine ⟨_, hchange ▸ hout, ?_⟩
  by_cases hsame : bytes' = bytes
  · -- the file is left alone, which is as good as writing its bytes again
    have hfiles' : ∀ other, session.disk.fileAt? other =
        if other = location then some bytes' else session.disk.fileAt? other := by
      intro other
      split
      next hother => rw [hother, hafter.contents, hold, hsame]
      · rfl
    simpa only [if_pos hsame] using hafter.concat hlocate hold hbytes' rfl hfiles'
  · simpa only [if_neg hsame] using hafter.concat hlocate hold hbytes' hshape hfiles

/-! ## 3. Runs -/

/-- What is left of a run over `steps`, after the steps `done` and a count of files. Where
`complete` is false, more was to come behind the steps. -/
structure Ran (r : Refactoring) (disk : Disk) (done steps : List Text) (complete : Bool)
    (tally : Tally) (out : Except Error Tally × Session) : Prop where
  after : r.After disk (done ++ r.taken disk done steps) out.2.disk
  result : match out.1 with
    | .ok total => r.taken disk done steps = steps ∧ complete = true ∧
        total = tally + ⟨steps.length, r.changes disk done steps⟩
    | .error _ => r.taken disk done steps ≠ steps ∨ complete = false

theorem length_taken_le (paths : List Text) : (r.taken disk done paths).length ≤ paths.length := by
  induction paths generalizing done with
  | nil => rw [taken]
  | cons path rest ih =>
    rw [taken]
    split
    · exact Nat.zero_le _
    · exact Nat.succ_le_succ ih

variable {xs ys : List Text} {complete : Bool} {tally : Tally}

/-- A run that goes on behind steps that were all taken. -/
theorem Ran.append {out : Except Error Tally × Session} (hxs : r.taken disk done xs = xs)
    (h : r.Ran disk (done ++ xs) ys complete (tally + ⟨xs.length, r.changes disk done xs⟩) out) :
    r.Ran disk done (xs ++ ys) complete tally out := by
  have htaken : r.taken disk done (xs ++ ys) = xs ++ r.taken disk (done ++ xs) ys := by
    rw [taken_append, if_pos hxs]
  refine ⟨?_, ?_⟩
  · rw [htaken, ← List.append_assoc]
    exact h.after
  · have hresult := h.result
    rcases out with ⟨result, session⟩
    cases result with
    | ok total =>
      rcases hresult with ⟨hys, hcomplete, htotal⟩
      refine ⟨by rw [htaken, hys], hcomplete, ?_⟩
      rw [htotal, changes_append, List.length_append, Tally.add_assoc]
      rfl
    | error e =>
      refine hresult.imp_left fun hys hall => hys ?_
      rwa [htaken, List.append_right_inj] at hall

/-- A run that ends on its way ends all the same when more steps were to come. -/
theorem Ran.of_error {e : Error} {tally' : Tally}
    (h : r.Ran disk done xs true tally' (.error e, session)) :
    r.Ran disk done (xs ++ ys) complete tally (.error e, session) := by
  have hxs : r.taken disk done xs ≠ xs := h.result.resolve_right (by decide)
  have htaken : r.taken disk done (xs ++ ys) = r.taken disk done xs := by
    rw [taken_append, if_neg hxs]
  refine ⟨htaken ▸ h.after, .inl fun hall => hxs ?_⟩
  -- a part of the steps cannot be all of them and more
  rw [htaken] at hall
  have hlength : (r.taken disk done xs).length ≤ xs.length := length_taken_le xs
  rw [hall, List.length_append] at hlength
  have hys : ys = [] := List.length_eq_zero_iff.mp (by omega)
  rw [hall, hys, List.append_nil]

theorem Ran.nil (hafter : r.After disk done session.disk) :
    r.Ran disk done [] true tally (.ok tally, session) :=
  ⟨by simpa only [taken, List.append_nil] using hafter, rfl, rfl, rfl⟩

theorem ran_files (hfilled : r.database.isEmpty = false) {paths : List Text}
    (hpaths : ∀ path ∈ paths, byteLength path ≤ pathLimit →
      ∃ location, disk.locate path = some location)
    (hafter : r.After disk done session.disk) (tally : Tally) :
    r.Ran disk done paths true tally (outcome (r.files tally paths) session) := by
  induction paths generalizing done session tally with
  | nil =>
    rw [files, outcome_pure]
    exact Ran.nil hafter
  | cons path rest ih =>
    have hpath := hpaths path List.mem_cons_self
    rw [files, outcome_bind, ← List.singleton_append]
    cases hblocked : r.isBlocked disk done path with
    | true =>
      rcases outcome_file_of_isBlocked hfilled hafter hpath hblocked with ⟨e, log, hout⟩
      have htaken : r.taken disk done [path] = [] := by rw [taken, if_pos hblocked]
      have hstep : r.Ran disk done [path] true tally (.error e, { session with log }) := by
        refine ⟨?_, .inl ?_⟩
        · rw [htaken, List.append_nil]
          exact hafter
        · rw [htaken]
          exact (List.cons_ne_nil _ _).symm
      rw [hout]
      exact Ran.of_error hstep
    | false =>
      rcases outcome_file_of_not_isBlocked hfilled hafter hpath hblocked with
        ⟨session', hout, hafter'⟩
      have htaken : r.taken disk done [path] = [path] := by
        rw [taken, hblocked, if_neg Bool.false_ne_true, taken]
      rw [hout]
      refine Ran.append htaken ?_
      exact ih (fun p hp => hpaths p (List.mem_cons_of_mem path hp)) hafter'
        (tally.record (r.isChange disk done path))

theorem sources_eq {root : Text} (h : (disk.walk root).stop = none) :
    r.sources disk root = (select r.pattern (disk.walk root).met).1.map (·.path) := by
  rw [sources, run_sourceFiles h]

theorem outcome_sourceFiles_of_reaches (hplain : disk.root.isPlain = true)
    (hafter : r.After disk done session.disk) {root : Text} (h : disk.reaches root = true) :
    ∃ log, outcome (sourceFiles root r.pattern) session =
      (.ok (r.sources disk root), { session with log }) := by
  have hstop := (stop_walk_eq_none hplain root).mpr h
  rw [sources_eq hstop, ← hafter.walk]
  rw [← hafter.walk] at hstop
  exact outcome_sourceFiles_of_none session hstop r.pattern

theorem outcome_sourceFiles_of_not_reaches (hplain : disk.root.isPlain = true)
    (hafter : r.After disk done session.disk) {root : Text} (h : disk.reaches root = false) :
    ∃ e log, outcome (sourceFiles root r.pattern) session = (.error e, { session with log }) := by
  rcases exists_stop_walk hplain h with ⟨stop, hstop⟩
  rw [← hafter.walk] at hstop
  exact outcome_sourceFiles_of_some hstop r.pattern

/-- A step has a file to work on, unless its path is too long. -/
theorem exists_locate_of_mem_sources (hplain : disk.root.isPlain = true) {root : Text}
    (h : disk.reaches root = true) {path : Text} (hpath : path ∈ r.sources disk root)
    (hlong : byteLength path ≤ pathLimit) : ∃ location, disk.locate path = some location := by
  rw [sources_eq ((stop_walk_eq_none hplain root).mpr h), List.mem_map] at hpath
  rcases hpath with ⟨met, hmet, rfl⟩
  rw [select, List.partition_eq_filter_filter] at hmet
  exact exists_locate_of_mem_walk hplain (List.mem_of_mem_filter hmet) hlong

theorem ran_trees (hfilled : r.database.isEmpty = false) (hplain : disk.root.isPlain = true)
    (hafter : r.After disk done session.disk) (roots : List Text) (tally : Tally) :
    r.Ran disk done (r.steps disk roots) (roots.all disk.reaches) tally
      (outcome (r.trees tally roots) session) := by
  induction roots generalizing done session tally with
  | nil =>
    rw [trees, outcome_pure]
    exact Ran.nil hafter
  | cons root rest ih =>
    rw [trees, outcome_bind, tree, outcome_bind, List.all_cons]
    cases hroot : disk.reaches root with
    | false =>
      rcases outcome_sourceFiles_of_not_reaches hplain hafter hroot with ⟨e, log, hout⟩
      have hsteps : r.steps disk (root :: rest) = [] := by
        rw [steps, List.takeWhile_cons, hroot]
        rfl
      rw [hout, hsteps]
      exact ⟨by simpa only [taken, List.append_nil] using hafter, .inr rfl⟩
    | true =>
      rcases outcome_sourceFiles_of_reaches hplain hafter hroot with ⟨log, hout⟩
      have hsteps : r.steps disk (root :: rest) = r.sources disk root ++ r.steps disk rest := by
        rw [steps, List.takeWhile_cons, hroot]
        rfl
      have hfiles : r.Ran disk done (r.sources disk root) true {}
          (outcome (r.files {} (r.sources disk root)) { session with log }) := by
        refine ran_files hfilled (fun path hpath => ?_) ?_ {}
        · exact exists_locate_of_mem_sources hplain hroot hpath
        · exact hafter
      rw [hout, hsteps, Bool.true_and]
      dsimp only
      -- the tree's own count starts at nothing and is added to what came before
      rcases hmore : outcome (r.files {} (r.sources disk root)) { session with log } with
        ⟨result, session'⟩
      rw [hmore] at hfiles
      cases result with
      | error e => exact Ran.of_error hfiles
      | ok more =>
        rcases hfiles.result with ⟨htaken, -, htotal⟩
        have hafter' := hfiles.after
        rw [htaken] at hafter'
        rw [Tally.empty_add] at htotal
        refine Ran.append htaken ?_
        rw [← htotal]
        exact ih hafter' (tally + more)

/-- What a run over trees leaves on a disk without links: the bytes of each file are rewritten
once for each step on it that was taken, and nothing else is changed. It succeeds when every tree
can be walked over and no step is blocked, and then it counts the steps and those of them that
changed a file. -/
theorem trees_rewrite_taken {r : Refactoring} (hfilled : r.database.isEmpty = false) {disk : Disk}
    (hplain : disk.root.isPlain = true) (roots : List Text) :
    let steps := r.steps disk roots
    let done := r.taken disk [] steps
    let out := Session.run disk (r.trees {} roots)
    (∀ location, out.2.disk.fileAt? location = r.contentsAt disk done location) ∧
      out.2.disk.shape = disk.shape ∧
      match out.1 with
      | .ok tally => done = steps ∧ (∀ root ∈ roots, disk.reaches root = true) ∧
          tally = ⟨steps.length, r.changes disk [] steps⟩
      | .error _ => done ≠ steps ∨ ∃ root ∈ roots, disk.reaches root = false := by
  intro steps done out
  have hran : r.Ran disk [] steps (roots.all disk.reaches) {} out :=
    ran_trees hfilled hplain (After.start r disk) roots {}
  refine ⟨hran.after.contents, hran.after.shape, ?_⟩
  have hresult := hran.result
  cases hout : out.1 with
  | ok tally =>
    rw [hout] at hresult
    rcases hresult with ⟨hdone, hall, htally⟩
    rw [Tally.empty_add] at htally
    exact ⟨hdone, List.all_eq_true.mp hall, htally⟩
  | error e =>
    rw [hout] at hresult
    refine hresult.imp_right fun hall => ?_
    simpa using hall

theorem trees_rewrite_taken_overlapping :
    let r : Refactoring :=
      ⟨⟨.ofList [("c".toList, .ofList [("a".toList, "b".toList), ("b".toList, "d".toList)])]⟩,
        [.anyRun], []⟩
    let bytes := Text.toUtf8 "entity c is\n  a : in;\n".toList
    let disk : Disk := { root := .dir [("d".toList, .dir [("a.vhd".toList, .file bytes)])] }
    let roots := ["d".toList, ".".toList, "e".toList]
    let steps := r.steps disk roots
    let done := r.taken disk [] steps
    let out := Session.run disk (r.trees {} roots)
    (r.database.isEmpty = false ∧ disk.root.isPlain = true ∧
        steps = ["d/a.vhd".toList, "./d/a.vhd".toList]) ∧
      (∀ location, out.2.disk.fileAt? location = r.contentsAt disk done location) ∧
      out.2.disk.shape = disk.shape ∧
      match out.1 with
      | .ok tally => done = steps ∧ (∀ root ∈ roots, disk.reaches root = true) ∧
          tally = ⟨steps.length, r.changes disk [] steps⟩
      | .error _ => done ≠ steps ∨ ∃ root ∈ roots, disk.reaches root = false :=
  ⟨⟨by decide, by decide, by decide +kernel⟩, trees_rewrite_taken (by decide) (by decide) _⟩

/-! ## 4. Files with long paths -/

theorem visits_singleton (name : Name) (bytes : Bytes) :
    (Node.dir [(name, .file bytes)]).visits = [⟨[], true⟩, ⟨[name], false⟩] := by
  rw [Node.visits, Node.visitsByEntry_eq_map, Node.sortByName, List.map_singleton,
    List.mergeSort_singleton]
  rfl

theorem isPlain_singleton {name : Name} (hname : Node.IsFileName name) (bytes : Bytes) :
    (Node.dir [(name, .file bytes)]).isPlain = true :=
  Node.isPlain_dir.mpr ⟨List.nodup_singleton _, List.forall_mem_singleton.mpr ⟨hname, rfl⟩⟩

theorem walk_stay {name : Name} (hname : Node.IsFileName name) (bytes : Bytes) {n : Nat}
    (hn : 0 < n) (hroot : 2 * n ≤ pathLimit) :
    let disk : Disk := { root := .dir [(name, .file bytes)] }
    disk.walk (stay n) = ⟨[⟨stay n ++ name, name⟩], none⟩ := by
  intro disk
  have hplain : disk.root.isPlain = true := isPlain_singleton hname bytes
  have hfind : disk.find (stay n) = .ok (.dir [(name, .file bytes)]) := find_stay rfl hn hroot
  have htop : goesOn (stay n) ⟨[], true⟩ = true := by
    have hjoin : joinPath (stay n) [] = stay n := rfl
    rw [goesOn, hjoin, byteLength_stay, decide_eq_true hroot, Bool.or_true]
  have hfile : goesOn (stay n) ⟨[name], false⟩ = true := rfl
  rw [walk, walkRoot_eq_find hplain, hfind]
  simp [visits_singleton, htop, hfile, joinPath_stay hn]

/-- A file can be listed under a path that is too long to read it. -/
theorem trees_stop_of_pathLimit_lt (hfilled : r.database.isEmpty = false) {name : Name}
    (hname : Node.IsFileName name) (hstands : r.pattern.standsFor name = true) (bytes : Bytes)
    {n : Nat} (hn : 0 < n) (hroot : 2 * n ≤ pathLimit)
    (hlong : pathLimit < 2 * n + byteLength name) :
    let disk : Disk := { root := .dir [(name, .file bytes)] }
    let root := stay n
    disk.exists? root = true ∧
      (Session.run disk (sourceFiles root r.pattern)).1 = .ok [root ++ name] ∧
      (∃ e, (Session.run disk (r.trees {} [root])).1 = .error e) ∧
      (Session.run disk (r.trees {} [root])).2.disk.fileAt? [name] = some bytes := by
  intro disk root
  have hplain : disk.root.isPlain = true := isPlain_singleton hname bytes
  have hwalk : disk.walk root = ⟨[⟨root ++ name, name⟩], none⟩ := walk_stay hname bytes hn hroot
  have hstop : (disk.walk root).stop = none := by rw [hwalk]
  have hselected : (select r.pattern (disk.walk root).met).1.map (·.path) = [root ++ name] := by
    simp [hwalk, select, Glob.accepts_eq_standsFor, hstands]
  have hsteps : r.steps disk [root] = [root ++ name] := by
    rw [steps, List.takeWhile_cons, (stop_walk_eq_none hplain root).mp hstop]
    simp [sources_eq hstop, hselected]
  have hblocked : r.isBlocked disk [] (root ++ name) = true := by
    rw [isBlocked, byteLength_append, byteLength_stay, decide_eq_true hlong, Bool.true_or]
  have htaken : r.taken disk [] [root ++ name] = [] := by rw [taken, if_pos hblocked]
  have hran : r.Ran disk [] (r.steps disk [root]) ([root].all disk.reaches) {}
      (Session.run disk (r.trees {} [root])) :=
    ran_trees hfilled hplain (After.start r disk) [root] {}
  rw [hsteps] at hran
  refine ⟨exists?_of_find (find_stay rfl hn hroot), ?_, ?_, ?_⟩
  · rw [run_sourceFiles hstop, hselected]
  · have hresult := hran.result
    rw [htaken] at hresult
    cases hout : (Session.run disk (r.trees {} [root])).1 with
    | error e => exact ⟨e, rfl⟩
    | ok tally =>
      rw [hout] at hresult
      exact absurd hresult.1 (List.cons_ne_nil _ _).symm
  · rw [hran.after.contents, htaken]
    simp [contentsAt, fileAt?, disk, Node.get?, valueAt?]

theorem trees_stop_at_long_path :
    let r : Refactoring :=
      ⟨⟨.ofList [("c".toList, .ofList [("a".toList, "b".toList)])]⟩, [.anyRun], []⟩
    let bytes := Text.toUtf8 "entity c is\n  a : in;\n".toList
    let disk : Disk := { root := .dir [("a.vhd".toList, .file bytes)] }
    let root := stay 2047
    (disk.exists? root = true ∧
        (Session.run disk (sourceFiles root r.pattern)).1 = .ok [root ++ "a.vhd".toList] ∧
        (∃ e, (Session.run disk (r.trees {} [root])).1 = .error e) ∧
        (Session.run disk (r.trees {} [root])).2.disk.fileAt? ["a.vhd".toList] = some bytes) ∧
      r.rewritten? bytes = some (Text.toUtf8 "entity c is\n  b : in;\n".toList) :=
  ⟨trees_stop_of_pathLimit_lt (by decide) (by decide) (by decide) _ (by decide) (by decide)
    (by decide), by decide⟩

end Refactoring

end Relabel
