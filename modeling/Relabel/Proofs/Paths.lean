import Relabel.Proofs.Trees

/-!
# Where paths lead

What a path leads to depends on the shape of the disk only, and a file that it leads to can be
written to under the same path. On a disk without links a path goes down name by name, so a file
that a walk meets is reached again by the path it was met under, unless that path is too long.
-/

namespace Relabel

open Node

/-! ## 1. The names of a path -/

theorem pathNames_ne_nil (path : Text) : pathNames path ≠ [] := by
  induction path with
  | nil => simp [pathNames]
  | cons c rest ih =>
    rw [pathNames]
    split
    · exact List.cons_ne_nil _ _
    · split <;> exact List.cons_ne_nil _ _

theorem pathNames_append_slash (front rest : Text) :
    pathNames (front ++ '/' :: rest) = pathNames front ++ pathNames rest := by
  induction front with
  | nil => simp [pathNames]
  | cons c more ih =>
    rw [List.cons_append, pathNames, pathNames, ih]
    by_cases hc : c = '/'
    · rw [if_pos hc, if_pos hc, List.cons_append]
    · rw [if_neg hc, if_neg hc]
      cases hmore : pathNames more with
      | nil => exact absurd hmore (pathNames_ne_nil more)
      | cons name names => rfl

theorem pathNames_of_notMem {name : Name} (h : '/' ∉ name) : pathNames name = [name] := by
  induction name with
  | nil => rfl
  | cons c rest ih =>
    have hc : c ≠ '/' := fun hc => h (hc ▸ List.mem_cons_self)
    rw [pathNames, if_neg hc, ih fun hmem => h (List.mem_cons_of_mem c hmem)]

theorem Node.IsFileName.getLast?_append {name : Name} (h : IsFileName name) (path : Text) :
    (path ++ name).getLast? ≠ some '/' := by
  intro hlast
  rw [List.getLast?_append_of_ne_nil path h.ne_nil] at hlast
  exact h.slash (List.mem_of_getLast? hlast)

namespace Disk

theorem joinPath_cons (path : Text) (name : Name) (rest : Location) :
    joinPath path (name :: rest) =
      joinPath (path ++ (if path.getLast? = some '/' then [] else ['/']) ++ name) rest :=
  rfl

theorem pathNames_joinPath_of_getLast? {path : Text} (hpath : path.getLast? ≠ some '/')
    {location : Location} (hnames : ∀ name ∈ location, IsFileName name) :
    pathNames (joinPath path location) = pathNames path ++ location := by
  induction location generalizing path with
  | nil => exact (List.append_nil _).symm
  | cons name rest ih =>
    have hname := hnames name List.mem_cons_self
    rw [joinPath_cons, if_neg hpath,
      ih (hname.getLast?_append _) fun n hn => hnames n (List.mem_cons_of_mem name hn),
      List.append_assoc, List.singleton_append, pathNames_append_slash,
      pathNames_of_notMem hname.slash, List.append_assoc, List.singleton_append]

/-- A location below a path adds its names; the empty name behind a slash at the end
gives way to them. -/
theorem exists_pathNames_joinPath (path : Text) :
    ∃ front, (pathNames path = front ∨ pathNames path = front ++ [[]]) ∧
      ∀ location : Location, location ≠ [] → (∀ name ∈ location, IsFileName name) →
        pathNames (joinPath path location) = front ++ location := by
  by_cases hpath : path.getLast? = some '/'
  · have hfront : path = path.dropLast ++ '/' :: [] :=
      (List.dropLast_append_getLast? '/' hpath).symm
    refine ⟨pathNames path.dropLast, .inr ?_, ?_⟩
    · nth_rewrite 1 [hfront]
      rw [pathNames_append_slash, pathNames]
    · intro location hlocation hnames
      cases location with
      | nil => contradiction
      | cons name rest =>
        have hname := hnames name List.mem_cons_self
        rw [joinPath_cons, if_pos hpath, List.append_nil,
          pathNames_joinPath_of_getLast? (hname.getLast?_append path)
            fun n hn => hnames n (List.mem_cons_of_mem name hn)]
        nth_rewrite 1 [hfront]
        rw [List.append_assoc, List.cons_append, List.nil_append, pathNames_append_slash,
          pathNames_of_notMem hname.slash, List.append_assoc, List.singleton_append]
  · exact ⟨pathNames path, .inl rfl, fun location _ => pathNames_joinPath_of_getLast? hpath⟩

theorem head?_joinPath {path : Text} (hpath : path ≠ []) (location : Location) :
    (joinPath path location).head? = path.head? := by
  induction location generalizing path with
  | nil => rfl
  | cons name rest ih =>
    rw [joinPath_cons, List.append_assoc, ih (List.append_ne_nil_of_left_ne_nil hpath _),
      List.head?_append_of_ne_nil path hpath]

theorem notMem_joinPath {c : Char} (hc : c ≠ '/') {path : Text} (hpath : c ∉ path)
    {location : Location} (hnames : ∀ name ∈ location, c ∉ name) : c ∉ joinPath path location := by
  induction location generalizing path with
  | nil => exact hpath
  | cons name rest ih =>
    have hname := hnames name List.mem_cons_self
    rw [joinPath_cons]
    refine ih ?_ fun n hn => hnames n (List.mem_cons_of_mem name hn)
    split <;> simp [hpath, hname, hc]

end Disk

/-! ## 2. Shapes -/

/-- What a path leads to, without the bytes of files. -/
def Place.shape : Place → Place
  | node location found => node location found.shape
  | absent directory name => absent directory name

/-- Whether a place is one of a tree: its node is there, or its name is free in a
directory that is there. -/
def Place.IsIn (root : Node) : Place → Prop
  | node location found => root.get? location = some found
  | absent directory name =>
      ∃ entries, root.get? directory = some (dir entries) ∧ valueAt? name entries = none

namespace Disk

theorem descend_shape {root : Node} {ending : Ending}
    {onLink onLink' : Location → List Name → Except DiskError Place}
    (honLink : ∀ location names, onLink' location names = (onLink location names).map Place.shape)
    (location : Location) (names : List Name) :
    descend root.shape ending onLink' location names =
      (descend root ending onLink location names).map Place.shape := by
  induction names generalizing location with
  | nil =>
    rw [descend, descend, get?_shape]
    cases root.get? location <;> rfl
  | cons name rest ih =>
    rw [descend, descend, get?_shape]
    cases root.get? location with
    | none => rfl
    | some node =>
      cases node with
      | file bytes => rfl
      | link target => rfl
      | dir entries =>
        simp only [Option.map_some, shape_dir, ih, valueAt?_map]
        -- both sides ask the same questions about the name; only the entry is another
        cases valueAt? name entries with
        | none =>
          simp only [Option.map_none]
          split_ifs <;> rfl
        | some child =>
          cases child with
          | file bytes =>
            simp only [Option.map_some, shape]
            split_ifs <;> rfl
          | dir below =>
            simp only [Option.map_some, shape]
            split_ifs <;> rfl
          | link target =>
            simp only [Option.map_some, shape, honLink]
            split_ifs <;> rfl

theorem follow_shape (root : Node) (ending : Ending) (links : Nat) (location : Location)
    (names : List Name) :
    follow root.shape ending links location names =
      (follow root ending links location names).map Place.shape := by
  -- where no more links are followed, both sides give up at one with the same error
  induction links generalizing location names with
  | zero =>
    refine descend_shape (fun _ _ => ?_) location names
    rfl
  | succ links ih => exact descend_shape ih location names

/-- A disk without the bytes of its files. -/
def shape (disk : Disk) : Disk :=
  { disk with root := disk.root.shape }

theorem resolve_shape (disk : Disk) (ending : Ending) (path : Text) :
    disk.shape.resolve ending path = (disk.resolve ending path).map Place.shape := by
  simp only [resolve, shape, follow_shape]
  split_ifs <;> rfl

theorem find_shape (disk : Disk) (path : Text) :
    disk.shape.find path = (disk.find path).map Node.shape := by
  rw [find, find, resolve_shape]
  cases disk.resolve .followLink path with
  | error cause => rfl
  | ok place => cases place <;> rfl

theorem walk_shape (disk : Disk) (path : Text) : disk.shape.walk path = disk.walk path := by
  have hroot : disk.shape.walkRoot path = (disk.walkRoot path).map Node.shape := by
    rw [walkRoot, walkRoot, resolve_shape, find_shape]
    cases disk.resolve .keepLink path with
    | error cause => rfl
    | ok place =>
      cases place with
      | absent directory name => rfl
      | node location found =>
        cases found with
        | file bytes => rfl
        | dir entries => rfl
        | link target =>
          cases disk.find path with
          | error cause => rfl
          | ok found => cases found <;> rfl
  rw [walk, walk, hroot]
  cases disk.walkRoot path with
  | error cause => rfl
  | ok root =>
    simp only [Except.map, visits_shape]

/-! ## 3. One name of a path -/

/-- Whether a path has only slashes behind a name under which a file is to be made. -/
abbrev SlashBehind (ending : Ending) (rest : List Name) : Prop :=
  ending = .newFile ∧ (!rest.isEmpty) = true ∧ rest.all List.isEmpty = true

theorem not_slashBehind {ending : Ending} (hending : ending ≠ .newFile) (rest : List Name) :
    ¬ SlashBehind ending rest :=
  fun hslash => hending hslash.1

theorem not_keepLink {ending : Ending} (hending : ending ≠ .keepLink) (rest : List Name) :
    ¬ (rest.isEmpty = true ∧ ending = .keepLink) :=
  fun hkeep => hending hkeep.2

/-- A name below a directory, by what is there under it. -/
theorem descend_cons {root : Node} {location : Location} {entries : List (Name × Node)}
    (hdir : root.get? location = some (dir entries)) (ending : Ending)
    (onLink : Location → List Name → Except DiskError Place) (name : Name) (rest : List Name) :
    descend root ending onLink location (name :: rest) =
      if name = [] ∨ name = ['.'] then descend root ending onLink location rest
      else if name = ['.', '.'] then descend root ending onLink location.dropLast rest
      else if SlashBehind ending rest then .error .isDirectory
      else if nameLimit < byteLength name then .error .nameTooLong
      else
        match root.get? (location ++ [name]) with
        | none => if rest.isEmpty then .ok (.absent location name) else .error .notFound
        | some (.link target) =>
            if rest.isEmpty ∧ ending = .keepLink then
              .ok (.node (location ++ [name]) (.link target))
            else
              onLink (if target.head? = some '/' then [] else location) (pathNames target ++ rest)
        | some _ => descend root ending onLink (location ++ [name]) rest := by
  rw [get?_concat hdir]
  cases hentry : valueAt? name entries with
  | none => simp only [descend, hdir, hentry]
  | some child => cases child <;> simp only [descend, hdir, hentry]

/-- What a name on the way can do. -/
inductive Turn (root : Node) (location : Location) (name : Name) : Prop
  | goes (next : Location)
      (h : ∀ ending onLink rest, ¬ SlashBehind ending rest →
        descend root ending onLink location (name :: rest) = descend root ending onLink next rest)
  | jumps (target : Text) (hlink : root.get? (location ++ [name]) = some (link target))
      (h : ∀ ending onLink rest, ¬ SlashBehind ending rest →
        descend root ending onLink location (name :: rest) =
          if rest.isEmpty ∧ ending = .keepLink then .ok (.node (location ++ [name]) (link target))
          else onLink (if target.head? = some '/' then [] else location) (pathNames target ++ rest))
  | misses (entries : List (Name × Node)) (hdir : root.get? location = some (dir entries))
      (hnone : valueAt? name entries = none)
      (h : ∀ ending onLink rest, ¬ SlashBehind ending rest →
        descend root ending onLink location (name :: rest) =
          if rest.isEmpty then .ok (.absent location name) else .error .notFound)
  | fails (cause : DiskError)
      (h : ∀ ending onLink rest, ¬ SlashBehind ending rest →
        descend root ending onLink location (name :: rest) = .error cause)

theorem turn (root : Node) (location : Location) (name : Name) : Turn root location name := by
  cases hlocation : root.get? location with
  | none => exact .fails .notFound fun _ _ _ _ => by rw [descend, hlocation]
  | some node =>
    cases node with
    | file bytes => exact .fails .notDirectory fun _ _ _ _ => by rw [descend, hlocation]
    | link target => exact .fails .notDirectory fun _ _ _ _ => by rw [descend, hlocation]
    | dir entries =>
      -- the questions in the order in which a descent asks them; the one about slashes is
      -- answered by `hslash`
      by_cases hhere : name = [] ∨ name = ['.']
      · exact .goes location fun _ _ _ _ => by rw [descend_cons hlocation, if_pos hhere]
      by_cases hup : name = ['.', '.']
      · exact .goes location.dropLast fun _ _ _ _ => by
          rw [descend_cons hlocation, if_neg hhere, if_pos hup]
      by_cases hlong : nameLimit < byteLength name
      · exact .fails .nameTooLong fun _ _ _ hslash => by
          rw [descend_cons hlocation, if_neg hhere, if_neg hup, if_neg hslash, if_pos hlong]
      cases hchild : root.get? (location ++ [name]) with
      | none =>
        refine .misses entries hlocation ((get?_concat hlocation name).symm.trans hchild)
          fun _ _ _ hslash => ?_
        rw [descend_cons hlocation, if_neg hhere, if_neg hup, if_neg hslash, if_neg hlong, hchild]
      | some child =>
        cases child with
        | link target =>
          refine .jumps target hchild fun _ _ _ hslash => ?_
          rw [descend_cons hlocation, if_neg hhere, if_neg hup, if_neg hslash, if_neg hlong, hchild]
        | file bytes =>
          refine .goes (location ++ [name]) fun _ _ _ hslash => ?_
          rw [descend_cons hlocation, if_neg hhere, if_neg hup, if_neg hslash, if_neg hlong, hchild]
        | dir below =>
          refine .goes (location ++ [name]) fun _ _ _ hslash => ?_
          rw [descend_cons hlocation, if_neg hhere, if_neg hup, if_neg hslash, if_neg hlong, hchild]

/-- A name with nothing but slashes behind it leads on whatever the path is for, or no file can
be made under it. -/
theorem turn_of_slashBehind (root : Node) (location : Location) (name : Name) :
    (∃ next, ∀ ending onLink rest,
      descend root ending onLink location (name :: rest) = descend root ending onLink next rest) ∨
    ∀ ending onLink rest, SlashBehind ending rest →
      ∃ cause, descend root ending onLink location (name :: rest) = .error cause := by
  cases hlocation : root.get? location with
  | none => exact .inr fun _ _ _ _ => ⟨.notFound, by rw [descend, hlocation]⟩
  | some node =>
    cases node with
    | file bytes => exact .inr fun _ _ _ _ => ⟨.notDirectory, by rw [descend, hlocation]⟩
    | link target => exact .inr fun _ _ _ _ => ⟨.notDirectory, by rw [descend, hlocation]⟩
    | dir entries =>
      by_cases hhere : name = [] ∨ name = ['.']
      · exact .inl ⟨location, fun _ _ _ => by rw [descend_cons hlocation, if_pos hhere]⟩
      by_cases hup : name = ['.', '.']
      · exact .inl ⟨location.dropLast, fun _ _ _ => by
          rw [descend_cons hlocation, if_neg hhere, if_pos hup]⟩
      exact .inr fun _ _ _ hslash => ⟨.isDirectory, by
        rw [descend_cons hlocation, if_neg hhere, if_neg hup, if_pos hslash]⟩

variable {root : Node} {ending : Ending}
  {onLink onLink' : Location → List Name → Except DiskError Place}

/-! ## 4. Descents -/

theorem isIn_of_descend
    (honLink : ∀ start names place, onLink start names = .ok place → place.IsIn root)
    {start : Location} {names : List Name} {place : Place}
    (h : descend root ending onLink start names = .ok place) : place.IsIn root := by
  induction names generalizing start with
  | nil =>
    rw [descend] at h
    cases hstart : root.get? start with
    | none => simp [hstart] at h
    | some node =>
      simp only [hstart, Except.ok.injEq] at h
      rw [← h]
      exact hstart
  | cons name rest ih =>
    by_cases hslash : SlashBehind ending rest
    · rcases turn_of_slashBehind root start name with ⟨next, hnext⟩ | herror
      · exact ih (hnext _ _ _ ▸ h)
      · rcases herror _ onLink _ hslash with ⟨cause, hcause⟩
        rw [hcause] at h
        contradiction
    cases turn root start name with
    | goes next hgoes => exact ih (hgoes _ _ _ hslash ▸ h)
    | jumps target hlink hjumps =>
      rw [hjumps _ _ _ hslash] at h
      split at h
      · cases h
        exact hlink
      · exact honLink _ _ _ h
    | misses entries hdir hnone hmisses =>
      rw [hmisses _ _ _ hslash] at h
      split at h
      · cases h
        exact ⟨entries, hdir, hnone⟩
      · contradiction
    | fails cause hfails =>
      rw [hfails _ _ _ hslash] at h
      contradiction

theorem isIn_of_follow {links : Nat} {start : Location} {names : List Name} {place : Place}
    (h : follow root ending links start names = .ok place) : place.IsIn root := by
  induction links generalizing start names place with
  | zero => exact isIn_of_descend (fun _ _ _ hlink => by cases hlink) h
  | succ links ih => exact isIn_of_descend (fun _ _ _ hlink => ih hlink) h

/-- Only a directory is found behind slashes. -/
theorem exists_dir_of_descend_slashes {start location : Location} {names : List Name} {found : Node}
    (hnames : names.all List.isEmpty = true) (hne : names ≠ [])
    (h : descend root ending onLink start names = .ok (.node location found)) :
    ∃ entries, found = dir entries := by
  induction names with
  | nil => contradiction
  | cons name rest ih =>
    rw [List.all_cons, Bool.and_eq_true, List.isEmpty_iff] at hnames
    rw [descend] at h
    cases hstart : root.get? start with
    | none => simp [hstart] at h
    | some node =>
      cases node with
      | file bytes => simp [hstart] at h
      | link target => simp [hstart] at h
      | dir entries =>
        simp only [hstart, hnames.1, true_or, if_true] at h
        by_cases hrest : rest = []
        · rw [hrest, descend, hstart] at h
          cases h
          exact ⟨entries, rfl⟩
        · exact ih hnames.2 hrest h

/-- Whether a way to go along names finds only directories behind slashes. -/
def HeedsSlashes (go : Location → List Name → Except DiskError Place) : Prop :=
  ∀ start names slashes location found, slashes.all List.isEmpty = true → slashes ≠ [] →
    go start (names ++ slashes) = .ok (.node location found) → ∃ entries, found = dir entries

theorem heedsSlashes_descend (honLink : HeedsSlashes onLink) :
    HeedsSlashes (descend root ending onLink) := by
  intro start names slashes location found hall hne h
  induction names generalizing start with
  | nil => exact exists_dir_of_descend_slashes hall hne h
  | cons name names ih =>
    have hrest : (names ++ slashes).isEmpty = false := by simp [hne]
    rw [List.cons_append] at h
    by_cases hslash : SlashBehind ending (names ++ slashes)
    · rcases turn_of_slashBehind root start name with ⟨next, hnext⟩ | herror
      · exact ih next (hnext _ _ _ ▸ h)
      · rcases herror _ onLink _ hslash with ⟨cause, hcause⟩
        rw [hcause] at h
        contradiction
    cases turn root start name with
    | goes next hgoes => exact ih next (hgoes _ _ _ hslash ▸ h)
    | jumps target hlink hjumps =>
      -- the slashes are still behind the names of the link
      rw [hjumps _ _ _ hslash, hrest, if_neg (fun hkeep => Bool.false_ne_true hkeep.1),
        ← List.append_assoc] at h
      exact honLink _ _ _ _ _ hall hne h
    | misses entries hdir hnone hmisses =>
      rw [hmisses _ _ _ hslash, hrest] at h
      contradiction
    | fails cause hfails =>
      rw [hfails _ _ _ hslash] at h
      contradiction

theorem heedsSlashes_follow (links : Nat) : HeedsSlashes (follow root ending links) := by
  induction links with
  | zero => exact heedsSlashes_descend fun _ _ _ _ _ _ _ hlink => by cases hlink
  | succ links ih => exact heedsSlashes_descend ih

/-- A file that is found can be written to. -/
theorem descend_newFile (hslashes : HeedsSlashes onLink) {location : Location} {bytes : Bytes}
    (honLink : ∀ start names, onLink start names = .ok (.node location (file bytes)) →
      onLink' start names = .ok (.node location (file bytes)))
    {start : Location} {names : List Name}
    (h : descend root .followLink onLink start names = .ok (.node location (file bytes))) :
    descend root .newFile onLink' start names = .ok (.node location (file bytes)) := by
  induction names generalizing start with
  | nil => rwa [descend] at h ⊢
  | cons name rest ih =>
    have hfollow : ¬ SlashBehind .followLink rest := not_slashBehind (by decide) rest
    -- a slash behind the name would have led to a directory
    have hslash : ¬ SlashBehind .newFile rest := by
      rintro ⟨-, hne, hall⟩
      have hrest : rest ≠ [] := by simpa using hne
      rcases heedsSlashes_descend hslashes start [name] rest _ _ hall hrest h with ⟨entries, hdir⟩
      contradiction
    cases turn root start name with
    | goes next hgoes =>
      rw [hgoes _ _ _ hfollow] at h
      rw [hgoes _ _ _ hslash, ih h]
    | jumps target hlink hjumps =>
      rw [hjumps _ _ _ hfollow, if_neg (not_keepLink (by decide) rest)] at h
      rw [hjumps _ _ _ hslash, if_neg (not_keepLink (by decide) rest), honLink _ _ h]
    | misses entries hdir hnone hmisses =>
      rw [hmisses _ _ _ hfollow] at h
      split at h <;> cases h
    | fails cause hfails =>
      rw [hfails _ _ _ hfollow] at h
      contradiction

theorem follow_newFile {links : Nat} {location : Location} {bytes : Bytes} {start : Location}
    {names : List Name}
    (h : follow root .followLink links start names = .ok (.node location (file bytes))) :
    follow root .newFile links start names = .ok (.node location (file bytes)) := by
  induction links generalizing start names with
  | zero =>
    exact descend_newFile (fun _ _ _ _ _ _ _ hlink => by cases hlink)
      (fun _ _ hlink => by cases hlink) h
  | succ links ih => exact descend_newFile (heedsSlashes_follow links) (fun _ _ hlink => ih hlink) h

/-! ## 5. Descents without links -/

theorem get?_ne_link (hplain : root.isPlain = true) (location : Location) (target : Text) :
    root.get? location ≠ some (link target) :=
  fun hget => nomatch (isPlain_of_get? hplain hget).1

/-- Without links, how they are to be followed makes no difference. -/
theorem descend_congr (hplain : root.isPlain = true) {ending' : Ending}
    (hending : ending ≠ .newFile) (hending' : ending' ≠ .newFile) (location : Location)
    (names : List Name) :
    descend root ending onLink location names = descend root ending' onLink' location names := by
  induction names generalizing location with
  | nil => rw [descend, descend]
  | cons name rest ih =>
    have hslash := not_slashBehind hending rest
    have hslash' := not_slashBehind hending' rest
    cases turn root location name with
    | goes next h => rw [h _ _ _ hslash, h _ _ _ hslash', ih]
    | jumps target hlink h => exact absurd hlink (get?_ne_link hplain _ target)
    | misses entries hdir hnone h => rw [h _ _ _ hslash, h _ _ _ hslash']
    | fails cause h => rw [h _ _ _ hslash, h _ _ _ hslash']

/-- Names are gone along from where the names before them lead. -/
theorem descend_append (hplain : root.isPlain = true) (hending : ending ≠ .newFile)
    (location : Location) (names : List Name) {more : List Name} (hmore : more ≠ []) :
    descend root ending onLink location (names ++ more) =
      match descend root ending onLink location names with
      | .ok (.node base _) => descend root ending onLink base more
      | .ok (.absent _ _) => .error .notFound
      | .error cause => .error cause := by
  induction names generalizing location with
  | nil =>
    rw [List.nil_append, descend.eq_1]
    cases hlocation : root.get? location with
    | some node => rfl
    | none =>
      cases more with
      | nil => contradiction
      | cons name rest => simp only [descend, hlocation]
  | cons name rest ih =>
    have hslash := not_slashBehind hending rest
    have hslash' := not_slashBehind hending (rest ++ more)
    rw [List.cons_append]
    cases turn root location name with
    | goes next h => rw [h _ _ _ hslash, h _ _ _ hslash', ih]
    | jumps target hlink h => exact absurd hlink (get?_ne_link hplain _ target)
    | misses entries hdir hnone h =>
      have hrest : (rest ++ more).isEmpty = false := by simp [hmore]
      rw [h _ _ _ hslash, h _ _ _ hslash', hrest]
      cases rest.isEmpty <;> rfl
    | fails cause h => rw [h _ _ _ hslash, h _ _ _ hslash']

/-- The location of a node leads to it. -/
theorem descend_location (hplain : root.isPlain = true) (hending : ending ≠ .newFile)
    {base location : Location} {node child : Node} (hbase : root.get? base = some node)
    (hchild : node.get? location = some child) :
    descend root ending onLink base location = .ok (.node (base ++ location) child) := by
  induction location generalizing base node with
  | nil => rw [descend, hbase, ← Option.some.inj hchild, List.append_nil]
  | cons name rest ih =>
    rcases exists_of_get?_cons hchild with ⟨entries, next, rfl, hnext, hrest⟩
    have hname := (isPlain_of_get? (isPlain_of_get? hplain hbase).1 hchild).2 name
      List.mem_cons_self
    have hstep : root.get? (base ++ [name]) = some next := by
      rw [get?_append hbase, get?, hnext]
      rfl
    have hplain' := (isPlain_of_get? hplain hstep).1
    have hgo : descend root ending onLink base (name :: rest) =
        descend root ending onLink (base ++ [name]) rest := by
      simp only [descend, hbase, hname.ne_nil, hname.ne_here, or_self, if_neg hname.ne_up,
        if_neg (not_slashBehind hending rest), if_neg (Nat.not_lt.mpr hname.fits), hnext, if_false]
      cases next with
      | link target => contradiction
      | file bytes => rfl
      | dir below => rfl
    rw [hgo, ih hstep hrest, List.append_assoc, List.singleton_append]

theorem descend_of_descend_slash (hplain : root.isPlain = true) (hending : ending ≠ .newFile)
    {start location : Location} {names : List Name} {found : Node}
    (h : descend root ending onLink start (names ++ [[]]) = .ok (.node location found)) :
    descend root ending onLink start names = .ok (.node location found) := by
  rw [descend_append hplain hending _ _ (List.cons_ne_nil _ _)] at h
  cases hnames : descend root ending onLink start names with
  | error cause => simp [hnames] at h
  | ok place =>
    cases place with
    | absent directory name => simp [hnames] at h
    | node base node =>
      -- no link is followed, so how to follow one can be chosen
      have hstop : descend root ending (fun _ _ => .error .tooManyLinks) start names =
          .ok (.node base node) :=
        (descend_congr hplain hending hending start names).trans hnames
      have hbase : root.get? base = some node :=
        isIn_of_descend (fun _ _ _ hlink => by cases hlink) hstop
      simp only [hnames] at h
      rw [descend, hbase] at h
      cases node with
      | file bytes => contradiction
      | link target => contradiction
      | dir entries => simpa [descend, hbase] using h

/-! ## 6. Files -/

variable {disk : Disk}

theorem resolve_congr (hplain : disk.root.isPlain = true) {ending' : Ending}
    (hending : ending ≠ .newFile) (hending' : ending' ≠ .newFile) (path : Text) :
    disk.resolve ending path = disk.resolve ending' path := by
  simp only [resolve, follow]
  rw [descend_congr hplain hending hending']

/-- Where a path starts. -/
def start (disk : Disk) (path : Text) : Location :=
  if path.head? = some '/' then [] else disk.home

theorem resolve_eq_follow {path : Text} (hzero : '\x00' ∉ path) (hempty : path ≠ [])
    (hlong : byteLength path ≤ pathLimit) :
    disk.resolve ending path = follow disk.root ending 40 (disk.start path) (pathNames path) := by
  have hcontains : path.contains '\x00' = false := by simpa using hzero
  rw [resolve, hcontains, if_neg Bool.false_ne_true, if_neg hempty, if_neg (Nat.not_lt.mpr hlong)]
  rfl

theorem of_resolve {path : Text} {place : Place} (h : disk.resolve ending path = .ok place) :
    '\x00' ∉ path ∧ path ≠ [] ∧ byteLength path ≤ pathLimit := by
  rw [resolve] at h
  split at h
  · contradiction
  next hzero =>
    split at h
    · contradiction
    next hempty =>
      split at h
      · contradiction
      next hlong => exact ⟨by simpa using hzero, hempty, Nat.not_lt.mp hlong⟩

theorem isIn_of_resolve {path : Text} {place : Place} (h : disk.resolve ending path = .ok place) :
    place.IsIn disk.root := by
  rcases of_resolve h with ⟨hzero, hempty, hlong⟩
  rw [resolve_eq_follow hzero hempty hlong] at h
  exact isIn_of_follow h

/-- What is at a location below a path is found under the two joined. -/
theorem resolve_joinPath (hplain : disk.root.isPlain = true) (hending : ending ≠ .newFile)
    {path : Text} {base location : Location} {node child : Node}
    (hpath : disk.resolve ending path = .ok (.node base node))
    (hchild : node.get? location = some child)
    (hlong : byteLength (joinPath path location) ≤ pathLimit) :
    disk.resolve ending (joinPath path location) = .ok (.node (base ++ location) child) := by
  have hbase : disk.root.get? base = some node := isIn_of_resolve hpath
  have hnames := (isPlain_of_get? (isPlain_of_get? hplain hbase).1 hchild).2
  by_cases hlocation : location = []
  · subst hlocation
    rw [List.append_nil, ← Option.some.inj hchild]
    exact hpath
  rcases of_resolve hpath with ⟨hzero, hempty, hshort⟩
  have hhead := head?_joinPath hempty location
  have hzero' := notMem_joinPath (by decide) hzero fun name hname => (hnames name hname).zero
  have hempty' : joinPath path location ≠ [] := by
    intro hnil
    rw [hnil, List.head?_nil] at hhead
    exact hempty (List.head?_eq_none_iff.mp hhead.symm)
  -- the names of the path lead to `base`, also without the empty one behind a slash; from there it
  -- is the location
  rcases exists_pathNames_joinPath path with ⟨front, hfront, hjoin⟩
  have hjoined := hjoin location hlocation hnames
  rw [resolve_eq_follow hzero hempty hshort, follow] at hpath
  have hlead : descend disk.root ending (follow disk.root ending 39) (disk.start path) front =
      .ok (.node base node) := by
    rcases hfront with hsame | hslash
    · rwa [hsame] at hpath
    · rw [hslash] at hpath
      exact descend_of_descend_slash hplain hending hpath
  rw [resolve_eq_follow hzero' hempty' hlong, start, hhead, ← start, hjoined, follow,
    descend_append hplain hending _ _ hlocation, hlead]
  exact descend_location hplain hending hbase hchild

theorem resolve_newFile {path : Text} {location : Location} {bytes : Bytes}
    (h : disk.resolve .followLink path = .ok (.node location (file bytes))) :
    disk.resolve .newFile path = .ok (.node location (file bytes)) := by
  rcases of_resolve h with ⟨hzero, hempty, hlong⟩
  rw [resolve_eq_follow hzero hempty hlong] at h ⊢
  exact follow_newFile h

/-- The location of the file that a path leads to. -/
def locate (disk : Disk) (path : Text) : Option Location :=
  match disk.resolve .followLink path with
  | .ok (.node location (.file _)) => some location
  | _ => none

theorem locate_shape (disk : Disk) (path : Text) : disk.shape.locate path = disk.locate path := by
  rw [locate, locate, resolve_shape]
  cases disk.resolve .followLink path with
  | error cause => rfl
  | ok place =>
    cases place with
    | absent directory name => rfl
    | node location found => cases found <;> rfl

theorem fileAt?_eq (disk : Disk) (location : Location) :
    disk.fileAt? location = (disk.root.get? location).bind bytes? := by
  rw [fileAt?]
  cases disk.root.get? location with
  | none => rfl
  | some node => cases node <;> rfl

theorem resolve_of_locate {path : Text} {location : Location}
    (h : disk.locate path = some location) :
    ∃ bytes, disk.resolve .followLink path = .ok (.node location (file bytes)) ∧
      disk.root.get? location = some (file bytes) := by
  rw [locate] at h
  split at h
  next found bytes hresolve =>
    cases h
    exact ⟨bytes, hresolve, isIn_of_resolve hresolve⟩
  · contradiction

theorem read_of_locate {path : Text} {location : Location} (h : disk.locate path = some location) :
    ∃ bytes, disk.fileAt? location = some bytes ∧ disk.read path = .ok bytes := by
  rcases resolve_of_locate h with ⟨bytes, hresolve, hget⟩
  refine ⟨bytes, by rw [fileAt?, hget], ?_⟩
  rw [read, find, hresolve]
  rfl

/-- Writing to a file replaces its bytes, and leaves every other file and the shape of
the disk alone. -/
theorem write_of_locate {path : Text} {location : Location} (h : disk.locate path = some location)
    (bytes : Bytes) :
    ∃ disk', disk.write path bytes = .ok disk' ∧ disk'.shape = disk.shape ∧
      ∀ other, disk'.fileAt? other =
        if other = location then some bytes else disk.fileAt? other := by
  rcases resolve_of_locate h with ⟨old, hresolve, hget⟩
  refine ⟨{ disk with root := put (file bytes) location disk.root }, ?_, ?_, fun other => ?_⟩
  · rw [write, target, resolve_newFile hresolve]
    rfl
  · rw [shape, shape, shape_put hget]
  · rw [fileAt?_eq, fileAt?_eq, bytes?_get?_put (.of_file hget)]

theorem read_of_pathLimit_lt {path : Text} (hlong : pathLimit < byteLength path) :
    ∃ cause, disk.read path = .error cause := by
  rw [read, find]
  cases hresolve : disk.resolve .followLink path with
  | error cause => exact ⟨cause, rfl⟩
  | ok place => exact absurd (of_resolve hresolve).2.2 (Nat.not_le.mpr hlong)

/-! ## 7. Walks without links -/

theorem exists?_of_find {path : Text} {found : Node} (h : disk.find path = .ok found) :
    disk.exists? path = true := by
  rw [exists?, h]
  rfl

theorem resolve_of_find {path : Text} {found : Node} (h : disk.find path = .ok found) :
    ∃ location, disk.resolve .followLink path = .ok (.node location found) := by
  rw [find] at h
  cases hresolve : disk.resolve .followLink path with
  | error cause => rw [hresolve] at h; contradiction
  | ok place =>
    rw [hresolve] at h
    cases place with
    | absent directory name => contradiction
    | node location node =>
      cases h
      exact ⟨location, rfl⟩

theorem isPlain_of_find (hplain : disk.root.isPlain = true) {path : Text} {found : Node}
    (h : disk.find path = .ok found) : found.isPlain = true := by
  rcases resolve_of_find h with ⟨location, hresolve⟩
  exact (isPlain_of_get? hplain (isIn_of_resolve hresolve)).1

theorem walkRoot_eq_find (hplain : disk.root.isPlain = true) (path : Text) :
    disk.walkRoot path = disk.find path := by
  have hkeep : disk.resolve .keepLink path = disk.resolve .followLink path :=
    resolve_congr hplain (by decide) (by decide) path
  rw [walkRoot, find, hkeep]
  cases hresolve : disk.resolve .followLink path with
  | error cause => rfl
  | ok place =>
    cases place with
    | absent directory name => rfl
    | node location found =>
      have hfound := (isPlain_of_get? hplain (isIn_of_resolve hresolve)).1
      cases found with
      | link target => contradiction
      | file bytes => rfl
      | dir entries => rfl

/-- Whether a walk from a path comes to its end: the path leads somewhere, and the directories below
it have paths that are not too long. -/
def reaches (disk : Disk) (path : Text) : Bool :=
  match disk.find path with
  | .ok root => root.visits.all (goesOn path)
  | .error _ => false

theorem stop_walk_eq_none (hplain : disk.root.isPlain = true) (path : Text) :
    (disk.walk path).stop = none ↔ disk.reaches path = true := by
  rw [walk, reaches, walkRoot_eq_find hplain]
  cases disk.find path with
  | error cause => simp
  | ok root => simp [List.dropWhile_eq_nil_iff]

theorem exists_stop_walk (hplain : disk.root.isPlain = true) {path : Text}
    (h : disk.reaches path = false) :
    ∃ stop, (disk.walk path).stop = some stop := by
  rw [← Option.isSome_iff_exists, Option.isSome_iff_ne_none, Ne, stop_walk_eq_none hplain, h]
  decide

/-- A file that a walk meets is found under its path, if that is not too long. -/
theorem exists_locate_of_mem_walk (hplain : disk.root.isPlain = true) {path : Text} {met : Met}
    (hmet : met ∈ (disk.walk path).met) (hlong : byteLength met.path ≤ pathLimit) :
    ∃ location, disk.locate met.path = some location := by
  rw [walk, walkRoot_eq_find hplain] at hmet
  cases hfind : disk.find path with
  | error cause => simp [hfind] at hmet
  | ok root =>
    simp only [hfind, List.mem_map, List.mem_filter] at hmet
    rcases hmet with ⟨visit, ⟨hvisit, hfile⟩, rfl⟩
    rcases resolve_of_find hfind with ⟨base, hbase⟩
    have hget := get?_of_mem_visits (isPlain_of_find hplain hfind)
      ((List.takeWhile_sublist _).subset hvisit)
    rw [if_neg (by simpa using hfile)] at hget
    rcases hget with ⟨bytes, hbytes⟩
    exact ⟨base ++ visit.location, by
      rw [locate, resolve_joinPath hplain (by decide) hbase hbytes hlong]⟩

/-! ## 8. Long paths to a directory -/

theorem byteLength_append (s t : Text) : byteLength (s ++ t) = byteLength s + byteLength t := by
  simp [byteLength, Text.toUtf8]

/-- A path that stays in the working directory. -/
def stay (n : Nat) : Text :=
  (List.replicate n ['.', '/']).flatten

theorem stay_succ (n : Nat) : stay (n + 1) = ['.', '/'] ++ stay n := by
  rw [stay, List.replicate_succ, List.flatten_cons, stay]

theorem byteLength_stay (n : Nat) : byteLength (stay n) = 2 * n := by
  induction n with
  | zero => rfl
  | succ n ih =>
    have hstep : byteLength ['.', '/'] = 2 := by decide
    rw [stay_succ, byteLength_append, ih, hstep]
    omega

theorem zero_notMem_stay (n : Nat) : '\x00' ∉ stay n := by
  simp [stay]

theorem getLast?_stay {n : Nat} (hn : 0 < n) : (stay n).getLast? = some '/' := by
  cases n with
  | zero => contradiction
  | succ n =>
    rw [stay, List.replicate_succ', List.flatten_append]
    simp

theorem joinPath_stay {n : Nat} (hn : 0 < n) (name : Name) :
    joinPath (stay n) [name] = stay n ++ name := by
  rw [joinPath_cons, getLast?_stay hn, if_pos rfl, List.append_nil]
  rfl

theorem descend_stay {root : Node} {ending : Ending}
    {onLink : Location → List Name → Except DiskError Place} {location : Location}
    {entries : List (Name × Node)} (h : root.get? location = some (dir entries)) (n : Nat) :
    descend root ending onLink location (pathNames (stay n)) =
      .ok (.node location (dir entries)) := by
  induction n with
  | zero =>
    have hnames : pathNames (stay 0) = [[]] := rfl
    simp only [hnames, descend, h, true_or, if_true]
  | succ n ih =>
    have hnames : pathNames (stay (n + 1)) = ['.'] :: pathNames (stay n) := by
      rw [stay_succ]
      exact pathNames_append_slash ['.'] (stay n)
    simp only [hnames, descend, h, or_true, if_true, ih]

theorem find_stay {disk : Disk} {entries : List (Name × Node)}
    (h : disk.root.get? disk.home = some (dir entries)) {n : Nat} (hn : 0 < n)
    (hlong : 2 * n ≤ pathLimit) : disk.find (stay n) = .ok (dir entries) := by
  cases n with
  | zero => contradiction
  | succ n =>
    have hempty : stay (n + 1) ≠ [] := by
      rw [stay_succ]
      exact List.cons_ne_nil _ _
    have hstart : disk.start (stay (n + 1)) = disk.home := by
      rw [start, stay_succ]
      rfl
    rw [← byteLength_stay] at hlong
    rw [find, resolve_eq_follow (zero_notMem_stay _) hempty hlong, hstart, follow, descend_stay h]
    rfl

end Disk

end Relabel
