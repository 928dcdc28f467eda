import Relabel.Proofs.Paths

/-!
# Reading and writing through a path

A path stands for one file, also where links are followed and where the file is made by the first
write: what is written is read again, a second write leaves nothing of the first, and to write what
was read changes nothing.
-/

namespace Relabel

open Node

/-! ## 1. Where a file goes -/

/-- Where a file goes that is written to a place. -/
def Place.fileLocation? : Place → Option Location
  | node location (.file _) => some location
  | node _ _ => none
  | absent directory name => some (directory ++ [name])

theorem Place.IsIn.writable {root : Node} {place : Place} (hplace : place.IsIn root)
    {location : Location} (h : place.fileLocation? = some location) : Writable location root := by
  cases place with
  | absent directory name =>
    rcases hplace with ⟨entries, hdir, hnone⟩
    cases h
    exact .of_absent hdir hnone
  | node found node =>
    cases node with
    | file bytes =>
      cases h
      exact .of_file hplace
    | dir entries => contradiction
    | link target => contradiction

namespace Disk

variable {root : Node} {onLink onLink' : Location → List Name → Except DiskError Place}
  {location : Location}

/-- One name on the way to where a file goes, before the write and after it: it leads on, it is a
link, or it is the name of the new file. -/
theorem descend_put_cons (hwritable : Writable location root) (bytes : Bytes) {start : Location}
    {name : Name} {rest : List Name} {place : Place}
    (h : descend root .newFile onLink start (name :: rest) = .ok place)
    (hplace : place.fileLocation? = some location) :
    let root' := put (file bytes) location root
    (∃ next, descend root .newFile onLink next rest = .ok place ∧
        descend root' .followLink onLink' start (name :: rest) =
          descend root' .followLink onLink' next rest) ∨
      (∃ next names, onLink next names = .ok place ∧
        descend root' .followLink onLink' start (name :: rest) = onLink' next names) ∨
      descend root' .followLink onLink' start (name :: rest) =
        descend root' .followLink onLink' location [] := by
  intro root'
  cases hstart : root.get? start with
  | none => simp [descend, hstart] at h
  | some node =>
    cases node with
    | file old => simp [descend, hstart] at h
    | link target => simp [descend, hstart] at h
    | dir entries =>
      rcases exists_get?_put hwritable bytes hstart with ⟨node', hstart', htop⟩
      cases node' with
      | file old => contradiction
      | link target => contradiction
      | dir entries' =>
        -- both descents ask the same questions about the name, and the last one about what
        -- is there under it
        by_cases hhere : name = [] ∨ name = ['.']
        · rw [descend_cons hstart, if_pos hhere] at h
          exact .inl ⟨start, h, by rw [descend_cons hstart', if_pos hhere]⟩
        by_cases hup : name = ['.', '.']
        · rw [descend_cons hstart, if_neg hhere, if_pos hup] at h
          exact .inl ⟨start.dropLast, h, by rw [descend_cons hstart', if_neg hhere, if_pos hup]⟩
        by_cases hslash : SlashBehind .newFile rest
        · rw [descend_cons hstart, if_neg hhere, if_neg hup, if_pos hslash] at h
          contradiction
        by_cases hlong : nameLimit < byteLength name
        · rw [descend_cons hstart, if_neg hhere, if_neg hup, if_neg hslash, if_pos hlong] at h
          contradiction
        have hfollow : ¬ SlashBehind .followLink rest := not_slashBehind (by decide) rest
        rw [descend_cons hstart, if_neg hhere, if_neg hup, if_neg hslash, if_neg hlong] at h
        rw [descend_cons hstart', if_neg hhere, if_neg hup, if_neg hfollow, if_neg hlong]
        cases hchild : root.get? (start ++ [name]) with
        | none =>
          rw [hchild] at h
          cases rest with
          | cons name' rest => contradiction
          | nil =>
            cases h
            cases hplace
            rw [get?_put_self hwritable]
            exact .inr (.inr rfl)
        | some child =>
          rcases exists_get?_put hwritable bytes hchild with ⟨child', hchild', htop'⟩
          rw [hchild] at h
          rw [hchild']
          cases child with
          | link target =>
            cases child' with
            | file old => contradiction
            | dir below => contradiction
            | link target' =>
              cases htop'
              dsimp only at h
              rw [if_neg (not_keepLink (by decide) rest)] at h
              exact .inr (.inl ⟨_, _, h, if_neg (not_keepLink (by decide) rest)⟩)
          | file old =>
            cases child' with
            | file new => exact .inl ⟨start ++ [name], h, rfl⟩
            | dir below => contradiction
            | link target => contradiction
          | dir below =>
            cases child' with
            | file new => contradiction
            | dir below' => exact .inl ⟨start ++ [name], h, rfl⟩
            | link target => contradiction

/-- After a write, the names that led to where the file went lead to the file. -/
theorem descend_put (hwritable : Writable location root) (bytes : Bytes)
    (honLink : ∀ start names place, onLink start names = .ok place →
      place.fileLocation? = some location →
      onLink' start names = .ok (.node location (file bytes)))
    {start : Location} {names : List Name} {place : Place}
    (h : descend root .newFile onLink start names = .ok place)
    (hplace : place.fileLocation? = some location) :
    descend (put (file bytes) location root) .followLink onLink' start names =
      .ok (.node location (file bytes)) := by
  have hself : descend (put (file bytes) location root) .followLink onLink' location [] =
      .ok (.node location (file bytes)) := by
    rw [descend, get?_put_self hwritable]
  induction names generalizing start with
  | nil =>
    cases hstart : root.get? start with
    | none => simp [descend, hstart] at h
    | some node =>
      simp only [descend, hstart, Except.ok.injEq] at h
      subst h
      cases node with
      | file old =>
        cases hplace
        exact hself
      | dir entries => contradiction
      | link target => contradiction
  | cons name rest ih =>
    rcases descend_put_cons hwritable bytes h hplace with
      ⟨next, hnext, heq⟩ | ⟨next, names, hlink, heq⟩ | heq
    · rw [heq, ih hnext]
    · rw [heq, honLink _ _ _ hlink hplace]
    · rw [heq, hself]

theorem follow_put (hwritable : Writable location root) (bytes : Bytes) {links : Nat}
    {start : Location} {names : List Name} {place : Place}
    (h : follow root .newFile links start names = .ok place)
    (hplace : place.fileLocation? = some location) :
    follow (put (file bytes) location root) .followLink links start names =
      .ok (.node location (file bytes)) := by
  induction links generalizing start names place with
  | zero => exact descend_put hwritable bytes (fun _ _ _ hlink => by cases hlink) h hplace
  | succ links ih =>
    exact descend_put hwritable bytes (fun _ _ _ hlink hat => ih hlink hat) h hplace

/-! ## 2. The laws -/

variable {disk disk' : Disk} {path : Text} {bytes : Bytes}

theorem of_target (h : disk.target path = .ok location) :
    ∃ place, disk.resolve .newFile path = .ok place ∧ place.fileLocation? = some location := by
  rw [target] at h
  cases hplace : disk.resolve .newFile path with
  | error cause =>
    rw [hplace] at h
    contradiction
  | ok place =>
    rw [hplace] at h
    refine ⟨place, rfl, ?_⟩
    cases place with
    | absent directory name => exact congrArg some (Except.ok.inj h)
    | node found node =>
      cases node with
      | file old => exact congrArg some (Except.ok.inj h)
      | dir entries => contradiction
      | link target => contradiction

theorem writable_of_target (h : disk.target path = .ok location) : Writable location disk.root := by
  rcases of_target h with ⟨place, hplace, hlocation⟩
  exact (isIn_of_resolve hplace).writable hlocation

/-- A write puts the file where the path has a place for it. -/
theorem write_eq_ok : disk.write path bytes = .ok disk' ↔
    ∃ location, disk.target path = .ok location ∧
      disk' = { disk with root := put (file bytes) location disk.root } := by
  rw [write]
  cases disk.target path with
  | error cause => simp [bind, Except.bind]
  | ok location => simp [bind, Except.bind, pure, Except.pure, eq_comm]

theorem target_of_write_eq_error {cause : DiskError} (h : disk.write path bytes = .error cause) :
    disk.target path = .error cause := by
  rw [write] at h
  cases htarget : disk.target path with
  | error found =>
    rw [htarget] at h
    cases h
    rfl
  | ok location =>
    rw [htarget] at h
    cases h

theorem resolve_write (h : disk.write path bytes = .ok disk') :
    ∃ location, disk.target path = .ok location ∧
      disk'.resolve .followLink path = .ok (.node location (file bytes)) := by
  rcases write_eq_ok.mp h with ⟨location, htarget, rfl⟩
  rcases of_target htarget with ⟨place, hplace, hlocation⟩
  have hwritable := writable_of_target htarget
  rcases of_resolve hplace with ⟨hzero, hempty, hlong⟩
  rw [resolve_eq_follow hzero hempty hlong] at hplace
  refine ⟨location, htarget, ?_⟩
  rw [resolve_eq_follow hzero hempty hlong]
  exact follow_put hwritable bytes hplace hlocation

/-- What is written is read again. -/
theorem read_write (h : disk.write path bytes = .ok disk') : disk'.read path = .ok bytes := by
  rcases resolve_write h with ⟨location, -, hresolve⟩
  rw [read, find, hresolve]
  rfl

theorem target_write (h : disk.write path bytes = .ok disk') :
    disk'.target path = disk.target path := by
  rcases resolve_write h with ⟨location, htarget, hresolve⟩
  rw [htarget, target, resolve_newFile hresolve]
  rfl

/-- A second write leaves nothing of the first. -/
theorem write_write (h : disk.write path bytes = .ok disk') (bytes' : Bytes) :
    disk'.write path bytes' = disk.write path bytes' := by
  have htarget' := target_write h
  rcases write_eq_ok.mp h with ⟨location, htarget, rfl⟩
  rw [write, write, htarget', htarget]
  change Except.ok _ = Except.ok _
  rw [put_put]

/-- To write what was read changes nothing. -/
theorem write_of_read (h : disk.read path = .ok bytes) : disk.write path bytes = .ok disk := by
  have hfile : ∃ location, disk.resolve .followLink path = .ok (.node location (file bytes)) := by
    rw [read] at h
    cases hfind : disk.find path with
    | error cause =>
      rw [hfind] at h
      contradiction
    | ok found =>
      rw [hfind] at h
      cases found with
      | file old =>
        cases h
        exact resolve_of_find hfind
      | dir entries => contradiction
      | link target => contradiction
  rcases hfile with ⟨location, hresolve⟩
  have hget : disk.root.get? location = some (file bytes) := isIn_of_resolve hresolve
  rw [write, target, resolve_newFile hresolve]
  change Except.ok _ = Except.ok _
  rw [put_of_get? hget]

/-- The other files stay as they are. -/
theorem fileAt?_write (h : disk.write path bytes = .ok disk') :
    ∃ location, disk.target path = .ok location ∧
      ∀ other, disk'.fileAt? other =
        if other = location then some bytes else disk.fileAt? other := by
  rcases write_eq_ok.mp h with ⟨location, htarget, rfl⟩
  refine ⟨location, htarget, fun other => ?_⟩
  rw [fileAt?_eq, fileAt?_eq, bytes?_get?_put (writable_of_target htarget)]

end Disk

end Relabel
