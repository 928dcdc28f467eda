import Relabel.Disk.Node
import Relabel.Error
import Relabel.Text.Utf8

/-!
# The disk

A tree of files, and the directory that relative paths start from. A path is resolved name by name;
symbolic links are followed on the way, at most forty of them. Paths and names have a limited length
in bytes.

The disk is an ideal one in four ways, and what is said of failures rests on them:

* A write is all or nothing. It puts all bytes of a file in their place, or it fails and the disk is
  as before; no file is left cut short, and there is always room.
* Whatever is there may be opened. Nothing is refused for want of a permission, so to read, to list
  and to write fail only for the reasons that a `DiskError` gives.
* Names and paths are texts, that is, their bytes are UTF-8.
* Nobody else works on the disk while a program runs.
-/

namespace Relabel

structure Disk where
  root : Node
  /-- The location of the working directory. -/
  home : Location := []
deriving Repr, Inhabited

/-- The names between the slashes of a path. -/
def pathNames : Text → List Name
  | [] => [[]]
  | c :: rest =>
      if c = '/' then [] :: pathNames rest
      else
        match pathNames rest with
        | [] => [[c]]
        | name :: more => (c :: name) :: more

/-- The last name of a path. -/
def pathName (path : Text) : Name :=
  (pathNames path).getLastD []

/-- What becomes of the last name of a path. -/
inductive Ending where
  /-- A link is taken as it is. -/
  | keepLink
  /-- A link is followed. -/
  | followLink
  /-- A link is followed to where a file is to be made, so a slash behind the name is refused. -/
  | newFile
deriving DecidableEq, Repr

/-- What a path leads to. -/
inductive Place where
  | node (location : Location) (node : Node)
  /-- Nothing, in a directory that is there. -/
  | absent (directory : Location) (name : Name)

namespace Disk

/-- The number of bytes of a name or a path. -/
def byteLength (t : Text) : Nat :=
  (Text.toUtf8 t).length

/-- The most bytes that a name can have. -/
def nameLimit : Nat := 255

/-- The most bytes that a path can have. -/
def pathLimit : Nat := 4095

/-- Goes along `names` from a location. `onLink` goes on from a location along other names when a
link has to be followed. -/
def descend (root : Node) (ending : Ending)
    (onLink : Location → List Name → Except DiskError Place) :
    Location → List Name → Except DiskError Place
  | location, [] =>
      match root.get? location with
      | some node => .ok (.node location node)
      | none => .error .notFound
  | location, name :: rest =>
      match root.get? location with
      | some (.dir entries) =>
          if name = [] ∨ name = ['.'] then descend root ending onLink location rest
          else if name = ['.', '.'] then descend root ending onLink location.dropLast rest
          else if ending = .newFile ∧ !rest.isEmpty ∧ rest.all List.isEmpty then .error .isDirectory
          else if nameLimit < byteLength name then .error .nameTooLong
          else
            match valueAt? name entries with
            | none => if rest.isEmpty then .ok (.absent location name) else .error .notFound
            | some (.link target) =>
                if rest.isEmpty ∧ ending = .keepLink then
                  .ok (.node (location ++ [name]) (.link target))
                else
                  let start := if target.head? = some '/' then [] else location
                  onLink start (pathNames target ++ rest)
            | some _ => descend root ending onLink (location ++ [name]) rest
      | some _ => .error .notDirectory
      | none => .error .notFound

/-- Goes along names and follows at most `links` links. -/
def follow (root : Node) (ending : Ending) :
    (links : Nat) → Location → List Name → Except DiskError Place
  | 0 => descend root ending fun _ _ => .error .tooManyLinks
  | links + 1 => descend root ending (follow root ending links)

/-- What a path leads to. -/
def resolve (disk : Disk) (ending : Ending) (path : Text) : Except DiskError Place :=
  if path.contains '\x00' then .error .zeroInPath
  else if path = [] then .error .notFound
  else if pathLimit < byteLength path then .error .nameTooLong
  else
    let start := if path.head? = some '/' then [] else disk.home
    follow disk.root ending 40 start (pathNames path)

/-- The node that a path leads to, links followed. -/
def find (disk : Disk) (path : Text) : Except DiskError Node := do
  match ← disk.resolve .followLink path with
  | .node _ node => return node
  | .absent _ _ => .error .notFound

def exists? (disk : Disk) (path : Text) : Bool :=
  (disk.find path).isOk

def isFile (disk : Disk) (path : Text) : Bool :=
  match disk.find path with
  | .ok (.file _) => true
  | _ => false

/-- The contents of a file. -/
def read (disk : Disk) (path : Text) : Except DiskError Bytes := do
  match ← disk.find path with
  | .file bytes => return bytes
  | _ => .error .isDirectory

/-- Where a file that is written to a path goes: to a file that is there, or under a new name in a
directory. -/
def target (disk : Disk) (path : Text) : Except DiskError Location := do
  match ← disk.resolve .newFile path with
  | .node location (.file _) => return location
  | .node _ _ => .error .isDirectory
  | .absent directory name => return directory ++ [name]

/-- Replaces the contents of a file, or makes a new file in a directory that is there. -/
def write (disk : Disk) (path : Text) (bytes : Bytes) : Except DiskError Disk := do
  return { disk with root := Node.put (.file bytes) (← disk.target path) disk.root }

/-- The contents of the file at a location. -/
def fileAt? (disk : Disk) (location : Location) : Option Bytes :=
  match disk.root.get? location with
  | some (.file bytes) => some bytes
  | _ => none

/-- The files that are new on a disk or have other contents than before. -/
def changes (before after : Disk) : List (Location × Bytes) :=
  after.root.files.filterMap fun location => do
    let bytes ← after.fileAt? location
    if before.fileAt? location = some bytes then none else some (location, bytes)

/-! ## Walking -/

/-- A path with a location below it. -/
def joinPath (path : Text) (location : Location) : Text :=
  location.foldl
    (fun path name => path ++ (if path.getLast? = some '/' then [] else ['/']) ++ name) path

/-- A regular file met on a walk. -/
structure Met where
  path : Text
  name : Name
deriving DecidableEq, Repr

/-- The tree that a walk from `path` goes over. A link at the root is followed when it leads to a
directory; one that leads to a file is met as a link. -/
def walkRoot (disk : Disk) (path : Text) : Except DiskError Node := do
  match ← disk.resolve .keepLink path with
  | .absent _ _ => .error .notFound
  | .node _ (.link target) =>
      match ← disk.find path with
      | .dir entries => return .dir entries
      | _ => return .link target
  | .node _ node => return node

/-- How a walk went. -/
structure Walk where
  /-- The regular files that it met, in order. -/
  met : List Met
  /-- Where it stopped and why, if it did not come to its end. -/
  stop : Option (Text × DiskError) := none
deriving DecidableEq, Repr

/-- Whether a walk from `path` goes on at a visit: a directory is opened by its
path, a file is not. -/
def goesOn (path : Text) (visit : Node.Visit) : Bool :=
  !visit.isDirectory || byteLength (joinPath path visit.location) ≤ pathLimit

/-- Walks over the regular files at and below a path. -/
def walk (disk : Disk) (path : Text) : Walk :=
  match disk.walkRoot path with
  | .error cause => { met := [], stop := some (path, cause) }
  | .ok root =>
      let reached := root.visits.takeWhile (goesOn path)
      let behind := root.visits.dropWhile (goesOn path)
      { met := (reached.filter fun visit => !visit.isDirectory).map fun visit =>
          ⟨joinPath path visit.location, visit.location.getLastD (pathName path)⟩
        stop := behind.head?.map fun visit => (joinPath path visit.location, .nameTooLong) }

end Disk

end Relabel
