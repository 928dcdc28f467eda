import Relabel.Program

/-!
# Running on real files

The trees that an invocation names are read into a disk, the program runs on it, and the files that
it changed are written back.
-/

namespace Relabel.Main

/-- The path of a location. -/
def absolute (location : Location) : String :=
  "/" ++ String.ofList (['/'].intercalate location)

/-- The kind of thing at a location, if there is one; links are not followed. -/
def kindAt? (location : Location) : IO (Option IO.FS.FileType) := do
  try
    return some (← ((← IO.currentDir) / absolute location).symlinkMetadata).type
  catch _ => return none

/-- The tree at a location. Links below it are kept, but nothing goes through them. -/
partial def treeAt? (location : Location) : IO (Option Node) := do
  match ← kindAt? location with
  | some .file => return some (.file (← IO.FS.readBinFile (absolute location)).toList)
  | some .symlink =>
      try
        let target ← IO.FS.realPath (absolute location)
        return some (.link target.toString.toList)
      catch _ => return none
  | some .dir =>
      let mut entries := #[]
      for entry in ← ((← IO.currentDir) / absolute location).readDir do
        let name := entry.fileName.toList
        if let some node ← treeAt? (location ++ [name]) then
          entries := entries.push (name, node)
      return some (.dir entries.toList)
  | _ => return none

/-- Adds what is on the way of a path, and the tree at its end. -/
partial def addPath (disk : Disk) (location : Location) : List Name → IO Disk
  | [] => do
      match ← treeAt? location with
      | none => return disk
      | some node =>
          let disk := { disk with root := Node.put node location disk.root }
          match node with
          | .link target => addPath disk [] (pathNames target)
          | _ => return disk
  | name :: rest => do
      if name = [] ∨ name = ['.'] then addPath disk location rest
      else if name = ['.', '.'] then addPath disk location.dropLast rest
      else
        let location := location ++ [name]
        match ← kindAt? location with
        | some .dir =>
            let known := (disk.root.get? location).isSome
            let root := if known then disk.root else Node.put (.dir []) location disk.root
            addPath { disk with root := root } location rest
        | some .symlink =>
            let disk ← addPath disk location []
            match disk.root.get? location with
            | some (.link target) => addPath disk [] (pathNames target ++ rest)
            | _ => return disk
        | _ => addPath disk location []

/-- Reads the trees that paths name. -/
def readDisk (paths : List Text) : IO Disk := do
  let home := (pathNames (← IO.currentDir).toString.toList).filter (· ≠ [])
  let mut disk : Disk := { root := Node.put (.dir []) home (.dir []), home }
  for path in paths do
    let start := if path.head? = some '/' then [] else home
    disk ← addPath disk start (pathNames path)
  return disk

/-- The variables of the environment. -/
def readEnvironment : IO Environment := do
  try
    return Settings.variablesOf (← IO.FS.readBinFile "/proc/self/environ").toList
  catch _ => return []

/-- Runs the program and gives its exit code. -/
def runOn (args : List Text) : IO UInt32 := do
  let disk ←
    match Invocation.ofArguments args with
    | .ok invocation => readDisk (Program.paths invocation)
    | .error _ => pure { root := .dir [] }
  let out := Program.run disk (← readEnvironment) args
  for (location, bytes) in disk.changes out.disk do
    IO.FS.writeBinFile (absolute location) ⟨bytes.toArray⟩
  for event in out.log do
    IO.eprintln event.line
  IO.print out.stdout
  IO.eprint out.report
  return out.exitCode.toUInt32

end Relabel.Main

def main (args : List String) : IO UInt32 :=
  Relabel.Main.runOn (args.map String.toList)
