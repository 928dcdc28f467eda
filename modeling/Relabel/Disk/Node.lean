import Relabel.Table
import Relabel.Text.SingleByte

/-!
# Trees of files

A directory holds files, directories and symbolic links under distinct names. A location is the list
of names that leads from the top of a tree to a node.
-/

namespace Relabel

/-- The names on the way from the top of a tree to a node. -/
abbrev Location := List Name

inductive Node where
  | file (bytes : Bytes)
  | dir (entries : List (Name × Node))
  | link (target : Text)
deriving Repr, Inhabited

namespace Node

/-- The node at a location. -/
def get? : Location → Node → Option Node
  | [], node => some node
  | name :: rest, dir entries => (valueAt? name entries).bind (get? rest)
  | _ :: _, _ => none

/-- Puts a node at a location; directories on the way are made where nothing is. -/
def put (new : Node) : Location → Node → Node
  | [], _ => new
  | name :: rest, dir entries =>
      dir (putEntry name (put new rest ((valueAt? name entries).getD (dir []))) entries)
  | _ :: _, node => node

/-- Whether a name comes before another in a listing, or is the same: names are ordered like words,
characters by their numbers. -/
def precedes : Name → Name → Bool
  | [], _ => true
  | _ :: _, [] => false
  | a :: s, b :: t => if a = b then precedes s t else a.toNat < b.toNat

/-- Sorts what is kept under names by name. -/
def sortByName {α : Type} (entries : List (Name × α)) : List (Name × α) :=
  entries.mergeSort fun a b => precedes a.1 b.1

/-- A file or a directory that a walk comes to. -/
structure Visit where
  location : Location
  isDirectory : Bool
deriving DecidableEq, Repr

/-- A visit of a tree as a visit of the directory that has the tree under a name. -/
def Visit.under (name : Name) (visit : Visit) : Visit :=
  { visit with location := name :: visit.location }

mutual

/-- What a walk over a tree comes to: a directory before what is in it, the entries of a directory
by name. Links are passed over. -/
def visits : Node → List Visit
  | file _ => [⟨[], false⟩]
  | link _ => []
  | dir entries =>
      ⟨[], true⟩ ::
        (sortByName (visitsByEntry entries)).flatMap fun (name, below) => below.map (·.under name)

/-- The visits of each entry of a directory. -/
def visitsByEntry : List (Name × Node) → List (Name × List Visit)
  | [] => []
  | (name, node) :: rest => (name, visits node) :: visitsByEntry rest

end

/-- The locations of the regular files of a tree, in the order of a walk. -/
def files (node : Node) : List Location :=
  (node.visits.filter fun visit => !visit.isDirectory).map (·.location)

end Node

end Relabel
