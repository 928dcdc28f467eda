import Relabel.Disk
import Relabel.Proofs.Tables

/-!
# Trees whose files are rewritten

Writing to a file that is there changes its bytes and nothing else; under a new name it adds a file
and nothing else. The *shape* of a tree is what is left of it when the bytes are forgotten; where a
path leads and what a walk comes to can be told from it. A *plain* tree has no links, and the names
in its directories are such as a file system allows.
-/

namespace Relabel

/-! ## 1. Entries -/

section Entries

variable {α β : Type}

theorem valueAt?_map (f : α → β) (k : Name) (l : List (Name × α)) :
    valueAt? k (l.map fun e => (e.1, f e.2)) = (valueAt? k l).map f := by
  induction l with
  | nil => rfl
  | cons e rest ih =>
    rw [List.map_cons, valueAt?, valueAt?]
    split
    · rfl
    · exact ih

theorem map_putEntry {f : α → β} {k : Name} {v w : α} {l : List (Name × α)}
    (hv : valueAt? k l = some v) (hf : f w = f v) :
    (putEntry k w l).map (fun e => (e.1, f e.2)) = l.map fun e => (e.1, f e.2) := by
  induction l with
  | nil => contradiction
  | cons e rest ih =>
    rw [valueAt?] at hv
    rw [putEntry]
    by_cases hk : e.1 = k
    · rw [if_pos hk] at hv
      rw [if_pos hk, List.map_cons, List.map_cons, hf, ← Option.some.inj hv, hk]
    · rw [if_neg hk] at hv
      rw [if_neg hk, List.map_cons, List.map_cons, ih hv]

end Entries

namespace Node

/-- What holds of files and links, and of a directory when it holds of its entries,
holds of every tree. -/
@[elab_as_elim]
theorem tree_induction {motive : Node → Prop} (file : ∀ bytes, motive (file bytes))
    (link : ∀ target, motive (link target))
    (dir : ∀ entries, (∀ e ∈ entries, motive e.2) → motive (dir entries)) (node : Node) :
    motive node :=
  @Node.rec motive (fun entries => ∀ e ∈ entries, motive e.2) (fun e => motive e.2) file dir link
    (fun _ he => nomatch he)
    (fun _ _ hhead htail e he => by
      rcases List.mem_cons.mp he with rfl | hmem
      · exact hhead
      · exact htail e hmem)
    (fun _ _ h => h) node

/-! ## 2. Shapes -/

mutual

/-- A tree without the bytes of its files. -/
def shape : Node → Node
  | file _ => file []
  | link target => link target
  | dir entries => dir (shapeEntries entries)

/-- The entries of a directory without the bytes of its files. -/
def shapeEntries : List (Name × Node) → List (Name × Node)
  | [] => []
  | (name, node) :: rest => (name, shape node) :: shapeEntries rest

end

theorem shapeEntries_eq_map (entries : List (Name × Node)) :
    shapeEntries entries = entries.map fun e => (e.1, e.2.shape) := by
  induction entries with
  | nil => rfl
  | cons e rest ih => rw [shapeEntries, List.map_cons, ih]

theorem shape_dir (entries : List (Name × Node)) :
    (dir entries).shape = dir (entries.map fun e => (e.1, e.2.shape)) := by
  rw [shape, shapeEntries_eq_map]

theorem get?_shape (node : Node) (location : Location) :
    node.shape.get? location = (node.get? location).map shape := by
  induction location generalizing node with
  | nil => rfl
  | cons name rest ih =>
    cases node with
    | file bytes => rfl
    | link target => rfl
    | dir entries =>
      rw [shape_dir, get?, get?, valueAt?_map]
      cases valueAt? name entries with
      | none => rfl
      | some child => exact ih child

theorem visitsByEntry_eq_map (entries : List (Name × Node)) :
    visitsByEntry entries = entries.map fun e => (e.1, e.2.visits) := by
  induction entries with
  | nil => rfl
  | cons e rest ih => rw [visitsByEntry, List.map_cons, ih]

theorem visits_shape (node : Node) : node.shape.visits = node.visits := by
  induction node using tree_induction with
  | file bytes => rfl
  | link target => rfl
  | dir entries ih =>
    have hentries : (entries.map fun e => (e.1, e.2.shape)).map (fun e => (e.1, e.2.visits)) =
        entries.map fun e => (e.1, e.2.visits) := by
      rw [List.map_map]
      exact List.map_congr_left fun e he => by rw [Function.comp_apply, ih e he]
    rw [shape_dir, visits, visits, visitsByEntry_eq_map, visitsByEntry_eq_map, hentries]

/-! ## 3. Writing to a file that is there -/

theorem exists_of_get?_cons {node child : Node} {name : Name} {rest : Location}
    (h : node.get? (name :: rest) = some child) :
    ∃ entries next, node = dir entries ∧ valueAt? name entries = some next ∧
      next.get? rest = some child := by
  cases node with
  | file bytes => contradiction
  | link target => contradiction
  | dir entries =>
    rcases Option.bind_eq_some_iff.mp h with ⟨next, hnext, hrest⟩
    exact ⟨entries, next, rfl, hnext, hrest⟩

theorem get?_append {node next : Node} {front : Location} (h : node.get? front = some next)
    (rest : Location) : node.get? (front ++ rest) = next.get? rest := by
  induction front generalizing node with
  | nil => rw [List.nil_append, Option.some.inj h]
  | cons name more ih =>
    rcases exists_of_get?_cons h with ⟨entries, child, rfl, hchild, hmore⟩
    rw [List.cons_append, get?, hchild, Option.bind_some, ih hmore]

theorem get?_concat {node : Node} {directory : Location} {entries : List (Name × Node)}
    (h : node.get? directory = some (dir entries)) (name : Name) :
    node.get? (directory ++ [name]) = valueAt? name entries := by
  rw [get?_append h, get?]
  cases valueAt? name entries <;> rfl

theorem shape_put {node : Node} {location : Location} {old : Bytes}
    (h : node.get? location = some (file old)) (new : Bytes) :
    (put (file new) location node).shape = node.shape := by
  induction location generalizing node with
  | nil =>
    rw [Option.some.inj h]
    rfl
  | cons name rest ih =>
    rcases exists_of_get?_cons h with ⟨entries, next, rfl, hnext, hrest⟩
    rw [put, hnext, Option.getD_some, shape_dir, shape_dir, map_putEntry hnext (ih hrest)]

/-! ## 4. Writing to a file or under a new name -/

/-- Whether a file can be written at a location: one is there, or nothing is in a
directory that is there. -/
inductive Writable : Location → Node → Prop
  | file (bytes : Bytes) : Writable [] (file bytes)
  | new {name : Name} {entries : List (Name × Node)} (h : valueAt? name entries = none) :
      Writable [name] (dir entries)
  | inside {name : Name} {rest : Location} {entries : List (Name × Node)} {next : Node}
      (h : valueAt? name entries = some next) (hrest : Writable rest next) :
      Writable (name :: rest) (dir entries)

theorem Writable.of_file {node : Node} {location : Location} {old : Bytes}
    (h : node.get? location = some (Node.file old)) : Writable location node := by
  induction location generalizing node with
  | nil =>
    rw [Option.some.inj h]
    exact .file old
  | cons name rest ih =>
    rcases exists_of_get?_cons h with ⟨entries, next, rfl, hnext, hrest⟩
    exact .inside hnext (ih hrest)

theorem Writable.of_absent {node : Node} {directory : Location} {entries : List (Name × Node)}
    {name : Name} (hdir : node.get? directory = some (dir entries))
    (hnone : valueAt? name entries = none) :
    Writable (directory ++ [name]) node := by
  induction directory generalizing node with
  | nil =>
    rw [Option.some.inj hdir]
    exact .new hnone
  | cons name' rest ih =>
    rcases exists_of_get?_cons hdir with ⟨entries', next, rfl, hnext, hrest⟩
    exact .inside hnext (ih hrest)

theorem Writable.eq_file {node child : Node} {location : Location} (h : Writable location node)
    (hchild : node.get? location = some child) : ∃ bytes, child = Node.file bytes := by
  induction h with
  | file bytes => exact ⟨bytes, (Option.some.inj hchild).symm⟩
  | new hnone =>
    rw [get?, hnone] at hchild
    contradiction
  | inside hnext hrest ih =>
    rw [get?, hnext] at hchild
    exact ih hchild

/-- The bytes of a file; other nodes have none. -/
def bytes? : Node → Option Bytes
  | file bytes => some bytes
  | _ => none

/-- A node by itself: without the bytes of a file or the entries of a directory. -/
def top : Node → Node
  | file _ => file []
  | dir _ => dir []
  | link target => link target

section Put

variable {node : Node} {location : Location} (hwritable : Writable location node) (new : Bytes)

include hwritable

/-- What can be told of nodes without looking into directories stays the same everywhere but at the
location that is written. -/
theorem map_get?_put {β : Type} {f : Node → β}
    (hf : ∀ entries entries', f (dir entries) = f (dir entries')) (other : Location) :
    ((put (file new) location node).get? other).map f =
      if other = location then some (f (file new)) else (node.get? other).map f := by
  induction hwritable generalizing other with
  | file bytes =>
    cases other with
    | nil => rfl
    | cons name rest => rfl
  | @new name entries hnone =>
    cases other with
    | nil => exact congrArg some (hf _ _)
    | cons name' rest =>
      rw [put, put, get?, get?, valueAt?_putEntry]
      by_cases hname : name' = name
      · -- a file has nothing below it, and there was nothing before
        rw [if_pos hname, Option.bind_some, hname, hnone]
        cases rest with
        | nil => rw [if_pos rfl, get?, Option.map_some]
        | cons below rest =>
          rw [if_neg (by simp)]
          rfl
      · rw [if_neg hname, if_neg fun heq => hname (List.cons.inj heq).1]
  | @inside name rest entries next hnext hrest ih =>
    rw [put, hnext, Option.getD_some]
    cases other with
    | nil => exact congrArg some (hf _ _)
    | cons name' rest' =>
      rw [get?, get?, valueAt?_putEntry]
      by_cases hname : name' = name
      · rw [if_pos hname, Option.bind_some, ih rest', hname, hnext, Option.bind_some]
        simp only [List.cons.injEq, true_and]
      · rw [if_neg hname, if_neg fun heq => hname (List.cons.inj heq).1]

/-- Every location but the one that is written keeps its bytes. -/
theorem bytes?_get?_put (other : Location) :
    ((put (file new) location node).get? other).bind bytes? =
      if other = location then some new else (node.get? other).bind bytes? := by
  have hmap := congrArg (Option.bind · id)
    (map_get?_put hwritable new (f := bytes?) (fun _ _ => rfl) other)
  simp only [Option.bind_map, Function.id_comp] at hmap
  rw [hmap]
  split
  · rfl
  · rw [Option.bind_map, Function.id_comp]

theorem get?_put_self : (put (file new) location node).get? location = some (file new) := by
  have hbytes := bytes?_get?_put hwritable new location
  rw [if_pos rfl] at hbytes
  rcases Option.bind_eq_some_iff.mp hbytes with ⟨child, hchild, hnew⟩
  cases child with
  | file bytes => rw [hchild, ← Option.some.inj hnew]
  | dir entries => contradiction
  | link target => contradiction

/-- What is there stays what it is: a file, a directory, or a link to the same target. -/
theorem exists_get?_put {other : Location} {child : Node} (h : node.get? other = some child) :
    ∃ child', (put (file new) location node).get? other = some child' ∧ child'.top = child.top := by
  by_cases hother : other = location
  · subst hother
    rcases hwritable.eq_file h with ⟨old, rfl⟩
    exact ⟨file new, get?_put_self hwritable new, rfl⟩
  · have htop := map_get?_put hwritable new (f := top) (fun _ _ => rfl) other
    rw [if_neg hother, h] at htop
    exact Option.map_eq_some_iff.mp htop

end Put

theorem put_put (new old : Node) (location : Location) (node : Node) :
    put new location (put old location node) = put new location node := by
  induction location generalizing node with
  | nil => rfl
  | cons name rest ih =>
    cases node with
    | file bytes => rfl
    | link target => rfl
    | dir entries =>
      rw [put, put, valueAt?_putEntry, if_pos rfl, Option.getD_some, ih, putEntry_putEntry, put]

theorem put_of_get? {node child : Node} {location : Location}
    (h : node.get? location = some child) :
    put child location node = node := by
  induction location generalizing node with
  | nil => exact (Option.some.inj h).symm
  | cons name rest ih =>
    rcases exists_of_get?_cons h with ⟨entries, next, rfl, hnext, hrest⟩
    rw [put, hnext, Option.getD_some, ih hrest, putEntry_of_valueAt? hnext]

/-! ## 5. Plain trees -/

/-- A name that can stand in a directory: a path gives it no meaning of its own, and it fits. -/
structure IsFileName (name : Name) : Prop where
  ne_nil : name ≠ []
  ne_here : name ≠ ['.']
  ne_up : name ≠ ['.', '.']
  slash : '/' ∉ name
  zero : '\x00' ∉ name
  fits : Disk.byteLength name ≤ Disk.nameLimit

instance (name : Name) : Decidable (IsFileName name) :=
  decidable_of_iff
    (name ≠ [] ∧ name ≠ ['.'] ∧ name ≠ ['.', '.'] ∧ '/' ∉ name ∧ '\x00' ∉ name ∧
      Disk.byteLength name ≤ Disk.nameLimit)
    ⟨fun ⟨h₁, h₂, h₃, h₄, h₅, h₆⟩ => ⟨h₁, h₂, h₃, h₄, h₅, h₆⟩,
      fun h => ⟨h.ne_nil, h.ne_here, h.ne_up, h.slash, h.zero, h.fits⟩⟩

mutual

/-- Whether a tree has no links, and in each directory distinct names that can stand there. -/
def isPlain : Node → Bool
  | file _ => true
  | link _ => false
  | dir entries => decide (entries.map Prod.fst).Nodup && plainEntries entries

/-- Whether the entries of a directory have names that can stand there and are plain themselves. -/
def plainEntries : List (Name × Node) → Bool
  | [] => true
  | (name, node) :: rest => decide (IsFileName name) && isPlain node && plainEntries rest

end

theorem plainEntries_iff {entries : List (Name × Node)} :
    plainEntries entries = true ↔
      ∀ e ∈ entries, IsFileName e.1 ∧ e.2.isPlain = true := by
  induction entries with
  | nil => simp [plainEntries]
  | cons e rest ih => simp [plainEntries, ih]

theorem isPlain_dir {entries : List (Name × Node)} :
    (dir entries).isPlain = true ↔
      (entries.map Prod.fst).Nodup ∧ ∀ e ∈ entries, IsFileName e.1 ∧ e.2.isPlain = true := by
  rw [isPlain, Bool.and_eq_true, decide_eq_true_iff, plainEntries_iff]

/-- The trees in a plain tree are plain, and their locations are made of names of files. -/
theorem isPlain_of_get? {node child : Node} {location : Location} (hplain : node.isPlain = true)
    (h : node.get? location = some child) :
    child.isPlain = true ∧ ∀ name ∈ location, IsFileName name := by
  induction location generalizing node with
  | nil =>
    rw [← Option.some.inj h]
    exact ⟨hplain, fun _ hmem => nomatch hmem⟩
  | cons name rest ih =>
    rcases exists_of_get?_cons h with ⟨entries, next, rfl, hnext, hrest⟩
    have hentry := (isPlain_dir.mp hplain).2 _ (mem_of_valueAt? hnext)
    have hbelow := ih hentry.2 hrest
    exact ⟨hbelow.1, List.forall_mem_cons.mpr ⟨hentry.1, hbelow.2⟩⟩

/-! ## 6. Visits -/

theorem mem_visits_dir {entries : List (Name × Node)} {visit : Visit} :
    visit ∈ (dir entries).visits ↔
      visit = ⟨[], true⟩ ∨ ∃ e ∈ entries, ∃ below ∈ e.2.visits, visit = below.under e.1 := by
  rw [visits, visitsByEntry_eq_map, sortByName, List.mem_cons, List.mem_flatMap]
  simp only [List.mem_mergeSort, List.mem_map, exists_exists_and_eq_and]
  simp only [eq_comm]

/-- A walk over a plain tree comes to what is there. -/
theorem get?_of_mem_visits {node : Node} (hplain : node.isPlain = true) {visit : Visit}
    (h : visit ∈ node.visits) :
    if visit.isDirectory then ∃ entries, node.get? visit.location = some (dir entries)
    else ∃ bytes, node.get? visit.location = some (file bytes) := by
  induction node using tree_induction generalizing visit with
  | file bytes =>
    rw [List.mem_singleton.mp h]
    exact ⟨bytes, rfl⟩
  | link target => contradiction
  | dir entries ih =>
    rcases mem_visits_dir.mp h with rfl | ⟨e, he, below, hbelow, rfl⟩
    · exact ⟨entries, rfl⟩
    · have hdir := isPlain_dir.mp hplain
      have hnode := ih e he (hdir.2 e he).2 hbelow
      have hentry : valueAt? e.1 entries = some e.2 := valueAt?_of_mem hdir.1 he
      simpa only [Visit.under, get?, hentry, Option.bind_some] using hnode

end Node

end Relabel
