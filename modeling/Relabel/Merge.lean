import Relabel.Database

/-!
# Merging the declarations of two library versions

The names that an entity declared in the old version are paired with those of the new version; each
pair is a rename. Pairing goes by position, or first by name up to letter case and underscores.
-/

namespace Relabel

/-- The declared names of every component, as identity tables. -/
abbrev Declarations := Table RenameTable

namespace Merge

/-- Pairs by position; what one side has more is dropped. -/
def positional (old new : RenameTable) : RenameTable :=
  .ofList (old.keys.zip new.keys)

/-- A name up to letter case and underscores. -/
def form (name : Name) : Name :=
  Text.lowerEach (name.filter (· ≠ '_'))

/-- Every form among the names, with the only name of that form, or nothing when it is shared. -/
def soleNames (names : List Name) : Table (Option Name) :=
  names.foldl
    (fun forms name =>
      forms.insert (form name) (if forms.contains (form name) then none else some name))
    ∅

/-- The pairs of old and new names that have one form and share it with no other name. The forms of
the old names are visited in the order given. -/
def pairsByForm (oldForms : List (Name × Option Name)) (newForms : Table (Option Name)) :
    List (Name × Name) :=
  oldForms.filterMap fun (form, oldName) => do
    return (← oldName, ← (newForms.get? form).join)

/-- Gives every old name its partner, and to those without one the leftover new names in order,
until these run out. -/
def fill (pairs : List (Name × Name)) : (old leftover : List Name) → List (Name × Name)
  | [], _ => []
  | name :: old, leftover =>
      match valueAt? name pairs, leftover with
      | some new, leftover => (name, new) :: fill pairs old leftover
      | none, new :: leftover => (name, new) :: fill pairs old leftover
      | none, [] => fill pairs old []

/-- The merged table, once partners have been found by form. -/
def withPairs (pairs : List (Name × Name)) (old new : RenameTable) : RenameTable :=
  .ofList (fill pairs old.keys (new.keys.filter fun name => !(pairs.map Prod.snd).contains name))

/-- Pairs by form where it is unique on both sides, and the other names by position. -/
def nameAware (old new : RenameTable) : RenameTable :=
  withPairs (pairsByForm (soleNames old.keys).entries (soleNames new.keys)) old new

def byStrategy : Strategy → RenameTable → RenameTable → RenameTable
  | .positional => positional
  | .nameAware => nameAware

/-- Merges one component of the new version into the database. -/
def addComponent (strategy : Strategy) (database : Scopes) (component : Name) (new : RenameTable) :
    Scopes :=
  match database.get? component with
  | some old => database.insert component (byStrategy strategy old new)
  | none => database

/-- The scopes into which the new version is merged: the seed, and over it the old version. -/
def start (seed : Scopes) (old : Declarations) : Scopes :=
  seed.insertAll old.entries

/-- Merges two library versions on top of a seed. -/
def merge (strategy : Strategy) (seed : Scopes) (old new : Declarations) : Scopes :=
  new.entries.foldl
    (fun database (component, names) => addComponent strategy database component names)
    (start seed old)

/-- What merging one component reports. -/
def componentEvents (strategy : Strategy) (database : Scopes) (component : Name)
    (new : RenameTable) : List Event :=
  let shown := String.ofList component
  match database.get? component with
  | none => [⟨.debug, .merge, s!"{shown} is new, nothing to rename"⟩]
  | some old =>
      (if old.size = new.size then []
        else [⟨.warn, .merge, s!"{shown}: {old.size} old declarations against {new.size} " ++
          "new ones, unmatched names are dropped"⟩]) ++
        [⟨.debug, .merge, s!"{shown}: {(byStrategy strategy old new).size} renames"⟩]

def eventsFrom (strategy : Strategy) : Scopes → List (Name × RenameTable) → List Event
  | _, [] => []
  | database, (component, names) :: rest =>
      componentEvents strategy database component names ++
        eventsFrom strategy (addComponent strategy database component names) rest

/-- What a merge reports. -/
def events (strategy : Strategy) (seed : Scopes) (old new : Declarations) : List Event :=
  eventsFrom strategy (start seed old) new.entries

/-- Renames of the functions and generics that the whole library shares. -/
def defaultSeed : Scopes :=
  .ofList [(fallbackScope, .ofList ([
    ("ZerosVector", "zeros_vector"),
    ("OnesVector", "ones_vector"),
    ("PartiallyOnesVector", "partially_ones_vector"),
    ("ShiftLeft", "shift_left"),
    ("ShiftRight", "shift_right"),
    ("BinaryToGray", "binary_to_gray"),
    ("GrayToBinary", "gray_to_binary"),
    ("PpcOr", "ppc_or"),
    ("IntToStdLogic", "int_to_std_logic"),
    ("ReduceOr", "reduce_or"),
    ("ReduceAnd", "reduce_and"),
    ("To01X", "to_01X"),
    ("InvertBitOrder", "invert_bit_order"),
    ("ClockRatioN_g", "clock_ratio_n_g"),
    ("ClockRatioD_g", "clock_ratio_d_g"),
    ("Ratio_g", "ratio_g"),
    ("HandleRdy_g", "handle_rdy_g"),
    ("AxiThrottling_g", "axi_throttling_g"),
    ("UseMem_g", "use_mem_g")].map fun (old, new) => (old.toList, new.toList)))]

end Merge

end Relabel
