import Relabel.Text.Ranges

/-!
# Settings

What a user can choose, in three sections, with the defaults that hold where nothing is chosen.
-/

namespace Relabel

/-- A scope that takes over the table of another one. -/
structure Alias where
  name : Name
  target : Name
deriving DecidableEq, Repr

/-- Aliases of the test benches whose names do not follow the suffix rule. The packages come first,
so that the test cases can refer to them. -/
def defaultAliases : List Alias :=
  let simple := "psi_common_axi_master_simple_tb".toList
  let full := "psi_common_axi_master_full_tb".toList
  let package := "_pkg".toList
  let ofCase (base : Name) (case : String) : Alias :=
    ⟨base ++ "_case_".toList ++ case.toList, base ++ package⟩
  [⟨simple ++ package, simple⟩, ⟨full ++ package, full⟩] ++
    ["simple_tf", "axi_hs", "internals", "max_transact", "special", "split"].map (ofCase simple) ++
    ["simple_tf", "axi_hs", "user_hs", "internals", "max_transact", "full_tf", "special", "split",
      "large"].map (ofCase full)

/-- How authored tables become a database. -/
structure DatabaseSettings where
  /-- Add every key in lower case. -/
  fixCase : Bool := true
  /-- Copy every scope for its test bench. -/
  addTestbenches : Bool := true
  /-- What a test bench's name adds to that of its component. -/
  testbenchSuffix : Name := "_tb".toList
  /-- Applied in order. -/
  aliases : List Alias := defaultAliases
deriving DecidableEq, Repr

/-- How the declarations of two library versions are paired. -/
inductive Strategy where
  /-- By their place in the entity. -/
  | positional
  /-- By name up to case and underscores, and the others by their place. -/
  | nameAware
deriving DecidableEq, Repr

def Strategy.label : Strategy → Text
  | positional => "positional".toList
  | nameAware => "name_aware".toList

/-- How a library is searched for declarations. -/
structure HarvestSettings where
  /-- Declared names that are never renamed. -/
  blacklist : List Name := ["rst_pol_g".toList]
  strategy : Strategy := .positional
  /-- The file names of a library's sources. -/
  libraryPattern : Text := "*.vhd".toList
deriving DecidableEq, Repr

/-- How sources are refactored. -/
structure RefactorSettings where
  /-- The file names of the sources. -/
  sourcePattern : Text := "*.vhd*".toList
  /-- What the name of an instantiated component has to start with. -/
  componentPrefix : Name := []
deriving DecidableEq, Repr

structure Settings where
  database : DatabaseSettings := {}
  harvest : HarvestSettings := {}
  refactor : RefactorSettings := {}
deriving DecidableEq, Repr

/-- The settings file that is read when none is named. -/
def Settings.defaultFile : Text :=
  "hdlrefactor.toml".toList

end Relabel
