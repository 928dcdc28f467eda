import Relabel.Marker
import Relabel.Pass.Association
import Relabel.Pass.Declaration
import Relabel.Pass.GenericFlag
import Relabel.Text.Lines

/-!
# Passes

A pass goes over a text once, line by line. The code part of a line moves the cursor and then has
its names replaced; the comment part is left as it is.
-/

namespace Relabel

inductive Pass where
  /-- The names that an entity declares. -/
  | declarations
  /-- The formals of association lists. -/
  | instantiations
  /-- Every word, in any letter case. -/
  | symbols
  /-- The generic flags of a simulator script. -/
  | simConfig
deriving DecidableEq, Repr

namespace Pass

/-- The passes over a source, in order. -/
def source : List Pass :=
  [declarations, instantiations, symbols]

def label : Pass → Text
  | declarations => "declarations".toList
  | instantiations => "instantiations".toList
  | symbols => "symbols".toList
  | simConfig => "sim-config".toList

def ofLabel? (label : Text) : Option Pass :=
  [declarations, instantiations, symbols, simConfig].find? fun pass => pass.label = label

/-- The pass of a label; other labels are refused. -/
def ofLabel (label : Text) : Except Error Pass :=
  match ofLabel? label with
  | some pass => .ok pass
  | none => .error (.invalidInput s!"Unknown pass '{String.ofList label}'")

/-- What starts a comment in the texts of a pass. -/
def commentMarker : Pass → Text
  | simConfig => ['#']
  | _ => ['-', '-']

/-- The markers of an entity's declarations. -/
def entityMarkers : MarkerTable :=
  [⟨.entityStart, .enterOpen 1⟩, ⟨.entityEnd, .closes⟩]

/-- The markers of instantiation headers; only components that start with `lead` count. -/
def headerMarkers (lead : Name) : MarkerTable :=
  [⟨.header lead, .enter 1⟩]

/-- The markers of association lists. -/
def listMarkers : MarkerTable :=
  [⟨.mapStart, .opens⟩, ⟨.listEnd, .closes⟩]

def unitMarkers : MarkerTable :=
  [⟨.unitStart, .enter 2⟩]

def testbenchMarkers : MarkerTable :=
  [⟨.testbenchRun, .enter 1⟩]

/-- The marker tables of a pass; each of them sees every line. -/
def markers (lead : Name) : Pass → List MarkerTable
  | declarations => [entityMarkers]
  | instantiations => [headerMarkers lead, listMarkers]
  | symbols => [unitMarkers]
  | simConfig => [testbenchMarkers]

/-- The cursor after the code part of a line. -/
def move (pass : Pass) (lead : Name) (code : Text) (cursor : Cursor) : Cursor :=
  (pass.markers lead).foldl (fun cursor table => table.move code cursor) cursor

/-- Replaces the names of a code part under the cursor that its markers have led to. -/
def rename (pass : Pass) (db : Database) (cursor : Cursor) (code : Text) : Text :=
  match pass with
  | declarations => if cursor.inside then Declaration.rename db cursor.component code else code
  | instantiations => if cursor.inside then Association.rename db cursor.component code else code
  | symbols => Text.mapWords (db.lookup .folded cursor.component) code
  | simConfig => GenericFlag.rename db cursor.component code

/-- Goes over the code part of a line. -/
def applyCode (pass : Pass) (lead : Name) (db : Database) (code : Text) (cursor : Cursor) :
    Text × Cursor :=
  let cursor := pass.move lead code cursor
  (pass.rename db cursor code, cursor)

/-- Goes over lines from a cursor on. -/
def applyLines (pass : Pass) (lead : Name) (db : Database) : Cursor → List Text → List Text
  | _, [] => []
  | cursor, line :: rest =>
      let (code, comment) := Text.splitComment pass.commentMarker line
      let (code, cursor) := pass.applyCode lead db code cursor
      (code ++ comment) :: pass.applyLines lead db cursor rest

/-- Goes over a text once. -/
def apply (pass : Pass) (lead : Name) (db : Database) (text : Text) : Text :=
  (pass.applyLines lead db {} (Text.lines text)).flatten

/-- The cursors after each of the given lines. -/
def cursors (pass : Pass) (lead : Name) : Cursor → List Text → List Cursor
  | _, [] => []
  | cursor, line :: rest =>
      let cursor := pass.move lead (Text.codePart pass.commentMarker line) cursor
      cursor :: pass.cursors lead cursor rest

/-- What a pass over the code part of a line reports. -/
def codeEvents (pass : Pass) (lead : Name) (code : Text) : List Event :=
  (pass.markers lead).flatMap fun table => table.events code

/-- What a pass over a text reports. -/
def events (pass : Pass) (lead : Name) (text : Text) : List Event :=
  (Text.lines text).flatMap fun line =>
    pass.codeEvents lead (Text.codePart pass.commentMarker line)

end Pass

namespace Passes

/-- Runs passes one after the other, each over the result of the one before. -/
def apply (passes : List Pass) (lead : Name) (db : Database) (text : Text) : Text :=
  passes.foldl (fun text pass => pass.apply lead db text) text

/-- Runs passes with a database that has to have a scope. -/
def run (passes : List Pass) (lead : Name) (db : Database) (text : Text) : Except Error Text :=
  if passes.isEmpty then .ok text
  else (db.ensureFilled).map fun () => apply passes lead db text

/-- The text after each pass. -/
def stages (lead : Name) (db : Database) : List Pass → Text → List Text
  | [], _ => []
  | pass :: rest, text =>
      let text := pass.apply lead db text
      text :: stages lead db rest text

/-- The text after a pass is what the passes up to this one come to. -/
theorem stages_eq (lead : Name) (db : Database) (passes : List Pass) (text : Text) :
    stages lead db passes text =
      (List.range passes.length).map fun i => apply (passes.take (i + 1)) lead db text := by
  induction passes generalizing text with
  | nil => rfl
  | cons pass rest ih =>
    rw [stages, ih, List.length_cons, List.range_succ_eq_map, List.map_cons, List.map_map]
    rfl

/-- What a run of passes reports. -/
def events (lead : Name) (db : Database) : List Pass → Text → List Event
  | [], _ => []
  | pass :: rest, text => pass.events lead text ++ events lead db rest (pass.apply lead db text)

end Passes

end Relabel
