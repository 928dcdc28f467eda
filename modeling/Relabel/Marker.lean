import Relabel.Event
import Relabel.LineShape

/-!
# The cursor and its markers

A cursor is carried from line to line: the component whose names are looked up, and whether the line
is inside an entity or an association list. A marker table says which line shapes move it; of the
shapes that a line has, the first in the table counts.
-/

namespace Relabel

structure Cursor where
  /-- The scope of look-ups, empty before the first marker. -/
  component : Name := []
  inside : Bool := false
deriving DecidableEq, Repr

/-- What a marker does to the cursor. -/
inductive Action where
  /-- Takes the captured group as the component. -/
  | enter (group : Nat)
  /-- Takes the captured group as the component and goes inside. -/
  | enterOpen (group : Nat)
  | opens
  | closes
deriving DecidableEq, Repr

namespace Action

/-- The component that an action enters; a group that the shape lacks enters none. -/
def entered? (action : Action) (capture : Capture) : Option Name :=
  match action with
  | enter group => capture.group? group
  | enterOpen group => capture.group? group
  | opens => none
  | closes => none

def inside (action : Action) (before : Bool) : Bool :=
  match action with
  | enter _ => before
  | enterOpen _ => true
  | opens => true
  | closes => false

def move (action : Action) (capture : Capture) (cursor : Cursor) : Cursor where
  component := (action.entered? capture).getD cursor.component
  inside := action.inside cursor.inside

end Action

structure Marker where
  shape : LineShape
  action : Action
deriving DecidableEq, Repr

/-- Markers in order of precedence. -/
abbrev MarkerTable := List Marker

namespace MarkerTable

/-- The first marker whose shape the code has. -/
def match? (table : MarkerTable) (code : Text) : Option (Action × Capture) :=
  table.findSome? fun marker => (marker.shape.capture? code).map (marker.action, ·)

/-- The cursor after a line. -/
def move (table : MarkerTable) (code : Text) (cursor : Cursor) : Cursor :=
  match table.match? code with
  | some (action, capture) => action.move capture cursor
  | none => cursor

/-- What moving the cursor reports. -/
def events (table : MarkerTable) (code : Text) : List Event :=
  match (table.match? code).bind fun (action, capture) => action.entered? capture with
  | some component => [⟨.debug, .markers, s!"Entering scope '{String.ofList component}'"⟩]
  | none => []

end MarkerTable

end Relabel
