import Relabel.Merge
import Relabel.Pass

/-!
# Harvesting declarations

The names that every entity of a text declares, in order. One name is taken from a line
inside an entity: the first word that is followed by a colon.
-/

namespace Relabel.Harvest

open Text

/-- The first word of some runs that is followed by blanks and a colon. -/
def declaredAmong : List Text → Option Name
  | [] => none
  | [_] => none
  | run :: gap :: more =>
      if startsWord run ∧ (skipBlanks gap).head? = some ':' then some run
      else declaredAmong (gap :: more)

/-- The name that a line declares. -/
def declared? (code : Text) : Option Name :=
  declaredAmong (runs code)

/-- What is known while lines are read. -/
structure State where
  sets : Declarations := ∅
  cursor : Cursor := {}
deriving DecidableEq, Repr

/-- Adds a name to a component that has been started, unless it is there. -/
def add (sets : Declarations) (component name : Name) : Declarations :=
  match sets.get? component with
  | some names =>
      if names.contains name then sets else sets.insert component (names.insert name name)
  | none => sets

/-- Whether a line starts an entity. -/
def starts (code : Text) : Bool :=
  match Pass.entityMarkers.match? code with
  | some (.enterOpen _, _) => true
  | _ => false

/-- Reads the code part of one line. A start line empties the set of its component. -/
def step (state : State) (code : Text) : State :=
  let cursor := Pass.entityMarkers.move code state.cursor
  let sets := if starts code then state.sets.insert cursor.component ∅ else state.sets
  match if cursor.inside then declared? code else none with
  | some name => ⟨add sets cursor.component name, cursor⟩
  | none => ⟨sets, cursor⟩

/-- The code part of a source line. -/
def code (line : Text) : Text :=
  codePart Pass.declarations.commentMarker line

/-- The declarations of every entity in a text; an entity declared twice keeps its place and the
names of the last time. -/
def ofText (text : Text) : Declarations :=
  ((lines text).foldl (fun state line => step state (code line)) {}).sets

/-- What reading one line reports. -/
def stepEvents (state : State) (code : Text) : List Event :=
  let cursor := Pass.entityMarkers.move code state.cursor
  Pass.entityMarkers.events code ++
    match if cursor.inside then declared? code else none with
    | some name =>
        [⟨.trace, .harvest, s!"{String.ofList cursor.component}: declares {String.ofList name}"⟩]
    | none => []

def eventsFrom : State → List Text → List Event
  | _, [] => []
  | state, line :: rest => stepEvents state (code line) ++ eventsFrom (step state (code line)) rest

/-- What harvesting a text reports. -/
def events (text : Text) : List Event :=
  eventsFrom {} (lines text)

end Relabel.Harvest
