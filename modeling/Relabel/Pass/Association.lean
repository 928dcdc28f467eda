import Relabel.Database
import Relabel.LineShape

/-!
# Associations

Inside an association list, a line `FORMAL => ACTUAL` names a formal of the instantiated component.
The formal may be indexed, as in `FORMAL(3) => ACTUAL`, and the first association may stand on the
line that opens the list, behind `port map (` or `generic map (`.
-/

namespace Relabel.Association

open Text

/-- Whether a text starts with blanks and an arrow. -/
def startsArrow (t : Text) : Bool :=
  "=>".toList.isPrefixOf (skipBlanks t)

/-- Whether some closing parenthesis is followed by blanks and an arrow. -/
def closesBeforeArrow : Text → Bool
  | [] => false
  | c :: rest => (c == ')' && startsArrow rest) || closesBeforeArrow rest

/-- Whether a text can stand behind a formal: an arrow, or an index and an arrow. -/
def followsFormal (t : Text) : Bool :=
  startsArrow t ||
    match skipBlanks t with
    | '(' :: rest => closesBeforeArrow rest
    | _ => false

/-- The text behind `port map (` or `generic map (` and blanks. -/
def skipListStart? (keyword : Text) (code : Text) : Option Text := do
  let rest ← skipChar? '(' (skipBlanks (← LineShape.skipMap? keyword code))
  return skipBlanks rest

/-- The formal at `start`, which is a tail of `code`. -/
def splitAt? (code start : Text) : Option (Text × Name × Text) := do
  let (formal, rest) ← word? start
  if followsFormal rest then return (upTo start code, formal, rest) else none

/-- An association line: the text in front of the formal, the formal, and the text behind. -/
def split? (code : Text) : Option (Text × Name × Text) :=
  splitAt? code (skipBlanks code) <|>
    (do splitAt? code (← skipListStart? "port".toList code)) <|>
    (do splitAt? code (← skipListStart? "generic".toList code))

/-- Renames the formal of a line. -/
def rename (db : Database) (component : Name) (code : Text) : Text :=
  match split? code with
  | some (lead, formal, rest) => lead ++ db.lookup .exact component formal ++ rest
  | none => code

end Relabel.Association
