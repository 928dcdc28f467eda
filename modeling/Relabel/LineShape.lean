import Relabel.Text.Word

/-!
# Lines that move the cursor

A handful of line shapes tell where a component starts and ends. Recognising one gives the text that
makes up the shape and the names captured in it.
-/

namespace Relabel

/-- The text of a recognised shape and the parts captured from it. -/
structure Capture where
  whole : Text
  groups : List Text
deriving DecidableEq, Repr

/-- Group 0 is the whole text, the captured parts are numbered from 1. -/
def Capture.group? (capture : Capture) : Nat → Option Text
  | 0 => some capture.whole
  | n + 1 => capture.groups[n]?

inductive LineShape where
  /-- `entity NAME is` -/
  | entityStart
  /-- `end entity` -/
  | entityEnd
  /-- `LABEL : entity LIBRARY.NAME`, for names that start with the given text and go on. -/
  | header (lead : Name)
  /-- `generic map` or `port map` -/
  | mapStart
  /-- `);` -/
  | listEnd
  /-- `entity NAME is` or `package NAME is` -/
  | unitStart
  /-- `create_tb_run "NAME"` -/
  | testbenchRun
deriving DecidableEq, Repr

namespace LineShape

open Text

def entityStart? (code : Text) : Option Capture := do
  let rest ← skipSomeBlanks? (← skipKeyword? "entity".toList (skipBlanks code))
  let (name, rest) ← word? rest
  let rest ← skipKeyword? "is".toList (← skipSomeBlanks? rest)
  return ⟨upTo rest code, [name]⟩

def entityEnd? (code : Text) : Option Capture := do
  let rest ← skipSomeBlanks? (← skipKeyword? "end".toList (skipBlanks code))
  let rest ← skipKeyword? "entity".toList rest
  return ⟨upTo rest code, []⟩

/-- The text behind `LABEL : entity LIBRARY.` -/
def headerName? (code : Text) : Option Text := do
  let (_, rest) ← word? (skipBlanks code)
  let rest ← skipChar? ':' (skipBlanks rest)
  let rest ← skipKeyword? "entity".toList (skipBlanks rest)
  let (_, rest) ← word? (skipBlanks rest)
  skipChar? '.' rest

def header? (lead : Name) (code : Text) : Option Capture := do
  let start ← headerName? code
  let (_, rest) ← word? (← skipKeyword? lead start)
  return ⟨upTo rest code, [upTo rest start]⟩

/-- The text behind `generic map` or `port map`, blanks in front allowed. -/
def skipMap? (keyword : Text) (code : Text) : Option Text := do
  let rest ← skipSomeBlanks? (← skipKeyword? keyword (skipBlanks code))
  skipKeyword? "map".toList rest

def mapStart? (code : Text) : Option Capture := do
  let rest ← skipMap? "generic".toList code <|> skipMap? "port".toList code
  return ⟨upTo rest code, []⟩

def listEnd? (code : Text) : Option Capture := do
  let rest ← skipChar? ')' (skipBlanks code)
  let rest ← skipChar? ';' (skipBlanks rest)
  return ⟨upTo rest code, []⟩

def unitStart? (code : Text) : Option Capture := do
  let start := skipBlanks code
  let behind ← skipKeyword? "entity".toList start <|> skipKeyword? "package".toList start
  let (name, rest) ← word? (← skipSomeBlanks? behind)
  let rest ← skipKeyword? "is".toList (← skipSomeBlanks? rest)
  return ⟨upTo rest code, [upTo behind start, name]⟩

def testbenchRun? (code : Text) : Option Capture := do
  let rest ← skipKeyword? "create_tb_run".toList (skipBlanks code)
  let (name, rest) ← word? (← skipChar? '"' (skipBlanks rest))
  let rest ← skipChar? '"' rest
  return ⟨upTo rest code, [name]⟩

/-- Recognises a shape at the front of the code part of a line. -/
def capture? : LineShape → Text → Option Capture
  | entityStart => entityStart?
  | entityEnd => entityEnd?
  | header lead => header? lead
  | mapStart => mapStart?
  | listEnd => listEnd?
  | unitStart => unitStart?
  | testbenchRun => testbenchRun?

end LineShape

end Relabel
