import Relabel.Number.Binary64
import Relabel.Text.Quoted

/-!
# Faults of a written table

What can be wrong with the written form of scopes, where a reader notices it, and how it is worded.
-/

namespace Relabel.Scopes

/-- A value that stands where another kind is expected. -/
inductive Found where
  | null
  | boolean (value : Bool)
  | integer (value : Int)
  | float (value : Binary64)
  | string (value : Text)
  | sequence
  | map
deriving DecidableEq, Repr

def Found.label : Found → String
  | null => "null"
  | boolean true => "boolean `true`"
  | boolean false => "boolean `false`"
  | integer n => s!"integer `{n}`"
  | float x => s!"floating point `{String.ofList x.scientific}`"
  | string t => s!"string {String.ofList t.quoted}"
  | sequence => "sequence"
  | map => "map"

/-- The two kinds of value of a written table. -/
inductive Expected where
  | map
  | string
deriving DecidableEq, Repr

def Expected.label : Expected → String
  | map => "a map"
  | string => "a string"

inductive Fault where
  | endInValue
  | endInObject
  | endInString
  | noValue
  | misspelt
  | badNumber
  | numberOutOfRange
  | keyNotString
  | noCommaOrEnd
  | trailingComma
  | noColon
  | controlCharacter
  | badEscape
  | loneSurrogate
  | endOfEscape
  | trailingText
  | wrongType (found : Found) (expected : Expected)
deriving DecidableEq, Repr

def Fault.message : Fault → String
  | endInValue => "EOF while parsing a value"
  | endInObject => "EOF while parsing an object"
  | endInString => "EOF while parsing a string"
  | noValue => "expected value"
  | misspelt => "expected ident"
  | badNumber => "invalid number"
  | numberOutOfRange => "number out of range"
  | keyNotString => "key must be a string"
  | noCommaOrEnd => "expected `,` or `\x7d`"
  | trailingComma => "trailing comma"
  | noColon => "expected `:`"
  | controlCharacter => "control character (\\u0000-\\u001F) found while parsing a string"
  | badEscape => "invalid escape"
  | loneSurrogate => "lone leading surrogate in hex escape"
  | endOfEscape => "unexpected end of hex escape"
  | trailingText => "trailing characters"
  | wrongType found expected => s!"invalid type: {found.label}, expected {expected.label}"

/-- A fault, noticed `past` bytes behind the start of `rest`. -/
structure Stop where
  fault : Fault
  rest : Text
  past : Nat
deriving DecidableEq, Repr

/-- The number of bytes of a text in UTF-8. -/
def byteLength (t : Text) : Nat :=
  t.foldl (fun n c => n + c.utf8Size) 0

/-- Line, from one, and column, from zero, `offset` bytes into a text; columns count bytes. -/
def position : Text → (offset line column : Nat) → Nat × Nat
  | [], _, line, column => (line, column)
  | c :: rest, offset, line, column =>
      if offset < c.utf8Size then (line, column + offset)
      else if c = '\n' then position rest (offset - 1) (line + 1) 0
      else position rest (offset - c.utf8Size) line (column + c.utf8Size)

/-- The wording of a fault in `text`. -/
def Stop.message (text : Text) (stop : Stop) : String :=
  let offset := byteLength text - byteLength stop.rest + stop.past
  let (line, column) := position text offset 1 0
  s!"{stop.fault.message} at line {line} column {column}"

end Relabel.Scopes
