import Relabel.Text.Data.Printing

/-!
# Quoted characters and texts

Messages show characters and texts between quotes. A quote or a backslash is written behind a
backslash, the common control characters by a letter, and a character that cannot be seen on its own
by its number.
-/

namespace Relabel.Text

/-- Whether a character has to be shown by its number. -/
def isHidden (c : Char) : Bool :=
  hidden.mem c.toNat

/-- A character written by its number. -/
def byNumber (c : Char) : Text :=
  "\\u\x7b".toList ++ Nat.toDigits 16 c.toNat ++ "\x7d".toList

/-- A character as it is written between two of the given quotes. -/
def escaped (quote c : Char) : Text :=
  if c = '\x00' then ['\\', '0']
  else if c = '\t' then ['\\', 't']
  else if c = '\n' then ['\\', 'n']
  else if c = '\r' then ['\\', 'r']
  else if c = quote ∨ c = '\\' then ['\\', c]
  else if isHidden c then byNumber c
  else [c]

/-- A character between single quotes. -/
def quotedChar (c : Char) : Text :=
  '\x27' :: escaped '\x27' c ++ ['\x27']

/-- A text between double quotes. -/
def quoted (t : Text) : Text :=
  '"' :: t.flatMap (escaped '"') ++ ['"']

end Relabel.Text
