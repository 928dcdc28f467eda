import Relabel.Text.Data.Folding
import Relabel.Text.Data.LetterCase

/-!
# Letter case

Keywords are compared by simple case folding, one character at a time. Keys of a rename table are
lowered as whole texts: a capital sigma that ends a word becomes a final sigma there, while lowering
a single character knows no context.
-/

namespace Relabel.Text

/-- Simple case folding of one character. -/
def fold (c : Char) : Char :=
  Char.ofNat (Shift.map foldShifts c.toNat)

/-- The lower-case form of one character; that of the dotted capital I has two. -/
def lowerChar (c : Char) : Text :=
  if c = '\u0130' then ['i', '\u0307'] else [Char.ofNat (Shift.map lowerShifts c.toNat)]

/-- Whether the first character of `t` that is not case-ignorable is cased. -/
def leadsToCased (t : Text) : Bool :=
  match t.dropWhile (fun c => caseIgnorable.mem c.toNat) with
  | [] => false
  | c :: _ => cased.mem c.toNat

/-- Lowers a text whose left context is `before`, nearest character first. -/
def lowerAfter (before : Text) : Text → Text
  | [] => []
  | c :: rest =>
      (if c = 'Σ' then
        if leadsToCased before && !leadsToCased rest then ['ς'] else ['σ']
      else lowerChar c) ++ lowerAfter (c :: before) rest

/-- The lower-case form of a text. -/
def lower (t : Text) : Text :=
  lowerAfter [] t

/-- The lower-case form of a text, each character on its own. -/
def lowerEach (t : Text) : Text :=
  t.flatMap lowerChar

end Relabel.Text
