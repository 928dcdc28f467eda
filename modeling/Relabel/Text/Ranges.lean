/-!
# Texts, names and tables of code points

Every rule of the library is about runs of characters inside a line, so texts and names are lists of
characters throughout. Character properties are kept as ascending tables of code points.
-/

namespace Relabel

/-- A text: the contents of a file, a line, or a piece of one. -/
abbrev Text := List Char

/-- The name of a component, a symbol, a file or a key. -/
abbrev Name := List Char

namespace Text

/-- A set of code points, as closed ranges in ascending order. -/
abbrev Ranges := List (Nat × Nat)

/-- Membership; the search ends at the first range that starts above `n`. -/
def Ranges.mem : Ranges → Nat → Bool
  | [], _ => false
  | (lo, hi) :: rest, n => decide (lo ≤ n) && (decide (n ≤ hi) || Ranges.mem rest n)

/-- A row of a code point map: the code points `first`, `first + step`, …, `last` go to `image`,
`image + step`, …. -/
structure Shift where
  first : Nat
  last : Nat
  step : Nat
  image : Nat
deriving DecidableEq, Repr

/-- The image of `n` under rows in ascending order of `first`; a code point in no row is fixed. -/
def Shift.map : List Shift → Nat → Nat
  | [], n => n
  | s :: rest, n =>
      if n < s.first then n
      else if n ≤ s.last ∧ (n - s.first) % s.step = 0 then s.image + (n - s.first)
      else Shift.map rest n

end Text

end Relabel
