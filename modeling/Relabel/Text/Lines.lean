import Relabel.Text.Ranges

/-!
# Lines and comments

A text is cut after every line feed, so the lines put together are the text again. A line is cut in
front of its first comment marker into a code part and a comment part.
-/

namespace Relabel.Text

/-- The lines of a text, each with its line feed. -/
def lines : Text → List Text
  | [] => []
  | c :: rest =>
      if c = '\n' then [c] :: lines rest
      else
        match lines rest with
        | [] => [[c]]
        | line :: more => (c :: line) :: more

/-- Cuts a line in front of the first occurrence of `marker`. -/
def splitComment (marker : Text) : Text → Text × Text
  | [] => ([], [])
  | c :: rest =>
      if marker.isPrefixOf (c :: rest) then ([], c :: rest)
      else (c :: (splitComment marker rest).1, (splitComment marker rest).2)

/-- The part of a line in front of its comment. -/
def codePart (marker line : Text) : Text :=
  (splitComment marker line).1

/-- The comment of a line, its marker and line feed included. -/
def commentPart (marker line : Text) : Text :=
  (splitComment marker line).2

theorem flatten_lines (t : Text) : (lines t).flatten = t := by
  induction t with
  | nil => rfl
  | cons c rest ih =>
    rw [lines]
    split
    · simp [ih]
    · split
      · rename_i h
        simp [h] at ih
        simp [← ih]
      · rename_i h
        simp [h] at ih
        simp [ih]

theorem codePart_append_commentPart (marker line : Text) :
    codePart marker line ++ commentPart marker line = line := by
  induction line with
  | nil => rfl
  | cons c rest ih =>
    simp only [codePart, commentPart] at ih ⊢
    rw [splitComment]
    split
    · rfl
    · simp [ih]

end Relabel.Text
