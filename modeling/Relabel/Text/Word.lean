import Relabel.Text.Case
import Relabel.Text.Class

/-!
# Words in a text

A text is a sequence of maximal runs, in turn of word characters and of others. The other functions
of this module step over a piece at the front of a text: blanks, a word, a keyword.
-/

namespace Relabel.Text

/-! ## Runs -/

/-- Whether a text starts with a word character. -/
def startsWord (t : Text) : Bool :=
  match t with
  | [] => false
  | c :: _ => isWord c

/-- The maximal runs of a text: each is made of word characters only or of others only, and the two
kinds alternate. -/
def runs : Text → List Text
  | [] => []
  | c :: rest =>
      match runs rest with
      | [] => [[c]]
      | run :: more =>
          if isWord c = startsWord run then (c :: run) :: more else [c] :: run :: more

/-- Replaces every word, and keeps what stands between. -/
def mapWords (f : Name → Name) (t : Text) : Text :=
  (runs t).flatMap fun run => if startsWord run then f run else run

theorem flatten_runs (t : Text) : (runs t).flatten = t := by
  induction t with
  | nil => rfl
  | cons c rest ih =>
    rw [runs]
    split
    · rename_i h
      simp [h] at ih
      simp [← ih]
    · rename_i h
      simp only [h, List.flatten_cons] at ih
      split <;> simp [ih]

/-! ## Steps over the front of a text -/

/-- The text behind its leading blanks. -/
def skipBlanks (t : Text) : Text :=
  t.dropWhile isBlank

/-- The text behind its leading blanks, of which there has to be one. -/
def skipSomeBlanks? : Text → Option Text
  | [] => none
  | c :: rest => if isBlank c then some (skipBlanks rest) else none

/-- The word at the front of a text, and the text behind it. -/
def word? (t : Text) : Option (Name × Text) :=
  if startsWord t then some (t.takeWhile isWord, t.dropWhile isWord) else none

/-- The text behind `c`. -/
def skipChar? (c : Char) : Text → Option Text
  | [] => none
  | d :: rest => if d = c then some rest else none

/-- The text behind `keyword`, in any letter case. -/
def skipKeyword? : (keyword : Text) → Text → Option Text
  | [], t => some t
  | _ :: _, [] => none
  | k :: keyword, c :: rest => if fold c = fold k then skipKeyword? keyword rest else none

/-- What `t` has in front of its tail `rest`. -/
def upTo (rest t : Text) : Text :=
  t.take (t.length - rest.length)

end Relabel.Text
