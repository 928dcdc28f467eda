import Relabel.Text.Data.Alphanumerics
import Relabel.Text.Data.Words

/-!
# Character classes

A *word character* may stand in an identifier, a *blank* between two of them. The two classes are
disjoint, so a line splits into word runs and the stretches between them in one way only.
-/

namespace Relabel.Text

/-- Letters, marks, decimal digits, connectors such as `_`, and the two joiners. -/
def isWord (c : Char) : Bool :=
  wordCharacters.mem c.toNat

/-- White space, line ends among it. -/
def isBlank (c : Char) : Bool :=
  blanks.mem c.toNat

/-- Letters and numbers of any kind; neither `_` nor a mark is one. -/
def isAlphanumeric (c : Char) : Bool :=
  alphanumerics.mem c.toNat

end Relabel.Text
