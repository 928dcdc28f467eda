/-!
# Signed numbers of 64 bits
-/

namespace Relabel

/-- Whether 64 bits hold a number, one of them for its sign. -/
def fitsSigned64 (n : Int) : Bool :=
  -9223372036854775808 ≤ n && n ≤ 9223372036854775807

end Relabel
