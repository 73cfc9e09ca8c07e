import BoundSql.Proofs.Digits
import BoundSql.Wire.Decode

/-! Values bound and read back: a table by kind and type, and refusal of every other pairing. -/

namespace BoundSql

open Wire

namespace Value

def within (low high : Int) (n : Int64) : Option Value :=
  if low ≤ n.toInt ∧ n.toInt ≤ high then some (.int n) else none

end Value

namespace Wire

end Wire

namespace Value

end Value

end BoundSql
