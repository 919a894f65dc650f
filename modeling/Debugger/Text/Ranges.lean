/-!
# Sets of characters as ranges

A property of characters is a list of closed ranges of code points.
-/

namespace Debugger.Text

/-- A set of code points: the union of the closed ranges `lo … hi`. -/
abbrev Ranges := List (Nat × Nat)

/-- Membership of a character in a set of ranges. -/
def Ranges.has (table : Ranges) (c : Char) : Bool :=
  table.any fun r => r.1 ≤ c.toNat && c.toNat ≤ r.2

end Debugger.Text
