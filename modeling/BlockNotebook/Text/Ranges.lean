/-!
Sets of characters given by ranges of code points.
-/

namespace BlockNotebook.Text

/-- A set of characters: ascending ranges of code points, both ends included. -/
abbrev Ranges := List (Nat × Nat)

/-- The character lies in one of the ranges. -/
def Ranges.contains (rs : Ranges) (c : Char) : Bool :=
  rs.any fun r => decide (r.1 ≤ c.toNat) && decide (c.toNat ≤ r.2)

end BlockNotebook.Text
