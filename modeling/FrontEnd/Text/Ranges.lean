/-!
# Sets of code points

A character class that comes from a table is a list of inclusive ranges of code points
(`Ranges`); a character is in it when one range holds it (`Ranges.contains`).
-/

namespace FrontEnd.Text

/-- A set of code points, given by inclusive ranges. -/
structure Ranges where
  bounds : List (Nat × Nat)

namespace Ranges

/-- Some range holds the character. -/
def contains (r : Ranges) (c : Char) : Bool :=
  r.bounds.any fun b => b.1 ≤ c.toNat && c.toNat ≤ b.2

end Ranges

end FrontEnd.Text
