/-!
# Decimal digits

The ASCII digits (`isDigit`) and the number that a row of them names (`decimal`).
-/

namespace FrontEnd.Text

/-- One of the ten ASCII digits. -/
def isDigit (c : Char) : Bool := '0' ≤ c && c ≤ '9'

/-- What a digit adds at the place of the ones. -/
def digitValue (c : Char) : Nat := c.toNat - '0'.toNat

/-- The number named by digits, the highest place first. -/
def decimal (digits : List Char) : Nat :=
  digits.foldl (fun n c => 10 * n + digitValue c) 0

end FrontEnd.Text
