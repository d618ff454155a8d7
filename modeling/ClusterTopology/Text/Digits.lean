/-!
Digits and the numbers they stand for.
-/

namespace ClusterTopology.Text

/-- Whether a character is a hexadecimal digit of either case. -/
def isHexDigit (c : Char) : Bool :=
  c.isDigit || ('a' ≤ c && c ≤ 'f') || ('A' ≤ c && c ≤ 'F')

/-- The value of a digit of a base up to sixteen. -/
def digitValue (c : Char) : Nat :=
  if c.isDigit then c.toNat - '0'.toNat
  else if 'a' ≤ c then c.toNat - 'a'.toNat + 10
  else c.toNat - 'A'.toNat + 10

/-- The number that digits stand for in a base. -/
def numberOf (base : Nat) (digits : List Char) : Nat :=
  digits.foldl (fun number digit => base * number + digitValue digit) 0

/-- The number that hexadecimal digits stand for, if they all are such. -/
def hexNumber? (digits : List Char) : Option Nat :=
  if digits.all isHexDigit then some (numberOf 16 digits) else none

end ClusterTopology.Text
