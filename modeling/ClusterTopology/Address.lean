import ClusterTopology.Text.Digits
import ClusterTopology.Text.Lines

/-!
Dotted addresses of four octets: their text, reading it back, and the odometer
step that leads from one address to the next. The step keeps to octets from 2 to
254 once it has touched them: an octet below 254 is raised by one, any other
octet falls back to 2 and carries to its left.
-/

namespace ClusterTopology

/-- Four octets, the most significant first. -/
structure Address where
  first : UInt8
  second : UInt8
  third : UInt8
  fourth : UInt8
  deriving DecidableEq, Repr

namespace Address

/-- The octets, the most significant first. -/
def octets (address : Address) : List UInt8 :=
  [address.first, address.second, address.third, address.fourth]

/-- Four decimal numbers without leading zeros, joined by points. -/
def text (address : Address) : String :=
  ".".intercalate (address.octets.map fun octet => toString octet.toNat)

/-- One octet: one to three decimal digits of value at most 255, and no leading
zero unless the octet is zero itself. -/
def readOctet? (digits : List Char) : Option UInt8 :=
  let value := Text.numberOf 10 digits
  if digits ≠ [] ∧ digits.length ≤ 3 ∧ digits.all (fun c => c.isDigit) ∧
      (digits.head? ≠ some '0' ∨ digits.length = 1) ∧ value ≤ 255 then
    some (UInt8.ofNat value)
  else none

/-- Exactly four octets joined by points, and nothing around them. -/
def ofText? (text : String) : Option Address :=
  match (Text.pieces (· == '.') text.toList).map readOctet? with
  | [some a, some b, some c, some d] => some ⟨a, b, c, d⟩
  | _ => none

/-- The least octet the odometer falls back to. -/
def leastOctet : UInt8 := 2

/-- The octet from which the odometer carries. -/
def greatestOctet : UInt8 := 254

/-- The odometer step. There is no next address when every octet carries. -/
def next? : Address → Option Address
  | ⟨a, b, c, d⟩ =>
    if d < greatestOctet then some ⟨a, b, c, d + 1⟩
    else if c < greatestOctet then some ⟨a, b, c + 1, leastOctet⟩
    else if b < greatestOctet then some ⟨a, b + 1, leastOctet, leastOctet⟩
    else if a < greatestOctet then some ⟨a + 1, leastOctet, leastOctet, leastOctet⟩
    else none

end Address

end ClusterTopology
