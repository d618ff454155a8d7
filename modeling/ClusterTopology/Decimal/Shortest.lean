import ClusterTopology.Decimal.Binary64

/-!
The shortest decimal digits of a magnitude. A decimal reads back as a magnitude
when it lies in the interval of reals that round to it; the ends belong to the
interval exactly when the mantissa is even. Among the decimals with the fewest
digits the one nearest to the magnitude is taken, of two equally near ones the
even one. Seventeen digits always suffice.
-/

namespace ClusterTopology.Decimal

/-- The value `digits * 10^exponent`. -/
structure Scientific where
  digits : Nat
  exponent : Int
  deriving DecidableEq, Repr

/-- A power of ten as a quotient of naturals. -/
def powerOfTen (exponent : Int) : Nat × Nat :=
  if 0 ≤ exponent then (Nat.pow 10 exponent.toNat, 1) else (1, Nat.pow 10 (-exponent).toNat)

namespace Magnitude

/-- The midpoint towards the next smaller magnitude. It is counted in quarters of a
unit, so that it is whole. The gap below a power of two is half the gap above it. -/
def lowerEnd (m : Magnitude) : Nat :=
  if 2 * m.mantissa = mantissaBound ∧ 0 < m.scale then (4 * m.mantissa - 1) <<< m.scale
  else (4 * m.mantissa - 2) <<< m.scale

/-- The midpoint towards the next greater magnitude, in quarter units. -/
def upperEnd (m : Magnitude) : Nat := (4 * m.mantissa + 2) <<< m.scale

/-- Whether `num / den` quarter units round to the magnitude. -/
def contains (m : Magnitude) (num den : Nat) : Bool :=
  if m.mantissa % 2 = 0 then m.lowerEnd * den ≤ num && num ≤ m.upperEnd * den
  else m.lowerEnd * den < num && num < m.upperEnd * den

/-- Whether the decimal `digits * 10^exponent` reads back as the magnitude. -/
def readsBack (m : Magnitude) (decimal : Scientific) : Bool :=
  let (up, down) := powerOfTen decimal.exponent
  m.contains (decimal.digits * up * 4 * unitsPerOne) down

/-- The exponent of the leading digit: the greatest `e` with `10^e` not above
the magnitude, for a positive magnitude. It is found by walking down from an
estimate that is never too small. -/
def leadingExponent (m : Magnitude) : Int :=
  let reaches (e : Int) : Bool :=
    let (up, down) := powerOfTen e
    up * unitsPerOne ≤ m.units * down
  let rec walk : Nat → Int → Int
    | 0, e => e
    | steps + 1, e => if reaches e then e else walk steps (e - 1)
  walk 4 (((m.units.log2 : Int) - 1074) * 30103 / 100000 + 2)

/-- The better of the two neighbours of the magnitude on the grid of multiples
of `10^exponent`, if one of them reads back. -/
def onGrid? (m : Magnitude) (exponent : Int) : Option Scientific :=
  let (up, down) := powerOfTen exponent
  let num := m.units * down
  let den := up * unitsPerOne
  let below : Scientific := ⟨num / den, exponent⟩
  let above : Scientific := ⟨num / den + 1, exponent⟩
  let twice := 2 * (num % den)
  let preferred := if twice < den then below
    else if den < twice then above
    else if below.digits % 2 = 0 then below else above
  let other := if preferred.digits = below.digits then above else below
  if m.readsBack preferred then some preferred
  else if m.readsBack other then some other
  else none

/-- The shortest decimal of a positive magnitude. -/
def shortest (m : Magnitude) : Scientific :=
  let leading := m.leadingExponent
  ((List.range 17).findSome? fun fewer => m.onGrid? (leading - (fewer : Nat))).getD ⟨0, 0⟩

end Magnitude

end ClusterTopology.Decimal
