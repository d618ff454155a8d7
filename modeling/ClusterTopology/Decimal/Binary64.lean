/-!
Double-precision numbers in exact integer arithmetic. A magnitude is a mantissa
below 2^53 times a power of two not less than 2^-1074; `Magnitude.nearest?`
rounds a quotient of two naturals to the nearest magnitude, a tie going to the
even mantissa, and fails exactly when the result would pass the greatest one.
Products and quotients of magnitudes are rounded once, from their exact value.
-/

namespace ClusterTopology.Decimal

/-- The quotient rounded to the nearest natural, a tie going to the even one.
The divisor is meant to be positive. -/
def roundedQuotient (num den : Nat) : Nat :=
  let quotient := num / den
  let twice := 2 * (num % den)
  if twice < den then quotient
  else if den < twice then quotient + 1
  else quotient + quotient % 2

/-- The value `mantissa * 2^scale / 2^1074`. -/
structure Magnitude where
  mantissa : Nat
  scale : Nat
  deriving DecidableEq, Repr

namespace Magnitude

/-- The least magnitude is one unit of 2^-1074, so that every magnitude is a
natural number of these units. -/
def unitsPerOne : Nat := 1 <<< 1074

/-- Mantissas stay below this bound. -/
def mantissaBound : Nat := 1 <<< 53

/-- The scale of the greatest magnitudes. -/
def greatestScale : Nat := 2045

/-- The natural number of units of 2^-1074. -/
def units (m : Magnitude) : Nat := m.mantissa <<< m.scale

def zero : Magnitude := ⟨0, 0⟩

/-- The scale at which a whole number of units fits the mantissa. -/
def scaleFor (wholeUnits : Nat) : Nat :=
  if wholeUnits < mantissaBound then 0 else wholeUnits.log2 - 52

/-- The magnitude nearest to `num / den`, for positive `den`. -/
def nearest? (num den : Nat) : Option Magnitude :=
  let exact := num * unitsPerOne
  let scale := scaleFor (exact / den)
  let mantissa := roundedQuotient exact (den <<< scale)
  let result : Magnitude :=
    if mantissa < mantissaBound then ⟨mantissa, scale⟩ else ⟨mantissa / 2, scale + 1⟩
  if result.scale ≤ greatestScale then some result else none

/-- The magnitude nearest to a natural number. -/
def ofNat? (n : Nat) : Option Magnitude := nearest? n 1

/-- The magnitude nearest to the product. -/
def mul? (a b : Magnitude) : Option Magnitude :=
  nearest? (a.units * b.units) (unitsPerOne * unitsPerOne)

/-- The magnitude nearest to the quotient, for nonzero `b`. -/
def div? (a b : Magnitude) : Option Magnitude := nearest? a.units b.units

end Magnitude

/-- A finite double: a magnitude with a sign, which zero has too. -/
structure Binary64 where
  negative : Bool
  magnitude : Magnitude
  deriving DecidableEq, Repr

end ClusterTopology.Decimal
