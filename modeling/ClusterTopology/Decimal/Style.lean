import ClusterTopology.Decimal.Shortest

/-!
Writing a double with its shortest digits. A `Style` fixes for which numbers
the point is written in place; all others get an exponent after one leading
digit.
-/

namespace ClusterTopology.Decimal

/-- The point is written in place when its distance from the front of the
digits lies in these bounds. A missing bound admits everything on its side. -/
structure Style where
  leastPoint : Option Int
  greatestPoint : Option Int
  deriving DecidableEq, Repr

namespace Style

/-- Whether the point is written in place. -/
def inPlace (style : Style) (point : Int) : Bool :=
  style.leastPoint.all (fun least => decide (least ≤ point)) &&
    style.greatestPoint.all (fun greatest => decide (point ≤ greatest))

/-- The digits without zeros at the end, and the exponent that makes up for
them. -/
def withoutTrailingZeros (decimal : Scientific) : List Char × Int :=
  let digits := (toString decimal.digits).toList
  let kept := (digits.reverse.dropWhile (· == '0')).reverse
  (kept, decimal.exponent + ((digits.length : Int) - kept.length))

/-- Digits with the point `point` places from their front. At least one digit
stands on either side of the point. -/
def placed (digits : List Char) (point : Int) : List Char :=
  if point ≤ 0 then '0' :: '.' :: (List.replicate (-point).toNat '0' ++ digits)
  else
    let whole := point.toNat
    if digits.length ≤ whole then
      digits ++ List.replicate (whole - digits.length) '0' ++ ['.', '0']
    else digits.take whole ++ '.' :: digits.drop whole

/-- Digits with an exponent whose sign is always written. -/
def withExponent (digits : List Char) (point : Int) : List Char :=
  let exponent := point - 1
  let sign := if exponent < 0 then '-' else '+'
  let fraction := match digits with
    | first :: second :: rest => first :: '.' :: second :: rest
    | short => short
  fraction ++ 'e' :: sign :: (toString exponent.natAbs).toList

/-- The text of a double. Zero is `0.0`, and keeps its sign. -/
def write (style : Style) (x : Binary64) : String :=
  let sign := if x.negative then ['-'] else []
  if x.magnitude.mantissa = 0 then String.ofList (sign ++ ['0', '.', '0'])
  else
    let (digits, exponent) := withoutTrailingZeros x.magnitude.shortest
    let point := exponent + digits.length
    let body := if style.inPlace point then placed digits point else withExponent digits point
    String.ofList (sign ++ body)

/-- Every number has its point in place. -/
def positional : Style := ⟨none, none⟩

end Style

end ClusterTopology.Decimal
