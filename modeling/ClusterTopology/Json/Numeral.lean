import ClusterTopology.Json.Fault
import ClusterTopology.Text.Digits

/-!
Numerals: the digits of a number as they are read, and the number they stand
for. The significand has at most sixty-four bits; digits beyond it only move the
point. A decimal numeral is scaled from its significand by one multiplication or
division of doubles, or by several when the exponent passes 308, so it is not
always the double nearest to what is written. Every reader here leaves a rest no
longer than what it was given (`unsigned_shorter`).
-/

namespace ClusterTopology.Json

/-- What is written: an integer, or a significand times a power of ten. -/
inductive Numeral where
  | integer (negative : Bool) (significand : Nat)
  | decimal (negative : Bool) (significand : Nat) (exponent : Int)
  deriving DecidableEq, Repr

namespace Numeral

/-! ### The number a numeral stands for -/

/-- The greatest power of ten one step scales by. -/
def greatestPower : Nat := 308

/-- `value / 10^down` by one division, after as many divisions by 10^308 as leave
at most that power. Zero is not divided any further. -/
def scaledDown? (value : Decimal.Magnitude) (down : Nat) : Option Decimal.Magnitude := do
  if down ≤ greatestPower then
    value.div? (← Decimal.Magnitude.ofNat? (Nat.pow 10 down))
  else if value.mantissa = 0 then some value
  else
    let lower ← value.div? (← Decimal.Magnitude.ofNat? (Nat.pow 10 greatestPower))
    scaledDown? lower (down - greatestPower)
termination_by down
decreasing_by simp [greatestPower] at *; omega

/-- `significand * 10^exponent`, rounded once for the significand and once for
each scaling step. Nothing if the result is not finite. -/
def scaled? (significand : Nat) (exponent : Int) : Option Decimal.Magnitude := do
  let start ← Decimal.Magnitude.ofNat? significand
  if exponent < 0 then scaledDown? start exponent.natAbs
  else if start.mantissa = 0 then some start
  else if (greatestPower : Int) < exponent then none
  else start.mul? (← Decimal.Magnitude.ofNat? (Nat.pow 10 exponent.toNat))

/-- The number, unless it is out of range. An integer stays one if it is not
negative, or if it lies from -2^63 to -1; minus zero is a double. -/
def value? : Numeral → Option Number
  | integer false significand => some (.integer significand)
  | integer true significand =>
    if 0 < significand ∧ significand ≤ 1 <<< 63 then some (.integer (-significand))
    else (scaled? significand 0).map fun magnitude => .double ⟨true, magnitude⟩
  | decimal negative significand exponent =>
    (scaled? significand exponent).map fun magnitude => .double ⟨negative, magnitude⟩

/-! ### Reading -/

/-- The significand has at most sixty-four bits. -/
@[irreducible] def significandBound : Nat := UInt64.size

/-- Exponents are read up to this bound. -/
@[irreducible] def exponentBound : Nat := 1 <<< 31

/-- A value with one more digit, if it stays below the bound. -/
def extended? (bound value : Nat) (digit : Char) : Option Nat :=
  let longer := 10 * value + Text.digitValue digit
  if longer < bound then some longer else none

/-- The text after its leading digits. -/
def skipDigits (text : List Char) : List Char := text.dropWhile Char.isDigit

/-- A numeral and what is left of the text. -/
abbrev Outcome := Except Fault (Numeral × List Char)

/-- The written exponent, moved by what the digits account for. -/
def moved (shift : Int) (down : Bool) (exponent : Nat) : Int :=
  if down then shift - exponent else shift + exponent

/-- The digits of an exponent after the first. An exponent that passes the bound
makes the number zero, or too great, whatever digits follow. -/
def exponentDigits (negative : Bool) (significand : Nat) (shift : Int) (down : Bool) :
    Nat → List Char → Outcome
  | exponent, [] => .ok (.decimal negative significand (moved shift down exponent), [])
  | exponent, c :: rest =>
    if c.isDigit then
      match extended? exponentBound exponent c with
      | some longer => exponentDigits negative significand shift down longer rest
      | none =>
        if significand ≠ 0 ∧ !down then .error (.behind .numberOutOfRange rest)
        else .ok (.decimal negative 0 0, skipDigits rest)
    else .ok (.decimal negative significand (moved shift down exponent), c :: rest)

/-- An exponent after its sign: at least one digit. -/
def exponentValue (negative : Bool) (significand : Nat) (shift : Int) (down : Bool) :
    List Char → Outcome
  | [] => .error (.behind .unfinishedValue [])
  | c :: rest =>
    if c.isDigit then exponentDigits negative significand shift down (Text.digitValue c) rest
    else .error (.next .invalidNumber (c :: rest))

/-- What follows the mark of an exponent. -/
def exponentPart (negative : Bool) (significand : Nat) (shift : Int) : List Char → Outcome
  | '+' :: rest => exponentValue negative significand shift false rest
  | '-' :: rest => exponentValue negative significand shift true rest
  | rest => exponentValue negative significand shift false rest

/-- What follows the digits of a decimal: an exponent, or nothing. -/
def exponentOrEnd (negative : Bool) (significand : Nat) (shift : Int) : List Char → Outcome
  | 'e' :: rest => exponentPart negative significand shift rest
  | 'E' :: rest => exponentPart negative significand shift rest
  | rest => .ok (.decimal negative significand shift, rest)

/-- The digits after the point. Each digit that fits the significand moves the
point by one; the first that does not fit, and all after it, are dropped. -/
def fractionDigits (negative : Bool) : (significand : Nat) → (shift : Int) → (any : Bool) →
    List Char → Outcome
  | significand, shift, any, [] =>
    if any then .ok (.decimal negative significand shift, [])
    else .error (.behind .unfinishedValue [])
  | significand, shift, any, c :: rest =>
    if c.isDigit then
      match extended? significandBound significand c with
      | some longer => fractionDigits negative longer (shift - 1) true rest
      | none => exponentOrEnd negative significand shift (skipDigits rest)
    else if any then exponentOrEnd negative significand shift (c :: rest)
    else .error (.next .invalidNumber (c :: rest))

/-- What follows the whole digits of a decimal. -/
def decimalTail (negative : Bool) (significand : Nat) (shift : Int) : List Char → Outcome
  | '.' :: rest => fractionDigits negative significand shift false rest
  | rest => exponentOrEnd negative significand shift rest

/-- What follows the whole digits. Without a point or an exponent the numeral is
an integer. -/
def tail (negative : Bool) (significand : Nat) : List Char → Outcome
  | '.' :: rest => fractionDigits negative significand 0 false rest
  | 'e' :: rest => exponentPart negative significand 0 rest
  | 'E' :: rest => exponentPart negative significand 0 rest
  | rest => .ok (.integer negative significand, rest)

/-- The whole digits after the first. From the one that does not fit the
significand on, each stands for a factor of ten. -/
def wholeDigits (negative : Bool) (significand : Nat) : List Char → Outcome
  | [] => .ok (.integer negative significand, [])
  | c :: rest =>
    if c.isDigit then
      match extended? significandBound significand c with
      | some longer => wholeDigits negative longer rest
      | none =>
        let left := skipDigits rest
        decimalTail negative significand (rest.length + 1 - left.length : Nat) left
    else tail negative significand (c :: rest)

/-- A zero at the front is the only whole digit. -/
def afterZero (negative : Bool) : List Char → Outcome
  | [] => .ok (.integer negative 0, [])
  | c :: rest =>
    if c.isDigit then .error (.next .invalidNumber (c :: rest)) else tail negative 0 (c :: rest)

/-- A numeral from its first digit on. -/
def unsigned (negative : Bool) : List Char → Outcome
  | [] => .error (.behind .unfinishedValue [])
  | c :: rest =>
    if c = '0' then afterZero negative rest
    else if c.isDigit then wholeDigits negative (Text.digitValue c) rest
    else .error (.next .invalidNumber (c :: rest))

/-! ### What is left is no longer than what was given -/

theorem skipDigits_length_le (text : List Char) : (skipDigits text).length ≤ text.length :=
  (List.dropWhile_sublist _).length_le

variable {negative : Bool} {significand : Nat} {shift : Int} {down : Bool} {text left : List Char}
  {numeral : Numeral}

theorem exponentDigits_length_le {exponent : Nat}
    (read : exponentDigits negative significand shift down exponent text = .ok (numeral, left)) :
    left.length ≤ text.length := by
  fun_induction exponentDigits negative significand shift down exponent text with
  | case1 => simp_all
  | case2 =>
    rename_i ih
    have := ih read; simp; omega
  | case3 => simp at read
  | case4 _ _ rest =>
    have := skipDigits_length_le rest
    simp at read
    simp [← read.2]; omega
  | case5 => simp_all

theorem exponentValue_length_le
    (read : exponentValue negative significand shift down text = .ok (numeral, left)) :
    left.length ≤ text.length := by
  fun_cases exponentValue negative significand shift down text with
  | case1 => simp [exponentValue] at read
  | case2 c rest digit =>
    simp [exponentValue, digit] at read
    have := exponentDigits_length_le read
    simp; omega
  | case3 c rest other => simp [exponentValue, other] at read

theorem exponentPart_length_le
    (read : exponentPart negative significand shift text = .ok (numeral, left)) :
    left.length ≤ text.length := by
  unfold exponentPart at read
  split at read <;> have := exponentValue_length_le read <;> simp at * <;> omega

theorem exponentOrEnd_length_le
    (read : exponentOrEnd negative significand shift text = .ok (numeral, left)) :
    left.length ≤ text.length := by
  unfold exponentOrEnd at read
  split at read
  · have := exponentPart_length_le read; simp; omega
  · have := exponentPart_length_le read; simp; omega
  · simp_all

theorem fractionDigits_length_le {any : Bool}
    (read : fractionDigits negative significand shift any text = .ok (numeral, left)) :
    left.length ≤ text.length := by
  fun_induction fractionDigits negative significand shift any text with
  | case1 => simp_all
  | case2 => simp at read
  | case3 =>
    rename_i ih
    have := ih read; simp; omega
  | case4 _ _ _ _ rest =>
    have := exponentOrEnd_length_le read
    have := skipDigits_length_le rest
    simp; omega
  | case5 => exact exponentOrEnd_length_le read
  | case6 => simp at read

theorem decimalTail_length_le
    (read : decimalTail negative significand shift text = .ok (numeral, left)) :
    left.length ≤ text.length := by
  unfold decimalTail at read
  split at read
  · have := fractionDigits_length_le read; simp; omega
  · exact exponentOrEnd_length_le read

theorem tail_length_le (read : tail negative significand text = .ok (numeral, left)) :
    left.length ≤ text.length := by
  unfold tail at read
  split at read
  · have := fractionDigits_length_le read; simp; omega
  · have := exponentPart_length_le read; simp; omega
  · have := exponentPart_length_le read; simp; omega
  · simp_all

theorem wholeDigits_length_le
    (read : wholeDigits negative significand text = .ok (numeral, left)) :
    left.length ≤ text.length := by
  fun_induction wholeDigits negative significand text with
  | case1 => simp_all
  | case2 =>
    rename_i ih
    have := ih read; simp; omega
  | case3 _ _ rest =>
    have shorter : _ ≤ (skipDigits rest).length := decimalTail_length_le read
    have := skipDigits_length_le rest
    simp; omega
  | case4 => exact tail_length_le read

/-- A numeral takes at least its first digit. -/
theorem unsigned_shorter (read : unsigned negative text = .ok (numeral, left)) :
    left.length < text.length := by
  unfold unsigned at read
  split at read
  · simp at read
  · split at read
    · unfold afterZero at read
      split at read
      · simp_all
      · split at read
        · simp at read
        · have := tail_length_le read; simp at *; omega
    · split at read
      · have := wholeDigits_length_le read; simp; omega
      · simp at read

end Numeral

end ClusterTopology.Json
