import ClusterTopology.Text.Digits
import ClusterTopology.Toml.Basic

/-!
Bare words in TOML: booleans, numbers, dates and times. A word is read as a whole
before it is judged, so no prefix of it can pass for a value. A date may be
followed by one blank and a time.
-/

namespace ClusterTopology.Toml.Word

/-- The characters of words. -/
def isWordChar (c : Char) : Bool :=
  c.isAlphanum || c == '_' || c == '+' || c == '-' || c == '.' || c == ':'

/-! ### Digits -/

/-- Digits with an underscore here and there between two of them, without the
underscores. There is at least one digit. -/
def ungrouped? (isDigit : Char → Bool) : List Char → Option (List Char)
  | [] => none
  | [c] => if isDigit c then some [c] else none
  | c :: '_' :: rest => if isDigit c then (ungrouped? isDigit rest).map (c :: ·) else none
  | c :: rest => if isDigit c then (ungrouped? isDigit rest).map (c :: ·) else none

/-- A sign, if any, and what follows it. -/
def signed (word : List Char) : Bool × List Char :=
  match word with
  | '+' :: rest => (false, rest)
  | '-' :: rest => (true, rest)
  | _ => (false, word)

/-- Decimal digits of a whole number: no zero before another digit. -/
def wholeDigits? (word : List Char) : Option (List Char) :=
  match ungrouped? Char.isDigit word with
  | some ('0' :: _ :: _) => none
  | found => found

/-! ### Integers -/

/-- Integers lie from -2^63 to 2^63 - 1. -/
def inRange? (number : Int) : Option Int :=
  if Int64.minValue.toInt ≤ number ∧ number ≤ Int64.maxValue.toInt then some number else none

/-- Whether a character is a digit below eight. -/
def isOctalDigit (c : Char) : Bool := '0' ≤ c && c ≤ '7'

/-- Whether a character is a digit below two. -/
def isBinaryDigit (c : Char) : Bool := c == '0' || c == '1'

/-- An integer in base sixteen, eight or two without a sign, or in base ten. -/
def integer? (word : List Char) : Option Int :=
  match word with
  | '0' :: 'x' :: rest => do inRange? (Text.numberOf 16 (← ungrouped? Text.isHexDigit rest))
  | '0' :: 'o' :: rest => do inRange? (Text.numberOf 8 (← ungrouped? isOctalDigit rest))
  | '0' :: 'b' :: rest => do inRange? (Text.numberOf 2 (← ungrouped? isBinaryDigit rest))
  | _ => do
    let (negative, digits) := signed word
    let magnitude := Text.numberOf 10 (← wholeDigits? digits)
    inRange? (if negative then -(magnitude : Int) else magnitude)

/-! ### Floating-point numbers -/

/-- The words for what is not finite. -/
def special? (word : List Char) : Option Float :=
  let (negative, name) := signed word
  if name = ['i', 'n', 'f'] then some (.infinite negative)
  else if name = ['n', 'a', 'n'] then some .notANumber
  else none

/-- Exponents beyond this bound leave nothing between zero and infinity. -/
def exponentBound : Int := 400

/-- The double nearest to `digits * 10^exponent`. -/
def nearest (negative : Bool) (digits : List Char) (exponent : Int) : Float :=
  let significand := Text.numberOf 10 digits
  let leading := exponent + digits.length
  if significand = 0 ∨ leading < -exponentBound then .finite ⟨negative, .zero⟩
  else if exponentBound + digits.length < leading then .infinite negative
  else
    let (up, down) := Decimal.powerOfTen exponent
    match Decimal.Magnitude.nearest? (significand * up) down with
    | some magnitude => .finite ⟨negative, magnitude⟩
    | none => .infinite negative

/-- The written exponent of a number, if there is a mark for one. -/
def exponent? : List Char → Option Int
  | [] => some 0
  | mark :: rest =>
    if mark = 'e' ∨ mark = 'E' then do
      let (negative, digits) := signed rest
      let magnitude := Text.numberOf 10 (← ungrouped? Char.isDigit digits)
      return if negative then -(magnitude : Int) else magnitude
    else none

/-- Whether a character marks an exponent. -/
def isExponentMark (c : Char) : Bool := c == 'e' || c == 'E'

/-- A number with a fraction, an exponent, or both. One that is too great is
refused, but not one that is too far below zero. -/
def float? (word : List Char) : Option Float :=
  match special? word with
  | some found => some found
  | none => do
    let (negative, unsigned) := signed word
    let mantissa := unsigned.takeWhile fun c => !isExponentMark c
    let scale := unsigned.dropWhile fun c => !isExponentMark c
    let exponent ← exponent? scale
    let whole := mantissa.takeWhile (· != '.')
    let wholeDigits ← wholeDigits? whole
    let fraction ← match mantissa.dropWhile (· != '.') with
      | [] => if scale = [] then none else some []
      | _ :: digits => ungrouped? Char.isDigit digits
    match nearest negative (wholeDigits ++ fraction) (exponent - fraction.length) with
    | .infinite false => none
    | found => some found

/-! ### Dates and times -/

/-- A number of two digits within bounds. -/
def twoDigits (least greatest : Nat) (tens ones : Char) : Bool :=
  let number := Text.numberOf 10 [tens, ones]
  tens.isDigit && ones.isDigit && least ≤ number && number ≤ greatest

/-- The number of days of a month. -/
def daysIn (year month : Nat) : Nat :=
  if month = 2 then
    if year % 4 = 0 ∧ (year % 100 ≠ 0 ∨ year % 400 = 0) then 29 else 28
  else if month = 4 ∨ month = 6 ∨ month = 9 ∨ month = 11 then 30
  else 31

/-- What follows a date at the front of a word. -/
def afterDate? : List Char → Option (List Char)
  | a :: b :: c :: d :: '-' :: m :: n :: '-' :: s :: t :: rest =>
    let days := daysIn (Text.numberOf 10 [a, b, c, d]) (Text.numberOf 10 [m, n])
    if [a, b, c, d].all (fun digit => digit.isDigit) && twoDigits 1 12 m n &&
        twoDigits 1 days s t then
      some rest
    else none
  | _ => none

/-- What follows a time of day at the front of a word. A fraction of a second has
at least one digit. -/
def afterTime? : List Char → Option (List Char)
  | a :: b :: ':' :: c :: d :: ':' :: e :: f :: rest =>
    if twoDigits 0 23 a b && twoDigits 0 59 c d && twoDigits 0 60 e f then
      match rest with
      | '.' :: digit :: more =>
        if digit.isDigit then some (more.dropWhile Char.isDigit) else none
      | _ => some rest
    else none
  | _ => none

/-- Whether a text is a distance from universal time, or nothing. -/
def isOffset : List Char → Bool
  | [] => true
  | ['Z'] => true
  | ['z'] => true
  | [sign, a, b, ':', c, d] =>
    (sign == '+' || sign == '-') && twoDigits 0 23 a b && twoDigits 0 59 c d
  | _ => false

/-- Whether a character stands between date and time. -/
def isTimeMark (c : Char) : Bool := c == 'T' || c == 't' || c == ' '

/-- Whether a word is a date, a time, or both with or without a distance from
universal time. -/
def isDatetime (word : List Char) : Bool :=
  match afterDate? word with
  | some [] => true
  | some (mark :: time) =>
    isTimeMark mark && match afterTime? time with
      | some offset => isOffset offset
      | none => false
  | none => afterTime? word == some []

/-! ### Words -/

/-- The value of a word. -/
def scalar? (word : List Char) : Option Scalar :=
  if word = ['t', 'r', 'u', 'e'] then some (.boolean true)
  else if word = ['f', 'a', 'l', 's', 'e'] then some (.boolean false)
  else if isDatetime word then some .datetime
  else match integer? word with
    | some value => some (.integer value)
    | none => (float? word).map .float

/-- A word, together with a time that follows it if it is a date. -/
def word : Grammar (List Char) := do
  let first ← Grammar.run1 isWordChar
  match afterDate? first, ← Grammar.ahead with
  | some [], ' ' :: digit :: _ =>
    if digit.isDigit then
      let _ ← Grammar.char (· == ' ')
      let second ← Grammar.run1 isWordChar
      return first ++ ' ' :: second
    else return first
  | _, _ => return first

/-- The value of a bare word. -/
def scalar : Grammar Scalar := do
  match scalar? (← word) with
  | some value => return value
  | none => Grammar.refuse

end ClusterTopology.Toml.Word
