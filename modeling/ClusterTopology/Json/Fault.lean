import ClusterTopology.Json.Basic
import ClusterTopology.Text.Bytes

/-!
What can be wrong with JSON text, and where. A fault carries the rest of the
text at which it was met; its line, counted from one, and its column, counted in
bytes, are computed from the text as a whole (`Fault.locate`).
-/

namespace ClusterTopology.Json

open ClusterTopology.Text (byteCount)

/-- Why a text is not JSON. -/
inductive Reason where
  | unfinishedList
  | unfinishedObject
  | unfinishedString
  | unfinishedValue
  | expectedColon
  | expectedListCommaOrEnd
  | expectedObjectCommaOrEnd
  | expectedLiteral
  | expectedValue
  | invalidEscape
  | invalidNumber
  | numberOutOfRange
  | loneSurrogate
  | unfinishedSurrogatePair
  | controlCharacter
  | keyNotString
  | trailingComma
  | trailingCharacters
  | nestedTooDeep
  deriving DecidableEq, Repr

/-- The wording of a reason. -/
def Reason.message : Reason → String
  | unfinishedList => "EOF while parsing a list"
  | unfinishedObject => "EOF while parsing an object"
  | unfinishedString => "EOF while parsing a string"
  | unfinishedValue => "EOF while parsing a value"
  | expectedColon => "expected `:`"
  | expectedListCommaOrEnd => "expected `,` or `]`"
  | expectedObjectCommaOrEnd => "expected `,` or `\x7d`"
  | expectedLiteral => "expected ident"
  | expectedValue => "expected value"
  | invalidEscape => "invalid escape"
  | invalidNumber => "invalid number"
  | numberOutOfRange => "number out of range"
  | loneSurrogate => "lone leading surrogate in hex escape"
  | unfinishedSurrogatePair => "unexpected end of hex escape"
  | controlCharacter => "control character (\\u0000-\\u001F) found while parsing a string"
  | keyNotString => "key must be a string"
  | trailingComma => "trailing comma"
  | trailingCharacters => "trailing characters"
  | nestedTooDeep => "recursion limit exceeded"

/-- A fault met before `rest`, `ahead` bytes further on. -/
structure Fault where
  reason : Reason
  rest : List Char
  ahead : Nat
  deriving DecidableEq, Repr

/-- A fault that blames what has just been consumed. -/
def Fault.behind (reason : Reason) (rest : List Char) : Fault := ⟨reason, rest, 0⟩

/-- A fault that blames the next byte. -/
def Fault.next (reason : Reason) (rest : List Char) : Fault := ⟨reason, rest, 1⟩

/-- The line and column reached after `bytes` bytes of the text, counting on
from `line` and `column`. A line feed starts a new line with column zero. At the
end of the text the position stays where it is. -/
def positionAfter : List Char → (bytes line column : Nat) → Nat × Nat
  | [], _, line, column => (line, column)
  | c :: rest, bytes, line, column =>
    if bytes = 0 then (line, column)
    else if c = '\n' then positionAfter rest (bytes - 1) (line + 1) 0
    else positionAfter rest (bytes - c.utf8Size) line (column + min bytes c.utf8Size)

/-- What is wrong with a text, and where. -/
structure SyntaxError where
  reason : Reason
  line : Nat
  column : Nat
  deriving DecidableEq, Repr

/-- The wording of a syntax error. -/
def SyntaxError.message (error : SyntaxError) : String :=
  s!"{error.reason.message} at line {error.line} column {error.column}"

/-- The position of a fault in the text it was met in. -/
def Fault.locate (fault : Fault) (text : List Char) : SyntaxError :=
  let (line, column) :=
    positionAfter text (byteCount text - byteCount fault.rest + fault.ahead) 1 0
  ⟨fault.reason, line, column⟩

end ClusterTopology.Json
