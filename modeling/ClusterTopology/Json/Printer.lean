import ClusterTopology.Json.Basic

/-!
The compact text of a JSON value: no blanks, members in name order. Inside a
string only the quotation mark, the backslash and the control characters below
U+0020 are escaped.
-/

namespace ClusterTopology.Json

/-- The hexadecimal digit of a number below sixteen, in lower case. -/
def hexDigit (n : Nat) : Char := Nat.digitChar n

/-- A character of a string as it is written. -/
def escaped (c : Char) : List Char :=
  if c = '"' then ['\\', '"']
  else if c = '\\' then ['\\', '\\']
  else if c = '\n' then ['\\', 'n']
  else if c = '\r' then ['\\', 'r']
  else if c = '\t' then ['\\', 't']
  else if c.toNat = 8 then ['\\', 'b']
  else if c.toNat = 12 then ['\\', 'f']
  else if c.toNat < 32 then
    ['\\', 'u', '0', '0', hexDigit (c.toNat / 16), hexDigit (c.toNat % 16)]
  else [c]

/-- A string between quotation marks. -/
def quoted (text : String) : String :=
  String.ofList ('"' :: (text.toList.flatMap escaped ++ ['"']))

mutual

/-- The compact text of a value. -/
def print : Json → String
  | null => "null"
  | boolean true => "true"
  | boolean false => "false"
  | number value => value.text
  | string value => quoted value
  | array items => "[" ++ ",".intercalate (printItems items) ++ "]"
  | object members => "\x7b" ++ ",".intercalate (printMembers members) ++ "\x7d"

/-- The texts of the items of an array. -/
def printItems : List Json → List String
  | [] => []
  | item :: rest => print item :: printItems rest

/-- The texts of the members of an object. -/
def printMembers : List (String × Json) → List String
  | [] => []
  | (name, value) :: rest => (quoted name ++ ":" ++ print value) :: printMembers rest

end

end ClusterTopology.Json
