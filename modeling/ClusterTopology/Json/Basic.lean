import ClusterTopology.Decimal.Style

/-!
JSON values. A number written as an integer stays one while it fits sixty-four
bits; every other number is a double. The members of an object are kept sorted
by name and a name occurs once, the last member of a name being the one that
counts.
-/

namespace ClusterTopology

/-- A JSON number. -/
inductive Number where
  | integer (value : Int)
  | double (value : Decimal.Binary64)
  deriving DecidableEq, Repr

namespace Number

/-- Doubles from 1e-5 up to but not including 1e16 are written with the point in
place. -/
def doubleStyle : Decimal.Style := ⟨some (-4), some 16⟩

/-- The text of a number. A double shows a point or an exponent, so it is never
taken for an integer. -/
def text : Number → String
  | integer value => toString value
  | double value => doubleStyle.write value

end Number

/-- A JSON value. -/
inductive Json where
  | null
  | boolean (value : Bool)
  | number (value : Number)
  | string (value : String)
  | array (items : List Json)
  | object (members : List (String × Json))
  deriving Repr, Inhabited

namespace Json

/-- Members of an object, sorted by name. -/
abbrev Members := List (String × Json)

/-- Put a member into its place, or in place of the member of that name. -/
def Members.put (name : String) (value : Json) : Members → Members
  | [] => [(name, value)]
  | (other, old) :: rest =>
    if name < other then (name, value) :: (other, old) :: rest
    else if name = other then (name, value) :: rest
    else (other, old) :: put name value rest

/-- The member of that name, if the value is an object. -/
def member? (name : String) : Json → Option Json
  | object members => members.lookup name
  | _ => none

end Json

end ClusterTopology
