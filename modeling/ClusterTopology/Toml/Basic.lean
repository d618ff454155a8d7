import ClusterTopology.Decimal.Style
import ClusterTopology.Toml.Grammar

/-!
TOML documents: values, and tables of items under keys, each with the place
where it stands. How a table came about decides who may add to it.
-/

namespace ClusterTopology.Toml

/-- A key, and where it stands. -/
structure Key where
  name : String
  span : Span
  deriving DecidableEq, Repr

/-- A floating-point value. -/
inductive Float where
  | finite (value : Decimal.Binary64)
  | infinite (negative : Bool)
  | notANumber
  deriving DecidableEq, Repr

/-- A value without parts. A date or time is known by its form only. -/
inductive Scalar where
  | string (value : String)
  | integer (value : Int)
  | float (value : Float)
  | boolean (value : Bool)
  | datetime
  deriving DecidableEq, Repr

/-- How a table came about. -/
inductive Origin where
  /-- By a header or by braces of its own. -/
  | defined
  /-- As part of the path of a header. -/
  | implied
  /-- As part of a dotted key. -/
  | dotted
  deriving DecidableEq, Repr

mutual

/-- What a key stands for. -/
inductive Item where
  | scalar (value : Scalar) (span : Span)
  | array (items : List Item) (span : Span)
  /-- A table in braces. -/
  | braced (table : Table)
  /-- A table made by headers or dotted keys. -/
  | table (table : Table)
  /-- The tables that headers in double brackets have put under one key, the
  last one first. -/
  | tables (last : Table) (earlier : List Table)

/-- Items under distinct keys, in order. A table that no header or brace has
made stands nowhere. -/
inductive Table where
  | mk (origin : Origin) (entries : List (Key × Item)) (span? : Option Span)

end

namespace Table

def origin : Table → Origin
  | mk origin _ _ => origin

def entries : Table → List (Key × Item)
  | mk _ entries _ => entries

def span? : Table → Option Span
  | mk _ _ span? => span?

/-- A table without entries. -/
def empty (origin : Origin) : Table := mk origin [] none

/-- The item under a name. -/
def find? (table : Table) (name : String) : Option Item :=
  (table.entries.find? fun (key, _) => key.name == name).map Prod.snd

/-- Add an item under a new key. -/
def add (table : Table) (key : Key) (item : Item) : Table :=
  mk table.origin (table.entries ++ [(key, item)]) table.span?

/-- Put another item in the place of the one under a name. -/
def replace (table : Table) (name : String) (item : Item) : Table :=
  mk table.origin
    (table.entries.map fun (key, old) => if key.name = name then (key, item) else (key, old))
    table.span?

/-- Take away the item under a name. -/
def remove (table : Table) (name : String) : Table :=
  mk table.origin (table.entries.filter fun (key, _) => key.name != name) table.span?

/-- Say where a table stands. -/
def locatedAt (table : Table) (span? : Option Span) : Table :=
  mk table.origin table.entries span?

/-- Say how a table came about. -/
def withOrigin (table : Table) (origin : Origin) : Table :=
  mk origin table.entries table.span?

end Table

namespace Item

/-- Where an item stands. -/
def span? : Item → Option Span
  | scalar _ span => some span
  | array _ span => some span
  | braced inner => inner.span?
  | table inner => inner.span?
  | tables last earlier =>
    match earlier.getLast?.getD last |>.span?, last.span? with
    | some first, some last => some (first.through last)
    | _, _ => none

/-- What an item is called. -/
def typeName : Item → String
  | scalar (.string _) _ => "string"
  | scalar (.integer _) _ => "integer"
  | scalar (.float _) _ => "float"
  | scalar (.boolean _) _ => "boolean"
  | scalar .datetime _ => "datetime"
  | array .. => "array"
  | braced _ => "inline table"
  | table _ => "table"
  | tables .. => "array of tables"

end Item

end ClusterTopology.Toml
