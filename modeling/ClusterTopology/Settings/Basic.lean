import ClusterTopology.Error

/-!
Settings of a run: the two address seeds, how ids are numbered, and how the
output is laid out.
-/

namespace ClusterTopology

/-- How the numbers in ids run. -/
inductive Numbering where
  /-- One count per kind. -/
  | shared
  /-- One count per key. -/
  | perKey
  deriving DecidableEq, Repr

namespace Numbering

/-- Every numbering, the default first. -/
def all : List Numbering := [shared, perKey]

/-- The name of a numbering in settings. -/
def name : Numbering → String
  | shared => "shared"
  | perKey => "per-key"

/-- The name of a numbering in notices. -/
def title : Numbering → String
  | shared => "Shared"
  | perKey => "PerKey"

/-- Names are exact. -/
def ofName? (text : String) : Option Numbering :=
  all.find? fun numbering => numbering.name == text

/-- The numbering of that name. -/
def parse (text : String) : Except Error Numbering :=
  match ofName? text with
  | some numbering => .ok numbering
  | none =>
    .error (.badSetting s!"Invalid id numbering: {text} (expected 'shared' or 'per-key')")

end Numbering

/-- In which order instances are written. -/
inductive Layout where
  /-- As expansion produced them. -/
  | emission
  /-- One section per kind. -/
  | grouped
  deriving DecidableEq, Repr

namespace Layout

/-- Every layout, the default first. -/
def all : List Layout := [emission, grouped]

/-- The name of a layout in settings. -/
def name : Layout → String
  | emission => "emission"
  | grouped => "grouped"

/-- The name of a layout in notices. -/
def title : Layout → String
  | emission => "Emission"
  | grouped => "Grouped"

/-- Names are exact. -/
def ofName? (text : String) : Option Layout :=
  all.find? fun layout => layout.name == text

/-- The layout of that name. -/
def parse (text : String) : Except Error Layout :=
  match ofName? text with
  | some layout => .ok layout
  | none =>
    .error (.badSetting s!"Invalid layout: {text} (expected 'emission' or 'grouped')")

end Layout

/-- The settings of a run. A seed is the address before the first one issued. -/
structure Settings where
  vnodeSeed : Address := ⟨10, 1, 1, 1⟩
  nodeSeed : Address := ⟨200, 1, 1, 1⟩
  numbering : Numbering := .shared
  layout : Layout := .emission
  deriving DecidableEq, Repr

/-- The address in a text that came from `source`, which the refusal names. -/
def Address.readAs (source text : String) : Except Error Address :=
  match Address.ofText? text with
  | some address => .ok address
  | none =>
    .error (.badSetting
      s!"Invalid IPv4 address for {source}: '{text}' (invalid IPv4 address syntax)")

end ClusterTopology
