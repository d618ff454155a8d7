import ClusterTopology.Settings.Basic
import ClusterTopology.Text.Quoted
import ClusterTopology.Toml.Document
import ClusterTopology.Toml.Excerpt

/-!
Settings from a TOML document. Every setting may be left out and other keys are
ignored. The keys are looked at in the order of the text, and the first value
that a setting cannot have is reported at its place. A choice between names may
also be given as a table with the name as its one key and nothing in it.
-/

namespace ClusterTopology.Settings

open ClusterTopology.Toml (Item Key Span Table)

/-- Why a value does not fit, and where if not at the value itself. -/
structure Misfit where
  reason : String
  span? : Option Span := none

/-- What an item is, in the words of a misfit. -/
def found : Item → String
  | .scalar (.string value) _ => "string " ++ Text.quoted value
  | .scalar (.integer value) _ => s!"integer `{value}`"
  | .scalar (.float (.finite value)) _ =>
    s!"floating point `{Decimal.Style.positional.write value}`"
  | .scalar (.float (.infinite true)) _ => "floating point `-inf`"
  | .scalar (.float (.infinite false)) _ => "floating point `inf`"
  | .scalar (.float .notANumber) _ => "floating point `NaN`"
  | .scalar (.boolean true) _ => "boolean `true`"
  | .scalar (.boolean false) _ => "boolean `false`"
  | .scalar .datetime _ | .braced _ | .table _ => "map"
  | .array .. | .tables .. => "sequence"

/-- An address is given as a string. -/
def address : Item → Except Misfit Address
  | .scalar (.string text) _ =>
    match Address.ofText? text with
    | some address => .ok address
    | none => .error { reason := "invalid IPv4 address syntax" }
  | other => .error { reason := s!"invalid type: {found other}, expected IPv4 address" }

/-- The choice of a name. -/
def named {α : Type} (choices : List α) (name : α → String) (text : String) :
    Except Misfit α :=
  match choices.find? fun choice => name choice == text with
  | some choice => .ok choice
  | none =>
    let expected := " or ".intercalate (choices.map fun choice => s!"`{name choice}`")
    .error { reason := s!"unknown variant `{text}`, expected {expected}" }

/-- The item beside the name of a choice has to be empty. Only tables under double
brackets are missed as an array; an array with items is missed as a table. -/
def nothing (item : Item) : Except Misfit Unit :=
  match item with
  | .array [] _ => .ok ()
  | .array .. => .error { reason := "expected empty table", span? := item.span? }
  | .tables .. => .error { reason := "expected empty array", span? := item.span? }
  | .table inner | .braced inner =>
    if inner.entries.isEmpty then .ok ()
    else .error { reason := "expected empty table", span? := item.span? }
  | other =>
    .error { reason := s!"expected table, found {other.typeName}", span? := other.span? }

/-- A choice from a table: its one key. -/
def chosenInTable {α : Type} (choices : List α) (name : α → String) (table : Table) :
    Except Misfit α :=
  match table.entries with
  | [] => .error { reason := "wanted exactly 1 element, found 0 elements" }
  | [(key, item)] => do
    let choice ← (named choices name key.name).mapError fun misfit =>
      { misfit with span? := some key.span }
    nothing item
    return choice
  | _ => .error { reason := "wanted exactly 1 element, more than 1 element" }

/-- A choice between names. -/
def chosen {α : Type} (choices : List α) (name : α → String) : Item → Except Misfit α
  | .scalar (.string text) _ => named choices name text
  | .table inner => chosenInTable choices name inner
  | .braced inner => chosenInTable choices name inner
  | _ => .error { reason := "wanted string or table" }

/-- Change the settings by one entry of a document. -/
def applyEntry (settings : Settings) (key : Key) (item : Item) : Except Misfit Settings :=
  if key.name = "vnode_ip" then
    (address item).map fun seed => { settings with vnodeSeed := seed }
  else if key.name = "node_ip" then
    (address item).map fun seed => { settings with nodeSeed := seed }
  else if key.name = "id_numbering" then
    (chosen Numbering.all Numbering.name item).map fun numbering =>
      { settings with numbering := numbering }
  else if key.name = "layout" then
    (chosen Layout.all Layout.name item).map fun layout => { settings with layout := layout }
  else .ok settings

/-- Change the settings by entries in order. The first misfit is placed at the
value, or at the key of a value that stands nowhere. -/
def applyEntries (settings : Settings) : List (Key × Item) → Except (String × Span) Settings
  | [] => .ok settings
  | (key, item) :: rest =>
    match applyEntry settings key item with
    | .ok settings => applyEntries settings rest
    | .error misfit =>
      .error (misfit.reason, (misfit.span?.or item.span?).getD key.span)

/-- The settings in a document. What it leaves out is as by default. -/
def ofDocument (text : String) : Except Error Settings :=
  match Toml.parse text.toList with
  | .error report => .error (.brokenDocument report)
  | .ok root =>
    (applyEntries {} root.entries).mapError fun (reason, span) =>
      .unfitDocument (Toml.report text.toList span reason)

end ClusterTopology.Settings
