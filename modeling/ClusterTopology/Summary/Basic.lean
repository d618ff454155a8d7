import ClusterTopology.Expansion.Basic
import ClusterTopology.Summary.Display

/-!
The summary of a run: a row per kind, a line of status, and, when anything was
dropped, a table of what was dropped and why. The tables are values with the colours
of their cells, and the display draws them.
-/

namespace ClusterTopology.Summary

/-- The tally of a kind. -/
structure Row where
  kind : Kind
  tally : Tally
  deriving DecidableEq, Repr

/-- The rows of a run, one per kind, the services last. -/
def rows (store : Store) (topology : Topology) (skipped : List Skipped) : List Row :=
  Kind.all.map fun kind =>
    let ofKind := skipped.filter fun (entry : Skipped) => entry.kind == kind
    ⟨kind, store.count kind, topology.count kind, ofKind.length⟩

/-- The colour of the number of skipped templates. -/
def skippedColor (skipped : Nat) : Color := if 0 < skipped then .yellow else .darkGrey

/-- The cells of a row: the kind with its sign, in the colour of its tally, and the numbers. -/
def Row.cells (row : Row) : List Cell :=
  [⟨row.tally.sign ++ " " ++ row.kind.name, .left, some row.tally.color⟩,
    ⟨toString row.tally.templates, .right, none⟩, ⟨toString row.tally.instances, .right, none⟩,
    ⟨toString row.tally.skipped, .right, some (skippedColor row.tally.skipped)⟩]

/-- The table of the kinds. -/
def kindTable (rows : List Row) : Table where
  arrangement := .dynamic
  header := [⟨"KIND", .left, none⟩, ⟨"TEMPLATES", .right, none⟩, ⟨"INSTANCES", .right, none⟩,
    ⟨"SKIPPED", .right, none⟩]
  rows := rows.map Row.cells

/-- The row for rejected lines, if there are any. -/
def rejectedRow (rejected : Nat) : List (List Cell) :=
  if rejected = 0 then []
  else [[⟨errorSign ++ " input", .left, some .red⟩,
    ⟨s!"{rejected} malformed input lines dropped", .left, some .red⟩]]

/-- The row for a skipped template: all its errors, one to a line. -/
def skippedRow (entry : Skipped) : List Cell :=
  [⟨s!"{warningSign} {entry.kind.name} {entry.key}", .left, some .yellow⟩,
    ⟨"\n".intercalate (entry.errors.map Error.message), .left, none⟩]

/-- The table of what was dropped. -/
def droppedTable (skipped : List Skipped) (rejected : Nat) : Table where
  arrangement := .dynamic
  header := [⟨"DROPPED", .left, none⟩, ⟨"REASON", .left, none⟩]
  rows := rejectedRow rejected ++ skipped.map skippedRow

/-- The number of instances in all rows. -/
def totalInstances (rows : List Row) : Nat :=
  rows.foldr (fun row total => row.tally.instances + total) 0

/-- The line above the table of the kinds. -/
def title (colors : Bool) (rows : List Row) : String :=
  let total := inked colors .faint s!"[{totalInstances rows} instances]"
  s!"╭─ Generated Topology {total} ─╮\n"

/-- The text of a summary. -/
def render (display : Display) (rows : List Row) (skipped : List Skipped) (rejected : Nat) :
    String :=
  let word := statusWord (skipped.length + rejected)
  title display.colors rows ++ display.draw (kindTable rows) ++ "\n" ++
    if skipped = [] ∧ rejected = 0 then
      s!"Status: {inked display.colors .green successSign} {word}\n"
    else
      s!"Status: {inked display.colors .yellow warningSign} " ++
        s!"{inked display.colors .yellow word}\n" ++
        display.draw (droppedTable skipped rejected) ++ "\n"

end ClusterTopology.Summary
