import ClusterTopology.Kind

/-!
How a kind fared in a run, in signs, words and colours.
-/

namespace ClusterTopology.Summary

/-- The colours of the summary. -/
inductive Color where
  | green
  | yellow
  | red
  | cyan
  | darkGrey
  deriving DecidableEq, Repr

/-- The name of a colour. -/
def Color.name : Color → String
  | green => "Green"
  | yellow => "Yellow"
  | red => "Red"
  | cyan => "Cyan"
  | darkGrey => "DarkGrey"

/-- All went well. -/
def successSign : String := "✓"

/-- Something was skipped. -/
def warningSign : String := "⚠"

/-- Something was rejected. -/
def errorSign : String := "✗"

/-- There are templates and nothing came of them. -/
def idleSign : String := "-"

/-- How many templates of a kind there are, how many instances came of them, and
how many of them were skipped. -/
structure Tally where
  templates : Nat
  instances : Nat
  skipped : Nat
  deriving DecidableEq, Repr

namespace Tally

/-- The sign of a tally. -/
def sign (tally : Tally) : String :=
  if 0 < tally.skipped then warningSign
  else if 0 < tally.templates ∧ tally.instances = 0 then idleSign
  else successSign

/-- The colour of a tally. -/
def color (tally : Tally) : Color :=
  if 0 < tally.skipped then .yellow
  else if tally.templates = 0 then .darkGrey
  else if 0 < tally.instances then .green
  else .cyan

end Tally

/-- The word for a run that dropped so much. -/
def statusWord (dropped : Nat) : String := if dropped = 0 then "Complete" else "Partial"

end ClusterTopology.Summary
