import ClusterTopology.Summary.Table

/-!
What a summary is shown on. The words between the tables are coloured if the display has
colours. How a table is drawn is up to the display: one that is a terminal colours the cells
and fits the columns to its width, any other draws the table plainly.
-/

namespace ClusterTopology.Summary

/-- The escape sequences around words, on a display that has colours. -/
inductive Ink where
  | faint
  | green
  | yellow
  deriving DecidableEq, Repr

/-- The number of an ink in its escape sequence. -/
def Ink.code : Ink → Nat
  | faint => 90
  | green => 32
  | yellow => 33

/-- Words in an ink, if there are colours. -/
def inked (colors : Bool) (ink : Ink) (words : String) : String :=
  if colors then s!"\x1b[{ink.code}m{words}\x1b[0m" else words

/-- A display: whether words are coloured, and how a table is drawn. -/
structure Display where
  colors : Bool
  draw : Table → String

/-- A display that is no terminal. Words can be coloured there on demand, tables cannot. -/
def Display.plain (colors : Bool) : Display := ⟨colors, Table.render⟩

end ClusterTopology.Summary
