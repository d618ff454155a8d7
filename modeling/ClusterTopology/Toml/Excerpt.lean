import ClusterTopology.Text.Lines
import ClusterTopology.Toml.Grammar

/-!
Reports on a place in a document: its line and column, the line itself with the
place underlined, and the reason. Columns count characters; the underline has one
mark per byte, stays within the first line of the place and has one mark at
least.
-/

namespace ClusterTopology.Toml

/-- How many lines end, and how many characters of the last line follow, before
so many bytes of the text have gone by. -/
def lineAndColumn : List Char → (bytes line column : Nat) → Nat × Nat
  | [], _, line, column => (line, column)
  | c :: rest, bytes, line, column =>
    if bytes = 0 then (line, column)
    else if c = '\n' then lineAndColumn rest (bytes - 1) (line + 1) 0
    else lineAndColumn rest (bytes - c.utf8Size) line (column + 1)

/-- The report on a place in a text. -/
def report (text : List Char) (span : Span) (reason : String) : String :=
  let (line, column) := lineAndColumn text (Text.byteCount text - span.leftAtStart) 0 0
  let content := (Text.pieces (· == '\n') text)[line]?.getD []
  let number := toString (line + 1)
  let margin := String.ofList (List.replicate (number.length + 1) ' ')
  let marks := max 1 (min span.size (Text.byteCount content - column))
  s!"TOML parse error at line {number}, column {column + 1}\n" ++
    margin ++ "|\n" ++
    number ++ " | " ++ String.ofList content ++ "\n" ++
    margin ++ "|" ++ String.ofList (List.replicate (column + 1) ' ' ++ List.replicate marks '^') ++
    "\n" ++ reason ++ "\n"

end ClusterTopology.Toml
