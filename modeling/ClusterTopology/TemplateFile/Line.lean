import ClusterTopology.Error
import ClusterTopology.Json.Parser
import ClusterTopology.Text.Blank
import ClusterTopology.Text.Lines
import ClusterTopology.Text.Pattern

/-!
One line of a template file. Blank lines and comments hold nothing. Any other
line holds a tag of at least two characters, a comma and a JSON record; the first
comma is the one that counts. A record that holds a line feed is no record of a
single line.
-/

namespace ClusterTopology.TemplateFile

/-- What a line holds. -/
inductive Line where
  /-- Nothing: the line is blank or a comment. -/
  | ignored
  | record (tag : String) (record : Json)

/-- The mark at the front of a comment. -/
def commentMark : Char := '#'

/-- The form of a line with a record: the tag, the comma, and the text of the record up to the
end. -/
def recordForm : Text.Pattern :=
  .andThen .atStart <| .andThen (.group (.run 2 (· != ','))) <|
    .andThen (.one (· == ',')) <| .andThen (.group (.run 0 (· != '\n'))) .atEnd

/-- The tag and the record text of a line without blanks around it. -/
def cut? (line : List Char) : Option (List Char × List Char) :=
  match recordForm.find? line with
  | some [tag, record] => some (tag, record)
  | _ => none

/-- Read the line of that number. -/
def Line.parse (number : Nat) (raw : List Char) : Except Error Line :=
  let line := Text.trim raw
  if line = [] ∨ line.head? = some commentMark then .ok .ignored
  else match cut? line with
    | none => .error (.malformedLine number "expected '<kind>, <json record>'")
    | some (tag, text) =>
      match Json.parse text with
      | .ok value => .ok (.record (String.ofList (Text.trim tag)) value)
      | .error error =>
        .error (.malformedLine number s!"invalid JSON record: {error.message}")

end ClusterTopology.TemplateFile
