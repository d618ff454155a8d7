import ClusterTopology.Text.Bytes

/-!
Readers of text with choice and repetition. A reader either takes something from
the front of the text or refuses, and a refusal says nothing more. A repetition
goes on as long as its part makes the text shorter, so it always ends.
-/

namespace ClusterTopology.Toml

/-- A reader of the front of a text. -/
abbrev Grammar (α : Type) := StateT (List Char) Option α

/-- Where something stands in a text: how many bytes of the text were left at
its start, and how many at its end. -/
structure Span where
  leftAtStart : Nat
  leftAtEnd : Nat
  deriving DecidableEq, Repr

namespace Span

/-- The number of bytes covered. -/
def size (span : Span) : Nat := span.leftAtStart - span.leftAtEnd

/-- From the start of one to the end of another. -/
def through (first last : Span) : Span := ⟨first.leftAtStart, last.leftAtEnd⟩

end Span

namespace Grammar

variable {α β : Type}

/-- A reader that always refuses. -/
def refuse : Grammar α := fun _ => none

/-- One character of a class. -/
def char (admits : Char → Bool) : Grammar Char
  | c :: rest => if admits c then some (c, rest) else none
  | [] => none

/-- Exactly this text. -/
def exactly : List Char → Grammar Unit
  | [], text => some ((), text)
  | e :: expected, c :: rest => if c = e then exactly expected rest else none
  | _ :: _, [] => none

/-- The characters of a class at the front, possibly none. -/
def run (admits : Char → Bool) : Grammar (List Char) :=
  fun text => some (text.takeWhile admits, text.dropWhile admits)

/-- The characters of a class at the front, at least one. -/
def run1 (admits : Char → Bool) : Grammar (List Char) := do
  let found ← run admits
  if found = [] then refuse else return found

/-- The end of the text. -/
def atEnd : Grammar Unit
  | [] => some ((), [])
  | _ :: _ => none

/-- What the first reader takes, or else what the second takes. -/
def either (first second : Grammar α) : Grammar α := fun text =>
  match first text with
  | some taken => some taken
  | none => second text

/-- What the reader takes, if anything. -/
def perhaps (reader : Grammar α) : Grammar (Option α) := fun text =>
  match reader text with
  | some (value, rest) => some (some value, rest)
  | none => some (none, text)

/-- The text that follows, which is not taken. -/
def ahead : Grammar (List Char) := fun text => some (text, text)

/-- As many as there are. -/
def many (part : Grammar α) (text : List Char) : Option (List α × List Char) :=
  match part text with
  | none => some ([], text)
  | some (value, rest) =>
    if rest.length < text.length then
      (many part rest).map fun (values, left) => (value :: values, left)
    else some ([], text)
termination_by text.length

/-- One or more, with separators between them. -/
def separated (part : Grammar α) (separator : Grammar β) : Grammar (List α) := do
  let first ← part
  let others ← many do
    let _ ← separator
    part
  return first :: others

/-- What the reader takes, and where it stands. -/
def located (reader : Grammar α) : Grammar (α × Span) := fun text =>
  match reader text with
  | some (value, rest) => some ((value, ⟨Text.byteCount text, Text.byteCount rest⟩), rest)
  | none => none

end Grammar

end ClusterTopology.Toml
