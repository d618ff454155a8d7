import ClusterTopology.Toml.Text
import ClusterTopology.Toml.Word

/-!
The statements of a TOML document: values under dotted keys, and headers. A
statement takes a line; only arrays and strings in triple marks may go on over
line ends. The tables that dotted keys make inside braces are put together here,
by the same rule that puts together those outside (`Table.descend`).
-/

namespace ClusterTopology.Toml

open Grammar

/-! ### Tables put together from keys -/

namespace Table

/-- Change the table that a path leads to, making the tables on the way that are
not there. A table in double brackets stands for the last one put under its key.
Along a dotted key no table may be entered that has a header or braces of its
own; inside braces tables are braced. -/
def descend {β : Type} (alongKey inBraces : Bool) (change : Table → Option (Table × β)) :
    List Key → Table → Option (Table × β)
  | [], table => change table
  | key :: rest, table => do
    match table.find? key.name with
    | none =>
      let (made, result) ←
        descend alongKey inBraces change rest (.empty (if alongKey then .dotted else .implied))
      return (table.add key (if inBraces then .braced made else .table made), result)
    | some (.table inner) =>
      if inBraces ∨ (alongKey ∧ inner.origin = .defined) then none
      else
        let (changed, result) ← descend alongKey inBraces change rest inner
        return (table.replace key.name (.table changed), result)
    | some (.braced inner) =>
      if !inBraces ∨ inner.origin = .defined then none
      else
        let (changed, result) ← descend alongKey inBraces change rest inner
        return (table.replace key.name (.braced changed), result)
    | some (.tables last earlier) =>
      if inBraces then none
      else
        let (changed, result) ← descend alongKey inBraces change rest last
        return (table.replace key.name (.tables changed earlier), result)
    | some _ => none

/-- Put an item under a dotted key, which must be new. The tables on its path
have to be made by dotted keys too. -/
def put (inBraces : Bool) (path : List Key) (key : Key) (item : Item) (table : Table) :
    Option Table :=
  let change (inner : Table) : Option (Table × Unit) :=
    if (inner.origin = .dotted) = (path = []) then none
    else match inner.find? key.name with
      | none => some (inner.add key item, ())
      | some _ => none
  (descend true inBraces change path table).map Prod.fst

end Table

/-- An item under a dotted key: the path, the last key, the item. -/
structure Pair where
  path : List Key
  key : Key
  item : Item

/-- Put items under dotted keys, in order. -/
def putAll (inBraces : Bool) : List Pair → Table → Option Table
  | [], table => some table
  | pair :: rest, table => do
    putAll inBraces rest (← table.put inBraces pair.path pair.key pair.item)

/-! ### Blanks -/

/-- Blanks inside a line. -/
def spaces : Grammar Unit := do
  let _ ← run isSpace

/-- A line end. -/
def lineEnd : Grammar Unit := either (exactly ['\n']) (exactly ['\r', '\n'])

/-- A comment up to the end of its line. -/
def comment : Grammar Unit := do
  exactly ['#']
  let _ ← run isPrinted

/-- Blanks, comments and line ends. A comment has to have its line end. -/
def blankLines : Grammar Unit := do
  let someSpaces : Grammar Unit := do
    let _ ← run1 isSpace
  let commentLine : Grammar Unit := do
    comment
    lineEnd
  let _ ← many (either someSpaces (either lineEnd commentLine))

/-- What may stand behind a statement. -/
def restOfLine : Grammar Unit := do
  spaces
  let _ ← perhaps comment
  either lineEnd atEnd

/-! ### Keys -/

/-- The characters of bare keys. -/
def isKeyChar (c : Char) : Bool := c.isAlphanum || c == '_' || c == '-'

/-- A key between blanks. -/
def simpleKey : Grammar Key := do
  spaces
  let bare : Grammar String := do
    return String.ofList (← run1 isKeyChar)
  let (name, span) ← located (either quotedKey bare)
  spaces
  return ⟨name, span⟩

/-- The most levels of brackets and braces in a value, and the most keys in a
dotted key. -/
def greatestDepth : Nat := 79

/-- The path and the last key of a dotted key. -/
def dottedKey : Grammar (List Key × Key) := do
  let keys ← separated simpleKey (exactly ['.'])
  match keys.getLast? with
  | some last => if keys.length ≤ greatestDepth then return (keys.dropLast, last) else refuse
  | none => refuse

/-! ### Values -/

/-- An item under a dotted key, with the equals sign between them. -/
def pair (value : Grammar Item) : Grammar Pair := do
  let (path, key) ← dottedKey
  exactly ['=']
  spaces
  return ⟨path, key, ← value⟩

/-- The items of an array, between its brackets. A comma may follow the last. -/
def arrayItems (value : Grammar Item) : Grammar (List Item) := do
  let item : Grammar Item := do
    blankLines
    let found ← value
    blankLines
    return found
  let oneOrMore : Grammar (List Item) := do
    let items ← separated item (exactly [','])
    let _ ← perhaps (exactly [','])
    return items
  let items ← perhaps oneOrMore
  blankLines
  return items.getD []

/-- An array. -/
def array (value : Grammar Item) : Grammar Item := do
  let (items, span) ← located do
    exactly ['[']
    let items ← arrayItems value
    exactly [']']
    return items
  return .array items span

/-- A table in braces. It stands on one line, and no comma follows its last
item. -/
def braced (value : Grammar Item) : Grammar Item := do
  let pairAndSpaces : Grammar Pair := do
    let found ← pair value
    spaces
    return found
  let (pairs, span) ← located do
    exactly ['\x7b']
    spaces
    let pairs ← perhaps (separated pairAndSpaces (exactly [',']))
    spaces
    exactly ['\x7d']
    return pairs.getD []
  match putAll true pairs (.empty .defined) with
  | some table => return .braced (table.locatedAt span)
  | none => refuse

/-- A value without parts. -/
def scalar : Grammar Item := do
  let text : Grammar Scalar := do
    return .string (← quotedText)
  let (value, span) ← located (either text Word.scalar)
  return .scalar value span

/-- A value with so many levels of brackets and braces at most. -/
def value : Nat → Grammar Item
  | 0 => scalar
  | depth + 1 => either scalar (either (array (value depth)) (braced (value depth)))

/-! ### Statements -/

/-- A statement. -/
inductive Statement where
  | pair (pair : Pair)
  /-- A header, which opens the table under its key. -/
  | header (path : List Key) (key : Key) (span : Span)
  /-- A header in double brackets, which opens one more table under its key. -/
  | doubleHeader (path : List Key) (key : Key) (span : Span)

/-- A header in double brackets. -/
def doubleHeader : Grammar Statement := do
  let ((path, key), span) ← located do
    exactly ['[', '[']
    let found ← dottedKey
    exactly [']', ']']
    return found
  return .doubleHeader path key span

/-- A header in single brackets. -/
def header : Grammar Statement := do
  let ((path, key), span) ← located do
    exactly ['[']
    let found ← dottedKey
    exactly [']']
    return found
  return .header path key span

/-- A statement with the rest of its line. -/
def statement : Grammar Statement := do
  spaces
  let keyed : Grammar Statement := do
    return .pair (← pair (value greatestDepth))
  let found ← either doubleHeader (either header keyed)
  restOfLine
  return found

/-- A line without a statement. -/
def emptyLine : Grammar Unit := do
  spaces
  either lineEnd do
    comment
    either lineEnd atEnd

/-- The statements of a whole text. A byte order mark at its front is passed
over. -/
def statements : Grammar (List Statement) := do
  let _ ← perhaps (exactly ['\uFEFF'])
  let withNothing : Grammar (Option Statement) := do
    emptyLine
    return none
  let withStatement : Grammar (Option Statement) := do
    return some (← statement)
  let found ← many (either withNothing withStatement)
  spaces
  atEnd
  return found.filterMap id

end ClusterTopology.Toml
