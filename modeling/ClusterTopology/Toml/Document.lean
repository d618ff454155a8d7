import ClusterTopology.Toml.Statement

/-!
A whole TOML document as one table. Items go into the table that the last header
has opened; that table joins the others when the next header comes, or at the
end. A header may open a table that so far is only part of the path of other
headers; a table may be opened once, and a key may be given once.
-/

namespace ClusterTopology.Toml

/-- Where the open table belongs. -/
inductive Place where
  | root
  | under (path : List Key) (key : Key)
  /-- As one more table under the key. -/
  | amongTables (path : List Key) (key : Key)

/-- A document being put together. -/
structure Assembly where
  root : Table := .empty .defined
  opened : Table := .empty .defined
  place : Place := .root

namespace Assembly

/-- The root table once the open table has joined it. -/
def close (assembly : Assembly) : Option Table :=
  match assembly.place with
  | .root => some assembly.opened
  | .under path key =>
    let join (parent : Table) : Option (Table × Unit) :=
      match parent.find? key.name with
      | none => some (parent.add key (.table assembly.opened), ())
      | some _ => none
    (Table.descend false false join path assembly.root).map Prod.fst
  | .amongTables path key =>
    let join (parent : Table) : Option (Table × Unit) :=
      match parent.find? key.name with
      | none => some (parent.add key (.tables assembly.opened []), ())
      | some (.tables last earlier) =>
        some (parent.replace key.name (.tables assembly.opened (last :: earlier)), ())
      | some _ => none
    (Table.descend false false join path assembly.root).map Prod.fst

/-- Open the table under a key. What has been put into it as part of other paths
stays in it, and the table moves to the end of its parent. -/
def openTable (root : Table) (path : List Key) (key : Key) (span : Span) : Option Assembly := do
  let take (parent : Table) : Option (Table × Table) :=
    match parent.find? key.name with
    | none => some (parent, .empty .defined)
    | some (.table inner) =>
      if inner.origin = .implied then some (parent.remove key.name, inner.withOrigin .defined)
      else none
    | some _ => none
  let (root, inner) ← Table.descend false false take path root
  return ⟨root, inner.locatedAt span, .under path key⟩

/-- Open one more table under a key that holds no other item. -/
def openAmong (root : Table) (path : List Key) (key : Key) (span : Span) : Option Assembly := do
  let check (parent : Table) : Option (Table × Unit) :=
    match parent.find? key.name with
    | none => some (parent, ())
    | some (.tables ..) => some (parent, ())
    | some _ => none
  let (root, ()) ← Table.descend false false check path root
  return ⟨root, (Table.empty .defined).locatedAt span, .amongTables path key⟩

/-- Put an item into the open table, which then reaches to the end of the item
if it stands anywhere. -/
def put (assembly : Assembly) (pair : Pair) : Option Assembly := do
  let reaching := match assembly.opened.span?, pair.item.span? with
    | some span, some last => assembly.opened.locatedAt (span.through last)
    | _, _ => assembly.opened
  return { assembly with opened := ← reaching.put false pair.path pair.key pair.item }

/-- Take in a statement. -/
def take (assembly : Assembly) : Statement → Option Assembly
  | .pair pair => assembly.put pair
  | .header path key span => do openTable (← assembly.close) path key span
  | .doubleHeader path key span => do openAmong (← assembly.close) path key span

/-- Take in statements in order. -/
def takeAll (assembly : Assembly) : List Statement → Option Assembly
  | [] => some assembly
  | statement :: rest => do takeAll (← assembly.take statement) rest

end Assembly

/-- The root table of a document, if the text is one. -/
def root? (text : List Char) : Option Table := do
  let (statements, _) ← statements text
  let assembly ← Assembly.takeAll {} statements
  assembly.close

/-- What is reported of a text that is no document. Readers refuse without a word on
the place or the reason, so it is the same for all of them. -/
def refusal : String := "invalid document"

/-- The root table of a document, or the report on a text that is none. -/
def parse (text : List Char) : Except String Table :=
  match root? text with
  | some root => .ok root
  | none => .error refusal

end ClusterTopology.Toml
