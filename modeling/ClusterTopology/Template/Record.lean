import ClusterTopology.Template.Basic
import ClusterTopology.Error
import ClusterTopology.Json.Printer
import ClusterTopology.Text.Quoted

/-!
Records: JSON objects that describe templates. The member `kind` is looked at
before anything else, and it is looked at twice: as a name of a kind, and again as
the tag that says which members there are to be. Then the members that the kind
calls for are looked at in the order of their names, and the first that does not
fit is reported; a member that is missing is reported only when all that are there
fit. All other members are ignored.
-/

namespace ClusterTopology.Record

open ClusterTopology.Json (Members)

/-! ### Faults -/

/-- What a member should have been. -/
inductive Wanted where
  | string
  | sequence
  | number
  | count
  | numbers (length : Nat)
  | tag
  deriving DecidableEq, Repr

/-- How a record fails to have the shape of its kind. -/
inductive ShapeFault where
  | missing (name : String)
  | wrongType (found : Json) (wanted : Wanted)
  | outOfRange (found : Int)
  | tooShort (length wanted : Nat)
  | tooLong (length wanted : Nat)
  | unknownTag (text : String)
  deriving Repr

/-- Why a value is no record. -/
inductive Fault where
  | noKind
  | kindNotText (found : Json)
  | unknownKind (name : String)
  | misshapen (kind : Kind) (fault : ShapeFault)
  deriving Repr

/-- The wording of what was wanted. -/
def Wanted.phrase : Wanted → String
  | string => "a string"
  | sequence => "a sequence"
  | number => "a JSON number"
  | count => "u32"
  | numbers length => s!"an array of length {length}"
  | tag => "variant identifier"

/-- The wording of what was found. Lists and objects are only named. -/
def found : Json → String
  | .null => "null"
  | .boolean true => "boolean `true`"
  | .boolean false => "boolean `false`"
  | .number (.integer value) => s!"integer `{value}`"
  | .number (.double value) => s!"floating point `{(Number.double value).text}`"
  | .string value => "string " ++ Text.quoted value
  | .array _ => "sequence"
  | .object _ => "map"

/-- The wording of a shape fault. -/
def ShapeFault.message : ShapeFault → String
  | missing name => s!"missing field `{name}`"
  | wrongType value wanted => s!"invalid type: {found value}, expected {wanted.phrase}"
  | outOfRange value => s!"invalid value: integer `{value}`, expected u32"
  | tooShort length wanted => s!"invalid length {length}, expected an array of length {wanted}"
  | tooLong length wanted => s!"invalid length {length}, expected {wanted} elements in sequence"
  | unknownTag text =>
    let tags := ", ".intercalate (Kind.all.map fun kind => s!"`{kind.tag}`")
    s!"unknown variant `{text}`, expected one of {tags}"

/-- The wording of a fault. -/
def Fault.message : Fault → String
  | noKind => "record has no kind tag"
  | kindNotText value => s!"kind tag must be a string, got {value.print}"
  | unknownKind name => s!"unknown kind '{name}'"
  | misshapen kind fault => s!"invalid {kind.name} record: {fault.message}"

/-- A fault as a cause of failure. -/
def Fault.error (fault : Fault) : Error := .invalid fault.message

/-! ### Shapes of members -/

/-- A reader of member values. -/
abbrev Shape (α : Type) := Json → Except ShapeFault α

def text : Shape String
  | .string value => .ok value
  | other => .error (.wrongType other .string)

def number : Shape Number
  | .number value => .ok value
  | other => .error (.wrongType other .number)

/-- A count from 0 to 2^32 - 1. A double is never a count. -/
def count : Shape UInt32
  | .number (.integer value) =>
    if 0 ≤ value ∧ value < UInt32.size then .ok (UInt32.ofNat value.toNat)
    else .error (.outOfRange value)
  | other => .error (.wrongType other .count)

/-- Every item, up to the first that does not fit. -/
def each {α : Type} (shape : Shape α) : List Json → Except ShapeFault (List α)
  | [] => .ok []
  | item :: rest => do
    let first ← shape item
    let others ← each shape rest
    return first :: others

def texts : Shape (List String)
  | .array items => each text items
  | other => .error (.wrongType other .sequence)

/-- Exactly three numbers. The items after the third are not looked at. -/
def resource : Shape Resource
  | .array items => do
    match ← each number (items.take 3) with
    | [limit, used, request] =>
      if items.length = 3 then return ⟨limit, used, request⟩
      else throw (.tooLong items.length 3)
    | short => throw (.tooShort short.length 3)
  | other => .error (.wrongType other (.numbers 3))

/-- Exactly two numbers. The items after the second are not looked at. -/
def throughput : Shape Throughput
  | .array items => do
    match ← each number (items.take 2) with
    | [limit, used] =>
      if items.length = 2 then return ⟨limit, used⟩
      else throw (.tooLong items.length 2)
    | short => throw (.tooShort short.length 2)
  | other => .error (.wrongType other (.numbers 2))

/-! ### Members -/

/-- The member of that name, read by its shape. -/
def optional {α : Type} (members : Members) (name : String) (shape : Shape α) :
    Except ShapeFault (Option α) :=
  match members.lookup name with
  | none => .ok none
  | some value => (shape value).map some

/-- A member that has to be there. -/
def required {α : Type} (name : String) : Option α → Except ShapeFault α
  | some value => .ok value
  | none => .error (.missing name)

/-- A container: `cpu`, `key`, `mem` and `qps`, in the order of their names. -/
def container (members : Members) : Except ShapeFault ContainerTemplate := do
  let cpu? ← optional members "cpu" resource
  let key? ← optional members "key" text
  let mem? ← optional members "mem" resource
  let qps? ← optional members "qps" throughput
  let key ← required "key" key?
  let cpu ← required "cpu" cpu?
  let mem ← required "mem" mem?
  let qps ← required "qps" qps?
  return ⟨key, cpu, mem, qps⟩

def pod (members : Members) : Except ShapeFault PodTemplate := do
  let containers? ← optional members "containers" texts
  let key? ← optional members "key" text
  let key ← required "key" key?
  let containers ← required "containers" containers?
  return ⟨key, containers⟩

def vnode (members : Members) : Except ShapeFault VNodeTemplate := do
  let cpu? ← optional members "cpu" number
  let key? ← optional members "key" text
  let mem? ← optional members "mem" number
  let pods? ← optional members "pods" texts
  let key ← required "key" key?
  let cpu ← required "cpu" cpu?
  let mem ← required "mem" mem?
  let pods ← required "pods" pods?
  return ⟨key, cpu, mem, pods⟩

def node (members : Members) : Except ShapeFault NodeTemplate := do
  let cpu? ← optional members "cpu" number
  let key? ← optional members "key" text
  let mem? ← optional members "mem" number
  let num? ← optional members "num" count
  let vnodes? ← optional members "vnodes" texts
  let key ← required "key" key?
  let cpu ← required "cpu" cpu?
  let mem ← required "mem" mem?
  let vnodes ← required "vnodes" vnodes?
  let num ← required "num" num?
  return ⟨key, cpu, mem, vnodes, num⟩

/-- A service may leave out its pods. -/
def service (members : Members) : Except ShapeFault ServiceTemplate := do
  let key? ← optional members "key" text
  let pods? ← optional members "pods" texts
  let key ← required "key" key?
  return ⟨key, pods?.getD []⟩

/-- The template of that kind which the members describe. -/
def ofMembers (kind : Kind) (members : Members) : Except ShapeFault Template :=
  match kind with
  | .container => (container members).map .container
  | .pod => (pod members).map .pod
  | .vnode => (vnode members).map .vnode
  | .node => (node members).map .node
  | .service => (service members).map .service

/-- The kind that members are tagged with. -/
def tagged (members : Members) : Except ShapeFault Kind :=
  match members.lookup "kind" with
  | none => .error (.missing "kind")
  | some (.string text) =>
    match Kind.ofTag? text with
    | some kind => .ok kind
    | none => .error (.unknownTag text)
  | some other => .error (.wrongType other .tag)

/-- The template that members describe: by their tag, and then by the members that it calls
for. -/
def ofTagged (members : Members) : Except ShapeFault Template := do
  let kind ← tagged members
  ofMembers kind members

end ClusterTopology.Record

namespace ClusterTopology.Template

/-- The template that a record describes. Its kind is read first by name, so that a record
without a kind that is known is reported as such, and then once more by its tag. -/
def ofRecord (record : Json) : Except Record.Fault Template :=
  match record with
  | .object members =>
    match members.lookup "kind" with
    | none => .error .noKind
    | some (.string name) =>
      match Kind.ofName? name with
      | none => .error (.unknownKind name)
      | some kind => (Record.ofTagged members).mapError (.misshapen kind)
    | some other => .error (.kindNotText other)
  | _ => .error .noKind

/-- The template that a record describes, or the error that says why it describes none. -/
def accept (record : Json) : Except Error Template :=
  (ofRecord record).mapError Record.Fault.error

end ClusterTopology.Template
