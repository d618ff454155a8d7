/-!
The five kinds of template and what distinguishes them: their names, the tags of
their records, whether instances of the kind come out of an expansion, and
whether such an instance carries an address. Names and tags are two tables.
`ofName?_eq_some_iff` says that a name is read back to exactly the kind that bears
it, and `ofTag?_eq_ofName?` that tags are read alike.
-/

namespace ClusterTopology

/-- What a template describes. The order of the constructors is from the leaves
of the containment tree upwards; a service stands outside the tree. -/
inductive Kind where
  | container
  | pod
  | vnode
  | node
  | service
  deriving DecidableEq, Repr

namespace Kind

/-- The kinds that take part in expansion, leaves first. -/
def expanded : List Kind := [container, pod, vnode, node]

/-- Every kind, leaves first and service last. -/
def all : List Kind := [container, pod, vnode, node, service]

/-- The name a kind has in messages and output lines. -/
def name : Kind → String
  | container => "container"
  | pod => "pod"
  | vnode => "vnode"
  | node => "node"
  | service => "service"

/-- The kind of that name. Names are exact: case matters and nothing is trimmed. -/
def ofName? : String → Option Kind
  | "container" => some container
  | "pod" => some pod
  | "vnode" => some vnode
  | "node" => some node
  | "service" => some service
  | _ => none

/-- The identifier of a kind, from which its tag is made. -/
def identifier : Kind → String
  | container => "Container"
  | pod => "Pod"
  | vnode => "VNode"
  | node => "Node"
  | service => "Service"

/-- The tag of a kind in records: its identifier in small letters. -/
def tag (kind : Kind) : String := String.ofList (kind.identifier.toList.map Char.toLower)

/-- The kind of that tag, as exact as a name. -/
def ofTag? (text : String) : Option Kind := all.find? fun kind => kind.tag == text

/-- Instances of these kinds receive an address. -/
def isNetworkAttached : Kind → Bool
  | vnode | node => true
  | _ => false

/-- Membership in `expanded`. -/
def isExpanded (kind : Kind) : Bool := expanded.contains kind

theorem mem_all (kind : Kind) : kind ∈ all := by
  cases kind <;> simp [all]

/-- A text names a kind exactly when it is that kind's name. -/
theorem ofName?_eq_some_iff {text : String} {kind : Kind} :
    ofName? text = some kind ↔ text = kind.name := by
  constructor
  · intro found
    unfold ofName? at found
    split at found <;> cases found <;> rfl
  · rintro rfl
    cases kind <;> rfl

/-- In small letters the identifiers are the names. -/
theorem tag_eq_name (kind : Kind) : kind.tag = kind.name := by
  cases kind <;> rfl

theorem ofTag?_eq_some_iff {text : String} {kind : Kind} :
    ofTag? text = some kind ↔ text = kind.name := by
  rw [← kind.tag_eq_name]
  constructor
  · intro found
    have matched := List.find?_some found
    exact (beq_iff_eq.mp matched).symm
  · rintro rfl
    cases kind <;> rfl

/-- A text is read as a tag as it is read as a name. -/
theorem ofTag?_eq_ofName? (text : String) : ofTag? text = ofName? text := by
  refine Option.ext fun kind => ?_
  rw [ofTag?_eq_some_iff, ofName?_eq_some_iff]

end Kind

end ClusterTopology
