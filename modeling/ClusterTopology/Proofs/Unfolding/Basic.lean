import ClusterTopology.Template.Store

/-!
The unfolding of a store, without allocators.

An entry stands for one occurrence of a reference. `Store.unfolding` lists the
entries of a store in post-order: the node templates under which every reference
leads somewhere, in the order of the store, each as often as it says, and every
entry after the blocks of the references its template lists. `Entry.below` ties an
entry to the entries directly below it by how far before it they stand, so that a
block means the same wherever it is placed.
-/

namespace ClusterTopology

/-- The kind of the templates that a template of this kind lists. -/
def Kind.below? : Kind → Option Kind
  | .node => some .vnode
  | .vnode => some .pod
  | .pod => some .container
  | .container | .service => none

/-- The keys of the templates that a template lists directly below it. The pods of a
service are not below it. -/
def Template.references : Template → List String
  | .pod template => template.containers
  | .vnode template => template.pods
  | .node template => template.vnodes
  | .container _ | .service _ => []

/-! ### Entries -/

/-- One occurrence of a reference, with its template and the distances back to the
entries directly below it. -/
inductive Entry where
  | container (template : ContainerTemplate)
  | pod (template : PodTemplate) (below : List Nat)
  | vnode (template : VNodeTemplate) (below : List Nat)
  | node (template : NodeTemplate) (below : List Nat)
  deriving DecidableEq, Repr

namespace Entry

/-- The template that is instantiated. -/
def template : Entry → Template
  | container template => .container template
  | pod template _ => .pod template
  | vnode template _ => .vnode template
  | node template _ => .node template

def kind (entry : Entry) : Kind := entry.template.kind

def key (entry : Entry) : String := entry.template.key

/-- How many places before the entry the entries directly below it stand, in the
order in which the template lists them. -/
def below : Entry → List Nat
  | container _ => []
  | pod _ below | vnode _ below | node _ below => below

end Entry

/-! ### Blocks -/

/-- How far before the end of these blocks, laid end to end, the last entry of each
stands. -/
def behind : List (List Entry) → List Nat
  | [] => []
  | _ :: rest => (rest.flatten.length + 1) :: behind rest

/-- These blocks and after them the entry that they are below. -/
def plant (entry : List Nat → Entry) (blocks : List (List Entry)) : List Entry :=
  blocks.flatten ++ [entry (behind blocks)]

namespace Store

variable (store : Store)

/-- The entries for a reference to a container. -/
def containerBlock (key : String) : List Entry :=
  match store.containers.find? key with
  | some container => [.container container]
  | none => []

/-- The entries for a reference to a pod. -/
def podBlock (key : String) : List Entry :=
  match store.pods.find? key with
  | some pod => plant (.pod pod) (pod.containers.map store.containerBlock)
  | none => []

/-- The entries for a reference to a vnode. -/
def vnodeBlock (key : String) : List Entry :=
  match store.vnodes.find? key with
  | some vnode => plant (.vnode vnode) (vnode.pods.map store.podBlock)
  | none => []

/-- The entries for one copy of a node. -/
def nodeBlock (node : NodeTemplate) : List Entry :=
  plant (.node node) (node.vnodes.map store.vnodeBlock)

/-! ### References that lead somewhere -/

/-- Whether a pod is stored under the key and all its containers are stored. -/
def podResolves (key : String) : Bool :=
  (store.pods.find? key).any fun pod => pod.containers.all fun key =>
    store.containers.contains key

/-- Whether a vnode is stored under the key and all its pods resolve. -/
def vnodeResolves (key : String) : Bool :=
  (store.vnodes.find? key).any fun vnode => vnode.pods.all store.podResolves

/-- Whether no reference below a node dangles. -/
def nodeResolves (node : NodeTemplate) : Bool := node.vnodes.all store.vnodeResolves

theorem containerResolves_iff {key : String} :
    store.containers.contains key = true ↔
      ∃ container, store.containers.find? key = some container := by
  simp [Register.contains, Option.isSome_iff_exists]

theorem podResolves_iff {key : String} :
    store.podResolves key = true ↔ ∃ pod, store.pods.find? key = some pod ∧
      ∀ key ∈ pod.containers, store.containers.contains key = true := by
  simp [podResolves, Option.any_eq_true]

theorem vnodeResolves_iff {key : String} :
    store.vnodeResolves key = true ↔ ∃ vnode, store.vnodes.find? key = some vnode ∧
      ∀ key ∈ vnode.pods, store.podResolves key = true := by
  simp [vnodeResolves, Option.any_eq_true]

theorem nodeResolves_iff {node : NodeTemplate} :
    store.nodeResolves node = true ↔
      ∀ key ∈ node.vnodes, store.vnodeResolves key = true := by
  simp [nodeResolves]

/-! ### The whole store -/

/-- The entries for all copies of a node. -/
def copies (node : NodeTemplate) : List Entry :=
  (List.replicate node.num.toNat (store.nodeBlock node)).flatten

/-- The entries for those of these nodes under which no reference dangles. -/
def unfoldNodes (nodes : List NodeTemplate) : List Entry :=
  (nodes.filter store.nodeResolves).flatMap store.copies

/-- The entries for a store, in the order in which they are to be instantiated. -/
def unfolding : List Entry := store.unfoldNodes store.nodes.values

/-- A small store: two copies of a node, over a pod that lists its container twice. -/
def twofold : Store :=
  let one := Number.integer 1
  let templates := [
    Template.container ⟨"a", ⟨one, one, one⟩, ⟨one, one, one⟩, ⟨one, one⟩⟩,
    Template.pod ⟨"a", ["a", "a"]⟩,
    Template.vnode ⟨"b", one, one, ["a"]⟩,
    Template.node ⟨"b", one, one, ["b"], 2⟩]
  templates.foldl Store.insert .empty

example : twofold.unfolding.map (fun entry => (entry.kind, entry.below)) =
    [(.container, []), (.container, []), (.pod, [2, 1]), (.vnode, [1]), (.node, [1]),
      (.container, []), (.container, []), (.pod, [2, 1]), (.vnode, [1]), (.node, [1])] := by
  decide

end Store

end ClusterTopology
