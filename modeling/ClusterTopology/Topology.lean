import ClusterTopology.Template.Basic
import ClusterTopology.Address

/-!
Topologies: the instances that come out of an expansion, in the order in which
they were produced, children before their parents. A child is named by its id.
-/

namespace ClusterTopology

structure ContainerInstance where
  id : String
  cpu : Resource
  mem : Resource
  qps : Throughput
  deriving DecidableEq, Repr

structure PodInstance where
  id : String
  containers : List String
  deriving DecidableEq, Repr

structure VNodeInstance where
  id : String
  cpu : Number
  mem : Number
  address : Address
  pods : List String
  deriving DecidableEq, Repr

structure NodeInstance where
  id : String
  cpu : Number
  mem : Number
  address : Address
  vnodes : List String
  deriving DecidableEq, Repr

/-- An instance of one of the kinds that are expanded. -/
inductive Instance where
  | container (it : ContainerInstance)
  | pod (it : PodInstance)
  | vnode (it : VNodeInstance)
  | node (it : NodeInstance)
  deriving DecidableEq, Repr

namespace Instance

def kind : Instance → Kind
  | container _ => .container
  | pod _ => .pod
  | vnode _ => .vnode
  | node _ => .node

def id : Instance → String
  | container it => it.id
  | pod it => it.id
  | vnode it => it.id
  | node it => it.id

/-- The ids of the instances directly below. -/
def children : Instance → List String
  | container _ => []
  | pod it => it.containers
  | vnode it => it.pods
  | node it => it.vnodes

/-- The address, of the kinds that have one. -/
def address? : Instance → Option Address
  | vnode it => some it.address
  | node it => some it.address
  | container _ | pod _ => none

end Instance

/-- Instances in order of production. -/
structure Topology where
  instances : List Instance := []
  deriving DecidableEq, Repr

namespace Topology

/-- The instances of a kind, in order of production. -/
def ofKind (topology : Topology) (kind : Kind) : List Instance :=
  topology.instances.filter fun it => it.kind == kind

/-- How many instances of a kind there are. -/
def count (topology : Topology) (kind : Kind) : Nat := (topology.ofKind kind).length

/-- The first instance with an id, of whatever kind. -/
def find? (topology : Topology) (id : String) : Option Instance :=
  topology.instances.find? fun it => it.id == id

/-- How many instances there are. -/
def size (topology : Topology) : Nat := topology.instances.length

def isEmpty (topology : Topology) : Bool := topology.instances.isEmpty

end Topology

end ClusterTopology
