import ClusterTopology.Kind
import ClusterTopology.Json.Basic

/-!
Templates: one shape of template per kind. A template lists the templates below
it by key, and a key may be listed more than once, each listing standing for a
subtree of its own.
-/

namespace ClusterTopology

/-- What a container may use, uses, and asks for. -/
structure Resource where
  limit : Number
  used : Number
  request : Number
  deriving DecidableEq, Repr

/-- How many requests a container may serve and serves. -/
structure Throughput where
  limit : Number
  used : Number
  deriving DecidableEq, Repr

structure ContainerTemplate where
  key : String
  cpu : Resource
  mem : Resource
  qps : Throughput
  deriving DecidableEq, Repr

structure PodTemplate where
  key : String
  containers : List String
  deriving DecidableEq, Repr

structure VNodeTemplate where
  key : String
  cpu : Number
  mem : Number
  pods : List String
  deriving DecidableEq, Repr

/-- The whole tree below a node is repeated `num` times. -/
structure NodeTemplate where
  key : String
  cpu : Number
  mem : Number
  vnodes : List String
  num : UInt32
  deriving DecidableEq, Repr

/-- A service groups pods. It is kept but never expanded. -/
structure ServiceTemplate where
  key : String
  pods : List String
  deriving DecidableEq, Repr

/-- A template of any kind. -/
inductive Template where
  | container (template : ContainerTemplate)
  | pod (template : PodTemplate)
  | vnode (template : VNodeTemplate)
  | node (template : NodeTemplate)
  | service (template : ServiceTemplate)
  deriving DecidableEq, Repr

namespace Template

def kind : Template → Kind
  | container _ => .container
  | pod _ => .pod
  | vnode _ => .vnode
  | node _ => .node
  | service _ => .service

def key : Template → String
  | container template => template.key
  | pod template => template.key
  | vnode template => template.key
  | node template => template.key
  | service template => template.key

end Template

end ClusterTopology
