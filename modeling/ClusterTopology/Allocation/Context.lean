import ClusterTopology.Allocation.Identifier
import ClusterTopology.Allocation.Address

/-!
The allocators of a run: one of ids for each kind that is expanded, one of
addresses for each kind that is attached to the network. Requests run in the
monad `Allocating`, whose state is these allocators; what a request has spent
stays spent when a later one fails.
-/

namespace ClusterTopology

/-- The six allocators. -/
structure Context where
  containerIds : IdAllocator
  podIds : IdAllocator
  vnodeIds : IdAllocator
  nodeIds : IdAllocator
  vnodeAddresses : AddressAllocator
  nodeAddresses : AddressAllocator

namespace Context

/-- Fresh allocators. -/
def fresh (numbering : Numbering) (vnodeSeed nodeSeed : Address) : Context where
  containerIds := { kind := .container, numbering }
  podIds := { kind := .pod, numbering }
  vnodeIds := { kind := .vnode, numbering }
  nodeIds := { kind := .node, numbering }
  vnodeAddresses := { kind := .vnode, last := vnodeSeed }
  nodeAddresses := { kind := .node, last := nodeSeed }

/-- Fresh allocators as the settings want them. -/
def ofSettings (settings : Settings) : Context :=
  fresh settings.numbering settings.vnodeSeed settings.nodeSeed

/-- How many ids of a kind have been issued. -/
def issued (context : Context) : Kind → Nat
  | .container => context.containerIds.issued
  | .pod => context.podIds.issued
  | .vnode => context.vnodeIds.issued
  | .node => context.nodeIds.issued
  | .service => 0

end Context

/-- A computation that draws on the allocators and may fail. The allocators are
kept as they are at the point of failure. -/
abbrev Allocating (α : Type) := EStateM Error Context α

/-- Draw an id for an instance of a kind from a template's key. Services have no
instances. -/
def drawId (kind : Kind) (key : String) : Allocating String := fun context =>
  match kind with
  | .container =>
    let (id, ids) := context.containerIds.allocate key
    .ok id { context with containerIds := ids }
  | .pod =>
    let (id, ids) := context.podIds.allocate key
    .ok id { context with podIds := ids }
  | .vnode =>
    let (id, ids) := context.vnodeIds.allocate key
    .ok id { context with vnodeIds := ids }
  | .node =>
    let (id, ids) := context.nodeIds.allocate key
    .ok id { context with nodeIds := ids }
  | .service => .error (.invalid "service templates are not expanded") context

/-- Draw an address for an instance of a kind that is attached to the network. -/
def drawAddress (kind : Kind) (key : String) : Allocating Address := fun context =>
  match kind with
  | .vnode =>
    match context.vnodeAddresses.allocate key with
    | .ok (address, addresses) => .ok address { context with vnodeAddresses := addresses }
    | .error error => .error error context
  | .node =>
    match context.nodeAddresses.allocate key with
    | .ok (address, addresses) => .ok address { context with nodeAddresses := addresses }
    | .error error => .error error context
  | other => .error (.invalid s!"{other.name} instances are not network attached") context

end ClusterTopology
