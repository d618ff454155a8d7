import ClusterTopology.Allocation.Context
import ClusterTopology.Expansion.Missing
import ClusterTopology.Topology

/-!
Expansion: every node template of a store is unfolded into instances, as often
as it says. Each reference is unfolded afresh, so a key listed twice gives two
subtrees. An instance draws its id, and then its address, after everything below
it has been produced, and comes after it in the topology.

A node with a missing reference below it is skipped before anything is drawn for
it. When the addresses run out the run ends without a topology, but what has
been drawn stays drawn.
-/

namespace ClusterTopology

/-! ### One node -/

/-- What unfolding a reference gives: the id of its instance, and the instances
produced, its own last. -/
structure Grown where
  id : String
  instances : List Instance

namespace Store

variable (store : Store)

/-- The template that a reference leads to. -/
def resolve {α : Type} (found : Option α) (kind : Kind) (key : String) (parentKind : Kind)
    (parentKey : String) : Allocating α :=
  match found with
  | some template => pure template
  | none => throw (.notFound kind key parentKind parentKey)

/-- Unfold one reference to a container. -/
def growContainer (parent key : String) : Allocating Grown := do
  let template ← resolve (store.containers.find? key) .container key .pod parent
  let id ← drawId .container key
  return ⟨id, [.container ⟨id, template.cpu, template.mem, template.qps⟩]⟩

/-- Unfold one reference to a pod. -/
def growPod (parent key : String) : Allocating Grown := do
  let template ← resolve (store.pods.find? key) .pod key .vnode parent
  let below ← template.containers.mapM (growContainer store template.key)
  let id ← drawId .pod key
  return ⟨id, below.flatMap Grown.instances ++ [.pod ⟨id, below.map Grown.id⟩]⟩

/-- Unfold one reference to a vnode. -/
def growVNode (parent key : String) : Allocating Grown := do
  let template ← resolve (store.vnodes.find? key) .vnode key .node parent
  let below ← template.pods.mapM (growPod store template.key)
  let id ← drawId .vnode key
  let address ← drawAddress .vnode key
  return ⟨id, below.flatMap Grown.instances ++
    [.vnode ⟨id, template.cpu, template.mem, address, below.map Grown.id⟩]⟩

/-- Unfold a node once. -/
def growNode (node : NodeTemplate) : Allocating Grown := do
  let below ← node.vnodes.mapM (growVNode store node.key)
  let id ← drawId .node node.key
  let address ← drawAddress .node node.key
  return ⟨id, below.flatMap Grown.instances ++
    [.node ⟨id, node.cpu, node.mem, address, below.map Grown.id⟩]⟩

/-- Unfold a node `times` times, after what has been produced already, which is
held in reverse. -/
def growNodes (node : NodeTemplate) : (times : Nat) → (done : List Grown) →
    Allocating (List Instance)
  | 0, done => pure (done.reverse.flatMap Grown.instances)
  | times + 1, done => do
    let grown ← growNode store node
    growNodes node times (grown :: done)

/-- Unfold a node as often as it says. -/
def expandNode (node : NodeTemplate) : Allocating (List Instance) :=
  growNodes store node node.num.toNat []

end Store

/-! ### All nodes -/

/-- A template that gave no instances, and why. -/
structure Skipped where
  kind : Kind
  key : String
  errors : List Error
  deriving DecidableEq, Repr

/-- The result of an expansion that came to its end. -/
structure Expansion where
  topology : Topology := {}
  skipped : List Skipped := []
  ignoredServices : List String := []
  deriving DecidableEq, Repr

namespace Expansion

/-- Nothing was skipped. -/
def isClean (expansion : Expansion) : Bool := expansion.skipped.isEmpty

/-- The notice at the end of an expansion. -/
def summaryNotice (expansion : Expansion) : Notice :=
  let topology := expansion.topology
  .expanded (topology.count .container) (topology.count .pod) (topology.count .vnode)
    (topology.count .node)

end Expansion

/-- How a run ended: its result, the allocators as it left them, and the notices
it gave. -/
structure Run where
  result : Except Error Expansion
  context : Context
  notices : List Notice

namespace Run

/-- A run before which these instances were produced. -/
def after (instances : List Instance) (run : Run) : Run :=
  { run with
    result := run.result.map fun expansion =>
      { expansion with topology := ⟨instances ++ expansion.topology.instances⟩ } }

/-- A run before which this node was skipped. -/
def skipping (node : NodeTemplate) (errors : List Error) (notices : List Notice) (run : Run) :
    Run :=
  { run with
    result := run.result.map fun expansion =>
      { expansion with skipped := ⟨.node, node.key, errors⟩ :: expansion.skipped }
    notices := notices ++ run.notices }

end Run

namespace Store

/-- Expand these nodes in order. -/
def expandNodes (store : Store) : List NodeTemplate → Context → Run
  | [], context => ⟨.ok {}, context, []⟩
  | node :: rest, context =>
    match store.missingBelow node with
    | [] =>
      match (store.expandNode node).run context with
      | .ok instances context => (expandNodes store rest context).after instances
      | .error error context =>
        if error.isFatal then ⟨.error error, context, []⟩
        else (expandNodes store rest context).skipping node [error] [.nodeFault error]
    | errors =>
      (expandNodes store rest context).skipping node errors
        (errors.map Notice.nodeFault ++ [.nodeSkipped node.key errors.length])

/-- Expand every node of the store. Services are listed and left alone. -/
def expand (store : Store) (context : Context) : Run :=
  let services := store.services.values.map ServiceTemplate.key
  let run := store.expandNodes store.nodes.values context
  { run with
    result := run.result.map fun expansion => { expansion with ignoredServices := services }
    notices := services.map Notice.serviceIgnored ++ run.notices ++
      match run.result with
      | .ok expansion => [expansion.summaryNotice]
      | .error _ => [] }

end Store

end ClusterTopology
