import ClusterTopology.Template.Store

/-!
Missing references. The tree below a node is walked depth first, in the order of
the lists; every reference is followed once, the first time it is met, and one
that leads nowhere is reported with the template that lists it. Nothing is
allocated by the walk.
-/

namespace ClusterTopology.Missing

/-- A reference by kind and key. -/
abbrev Reference := Kind × String

/-- How far a walk has come: the references met, and the errors in reverse. -/
structure Walk where
  met : List Reference := []
  errors : List Error := []

/-- Report a reference that leads nowhere. -/
def Walk.report (walk : Walk) (error : Error) : Walk :=
  { walk with errors := error :: walk.errors }

/-- Note that a reference has been met. -/
def Walk.meet (walk : Walk) (reference : Reference) : Walk :=
  { walk with met := reference :: walk.met }

/-- Follow the references of one kind that a template lists. A reference met
before is passed over; for one that leads nowhere an error is reported; from
any other the walk goes on below. -/
def follow {α : Type} (kind : Kind) (find? : String → Option α) (parentKind : Kind)
    (parentKey : String) (below : Walk → α → Walk) (walk : Walk) (keys : List String) : Walk :=
  keys.foldl (fun walk key =>
    if (kind, key) ∈ walk.met then walk
    else match find? key with
      | none => (walk.meet (kind, key)).report (.notFound kind key parentKind parentKey)
      | some template => below (walk.meet (kind, key)) template) walk

/-- The containers of a pod. There is nothing below a container. -/
def belowPod (store : Store) (walk : Walk) (pod : PodTemplate) : Walk :=
  follow .container store.containers.find? .pod pod.key (fun walk _ => walk) walk pod.containers

/-- The pods of a vnode, and what is below them. -/
def belowVNode (store : Store) (walk : Walk) (vnode : VNodeTemplate) : Walk :=
  follow .pod store.pods.find? .vnode vnode.key (belowPod store) walk vnode.pods

/-- The vnodes of a node, and what is below them. -/
def belowNode (store : Store) (node : NodeTemplate) : Walk :=
  follow .vnode store.vnodes.find? .node node.key (belowVNode store) {} node.vnodes

end ClusterTopology.Missing

namespace ClusterTopology.Store

/-- The missing references below a node, in the order of the walk. -/
def missingBelow (store : Store) (node : NodeTemplate) : List Error :=
  (Missing.belowNode store node).errors.reverse

end ClusterTopology.Store
