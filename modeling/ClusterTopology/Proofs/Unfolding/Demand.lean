import Mathlib.Algebra.BigOperators.Group.List.Basic
import Mathlib.Algebra.Order.Ring.Int
import ClusterTopology.Proofs.Unfolding.Basic

/-!
How many addresses a store asks for.

`Store.demand` reads it off the node templates, without unfolding them: a node asks
for one address for each copy of itself, and for one for each vnode that a copy lists.
`countOf_unfolding` says that the unfolding has as many entries of these two kinds.
-/

namespace ClusterTopology

/-- How many of these entries are of a kind. -/
def countOf (kind : Kind) (entries : List Entry) : Nat :=
  entries.countP fun entry => entry.kind == kind

/-- How many addresses of a kind a node asks for, all copies taken together. -/
def NodeTemplate.demand (node : NodeTemplate) : Kind → Nat
  | .node => node.num.toNat
  | .vnode => node.num.toNat * node.vnodes.length
  | .container | .pod | .service => 0

/-- How many addresses of a kind a store asks for. Nodes under which a reference dangles
ask for none. -/
def Store.demand (store : Store) (kind : Kind) : Nat :=
  ((store.nodes.values.filter store.nodeResolves).map fun node => node.demand kind).sum

/-! ### Counting -/

theorem countOf_append (kind : Kind) (entries others : List Entry) :
    countOf kind (entries ++ others) = countOf kind entries + countOf kind others :=
  List.countP_append

theorem countOf_singleton (kind : Kind) (entry : Entry) :
    countOf kind [entry] = if entry.kind = kind then 1 else 0 := by
  simp [countOf, List.countP_singleton]

theorem countOf_flatten (kind : Kind) (blocks : List (List Entry)) :
    countOf kind blocks.flatten = (blocks.map (countOf kind)).sum :=
  List.countP_flatten

/-- An entry adds one to those of its kind before it. -/
theorem countOf_take_lt {entries : List Entry} {place : Nat} {entry : Entry}
    (entryAt : entries[place]? = some entry) :
    countOf entry.kind (entries.take place) < countOf entry.kind entries := by
  have upTo : (entries.take (place + 1)).Sublist entries := List.take_sublist _ _
  have fewer : countOf entry.kind (entries.take (place + 1)) ≤ countOf entry.kind entries :=
    upTo.countP_le
  rw [List.take_add_one, entryAt, Option.toList_some, countOf_append, countOf_singleton,
    if_pos rfl] at fewer
  omega

/-- A planted block has the entries of its branches and one more. -/
theorem countOf_plant (kind : Kind) (entry : List Nat → Entry) (keys : List String)
    (block : String → List Entry) :
    countOf kind (plant entry (keys.map block)) =
      (keys.map fun key => countOf kind (block key)).sum +
        if (entry (behind (keys.map block))).kind = kind then 1 else 0 := by
  rw [plant, countOf_append, countOf_flatten, countOf_singleton, List.map_map]
  rfl

namespace Store

variable {store : Store} {kind : Kind}

/-! ### Kinds that a block does not reach -/

theorem countOf_containerBlock_eq_zero (other : kind ≠ .container) (key : String) :
    countOf kind (store.containerBlock key) = 0 := by
  unfold containerBlock
  cases store.containers.find? key with
  | none => rfl
  | some container =>
      rw [countOf_singleton]
      exact if_neg fun same => other same.symm

theorem countOf_podBlock_eq_zero (other : kind ≠ .container) (another : kind ≠ .pod)
    (key : String) : countOf kind (store.podBlock key) = 0 := by
  unfold podBlock
  cases store.pods.find? key with
  | none => rfl
  | some pod =>
      rw [countOf_plant, if_neg fun same => another same.symm]
      simp [countOf_containerBlock_eq_zero other]

theorem countOf_node_vnodeBlock (key : String) :
    countOf .node (store.vnodeBlock key) = 0 := by
  unfold vnodeBlock
  cases store.vnodes.find? key with
  | none => rfl
  | some vnode =>
      rw [countOf_plant, if_neg nofun]
      simp [countOf_podBlock_eq_zero]

/-! ### Vnodes and nodes -/

/-- The block of a vnode that is stored has one vnode entry, its last. -/
theorem countOf_vnode_vnodeBlock {key : String} (resolves : store.vnodeResolves key = true) :
    countOf .vnode (store.vnodeBlock key) = 1 := by
  obtain ⟨vnode, found, -⟩ := store.vnodeResolves_iff.mp resolves
  rw [vnodeBlock, found]
  dsimp only
  rw [countOf_plant, if_pos (show (Entry.vnode vnode _).kind = .vnode from rfl)]
  simp [countOf_podBlock_eq_zero]

theorem countOf_vnode_nodeBlock {node : NodeTemplate}
    (resolves : store.nodeResolves node = true) :
    countOf .vnode (store.nodeBlock node) = node.vnodes.length := by
  have each : ∀ key ∈ node.vnodes, countOf .vnode (store.vnodeBlock key) = 1 := by
    intro key listed
    exact countOf_vnode_vnodeBlock (store.nodeResolves_iff.mp resolves key listed)
  rw [nodeBlock, countOf_plant, if_neg nofun, List.map_congr_left each]
  simp

theorem countOf_node_nodeBlock (node : NodeTemplate) :
    countOf .node (store.nodeBlock node) = 1 := by
  rw [nodeBlock, countOf_plant, if_pos (show (Entry.node node _).kind = .node from rfl)]
  simp [countOf_node_vnodeBlock]

/-- All copies of a node have as many entries of a kind as the node asks for addresses. -/
theorem countOf_copies {node : NodeTemplate} (resolves : store.nodeResolves node = true)
    (attached : kind.isNetworkAttached = true) :
    countOf kind (store.copies node) = node.demand kind := by
  rw [copies, countOf_flatten, List.map_replicate, List.sum_replicate_nat]
  cases kind with
  | container | pod | service => cases attached
  | vnode => rw [countOf_vnode_nodeBlock resolves, NodeTemplate.demand]
  | node => rw [countOf_node_nodeBlock, NodeTemplate.demand, Nat.mul_one]

/-- The entries of a kind are those of the nodes that resolve, all copies of each. -/
theorem countOf_unfolding_eq_sum (store : Store) (kind : Kind) :
    countOf kind store.unfolding =
      ((store.nodes.values.filter store.nodeResolves).map fun node =>
        countOf kind (store.copies node)).sum := by
  rw [unfolding, unfoldNodes, List.flatMap_def, countOf_flatten, List.map_map]
  rfl

/-- A store asks for as many addresses of a kind as its unfolding has entries of it. -/
theorem countOf_unfolding (store : Store) (attached : kind.isNetworkAttached = true) :
    countOf kind store.unfolding = store.demand kind := by
  rw [countOf_unfolding_eq_sum, demand]
  congr 1
  refine List.map_congr_left fun node kept => ?_
  exact countOf_copies (List.mem_filter.mp kept).2 attached

end Store

end ClusterTopology
