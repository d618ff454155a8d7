import ClusterTopology.Proofs.Expansion.Forest
import ClusterTopology.Proofs.Unfolding.Demand

/-!
How many instances an expansion gives.

Instances are produced one by one and nothing is multiplied on the way, but how many there
are is read off the lists of the templates: `Store.yield` is the product of multiplicities
along the lists below a node. `countOf_copies_eq_yield` says so of the unfolding, level by
level, and `count_eq_sum_yield` of the topology, with what the allocators have issued for
it.
-/

namespace ClusterTopology

/-! ### Multiplicities -/

namespace Store

variable {store : Store} {kind : Kind} {key : String} {node : NodeTemplate}

/-- The keys that the vnode under a key lists. -/
def podsOf (store : Store) (key : String) : List String :=
  (store.vnodes.find? key).elim [] VNodeTemplate.pods

/-- The keys that the pod under a key lists. -/
def containersOf (store : Store) (key : String) : List String :=
  (store.pods.find? key).elim [] PodTemplate.containers

/-- How many instances of a kind come of a node: its copies, times what each of them lists
below it, every listing counted. -/
def yield (store : Store) (node : NodeTemplate) : Kind → Nat
  | .node => node.num.toNat
  | .vnode => node.num.toNat * node.vnodes.length
  | .pod => node.num.toNat * (node.vnodes.map fun vnode => (store.podsOf vnode).length).sum
  | .container => node.num.toNat * (node.vnodes.map fun vnode =>
      ((store.podsOf vnode).map fun pod => (store.containersOf pod).length).sum).sum
  | .service => 0

/-- A planted block has no more entries of a kind than its branches, if the entry itself is
of another. -/
theorem countOf_plant_of_ne {entry : List Nat → Entry} {keys : List String}
    {block : String → List Entry} {count : String → Nat}
    (other : ∀ below, (entry below).kind ≠ kind)
    (each : ∀ key ∈ keys, countOf kind (block key) = count key) :
    countOf kind (plant entry (keys.map block)) = (keys.map count).sum := by
  rw [countOf_plant, if_neg (other _), List.map_congr_left each]
  rfl

/-! ### Containers and pods -/

theorem countOf_container_containerBlock (stored : store.containers.contains key = true) :
    countOf .container (store.containerBlock key) = 1 := by
  obtain ⟨container, found⟩ := store.containerResolves_iff.mp stored
  rw [containerBlock, found]
  rfl

theorem countOf_container_podBlock (resolves : store.podResolves key = true) :
    countOf .container (store.podBlock key) = (store.containersOf key).length := by
  obtain ⟨pod, found, below⟩ := store.podResolves_iff.mp resolves
  have each : ∀ key ∈ pod.containers, countOf .container (store.containerBlock key) = 1 :=
    fun key listed => countOf_container_containerBlock (below key listed)
  have other : ∀ below, (Entry.pod pod below).kind ≠ .container := fun _ => nofun
  rw [podBlock, containersOf, found]
  calc countOf .container (plant (.pod pod) (pod.containers.map store.containerBlock))
      = (pod.containers.map fun _ => 1).sum := countOf_plant_of_ne other each
    _ = pod.containers.length := by simp

/-- The block of a pod that resolves has one pod entry, its last. -/
theorem countOf_pod_podBlock (resolves : store.podResolves key = true) :
    countOf .pod (store.podBlock key) = 1 := by
  obtain ⟨pod, found, -⟩ := store.podResolves_iff.mp resolves
  rw [podBlock, found]
  dsimp only
  rw [countOf_plant, if_pos (show (Entry.pod pod _).kind = .pod from rfl)]
  simp [countOf_containerBlock_eq_zero]

theorem countOf_pod_vnodeBlock (resolves : store.vnodeResolves key = true) :
    countOf .pod (store.vnodeBlock key) = (store.podsOf key).length := by
  obtain ⟨vnode, found, below⟩ := store.vnodeResolves_iff.mp resolves
  have each : ∀ key ∈ vnode.pods, countOf .pod (store.podBlock key) = 1 :=
    fun key listed => countOf_pod_podBlock (below key listed)
  have other : ∀ below, (Entry.vnode vnode below).kind ≠ .pod := fun _ => nofun
  rw [vnodeBlock, podsOf, found]
  calc countOf .pod (plant (.vnode vnode) (vnode.pods.map store.podBlock))
      = (vnode.pods.map fun _ => 1).sum := countOf_plant_of_ne other each
    _ = vnode.pods.length := by simp

theorem countOf_container_vnodeBlock (resolves : store.vnodeResolves key = true) :
    countOf .container (store.vnodeBlock key) =
      ((store.podsOf key).map fun pod => (store.containersOf pod).length).sum := by
  obtain ⟨vnode, found, below⟩ := store.vnodeResolves_iff.mp resolves
  have other : ∀ below, (Entry.vnode vnode below).kind ≠ .container := fun _ => nofun
  rw [vnodeBlock, podsOf, found]
  exact countOf_plant_of_ne other fun key listed =>
    countOf_container_podBlock (below key listed)

/-! ### Nodes -/

/-- A service has no entries. -/
theorem countOf_service (entries : List Entry) : countOf .service entries = 0 := by
  refine List.countP_eq_zero.mpr fun entry _ => ?_
  cases entry <;> simp [Entry.kind, Entry.template, Template.kind]

/-- All copies of a node have as many entries of a kind as the multiplicities say. -/
theorem countOf_copies_eq_yield (resolves : store.nodeResolves node = true) (kind : Kind) :
    countOf kind (store.copies node) = store.yield node kind := by
  have below := store.nodeResolves_iff.mp resolves
  have own : ∀ below, (Entry.node node below).kind = .node := fun _ => rfl
  cases kind with
  | node | vnode => exact countOf_copies resolves rfl
  | pod =>
      have block : countOf .pod (store.nodeBlock node) =
          (node.vnodes.map fun vnode => (store.podsOf vnode).length).sum :=
        countOf_plant_of_ne (fun below => by simp [own]) fun key listed =>
          countOf_pod_vnodeBlock (below key listed)
      rw [copies, countOf_flatten, List.map_replicate, List.sum_replicate_nat, block, yield]
  | container =>
      have block : countOf .container (store.nodeBlock node) = (node.vnodes.map fun vnode =>
          ((store.podsOf vnode).map fun pod => (store.containersOf pod).length).sum).sum :=
        countOf_plant_of_ne (fun below => by simp [own]) fun key listed =>
          countOf_container_vnodeBlock (below key listed)
      rw [copies, countOf_flatten, List.map_replicate, List.sum_replicate_nat, block, yield]
  | service => exact countOf_service _

/-- The nodes without a missing reference are those that resolve. -/
theorem filter_missingBelow (store : Store) (nodes : List NodeTemplate) :
    nodes.filter (fun node => (store.missingBelow node).isEmpty) =
      nodes.filter store.nodeResolves :=
  List.filter_congr fun node _ => store.isEmpty_missingBelow node

theorem countOf_unfolding_eq_sum_yield (store : Store) (kind : Kind) :
    countOf kind store.unfolding =
      ((store.nodes.values.filter fun node => (store.missingBelow node).isEmpty).map fun node =>
        store.yield node kind).sum := by
  rw [countOf_unfolding_eq_sum, filter_missingBelow]
  congr 1
  refine List.map_congr_left fun node kept => ?_
  exact countOf_copies_eq_yield (List.mem_filter.mp kept).2 kind

end Store

/-! ### The topology -/

namespace Topology

theorem count_cons (it : Instance) (rest : List Instance) (kind : Kind) :
    (⟨it :: rest⟩ : Topology).count kind =
      (⟨rest⟩ : Topology).count kind + if it.kind = kind then 1 else 0 := by
  by_cases same : it.kind = kind <;> simp [count, ofKind, same]

/-- Every instance is of one of the four kinds that are expanded. -/
theorem size_eq_add (topology : Topology) :
    topology.count .container + topology.count .pod + topology.count .vnode +
      topology.count .node = topology.size := by
  obtain ⟨instances⟩ := topology
  induction instances with
  | nil => rfl
  | cons it rest ih =>
      have longer : (⟨it :: rest⟩ : Topology).size = (⟨rest⟩ : Topology).size + 1 := rfl
      rw [count_cons, count_cons, count_cons, count_cons, longer, ← ih]
      cases it <;> simp [Instance.kind] <;> omega

end Topology

section Expanded

variable {store : Store} {context : Context} {expansion : Expansion}

/-- The kinds of the instances are those of the entries. -/
theorem map_kind_instances (finished : (store.expand context).result = .ok expansion) :
    expansion.topology.instances.map Instance.kind = store.unfolding.map Entry.kind := by
  refine List.ext_getElem? fun place => ?_
  rw [List.getElem?_map, List.getElem?_map]
  cases entryAt : store.unfolding[place]? with
  | none =>
      have same := getElem?_instances finished place
      rw [entryAt, Option.map_none, Option.map_eq_none_iff] at same
      rw [same]
      rfl
  | some entry =>
      obtain ⟨it, itAt, own⟩ := instance_of_entry finished entryAt
      rw [itAt, Option.map_some, Option.map_some, own.kind_eq]

theorem count_eq_countOf (finished : (store.expand context).result = .ok expansion)
    (kind : Kind) : expansion.topology.count kind = countOf kind store.unfolding := by
  have kinds := congrArg (List.countP (· == kind)) (map_kind_instances finished)
  rw [List.countP_map, List.countP_map] at kinds
  rw [Topology.count, Topology.ofKind, ← List.countP_eq_length_filter]
  exact kinds

/-- Every instance has been issued one id. -/
theorem issued_expand (finished : (store.expand context).result = .ok expansion)
    (kind : Kind) :
    (store.expand context).context.issued kind =
      context.issued kind + expansion.topology.count kind := by
  obtain ⟨bares, emitted, -⟩ := expand_ok finished
  have stands := ((After.start context).run emitted).ids kind
  rw [List.nil_append] at stands
  rw [count_eq_countOf finished, Context.issued_eq_elim, Context.issued_eq_elim, stands]
  cases found : context.ids? kind with
  | some ids =>
      rw [countOf, ← length_keysOf]
      exact ids.issued_issueAll _
  | none =>
      cases kind with
      | container | pod | vnode | node => cases found
      | service =>
          rw [Store.countOf_service]
          rfl

/-- An expansion gives as many instances of each kind as the multiplicities of the templates
say, summed over the nodes without a missing reference, and no service. The four counts make
up the topology, and the allocators have issued one id for each instance. -/
theorem count_eq_sum_yield (finished : (store.expand context).result = .ok expansion) :
    (∀ kind, expansion.topology.count kind =
      ((store.nodes.values.filter fun node => (store.missingBelow node).isEmpty).map fun node =>
        store.yield node kind).sum) ∧
    expansion.topology.count .service = 0 ∧
    expansion.topology.count .container + expansion.topology.count .pod +
      expansion.topology.count .vnode + expansion.topology.count .node =
        expansion.topology.size ∧
    ∀ kind, (store.expand context).context.issued kind =
      context.issued kind + expansion.topology.count kind := by
  refine ⟨fun kind => ?_, ?_, expansion.topology.size_eq_add, issued_expand finished⟩
  · rw [count_eq_countOf finished, store.countOf_unfolding_eq_sum_yield]
  · rw [count_eq_countOf finished, Store.countOf_service]

end Expanded

theorem count_eq_sum_yield_twofold :
    let context := Context.fresh .shared ⟨10, 0, 0, 253⟩ ⟨10, 1, 0, 1⟩
    ∃ expansion, (Store.twofold.expand context).result = .ok expansion ∧
      Store.twofold.nodes.values.map (Store.twofold.yield · .container) = [4] ∧
      expansion.topology.count .container = 4 ∧
      (Store.twofold.expand context).context.issued .container = 4 := by
  intro context
  obtain ⟨expansion, finished⟩ : ∃ expansion, (Store.twofold.expand context).result =
      .ok expansion := Run.exists_of_isOk (by decide +kernel)
  obtain ⟨counts, -, -, issued⟩ := count_eq_sum_yield finished
  have four : expansion.topology.count .container = 4 := by
    rw [counts]
    decide +kernel
  exact ⟨expansion, finished, by decide +kernel, four, by rw [issued, four]; rfl⟩

end ClusterTopology
