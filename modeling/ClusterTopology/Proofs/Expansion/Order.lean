import ClusterTopology.TopologyFile
import ClusterTopology.Proofs.Expansion.Run
import ClusterTopology.Proofs.TemplateFile.Accepted

/-!
What the order of definitions matters for.

An expansion reads a store only by looking keys up and by going through the nodes in order
(`Store.Alike`, `expand_of_alike`), and a store that was loaded remembers of the order of
its templates only which of one kind and key came last and in which order the keys first
came. Hence two texts that define each key alike and name their nodes in the same order
expand to the same file, however else their lines are arranged: `expand_load_congr`.
-/

namespace ClusterTopology

namespace Store

/-- Two stores that an expansion cannot tell apart, their services left aside. -/
structure Alike (store other : Store) : Prop where
  containers : store.containers.find? = other.containers.find?
  pods : store.pods.find? = other.pods.find?
  vnodes : store.vnodes.find? = other.vnodes.find?
  nodes : store.nodes.values = other.nodes.values

namespace Alike

variable {store other : Store}

/-! ### The unfolding -/

theorem podBlock (same : store.Alike other) : store.podBlock = other.podBlock := by
  have containers : store.containerBlock = other.containerBlock := by
    funext key
    simp only [containerBlock, same.containers]
  funext key
  simp only [Store.podBlock, same.pods, containers]

theorem nodeBlock (same : store.Alike other) : store.nodeBlock = other.nodeBlock := by
  have vnodes : store.vnodeBlock = other.vnodeBlock := by
    funext key
    simp only [vnodeBlock, same.vnodes, same.podBlock]
  funext node
  simp only [Store.nodeBlock, vnodes]

theorem nodeResolves (same : store.Alike other) : store.nodeResolves = other.nodeResolves := by
  have pods : store.podResolves = other.podResolves := by
    funext key
    simp only [podResolves, Register.contains, same.pods, same.containers]
  have vnodes : store.vnodeResolves = other.vnodeResolves := by
    funext key
    simp only [vnodeResolves, same.vnodes, pods]
  funext node
  simp only [Store.nodeResolves, vnodes]

theorem unfolding (same : store.Alike other) : store.unfolding = other.unfolding := by
  have copies : store.copies = other.copies := by
    funext node
    simp only [Store.copies, same.nodeBlock]
  rw [Store.unfolding, Store.unfolding, unfoldNodes, unfoldNodes, same.nodes,
    same.nodeResolves, copies]

/-! ### The nodes skipped -/

theorem missingBelow (same : store.Alike other) : store.missingBelow = other.missingBelow := by
  have pods : Missing.belowPod store = Missing.belowPod other := by
    funext walk pod
    simp only [Missing.belowPod, same.containers]
  have vnodes : Missing.belowVNode store = Missing.belowVNode other := by
    funext walk vnode
    simp only [Missing.belowVNode, same.pods, pods]
  funext node
  simp only [Store.missingBelow, Missing.belowNode, same.vnodes, vnodes]

theorem skipped (same : store.Alike other) :
    store.skipped store.nodes.values = other.skipped other.nodes.values := by
  simp only [Store.skipped, same.nodes, same.nodeResolves, same.missingBelow]

end Alike

end Store

/-- What an expansion gives but for the services that it left alone. -/
def Expansion.produced (expansion : Expansion) : Topology × List Skipped :=
  (expansion.topology, expansion.skipped)

/-- Stores that are alike give the same topology and skip the same nodes, or fail alike, and
leave the same allocators behind. -/
theorem expand_of_alike {store other : Store} (same : store.Alike other) (context : Context) :
    (store.expand context).result.map Expansion.produced =
        (other.expand context).result.map Expansion.produced ∧
      (store.expand context).context = (other.expand context).context := by
  have ended := expand_ended store context
  have endedAgain := expand_ended other context
  rw [← same.unfolding] at endedAgain
  cases emitted : emitAll store.unfolding context with
  | ok bares after =>
      rw [emitted] at ended endedAgain
      obtain ⟨result, left⟩ := Run.ended_eq_ok_iff.mp ended
      obtain ⟨resultAgain, leftAgain⟩ := Run.ended_eq_ok_iff.mp endedAgain
      have produced : (store.assembled bares).produced = (other.assembled bares).produced := by
        rw [Expansion.produced, Expansion.produced, Store.assembled, Store.assembled,
          same.unfolding, same.skipped]
      rw [result, resultAgain, left, leftAgain, Except.map, Except.map, produced]
      exact ⟨rfl, rfl⟩
  | error error after =>
      rw [emitted] at ended endedAgain
      obtain ⟨result, left⟩ := Run.ended_eq_error_iff.mp ended
      obtain ⟨resultAgain, leftAgain⟩ := Run.ended_eq_error_iff.mp endedAgain
      rw [result, resultAgain, left, leftAgain]
      exact ⟨rfl, rfl⟩

/-! ### Texts -/

namespace Store

/-- The look-ups of a kind tell those of its shelf. -/
theorem find?_shelf_congr {α : Type} {keyOf : α → String} {shelf other : Shelf α keyOf}
    {wrap : α → Template} (injective : Function.Injective wrap)
    (same : ∀ key, (shelf.find? key).map wrap = (other.find? key).map wrap) :
    shelf.find? = other.find? := by
  funext key
  exact Option.map_injective injective (same key)

/-- Templates that agree under each kind and key, and whose nodes first come in the same
order, make stores that are alike. -/
theorem alike_insertAll {templates others : List Template}
    (sameDefinitions : ∀ kind key, kind ≠ .service →
      templates.filter (Template.isUnder kind key) = others.filter (Template.isUnder kind key))
    (sameOrder : firstKeys .node templates = firstKeys .node others) :
    (empty.insertAll templates).Alike (empty.insertAll others) := by
  have found : ∀ kind key, kind ≠ .service →
      (empty.insertAll templates).find? kind key = (empty.insertAll others).find? kind key := by
    intro kind key expanded
    rw [find?_insertAll, find?_insertAll, sameDefinitions kind key expanded]
  have nodes : (empty.insertAll templates).nodes.find? = (empty.insertAll others).nodes.find? :=
    find?_shelf_congr (fun _ _ => Template.node.inj) fun key => found .node key nofun
  have keys : (empty.insertAll templates).nodes.order = (empty.insertAll others).nodes.order := by
    have ordered := keys_insertAll templates .node
    rw [sameOrder, ← keys_insertAll] at ordered
    exact ordered
  constructor
  · exact find?_shelf_congr (fun _ _ => Template.container.inj) fun key =>
      found .container key nofun
  · exact find?_shelf_congr (fun _ _ => Template.pod.inj) fun key => found .pod key nofun
  · exact find?_shelf_congr (fun _ _ => Template.vnode.inj) fun key => found .vnode key nofun
  · rw [Register.values, Register.values, keys, nodes]

end Store

/-- Two texts whose accepted templates are the same in the same order under each kind and
key, services left aside, and whose nodes first come in the same order, expand alike from
any state of the allocators: to the same topology with the same nodes skipped, or to the
same failure, with the same state after it and the same file in either layout. So it does
not matter where a key is defined, and comments, rejected lines and services change
nothing. -/
theorem expand_load_congr {text other : String}
    (sameDefinitions : ∀ kind key, kind ≠ .service →
      (TemplateFile.accepted text).filter (Template.isUnder kind key) =
        (TemplateFile.accepted other).filter (Template.isUnder kind key))
    (sameOrder : firstKeys .node (TemplateFile.accepted text) =
      firstKeys .node (TemplateFile.accepted other)) (context : Context) :
    let run := (TemplateFile.load .empty text).store.expand context
    let again := (TemplateFile.load .empty other).store.expand context
    run.result.map Expansion.produced = again.result.map Expansion.produced ∧
      run.context = again.context ∧
      ∀ layout, run.result.map (fun expansion => expansion.topology.render layout) =
        again.result.map fun expansion => expansion.topology.render layout := by
  intro run again
  have same := Store.alike_insertAll sameDefinitions sameOrder
  rw [← TemplateFile.store_load, ← TemplateFile.store_load] at same
  obtain ⟨produced, left⟩ := expand_of_alike same context
  refine ⟨produced, left, fun layout => ?_⟩
  have through : ∀ result : Except Error Expansion,
      (result.map Expansion.produced).map (fun produced => produced.1.render layout) =
        result.map fun expansion => expansion.topology.render layout := by
    intro result
    cases result <;> rfl
  rw [← through, ← through, produced]

/-- A node that stands before the vnode it lists. -/
def forwardText : String :=
  "node, \x7b\"kind\": \"node\", \"key\": \"n\", \"cpu\": 1, \"mem\": 1, \"vnodes\": [\"v\"], " ++
    "\"num\": 1\x7d\n" ++
  "vnode, \x7b\"kind\": \"vnode\", \"key\": \"v\", \"cpu\": 1, \"mem\": 1, \"pods\": []\x7d\n"

/-- The same two the other way round, among a comment, a service and a broken line. -/
def backwardText : String :=
  "# the vnode first\n" ++
  "vnode, \x7b\"kind\": \"vnode\", \"key\": \"v\", \"cpu\": 1, \"mem\": 1, \"pods\": []\x7d\n" ++
  "service, \x7b\"kind\": \"service\", \"key\": \"s\"\x7d\n" ++
  "broken\n" ++
  "node, \x7b\"kind\": \"node\", \"key\": \"n\", \"cpu\": 1, \"mem\": 1, \"vnodes\": [\"v\"], " ++
    "\"num\": 1\x7d\n"

theorem expand_load_congr_rearranged :
    let one := Number.integer 1
    let vnode := Template.vnode ⟨"v", one, one, []⟩
    let node := Template.node ⟨"n", one, one, ["v"], 1⟩
    let context := Context.fresh .shared ⟨10, 1, 1, 1⟩ ⟨200, 1, 1, 1⟩
    let run := (TemplateFile.load .empty forwardText).store.expand context
    let again := (TemplateFile.load .empty backwardText).store.expand context
    TemplateFile.accepted forwardText = [node, vnode] ∧
      TemplateFile.accepted backwardText = [vnode, .service ⟨"s", []⟩, node] ∧
      run.result.isOk = true ∧
      run.result.map Expansion.produced = again.result.map Expansion.produced ∧
      run.context = again.context := by
  intro one vnode node context run again
  have forward : TemplateFile.accepted forwardText = [node, vnode] := by decide +kernel
  have backward : TemplateFile.accepted backwardText = [vnode, .service ⟨"s", []⟩, node] := by
    decide +kernel
  have sameDefinitions : ∀ kind key, kind ≠ .service →
      (TemplateFile.accepted forwardText).filter (Template.isUnder kind key) =
        (TemplateFile.accepted backwardText).filter (Template.isUnder kind key) := by
    intro kind key expanded
    rw [forward, backward]
    cases kind with
    | service => exact absurd rfl expanded
    | container | pod | vnode | node => rfl
  have sameOrder : firstKeys .node (TemplateFile.accepted forwardText) =
      firstKeys .node (TemplateFile.accepted backwardText) := by
    rw [forward, backward]
    rfl
  obtain ⟨produced, left, -⟩ := expand_load_congr sameDefinitions sameOrder context
  exact ⟨forward, backward, by decide +kernel, produced, left⟩

end ClusterTopology
