import ClusterTopology.Expansion.Basic
import ClusterTopology.Proofs.Allocation.Agreement
import ClusterTopology.Proofs.Expansion.Emission

/-!
Growing a tree is emitting its block.

`assemble` gives instances that were emitted the children that their entries say, by
place. The four functions that grow trees nest in each other, yet each does to the
allocators what `emitAll` does for its block, and its instances are those that
`assemble` makes: `agree_growNode`, and for all copies of a node `agree_expandNode`.
-/

namespace ClusterTopology

open Allocating

/-! ### Assembling -/

/-- Give instances that were emitted their children. The first entry stands at `place`,
and `idAt` tells the id at a place. -/
def assemble (idAt : Nat → String) : (place : Nat) → List Entry → List Instance → List Instance
  | place, entry :: entries, bare :: bares =>
    bare.withChildren (entry.below.map fun back => idAt (place - back)) ::
      assemble idAt (place + 1) entries bares
  | _, _, _ => []

/-- `idAt` tells the ids of these instances, the first of which stands at `place`. -/
def Names (idAt : Nat → String) : (place : Nat) → List Instance → Prop
  | _, [] => True
  | place, bare :: bares => idAt place = bare.id ∧ Names idAt (place + 1) bares

theorem assemble_append {idAt : Nat → String} {place : Nat} {entries others : List Entry}
    {bares more : List Instance} (paired : bares.length = entries.length) :
    assemble idAt place (entries ++ others) (bares ++ more) =
      assemble idAt place entries bares ++
        assemble idAt (place + entries.length) others more := by
  induction entries generalizing place bares with
  | nil =>
      obtain rfl := List.length_eq_zero_iff.mp paired
      rfl
  | cons entry entries ih =>
      obtain ⟨bare, bares, rfl⟩ := List.exists_cons_of_length_eq_add_one paired
      have rest : assemble idAt (place + 1) (entries ++ others) (bares ++ more) = _ :=
        ih (Nat.succ.inj paired)
      simp only [List.cons_append, assemble, rest, List.length_cons]
      rw [Nat.add_assoc, Nat.add_comm 1]

theorem names_append {idAt : Nat → String} {place : Nat} {bares more : List Instance} :
    Names idAt place (bares ++ more) ↔
      Names idAt place bares ∧ Names idAt (place + bares.length) more := by
  induction bares generalizing place with
  | nil => simp [Names]
  | cons bare bares ih =>
      simp only [List.cons_append, Names, ih, List.length_cons, and_assoc]
      rw [Nat.add_assoc, Nat.add_comm 1]

/-- The last of the instances stands at the last place. -/
theorem Names.last {idAt : Nat → String} {place : Nat} {bares : List Instance}
    {bare : Instance} (names : Names idAt place bares) (last : bares.getLast? = some bare) :
    idAt (place + bares.length - 1) = bare.id := by
  obtain ⟨front, rfl⟩ := List.getLast?_eq_some_iff.mp last
  obtain ⟨-, named, -⟩ := names_append.mp names
  simpa using named

/-- The id at a place among these instances. -/
def idsOf (bares : List Instance) (place : Nat) : String := bares[place]?.elim "" Instance.id

/-- Every list of instances has its ids told. -/
theorem names_idsOf (bares : List Instance) : Names (idsOf bares) 0 bares := by
  suffices general : ∀ front back : List Instance, Names (idsOf (front ++ back)) front.length back
    from general [] bares
  intro front back
  induction back generalizing front with
  | nil => trivial
  | cons bare back ih =>
      refine ⟨by simp [idsOf], ?_⟩
      have rest := ih (front ++ [bare])
      simpa using rest

theorem getElem?_assemble {idAt : Nat → String} {place offset : Nat} {entries : List Entry}
    {bares : List Instance} :
    (assemble idAt place entries bares)[offset]? = do
      let entry ← entries[offset]?
      let bare ← bares[offset]?
      return bare.withChildren (entry.below.map fun back => idAt (place + offset - back)) := by
  induction entries generalizing place offset bares with
  | nil => simp [assemble]
  | cons entry entries ih =>
      cases bares with
      | nil => cases offset <;> simp [assemble]
      | cons bare bares =>
          cases offset with
          | zero => simp [assemble]
          | succ offset =>
              have rest : (assemble idAt (place + 1) entries bares)[offset]? = _ := ih
              rw [assemble, List.getElem?_cons_succ, rest]
              simp only [List.getElem?_cons_succ, Nat.add_assoc, Nat.add_comm 1]

/-- The children of an instance are not issued for it. -/
theorem flatMap_issues_assemble {idAt : Nat → String} {place : Nat} {entries : List Entry}
    {bares : List Instance} (paired : bares.length = entries.length) :
    (assemble idAt place entries bares).flatMap Instance.issues =
      bares.flatMap Instance.issues := by
  induction entries generalizing place bares with
  | nil =>
      obtain rfl := List.length_eq_zero_iff.mp paired
      rfl
  | cons entry entries ih =>
      obtain ⟨bare, bares, rfl⟩ := List.exists_cons_of_length_eq_add_one paired
      rw [assemble, List.flatMap_cons, List.flatMap_cons, Instance.issues_withChildren,
        ih (Nat.succ.inj paired)]

/-! ### What a block bears -/

/-- The entries, once emitted as `bares`, give these instances, wherever they stand. -/
structure Bears (entries : List Entry) (bares instances : List Instance) : Prop where
  paired : bares.length = entries.length
  assembled : ∀ idAt place, Names idAt place bares →
    assemble idAt place entries bares = instances

/-- A block and the tree that is grown from it. -/
structure BearsTree (block : List Entry) (bares : List Instance) (grown : Grown) : Prop where
  bears : Bears block bares grown.instances
  last : ∃ bare, bares.getLast? = some bare ∧ bare.id = grown.id

/-- Blocks laid end to end and the trees that are grown from them. -/
structure BearsForest (blocks : List (List Entry)) (bares : List Instance)
    (growns : List Grown) : Prop where
  bears : Bears blocks.flatten bares (growns.flatMap Grown.instances)
  ids : ∀ idAt place, Names idAt place bares →
    (behind blocks).map (fun back => idAt (place + blocks.flatten.length - back)) =
      growns.map Grown.id

theorem Bears.append {entries others : List Entry} {bares more instances rest : List Instance}
    (first : Bears entries bares instances) (second : Bears others more rest) :
    Bears (entries ++ others) (bares ++ more) (instances ++ rest) where
  paired := by rw [List.length_append, List.length_append, first.paired, second.paired]
  assembled := by
    intro idAt place names
    obtain ⟨here, there⟩ := names_append.mp names
    rw [first.paired] at there
    rw [assemble_append first.paired, first.assembled _ _ here, second.assembled _ _ there]

theorem BearsForest.nil : BearsForest [] [] [] where
  bears := ⟨rfl, fun _ _ _ => rfl⟩
  ids := fun _ _ _ => rfl

theorem BearsForest.cons {block : List Entry} {blocks : List (List Entry)}
    {bares more : List Instance} {grown : Grown} {growns : List Grown}
    (first : BearsTree block bares grown) (rest : BearsForest blocks more growns) :
    BearsForest (block :: blocks) (bares ++ more) (grown :: growns) where
  bears := first.bears.append rest.bears
  ids := by
    intro idAt place names
    obtain ⟨here, there⟩ := names_append.mp names
    obtain ⟨bare, last, same⟩ := first.last
    have named := here.last last
    have nonempty : bares.length ≠ 0 := fun none => by
      rw [List.length_eq_zero_iff.mp none] at last
      cases last
    have others := rest.ids idAt _ there
    rw [first.bears.paired] at named nonempty others
    simp only [behind, List.map_cons, List.flatten_cons, List.length_append]
    rw [← Nat.add_assoc, others, ← same, ← named]
    congr 2
    omega

/-- A tree is borne by the entry planted over the blocks of its branches. -/
theorem BearsForest.plant {entry : List Nat → Entry} {blocks : List (List Entry)}
    {bares : List Instance} {growns : List Grown} (forest : BearsForest blocks bares growns)
    (below : (entry (behind blocks)).below = behind blocks) (bare : Instance) :
    BearsTree (plant entry blocks) (bares ++ [bare])
      ⟨bare.id, growns.flatMap Grown.instances ++ [bare.withChildren (growns.map Grown.id)]⟩ where
  bears := {
    paired := by simp [ClusterTopology.plant, forest.bears.paired]
    assembled := by
      intro idAt place names
      obtain ⟨here, -⟩ := names_append.mp names
      rw [ClusterTopology.plant, assemble_append forest.bears.paired,
        forest.bears.assembled _ _ here]
      simp only [assemble, below, forest.ids _ _ here] }
  last := ⟨bare, List.getLast?_concat, rfl⟩

/-! ### Growing agrees with emitting -/

/-- Growing trees one after the other agrees with emitting their blocks end to end. -/
theorem agree_forest {grow : String → Allocating Grown} {block : String → List Entry}
    {keys : List String}
    (each : ∀ key ∈ keys, Agree (BearsTree (block key)) (emitAll (block key)) (grow key)) :
    Agree (BearsForest (keys.map block)) (emitAll (keys.map block).flatten) (keys.mapM grow) := by
  induction keys with
  | nil => exact .pure .nil
  | cons key keys ih =>
      rw [List.map_cons, List.flatten_cons, emitAll_append, List.mapM_cons]
      refine (each key List.mem_cons_self).bind fun bares grown first => ?_
      refine (ih fun other member => each other (List.mem_cons_of_mem _ member)).bind
        fun more growns rest => ?_
      exact .pure (.cons first rest)

/-- Growing what is below and then emitting the entry over it agrees with emitting the
planted block. -/
theorem agree_plant {entry : List Nat → Entry} {blocks : List (List Entry)}
    {growAll : Allocating (List Grown)} {finish : List Grown → Allocating Grown}
    (below : (entry (behind blocks)).below = behind blocks)
    (branches : Agree (BearsForest blocks) (emitAll blocks.flatten) growAll)
    (finishes : ∀ growns, finish growns = do
      let bare ← (entry (behind blocks)).emit
      return ⟨bare.id, growns.flatMap Grown.instances ++
        [bare.withChildren (growns.map Grown.id)]⟩) :
    Agree (BearsTree (plant entry blocks)) (emitAll (plant entry blocks))
      (growAll >>= finish) := by
  rw [plant, emitAll_append]
  refine branches.bind fun bares growns forest => ?_
  rw [finishes, emitAll, List.mapM_cons, List.mapM_nil]
  simp only [pure_bind, bind_assoc]
  refine (Agree.refl _).bind fun bare same sames => ?_
  subst sames
  exact .pure (forest.plant below bare)

section Levels

variable {store : Store}

theorem agree_growContainer {key : String} (parent : String)
    (resolves : store.containers.contains key = true) :
    Agree (BearsTree (store.containerBlock key)) (emitAll (store.containerBlock key))
      (store.growContainer parent key) := by
  obtain ⟨container, found⟩ := store.containerResolves_iff.mp resolves
  obtain rfl : container.key = key := store.containers.keyOf_of_find? found
  simp only [Store.containerBlock, Store.growContainer, found, Store.resolve, pure_bind, emitAll,
    List.mapM_cons, List.mapM_nil, Entry.emit, bind_assoc]
  refine (Agree.refl _).bind fun id same sames => ?_
  subst sames
  let entry : List Nat → Entry := fun _ => .container container
  exact .pure (BearsForest.nil.plant (show (entry _).below = _ from rfl) _)

theorem agree_growPod {key : String} (parent : String) (resolves : store.podResolves key = true) :
    Agree (BearsTree (store.podBlock key)) (emitAll (store.podBlock key))
      (store.growPod parent key) := by
  obtain ⟨pod, found, below⟩ := store.podResolves_iff.mp resolves
  obtain rfl : pod.key = key := store.pods.keyOf_of_find? found
  simp only [Store.podBlock, Store.growPod, found, Store.resolve, pure_bind]
  refine agree_plant rfl (agree_forest fun key member =>
    agree_growContainer pod.key (below key member)) fun growns => ?_
  simp [Entry.emit, Instance.withChildren, Instance.id]

theorem agree_growVNode {key : String} (parent : String)
    (resolves : store.vnodeResolves key = true) :
    Agree (BearsTree (store.vnodeBlock key)) (emitAll (store.vnodeBlock key))
      (store.growVNode parent key) := by
  obtain ⟨vnode, found, below⟩ := store.vnodeResolves_iff.mp resolves
  obtain rfl : vnode.key = key := store.vnodes.keyOf_of_find? found
  simp only [Store.vnodeBlock, Store.growVNode, found, Store.resolve, pure_bind]
  refine agree_plant rfl (agree_forest fun key member =>
    agree_growPod vnode.key (below key member)) fun growns => ?_
  simp [Entry.emit, Instance.withChildren, Instance.id]

theorem agree_growNode {node : NodeTemplate} (resolves : store.nodeResolves node = true) :
    Agree (BearsTree (store.nodeBlock node)) (emitAll (store.nodeBlock node))
      (store.growNode node) := by
  have below := store.nodeResolves_iff.mp resolves
  refine agree_plant rfl (agree_forest fun key member =>
    agree_growVNode node.key (below key member)) fun growns => ?_
  simp [Entry.emit, Instance.withChildren, Instance.id]

/-- What has been produced already stands before what a node is unfolded into. -/
theorem growNodes_eq (node : NodeTemplate) (times : Nat) (done : List Grown) :
    store.growNodes node times done =
      (done.reverse.flatMap Grown.instances ++ ·) <$> store.growNodes node times [] := by
  induction times generalizing done with
  | zero => simp [Store.growNodes]
  | succ times ih =>
      simp only [Store.growNodes, map_bind]
      refine bind_congr fun grown => ?_
      rw [ih (grown :: done), ih [grown]]
      simp

/-- Unfolding a node `times` times agrees with emitting that many copies of its block. -/
theorem agree_growNodes {node : NodeTemplate} (resolves : store.nodeResolves node = true)
    (times : Nat) :
    Agree (Bears (List.replicate times (store.nodeBlock node)).flatten)
      (emitAll (List.replicate times (store.nodeBlock node)).flatten)
      (store.growNodes node times []) := by
  induction times with
  | zero => exact .pure ⟨rfl, fun _ _ _ => rfl⟩
  | succ times ih =>
      rw [List.replicate_succ, List.flatten_cons, emitAll_append, Store.growNodes]
      refine (agree_growNode resolves).bind fun bares grown first => ?_
      rw [growNodes_eq, map_eq_pure_bind]
      refine ih.bind fun more instances rest => .pure ?_
      simpa using first.bears.append rest

/-- Expanding a node under which no reference dangles agrees with emitting its copies. -/
theorem agree_expandNode {node : NodeTemplate} (resolves : store.nodeResolves node = true) :
    Agree (Bears (store.copies node)) (emitAll (store.copies node)) (store.expandNode node) :=
  agree_growNodes resolves node.num.toNat

end Levels

end ClusterTopology
