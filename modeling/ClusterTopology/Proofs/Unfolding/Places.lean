import Mathlib.Data.List.Forall2
import Mathlib.Data.List.Nodup
import ClusterTopology.Proofs.Template.Shelf
import ClusterTopology.Proofs.Unfolding.Basic

/-!
Where the entries of an unfolding stand.

`Linked`: what an entry says of the entries below it holds. They stand before it, are
of the kind below its own, and their keys are those that its template lists. `links`
gathers all of this as pairs of places. In a tree every place but the last is linked
to exactly once (`Tree.covers`), and in a whole unfolding every place but those of
the nodes: `Store.existsUnique_link`.
-/

namespace ClusterTopology

/-! ### Links -/

/-- The entry so far back stands there, and is of this kind and key. -/
def StandsBack (entries : List Entry) (place : Nat) (kind? : Option Kind) (key : String)
    (back : Nat) : Prop :=
  0 < back ∧ back ≤ place ∧
    ∃ child, entries[place - back]? = some child ∧ kind? = some child.kind ∧ child.key = key

/-- Every entry tells where the entries below it stand, one for each reference of its
template, in order. -/
def Linked (entries : List Entry) : Prop :=
  ∀ place entry, entries[place]? = some entry →
    List.Forall₂ (StandsBack entries place entry.kind.below?) entry.template.references
      entry.below

/-- A slot among the children of the entry at a place, and the place of the child. -/
structure Link where
  parent : Nat
  slot : Nat
  child : Nat

/-- The links of an entry that stands at `place`. -/
def Entry.links (entry : Entry) (place : Nat) : List Link :=
  entry.below.mapIdx fun slot back => ⟨place, slot, place - back⟩

theorem Entry.map_child_links (entry : Entry) (place : Nat) :
    (entry.links place).map Link.child = entry.below.map (place - ·) := by
  refine List.ext_getElem? fun slot => ?_
  simp only [Entry.links, List.getElem?_map, List.getElem?_mapIdx, Option.map_map]
  rfl

/-- The links of entries, the first of which stands at `place`. -/
def links (place : Nat) (entries : List Entry) : List Link :=
  (entries.zipIdx place).flatMap fun placed => placed.1.links placed.2

theorem links_append {place : Nat} {entries others : List Entry} :
    links place (entries ++ others) =
      links place entries ++ links (place + entries.length) others := by
  rw [links, List.zipIdx_append, List.flatMap_append, links, links]

theorem mem_links_iff {entries : List Entry} {link : Link} :
    link ∈ links 0 entries ↔ ∃ entry back, entries[link.parent]? = some entry ∧
      entry.below[link.slot]? = some back ∧ link.child = link.parent - back := by
  simp only [links, List.mem_flatMap, Entry.links, List.mem_mapIdx]
  constructor
  · rintro ⟨⟨entry, place⟩, placed, slot, inside, rfl⟩
    exact ⟨entry, _, List.mk_mem_zipIdx_iff_getElem?.mp placed,
      List.getElem?_eq_getElem inside, rfl⟩
  · rintro ⟨entry, back, entryAt, backAt, childEq⟩
    obtain ⟨inside, rfl⟩ := List.getElem?_eq_some_iff.mp backAt
    refine ⟨(entry, link.parent), List.mk_mem_zipIdx_iff_getElem?.mpr entryAt, link.slot, inside,
      ?_⟩
    rw [← childEq]

/-- A link leads back to an entry of the kind below, whose key the template lists there. -/
theorem Linked.of_mem_links {entries : List Entry} {link : Link} (linked : Linked entries)
    (member : link ∈ links 0 entries) :
    ∃ above below, entries[link.parent]? = some above ∧ entries[link.child]? = some below ∧
      link.child < link.parent ∧ above.kind.below? = some below.kind ∧
      above.template.references[link.slot]? = some below.key := by
  obtain ⟨above, back, aboveAt, backAt, childEq⟩ := mem_links_iff.mp member
  obtain ⟨paired, each⟩ := List.forall₂_iff_get.mp (linked _ above aboveAt)
  obtain ⟨inside, rfl⟩ := List.getElem?_eq_some_iff.mp backAt
  have listed : link.slot < above.template.references.length := paired.symm ▸ inside
  have stands : StandsBack entries link.parent above.kind.below?
      above.template.references[link.slot] above.below[link.slot] := each _ listed inside
  obtain ⟨positive, within, below, belowAt, kindEq, keyEq⟩ := stands
  refine ⟨above, below, aboveAt, childEq ▸ belowAt, by omega, kindEq, ?_⟩
  rw [keyEq, List.getElem?_eq_getElem listed]

section Append

variable {entries others : List Entry} {place back : Nat} {kind? : Option Kind} {key : String}

theorem StandsBack.append (stands : StandsBack entries place kind? key back) :
    StandsBack (entries ++ others) place kind? key back := by
  obtain ⟨positive, within, child, childAt, same⟩ := stands
  refine ⟨positive, within, child, ?_, same⟩
  rwa [List.getElem?_append_left (List.getElem?_eq_some_iff.mp childAt).1]

theorem StandsBack.shift (entries : List Entry)
    (stands : StandsBack others place kind? key back) :
    StandsBack (entries ++ others) (entries.length + place) kind? key back := by
  obtain ⟨positive, within, child, childAt, same⟩ := stands
  refine ⟨positive, by omega, child, ?_, same⟩
  rw [List.getElem?_append_right (by omega)]
  have moved : entries.length + place - back - entries.length = place - back := by omega
  rwa [moved]

theorem Linked.append (first : Linked entries) (second : Linked others) :
    Linked (entries ++ others) := by
  intro place entry entryAt
  by_cases inside : place < entries.length
  · rw [List.getElem?_append_left inside] at entryAt
    exact (first place entry entryAt).imp fun _ _ => StandsBack.append
  · rw [List.getElem?_append_right (Nat.le_of_not_lt inside)] at entryAt
    have shifted := (second _ entry entryAt).imp fun _ _ => StandsBack.shift entries
    rwa [Nat.add_sub_cancel' (Nat.le_of_not_lt inside)] at shifted

end Append

/-! ### Trees and forests -/

/-- A block whose last entry is its root. -/
structure Tree (kind? : Option Kind) (key : String) (block : List Entry) : Prop where
  linked : Linked block
  root : ∃ front entry, block = front ++ [entry] ∧ kind? = some entry.kind ∧ entry.key = key
  covers : ∀ place, ((links place block).map Link.child ++ [place + block.length - 1]).Perm
    (List.range' place block.length)

/-- Blocks laid end to end whose roots are not linked to yet. -/
structure Forest (kind? : Option Kind) (keys : List String) (blocks : List (List Entry)) :
    Prop where
  linked : Linked blocks.flatten
  roots : List.Forall₂ (StandsBack blocks.flatten blocks.flatten.length kind?) keys
    (behind blocks)
  covers : ∀ place, ((links place blocks.flatten).map Link.child ++
    (behind blocks).map (place + blocks.flatten.length - ·)).Perm
      (List.range' place blocks.flatten.length)

namespace Forest

variable {kind? : Option Kind} {keys : List String} {blocks : List (List Entry)}

theorem nil : Forest kind? [] [] where
  linked := fun place entry entryAt => by simp at entryAt
  roots := .nil
  covers := fun _ => .refl _

theorem cons {key : String} {block : List Entry} (tree : Tree kind? key block)
    (forest : Forest kind? keys blocks) : Forest kind? (key :: keys) (block :: blocks) where
  linked := tree.linked.append forest.linked
  roots := by
    simp only [List.flatten_cons, behind, List.length_append]
    refine .cons ?_ (forest.roots.imp fun _ _ => StandsBack.shift block)
    obtain ⟨front, entry, rfl, kindEq, keyEq⟩ := tree.root
    rw [List.length_append, List.length_singleton]
    refine ⟨Nat.succ_pos _, by omega, entry, ?_, kindEq, keyEq⟩
    have last : front.length + 1 + blocks.flatten.length - (blocks.flatten.length + 1) =
        front.length := by omega
    rw [last]
    simp
  covers := by
    intro place
    have first := tree.covers place
    have rest := forest.covers (place + block.length)
    have last : place + block.length + blocks.flatten.length - (blocks.flatten.length + 1) =
        place + block.length - 1 := by omega
    simp only [List.flatten_cons, links_append, List.map_append, behind, List.map_cons,
      List.length_append, last, ← Nat.add_assoc, ← List.range'_append_1]
    -- The root of the first tree comes after the links of all the trees, not of its own.
    refine List.Perm.trans ?_ (first.append rest)
    simp only [List.append_assoc, List.singleton_append]
    exact List.perm_middle.append_left _

/-- The trees of keys laid end to end are a forest. -/
theorem of_keys {block : String → List Entry}
    (each : ∀ key ∈ keys, Tree kind? key (block key)) : Forest kind? keys (keys.map block) := by
  induction keys with
  | nil => exact .nil
  | cons key keys ih =>
      refine .cons (each key List.mem_cons_self) (ih fun other member => ?_)
      exact each other (List.mem_cons_of_mem _ member)

theorem exists_keys (each : ∀ block ∈ blocks, ∃ key, Tree kind? key block) :
    ∃ keys, Forest kind? keys blocks := by
  induction blocks with
  | nil => exact ⟨[], .nil⟩
  | cons block blocks ih =>
      obtain ⟨key, tree⟩ := each block List.mem_cons_self
      obtain ⟨keys, forest⟩ := ih fun other member => each other (List.mem_cons_of_mem _ member)
      exact ⟨key :: keys, .cons tree forest⟩

theorem stands_of_mem {back : Nat} (forest : Forest kind? keys blocks)
    (member : back ∈ behind blocks) :
    ∃ key, StandsBack blocks.flatten blocks.flatten.length kind? key back := by
  obtain ⟨slot, inside, rfl⟩ := List.mem_iff_getElem.mp member
  obtain ⟨paired, stands⟩ := List.forall₂_iff_get.mp forest.roots
  exact ⟨_, stands slot (paired ▸ inside) inside⟩

/-- An entry planted over a forest, with a link to each root, makes a tree of it. -/
theorem plant {entry : List Nat → Entry} (forest : Forest kind? keys blocks)
    (below : (entry (behind blocks)).below = behind blocks)
    (references : (entry (behind blocks)).template.references = keys)
    (kindEq : (entry (behind blocks)).kind.below? = kind?) :
    Tree (some (entry (behind blocks)).kind) (entry (behind blocks)).key
      (ClusterTopology.plant entry blocks) where
  linked := by
    intro place planted entryAt
    by_cases inside : place < blocks.flatten.length
    · rw [ClusterTopology.plant, List.getElem?_append_left inside] at entryAt
      exact (forest.linked place planted entryAt).imp fun _ _ => StandsBack.append
    · rw [ClusterTopology.plant, List.getElem?_append_right (Nat.le_of_not_lt inside),
        List.getElem?_singleton] at entryAt
      split at entryAt
      · rename_i atEnd
        obtain rfl := Option.some.inj entryAt
        obtain rfl : place = blocks.flatten.length := by omega
        rw [references, below, kindEq]
        exact forest.roots.imp fun _ _ => StandsBack.append
      · cases entryAt
  root := ⟨_, _, rfl, rfl, rfl⟩
  covers := by
    intro place
    have rest := forest.covers place
    have own := (entry (behind blocks)).map_child_links (place + blocks.flatten.length)
    rw [below] at own
    simp only [ClusterTopology.plant, links_append, List.map_append, List.length_append,
      List.length_singleton, ← List.range'_append_1]
    simp only [links, List.zipIdx_singleton, List.flatMap_singleton, own]
    exact rest.append (.refl _)

end Forest

namespace Store

variable {store : Store}

/-! ### The trees of a store -/

theorem tree_containerBlock {key : String} (resolves : store.containers.contains key = true) :
    Tree (some .container) key (store.containerBlock key) := by
  obtain ⟨container, found⟩ := store.containerResolves_iff.mp resolves
  obtain rfl : container.key = key := store.containers.keyOf_of_find? found
  rw [containerBlock, found]
  let entry : List Nat → Entry := fun _ => .container container
  exact Forest.nil.plant (show (entry _).below = _ from rfl) rfl rfl

theorem tree_podBlock {key : String} (resolves : store.podResolves key = true) :
    Tree (some .pod) key (store.podBlock key) := by
  obtain ⟨pod, found, below⟩ := store.podResolves_iff.mp resolves
  obtain rfl : pod.key = key := store.pods.keyOf_of_find? found
  have forest := Forest.of_keys fun key member => tree_containerBlock (below key member)
  rw [podBlock, found]
  exact forest.plant (show (Entry.pod pod _).below = _ from rfl) rfl rfl

theorem tree_vnodeBlock {key : String} (resolves : store.vnodeResolves key = true) :
    Tree (some .vnode) key (store.vnodeBlock key) := by
  obtain ⟨vnode, found, below⟩ := store.vnodeResolves_iff.mp resolves
  obtain rfl : vnode.key = key := store.vnodes.keyOf_of_find? found
  have forest := Forest.of_keys fun key member => tree_podBlock (below key member)
  rw [vnodeBlock, found]
  exact forest.plant (show (Entry.vnode vnode _).below = _ from rfl) rfl rfl

theorem tree_nodeBlock {node : NodeTemplate} (resolves : store.nodeResolves node = true) :
    Tree (some .node) node.key (store.nodeBlock node) := by
  have below := store.nodeResolves_iff.mp resolves
  have forest := Forest.of_keys fun key member => tree_vnodeBlock (below key member)
  exact forest.plant (show (Entry.node node _).below = _ from rfl) rfl rfl

/-! ### The forest of a store -/

/-- The blocks of all copies of these nodes. -/
def nodeBlocks (store : Store) (nodes : List NodeTemplate) : List (List Entry) :=
  nodes.flatMap fun node => List.replicate node.num.toNat (store.nodeBlock node)

theorem flatten_nodeBlocks (nodes : List NodeTemplate) :
    (store.nodeBlocks (nodes.filter store.nodeResolves)).flatten = store.unfoldNodes nodes := by
  rw [nodeBlocks, unfoldNodes, List.flatMap_def, List.flatten_flatten, List.map_map,
    List.flatMap_def]
  rfl

/-- The unfolding of a store is a forest of nodes. -/
theorem forest_unfolding (store : Store) : ∃ keys blocks,
    Forest (some .node) keys blocks ∧ blocks.flatten = store.unfolding := by
  have each : ∀ block ∈ store.nodeBlocks (store.nodes.values.filter store.nodeResolves),
      ∃ key, Tree (some .node) key block := by
    intro block member
    obtain ⟨node, kept, copy⟩ := List.mem_flatMap.mp member
    obtain ⟨-, rfl⟩ := List.mem_replicate.mp copy
    exact ⟨node.key, tree_nodeBlock (List.mem_filter.mp kept).2⟩
  obtain ⟨keys, forest⟩ := Forest.exists_keys each
  exact ⟨keys, _, forest, flatten_nodeBlocks _⟩

theorem linked_unfolding (store : Store) : Linked store.unfolding := by
  obtain ⟨keys, blocks, forest, flat⟩ := store.forest_unfolding
  exact flat ▸ forest.linked

/-- Every entry but those of the nodes is linked to, and from one slot only. -/
theorem existsUnique_link {place : Nat} {entry : Entry}
    (entryAt : store.unfolding[place]? = some entry) (below : entry.kind ≠ .node) :
    ∃! link, link ∈ links 0 store.unfolding ∧ link.child = place := by
  obtain ⟨keys, blocks, forest, flat⟩ := store.forest_unfolding
  have covers := forest.covers 0
  rw [flat, Nat.zero_add] at covers
  have listed := covers.mem_iff.mpr (List.mem_range'_1.mpr
    ⟨Nat.zero_le place, by simpa using (List.getElem?_eq_some_iff.mp entryAt).1⟩)
  -- Links and roots together are all places, each once, and the roots are the nodes.
  rcases List.mem_append.mp listed with linked | root
  · obtain ⟨link, member, childEq⟩ := List.mem_map.mp linked
    refine ⟨link, ⟨member, childEq⟩, fun other ⟨otherMember, otherEq⟩ => ?_⟩
    have distinct := (List.nodup_append.mp (covers.nodup_iff.mpr List.nodup_range')).1
    exact List.inj_on_of_nodup_map distinct otherMember member (otherEq.trans childEq.symm)
  · obtain ⟨back, member, rfl⟩ := List.mem_map.mp root
    obtain ⟨key, -, -, child, childAt, kindEq, -⟩ := forest.stands_of_mem member
    rw [flat, entryAt] at childAt
    obtain rfl := Option.some.inj childAt
    exact absurd (Option.some.inj kindEq).symm below

/-! ### Where the templates come from -/

/-- The templates of these entries are those that the store has under their keys. -/
def Holds (store : Store) (entries : List Entry) : Prop :=
  ∀ entry ∈ entries, store.find? entry.kind entry.key = some entry.template

theorem Holds.plant {entry : List Nat → Entry} {keys : List String}
    {block : String → List Entry} (each : ∀ key, store.Holds (block key))
    (own : ∀ below, store.find? (entry below).kind (entry below).key =
      some (entry below).template) :
    store.Holds (ClusterTopology.plant entry (keys.map block)) := by
  intro other member
  rcases List.mem_append.mp member with inside | last
  · obtain ⟨_, listed, inside⟩ := List.mem_flatten.mp inside
    obtain ⟨key, -, rfl⟩ := List.mem_map.mp listed
    exact each key other inside
  · obtain rfl := List.mem_singleton.mp last
    exact own _

theorem holds_containerBlock (key : String) : store.Holds (store.containerBlock key) := by
  intro entry member
  unfold containerBlock at member
  split at member
  · rename_i container found
    obtain rfl := List.mem_singleton.mp member
    obtain rfl : container.key = key := store.containers.keyOf_of_find? found
    exact congrArg (Option.map Template.container) found
  · cases member

theorem holds_podBlock (key : String) : store.Holds (store.podBlock key) := by
  unfold podBlock
  split
  · rename_i pod found
    obtain rfl : pod.key = key := store.pods.keyOf_of_find? found
    exact .plant holds_containerBlock fun _ => congrArg (Option.map Template.pod) found
  · intro entry member
    cases member

theorem holds_vnodeBlock (key : String) : store.Holds (store.vnodeBlock key) := by
  unfold vnodeBlock
  split
  · rename_i vnode found
    obtain rfl : vnode.key = key := store.vnodes.keyOf_of_find? found
    exact .plant holds_podBlock fun _ => congrArg (Option.map Template.vnode) found
  · intro entry member
    cases member

theorem holds_nodeBlock {node : NodeTemplate} (stored : node ∈ store.nodes.values) :
    store.Holds (store.nodeBlock node) := by
  have found := Shelf.mem_values_iff.mp stored
  exact .plant holds_vnodeBlock fun _ => congrArg (Option.map Template.node) found

theorem holds_unfolding (store : Store) : store.Holds store.unfolding := by
  intro entry member
  obtain ⟨node, kept, copied⟩ := List.mem_flatMap.mp member
  obtain ⟨_, copy, inside⟩ := List.mem_flatten.mp copied
  obtain ⟨-, rfl⟩ := List.mem_replicate.mp copy
  exact holds_nodeBlock (List.mem_filter.mp kept).1 entry inside

end Store

end ClusterTopology
