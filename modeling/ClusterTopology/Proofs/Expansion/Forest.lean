import ClusterTopology.Proofs.Expansion.Numbering
import ClusterTopology.Proofs.Unfolding.Places

/-!
A topology is a forest.

An instance refers to another when it lists its id and the other is of the kind below
its own. The references of the instances of an expansion are the links of the unfolding
(`refers_iff_mem_links`): an id tells the instance among those of its kind, because no
id of a kind is issued twice. `isForest_of_expand` is what follows.
-/

namespace ClusterTopology

/-! ### Forests of instances -/

/-- The instance bears a number of the template's key, and the store has this template
under that key. -/
structure Instance.MadeFrom (store : Store) (it : Instance) (template : Template) : Prop where
  found : store.find? it.kind template.key = some template
  named : ∃ number, it.id = IdAllocator.idOf template.key number

/-- An instance tells the template from which it was made. -/
theorem Instance.MadeFrom.unique {store : Store} {it : Instance} {template other : Template}
    (made : it.MadeFrom store template) (again : it.MadeFrom store other) : template = other := by
  obtain ⟨number, named⟩ := made.named
  obtain ⟨_, renamed⟩ := again.named
  obtain ⟨same, -⟩ := IdAllocator.idOf_injective (named.symm.trans renamed)
  exact Option.some.inj (made.found.symm.trans (same ▸ again.found))

namespace Topology

/-- The slot of the parent holds the id of the child, which is of the kind below the
parent's. -/
def Refers (topology : Topology) (link : Link) : Prop :=
  ∃ above below, topology.instances[link.parent]? = some above ∧
    topology.instances[link.child]? = some below ∧
    above.kind.below? = some below.kind ∧ above.children[link.slot]? = some below.id

/-- The instances are trees over the node instances, as their templates say. -/
structure IsForest (store : Store) (topology : Topology) : Prop where
  made : ∀ it ∈ topology.instances, ∃ template, it.MadeFrom store template
  /-- An instance lists as many children as its template lists keys. -/
  paired : ∀ it ∈ topology.instances, ∀ template, it.MadeFrom store template →
    it.children.length = template.references.length
  /-- Every id listed is that of exactly one instance of the kind below. -/
  resolves : ∀ parent it slot, topology.instances[parent]? = some it →
    slot < it.children.length → ∃! child, topology.Refers ⟨parent, slot, child⟩
  earlier : ∀ link, topology.Refers link → link.child < link.parent
  /-- A child was made from the key that stands at the same slot of its parent's
  template. -/
  keyed : ∀ link above below template reference, topology.Refers link →
    topology.instances[link.parent]? = some above → above.MadeFrom store template →
    topology.instances[link.child]? = some below → below.MadeFrom store reference →
    template.references[link.slot]? = some reference.key
  /-- Every other instance has one parent, which lists it once. -/
  parented : ∀ place it, topology.instances[place]? = some it → it.kind ≠ .node →
    ∃! link, topology.Refers link ∧ link.child = place
  rooted : ∀ link it, topology.Refers link → topology.instances[link.child]? = some it →
    it.kind ≠ .node

end Topology

/-! ### Instances and entries -/

/-- What an instance has from the entry at its place. -/
structure Instance.IsOf (context : Context) (entries : List Entry) (place : Nat) (entry : Entry)
    (it : Instance) : Prop where
  kind_eq : it.kind = entry.kind
  id_eq : it.id = context.idAt entries place
  children_eq : it.children = entry.below.map fun back => context.idAt entries (place - back)

theorem Instance.isOf_of_instanceAt? {context : Context} {entries : List Entry} {place : Nat}
    {entry : Entry} {it : Instance}
    (given : context.instanceAt? entries place entry = some it) :
    it.IsOf context entries place entry := by
  cases entry with
  | container template | pod template below =>
      obtain rfl := Option.some.inj given
      exact ⟨rfl, rfl, rfl⟩
  | vnode template below | node template below =>
      obtain ⟨address, -, rfl⟩ := Option.map_eq_some_iff.mp given
      exact ⟨rfl, rfl, rfl⟩

section Finished

variable {store : Store} {context : Context} {expansion : Expansion}

theorem entry_of_instance (finished : (store.expand context).result = .ok expansion)
    {place : Nat} {it : Instance} (itAt : expansion.topology.instances[place]? = some it) :
    ∃ entry, store.unfolding[place]? = some entry ∧
      it.IsOf context store.unfolding place entry := by
  have same := getElem?_instances finished place
  rw [itAt, Option.map_some, eq_comm, Option.map_eq_some_iff] at same
  obtain ⟨entry, entryAt, given⟩ := same
  exact ⟨entry, entryAt, Instance.isOf_of_instanceAt? given⟩

theorem instance_of_entry (finished : (store.expand context).result = .ok expansion)
    {place : Nat} {entry : Entry} (entryAt : store.unfolding[place]? = some entry) :
    ∃ it, expansion.topology.instances[place]? = some it ∧
      it.IsOf context store.unfolding place entry := by
  have same := getElem?_instances finished place
  rw [entryAt, Option.map_some, Option.map_eq_some_iff] at same
  obtain ⟨it, itAt, given⟩ := same
  exact ⟨it, itAt, Instance.isOf_of_instanceAt? given.symm⟩

/-- An id tells the instance among those of its kind. -/
theorem place_eq_of_id_eq (finished : (store.expand context).result = .ok expansion)
    {place other : Nat} {it twin : Instance}
    (itAt : expansion.topology.instances[place]? = some it)
    (twinAt : expansion.topology.instances[other]? = some twin)
    (kindEq : it.kind = twin.kind) (idEq : it.id = twin.id) : place = other := by
  have distinct := (expand_ok_issues finished).nodup.sublist (sublist_flatMap_issues _)
  have inside := (List.getElem?_eq_some_iff.mp itAt).1
  refine (List.getElem?_inj (by simpa using inside) distinct).mp ?_
  rw [List.getElem?_map, List.getElem?_map, itAt, twinAt, Option.map_some, Option.map_some,
    kindEq, idEq]

/-- The references of the instances are the links of the entries. -/
theorem refers_iff_mem_links (finished : (store.expand context).result = .ok expansion)
    {link : Link} : expansion.topology.Refers link ↔ link ∈ links 0 store.unfolding := by
  constructor
  · rintro ⟨above, below, aboveAt, belowAt, kindEq, listed⟩
    obtain ⟨entry, entryAt, own⟩ := entry_of_instance finished aboveAt
    rw [own.children_eq, List.getElem?_map, Option.map_eq_some_iff] at listed
    obtain ⟨back, backAt, idEq⟩ := listed
    have member : ⟨link.parent, link.slot, link.parent - back⟩ ∈ links 0 store.unfolding :=
      mem_links_iff.mpr ⟨entry, back, entryAt, backAt, rfl⟩
    obtain ⟨_, child, sameAt, childAt, -, childKind, -⟩ :=
      store.linked_unfolding.of_mem_links member
    obtain rfl := Option.some.inj (entryAt.symm.trans sameAt)
    obtain ⟨it, itAt, its⟩ := instance_of_entry finished childAt
    -- The instance referred to and the one that the link leads to share kind and id.
    have sameKind : below.kind = it.kind := by
      rw [own.kind_eq, childKind] at kindEq
      rw [its.kind_eq, Option.some.inj kindEq]
    have childEq : link.child = link.parent - back :=
      place_eq_of_id_eq finished belowAt itAt sameKind (idEq.symm.trans its.id_eq.symm)
    rwa [← childEq] at member
  · intro member
    obtain ⟨above, below, aboveAt, belowAt, -, kindEq, -⟩ :=
      store.linked_unfolding.of_mem_links member
    obtain ⟨_, back, sameAt, backAt, childEq⟩ := mem_links_iff.mp member
    obtain rfl := Option.some.inj (aboveAt.symm.trans sameAt)
    obtain ⟨it, itAt, its⟩ := instance_of_entry finished aboveAt
    obtain ⟨child, childAt, childs⟩ := instance_of_entry finished belowAt
    refine ⟨it, child, itAt, childAt, ?_, ?_⟩
    · rw [its.kind_eq, childs.kind_eq, kindEq]
    · rw [its.children_eq, List.getElem?_map, backAt, Option.map_some, childs.id_eq, childEq]

/-- An instance was made from the template of its entry. -/
theorem madeFrom_of_isOf {place : Nat} {entry : Entry} {it : Instance}
    (entryAt : store.unfolding[place]? = some entry)
    (own : it.IsOf context store.unfolding place entry) : it.MadeFrom store entry.template where
  found := own.kind_eq ▸ store.holds_unfolding entry (List.mem_of_getElem? entryAt)
  named := by
    refine ⟨context.numberAfter (store.unfolding.take place) entry, ?_⟩
    rw [own.id_eq, Context.idAt, entryAt]
    rfl

/-- What an entry has directly below it is an entry of the kind below its own. -/
theorem entry_below_of_mem {place back : Nat} {entry : Entry}
    (entryAt : store.unfolding[place]? = some entry) (listed : back ∈ entry.below) :
    ∃ below, store.unfolding[place - back]? = some below ∧
      entry.kind.below? = some below.kind := by
  obtain ⟨slot, backAt⟩ := List.mem_iff_getElem?.mp listed
  have member : ⟨place, slot, place - back⟩ ∈ links 0 store.unfolding :=
    mem_links_iff.mpr ⟨entry, back, entryAt, backAt, rfl⟩
  obtain ⟨_, below, sameAt, belowAt, -, kindEq, -⟩ := store.linked_unfolding.of_mem_links member
  obtain rfl := Option.some.inj (entryAt.symm.trans sameAt)
  exact ⟨below, belowAt, kindEq⟩

/-- The id of an instance and those of its children are ids of keys that are unfolded. -/
theorem exists_idOf_eq (finished : (store.expand context).result = .ok expansion)
    {it : Instance} (member : it ∈ expansion.topology.instances) {id : String}
    (held : id ∈ it.id :: it.children) :
    ∃ entry ∈ store.unfolding, ∃ number, id = IdAllocator.idOf entry.key number := by
  obtain ⟨place, itAt⟩ := List.mem_iff_getElem?.mp member
  obtain ⟨entry, entryAt, own⟩ := entry_of_instance finished itAt
  have named : ∀ {place entry}, store.unfolding[place]? = some entry →
      ∃ number, context.idAt store.unfolding place = IdAllocator.idOf entry.key number := by
    intro place entry entryAt
    refine ⟨context.numberAfter (store.unfolding.take place) entry, ?_⟩
    rw [Context.idAt, entryAt]
    rfl
  rcases List.mem_cons.mp held with rfl | listed
  · rw [own.id_eq]
    exact ⟨entry, List.mem_of_getElem? entryAt, named entryAt⟩
  · rw [own.children_eq] at listed
    obtain ⟨back, backIn, rfl⟩ := List.mem_map.mp listed
    obtain ⟨below, belowAt, -⟩ := entry_below_of_mem entryAt backIn
    exact ⟨below, List.mem_of_getElem? belowAt, named belowAt⟩

/-- Every expansion that comes to its end gives a forest. -/
theorem isForest_of_expand (finished : (store.expand context).result = .ok expansion) :
    expansion.topology.IsForest store where
  made := by
    intro it member
    obtain ⟨place, itAt⟩ := List.mem_iff_getElem?.mp member
    obtain ⟨entry, entryAt, own⟩ := entry_of_instance finished itAt
    exact ⟨entry.template, madeFrom_of_isOf entryAt own⟩
  paired := by
    intro it member template made
    obtain ⟨place, itAt⟩ := List.mem_iff_getElem?.mp member
    obtain ⟨entry, entryAt, own⟩ := entry_of_instance finished itAt
    obtain rfl := (madeFrom_of_isOf entryAt own).unique made
    rw [own.children_eq, List.length_map]
    exact (store.linked_unfolding place entry entryAt).length_eq.symm
  resolves := by
    intro parent it slot itAt listed
    obtain ⟨entry, entryAt, own⟩ := entry_of_instance finished itAt
    rw [own.children_eq, List.length_map] at listed
    have backAt := List.getElem?_eq_getElem listed
    refine ⟨parent - entry.below[slot], ?_, ?_⟩
    · exact (refers_iff_mem_links finished).mpr (mem_links_iff.mpr ⟨_, _, entryAt, backAt, rfl⟩)
    · intro child refers
      obtain ⟨_, back, sameAt, againAt, childEq⟩ :=
        mem_links_iff.mp ((refers_iff_mem_links finished).mp refers)
      obtain rfl := Option.some.inj (entryAt.symm.trans sameAt)
      obtain rfl := Option.some.inj (backAt.symm.trans againAt)
      exact childEq
  earlier := by
    intro link refers
    obtain ⟨_, _, _, _, before, _⟩ :=
      store.linked_unfolding.of_mem_links ((refers_iff_mem_links finished).mp refers)
    exact before
  keyed := by
    intro link above below template reference refers aboveAt made belowAt madeBelow
    obtain ⟨entry, child, entryAt, childAt, -, -, keyEq⟩ :=
      store.linked_unfolding.of_mem_links ((refers_iff_mem_links finished).mp refers)
    obtain ⟨_, sameAt, own⟩ := entry_of_instance finished aboveAt
    obtain rfl := Option.some.inj (entryAt.symm.trans sameAt)
    obtain ⟨_, sameAt, owns⟩ := entry_of_instance finished belowAt
    obtain rfl := Option.some.inj (childAt.symm.trans sameAt)
    obtain rfl := (madeFrom_of_isOf entryAt own).unique made
    obtain rfl := (madeFrom_of_isOf childAt owns).unique madeBelow
    exact keyEq
  parented := by
    intro place it itAt below
    obtain ⟨entry, entryAt, own⟩ := entry_of_instance finished itAt
    simp only [refers_iff_mem_links finished]
    exact Store.existsUnique_link entryAt (own.kind_eq ▸ below)
  rooted := by
    rintro link it ⟨above, below, -, belowAt, kindEq, -⟩ itAt root
    obtain rfl := Option.some.inj (belowAt.symm.trans itAt)
    rw [root] at kindEq
    cases above <;> cases kindEq

end Finished

theorem isForest_of_expand_twofold :
    ∃ expansion, (Store.twofold.expand (.fresh .perKey ⟨10, 0, 0, 1⟩ ⟨10, 1, 0, 1⟩)).result =
        .ok expansion ∧
      expansion.topology.instances.map (fun it => (it.id, it.children)) =
        [("a-1", []), ("a-2", []), ("a-1", ["a-1", "a-2"]), ("b-1", ["a-1"]), ("b-1", ["b-1"]),
          ("a-3", []), ("a-4", []), ("a-2", ["a-3", "a-4"]), ("b-2", ["a-2"]), ("b-2", ["b-2"])] ∧
      (∀ link, expansion.topology.Refers link ↔
        link ∈ ([⟨2, 0, 0⟩, ⟨2, 1, 1⟩, ⟨3, 0, 2⟩, ⟨4, 0, 3⟩,
          ⟨7, 0, 5⟩, ⟨7, 1, 6⟩, ⟨8, 0, 7⟩, ⟨9, 0, 8⟩] : List Link)) ∧
      expansion.topology.IsForest Store.twofold := by
  have known : (Store.twofold.expand
      (.fresh .perKey ⟨10, 0, 0, 1⟩ ⟨10, 1, 0, 1⟩)).result.toOption.map
      (fun expansion => expansion.topology.instances.map fun it => (it.id, it.children)) =
        some [("a-1", []), ("a-2", []), ("a-1", ["a-1", "a-2"]), ("b-1", ["a-1"]),
          ("b-1", ["b-1"]), ("a-3", []), ("a-4", []), ("a-2", ["a-3", "a-4"]),
          ("b-2", ["a-2"]), ("b-2", ["b-2"])] := by
    decide +kernel
  obtain ⟨expansion, finished, listed⟩ := Run.exists_of_map_result known
  have linked : links 0 Store.twofold.unfolding =
      [⟨2, 0, 0⟩, ⟨2, 1, 1⟩, ⟨3, 0, 2⟩, ⟨4, 0, 3⟩,
        ⟨7, 0, 5⟩, ⟨7, 1, 6⟩, ⟨8, 0, 7⟩, ⟨9, 0, 8⟩] := by
    rfl
  refine ⟨expansion, finished, listed, fun link => ?_, isForest_of_expand finished⟩
  rw [refers_iff_mem_links finished, linked]

end ClusterTopology
