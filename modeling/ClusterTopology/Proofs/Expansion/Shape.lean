import Mathlib.Data.Set.Function
import ClusterTopology.Proofs.Expansion.Forest

/-!
The shape of a topology.

A store determines what its topology looks like; the state of the allocators determines
only the ids and the addresses. Two expansions of one store therefore give topologies of
the same shape (`expand_sameShape`): the same kinds and attributes stand at the same
places, with the same places as their children, and the ids of the one are renamed to
those of the other kind by kind. Ids depend on the allocators of ids alone, and
addresses on those of addresses alone.

Both topologies are compared with the unfolding of the store. `map_eq_of_twins` does so
once, for any view of the instances.
-/

namespace ClusterTopology

namespace Topology

/-- The ids of the instances of a kind. -/
def ids (topology : Topology) (kind : Kind) : Set String :=
  {id | ∃ it ∈ topology.instances, it.kind = kind ∧ it.id = id}

/-- Two topologies that differ in ids and addresses only. -/
structure SameShape (one other : Topology) : Prop where
  size_eq : one.size = other.size
  kinds_eq : one.instances.map Instance.kind = other.instances.map Instance.kind
  attributes_eq :
    one.instances.map Instance.attributes = other.instances.map Instance.attributes
  /-- The children of the instance at a place stand at the same places. -/
  refers_iff : ∀ link, one.Refers link ↔ other.Refers link
  /-- Ids are renamed kind by kind, those of the instances and those of their children. -/
  renamed : ∃ rename : Kind → String → String,
    (∀ kind, Set.BijOn (rename kind) (one.ids kind) (other.ids kind)) ∧
    ∀ (place : Nat) (it twin : Instance), one.instances[place]? = some it →
      other.instances[place]? = some twin →
      twin.id = rename it.kind it.id ∧
        twin.children = it.children.map fun child =>
          it.kind.below?.elim child fun below => rename below child

/-- Where an instance of `one` has this kind and id, the id of the instance of `other` at
the same place. -/
def counterpart (one other : Topology) (kind : Kind) (id : String) : String :=
  ((one.instances.zip other.instances).find? fun pair =>
    pair.1.kind == kind && pair.1.id == id).elim id fun pair => pair.2.id

end Topology

/-! ### What an instance has from the allocators -/

namespace Context

variable {context again : Context}

/-- Ids depend on the allocators of ids alone. -/
theorem idAt_congr (same : ∀ kind, context.ids? kind = again.ids? kind)
    (entries : List Entry) (place : Nat) :
    context.idAt entries place = again.idAt entries place := by
  simp only [idAt, numberAfter, numbering, issuedFor, issued_eq_elim, same]

/-- Addresses depend on the allocators of addresses alone. -/
theorem addressAfter?_congr
    (same : ∀ kind, context.lastAddress? kind = again.lastAddress? kind)
    (earlier : List Entry) (entry : Entry) :
    context.addressAfter? earlier entry = again.addressAfter? earlier entry := by
  simp only [addressAfter?, same]

end Context

/-- The address of an instance is the one that the closed form gives. -/
theorem Instance.address?_of_instanceAt? {context : Context} {entries : List Entry}
    {place : Nat} {entry : Entry} {it : Instance}
    (given : context.instanceAt? entries place entry = some it) :
    it.address? = context.addressAfter? (entries.take place) entry := by
  cases entry with
  | container template | pod template below =>
      obtain rfl := Option.some.inj given
      rfl
  | vnode template below | node template below =>
      obtain ⟨address, found, rfl⟩ := Option.map_eq_some_iff.mp given
      exact found.symm

/-- The attributes of an instance are those of its template, whatever it has been issued. -/
theorem Entry.attributes_congr {entry : Entry} {id id' : String}
    {address? address?' : Option Address} {children children' : List String}
    {it twin : Instance} (given : entry.instance? id address? children = some it)
    (again : entry.instance? id' address?' children' = some twin) :
    it.attributes = twin.attributes := by
  cases entry with
  | container template | pod template below =>
      obtain rfl := Option.some.inj given
      obtain rfl := Option.some.inj again
      rfl
  | vnode template below | node template below =>
      obtain ⟨_, -, rfl⟩ := Option.map_eq_some_iff.mp given
      obtain ⟨_, -, rfl⟩ := Option.map_eq_some_iff.mp again
      rfl

/-! ### Two expansions of one store -/

section Twins

variable {store : Store} {context again : Context} {first second : Expansion}

/-- Two expansions have instances of one entry at every place. -/
theorem exists_twins (finished : (store.expand context).result = .ok first)
    (refinished : (store.expand again).result = .ok second) {place : Nat} {entry : Entry}
    (entryAt : store.unfolding[place]? = some entry) :
    ∃ it twin, first.topology.instances[place]? = some it ∧
      second.topology.instances[place]? = some twin ∧
      context.instanceAt? store.unfolding place entry = some it ∧
      again.instanceAt? store.unfolding place entry = some twin := by
  have here := getElem?_instances finished place
  have there := getElem?_instances refinished place
  rw [entryAt, Option.map_some, Option.map_eq_some_iff] at here there
  obtain ⟨it, itAt, given⟩ := here
  obtain ⟨twin, twinAt, givenAgain⟩ := there
  exact ⟨it, twin, itAt, twinAt, given.symm, givenAgain.symm⟩

/-- A view that is the same for any two instances of one entry is the same for the whole
topologies. -/
theorem map_eq_of_twins {α : Type} (finished : (store.expand context).result = .ok first)
    (refinished : (store.expand again).result = .ok second) (view : Instance → α)
    (agrees : ∀ place entry it twin,
      context.instanceAt? store.unfolding place entry = some it →
      again.instanceAt? store.unfolding place entry = some twin → view it = view twin) :
    first.topology.instances.map view = second.topology.instances.map view := by
  refine List.ext_getElem? fun place => ?_
  rw [List.getElem?_map, List.getElem?_map]
  cases entryAt : store.unfolding[place]? with
  | none =>
      have here := getElem?_instances finished place
      have there := getElem?_instances refinished place
      rw [entryAt, Option.map_none, Option.map_eq_none_iff] at here there
      rw [here, there]
  | some entry =>
      obtain ⟨it, twin, itAt, twinAt, given, givenAgain⟩ :=
        exists_twins finished refinished entryAt
      rw [itAt, twinAt, Option.map_some, Option.map_some,
        agrees place entry it twin given givenAgain]

/-- The counterpart of the id of an instance is that of the instance at the same place. -/
theorem counterpart_eq (finished : (store.expand context).result = .ok first) {place : Nat}
    {it twin : Instance} (itAt : first.topology.instances[place]? = some it)
    (twinAt : second.topology.instances[place]? = some twin) :
    first.topology.counterpart second.topology it.kind it.id = twin.id := by
  have paired : (first.topology.instances.zip second.topology.instances)[place]? =
      some (it, twin) := List.getElem?_zip_eq_some.mpr ⟨itAt, twinAt⟩
  unfold Topology.counterpart
  cases found : (first.topology.instances.zip second.topology.instances).find? fun pair =>
      pair.1.kind == it.kind && pair.1.id == it.id with
  | none =>
      have missed := List.find?_eq_none.mp found _ (List.mem_of_getElem? paired)
      simp at missed
  | some pair =>
      -- Whatever pair is found, it stands at the same place: no id of a kind occurs twice.
      have matched := List.find?_some found
      rw [Bool.and_eq_true, beq_iff_eq, beq_iff_eq] at matched
      obtain ⟨other, pairAt⟩ := List.mem_iff_getElem?.mp (List.mem_of_find?_eq_some found)
      obtain ⟨oneAt, otherAt⟩ := List.getElem?_zip_eq_some.mp pairAt
      obtain rfl := place_eq_of_id_eq finished oneAt itAt matched.1 matched.2
      rw [Option.elim_some, Option.some.inj (otherAt.symm.trans twinAt)]

/-- The ids of a kind and their counterparts answer to each other one to one. -/
theorem bijOn_counterpart (finished : (store.expand context).result = .ok first)
    (refinished : (store.expand again).result = .ok second) (kind : Kind) :
    Set.BijOn (first.topology.counterpart second.topology kind) (first.topology.ids kind)
      (second.topology.ids kind) := by
  have twinOf : ∀ (place : Nat) (it : Instance), first.topology.instances[place]? = some it →
      ∃ twin, second.topology.instances[place]? = some twin ∧ twin.kind = it.kind := by
    intro place it itAt
    obtain ⟨entry, entryAt, own⟩ := entry_of_instance finished itAt
    obtain ⟨twin, twinAt, its⟩ := instance_of_entry refinished entryAt
    exact ⟨twin, twinAt, its.kind_eq.trans own.kind_eq.symm⟩
  refine ⟨?_, ?_, ?_⟩
  · rintro id ⟨it, member, rfl, rfl⟩
    obtain ⟨place, itAt⟩ := List.mem_iff_getElem?.mp member
    obtain ⟨twin, twinAt, sameKind⟩ := twinOf place it itAt
    exact ⟨twin, List.mem_of_getElem? twinAt, sameKind, (counterpart_eq finished itAt twinAt).symm⟩
  · rintro id ⟨it, member, rfl, rfl⟩ id' ⟨it', member', sameKind, rfl⟩ sameImage
    obtain ⟨place, itAt⟩ := List.mem_iff_getElem?.mp member
    obtain ⟨place', itAt'⟩ := List.mem_iff_getElem?.mp member'
    obtain ⟨twin, twinAt, twinKind⟩ := twinOf place it itAt
    obtain ⟨twin', twinAt', twinKind'⟩ := twinOf place' it' itAt'
    have image := counterpart_eq finished itAt' twinAt'
    rw [sameKind, ← sameImage, counterpart_eq finished itAt twinAt] at image
    obtain rfl := place_eq_of_id_eq refinished twinAt twinAt'
      (by rw [twinKind, twinKind', sameKind]) image
    rw [Option.some.inj (itAt.symm.trans itAt')]
  · rintro id ⟨twin, member, rfl, rfl⟩
    obtain ⟨place, twinAt⟩ := List.mem_iff_getElem?.mp member
    obtain ⟨entry, entryAt, its⟩ := entry_of_instance refinished twinAt
    obtain ⟨it, itAt, own⟩ := instance_of_entry finished entryAt
    have sameKind : it.kind = twin.kind := own.kind_eq.trans its.kind_eq.symm
    refine ⟨it.id, ⟨it, List.mem_of_getElem? itAt, sameKind, rfl⟩, ?_⟩
    rw [← sameKind, counterpart_eq finished itAt twinAt]

/-- The counterparts of the children of an instance are the children of the instance at the
same place. -/
theorem children_eq_map_counterpart (finished : (store.expand context).result = .ok first)
    (refinished : (store.expand again).result = .ok second) {place : Nat} {it twin : Instance}
    (itAt : first.topology.instances[place]? = some it)
    (twinAt : second.topology.instances[place]? = some twin) :
    twin.children = it.children.map fun child =>
      it.kind.below?.elim child fun below =>
        first.topology.counterpart second.topology below child := by
  obtain ⟨entry, entryAt, own⟩ := entry_of_instance finished itAt
  obtain ⟨_, sameAt, its⟩ := entry_of_instance refinished twinAt
  obtain rfl := Option.some.inj (entryAt.symm.trans sameAt)
  rw [own.children_eq, its.children_eq, List.map_map, own.kind_eq]
  refine List.map_congr_left fun back listed => ?_
  obtain ⟨below, belowAt, kindEq⟩ := entry_below_of_mem entryAt listed
  obtain ⟨child, childAt, childOwn⟩ := instance_of_entry finished belowAt
  obtain ⟨childTwin, childTwinAt, childIts⟩ := instance_of_entry refinished belowAt
  have renamed := counterpart_eq finished childAt childTwinAt
  rw [childOwn.kind_eq, childOwn.id_eq, childIts.id_eq] at renamed
  rw [Function.comp_apply, kindEq, Option.elim_some, renamed]

theorem map_kind_eq (finished : (store.expand context).result = .ok first)
    (refinished : (store.expand again).result = .ok second) :
    first.topology.instances.map Instance.kind = second.topology.instances.map Instance.kind := by
  refine map_eq_of_twins finished refinished _ fun place entry it twin given givenAgain => ?_
  rw [(Instance.isOf_of_instanceAt? given).kind_eq,
    (Instance.isOf_of_instanceAt? givenAgain).kind_eq]

/-- Two expansions of a store give topologies of the same shape. -/
theorem sameShape_of_expand (finished : (store.expand context).result = .ok first)
    (refinished : (store.expand again).result = .ok second) :
    first.topology.SameShape second.topology where
  size_eq := by
    have lengths := congrArg List.length (map_kind_eq finished refinished)
    rwa [List.length_map, List.length_map] at lengths
  kinds_eq := map_kind_eq finished refinished
  attributes_eq := by
    refine map_eq_of_twins finished refinished _ fun place entry it twin given givenAgain => ?_
    exact Entry.attributes_congr given givenAgain
  refers_iff := by
    intro link
    rw [refers_iff_mem_links finished, refers_iff_mem_links refinished]
  renamed := by
    refine ⟨first.topology.counterpart second.topology, bijOn_counterpart finished refinished, ?_⟩
    intro place it twin itAt twinAt
    exact ⟨(counterpart_eq finished itAt twinAt).symm,
      children_eq_map_counterpart finished refinished itAt twinAt⟩

end Twins

/-- Whatever the allocators have issued before and however they number, a store expands to
topologies of one shape, with the same nodes skipped and the same services ignored. The
addresses are the same if the allocators of addresses stand where they stood, as fresh
ones do in either numbering, and the ids are the same if those of ids do. -/
theorem expand_sameShape {store : Store} {context again : Context} {first second : Expansion}
    (finished : (store.expand context).result = .ok first)
    (refinished : (store.expand again).result = .ok second) :
    first.topology.SameShape second.topology ∧
      first.skipped = second.skipped ∧ first.ignoredServices = second.ignoredServices ∧
      ((∀ kind, context.lastAddress? kind = again.lastAddress? kind) →
        first.topology.instances.map Instance.address? =
          second.topology.instances.map Instance.address?) ∧
      ((∀ kind, context.ids? kind = again.ids? kind) →
        first.topology.instances.map Instance.id = second.topology.instances.map Instance.id ∧
        first.topology.instances.map Instance.children =
          second.topology.instances.map Instance.children) := by
  refine ⟨sameShape_of_expand finished refinished, ?_, ?_, ?_, ?_⟩
  · obtain ⟨bares, -, rfl⟩ := expand_ok finished
    obtain ⟨bares', -, rfl⟩ := expand_ok refinished
    rfl
  · obtain ⟨bares, -, rfl⟩ := expand_ok finished
    obtain ⟨bares', -, rfl⟩ := expand_ok refinished
    rfl
  · intro same
    refine map_eq_of_twins finished refinished _ fun place entry it twin given givenAgain => ?_
    rw [Instance.address?_of_instanceAt? given, Instance.address?_of_instanceAt? givenAgain,
      Context.addressAfter?_congr same]
  · intro same
    have idAt := Context.idAt_congr same store.unfolding
    constructor
    · refine map_eq_of_twins finished refinished _ fun place entry it twin given givenAgain => ?_
      rw [(Instance.isOf_of_instanceAt? given).id_eq,
        (Instance.isOf_of_instanceAt? givenAgain).id_eq, idAt]
    · refine map_eq_of_twins finished refinished _ fun place entry it twin given givenAgain => ?_
      rw [(Instance.isOf_of_instanceAt? given).children_eq,
        (Instance.isOf_of_instanceAt? givenAgain).children_eq]
      simp only [idAt]

theorem expand_sameShape_twofold :
    let context := Context.fresh .shared ⟨10, 0, 0, 253⟩ ⟨10, 1, 0, 1⟩
    let again := Context.fresh .perKey ⟨10, 0, 0, 253⟩ ⟨10, 1, 0, 1⟩
    ∃ first second, (Store.twofold.expand context).result = .ok first ∧
      (Store.twofold.expand again).result = .ok second ∧
      first.topology.SameShape second.topology ∧
      first.topology.instances.map Instance.address? =
        second.topology.instances.map Instance.address? := by
  intro context again
  obtain ⟨first, finished⟩ : ∃ expansion, (Store.twofold.expand context).result =
      .ok expansion := Run.exists_of_isOk (by decide +kernel)
  obtain ⟨second, refinished⟩ : ∃ expansion, (Store.twofold.expand again).result =
      .ok expansion := Run.exists_of_isOk (by decide +kernel)
  obtain ⟨shape, -, -, addresses, -⟩ := expand_sameShape finished refinished
  refine ⟨first, second, finished, refinished, shape, addresses fun kind => ?_⟩
  cases kind <;> rfl

end ClusterTopology
