import Mathlib.Data.List.Nodup
import ClusterTopology.Proofs.Expansion.Forest
import ClusterTopology.Proofs.Template.Sequence

/-!
Finding an instance by its id.

`Topology.find?` looks at ids alone, while ids are numbered kind by kind, so that a vnode
and a pod may have the same. An id tells the key of the template that its instance was made
from; where no key is used under two kinds it tells the kind as well, and with it the
instance (`place_eq_of_keysApart`). Then every instance is found by its own id, and nothing
is found by any other text: `find?_expand`.
-/

namespace ClusterTopology

/-! ### Keys of one kind only -/

namespace Store

/-- No text is the key of templates of two kinds. -/
def KeysApart (store : Store) : Prop :=
  ∀ key kind other, store.contains kind key = true → store.contains other key = true →
    kind = other

theorem keysApart_iff {store : Store} :
    store.KeysApart ↔ ∀ kind ∈ Kind.all, ∀ other ∈ Kind.all, ∀ key ∈ store.keys kind,
      key ∈ store.keys other → kind = other := by
  constructor
  · intro apart kind _ other _ key own shared
    exact apart key kind other (contains_iff_mem_keys.mpr own) (contains_iff_mem_keys.mpr shared)
  · intro apart key kind other own shared
    exact apart kind kind.mem_all other other.mem_all key (contains_iff_mem_keys.mp own)
      (contains_iff_mem_keys.mp shared)

instance (store : Store) : Decidable store.KeysApart := decidable_of_iff' _ keysApart_iff

/-- Where keys are apart, templates under one key are the same. -/
theorem KeysApart.template_eq {store : Store} (apart : store.KeysApart) {kind other : Kind}
    {template twin : Template} (found : store.find? kind template.key = some template)
    (again : store.find? other twin.key = some twin) (sameKey : template.key = twin.key) :
    template = twin := by
  have stored : store.contains kind template.key = true := by
    rw [contains_eq_isSome_find?, found, Option.isSome_some]
  have storedAgain : store.contains other template.key = true := by
    rw [sameKey, contains_eq_isSome_find?, again, Option.isSome_some]
  obtain rfl := apart template.key kind other stored storedAgain
  rw [← sameKey, found] at again
  exact Option.some.inj again

end Store

/-! ### Distinct ids -/

section Finished

variable {store : Store} {context : Context} {expansion : Expansion}

/-- Where keys are apart, an id tells the instance among all. -/
theorem place_eq_of_keysApart (apart : store.KeysApart)
    (finished : (store.expand context).result = .ok expansion) {place other : Nat}
    {it twin : Instance} (itAt : expansion.topology.instances[place]? = some it)
    (twinAt : expansion.topology.instances[other]? = some twin) (sameId : it.id = twin.id) :
    place = other := by
  obtain ⟨entry, entryAt, own⟩ := entry_of_instance finished itAt
  obtain ⟨twinEntry, twinEntryAt, twins⟩ := entry_of_instance finished twinAt
  have made := madeFrom_of_isOf entryAt own
  have madeTwin := madeFrom_of_isOf twinEntryAt twins
  obtain ⟨number, named⟩ := made.named
  obtain ⟨twinNumber, twinNamed⟩ := madeTwin.named
  have sameKey : entry.template.key = twinEntry.template.key :=
    (IdAllocator.idOf_injective (named.symm.trans (sameId.trans twinNamed))).1
  have sameTemplate := apart.template_eq made.found madeTwin.found sameKey
  have sameKind : it.kind = twin.kind := by
    rw [own.kind_eq, twins.kind_eq, Entry.kind, Entry.kind, sameTemplate]
  exact place_eq_of_id_eq finished itAt twinAt sameKind sameId

theorem nodup_ids (apart : store.KeysApart)
    (finished : (store.expand context).result = .ok expansion) :
    (expansion.topology.instances.map Instance.id).Nodup := by
  rw [List.nodup_iff_getElem?_ne_getElem?]
  intro place other before inside same
  rw [List.length_map] at inside
  have itAt := List.getElem?_eq_getElem (Nat.lt_trans before inside)
  have twinAt := List.getElem?_eq_getElem inside
  rw [List.getElem?_map, List.getElem?_map, itAt, twinAt] at same
  have sameId := Option.some.inj same
  exact absurd (place_eq_of_keysApart apart finished itAt twinAt sameId) (Nat.ne_of_lt before)

end Finished

/-! ### Look-ups -/

namespace Topology

variable {topology : Topology} {id : String}

/-- Where ids are distinct, what is found is the one instance that bears the id. -/
theorem find?_eq_some_iff (distinct : (topology.instances.map Instance.id).Nodup)
    {it : Instance} :
    topology.find? id = some it ↔ it ∈ topology.instances ∧ it.id = id := by
  constructor
  · intro found
    have hit := List.find?_some found
    exact ⟨List.mem_of_find?_eq_some found, beq_iff_eq.mp hit⟩
  · rintro ⟨member, rfl⟩
    cases found : topology.find? it.id with
    | none =>
        have differs := List.find?_eq_none.mp found it member
        exact absurd (beq_self_eq_true it.id) differs
    | some twin =>
        have twinMember := List.mem_of_find?_eq_some found
        have hit := List.find?_some found
        have sameId : twin.id = it.id := beq_iff_eq.mp hit
        rw [List.inj_on_of_nodup_map distinct twinMember member sameId]

/-- Nothing is found by a text that is no id. -/
theorem find?_eq_none_iff :
    topology.find? id = none ↔ id ∉ topology.instances.map Instance.id := by
  rw [find?, List.find?_eq_none, List.mem_map]
  constructor
  · rintro none ⟨it, member, borne⟩
    exact none it member (beq_iff_eq.mpr borne)
  · intro unborne it member hit
    exact unborne ⟨it, member, beq_iff_eq.mp hit⟩

end Topology

/-- Where no text is the key of templates of two kinds, the ids of an expansion are distinct
across all kinds, every instance is found by its id, and nothing is found by any other text. -/
theorem find?_expand {store : Store} {context : Context} {expansion : Expansion}
    (apart : store.KeysApart) (finished : (store.expand context).result = .ok expansion) :
    (expansion.topology.instances.map Instance.id).Nodup ∧
      (∀ it ∈ expansion.topology.instances, expansion.topology.find? it.id = some it) ∧
      ∀ id, id ∉ expansion.topology.instances.map Instance.id →
        expansion.topology.find? id = none := by
  have distinct := nodup_ids apart finished
  refine ⟨distinct, ?_, ?_⟩
  · intro it member
    exact (Topology.find?_eq_some_iff distinct).mpr ⟨member, rfl⟩
  · intro id unborne
    exact Topology.find?_eq_none_iff.mpr unborne

/-- Keys that look like ids of one another: a container `a` beside a pod `a-1`. -/
def Store.dashed : Store :=
  let one := Number.integer 1
  let templates := [
    Template.container ⟨"a", ⟨one, one, one⟩, ⟨one, one, one⟩, ⟨one, one⟩⟩,
    Template.pod ⟨"a-1", ["a", "a"]⟩,
    Template.vnode ⟨"1", one, one, ["a-1"]⟩,
    Template.node ⟨"", one, one, ["1"], 1⟩]
  templates.foldl Store.insert .empty

theorem find?_expand_dashed :
    let context := Context.fresh .perKey ⟨10, 0, 0, 1⟩ ⟨10, 1, 0, 1⟩
    ∃ expansion, (Store.dashed.expand context).result = .ok expansion ∧
      Store.dashed.KeysApart ∧
      expansion.topology.instances.map Instance.id = ["a-1", "a-2", "a-1-1", "1-1", "-1"] ∧
      (expansion.topology.instances.map Instance.id).Nodup ∧
      (∀ it ∈ expansion.topology.instances, expansion.topology.find? it.id = some it) ∧
      expansion.topology.find? "a" = none := by
  intro context
  have apart : Store.dashed.KeysApart := by decide +kernel
  have known : (Store.dashed.expand context).result.toOption.map
      (fun expansion => expansion.topology.instances.map Instance.id) =
        some ["a-1", "a-2", "a-1-1", "1-1", "-1"] := by
    decide +kernel
  obtain ⟨expansion, finished, ids⟩ := Run.exists_of_map_result known
  have unborne : "a" ∉ expansion.topology.instances.map Instance.id := by
    rw [ids]
    decide
  obtain ⟨distinct, found, absent⟩ := find?_expand apart finished
  exact ⟨expansion, finished, apart, ids, distinct, found, absent "a" unborne⟩

end ClusterTopology
